/-
# The conversation a turn reports

A turn keeps the session id of the one result it takes, if the session accepts it, and
reports it when it completes.  Nothing else a turn takes can name a conversation, so
what a completed turn reports and what its result reports are the same thing: an id that
the session rejects is never reported, and one that it accepts always is.

The invariant follows the id through the suspensions of a turn.  Only the path to
COMPLETE matters, and every other way a turn can end is closed to it by what
`Completion` has proved.
-/

import HermesClaude.Session.Completion

namespace HermesClaude.Session

open HermesClaude.Python HermesClaude.Billing HermesClaude.Content HermesClaude.Library
open SDKSession (observeEvidence blocksAtOnce)

/-- A turn that completed reports the conversation that a result it took reports. -/
def Ending.Reports (ending : Ending) (taken : List Item) : Prop :=
  ∀ result, ending = .returned result → result.outcome = .complete →
    ∃ position message, .message position message ∈ taken ∧ isResult message = true ∧
      result.externalSessionId = reportedSessionId message

/-- What a suspended turn has kept of the conversation so far. -/
def Names (taken : List Item) : TurnPc → Prop
  | .receiving locals | .boundary locals _ _ _ | .projecting locals _ =>
    locals.externalSessionId = none
  | .resultBilling locals _ message _ _ | .resultProjecting locals message _ _
  | .resultSettling locals message _ => locals.externalSessionId = reportedSessionId message
  | .retiring ending => ending.Reports taken
  | .connecting | .querying | .blocking _ _ | .cleanup | .interrupting _ | .closing _ _ => True

/-- Every turn that is over reports what it took. -/
abbrev AllReport (s : SDKSession) : Prop := ∀ f ∈ s.finished, f.ending.Reports f.inbox.taken

/-- The invariant: the turns that are over, and the suspended one. -/
structure Named (s : SDKSession) : Prop where
  finished : AllReport s
  turn : ∀ pc, s.turn = some pc → Names s.inbox.taken pc

section Preservation

variable {C : SessionContext} {s t : SDKSession} {taken : List Item}

theorem Ending.reports_of_not_completes {ending : Ending} (h : ¬ ending.Completes) :
    ending.Reports taken := by
  intro result hending hcomplete
  exact absurd ⟨result, hending, hcomplete⟩ h

/-- Keeping the id of a message on top of nothing leaves the id the message reports. -/
theorem withSessionId_externalSessionId {locals : Locals} (h : locals.externalSessionId = none)
    (message : PyValue) :
    (SDKSession.withSessionId locals message).externalSessionId = reportedSessionId message := by
  unfold SDKSession.withSessionId
  split
  next id hid => exact hid.symm
  next hid => exact h.trans hid.symm

theorem observeEvidence_externalSessionId (locals : Locals) (message : PyValue) :
    (observeEvidence C locals message).externalSessionId = locals.externalSessionId := by
  unfold observeEvidence
  split <;> rfl

/-! ## Where a turn goes -/

/-- A turn that is suspended where its names are right. -/
theorem Named.suspend (h : AllReport s) {pc : TurnPc} (hpc : Names s.inbox.taken pc) :
    Named { s with turn := some pc } where
  finished := h
  turn := by
    intro pc' hpc'
    cases hpc'
    exact hpc

theorem Named.leave (h : AllReport s) {ending : Ending} (hending : ending.Reports s.inbox.taken) :
    Named (s.leave ending) where
  finished := by
    intro f hf
    rcases List.mem_append.mp hf with hold | hnew
    · exact h f hold
    · rw [List.mem_singleton] at hnew
      subst hnew
      exact hending
  turn := by
    intro pc hpc
    cases hpc

theorem Named.retire (h : AllReport s) {ending : Ending} (hending : ending.Reports s.inbox.taken) :
    Named (s.retire ending) where
  finished := h
  turn := by
    intro pc hpc
    cases hpc
    exact hending

theorem AllReport.closing (h : AllReport s) (hclosing : SDKSession.Closing s t) : AllReport t := by
  unfold AllReport
  rw [hclosing.rest]
  exact h

/-- A turn that tears its client down names nothing any more. -/
theorem Named.tornDown (h : AllReport s) (after : After) (harmless : after.Harmless)
    (ht : SDKSession.TornDown s after t) : Named t := by
  cases ht with
  | suspended hclosing htearing =>
    apply Named.suspend (h.closing hclosing)
    cases htearing <;> trivial
  | @resumed u hclosing =>
    have hu : AllReport u := h.closing hclosing
    cases after with
    | leave result =>
      exact .leave hu (Ending.reports_of_not_completes (not_completes_returned harmless))
    | startFailed cancelled =>
      cases cancelled
      · exact .leave hu (Ending.reports_of_not_completes (not_completes_returned (by decide)))
      · exact .leave hu (Ending.reports_of_not_completes not_completes_raised)
    | finish result | handled result =>
      exact .retire hu (Ending.reports_of_not_completes (not_completes_returned harmless))
    | reraise => exact .retire hu (Ending.reports_of_not_completes not_completes_raised)

theorem Named.failTurn (h : AllReport s) (locals : Locals) : Named (s.failTurn locals) := by
  apply Named.tornDown h (.handled (SDKSession.failedWith locals "sdk_turn_failed"))
  · intro houtcome
    cases houtcome
  · exact SDKSession.interruptThenClose_tornDown s _

theorem Named.finishWith (h : AllReport s) {result : SessionTurnResult}
    (hresult : result.outcome ≠ .complete) : Named (s.interruptThenClose (.finish result)) :=
  .tornDown h (.finish result) hresult (SDKSession.interruptThenClose_tornDown s _)

theorem Named.cancelTurn (h : AllReport s) : Named s.cancelTurn := by
  unfold SDKSession.cancelTurn
  dsimp only
  split_ifs
  · exact .suspend (s := { s with compaction := s.compaction.abandon }) h trivial
  · exact .suspend h trivial

theorem Named.publish (h : AllReport s) : Named s.publish := by
  unfold SDKSession.publish
  split_ifs
  · exact .leave h (Ending.reports_of_not_completes (not_completes_returned (by decide)))
  · dsimp only
    split_ifs
    · apply Named.leave (s := { s with
        activeInbox := some s.turnId
        turnTerminalSeen := false
        streamToolIndexes := [] }) h
      intro result hending
      cases hending
    · exact .suspend (s := { s with
        activeInbox := some s.turnId
        turnTerminalSeen := false
        streamToolIndexes := []
        compaction := s.compaction.bind s.turnId
        queries := s.queries ++ [⟨s.turnId, s.reader⟩] }) h trivial
    · apply Named.tornDown (s := { s with
        activeInbox := some s.turnId
        turnTerminalSeen := false
        streamToolIndexes := []
        compaction := s.compaction.bind s.turnId }) h
        (.handled { outcome := .failed, errorCode := some "sdk_turn_failed" })
      · intro houtcome
        cases houtcome
      · exact SDKSession.interruptThenClose_tornDown _ _

theorem Named.enter (h : AllReport s) (constructs : Bool) : Named (s.enter constructs) := by
  have htorn : ∀ {u : SDKSession} {result : SessionTurnResult}, AllReport u →
      result.outcome ≠ .complete → Named (u.interruptThenClose (.leave result)) := by
    intro u result hu hresult
    exact .tornDown hu (.leave result) hresult (SDKSession.interruptThenClose_tornDown u _)
  have hfails : ∀ {u : SDKSession} {result : SessionTurnResult}, AllReport u →
      result.outcome ≠ .complete → Named (u.leave (.returned result)) := by
    intro u result hu hresult
    exact .leave hu (Ending.reports_of_not_completes (not_completes_returned hresult))
  unfold SDKSession.enter
  dsimp only
  split_ifs
  · exact hfails (u := { s with turnId := s.turnId + 1, inbox := Channel.empty }) h (by decide)
  · apply htorn
    · exact h
    · decide
  · apply htorn
    · exact h
    · decide
  · exact .publish (s := { s with turnId := s.turnId + 1, inbox := Channel.empty }) h
  · exact hfails (u := { s with turnId := s.turnId + 1, inbox := Channel.empty }) h (by decide)
  · exact .suspend (s := { s with
      turnId := s.turnId + 1, inbox := Channel.empty, client := true }) h trivial

/-! ## The loop -/

theorem Named.dispatch (h : AllReport s) {locals : Locals} (hlocals : locals.externalSessionId = none)
    (position : Nat) (message : PyValue) (projection : Projection) :
    Named (s.dispatch C locals position message projection) := by
  have hseen : (observeEvidence C locals message).externalSessionId = none :=
    (observeEvidence_externalSessionId locals message).trans hlocals
  unfold SDKSession.dispatch
  dsimp only
  split_ifs
  · exact .suspend h trivial
  · cases projection with
    | raises => exact .failTurn (s := s.project position) h _
    | projects finalText => exact .suspend (s := s.project position) h hseen
  · exact .suspend h (withSessionId_externalSessionId hseen message)

theorem Named.handleItem (h : AllReport s) {locals : Locals}
    (hlocals : locals.externalSessionId = none) (item : Item) (projection : Projection) :
    Named (s.handleItem C locals item projection) := by
  have hretires : ∀ result : SessionTurnResult, result.outcome ≠ .complete →
      Named (s.retire (.returned result)) := fun result hresult =>
    .retire h (Ending.reports_of_not_completes (not_completes_returned hresult))
  unfold SDKSession.handleItem
  split_ifs
  · exact hretires _ (by decide)
  · cases item with
    | cancelled => exact hretires _ (by decide)
    | streamEnded failed => exact hretires _ (by rintro ⟨⟩)
    | nativeToolViolation | postTerminalOutput => exact .finishWith h (by rintro ⟨⟩)
    | compactionWatchdogExpired => exact .finishWith h (by decide)
    | message position message =>
      dsimp only
      split_ifs
      · exact .suspend h hlocals
      · exact .dispatch h hlocals position message projection

/-- Settling completes a turn with the id of the result it has taken. -/
theorem Named.settle (h : AllReport s) {locals : Locals} {position : Nat} {message : PyValue}
    {decision : BillingDecision} (hlocals : locals.externalSessionId = reportedSessionId message)
    (htaken : .message position message ∈ s.inbox.taken) (hresult : isResult message = true) :
    Named (s.settle locals message decision) := by
  unfold SDKSession.settle
  dsimp only
  generalize (SDKSession.trailing s.inbox.queue).1 = n
  have hdrained : .message position message ∈ (s.inbox.drain n).taken := by
    rw [Channel.taken_drain]
    exact List.mem_append_left _ htaken
  have hreports : ∀ result : SessionTurnResult,
      result.externalSessionId = locals.externalSessionId →
      (Ending.returned result).Reports (s.inbox.drain n).taken := by
    intro result hid other hother _
    cases hother
    exact ⟨position, message, hdrained, hresult, hid.trans hlocals⟩
  split
  · exact .finishWith (s := { s with inbox := s.inbox.drain n }) h (by rintro ⟨⟩)
  · exact .finishWith (s := { s with inbox := s.inbox.drain n }) h (by rintro ⟨⟩)
  · unfold SDKSession.concludeResult
    dsimp only
    split
    · exact .failTurn (s := { s with inbox := s.inbox.drain n }) h _
    · exact .retire (s := { s with inbox := s.inbox.drain n }) h (hreports _ rfl)
    · split <;> exact .retire (s := { s with inbox := s.inbox.drain n }) h (hreports _ rfl)

/-! ## Steps -/

theorem Named.withCompaction (h : Named s) (c : Lifecycle) : Named { s with compaction := c } :=
  ⟨h.finished, h.turn⟩

theorem Named.cancelTeardown (h : Named s) (after : After) : Named (s.cancelTeardown after) := by
  obtain ⟨c, heq⟩ := SDKSession.cancelTeardown_eq s after
  have hraised : Ending.raisedCancelled.Reports s.inbox.taken :=
    Ending.reports_of_not_completes not_completes_raised
  rw [heq]
  cases after with
  | leave | startFailed => exact .leave (s := { s with compaction := c }) h.finished hraised
  | finish => exact .suspend (s := { s with compaction := c }) h.finished trivial
  | handled => exact .retire (s := { s with compaction := c }) h.finished hraised
  | reraise => exact h.withCompaction c

/-- The result that a turn past its billing decision has taken. -/
theorem taken_of_pastResult {turnId : Nat} {projected : List ProjectedMessage}
    {evidence : Option SDKBillingEvidence} {message : PyValue} {decision : BillingDecision}
    (h : PastResult C taken turnId projected evidence message decision) :
    ∃ position, .message position message ∈ taken ∧ isResult message = true := by
  obtain ⟨position, hat, -⟩ := h.result
  obtain ⟨seen, htaken, -⟩ := hat.taken
  refine ⟨position, ?_, hat.result⟩
  rw [htaken]
  exact List.mem_append_right _ (List.mem_singleton_self _)

theorem Named.loopMove (h : Named s) (hsound : Sound C s) {pc : TurnPc} (hturn : s.turn = some pc)
    (hmove : SDKSession.LoopMove C s pc t) : Named t := by
  have hnames := h.turn pc hturn
  have hprogress := hsound.progress pc hturn
  cases hmove with
  | cancels => exact .cancelTurn h.finished
  | fails => exact .failTurn h.finished _
  | expires => exact .finishWith h.finished (by rintro ⟨⟩)
  | queries => exact .suspend h.finished rfl
  | waits => exact h
  | @takes locals projection item inbox =>
    exact .handleItem (s := { s with inbox := inbox }) h.finished hnames item projection
  | resumes hresumed =>
    obtain ⟨c, rfl | rfl⟩ := SDKSession.resumeBoundary_eq_some hresumed
    · exact h.withCompaction c
    · exact .dispatch (s := { s with compaction := c }) h.finished hnames _ _ _
  | blocks => exact .finishWith h.finished (by rintro ⟨⟩)
  | projects => exact .suspend h.finished hnames
  | @refuses locals _ _ decision =>
    apply Named.tornDown h.finished (.finish (SDKSession.billingBlockedWith locals decision))
    · rintro ⟨⟩
    · exact SDKSession.enterClose_tornDown s _
  | @raises _ position => exact .failTurn (s := s.project position) h.finished _
  | @admits _ position => exact .suspend (s := s.project position) h.finished hnames
  | collects => exact .suspend h.finished hnames
  | settles =>
    obtain ⟨position, htaken, hresult⟩ := taken_of_pastResult hprogress
    exact .settle h.finished hnames htaken hresult
  | cleans =>
    unfold SDKSession.startCleanup
    split_ifs
    · exact .retire h.finished (Ending.reports_of_not_completes not_completes_raised)
    · exact .tornDown (s := SDKSession.put { s with cancelRequested := true } .cancelled)
        h.finished .reraise trivial (SDKSession.interruptThenClose_tornDown _ _)

theorem Named.turnStep (h : Named s) (hsound : Sound C s) {pc : TurnPc} {resume : Resume}
    (hturn : s.turn = some pc) (hstep : s.turnStep C pc resume = some t) : Named t := by
  have hnames := h.turn pc hturn
  have hprogress := hsound.progress pc hturn
  rcases SDKSession.turnPc_cases pc with rfl | hpc | ⟨after, hpc⟩ | ⟨ending, rfl⟩
  · have hcloses (cancelled : Bool) : Named (s.enterClose (.startFailed cancelled)) :=
      .tornDown h.finished (.startFailed cancelled) trivial (SDKSession.enterClose_tornDown s _)
    cases resume <;> cases hstep
    · exact .publish (s := { s with reader := .created, readerTask := true }) h.finished
    · exact hcloses false
    · exact hcloses false
    · exact hcloses true
  · exact h.loopMove hsound hturn (SDKSession.loopMove_of_turnStep hpc hstep)
  · have houtcome := (SDKSession.turnStep_outcome hturn hstep).of_tearingDown hpc
    cases hpc
    all_goals
      rcases houtcome with htorn | rfl
      · exact .tornDown h.finished after hprogress htorn
      · exact h.cancelTeardown after
  · obtain ⟨c, rfl | rfl | rfl⟩ := SDKSession.turnStep_of_retiring hstep
    · exact h.withCompaction c
    · exact .leave (s := { s with compaction := c }) h.finished hnames
    · exact .leave (s := { s with compaction := c }) h.finished
        (Ending.reports_of_not_completes not_completes_raised)

/-- Other tasks disturb nothing that a turn has kept. -/
theorem Named.ambient (h : Named s) (ha : SDKSession.Ambient s t) : Named t where
  finished := by
    unfold AllReport
    rw [ha.finished]
    exact h.finished
  turn := by
    rw [ha.turn, ha.taken]
    exact h.turn

theorem Named.next (h : Named s) (hsound : Sound C s) {label : Label}
    (hnext : s.next C label = some t) : Named t := by
  cases label with
  | runTurn prompt constructs =>
    simp only [SDKSession.next] at hnext
    split_ifs at hnext <;> cases hnext
    · exact h
    · exact .enter h.finished constructs
  | turn resume =>
    simp only [SDKSession.next] at hnext
    split at hnext
    next => cases hnext
    next pc hturn => exact h.turnStep hsound hturn hnext
  | readerStart | receive | streamEnd | readerCancelled | cancel | close | closer | preCompact
  | compaction | hookCancelled | watchdog =>
    exact h.ambient (SDKSession.next_ambient hnext trivial)

theorem named_of_reachable (h : (sessionSystem C).Reachable s) : Named s := by
  apply System.Reachable.invariant (S := sessionSystem C) _ _ h
  · constructor
    · intro f hf
      cases hf
    · intro pc hpc
      cases hpc
  · intro u v label hu hnamed hnext
    exact hnamed.next (sound_of_reachable hu) hnext

end Preservation

/-- **The conversation of a completed turn.** A turn that returned COMPLETE had taken one
result, and reports exactly what that result reports: its session id, if the session
accepts it, and nothing otherwise. -/
theorem completed_reports_result {C : SessionContext} {s : SDKSession}
    (hs : (sessionSystem C).Reachable s) {f : Finished} (hf : f ∈ s.finished)
    {result : SessionTurnResult} (hreturned : f.ending = .returned result)
    (hcomplete : result.outcome = .complete) : ∃ position message,
      (messages f.inbox.taken).filter (fun entry => isResult entry.2) = [(position, message)] ∧
      result.externalSessionId = reportedSessionId message := by
  obtain ⟨position, message, honly, -⟩ :=
    ((sound_of_reachable hs).history.completed f hf ⟨result, hreturned, hcomplete⟩).result
  refine ⟨position, message, honly, ?_⟩
  obtain ⟨other, named, htaken, hresult, hid⟩ :=
    (named_of_reachable hs).finished f hf result hreturned hcomplete
  have hmem : (other, named) ∈ (messages f.inbox.taken).filter fun entry => isResult entry.2 :=
    List.mem_filter.mpr ⟨mem_messages.mpr htaken, hresult⟩
  rw [honly, List.mem_singleton] at hmem
  cases hmem
  exact hid

end HermesClaude.Session
