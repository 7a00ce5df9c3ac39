/-
# What a completed turn proves

A turn completes only through the one path that takes a result message, is allowed
by the billing gate, projects the result, drains the inbox without finding a
violation and finds the result neither failed nor aborted.  The invariant below
says at each suspension how much of that path lies behind the turn, and keeps what
it proved in the history of the session.

The billing half is phrased over what the turn was delivered, so that it can be
read without the turn: a projected result was cleared by the evidence of the
messages delivered before it.
-/

import HermesClaude.Session.Refinement

namespace HermesClaude.Session

open HermesClaude.Python HermesClaude.Billing HermesClaude.Content HermesClaude.Library
open SDKSession (observeEvidence blocksAtOnce)

/-- A result message carries no billing evidence. -/
theorem extract_of_isResult {U : UnicodeDatabase} {message : PyValue}
    (h : isResult message = true) : extractSdkBillingEvidence U message = none := by
  rw [isResult, beq_iff_eq] at h
  obtain ⟨attrs, rfl⟩ := PyValue.exists_object_of_typeName h (by decide)
  have hkind : eventKind U (.object "ResultMessage" attrs) = lit "resultmessage" := by
    have hplain : (((lit "ResultMessage").map fun c =>
        if c = (0x2D : CodePoint) then 0x5F else c).filter fun c => c ≠ (0x20 : CodePoint)) =
        lit "ResultMessage" := by decide
    have hascii : (lit "ResultMessage").all (fun c => decide (c.val < 128)) = true := by decide
    simp only [eventKind, PyValue.mapping?, PyValue.typeName_object, normalizeKind]
    rw [hplain, U.lower_ascii _ (by simpa using hascii)]
    decide
  have hsystem : lit "resultmessage" ∉
      [lit "systemmessage", lit "system_message", lit "system"] := by decide
  have hlimit : lit "resultmessage" ∉
      [lit "ratelimitevent", lit "rate_limit_event", lit "rate_limit"] := by decide
  simp [extractSdkBillingEvidence, hkind, hasAnyKey, PyValue.mapping?, hsystem, hlimit]

/-! ## Evidence of delivered messages -/

section Evidence

variable (C : SessionContext)

/-- The billing updates of some messages. -/
def updatesOf (entries : List (Nat × PyValue)) : List SDKBillingEvidence :=
  entries.filterMap fun entry => extractSdkBillingEvidence C.unicode entry.2

/-- No prefix of the updates makes the gate block at once. -/
def NeverBlocks (updates : List SDKBillingEvidence) : Prop :=
  ∀ seen, seen <+: updates → (classifySdkBilling C.unicode (mergedEvidence seen)).immediate = false

/-- The billing gate lets a turn that was delivered these messages pass. -/
structure Cleared (entries : List (Nat × PyValue)) : Prop where
  unblocked : NeverBlocks C (updatesOf C entries)
  allowed : (classifySdkBilling C.unicode (mergedEvidence (updatesOf C entries))).allowed = true

/-- What a turn has taken before its result: ordinary messages, merged into its
evidence, none of which blocked it. -/
structure Gathered (items : List Item) (evidence : Option SDKBillingEvidence) : Prop where
  ordinary : ∀ item ∈ items,
    ∃ position message, item = .message position message ∧ isResult message = false
  evidence : evidence = mergedEvidence (updatesOf C (messages items))
  unblocked : NeverBlocks C (updatesOf C (messages items))

variable {C}

@[simp]
theorem updatesOf_append (first second : List (Nat × PyValue)) :
    updatesOf C (first ++ second) = updatesOf C first ++ updatesOf C second := by
  simp [updatesOf]

theorem Gathered.nil : Gathered C [] none where
  ordinary := by simp
  evidence := rfl
  unblocked := by
    intro seen hseen
    rw [List.prefix_nil.mp hseen]
    rfl

/-- One more message keeps the evidence merged, unless it blocks. -/
theorem Gathered.observe {items : List Item} {locals : Locals} (position : Nat)
    {message : PyValue} (h : Gathered C items locals.evidence) (hresult : isResult message = false)
    (hblocks : blocksAtOnce C locals message = false) :
    Gathered C (items ++ [.message position message])
      (observeEvidence C locals message).evidence := by
  have hordinary : ∀ item ∈ items ++ [.message position message],
      ∃ position message, item = .message position message ∧ isResult message = false := by
    intro item hitem
    rcases List.mem_append.mp hitem with hold | hnew
    · exact h.ordinary item hold
    · exact ⟨position, message, List.mem_singleton.mp hnew, hresult⟩
  cases hupdate : extractSdkBillingEvidence C.unicode message with
  | none =>
    have hsame : updatesOf C (messages (items ++ [.message position message])) =
        updatesOf C (messages items) := by simp [updatesOf, hupdate]
    refine ⟨hordinary, ?_, ?_⟩
    · rw [hsame, ← h.evidence, observeEvidence, hupdate]
    · rw [hsame]
      exact h.unblocked
  | some update =>
    have hmore : updatesOf C (messages (items ++ [.message position message])) =
        updatesOf C (messages items) ++ [update] := by simp [updatesOf, hupdate]
    have hevidence : (observeEvidence C locals message).evidence =
        mergedEvidence (updatesOf C (messages items) ++ [update]) := by
      rw [mergedEvidence_append_singleton, ← h.evidence, observeEvidence, hupdate]
    refine ⟨hordinary, ?_, ?_⟩
    · rw [hmore, hevidence]
    · intro seen hseen
      rw [hmore] at hseen
      rcases List.prefix_concat_iff.mp hseen with rfl | hearlier
      · rw [← hevidence]
        simpa [blocksAtOnce, hupdate] using hblocks
      · exact h.unblocked seen hearlier

/-- A result adds nothing to the evidence and never blocks at once. -/
theorem observeEvidence_of_isResult {locals : Locals} {message : PyValue}
    (h : isResult message = true) : observeEvidence C locals message = locals := by
  rw [observeEvidence, extract_of_isResult h]

theorem blocksAtOnce_of_isResult {locals : Locals} {message : PyValue}
    (h : isResult message = true) : blocksAtOnce C locals message = false := by
  simp [blocksAtOnce, extract_of_isResult h]

end Evidence

/-! ## The invariant -/

/-- Whether a turn ended with COMPLETE. -/
def Ending.Completes (ending : Ending) : Prop :=
  ∃ result, ending = .returned result ∧ result.outcome = .complete

/-- The continuations of a teardown never complete a turn. -/
def After.Harmless : After → Prop
  | .leave result | .finish result | .handled result => result.outcome ≠ .complete
  | .startFailed _ | .reraise => True

/-- What a completed turn proves, seen from a later state. -/
structure Completed (C : SessionContext) (stream : List Reception) (active : Option Nat)
    (projected : List ProjectedMessage) (f : Finished) : Prop where
  /-- Exactly one result was taken; it was projected, and it neither failed nor was
  aborted. -/
  result : ∃ position message,
    (messages f.inbox.taken).filter (fun entry => isResult entry.2) = [(position, message)] ∧
    message.safeAttr "is_error" ≠ .bool true ∧
    (message.safeAttr "terminal_reason").memTexts
      [lit "aborted_streaming", lit "aborted_tools"] = some false ∧
    ⟨f.turn, position⟩ ∈ projected ∧ (position, message) ∈ deliveredTo f.turn stream
  allowed : (classifySdkBilling C.unicode
    (mergedEvidence (updatesOf C (messages f.inbox.taken)))).allowed = true
  clean : ∀ item ∈ f.inbox.sent, item.isViolation = false
  undisturbed : ∀ r ∈ stream, r.inbox = some f.turn → r.fate.marker = none
  released : active ≠ some f.turn

/-- A turn that has taken its result. -/
structure AtResult (C : SessionContext) (taken : List Item) (evidence : Option SDKBillingEvidence)
    (position : Nat) (message : PyValue) (decision : BillingDecision) : Prop where
  taken : ∃ seen, taken = seen ++ [.message position message] ∧ Gathered C seen evidence
  result : isResult message = true
  decision : decision = classifySdkBilling C.unicode evidence

/-- A turn that has projected its result. -/
structure PastResult (C : SessionContext) (taken : List Item) (turnId : Nat)
    (projected : List ProjectedMessage) (evidence : Option SDKBillingEvidence) (message : PyValue)
    (decision : BillingDecision) : Prop where
  result : ∃ position, AtResult C taken evidence position message decision ∧
    ⟨turnId, position⟩ ∈ projected
  allowed : decision.allowed = true

/-- How much of the way to COMPLETE lies behind a suspended turn. -/
def Progress (C : SessionContext) (s : SDKSession) : TurnPc → Prop
  | .connecting | .querying => s.inbox.taken = []
  | .receiving locals => Gathered C s.inbox.taken locals.evidence
  | .boundary locals position message _ =>
    ∃ seen, s.inbox.taken = seen ++ [.message position message] ∧ Gathered C seen locals.evidence
  | .blocking _ _ | .cleanup => True
  | .projecting locals _ => Gathered C s.inbox.taken locals.evidence
  | .resultBilling locals position message decision _ =>
    AtResult C s.inbox.taken locals.evidence position message decision
  | .resultProjecting locals message decision _ | .resultSettling locals message decision =>
    PastResult C s.inbox.taken s.turnId s.projected locals.evidence message decision
  | .interrupting after | .closing _ after => after.Harmless
  | .retiring ending => ending.Completes →
    Completed C s.stream s.activeInbox s.projected ⟨s.turnId, ending, s.inbox⟩

/-- What the history of a session proves. -/
structure HistoryOf (C : SessionContext) (stream : List Reception) (active : Option Nat)
    (turnId : Nat) (projected : List ProjectedMessage) (finished : List Finished) : Prop where
  older : ∀ f ∈ finished, f.turn ≤ turnId
  completed : ∀ f ∈ finished, f.ending.Completes → Completed C stream active projected f
  /-- A projected result was cleared by what was delivered before it. -/
  cleared : ∀ x ∈ projected, ∀ message,
    (x.position, message) ∈ deliveredTo x.turn stream → isResult message = true →
      Cleared C ((deliveredTo x.turn stream).filter fun entry => entry.1 < x.position)

/-- The history of a session. -/
abbrev History (C : SessionContext) (s : SDKSession) : Prop :=
  HistoryOf C s.stream s.activeInbox s.turnId s.projected s.finished

/-- The running turn has not finished before. -/
abbrev Unfinished (s : SDKSession) : Prop := ∀ f ∈ s.finished, f.turn ≠ s.turnId

/-- The invariant: the history, and the suspended turn. -/
structure Sound (C : SessionContext) (s : SDKSession) : Prop where
  history : History C s
  progress : ∀ pc, s.turn = some pc → Progress C s pc
  unfinished : s.turn.isSome → Unfinished s

/-! ## What other tasks do -/

section Preservation

variable {C : SessionContext} {s t : SDKSession}

theorem Completed.record {stream : List Reception} {active : Option Nat}
    {projected : List ProjectedMessage} {f : Finished} (h : Completed C stream active projected f)
    (message : PyValue) (fate : Fate) (entered : Nat) :
    Completed C (stream ++ [⟨message, active, fate, entered⟩]) active projected f where
  result := by
    obtain ⟨position, result, hresult, herror, hreason, hprojected, hdelivered⟩ := h.result
    refine ⟨position, result, hresult, herror, hreason, hprojected, ?_⟩
    rw [deliveredTo_append_singleton]
    exact List.mem_append_left _ hdelivered
  allowed := h.allowed
  clean := h.clean
  undisturbed := by
    intro r hr hinbox
    rcases List.mem_append.mp hr with hold | hnew
    · exact h.undisturbed r hold hinbox
    · rw [List.mem_singleton] at hnew
      subst hnew
      exact absurd hinbox h.released
  released := h.released

/-- Further receptions leave the history alone. -/
theorem HistoryOf.record {stream : List Reception} {active : Option Nat} {turnId : Nat}
    {projected : List ProjectedMessage} {finished : List Finished}
    (h : HistoryOf C stream active turnId projected finished)
    (howned : ∀ x ∈ projected, x.position < stream.length)
    (message : PyValue) (fate : Fate) (entered : Nat) :
    HistoryOf C (stream ++ [⟨message, active, fate, entered⟩]) active turnId projected finished where
  older := h.older
  completed := fun f hf hcompletes => (h.completed f hf hcompletes).record message fate entered
  cleared := by
    intro x hx m hmem hresult
    have hlater : ∀ entry ∈ (deliveryOf x.turn
        (⟨message, active, fate, entered⟩, stream.length)).toList, ¬ entry.1 ≤ x.position := by
      intro entry hentry
      simp only [deliveryOf, Option.mem_toList] at hentry
      split_ifs at hentry
      cases hentry
      exact Nat.not_le.mpr (howned x hx)
    rw [deliveredTo_append_singleton] at hmem ⊢
    have hold : (x.position, m) ∈ deliveredTo x.turn stream :=
      (List.mem_append.mp hmem).resolve_right fun hnew => hlater _ hnew le_rfl
    have hnone : (deliveryOf x.turn
        (⟨message, active, fate, entered⟩, stream.length)).toList.filter
          (fun entry => entry.1 < x.position) = [] := by
      rw [List.filter_eq_nil_iff]
      intro entry hentry
      have := hlater entry hentry
      simp only [decide_eq_true_eq]
      omega
    rw [List.filter_append, hnone, List.append_nil]
    exact h.cleared x hx m hold hresult

theorem History.ambient (h : History C s) (hm : s.mailbox.Consistent) (ha : SDKSession.Ambient s t) :
    History C t := by
  have howned : ∀ x ∈ s.projected, x.position < s.stream.length :=
    fun x hx => (hm.owned x hx).2.lt_length
  unfold History
  rw [ha.activeInbox, ha.turnId, ha.projected, ha.finished]
  rcases ha.stream with hsame | ⟨message, fate, hmore⟩
  · rw [hsame]
    exact h
  · rw [hmore]
    exact HistoryOf.record h howned message fate s.turnId

/-- Other tasks disturb neither the history nor the progress of a turn. -/
theorem Sound.ambient (h : Sound C s) (hm : s.mailbox.Consistent) (ha : SDKSession.Ambient s t) :
    Sound C t where
  history := h.history.ambient hm ha
  progress := by
    intro pc hpc
    rw [ha.turn] at hpc
    have hprogress := h.progress pc hpc
    cases pc with
    | retiring ending =>
      intro hcompletes
      have hcompleted := hprogress hcompletes
      simp only [ha.activeInbox, ha.turnId, ha.projected]
      have hrecorded : Completed C t.stream s.activeInbox s.projected
          ⟨s.turnId, ending, s.inbox⟩ := by
        rcases ha.stream with hsame | ⟨message, fate, hmore⟩
        · rw [hsame]
          exact hcompleted
        · rw [hmore]
          exact hcompleted.record message fate s.turnId
      exact { hrecorded with
        result := by
          rw [ha.taken]
          exact hrecorded.result
        allowed := by
          rw [ha.taken]
          exact hrecorded.allowed
        clean := by
          intro item hitem
          rcases ha.sent item hitem with hold | hclean | hactive
          · exact hrecorded.clean item hold
          · exact hclean
          · exact absurd hactive hrecorded.released }
    | connecting | querying | receiving | boundary | projecting | resultBilling
    | resultProjecting | resultSettling =>
      simp only [Progress, ha.taken, ha.turnId, ha.projected] at hprogress ⊢
      exact hprogress
    | blocking | cleanup | interrupting | closing => exact hprogress
  unfinished := by
    rw [ha.turn]
    unfold Unfinished
    rw [ha.turnId, ha.finished]
    exact h.unfinished

/-! ## Steps of a turn -/

theorem History.closing (h : History C s) (hclosing : SDKSession.Closing s t) : History C t := by
  unfold History
  rw [hclosing.rest]
  exact h

theorem Unfinished.closing (h : Unfinished s) (hclosing : SDKSession.Closing s t) :
    Unfinished t := by
  unfold Unfinished
  rw [hclosing.rest]
  exact h

/-- A call leaves with what its turn proved. -/
theorem Sound.leaveWith (h : History C s) {ending : Ending}
    (hcompleted : ending.Completes →
      Completed C s.stream s.activeInbox s.projected ⟨s.turnId, ending, s.inbox⟩) :
    Sound C (s.leave ending) where
  history := {
    older := by
      intro f hf
      rcases List.mem_append.mp hf with hold | hnew
      · exact h.older f hold
      · rw [List.mem_singleton] at hnew
        subst hnew
        exact le_rfl
    completed := by
      intro f hf hcompletes
      rcases List.mem_append.mp hf with hold | hnew
      · exact h.completed f hold hcompletes
      · rw [List.mem_singleton] at hnew
        subst hnew
        exact hcompleted hcompletes
    cleared := h.cleared }
  progress := fun _ hpc => by cases hpc
  unfinished := fun hturn => by cases hturn

/-- A call that ends without COMPLETE proves nothing new. -/
theorem Sound.leave (h : History C s) {ending : Ending} (hending : ¬ ending.Completes) :
    Sound C (s.leave ending) :=
  .leaveWith h fun hcompletes => absurd hcompletes hending

/-- The invariant does not look at the compaction lifecycle. -/
theorem Sound.withCompaction (h : Sound C s) (c : Lifecycle) :
    Sound C { s with compaction := c } where
  history := h.history
  progress := by
    intro pc hpc
    have hprogress := h.progress pc hpc
    cases pc <;> exact hprogress
  unfinished := h.unfinished

theorem Completed.deactivate {stream : List Reception} {active : Option Nat} {turnId : Nat}
    {projected : List ProjectedMessage} {f : Finished}
    (h : Completed C stream active projected f) :
    Completed C stream (if active = some turnId then none else active) projected f :=
  { h with
    released := by
      split_ifs
      · exact fun hnone => by cases hnone
      · exact h.released }

/-- A retired inbox is not active. -/
theorem retire_inactive (s : SDKSession) (ending : Ending) :
    (s.retire ending).activeInbox ≠ some s.turnId := by
  unfold SDKSession.retire
  simp only
  split_ifs with hactive
  · exact fun hnone => by cases hnone
  · exact hactive

theorem History.retire (h : History C s) (ending : Ending) : History C (s.retire ending) :=
  { h with
    completed := fun f hf hcompletes => (h.completed f hf hcompletes).deactivate }

theorem Sound.retire (h : History C s) (hunfinished : Unfinished s) {ending : Ending}
    (hending : ¬ ending.Completes) : Sound C (s.retire ending) where
  history := h.retire ending
  progress := by
    intro pc hpc
    cases hpc
    exact fun hcompletes => absurd hcompletes hending
  unfinished := fun _ => hunfinished

theorem not_completes_raised : ¬ Ending.raisedCancelled.Completes := by
  rintro ⟨result, hending, -⟩
  cases hending

theorem not_completes_returned {result : SessionTurnResult}
    (h : result.outcome ≠ .complete) : ¬ (Ending.returned result).Completes := by
  rintro ⟨other, hending, houtcome⟩
  cases hending
  exact h houtcome

/-- The teardown of a turn is cancelled. -/
theorem Sound.cancelTeardown (h : Sound C s) {after : After} {pc : TurnPc}
    (hturn : s.turn = some pc) : Sound C (s.cancelTeardown after) := by
  have hunfinished : Unfinished s := h.unfinished (by rw [hturn]; rfl)
  obtain ⟨c, heq⟩ := SDKSession.cancelTeardown_eq s after
  rw [heq]
  cases after with
  | leave | startFailed =>
    exact .leave (s := { s with compaction := c }) h.history not_completes_raised
  | finish =>
    refine ⟨h.history, ?_, fun _ => hunfinished⟩
    rintro pc hpc
    cases hpc
    trivial
  | handled =>
    exact .retire (s := { s with compaction := c }) h.history hunfinished not_completes_raised
  | reraise => exact h.withCompaction c

/-- A turn that tears its client down does not complete. -/
theorem Sound.tornDown (h : History C s) (hunfinished : Unfinished s) (after : After)
    (harmless : after.Harmless) (ht : SDKSession.TornDown s after t) : Sound C t := by
  cases ht with
  | @suspended u pc hclosing htearing =>
    have hu := h.closing hclosing
    have hunfinished' := hunfinished.closing hclosing
    refine ⟨hu, ?_, fun _ => hunfinished'⟩
    rintro pc' hpc
    cases hpc
    cases htearing <;> exact harmless
  | @resumed u hclosing =>
    have hu := h.closing hclosing
    have hunfinished' := hunfinished.closing hclosing
    cases after with
    | leave result => exact .leave hu (not_completes_returned harmless)
    | startFailed cancelled =>
      cases cancelled
      · exact .leave hu (not_completes_returned (by decide))
      · exact .leave hu not_completes_raised
    | finish result => exact .retire hu hunfinished' (not_completes_returned harmless)
    | handled result => exact .retire hu hunfinished' (not_completes_returned harmless)
    | reraise => exact .retire hu hunfinished' not_completes_raised

theorem Sound.failTurn (h : History C s) (hunfinished : Unfinished s) (locals : Locals) :
    Sound C (s.failTurn locals) :=
  .tornDown h hunfinished (.handled _) (by rintro ⟨⟩)
    (SDKSession.interruptThenClose_tornDown s _)

theorem Sound.finishWith (h : History C s) (hunfinished : Unfinished s)
    {result : SessionTurnResult} (hresult : result.outcome ≠ .complete) :
    Sound C (s.interruptThenClose (.finish result)) :=
  .tornDown h hunfinished (.finish result) hresult
    (SDKSession.interruptThenClose_tornDown s _)

theorem History.publish (h : History C s) (hunfinished : Unfinished s) :
    HistoryOf C s.stream (some s.turnId) s.turnId s.projected s.finished :=
  { h with
    completed := fun f hf hcompletes =>
      { h.completed f hf hcompletes with
        released := by
          rw [ne_eq, Option.some.injEq]
          exact fun hsame => hunfinished f hf hsame.symm } }

theorem Sound.publish (h : History C s) (hunfinished : Unfinished s)
    (htaken : s.inbox.taken = []) : Sound C s.publish := by
  have hactive := h.publish hunfinished
  unfold SDKSession.publish
  split_ifs
  · exact .leave h (not_completes_returned (by decide))
  · simp only
    split_ifs
    · refine Sound.leave (s := { s with
        activeInbox := some s.turnId
        turnTerminalSeen := false
        streamToolIndexes := [] }) hactive ?_
      rintro ⟨result, hending, -⟩
      cases hending
    · refine ⟨hactive, ?_, fun _ => hunfinished⟩
      rintro pc hpc
      cases hpc
      exact htaken
    · exact .tornDown (s := { s with
          activeInbox := some s.turnId
          turnTerminalSeen := false
          streamToolIndexes := []
          compaction := s.compaction.bind s.turnId })
        hactive hunfinished (.handled _) (by rintro ⟨⟩)
        (SDKSession.interruptThenClose_tornDown _ _)

theorem Sound.enter (h : History C s) (constructs : Bool) : Sound C (s.enter constructs) := by
  let entered : SDKSession := { s with turnId := s.turnId + 1, inbox := Channel.empty }
  have hentered : History C entered :=
    { h with older := fun f hf => Nat.le_succ_of_le (h.older f hf) }
  have hunfinished : Unfinished entered := by
    intro f hf hsame
    exact absurd (h.older f hf) (by simp only [hsame, entered]; omega)
  unfold SDKSession.enter
  simp only
  split_ifs
  · exact .leave hentered (not_completes_returned (by decide))
  · exact .tornDown
      (s := { entered with postTerminalNativeViolation := false, postTerminalOutput := false })
      hentered hunfinished (.leave _) (by rintro ⟨⟩)
      (SDKSession.interruptThenClose_tornDown _ _)
  · exact .tornDown (s := { entered with postTerminalOutput := false })
      hentered hunfinished (.leave _) (by rintro ⟨⟩)
      (SDKSession.interruptThenClose_tornDown _ _)
  · exact .publish (s := entered) hentered hunfinished rfl
  · exact .leave hentered (not_completes_returned (by decide))
  · refine ⟨hentered, ?_, fun _ => hunfinished⟩
    rintro pc hpc
    cases hpc
    rfl

/-! ### Projecting -/

/-- Projecting keeps the history, if a result is projected only when cleared. -/
theorem History.project (h : History C s) {position : Nat}
    (hcleared : ∀ message, (position, message) ∈ deliveredTo s.turnId s.stream →
      isResult message = true →
        Cleared C ((deliveredTo s.turnId s.stream).filter fun entry => entry.1 < position)) :
    History C (s.project position) where
  older := h.older
  completed := fun f hf hcompletes =>
    { h.completed f hf hcompletes with
      result := by
        obtain ⟨p, m, hfilter, herror, hreason, hmem, hdelivered⟩ :=
          (h.completed f hf hcompletes).result
        exact ⟨p, m, hfilter, herror, hreason, List.mem_append_left _ hmem, hdelivered⟩ }
  cleared := by
    intro x hx message hmem hresult
    rcases List.mem_append.mp hx with hold | hnew
    · exact h.cleared x hold message hmem hresult
    · rw [List.mem_singleton] at hnew
      subst hnew
      exact hcleared message hmem hresult

/-- A stream position holds one message. -/
theorem deliveredTo_unique {turn position : Nat} {stream : List Reception} {m m' : PyValue}
    (h : (position, m) ∈ deliveredTo turn stream) (h' : (position, m') ∈ deliveredTo turn stream) :
    m = m' := by
  obtain ⟨r, hget, -, -, rfl⟩ := mem_deliveredTo.mp h
  obtain ⟨r', hget', -, -, rfl⟩ := mem_deliveredTo.mp h'
  rw [hget, Option.some.injEq] at hget'
  rw [hget']

/-- What was delivered before a taken message is what was taken before it. -/
theorem filter_before {seen waiting : List (Nat × PyValue)} {position : Nat} {message : PyValue}
    (h : (seen ++ (position, message) :: waiting).Pairwise fun a b => a.1 < b.1) :
    (seen ++ (position, message) :: waiting).filter (fun entry => entry.1 < position) = seen := by
  rw [List.pairwise_append, List.pairwise_cons] at h
  obtain ⟨-, ⟨hlater, -⟩, hearlier⟩ := h
  have hseen : seen.filter (fun entry => entry.1 < position) = seen := by
    rw [List.filter_eq_self]
    intro entry hentry
    simpa using hearlier entry hentry (position, message) List.mem_cons_self
  have hwaiting : waiting.filter (fun entry => entry.1 < position) = [] := by
    rw [List.filter_eq_nil_iff]
    intro entry hentry
    simpa using (hlater entry hentry).le
  simp [hseen, hwaiting]

section Taken

variable {phase : MailboxPhase} {seen : List Item} {position : Nat} {message : PyValue}

/-- The deliveries of a turn around a message it has taken. -/
theorem deliveredTo_of_taken (hm : (s.view phase).Consistent)
    (htaken : s.inbox.taken = seen ++ [.message position message]) :
    deliveredTo s.turnId s.stream =
      messages seen ++ (position, message) :: messages s.inbox.queue := by
  have hdelivered := hm.delivered
  simp only [SDKSession.view, Channel.sent, htaken, messages_append, List.append_assoc,
    List.singleton_append] at hdelivered
  exact hdelivered.symm

/-- An ordinary message may be projected without further ado. -/
theorem History.project_ordinary (h : History C s) (hm : (s.view phase).Consistent)
    (htaken : s.inbox.taken = seen ++ [.message position message])
    (hresult : isResult message = false) : History C (s.project position) := by
  refine h.project fun other hother hisResult => ?_
  have hmessage : (position, message) ∈ deliveredTo s.turnId s.stream := by
    simp [deliveredTo_of_taken hm htaken]
  rw [deliveredTo_unique hother hmessage, hresult] at hisResult
  cases hisResult

/-- A result may be projected when the gate has allowed it. -/
theorem History.project_result (h : History C s) (hm : (s.view phase).Consistent)
    {evidence : Option SDKBillingEvidence} {decision : BillingDecision}
    (hat : AtResult C s.inbox.taken evidence position message decision)
    (hallowed : decision.allowed = true) : History C (s.project position) := by
  obtain ⟨seen, htaken, hgathered⟩ := hat.taken
  refine h.project fun other hother hisResult => ?_
  have hordered := deliveredTo_ascending s.turnId s.stream
  rw [deliveredTo_of_taken hm htaken] at hordered ⊢
  rw [filter_before hordered]
  refine ⟨hgathered.unblocked, ?_⟩
  rw [← hgathered.evidence, ← hat.decision]
  exact hallowed

end Taken

/-! ### The loop -/

theorem Sound.dispatch (h : History C s) (hunfinished : Unfinished s) {locals : Locals}
    {position : Nat} {message : PyValue} {projection : Projection} {seen : List Item}
    (hm : (s.view (.holding position message)).Consistent)
    (htaken : s.inbox.taken = seen ++ [.message position message])
    (hgathered : Gathered C seen locals.evidence) :
    Sound C (s.dispatch C locals position message projection) := by
  unfold SDKSession.dispatch
  simp only
  split_ifs with hblocks hresult
  · refine ⟨h, ?_, fun _ => hunfinished⟩
    rintro pc hpc
    cases hpc
    trivial
  · have hordinary : isResult message = false := by simpa using hresult
    have hprojected := h.project_ordinary hm htaken hordinary
    cases projection with
    | raises => exact .failTurn (s := s.project position) hprojected hunfinished _
    | projects finalText =>
      refine ⟨hprojected, ?_, fun _ => hunfinished⟩
      rintro pc hpc
      cases hpc
      simp only [Progress, SDKSession.project, htaken]
      exact hgathered.observe position hordinary (by simpa using hblocks)
  · have hisResult : isResult message = true := by simpa using hresult
    refine ⟨h, ?_, fun _ => hunfinished⟩
    rintro pc hpc
    cases hpc
    refine ⟨⟨seen, htaken, ?_⟩, hisResult, rfl⟩
    rw [SDKSession.withSessionId_evidence, observeEvidence_of_isResult hisResult]
    exact hgathered

theorem Sound.handleItem (h : History C s) (hunfinished : Unfinished s) {locals : Locals}
    {item : Item} {projection : Projection} {seen : List Item}
    (hm : (s.view (Mailbox.phaseOf item)).Consistent)
    (htaken : s.inbox.taken = seen ++ [item]) (hgathered : Gathered C seen locals.evidence) :
    Sound C (s.handleItem C locals item projection) := by
  unfold SDKSession.handleItem
  split_ifs
  · exact .retire h hunfinished (not_completes_returned (by decide))
  · cases item with
    | cancelled => exact .retire h hunfinished (not_completes_returned (by decide))
    | nativeToolViolation => exact .finishWith h hunfinished (by rintro ⟨⟩)
    | postTerminalOutput => exact .finishWith h hunfinished (by rintro ⟨⟩)
    | compactionWatchdogExpired => exact .finishWith h hunfinished (by decide)
    | streamEnded failed => exact .retire h hunfinished (not_completes_returned (by rintro ⟨⟩))
    | message position message =>
      simp only
      split_ifs
      · refine ⟨h, ?_, fun _ => hunfinished⟩
        rintro pc hpc
        cases hpc
        exact ⟨seen, htaken, hgathered⟩
      · exact .dispatch h hunfinished hm htaken hgathered

/-- A drain that finds no violation has looked at everything that waited. -/
theorem trailing_eq_none {items : List Item} (h : (SDKSession.trailing items).2 = none) :
    (SDKSession.trailing items).1 = items.length ∧ ∀ item ∈ items, item.isViolation = false := by
  induction items with
  | nil => simp [SDKSession.trailing]
  | cons item rest ih =>
    cases item with
    | postTerminalOutput | nativeToolViolation => simp [SDKSession.trailing] at h
    | message | cancelled | compactionWatchdogExpired | streamEnded =>
      simp only [SDKSession.trailing] at h ⊢
      obtain ⟨hlength, hclean⟩ := ih h
      refine ⟨by rw [hlength, List.length_cons], ?_⟩
      intro other hother
      rcases List.mem_cons.mp hother with rfl | hrest
      · rfl
      · exact hclean other hrest

/-- A turn that has drained its inbox without finding a violation may complete. -/
theorem Completed.of_pastResult (hm : (s.view .idle).Consistent) {evidence : Option SDKBillingEvidence}
    {message : PyValue} {decision : BillingDecision}
    (hpast : PastResult C s.inbox.taken s.turnId s.projected evidence message decision)
    (hclean : ∀ item ∈ s.inbox.queue, item.isViolation = false)
    (herror : message.safeAttr "is_error" ≠ .bool true)
    (hreason : (message.safeAttr "terminal_reason").memTexts
      [lit "aborted_streaming", lit "aborted_tools"] = some false) (ending : Ending) :
    Completed C s.stream none s.projected
      ⟨s.turnId, ending, s.inbox.drain s.inbox.queue.length⟩ := by
  obtain ⟨position, hat, hprojected⟩ := hpast.result
  obtain ⟨seen, htaken, hgathered⟩ := hat.taken
  have hdelivered := deliveredTo_of_taken hm htaken
  -- nothing is delivered after a result, so the drained items are no messages
  have hwaiting : messages s.inbox.queue = [] := by
    have hfinal : (deliveredTo s.turnId s.stream).Pairwise
        fun entry _ => isResult entry.2 = false := hm.final
    rw [hdelivered, List.pairwise_append, List.pairwise_cons] at hfinal
    rw [List.eq_nil_iff_forall_not_mem]
    intro entry hentry
    have := hfinal.2.1.1 entry hentry
    rw [hat.result] at this
    cases this
  have hmessages : messages (s.inbox.drain s.inbox.queue.length).taken =
      messages seen ++ [(position, message)] := by
    rw [Channel.taken_drain, List.take_length, htaken, messages_append, messages_append, hwaiting,
      List.append_nil, messages_singleton_message]
  have hseen : (messages seen).filter (fun entry => isResult entry.2) = [] := by
    rw [List.filter_eq_nil_iff]
    rintro ⟨p, m⟩ hentry
    obtain ⟨_, _, heq, hordinary⟩ := hgathered.ordinary _ (mem_messages.mp hentry)
    cases heq
    simp [hordinary]
  have hsent : ∀ item ∈ s.inbox.sent, item.isViolation = false := by
    intro item hitem
    rw [Channel.sent, htaken, List.mem_append, List.mem_append, List.mem_singleton] at hitem
    rcases hitem with (hearlier | rfl) | hlater
    · obtain ⟨_, _, rfl, -⟩ := hgathered.ordinary item hearlier
      rfl
    · rfl
    · exact hclean item hlater
  exact {
    result := by
      refine ⟨position, message, ?_, herror, hreason, hprojected, by simp [hdelivered]⟩
      rw [hmessages, List.filter_append, hseen]
      simp [hat.result]
    allowed := by
      have hnothing : updatesOf C [(position, message)] = [] := by
        simp [updatesOf, extract_of_isResult hat.result]
      rw [hmessages, updatesOf_append, hnothing, List.append_nil, ← hgathered.evidence,
        ← hat.decision]
      exact hpast.allowed
    clean := by
      rw [Channel.sent_drain]
      exact hsent
    undisturbed := by
      intro r hr hinbox
      cases hmarker : r.fate.marker with
      | none => rfl
      | some item =>
        have hmarked := hsent item (hm.marked r hr hinbox item hmarker)
        cases hfate : r.fate <;> rw [hfate] at hmarker <;> cases hmarker <;> cases hmarked
    released := fun hnone => by cases hnone }

/-- **The one way to COMPLETE.**  Settling completes a turn only with everything
that `Completed` asks for. -/
theorem Sound.settle (h : History C s) (hunfinished : Unfinished s)
    (hm : (s.view .idle).Consistent) {locals : Locals} {message : PyValue}
    {decision : BillingDecision}
    (hpast : PastResult C s.inbox.taken s.turnId s.projected locals.evidence message decision) :
    Sound C (s.settle locals message decision) := by
  unfold SDKSession.settle
  simp only
  split
  · exact .finishWith (s := { s with inbox := s.inbox.drain _ }) h hunfinished (by rintro ⟨⟩)
  · exact .finishWith (s := { s with inbox := s.inbox.drain _ }) h hunfinished (by rintro ⟨⟩)
  · rename_i hnone
    obtain ⟨hlength, hclean⟩ := trailing_eq_none hnone
    rw [hlength]
    unfold SDKSession.concludeResult
    simp only
    split
    · exact .failTurn (s := { s with inbox := s.inbox.drain s.inbox.queue.length }) h
        hunfinished _
    · exact .retire (s := { s with inbox := s.inbox.drain s.inbox.queue.length }) h hunfinished
        (not_completes_returned (by rintro ⟨⟩))
    · rename_i hreason
      split
      · exact .retire (s := { s with inbox := s.inbox.drain s.inbox.queue.length }) h
          hunfinished (not_completes_returned (by rintro ⟨⟩))
      · rename_i herror
        refine ⟨History.retire (s := { s with inbox := s.inbox.drain s.inbox.queue.length }) h _,
          ?_, fun _ => hunfinished⟩
        rintro pc hpc
        cases hpc
        exact fun _ => { Completed.of_pastResult hm hpast hclean herror hreason _ with
          released := retire_inactive { s with inbox := s.inbox.drain s.inbox.queue.length } _ }

theorem Sound.cancelTurn (h : History C s) (hunfinished : Unfinished s) :
    Sound C s.cancelTurn := by
  unfold SDKSession.cancelTurn
  simp only
  split_ifs <;> exact ⟨h, fun pc hpc => by cases hpc; trivial, fun _ => hunfinished⟩

/-- A turn that goes on in the loop keeps what it has accounted for. -/
theorem Sound.suspend {pc : TurnPc} (hhistory : History C s) (hunfinished : Unfinished s)
    (hprogress : Progress C s pc) : Sound C { s with turn := some pc } := by
  refine ⟨hhistory, ?_, fun _ => hunfinished⟩
  rintro pc' hpc
  cases hpc
  exact hprogress

theorem Sound.loopMove (h : Sound C s) {pc : TurnPc} (hm : (s.view pc.phase).Consistent)
    (hturn : s.turn = some pc) (hmove : SDKSession.LoopMove C s pc t) : Sound C t := by
  have hhistory := h.history
  have hprogress := h.progress pc hturn
  have hunfinished : Unfinished s := h.unfinished (by rw [hturn]; rfl)
  cases hmove with
  | cancels => exact .cancelTurn hhistory hunfinished
  | fails => exact .failTurn hhistory hunfinished _
  | expires => exact .finishWith hhistory hunfinished (by rintro ⟨⟩)
  | queries =>
    apply Sound.suspend hhistory hunfinished
    have htaken : s.inbox.taken = [] := hprogress
    simp only [Progress, htaken]
    exact .nil
  | waits => exact h
  | @takes locals projection item inbox htake =>
    have htaken := (Channel.receive_eq_some htake).2.1
    exact .handleItem (s := { s with inbox := inbox }) hhistory hunfinished (hm.take htake) htaken
      hprogress
  | resumes hresumed =>
    obtain ⟨seen, htaken, hgathered⟩ := hprogress
    obtain ⟨c, rfl | rfl⟩ := SDKSession.resumeBoundary_eq_some hresumed
    · exact h.withCompaction c
    · exact .dispatch (s := { s with compaction := c }) hhistory hunfinished hm htaken hgathered
  | blocks => exact .finishWith hhistory hunfinished (by rintro ⟨⟩)
  | projects => exact .suspend hhistory hunfinished hprogress
  | refuses =>
    exact .tornDown hhistory hunfinished (.finish _) (by rintro ⟨⟩)
      (SDKSession.enterClose_tornDown s _)
  | @raises _ position _ _ _ hallowed =>
    exact .failTurn (s := s.project position) (hhistory.project_result hm hprogress hallowed)
      hunfinished _
  | @admits _ position _ _ _ _ hallowed =>
    apply Sound.suspend (s := s.project position) (hhistory.project_result hm hprogress hallowed)
      hunfinished
    exact ⟨⟨position, hprogress, List.mem_append_right _ (List.mem_singleton_self _)⟩, hallowed⟩
  | collects => exact .suspend hhistory hunfinished hprogress
  | settles => exact .settle hhistory hunfinished hm hprogress
  | cleans =>
    unfold SDKSession.startCleanup
    split_ifs
    · exact .retire hhistory hunfinished not_completes_raised
    · exact .tornDown (s := SDKSession.put { s with cancelRequested := true } .cancelled)
        hhistory hunfinished .reraise trivial
        (SDKSession.interruptThenClose_tornDown _ _)

theorem Sound.turnStep (h : Sound C s) (hm : s.mailbox.Consistent) {pc : TurnPc}
    {resume : Resume} (hturn : s.turn = some pc) (hstep : s.turnStep C pc resume = some t) :
    Sound C t := by
  have hhistory := h.history
  have hprogress := h.progress pc hturn
  have hunfinished : Unfinished s := h.unfinished (by rw [hturn]; rfl)
  rcases SDKSession.turnPc_cases pc with rfl | hpc | ⟨after, hpc⟩ | ⟨ending, rfl⟩
  · have hcloses (cancelled : Bool) : Sound C (s.enterClose (.startFailed cancelled)) :=
      .tornDown hhistory hunfinished (.startFailed cancelled) trivial
        (SDKSession.enterClose_tornDown s _)
    cases resume <;> cases hstep
    · exact .publish (s := { s with reader := .created, readerTask := true }) hhistory hunfinished
        hprogress
    · exact hcloses false
    · exact hcloses false
    · exact hcloses true
  · rw [SDKSession.mailbox_of_turn hturn] at hm
    exact h.loopMove hm hturn (SDKSession.loopMove_of_turnStep hpc hstep)
  · have houtcome := (SDKSession.turnStep_outcome hturn hstep).of_tearingDown hpc
    cases hpc
    all_goals
      rcases houtcome with htorn | rfl
      · exact .tornDown hhistory hunfinished after hprogress htorn
      · exact .cancelTeardown h hturn
  · obtain ⟨c, rfl | rfl | rfl⟩ := SDKSession.turnStep_of_retiring hstep
    · exact h.withCompaction c
    · exact .leaveWith (s := { s with compaction := c }) hhistory hprogress
    · exact .leave (s := { s with compaction := c }) hhistory not_completes_raised

theorem Sound.next (h : Sound C s) (hm : s.mailbox.Consistent) {label : Label}
    (hnext : s.next C label = some t) : Sound C t := by
  cases label with
  | runTurn prompt constructs =>
    simp only [SDKSession.next] at hnext
    split_ifs at hnext <;> cases hnext
    · exact h
    · exact .enter h.history constructs
  | turn resume =>
    simp only [SDKSession.next] at hnext
    split at hnext
    · cases hnext
    · rename_i pc hturn
      exact h.turnStep hm hturn hnext
  | readerStart | receive | streamEnd | readerCancelled | cancel | close | closer | preCompact
  | compaction | hookCancelled | watchdog =>
    exact h.ambient hm (SDKSession.next_ambient hnext trivial)

/-- The invariant holds in every reachable state. -/
theorem sound_of_reachable (h : (sessionSystem C).Reachable s) : Sound C s := by
  have hboth : s.mailbox.Consistent ∧ Sound C s := by
    refine System.Reachable.invariant (P := fun s => s.mailbox.Consistent ∧ Sound C s) ?_ ?_ h
    · refine ⟨SDKSession.mailbox_consistent .init, ?_, ?_, ?_⟩
      · constructor <;> simp [sessionSystem]
      · exact fun pc hpc => by cases hpc
      · exact fun hturn => by cases hturn
    · rintro s t label - ⟨hm, hs⟩ hnext
      exact ⟨hm.steps (SDKSession.next_mailbox hnext), hs.next hm hnext⟩
  exact hboth.2

end Preservation

end HermesClaude.Session
