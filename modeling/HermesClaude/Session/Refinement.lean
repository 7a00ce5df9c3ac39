/-
# The session refines its mailbox

Forgetting suspensions, the client, the reader task and closing turns a session
into a mailbox, and every step of the session into a few steps of it.  What a turn
holds is read off its suspension: a message that was taken and not projected is
kept by the two suspensions that lie between taking and projecting.

The lemmas follow the functions of the session from the inside out; `view` leaves
the phase open because a function is called from several suspensions.
-/

import HermesClaude.Session.Mailbox
import HermesClaude.Session.Outcome

namespace HermesClaude.Session

open HermesClaude.Python HermesClaude.Billing HermesClaude.Content HermesClaude.Library

/-- What a suspended turn holds. -/
def TurnPc.phase : TurnPc → MailboxPhase
  | .connecting => .entered
  | .boundary _ position message _ => .holding position message
  | .resultBilling _ position message _ _ => .holding position message
  | _ => .idle

namespace SDKSession

/-- The mailbox of a session in a given phase. -/
def view (s : SDKSession) (phase : MailboxPhase) : Mailbox where
  stream := s.stream
  turnId := s.turnId
  active := s.activeInbox
  terminal := s.turnTerminalSeen
  inbox := s.inbox
  phase := phase
  projected := s.projected

/-- The phase of a session. -/
def phase (s : SDKSession) : MailboxPhase :=
  match s.turn with
  | none => .idle
  | some pc => pc.phase

/-- The mailbox of a session. -/
def mailbox (s : SDKSession) : Mailbox := s.view s.phase

open Mailbox (Step Steps)

variable {s t : SDKSession} {phase : MailboxPhase}

theorem view_release : Steps (s.view phase) (s.view .idle) :=
  .single (Step.release _)

theorem mailbox_of_turn {pc : TurnPc} (h : s.turn = some pc) : s.mailbox = s.view pc.phase := by
  simp [mailbox, SDKSession.phase, h]

/-! ## Closing -/

theorem put_view {item : Item} (noMessage : item.message? = none)
    (noViolation : item.isViolation = false) :
    Steps (s.view phase) ((s.put item).view phase) := by
  unfold put view
  split_ifs
  · exact .single (Step.control _ item noMessage noViolation)
  · exact .refl

theorem stopReader_view : (stopReader s).1.view phase = s.view phase := by
  unfold stopReader
  split_ifs <;> rfl

theorem dropClient_view : Steps (s.view phase) ((dropClient s).1.view phase) := by
  have hput : Steps (s.view phase) ((s.put .cancelled).view phase) := put_view rfl rfl
  unfold dropClient
  simp only
  split_ifs
  · exact hput
  · rw [stopReader_view]
    exact hput

theorem closeAdvance_view {stage : CloseStage} {next : SDKSession × Option CloseStage}
    (h : s.closeAdvance stage = some next) : Steps (s.view phase) (next.1.view phase) := by
  cases stage with
  | acquiring =>
    simp only [closeAdvance] at h
    split_ifs at h <;> cases h <;> exact .refl
  | endingCompaction =>
    simp only [closeAdvance] at h
    split_ifs at h <;> cases h
    · exact .refl
    · exact dropClient_view (s := { s with compaction := s.compaction.resume })
    · exact .refl
    · exact dropClient_view (s := { s with compaction := s.compaction.endTurn false .close })
  | disconnecting =>
    cases h
    rw [stopReader_view]
  | stoppingReader =>
    cases h
    exact .refl

theorem retire_view {ending : Ending} : Steps (s.view .idle) (s.retire ending).mailbox :=
  .single (Step.retire _)

theorem resumeAfter_view {after : After} : Steps (s.view .idle) (s.resumeAfter after).mailbox := by
  cases after with
  | leave result => exact .refl
  | startFailed cancelled => cases cancelled <;> exact .refl
  | finish result => exact retire_view
  | handled result => exact retire_view
  | reraise => exact retire_view

theorem atStage_view {stage : Option CloseStage} {after : After} :
    Steps (s.view .idle) (s.atStage stage after).mailbox := by
  cases stage with
  | some stage => exact .refl
  | none => exact resumeAfter_view

theorem enterClose_view {after : After} : Steps (s.view .idle) (s.enterClose after).mailbox := by
  unfold enterClose
  split
  · rename_i next stage hadvance
    exact (closeAdvance_view hadvance).trans atStage_view
  · exact atStage_view

theorem interruptThenClose_view {after : After} :
    Steps (s.view .idle) (s.interruptThenClose after).mailbox := by
  unfold interruptThenClose
  split_ifs
  · exact .refl
  · exact enterClose_view

theorem cancelTeardown_view {pc : TurnPc} {after : After} (hturn : s.turn = some pc)
    (hphase : pc.phase = .idle) : Steps s.mailbox (s.cancelTeardown after).mailbox := by
  rw [mailbox_of_turn hturn, hphase]
  obtain ⟨c, heq⟩ := cancelTeardown_eq s after
  rw [heq]
  cases after with
  | leave | startFailed | finish => exact .refl
  | handled => exact retire_view (s := { s with compaction := c })
  | reraise =>
    rw [mailbox_of_turn (s := { s with compaction := c }) hturn, hphase]
    exact .refl

/-! ## Entering a turn -/

theorem publish_view : Steps (s.view .entered) s.publish.mailbox := by
  unfold publish
  split_ifs with hcancel
  · exact view_release
  · refine .head (Step.publish _ rfl) ?_
    simp only
    split_ifs
    · exact .refl
    · exact .refl
    · exact interruptThenClose_view
        (s := { s with
          activeInbox := some s.turnId
          turnTerminalSeen := false
          streamToolIndexes := []
          compaction := s.compaction.bind s.turnId })

theorem enter_view {constructs : Bool} : Steps (s.view .idle) (s.enter constructs).mailbox := by
  let entered : SDKSession := { s with turnId := s.turnId + 1, inbox := Channel.empty }
  have hentered : Steps (s.view .idle) (entered.view .entered) := .single (Step.enter _)
  have hidle : Steps (s.view .idle) (entered.view .idle) := hentered.trans view_release
  unfold enter
  simp only
  split_ifs
  · exact hidle
  · exact hidle.trans (interruptThenClose_view
      (s := { entered with postTerminalNativeViolation := false, postTerminalOutput := false }))
  · exact hidle.trans (interruptThenClose_view (s := { entered with postTerminalOutput := false }))
  · exact hentered.trans (publish_view (s := entered))
  · exact hidle
  · exact hentered

/-! ## The turn loop -/

theorem failTurn_view {locals : Locals} : Steps (s.view .idle) (s.failTurn locals).mailbox :=
  interruptThenClose_view

theorem timeOut_view : Steps (s.view .idle) s.timeOut.mailbox :=
  interruptThenClose_view

theorem project_view {position : Nat} {message : PyValue} :
    Steps (s.view (.holding position message)) ((s.project position).view .idle) :=
  .single (Step.project _ position message rfl)

variable {C : SessionContext}

theorem dispatch_view {locals : Locals} {position : Nat} {message : PyValue}
    {projection : Projection} :
    Steps (s.view (.holding position message))
      (s.dispatch C locals position message projection).mailbox := by
  unfold dispatch
  simp only
  split_ifs
  · exact view_release
  · cases projection with
    | raises => exact project_view.trans failTurn_view
    | projects finalText => exact project_view
  · exact .refl

theorem handleItem_view {locals : Locals} {item : Item} {projection : Projection} :
    Steps (s.view (Mailbox.phaseOf item)) (s.handleItem C locals item projection).mailbox := by
  unfold handleItem
  split_ifs
  · exact view_release.trans retire_view
  · cases item with
    | cancelled => exact retire_view
    | nativeToolViolation => exact interruptThenClose_view
    | postTerminalOutput => exact interruptThenClose_view
    | compactionWatchdogExpired => exact interruptThenClose_view
    | streamEnded failed => exact retire_view
    | message position message =>
      simp only
      split_ifs
      · exact .refl
      · exact dispatch_view

theorem concludeResult_view {locals : Locals} {message : PyValue} {decision : BillingDecision} :
    Steps (s.view .idle) (s.concludeResult locals message decision).mailbox := by
  unfold concludeResult
  simp only
  split
  · exact failTurn_view
  · exact retire_view
  · split <;> exact retire_view

theorem settle_view {locals : Locals} {message : PyValue} {decision : BillingDecision} :
    Steps (s.view .idle) (s.settle locals message decision).mailbox := by
  let drained : SDKSession := { s with inbox := s.inbox.drain (trailing s.inbox.queue).1 }
  have hdrain : Steps (s.view .idle) (drained.view .idle) := .single (Step.drain _ _)
  unfold settle
  simp only
  split
  · exact hdrain.trans (interruptThenClose_view (s := drained))
  · exact hdrain.trans (interruptThenClose_view (s := drained))
  · exact hdrain.trans (concludeResult_view (s := drained))

theorem startCleanup_view : Steps (s.view .idle) s.startCleanup.mailbox := by
  unfold startCleanup
  split_ifs
  · exact retire_view
  · exact (put_view (s := { s with cancelRequested := true }) rfl rfl).trans
      interruptThenClose_view

theorem resumeBoundary_view {locals : Locals} {position : Nat} {message : PyValue}
    {projection : Projection} (hturn : s.turn = some (.boundary locals position message projection))
    (h : s.resumeBoundary C locals position message projection = some t) :
    Steps s.mailbox t.mailbox := by
  have hstays (c : Lifecycle) :
      Steps s.mailbox ({ s with compaction := c } : SDKSession).mailbox := .refl
  have hdispatch (c : Lifecycle) : Steps s.mailbox
      (({ s with compaction := c } : SDKSession).dispatch C locals position message
        projection).mailbox := by
    rw [mailbox_of_turn hturn]
    exact dispatch_view (s := { s with compaction := c })
  unfold resumeBoundary at h
  simp only at h
  split_ifs at h <;> cases h
  · exact hstays _
  · exact hdispatch _
  · exact hstays _
  · exact hdispatch _

theorem resumeRetiring_view {ending : Ending} (hturn : s.turn = some (.retiring ending))
    (h : s.resumeRetiring ending = some t) : Steps s.mailbox t.mailbox := by
  rw [mailbox_of_turn hturn]
  unfold resumeRetiring at h
  simp only at h
  split_ifs at h <;> cases h
  · exact (mailbox_of_turn (s := { s with compaction := s.compaction.resume }) hturn) ▸ .refl
  · exact .refl
  · exact (mailbox_of_turn (s := { s with
      compaction := s.compaction.endTurn (Ending.completed ending) .endOfTurn }) hturn) ▸ .refl
  · exact .refl

theorem cancelTurn_view : Steps (s.view phase) s.cancelTurn.mailbox := by
  unfold cancelTurn
  simp only
  split_ifs <;> exact view_release

theorem LoopMove.view {pc : TurnPc} (hturn : s.turn = some pc) (hmove : LoopMove C s pc t) :
    Steps (s.view pc.phase) t.mailbox := by
  have hmailbox := mailbox_of_turn hturn
  cases hmove with
  | cancels => exact cancelTurn_view
  | fails => exact view_release.trans failTurn_view
  | expires => exact view_release.trans timeOut_view
  | waits => rw [hmailbox]
  | @takes locals projection item inbox htaken =>
    exact .head (Step.take _ item inbox htaken) (handleItem_view (s := { s with inbox := inbox }))
  | resumes hresumed => exact hmailbox ▸ resumeBoundary_view hturn hresumed
  | blocks => exact interruptThenClose_view
  | refuses => exact view_release.trans enterClose_view
  | raises => exact project_view.trans failTurn_view
  | admits => exact project_view
  | settles => exact settle_view
  | cleans => exact startCleanup_view
  | queries | projects | collects => exact .refl

theorem turnStep_view {pc : TurnPc} {resume : Resume} (hturn : s.turn = some pc)
    (h : s.turnStep C pc resume = some t) : Steps s.mailbox t.mailbox := by
  have hmailbox := mailbox_of_turn hturn
  rcases turnPc_cases pc with rfl | hpc | ⟨after, hpc⟩ | ⟨ending, rfl⟩
  · rw [hmailbox]
    cases resume <;> cases h
    · exact publish_view (s := { s with reader := .created, readerTask := true })
    · exact view_release.trans enterClose_view
    · exact view_release.trans enterClose_view
    · exact view_release.trans enterClose_view
  · rw [hmailbox]
    exact (loopMove_of_turnStep hpc h).view hturn
  · rw [hmailbox]
    cases hpc with
    | interrupting =>
      cases resume <;> cases h
      · exact enterClose_view
      · exact enterClose_view
      · exact enterClose_view
      · exact hmailbox ▸ cancelTeardown_view hturn rfl
    | closing stage =>
      cases resume with
      | completed =>
        simp only [turnStep, Option.map_eq_some_iff] at h
        obtain ⟨next, hadvance, rfl⟩ := h
        exact (closeAdvance_view hadvance).trans atStage_view
      | cancelled =>
        cases h
        exact hmailbox ▸ cancelTeardown_view hturn rfl
      | item | raised | timedOut => cases h
  · cases resume with
    | completed => exact resumeRetiring_view hturn h
    | cancelled =>
      rw [hmailbox]
      simp only [turnStep, Option.some.injEq] at h
      subst h
      split_ifs <;> exact .refl
    | item | raised | timedOut => cases h

/-! ## The reader and the other tasks -/

/-- Without an active inbox there is nobody to mark a message for. -/
theorem mark_of_active_eq_none {b : Mailbox} {fate : Fate} (h : b.active = none) :
    b.mark fate = b := by
  unfold Mailbox.mark
  split
  · rfl
  · rw [Mailbox.send, if_neg (by simp [h])]

theorem endReader_view {failed : Bool} : Steps (s.view phase) ((s.endReader failed).view phase) :=
  put_view (s := { s with reader := .finished }) rfl rfl

theorem rejectNative_view {message : PyValue} :
    Steps (s.view phase) ((s.rejectNative message).view phase) := by
  have hreject := Step.reject (s.view phase) message .native (by decide)
  unfold rejectNative
  simp only
  split_ifs with hactive
  · exact .single hreject
  · have hnone : s.activeInbox = none := by simpa [record] using hactive
    rw [mark_of_active_eq_none hnone] at hreject
    exact .single hreject

theorem deliver_view {message : PyValue} :
    Steps (s.view phase) ((s.deliver message).view phase) := by
  have hreject := Step.reject (s.view phase) message .postTerminal (by decide)
  unfold deliver
  split_ifs with hactive hterminal
  · exact .single hreject
  · exact .single (Step.deliver (s.view phase) message (by simpa [view] using hterminal) hactive)
  · have hnone : s.activeInbox = none := by simpa using hactive
    rw [mark_of_active_eq_none hnone] at hreject
    exact .single hreject

theorem receive_view {message : PyValue} :
    Steps (s.view phase) ((s.receive C message).view phase) := by
  unfold receive
  split
  · have hreject := Step.reject (s.view phase) message .unchecked (by decide)
    exact .head hreject (endReader_view (s := s.record message .unchecked))
  · rename_i indexes _
    exact rejectNative_view (s := { s with streamToolIndexes := indexes })
  · rename_i indexes _
    exact deliver_view (s := { s with streamToolIndexes := indexes })

theorem putWatchdog_view {bound : Option Nat} :
    Steps (s.view phase) ((s.putWatchdog bound).view phase) := by
  unfold putWatchdog view
  split_ifs
  · exact .single (Step.control _ _ rfl rfl)
  · exact .refl

theorem resumeCompaction_view (h : s.resumeCompaction = some t) :
    Steps (s.view phase) (t.view phase) := by
  unfold resumeCompaction at h
  split at h <;> cases h
  · exact .refl
  · exact putWatchdog_view (s := { s with compaction := s.compaction.resume })

theorem receive_turn {message : PyValue} : (s.receive C message).turn = s.turn := by
  unfold receive
  split
  · rfl
  · unfold rejectNative
    simp only
    split_ifs <;> rfl
  · unfold deliver
    split_ifs <;> rfl

/-- Steps that leave the turn where it is leave its phase alone. -/
theorem mailbox_steps (hturn : t.turn = s.turn)
    (h : ∀ phase, Steps (s.view phase) (t.view phase)) : Steps s.mailbox t.mailbox := by
  have hphase : t.phase = s.phase := by simp [SDKSession.phase, hturn]
  rw [mailbox, mailbox, hphase]
  exact h s.phase

/-- **Refinement.**  Every step of the session is some steps of its mailbox. -/
theorem next_mailbox {label : Label} (h : s.next C label = some t) :
    Steps s.mailbox t.mailbox := by
  cases label with
  | runTurn prompt constructs =>
    simp only [next] at h
    split_ifs at h with hprompt hturn <;> cases h
    · exact .refl
    · have hidle : s.mailbox = s.view .idle := by
        rw [Bool.not_eq_true, Option.isSome_eq_false_iff, Option.isNone_iff_eq_none] at hturn
        simp [mailbox, SDKSession.phase, hturn]
      rw [hidle]
      exact enter_view
  | turn resume =>
    simp only [next] at h
    split at h
    · cases h
    · rename_i pc hturn
      exact turnStep_view hturn h
  | readerStart =>
    simp only [next] at h
    split_ifs at h <;> cases h
    · exact .refl
    · exact mailbox_steps rfl fun _ => endReader_view
  | receive message =>
    simp only [next] at h
    split_ifs at h
    cases h
    exact mailbox_steps receive_turn fun _ => receive_view
  | streamEnd failed =>
    simp only [next] at h
    split_ifs at h
    cases h
    exact mailbox_steps rfl fun _ => endReader_view
  | readerCancelled =>
    simp only [next] at h
    split_ifs at h
    cases h
    exact mailbox_steps rfl fun _ => endReader_view
  | cancel =>
    simp only [next] at h
    split_ifs at h <;> cases h
    · exact .refl
    · exact mailbox_steps rfl fun _ => put_view (s := { s with cancelRequested := true }) rfl rfl
  | close =>
    simp only [next] at h
    split_ifs at h <;> cases h <;> exact .refl
  | closer resume =>
    cases resume with
    | completed =>
      simp only [next] at h
      split at h
      · cases h
      · simp only [Option.map_eq_some_iff] at h
        obtain ⟨next, hadvance, rfl⟩ := h
        exact mailbox_steps (closeAdvance_closing hadvance).turn fun _ => closeAdvance_view hadvance
    | cancelled =>
      simp only [next] at h
      split_ifs at h <;> cases h <;> exact .refl
    | item | raised | timedOut => cases h
  | preCompact trigger =>
    simp only [next] at h
    split_ifs at h
    cases h
    exact .refl
  | compaction =>
    have hturn : t.turn = s.turn := by
      simp only [next, resumeCompaction] at h
      split at h <;> cases h <;> rfl
    exact mailbox_steps hturn fun _ => resumeCompaction_view h
  | hookCancelled =>
    simp only [next] at h
    split at h <;> cases h
    exact .refl
  | watchdog =>
    simp only [next] at h
    split_ifs at h
    cases h
    exact .refl

/-- **Stream discipline.**  In every reachable state the mailbox is consistent. -/
theorem mailbox_consistent (h : (sessionSystem C).Reachable s) : s.mailbox.Consistent := by
  refine System.Reachable.invariant (P := fun s => s.mailbox.Consistent) ?_ ?_ h
  · constructor <;> simp [sessionSystem, mailbox, view, SDKSession.phase, Mailbox.pending]
  · intro s t label _ hs hnext
    exact hs.steps (next_mailbox hnext)

end SDKSession

end HermesClaude.Session
