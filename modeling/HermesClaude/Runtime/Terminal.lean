/-
# One terminal event

A turn that is iterated to its end yields one terminal event, and yields it last.  Two
things stand in the way.  `run_turn` marks the turn as terminal before it has built the
completion, so a conversation that `dict` cannot copy is caught by a handler that stays
silent.  And an exception outside `Exception`, from the host or from the task, passes
the handlers and ends the turn without an event.

The guard on runs excludes exactly these, and what the caller of the generator does.
-/

import HermesClaude.Runtime.Invariants

namespace HermesClaude.Runtime.ClaudeAgentSDKRuntime

open HermesClaude.Python HermesClaude.Bridge HermesClaude.Content HermesClaude.Session
  HermesClaude.Library

variable {db : UnicodeDatabase}

/-- An event that a turn passes on: not a terminal one, and not one of the events the
runtime keeps to itself. -/
def PassedOn : TurnEvent → Prop
  | .projected (.content _) => True
  | .projected (.usage _) => True
  | .projected (.compaction _) => True
  | .projected (.toolRequest _ _) => False
  | .projected .completed => False
  | .state _ => True
  | .completed _ => False
  | .failed _ => False
  | .cancelled _ => False

/-- Exactly one terminal event, the last one; before it only events that are passed
on. -/
def EndsOnce (yielded : List Yielded) : Prop :=
  ∃ before last, yielded = before ++ [last] ∧ (∀ y ∈ before, PassedOn y.event) ∧
    last.event.isTerminal = true

/-- A step of a turn that its caller iterates to the end: it neither closes nor cancels
the generator, and the prompt of the request can be built. -/
def isIterated (context : RuntimeContext db) : Label db → Bool
  | .start request _ _ =>
    match buildSdkTurnInput context.library request.messages with
    | .error .escaped => false
    | _ => true
  | .generator .close _ | .generator .cancelled _ => false
  | _ => true

/-- A host poll that does not raise outside `Exception`. -/
def isCaught : Poll → Bool
  | .escapes _ => false
  | .returns _ | .raises => true

/-- Whether a generator that goes on builds the completion of its turn. -/
def buildsCompletion (t : Turn db) : Bool :=
  match t.pc, t.task with
  | .yieldedState _, _ => true
  | .awaitingTask, some (.ended (.returned result)) =>
    !t.cancellationUnavailable && result.outcome = .complete && result.externalSessionId.isNone
  | _, _ => false

/-- The host and the task raise nothing outside `Exception`, and a completion is only
built from a conversation that `dict` can copy. -/
def isContained (r : ClaudeAgentSDKRuntime db) : Label db → Bool
  | .start _ _ answers => isCaught answers.poll
  | .generator _ poll => poll.all isCaught && r.turn.all fun t =>
      !buildsCompletion t || (copyMessages t.request.messages).isSome
  | .taskEnds .raisedCancelled => false
  | _ => true

/-- What the steps of a run must meet for its turns to end with one terminal event. -/
def isUndisturbed (context : RuntimeContext db) (r : ClaudeAgentSDKRuntime db)
    (label : Label db) : Bool :=
  isIterated context label && isContained r label

/-- `isUndisturbed`, as a condition. -/
def Undisturbed (context : RuntimeContext db) (r : ClaudeAgentSDKRuntime db)
    (label : Label db) : Prop :=
  isUndisturbed context r label = true

/-! ## Quiet turns -/

/-- A turn that has not yielded a terminal event yet. -/
structure Quiet (t : Turn db) : Prop where
  yielded : ∀ y ∈ t.yielded, PassedOn y.event
  terminal : t.terminal = false
  task : t.task ≠ some (.ended .raisedCancelled)

/-- The state of a turn that is iterated to its end. -/
def OnTrack (_ : ClaudeAgentSDKRuntime db) (t : Turn db) : Prop :=
  match t.pc with
  | .yieldedTerminal => EndsOnce t.yielded ∧ t.task ≠ some (.ended .raisedCancelled)
  | .cancelling .cancelledHandler => False
  | _ => Quiet t

/-- A finished turn that yielded one terminal event. -/
def FinishedOnce (f : FinishedTurn db) : Prop := EndsOnce f.turn.yielded

variable {r : ClaudeAgentSDKRuntime db} {t : Turn db}

theorem Quiet.emit (h : Quiet t) {e : TurnEvent} (hevent : PassedOn e) (inSetup : Bool) :
    ∀ y ∈ (t.emit e inSetup).yielded, PassedOn y.event := by
  intro y hy
  rcases List.mem_append.mp hy with hy | hy
  · exact h.yielded y hy
  · rw [List.mem_singleton.mp hy]
    exact hevent

theorem Quiet.endsOnce (h : Quiet t) {event : TurnEvent} (hevent : event.isTerminal = true)
    (inSetup : Bool) : EndsOnce (t.emit event inSetup).yielded :=
  ⟨t.yielded, _, rfl, h.yielded, hevent⟩

/-- The invariant of a runtime whose turns are iterated to their end. -/
abbrev Tracked (r : ClaudeAgentSDKRuntime db) : Prop := Invariant OnTrack (fun r => ∀ f ∈ r.finished, FinishedOnce f) r

section Segments

theorem suspend_tracked (hfinished : ∀ f ∈ r.finished, FinishedOnce f) (ht : OnTrack r t) :
    Tracked (r.suspend t) :=
  ⟨fun _ ht' => (Option.some.inj ht') ▸ ht, hfinished⟩

theorem finish_tracked (hfinished : ∀ f ∈ r.finished, FinishedOnce f) (ht : EndsOnce t.yielded)
    (ending : GeneratorEnding) : Tracked (r.finish t ending) := by
  refine ⟨fun t' ht' => (by cases ht'), fun f hf => ?_⟩
  rcases List.mem_append.mp hf with hf | hf
  · exact hfinished f hf
  · rw [List.mem_singleton.mp hf]
    exact ht

/-- Yielding a terminal event. -/
theorem emitLast_tracked (hfinished : ∀ f ∈ r.finished, FinishedOnce f) (ht : Quiet t)
    {event : TurnEvent} (hevent : event.isTerminal = true) (inSetup terminal : Bool) :
    Tracked (r.suspend { t.emitLast event inSetup with terminal := terminal }) :=
  suspend_tracked hfinished ⟨ht.endsOnce hevent inSetup, ht.task⟩

theorem afterCancel_tracked (hfinished : ∀ f ∈ r.finished, FinishedOnce f) (ht : Quiet t)
    {site : CancelSite} (hsite : site ≠ .cancelledHandler) : Tracked (r.afterCancel t site) := by
  cases site with
  | pump => exact suspend_tracked (t := { t with pc := .receiving }) hfinished { ht with }
  | native phase =>
    exact suspend_tracked (t := { t with pc := .awaitingNativeTask phase }) hfinished { ht with }
  | cancelledHandler => exact absurd rfl hsite
  | errorHandler =>
    simp only [afterCancel, ht.terminal]
    exact emitLast_tracked hfinished ht rfl true t.terminal

theorem cancelSession_tracked (hfinished : ∀ f ∈ r.finished, FinishedOnce f) (ht : Quiet t)
    {site : CancelSite} (hsite : site ≠ .cancelledHandler) : Tracked (r.cancelSession t site) := by
  unfold cancelSession
  split
  next => exact afterCancel_tracked hfinished ht hsite
  next session _ =>
    split_ifs
    · exact afterCancel_tracked (t := { t with cancelReturned := true }) hfinished { ht with } hsite
    · refine ⟨fun t' ht' => ?_, hfinished⟩
      cases ht'
      cases site with
      | cancelledHandler => exact absurd rfl hsite
      | pump | native | errorHandler => exact { ht with }

theorem pumpHead_tracked (hfinished : ∀ f ∈ r.finished, FinishedOnce f) (ht : Quiet t)
    {poll : Option Poll} (hpoll : poll.all isCaught = true) : Tracked (r.pumpHead t poll) := by
  have hreceiving : Tracked (r.suspend { t with pc := .receiving }) :=
    suspend_tracked (t := { t with pc := .receiving }) hfinished { ht with }
  have hcancel : ∀ unavailable, Tracked (r.cancelSession
      { t with cancelSent := true, cancellationUnavailable := unavailable } .pump) :=
    fun unavailable => cancelSession_tracked
      (t := { t with cancelSent := true, cancellationUnavailable := unavailable }) hfinished
      { ht with } (by rintro ⟨⟩)
  unfold pumpHead
  split_ifs
  · exact suspend_tracked (t := { t with pc := .awaitingTask }) hfinished { ht with }
  · exact hreceiving
  · split
    · exact hreceiving
    · cases hpoll
    · cases hpoll
    · exact hreceiving
    · exact hcancel t.cancellationUnavailable
    · exact hcancel true
    · exact hcancel true

theorem passOn_tracked {events : List RuntimeEvent} (hfinished : ∀ f ∈ r.finished, FinishedOnce f)
    (ht : Quiet t) {poll : Option Poll} (hpoll : poll.all isCaught = true) :
    Tracked (r.passOn t poll events) := by
  induction events generalizing r with
  | nil => exact pumpHead_tracked hfinished ht hpoll
  | cons event rest ih =>
    have hyield : ∀ {e : TurnEvent} (visible : Bool), PassedOn e →
        OnTrack r { t.emit e true with pc := .yielding rest, visible := visible } :=
      fun visible he => ⟨ht.emit he true, ht.terminal, ht.task⟩
    cases event with
    | completed => exact ih hfinished
    | toolRequest requestId name =>
      have hobserve : (r.observe name).finished = r.finished := by
        unfold observe
        repeat' split
        all_goals rfl
      exact ih (hobserve ▸ hfinished)
    | usage receipt => exact suspend_tracked hfinished (hyield t.visible trivial)
    | content text => exact suspend_tracked hfinished (hyield true trivial)
    | compaction phase => exact suspend_tracked hfinished (hyield t.visible trivial)

theorem receive_tracked (hfinished : ∀ f ∈ r.finished, FinishedOnce f) (ht : Quiet t)
    {poll : Option Poll} (hpoll : poll.all isCaught = true) (projection : ProjectionResult) :
    Tracked (r.receive t projection poll) := by
  have hprovenance : Quiet { t with provenance := provenanceAfter t.provenance projection } :=
    { ht with }
  unfold receive
  dsimp only
  split_ifs
  · exact cancelSession_tracked hfinished hprovenance (by rintro ⟨⟩)
  · exact passOn_tracked hfinished hprovenance hpoll

theorem complete_tracked (hfinished : ∀ f ∈ r.finished, FinishedOnce f) (ht : Quiet t)
    (hcopies : (copyMessages t.request.messages).isSome = true) (result : SessionTurnResult) :
    Tracked (r.complete t result) := by
  obtain ⟨messages, hmessages⟩ := Option.isSome_iff_exists.mp hcopies
  unfold complete
  simp only [hmessages]
  exact suspend_tracked hfinished ⟨ht.endsOnce rfl true, ht.task⟩

theorem settle_tracked (hfinished : ∀ f ∈ r.finished, FinishedOnce f) (ht : Quiet t)
    {result : SessionTurnResult}
    (hcopies : t.cancellationUnavailable = false → result.outcome = .complete →
      result.externalSessionId = none → (copyMessages t.request.messages).isSome = true) :
    Tracked (r.settle t result) := by
  unfold settle
  split_ifs with havailable
  · exact emitLast_tracked hfinished ht rfl true true
  · rw [Bool.not_eq_true] at havailable
    split
    next houtcome =>
      split
      next id _ =>
        exact suspend_tracked (t := { t.emit (.state id) true with pc := .yieldedState result })
          hfinished ⟨ht.emit (e := .state id) trivial true, ht.terminal, ht.task⟩
      next hid => exact complete_tracked hfinished ht (hcopies havailable houtcome hid) result
    all_goals exact emitLast_tracked hfinished ht rfl true true

theorem resume_tracked {context : RuntimeContext db} {signal : Signal} {poll : Option Poll}
    {s : ClaudeAgentSDKRuntime db} (hguard : Undisturbed context r (.generator signal poll))
    (hturn : r.turn = some t) (ht : OnTrack r t) (hfinished : ∀ f ∈ r.finished, FinishedOnce f)
    (hresume : r.resume t signal poll = some s) : Tracked s := by
  obtain ⟨hsignal, hcontained⟩ := Bool.and_eq_true_iff.mp hguard
  obtain ⟨hpoll, hbuilds⟩ := Bool.and_eq_true_iff.mp hcontained
  have hcopies : buildsCompletion t = true → (copyMessages t.request.messages).isSome = true := by
    intro hcompletion
    simpa [hturn, hcompletion] using hbuilds
  unfold OnTrack at ht
  cases resumed_of_resume hresume with
  | @cancelReturned site hpc =>
    rw [hpc] at ht
    have hsite : site ≠ .cancelledHandler := by
      rintro rfl
      exact ht
    have hquiet : Quiet t := by
      cases site with
      | cancelledHandler => exact absurd rfl hsite
      | pump | native | errorHandler => exact ht
    exact afterCancel_tracked (r := r.closeSession) (t := { t with cancelReturned := true })
      hfinished { hquiet with } hsite
  | handlerCancelled | cancelCancelled | receiveCancelled => cases hsignal
  | @received projection rest hpc hqueue =>
    rw [hpc] at ht
    exact receive_tracked (t := { t with queue := rest }) hfinished { ht with } hpoll projection
  | timedOut hpc =>
    rw [hpc] at ht
    exact pumpHead_tracked hfinished ht hpoll
  | passedOn hpc =>
    rw [hpc] at ht
    exact passOn_tracked hfinished ht hpoll
  | settled hpc htask =>
    rw [hpc] at ht
    exact settle_tracked hfinished ht fun havailable houtcome hid =>
      hcopies (by simp [buildsCompletion, hpc, htask, havailable, houtcome, hid])
  | nativeFailed hpc htask =>
    rw [hpc] at ht
    exact emitLast_tracked hfinished ht rfl true true
  | taskCancelled hpc htask =>
    rcases hpc with hpc | ⟨phase, hpc⟩ <;> rw [hpc] at ht <;> exact absurd htask ht.task
  | taskRaised hpc htask =>
    rcases hpc with hpc | ⟨phase, hpc⟩ <;> rw [hpc] at ht <;>
      exact cancelSession_tracked hfinished ht (by rintro ⟨⟩)
  | stateTaken hpc =>
    rw [hpc] at ht
    exact complete_tracked hfinished ht (hcopies (by simp [buildsCompletion, hpc])) _
  | exhausted hpc =>
    rw [hpc] at ht
    exact finish_tracked hfinished ht.1 .over
  | closed hpc => cases hsignal

theorem bindTurn_tracked (hfinished : ∀ f ∈ r.finished, FinishedOnce f) (ht : Quiet t) :
    Tracked (r.bindTurn t) := by
  unfold bindTurn
  dsimp only
  split
  next => exact cancelSession_tracked (t := { t with bridge := .absent }) hfinished { ht with } (by rintro ⟨⟩)
  next bridge _ =>
    split
    next => exact cancelSession_tracked (t := { t with bridge := .bound }) hfinished { ht with } (by rintro ⟨⟩)
    next bound _ =>
      exact suspend_tracked (r := { r with bridge := some bound }) hfinished
        ⟨ht.yielded, ht.terminal, by simp⟩

theorem setup_tracked (host : RuntimeHost) (answers : StartAnswers)
    (hfinished : ∀ f ∈ r.finished, FinishedOnce f) (ht : Quiet t) :
    Tracked (r.setup t host answers) := by
  have hsetup := setUp_of_setup r t host answers
  generalize r.setup t host answers = s at hsetup ⊢
  cases hsetup with
  | @failed kept bridge hsame hsession =>
    exact afterCancel_tracked (t := { t with bridge }) (hsame.finished ▸ hfinished) { ht with }
      (by rintro ⟨⟩)
  | changed => exact emitLast_tracked hfinished ht rfl true t.terminal
  | bound hsame => exact bindTurn_tracked (hsame.finished ▸ hfinished) ht

theorem startTurn_tracked {context : RuntimeContext db} {request : RuntimeTurnRequest db}
    {host : RuntimeHost} {answers : StartAnswers}
    (hguard : Undisturbed context r (.start request host answers))
    (hfinished : ∀ f ∈ r.finished, FinishedOnce f) :
    Tracked (r.startTurn context request host answers) := by
  have hquiet : Quiet (r.newTurn request) := ⟨fun y hy => (by cases hy), rfl, by rintro ⟨⟩⟩
  obtain ⟨authorized, result, hauthorized, hbegun⟩ := begun_of_startTurn context r request host answers
  obtain ⟨log, rfl⟩ := hauthorized.eq
  generalize r.startTurn context request host answers = s at hbegun ⊢
  generalize hs : { r.prepare with preflightRequest := none, authorizations := log } = s' at hbegun
  have hkept : ∀ f ∈ s'.finished, FinishedOnce f := by rw [← hs]; exact hfinished
  cases hbegun with
  | refused failure => exact emitLast_tracked hkept hquiet rfl false false
  | cancelled => exact emitLast_tracked hkept hquiet rfl false false
  | escaped hraises =>
    obtain ⟨hprompt', hpoll'⟩ := Bool.and_eq_true_iff.mp hguard
    rcases hraises with ⟨cancelled, hpoll⟩ | hprompt
    · simp [isContained, hpoll, isCaught] at hpoll'
    · have hraised : buildSdkTurnInput context.library request.messages = .error .escaped := hprompt
      simp [isIterated, hraised] at hprompt'
  | entered => exact setup_tracked (r := s'.enter (r.newTurn request)) host answers hkept hquiet

end Segments

/-- The property looks at where the turn is suspended, at what it has yielded, at its flag
and at how its task ended. -/
theorem OnTrack.transfer {s : ClaudeAgentSDKRuntime db} {t' : Turn db} (ht : OnTrack r t)
    (hpc : t'.pc = t.pc) (hyielded : t'.yielded = t.yielded) (hterminal : t'.terminal = t.terminal)
    (htask : t.task ≠ some (.ended .raisedCancelled) →
      t'.task ≠ some (.ended .raisedCancelled)) : OnTrack s t' := by
  have hquiet : Quiet t → Quiet t' := fun h =>
    ⟨hyielded ▸ h.yielded, hterminal.trans h.terminal, htask h.task⟩
  unfold OnTrack at ht ⊢
  rw [hpc]
  cases hcase : t.pc with
  | cancelling site =>
    rw [hcase] at ht
    cases site with
    | cancelledHandler => exact ht
    | pump | native | errorHandler => exact hquiet ht
  | yieldedTerminal =>
    rw [hcase] at ht
    exact ⟨hyielded ▸ ht.1, htask ht.2⟩
  | receiving | yielding | awaitingTask | awaitingNativeTask | yieldedState =>
    rw [hcase] at ht
    exact hquiet ht

/-- Turns that are iterated to their end stay on track. -/
theorem onTrack_inductive (context : RuntimeContext db) :
    Inductive context (Undisturbed context) OnTrack
      (fun r => ∀ f ∈ r.finished, FinishedOnce f) where
  init := fun f hf => by cases hf
  history := fun hsame hfinished => hsame.finished ▸ hfinished
  execute := id
  orphanEnds := id
  frame := fun _ ht => ht
  produce := fun _ ht => ht.transfer rfl rfl rfl id
  taskEnds := fun hguard _ ht => ht.transfer rfl rfl rfl fun _ hended => by
    cases hended
    cases hguard
  tool := fun _ _ _ ht => ht.transfer rfl rfl rfl id
  start := fun hguard _ hfinished => startTurn_tracked hguard hfinished
  resume := fun hguard hturn ht hfinished hresume =>
    resume_tracked hguard hturn ht hfinished hresume

/-- **Exactly one terminal event.** In every run in which turns are iterated to their end,
the host and the task raise nothing outside `Exception`, and completions are built from
conversations that `dict` can copy, every turn that is over has yielded exactly one
terminal event, as its last one, and no tool request or completion of the projector. -/
theorem one_terminal_event (context : RuntimeContext db) {r : ClaudeAgentSDKRuntime db}
    (hr : (runtimeSystem context).ReachableUnder (Undisturbed context) r) :
    ∀ f ∈ r.finished, EndsOnce f.turn.yielded :=
  ((onTrack_inductive context).reachable hr).history

theorem one_terminal_event_completed : ∃ r, (runtimeSystem textOnlyContext).Reachable r ∧
    r.finished.length = 1 ∧ ∀ f ∈ r.finished, EndsOnce f.turn.yielded := by
  obtain ⟨r, hr, hlength⟩ := System.exists_reachableUnder_of_check
    (S := runtimeSystem textOnlyContext) (P := fun r => r.finished.length = 1)
    (isUndisturbed textOnlyContext) (completedTurn [userMessage] ++ [.generator .next none]) (by decide)
  exact ⟨r, hr.reachable, hlength, one_terminal_event textOnlyContext hr⟩

/-- A message that is no mapping stands before the user's.  The task completes, `dict`
raises, and the turn is over without an event. -/
theorem completion_lost : ∃ r, (runtimeSystem textOnlyContext).ReachableUnder
      (fun _ label => isIterated textOnlyContext label = true) r ∧
    ¬ ∀ f ∈ r.finished, EndsOnce f.turn.yielded := by
  obtain ⟨r, hr, f, hf, hyielded⟩ := System.exists_reachableUnder_of_check
    (S := runtimeSystem textOnlyContext) (P := fun r => ∃ f ∈ r.finished, f.turn.yielded.length = 0)
    (fun _ => isIterated textOnlyContext)
    (completedTurn [.int 42, userMessage] ++ [.generator .returned none]) (by decide)
  refine ⟨r, hr, fun hends => ?_⟩
  obtain ⟨before, last, heq, -⟩ := hends f hf
  rw [heq, List.length_append, List.length_singleton] at hyielded
  omega

end HermesClaude.Runtime.ClaudeAgentSDKRuntime
