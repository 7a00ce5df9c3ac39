/-
# Abandoned turns

When the generator of a turn is over, the task it created should be over as well, or
its session cancelled; otherwise the task goes on to execute host tools that nobody
waits for, and the next turn waits behind it.

`run_turn` cancels the session in its handlers of `CancelledError` and of `Exception`.
Closing the generator raises neither, nor does every exception of the host, and a second
cancellation can end the handler before the session is cancelled.
-/

import HermesClaude.Runtime.Invariants

namespace HermesClaude.Runtime

open HermesClaude.Python HermesClaude.Bridge HermesClaude.Content HermesClaude.Session
  HermesClaude.Library

variable {db : UnicodeDatabase}

/-- Where the turn does not go on before its task is over or its session cancelled. -/
def GeneratorPc.isPastTask : GeneratorPc → Bool
  | .awaitingTask | .awaitingNativeTask _ | .yieldedState _ | .yieldedTerminal => true
  | .cancelling _ | .receiving | .yielding _ => false

namespace ClaudeAgentSDKRuntime

/-- Nothing is left of the turns that are over: no task, no tool run for one of them, and
no turn that waits behind a task. -/
structure NothingLeft (r : ClaudeAgentSDKRuntime db) : Prop where
  orphans : r.orphans = []
  finished : ∀ f ∈ r.finished, f.abandoned = false ∧ f.turn.behind = false
  toolRuns : ∀ x ∈ r.toolRuns, x.abandoned = false

/-- While the task of a turn runs on a session that was not cancelled, the generator is
not closed, the host raises nothing outside `Exception` and `CancelledError`, and no
cancellation reaches an exception handler. -/
def isReleased (r : ClaudeAgentSDKRuntime db) : Label db → Bool
  | .generator .close _ => r.turn.all fun t => t.pc.isPastTask || !leavesTask t
  | .generator .cancelled _ => r.turn.all fun t =>
      match t.pc with
      | .cancelling site => !site.isHandler || !leavesTask t
      | _ => true
  | .generator _ (some (.escapes false)) => r.turn.all fun t => t.cancelSent || !leavesTask t
  | _ => true

/-- `isReleased`, as a condition. -/
def Released (r : ClaudeAgentSDKRuntime db) (label : Label db) : Prop :=
  isReleased r label = true

/-- What a turn keeps while it runs: no task was left when it began, and its task has a
session. -/
structure Held (r : ClaudeAgentSDKRuntime db) (t : Turn db) : Prop where
  behind : t.behind = false
  session : t.task.isSome = true → r.session.isSome = true

/-- The invariant of a turn. -/
structure Guarded (r : ClaudeAgentSDKRuntime db) (t : Turn db) : Prop where
  held : Held r t
  past : t.pc.isPastTask = true → leavesTask t = false

/-- The invariant of a runtime that abandons no task. -/
abbrev Clean (r : ClaudeAgentSDKRuntime db) : Prop := Invariant Guarded NothingLeft r

variable {r : ClaudeAgentSDKRuntime db} {t : Turn db}

/-- A turn without a session has no task to leave. -/
theorem Held.leaves_of_session (h : Held r t) (hnone : r.session = none) :
    leavesTask t = false := by
  cases htask : t.task with
  | none => simp [leavesTask, htask]
  | some task =>
    have hsome := h.session (by rw [htask]; rfl)
    rw [hnone] at hsome
    cases hsome

section Segments

theorem suspend_clean (hleft : NothingLeft r) (ht : Guarded r t) : Clean (r.suspend t) :=
  ⟨fun _ ht' => (Option.some.inj ht') ▸ { ht with held := { ht.held with } }, { hleft with }⟩

/-- A generator that is over leaves nothing when its task is over or its session
cancelled. -/
theorem finish_clean (hleft : NothingLeft r) (hheld : Held r t) (hleaves : leavesTask t = false)
    (ending : GeneratorEnding) : Clean (r.finish t ending) := by
  refine ⟨fun t' ht' => (by cases ht'), ?_, fun f hf => ?_, hleft.toolRuns⟩
  · rw [finish, hleaves]
    exact hleft.orphans
  · rcases List.mem_append.mp hf with hf | hf
    · exact hleft.finished f hf
    · rw [List.mem_singleton.mp hf]
      exact ⟨hleaves, hheld.behind⟩

theorem emitLast_clean (hleft : NothingLeft r) (hheld : Held r t) (hleaves : leavesTask t = false)
    (event : TurnEvent) (inSetup terminal : Bool) :
    Clean (r.suspend { t.emitLast event inSetup with terminal := terminal }) :=
  suspend_clean hleft ⟨{ hheld with }, fun _ => hleaves⟩

theorem afterCancel_clean (hleft : NothingLeft r) (hheld : Held r t)
    (hleaves : leavesTask t = false) (site : CancelSite) : Clean (r.afterCancel t site) := by
  cases site with
  | pump =>
    exact suspend_clean (t := { t with pc := .receiving }) hleft ⟨{ hheld with }, by rintro ⟨⟩⟩
  | native phase =>
    exact suspend_clean (t := { t with pc := .awaitingNativeTask phase }) hleft
      ⟨{ hheld with }, fun _ => hleaves⟩
  | cancelledHandler => exact finish_clean hleft hheld hleaves .raised
  | errorHandler =>
    rw [afterCancel]
    split_ifs
    · exact finish_clean hleft hheld hleaves .over
    · exact emitLast_clean hleft hheld hleaves _ true t.terminal

/-- Cancelling a session comes back with no task to leave. -/
theorem cancelSession_clean (hleft : NothingLeft r) (hheld : Held r t) (site : CancelSite) :
    Clean (r.cancelSession t site) := by
  unfold cancelSession
  split
  next hnone => exact afterCancel_clean hleft hheld (hheld.leaves_of_session hnone) site
  next session hsome =>
    split_ifs
    · exact afterCancel_clean (t := { t with cancelReturned := true }) hleft { hheld with }
        (by simp [leavesTask]) site
    · refine ⟨fun t' ht' => ?_, { hleft with }⟩
      cases ht'
      exact ⟨⟨hheld.behind, fun _ => rfl⟩, by rintro ⟨⟩⟩

/-- The poll of a released step ends no turn whose task still runs. -/
theorem pumpHead_clean (hleft : NothingLeft r) (hheld : Held r t) {poll : Option Poll}
    (hpoll : poll = some (.escapes false) → t.cancelSent = false → leavesTask t = false) :
    Clean (r.pumpHead t poll) := by
  have hreceiving : Clean (r.suspend { t with pc := .receiving }) :=
    suspend_clean (t := { t with pc := .receiving }) hleft ⟨{ hheld with }, by rintro ⟨⟩⟩
  have hcancel : ∀ unavailable, Clean (r.cancelSession
      { t with cancelSent := true, cancellationUnavailable := unavailable } .pump) :=
    fun unavailable => cancelSession_clean
      (t := { t with cancelSent := true, cancellationUnavailable := unavailable }) hleft
      { hheld with } .pump
  unfold pumpHead
  split_ifs with hover hsent
  · have hended : t.task.any SessionTask.isRunning = false := by
      simpa using (Bool.and_eq_true_iff.mp hover).1
    refine suspend_clean (t := { t with pc := .awaitingTask }) hleft ⟨{ hheld with }, fun _ => ?_⟩
    simp [leavesTask, hended]
  · exact hreceiving
  · split
    · exact hreceiving
    · exact cancelSession_clean hleft hheld .cancelledHandler
    · exact finish_clean hleft hheld (hpoll rfl (by simpa using hsent)) .raised
    · exact hreceiving
    · exact hcancel t.cancellationUnavailable
    · exact hcancel true
    · exact hcancel true

theorem passOn_clean {events : List RuntimeEvent} (hleft : NothingLeft r) (hheld : Held r t)
    {poll : Option Poll}
    (hpoll : poll = some (.escapes false) → t.cancelSent = false → leavesTask t = false) :
    Clean (r.passOn t poll events) := by
  induction events generalizing r with
  | nil => exact pumpHead_clean hleft hheld hpoll
  | cons event rest ih =>
    have hyield : ∀ (e : TurnEvent) (visible : Bool),
        Guarded r { t.emit e true with pc := .yielding rest, visible := visible } :=
      fun e visible => ⟨{ hheld with }, by rintro ⟨⟩⟩
    cases event with
    | completed => exact ih hleft hheld
    | toolRequest requestId name =>
      have hobserve : NothingLeft (r.observe name) ∧ Held (r.observe name) t := by
        unfold observe
        repeat' split
        all_goals exact ⟨{ hleft with }, { hheld with }⟩
      exact ih hobserve.1 hobserve.2
    | usage receipt => exact suspend_clean hleft (hyield _ t.visible)
    | content text => exact suspend_clean hleft (hyield _ true)
    | compaction phase => exact suspend_clean hleft (hyield _ t.visible)

theorem receive_clean (hleft : NothingLeft r) (hheld : Held r t) {poll : Option Poll}
    (hpoll : poll = some (.escapes false) → t.cancelSent = false → leavesTask t = false)
    (projection : ProjectionResult) : Clean (r.receive t projection poll) := by
  have hprovenance : Held r { t with provenance := provenanceAfter t.provenance projection } :=
    { hheld with }
  unfold receive
  dsimp only
  split_ifs
  · exact cancelSession_clean hleft hprovenance _
  · exact passOn_clean hleft hprovenance hpoll

theorem complete_clean (hleft : NothingLeft r) (hheld : Held r t) (hleaves : leavesTask t = false)
    (result : SessionTurnResult) : Clean (r.complete t result) := by
  unfold complete
  dsimp only
  split
  · exact cancelSession_clean (t := { t with terminal := true }) hleft { hheld with } _
  · exact emitLast_clean hleft hheld hleaves _ true true

theorem settle_clean (hleft : NothingLeft r) (hheld : Held r t) (hleaves : leavesTask t = false)
    (result : SessionTurnResult) : Clean (r.settle t result) := by
  unfold settle
  split_ifs
  · exact emitLast_clean hleft hheld hleaves _ true true
  · split
    · split
      next id _ =>
        exact suspend_clean (t := { t.emit (.state id) true with pc := .yieldedState result })
          hleft ⟨{ hheld with }, fun _ => hleaves⟩
      next => exact complete_clean hleft hheld hleaves result
    all_goals exact emitLast_clean hleft hheld hleaves _ true true

theorem resume_clean {signal : Signal} {poll : Option Poll} {s : ClaudeAgentSDKRuntime db}
    (hguard : Released r (.generator signal poll)) (hturn : r.turn = some t) (ht : Guarded r t)
    (hleft : NothingLeft r) (hresume : r.resume t signal poll = some s) : Clean s := by
  have hheld := ht.held
  have hpoll : signal ≠ .close → signal ≠ .cancelled → poll = some (.escapes false) →
      t.cancelSent = false → leavesTask t = false := by
    rintro hopen hrunning rfl hsent
    cases signal with
    | close => exact absurd rfl hopen
    | cancelled => exact absurd rfl hrunning
    | next | returned | timedOut => simpa [Released, isReleased, hturn, hsent] using hguard
  cases resumed_of_resume hresume with
  | @cancelReturned site hpc =>
    have hclosed : Held r.closeSession { t with cancelReturned := true } :=
      ⟨hheld.behind, fun htask => by simpa [closeSession] using hheld.session htask⟩
    exact afterCancel_clean (r := r.closeSession) { hleft with } hclosed (by simp [leavesTask]) site
  | handlerCancelled hpc hhandler =>
    have hleaves : leavesTask t = false := by
      simpa [Released, isReleased, hturn, hpc, hhandler] using hguard
    exact finish_clean hleft hheld hleaves .raised
  | cancelCancelled | receiveCancelled => exact cancelSession_clean hleft hheld .cancelledHandler
  | @received projection rest =>
    exact receive_clean (t := { t with queue := rest }) hleft { hheld with }
      (hpoll (by rintro ⟨⟩) (by rintro ⟨⟩)) projection
  | timedOut => exact pumpHead_clean hleft hheld (hpoll (by rintro ⟨⟩) (by rintro ⟨⟩))
  | passedOn => exact passOn_clean hleft hheld (hpoll (by rintro ⟨⟩) (by rintro ⟨⟩))
  | settled hpc => exact settle_clean hleft hheld (ht.past (by rw [hpc]; rfl)) _
  | nativeFailed hpc =>
    exact emitLast_clean hleft hheld (ht.past (by rw [hpc]; rfl)) _ true true
  | taskCancelled => exact cancelSession_clean hleft hheld .cancelledHandler
  | taskRaised => exact cancelSession_clean hleft hheld .errorHandler
  | stateTaken hpc => exact complete_clean hleft hheld (ht.past (by rw [hpc]; rfl)) _
  | exhausted hpc => exact finish_clean hleft hheld (ht.past (by rw [hpc]; rfl)) .over
  | closed hpc =>
    have hleaves : leavesTask t = false := by
      cases hpast : t.pc.isPastTask with
      | true => exact ht.past hpast
      | false => simpa [Released, isReleased, hturn, hpast] using hguard
    exact finish_clean hleft hheld hleaves .over

theorem bindTurn_clean (hleft : NothingLeft r) (hheld : Held r t) (hsome : r.session.isSome = true) :
    Clean (r.bindTurn t) := by
  unfold bindTurn
  dsimp only
  split
  · exact cancelSession_clean (t := { t with bridge := .absent }) hleft { hheld with } _
  · split
    · exact cancelSession_clean (t := { t with bridge := .bound }) hleft { hheld with } _
    next bound _ =>
      exact suspend_clean (r := { r with bridge := some bound }) { hleft with }
        ⟨⟨hheld.behind, fun _ => hsome⟩, by rintro ⟨⟩⟩

/-- A turn that begins with nothing left of earlier turns is not behind. -/
theorem newTurn_held (hleft : NothingLeft r) (request : RuntimeTurnRequest db)
    (s : ClaudeAgentSDKRuntime db) : Held s (r.newTurn request) :=
  ⟨by simp [newTurn, hleft.orphans], by rintro ⟨⟩⟩

theorem startTurn_clean {context : RuntimeContext db} {request : RuntimeTurnRequest db}
    {host : RuntimeHost} {answers : StartAnswers} (hleft : NothingLeft r) :
    Clean (r.startTurn context request host answers) := by
  obtain ⟨authorized, result, hauthorized, hbegun⟩ := begun_of_startTurn context r request host answers
  obtain ⟨log, rfl⟩ := hauthorized.eq
  generalize r.startTurn context request host answers = s at hbegun ⊢
  generalize hs : { r.prepare with preflightRequest := none, authorizations := log } = s' at hbegun
  have hkept : NothingLeft s' := by rw [← hs]; exact { hleft with }
  have hheld := fun s => newTurn_held hleft request s
  have hleaves : leavesTask (r.newTurn request) = false := rfl
  cases hbegun with
  | refused failure => exact emitLast_clean hkept (hheld _) hleaves _ false false
  | cancelled => exact emitLast_clean hkept (hheld _) hleaves _ false false
  | escaped => exact finish_clean hkept (hheld _) hleaves .raised
  | entered =>
    have hsetup := setUp_of_setup (s'.enter (r.newTurn request)) (r.newTurn request) host answers
    generalize (s'.enter (r.newTurn request)).setup (r.newTurn request) host answers = s
      at hsetup ⊢
    cases hsetup with
    | @failed kept bridge hsame =>
      exact afterCancel_clean (t := { r.newTurn request with bridge })
        ⟨hsame.orphans.trans hkept.orphans, hsame.finished ▸ hkept.finished,
          hsame.toolRuns ▸ hkept.toolRuns⟩ { hheld kept with } hleaves _
    | changed =>
      exact emitLast_clean (r := s'.enter (r.newTurn request)) { hkept with } (hheld _) hleaves _
        true false
    | @bound kept hsame _ hsession =>
      exact bindTurn_clean ⟨hsame.orphans.trans hkept.orphans, hsame.finished ▸ hkept.finished,
        hsame.toolRuns ▸ hkept.toolRuns⟩ (hheld kept) hsession

end Segments

/-- Released steps leave nothing behind. -/
theorem guarded_inductive (context : RuntimeContext db) :
    Inductive context Released Guarded NothingLeft where
  init := ⟨rfl, fun f hf => (by cases hf), fun x hx => (by cases hx)⟩
  history := fun hsame hleft => ⟨hsame.orphans.trans hleft.orphans,
    hsame.finished ▸ hleft.finished, hsame.toolRuns ▸ hleft.toolRuns⟩
  execute := fun {r bridge turn} hleft => by
    refine ⟨hleft.orphans, hleft.finished, fun x hx => ?_⟩
    rcases List.mem_append.mp hx with hx | hx
    · exact hleft.toolRuns x hx
    · rw [List.mem_singleton.mp hx]
      simp [hleft.orphans]
  orphanEnds := fun hleft => ⟨by simp [hleft.orphans], hleft.finished, hleft.toolRuns⟩
  frame := fun hframe ht => ⟨⟨ht.held.behind, fun htask => by
    rw [hframe.session]; exact ht.held.session htask⟩, ht.past⟩
  produce := fun _ ht => { ht with held := { ht.held with } }
  taskEnds := fun _ htask ht => ⟨⟨ht.held.behind, fun _ => ht.held.session (by rw [htask]; rfl)⟩,
    fun _ => by simp [leavesTask, SessionTask.isRunning]⟩
  tool := fun _ _ _ ht => ⟨{ ht.held with }, ht.past⟩
  start := fun _ _ hleft => startTurn_clean hleft
  resume := fun hguard hturn ht hleft hresume => resume_clean hguard hturn ht hleft hresume

/-- **No turn is abandoned.** In every run whose steps are released, a generator that is
over has left no running task on a session that was not cancelled, no host tool is
executed for a turn that was abandoned, and no turn begins behind one. -/
theorem no_turn_abandoned (context : RuntimeContext db) {r : ClaudeAgentSDKRuntime db}
    (hr : (runtimeSystem context).ReachableUnder Released r) :
    NothingLeft r ∧ ∀ t, r.turn = some t → t.behind = false :=
  have hclean := (guarded_inductive context).reachable hr
  ⟨hclean.history, fun t ht => (hclean.turn t ht).held.behind⟩

theorem no_turn_abandoned_cancelled : ∃ r, (runtimeSystem textOnlyContext).Reachable r ∧
    r.finished.length = 1 ∧ NothingLeft r ∧ ∀ t, r.turn = some t → t.behind = false := by
  obtain ⟨r, hr, hlength⟩ := System.exists_reachableUnder_of_check
    (S := runtimeSystem textOnlyContext) (P := fun r => r.finished.length = 1) isReleased
    [.start (plainRequest 0 [userMessage]) plainHost plainAnswers, .generator .cancelled none,
      .generator .returned none] (by decide)
  exact ⟨r, hr.reachable, hlength, no_turn_abandoned textOnlyContext hr⟩

/-- The host closes the generator after the first content.  The task goes on and the SDK
has a tool executed for the turn. -/
theorem closed_generator_orphans : ∃ r, (runtimeSystem textOnlyContext).Reachable r ∧
    ¬ NothingLeft r := by
  obtain ⟨r, hr, x, hx, habandoned⟩ := System.exists_reachable_of_run
    (S := runtimeSystem textOnlyContext) (P := fun r => ∃ x ∈ r.toolRuns, x.abandoned = true)
    [.start deployRequest plainHost plainAnswers,
      .produce { events := [.content (lit "working on it")] }, .generator .returned none,
      .generator .close none, .tool 0] ⟨_, rfl, _, List.mem_singleton_self _, rfl⟩
  refine ⟨r, hr, fun hleft => ?_⟩
  rw [hleft.toolRuns x hx] at habandoned
  cases habandoned

end ClaudeAgentSDKRuntime

end HermesClaude.Runtime
