/-
# What a session does to its lifecycle

Turns, `close` calls, hooks and the watchdog all work on one compaction lifecycle.  Each
step of a session is a step of it or leaves it alone, so the lifecycle of a reachable
session is one that its own operations reach.

Apart from binding a turn, all steps but two are quiet: they report no watchdog, and they
leave alone a watchdog that is about to notify its turn.  The two are the watchdog's own.
-/

import HermesClaude.Session.CompactionPhases
import HermesClaude.Session.Outcome

namespace HermesClaude.Session

open HermesClaude.Python HermesClaude.Billing HermesClaude.Library

namespace Lifecycle

/-- What an operation of a lifecycle other than the watchdog's does in one step. -/
inductive Moves (c : Lifecycle) : Lifecycle → Prop
  | stays : Moves c c
  | starts (t : Trigger) (free : c.op = none) : Moves c (c.start t)
  | completes (t : Trigger) (free : c.op = none) : Moves c (c.complete t)
  | ends (completed closing : Bool) (free : c.op = none) :
      Moves c (c.endTurn completed (.ofEnd closing))
  | resumes (inside : c.op.isSome = true) (other : c.heldBy .watchdog = false) :
      Moves c c.resume
  | abandons (inside : c.op.isSome = true) (other : c.heldBy .watchdog = false) :
      Moves c c.abandon

/-- A move is a step of the lifecycle, if it is one at all. -/
theorem Moves.next {c d : Lifecycle} (h : Moves c d) :
    d = c ∨ ∃ label, c.next label = some d := by
  cases h with
  | stays => exact .inl rfl
  | starts t free => exact .inr ⟨.start t, by simp [Lifecycle.next, free]⟩
  | completes t free => exact .inr ⟨.complete t, by simp [Lifecycle.next, free]⟩
  | ends completed closing free =>
    exact .inr ⟨.endTurn completed closing, by simp [Lifecycle.next, free]⟩
  | resumes inside => exact .inr ⟨.resume, by simp [Lifecycle.next, inside]⟩
  | abandons inside => exact .inr ⟨.cancel, by simp [Lifecycle.next, inside]⟩

theorem isSome_of_heldBy {c : Lifecycle} {finisher : Finisher} (h : c.heldBy finisher = true) :
    c.op.isSome = true := by
  cases hop : c.op with
  | none => simp [heldBy, hop] at h
  | some op => rfl

/-- The lock has one holder. -/
theorem not_heldBy_watchdog {c : Lifecycle} {finisher : Finisher} (h : c.heldBy finisher = true)
    (hfinisher : finisher ≠ .watchdog) : c.heldBy .watchdog = false := by
  rcases hop : c.op with _ | _ | ⟨event, owner⟩ | owner <;> simp_all [heldBy]

theorem Moves.resumes_of_heldBy {c : Lifecycle} {finisher : Finisher}
    (h : c.heldBy finisher = true) (hfinisher : finisher ≠ .watchdog) :
    Moves c c.resume :=
  .resumes (isSome_of_heldBy h) (not_heldBy_watchdog h hfinisher)

theorem Moves.abandons_of_heldBy {c : Lifecycle} {finisher : Finisher}
    (h : c.heldBy finisher = true) (hfinisher : finisher ≠ .watchdog) :
    Moves c c.abandon :=
  .abandons (isSome_of_heldBy h) (not_heldBy_watchdog h hfinisher)

end Lifecycle

namespace SDKSession

open Lifecycle (Moves)

variable {s t : SDKSession} {C : SessionContext}

/-! ## Functions that leave the lifecycle alone -/

@[simp]
theorem put_compaction (s : SDKSession) (item : Item) : (s.put item).compaction = s.compaction :=
  rfl

@[simp]
theorem leave_compaction (s : SDKSession) (ending : Ending) :
    (s.leave ending).compaction = s.compaction := rfl

@[simp]
theorem retire_compaction (s : SDKSession) (ending : Ending) :
    (s.retire ending).compaction = s.compaction := rfl

@[simp]
theorem stopReader_compaction (s : SDKSession) : (stopReader s).1.compaction = s.compaction := by
  unfold stopReader
  split_ifs <;> rfl

@[simp]
theorem dropClient_compaction (s : SDKSession) : (dropClient s).1.compaction = s.compaction := by
  unfold dropClient
  simp only
  split_ifs
  · rfl
  · exact stopReader_compaction _

@[simp]
theorem resumeAfter_compaction (s : SDKSession) (after : After) :
    (s.resumeAfter after).compaction = s.compaction := by
  cases after with
  | startFailed cancelled => cases cancelled <;> rfl
  | leave | finish | handled | reraise => rfl

@[simp]
theorem atStage_compaction (s : SDKSession) (stage : Option CloseStage) (after : After) :
    (s.atStage stage after).compaction = s.compaction := by
  cases stage with
  | none => exact resumeAfter_compaction s after
  | some stage => rfl

@[simp]
theorem enterClose_compaction (s : SDKSession) (after : After) :
    (s.enterClose after).compaction = s.compaction := by
  unfold enterClose
  split
  · rename_i u stage hadvance
    rw [atStage_compaction]
    simp only [closeAdvance] at hadvance
    split_ifs at hadvance <;> cases hadvance <;> rfl
  · exact atStage_compaction s _ _

@[simp]
theorem interruptThenClose_compaction (s : SDKSession) (after : After) :
    (s.interruptThenClose after).compaction = s.compaction := by
  unfold interruptThenClose
  split_ifs
  · rfl
  · exact enterClose_compaction s after

@[simp]
theorem failTurn_compaction (s : SDKSession) (locals : Locals) :
    (s.failTurn locals).compaction = s.compaction := interruptThenClose_compaction s _

@[simp]
theorem timeOut_compaction (s : SDKSession) : s.timeOut.compaction = s.compaction :=
  interruptThenClose_compaction s _

@[simp]
theorem dispatch_compaction (s : SDKSession) (locals : Locals) (position : Nat)
    (message : PyValue) (projection : Projection) :
    (s.dispatch C locals position message projection).compaction = s.compaction := by
  unfold dispatch
  simp only
  split_ifs
  · rfl
  · cases projection with
    | raises => exact failTurn_compaction _ _
    | projects => rfl
  · rfl

@[simp]
theorem handleItem_compaction (s : SDKSession) (locals : Locals) (item : Item)
    (projection : Projection) :
    (s.handleItem C locals item projection).compaction = s.compaction := by
  unfold handleItem
  split_ifs
  · rfl
  · cases item with
    | message =>
      simp only
      split_ifs
      · rfl
      · exact dispatch_compaction s _ _ _ _
    | cancelled | streamEnded => rfl
    | nativeToolViolation | postTerminalOutput | compactionWatchdogExpired =>
      exact interruptThenClose_compaction s _

@[simp]
theorem settle_compaction (s : SDKSession) (locals : Locals) (message : PyValue)
    (decision : BillingDecision) : (s.settle locals message decision).compaction = s.compaction := by
  unfold settle
  simp only
  split
  · exact interruptThenClose_compaction _ _
  · exact interruptThenClose_compaction _ _
  · unfold concludeResult
    simp only
    split
    · exact failTurn_compaction _ _
    · rfl
    · split <;> rfl

@[simp]
theorem startCleanup_compaction (s : SDKSession) : s.startCleanup.compaction = s.compaction := by
  unfold startCleanup
  split_ifs
  · rfl
  · exact interruptThenClose_compaction _ _

@[simp]
theorem endReader_compaction (s : SDKSession) (failed : Bool) :
    (s.endReader failed).compaction = s.compaction := rfl

@[simp]
theorem receive_compaction (s : SDKSession) (message : PyValue) :
    (s.receive C message).compaction = s.compaction := by
  unfold receive
  split
  · rfl
  · simp only [rejectNative]
    split_ifs <;> rfl
  · simp only [deliver]
    split_ifs <;> rfl

/-! ## Functions that move the lifecycle -/

theorem closeAdvance_moves {stage : CloseStage} {next : SDKSession × Option CloseStage}
    (h : s.closeAdvance stage = some next) :
    Moves s.compaction next.1.compaction := by
  cases stage with
  | acquiring =>
    simp only [closeAdvance] at h
    split_ifs at h <;> cases h <;> exact .stays
  | endingCompaction =>
    simp only [closeAdvance] at h
    split_ifs at h with hheld hinside hfree hwaits <;> cases h
    · exact .resumes_of_heldBy hheld (by decide)
    · rw [dropClient_compaction]
      exact .resumes_of_heldBy hheld (by decide)
    · exact .ends false true (by simpa using hfree)
    · rw [dropClient_compaction]
      exact .ends false true (by simpa using hfree)
  | disconnecting =>
    cases h
    rw [stopReader_compaction]
    exact .stays
  | stoppingReader =>
    cases h
    exact .stays

/-- A turn in its teardown abandons at most its own `close`. -/
theorem cancelTeardown_moves (s : SDKSession) (after : After) :
    Moves s.compaction (s.cancelTeardown after).compaction := by
  have habandoned : Moves s.compaction
      (if s.holdsCompaction then { s with compaction := s.compaction.abandon } else s).compaction := by
    split_ifs with hholds
    · have hclose : s.compaction.heldBy .close = true := by
        unfold holdsCompaction at hholds
        split at hholds
        · exact hholds
        · cases hholds
      exact .abandons_of_heldBy hclose (by decide)
    · exact .stays
  cases after with
  | reraise => exact .stays
  | leave | startFailed | finish | handled => exact habandoned

theorem resumeBoundary_moves {locals : Locals} {position : Nat} {message : PyValue}
    {projection : Projection} (h : s.resumeBoundary C locals position message projection = some t) :
    Moves s.compaction t.compaction := by
  simp only [resumeBoundary] at h
  split_ifs at h with hheld hinside hfree hwaits <;> cases h
  · exact .resumes_of_heldBy hheld (by decide)
  · rw [dispatch_compaction]
    exact .resumes_of_heldBy hheld (by decide)
  · exact .completes _ (by simpa using hfree)
  · rw [dispatch_compaction]
    exact .completes _ (by simpa using hfree)

theorem resumeRetiring_moves {ending : Ending} (h : s.resumeRetiring ending = some t) :
    Moves s.compaction t.compaction := by
  simp only [resumeRetiring] at h
  split_ifs at h with hheld hinside hfree hwaits <;> cases h
  · exact .resumes_of_heldBy hheld (by decide)
  · exact .resumes_of_heldBy hheld (by decide)
  · exact .ends _ false (by simpa using hfree)
  · exact .ends _ false (by simpa using hfree)

theorem cancelTurn_moves (s : SDKSession) :
    Moves s.compaction s.cancelTurn.compaction := by
  unfold cancelTurn
  simp only
  split_ifs with hheld
  · exact .abandons_of_heldBy hheld (by decide)
  · exact .stays

/-- Publishing an inbox binds the turn's callbacks or leaves the lifecycle alone. -/
theorem publish_binds (s : SDKSession) :
    s.publish.compaction = s.compaction ∨
      s.compaction.active = false ∧ s.publish.compaction = s.compaction.bind s.turnId := by
  unfold publish
  split_ifs
  · exact .inl rfl
  · simp only
    split_ifs with hactive
    · exact .inl rfl
    · exact .inr ⟨by simpa using hactive, rfl⟩
    · exact .inr ⟨by simpa using hactive, interruptThenClose_compaction _ _⟩

theorem enter_binds (s : SDKSession) (constructs : Bool) :
    (s.enter constructs).compaction = s.compaction ∨ s.compaction.active = false ∧
      (s.enter constructs).compaction = s.compaction.bind (s.turnId + 1) := by
  unfold enter
  simp only
  split_ifs
  · exact .inl rfl
  · exact .inl (interruptThenClose_compaction _ _)
  · exact .inl (interruptThenClose_compaction _ _)
  · exact publish_binds { s with turnId := s.turnId + 1, inbox := Channel.empty }
  · exact .inl rfl
  · exact .inl rfl

theorem LoopMove.moves {pc : TurnPc} (hmove : LoopMove C s pc t) :
    Moves s.compaction t.compaction := by
  cases hmove with
  | cancels => exact cancelTurn_moves s
  | fails =>
    rw [failTurn_compaction]
    exact .stays
  | expires =>
    rw [timeOut_compaction]
    exact .stays
  | takes =>
    rw [handleItem_compaction]
    exact .stays
  | resumes hresumed => exact resumeBoundary_moves hresumed
  | blocks =>
    rw [interruptThenClose_compaction]
    exact .stays
  | refuses =>
    rw [enterClose_compaction]
    exact .stays
  | raises =>
    rw [failTurn_compaction]
    exact .stays
  | settles =>
    rw [settle_compaction]
    exact .stays
  | cleans =>
    rw [startCleanup_compaction]
    exact .stays
  | queries | waits | projects | admits | collects => exact .stays

/-- Past its connection a turn only moves the lifecycle. -/
theorem turnStep_moves {pc : TurnPc} {resume : Resume} (hpc : pc ≠ .connecting)
    (h : s.turnStep C pc resume = some t) : Moves s.compaction t.compaction := by
  rcases turnPc_cases pc with rfl | hloop | ⟨after, htearing⟩ | ⟨ending, rfl⟩
  · exact absurd rfl hpc
  · exact (loopMove_of_turnStep hloop h).moves
  · cases htearing with
    | interrupting =>
      cases resume with
      | completed | raised | timedOut =>
        cases h
        rw [enterClose_compaction]
        exact .stays
      | cancelled =>
        cases h
        exact cancelTeardown_moves s after
      | item => cases h
    | closing stage =>
      cases resume with
      | completed =>
        obtain ⟨next, hadvance, rfl⟩ := Option.map_eq_some_iff.mp h
        rw [atStage_compaction]
        exact closeAdvance_moves hadvance
      | cancelled =>
        cases h
        exact cancelTeardown_moves s after
      | item | raised | timedOut => cases h
  · cases resume with
    | completed => exact resumeRetiring_moves h
    | cancelled =>
      simp only [turnStep, Option.some.injEq] at h
      subst h
      split_ifs with hheld
      · exact .abandons_of_heldBy hheld (by decide)
      · exact .stays
    | item | raised | timedOut => cases h

/-- A turn that has connected publishes its inbox. -/
theorem connecting_binds {resume : Resume} (h : s.turnStep C .connecting resume = some t) :
    t.compaction = s.compaction ∨ s.compaction.active = false ∧
      t.compaction = s.compaction.bind s.turnId := by
  cases resume <;> cases h
  · exact publish_binds { s with reader := .created, readerTask := true }
  · exact .inl (enterClose_compaction _ _)
  · exact .inl (enterClose_compaction _ _)
  · exact .inl (enterClose_compaction _ _)

/-! ## A step of the session -/

/-- Other tasks only move the lifecycle, apart from the steps of the watchdog. -/
theorem ambient_moves {label : Label} (h : s.next C label = some t) (hlabel : IsAmbient label)
    (hwatchdog : label ≠ .watchdog) (hcompaction : label ≠ .compaction) :
    Moves s.compaction t.compaction := by
  cases label with
  | runTurn | turn => exact hlabel.elim
  | watchdog => exact absurd rfl hwatchdog
  | compaction => exact absurd rfl hcompaction
  | closer resume =>
    cases resume with
    | completed =>
      simp only [next] at h
      split at h
      · cases h
      · obtain ⟨next, hadvance, rfl⟩ := Option.map_eq_some_iff.mp h
        exact closeAdvance_moves hadvance
    | cancelled =>
      simp only [next] at h
      split_ifs at h with hnone hheld <;> cases h
      · exact .abandons_of_heldBy hheld (by decide)
      · exact .stays
    | item | raised | timedOut => cases h
  | receive message =>
    simp only [next] at h
    split_ifs at h
    cases h
    rw [receive_compaction]
    exact .stays
  | preCompact trigger =>
    simp only [next] at h
    split_ifs at h with hinside
    cases h
    exact .starts trigger (by simpa using hinside)
  | hookCancelled =>
    simp only [next] at h
    split at h <;> cases h
    rename_i hop
    exact .abandons (by rw [hop]; rfl) (by simp [Lifecycle.heldBy, hop])
  | readerStart | streamEnd | readerCancelled | cancel | close =>
    simp only [next] at h
    split_ifs at h <;> cases h <;> exact .stays

/-- The hook goes on inside the lock, or the watchdog notifies the bound turn. -/
theorem resumeCompaction_cases (h : s.resumeCompaction = some t) :
    s.compaction.op = some .starting ∧ t = { s with compaction := s.compaction.resume } ∨
      s.compaction.op = some (.emitting .watchdog) ∧
        t = { s with compaction := s.compaction.resume }.putWatchdog s.compaction.bound := by
  unfold resumeCompaction at h
  split at h <;> cases h
  · exact .inl ⟨‹_›, rfl⟩
  · exact .inr ⟨‹_›, rfl⟩

/-- The watchdog wakes up inside a free lock. -/
theorem next_watchdog (h : s.next C .watchdog = some t) :
    s.compaction.op = none ∧ s.compaction.watchdogTask = true ∧
      t = { s with compaction := s.compaction.expire } := by
  simp only [next] at h
  split_ifs at h with hinside
  cases h
  rw [Bool.or_eq_true, not_or] at hinside
  exact ⟨by simpa using hinside.1, by simpa using hinside.2, rfl⟩

/-- What a step of a session does to its lifecycle: a move, the binding of a turn, or one
of the two steps of the watchdog, which report it and notify the bound turn. -/
inductive LifecycleStep (c d : Lifecycle) : Prop
  | moves (h : Moves c d)
  | binds (turn : Nat) (idle : c.active = false) (heq : d = c.bind turn)
  | expires (free : c.op = none) (armed : c.watchdogTask = true) (heq : d = c.expire)
  | notifies (emitting : c.op = some (.emitting .watchdog)) (heq : d = c.resume)

theorem LifecycleStep.of_binds {c d : Lifecycle} {turn : Nat}
    (h : d = c ∨ c.active = false ∧ d = c.bind turn) : LifecycleStep c d := by
  rcases h with rfl | ⟨hidle, heq⟩
  · exact .moves .stays
  · exact .binds turn hidle heq

theorem next_lifecycle {label : Label} (h : s.next C label = some t) :
    LifecycleStep s.compaction t.compaction := by
  cases label with
  | runTurn prompt constructs =>
    simp only [next] at h
    split_ifs at h <;> cases h
    · exact .moves .stays
    · exact .of_binds (enter_binds s constructs)
  | turn resume =>
    simp only [next] at h
    split at h
    · cases h
    · rename_i pc hturn
      by_cases hpc : pc = .connecting
      · rw [hpc] at h
        exact .of_binds (connecting_binds h)
      · exact .moves (turnStep_moves hpc h)
  | watchdog =>
    obtain ⟨free, armed, rfl⟩ := next_watchdog h
    exact .expires free armed rfl
  | compaction =>
    obtain ⟨hop, rfl⟩ | ⟨hop, rfl⟩ := resumeCompaction_cases h
    · exact .moves (.resumes (by rw [hop]; rfl) (by simp [Lifecycle.heldBy, hop]))
    · exact .notifies hop rfl
  | _ => exact .moves (ambient_moves h trivial (by rintro ⟨⟩) (by rintro ⟨⟩))

/-- A step of the session is at most one step of its lifecycle. -/
theorem LifecycleStep.next {c d : Lifecycle} (h : LifecycleStep c d) :
    d = c ∨ ∃ label, c.next label = some d := by
  cases h with
  | moves hmoves => exact hmoves.next
  | binds turn idle heq =>
    rw [heq]
    exact .inr ⟨.bind turn, by simp [Lifecycle.next, idle]⟩
  | expires free armed heq =>
    rw [heq]
    exact .inr ⟨.expire, by simp [Lifecycle.next, free, armed]⟩
  | notifies emitting heq =>
    rw [heq]
    exact .inr ⟨.resume, by simp [Lifecycle.next, emitting]⟩

end SDKSession

/-- The lifecycle of a reachable session is one that its own operations reach. -/
theorem compaction_reachable {C : SessionContext} {s : SDKSession}
    (hs : (sessionSystem C).Reachable s) : Lifecycle.system.Reachable s.compaction := by
  refine System.Reachable.invariant (P := fun s => Lifecycle.system.Reachable s.compaction)
    .init ?_ hs
  intro s t label _ hreached hnext
  rcases (SDKSession.next_lifecycle hnext).next with hsame | ⟨label, hmoved⟩
  · rw [hsame]
    exact hreached
  · exact hreached.step hmoved

end HermesClaude.Session
