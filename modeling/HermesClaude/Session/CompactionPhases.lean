/-
# Blocks of compaction events

The events of one binding are meant to come in blocks, STARTED and then one terminal
event.  The depth is reset before the terminal event is handed to the callback, and in
between the finishing operation waits for the watchdog it has cancelled.  Whoever is
cancelled there takes the event with it, and a binding installed there gets an event
whose STARTED went to the one before.

A run here is any interleaving of the lifecycle's operations.  Each takes its lock when
it is free, so an operation starts only where no other is suspended inside the lock.
-/

import HermesClaude.Library.System
import HermesClaude.Session.Compaction

namespace HermesClaude.Session

open HermesClaude.Library

/-! ## Runs of a lifecycle -/

/-- What can happen to a lifecycle. -/
inductive LifecycleLabel
  | /-- `bind` with the callbacks of a turn. -/
    bind (turn : Nat)
  | /-- A PreCompact hook gets the lock. -/
    start (trigger : Trigger)
  | /-- A boundary message gets the lock. -/
    complete (trigger : Trigger)
  | /-- The watchdog wakes up and gets the lock. -/
    expire
  | /-- `end_turn` gets the lock, called by the turn or by `close`. -/
    endTurn (completed closing : Bool)
  | /-- The operation inside the lock goes on. -/
    resume
  | /-- The operation inside the lock is cancelled. -/
    cancel
  | /-- A call of `end_turn` is cancelled while it waits for the lock. -/
    waiterCancelled

/-- Who waits for an `end_turn`. -/
def Finisher.ofEnd (closing : Bool) : Finisher := if closing then .close else .endOfTurn

namespace Lifecycle

/-- A step of a lifecycle.  `bind` takes no lock; during a compaction it raises. -/
def next (c : Lifecycle) : LifecycleLabel → Option Lifecycle
  | .bind turn => some (if c.active then c else c.bind turn)
  | .start t => if c.op.isNone then some (c.start t) else none
  | .complete t => if c.op.isNone then some (c.complete t) else none
  | .expire => if c.op.isNone && c.watchdogTask then some c.expire else none
  | .endTurn completed closing =>
    if c.op.isNone then some (c.endTurn completed (.ofEnd closing)) else none
  | .resume => if c.op.isSome then some c.resume else none
  | .cancel => if c.op.isSome then some c.abandon else none
  | .waiterCancelled => if c.op.isSome then some c else none

/-- A fresh lifecycle under any interleaving of its operations. -/
def system : System Lifecycle LifecycleLabel where
  init := {}
  next := next

/-- The phases of the events one binding got. -/
def phases (c : Lifecycle) (turn : Nat) : List CompactionPhase :=
  (c.emitted.filter fun entry => decide (entry.1 = turn)).map fun entry => entry.2.phase

end Lifecycle

/-- The phases that end a compaction. -/
def CompactionPhase.terminal : CompactionPhase → Bool
  | .started => false
  | .completed | .failed | .watchdog => true

/-- STARTED and one terminal phase, any number of times. -/
inductive Blocks : List CompactionPhase → Prop
  | nil : Blocks []
  | block {phases : List CompactionPhase} {last : CompactionPhase} (blocks : Blocks phases)
      (hlast : last.terminal = true) : Blocks (phases ++ [.started, last])

/-- Blocks, and a STARTED whose terminal phase is still to come. -/
def EndsOpen (phases : List CompactionPhase) : Prop :=
  ∃ closed, Blocks closed ∧ phases = closed ++ [.started]

theorem Blocks.start {phases : List CompactionPhase} (h : Blocks phases) :
    EndsOpen (phases ++ [.started]) := ⟨phases, h, rfl⟩

theorem EndsOpen.close {phases : List CompactionPhase} {last : CompactionPhase}
    (h : EndsOpen phases) (hlast : last.terminal = true) : Blocks (phases ++ [last]) := by
  obtain ⟨closed, hclosed, rfl⟩ := h
  rw [List.append_assoc]
  exact .block hclosed hlast

theorem Blocks.even_length {phases : List CompactionPhase} (h : Blocks phases) :
    phases.length % 2 = 0 := by
  induction h with
  | nil => rfl
  | block _ _ ih =>
    rw [List.length_append]
    exact (Nat.add_mod_right _ 2).trans ih

/-- A block that is still open is not closed. -/
theorem EndsOpen.not_blocks {phases : List CompactionPhase} (h : EndsOpen phases) :
    ¬ Blocks phases := by
  obtain ⟨closed, hclosed, rfl⟩ := h
  intro hblocks
  have heven := hblocks.even_length
  rw [List.length_append, List.length_singleton] at heven
  have := hclosed.even_length
  omega

namespace Lifecycle

/-- Whether an operation has reset the depth and still waits for the watchdog. -/
def gathering (c : Lifecycle) : Bool :=
  match c.op with
  | some (.gathering _ _) => true
  | _ => false

/-- Whether the step is the end of a call of `end_turn`. -/
def endsEndTurn (c : Lifecycle) : LifecycleLabel → Bool
  | .endTurn _ _ => !c.active
  | .resume =>
    match c.op with
    | some (.emitting .endOfTurn) | some (.emitting .close) => true
    | _ => false
  | .cancel => c.heldBy .endOfTurn || c.heldBy .close
  | .waiterCancelled => true
  | _ => false

/-- What holds of the events of a lifecycle: block after block under every binding,
with nothing from nested starts and boundaries, and no block left open once a call of
`end_turn` has ended. -/
structure PhasesInBlocks (c : Lifecycle) (label : LifecycleLabel) (d : Lifecycle) : Prop where
  inBlocks : ∀ turn, Blocks (d.phases turn) ∨ EndsOpen (d.phases turn)
  nestedStart : ∀ t, label = .start t → c.active = true → d.emitted = c.emitted
  nestedBoundary : ∀ t, label = .complete t → c.depth ≠ 1 → d.emitted = c.emitted
  ended : c.endsEndTurn label = true → ∀ turn, Blocks (d.phases turn)

/-- A step that keeps the blocks whole: while an operation waits for the watchdog nobody
cancels it and nobody binds, and no call of `end_turn` is cancelled while it waits for
the lock with a compaction under way. -/
def keepsBlocks (c : Lifecycle) : LifecycleLabel → Bool
  | .bind _ | .cancel => !c.gathering
  | .waiterCancelled => !(c.active || c.gathering)
  | _ => true

/-- The same as a condition on runs. -/
def KeepsBlocks (c : Lifecycle) (label : LifecycleLabel) : Prop := c.keepsBlocks label = true

/-! ## Which binding has an open block -/

/-- The binding whose terminal event is still to come, if callbacks are bound. -/
def pending (c : Lifecycle) : Option Nat := if c.active || c.gathering then c.bound else none

/-- What a finishing operation, and one that reports a start, has made of the depth. -/
def Settled (depth : Nat) : Option CompactionOp → Prop
  | none => True
  | some .starting => 0 < depth
  | some (.gathering event _) => depth = 0 ∧ event.phase.terminal = true
  | some (.emitting _) => depth = 0

/-- The invariant: exactly the pending binding has an open block. -/
structure Tracks (c : Lifecycle) : Prop where
  settled : Settled c.depth c.op
  opened : ∀ turn, c.pending = some turn → EndsOpen (c.phases turn)
  closed : ∀ turn, c.pending ≠ some turn → Blocks (c.phases turn)

variable {c : Lifecycle}

theorem active_iff : c.active = true ↔ 0 < c.depth := decide_eq_true_iff

theorem pending_of_active (h : c.active = true) : c.pending = c.bound := by
  simp [pending, h]

theorem pending_of_idle (hactive : c.active = false) (hgathering : c.gathering = false) :
    c.pending = none := by
  simp [pending, hactive, hgathering]

/-- Only the bound turn gets an event. -/
theorem phases_emit (event : CompactionEvent) (turn : Nat) :
    (c.emit event).phases turn =
      c.phases turn ++ if c.bound = some turn then [event.phase] else [] := by
  cases hbound : c.bound with
  | none => simp [emit, hbound]
  | some owner =>
    by_cases howner : owner = turn
    · simp [emit, hbound, phases, howner]
    · simp [emit, hbound, phases, howner]

@[simp]
theorem emit_depth (event : CompactionEvent) : (c.emit event).depth = c.depth := by
  unfold emit
  split <;> rfl

@[simp]
theorem emit_op (event : CompactionEvent) : (c.emit event).op = c.op := by
  unfold emit
  split <;> rfl

@[simp]
theorem emit_bound (event : CompactionEvent) : (c.emit event).bound = c.bound := by
  unfold emit
  split <;> rfl

namespace Tracks

/-- Whatever is pending, all phases so far are in order. -/
theorem inOrder (h : c.Tracks) (turn : Nat) :
    Blocks (c.phases turn) ∨ EndsOpen (c.phases turn) := by
  by_cases hpending : c.pending = some turn
  · exact .inr (h.opened turn hpending)
  · exact .inl (h.closed turn hpending)

/-- Where nothing is pending, every block is closed. -/
theorem allClosed (h : c.Tracks) (hpending : c.pending = none) (turn : Nat) :
    Blocks (c.phases turn) :=
  h.closed turn (by rw [hpending]; rintro ⟨⟩)

/-- A state with the same events and the same pending binding. -/
theorem same (h : c.Tracks) {d : Lifecycle} (hsettled : Settled d.depth d.op)
    (hemitted : d.emitted = c.emitted) (hpending : d.pending = c.pending) : d.Tracks := by
  have hphases : ∀ turn, d.phases turn = c.phases turn := by
    intro turn
    unfold phases
    rw [hemitted]
  refine ⟨hsettled, fun turn hturn => ?_, fun turn hturn => ?_⟩
  · rw [hphases]
    exact h.opened turn (hpending ▸ hturn)
  · rw [hphases]
    exact h.closed turn (hpending ▸ hturn)

/-- The terminal event closes the block of the binding it goes to. -/
theorem emitted (h : c.Tracks) {d : Lifecycle} {event : CompactionEvent}
    (hpending : c.pending = c.bound) (hlast : event.phase.terminal = true)
    (hsame : d.emitted = c.emitted) (hbound : d.bound = c.bound) (hdepth : d.depth = 0)
    {finisher : Finisher} (hop : d.op = some (.emitting finisher)) : (d.emit event).Tracks := by
  have hidle : (d.emit event).pending = none := by
    apply pending_of_idle
    · simp [active, hdepth]
    · simp [gathering, hop]
  refine ⟨?_, fun turn hturn => ?_, fun turn _ => ?_⟩
  · rw [emit_depth, emit_op, hop, hdepth]
    rfl
  · rw [hidle] at hturn
    cases hturn
  · have hphases : d.phases turn = c.phases turn := by
      unfold phases
      rw [hsame]
    rw [phases_emit, hphases, hbound]
    split_ifs with howner
    · exact (h.opened turn (hpending.trans howner)).close hlast
    · rw [List.append_nil]
      exact h.closed turn (by rwa [hpending])

/-- `_finish` in an active lifecycle: it emits at once, or the binding stays pending
until it has the watchdog. -/
theorem finish (h : c.Tracks) (hactive : c.active = true) {d : Lifecycle}
    {event : CompactionEvent} (hlast : event.phase.terminal = true)
    (hsame : d.emitted = c.emitted) (hbound : d.bound = c.bound) (finisher : Finisher) :
    (d.finish event finisher).Tracks := by
  have hpending := pending_of_active hactive
  unfold Lifecycle.finish
  split_ifs
  · refine h.same ⟨rfl, hlast⟩ hsame ?_
    rw [hpending, ← hbound]
    simp [pending, gathering]
  · exact h.emitted hpending hlast hsame hbound rfl rfl

/-- `start`: a nested one only counts, the outermost one opens a block. -/
theorem start (h : c.Tracks) (hfree : c.op = none) (t : Trigger) : (c.start t).Tracks := by
  unfold Lifecycle.start
  split_ifs with hactive
  · refine h.same (by rw [hfree]; trivial) rfl ?_
    rw [pending_of_active hactive]
    exact pending_of_active (active_iff.mpr (Nat.succ_pos _))
  · have hclosed := h.allClosed (pending_of_idle (by simpa using hactive) (by simp [gathering, hfree]))
    refine ⟨?_, fun turn hturn => ?_, fun turn hturn => ?_⟩
    · rw [emit_depth, emit_op]
      exact Nat.one_pos
    · rw [pending_of_active (active_iff.mpr (by rw [emit_depth]; exact Nat.one_pos)),
        emit_bound] at hturn
      rw [phases_emit, if_pos hturn]
      exact (hclosed turn).start
    · rw [pending_of_active (active_iff.mpr (by rw [emit_depth]; exact Nat.one_pos)),
        emit_bound] at hturn
      rw [phases_emit, if_neg hturn, List.append_nil]
      exact hclosed turn

/-- `complete`: only the outermost boundary finishes. -/
theorem complete (h : c.Tracks) (hfree : c.op = none) (t : Trigger) : (c.complete t).Tracks := by
  unfold Lifecycle.complete
  split_ifs with hidle hnested
  · exact h
  · have hactive : c.active = true := by simpa using hidle
    refine h.same (by rw [hfree]; trivial) rfl ?_
    rw [pending_of_active hactive]
    exact pending_of_active (active_iff.mpr hnested)
  · exact h.finish (by simpa using hidle) rfl rfl rfl _

/-- `expire`. -/
theorem expire (h : c.Tracks) (hfree : c.op = none) : c.expire.Tracks := by
  unfold Lifecycle.expire
  split_ifs with hidle
  · exact h.same (by rw [hfree]; trivial) rfl rfl
  · exact h.finish (by simpa using hidle) rfl rfl rfl _

/-- `end_turn`. -/
theorem endTurn (h : c.Tracks) (hfree : c.op = none) (completed : Bool) (finisher : Finisher) :
    (c.endTurn completed finisher).Tracks := by
  unfold Lifecycle.endTurn
  split_ifs with hactive hcompleted
  · exact h.finish hactive rfl rfl rfl _
  · exact h.finish hactive rfl rfl rfl _
  · have hidle : c.active = false := by simpa using hactive
    have hgathering : c.gathering = false := by simp [gathering, hfree]
    refine h.same (by rw [hfree]; trivial) rfl ?_
    rw [pending_of_idle hidle hgathering]
    exact pending_of_idle hidle hgathering

/-- The operation inside the lock goes on; the awaited watchdog has ended, or a
callback has returned. -/
theorem resume (h : c.Tracks) : c.resume.Tracks := by
  have hsettled := h.settled
  unfold Lifecycle.resume
  split
  · exact h
  · rename_i hop
    rw [hop] at hsettled
    refine h.same trivial rfl ?_
    rw [pending_of_active (active_iff.mpr hsettled)]
    exact pending_of_active (active_iff.mpr hsettled)
  · rename_i event finisher hop
    rw [hop] at hsettled
    refine h.emitted ?_ hsettled.2 rfl rfl hsettled.1 rfl
    simp [pending, gathering, hop]
  · rename_i finisher hop
    rw [hop] at hsettled
    have hidle : c.active = false := by
      rw [active, show c.depth = 0 from hsettled]
      rfl
    have hpending := pending_of_idle hidle (by simp [gathering, hop])
    cases finisher
    all_goals
      refine h.same trivial rfl ?_
      rw [hpending]
      exact pending_of_idle hidle rfl

/-- A step that keeps the blocks whole keeps track of the pending binding. -/
theorem next (h : c.Tracks) {label : LifecycleLabel} {d : Lifecycle}
    (hmeets : c.KeepsBlocks label) (hnext : c.next label = some d) : d.Tracks := by
  cases label with
  | bind turn =>
    simp only [Lifecycle.next, Option.some.injEq] at hnext
    subst hnext
    split_ifs with hactive
    · exact h
    · have hgathering : c.gathering = false := by simpa [KeepsBlocks, keepsBlocks] using hmeets
      have hidle : c.active = false := by simpa using hactive
      refine h.same h.settled rfl ?_
      rw [pending_of_idle hidle hgathering]
      exact pending_of_idle hidle hgathering
  | start t =>
    obtain ⟨hfree, ⟨⟩⟩ := Option.ite_none_right_eq_some.mp hnext
    exact h.start (Option.isNone_iff_eq_none.mp hfree) t
  | complete t =>
    obtain ⟨hfree, ⟨⟩⟩ := Option.ite_none_right_eq_some.mp hnext
    exact h.complete (Option.isNone_iff_eq_none.mp hfree) t
  | expire =>
    obtain ⟨hfree, ⟨⟩⟩ := Option.ite_none_right_eq_some.mp hnext
    exact h.expire (Option.isNone_iff_eq_none.mp (Bool.and_eq_true_iff.mp hfree).1)
  | endTurn completed closing =>
    obtain ⟨hfree, ⟨⟩⟩ := Option.ite_none_right_eq_some.mp hnext
    exact h.endTurn (Option.isNone_iff_eq_none.mp hfree) completed _
  | resume =>
    obtain ⟨-, ⟨⟩⟩ := Option.ite_none_right_eq_some.mp hnext
    exact h.resume
  | cancel =>
    obtain ⟨-, ⟨⟩⟩ := Option.ite_none_right_eq_some.mp hnext
    have hgathering : c.gathering = false := by simpa [KeepsBlocks, keepsBlocks] using hmeets
    refine h.same trivial rfl ?_
    have habandoned : c.abandon.gathering = false := rfl
    rw [pending, pending, habandoned, hgathering]
    rfl
  | waiterCancelled =>
    obtain ⟨-, ⟨⟩⟩ := Option.ite_none_right_eq_some.mp hnext
    exact h

/-- Every lifecycle of a run that keeps the blocks whole tracks its pending binding. -/
theorem of_reachable (hc : system.ReachableUnder KeepsBlocks c) : c.Tracks := by
  refine System.ReachableUnder.invariant ?_ ?_ hc
  · exact ⟨trivial, by rintro turn ⟨⟩, fun _ _ => .nil⟩
  · intro c d label _ h hmeets hnext
    exact h.next hmeets hnext

end Tracks

/-- Nothing is pending when a call of `end_turn` has ended. -/
theorem pending_of_endsEndTurn (h : c.Tracks) {label : LifecycleLabel} {d : Lifecycle}
    (hmeets : c.KeepsBlocks label) (hnext : c.next label = some d)
    (hends : c.endsEndTurn label = true) : d.pending = none := by
  have hsettled := h.settled
  cases label with
  | endTurn completed closing =>
    obtain ⟨hfree, ⟨⟩⟩ := Option.ite_none_right_eq_some.mp hnext
    have hidle : c.active = false := by simpa [endsEndTurn] using hends
    rw [Lifecycle.endTurn, if_neg (by simp [hidle])]
    refine pending_of_idle hidle ?_
    rw [gathering, Option.isNone_iff_eq_none.mp hfree]
  | resume =>
    obtain ⟨-, ⟨⟩⟩ := Option.ite_none_right_eq_some.mp hnext
    simp only [endsEndTurn] at hends
    split at hends
    all_goals try cases hends
    all_goals
      rename_i hop
      rw [hop] at hsettled
      simp only [Lifecycle.resume, hop]
      refine pending_of_idle ?_ rfl
      rw [active, show c.depth = 0 from hsettled]
      rfl
  | cancel =>
    obtain ⟨-, ⟨⟩⟩ := Option.ite_none_right_eq_some.mp hnext
    have hgathering : c.gathering = false := by simpa [KeepsBlocks, keepsBlocks] using hmeets
    refine pending_of_idle ?_ rfl
    have hdepth : c.depth = 0 := by
      rcases hop : c.op with _ | _ | ⟨event, finisher⟩ | finisher
      · simp [endsEndTurn, heldBy, hop] at hends
      · simp [endsEndTurn, heldBy, hop] at hends
      · simp [gathering, hop] at hgathering
      · rw [hop] at hsettled
        exact hsettled
    rw [abandon, active, hdepth]
    rfl
  | waiterCancelled =>
    obtain ⟨-, ⟨⟩⟩ := Option.ite_none_right_eq_some.mp hnext
    have hidle : (c.active || c.gathering) = false := by
      simpa [KeepsBlocks, keepsBlocks] using hmeets
    simp [pending, hidle]
  | bind _ | start _ | complete _ | expire => cases hends

end Lifecycle

open Lifecycle in
/-- **Compactions are reported in blocks.** Along every run in which nobody is cancelled
and nobody binds while an operation waits for the watchdog, every step keeps the events
of every binding in blocks, nested starts and boundaries report nothing, and the end of
a call of `end_turn` leaves no block open. -/
theorem compactions_in_blocks {c d : Lifecycle} {label : LifecycleLabel}
    (hc : system.ReachableUnder KeepsBlocks c) (hmeets : c.KeepsBlocks label)
    (hnext : c.next label = some d) : c.PhasesInBlocks label d := by
  have htracks := Tracks.of_reachable hc
  have hafter := htracks.next hmeets hnext
  refine ⟨hafter.inOrder, ?_, ?_, fun hends => ?_⟩
  · rintro t rfl hactive
    obtain ⟨-, ⟨⟩⟩ := Option.ite_none_right_eq_some.mp hnext
    rw [Lifecycle.start, if_pos hactive]
  · rintro t rfl hdepth
    obtain ⟨-, ⟨⟩⟩ := Option.ite_none_right_eq_some.mp hnext
    unfold Lifecycle.complete
    split_ifs with hidle hnested
    · rfl
    · rfl
    · have hactive : 0 < c.depth := active_iff.mp (by simpa using hidle)
      omega
  · exact hafter.allClosed (pending_of_endsEndTurn htracks hmeets hnext hends)

open Lifecycle in
theorem compactions_in_blocks_twice : ∃ c d : Lifecycle, c.next (.endTurn true false) = some d ∧
    d.phases 1 = [.started, .completed, .started, .watchdog] ∧
      c.PhasesInBlocks (.endTurn true false) d := by
  obtain ⟨c, hc, hfree, hphases⟩ : ∃ c, system.ReachableUnder KeepsBlocks c ∧
      c.next (.endTurn true false) = some (c.endTurn true .endOfTurn) ∧
        (c.endTurn true .endOfTurn).phases 1 = [.started, .completed, .started, .watchdog] :=
    System.exists_reachableUnder_of_check keepsBlocks
      [.bind 1, .start .auto, .resume, .start .auto, .complete .auto, .complete .auto, .resume,
        .resume, .start .manual, .resume, .expire, .resume]
      ⟨_, rfl, rfl, by decide⟩
  exact ⟨c, _, hfree, hphases, compactions_in_blocks hc rfl hfree⟩

open Lifecycle in
/-- A boundary's `complete` is cancelled while it waits for the watchdog; `end_turn` finds
the lifecycle idle and returns. -/
theorem cancelled_boundary : ∃ c d : Lifecycle, system.Reachable c ∧
    c.next (.endTurn true false) = some d ∧ ¬ c.PhasesInBlocks (.endTurn true false) d := by
  obtain ⟨c, hc, hfree, hidle, hphases⟩ : ∃ c, system.Reachable c ∧
      c.next (.endTurn true false) = some (c.endTurn true .endOfTurn) ∧ c.active = false ∧
        (c.endTurn true .endOfTurn).phases 1 = [.started] :=
    System.exists_reachable_of_run
      [.bind 1, .start .auto, .resume, .complete .auto, .cancel] ⟨_, rfl, rfl, rfl, by decide⟩
  refine ⟨c, _, hc, hfree, fun hblocks => ?_⟩
  have hclosed := hblocks.ended (by simp [endsEndTurn, hidle]) 1
  rw [hphases] at hclosed
  exact Blocks.nil.start.not_blocks hclosed

end HermesClaude.Session
