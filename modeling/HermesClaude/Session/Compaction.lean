/-
# The native-compaction lifecycle

`NativeCompactionLifecycle` turns PreCompact hooks, boundary messages, its own
watchdog and the end of a turn into started and terminal events.  Its operations
hold one lock while they wait for a cancelled watchdog and for a callback, so the
state records which operation is suspended inside the lock and how far it is.

Every function here is one stretch of the source between two suspensions.
-/

import HermesClaude.Python.Value

namespace HermesClaude.Session

open HermesClaude.Python

/-- `SessionCompactionPhase`. -/
inductive CompactionPhase
  | started
  | completed
  | failed
  | watchdog
  deriving DecidableEq

/-- The two triggers the adapter reports. -/
inductive Trigger
  | auto
  | manual
  deriving DecidableEq

/-- `_trigger`. -/
def trigger (value : PyValue) : Trigger :=
  if value.isText (lit "manual") then .manual else .auto

/-- `SessionCompactionEvent`; the watchdog bound is fixed for a session. -/
structure CompactionEvent where
  phase : CompactionPhase
  trigger : Trigger

/-- Who waits for a finishing operation. -/
inductive Finisher
  | boundary
  | watchdog
  | endOfTurn
  | close
  deriving DecidableEq

/-- An operation suspended while it holds the transition lock. -/
inductive CompactionOp
  | /-- `start` awaits the callback of its STARTED event. -/
    starting
  | /-- `_finish` awaits the watchdog it has cancelled. -/
    gathering (event : CompactionEvent) (finisher : Finisher)
  | /-- `_finish` awaits the callback of its terminal event. -/
    emitting (finisher : Finisher)

/-- `NativeCompactionLifecycle`. -/
structure Lifecycle where
  /-- `_active_depth`. -/
  depth : Nat := 0
  /-- `_active_trigger`. -/
  activeTrigger : Trigger := .auto
  /-- The turn whose callbacks `bind` installed, if any are installed. -/
  bound : Option Nat := none
  /-- Whether `_watchdog_task` is set. -/
  watchdogTask : Bool := false
  /-- The operation that holds `_transition_lock`. -/
  op : Option CompactionOp := none
  /-- Every event handed to a callback, with the turn it was bound for. -/
  emitted : List (Nat × CompactionEvent) := []

namespace Lifecycle

/-- `active`. -/
def active (c : Lifecycle) : Bool := 0 < c.depth

/-- The call of `_on_event` inside `_emit`. -/
def emit (c : Lifecycle) (event : CompactionEvent) : Lifecycle :=
  match c.bound with
  | none => c
  | some turn => { c with emitted := c.emitted ++ [(turn, event)] }

/-- `start`, once it holds the lock. -/
def start (c : Lifecycle) (t : Trigger) : Lifecycle :=
  if c.active then { c with depth := c.depth + 1 }
  else
    { c with depth := 1, activeTrigger := t, watchdogTask := true, op := some .starting }.emit
      ⟨.started, t⟩

/-- `_finish` up to its first suspension: an operation other than the watchdog
itself cancels the watchdog and waits for it before it emits. -/
def finish (c : Lifecycle) (event : CompactionEvent) (finisher : Finisher) : Lifecycle :=
  let idle := { c with depth := 0, watchdogTask := false }
  if c.watchdogTask && finisher ≠ .watchdog then
    { idle with op := some (.gathering event finisher) }
  else { idle with op := some (.emitting finisher) }.emit event

/-- `complete`, once it holds the lock.  Only the outermost boundary finishes. -/
def complete (c : Lifecycle) (t : Trigger) : Lifecycle :=
  if !c.active then c
  else if 0 < c.depth - 1 then { c with depth := c.depth - 1 }
  else { c with depth := 0 }.finish ⟨.completed, t⟩ .boundary

/-- `expire`, once it holds the lock. -/
def expire (c : Lifecycle) : Lifecycle :=
  if !c.active then { c with watchdogTask := false }
  else c.finish ⟨.watchdog, c.activeTrigger⟩ .watchdog

/-- `end_turn`, once it holds the lock. -/
def endTurn (c : Lifecycle) (completed : Bool) (finisher : Finisher) : Lifecycle :=
  if c.active then
    c.finish ⟨if completed then .completed else .failed, c.activeTrigger⟩ finisher
  else { c with bound := none }

/-- The operation inside the lock is resumed: the awaited watchdog has ended, or
the callback of the event has returned. -/
def resume (c : Lifecycle) : Lifecycle :=
  match c.op with
  | none => c
  | some .starting => { c with op := none }
  | some (.gathering event finisher) =>
    { c with op := some (.emitting finisher) }.emit event
  | some (.emitting finisher) =>
    match finisher with
    | .boundary | .watchdog => { c with op := none }
    | .endOfTurn | .close => { c with op := none, bound := none }

/-- The operation inside the lock is cancelled at its suspension. -/
def abandon (c : Lifecycle) : Lifecycle := { c with op := none }

/-- Whether the lock is held by a finishing operation of the given owner. -/
def heldBy (c : Lifecycle) (finisher : Finisher) : Bool :=
  match c.op with
  | some (.gathering _ owner) => decide (owner = finisher)
  | some (.emitting owner) => decide (owner = finisher)
  | _ => false

/-- `bind`; the caller has checked that no compaction is active. -/
def bind (c : Lifecycle) (turn : Nat) : Lifecycle := { c with bound := some turn }

end Lifecycle

end HermesClaude.Session
