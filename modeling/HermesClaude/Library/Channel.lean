/-
# FIFO channels with a history

A channel keeps what has been taken out of it next to what still waits in it.
What was sent is the concatenation of the two, so first-in first-out order is
true by construction and never has to be proved of a program that uses channels:
sending extends the history of what was sent, receiving leaves it alone.

Nothing here refers to a particular program.
-/

import Mathlib.Data.List.Basic
import Mathlib.Data.List.Pairwise

namespace HermesClaude.Library

universe u

/-- A FIFO channel: the items already taken, oldest first, and those waiting. -/
structure Channel (α : Type u) where
  taken : List α
  queue : List α

namespace Channel

variable {α : Type u}

/-- Everything that was ever sent, in the order of sending. -/
def sent (c : Channel α) : List α := c.taken ++ c.queue

/-- The channel nothing was sent to. -/
def empty : Channel α := ⟨[], []⟩

/-- Enqueue one item. -/
def send (c : Channel α) (item : α) : Channel α := { c with queue := c.queue ++ [item] }

/-- Dequeue the oldest waiting item. -/
def receive (c : Channel α) : Option (α × Channel α) :=
  match c.queue with
  | [] => none
  | item :: rest => some (item, ⟨c.taken ++ [item], rest⟩)

/-- Dequeue the first `n` waiting items. -/
def drain (c : Channel α) (n : Nat) : Channel α :=
  ⟨c.taken ++ c.queue.take n, c.queue.drop n⟩

@[simp]
theorem sent_empty : (empty : Channel α).sent = [] := rfl

@[simp]
theorem taken_empty : (empty : Channel α).taken = [] := rfl

@[simp]
theorem queue_empty : (empty : Channel α).queue = [] := rfl

@[simp]
theorem taken_send (c : Channel α) (item : α) : (c.send item).taken = c.taken := rfl

@[simp]
theorem queue_send (c : Channel α) (item : α) : (c.send item).queue = c.queue ++ [item] := rfl

@[simp]
theorem sent_send (c : Channel α) (item : α) : (c.send item).sent = c.sent ++ [item] := by
  simp [sent, send]

@[simp]
theorem taken_drain (c : Channel α) (n : Nat) :
    (c.drain n).taken = c.taken ++ c.queue.take n := rfl

@[simp]
theorem queue_drain (c : Channel α) (n : Nat) : (c.drain n).queue = c.queue.drop n := rfl

/-- Draining moves items, it sends none. -/
@[simp]
theorem sent_drain (c : Channel α) (n : Nat) : (c.drain n).sent = c.sent := by
  simp [sent, drain]

/-- What a successful `receive` does. -/
theorem receive_eq_some {c d : Channel α} {item : α} (h : c.receive = some (item, d)) :
    c.queue = item :: d.queue ∧ d.taken = c.taken ++ [item] ∧ d.sent = c.sent := by
  unfold receive at h
  split at h
  · cases h
  · rename_i hqueue
    simp only [Option.some.injEq, Prod.mk.injEq] at h
    obtain ⟨rfl, rfl⟩ := h
    exact ⟨hqueue, rfl, by simp [sent, hqueue]⟩

/-- A taken item was sent. -/
theorem mem_sent_of_mem_taken {c : Channel α} {item : α} (h : item ∈ c.taken) :
    item ∈ c.sent :=
  List.mem_append_left _ h

/-- A waiting item was sent. -/
theorem mem_sent_of_mem_queue {c : Channel α} {item : α} (h : item ∈ c.queue) :
    item ∈ c.sent :=
  List.mem_append_right _ h

end Channel

end HermesClaude.Library
