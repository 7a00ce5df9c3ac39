/-
# Last-writer-wins registers

A register holds the value of the latest update that wrote it; updates that do
not write it leave it alone.  Folding the updates one at a time and looking for
the last one that wrote are the same, which is what lets a property of a fold of
merges be read as a property of the updates themselves.

Nothing here refers to a particular program.
-/

import Mathlib.Data.List.Induction

namespace HermesClaude.Library.Register

universe u v

variable {α : Type u} {β : Type v}

/-- The register after one update: the update if it writes, else the old value. -/
def write (current update : Option α) : Option α := update.or current

/-- The value of the last update that wrote, if any did. -/
def last (updates : List (Option α)) : Option α := updates.foldl write none

@[simp]
theorem write_some (current : Option α) (value : α) : write current (some value) = some value :=
  rfl

@[simp]
theorem write_none (current : Option α) : write current none = current := rfl

@[simp]
theorem last_nil : last ([] : List (Option α)) = none := rfl

/-- The register after a further update. -/
@[simp]
theorem last_append_singleton (updates : List (Option α)) (update : Option α) :
    last (updates ++ [update]) = write (last updates) update := by
  simp [last]

end HermesClaude.Library.Register
