/-
# Filling a budget

Items are joined with a gap between them as long as the whole stays within a total; an item that
does not fit is left out, and a later one may still fit.

Nothing here refers to a particular program.
-/

import Mathlib.Data.List.Basic
import Mathlib.Data.List.Induction

namespace HermesClaude.Library

universe u

variable {α : Type u}

/-- The size of the items with a gap between each two. -/
def joinedSize (size : α → Nat) (gap : Nat) : List α → Nat
  | [] => 0
  | [a] => size a
  | a :: b :: rest => size a + gap + joinedSize size gap (b :: rest)

section Fill

variable (size : α → Nat) (gap total : Nat)

/-- One item: what is kept so far, and how much of the total that uses. -/
def addWithin (state : List α × Nat) (a : α) : List α × Nat :=
  let cost := size a + if state.1.isEmpty then 0 else gap
  if total < state.2 + cost then state else (state.1 ++ [a], state.2 + cost)

/-- The items that are kept. -/
def keepWithin (items : List α) : List α := (items.foldl (addWithin size gap total) ([], 0)).1

end Fill

/-- The items that were chosen. -/
def chosen (choices : List (α × Bool)) : List α := (choices.filter Prod.snd).map Prod.fst

/-- The choices fill the budget: what is chosen fits, and an item is left out only where it does not
fit behind the items that were chosen before it. -/
structure FillsBudget (size : α → Nat) (gap total : Nat) (choices : List (α × Bool)) : Prop where
  fits : joinedSize size gap (chosen choices) ≤ total
  full : ∀ before a after, choices = before ++ (a, false) :: after →
    total < joinedSize size gap (chosen before ++ [a])

variable {size : α → Nat} {gap total : Nat} {items kept : List α} {choices : List (α × Bool)} {a : α}

theorem joinedSize_append_singleton : joinedSize size gap (kept ++ [a]) =
    joinedSize size gap kept + (size a + if kept.isEmpty then 0 else gap) := by
  induction kept with
  | nil => simp [joinedSize]
  | cons b rest ih =>
    cases rest with
    | nil =>
      simp only [List.singleton_append, joinedSize, List.isEmpty_cons, Bool.false_eq_true, if_false]
      omega
    | cons c rest =>
      rw [List.cons_append, List.cons_append, joinedSize, ← List.cons_append, ih, joinedSize]
      simp only [List.isEmpty_cons]
      omega

/-- Joined texts are as long as their pieces and the separators between them. -/
theorem length_intercalate (separator : List α) (pieces : List (List α)) :
    (separator.intercalate pieces).length = joinedSize List.length separator.length pieces := by
  induction pieces with
  | nil => rfl
  | cons piece rest ih =>
    cases rest with
    | nil => simp [joinedSize]
    | cons next rest =>
      rw [List.intercalate_cons_cons, List.length_append, List.length_append, ih, joinedSize]

theorem chosen_append_singleton (b : Bool) :
    chosen (choices ++ [(a, b)]) = if b then chosen choices ++ [a] else chosen choices := by
  cases b <;> simp [chosen]

/-- **One more item.**  The choices made before stay as they are. -/
theorem FillsBudget.step (h : FillsBudget size gap total choices) (a : α) :
    FillsBudget size gap total
      (choices ++ [(a, decide (joinedSize size gap (chosen choices ++ [a]) ≤ total))]) where
  fits := by
    rw [chosen_append_singleton]
    split
    · next hfits => exact of_decide_eq_true hfits
    · exact h.fits
  full := by
    intro before b after hsplit
    rcases List.eq_nil_or_concat' after with rfl | ⟨after', last, rfl⟩
    · rcases List.append_inj' hsplit rfl with ⟨rfl, hlast⟩
      rcases Prod.mk.inj (List.singleton_inj.mp hlast) with ⟨rfl, hnot⟩
      exact Nat.lt_of_not_le (of_decide_eq_false hnot)
    · rw [← List.cons_append, ← List.append_assoc] at hsplit
      exact h.full before b after' (List.append_inj' hsplit rfl).1

/-- **The whole run.** -/
theorem exists_fillsBudget (items : List α) : ∃ choices, choices.map Prod.fst = items ∧
    chosen choices = keepWithin size gap total items ∧ FillsBudget size gap total choices := by
  have hrun : ∃ choices, choices.map Prod.fst = items ∧ FillsBudget size gap total choices ∧
      items.foldl (addWithin size gap total) ([], 0) =
        (chosen choices, joinedSize size gap (chosen choices)) := by
    induction items using List.reverseRecOn with
    | nil =>
      refine ⟨[], rfl, ⟨Nat.zero_le _, ?_⟩, rfl⟩
      intro before b after hsplit
      simp at hsplit
    | append_singleton items a ih =>
      rcases ih with ⟨choices, hitems, hfills, hstate⟩
      refine ⟨_, ?_, hfills.step a, ?_⟩
      · rw [List.map_append, hitems]
        rfl
      · rw [List.foldl_append, hstate, List.foldl_cons, List.foldl_nil, addWithin,
          chosen_append_singleton]
        simp only [← joinedSize_append_singleton, decide_eq_true_eq]
        by_cases hfits : joinedSize size gap (chosen choices ++ [a]) ≤ total
        · rw [if_neg (Nat.not_lt.mpr hfits), if_pos hfits]
        · rw [if_pos (Nat.lt_of_not_le hfits), if_neg hfits]
  rcases hrun with ⟨choices, hitems, hfills, hstate⟩
  exact ⟨choices, hitems, by rw [keepWithin, hstate], hfills⟩

end HermesClaude.Library
