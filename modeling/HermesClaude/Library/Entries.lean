/-
# Dictionaries as lists of entries

A dictionary keeps the order in which its keys were first set.  Setting a key that is there
replaces the value in place; setting another one adds an entry at the end.

Nothing here refers to a particular program.
-/

import Mathlib.Data.List.Basic

namespace HermesClaude.Library

universe u v

variable {α : Type u} {β : Type v} [DecidableEq α]

/-- Set the value of a key. -/
def setEntry (key : α) (value : β) : List (α × β) → List (α × β)
  | [] => [(key, value)]
  | entry :: rest => if entry.1 = key then (key, value) :: rest else entry :: setEntry key value rest

/-- Drop a key. -/
def dropEntry (key : α) (entries : List (α × β)) : List (α × β) :=
  entries.filter fun entry => entry.1 ≠ key

section Lookup

variable [BEq α] [LawfulBEq α]

theorem lookup_cons_eq_if (entry : α × β) (rest : List (α × β)) (key : α) :
    (entry :: rest).lookup key = if key = entry.1 then some entry.2 else rest.lookup key := by
  obtain ⟨other, value⟩ := entry
  by_cases hkey : key = other
  · subst hkey
    rw [List.lookup_cons_self, if_pos rfl]
  · rw [List.lookup_cons, beq_false_of_ne hkey, if_neg hkey]

theorem lookup_setEntry (entries : List (α × β)) (key : α) (value : β) (other : α) :
    (setEntry key value entries).lookup other =
      if other = key then some value else entries.lookup other := by
  induction entries with
  | nil => exact lookup_cons_eq_if (key, value) [] other
  | cons entry rest ih =>
    rw [setEntry]
    by_cases hentry : entry.1 = key
    · rw [if_pos hentry, lookup_cons_eq_if, lookup_cons_eq_if, hentry]
      split_ifs <;> rfl
    · rw [if_neg hentry, lookup_cons_eq_if, lookup_cons_eq_if, ih]
      by_cases hother : other = key
      · subst hother
        rw [if_neg (Ne.symm hentry), if_pos rfl, if_pos rfl]
      · rw [if_neg hother, if_neg hother]

theorem lookup_dropEntry (entries : List (α × β)) (key other : α) :
    (dropEntry key entries).lookup other = if other = key then none else entries.lookup other := by
  induction entries with
  | nil => simp [dropEntry]
  | cons entry rest ih =>
    unfold dropEntry at ih ⊢
    rw [List.filter_cons]
    by_cases hentry : entry.1 = key
    · rw [if_neg (by simp [hentry]), ih, lookup_cons_eq_if, hentry]
      split_ifs <;> rfl
    · rw [if_pos (by simp [hentry]), lookup_cons_eq_if, lookup_cons_eq_if, ih]
      by_cases hother : other = key
      · subst hother
        rw [if_neg (Ne.symm hentry), if_pos rfl, if_pos rfl]
      · rw [if_neg hother, if_neg hother]

theorem lookup_isSome_iff (entries : List (α × β)) (key : α) :
    (entries.lookup key).isSome = true ↔ key ∈ entries.map Prod.fst := by
  induction entries with
  | nil => simp
  | cons entry rest ih =>
    rw [lookup_cons_eq_if, List.map_cons, List.mem_cons]
    by_cases hkey : key = entry.1
    · simp [hkey]
    · rw [if_neg hkey, ih]
      simp [hkey]

end Lookup

/-- A new key comes last; the others keep their places. -/
theorem keys_setEntry (entries : List (α × β)) (key : α) (value : β) :
    (setEntry key value entries).map Prod.fst =
      if key ∈ entries.map Prod.fst then entries.map Prod.fst
      else entries.map Prod.fst ++ [key] := by
  induction entries with
  | nil => rfl
  | cons entry rest ih =>
    rw [setEntry, List.map_cons]
    by_cases hentry : entry.1 = key
    · rw [if_pos hentry, hentry, if_pos List.mem_cons_self]
      rfl
    · rw [if_neg hentry, List.map_cons, ih]
      have hmem : key ∈ entry.1 :: rest.map Prod.fst ↔ key ∈ rest.map Prod.fst := by
        rw [List.mem_cons]
        exact or_iff_right (Ne.symm hentry)
      by_cases hrest : key ∈ rest.map Prod.fst
      · rw [if_pos hrest, if_pos (hmem.mpr hrest)]
      · rw [if_neg hrest, if_neg (hmem.not.mpr hrest), List.cons_append]

end HermesClaude.Library
