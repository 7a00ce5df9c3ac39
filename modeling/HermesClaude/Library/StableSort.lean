/-
# Stable sorting by a key

Entries with equal keys stay in the order that they came in.  So sorting loses that order
exactly where no two different entries share a key.

Nothing here refers to a particular program.
-/

import HermesClaude.Library.Keyed

namespace HermesClaude.Library

universe u v

variable {α : Type u} {κ : Type v} [LinearOrder κ] {key : α → κ}

/-- Entries with equal keys are equal. -/
def KeysAgree (key : α → κ) (items : List α) : Prop :=
  ∀ a ∈ items, ∀ b ∈ items, key a = key b → a = b

theorem sorted_sortByKey (items : List α) :
    (sortByKey key items).Pairwise fun a b => key a ≤ key b := by
  have htotal : Std.Total fun a b : α => key a ≤ key b := ⟨fun a b => le_total (key a) (key b)⟩
  have htrans : IsTrans α fun a b => key a ≤ key b := ⟨fun a b c => le_trans⟩
  exact List.pairwise_insertionSort _ items

/-- Sorting forgets the order of entries with agreeing keys. -/
theorem sortByKey_eq_of_keysAgree {items items' : List α} (hagree : KeysAgree key items)
    (hperm : items.Perm items') : sortByKey key items = sortByKey key items' := by
  have hsorted : (sortByKey key items).Perm (sortByKey key items') :=
    (perm_sortByKey items).trans (hperm.trans (perm_sortByKey items').symm)
  apply hsorted.eq_of_pairwise _ (sorted_sortByKey items) (sorted_sortByKey items')
  intro a b ha hb hab hba
  have hb' : b ∈ items := hperm.mem_iff.mpr ((perm_sortByKey items').mem_iff.mp hb)
  exact hagree a ((perm_sortByKey items).mem_iff.mp ha) b hb' (le_antisymm hab hba)

section Stability

variable {k : κ} {p : α → Bool} (hp : ∀ a, p a = true ↔ key a = k)

include hp

/-- An entry goes before the entries with its key. -/
theorem filter_orderedInsert (a : α) (items : List α) :
    (items.orderedInsert (fun a b => key a ≤ key b) a).filter p = (a :: items).filter p := by
  induction items with
  | nil => rfl
  | cons b rest ih =>
    by_cases hle : key a ≤ key b
    · rw [List.orderedInsert_cons_of_le (fun a b => key a ≤ key b) rest hle]
    · rw [List.orderedInsert_of_not_le (fun a b => key a ≤ key b) rest hle, List.filter_cons, ih]
      by_cases ha : p a = true
      · have hb : ¬p b = true := by
          rw [hp b]
          intro hb
          exact hle (((hp a).mp ha).trans hb.symm).le
        simp [ha, hb]
      · simp [List.filter_cons, ha]

/-- **Stability.** -/
theorem filter_sortByKey (items : List α) : (sortByKey key items).filter p = items.filter p := by
  induction items with
  | nil => rfl
  | cons a rest ih =>
    have hinsert := filter_orderedInsert hp a (sortByKey key rest)
    rw [List.filter_cons, ih] at hinsert
    rw [List.filter_cons]
    exact hinsert

end Stability

end HermesClaude.Library
