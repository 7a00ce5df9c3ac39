/-
# Keyed lists

Entries of which no two have the same key.  Sorted by key they have one order, whatever order
they came in; and two such lists are compared key by key.

Nothing here refers to a particular program.
-/

import Mathlib.Data.List.Nodup
import Mathlib.Data.List.Sort

namespace HermesClaude.Library

universe u v

section Sorting

variable {α : Type u} {κ : Type v} [LinearOrder κ] {key : α → κ}

/-- `sorted(items, key=key)`. -/
def sortByKey (key : α → κ) (items : List α) : List α := items.insertionSort fun a b => key a ≤ key b

theorem perm_sortByKey (items : List α) : (sortByKey key items).Perm items :=
  List.perm_insertionSort _ items

/-- Entries in the order of their keys, no key twice. -/
abbrev InKeyOrder (key : α → κ) (items : List α) : Prop := items.Pairwise fun a b => key a < key b

theorem InKeyOrder.nodup {items : List α} (h : InKeyOrder key items) : (items.map key).Nodup := by
  rw [List.Nodup, List.pairwise_map]
  exact h.imp fun hlt => ne_of_lt hlt

/-- Distinct keys are sorted strictly. -/
theorem inKeyOrder_sortByKey {items : List α} (hnodup : (items.map key).Nodup) :
    InKeyOrder key (sortByKey key items) := by
  have hsorted : (sortByKey key items).Pairwise fun a b => key a ≤ key b := by
    have htotal : Std.Total fun a b : α => key a ≤ key b := ⟨fun a b => le_total (key a) (key b)⟩
    have htrans : IsTrans α fun a b => key a ≤ key b := ⟨fun a b c => le_trans⟩
    exact List.pairwise_insertionSort _ items
  have hdistinct : ((sortByKey key items).map key).Nodup :=
    ((perm_sortByKey items).map key).nodup_iff.mpr hnodup
  rw [List.Nodup, List.pairwise_map] at hdistinct
  apply (hsorted.and hdistinct).imp
  intro a b h
  exact lt_of_le_of_ne h.1 h.2

/-- Two lists of the same entries in the order of their keys are one list. -/
theorem InKeyOrder.eq_of_perm {items items' : List α} (h : InKeyOrder key items)
    (h' : InKeyOrder key items') (hperm : items.Perm items') : items = items' := by
  apply hperm.eq_of_pairwise _ h h'
  intro a b _ _ hab hba
  exact absurd hba (lt_asymm hab)

/-- Sorting forgets the order that the entries came in. -/
theorem sortByKey_eq_of_perm {items items' : List α} (hnodup : (items.map key).Nodup)
    (hperm : items.Perm items') : sortByKey key items = sortByKey key items' := by
  apply (inKeyOrder_sortByKey hnodup).eq_of_perm
  · apply inKeyOrder_sortByKey
    exact (hperm.map key).nodup_iff.mp hnodup
  · exact (perm_sortByKey items).trans (hperm.trans (perm_sortByKey items').symm)

/-- Entries in order are left alone. -/
theorem sortByKey_eq_self {items : List α} (h : InKeyOrder key items) : sortByKey key items = items :=
  (inKeyOrder_sortByKey h.nodup).eq_of_perm h (perm_sortByKey items)

end Sorting

section Difference

variable {κ : Type u} {ν : Type v} [DecidableEq κ] {expected actual : List (κ × ν)}

/-- The keys that are in the second list only. -/
def addedKeys (expected actual : List (κ × ν)) : List κ :=
  (actual.map Prod.fst).filter (· ∉ expected.map Prod.fst)

theorem mem_addedKeys {key : κ} : key ∈ addedKeys expected actual ↔
    key ∈ actual.map Prod.fst ∧ key ∉ expected.map Prod.fst := by
  rw [addedKeys, List.mem_filter, decide_eq_true_iff]

theorem nodup_addedKeys (h : (actual.map Prod.fst).Nodup) : (addedKeys expected actual).Nodup :=
  h.filter _

/-- No key is both added and missing. -/
theorem disjoint_addedKeys : List.Disjoint (addedKeys expected actual) (addedKeys actual expected) := by
  intro key hadded hmissing
  exact (mem_addedKeys.mp hmissing).2 (mem_addedKeys.mp hadded).1

theorem lookup_eq_some_iff_mem {entries : List (κ × ν)} (hnodup : (entries.map Prod.fst).Nodup)
    {key : κ} {value : ν} : entries.lookup key = some value ↔ (key, value) ∈ entries := by
  induction entries with
  | nil => simp
  | cons entry rest ih =>
    rcases entry with ⟨other, found⟩
    rw [List.map_cons, List.nodup_cons] at hnodup
    rw [List.lookup_cons, List.mem_cons, Prod.mk.injEq]
    by_cases hkey : key = other
    · subst hkey
      have hrest : (key, value) ∉ rest := by
        intro hmem
        exact hnodup.1 (List.mem_map.mpr ⟨(key, value), hmem, rfl⟩)
      simp [hrest, eq_comm]
    · rw [beq_false_of_ne hkey]
      simp [hkey, ih hnodup.2]

variable [DecidableEq ν]

/-- The keys that are in both lists, with different values. -/
def changedKeys (expected actual : List (κ × ν)) : List κ :=
  (expected.filter fun entry => (actual.lookup entry.1).any (· ≠ entry.2)).map Prod.fst

theorem mem_changedKeys (hactual : (actual.map Prod.fst).Nodup) {key : κ} :
    key ∈ changedKeys expected actual ↔
      ∃ value other, (key, value) ∈ expected ∧ (key, other) ∈ actual ∧ other ≠ value := by
  simp only [changedKeys, List.mem_map, List.mem_filter, Option.any_eq_true, decide_eq_true_eq,
    lookup_eq_some_iff_mem hactual]
  constructor
  · intro h
    rcases h with ⟨⟨_, value⟩, ⟨hvalue, other, hother, hne⟩, rfl⟩
    exact ⟨value, other, hvalue, hother, hne⟩
  · intro h
    rcases h with ⟨value, other, hvalue, hother, hne⟩
    exact ⟨(key, value), ⟨hvalue, other, hother, hne⟩, rfl⟩

theorem nodup_changedKeys (h : (expected.map Prod.fst).Nodup) : (changedKeys expected actual).Nodup :=
  List.Nodup.sublist (List.filter_sublist.map _) h

theorem changedKeys_subset {key : κ} (hactual : (actual.map Prod.fst).Nodup)
    (h : key ∈ changedKeys expected actual) :
    key ∈ expected.map Prod.fst ∧ key ∈ actual.map Prod.fst := by
  rcases (mem_changedKeys hactual).mp h with ⟨value, other, hvalue, hother, -⟩
  exact ⟨List.mem_map_of_mem hvalue, List.mem_map_of_mem hother⟩

/-- No added key is changed. -/
theorem disjoint_added_changed (hactual : (actual.map Prod.fst).Nodup) :
    List.Disjoint (addedKeys expected actual) (changedKeys expected actual) := by
  intro key hadded hchanged
  exact (mem_addedKeys.mp hadded).2 (changedKeys_subset hactual hchanged).1

/-- No missing key is changed. -/
theorem disjoint_missing_changed (hactual : (actual.map Prod.fst).Nodup) :
    List.Disjoint (addedKeys actual expected) (changedKeys expected actual) := by
  intro key hmissing hchanged
  exact (mem_addedKeys.mp hmissing).2 (changedKeys_subset hactual hchanged).2

/-- Where no key is missing or changed, every expected entry is there. -/
theorem mem_of_no_difference (hactual : (actual.map Prod.fst).Nodup)
    (hmissing : addedKeys actual expected = []) (hchanged : changedKeys expected actual = [])
    {entry : κ × ν} (hentry : entry ∈ expected) : entry ∈ actual := by
  rcases entry with ⟨key, value⟩
  have hkey : key ∈ actual.map Prod.fst := by
    by_contra hnot
    have hmiss : key ∈ addedKeys actual expected :=
      mem_addedKeys.mpr ⟨List.mem_map_of_mem hentry, hnot⟩
    rw [hmissing] at hmiss
    cases hmiss
  rcases List.mem_map.mp hkey with ⟨⟨_, other⟩, hother, rfl⟩
  have hsame : other = value := by
    by_contra hne
    have hdiffers := (mem_changedKeys hactual).mpr ⟨value, other, hentry, hother, hne⟩
    rw [hchanged] at hdiffers
    cases hdiffers
  rw [hsame] at hother
  exact hother

/-- Where keys are the same and values do not differ, every actual entry was expected. -/
theorem mem_of_no_addition (hactual : (actual.map Prod.fst).Nodup)
    (hadded : addedKeys expected actual = []) (hchanged : changedKeys expected actual = [])
    {entry : κ × ν} (hentry : entry ∈ actual) : entry ∈ expected := by
  rcases entry with ⟨key, other⟩
  have hkey : key ∈ expected.map Prod.fst := by
    by_contra hnot
    have hmore : key ∈ addedKeys expected actual :=
      mem_addedKeys.mpr ⟨List.mem_map_of_mem hentry, hnot⟩
    rw [hadded] at hmore
    cases hmore
  rcases List.mem_map.mp hkey with ⟨⟨_, value⟩, hvalue, rfl⟩
  have hsame : other = value := by
    by_contra hne
    have hdiffers := (mem_changedKeys hactual).mpr ⟨value, other, hvalue, hentry, hne⟩
    rw [hchanged] at hdiffers
    cases hdiffers
  rw [hsame]
  exact hvalue

/-- **No difference.** No key is added, missing or changed exactly where the two lists have the
same entries. -/
theorem no_difference_iff (hactual : (actual.map Prod.fst).Nodup) :
    (addedKeys expected actual = [] ∧ addedKeys actual expected = [] ∧
      changedKeys expected actual = []) ↔ ∀ entry, entry ∈ expected ↔ entry ∈ actual := by
  constructor
  · intro h entry
    rcases h with ⟨hadded, hmissing, hchanged⟩
    exact ⟨mem_of_no_difference hactual hmissing hchanged, mem_of_no_addition hactual hadded hchanged⟩
  · intro h
    have hkeys : ∀ key, key ∈ expected.map Prod.fst ↔ key ∈ actual.map Prod.fst := by
      intro key
      simp only [List.mem_map, h]
    simp only [List.eq_nil_iff_forall_not_mem]
    refine ⟨?_, ?_, ?_⟩
    · intro key hkey
      exact (mem_addedKeys.mp hkey).2 ((hkeys key).mpr (mem_addedKeys.mp hkey).1)
    · intro key hkey
      exact (mem_addedKeys.mp hkey).2 ((hkeys key).mp (mem_addedKeys.mp hkey).1)
    · intro key hkey
      rcases (mem_changedKeys hactual).mp hkey with ⟨value, other, hvalue, hother, hne⟩
      have hvalue' : (key, value) ∈ actual := (h _).mp hvalue
      have hequal : (key, other) = (key, value) :=
        List.inj_on_of_nodup_map hactual hother hvalue' rfl
      exact hne (Prod.mk.inj hequal).2

end Difference

end HermesClaude.Library
