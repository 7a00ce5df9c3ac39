/-
# Runs of consecutive indexes

Items with numbers may stand in any order and leave gaps.  A run is a block of consecutive
numbers each of which belongs to a good item.  Where the numbers are distinct, runs of three
are found by a window that moves over the items in order.

Nothing here refers to a particular program.
-/

import Mathlib.Data.List.Sort

namespace HermesClaude.Library

universe u

variable {α : Type u} (index : α → Nat) (good : α → Prop)

/-- Good items have so many consecutive numbers, from the first one on. -/
def IsRun (items : List α) (first count : Nat) : Prop :=
  ∀ k < count, ∃ item ∈ items, index item = first + k ∧ good item

/-- Good items have so many consecutive numbers. -/
def HasRun (items : List α) (count : Nat) : Prop := ∃ first, IsRun index good items first count

/-- A run behind all items of another kind. -/
def HasRunAfter (bad : α → Prop) (items : List α) (count : Nat) : Prop :=
  ∃ first, (∀ item ∈ items, bad item → index item < first) ∧ IsRun index good items first count

variable {index good}

theorem HasRun.mono {items : List α} {count less : Nat} (h : HasRun index good items count)
    (hless : less ≤ count) : HasRun index good items less := by
  rcases h with ⟨first, hrun⟩
  exact ⟨first, fun k hk => hrun k (by omega)⟩

theorem HasRunAfter.hasRun {bad : α → Prop} {items : List α} {count : Nat}
    (h : HasRunAfter index good bad items count) : HasRun index good items count := by
  rcases h with ⟨first, -, hrun⟩
  exact ⟨first, hrun⟩

/-- A run of one is a good item. -/
theorem hasRun_one {items : List α} :
    HasRun index good items 1 ↔ ∃ item ∈ items, good item := by
  constructor
  · intro h
    rcases h with ⟨first, hrun⟩
    rcases hrun 0 (by omega) with ⟨item, hitem, -, hgood⟩
    exact ⟨item, hitem, hgood⟩
  · intro h
    rcases h with ⟨item, hitem, hgood⟩
    refine ⟨index item, ?_⟩
    intro k hk
    exact ⟨item, hitem, by omega, hgood⟩

/-- A run depends on the items only, not on their order. -/
theorem HasRun.perm {items others : List α} {count : Nat} (hperm : items.Perm others)
    (h : HasRun index good items count) : HasRun index good others count := by
  rcases h with ⟨first, hrun⟩
  refine ⟨first, ?_⟩
  intro k hk
  rcases hrun k hk with ⟨item, hitem, hrest⟩
  exact ⟨item, hperm.mem_iff.mp hitem, hrest⟩

/-! ## Numbers from one on -/

section Numbered

variable {items : List α} {most : Nat}

/-- Among the numbers up to a bound, a run is no longer than the bound. -/
theorem HasRun.le_bound {count : Nat} (hbounds : ∀ item ∈ items, 1 ≤ index item ∧ index item ≤ most)
    (h : HasRun index good items count) : count ≤ most := by
  rcases h with ⟨first, hrun⟩
  by_contra hmore
  rcases hrun 0 (by omega) with ⟨low, hlow, hfirst, -⟩
  rcases hrun most (by omega) with ⟨high, hhigh, hlast, -⟩
  have hleast := hbounds low hlow
  have hgreatest := hbounds high hhigh
  omega

/-- A run as long as the bound has all items, where their numbers are distinct. -/
theorem HasRun.forall_good (hbounds : ∀ item ∈ items, 1 ≤ index item ∧ index item ≤ most)
    (hdistinct : (items.map index).Nodup) (h : HasRun index good items most) :
    ∀ item ∈ items, good item := by
  rcases h with ⟨first, hrun⟩
  intro item hitem
  have hitemBounds := hbounds item hitem
  rcases hrun 0 (by omega) with ⟨low, hlow, hfirst, -⟩
  rcases hrun (most - 1) (by omega) with ⟨high, hhigh, hlast, -⟩
  have hleast := hbounds low hlow
  have hgreatest := hbounds high hhigh
  rcases hrun (index item - 1) (by omega) with ⟨other, hother, hindex, hgood⟩
  have hsame : other = item :=
    List.inj_on_of_nodup_map hdistinct hother hitem (by omega)
  rw [← hsame]
  exact hgood

/-- Where every number up to a bound has an item, and all items are good, there are runs up to
the bound. -/
theorem HasRun.of_forall {count : Nat} (hcovered : ∀ number, 1 ≤ number → number ≤ most →
    ∃ item ∈ items, index item = number) (hgood : ∀ item ∈ items, good item)
    (hcount : count ≤ most) : HasRun index good items count := by
  refine ⟨1, ?_⟩
  intro k hk
  rcases hcovered (1 + k) (by omega) (by omega) with ⟨item, hitem, hindex⟩
  exact ⟨item, hitem, hindex, hgood item hitem⟩

end Numbered

/-! ## Windows -/

/-- Some three items in a row are accepted. -/
def hasWindow (accept : α → α → α → Bool) : List α → Bool
  | a :: b :: c :: rest => accept a b c || hasWindow accept (b :: c :: rest)
  | _ => false

/-- A window accepts good items with consecutive numbers. -/
def AcceptsRuns (index : α → Nat) (good : α → Prop) (items : List α)
    (accept : α → α → α → Bool) : Prop :=
  ∀ a ∈ items, ∀ b ∈ items, ∀ c ∈ items, accept a b c = true ↔
    (good a ∧ good b ∧ good c) ∧ index b = index a + 1 ∧ index c = index a + 2

/-- In a sorted list a number that comes next belongs to the item that comes next. -/
theorem eq_of_sorted {head next item : α} {rest : List α}
    (hsorted : (head :: next :: rest).Pairwise fun a b => index a < index b)
    (hitem : item ∈ head :: next :: rest) (hindex : index item = index head + 1) :
    item = next := by
  rw [List.pairwise_cons, List.pairwise_cons] at hsorted
  have hnext : index head < index next := hsorted.1 next List.mem_cons_self
  rcases List.mem_cons.mp hitem with rfl | hitem
  · omega
  · rcases List.mem_cons.mp hitem with rfl | hitem
    · rfl
    · have hlater : index next < index item := hsorted.2.1 item hitem
      omega

/-- What has a greater number than the head of a list is in its tail. -/
theorem mem_tail_of_lt {head item : α} {rest : List α} (hitem : item ∈ head :: rest)
    (hindex : index head < index item) : item ∈ rest := by
  rcases List.mem_cons.mp hitem with rfl | hitem
  · omega
  · exact hitem

/-- **Windows find runs.** In a sorted list a window is accepted exactly if there is a run of
three. -/
theorem hasWindow_iff {accept : α → α → α → Bool} {items : List α}
    (hsorted : items.Pairwise fun a b => index a < index b)
    (haccept : AcceptsRuns index good items accept) :
    hasWindow accept items = true ↔ HasRun index good items 3 := by
  have hrun : HasRun index good items 3 ↔ ∃ a ∈ items, ∃ b ∈ items, ∃ c ∈ items,
      (good a ∧ good b ∧ good c) ∧ index b = index a + 1 ∧ index c = index a + 2 := by
    constructor
    · intro h
      rcases h with ⟨first, hrun⟩
      rcases hrun 0 (by omega) with ⟨a, ha, hia, hga⟩
      rcases hrun 1 (by omega) with ⟨b, hb, hib, hgb⟩
      rcases hrun 2 (by omega) with ⟨c, hc, hic, hgc⟩
      exact ⟨a, ha, b, hb, c, hc, ⟨hga, hgb, hgc⟩, by omega, by omega⟩
    · intro h
      rcases h with ⟨a, ha, b, hb, c, hc, ⟨hga, hgb, hgc⟩, hib, hic⟩
      refine ⟨index a, ?_⟩
      intro k hk
      obtain rfl | rfl | rfl : k = 0 ∨ k = 1 ∨ k = 2 := by omega
      · exact ⟨a, ha, rfl, hga⟩
      · exact ⟨b, hb, hib, hgb⟩
      · exact ⟨c, hc, hic, hgc⟩
  rw [hrun]
  clear hrun
  induction items using hasWindow.induct with
  | case1 a b c rest ih =>
    have htail := (List.pairwise_cons.mp hsorted).2
    have haccept' : AcceptsRuns index good (b :: c :: rest) accept := by
      intro x hx y hy z hz
      exact haccept x (List.mem_cons_of_mem _ hx) y (List.mem_cons_of_mem _ hy) z
        (List.mem_cons_of_mem _ hz)
    have hb : b ∈ a :: b :: c :: rest := by simp
    have hc : c ∈ a :: b :: c :: rest := by simp
    rw [hasWindow, Bool.or_eq_true]
    refine (or_congr (haccept a List.mem_cons_self b hb c hc) (ih htail haccept')).trans ?_
    constructor
    · intro h
      rcases h with h | ⟨x, hx, y, hy, z, hz, h⟩
      · exact ⟨a, List.mem_cons_self, b, hb, c, hc, h⟩
      · exact ⟨x, List.mem_cons_of_mem _ hx, y, List.mem_cons_of_mem _ hy, z,
          List.mem_cons_of_mem _ hz, h⟩
    · intro h
      rcases h with ⟨x, hx, y, hy, z, hz, hgood, hxy, hxz⟩
      rcases List.mem_cons.mp hx with rfl | hx'
      · -- the run begins with the head, so its other items come next
        have hyb : y = b := eq_of_sorted hsorted hy hxy
        have hxz' : index x < index z := by omega
        have hz' : z ∈ b :: c :: rest := mem_tail_of_lt hz hxz'
        have hzc : z = c := eq_of_sorted htail hz' (by rw [← hyb]; omega)
        rw [hyb, hzc] at hgood
        rw [hyb] at hxy
        rw [hzc] at hxz
        exact .inl ⟨hgood, hxy, hxz⟩
      · have hlt : index a < index x := (List.pairwise_cons.mp hsorted).1 x hx'
        have hay : index a < index y := by omega
        have haz : index a < index z := by omega
        exact .inr ⟨x, hx', y, mem_tail_of_lt hy hay, z, mem_tail_of_lt hz haz, hgood, hxy, hxz⟩
  | case2 items hshort =>
    have hfalse : hasWindow accept items = false := by
      match items, hshort with
      | [], _ => rfl
      | [_], _ => rfl
      | [_, _], _ => rfl
      | a :: b :: c :: rest, hshort => exact (hshort a b c rest rfl).elim
    rw [hfalse]
    refine iff_of_false Bool.false_ne_true ?_
    intro h
    rcases h with ⟨x, hx, y, hy, z, hz, -, hxy, hxz⟩
    match items, hshort with
    | [], _ => cases hx
    | [_], _ =>
      rw [List.mem_singleton] at hx hy
      rw [hx, hy] at hxy
      omega
    | [a, b], _ =>
      simp only [List.mem_cons, List.not_mem_nil, or_false] at hx hy hz
      rcases hx with rfl | rfl <;> rcases hy with rfl | rfl <;> rcases hz with rfl | rfl <;> omega
    | a :: b :: c :: rest, hshort => exact hshort a b c rest rfl

/-! ## Sorting by number -/

/-- `sorted(items, key=index)`. -/
def sortByIndex (index : α → Nat) (items : List α) : List α :=
  items.insertionSort fun a b => index a ≤ index b

theorem perm_sortByIndex (items : List α) : (sortByIndex index items).Perm items :=
  List.perm_insertionSort _ items

/-- Distinct numbers are sorted strictly. -/
theorem pairwise_sortByIndex {items : List α} (hnodup : (items.map index).Nodup) :
    (sortByIndex index items).Pairwise fun a b => index a < index b := by
  have hsorted : (sortByIndex index items).Pairwise fun a b => index a ≤ index b := by
    have htotal : Std.Total fun a b : α => index a ≤ index b := ⟨fun a b => le_total (index a) (index b)⟩
    have htrans : IsTrans α fun a b => index a ≤ index b := ⟨fun a b c => le_trans⟩
    exact List.pairwise_insertionSort _ items
  have hdistinct : ((sortByIndex index items).map index).Nodup :=
    ((perm_sortByIndex items).map index).nodup_iff.mpr hnodup
  rw [List.Nodup, List.pairwise_map] at hdistinct
  apply (hsorted.and hdistinct).imp
  intro a b h
  have hle : index a ≤ index b := h.1
  have hne : index a ≠ index b := h.2
  omega

end HermesClaude.Library
