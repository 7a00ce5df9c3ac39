/-
# Traversing a list with a partial function

`mapM` in `Option` has a result exactly if the function has one on every element.

Nothing here refers to a particular program.
-/

import Mathlib.Data.List.Basic
import Mathlib.Data.List.Perm.Basic

namespace HermesClaude.Library

universe u v

variable {α : Type u} {β : Type v} {f : α → Option β} {items items' : List α} {results : List β}

theorem mapM_cons_option (a : α) (rest : List α) :
    (a :: rest).mapM f = (f a).bind fun b => (rest.mapM f).map fun bs => b :: bs := by
  rw [List.mapM_cons]
  cases f a with
  | none => rfl
  | some b => cases hrest : rest.mapM f <;> simp

theorem mapM_eq_some : items.mapM f = some results ↔ items.map f = results.map some := by
  induction items generalizing results with
  | nil =>
    rw [List.mapM_nil, List.map_nil, Option.pure_def, Option.some_inj, List.nil_eq, List.nil_eq,
      List.map_eq_nil_iff]
  | cons a rest ih =>
    rw [mapM_cons_option, List.map_cons]
    simp only [Option.bind_eq_some_iff, Option.map_eq_some_iff, ih]
    cases results with
    | nil => simp
    | cons b bs =>
      rw [List.map_cons, List.cons.injEq]
      constructor
      · intro h
        rcases h with ⟨_, hfirst, _, hothers, heq⟩
        cases heq
        exact ⟨hfirst, hothers⟩
      · intro h
        exact ⟨b, h.1, bs, h.2, rfl⟩

/-- Only what the function makes of the elements counts. -/
theorem mapM_congr_option (h : items.map f = items'.map f) : items.mapM f = items'.mapM f := by
  apply Option.ext
  intro results
  rw [mapM_eq_some, mapM_eq_some, h]

/-- Elements in another order give the same results in another order. -/
theorem mapM_perm_option (hperm : items.Perm items') (h : items.mapM f = some results) :
    ∃ results', items'.mapM f = some results' ∧ results'.Perm results := by
  induction hperm generalizing results with
  | nil => exact ⟨results, h, List.Perm.refl _⟩
  | cons a _ ih =>
    simp only [mapM_cons_option, Option.bind_eq_some_iff, Option.map_eq_some_iff] at h ⊢
    rcases h with ⟨b, hb, bs, hbs, rfl⟩
    rcases ih hbs with ⟨bs', hbs', hsame⟩
    exact ⟨b :: bs', ⟨b, hb, bs', hbs', rfl⟩, hsame.cons b⟩
  | swap a a' rest =>
    simp only [mapM_cons_option, Option.bind_eq_some_iff, Option.map_eq_some_iff] at h ⊢
    rcases h with ⟨b', hb', _, ⟨b, hb, bs, hbs, rfl⟩, rfl⟩
    exact ⟨b :: b' :: bs, ⟨b, hb, b' :: bs, ⟨b', hb', bs, hbs, rfl⟩, rfl⟩, List.Perm.swap _ _ _⟩
  | trans _ _ ih ih' =>
    rcases ih h with ⟨middle, hmiddle, hsame⟩
    rcases ih' hmiddle with ⟨last, hlast, hsame'⟩
    exact ⟨last, hlast, hsame'.trans hsame⟩

/-- Each result is the result of an element. -/
theorem exists_of_mem_mapM (h : items.mapM f = some results) {b : β} (hb : b ∈ results) :
    ∃ a ∈ items, f a = some b := by
  have hmem : some b ∈ items.map f := by
    rw [mapM_eq_some.mp h]
    exact List.mem_map_of_mem hb
  exact List.mem_map.mp hmem

/-- Each element has its result. -/
theorem exists_mem_of_mapM (h : items.mapM f = some results) {a : α} (ha : a ∈ items) :
    ∃ b ∈ results, f a = some b := by
  have hmem : f a ∈ results.map some := by
    rw [← mapM_eq_some.mp h]
    exact List.mem_map_of_mem ha
  rcases List.mem_map.mp hmem with ⟨b, hb, heq⟩
  exact ⟨b, hb, heq.symm⟩

/-- Elements with the same result are one, if no result comes twice. -/
theorem eq_of_nodup_filterMap (hunique : (items.filterMap f).Nodup) {a a' : α} (ha : a ∈ items)
    (ha' : a' ∈ items) {b : β} (hb : f a = some b) (hb' : f a' = some b) : a = a' := by
  induction items with
  | nil => cases ha
  | cons first rest ih =>
    have hrest : (rest.filterMap f).Nodup := by
      cases hfirst : f first with
      | none =>
        rw [List.filterMap_cons_none hfirst] at hunique
        exact hunique
      | some c =>
        rw [List.filterMap_cons_some hfirst] at hunique
        exact hunique.of_cons
    have hnew : f first = some b → ∀ other ∈ rest, f other ≠ some b := by
      intro hfirst other hother hsame
      rw [List.filterMap_cons_some hfirst] at hunique
      exact (List.nodup_cons.mp hunique).1 (List.mem_filterMap.mpr ⟨other, hother, hsame⟩)
    rw [List.mem_cons] at ha ha'
    rcases ha with rfl | ha
    · rcases ha' with rfl | ha'
      · rfl
      · exact absurd hb' (hnew hb a' ha')
    · rcases ha' with rfl | ha'
      · exact absurd hb (hnew hb' a ha)
      · exact ih hrest ha ha'

end HermesClaude.Library
