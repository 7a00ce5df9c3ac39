/-
# Checks of numbered items

A loop that reads a list with the place of every item in hand names the place in its errors.
What it accepts does not depend on the places, so it accepts what a loop without them accepts.

Nothing here refers to a particular program.
-/

import HermesClaude.Library.Checks

namespace HermesClaude.Library

universe u v

section Related

variable {ι : Type u} {κ : Type v} {related : ι → κ → Prop} {good : κ → Prop}

/-- What is asked of the results alone may be asked afterwards. -/
theorem forall₂_and_right {items : List ι} {results : List κ} :
    List.Forall₂ (fun item result => related item result ∧ good result) items results ↔
      List.Forall₂ related items results ∧ ∀ result ∈ results, good result := by
  constructor
  · intro h
    induction h with
    | nil => exact ⟨.nil, List.forall_mem_nil _⟩
    | cons hfirst _ ih => exact ⟨.cons hfirst.1 ih.1, List.forall_mem_cons.mpr ⟨hfirst.2, ih.2⟩⟩
  · rintro ⟨h, hgood⟩
    induction h with
    | nil => exact .nil
    | cons hfirst _ ih =>
      rw [List.forall_mem_cons] at hgood
      exact .cons ⟨hfirst, hgood.1⟩ (ih hgood.2)

end Related

section Indexed

variable {ε ι : Type u} {κ : Type v} {f : ι × Nat → Except ε κ} {related : ι → κ → Prop}

/-- **A list of numbered checks.** Where the numbers do not matter, every item passes with its own
result. -/
theorem mapM_zipIdx_eq_ok (hf : ∀ item index result, f (item, index) = .ok result ↔ related item result)
    {items : List ι} {results : List κ} :
    items.zipIdx.mapM f = .ok results ↔ List.Forall₂ related items results := by
  have hpairs : List.Forall₂ (fun item result => f item = .ok result) items.zipIdx results ↔
      List.Forall₂ (fun item result => related item.1 result) items.zipIdx results := by
    simp only [hf]
  rw [mapM_eq_ok, hpairs, ← List.forall₂_map_left_iff, List.zipIdx_map_fst]

end Indexed

end HermesClaude.Library
