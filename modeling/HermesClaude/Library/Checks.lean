/-
# Checks in a row

A validator is a chain of checks, each of which may stop the chain with an error.  What a
chain accepts is what every one of its checks accepts.

Nothing here refers to a particular program.
-/

import Mathlib.Data.List.Perm.Basic

namespace HermesClaude.Library

universe u v w

variable {ε : Type u} {α β : Type v} {b : β}

theorem bind_eq_ok {x : Except ε α} {f : α → Except ε β} :
    (x >>= f) = .ok b ↔ ∃ a, x = .ok a ∧ f a = .ok b := by
  cases x with
  | error violation =>
    constructor
    · intro h
      cases h
    · rintro ⟨_, h, -⟩
      cases h
  | ok a =>
    constructor
    · intro h
      exact ⟨a, rfl, h⟩
    · rintro ⟨_, h, hf⟩
      cases h
      exact hf

theorem ok_bind (a : α) (f : α → Except ε β) : (Except.ok a >>= f) = f a := rfl

/-- A condition that must hold before the rest is read. -/
theorem check_bind_eq_ok {condition : Bool} {violation : ε} {f : PUnit → Except ε β} :
    ((if condition then .ok ⟨⟩ else .error violation : Except ε PUnit) >>= f) = .ok b ↔
      condition = true ∧ f ⟨⟩ = .ok b := by
  cases condition with
  | false =>
    apply iff_of_false
    · exact nofun
    · exact nofun
  | true => exact ⟨fun h => ⟨rfl, h⟩, And.right⟩

/-- A value that must be there. -/
theorem required_eq_ok {value : Option α} {violation : ε} {a : α} :
    (match value with | some a => .ok a | none => .error violation : Except ε α) = .ok a ↔
      value = some a := by
  cases value with
  | none =>
    apply iff_of_false
    · exact nofun
    · exact nofun
  | some x => rw [Except.ok.injEq, Option.some.injEq]

/-- A result, with the proof that it is the result. -/
def attach (x : Except ε α) : Except ε { a : α // x = .ok a } :=
  match x with
  | .ok a => .ok ⟨a, rfl⟩
  | .error violation => .error violation

theorem attach_eq_ok {x : Except ε α} {a : { a : α // x = .ok a }} : attach x = .ok a ↔ x = .ok a.1 := by
  rcases a with ⟨a, rfl⟩
  exact iff_of_true rfl rfl

/-- **A list of checks.** Every item passes, with its own result. -/
theorem mapM_eq_ok {ι : Type u} {f : ι → Except ε α} {items : List ι} {results : List α} :
    items.mapM f = .ok results ↔ List.Forall₂ (fun item result => f item = .ok result) items results := by
  induction items generalizing results with
  | nil =>
    rw [List.mapM_nil]
    constructor
    · intro h
      cases h
      exact .nil
    · intro h
      cases h
      rfl
  | cons item rest ih =>
    rw [List.mapM_cons, bind_eq_ok]
    constructor
    · rintro ⟨result, hresult, h⟩
      obtain ⟨others, hothers, h⟩ := bind_eq_ok.mp h
      cases h
      exact .cons hresult (ih.mp hothers)
    · intro h
      cases h with
      | cons hresult hothers =>
        exact ⟨_, hresult, bind_eq_ok.mpr ⟨_, ih.mpr hothers, rfl⟩⟩

/-- Items that are checked in another order have their results in another order. -/
theorem mapM_perm {ι : Type u} {f : ι → Except ε α} {items items' : List ι} {results : List α}
    (hperm : items.Perm items') (h : items.mapM f = .ok results) :
    ∃ results', items'.mapM f = .ok results' ∧ results.Perm results' := by
  rcases List.perm_comp_forall₂ hperm.symm (mapM_eq_ok.mp h) with ⟨results', hresults, hperm'⟩
  exact ⟨results', mapM_eq_ok.mpr hresults, hperm'.symm⟩

/-- Two checks that accept the same with the same result. -/
theorem toOption_congr {x y : Except ε α} (hxy : ∀ a, x = .ok a → y = .ok a)
    (hyx : ∀ a, y = .ok a → x = .ok a) : x.toOption = y.toOption := by
  cases x with
  | ok a => rw [hxy a rfl]
  | error violation =>
    cases y with
    | ok a => cases hyx a rfl
    | error _ => rfl

/-! ## Collecting what is new -/

/-- **A loop that collects.** Items that each fit, and of which no two have the same key, are
collected in their order. -/
theorem foldlM_collect_eq_ok {ι κ : Type u} {step : List ι → ι → Except ε (List ι)}
    {fits : ι → Prop} {key : ι → κ}
    (hstep : ∀ collected item next, step collected item = .ok next ↔
      fits item ∧ key item ∉ collected.map key ∧ next = collected ++ [item])
    {items collected next : List ι} : items.foldlM step collected = .ok next ↔
      (∀ item ∈ items, fits item) ∧ (∀ item ∈ items, key item ∉ collected.map key) ∧
        (items.map key).Nodup ∧ next = collected ++ items := by
  induction items generalizing collected with
  | nil =>
    rw [List.foldlM_nil, List.append_nil]
    constructor
    · intro h
      cases h
      exact ⟨List.forall_mem_nil _, List.forall_mem_nil _, List.nodup_nil, rfl⟩
    · intro h
      rw [h.2.2.2]
      rfl
  | cons item rest ih =>
    simp only [List.foldlM_cons, bind_eq_ok, hstep, List.forall_mem_cons, List.map_cons,
      List.nodup_cons]
    constructor
    · intro h
      rcases h with ⟨_, ⟨hfits, hnew, rfl⟩, h⟩
      rcases ih.mp h with ⟨hrest, hothers, hnodup, hnext⟩
      simp only [List.map_append, List.map_cons, List.map_nil, List.mem_append, List.mem_singleton,
        not_or] at hothers
      refine ⟨⟨hfits, hrest⟩, ⟨hnew, fun other h => (hothers other h).1⟩, ⟨?_, hnodup⟩, ?_⟩
      · intro hmem
        rcases List.mem_map.mp hmem with ⟨other, hother, hkey⟩
        exact (hothers other hother).2 hkey
      · rw [hnext, List.append_assoc]
        rfl
    · intro h
      rcases h with ⟨⟨hfits, hrest⟩, ⟨hnew, hothers⟩, ⟨hfirst, hnodup⟩, hnext⟩
      refine ⟨_, ⟨hfits, hnew, rfl⟩, ih.mpr ⟨hrest, ?_, hnodup, ?_⟩⟩
      · intro other hother hmem
        rw [List.map_append, List.mem_append] at hmem
        rcases hmem with hmem | hmem
        · exact hothers other hother hmem
        · have hkey : key other = key item := List.mem_singleton.mp hmem
          exact hfirst (hkey ▸ List.mem_map_of_mem hother)
      · rw [hnext, List.append_assoc]
        rfl

/-! ## Loops that may stop -/

/-- **A loop that may stop.** What every step preserves holds at the end. -/
theorem foldlM_preserves {ι : Type u} {step : α → ι → Except ε α} {P : α → Prop}
    (hstep : ∀ state item next, step state item = .ok next → P state → P next)
    {items : List ι} {state last : α} (h : items.foldlM step state = .ok last) (hstate : P state) :
    P last := by
  induction items generalizing state with
  | nil =>
    cases h
    exact hstate
  | cons item rest ih =>
    rw [List.foldlM_cons] at h
    obtain ⟨next, hnext, h⟩ := bind_eq_ok.mp h
    exact ih h (hstep state item next hnext hstate)

/-! ## Lists that are related item by item -/

section Related

variable {ι κ : Type u} {related : ι → κ → Prop} {items : List ι} {results : List κ}

theorem exists_right_of_mem (h : List.Forall₂ related items results) {item : ι} (hitem : item ∈ items) :
    ∃ result ∈ results, related item result := by
  induction h with
  | nil => cases hitem
  | @cons first result rest others hfirst hrest ih =>
    rcases List.mem_cons.mp hitem with rfl | hitem
    · exact ⟨result, List.mem_cons_self, hfirst⟩
    · rcases ih hitem with ⟨other, hother, hrelated⟩
      exact ⟨other, List.mem_cons_of_mem _ hother, hrelated⟩

theorem exists_left_of_mem (h : List.Forall₂ related items results) {result : κ}
    (hresult : result ∈ results) : ∃ item ∈ items, related item result :=
  exists_right_of_mem h.flip hresult

/-- Every item has a related one. -/
theorem exists_forall₂ (h : ∀ item ∈ items, ∃ result, related item result) :
    ∃ results, List.Forall₂ related items results := by
  induction items with
  | nil => exact ⟨[], .nil⟩
  | cons first rest ih =>
    rw [List.forall_mem_cons] at h
    rcases h with ⟨⟨result, hresult⟩, hrest⟩
    rcases ih hrest with ⟨results, hresults⟩
    exact ⟨result :: results, .cons hresult hresults⟩

end Related

/-- A check of every item. -/
theorem forM_eq_ok {ι : Type u} {f : ι → Except ε PUnit} {items : List ι} :
    items.forM f = .ok ⟨⟩ ↔ ∀ item ∈ items, f item = .ok ⟨⟩ := by
  induction items with
  | nil => exact iff_of_true rfl nofun
  | cons item rest ih =>
    rw [List.forall_mem_cons, ← ih]
    change (f item >>= fun _ => rest.forM f) = .ok ⟨⟩ ↔ _
    rw [bind_eq_ok]
    constructor
    · intro h
      rcases h with ⟨⟨⟩, hitem, hrest⟩
      exact ⟨hitem, hrest⟩
    · intro h
      exact ⟨⟨⟩, h⟩

end HermesClaude.Library
