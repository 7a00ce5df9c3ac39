/-
# The smallest entry of every key

Entries come one after the other, and of those with one key the smallest is kept, in the place of
the first.  Which entries are kept does not depend on the order they came in, where the key and the
size determine the entry.

Nothing here refers to a particular program.
-/

import HermesClaude.Library.StableSort

namespace HermesClaude.Library

universe u v w

variable {α : Type u} {κ : Type v} {σ : Type w} [DecidableEq κ] [LinearOrder σ]

section Keep

variable (key : α → κ) (size : α → σ)

/-- One more entry. -/
def keepSmallest : List α → α → List α
  | [], a => [a]
  | b :: rest, a =>
    if key b = key a then (if size a < size b then a else b) :: rest else b :: keepSmallest rest a

/-- The entries that are kept. -/
def smallestPerKey (items : List α) : List α := items.foldl (keepSmallest key size) []

/-- The kept entries are some of those seen, no key twice, and none that was seen is smaller. -/
structure Smallest (seen kept : List α) : Prop where
  nodup : (kept.map key).Nodup
  subset : ∀ a ∈ kept, a ∈ seen
  covers : ∀ a ∈ seen, ∃ b ∈ kept, key b = key a ∧ size b ≤ size a

end Keep

variable {key : α → κ} {size : α → σ} {items items' seen kept : List α} {a b : α}

theorem mem_of_mem_keepSmallest (h : b ∈ keepSmallest key size kept a) : b ∈ kept ∨ b = a := by
  induction kept with
  | nil => exact Or.inr (List.mem_singleton.mp h)
  | cons c rest ih =>
    rw [keepSmallest] at h
    split at h
    · rcases List.mem_cons.mp h with rfl | hrest
      · split
        · exact Or.inr rfl
        · exact Or.inl List.mem_cons_self
      · exact Or.inl (List.mem_cons_of_mem _ hrest)
    · rcases List.mem_cons.mp h with rfl | hrest
      · exact Or.inl List.mem_cons_self
      · exact (ih hrest).imp_left (List.mem_cons_of_mem _)

theorem map_key_keepSmallest : (keepSmallest key size kept a).map key =
    if key a ∈ kept.map key then kept.map key else kept.map key ++ [key a] := by
  induction kept with
  | nil => simp [keepSmallest]
  | cons c rest ih =>
    rw [keepSmallest]
    by_cases hkey : key c = key a
    · have hmem : key a ∈ (c :: rest).map key := hkey ▸ List.mem_cons_self
      rw [if_pos hkey, if_pos hmem, List.map_cons, List.map_cons]
      split
      · rw [hkey]
      · rfl
    · have hmem : key a ∈ (c :: rest).map key ↔ key a ∈ rest.map key := by
        rw [List.map_cons, List.mem_cons]
        constructor
        · intro h
          exact h.resolve_left fun heq => hkey heq.symm
        · exact Or.inr
      rw [if_neg hkey, List.map_cons, ih]
      simp only [hmem]
      split
      · rfl
      · rfl

/-- The new entry is covered, and so is what was. -/
theorem covers_keepSmallest (key : α → κ) (size : α → σ) (a : α) (h : b ∈ kept ∨ b = a) :
    ∃ c ∈ keepSmallest key size kept a, key c = key b ∧ size c ≤ size b := by
  induction kept with
  | nil =>
    rcases h with h | rfl
    · cases h
    · exact ⟨b, List.mem_singleton.mpr rfl, rfl, le_rfl⟩
  | cons d rest ih =>
    rw [keepSmallest]
    by_cases hkey : key d = key a
    · rw [if_pos hkey]
      by_cases hsize : size a < size d
      · rw [if_pos hsize]
        rcases h with h | rfl
        · rcases List.mem_cons.mp h with rfl | hrest
          · exact ⟨a, List.mem_cons_self, hkey.symm, hsize.le⟩
          · exact ⟨b, List.mem_cons_of_mem _ hrest, rfl, le_rfl⟩
        · exact ⟨b, List.mem_cons_self, rfl, le_rfl⟩
      · rw [if_neg hsize]
        rcases h with h | rfl
        · exact ⟨b, h, rfl, le_rfl⟩
        · exact ⟨d, List.mem_cons_self, hkey, not_lt.mp hsize⟩
    · rw [if_neg hkey]
      have hrest : b ∈ rest ∨ b = a → ∃ c ∈ d :: keepSmallest key size rest a,
          key c = key b ∧ size c ≤ size b := by
        intro hb
        rcases ih hb with ⟨c, hc, hsame⟩
        exact ⟨c, List.mem_cons_of_mem _ hc, hsame⟩
      rcases h with h | h
      · rcases List.mem_cons.mp h with rfl | h
        · exact ⟨b, List.mem_cons_self, rfl, le_rfl⟩
        · exact hrest (Or.inl h)
      · exact hrest (Or.inr h)

/-- **One step.** -/
theorem Smallest.step (h : Smallest key size seen kept) (a : α) :
    Smallest key size (seen ++ [a]) (keepSmallest key size kept a) where
  nodup := by
    rw [map_key_keepSmallest]
    split
    · exact h.nodup
    · next hnew => exact List.nodup_append.mpr ⟨h.nodup, List.nodup_singleton _, by simpa using hnew⟩
  subset := by
    intro b hb
    rcases mem_of_mem_keepSmallest hb with hold | rfl
    · exact List.mem_append_left _ (h.subset b hold)
    · exact List.mem_append_right _ (List.mem_singleton.mpr rfl)
  covers := by
    intro b hb
    rcases List.mem_append.mp hb with hold | hnew
    · rcases h.covers b hold with ⟨c, hc, hkey, hsize⟩
      rcases covers_keepSmallest key size a (Or.inl hc) with ⟨d, hd, hkey', hsize'⟩
      exact ⟨d, hd, hkey'.trans hkey, hsize'.trans hsize⟩
    · exact covers_keepSmallest _ _ _ (Or.inr (List.mem_singleton.mp hnew))

/-- **The whole run.** -/
theorem smallest_smallestPerKey (key : α → κ) (size : α → σ) (items : List α) :
    Smallest key size items (smallestPerKey key size items) := by
  have hrun : ∀ (items seen kept : List α), Smallest key size seen kept →
      Smallest key size (seen ++ items) (items.foldl (keepSmallest key size) kept) := by
    intro items
    induction items with
    | nil =>
      intro seen kept h
      rwa [List.append_nil]
    | cons a rest ih =>
      intro seen kept h
      have hstep := ih _ _ (h.step a)
      rwa [List.append_assoc] at hstep
  exact hrun items [] [] ⟨List.nodup_nil, fun _ h => absurd h List.not_mem_nil,
    fun _ h => absurd h List.not_mem_nil⟩

omit [DecidableEq κ] in
/-- The smallest of its key is kept, and nothing else. -/
theorem Smallest.mem_iff (h : Smallest key size seen kept)
    (hagree : KeysAgree (fun a => (key a, size a)) seen) :
    a ∈ kept ↔ a ∈ seen ∧ ∀ b ∈ seen, key b = key a → size a ≤ size b := by
  constructor
  · intro ha
    refine ⟨h.subset a ha, fun b hb hkey => ?_⟩
    rcases h.covers b hb with ⟨c, hc, hkey', hsize⟩
    have hsame : c = a := List.inj_on_of_nodup_map h.nodup hc ha (hkey'.trans hkey)
    rwa [← hsame]
  · intro ha
    rcases h.covers a ha.1 with ⟨b, hb, hkey, hsize⟩
    have hle := ha.2 b (h.subset b hb) hkey
    have hsame : b = a := hagree b (h.subset b hb) a ha.1 (Prod.ext hkey (le_antisymm hsize hle))
    rwa [← hsame]

/-- **The order does not matter.** -/
theorem smallestPerKey_perm (hagree : KeysAgree (fun a => (key a, size a)) items)
    (hperm : items.Perm items') :
    (smallestPerKey key size items).Perm (smallestPerKey key size items') := by
  have hkept := smallest_smallestPerKey key size items
  have hkept' := smallest_smallestPerKey key size items'
  have hagree' : KeysAgree (fun a => (key a, size a)) items' := by
    intro a ha b hb
    exact hagree a (hperm.mem_iff.mpr ha) b (hperm.mem_iff.mpr hb)
  apply (List.perm_ext_iff_of_nodup hkept.nodup.of_map hkept'.nodup.of_map).mpr
  intro a
  rw [hkept.mem_iff hagree, hkept'.mem_iff hagree']
  simp only [hperm.mem_iff]

end HermesClaude.Library
