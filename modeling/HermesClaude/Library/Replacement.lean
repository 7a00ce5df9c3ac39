/-
# Replacing the matches of an expression

A text is replaced from left to right, so what becomes of a part of it depends on the text behind
only through the match that begins in the part and runs over its end.

Nothing here refers to a particular program.
-/

import HermesClaude.Library.Regex

namespace HermesClaude.Library.Regex

universe u

variable {α : Type u}

section Scan

variable (isWord : α → Bool) (r : Regex α)

/-- What becomes of a text that goes on. -/
def keptFrom (marker : List α) : Nat → Option α → List α → List α → List α
  | _, _, [], _ => []
  | skip + 1, _, c :: s, rest => keptFrom marker skip (some c) s rest
  | 0, prev, c :: s, rest =>
    match (ends isWord r prev (c :: (s ++ rest))).head? with
    | some (n + 1) => marker ++ keptFrom marker n (some c) s rest
    | _ => c :: keptFrom marker 0 (some c) s rest

/-- How much of `rest` belongs to the match that begins in the text before it. -/
def overhang : Nat → Option α → List α → List α → Nat
  | skip, _, [], _ => skip
  | skip + 1, _, c :: s, rest => overhang skip (some c) s rest
  | 0, prev, c :: s, rest =>
    match (ends isWord r prev (c :: (s ++ rest))).head? with
    | some (n + 1) => overhang n (some c) s rest
    | _ => overhang 0 (some c) s rest

end Scan

variable {isWord : α → Bool} {r : Regex α} {marker s t w rest : List α} {prev : Option α} {skip n : Nat}

/-- **Replacing is done part by part.** -/
theorem subFrom_append (skip : Nat) (prev : Option α) (s rest : List α) :
    subFrom isWord r marker skip prev (s ++ rest) = keptFrom isWord r marker skip prev s rest ++
      subFrom isWord r marker (overhang isWord r skip prev s rest) (lastOf prev s) rest := by
  induction s generalizing skip prev with
  | nil => rw [List.nil_append, keptFrom, overhang, List.nil_append]; rfl
  | cons c s ih =>
    rw [lastOf_cons, List.cons_append]
    cases skip with
    | succ skip => rw [subFrom, keptFrom, overhang, ih]
    | zero =>
      rw [subFrom, keptFrom, overhang]
      cases hhead : (ends isWord r prev (c :: (s ++ rest))).head? with
      | none => exact congrArg (c :: ·) (ih 0 (some c))
      | some n =>
        cases n with
        | zero => exact congrArg (c :: ·) (ih 0 (some c))
        | succ n =>
          rw [List.append_assoc]
          exact congrArg (marker ++ ·) (ih n (some c))

theorem subFrom_eq_keptFrom (skip : Nat) (prev : Option α) (s : List α) :
    subFrom isWord r marker skip prev s = keptFrom isWord r marker skip prev s [] := by
  have happend : subFrom isWord r marker skip prev (s ++ []) = _ := subFrom_append skip prev s []
  rw [List.append_nil] at happend
  rw [happend]
  cases overhang isWord r skip prev s [] <;> rw [subFrom, List.append_nil]

/-- A match stays within the text. -/
theorem overhang_le (hskip : skip ≤ (s ++ rest).length) :
    overhang isWord r skip prev s rest ≤ rest.length := by
  induction s generalizing skip prev with
  | nil => exact hskip
  | cons c s ih =>
    rw [List.cons_append, List.length_cons] at hskip
    cases skip with
    | succ skip => exact ih (Nat.le_of_succ_le_succ hskip)
    | zero =>
      rw [overhang]
      split
      · next n hhead =>
        have hlength := le_length_of_mem_ends (List.mem_of_head? hhead)
        exact ih (Nat.le_of_succ_le_succ hlength)
      · exact ih (Nat.zero_le _)

/-- Where no match that begins in `s` goes behind `w`, nothing behind `w` matters for it. -/
theorem overhang_append (hr : Settled r) (hwithin : ∀ b c e, s = b ++ c :: e →
      ∀ n ∈ ends isWord r (lastOf prev b) (c :: (e ++ (w ++ rest))), n ≤ (c :: (e ++ w)).length) :
    overhang isWord r skip prev s (w ++ rest) = overhang isWord r skip prev s w := by
  induction s generalizing skip prev with
  | nil => rfl
  | cons c s ih =>
    have htail : ∀ b d e, s = b ++ d :: e → ∀ n ∈ ends isWord r (lastOf (some c) b)
        (d :: (e ++ (w ++ rest))), n ≤ (d :: (e ++ w)).length := by
      intro b d e hs
      rw [← lastOf_cons prev]
      exact hwithin (c :: b) d e (by rw [hs]; rfl)
    cases skip with
    | succ skip =>
      rw [overhang, overhang]
      exact ih htail
    | zero =>
      have hsame : ends isWord r prev (c :: (s ++ (w ++ rest))) = ends isWord r prev (c :: (s ++ w)) := by
        have hfilter : (ends isWord r prev _).filter _ = _ := ends_append hr prev (c :: (s ++ w)) rest
        rw [List.cons_append, List.append_assoc] at hfilter
        rw [← hfilter, eq_comm, List.filter_eq_self]
        intro n hn
        exact decide_eq_true (hwithin [] c s rfl n hn)
      rw [overhang, overhang, hsame]
      split
      · exact ih htail
      · exact ih htail

/-- What is still to be skipped is gone. -/
theorem subFrom_skip (prev : Option α) (w rest : List α) :
    subFrom isWord r marker w.length prev (w ++ rest) =
      subFrom isWord r marker 0 (lastOf prev w) rest := by
  induction w generalizing prev with
  | nil => rfl
  | cons c w ih => rw [List.length_cons, List.cons_append, subFrom, ih, lastOf_cons]

/-- A match at the beginning is replaced. -/
theorem subFrom_match (hw : w ≠ [])
    (hfirst : (ends isWord r prev (w ++ rest)).head? = some w.length) :
    subFrom isWord r marker 0 prev (w ++ rest) =
      marker ++ subFrom isWord r marker 0 (lastOf prev w) rest := by
  cases w with
  | nil => exact absurd rfl hw
  | cons c w =>
    rw [List.cons_append, List.length_cons] at hfirst
    rw [List.cons_append, subFrom, hfirst, lastOf_cons]
    exact congrArg (marker ++ ·) (subFrom_skip _ _ _)

/-- Where no match begins, the text stays. -/
theorem subFrom_quiet (hskip : skip ≤ w.length)
    (hquiet : ∀ b c e, w = b ++ c :: e → skip ≤ b.length →
      ends isWord r (lastOf prev b) (c :: (e ++ rest)) = []) :
    subFrom isWord r marker skip prev (w ++ rest) =
      w.drop skip ++ subFrom isWord r marker 0 (lastOf prev w) rest := by
  induction w generalizing skip prev with
  | nil =>
    rw [Nat.le_zero.mp hskip]
    rfl
  | cons c w ih =>
    have htail : ∀ b d e, w = b ++ d :: e → skip ≤ b.length + 1 →
        ends isWord r (lastOf (some c) b) (d :: (e ++ rest)) = [] := by
      intro b d e hw hle
      rw [← lastOf_cons prev]
      exact hquiet (c :: b) d e (by rw [hw]; rfl) hle
    cases skip with
    | succ skip =>
      rw [List.cons_append, subFrom, List.drop_succ_cons, lastOf_cons]
      exact ih (Nat.le_of_succ_le_succ hskip) fun b d e hw hle =>
        htail b d e hw (Nat.succ_le_succ hle)
    | zero =>
      have hnone : ends isWord r prev (c :: (w ++ rest)) = [] := hquiet [] c w rfl (Nat.zero_le _)
      rw [List.cons_append, subFrom, hnone, lastOf_cons, List.drop_zero, List.cons_append]
      exact congrArg (c :: ·) (ih (Nat.zero_le _) fun b d e hw _ => htail b d e hw (Nat.zero_le _))

/-! ## What is found in the replaced text -/

/-- A text cannot be read off a marker, whatever stands before it and behind it: neither is within the
other, and no end of the text is the beginning of the marker, or its beginning the marker's end. -/
structure Avoids (marker t : List α) : Prop where
  within : ¬t <:+: marker
  around : ¬marker <:+: t
  before : ∀ b, b <:+ t → b ≠ [] → ¬b <+: marker
  behind : ∀ a, a <+: t → a ≠ [] → ¬a <:+ marker

section Infix

variable {u v : List α}

theorem Avoids.ne_nil (h : Avoids marker t) : t ≠ [] := by
  intro hnil
  exact h.within (hnil ▸ List.nil_infix)

/-- A text that has no character of the marker avoids it. -/
theorem avoids_of_disjoint (hmarker : marker ≠ []) (ht : t ≠ []) (h : ∀ c ∈ t, c ∉ marker) :
    Avoids marker t := by
  have hshared : ∀ w, w ≠ [] → w ⊆ t → ¬w ⊆ marker := by
    intro w hne hleft hright
    rcases List.exists_mem_of_ne_nil w hne with ⟨c, hc⟩
    exact h c (hleft hc) (hright hc)
  constructor
  · intro hinside
    exact hshared t ht (List.Subset.refl t) hinside.subset
  · intro hinside
    exact hshared marker hmarker hinside.subset (List.Subset.refl marker)
  · intro b hb hne hstarts
    exact hshared b hne hb.subset hstarts.subset
  · intro a ha hne hends
    exact hshared a hne ha.subset hends.subset

/-- Next to a marker, a text that avoids it lies before it or behind it. -/
theorem infix_of_infix_marked (ht : Avoids marker t) (h : t <:+: u ++ (marker ++ v)) :
    t <:+: u ∨ t <:+: v := by
  rcases List.infix_append_iff_ne_nil.mp h with hu | hright | ⟨a, b, -, hb, rfl, -, hstarts⟩
  · exact Or.inl hu
  · rcases List.infix_append_iff_ne_nil.mp hright with hinside | hv | ⟨a, b, ha, -, rfl, hends, -⟩
    · exact absurd hinside ht.within
    · exact Or.inr hv
    · exact absurd hends (ht.behind a (List.prefix_append a b) ha)
  · -- The text runs into the marker: its end is a beginning of the marker, or has the marker in it.
    rcases List.prefix_or_prefix_of_prefix hstarts (List.prefix_append marker v) with hshort | hlong
    · exact absurd hshort (ht.before b (List.suffix_append a b) hb)
    · exact absurd (hlong.isInfix.trans (List.suffix_append a b).isInfix) ht.around

/-- Before the first marker there is only what was there. -/
theorem prefix_of_prefix_keptFrom (haround : ¬marker <:+: t)
    (hbefore : ∀ b, b <:+ t → b ≠ [] → ¬b <+: marker)
    (h : t <+: keptFrom isWord r marker skip prev s rest) : t <+: s.drop skip := by
  induction s generalizing skip prev t with
  | nil =>
    rw [List.prefix_nil.mp h]
    exact List.nil_prefix
  | cons c s ih =>
    cases skip with
    | succ skip => exact ih haround hbefore h
    | zero =>
      cases t with
      | nil => exact List.nil_prefix
      | cons d t =>
        rw [keptFrom] at h
        split at h
        · rcases List.prefix_or_prefix_of_prefix h (List.prefix_append marker _) with hshort | hlong
          · exact absurd hshort (hbefore (d :: t) (List.suffix_refl _) (List.cons_ne_nil d t))
          · exact absurd hlong.isInfix haround
        · rw [List.cons_prefix_cons] at h
          rw [h.1, List.drop_zero, List.prefix_cons_inj]
          apply ih _ _ h.2
          · intro hinside
            exact haround (List.infix_cons hinside)
          · intro b hb
            exact hbefore b (hb.trans (List.suffix_cons d t))

/-- **Nothing is made up.**  A text that avoids the marker is found in the replaced text only if it
was in the text. -/
theorem infix_of_infix_keptFrom (ht : Avoids marker t)
    (h : t <:+: keptFrom isWord r marker skip prev s rest) : t <:+: s := by
  induction s generalizing skip prev with
  | nil => exact absurd (List.infix_nil.mp h) ht.ne_nil
  | cons c s ih =>
    cases skip with
    | succ skip => exact List.infix_cons (ih h)
    | zero =>
      rw [keptFrom] at h
      split at h
      · -- Behind a match there is the marker, and behind it what is kept of the rest.
        rcases infix_of_infix_marked (u := []) ht h with hnil | hkept
        · exact absurd (List.infix_nil.mp hnil) ht.ne_nil
        · exact List.infix_cons (ih hkept)
      · rcases List.infix_cons_iff.mp h with hstarts | hkept
        · rcases List.prefix_cons_iff.mp hstarts with rfl | ⟨t', rfl, hkept⟩
          · exact absurd rfl ht.ne_nil
          · have hs : t' <+: s.drop 0 := by
              apply prefix_of_prefix_keptFrom _ _ hkept
              · intro hinside
                exact ht.around (List.infix_cons hinside)
              · intro b hb
                exact ht.before b (hb.trans (List.suffix_cons c t'))
            exact ((List.prefix_cons_inj c).mpr hs).isInfix
        · exact List.infix_cons (ih hkept)

end Infix

end HermesClaude.Library.Regex
