/-
# The letters of a match

Which characters the matches of an expression begin and finish with, and which may follow one
another in them, is read off the expression.  Where it rules a pair of characters out, no match
runs over that pair.

Nothing here refers to a particular program.
-/

import HermesClaude.Library.Regex

namespace HermesClaude.Library.Regex

universe u

variable {α : Type u}

/-- Whether a match may begin with the character. -/
def begins : Regex α → α → Bool
  | .empty, _ | .boundary, _ => false
  | .one p, c | .repeated p _, c => p c
  | .seq r t, c => begins r c || (!nonempty r && begins t c)
  | .alt r t, c => begins r c || begins t c

/-- Whether a match may finish with the character. -/
def finishes : Regex α → α → Bool
  | .empty, _ | .boundary, _ => false
  | .one p, c | .repeated p _, c => p c
  | .seq r t, c => finishes t c || (!nonempty t && finishes r c)
  | .alt r t, c => finishes r c || finishes t c

/-- Whether in a match the second character may come right after the first. -/
def follows : Regex α → α → α → Bool
  | .empty, _, _ | .boundary, _, _ | .one _, _, _ => false
  | .repeated p _, c, d => p c && p d
  | .seq r t, c, d => follows r c d || follows t c d || (finishes r c && begins t d)
  | .alt r t, c, d => follows r c d || follows t c d

variable {r : Regex α} {b e u v w : List α} {c d : α}

theorem nonempty_eq_false (h : Lang r []) : nonempty r = false := by
  induction r with
  | empty | boundary => rfl
  | one p =>
    rcases h with ⟨c, -, hnil⟩
    cases hnil
  | repeated p least =>
    exact decide_eq_false (Nat.not_lt.mpr h.1)
  | seq r t ihr iht =>
    rcases h with ⟨u, v, hnil, hu, hv⟩
    rcases List.append_eq_nil_iff.mp hnil.symm with ⟨rfl, rfl⟩
    rw [nonempty, ihr hu, iht hv]
    rfl
  | alt r t ihr iht =>
    rw [nonempty, Bool.and_eq_false_iff]
    exact h.imp ihr iht

theorem begins_of_lang (h : Lang r (c :: w)) : begins r c = true := by
  induction r generalizing w with
  | empty | boundary => cases h
  | one p =>
    rcases h with ⟨d, hd, heq⟩
    rw [(List.cons.inj heq).1]
    exact hd
  | repeated p least => exact h.2 c List.mem_cons_self
  | seq r t ihr iht =>
    rcases h with ⟨u, v, heq, hu, hv⟩
    rw [begins, Bool.or_eq_true, Bool.and_eq_true]
    rcases List.cons_eq_append_iff.mp heq with ⟨rfl, rfl⟩ | ⟨u', rfl, -⟩
    · exact Or.inr ⟨by rw [nonempty_eq_false hu]; rfl, iht hv⟩
    · exact Or.inl (ihr hu)
  | alt r t ihr iht =>
    rw [begins, Bool.or_eq_true]
    exact h.imp ihr iht

theorem finishes_of_lang (h : Lang r (w ++ [c])) : finishes r c = true := by
  induction r generalizing w with
  | empty | boundary => simp [Lang] at h
  | one p =>
    rcases h with ⟨d, hd, heq⟩
    have hc : c = d := by
      have hlast := congrArg List.getLast? heq
      simpa using hlast
    rw [hc]
    exact hd
  | repeated p least => exact h.2 c (List.mem_append_right _ List.mem_cons_self)
  | seq r t ihr iht =>
    rcases h with ⟨u, v, heq, hu, hv⟩
    rw [finishes, Bool.or_eq_true, Bool.and_eq_true]
    rcases List.eq_nil_or_concat' v with rfl | ⟨v', d, rfl⟩
    · rw [List.append_nil] at heq
      subst heq
      exact Or.inr ⟨by rw [nonempty_eq_false hv]; rfl, ihr hu⟩
    · rw [← List.append_assoc] at heq
      have hd : c = d := (List.cons.inj (List.append_inj_right' heq rfl)).1
      subst hd
      exact Or.inl (iht hv)
  | alt r t ihr iht =>
    rw [finishes, Bool.or_eq_true]
    exact h.imp ihr iht

/-- Two neighbours in a text of two parts are in one part or at the seam. -/
theorem neighbours_append (h : u ++ v = b ++ c :: d :: e) :
    (∃ e', u = b ++ c :: d :: e') ∨ (∃ b', v = b' ++ c :: d :: e) ∨ (u = b ++ [c] ∧ v = d :: e) := by
  rcases List.append_eq_append_iff.mp h with ⟨b', hb, hv⟩ | ⟨rest, hu, hrest⟩
  · exact Or.inr (Or.inl ⟨b', hv⟩)
  · rcases rest with _ | ⟨c', rest⟩
    · exact Or.inr (Or.inl ⟨[], hrest.symm⟩)
    · rcases rest with _ | ⟨d', rest⟩
      · rcases List.cons.inj hrest with ⟨rfl, hv⟩
        exact Or.inr (Or.inr ⟨hu, hv.symm⟩)
      · rcases List.cons.inj hrest with ⟨rfl, hrest'⟩
        rcases List.cons.inj hrest' with ⟨rfl, -⟩
        exact Or.inl ⟨rest, hu⟩

/-- **Neighbours.**  Characters that stand side by side in a match may do so. -/
theorem follows_of_lang (h : Lang r (b ++ c :: d :: e)) : follows r c d = true := by
  induction r generalizing b e with
  | empty | boundary => simp [Lang] at h
  | one p =>
    rcases h with ⟨a, -, heq⟩
    have hlength := congrArg List.length heq
    simp at hlength
    omega
  | repeated p least =>
    rw [follows, h.2 c (by simp), h.2 d (by simp)]
    rfl
  | seq r t ihr iht =>
    rcases h with ⟨u, v, heq, hu, hv⟩
    rw [follows, Bool.or_eq_true, Bool.or_eq_true, Bool.and_eq_true]
    rcases neighbours_append heq.symm with ⟨e', rfl⟩ | ⟨b', rfl⟩ | ⟨rfl, rfl⟩
    · exact Or.inl (Or.inl (ihr hu))
    · exact Or.inl (Or.inr (iht hv))
    · exact Or.inr ⟨finishes_of_lang hu, begins_of_lang hv⟩
  | alt r t ihr iht =>
    rw [follows, Bool.or_eq_true]
    exact h.imp ihr iht

/-- A character that begins no match begins none here. -/
theorem ends_eq_nil_of_begins {isWord : α → Bool} {prev : Option α} {s : List α}
    (hne : r.nonempty = true) (hbegins : r.begins c = false) : ends isWord r prev (c :: s) = [] := by
  rw [List.eq_nil_iff_forall_not_mem]
  intro n hn
  have hpos := pos_of_mem_ends hne hn
  rcases Nat.exists_eq_add_of_le hpos with ⟨m, rfl⟩
  have hlang := lang_of_mem_ends hn
  rw [Nat.add_comm, List.take_succ_cons] at hlang
  rw [begins_of_lang hlang] at hbegins
  cases hbegins

end HermesClaude.Library.Regex
