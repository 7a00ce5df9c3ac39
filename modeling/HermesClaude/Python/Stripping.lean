/-
# Stripped text

`strip` leaves no white space at either end, and takes nothing but white space away.
-/

import HermesClaude.Python.Text
import Mathlib.Data.List.Induction
import Mathlib.Data.List.TakeWhile

namespace HermesClaude.Python

/-- The number of white-space characters at the end of a text. -/
def trailing (s : PyStr) : Nat := (s.reverse.takeWhile CodePoint.isSpace).length

/-- Text with no white space at either end. -/
structure Trimmed (s : PyStr) : Prop where
  head : ∀ c ∈ s.head?, c.isSpace = false
  last : ∀ c ∈ s.getLast?, c.isSpace = false

variable {s t : PyStr} {c : CodePoint}

theorem length_rstrip_add_trailing (s : PyStr) : (rstrip s).length + trailing s = s.length := by
  have hlength := congrArg List.length
    (List.takeWhile_append_dropWhile (p := CodePoint.isSpace) (l := s.reverse))
  rw [List.length_append, List.length_reverse] at hlength
  rw [rstrip, trailing, List.length_reverse]
  omega

theorem trailing_le_length (s : PyStr) : trailing s ≤ s.length := by
  have hlength := length_rstrip_add_trailing s
  omega

/-- White space at the end of a text does not reach to a character that is none. -/
theorem trailing_lt_length (hc : c ∈ s) (hspace : c.isSpace = false) : trailing s < s.length := by
  apply lt_of_le_of_ne (trailing_le_length s)
  intro hall
  have htake : s.reverse.takeWhile CodePoint.isSpace = s.reverse := by
    apply (List.takeWhile_prefix _).eq_of_length
    rw [List.length_reverse]
    exact hall
  have hevery : c.isSpace = true := by
    apply List.mem_takeWhile_imp (l := s.reverse)
    rw [htake]
    exact List.mem_reverse.mpr hc
  rw [hspace] at hevery
  cases hevery

theorem trailing_append (hc : c ∈ t) (hspace : c.isSpace = false) :
    trailing (s ++ t) = trailing t := by
  have hstops : (t.reverse.takeWhile CodePoint.isSpace).length ≠ t.reverse.length := by
    rw [List.length_reverse]
    exact (trailing_lt_length hc hspace).ne
  rw [trailing, trailing, List.reverse_append, List.takeWhile_append, if_neg hstops]

theorem trailing_eq_zero (h : ∀ c ∈ s.getLast?, c.isSpace = false) : trailing s = 0 := by
  cases s using List.reverseRecOn with
  | nil => rfl
  | append_singleton init c =>
    have hc : c.isSpace = false := h c (by simp)
    rw [trailing, List.reverse_append, List.reverse_singleton, List.singleton_append,
      List.takeWhile_cons_of_neg (by simp [hc])]
    rfl

theorem lstrip_eq_self (h : ∀ c ∈ s.head?, c.isSpace = false) : lstrip s = s := by
  cases s with
  | nil => rfl
  | cons c rest =>
    have hc : c.isSpace = false := h c rfl
    rw [lstrip, List.dropWhile_cons_of_neg (by simp [hc])]

theorem prefix_rstrip (s : PyStr) : rstrip s <+: s := by
  rw [← List.reverse_suffix, rstrip, List.reverse_reverse]
  exact List.dropWhile_suffix _

/-- Nothing but white space is stripped. -/
theorem mem_strip (hc : c ∈ s) (hspace : c.isSpace = false) : c ∈ strip s := by
  have hdrop : ∀ {t : PyStr}, c ∈ t → c ∈ t.dropWhile CodePoint.isSpace := by
    intro t ht
    rw [← List.takeWhile_append_dropWhile (p := CodePoint.isSpace) (l := t)] at ht
    rcases List.mem_append.mp ht with htake | hrest
    · have hblank := List.mem_takeWhile_imp htake
      rw [hspace] at hblank
      cases hblank
    · exact hrest
  rw [strip, rstrip, lstrip, List.mem_reverse]
  exact hdrop (List.mem_reverse.mpr (hdrop hc))

/-- `dropWhile` stops at a character that is no white space. -/
theorem isSpace_head_dropWhile (s : PyStr) :
    ∀ c ∈ (s.dropWhile CodePoint.isSpace).head?, c.isSpace = false := by
  intro c hc
  have hstops := List.head?_dropWhile_not CodePoint.isSpace s
  rw [Option.mem_def.mp hc] at hstops
  exact hstops

/-- **Stripped text.** -/
theorem trimmed_strip (s : PyStr) : Trimmed (strip s) where
  head := by
    intro c hc
    rcases prefix_rstrip (lstrip s) with ⟨rest, hrest⟩
    apply isSpace_head_dropWhile s c
    change c ∈ (lstrip s).head?
    rw [← hrest]
    exact List.mem_head?_append_of_mem_head? hc
  last := by
    intro c hc
    apply isSpace_head_dropWhile (lstrip s).reverse c
    rw [strip, rstrip, List.getLast?_reverse] at hc
    exact hc

end HermesClaude.Python
