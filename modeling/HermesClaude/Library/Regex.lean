/-
# Backtracking regular expressions

A matcher with backtracking tries alternatives in their order and repetitions greedily, and
takes the first way that succeeds.  All ways are listed here in the order in which they
are tried, each by the length of what it matches.  Only classes of characters are repeated.

Replacing goes from left to right: a match is replaced and the search goes on behind it.

Nothing here refers to a particular program.
-/

import Mathlib.Data.List.Basic
import Mathlib.Data.List.Infix
import Mathlib.Data.List.TakeWhile

namespace HermesClaude.Library

universe u

/-- A regular expression over characters. -/
inductive Regex (α : Type u)
  | empty
  | /-- One character of a class. -/
    one (p : α → Bool)
  | /-- Between a word character and none, `\b`. -/
    boundary
  | /-- As many characters of a class as there are, and at least so many. -/
    repeated (p : α → Bool) (least : Nat)
  | seq (r s : Regex α)
  | alt (r s : Regex α)

namespace Regex

variable {α : Type u}

/-- The character before the rest of a text, once some characters are taken. -/
def lastOf (prev : Option α) (taken : List α) : Option α := taken.getLast?.or prev

/-- The lengths of what a class of characters can match at the beginning of a text, longest first. -/
def runs (p : α → Bool) : List α → List Nat
  | [] => [0]
  | c :: rest => if p c then (runs p rest).map (· + 1) ++ [0] else [0]

section Matcher

variable (isWord : α → Bool)

/-- The lengths of the matches at the beginning of a text, in the order in which they are tried. -/
def ends : Regex α → Option α → List α → List Nat
  | .empty, _, _ => [0]
  | .one p, _, s => if s.head?.any p then [1] else []
  | .boundary, prev, s => if prev.any isWord != s.head?.any isWord then [0] else []
  | .repeated p least, _, s => (runs p s).filter (least ≤ ·)
  | .seq r t, prev, s =>
    (ends r prev s).flatMap fun n => (ends t (lastOf prev (s.take n)) (s.drop n)).map (n + ·)
  | .alt r t, prev, s => ends r prev s ++ ends t prev s

/-- `re.sub`, for an expression that matches no empty text: behind a match so many characters
are still to be skipped. -/
def subFrom (r : Regex α) (marker : List α) : Nat → Option α → List α → List α
  | _, _, [] => []
  | skip + 1, _, c :: rest => subFrom r marker skip (some c) rest
  | 0, prev, c :: rest =>
    match (ends isWord r prev (c :: rest)).head? with
    | some (n + 1) => marker ++ subFrom r marker n (some c) rest
    | _ => c :: subFrom r marker 0 (some c) rest

/-- `re.sub`. -/
def sub (r : Regex α) (marker s : List α) : List α := subFrom isWord r marker 0 none s

/-- `re.search` from a position on: whether there is a match. -/
def searchFrom (r : Regex α) : Option α → List α → Bool
  | prev, [] => !(ends isWord r prev []).isEmpty
  | prev, c :: rest => !(ends isWord r prev (c :: rest)).isEmpty || searchFrom r (some c) rest

/-- `re.search`. -/
def search (r : Regex α) (s : List α) : Bool := searchFrom isWord r none s

end Matcher

/-! ## What is matched -/

/-- The texts that an expression may match. -/
def Lang : Regex α → List α → Prop
  | .empty, w => w = []
  | .one p, w => ∃ c, p c = true ∧ w = [c]
  | .boundary, w => w = []
  | .repeated p least, w => least ≤ w.length ∧ ∀ c ∈ w, p c = true
  | .seq r t, w => ∃ u v, w = u ++ v ∧ Lang r u ∧ Lang t v
  | .alt r t, w => Lang r w ∨ Lang t w

/-- An expression that matches no empty text. -/
def nonempty : Regex α → Bool
  | .empty | .boundary => false
  | .one _ => true
  | .repeated _ least => 0 < least
  | .seq r t => nonempty r || nonempty t
  | .alt r t => nonempty r && nonempty t

variable {isWord : α → Bool} {r t : Regex α} {prev : Option α} {s : List α} {n : Nat}

theorem lastOf_append (prev : Option α) (s t : List α) :
    lastOf prev (s ++ t) = lastOf (lastOf prev s) t := by
  rw [lastOf, lastOf, lastOf, List.getLast?_append, Option.or_assoc]

theorem lastOf_cons (prev : Option α) (c : α) (s : List α) :
    lastOf prev (c :: s) = lastOf (some c) s := lastOf_append prev [c] s

theorem mem_ends_seq : n ∈ ends isWord (.seq r t) prev s ↔
    ∃ m ∈ ends isWord r prev s, ∃ k ∈ ends isWord t (lastOf prev (s.take m)) (s.drop m), m + k = n := by
  rw [ends, List.mem_flatMap]
  simp only [List.mem_map]

theorem mem_runs {p : α → Bool} : n ∈ runs p s ↔ n ≤ s.length ∧ ∀ c ∈ s.take n, p c = true := by
  induction s generalizing n with
  | nil =>
    rw [runs, List.mem_singleton]
    simp
  | cons c rest ih =>
    rw [runs]
    cases n with
    | zero =>
      split <;> simp
    | succ n =>
      rw [List.take_succ_cons, List.forall_mem_cons, List.length_cons]
      split
      · next hc => simp [ih, hc]
      · next hc => simp [hc]

theorem mem_ends_repeated {p : α → Bool} {least : Nat} :
    n ∈ ends isWord (.repeated p least) prev s ↔
      (n ≤ s.length ∧ ∀ c ∈ s.take n, p c = true) ∧ least ≤ n := by
  rw [ends, List.mem_filter, mem_runs, decide_eq_true_iff]

/-- A match is part of the text. -/
theorem le_length_of_mem_ends (h : n ∈ ends isWord r prev s) : n ≤ s.length := by
  induction r generalizing prev s n with
  | empty =>
    rw [ends, List.mem_singleton] at h
    omega
  | one p =>
    cases s with
    | nil => simp [ends] at h
    | cons c rest =>
      rw [ends] at h
      split at h
      · rw [List.mem_singleton.mp h, List.length_cons]
        omega
      · cases h
  | boundary =>
    rw [ends] at h
    split at h
    · rw [List.mem_singleton.mp h]
      exact Nat.zero_le _
    · cases h
  | repeated p least =>
    exact (mem_ends_repeated.mp h).1.1
  | seq r t ihr iht =>
    rw [mem_ends_seq] at h
    rcases h with ⟨m, hm, k, hk, rfl⟩
    have hfirst := ihr hm
    have hsecond := iht hk
    rw [List.length_drop] at hsecond
    omega
  | alt r t ihr iht =>
    rw [ends, List.mem_append] at h
    rcases h with h | h
    · exact ihr h
    · exact iht h

/-- What is matched is a text of the expression. -/
theorem lang_of_mem_ends (h : n ∈ ends isWord r prev s) : Lang r (s.take n) := by
  induction r generalizing prev s n with
  | empty =>
    rw [ends, List.mem_singleton] at h
    rw [h]
    rfl
  | one p =>
    cases s with
    | nil => simp [ends] at h
    | cons c rest =>
      rw [ends] at h
      split at h
      · next hc =>
        rw [List.mem_singleton.mp h]
        exact ⟨c, by simpa using hc, rfl⟩
      · cases h
  | boundary =>
    rw [ends] at h
    split at h
    · rw [List.mem_singleton.mp h]
      rfl
    · cases h
  | repeated p least =>
    rw [mem_ends_repeated] at h
    refine ⟨?_, h.1.2⟩
    rw [List.length_take]
    omega
  | seq r t ihr iht =>
    rw [mem_ends_seq] at h
    rcases h with ⟨m, hm, k, hk, rfl⟩
    exact ⟨s.take m, (s.drop m).take k, List.take_add.symm ▸ rfl, ihr hm, iht hk⟩
  | alt r t ihr iht =>
    rw [ends, List.mem_append] at h
    rcases h with h | h
    · exact Or.inl (ihr h)
    · exact Or.inr (iht h)

theorem pos_of_mem_ends (hr : r.nonempty = true) (h : n ∈ ends isWord r prev s) : 1 ≤ n := by
  induction r generalizing prev s n with
  | empty => cases hr
  | one p =>
    rw [ends] at h
    split at h
    · rw [List.mem_singleton.mp h]
    · cases h
  | boundary => cases hr
  | repeated p least =>
    have hleast := of_decide_eq_true hr
    exact hleast.trans_le (mem_ends_repeated.mp h).2
  | seq r t ihr iht =>
    rw [nonempty, Bool.or_eq_true] at hr
    rw [mem_ends_seq] at h
    rcases h with ⟨m, hm, k, hk, rfl⟩
    rcases hr with hr | ht
    · exact (ihr hr hm).trans (Nat.le_add_right _ _)
    · exact (iht ht hk).trans (Nat.le_add_left _ _)
  | alt r t ihr iht =>
    rw [nonempty, Bool.and_eq_true] at hr
    rw [ends, List.mem_append] at h
    rcases h with h | h
    · exact ihr hr.1 h
    · exact iht hr.2 h

/-! ## Texts that go on -/

/-- An expression that looks at no character behind its match, as every `\b` in it is followed by
something. -/
inductive Settled : Regex α → Prop
  | empty : Settled .empty
  | one (p : α → Bool) : Settled (.one p)
  | repeated (p : α → Bool) (least : Nat) : Settled (.repeated p least)
  | seq {r t : Regex α} (hr : Settled r) (ht : Settled t) : Settled (.seq r t)
  | guarded {t : Regex α} (ht : Settled t) (hne : t.nonempty = true) : Settled (.seq .boundary t)
  | alt {r t : Regex α} (hr : Settled r) (ht : Settled t) : Settled (.alt r t)

theorem runs_append (p : α → Bool) (s rest : List α) :
    (runs p (s ++ rest)).filter (· ≤ s.length) = runs p s := by
  induction s with
  | nil =>
    cases rest with
    | nil => rfl
    | cons c rest =>
      by_cases hc : p c = true
      · simp only [List.nil_append, runs, if_pos hc, List.filter_append, List.filter_map]
        simp [Function.comp_def]
      · simp only [List.nil_append, runs, if_neg hc]
        rfl
  | cons c s ih =>
    by_cases hc : p c = true
    · simp only [List.cons_append, runs, if_pos hc, List.filter_append, List.filter_map, ← ih]
      simp [Function.comp_def]
    · simp only [List.cons_append, runs, if_neg hc]
      rfl

theorem flatMap_filter {β : Type u} (p : Nat → Bool) (f : Nat → List β) (items : List Nat) :
    (items.filter p).flatMap f = items.flatMap fun n => if p n then f n else [] := by
  induction items with
  | nil => rfl
  | cons n rest ih =>
    by_cases hn : p n = true
    · rw [List.filter_cons_of_pos hn, List.flatMap_cons, List.flatMap_cons, ih, if_pos hn]
    · rw [List.filter_cons_of_neg hn, List.flatMap_cons, ih, if_neg hn, List.nil_append]

/-- **What follows a match does not matter.**  In a longer text the matches that stay within the
shorter one are the same, in the same order. -/
theorem ends_append (h : Settled r) (prev : Option α) (s rest : List α) :
    (ends isWord r prev (s ++ rest)).filter (· ≤ s.length) = ends isWord r prev s := by
  induction h generalizing prev s with
  | empty => rfl
  | one p =>
    cases s with
    | nil =>
      rw [ends, ends]
      split <;> rfl
    | cons c s =>
      rw [ends, ends, List.cons_append, List.head?_cons, List.head?_cons]
      split
      · rfl
      · rfl
  | repeated p least =>
    rw [ends, ends, ← runs_append p s rest, List.filter_filter, List.filter_filter]
    congr 1
    funext n
    exact Bool.and_comm _ _
  | seq hr ht ihr iht =>
    rw [ends, ends, List.filter_flatMap, ← ihr prev s, flatMap_filter]
    apply List.flatMap_congr
    intro n hn
    by_cases hle : n ≤ s.length
    · rw [if_pos (decide_eq_true hle), List.filter_map, List.take_append_of_le_length hle,
        List.drop_append_of_le_length hle, ← iht _ (s.drop n), List.length_drop]
      congr 2
      funext m
      simp only [Function.comp_apply, decide_eq_decide]
      omega
    · rw [if_neg (by simpa using hle), List.filter_eq_nil_iff]
      intro m hm
      rcases List.mem_map.mp hm with ⟨k, -, rfl⟩
      simp only [decide_eq_true_eq]
      omega
  | @guarded t ht hne iht =>
    cases s with
    | nil =>
      -- Nothing is left to match, and the longer text has no match of no length.
      have hnone : ∀ text : List α, (ends isWord (.seq .boundary t) prev text).filter (· ≤ 0) = [] := by
        intro text
        rw [List.filter_eq_nil_iff]
        intro n hn
        have hpos := pos_of_mem_ends (r := .seq .boundary t) (by simpa [nonempty] using hne) hn
        simp only [decide_eq_true_eq]
        omega
      have hself : ends isWord (.seq .boundary t) prev [] = [] := by
        rw [List.eq_nil_iff_forall_not_mem]
        intro n hn
        have hmem : n ∈ (ends isWord (.seq .boundary t) prev []).filter (· ≤ 0) :=
          List.mem_filter.mpr ⟨hn, decide_eq_true (le_length_of_mem_ends hn)⟩
        rw [hnone] at hmem
        cases hmem
      rw [hself]
      exact hnone _
    | cons c s =>
      rw [ends, ends, ends, ends, List.cons_append, List.head?_cons, List.head?_cons]
      split
      · simp only [List.flatMap_cons, List.flatMap_nil, List.append_nil, List.take_zero, List.drop_zero]
        rw [← iht _ (c :: s)]
        simp
      · rfl
  | alt hr ht ihr iht => rw [ends, ends, List.filter_append, ihr, iht]

/-! ## The match that is taken -/

theorem head?_ends_seq {m k : Nat} (hr : (ends isWord r prev s).head? = some m)
    (ht : (ends isWord t (lastOf prev (s.take m)) (s.drop m)).head? = some k) :
    (ends isWord (.seq r t) prev s).head? = some (m + k) := by
  rcases List.head?_eq_some_iff.mp hr with ⟨others, hfirst⟩
  rcases List.head?_eq_some_iff.mp ht with ⟨rest, hsecond⟩
  rw [ends, hfirst, List.flatMap_cons, hsecond]
  rfl

theorem head?_ends_alt (hr : (ends isWord r prev s).head? = some n) :
    (ends isWord (.alt r t) prev s).head? = some n := by
  rw [ends, List.head?_append, hr]
  rfl

theorem ends_alt_of_eq_nil (hr : ends isWord r prev s = []) :
    ends isWord (.alt r t) prev s = ends isWord t prev s := by
  rw [ends, hr, List.nil_append]

/-- At a boundary, what comes behind `\b` is matched. -/
theorem ends_guarded (hboundary : prev.any isWord ≠ s.head?.any isWord) :
    ends isWord (.seq .boundary t) prev s = ends isWord t prev s := by
  rw [ends, ends, if_pos (bne_iff_ne.mpr hboundary), List.flatMap_singleton, List.drop_zero]
  simp [lastOf]

theorem ends_guarded_eq_nil (hinside : prev.any isWord = s.head?.any isWord) :
    ends isWord (.seq .boundary t) prev s = [] := by
  rw [ends, ends, hinside, if_neg (by simp), List.flatMap_nil]

theorem head?_runs (p : α → Bool) (s : List α) : (runs p s).head? = some (s.takeWhile p).length := by
  induction s with
  | nil => rfl
  | cons c s ih =>
    rw [runs]
    by_cases hc : p c = true
    · rw [if_pos hc, List.takeWhile_cons_of_pos hc, List.head?_append, List.head?_map, ih]
      rfl
    · rw [if_neg hc, List.takeWhile_cons_of_neg hc]
      rfl

/-- Repetition is greedy. -/
theorem head?_ends_repeated {p : α → Bool} {least : Nat} (h : least ≤ (s.takeWhile p).length) :
    (ends isWord (.repeated p least) prev s).head? = some (s.takeWhile p).length := by
  rcases List.head?_eq_some_iff.mp (head?_runs p s) with ⟨others, hruns⟩
  rw [ends, hruns, List.filter_cons, if_pos (decide_eq_true h)]
  rfl

end Regex

end HermesClaude.Library
