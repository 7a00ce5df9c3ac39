/-
# Bearer credentials

What `_safe_text` leaves of a text with `Bearer` and a token in it.

No match that begins before the word runs over the blank behind it: a credential's name does not
end in `r`, and no value contains a blank.  But a match may end within the word.  Then the word is
taken for the value of what came before, and the token stands in the text unprotected.
-/

import HermesClaude.Prompt.SafeText

namespace HermesClaude.Prompt

open HermesClaude.Library HermesClaude.Python HermesClaude.Python.Pattern

/-- The word that introduces a token. -/
def bearerWord : PyStr := lit "Bearer"

/-- The text before the word, without what `_safe_text` removes from it. -/
def lead (p : PyStr) : PyStr := lstrip (withoutNul p)

variable (unicode : WordDatabase)

/-- The search for credentials arrives at the word: no word character is before it, and no match
that begins before it runs into it. -/
structure Reached (p : PyStr) : Prop where
  boundary : ∀ c ∈ (lead p).getLast?, unicode.isWord c = false
  free : Regex.overhang unicode.isWord sensitiveValue 0 none (lead p) bearerWord = 0

/-- A token, which cannot be read off the marker. -/
structure Token (t : PyStr) : Prop where
  value : ∀ c ∈ t, isValueChar c = true
  marker : Regex.Avoids (lit "[redacted]") t

variable {unicode} {p s t x rest : PyStr} {prev : Option CodePoint} {n : Nat}

/-! ## Where no credential begins -/

/-- A match begins at a boundary. -/
theorem ends_eq_nil_of_inside {c d : CodePoint} (hc : unicode.isWord c = true)
    (hd : unicode.isWord d = true) :
    Regex.ends unicode.isWord sensitiveValue (some d) (c :: s) = [] := by
  have hsame : (some d).any unicode.isWord = (c :: s).head?.any unicode.isWord := by
    rw [List.head?_cons, Option.any_some, Option.any_some, hc, hd]
  rw [sensitiveValue, Regex.ends, Regex.ends, namedCredential, bearerCredential, keyCredential,
    Regex.ends_guarded_eq_nil hsame, Regex.ends_guarded_eq_nil hsame, Regex.ends_guarded_eq_nil hsame]
  rfl

theorem ends_eq_nil_of_letter {c : CodePoint} (hc : sensitiveValue.begins c = false) :
    Regex.ends unicode.isWord sensitiveValue prev (c :: s) = [] :=
  Regex.ends_eq_nil_of_begins nonempty_sensitiveValue hc

theorem isWord_bearerWord : ∀ c ∈ bearerWord, unicode.isWord c = true := by
  have hascii : bearerWord.all (fun c => decide (c.val < 128)) = true := by decide
  have hletters : bearerWord.all asciiWordDatabase.isWord = true := by decide
  intro c hc
  rw [unicode.isWord_ascii c (of_decide_eq_true (List.all_eq_true.mp hascii c hc))]
  exact List.all_eq_true.mp hletters c hc

/-! ## Matches that begin before the word -/

/-- **The blank behind the word stops every match that begins before it.** -/
theorem le_of_mem_ends_before (hx : x ≠ [])
    (h : n ∈ Regex.ends unicode.isWord sensitiveValue prev (x ++ (bearerWord ++ lit " " ++ rest))) :
    n ≤ (x ++ bearerWord).length := by
  by_contra hlong
  have hword : bearerWord = lit "Beare" ++ [0x72] := by decide
  have hblank : lit " " = [0x20] := by decide
  have htake : ∃ e, (x ++ (bearerWord ++ lit " " ++ rest)).take n =
      (x ++ lit "Beare") ++ 0x72 :: 0x20 :: e := by
    rcases Nat.exists_eq_add_of_lt (Nat.lt_of_not_le hlong) with ⟨m, rfl⟩
    refine ⟨rest.take m, ?_⟩
    have hsplit : x ++ (bearerWord ++ lit " " ++ rest) = (x ++ bearerWord ++ [0x20]) ++ rest := by
      simp [hblank]
    have hlength : (x ++ bearerWord).length + m + 1 = (x ++ bearerWord ++ [0x20]).length + m := by
      simp
      omega
    rw [hsplit, hlength, List.take_length_add_append, hword]
    simp
  rcases htake with ⟨e, htake⟩
  have hlang := Regex.lang_of_mem_ends h
  rw [htake] at hlang
  rcases hlang with hnamed | hbearer | hkey
  · have hfollows := Regex.follows_of_lang hnamed
    rw [show namedCredential.follows 0x72 0x20 = false by decide] at hfollows
    cases hfollows
  · rcases hbearer with ⟨_, _, heq, rfl, u, v, rfl, hu, hv⟩
    rw [List.nil_append] at heq
    rcases Regex.neighbours_append heq.symm with ⟨e', rfl⟩ | ⟨b', rfl⟩ | ⟨rfl, -⟩
    · have hfollows := Regex.follows_of_lang hu
      rw [show (word "Bearer").follows 0x72 0x20 = false by decide] at hfollows
      cases hfollows
    · have hfollows := Regex.follows_of_lang hv
      rw [show bearerValue.follows 0x72 0x20 = false by decide] at hfollows
      cases hfollows
    · -- The match is at the word itself, and there is nothing before it.
      have hlength := length_of_lang_letters hu
      have hsix : (lit "Bearer").length = (lit "Beare").length + 1 := by decide
      rw [List.length_append, List.length_append, List.length_singleton, hsix] at hlength
      exact hx (List.length_eq_zero_iff.mp (by omega))
  · have hfollows := Regex.follows_of_lang hkey
    rw [show keyCredential.follows 0x72 0x20 = false by decide] at hfollows
    cases hfollows

/-- What is made of the lead depends on nothing behind the word. -/
theorem overhang_bearer (q rest : PyStr) :
    Regex.overhang unicode.isWord sensitiveValue 0 none q (bearerWord ++ (lit " " ++ rest)) =
      Regex.overhang unicode.isWord sensitiveValue 0 none q bearerWord := by
  apply Regex.overhang_append settled_sensitiveValue
  intro b c e _ n hn
  have hbefore := le_of_mem_ends_before (x := c :: e) (List.cons_ne_nil c e)
    (by rw [List.append_assoc]; exact hn)
  exact hbefore

/-! ## At the word -/

/-- **The token is matched.**  At a boundary the word, the blank and the whole token are replaced. -/
theorem head?_ends_bearer (hprev : prev.any unicode.isWord = false) (ht : Token t)
    (hrest : ∀ c ∈ rest.head?, isValueChar c = false) :
    (Regex.ends unicode.isWord sensitiveValue prev (bearerWord ++ (lit " " ++ (t ++ rest)))).head? =
      some (bearerWord.length + (1 + t.length)) := by
  rcases List.exists_cons_of_ne_nil ht.marker.ne_nil with ⟨d, t', rfl⟩
  have hvalue : ((d :: t' ++ rest).takeWhile isValueChar) = d :: t' := by
    rw [List.takeWhile_append_of_pos ht.value]
    cases rest with
    | nil => rw [List.takeWhile_nil, List.append_nil]
    | cons c rest => rw [List.takeWhile_cons_of_neg (by simpa using hrest c rfl), List.append_nil]
  have hblanks : ((lit " " ++ (d :: t' ++ rest)).takeWhile CodePoint.isSpace) = [0x20] := by
    have hd : ¬d.isSpace = true := by
      have hvalid := ht.value d List.mem_cons_self
      rw [isValueChar, Bool.and_eq_true, Bool.not_eq_true'] at hvalid
      simp [hvalid.1]
    have hblank : lit " " = [0x20] := by decide
    rw [hblank, List.singleton_append, List.takeWhile_cons_of_pos (by decide), List.cons_append,
      List.takeWhile_cons_of_neg hd]
  have hboundary : prev.any unicode.isWord ≠
      (bearerWord ++ (lit " " ++ (d :: t' ++ rest))).head?.any unicode.isWord := by
    rw [hprev, show (bearerWord ++ (lit " " ++ (d :: t' ++ rest))).head? = some 0x42 by rfl,
      Option.any_some, isWord_bearerWord 0x42 (by decide)]
    exact Bool.false_ne_true
  have hnamed : Regex.ends unicode.isWord namedCredential prev
      (bearerWord ++ (lit " " ++ (d :: t' ++ rest))) = [] :=
    Regex.ends_eq_nil_of_begins (c := 0x42) (by decide) (by decide)
  rw [sensitiveValue, Regex.ends_alt_of_eq_nil hnamed]
  apply Regex.head?_ends_alt
  rw [bearerCredential, Regex.ends_guarded hboundary]
  apply Regex.head?_ends_seq
  · rw [word, show lit "Bearer" = bearerWord from rfl, ends_letters]
    rfl
  rw [List.drop_left, bearerValue]
  apply Regex.head?_ends_seq
  · rw [Regex.head?_ends_repeated (by rw [hblanks]; exact Nat.le_refl 1), hblanks]
    rfl
  · rw [show (lit " " ++ (d :: t' ++ rest)).drop 1 = d :: t' ++ rest by rfl,
      Regex.head?_ends_repeated (by rw [hvalue]; simp), hvalue]

/-! ## The text around the word -/

theorem lstrip_append {m : PyStr} (hhead : ∀ c ∈ m.head?, c.isSpace = false) :
    lstrip (x ++ m) = lstrip x ++ m := by
  have hm : m.dropWhile CodePoint.isSpace = m := lstrip_eq_self hhead
  rw [lstrip, lstrip, List.dropWhile_append]
  split
  · next hempty => rw [List.isEmpty_iff.mp hempty, hm, List.nil_append]
  · rfl

theorem rstrip_append {m : PyStr} (hlast : ∀ c ∈ m.getLast?, c.isSpace = false) :
    rstrip (m ++ x) = m ++ rstrip x := by
  have hreverse := lstrip_append (x := x.reverse) (m := m.reverse) (by rwa [List.head?_reverse])
  rw [lstrip, lstrip] at hreverse
  rw [rstrip, rstrip, List.reverse_append, hreverse, List.reverse_append, List.reverse_reverse]

/-- Only the ends of a text are stripped. -/
theorem strip_between {m y : PyStr} (hm : m ≠ []) (hhead : ∀ c ∈ m.head?, c.isSpace = false)
    (hlast : ∀ c ∈ m.getLast?, c.isSpace = false) : strip (x ++ m ++ y) = lstrip x ++ m ++ rstrip y := by
  have hleft : lstrip (x ++ m ++ y) = lstrip x ++ m ++ y := by
    rw [List.append_assoc, lstrip_append, List.append_assoc]
    rwa [List.head?_append_of_ne_nil _ hm]
  rw [strip, hleft, rstrip_append]
  rwa [List.getLast?_append_of_ne_nil _ hm]

/-- The text with the word and a token in it. -/
def bearerText (p t s : PyStr) : PyStr := p ++ lit "Bearer " ++ t ++ lit " " ++ s

/-- What is left of the text behind the token. -/
def trail (s : PyStr) : PyStr := rstrip (lit " " ++ withoutNul s)

theorem strip_bearerText (ht : Token t) (hnul : 0 ∉ t) : strip (withoutNul (bearerText p t s)) =
    lead p ++ (bearerWord ++ (lit " " ++ (t ++ trail s))) := by
  have hclean : withoutNul t = t := by
    rw [withoutNul, List.filter_eq_self]
    intro c hc
    exact decide_eq_true fun hzero => hnul (hzero ▸ hc)
  have hvisible : ∀ c ∈ t, c.isSpace = false := by
    intro c hc
    have hvalue := ht.value c hc
    rw [isValueChar, Bool.and_eq_true, Bool.not_eq_true'] at hvalue
    exact hvalue.1
  have hsplit : withoutNul (bearerText p t s) =
      withoutNul p ++ (lit "Bearer " ++ t) ++ (lit " " ++ withoutNul s) := by
    have hword : withoutNul (lit "Bearer ") = lit "Bearer " := by decide
    have hblank : withoutNul (lit " ") = lit " " := by decide
    unfold bearerText
    simp only [withoutNul, List.filter_append] at hword hblank hclean ⊢
    rw [hword, hblank, hclean]
    simp only [List.append_assoc]
  rw [hsplit, strip_between]
  · have hjoined : lit "Bearer " = bearerWord ++ lit " " := by decide
    rw [hjoined, lead, trail]
    simp only [List.append_assoc]
  · simp [ht.marker.ne_nil]
  · have hhead : (lit "Bearer " ++ t).head? = some 0x42 := by rfl
    rw [hhead]
    intro c hc
    cases hc
    decide
  · rw [List.getLast?_append_of_ne_nil _ ht.marker.ne_nil]
    intro c hc
    exact hvisible c (List.mem_of_getLast? hc)

theorem Token.blank (ht : Token t) : Regex.Avoids [0x20] t := by
  apply Regex.avoids_of_disjoint (List.cons_ne_nil _ _) ht.marker.ne_nil
  intro c hc hmem
  have hblank : isValueChar 0x20 = false := by decide
  rw [List.mem_singleton.mp hmem] at hc
  rw [ht.value _ hc] at hblank
  cases hblank

/-- Behind the token there is a blank or nothing. -/
theorem trail_head (s : PyStr) : ∀ c ∈ (trail s).head?, isValueChar c = false := by
  have hstarts : trail s <+: 0x20 :: withoutNul s := prefix_rstrip _
  cases htrail : trail s with
  | nil =>
    intro c hc
    cases hc
  | cons d rest =>
    rw [htrail, List.cons_prefix_cons] at hstarts
    intro c hc
    cases hc
    rw [hstarts.1]
    decide

theorem infix_of_infix_trail (ht : Token t) (h : t <:+: trail s) : t <:+: withoutNul s := by
  have hstarts : trail s <+: [] ++ ([0x20] ++ withoutNul s) := prefix_rstrip _
  rcases Regex.infix_of_infix_marked ht.blank (h.trans hstarts.isInfix) with hnil | hs
  · exact absurd (List.infix_nil.mp hnil) ht.marker.ne_nil
  · exact hs

/-- What is made of the text, before the word and from the word on. -/
theorem redact_bearerText (ht : Token t) (hnul : 0 ∉ t) :
    redact unicode (strip (withoutNul (bearerText p t s))) =
      Regex.keptFrom unicode.isWord sensitiveValue (lit "[redacted]") 0 none (lead p)
          (bearerWord ++ (lit " " ++ (t ++ trail s))) ++
        Regex.subFrom unicode.isWord sensitiveValue (lit "[redacted]")
          (Regex.overhang unicode.isWord sensitiveValue 0 none (lead p) bearerWord)
          (Regex.lastOf none (lead p)) (bearerWord ++ (lit " " ++ (t ++ trail s))) := by
  rw [strip_bearerText ht hnul, redact, Regex.sub, Regex.subFrom_append, overhang_bearer]

theorem prefix_safeText (value : PyStr) (limit : Int) :
    safeText unicode value limit <+: redact unicode (strip (withoutNul value)) := by
  rw [safeText]
  split
  · exact List.nil_prefix
  · exact List.take_prefix _ _

theorem nul_notMem_redact (value : PyStr) : 0 ∉ redact unicode (strip (withoutNul value)) := by
  intro hmem
  have hinside : [0] <:+: redact unicode (strip (withoutNul value)) := by
    rcases List.append_of_mem hmem with ⟨a, b, hsplit⟩
    exact ⟨a, b, by rw [hsplit]; simp⟩
  have hmarker : Regex.Avoids (lit "[redacted]") [0] := by
    apply Regex.avoids_of_disjoint (by decide) (List.cons_ne_nil _ _)
    intro c hc
    rw [List.mem_singleton.mp hc]
    decide
  have hstripped : strip (withoutNul value) <:+: withoutNul value :=
    (prefix_rstrip _).isInfix.trans (List.dropWhile_suffix _).isInfix
  rw [redact, Regex.sub, Regex.subFrom_eq_keptFrom] at hinside
  have hnul := ((Regex.infix_of_infix_keptFrom hmarker hinside).trans hstripped).subset List.mem_cons_self
  exact absurd rfl (of_decide_eq_true (List.mem_filter.mp hnul).2)

/-- **Where the word is reached, the token is gone.** -/
theorem Reached.not_infix (hp : Reached unicode p) (ht : Token t) (hbefore : ¬t <:+: withoutNul p)
    (hbehind : ¬t <:+: withoutNul s) (limit : Int) :
    ¬t <:+: safeText unicode (bearerText p t s) limit := by
  intro hsafe
  have hinside := hsafe.trans (prefix_safeText _ _).isInfix
  by_cases hnul : 0 ∈ t
  · exact nul_notMem_redact _ (hinside.subset hnul)
  · have hprev : (Regex.lastOf none (lead p)).any unicode.isWord = false := by
      rw [Regex.lastOf, Option.or_none]
      cases hlast : (lead p).getLast? with
      | none => rfl
      | some c => exact hp.boundary c hlast
    have hfirst := head?_ends_bearer hprev ht (trail_head s)
    have hword : bearerWord ++ (lit " " ++ (t ++ trail s)) = (bearerWord ++ (lit " " ++ t)) ++ trail s := by
      simp only [List.append_assoc]
    have hlength : bearerWord.length + (1 + t.length) = (bearerWord ++ (lit " " ++ t)).length := by
      rw [List.length_append, List.length_append]
      rfl
    rw [hword, hlength] at hfirst
    rw [redact_bearerText ht hnul, hp.free, hword, Regex.subFrom_match (by simp [ht.marker.ne_nil]) hfirst,
      Regex.subFrom_eq_keptFrom] at hinside
    rcases Regex.infix_of_infix_marked ht.marker hinside with hkept | htail
    · have hlead : lead p <:+: withoutNul p := (List.dropWhile_suffix _).isInfix
      exact hbefore ((Regex.infix_of_infix_keptFrom ht.marker hkept).trans hlead)
    · exact hbehind (infix_of_infix_trail ht (Regex.infix_of_infix_keptFrom ht.marker htail))

/-! ## A token that survives -/

/-- A token of zeros, which looks like no credential. -/
def zeros (n : Nat) : PyStr := List.replicate (n + 1) 0x30

theorem token_zeros (n : Nat) : Token (zeros n) where
  value := by
    intro c hc
    rw [List.eq_of_mem_replicate hc]
    decide
  marker := by
    apply Regex.avoids_of_disjoint (by decide) (by simp [zeros])
    intro c hc
    rw [List.eq_of_mem_replicate hc]
    decide

/-- Within the word and behind it no match begins. -/
theorem quiet_behind (hboundary : prev.any unicode.isWord = true ∨ 1 ≤ n) (k : Nat)
    {b e : PyStr} {c : CodePoint} (hsplit : bearerWord ++ (lit " " ++ zeros k) = b ++ c :: e)
    (hle : n ≤ b.length) :
    Regex.ends unicode.isWord sensitiveValue (Regex.lastOf prev b) (c :: (e ++ rest)) = [] := by
  have hblank : ∀ d ∈ lit " " ++ zeros k, sensitiveValue.begins d = false := by
    intro d hd
    rcases List.mem_append.mp hd with hd | hd
    · have hspace : d = 0x20 := by simpa [lit] using hd
      rw [hspace]
      decide
    · rw [List.eq_of_mem_replicate hd]
      decide
  rcases List.append_eq_append_iff.mp hsplit with ⟨a, -, hright⟩ | ⟨a, hleft, hright⟩
  · apply ends_eq_nil_of_letter
    exact hblank c (hright ▸ List.mem_append_right _ List.mem_cons_self)
  · rcases List.cons_eq_append_iff.mp hright with ⟨rfl, hbehind⟩ | ⟨a', rfl, -⟩
    · apply ends_eq_nil_of_letter
      exact hblank c (hbehind ▸ List.mem_cons_self)
    · have hc : unicode.isWord c = true :=
        isWord_bearerWord c (hleft ▸ List.mem_append_right _ List.mem_cons_self)
      have hlast : ∃ d, Regex.lastOf prev b = some d ∧ unicode.isWord d = true := by
        rcases List.eq_nil_or_concat' b with rfl | ⟨b', d, rfl⟩
        · have hprev := hboundary.resolve_right (Nat.not_le.mpr (Nat.lt_succ_of_le hle))
          exact (Option.any_eq_true _ _).mp hprev
        · refine ⟨d, by simp [Regex.lastOf], isWord_bearerWord d ?_⟩
          rw [hleft]
          simp
      rcases hlast with ⟨d, hd, hword⟩
      rw [hd]
      exact ends_eq_nil_of_inside hc hword

/-- **Where the word is not reached, a token stays.** -/
theorem exists_surviving (hp : ¬Reached unicode p) (k : Nat) :
    zeros k <:+: redact unicode (strip (withoutNul (bearerText p (zeros k) s))) := by
  have hnul : 0 ∉ zeros k := by
    intro hmem
    exact absurd (List.eq_of_mem_replicate hmem) (by decide)
  generalize hover : Regex.overhang unicode.isWord sensitiveValue 0 none (lead p) bearerWord = n
  have hle : n ≤ bearerWord.length := hover ▸ Regex.overhang_le (Nat.zero_le _)
  have hboundary : (Regex.lastOf none (lead p)).any unicode.isWord = true ∨ 1 ≤ n := by
    by_contra hneither
    rw [not_or, Nat.not_le, Nat.lt_one_iff] at hneither
    apply hp
    constructor
    · intro c hc
      rw [Regex.lastOf, Option.or_none, Option.mem_def.mp hc, Option.any_some] at hneither
      exact Bool.eq_false_iff.mpr hneither.1
    · exact hover.trans hneither.2
  have hword : bearerWord ++ (lit " " ++ (zeros k ++ trail s)) =
      (bearerWord ++ (lit " " ++ zeros k)) ++ trail s := by
    simp only [List.append_assoc]
  rw [redact_bearerText (token_zeros k) hnul, hover, hword, Regex.subFrom_quiet
    (hle.trans (by simp)) fun b c e hsplit hb => quiet_behind hboundary k hsplit hb,
    List.drop_append_of_le_length hle]
  have hbehind : zeros k <:+ bearerWord.drop n ++ (lit " " ++ zeros k) :=
    (List.suffix_append _ _).trans (List.suffix_append _ _)
  exact hbehind.isInfix.trans ⟨_, _, List.append_assoc _ _ _⟩

theorem not_infix_zeros {q : PyStr} {k : Nat} (hk : q.length ≤ k) : ¬zeros k <:+: q := by
  intro hinside
  have hlength := hinside.length_le
  rw [zeros, List.length_replicate] at hlength
  omega

/-- **Bearer credentials.**  Whatever token it is, it is gone from the prompt text exactly where the
word before it is reached. -/
theorem bearer_redacted_iff (p s : PyStr) :
    (∀ t limit, Token t → ¬t <:+: withoutNul p → ¬t <:+: withoutNul s →
      ¬t <:+: safeText unicode (bearerText p t s) limit) ↔ Reached unicode p := by
  constructor
  · intro h
    by_contra hp
    let k := (withoutNul p).length + (withoutNul s).length
    have hsurvives := exists_surviving (s := s) hp k
    apply h (zeros k) ((redact unicode (strip (withoutNul (bearerText p (zeros k) s)))).length + 1)
      (token_zeros k) (not_infix_zeros (Nat.le_add_right _ _)) (not_infix_zeros (Nat.le_add_left _ _))
    rw [safeText, if_neg (by omega), List.take_of_length_le (by omega)]
    exact hsurvives
  · intro hp t limit ht hbefore hbehind
    exact hp.not_infix ht hbefore hbehind limit

/-- In a header the name of the credential takes the word for its value. -/
theorem bearer_survives_header :
    (Token (lit "k3y4711") ∧ ¬lit "k3y4711" <:+: withoutNul (lit "Authorization: ") ∧
      ¬lit "k3y4711" <:+: withoutNul []) ∧
    lit "k3y4711" <:+:
      safeText asciiWordDatabase (bearerText (lit "Authorization: ") (lit "k3y4711") []) 8000 := by
  have hvalue : (lit "k3y4711").all isValueChar = true := by decide
  have hmarker : (lit "k3y4711").all (fun c => c ∉ lit "[redacted]") = true := by decide
  have havoids : Regex.Avoids (lit "[redacted]") (lit "k3y4711") := by
    apply Regex.avoids_of_disjoint (by decide) (by decide)
    intro c hc
    exact of_decide_eq_true (List.all_eq_true.mp hmarker c hc)
  constructor
  · exact ⟨⟨List.all_eq_true.mp hvalue, havoids⟩, by decide, by decide⟩
  · decide +kernel

end HermesClaude.Prompt
