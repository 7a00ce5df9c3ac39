/-
# Documents as sort keys

With `ensure_ascii=True` every character beyond printable ASCII is written as an escape, an
astral one as two.  In what `json.dumps` writes otherwise a backslash only ever begins an
escape of its own, so the escapes can be told apart and different documents keep different
texts.  Only lone surrogates can get in the way, and text with those has no encoding.
-/

import HermesClaude.Python.JsonRoundTrip

namespace HermesClaude.Python

/-- `\uXXXX`. -/
def hexEscape (n : Nat) : PyStr :=
  [0x5C, 0x75, .ofHexDigit (n / 4096 % 16), .ofHexDigit (n / 256 % 16), .ofHexDigit (n / 16 % 16),
    .ofHexDigit (n % 16)]

/-- What `ensure_ascii=True` makes of a character that is written as it is otherwise. -/
def asciiEscape (c : CodePoint) : PyStr :=
  if c.val < 0x7F then [c]
  else if c.val < 0x10000 then hexEscape c.val
  else hexEscape (0xD800 + (c.val - 0x10000) / 0x400) ++ hexEscape (0xDC00 + (c.val - 0x10000) % 0x400)

/-- `json.dumps` with `ensure_ascii=True`. -/
def JSONEncoder.asciiDumps (encoder : JSONEncoder) (value : Json) : Option PyStr :=
  (encoder.dumps value).map fun text => text.flatMap asciiEscape

/-! ## Telling escapes apart -/

/-- Text in which a backslash only begins an escape. -/
inductive Escaped : PyStr → Prop
  | nil : Escaped []
  | plain {c : CodePoint} {rest : PyStr} (hc : c ≠ 0x5C) (hrest : Escaped rest) : Escaped (c :: rest)
  | short {c : CodePoint} {rest : PyStr} (hc : c ≠ 0x75) (hascii : c.val < 0x7F)
      (hrest : Escaped rest) : Escaped (0x5C :: c :: rest)
  | control {n : Nat} {rest : PyStr} (hn : n < 0x20) (hrest : Escaped rest) :
      Escaped (hexEscape n ++ rest)

/-- What stands behind the escape of a high surrogate. -/
def readLow (high : Nat) : PyStr → PyStr × PyStr
  | _ :: _ :: a :: b :: c :: d :: rest =>
    ([Fin.ofNat 0x110000 (0x10000 + (high - 0xD800) * 0x400 +
      ((hexCode? a b c d).getD 0 - 0xDC00))], rest)
  | _ => ([], [])

/-- What stands behind `\\u`. -/
def readCode : PyStr → PyStr × PyStr
  | a :: b :: c :: d :: rest =>
    if (hexCode? a b c d).getD 0 < 0x20 then ([0x5C, 0x75, a, b, c, d], rest)
    else if 0xD800 ≤ (hexCode? a b c d).getD 0 ∧ (hexCode? a b c d).getD 0 ≤ 0xDBFF then
      readLow ((hexCode? a b c d).getD 0) rest
    else ([Fin.ofNat 0x110000 ((hexCode? a b c d).getD 0)], rest)
  | _ => ([], [])

/-- What stands behind a backslash. -/
def readBackslash : PyStr → PyStr × PyStr
  | c :: rest => if c = 0x75 then readCode rest else ([0x5C, c], rest)
  | [] => ([], [])

/-- The first character or escape of text with ASCII escapes, as it was before, and the rest. -/
def readEscape : PyStr → PyStr × PyStr
  | c :: rest => if c = 0x5C then readBackslash rest else ([c], rest)
  | [] => ([], [])

theorem hexCode?_hexEscape {n : Nat} (h : n < 0x10000) :
    hexCode? (.ofHexDigit (n / 4096 % 16)) (.ofHexDigit (n / 256 % 16)) (.ofHexDigit (n / 16 % 16))
      (.ofHexDigit (n % 16)) = some n := by
  unfold hexCode?
  rw [CodePoint.hexDigit?_ofHexDigit (by omega), CodePoint.hexDigit?_ofHexDigit (by omega),
    CodePoint.hexDigit?_ofHexDigit (by omega), CodePoint.hexDigit?_ofHexDigit (by omega)]
  simp only [Option.bind_eq_bind, Option.bind_some, Option.pure_def, Option.some.injEq]
  omega

/-- The escape of a control is left as it is. -/
theorem readEscape_control {n : Nat} (h : n < 0x20) (tail : PyStr) :
    readEscape (hexEscape n ++ tail) = (hexEscape n, tail) := by
  have hcode := hexCode?_hexEscape (n := n) (by omega)
  simp only [hexEscape, List.cons_append, List.nil_append, readEscape, readBackslash, readCode, if_true,
    hcode, Option.getD_some, if_pos h]

/-- The escape of a character that is no surrogate. -/
theorem readEscape_code {n : Nat} (hlow : 0x20 ≤ n) (hhigh : n < 0x10000)
    (hsurrogate : ¬(0xD800 ≤ n ∧ n ≤ 0xDBFF)) (tail : PyStr) :
    readEscape (hexEscape n ++ tail) = ([Fin.ofNat 0x110000 n], tail) := by
  have hcode := hexCode?_hexEscape hhigh
  simp only [hexEscape, List.cons_append, List.nil_append, readEscape, readBackslash, readCode, if_true,
    hcode, Option.getD_some, if_neg (Nat.not_lt.mpr hlow), if_neg hsurrogate]

/-- The two escapes of an astral character. -/
theorem readEscape_pair {high low : Nat} (hhigh : high < 0x400) (hlow : low < 0x400) (tail : PyStr) :
    readEscape (hexEscape (0xD800 + high) ++ hexEscape (0xDC00 + low) ++ tail) =
      ([Fin.ofNat 0x110000 (0x10000 + high * 0x400 + low)], tail) := by
  have hcode := hexCode?_hexEscape (n := 0xD800 + high) (by omega)
  have hcode' := hexCode?_hexEscape (n := 0xDC00 + low) (by omega)
  have hrange : 0xD800 ≤ 0xD800 + high ∧ 0xD800 + high ≤ 0xDBFF := by omega
  simp only [hexEscape, List.cons_append, List.nil_append, readEscape, readBackslash, readCode, if_true,
    hcode, Option.getD_some, if_neg (show ¬0xD800 + high < 0x20 by omega), if_pos hrange, readLow, hcode',
    Nat.add_sub_cancel_left]

theorem readEscape_plain {c : CodePoint} (hc : c ≠ 0x5C) (hsurrogate : c.isSurrogate = false)
    (tail : PyStr) : readEscape (asciiEscape c ++ tail) = ([c], tail) := by
  have hbound := c.isLt
  simp only [CodePoint.isSurrogate, Bool.and_eq_false_iff, decide_eq_false_iff_not] at hsurrogate
  unfold asciiEscape
  split
  · rw [List.singleton_append, readEscape, if_neg hc]
  · split
    · next hbmp =>
      rw [readEscape_code (by omega) hbmp (by omega), Fin.ofNat_val_eq_self]
    · have hvalue : 0x10000 + (c.val - 0x10000) / 0x400 * 0x400 + (c.val - 0x10000) % 0x400 = c.val := by
        omega
      rw [readEscape_pair (by omega) (by omega), hvalue, Fin.ofNat_val_eq_self]

theorem asciiEscape_ascii {c : CodePoint} (h : c.val < 0x7F) : asciiEscape c = [c] := if_pos h

theorem ofHexDigit_lt {n : Nat} (h : n < 16) : (CodePoint.ofHexDigit n).val < 0x7F := by
  rw [CodePoint.ofHexDigit, Fin.val_ofNat]
  split <;> omega

/-- An escape is printable ASCII. -/
theorem flatMap_hexEscape (n : Nat) : (hexEscape n).flatMap asciiEscape = hexEscape n := by
  have hdigit : ∀ m, asciiEscape (.ofHexDigit (m % 16)) = [CodePoint.ofHexDigit (m % 16)] := by
    intro m
    exact asciiEscape_ascii (ofHexDigit_lt (Nat.mod_lt _ (by omega)))
  simp only [hexEscape, List.flatMap_cons, List.flatMap_nil, hdigit, asciiEscape_ascii (c := 0x5C) (by decide),
    asciiEscape_ascii (c := 0x75) (by decide), List.cons_append, List.nil_append]

/-- What escaped text begins with can be read off its ASCII form. -/
theorem Escaped.read {s : PyStr} (h : Escaped s) (hsurrogates : ∀ c ∈ s, c.isSurrogate = false) :
    s = [] ∨ ∃ first rest, s = first ++ rest ∧ first ≠ [] ∧ Escaped rest ∧
      readEscape (s.flatMap asciiEscape) = (first, rest.flatMap asciiEscape) := by
  cases h with
  | nil => exact Or.inl rfl
  | @plain c rest hc hrest =>
    refine Or.inr ⟨[c], rest, rfl, List.cons_ne_nil _ _, hrest, ?_⟩
    rw [List.flatMap_cons]
    exact readEscape_plain hc (hsurrogates c List.mem_cons_self) _
  | @short c rest hc hascii hrest =>
    refine Or.inr ⟨[0x5C, c], rest, rfl, List.cons_ne_nil _ _, hrest, ?_⟩
    rw [List.flatMap_cons, List.flatMap_cons, asciiEscape_ascii hascii,
      asciiEscape_ascii (c := 0x5C) (by decide), List.singleton_append, List.singleton_append, readEscape,
      if_pos rfl, readBackslash, if_neg hc]
  | @control n rest hn hrest =>
    refine Or.inr ⟨hexEscape n, rest, rfl, List.cons_ne_nil _ _, hrest, ?_⟩
    rw [List.flatMap_append, flatMap_hexEscape]
    exact readEscape_control hn _

theorem flatMap_asciiEscape_eq_nil {s : PyStr} (h : s.flatMap asciiEscape = []) : s = [] := by
  cases s with
  | nil => rfl
  | cons c rest =>
    have hne : asciiEscape c ≠ [] := by
      unfold asciiEscape
      split
      · exact List.cons_ne_nil _ _
      · split <;> exact List.cons_ne_nil _ _
    rw [List.flatMap_cons, List.append_eq_nil_iff] at h
    exact absurd h.1 hne

/-- **ASCII escapes can be undone.** -/
theorem Escaped.eq_of_flatMap_eq {s t : PyStr} (hs : Escaped s) (ht : Escaped t)
    (hs' : ∀ c ∈ s, c.isSurrogate = false) (ht' : ∀ c ∈ t, c.isSurrogate = false)
    (h : s.flatMap asciiEscape = t.flatMap asciiEscape) : s = t := by
  induction hlength : s.length using Nat.strongRecOn generalizing s t with
  | ind n ih =>
    subst hlength
    rcases hs.read hs' with rfl | ⟨first, rest, rfl, hne, hrest, hread⟩
    · exact (flatMap_asciiEscape_eq_nil h.symm).symm
    · rcases ht.read ht' with rfl | ⟨first', rest', rfl, -, hrest', hread'⟩
      · exact flatMap_asciiEscape_eq_nil h
      · rw [h, hread', Prod.mk.injEq] at hread
        rcases hread with ⟨rfl, htail⟩
        have hshort : rest.length < (first' ++ rest).length := by
          have hpositive := List.length_pos_of_ne_nil hne
          rw [List.length_append]
          omega
        have hrest_eq := ih _ hshort hrest hrest' (List.forall_mem_append.mp hs').2
          (List.forall_mem_append.mp ht').2 htail.symm rfl
        rw [hrest_eq]

/-! ## What the encoder writes -/

theorem Escaped.append {s t : PyStr} (hs : Escaped s) (ht : Escaped t) : Escaped (s ++ t) := by
  induction hs with
  | nil => exact ht
  | plain hc _ ih => exact .plain hc ih
  | short hc hascii _ ih => exact .short hc hascii ih
  | control hn _ ih =>
    rw [List.append_assoc]
    exact .control hn ih

/-- Text without lone surrogates. -/
def Clean (s : PyStr) : Prop := ∀ c ∈ s, c.isSurrogate = false

theorem clean_append {s t : PyStr} : Clean (s ++ t) ↔ Clean s ∧ Clean t := List.forall_mem_append

theorem clean_cons {c : CodePoint} {s : PyStr} : Clean (c :: s) ↔ c.isSurrogate = false ∧ Clean s :=
  List.forall_mem_cons

/-- ASCII text without a backslash. -/
def Simple (s : PyStr) : Prop := ∀ c ∈ s, c.val < 0x80 ∧ c ≠ 0x5C

theorem simple_of_all {s : PyStr} (h : s.all (fun c => c.val < 0x80 && c != 0x5C) = true) :
    Simple s := by
  intro c hc
  simpa using List.all_eq_true.mp h c hc

theorem simple_append {s t : PyStr} : Simple (s ++ t) ↔ Simple s ∧ Simple t := List.forall_mem_append

theorem Simple.escaped {s : PyStr} (h : Simple s) : Escaped s := by
  induction s with
  | nil => exact .nil
  | cons c rest ih =>
    have hparts := List.forall_mem_cons.mp h
    exact .plain hparts.1.2 (ih hparts.2)

theorem isSurrogate_of_ascii {c : CodePoint} (h : c.val < 0x80) : c.isSurrogate = false := by
  simp only [CodePoint.isSurrogate, Bool.and_eq_false_iff, decide_eq_false_iff_not]
  omega

theorem Simple.clean {s : PyStr} (h : Simple s) : Clean s := by
  intro c hc
  exact isSurrogate_of_ascii (h c hc).1

theorem simple_of_isDigit {s : PyStr} (h : ∀ c ∈ s, c.isDigit = true) : Simple s := by
  intro c hc
  have hdigit := h c hc
  simp only [CodePoint.isDigit, Bool.and_eq_true, decide_eq_true_eq] at hdigit
  constructor
  · omega
  · rintro rfl
    exact absurd hdigit.2 (by decide)

theorem simple_number {sign digits fraction exponent : PyStr}
    (h : IsNumber sign digits fraction exponent) : Simple (sign ++ digits ++ fraction ++ exponent) := by
  simp only [simple_append]
  refine ⟨⟨⟨?_, ?_⟩, ?_⟩, ?_⟩
  · rcases h.sign with rfl | rfl <;> exact simple_of_all (by decide)
  · rcases h.digits with rfl | ⟨_, _, -, -, hdigits⟩
    · exact simple_of_all (by decide)
    · exact simple_of_isDigit hdigits
  · rcases h.fraction with rfl | ⟨fraction, -, rfl, hdigits⟩
    · exact simple_of_all (by decide)
    · exact List.forall_mem_cons.mpr ⟨by decide, simple_of_isDigit hdigits⟩
  · rcases h.exponent with rfl | ⟨sign, digits, hsign, -, rfl, hdigits⟩
    · exact simple_of_all (by decide)
    · refine List.forall_mem_cons.mpr ⟨by decide, simple_append.mpr ⟨?_, simple_of_isDigit hdigits⟩⟩
      rcases hsign with rfl | rfl | rfl <;> exact simple_of_all (by decide)

theorem escapeChar_control {c : CodePoint} (h : c.val < 0x20) :
    [0x5C, 0x75, 0x30, 0x30, .ofHexDigit (c.val / 16), .ofHexDigit (c.val % 16)] =
      hexEscape c.val := by
  have hfirst : c.val / 4096 % 16 = 0 := by omega
  have hsecond : c.val / 256 % 16 = 0 := by omega
  have hthird : c.val / 16 % 16 = c.val / 16 := by omega
  have hzero : CodePoint.ofHexDigit 0 = 0x30 := by decide
  rw [hexEscape, hfirst, hsecond, hthird, hzero]

theorem escaped_escapeChar (c : CodePoint) : Escaped (escapeChar c) := by
  unfold escapeChar
  split
  · exact .short (by decide) (by decide) .nil
  split
  · exact .short (by decide) (by decide) .nil
  split
  · exact .short (by decide) (by decide) .nil
  split
  · exact .short (by decide) (by decide) .nil
  split
  · exact .short (by decide) (by decide) .nil
  split
  · exact .short (by decide) (by decide) .nil
  split
  · exact .short (by decide) (by decide) .nil
  split
  · next hcontrol =>
    rw [escapeChar_control hcontrol, ← List.append_nil (hexEscape c.val)]
    exact .control hcontrol .nil
  · exact .plain (by assumption) .nil

theorem clean_of_all {s : PyStr} (h : s.all (fun c => !c.isSurrogate) = true) : Clean s := by
  intro c hc
  simpa using List.all_eq_true.mp h c hc

theorem clean_hexEscape (n : Nat) : Clean (hexEscape n) := by
  have hdigit : ∀ m, (CodePoint.ofHexDigit (m % 16)).isSurrogate = false := by
    intro m
    have hlt := ofHexDigit_lt (n := m % 16) (Nat.mod_lt _ (by omega))
    exact isSurrogate_of_ascii (by omega)
  simp only [Clean, hexEscape, List.forall_mem_cons]
  exact ⟨by decide, by decide, hdigit _, hdigit _, hdigit _, hdigit _, List.forall_mem_nil _⟩

theorem clean_escapeChar_of_clean {c : CodePoint} (h : c.isSurrogate = false) :
    Clean (escapeChar c) := by
  unfold escapeChar
  split
  · exact clean_of_all (by decide)
  split
  · exact clean_of_all (by decide)
  split
  · exact clean_of_all (by decide)
  split
  · exact clean_of_all (by decide)
  split
  · exact clean_of_all (by decide)
  split
  · exact clean_of_all (by decide)
  split
  · exact clean_of_all (by decide)
  split
  · next hcontrol =>
    rw [escapeChar_control hcontrol]
    exact clean_hexEscape _
  · exact List.forall_mem_singleton.mpr h

/-- A character beyond ASCII is written as it is. -/
theorem escapeChar_plain {c : CodePoint} (h : 0x80 ≤ c.val) : escapeChar c = [c] := by
  have hne : ∀ d : CodePoint, d.val < 0x80 → c ≠ d := by
    rintro d hd rfl
    omega
  unfold escapeChar
  rw [if_neg (hne 0x22 (by decide)), if_neg (hne 0x5C (by decide)), if_neg (hne 0x0A (by decide)),
    if_neg (hne 0x0D (by decide)), if_neg (hne 0x09 (by decide)), if_neg (hne 0x0C (by decide)),
    if_neg (hne 0x08 (by decide)), if_neg (by omega)]

theorem clean_escapeChar (c : CodePoint) : Clean (escapeChar c) ↔ c.isSurrogate = false := by
  constructor
  · intro h
    by_cases hascii : c.val < 0x80
    · exact isSurrogate_of_ascii hascii
    · rw [escapeChar_plain (Nat.not_lt.mp hascii)] at h
      exact h c (List.mem_singleton_self c)
  · exact clean_escapeChar_of_clean

theorem escaped_flatMap_escapeChar (s : PyStr) : Escaped (s.flatMap escapeChar) := by
  induction s with
  | nil => exact .nil
  | cons c rest ih => exact (escaped_escapeChar c).append ih

theorem clean_flatMap_escapeChar (s : PyStr) : Clean (s.flatMap escapeChar) ↔ Clean s := by
  induction s with
  | nil => exact Iff.rfl
  | cons c rest ih =>
    rw [List.flatMap_cons, clean_append, clean_escapeChar, ih, clean_cons]

theorem escaped_encodeString (s : PyStr) : Escaped (encodeString s) :=
  .plain (by decide) ((escaped_flatMap_escapeChar s).append (.plain (by decide) .nil))

theorem clean_encodeString (s : PyStr) : Clean (encodeString s) ↔ Clean s := by
  have hquote : Clean [0x22] := clean_of_all (by decide)
  change Clean ([0x22] ++ (s.flatMap escapeChar ++ [0x22])) ↔ Clean s
  rw [clean_append, clean_append, clean_flatMap_escapeChar]
  exact ⟨fun h => h.2.1, fun h => ⟨hquote, h, hquote⟩⟩

namespace Json

mutual

/-- No text of a document has a lone surrogate. -/
def CleanTexts : Json → Prop
  | .str s => Clean s
  | .list items => CleanTextsList items
  | .dict items => CleanTextsItems items
  | .null | .bool _ | .int _ | .float _ => True

def CleanTextsList : List Json → Prop
  | [] => True
  | item :: items => CleanTexts item ∧ CleanTextsList items

def CleanTextsItems : List (PyStr × Json) → Prop
  | [] => True
  | (key, item) :: items => (Clean key ∧ CleanTexts item) ∧ CleanTextsItems items

end

theorem cleanTextsList_iff (items : List Json) :
    CleanTextsList items ↔ ∀ item ∈ items, CleanTexts item := by
  induction items with
  | nil => simp [CleanTextsList]
  | cons item items ih => rw [CleanTextsList, ih, List.forall_mem_cons]

theorem cleanTextsItems_iff (items : List (PyStr × Json)) :
    CleanTextsItems items ↔ ∀ item ∈ items, Clean item.1 ∧ CleanTexts item.2 := by
  induction items with
  | nil => simp [CleanTextsItems]
  | cons item items ih => rw [CleanTextsItems, ih, List.forall_mem_cons]

end Json

namespace JSONEncoder

variable {encoder : JSONEncoder}

/-- The layout between the parts of a text is ASCII without a backslash. -/
theorem simple_newline (level : Nat) : Simple (encoder.newline level) := by
  unfold newline
  split
  · exact simple_of_all (by decide)
  · intro c hc
    rcases List.mem_cons.mp hc with rfl | hc
    · decide
    · rw [List.eq_of_mem_replicate hc]
      decide

theorem closeItems_spec (encoder : JSONEncoder) {closing : CodePoint} (hclosing : Simple [closing])
    (level : Nat) (texts : List PyStr) :
    ((∀ text ∈ texts, Escaped text) → Escaped (encoder.closeItems closing level texts)) ∧
      (Clean (encoder.closeItems closing level texts) ↔ ∀ text ∈ texts, Clean text) := by
  have hcomma : Simple [0x2C] := simple_of_all (by decide)
  have hnewline : ∀ level, Simple (encoder.newline level) := fun level => simple_newline level
  induction texts with
  | nil =>
    have hend : Simple (encoder.newline level ++ [closing]) := simple_append.mpr ⟨hnewline level, hclosing⟩
    exact ⟨fun _ => hend.escaped, iff_of_true hend.clean (List.forall_mem_nil _)⟩
  | cons text texts ih =>
    have hstart : Simple ([0x2C] ++ encoder.newline (level + 1)) :=
      simple_append.mpr ⟨hcomma, hnewline _⟩
    have hshape : encoder.closeItems closing level (text :: texts) =
        ([0x2C] ++ encoder.newline (level + 1)) ++ (text ++ encoder.closeItems closing level texts) := by
      rw [closeItems, List.append_assoc, List.singleton_append]
    rw [hshape]
    constructor
    · intro h
      rw [List.forall_mem_cons] at h
      exact hstart.escaped.append (h.1.append (ih.1 h.2))
    · rw [clean_append, and_iff_right hstart.clean, clean_append, ih.2, List.forall_mem_cons]

/-- What is written around the items of a container says nothing about them. -/
theorem enclose_spec (encoder : JSONEncoder) {opening closing : CodePoint} (hopening : Simple [opening])
    (hclosing : Simple [closing]) (level : Nat) (texts : List PyStr) :
    ((∀ text ∈ texts, Escaped text) → Escaped (encoder.enclose opening closing level texts)) ∧
      (Clean (encoder.enclose opening closing level texts) ↔ ∀ text ∈ texts, Clean text) := by
  cases texts with
  | nil =>
    have hboth : Simple ([opening] ++ [closing]) := simple_append.mpr ⟨hopening, hclosing⟩
    exact ⟨fun _ => hboth.escaped, iff_of_true hboth.clean (List.forall_mem_nil _)⟩
  | cons text texts =>
    have hstart : Simple ([opening] ++ encoder.newline (level + 1)) :=
      simple_append.mpr ⟨hopening, simple_newline _⟩
    have hclose := closeItems_spec encoder hclosing level texts
    have hshape : encoder.enclose opening closing level (text :: texts) =
        ([opening] ++ encoder.newline (level + 1)) ++
          (text ++ encoder.closeItems closing level texts) := by
      rw [enclose, List.append_assoc, List.singleton_append]
    rw [hshape]
    constructor
    · intro h
      rw [List.forall_mem_cons] at h
      exact hstart.escaped.append (h.1.append (hclose.1 h.2))
    · rw [clean_append, and_iff_right hstart.clean, clean_append, hclose.2, List.forall_mem_cons]

section

set_option linter.unusedSectionVars false

variable (hseparator : Simple encoder.keySeparator)

include hseparator

theorem entry_spec (field : PyStr × PyStr) :
    (Escaped field.2 → Escaped (encoder.entry field)) ∧
      (Clean (encoder.entry field) ↔ Clean field.1 ∧ Clean field.2) := by
  constructor
  · intro h
    exact (escaped_encodeString _).append (hseparator.escaped.append h)
  · rw [entry, clean_append, clean_append, clean_encodeString, and_iff_right hseparator.clean]

mutual

/-- What is written for a document has no backslash but those of escapes, and lone surrogates only
if the document has. -/
theorem encode_spec {level : Nat} {value : Json} {text : PyStr} (hdoubles : value.HasDoubles)
    (h : encoder.encode level value = some text) : Escaped text ∧ (Clean text ↔ value.CleanTexts) := by
  match value with
  | .null =>
    cases h
    have hsimple : Simple (lit "null") := simple_of_all (by decide)
    exact ⟨hsimple.escaped, iff_of_true hsimple.clean trivial⟩
  | .bool true =>
    cases h
    have hsimple : Simple (lit "true") := simple_of_all (by decide)
    exact ⟨hsimple.escaped, iff_of_true hsimple.clean trivial⟩
  | .bool false =>
    cases h
    have hsimple : Simple (lit "false") := simple_of_all (by decide)
    exact ⟨hsimple.escaped, iff_of_true hsimple.clean trivial⟩
  | .int i =>
    obtain ⟨sign, rfl, hnumber⟩ := intRepr_isNumber h
    have hsimple := simple_number hnumber
    rw [List.append_nil, List.append_nil] at hsimple
    exact ⟨hsimple.escaped, iff_of_true hsimple.clean trivial⟩
  | .float q =>
    cases h
    obtain ⟨sign, digits, fraction, exponent, hrepr, hnumber, -⟩ :=
      encoder.floats.repr_number q hdoubles
    rw [hrepr]
    have hsimple := simple_number hnumber
    exact ⟨hsimple.escaped, iff_of_true hsimple.clean trivial⟩
  | .str s =>
    cases h
    exact ⟨escaped_encodeString s, clean_encodeString s⟩
  | .list items =>
    rw [encode, Option.map_eq_some_iff] at h
    rcases h with ⟨texts, htexts, rfl⟩
    have hlist := encodeList_spec hdoubles htexts
    have hopening : Simple [0x5B] := simple_of_all (by decide)
    have hclosing : Simple [0x5D] := simple_of_all (by decide)
    have henclose := enclose_spec encoder hopening hclosing level texts
    exact ⟨henclose.1 hlist.1, henclose.2.trans hlist.2⟩
  | .dict items =>
    rw [encode, Option.map_eq_some_iff] at h
    rcases h with ⟨fields, hfields, rfl⟩
    have hitems := encodeItems_spec hdoubles hfields
    have hopening : Simple [0x7B] := simple_of_all (by decide)
    have hclosing : Simple [0x7D] := simple_of_all (by decide)
    have henclose := enclose_spec encoder hopening hclosing level
      ((sortItems fields).map encoder.entry)
    have hsorted : ∀ field, field ∈ sortItems fields ↔ field ∈ fields :=
      fun field => (sortItems_perm fields).mem_iff
    constructor
    · apply henclose.1
      rw [List.forall_mem_map]
      intro field hfield
      exact (entry_spec hseparator field).1 (hitems.1 field ((hsorted field).mp hfield))
    · rw [henclose.2, List.forall_mem_map]
      simp only [hsorted, (entry_spec hseparator _).2]
      exact hitems.2

theorem encodeList_spec {level : Nat} {items : List Json} {texts : List PyStr}
    (hdoubles : Json.HasDoublesList items) (h : encoder.encodeList level items = some texts) :
    (∀ text ∈ texts, Escaped text) ∧ ((∀ text ∈ texts, Clean text) ↔ Json.CleanTextsList items) := by
  match items with
  | [] =>
    cases h
    exact ⟨List.forall_mem_nil _, iff_of_true (List.forall_mem_nil _) trivial⟩
  | item :: items =>
    simp only [encodeList, Option.bind_eq_bind, Option.bind_eq_some_iff] at h
    rcases h with ⟨text, htext, texts, htexts, h⟩
    cases h
    have hitem := encode_spec hdoubles.1 htext
    have hrest := encodeList_spec hdoubles.2 htexts
    rw [List.forall_mem_cons, List.forall_mem_cons, hitem.2, hrest.2]
    exact ⟨⟨hitem.1, hrest.1⟩, Iff.rfl⟩

theorem encodeItems_spec {level : Nat} {items : List (PyStr × Json)}
    {fields : List (PyStr × PyStr)} (hdoubles : Json.HasDoublesItems items)
    (h : encoder.encodeItems level items = some fields) :
    (∀ field ∈ fields, Escaped field.2) ∧
      ((∀ field ∈ fields, Clean field.1 ∧ Clean field.2) ↔ Json.CleanTextsItems items) := by
  match items with
  | [] =>
    cases h
    exact ⟨List.forall_mem_nil _, iff_of_true (List.forall_mem_nil _) trivial⟩
  | (key, item) :: items =>
    rcases encodeItems_cons.mp h with ⟨text, rest, htext, hrest, rfl⟩
    have hitem := encode_spec hdoubles.1 htext
    have hothers := encodeItems_spec hdoubles.2 hrest
    rw [List.forall_mem_cons, List.forall_mem_cons, hitem.2, hothers.2]
    exact ⟨⟨hitem.1, hothers.1⟩, Iff.rfl⟩

end

end

end JSONEncoder

/-! ## Different documents have different texts -/

namespace Json

mutual

theorem toValue_injective {a b : Json} (h : a.toValue = b.toValue) : a = b := by
  match a, b with
  | .null, .null => rfl
  | .bool _, .bool _ | .int _, .int _ | .float _, .float _ | .str _, .str _ =>
    cases h
    rfl
  | .list items, .list items' =>
    rw [toValue, toValue, PyValue.list.injEq] at h
    rw [toValueList_injective h]
  | .dict items, .dict items' =>
    rw [toValue, toValue, PyValue.dict.injEq] at h
    rw [toValueItems_injective h]

theorem toValueList_injective {items items' : List Json} (h : toValueList items = toValueList items') :
    items = items' := by
  match items, items' with
  | [], [] => rfl
  | item :: items, item' :: items' =>
    rw [toValueList, toValueList, List.cons.injEq] at h
    rw [toValue_injective h.1, toValueList_injective h.2]

theorem toValueItems_injective {items items' : List (PyStr × Json)}
    (h : toValueItems items = toValueItems items') : items = items' := by
  match items, items' with
  | [], [] => rfl
  | (key, item) :: items, (key', item') :: items' =>
    rw [toValueItems, toValueItems, List.cons.injEq, Prod.mk.injEq, PyValue.str.injEq] at h
    rw [h.1.1, toValue_injective h.1.2, toValueItems_injective h.2]

end

end Json

/-- A decoder without checks of its own. -/
def plainDecoder (floats : FloatText) : JSONDecoder where
  floats
  parseConstant _ := none
  objectPairsHook fields := some (.dict (fields.map fun field => (.str field.1, field.2)))

section Injective

variable {encoder : JSONEncoder} (hencoder : encoder.Lawful) {a b : Json} {text : PyStr}
  (hdoubles : a.HasDoubles) (hdoubles' : b.HasDoubles) (hunique : a.UniqueKeys)
  (hunique' : b.UniqueKeys)

include hencoder hdoubles hdoubles' hunique hunique'

/-- Documents with one text are equal, up to the order of their keys. -/
theorem JSONEncoder.sortKeys_eq_of_dumps (h : encoder.dumps a = some text)
    (h' : encoder.dumps b = some text) : a.sortKeys = b.sortKeys := by
  have hread : ∀ {value : Json}, value.HasDoubles → value.UniqueKeys → encoder.dumps value = some text →
      (plainDecoder encoder.floats).loads text = some value.sortKeys.toValue := by
    intro value hd hu hdumps
    have hloads : (plainDecoder encoder.floats).loads (text ++ []) = some value.sortKeys.toValue :=
      JSONDecoder.loads_dumps hencoder (fun _ _ => rfl) rfl hd hu hdumps (List.forall_mem_nil _)
    rwa [List.append_nil] at hloads
  have hsame := (hread hdoubles hunique h).symm.trans (hread hdoubles' hunique' h')
  exact Json.toValue_injective (Option.some.inj hsame)

/-- So are documents with one ASCII text, if no lone surrogate is among their characters. -/
theorem JSONEncoder.sortKeys_eq_of_asciiDumps (hseparator : Simple encoder.keySeparator)
    (hclean : a.CleanTexts) (hclean' : b.CleanTexts) (h : encoder.asciiDumps a = some text)
    (h' : encoder.asciiDumps b = some text) : a.sortKeys = b.sortKeys := by
  rw [asciiDumps, Option.map_eq_some_iff] at h h'
  rcases h with ⟨plain, hplain, rfl⟩
  rcases h' with ⟨plain', hplain', heq⟩
  have hspec := encode_spec hseparator hdoubles hplain
  have hspec' := encode_spec hseparator hdoubles' hplain'
  have hsame : plain' = plain :=
    hspec'.1.eq_of_flatMap_eq hspec.1 (hspec'.2.mpr hclean') (hspec.2.mpr hclean) heq
  rw [hsame] at hplain'
  exact sortKeys_eq_of_dumps hencoder hdoubles hdoubles' hunique hunique' hplain hplain'

end Injective

end HermesClaude.Python
