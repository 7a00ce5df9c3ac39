/-
# The tokens of JSON text

What `json.dumps` writes for strings and numbers and what `json.loads` reads of them:
with `ensure_ascii=False` a string is written as it is except for quotes, backslashes and
controls, and a number is read as far as the grammar of numbers goes.

The shortest decimal text of a float, and the float nearest to a decimal text, are taken
from the library: a float is written as a decimal with a fraction or an exponent, and
reading that text gives the float back.
-/

import HermesClaude.Python.Json
import Mathlib.Algebra.Order.Field.Rat
import Mathlib.Algebra.Order.Ring.Abs
import Mathlib.Tactic.FieldSimp
import Mathlib.Tactic.Ring
import Mathlib.Tactic.IntervalCases

namespace HermesClaude.Python

namespace CodePoint

/-- `0` to `9`. -/
def isDigit (c : CodePoint) : Bool := 0x30 ≤ c.val && c.val ≤ 0x39

/-- The white space of JSON: blank, tab, line feed and carriage return. -/
def isJsonSpace (c : CodePoint) : Bool := c.val = 0x20 || c.val = 0x09 || c.val = 0x0A || c.val = 0x0D

/-- The number of a hexadecimal digit. -/
def hexDigit? (c : CodePoint) : Option Nat :=
  let n := c.val
  if 0x30 ≤ n ∧ n ≤ 0x39 then some (n - 0x30)
  else if 0x61 ≤ n ∧ n ≤ 0x66 then some (n - 0x61 + 10)
  else if 0x41 ≤ n ∧ n ≤ 0x46 then some (n - 0x41 + 10)
  else none

/-- A hexadecimal digit in lower case. -/
def ofHexDigit (n : Nat) : CodePoint :=
  Fin.ofNat 0x110000 (if n < 10 then 0x30 + n else 0x61 + (n - 10))

theorem hexDigit?_ofHexDigit {n : Nat} (h : n < 16) : hexDigit? (ofHexDigit n) = some n := by
  unfold hexDigit? ofHexDigit
  by_cases hten : n < 10
  · rw [if_pos hten, Fin.val_ofNat, Nat.mod_eq_of_lt (by omega), if_pos (by omega)]
    congr 1
    omega
  · rw [if_neg hten, Fin.val_ofNat, Nat.mod_eq_of_lt (by omega), if_neg (by omega),
      if_pos (by omega)]
    congr 1
    omega

end CodePoint

/-! ## Strings -/

/-- What a character of a string is written as. -/
def escapeChar (c : CodePoint) : PyStr :=
  if c = 0x22 then [0x5C, 0x22]
  else if c = 0x5C then [0x5C, 0x5C]
  else if c = 0x0A then [0x5C, 0x6E]
  else if c = 0x0D then [0x5C, 0x72]
  else if c = 0x09 then [0x5C, 0x74]
  else if c = 0x0C then [0x5C, 0x66]
  else if c = 0x08 then [0x5C, 0x62]
  else if c.val < 0x20 then
    [0x5C, 0x75, 0x30, 0x30, .ofHexDigit (c.val / 16), .ofHexDigit (c.val % 16)]
  else [c]

/-- `py_encode_basestring`. -/
def encodeString (s : PyStr) : PyStr :=
  0x22 :: (s.flatMap escapeChar ++ [0x22])

/-- `BACKSLASH.get(esc)`. -/
def backslash? (c : CodePoint) : Option CodePoint :=
  if c = 0x22 then some 0x22
  else if c = 0x5C then some 0x5C
  else if c = 0x2F then some 0x2F
  else if c = 0x62 then some 0x08
  else if c = 0x66 then some 0x0C
  else if c = 0x6E then some 0x0A
  else if c = 0x72 then some 0x0D
  else if c = 0x74 then some 0x09
  else none

/-- `_decode_uXXXX`. -/
def hexCode? (a b c d : CodePoint) : Option Nat := do
  let a ← a.hexDigit?
  let b ← b.hexDigit?
  let c ← c.hexDigit?
  let d ← d.hexDigit?
  pure (a * 4096 + b * 256 + c * 16 + d)

/-- The code point of an escape that was held back. -/
def heldBack : Option Nat → PyStr
  | none => []
  | some high => [Fin.ofNat 0x110000 high]

/-- What a `\uXXXX` escape adds behind a high surrogate that was held back, and what is
held back now: a high surrogate joins with an escaped low one that follows it. -/
def joinSurrogates (held : Option Nat) (code : Nat) : PyStr × Option Nat :=
  match held with
  | some high =>
    if 0xDC00 ≤ code ∧ code ≤ 0xDFFF then
      ([Fin.ofNat 0x110000 (0x10000 + (high - 0xD800) * 1024 + (code - 0xDC00))], none)
    else if 0xD800 ≤ code ∧ code ≤ 0xDBFF then (heldBack held, some code)
    else (heldBack held ++ [Fin.ofNat 0x110000 code], none)
  | none =>
    if 0xD800 ≤ code ∧ code ≤ 0xDBFF then ([], some code)
    else ([Fin.ofNat 0x110000 code], none)

/-- `scanstring` behind the opening quote, with the text behind the closing one; `none`
where it raises. -/
def scanString (held : Option Nat) (s : PyStr) : Option (PyStr × PyStr) :=
  match s with
  | [] => none
  | c :: rest =>
    if c = 0x22 then some (heldBack held, rest)
    else if c = 0x5C then
      match rest with
      | [] => none
      | esc :: rest =>
        if esc = 0x75 then
          match rest with
          | a :: b :: c :: d :: rest =>
            match hexCode? a b c d with
            | none => none
            | some code =>
              (scanString (joinSurrogates held code).2 rest).map fun r =>
                ((joinSurrogates held code).1 ++ r.1, r.2)
          | _ => none
        else
          match backslash? esc with
          | none => none
          | some c => (scanString none rest).map fun r => (heldBack held ++ c :: r.1, r.2)
    else if c.val < 0x20 then none
    else (scanString none rest).map fun r => (heldBack held ++ c :: r.1, r.2)
termination_by structural s

theorem scanString_quote (rest : PyStr) : scanString none (0x22 :: rest) = some ([], rest) := by
  rw [scanString.eq_def]
  exact if_pos rfl

/-- An escape of one letter. -/
theorem scanString_backslash {esc c : CodePoint} (hesc : backslash? esc = some c)
    (hu : esc ≠ 0x75) (rest : PyStr) :
    scanString none (0x5C :: esc :: rest) = (scanString none rest).map fun r => (c :: r.1, r.2) := by
  rw [scanString.eq_def]
  dsimp only
  rw [if_neg (by decide), if_pos rfl, if_neg hu, hesc]
  rfl

/-- One character of a string is read as it was written. -/
theorem scanString_escapeChar (c : CodePoint) (rest : PyStr) :
    scanString none (escapeChar c ++ rest) = (scanString none rest).map fun r => (c :: r.1, r.2) := by
  unfold escapeChar
  by_cases hquote : c = 0x22
  · rw [if_pos hquote, hquote]
    exact scanString_backslash rfl (by decide) rest
  rw [if_neg hquote]
  by_cases hbackslash : c = 0x5C
  · rw [if_pos hbackslash, hbackslash]
    exact scanString_backslash rfl (by decide) rest
  rw [if_neg hbackslash]
  by_cases hnewline : c = 0x0A
  · rw [if_pos hnewline, hnewline]
    exact scanString_backslash rfl (by decide) rest
  rw [if_neg hnewline]
  by_cases hreturn : c = 0x0D
  · rw [if_pos hreturn, hreturn]
    exact scanString_backslash rfl (by decide) rest
  rw [if_neg hreturn]
  by_cases htab : c = 0x09
  · rw [if_pos htab, htab]
    exact scanString_backslash rfl (by decide) rest
  rw [if_neg htab]
  by_cases hfeed : c = 0x0C
  · rw [if_pos hfeed, hfeed]
    exact scanString_backslash rfl (by decide) rest
  rw [if_neg hfeed]
  by_cases hback : c = 0x08
  · rw [if_pos hback, hback]
    exact scanString_backslash rfl (by decide) rest
  rw [if_neg hback]
  by_cases hcontrol : c.val < 0x20
  · have hcode : hexCode? 0x30 0x30 (.ofHexDigit (c.val / 16)) (.ofHexDigit (c.val % 16)) =
        some c.val := by
      rw [hexCode?, CodePoint.hexDigit?_ofHexDigit (by omega),
        CodePoint.hexDigit?_ofHexDigit (by omega)]
      change some (0 * 4096 + 0 * 256 + c.val / 16 * 16 + c.val % 16) = some c.val
      congr 1
      omega
    have hjoin : joinSurrogates none c.val = ([c], none) := by
      rw [joinSurrogates, if_neg (by omega)]
      congr 2
      apply Fin.ext
      rw [Fin.val_ofNat, Nat.mod_eq_of_lt c.isLt]
    rw [if_pos hcontrol]
    simp only [List.cons_append, List.nil_append]
    rw [scanString.eq_def]
    dsimp only
    rw [if_neg (by decide), if_pos rfl, if_pos rfl, hcode]
    dsimp only
    rw [hjoin]
    rfl
  · rw [if_neg hcontrol, List.cons_append, List.nil_append, scanString.eq_def]
    dsimp only
    rw [if_neg hquote, if_neg hbackslash, if_neg hcontrol]
    rfl

theorem scanString_flatMap (s rest : PyStr) :
    scanString none (s.flatMap escapeChar ++ 0x22 :: rest) = some (s, rest) := by
  induction s with
  | nil => exact scanString_quote rest
  | cons c s ih =>
    rw [List.flatMap_cons, List.append_assoc, scanString_escapeChar, ih]
    rfl

/-! ## Numbers -/

/-- The decimal digits of a number. -/
def decimal (n : Nat) : PyStr :=
  (Nat.toDigits 10 n).map fun c => Fin.ofNat 0x110000 c.toNat

/-- The number that decimal digits denote. -/
def ofDecimal (digits : PyStr) : Nat :=
  digits.foldl (fun n c => 10 * n + (c.val - 0x30)) 0

/-- `sys.int_info.default_max_str_digits`: the conversion between integers and text
refuses longer ones. -/
def maxStrDigits : Nat := 4300

/-- `int.__repr__`, or `none` where it raises. -/
def intRepr (i : Int) : Option PyStr :=
  let digits := decimal i.natAbs
  if digits.length > maxStrDigits then none
  else some (if i < 0 then 0x2D :: digits else digits)

/-- `int(text)` of a JSON number, or `none` where it raises. -/
def parseInt (text : PyStr) : Option Int :=
  match text with
  | 0x2D :: digits => if digits.length > maxStrDigits then none else some (-ofDecimal digits)
  | digits => if digits.length > maxStrDigits then none else some (ofDecimal digits)

/-- What `_match_number` takes from a text: whether it is a float, its characters, and
what is behind them. -/
structure NumberMatch where
  isFloat : Bool
  text : PyStr
  rest : PyStr
  deriving DecidableEq

/-- The fraction `\.\d+` at the start of a text, or nothing. -/
def matchFraction (s : PyStr) : PyStr × PyStr :=
  match s with
  | 0x2E :: rest =>
    let digits := rest.takeWhile CodePoint.isDigit
    if digits.isEmpty then ([], s) else (0x2E :: digits, rest.dropWhile CodePoint.isDigit)
  | _ => ([], s)

/-- The exponent `[eE][-+]?\d+` at the start of a text, or nothing. -/
def matchExponent (s : PyStr) : PyStr × PyStr :=
  match s with
  | e :: rest =>
    if e = 0x65 || e = 0x45 then
      let sign := rest.take 1 |>.filter fun c => c = 0x2B || c = 0x2D
      let digits := (rest.drop sign.length).takeWhile CodePoint.isDigit
      if digits.isEmpty then ([], s)
      else (e :: (sign ++ digits), (rest.drop sign.length).dropWhile CodePoint.isDigit)
    else ([], s)
  | [] => ([], s)

/-- The digits of the integer part `0|[1-9]\d*` at the start of a text. -/
def matchInteger (s : PyStr) : Option (PyStr × PyStr) :=
  match s with
  | c :: rest =>
    if c = 0x30 then some ([c], rest)
    else if c.isDigit then
      some (c :: rest.takeWhile CodePoint.isDigit, rest.dropWhile CodePoint.isDigit)
    else none
  | [] => none

/-- `_match_number`: `NUMBER_RE`, or `none` where it does not match. -/
def matchNumber (s : PyStr) : Option NumberMatch :=
  let sign := s.take 1 |>.filter fun c => c = 0x2D
  (matchInteger (s.drop sign.length)).map fun (digits, rest) =>
    let (fraction, rest) := matchFraction rest
    let (exponent, rest) := matchExponent rest
    { isFloat := !(fraction.isEmpty && exponent.isEmpty)
      text := sign ++ digits ++ fraction ++ exponent
      rest }

theorem takeWhile_digits {digits rest : PyStr} (hdigits : ∀ c ∈ digits, c.isDigit = true)
    (hrest : ∀ c ∈ rest.head?, c.isDigit = false) :
    (digits ++ rest).takeWhile CodePoint.isDigit = digits ∧
      (digits ++ rest).dropWhile CodePoint.isDigit = rest := by
  rw [List.takeWhile_append_of_pos hdigits, List.dropWhile_append_of_pos hdigits]
  cases rest with
  | nil => simp
  | cons c rest =>
    have hc : c.isDigit = false := hrest c rfl
    simp [hc]

/-- An integer part: `0`, or digits that do not start with it. -/
def IsIntegerPart (digits : PyStr) : Prop :=
  digits = [0x30] ∨
    ∃ c rest, digits = c :: rest ∧ c ≠ 0x30 ∧ ∀ d ∈ digits, d.isDigit = true

/-- A fraction, or nothing. -/
def IsFraction (text : PyStr) : Prop :=
  text = [] ∨ ∃ digits, digits ≠ [] ∧ text = 0x2E :: digits ∧ ∀ d ∈ digits, d.isDigit = true

/-- An exponent with or without a sign, or nothing. -/
def IsExponent (text : PyStr) : Prop :=
  text = [] ∨ ∃ sign digits, (sign = [] ∨ sign = [0x2B] ∨ sign = [0x2D]) ∧ digits ≠ [] ∧
    text = 0x65 :: (sign ++ digits) ∧ ∀ d ∈ digits, d.isDigit = true

/-- The parts of the text of a number. -/
structure IsNumber (sign digits fraction exponent : PyStr) : Prop where
  sign : sign = [] ∨ sign = [0x2D]
  digits : IsIntegerPart digits
  fraction : IsFraction fraction
  exponent : IsExponent exponent

/-- What is behind a number: nothing that goes on with it. -/
def EndsNumber (rest : PyStr) : Prop :=
  ∀ c ∈ rest.head?, c.isDigit = false ∧ c ≠ 0x2E ∧ c ≠ 0x65 ∧ c ≠ 0x45

theorem matchInteger_append {digits rest : PyStr} (h : IsIntegerPart digits)
    (hrest : ∀ c ∈ rest.head?, c.isDigit = false) :
    matchInteger (digits ++ rest) = some (digits, rest) := by
  rcases h with rfl | ⟨c, tail, rfl, hzero, hdigits⟩
  · rfl
  · obtain ⟨htake, hdrop⟩ := takeWhile_digits
      (fun d hd => hdigits d (List.mem_cons_of_mem c hd)) hrest
    rw [List.cons_append, matchInteger, if_neg hzero, if_pos (hdigits c List.mem_cons_self), htake,
      hdrop]

theorem matchFraction_append {fraction rest : PyStr} (h : IsFraction fraction)
    (hrest : ∀ c ∈ rest.head?, c.isDigit = false ∧ c ≠ 0x2E) :
    matchFraction (fraction ++ rest) = (fraction, rest) := by
  rcases h with rfl | ⟨digits, hne, rfl, hdigits⟩
  · cases rest with
    | nil => rfl
    | cons c rest =>
      unfold matchFraction
      split
      · next heq => exact absurd (List.cons.inj heq).1 (hrest c rfl).2
      · rfl
  · obtain ⟨htake, hdrop⟩ := takeWhile_digits hdigits (fun c hc => (hrest c hc).1)
    simp only [matchFraction, List.cons_append, htake, hdrop]
    rw [if_neg (by simpa using hne)]

theorem matchExponent_append {exponent rest : PyStr} (h : IsExponent exponent)
    (hrest : EndsNumber rest) : matchExponent (exponent ++ rest) = (exponent, rest) := by
  rcases h with rfl | ⟨sign, digits, hsign, hne, rfl, hdigits⟩
  · cases rest with
    | nil => rfl
    | cons c rest =>
      obtain ⟨-, -, hlower, hupper⟩ := hrest c rfl
      rw [List.nil_append, matchExponent, if_neg (by simp [hlower, hupper])]
  · obtain ⟨htake, hdrop⟩ := takeWhile_digits hdigits (fun c hc => (hrest c hc).1)
    obtain ⟨d, tail, rfl⟩ := List.exists_cons_of_ne_nil hne
    have hd : d.isDigit = true := hdigits d List.mem_cons_self
    have hplain : d ≠ 0x2B ∧ d ≠ 0x2D := by
      constructor <;> (rintro rfl; revert hd; decide)
    rw [List.cons_append, matchExponent, if_pos (by decide)]
    rcases hsign with rfl | rfl | rfl
    · simp only [List.nil_append, List.cons_append] at htake hdrop ⊢
      simp [hplain, htake, hdrop]
    · simp only [List.nil_append, List.cons_append] at htake hdrop ⊢
      simp [htake, hdrop]
    · simp only [List.nil_append, List.cons_append] at htake hdrop ⊢
      simp [htake, hdrop]

/-- The text of a number is taken whole. -/
theorem matchNumber_append {sign digits fraction exponent rest : PyStr}
    (h : IsNumber sign digits fraction exponent) (hrest : EndsNumber rest) :
    matchNumber (sign ++ digits ++ fraction ++ exponent ++ rest) = some {
      isFloat := !(fraction.isEmpty && exponent.isEmpty)
      text := sign ++ digits ++ fraction ++ exponent
      rest } := by
  have hexponent : ∀ c ∈ (exponent ++ rest).head?, c.isDigit = false ∧ c ≠ 0x2E := by
    rcases h.exponent with rfl | ⟨esign, edigits, -, -, rfl, -⟩
    · intro c hc
      exact ⟨(hrest c hc).1, (hrest c hc).2.1⟩
    · rintro c ⟨⟩
      decide
  have hfraction : ∀ c ∈ (fraction ++ (exponent ++ rest)).head?, c.isDigit = false := by
    rcases h.fraction with rfl | ⟨fdigits, -, rfl, -⟩
    · intro c hc
      exact (hexponent c hc).1
    · rintro c ⟨⟩
      decide
  have hinteger := matchInteger_append h.digits hfraction
  have hsign : ((sign ++ (digits ++ (fraction ++ (exponent ++ rest)))).take 1).filter
      (fun c => c = 0x2D) = sign := by
    rcases h.sign with rfl | rfl
    · rcases h.digits with rfl | ⟨c, tail, rfl, hzero, hdigits⟩
      · rfl
      · have hc : c ≠ 0x2D := by
          rintro rfl
          exact absurd (hdigits _ List.mem_cons_self) (by decide)
        simp [hc]
    · rfl
  simp only [List.append_assoc]
  rw [matchNumber, hsign, List.drop_left, hinteger]
  simp only [Option.map_some, matchFraction_append h.fraction hexponent,
    matchExponent_append h.exponent hrest, List.append_assoc]

theorem charCode_val (c : Char) : (Fin.ofNat 0x110000 c.toNat).val = c.toNat := by
  rw [Fin.val_ofNat]
  apply Nat.mod_eq_of_lt
  rcases c.valid with h | h
  · exact Nat.lt_trans h (by decide)
  · exact h.2

theorem decimal_zero : decimal 0 = [0x30] := rfl

theorem decimal_isDigit {n : Nat} {c : CodePoint} (h : c ∈ decimal n) : c.isDigit = true := by
  obtain ⟨d, hd, rfl⟩ := List.mem_map.mp h
  have hdigit : d.isDigit = true := Nat.isDigit_of_mem_toDigits (by decide) (by decide) hd
  rw [CodePoint.isDigit, charCode_val]
  simp only [Char.isDigit, Bool.and_eq_true, decide_eq_true_eq] at hdigit ⊢
  exact ⟨UInt32.le_iff_toNat_le.mp hdigit.1, UInt32.le_iff_toNat_le.mp hdigit.2⟩

theorem ofDecimal_decimal (n : Nat) : ofDecimal (decimal n) = n := by
  have hfold := Nat.ofDigitChars_ten_toDigits (n := n)
  rw [Nat.ofDigitChars_eq_foldl] at hfold
  rw [ofDecimal, decimal, List.foldl_map]
  simp only [charCode_val]
  exact hfold

theorem decimal_ne_nil (n : Nat) : decimal n ≠ [] := by
  simp [decimal]

/-- The digits of a positive number do not start with zero. -/
theorem decimal_head {n : Nat} (hn : 0 < n) : ∀ c ∈ (decimal n).head?, c ≠ 0x30 := by
  induction n using Nat.strongRecOn with
  | _ n ih =>
    by_cases hten : n < 10
    · have hdigits : decimal n = [Fin.ofNat 0x110000 n.digitChar.toNat] := by
        rw [decimal, Nat.toDigits_of_lt_base hten, List.map_singleton]
      rw [hdigits]
      rintro c ⟨⟩
      interval_cases n <;> decide
    · have hdigits : decimal n =
          decimal (n / 10) ++ [Fin.ofNat 0x110000 (Nat.digitChar (n % 10)).toNat] := by
        rw [decimal, Nat.toDigits_of_base_le (by decide) (by omega), List.map_append,
          List.map_singleton, decimal]
      rw [hdigits, List.head?_append_of_ne_nil _ (decimal_ne_nil _)]
      exact ih (n / 10) (by omega) (by omega)

theorem isIntegerPart_decimal (n : Nat) : IsIntegerPart (decimal n) := by
  rcases Nat.eq_zero_or_pos n with rfl | hn
  · exact Or.inl decimal_zero
  · apply Or.inr
    obtain ⟨c, rest, hcons⟩ := List.exists_cons_of_ne_nil (decimal_ne_nil n)
    refine ⟨c, rest, hcons, ?_, ?_⟩
    · apply decimal_head hn
      rw [hcons]
      rfl
    · intro d hd
      exact decimal_isDigit hd

/-- The parts of the text of an integer. -/
theorem intRepr_isNumber {i : Int} {text : PyStr} (h : intRepr i = some text) :
    ∃ sign, text = sign ++ decimal i.natAbs ∧ IsNumber sign (decimal i.natAbs) [] [] := by
  unfold intRepr at h
  dsimp only at h
  split at h
  · cases h
  · cases h
    by_cases hnegative : i < 0
    · rw [if_pos hnegative]
      exact ⟨[0x2D], rfl, Or.inr rfl, isIntegerPart_decimal _, Or.inl rfl, Or.inl rfl⟩
    · rw [if_neg hnegative]
      exact ⟨[], rfl, Or.inl rfl, isIntegerPart_decimal _, Or.inl rfl, Or.inl rfl⟩

/-- Reading undoes writing. -/
theorem parseInt_intRepr {i : Int} {text : PyStr} (h : intRepr i = some text) :
    parseInt text = some i := by
  unfold intRepr at h
  dsimp only at h
  split at h
  · cases h
  · next hlength =>
    cases h
    by_cases hnegative : i < 0
    · rw [if_pos hnegative, parseInt, if_neg hlength, ofDecimal_decimal]
      congr 1
      omega
    · have hplain : ∀ rest, decimal i.natAbs ≠ 0x2D :: rest := by
        intro rest hcons
        have hminus : (0x2D : CodePoint) ∈ decimal i.natAbs := by
          rw [hcons]
          exact List.mem_cons_self
        exact absurd (decimal_isDigit hminus) (by decide)
      rw [if_neg hnegative]
      unfold parseInt
      split
      · next heq => exact absurd heq (hplain _)
      · rw [if_neg hlength, ofDecimal_decimal]
        congr 1
        omega

/-! ## Floats -/

/-- A finite number of IEEE 754 double precision. -/
def IsDouble (q : Rat) : Prop :=
  ∃ m e : Int, |m| < 2 ^ 53 ∧ -1074 ≤ e ∧ e ≤ 971 ∧ q = m * 2 ^ e

/-- The conversions between floats and text. -/
structure FloatText where
  /-- `float.__repr__` of a finite float. -/
  repr : Rat → PyStr
  /-- `float(text)`. -/
  parse : PyStr → PyFloat
  /-- The text of a float is a decimal with a fraction or an exponent. -/
  repr_number : ∀ q, IsDouble q → ∃ sign digits fraction exponent,
    repr q = sign ++ digits ++ fraction ++ exponent ∧ IsNumber sign digits fraction exponent ∧
      (fraction ≠ [] ∨ exponent ≠ [])
  /-- The text of a float is read as that float. -/
  parse_repr : ∀ q, IsDouble q → parse (repr q) = .finite q

/-- A power of two times a large enough power of ten is whole. -/
theorem scaled_eq_natCast (m : Int) (n k : Nat) :
    |(m : Rat) * 2 ^ ((n : Int) - k)| * (10 ^ k : Nat) = ((m.natAbs * 2 ^ n * 5 ^ k : Nat) : Rat) := by
  have hten : ((10 ^ k : Nat) : Rat) = 2 ^ k * 5 ^ k := by
    rw [← mul_pow]
    norm_num
  have habs : |(m : Rat)| = (m.natAbs : Rat) := by
    rw [← Int.cast_abs, Int.abs_eq_natAbs, Int.cast_natCast]
  have hpos : (0 : Rat) < 2 ^ ((n : Int) - k) := zpow_pos (by norm_num) _
  rw [hten, abs_mul, habs, abs_of_pos hpos, zpow_sub₀ (by norm_num)]
  push_cast
  field_simp
  simp only [zpow_natCast]
  ring

/-- The least exponent of a float, as a power of ten. -/
def floatScale : Nat := 10 ^ 1074

theorem IsDouble.scaled {q : Rat} (h : IsDouble q) :
    |q| * floatScale = ((|q| * floatScale).num.natAbs : Rat) := by
  obtain ⟨m, e, -, he, -, rfl⟩ := h
  obtain ⟨n, rfl⟩ : ∃ n : Nat, e = n - (1074 : Nat) := ⟨(e + 1074).toNat, by omega⟩
  rw [floatScale, scaled_eq_natCast, Rat.num_natCast, Int.natAbs_natCast]

/-- Floats written out exactly in decimal notation, which is enough to run the model. -/
def exactFloatText : FloatText where
  repr q := (if q < 0 then [0x2D] else []) ++ decimal (|q| * floatScale).num.natAbs ++ [] ++
    (0x65 :: ([0x2D] ++ decimal 1074))
  parse text :=
    let digits := if text.head? = some 0x2D then text.tail else text
    let size : Rat := ofDecimal (digits.takeWhile CodePoint.isDigit) / floatScale
    .finite (if text.head? = some 0x2D then -size else size)
  repr_number q _ := by
    refine ⟨_, _, _, _, rfl, ⟨?_, isIntegerPart_decimal _, Or.inl rfl, ?_⟩, Or.inr (by simp)⟩
    · split
      · exact Or.inr rfl
      · exact Or.inl rfl
    · exact Or.inr ⟨[0x2D], decimal 1074, Or.inr (Or.inr rfl), decimal_ne_nil _, rfl,
        fun _ hd => decimal_isDigit hd⟩
  parse_repr q hq := by
    have hscale : (floatScale : Rat) ≠ 0 := by
      rw [floatScale, Nat.cast_ne_zero]
      exact pow_ne_zero _ (by decide)
    have hsize : ((|q| * floatScale).num.natAbs : Rat) / floatScale = |q| := by
      rw [← hq.scaled, mul_div_assoc, div_self hscale, mul_one]
    generalize (|q| * floatScale).num.natAbs = n at hsize
    have htake : (decimal n ++ 0x65 :: ([0x2D] ++ decimal 1074)).takeWhile CodePoint.isDigit =
        decimal n := by
      apply (takeWhile_digits (fun _ hd => decimal_isDigit hd) _).1
      rintro c ⟨⟩
      rfl
    have hplain : (decimal n ++ 0x65 :: ([0x2D] ++ decimal 1074)).head? ≠ some 0x2D := by
      intro hminus
      rw [List.head?_append_of_ne_nil _ (decimal_ne_nil n)] at hminus
      exact absurd (decimal_isDigit (List.mem_of_mem_head? hminus)) (by decide)
    dsimp only
    rw [List.append_nil]
    by_cases hnegative : q < 0
    · rw [if_pos hnegative, List.append_assoc, List.singleton_append, List.head?_cons, if_pos rfl,
        List.tail_cons, if_pos rfl, htake, ofDecimal_decimal, hsize, abs_of_neg hnegative, neg_neg]
    · rw [if_neg hnegative, List.nil_append, if_neg hplain, if_neg hplain, htake, ofDecimal_decimal,
        hsize, abs_of_nonneg (not_lt.mp hnegative)]

end HermesClaude.Python
