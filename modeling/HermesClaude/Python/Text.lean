/-
# Python text

A Python `str` is a sequence of code points, and a code point may be a lone
surrogate, which Lean's `Char` excludes.  The adapter's validators look at code
points one at a time, compare whole strings with ASCII literals, and measure
UTF-8 sizes that do not exist for surrogates, so text is a list of code points
here and nothing is lost.

Whitespace is the fixed set that `str.strip`, `str.split` and `str.isspace`
share.  The general category and the lower-case mapping belong to a versioned
Unicode database, of which the model keeps only what the code relies on.
-/

import Mathlib.Algebra.GroupWithZero.Nat
import Mathlib.Data.List.Basic

namespace HermesClaude.Python

/-- A code point: any value below `0x110000`, lone surrogates included. -/
abbrev CodePoint := Fin 0x110000

/-- A Python `str`. -/
abbrev PyStr := List CodePoint

instance neZero_codePoint : NeZero 0x110000 := ⟨by decide⟩

instance : LawfulBEq CodePoint := inferInstance

instance : LawfulBEq PyStr := inferInstance

/-- The Python value of a literal of the source. -/
def lit (text : String) : PyStr :=
  text.toList.map fun c => Fin.ofNat 0x110000 c.toNat

theorem toNat_lt_of_char (c : Char) : c.toNat < 0x110000 := by
  rcases c.valid with h | h
  · exact Nat.lt_trans h (by decide)
  · exact h.2

/-- Different literals are different values. -/
theorem lit_injective : Function.Injective lit := by
  intro a b h
  apply String.ext
  apply List.map_injective_iff.mpr _ h
  intro c d hcd
  have hval : c.toNat % 0x110000 = d.toNat % 0x110000 := congrArg Fin.val hcd
  rw [Nat.mod_eq_of_lt (toNat_lt_of_char c), Nat.mod_eq_of_lt (toNat_lt_of_char d)] at hval
  exact Char.toNat_inj.mp hval

namespace CodePoint

/-- `char.isspace()`: the white space that `strip` and `split` remove. -/
def isSpace (c : CodePoint) : Bool :=
  let n := c.val
  (0x09 ≤ n && n ≤ 0x0D) || (0x1C ≤ n && n ≤ 0x20) || n == 0x85 || n == 0xA0 ||
    n == 0x1680 || (0x2000 ≤ n && n ≤ 0x200A) || n == 0x2028 || n == 0x2029 ||
    n == 0x202F || n == 0x205F || n == 0x3000

/-- `ord(character) < 32 or ord(character) == 127`. -/
def isAsciiControl (c : CodePoint) : Bool :=
  c.val < 32 || c.val == 127

/-- A lone surrogate, which has no UTF-8 encoding. -/
def isSurrogate (c : CodePoint) : Bool :=
  0xD800 ≤ c.val && c.val < 0xE000

/-- The number of bytes of the UTF-8 encoding of a code point. -/
def utf8Width (c : CodePoint) : Nat :=
  if c.val < 0x80 then 1 else if c.val < 0x800 then 2 else if c.val < 0x10000 then 3 else 4

/-- ASCII letters, digits and the punctuation of an identifier:
the class `[A-Za-z0-9_.:-]`. -/
def isIdentifier (c : CodePoint) : Bool :=
  let n := c.val
  (0x41 ≤ n && n ≤ 0x5A) || (0x61 ≤ n && n ≤ 0x7A) || (0x30 ≤ n && n ≤ 0x39) ||
    n == 0x5F || n == 0x2E || n == 0x3A || n == 0x2D

/-- Lower case of an ASCII letter; every other code point is unchanged. -/
def asciiLower (c : CodePoint) : CodePoint :=
  if 0x41 ≤ c.val ∧ c.val ≤ 0x5A then Fin.ofNat 0x110000 (c.val + 32) else c

/-- An identifier character is never white space. -/
theorem isSpace_eq_false_of_isIdentifier {c : CodePoint} (h : c.isIdentifier = true) :
    c.isSpace = false := by
  simp only [isIdentifier, isSpace, Bool.or_eq_true, Bool.and_eq_true, decide_eq_true_eq,
    beq_iff_eq, Bool.or_eq_false_iff, Bool.and_eq_false_iff, decide_eq_false_iff_not,
    beq_eq_false_iff_ne] at h ⊢
  omega

end CodePoint

/-- `value.lstrip()`. -/
def lstrip (s : PyStr) : PyStr := s.dropWhile CodePoint.isSpace

/-- `value.rstrip()`. -/
def rstrip (s : PyStr) : PyStr := (s.reverse.dropWhile CodePoint.isSpace).reverse

/-- `value.strip()`. -/
def strip (s : PyStr) : PyStr := rstrip (lstrip s)

/-- `_utf8_size`: the length of the UTF-8 encoding, or `none` when a lone
surrogate makes the encoding fail. -/
def utf8Size (s : PyStr) : Option Nat :=
  if s.any CodePoint.isSurrogate then none else some (s.map CodePoint.utf8Width).sum

/-- What the adapter relies on from the Unicode database of its Python. -/
structure UnicodeDatabase where
  /-- `unicodedata.category(char).startswith("C")`. -/
  isOther : CodePoint → Bool
  /-- `str.lower`. -/
  lower : PyStr → PyStr
  /-- Among ASCII characters exactly the controls are in a `C` category. -/
  isOther_ascii : ∀ c : CodePoint, c.val < 128 → isOther c = c.isAsciiControl
  /-- Surrogates are in category `Cs`. -/
  isOther_surrogate : ∀ c : CodePoint, c.isSurrogate = true → isOther c = true
  /-- ASCII text is lowered letter by letter. -/
  lower_ascii : ∀ s : PyStr, (∀ c ∈ s, c.val < 128) → lower s = s.map CodePoint.asciiLower

/-- The database restricted to ASCII, which is enough to run the model on the
literals of the source. -/
def asciiDatabase : UnicodeDatabase where
  isOther c := c.isAsciiControl || c.isSurrogate
  lower s := s.map CodePoint.asciiLower
  isOther_ascii c hc := by
    have : c.isSurrogate = false := by
      simp only [CodePoint.isSurrogate, Bool.and_eq_false_iff, decide_eq_false_iff_not]
      omega
    simp [this]
  isOther_surrogate c hc := by simp [hc]
  lower_ascii _ _ := rfl

/-! ## Stripping -/

/-- Text without white space at either end is left alone. -/
theorem strip_eq_self {s : PyStr} (h : ∀ c ∈ s, c.isSpace = false) : strip s = s := by
  have hleft : lstrip s = s := by
    cases s with
    | nil => rfl
    | cons c rest => simp [lstrip, h c]
  have hright : rstrip s = s := by
    have hrev : s.reverse.dropWhile CodePoint.isSpace = s.reverse := by
      cases hs : s.reverse with
      | nil => rfl
      | cons c rest =>
        have hc : c ∈ s := by
          rw [← List.mem_reverse, hs]
          exact List.mem_cons_self
        simp [h c hc]
    rw [rstrip, hrev, List.reverse_reverse]
  rw [strip, hleft, hright]

/-- A trailing blank is removed again. -/
theorem strip_append_space {s : PyStr} (h : ∀ c ∈ s, c.isSpace = false) :
    strip (s ++ lit " ") = s := by
  cases s with
  | nil => decide
  | cons c rest =>
    have hblank : (lit " ").all CodePoint.isSpace = true := by decide
    have hleft : lstrip (c :: rest ++ lit " ") = c :: rest ++ lit " " := by
      simp [lstrip, h c]
    have hreverse : (lit " ").reverse = [0x20] := by decide
    have hspace : CodePoint.isSpace 0x20 = true := by decide
    have htail := strip_eq_self h
    rw [strip, hleft, rstrip, List.reverse_append, hreverse]
    simp only [List.cons_append, List.nil_append, List.dropWhile_cons, hspace, if_true]
    have hright : rstrip (c :: rest) = c :: rest := by
      have : lstrip (c :: rest) = c :: rest := by simp [lstrip, h c]
      rwa [strip, this] at htail
    exact hright

end HermesClaude.Python
