/-
# Patterns

The pieces of `re` patterns over Python text.  Under `re.IGNORECASE` a letter also matches the
characters outside ASCII that are its other case.

Which characters `\w` matches belongs to the Unicode database, of which only the ASCII part is
fixed here.
-/

import HermesClaude.Library.RegexLetters
import HermesClaude.Python.Text

namespace HermesClaude.Python

open HermesClaude.Library

/-- What patterns rely on from the Unicode database. -/
structure WordDatabase extends UnicodeDatabase where
  /-- `\w`. -/
  isWord : CodePoint → Bool
  /-- Among ASCII characters exactly the letters, the digits and the underscore. -/
  isWord_ascii : ∀ c : CodePoint, c.val < 128 → isWord c =
    ((0x41 ≤ c.val && c.val ≤ 0x5A) || (0x61 ≤ c.val && c.val ≤ 0x7A) ||
      (0x30 ≤ c.val && c.val ≤ 0x39) || c.val == 0x5F)

/-- The database restricted to ASCII. -/
def asciiWordDatabase : WordDatabase where
  toUnicodeDatabase := asciiDatabase
  isWord c := (0x41 ≤ c.val && c.val ≤ 0x5A) || (0x61 ≤ c.val && c.val ≤ 0x7A) ||
    (0x30 ≤ c.val && c.val ≤ 0x39) || c.val == 0x5F
  isWord_ascii _ _ := rfl

/-- A regular expression over Python text. -/
abbrev Pattern := Regex CodePoint

namespace Pattern

/-- A letter under `re.IGNORECASE`: `i`, `s` and `k` have further cases. -/
def caseless (letter c : CodePoint) : Bool :=
  letter.asciiLower == c.asciiLower ||
    (letter.asciiLower == 0x69 && (c == 0x130 || c == 0x131)) ||
    (letter.asciiLower == 0x73 && c == 0x17F) || (letter.asciiLower == 0x6B && c == 0x212A)

/-- These letters, one after the other. -/
def letters : PyStr → Pattern
  | [] => .empty
  | c :: rest => .seq (.one (caseless c)) (letters rest)

/-- A word of the source. -/
def word (text : String) : Pattern := letters (lit text)

/-- `?` -/
def optional (r : Pattern) : Pattern := .alt r .empty

/-- A class that lists its characters. -/
def anyOf (text : String) (c : CodePoint) : Bool := (lit text).elem c

/-- A class that excludes some characters. -/
def noneOf (text : String) (c : CodePoint) : Bool := !anyOf text c

/-- The alternatives, in their order. -/
def anyWord : List Pattern → Pattern
  | [] => .empty
  | [r] => r
  | r :: rest => .alt r (anyWord rest)

variable {isWord : CodePoint → Bool} {cs rest : PyStr} {prev : Option CodePoint}

theorem caseless_self (c : CodePoint) : caseless c c = true := by
  rw [caseless, beq_self_eq_true]
  rfl

/-- A word matches itself. -/
theorem ends_letters : Regex.ends isWord (letters cs) prev (cs ++ rest) = [cs.length] := by
  induction cs generalizing prev with
  | nil => rfl
  | cons c cs ih =>
    rw [letters, Regex.ends, Regex.ends, List.cons_append, List.head?_cons, Option.any_some,
      if_pos (caseless_self c), List.flatMap_singleton, List.drop_one, List.tail_cons, ih,
      List.map_singleton, List.length_cons, Nat.add_comm]

theorem length_of_lang_letters {w : PyStr} (h : Regex.Lang (letters cs) w) : w.length = cs.length := by
  induction cs generalizing w with
  | nil =>
    rw [letters, Regex.Lang] at h
    rw [h]
  | cons c cs ih =>
    rcases h with ⟨u, v, rfl, ⟨d, -, rfl⟩, hv⟩
    rw [List.length_append, ih hv, List.length_singleton, List.length_cons, Nat.add_comm]

theorem settled_letters (cs : PyStr) : Regex.Settled (letters cs) := by
  induction cs with
  | nil => exact .empty
  | cons c cs ih => exact .seq (.one _) ih

theorem settled_optional {r : Pattern} (h : Regex.Settled r) : Regex.Settled (optional r) :=
  .alt h .empty

theorem settled_anyWord {rs : List Pattern} (h : ∀ r ∈ rs, Regex.Settled r) :
    Regex.Settled (anyWord rs) := by
  induction rs with
  | nil => exact .empty
  | cons r rs ih =>
    rw [List.forall_mem_cons] at h
    cases rs with
    | nil => exact h.1
    | cons s rs => exact .alt h.1 (ih h.2)

end Pattern

end HermesClaude.Python
