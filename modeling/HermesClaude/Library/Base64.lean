/-
# Base 64

Three bytes are four digits; one or two bytes at the end are two or three digits, filled up to
four with padding.  A decoder that ignores the spare bits of the last digit accepts several
texts for the same bytes, of which the encoder writes one.

Nothing here refers to a particular program.
-/

import Mathlib.Data.List.Basic

namespace HermesClaude.Library

universe u

/-- The digits of an encoding and its padding. -/
structure Base64Alphabet (α : Type u) where
  digit : Fin 64 → α
  pad : α
  digit_injective : Function.Injective digit
  digit_ne_pad : ∀ i, digit i ≠ pad

namespace Base64Alphabet

variable {α : Type u} (alphabet : Base64Alphabet α)

/-- The digit for the lowest six bits of a number. -/
def digitOf (n : Nat) : α := alphabet.digit (Fin.ofNat 64 n)

/-- The four digits of three bytes. -/
def fourDigits (a b c : UInt8) : List α :=
  let n := a.toNat * 65536 + b.toNat * 256 + c.toNat
  [n / 262144, n / 4096, n / 64, n].map alphabet.digitOf

/-- The encoding of some bytes. -/
def encode : List UInt8 → List α
  | [] => []
  | [a] => (alphabet.fourDigits a 0 0).take 2 ++ [alphabet.pad, alphabet.pad]
  | [a, b] => (alphabet.fourDigits a b 0).take 3 ++ [alphabet.pad]
  | a :: b :: c :: rest => alphabet.fourDigits a b c ++ encode rest

variable {alphabet}

/-! ## The encoder -/

/-- Four characters for every three bytes that are begun. -/
theorem length_encode (alphabet : Base64Alphabet α) (data : List UInt8) :
    (alphabet.encode data).length = (data.length + 2) / 3 * 4 := by
  induction data using encode.induct with
  | case1 => rfl
  | case2 a => simp [encode, fourDigits]
  | case3 a b => simp [encode, fourDigits]
  | case4 a b c rest ih =>
    rw [encode, List.length_append, ih, fourDigits]
    simp only [List.length_map, List.length_cons, List.length_nil]
    omega

theorem encode_ne_nil {data : List UInt8} (h : data ≠ []) : alphabet.encode data ≠ [] := by
  intro hempty
  have hlength := length_encode alphabet data
  rw [hempty, List.length_nil] at hlength
  have hpositive : 0 < data.length := List.length_pos_iff.mpr h
  omega

/-- Behind the digits there are at most two characters of padding. -/
theorem dropWhile_encode {isDigit : α → Bool} (hdigit : ∀ i, isDigit (alphabet.digit i) = true)
    (hpad : isDigit alphabet.pad = false) (data : List UInt8) :
    ∃ count ≤ 2, (alphabet.encode data).dropWhile isDigit = List.replicate count alphabet.pad := by
  induction data using encode.induct with
  | case1 => exact ⟨0, by omega, rfl⟩
  | case2 a => exact ⟨2, by omega, by simp [encode, fourDigits, digitOf, hdigit, hpad]⟩
  | case3 a b => exact ⟨1, by omega, by simp [encode, fourDigits, digitOf, hdigit, hpad]⟩
  | case4 a b c rest ih =>
    rcases ih with ⟨count, hcount, hrest⟩
    exact ⟨count, hcount, by simp [encode, fourDigits, digitOf, hdigit, hrest]⟩

/-! ## The decoder -/

variable [DecidableEq α] (alphabet)

/-- The value of a digit. -/
def value? (d : α) : Option (Fin 64) := (List.finRange 64).find? fun i => alphabet.digit i = d

/-- The bytes of four digits, of which the last may be missing. -/
def threeBytes (p q r s : Fin 64) : List UInt8 :=
  let n := p.val * 262144 + q.val * 4096 + r.val * 64 + s.val
  [UInt8.ofNat (n / 65536), UInt8.ofNat (n / 256), UInt8.ofNat n]

/-- The bytes of an encoding, or `none` for a text that is none; spare bits are ignored. -/
def decode : List α → Option (List UInt8)
  | [] => some []
  | p :: q :: r :: s :: rest => do
    let first ← alphabet.value? p
    let second ← alphabet.value? q
    if r = alphabet.pad then
      if s = alphabet.pad ∧ rest = [] then some ((threeBytes first second 0 0).take 1) else none
    else
      let third ← alphabet.value? r
      if s = alphabet.pad then
        if rest = [] then some ((threeBytes first second third 0).take 2) else none
      else
        let fourth ← alphabet.value? s
        let others ← decode rest
        some (threeBytes first second third fourth ++ others)
  | _ => none

variable {alphabet}

theorem value?_digit (i : Fin 64) : alphabet.value? (alphabet.digit i) = some i := by
  unfold value?
  cases hfound : (List.finRange 64).find? fun j => alphabet.digit j = alphabet.digit i with
  | none =>
    have hnot := List.find?_eq_none.mp hfound i (List.mem_finRange i)
    simp at hnot
  | some j =>
    have hsame : alphabet.digit j = alphabet.digit i := by simpa using List.find?_some hfound
    rw [alphabet.digit_injective hsame]

theorem value?_digitOf (n : Nat) : alphabet.value? (alphabet.digitOf n) = some (Fin.ofNat 64 n) :=
  value?_digit _

omit [DecidableEq α] in
theorem digitOf_ne_pad (n : Nat) : alphabet.digitOf n ≠ alphabet.pad := alphabet.digit_ne_pad _

/-- Four digits are read as the three bytes that they were written for. -/
theorem threeBytes_digits (a b c : UInt8) :
    let n := a.toNat * 65536 + b.toNat * 256 + c.toNat
    threeBytes (Fin.ofNat 64 (n / 262144)) (Fin.ofNat 64 (n / 4096)) (Fin.ofNat 64 (n / 64))
      (Fin.ofNat 64 n) = [a, b, c] := by
  intro n
  have ha : a.toNat < 256 := a.toNat_lt
  have hb : b.toNat < 256 := b.toNat_lt
  have hc : c.toNat < 256 := c.toNat_lt
  have hn : (n / 262144 % 64) * 262144 + (n / 4096 % 64) * 4096 + (n / 64 % 64) * 64 + n % 64 = n := by
    omega
  have hbyte : ∀ (x : UInt8) (m : Nat), m % 256 = x.toNat → UInt8.ofNat m = x := by
    intro x m hm
    apply UInt8.toNat_inj.mp
    rw [UInt8.toNat_ofNat', hm]
  rw [threeBytes]
  simp only [Fin.val_ofNat, hn]
  rw [hbyte a (n / 65536) (by omega), hbyte b (n / 256) (by omega), hbyte c n (by omega)]

/-- **Round trip.** Decoding undoes encoding. -/
theorem decode_encode (data : List UInt8) : alphabet.decode (alphabet.encode data) = some data := by
  induction data using encode.induct with
  | case1 => simp [encode, decode]
  | case2 a =>
    have hbytes := threeBytes_digits a 0 0
    -- the third and fourth digit of a single byte are zero
    have hthird : Fin.ofNat 64 (a.toNat * 65536 / 64) = 0 := by
      apply Fin.ext
      simp only [Fin.val_ofNat]
      omega
    have hfourth : Fin.ofNat 64 (a.toNat * 65536) = 0 := by
      apply Fin.ext
      simp only [Fin.val_ofNat]
      omega
    simp only [UInt8.toNat_zero, Nat.zero_mul, Nat.add_zero, hthird, hfourth] at hbytes
    simp only [encode, fourDigits, UInt8.toNat_zero, Nat.zero_mul, Nat.add_zero, List.map_cons, List.map_nil,
      List.take_succ_cons, List.take_zero, List.cons_append, List.nil_append, decode, value?_digitOf,
      and_self, ↓reduceIte, Option.bind_eq_bind, Option.bind_some, hbytes]
  | case3 a b =>
    have hbytes := threeBytes_digits a b 0
    have hfourth : Fin.ofNat 64 (a.toNat * 65536 + b.toNat * 256) = 0 := by
      apply Fin.ext
      simp only [Fin.val_ofNat]
      omega
    simp only [UInt8.toNat_zero, Nat.add_zero, hfourth] at hbytes
    simp only [encode, fourDigits, UInt8.toNat_zero, Nat.add_zero, List.map_cons, List.map_nil,
      List.take_succ_cons, List.take_zero, List.cons_append, List.nil_append, decode, value?_digitOf,
      digitOf_ne_pad, ↓reduceIte, Option.bind_eq_bind, Option.bind_some, hbytes]
  | case4 a b c rest ih =>
    have hbytes := threeBytes_digits a b c
    simp only [encode, fourDigits, List.map_cons, List.map_nil, List.cons_append, List.nil_append, decode,
      value?_digitOf, digitOf_ne_pad, ↓reduceIte, ih, Option.bind_eq_bind, Option.bind_some, hbytes]

end Base64Alphabet

end HermesClaude.Library
