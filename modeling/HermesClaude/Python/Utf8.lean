/-
# UTF-8

`str.encode("utf-8")` and `bytes.decode("utf-8")`.  A lone surrogate has no encoding; the
error handler `surrogatepass`, which `json.loads` decodes with, reads the three bytes it
would have had.
-/

import HermesClaude.Python.Text

namespace HermesClaude.Python

/-- A Python `bytes`. -/
abbrev Bytes := List UInt8

namespace CodePoint

/-- A byte of an encoding. -/
def byte (n : Nat) : UInt8 := UInt8.ofNat n

/-- The bytes of a code point, also of a surrogate. -/
def utf8Bytes (c : CodePoint) : Bytes :=
  let n := c.val
  if n < 0x80 then [byte n]
  else if n < 0x800 then [byte (0xC0 + n / 64), byte (0x80 + n % 64)]
  else if n < 0x10000 then
    [byte (0xE0 + n / 4096), byte (0x80 + n / 64 % 64), byte (0x80 + n % 64)]
  else
    [byte (0xF0 + n / 262144), byte (0x80 + n / 4096 % 64), byte (0x80 + n / 64 % 64),
      byte (0x80 + n % 64)]

theorem length_utf8Bytes (c : CodePoint) : c.utf8Bytes.length = c.utf8Width := by
  unfold utf8Bytes utf8Width
  dsimp only
  split
  · rfl
  · split
    · rfl
    · split <;> rfl

end CodePoint

/-- `text.encode("utf-8")`, or `none` where it raises `UnicodeEncodeError`. -/
def encodeUtf8 (text : PyStr) : Option Bytes :=
  if text.any CodePoint.isSurrogate then none else some (text.flatMap CodePoint.utf8Bytes)

/-- `utf8Size` measures the encoding. -/
theorem encodeUtf8_length (text : PyStr) : (encodeUtf8 text).map List.length = utf8Size text := by
  unfold encodeUtf8 utf8Size
  split
  · rfl
  · rw [Option.map_some, List.length_flatMap]
    simp only [CodePoint.length_utf8Bytes]

/-- The code point of a decoded number. -/
def CodePoint.ofDecoded (n : Nat) : CodePoint := Fin.ofNat 0x110000 n

/-- A byte that continues a character. -/
def isContinuation (b : UInt8) : Bool := 0x80 ≤ b.toNat && b.toNat < 0xC0

/-- Decoding goes on inside a character: so many bytes are missing, the bits so far, and
the least number that may be written with so many bytes. -/
def decodeFrom (surrogatepass : Bool) : Nat → Nat → Nat → Bytes → Option PyStr
  | 0, _, _, [] => some []
  | _ + 1, _, _, [] => none
  | 0, _, _, a :: rest =>
    if a.toNat < 0x80 then (decodeFrom surrogatepass 0 0 0 rest).map (.ofDecoded a.toNat :: ·)
    else if a.toNat < 0xC0 then none
    else if a.toNat < 0xE0 then decodeFrom surrogatepass 1 (a.toNat - 0xC0) 0x80 rest
    else if a.toNat < 0xF0 then decodeFrom surrogatepass 2 (a.toNat - 0xE0) 0x800 rest
    else decodeFrom surrogatepass 3 (a.toNat - 0xF0) 0x10000 rest
  | missing + 1, bits, least, b :: rest =>
    let n := bits * 64 + (b.toNat - 0x80)
    if !isContinuation b then none
    else if missing = 0 then
      if least ≤ n && n < 0x110000 && (surrogatepass || !(0xD800 ≤ n && n < 0xE000)) then
        (decodeFrom surrogatepass 0 0 0 rest).map (.ofDecoded n :: ·)
      else none
    else decodeFrom surrogatepass missing n least rest

/-- `data.decode("utf-8")`, or `none` where it raises `UnicodeDecodeError`; with
`surrogatepass` the bytes of a surrogate are accepted. -/
def decodeUtf8 (surrogatepass : Bool) (data : Bytes) : Option PyStr :=
  decodeFrom surrogatepass 0 0 0 data

theorem CodePoint.byte_toNat {n : Nat} (h : n < 256) : (CodePoint.byte n).toNat = n := by
  rw [CodePoint.byte, UInt8.toNat_ofNat']
  omega

theorem CodePoint.ofDecoded_val (c : CodePoint) : CodePoint.ofDecoded c.val = c := by
  rw [CodePoint.ofDecoded]
  apply Fin.ext
  rw [Fin.val_ofNat, Nat.mod_eq_of_lt c.isLt]

section Decoding

variable {surrogatepass : Bool} {rest : Bytes}

theorem isContinuation_byte (x : Nat) : isContinuation (CodePoint.byte (0x80 + x % 64)) = true := by
  rw [isContinuation, CodePoint.byte_toNat (by omega)]
  simp only [Bool.and_eq_true, decide_eq_true_eq]
  omega

/-- A byte inside a character adds six bits. -/
theorem decodeFrom_continuation (missing bits least x : Nat) :
    decodeFrom surrogatepass (missing + 2) bits least (CodePoint.byte (0x80 + x % 64) :: rest) =
      decodeFrom surrogatepass (missing + 1) (bits * 64 + x % 64) least rest := by
  rw [decodeFrom, isContinuation_byte, CodePoint.byte_toNat (by omega), Nat.add_sub_cancel_left]
  rfl

/-- The last byte of a character completes it. -/
theorem decodeFrom_last {c : CodePoint} (hc : c.isSurrogate = false) {bits least : Nat}
    (hbits : bits = c.val / 64) (hleast : least ≤ c.val) :
    decodeFrom surrogatepass 1 bits least (CodePoint.byte (0x80 + c.val % 64) :: rest) =
      (decodeFrom surrogatepass 0 0 0 rest).map (c :: ·) := by
  have hvalue : bits * 64 + c.val % 64 = c.val := by omega
  have hnot : (0xD800 ≤ c.val && c.val < 0xE000) = false := hc
  have hlt : c.val < 0x110000 := c.isLt
  rw [decodeFrom, isContinuation_byte, CodePoint.byte_toNat (by omega), Nat.add_sub_cancel_left,
    hvalue, hnot, CodePoint.ofDecoded_val]
  simp [hleast, hlt]

/-- One character is decoded to the code point it encodes. -/
theorem decodeFrom_utf8Bytes {c : CodePoint} (hc : c.isSurrogate = false) :
    decodeFrom surrogatepass 0 0 0 (c.utf8Bytes ++ rest) =
      (decodeFrom surrogatepass 0 0 0 rest).map (c :: ·) := by
  have hlt : c.val < 0x110000 := c.isLt
  unfold CodePoint.utf8Bytes
  dsimp only
  by_cases hone : c.val < 0x80
  · rw [if_pos hone, List.cons_append, List.nil_append, decodeFrom,
      CodePoint.byte_toNat (by omega), if_pos hone, CodePoint.ofDecoded_val]
  · rw [if_neg hone]
    by_cases htwo : c.val < 0x800
    · rw [if_pos htwo, List.cons_append, decodeFrom, CodePoint.byte_toNat (by omega),
        if_neg (by omega), if_neg (by omega), if_pos (by omega), Nat.add_sub_cancel_left]
      exact decodeFrom_last hc rfl (by omega)
    · rw [if_neg htwo]
      by_cases hthree : c.val < 0x10000
      · rw [if_pos hthree, List.cons_append, decodeFrom, CodePoint.byte_toNat (by omega),
          if_neg (by omega), if_neg (by omega), if_neg (by omega), if_pos (by omega),
          Nat.add_sub_cancel_left, List.cons_append, decodeFrom_continuation]
        exact decodeFrom_last hc (by omega) (by omega)
      · rw [if_neg hthree, List.cons_append, decodeFrom, CodePoint.byte_toNat (by omega),
          if_neg (by omega), if_neg (by omega), if_neg (by omega), if_neg (by omega),
          Nat.add_sub_cancel_left, List.cons_append, decodeFrom_continuation, List.cons_append,
          decodeFrom_continuation]
        exact decodeFrom_last hc (by omega) (by omega)

end Decoding

/-- Decoding undoes encoding. -/
theorem decodeUtf8_encodeUtf8 {text : PyStr} {data : Bytes} (h : encodeUtf8 text = some data)
    (surrogatepass : Bool) : decodeUtf8 surrogatepass data = some text := by
  unfold encodeUtf8 at h
  split at h
  · cases h
  · next hsurrogates =>
    cases h
    induction text with
    | nil => rfl
    | cons c text ih =>
      simp only [List.any_cons, Bool.or_eq_true, not_or, Bool.not_eq_true] at hsurrogates
      have hrest : decodeFrom surrogatepass 0 0 0 (text.flatMap CodePoint.utf8Bytes) = some text :=
        ih (by simp [hsurrogates.2])
      rw [decodeUtf8, List.flatMap_cons, decodeFrom_utf8Bytes hsurrogates.1, hrest]
      rfl

/-! ## The size of what is decoded -/

/-- How far decoding is inside a character: so many bytes are missing and so many were read,
with these bits, and the least number that may be written with as many bytes. -/
inductive Inside : Nat → Nat → Nat → Nat → Prop
  | outside : Inside 0 0 0 0
  | two {bits : Nat} (h : bits < 32) : Inside 1 1 bits 0x80
  | three {bits : Nat} (h : bits < 16) : Inside 2 1 bits 0x800
  | threeLast {bits : Nat} (h : bits < 1024) : Inside 1 2 bits 0x800
  | four {bits : Nat} : Inside 3 1 bits 0x10000
  | fourThird {bits : Nat} : Inside 2 2 bits 0x10000
  | fourLast {bits : Nat} : Inside 1 3 bits 0x10000

theorem ofDecoded_of_lt {n : Nat} (h : n < 0x110000) : (CodePoint.ofDecoded n).val = n := by
  rw [CodePoint.ofDecoded, Fin.val_ofNat, Nat.mod_eq_of_lt h]

/-- A byte of a character that is not the last one. -/
theorem decodeFrom_goes_on {missing bits least : Nat} {a : UInt8} {rest : Bytes} {text : PyStr}
    (h : decodeFrom false (missing + 2) bits least (a :: rest) = some text) :
    (0x80 ≤ a.toNat ∧ a.toNat < 0xC0) ∧
      decodeFrom false (missing + 1) (bits * 64 + (a.toNat - 0x80)) least rest = some text := by
  rw [decodeFrom] at h
  by_cases hcont : (!isContinuation a) = true
  · rw [if_pos hcont] at h
    cases h
  · rw [if_neg hcont, if_neg (Nat.succ_ne_zero missing)] at h
    rw [Bool.not_eq_true, Bool.not_eq_false', isContinuation] at hcont
    exact ⟨by simpa using hcont, h⟩

/-- The last byte of a character. -/
theorem decodeFrom_complete {bits least : Nat} {a : UInt8} {rest : Bytes} {text : PyStr}
    (h : decodeFrom false 1 bits least (a :: rest) = some text) :
    (0x80 ≤ a.toNat ∧ a.toNat < 0xC0) ∧ least ≤ bits * 64 + (a.toNat - 0x80) ∧
      bits * 64 + (a.toNat - 0x80) < 0x110000 ∧
      ¬ (0xD800 ≤ bits * 64 + (a.toNat - 0x80) ∧ bits * 64 + (a.toNat - 0x80) < 0xE000) ∧
      (decodeFrom false 0 0 0 rest).map (CodePoint.ofDecoded (bits * 64 + (a.toNat - 0x80)) :: ·) =
        some text := by
  rw [decodeFrom] at h
  by_cases hcont : (!isContinuation a) = true
  · rw [if_pos hcont] at h
    cases h
  · rw [if_neg hcont, if_pos rfl] at h
    rcases Option.ite_none_right_eq_some.mp h with ⟨hrange, h⟩
    rw [Bool.not_eq_true, Bool.not_eq_false', isContinuation] at hcont
    simp only [Bool.false_or, Bool.and_eq_true, decide_eq_true_eq, Bool.not_eq_true',
      Bool.and_eq_false_iff, decide_eq_false_iff_not] at hrange
    exact ⟨by simpa using hcont, hrange.1.1, hrange.1.2, by omega, h⟩

/-- Decoded text has no surrogate, and as many bytes as were read. -/
theorem decodeFrom_size {missing done bits least : Nat} {data : Bytes} {text : PyStr}
    (hinside : Inside missing done bits least)
    (h : decodeFrom false missing bits least data = some text) :
    text.any CodePoint.isSurrogate = false ∧
      (text.map CodePoint.utf8Width).sum = data.length + done := by
  induction data generalizing missing done bits least text with
  | nil =>
    cases hinside with
    | outside =>
      rw [decodeFrom, Option.some.injEq] at h
      rw [← h]
      exact ⟨rfl, rfl⟩
    | _ =>
      rw [decodeFrom] at h
      cases h
  | cons a rest ih =>
    have hbyte : a.toNat < 256 := a.toNat_lt
    have hlast : ∀ {n width : Nat}, n < 0x110000 → ¬ (0xD800 ≤ n ∧ n < 0xE000) →
        (CodePoint.ofDecoded n).utf8Width = width →
        (decodeFrom false 0 0 0 rest).map (CodePoint.ofDecoded n :: ·) = some text →
        text.any CodePoint.isSurrogate = false ∧
          (text.map CodePoint.utf8Width).sum = rest.length + width := by
      intro n width hn hplain hwidth heq
      rcases Option.map_eq_some_iff.mp heq with ⟨tail, htail, rfl⟩
      rcases ih .outside htail with ⟨hno, hsum⟩
      have hnot : (CodePoint.ofDecoded n).isSurrogate = false := by
        rw [CodePoint.isSurrogate, ofDecoded_of_lt hn]
        simpa using hplain
      rw [List.any_cons, hnot, hno, List.map_cons, List.sum_cons, hwidth, hsum]
      exact ⟨rfl, by omega⟩
    have hwidth : ∀ {n : Nat}, n < 0x110000 → (CodePoint.ofDecoded n).utf8Width =
        if n < 0x80 then 1 else if n < 0x800 then 2 else if n < 0x10000 then 3 else 4 := by
      intro n hn
      rw [CodePoint.utf8Width, ofDecoded_of_lt hn]
    rw [List.length_cons]
    cases hinside with
    | outside =>
      rw [decodeFrom] at h
      split_ifs at h with h1 h2 h3 h4
      · exact hlast (by omega) (by omega) (by rw [hwidth (by omega), if_pos h1]) h
      · rcases ih (.two (by omega)) h with ⟨hno, hsum⟩
        exact ⟨hno, hsum⟩
      · rcases ih (.three (by omega)) h with ⟨hno, hsum⟩
        exact ⟨hno, hsum⟩
      · rcases ih .four h with ⟨hno, hsum⟩
        exact ⟨hno, hsum⟩
    | two hbits =>
      rcases decodeFrom_complete h with ⟨hcont, hleast, hlt, hplain, h⟩
      exact hlast hlt hplain (by rw [hwidth hlt, if_neg (by omega), if_pos (by omega)]) h
    | threeLast hbits =>
      rcases decodeFrom_complete h with ⟨hcont, hleast, hlt, hplain, h⟩
      exact hlast hlt hplain (by rw [hwidth hlt, if_neg (by omega), if_neg (by omega),
        if_pos (by omega)]) h
    | fourLast =>
      rcases decodeFrom_complete h with ⟨hcont, hleast, hlt, hplain, h⟩
      exact hlast hlt hplain (by rw [hwidth hlt, if_neg (by omega), if_neg (by omega),
        if_neg (by omega)]) h
    | three hbits =>
      rcases decodeFrom_goes_on h with ⟨hcont, h⟩
      rcases ih (.threeLast (by omega)) h with ⟨hno, hsum⟩
      exact ⟨hno, hsum⟩
    | four =>
      rcases ih .fourThird (decodeFrom_goes_on h).2 with ⟨hno, hsum⟩
      exact ⟨hno, hsum⟩
    | fourThird =>
      rcases ih .fourLast (decodeFrom_goes_on h).2 with ⟨hno, hsum⟩
      exact ⟨hno, hsum⟩

/-- Bytes that are UTF-8 are as long as the text that they are decoded to. -/
theorem utf8Size_of_decodeUtf8 {data : Bytes} {text : PyStr} (h : decodeUtf8 false data = some text) :
    utf8Size text = some data.length := by
  rcases decodeFrom_size .outside h with ⟨hno, hsum⟩
  rw [utf8Size, hno, hsum]
  rfl

end HermesClaude.Python
