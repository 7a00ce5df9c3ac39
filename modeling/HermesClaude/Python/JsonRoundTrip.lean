/-
# Reading what was written

`json.loads` of the text of `json.dumps` is the value that was written, with the keys of
its objects in order.  The text of a value is scanned whole as long as what is behind it
does not go on with a number; the layout of the encoder only adds white space where the
scanner skips it.
-/

import HermesClaude.Python.JsonSorted

namespace HermesClaude.Python

/-! ## White space -/

theorem skipSpace_append {spaces : PyStr} (h : ∀ c ∈ spaces, c.isJsonSpace = true) (s : PyStr) :
    skipSpace (spaces ++ s) = skipSpace s := by
  rw [skipSpace, List.dropWhile_append_of_pos h, skipSpace]

theorem skipSpace_cons {c : CodePoint} (h : c.isJsonSpace = false) (s : PyStr) :
    skipSpace (c :: s) = c :: s := by
  rw [skipSpace, List.dropWhile_cons_of_neg (by simp [h])]

namespace JSONEncoder

/-- The separators of the encoder are those of JSON. -/
structure Lawful (encoder : JSONEncoder) : Prop where
  keySeparator : ∃ spaces, encoder.keySeparator = 0x3A :: spaces ∧
    ∀ c ∈ spaces, c.isJsonSpace = true

variable {encoder : JSONEncoder}

theorem newline_isJsonSpace {level : Nat} {c : CodePoint} (h : c ∈ encoder.newline level) :
    c.isJsonSpace = true := by
  unfold newline at h
  split at h
  · cases h
  · rcases List.mem_cons.mp h with rfl | h
    · decide
    · rw [List.eq_of_mem_replicate h]
      decide

/-- A closing bracket, behind the layout, does not go on with a number. -/
theorem endsNumber_closeItems {closing : CodePoint} (hclosing : closing = 0x5D ∨ closing = 0x7D)
    (level : Nat) (texts : List PyStr) (rest : PyStr) :
    EndsNumber (encoder.closeItems closing level texts ++ rest) := by
  intro c hc
  cases texts with
  | nil =>
    unfold closeItems newline at hc
    cases hindent : encoder.indent with
    | none =>
      rw [hindent] at hc
      cases hc
      rcases hclosing with rfl | rfl <;> decide
    | some width =>
      rw [hindent] at hc
      cases hc
      decide
  | cons text texts =>
    cases hc
    decide

theorem length_closeItems_pos (closing : CodePoint) (level : Nat) (texts : List PyStr) :
    0 < (encoder.closeItems closing level texts).length := by
  cases texts with
  | nil => simp [closeItems]
  | cons text texts => simp [closeItems]

end JSONEncoder

namespace JSONDecoder

variable {decoder : JSONDecoder} {encoder : JSONEncoder}

/-- Objects without a repeated key become dictionaries. -/
def Lawful (decoder : JSONDecoder) : Prop :=
  ∀ fields : List (PyStr × PyValue), (fields.map Prod.fst).Nodup →
    decoder.objectPairsHook fields = some (.dict (fields.map fun field => (.str field.1, field.2)))

/-- The text of a value is scanned whole. -/
structure Scans (decoder : JSONDecoder) (text : PyStr) (value : PyValue) : Prop where
  start : ∃ c rest, text = c :: rest ∧ c.isJsonSpace = false ∧ c ≠ 0x5D ∧ c.val < 0x80
  scan : ∀ fuel rest, text.length ≤ fuel → EndsNumber rest →
    decoder.scanOnce fuel (text ++ rest) = some (value, rest)

theorem Scans.skipSpace {text : PyStr} {value : PyValue} (h : decoder.Scans text value)
    (rest : PyStr) : skipSpace (text ++ rest) = text ++ rest := by
  obtain ⟨c, tail, rfl, hc, -⟩ := h.start
  exact skipSpace_cons hc _

/-- What is behind the last item, and behind any other one. -/
theorem skipSpace_closeItems {closing : CodePoint} (hclosing : closing.isJsonSpace = false)
    (level : Nat) (rest : PyStr) :
    skipSpace (encoder.closeItems closing level [] ++ rest) = closing :: rest := by
  rw [JSONEncoder.closeItems, List.append_assoc,
    skipSpace_append fun c hc => JSONEncoder.newline_isJsonSpace hc]
  exact skipSpace_cons hclosing rest

theorem skipSpace_newline (level : Nat) (s : PyStr) :
    skipSpace (encoder.newline level ++ s) = skipSpace s :=
  skipSpace_append (fun _ hc => JSONEncoder.newline_isJsonSpace hc) s

/-- The items of an array are scanned one after the other. -/
theorem scanItems_closeItems {texts : List PyStr} {values : List PyValue}
    (hrest : List.Forall₂ decoder.Scans texts values) {text : PyStr} {value : PyValue}
    (h : decoder.Scans text value) (level : Nat) {fuel : Nat}
    (hfuel : (text ++ encoder.closeItems 0x5D level texts).length ≤ fuel) (rest : PyStr) :
    decoder.scanItems fuel (text ++ (encoder.closeItems 0x5D level texts ++ rest)) =
      some (value :: values, rest) := by
  induction hrest generalizing text value fuel with
  | nil =>
    rw [List.length_append] at hfuel
    have hclose := encoder.length_closeItems_pos 0x5D level []
    obtain ⟨fuel, rfl⟩ : ∃ n, fuel = n + 1 := ⟨fuel - 1, by omega⟩
    have hscan := h.scan fuel (encoder.closeItems 0x5D level [] ++ rest) (by omega)
      (JSONEncoder.endsNumber_closeItems (Or.inl rfl) level [] rest)
    rw [scanItems, hscan, Option.bind_eq_bind, Option.bind_some]
    dsimp only
    rw [skipSpace_closeItems (by decide) level rest]
    rfl
  | @cons next nextValue texts values hnext _ ih =>
    have hshape : encoder.closeItems 0x5D level (next :: texts) =
        0x2C :: (encoder.newline (level + 1) ++ (next ++ encoder.closeItems 0x5D level texts)) := rfl
    simp only [hshape, List.length_append, List.length_cons] at hfuel
    obtain ⟨fuel, rfl⟩ : ∃ n, fuel = n + 1 := ⟨fuel - 1, by omega⟩
    have hscan := h.scan fuel (encoder.closeItems 0x5D level (next :: texts) ++ rest) (by omega)
      (JSONEncoder.endsNumber_closeItems (Or.inl rfl) level _ rest)
    have hrest : decoder.scanItems fuel (next ++ (encoder.closeItems 0x5D level texts ++ rest)) =
        some (nextValue :: values, rest) := ih hnext (by rw [List.length_append]; omega)
    rw [scanItems, hscan, Option.bind_eq_bind, Option.bind_some, hshape]
    dsimp only
    rw [List.cons_append, skipSpace_cons (by decide)]
    simp only [List.append_assoc, skipSpace_newline, hnext.skipSpace, hrest, Option.bind_eq_bind,
      Option.bind_some]
    rfl

/-- The text of an entry, for the value that it holds. -/
def ScansEntry (decoder : JSONDecoder) (field : PyStr × PyStr) (pair : PyStr × PyValue) : Prop :=
  field.1 = pair.1 ∧ decoder.Scans field.2 pair.2

/-- One entry of an object is scanned up to what is behind its value. -/
theorem scanFields_entry (hencoder : encoder.Lawful) {field : PyStr × PyStr}
    {pair : PyStr × PyValue} (h : decoder.ScansEntry field pair) {fuel : Nat}
    (hfuel : (encoder.entry field).length ≤ fuel) {rest : PyStr} (hends : EndsNumber rest) :
    (∀ tail, skipSpace rest = 0x7D :: tail →
      decoder.scanFields (fuel + 1) (encoder.entry field ++ rest) = some ([pair], tail)) ∧
    ∀ tail, skipSpace rest = 0x2C :: tail →
      decoder.scanFields (fuel + 1) (encoder.entry field ++ rest) =
        (decoder.scanFields fuel (skipSpace tail)).map fun r => (pair :: r.1, r.2) := by
  obtain ⟨key, text⟩ := field
  obtain ⟨key', value⟩ := pair
  obtain ⟨rfl, hscans⟩ : key = key' ∧ decoder.Scans text value := h
  obtain ⟨spaces, hkey, hspaces⟩ := hencoder.keySeparator
  have hlength : text.length ≤ fuel := by
    simp only [JSONEncoder.entry, List.length_append] at hfuel
    omega
  have hshape : encoder.entry (key, text) ++ rest =
      0x22 :: (key.flatMap escapeChar ++ 0x22 :: (0x3A :: (spaces ++ (text ++ rest)))) := by
    simp [JSONEncoder.entry, encodeString, hkey]
  rw [hshape, scanFields]
  simp only [scanString_flatMap, Option.bind_eq_bind, Option.bind_some]
  rw [skipSpace_cons (by decide)]
  simp only [skipSpace_append hspaces, hscans.skipSpace, hscans.scan fuel rest hlength hends,
    Option.bind_some]
  constructor
  · intro tail htail
    rw [htail]
    rfl
  · intro tail htail
    rw [htail]
    cases hscan : decoder.scanFields fuel (skipSpace tail) with
    | none => simp [hscan]
    | some r => simp [hscan]

/-- The entries of an object are scanned one after the other. -/
theorem scanFields_closeItems (hencoder : encoder.Lawful) {fields : List (PyStr × PyStr)}
    {pairs : List (PyStr × PyValue)} (hrest : List.Forall₂ decoder.ScansEntry fields pairs)
    {field : PyStr × PyStr} {pair : PyStr × PyValue} (h : decoder.ScansEntry field pair)
    (level : Nat) {fuel : Nat}
    (hfuel : (encoder.entry field ++
      encoder.closeItems 0x7D level (fields.map encoder.entry)).length ≤ fuel) (rest : PyStr) :
    decoder.scanFields fuel (encoder.entry field ++
        (encoder.closeItems 0x7D level (fields.map encoder.entry) ++ rest)) =
      some (pair :: pairs, rest) := by
  induction hrest generalizing field pair fuel with
  | nil =>
    rw [List.length_append] at hfuel
    have hclose := encoder.length_closeItems_pos 0x7D level []
    obtain ⟨fuel, rfl⟩ : ∃ n, fuel = n + 1 := ⟨fuel - 1, by simp only [List.map_nil] at hfuel; omega⟩
    rw [List.map_nil] at hfuel ⊢
    apply (scanFields_entry hencoder h (by omega)
      (JSONEncoder.endsNumber_closeItems (Or.inr rfl) level [] rest)).1
    exact skipSpace_closeItems (by decide) level rest
  | @cons next nextPair fields pairs hnext _ ih =>
    have hshape : encoder.closeItems 0x7D level ((next :: fields).map encoder.entry) =
        0x2C :: (encoder.newline (level + 1) ++ (encoder.entry next ++
          encoder.closeItems 0x7D level (fields.map encoder.entry))) := rfl
    have hquote : ∀ s, skipSpace (encoder.entry next ++ s) = encoder.entry next ++ s := by
      intro s
      exact skipSpace_cons (by decide) _
    simp only [hshape, List.length_append, List.length_cons] at hfuel
    obtain ⟨fuel, rfl⟩ : ∃ n, fuel = n + 1 := ⟨fuel - 1, by omega⟩
    have hrest : decoder.scanFields fuel (encoder.entry next ++
        (encoder.closeItems 0x7D level (fields.map encoder.entry) ++ rest)) =
        some (nextPair :: pairs, rest) := ih hnext (by rw [List.length_append]; omega)
    have hlength : (encoder.entry field).length ≤ fuel := by omega
    have hends : EndsNumber
        (encoder.closeItems 0x7D level ((next :: fields).map encoder.entry) ++ rest) :=
      JSONEncoder.endsNumber_closeItems (Or.inr rfl) level _ rest
    have hentry := (scanFields_entry hencoder h hlength hends).2
    rw [hshape, List.cons_append] at hentry ⊢
    rw [hentry _ (skipSpace_cons (by decide) _), List.append_assoc, skipSpace_newline,
      List.append_assoc, hquote, hrest]
    rfl

/-! ## Values -/

theorem scans_list {texts : List PyStr} {values : List PyValue}
    (h : List.Forall₂ decoder.Scans texts values) (level : Nat) :
    decoder.Scans (encoder.enclose 0x5B 0x5D level texts) (.list values) := by
  cases h with
  | nil =>
    constructor
    · exact ⟨0x5B, [0x5D], rfl, by decide, by decide, by decide⟩
    · intro fuel rest hfuel _
      obtain ⟨fuel, rfl⟩ : ∃ n, fuel = n + 1 := ⟨fuel - 1, by
        simp only [JSONEncoder.enclose, List.length_cons, List.length_nil] at hfuel
        omega⟩
      rfl
  | @cons text value texts values hfirst hrest =>
    have hshape : encoder.enclose 0x5B 0x5D level (text :: texts) =
        0x5B :: (encoder.newline (level + 1) ++ (text ++ encoder.closeItems 0x5D level texts)) := rfl
    constructor
    · exact ⟨0x5B, _, rfl, by decide, by decide, by decide⟩
    · intro fuel rest hfuel _
      rw [hshape, List.length_cons, List.length_append] at hfuel
      obtain ⟨fuel, rfl⟩ : ∃ n, fuel = n + 1 := ⟨fuel - 1, by omega⟩
      have hscan : decoder.scanItems fuel (text ++ (encoder.closeItems 0x5D level texts ++ rest)) =
          some (value :: values, rest) := scanItems_closeItems hrest hfirst level (by omega) rest
      have hskip := hfirst.skipSpace (encoder.closeItems 0x5D level texts ++ rest)
      obtain ⟨c, tail, rfl, -, hclose, -⟩ := hfirst.start
      rw [hshape, List.cons_append, List.append_assoc, List.append_assoc, scanOnce,
        if_neg (by decide), if_neg (by decide), if_pos rfl, skipSpace_newline, hskip]
      split
      · next heq => exact absurd (List.cons.inj heq).1 hclose
      · rw [hscan]
        rfl

theorem scans_dict (hencoder : encoder.Lawful) (hdecoder : decoder.Lawful)
    {fields : List (PyStr × PyStr)} {pairs : List (PyStr × PyValue)}
    (h : List.Forall₂ decoder.ScansEntry fields pairs) (hunique : (pairs.map Prod.fst).Nodup)
    (level : Nat) :
    decoder.Scans (encoder.enclose 0x7B 0x7D level (fields.map encoder.entry))
      (.dict (pairs.map fun pair => (.str pair.1, pair.2))) := by
  have hhook := hdecoder pairs hunique
  cases h with
  | nil =>
    constructor
    · exact ⟨0x7B, [0x7D], rfl, by decide, by decide, by decide⟩
    · intro fuel rest hfuel _
      obtain ⟨fuel, rfl⟩ : ∃ n, fuel = n + 1 := ⟨fuel - 1, by
        simp only [List.map_nil, JSONEncoder.enclose, List.length_cons, List.length_nil] at hfuel
        omega⟩
      rw [List.map_nil, JSONEncoder.enclose, List.cons_append, scanOnce, if_neg (by decide),
        if_pos rfl, List.cons_append, skipSpace_cons (by decide)]
      dsimp only
      rw [hhook]
      rfl
  | @cons field pair fields pairs hfirst hrest =>
    have hshape : encoder.enclose 0x7B 0x7D level ((field :: fields).map encoder.entry) =
        0x7B :: (encoder.newline (level + 1) ++ (encoder.entry field ++
          encoder.closeItems 0x7D level (fields.map encoder.entry))) := rfl
    constructor
    · exact ⟨0x7B, _, rfl, by decide, by decide, by decide⟩
    · intro fuel rest hfuel _
      rw [hshape, List.length_cons, List.length_append] at hfuel
      obtain ⟨fuel, rfl⟩ : ∃ n, fuel = n + 1 := ⟨fuel - 1, by omega⟩
      have hscan : decoder.scanFields fuel (encoder.entry field ++
          (encoder.closeItems 0x7D level (fields.map encoder.entry) ++ rest)) =
          some (pair :: pairs, rest) :=
        scanFields_closeItems hencoder hrest hfirst level (by omega) rest
      have hskip : ∀ s, skipSpace (encoder.entry field ++ s) = encoder.entry field ++ s := by
        intro s
        exact skipSpace_cons (by decide) _
      rw [hshape, List.cons_append, List.append_assoc, List.append_assoc, scanOnce,
        if_neg (by decide), if_pos rfl, skipSpace_newline, hskip]
      split
      · next heq => exact absurd (List.cons.inj heq).1 (by decide)
      · rw [hscan, Option.bind_eq_bind, Option.bind_some]
        dsimp only
        rw [hhook]
        rfl

theorem scans_str (s : PyStr) : decoder.Scans (encodeString s) (.str s) := by
  constructor
  · exact ⟨0x22, _, rfl, by decide, by decide, by decide⟩
  · intro fuel rest hfuel _
    obtain ⟨fuel, rfl⟩ : ∃ n, fuel = n + 1 := ⟨fuel - 1, by
      simp only [encodeString, List.length_cons] at hfuel
      omega⟩
    rw [encodeString, List.cons_append, List.append_assoc, List.singleton_append, scanOnce,
      if_pos rfl, scanString_flatMap]
    rfl

/-- The scanner hands everything but strings, objects and arrays to `scanToken`. -/
theorem scans_of_scanToken {c : CodePoint} {tail : PyStr} {value : PyValue}
    (hspace : c.isJsonSpace = false) (hascii : c.val < 0x80)
    (hplain : c ≠ 0x5D ∧ c ≠ 0x22 ∧ c ≠ 0x7B ∧ c ≠ 0x5B)
    (h : ∀ rest, EndsNumber rest →
      decoder.scanToken (c :: tail ++ rest) = some (value, rest)) :
    decoder.Scans (c :: tail) value := by
  constructor
  · exact ⟨c, tail, rfl, hspace, hplain.1, hascii⟩
  · intro fuel rest hfuel hends
    obtain ⟨fuel, rfl⟩ : ∃ n, fuel = n + 1 := ⟨fuel - 1, by
      rw [List.length_cons] at hfuel
      omega⟩
    rw [List.cons_append, scanOnce, if_neg hplain.2.1, if_neg hplain.2.2.1, if_neg hplain.2.2.2]
    exact h rest hends

theorem jsonLiterals_eq : jsonLiterals =
    [([0x6E, 0x75, 0x6C, 0x6C], .none), ([0x74, 0x72, 0x75, 0x65], .bool true),
      ([0x66, 0x61, 0x6C, 0x73, 0x65], .bool false)] := by
  have hprintablel : lit "null" = [0x6E, 0x75, 0x6C, 0x6C] := by decide
  have htrue : lit "true" = [0x74, 0x72, 0x75, 0x65] := by decide
  have hfalse : lit "false" = [0x66, 0x61, 0x6C, 0x73, 0x65] := by decide
  rw [jsonLiterals, hprintablel, htrue, hfalse]

/-- The words are read as what they stand for. -/
theorem scans_literal {word : PyStr × PyValue} (h : word ∈ jsonLiterals) :
    decoder.Scans word.1 word.2 := by
  rw [jsonLiterals_eq] at h
  simp only [List.mem_cons, List.not_mem_nil, or_false] at h
  rcases h with rfl | rfl | rfl <;> apply scans_of_scanToken (by decide) (by decide) (by decide) <;>
    (intro rest _; simp [scanToken, jsonLiterals_eq, List.dropPrefix?])

/-- A number starts with its sign or with a digit. -/
theorem IsNumber.start {sign digits fraction exponent : PyStr}
    (h : IsNumber sign digits fraction exponent) :
    ∃ c tail, sign ++ digits ++ fraction ++ exponent = c :: tail ∧ (c = 0x2D ∨ c.isDigit = true) := by
  rcases h.sign with rfl | rfl
  · rcases h.digits with rfl | ⟨c, tail, rfl, -, hdigits⟩
    · exact ⟨0x30, _, rfl, Or.inr rfl⟩
    · exact ⟨c, _, rfl, Or.inr (hdigits c List.mem_cons_self)⟩
  · exact ⟨0x2D, _, rfl, Or.inl rfl⟩

/-- The text of a number is read as a number. -/
theorem scanToken_number {sign digits fraction exponent rest : PyStr}
    (h : IsNumber sign digits fraction exponent) (hends : EndsNumber rest) :
    decoder.scanToken (sign ++ digits ++ fraction ++ exponent ++ rest) =
      (decoder.parseNumber (!(fraction.isEmpty && exponent.isEmpty))
        (sign ++ digits ++ fraction ++ exponent)).map fun value => (value, rest) := by
  have hmatch := matchNumber_append h hends
  have hword : jsonLiterals.findSome? (fun word =>
      ((sign ++ digits ++ fraction ++ exponent ++ rest).dropPrefix? word.1).map
        fun rest => (word.2, rest)) = none := by
    obtain ⟨c, tail, hcons, hc⟩ := IsNumber.start h
    rw [hcons, List.cons_append]
    have hplain : c ≠ 0x6E ∧ c ≠ 0x74 ∧ c ≠ 0x66 := by
      rcases hc with rfl | hc
      · decide
      · refine ⟨?_, ?_, ?_⟩ <;> (rintro rfl; exact absurd hc (by decide))
    simp [jsonLiterals_eq, List.dropPrefix?, hplain]
  rw [scanToken, hword, hmatch]

/-- Text that is the number of a value, by itself. -/
theorem scans_number {sign digits fraction exponent : PyStr} {value : PyValue}
    (h : IsNumber sign digits fraction exponent)
    (hvalue : decoder.parseNumber (!(fraction.isEmpty && exponent.isEmpty))
      (sign ++ digits ++ fraction ++ exponent) = some value) :
    decoder.Scans (sign ++ digits ++ fraction ++ exponent) value := by
  have hscan : ∀ rest, EndsNumber rest →
      decoder.scanToken (sign ++ digits ++ fraction ++ exponent ++ rest) = some (value, rest) := by
    intro rest hends
    rw [scanToken_number h hends, hvalue]
    rfl
  obtain ⟨c, tail, hcons, hc⟩ := IsNumber.start h
  rw [hcons] at hscan ⊢
  have hdigit : ∀ d : CodePoint, d.isDigit = false → d ≠ 0x2D → c ≠ d := by
    rintro d hd hminus rfl
    rcases hc with hc | hc
    · exact hminus hc
    · rw [hd] at hc
      cases hc
  apply scans_of_scanToken
  · rcases hc with rfl | hc
    · decide
    · simp only [CodePoint.isDigit, CodePoint.isJsonSpace, Bool.and_eq_true, decide_eq_true_eq,
        Bool.or_eq_false_iff, decide_eq_false_iff_not] at hc ⊢
      omega
  · rcases hc with rfl | hc
    · decide
    · simp only [CodePoint.isDigit, Bool.and_eq_true, decide_eq_true_eq] at hc
      omega
  · exact ⟨hdigit _ (by decide) (by decide), hdigit _ (by decide) (by decide),
      hdigit _ (by decide) (by decide), hdigit _ (by decide) (by decide)⟩
  · exact hscan

theorem scans_int {i : Int} {text : PyStr} (h : intRepr i = some text) :
    decoder.Scans text (.int i) := by
  have hparse := parseInt_intRepr h
  obtain ⟨sign, htext, hnumber⟩ := intRepr_isNumber h
  have hscans : decoder.Scans (sign ++ decimal i.natAbs ++ [] ++ []) (.int i) := by
    apply scans_number hnumber
    rw [List.append_nil, List.append_nil, ← htext, parseNumber, hparse]
    rfl
  rwa [List.append_nil, List.append_nil, ← htext] at hscans

theorem scans_float {q : Rat} (hq : IsDouble q) :
    decoder.Scans (decoder.floats.repr q) (.float (.finite q)) := by
  obtain ⟨sign, digits, fraction, exponent, hrepr, hnumber, hfloat⟩ :=
    decoder.floats.repr_number q hq
  have hparse := decoder.floats.parse_repr q hq
  rw [hrepr] at hparse ⊢
  apply scans_number hnumber
  rw [parseNumber, hparse, if_pos]
  simpa [imp_iff_or_not, or_comm] using hfloat

theorem forall₂_orderedInsert {field : PyStr × PyStr} {pair : PyStr × PyValue}
    (h : decoder.ScansEntry field pair) {fields : List (PyStr × PyStr)}
    {pairs : List (PyStr × PyValue)} (hrest : List.Forall₂ decoder.ScansEntry fields pairs) :
    List.Forall₂ decoder.ScansEntry (fields.orderedInsert (fun a b => a.1 ≤ b.1) field)
      (pairs.orderedInsert (fun a b => a.1 ≤ b.1) pair) := by
  induction hrest with
  | nil => exact .cons h .nil
  | @cons other otherPair fields pairs hother hrest ih =>
    rw [List.orderedInsert_cons, List.orderedInsert_cons, ← h.1, ← hother.1]
    split
    · exact .cons h (.cons hother hrest)
    · exact .cons hother ih

/-- Entries and their values are sorted alike. -/
theorem forall₂_sortItems {fields : List (PyStr × PyStr)} {pairs : List (PyStr × PyValue)}
    (h : List.Forall₂ decoder.ScansEntry fields pairs) :
    List.Forall₂ decoder.ScansEntry (sortItems fields) (sortItems pairs) := by
  induction h with
  | nil => exact .nil
  | cons hfirst _ ih => exact forall₂_orderedInsert hfirst ih

section RoundTrip

set_option linter.unusedSectionVars false

variable (hencoder : encoder.Lawful) (hdecoder : decoder.Lawful)
  (hfloats : encoder.floats = decoder.floats)

include hencoder hdecoder hfloats

mutual

/-- The text of a value is scanned as that value, its keys in order. -/
theorem scans_encode {level : Nat} {value : Json} {text : PyStr} (hdoubles : value.HasDoubles)
    (hunique : value.UniqueKeys) (h : encoder.encode level value = some text) :
    decoder.Scans text value.sortKeys.toValue := by
  match value with
  | .null =>
    cases h
    exact scans_literal List.mem_cons_self
  | .bool true =>
    cases h
    exact scans_literal (List.mem_cons_of_mem _ List.mem_cons_self)
  | .bool false =>
    cases h
    exact scans_literal (List.mem_cons_of_mem _ (List.mem_cons_of_mem _ List.mem_cons_self))
  | .int i => exact scans_int h
  | .float q =>
    cases h
    rw [hfloats]
    exact scans_float hdoubles
  | .str s =>
    cases h
    exact scans_str s
  | .list items =>
    rw [JSONEncoder.encode, Option.map_eq_some_iff] at h
    obtain ⟨texts, htexts, rfl⟩ := h
    rw [Json.sortKeys, Json.toValue, Json.toValueList_eq, Json.sortKeysList_eq, List.map_map]
    apply scans_list
    exact scans_encodeList hdoubles hunique htexts
  | .dict items =>
    rw [JSONEncoder.encode, Option.map_eq_some_iff] at h
    obtain ⟨fields, hfields, rfl⟩ := h
    have hentries := forall₂_sortItems (scans_encodeItems hdoubles hunique.2 hfields)
    have hkeys : ((sortItems (items.map fun item =>
        (item.1, item.2.sortKeys.toValue))).map Prod.fst).Nodup := by
      rw [((sortItems_perm _).map Prod.fst).nodup_iff, List.map_map]
      exact hunique.1
    have hvalue := scans_dict hencoder hdecoder hentries hkeys level
    rw [sortItems_mapValues fun item : Json => item.sortKeys.toValue, List.map_map] at hvalue
    rw [Json.sortKeys, Json.toValue, Json.toValueItems_eq, Json.sortKeysItems_eq,
      sortItems_mapValues, List.map_map]
    exact hvalue

theorem scans_encodeList {level : Nat} {items : List Json} {texts : List PyStr}
    (hdoubles : Json.HasDoublesList items) (hunique : Json.UniqueKeysList items)
    (h : encoder.encodeList level items = some texts) :
    List.Forall₂ decoder.Scans texts (items.map fun item => item.sortKeys.toValue) := by
  match items with
  | [] =>
    cases h
    exact .nil
  | item :: items =>
    simp only [JSONEncoder.encodeList, Option.bind_eq_bind, Option.bind_eq_some_iff] at h
    obtain ⟨text, htext, texts, htexts, h⟩ := h
    cases h
    exact .cons (scans_encode hdoubles.1 hunique.1 htext)
      (scans_encodeList hdoubles.2 hunique.2 htexts)

theorem scans_encodeItems {level : Nat} {items : List (PyStr × Json)}
    {fields : List (PyStr × PyStr)} (hdoubles : Json.HasDoublesItems items)
    (hunique : Json.UniqueKeysItems items) (h : encoder.encodeItems level items = some fields) :
    List.Forall₂ decoder.ScansEntry fields
      (items.map fun item => (item.1, item.2.sortKeys.toValue)) := by
  match items with
  | [] =>
    cases h
    exact .nil
  | (key, item) :: items =>
    simp only [JSONEncoder.encodeItems, Option.bind_eq_bind, Option.bind_eq_some_iff] at h
    obtain ⟨text, htext, fields, hfields, h⟩ := h
    cases h
    exact .cons ⟨rfl, scans_encode hdoubles.1 hunique.1 htext⟩
      (scans_encodeItems hdoubles.2 hunique.2 hfields)

end

/-- What `json.dumps` has written, `json.loads` reads, with white space behind it or not. -/
theorem loads_dumps {value : Json} {text spaces : PyStr} (hdoubles : value.HasDoubles)
    (hunique : value.UniqueKeys) (h : encoder.dumps value = some text)
    (hspaces : ∀ c ∈ spaces, c.isJsonSpace = true) :
    decoder.loads (text ++ spaces) = some value.sortKeys.toValue := by
  have hscans := scans_encode hencoder hdecoder hfloats hdoubles hunique h
  have hends : EndsNumber spaces := by
    intro c hc
    have hspace := hspaces c (List.mem_of_mem_head? hc)
    simp only [CodePoint.isJsonSpace, Bool.or_eq_true, decide_eq_true_eq] at hspace
    refine ⟨?_, ?_, ?_, ?_⟩
    · simp only [CodePoint.isDigit, Bool.and_eq_false_iff, decide_eq_false_iff_not]
      omega
    all_goals
      rintro rfl
      revert hspace
      decide
  have hscan := hscans.scan ((text ++ spaces).length + 1) spaces
    (by rw [List.length_append]; omega) hends
  have hskip := hscans.skipSpace spaces
  have hnone : skipSpace spaces = [] := by
    have hskipped := skipSpace_append hspaces []
    rwa [List.append_nil] at hskipped
  have hmark : (text ++ spaces).head? ≠ some 0xFEFF := by
    obtain ⟨c, tail, rfl, -, -, hascii⟩ := hscans.start
    rintro ⟨⟩
    exact absurd hascii (by decide)
  rw [loads, if_neg hmark, hskip, hscan]
  dsimp only
  rw [hnone]
  rfl

end RoundTrip

end JSONDecoder

/-! ## Bytes -/

theorem utf8Bytes_ne_zero {c : CodePoint} (h : c.val ≠ 0) : ∀ b ∈ c.utf8Bytes, b ≠ 0 := by
  have hbyte : ∀ n, 0 < n → n < 256 → CodePoint.byte n ≠ 0 := by
    intro n hpos hlt hzero
    have hnat := CodePoint.byte_toNat hlt
    rw [hzero] at hnat
    simp at hnat
    omega
  have hlt : c.val < 0x110000 := c.isLt
  unfold CodePoint.utf8Bytes
  dsimp only
  intro b hb
  split at hb
  · rw [List.mem_singleton.mp hb]
    exact hbyte _ (by omega) (by omega)
  split at hb
  · simp only [List.mem_cons, List.not_mem_nil, or_false] at hb
    rcases hb with rfl | rfl <;> exact hbyte _ (by omega) (by omega)
  split at hb
  · simp only [List.mem_cons, List.not_mem_nil, or_false] at hb
    rcases hb with rfl | rfl | rfl <;> exact hbyte _ (by omega) (by omega)
  · simp only [List.mem_cons, List.not_mem_nil, or_false] at hb
    rcases hb with rfl | rfl | rfl | rfl <;> exact hbyte _ (by omega) (by omega)

/-- Printable text that starts with an ASCII character is taken for UTF-8. -/
theorem detectEncoding_encodeUtf8 {c : CodePoint} {rest : PyStr} {data : Bytes}
    (hascii : c.val < 0x80) (hprintable : JSONEncoder.Printable (c :: rest)) (h : encodeUtf8 (c :: rest) = some data) :
    detectEncoding data = .utf8 := by
  unfold encodeUtf8 at h
  split at h
  · cases h
  · have hbytes : ∀ b ∈ (c :: rest).flatMap CodePoint.utf8Bytes, b ≠ 0 := by
      intro b hb
      obtain ⟨d, hd, hb⟩ := List.mem_flatMap.mp hb
      have hd := hprintable d hd
      exact utf8Bytes_ne_zero (by omega) b hb
    have hfirst : c.utf8Bytes = [CodePoint.byte c.val] := if_pos hascii
    have hnat : (CodePoint.byte c.val).toNat = c.val := CodePoint.byte_toNat (by omega)
    have hmark : ∀ b : UInt8, 0x80 ≤ b.toNat → (b == CodePoint.byte c.val) = false := by
      intro b hb
      rw [beq_eq_false_iff_ne]
      rintro rfl
      omega
    have hzero : ((0 : UInt8) == CodePoint.byte c.val) = false := by
      rw [beq_eq_false_iff_ne]
      intro heq
      rw [← heq] at hnat
      have hc := hprintable c List.mem_cons_self
      have hnone : c.val = 0 := hnat.symm
      omega
    cases h
    rw [List.flatMap_cons, hfirst, List.singleton_append] at hbytes ⊢
    generalize rest.flatMap CodePoint.utf8Bytes = more at hbytes
    unfold detectEncoding
    simp only [List.isPrefixOf, hzero, hmark 0xFF (by decide), hmark 0xFE (by decide),
      hmark 0xEF (by decide), Bool.false_and, Bool.or_self, Bool.false_eq_true, if_false]
    match more with
    | [] => rfl
    | [b] =>
      have hb := hbytes b (by simp)
      have ha := hbytes (CodePoint.byte c.val) List.mem_cons_self
      dsimp only
      rw [if_neg ha, if_neg hb]
    | [_, _] => rfl
    | b :: d :: e :: _ =>
      have hb := hbytes b (by simp)
      have ha := hbytes (CodePoint.byte c.val) List.mem_cons_self
      dsimp only
      rw [if_neg ha, if_neg hb]

/-- The bytes of what was written decode to the text. -/
theorem decodeBytes_dumps {encoder : JSONEncoder} {decoder : JSONDecoder}
    (hencoder : encoder.Lawful) (hseparator : JSONEncoder.Printable encoder.keySeparator)
    (hdecoder : decoder.Lawful)
    (hfloats : encoder.floats = decoder.floats) {value : Json} {text : PyStr} {data : Bytes}
    (hdoubles : value.HasDoubles) (hunique : value.UniqueKeys)
    (h : encoder.dumps value = some text) (hdata : encodeUtf8 text = some data)
    (wide : Encoding → Bytes → Option PyStr) :
    decodeBytes wide (detectEncoding data) data = some text := by
  have hscans := JSONDecoder.scans_encode hencoder hdecoder hfloats hdoubles hunique h
  have hprintable := JSONEncoder.printable_encode hseparator hdoubles h
  obtain ⟨c, rest, rfl, -, -, hascii⟩ := hscans.start
  rw [detectEncoding_encodeUtf8 hascii hprintable hdata]
  exact decodeUtf8_encodeUtf8 hdata true

end HermesClaude.Python
