/-
# `json.dumps` and `json.loads`

The encoder writes a tree of JSON values with sorted keys, on one line or indented; it
raises where an integer has too many digits.  The decoder is the recursive descent of
the `json` module with its hooks; it is run with as much fuel as the text is long, and no
value needs more.
-/

import HermesClaude.Python.JsonText
import HermesClaude.Python.Utf8
import Mathlib.Data.List.Sort
import Mathlib.Order.Fin.Basic
import Mathlib.Data.List.Lex

namespace HermesClaude.Python

/-! ## Dictionaries in the order of their keys -/

/-- `sorted(dct.items())`, where no key occurs twice. -/
def sortItems {β : Type} (items : List (PyStr × β)) : List (PyStr × β) :=
  items.insertionSort fun a b => a.1 ≤ b.1

section Sorting

variable {β γ : Type}

theorem sortItems_perm (items : List (PyStr × β)) : (sortItems items).Perm items :=
  List.perm_insertionSort _ items

theorem sortItems_sorted (items : List (PyStr × β)) :
    (sortItems items).Pairwise fun a b => a.1 ≤ b.1 := by
  have htotal : Std.Total fun a b : PyStr × β => a.1 ≤ b.1 := ⟨fun a b => le_total a.1 b.1⟩
  have htrans : IsTrans (PyStr × β) fun a b => a.1 ≤ b.1 := ⟨fun _ _ _ => le_trans⟩
  exact List.pairwise_insertionSort _ items

theorem sortItems_mapValues (f : β → γ) (items : List (PyStr × β)) :
    sortItems (items.map fun item => (item.1, f item.2)) =
      (sortItems items).map fun item => (item.1, f item.2) := by
  symm
  apply List.map_insertionSort
  intro a _ b _
  exact Iff.rfl

end Sorting

namespace Json

mutual

/-- A value with the keys of all its dictionaries in order. -/
def sortKeys : Json → Json
  | .list items => .list (sortKeysList items)
  | .dict items => .dict (sortItems (sortKeysItems items))
  | .null => .null
  | .bool b => .bool b
  | .int i => .int i
  | .float q => .float q
  | .str s => .str s

def sortKeysList : List Json → List Json
  | [] => []
  | item :: items => sortKeys item :: sortKeysList items

def sortKeysItems : List (PyStr × Json) → List (PyStr × Json)
  | [] => []
  | (key, item) :: items => (key, sortKeys item) :: sortKeysItems items

end

mutual

/-- A JSON value as a Python value. -/
def toValue : Json → PyValue
  | .null => .none
  | .bool b => .bool b
  | .int i => .int i
  | .float q => .float (.finite q)
  | .str s => .str s
  | .list items => .list (toValueList items)
  | .dict items => .dict (toValueItems items)

def toValueList : List Json → List PyValue
  | [] => []
  | item :: items => toValue item :: toValueList items

def toValueItems : List (PyStr × Json) → List (PyValue × PyValue)
  | [] => []
  | (key, item) :: items => (.str key, toValue item) :: toValueItems items

end

mutual

/-- No dictionary has a key twice. -/
def UniqueKeys : Json → Prop
  | .list items => UniqueKeysList items
  | .dict items => (items.map Prod.fst).Nodup ∧ UniqueKeysItems items
  | .null | .bool _ | .int _ | .float _ | .str _ => True

def UniqueKeysList : List Json → Prop
  | [] => True
  | item :: items => UniqueKeys item ∧ UniqueKeysList items

def UniqueKeysItems : List (PyStr × Json) → Prop
  | [] => True
  | (_, item) :: items => UniqueKeys item ∧ UniqueKeysItems items

end

mutual

/-- Every float is one that Python has. -/
def HasDoubles : Json → Prop
  | .float q => IsDouble q
  | .list items => HasDoublesList items
  | .dict items => HasDoublesItems items
  | .null | .bool _ | .int _ | .str _ => True

def HasDoublesList : List Json → Prop
  | [] => True
  | item :: items => HasDoubles item ∧ HasDoublesList items

def HasDoublesItems : List (PyStr × Json) → Prop
  | [] => True
  | (_, item) :: items => HasDoubles item ∧ HasDoublesItems items

end

theorem sortKeysList_eq (items : List Json) : sortKeysList items = items.map sortKeys := by
  induction items with
  | nil => rfl
  | cons item items ih => rw [sortKeysList, ih, List.map_cons]

theorem sortKeysItems_eq (items : List (PyStr × Json)) :
    sortKeysItems items = items.map fun item => (item.1, sortKeys item.2) := by
  induction items with
  | nil => rfl
  | cons item items ih => rw [sortKeysItems, ih, List.map_cons]

theorem toValueList_eq (items : List Json) : toValueList items = items.map toValue := by
  induction items with
  | nil => rfl
  | cons item items ih => rw [toValueList, ih, List.map_cons]

theorem toValueItems_eq (items : List (PyStr × Json)) :
    toValueItems items = items.map fun item => (.str item.1, toValue item.2) := by
  induction items with
  | nil => rfl
  | cons item items ih => rw [toValueItems, ih, List.map_cons]

theorem uniqueKeysList_iff (items : List Json) :
    UniqueKeysList items ↔ ∀ item ∈ items, UniqueKeys item := by
  induction items with
  | nil => simp [UniqueKeysList]
  | cons item items ih => rw [UniqueKeysList, ih, List.forall_mem_cons]

theorem uniqueKeysItems_iff (items : List (PyStr × Json)) :
    UniqueKeysItems items ↔ ∀ item ∈ items, UniqueKeys item.2 := by
  induction items with
  | nil => simp [UniqueKeysItems]
  | cons item items ih => rw [UniqueKeysItems, ih, List.forall_mem_cons]

theorem hasDoublesList_iff (items : List Json) :
    HasDoublesList items ↔ ∀ item ∈ items, HasDoubles item := by
  induction items with
  | nil => simp [HasDoublesList]
  | cons item items ih => rw [HasDoublesList, ih, List.forall_mem_cons]

theorem hasDoublesItems_iff (items : List (PyStr × Json)) :
    HasDoublesItems items ↔ ∀ item ∈ items, HasDoubles item.2 := by
  induction items with
  | nil => simp [HasDoublesItems]
  | cons item items ih => rw [HasDoublesItems, ih, List.forall_mem_cons]

end Json

/-! ## Writing -/

/-- How `json.dumps` lays out a document. -/
structure JSONEncoder where
  floats : FloatText
  indent : Option Nat
  keySeparator : PyStr

namespace JSONEncoder

variable (encoder : JSONEncoder)

/-- `newline_indent`. -/
def newline (level : Nat) : PyStr :=
  match encoder.indent with
  | none => []
  | some width => 0x0A :: List.replicate (width * level) 0x20

/-- The items of a container behind the first one, and its closing bracket. -/
def closeItems (closing : CodePoint) (level : Nat) : List PyStr → PyStr
  | [] => encoder.newline level ++ [closing]
  | text :: texts =>
    0x2C :: (encoder.newline (level + 1) ++ (text ++ closeItems closing level texts))

/-- A container of the given items. -/
def enclose (opening closing : CodePoint) (level : Nat) : List PyStr → PyStr
  | [] => [opening, closing]
  | text :: texts =>
    opening :: (encoder.newline (level + 1) ++ (text ++ encoder.closeItems closing level texts))

/-- An entry of an object. -/
def entry (field : PyStr × PyStr) : PyStr :=
  encodeString field.1 ++ (encoder.keySeparator ++ field.2)

mutual

/-- `_iterencode`. -/
def encode (level : Nat) : Json → Option PyStr
  | .null => some (lit "null")
  | .bool true => some (lit "true")
  | .bool false => some (lit "false")
  | .int i => intRepr i
  | .float q => some (encoder.floats.repr q)
  | .str s => some (encodeString s)
  | .list items =>
    (encodeList (level + 1) items).map fun texts => encoder.enclose 0x5B 0x5D level texts
  | .dict items =>
    (encodeItems (level + 1) items).map fun fields =>
      encoder.enclose 0x7B 0x7D level ((sortItems fields).map encoder.entry)

def encodeList (level : Nat) : List Json → Option (List PyStr)
  | [] => some []
  | item :: items => do
    let text ← encode level item
    let texts ← encodeList level items
    pure (text :: texts)

def encodeItems (level : Nat) : List (PyStr × Json) → Option (List (PyStr × PyStr))
  | [] => some []
  | (key, item) :: items => do
    let text ← encode level item
    let fields ← encodeItems level items
    pure ((key, text) :: fields)

end

/-- `json.dumps`. -/
def dumps (value : Json) : Option PyStr := encoder.encode 0 value

end JSONEncoder

/-! ## Reading -/

/-- The hooks of `json.loads`. -/
structure JSONDecoder where
  floats : FloatText
  parseConstant : PyStr → Option PyValue
  objectPairsHook : List (PyStr × PyValue) → Option PyValue

/-- The words of JSON. -/
def jsonLiterals : List (PyStr × PyValue) :=
  [(lit "null", .none), (lit "true", .bool true), (lit "false", .bool false)]

/-- The words that are not JSON but read as numbers. -/
def jsonConstants : List PyStr := [lit "NaN", lit "Infinity", lit "-Infinity"]

/-- The text behind the white space at its start. -/
def skipSpace (s : PyStr) : PyStr := s.dropWhile CodePoint.isJsonSpace

namespace JSONDecoder

variable (decoder : JSONDecoder)

/-- `parse_float` or `parse_int` of the text of a number. -/
def parseNumber (isFloat : Bool) (text : PyStr) : Option PyValue :=
  if isFloat then some (.float (decoder.floats.parse text)) else (parseInt text).map .int

/-- The number, word or constant at the start of a text. -/
def scanToken (s : PyStr) : Option (PyValue × PyStr) :=
  match jsonLiterals.findSome? fun word =>
      (s.dropPrefix? word.1).map fun rest => (word.2, rest) with
  | some found => some found
  | none =>
    match matchNumber s with
    | some number =>
      (decoder.parseNumber number.isFloat number.text).map fun value => (value, number.rest)
    | none =>
      (jsonConstants.findSome? fun word => (s.dropPrefix? word).map fun rest => (word, rest)).bind
        fun (word, rest) => (decoder.parseConstant word).map fun value => (value, rest)

mutual

/-- `_scan_once`. -/
def scanOnce : Nat → PyStr → Option (PyValue × PyStr)
  | 0, _ => none
  | _ + 1, [] => none
  | fuel + 1, c :: rest =>
    if c = 0x22 then (scanString none rest).map fun r => (.str r.1, r.2)
    else if c = 0x7B then
      match skipSpace rest with
      | 0x7D :: rest => (decoder.objectPairsHook []).map fun value => (value, rest)
      | rest => do
        let (fields, rest) ← scanFields fuel rest
        let value ← decoder.objectPairsHook fields
        pure (value, rest)
    else if c = 0x5B then
      match skipSpace rest with
      | 0x5D :: rest => some (.list [], rest)
      | rest => (scanItems fuel rest).map fun r => (.list r.1, r.2)
    else decoder.scanToken (c :: rest)

/-- The items of `JSONArray` from the first one on. -/
def scanItems : Nat → PyStr → Option (List PyValue × PyStr)
  | 0, _ => none
  | fuel + 1, s => do
    let (item, rest) ← scanOnce fuel s
    match skipSpace rest with
    | 0x5D :: rest => pure ([item], rest)
    | 0x2C :: rest => do
      let (items, rest) ← scanItems fuel (skipSpace rest)
      pure (item :: items, rest)
    | _ => none

/-- The entries of `JSONObject` from the first one on. -/
def scanFields : Nat → PyStr → Option (List (PyStr × PyValue) × PyStr)
  | 0, _ => none
  | fuel + 1, s =>
    match s with
    | 0x22 :: rest => do
      let (key, rest) ← scanString none rest
      match skipSpace rest with
      | 0x3A :: rest => do
        let (item, rest) ← scanOnce fuel (skipSpace rest)
        match skipSpace rest with
        | 0x7D :: rest => pure ([(key, item)], rest)
        | 0x2C :: rest => do
          let (fields, rest) ← scanFields fuel (skipSpace rest)
          pure ((key, item) :: fields, rest)
        | _ => none
      | _ => none
    | _ => none

end

/-- `json.loads(text)`, or `none` where it raises. -/
def loads (text : PyStr) : Option PyValue :=
  if text.head? = some 0xFEFF then none
  else
    match decoder.scanOnce (text.length + 1) (skipSpace text) with
    | some (value, rest) => if (skipSpace rest).isEmpty then some value else none
    | none => none

end JSONDecoder

/-! ## Bytes -/

/-- The encodings that `json.loads` tells apart. -/
inductive Encoding
  | utf8
  | utf8Sig
  | utf16
  | utf32
  | utf16be
  | utf16le
  | utf32be
  | utf32le
  deriving DecidableEq

/-- `json.detect_encoding`. -/
def detectEncoding (data : Bytes) : Encoding :=
  if [0x00, 0x00, 0xFE, 0xFF].isPrefixOf data || [0xFF, 0xFE, 0x00, 0x00].isPrefixOf data then .utf32
  else if [0xFE, 0xFF].isPrefixOf data || [0xFF, 0xFE].isPrefixOf data then .utf16
  else if [0xEF, 0xBB, 0xBF].isPrefixOf data then .utf8Sig
  else
    match data with
    | a :: b :: c :: d :: _ =>
      if a = 0 then if b = 0 then .utf32be else .utf16be
      else if b = 0 then if c = 0 && d = 0 then .utf32le else .utf16le
      else .utf8
    | [a, b] => if a = 0 then .utf16be else if b = 0 then .utf16le else .utf8
    | _ => .utf8

/-- `data.decode(encoding, "surrogatepass")`; the encodings in units of more than a byte
come from the library. -/
def decodeBytes (wide : Encoding → Bytes → Option PyStr) (encoding : Encoding) (data : Bytes) :
    Option PyStr :=
  match encoding with
  | .utf8 => decodeUtf8 true data
  | .utf8Sig => decodeUtf8 true (data.drop 3)
  | encoding => wide encoding data

end HermesClaude.Python
