/-
# Canonical JSON

The helpers that the parity contract hashes documents with: a value is copied into plain
JSON with normalised strings, bounds are checked on the way, and the copy is written with
sorted keys.  Loading text checks the result again.

Unicode normalisation is taken from the library.  All that is known of it is that it is
idempotent.
-/

import HermesClaude.Python.JsonCodec

namespace HermesClaude.Parity

open HermesClaude.Python

/-- The parts of the standard library that canonical JSON rests on. -/
structure CanonicalLibrary where
  /-- `unicodedata.normalize("NFC", text)`. -/
  nfc : PyStr → PyStr
  nfc_nfc : ∀ text, nfc (nfc text) = nfc text
  floats : FloatText
  /-- `bytes.decode` of the UTF-16 and UTF-32 encodings. -/
  decodeWide : Encoding → Bytes → Option PyStr

/-- `MAX_STRING_LENGTH`. -/
def maxStringLength : Nat := 4096

/-- `MAX_COLLECTION_LENGTH`. -/
def maxCollectionLength : Nat := 4096

/-- `_is_control_bearing`. -/
def isControlBearing (value : PyStr) : Bool := value.any CodePoint.isAsciiControl

/-- `validate_identifier`, with the message of the error that it raises. -/
def validateIdentifier (value : PyValue) (field : PyStr) (maxLength : Nat := 128) :
    Except PyStr PyStr :=
  match value with
  | .str s =>
    match utf8Size s with
    | none => .error (lit "surrogates not allowed")
    | some size =>
      if s.isEmpty || size > min maxLength 128 || s ≠ strip s then
        .error (field ++ lit " is not a bounded identifier")
      else if s.any (fun c => c.val ≥ 128) || !s.all CodePoint.isIdentifier then
        .error (field ++ lit " has an invalid grammar")
      else if isControlBearing s then .error (field ++ lit " contains a control character")
      else .ok s
  | _ => .error (field ++ lit " must be a string")

section Canonicalize

variable (library : CanonicalLibrary)

/-- `_canonical_value` of a string. -/
def canonicalText (path : PyStr) (s : PyStr) : Except PyStr Json :=
  let value := library.nfc s
  if value.length > maxStringLength then .error (path ++ lit " contains an oversized string")
  else if isControlBearing value then .error (path ++ lit " contains a control character")
  else .ok (.str value)

mutual

/-- `_canonical_value`, with the message of the error that it raises. -/
def canonicalValue (path : PyStr) (maxDepth : Int) (value : PyValue) : Except PyStr Json :=
  if maxDepth < 0 then .error (path ++ lit " exceeds maximum nesting depth")
  else
    match value with
    | .none => .ok .null
    | .bool b => .ok (.bool b)
    | .int i => .ok (.int i)
    | .str s => canonicalText library path s
    | .float (.finite q) => .ok (.float q)
    | .float _ => .error (path ++ lit " contains a non-finite number")
    | .dict items =>
      if items.length > maxCollectionLength then
        .error (path ++ lit " contains too many object fields")
      else (canonicalItems path maxDepth [] items).map .dict
    | .list items | .tuple items =>
      if items.length > maxCollectionLength then
        .error (path ++ lit " contains too many array items")
      else (canonicalList path maxDepth 0 items).map .list
    | .bytes _ | .set _ | .object _ _ => .error (path ++ lit " contains an unsupported value")

/-- The loop over the items of a mapping, with what it has built so far. -/
def canonicalItems (path : PyStr) (maxDepth : Int) (result : List (PyStr × Json))
    (items : List (PyValue × PyValue)) : Except PyStr (List (PyStr × Json)) :=
  match items with
  | [] => .ok result
  | (.str key, item) :: items =>
    if key.length > maxStringLength || isControlBearing key then
      .error (path ++ lit " contains an unsafe object key")
    else if Json.hasKey result (library.nfc key) then
      .error (path ++ lit " contains duplicate object keys")
    else
      (canonicalValue (path ++ lit "." ++ key) (maxDepth - 1) item).bind fun value =>
        canonicalItems path maxDepth (result ++ [(library.nfc key, value)]) items
  | _ :: _ => .error (path ++ lit " contains a non-string object key")

/-- The elements of an array from an index on. -/
def canonicalList (path : PyStr) (maxDepth : Int) (index : Nat) (items : List PyValue) :
    Except PyStr (List Json) :=
  match items with
  | [] => .ok []
  | item :: items =>
    (canonicalValue (path ++ lit "[" ++ decimal index ++ lit "]") (maxDepth - 1) item).bind fun value =>
      (canonicalList path maxDepth (index + 1) items).map fun values => value :: values

end

/-- `canonicalize`. -/
def canonicalize (value : PyValue) : Except PyStr Json :=
  canonicalValue library (lit "$") 64 value

/-- The encoder of canonical JSON: no blanks, sorted keys. -/
def canonicalEncoder (library : CanonicalLibrary) : JSONEncoder where
  floats := library.floats
  indent := none
  keySeparator := lit ":"

/-- `json.dumps(..).encode("utf-8")`. -/
def encodeCanonical (value : Json) : Except PyStr Bytes :=
  match ((canonicalEncoder library).dumps value).bind encodeUtf8 with
  | some data => .ok data
  | none => .error (lit "value cannot be encoded as canonical JSON")

/-- `canonical_json_bytes`. -/
def canonicalJsonBytes (value : PyValue) (omitKeys : List PyStr := []) : Except PyStr Bytes := do
  let safe ← canonicalize library value
  if omitKeys.isEmpty then encodeCanonical library safe
  else
    match safe with
    | .dict items =>
      for key in omitKeys do
        let _ ← validateIdentifier (.str key) (lit "omitted key")
      encodeCanonical library (.dict (items.filter fun item => item.1 ∉ omitKeys))
    | _ => .error (lit "hash-field omission requires a root object")

/-- The decoder of `load_json`: repeated keys and the constants that are not JSON are
refused. -/
def strictDecoder (library : CanonicalLibrary) : JSONDecoder where
  floats := library.floats
  parseConstant _ := none
  objectPairsHook fields :=
    if (fields.map Prod.fst).Nodup then
      some (.dict (fields.map fun field => (.str field.1, field.2)))
    else none

/-- `load_json`, or `none` where it raises. -/
def loadJson (data : PyValue) : Option Json :=
  let loaded := match data with
    | .str text => (strictDecoder library).loads text
    | .bytes data =>
      (decodeBytes library.decodeWide (detectEncoding data) data).bind (strictDecoder library).loads
    | _ => none
  loaded.bind fun value => (canonicalize library value).toOption

end Canonicalize

end HermesClaude.Parity
