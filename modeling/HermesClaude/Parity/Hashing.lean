/-
# Hashes of documents

A document is hashed as the UTF-8 bytes of its text with sorted keys.  Integers with too
many digits and lone surrogates have no such text, and the hash raises.
-/

import HermesClaude.Library.Sha256
import HermesClaude.Python.JsonSorted

namespace HermesClaude.Parity

open HermesClaude.Python HermesClaude.Library

/-- `hashlib.sha256(data).hexdigest()`. -/
def hexdigest (data : Bytes) : PyStr :=
  (Sha256.hexDigest data).map CodePoint.ofHexDigit

/-- A character of `[0-9a-f]`. -/
def isLowerHex (c : CodePoint) : Bool :=
  (0x30 ≤ c.val && c.val ≤ 0x39) || (0x61 ≤ c.val && c.val ≤ 0x66)

/-- A text of so many characters of `[0-9a-f]`. -/
def isHex (length : Nat) (text : PyStr) : Bool :=
  text.length = length && text.all isLowerHex

theorem isLowerHex_ofHexDigit : ∀ n < 16, isLowerHex (.ofHexDigit n) = true := by decide

theorem isHex_hexdigest (data : Bytes) : isHex 64 (hexdigest data) = true := by
  rw [isHex, hexdigest, List.length_map, Sha256.length_hexDigest, Bool.and_eq_true]
  refine ⟨rfl, ?_⟩
  rw [List.all_map, List.all_eq_true]
  intro n hn
  exact isLowerHex_ofHexDigit n (Sha256.hexDigest_lt hn)

/-- The encoder of hashed documents. -/
def hashEncoder (floats : FloatText) : JSONEncoder where
  floats
  indent := none
  keySeparator := lit ":"

/-- `hashing.canonical_json_bytes`, or `none` where it raises. -/
def jsonBytes (floats : FloatText) (value : Json) : Option Bytes :=
  ((hashEncoder floats).dumps value).bind encodeUtf8

/-- `sha256_value`, or `none` where it raises. -/
def sha256Value (floats : FloatText) (value : Json) : Option PyStr :=
  (jsonBytes floats value).map hexdigest

mutual

/-- `json_compatible`, or `none` where it raises. -/
def jsonCompatible : PyValue → Option Json
  | .none => some .null
  | .bool b => some (.bool b)
  | .int i => some (.int i)
  | .str s => some (.str s)
  | .float (.finite q) => some (.float q)
  | .float _ => none
  | .dict items => (jsonCompatibleItems [] items).map .dict
  | .list items | .tuple items => (jsonCompatibleList items).map .list
  | .bytes _ | .set _ | .object _ _ => none

/-- The loop over the items of a mapping, with what it has built so far. -/
def jsonCompatibleItems (result : List (PyStr × Json)) :
    List (PyValue × PyValue) → Option (List (PyStr × Json))
  | [] => some result
  | (.str key, item) :: items =>
    (jsonCompatible item).bind fun value => jsonCompatibleItems (Json.setItem result key value) items
  | _ :: _ => none

def jsonCompatibleList : List PyValue → Option (List Json)
  | [] => some []
  | item :: items =>
    (jsonCompatible item).bind fun value => (jsonCompatibleList items).map fun values => value :: values

end

mutual

/-- A document is compatible with itself. -/
theorem jsonCompatible_toValue {value : Json} (h : value.UniqueKeys) :
    jsonCompatible value.toValue = some value := by
  match value with
  | .null | .bool _ | .int _ | .float _ | .str _ => rfl
  | .list items =>
    rw [Json.toValue, jsonCompatible, jsonCompatibleList_toValue h]
    rfl
  | .dict items =>
    rw [Json.toValue, jsonCompatible, jsonCompatibleItems_toValue [] h.2]
    · rfl
    · exact h.1

theorem jsonCompatibleList_toValue {items : List Json} (h : Json.UniqueKeysList items) :
    jsonCompatibleList (Json.toValueList items) = some items := by
  match items with
  | [] => rfl
  | item :: items =>
    rw [Json.toValueList, jsonCompatibleList, jsonCompatible_toValue h.1,
      jsonCompatibleList_toValue h.2]
    rfl

theorem jsonCompatibleItems_toValue {items : List (PyStr × Json)} (result : List (PyStr × Json))
    (h : Json.UniqueKeysItems items) (hunique : ((result ++ items).map Prod.fst).Nodup) :
    jsonCompatibleItems result (Json.toValueItems items) = some (result ++ items) := by
  match items with
  | [] => rw [Json.toValueItems, jsonCompatibleItems, List.append_nil]
  | (key, item) :: items =>
    have hfresh : key ∉ result.map Prod.fst := by
      rw [List.map_append, List.map_cons] at hunique
      intro hmem
      exact (List.nodup_append.mp hunique).2.2 key hmem key List.mem_cons_self rfl
    have hrest : jsonCompatibleItems (result ++ [(key, item)]) (Json.toValueItems items) =
        some (result ++ [(key, item)] ++ items) := by
      apply jsonCompatibleItems_toValue _ h.2
      rw [List.append_assoc]
      exact hunique
    rw [Json.toValueItems, jsonCompatibleItems, jsonCompatible_toValue h.1, Option.bind_some,
      Json.setItem_of_notMem hfresh, hrest, List.append_assoc]
    rfl

end

/-! ## No key twice -/

mutual

/-- The copy of a document has no key twice. -/
theorem uniqueKeys_of_jsonCompatible {value : PyValue} {copy : Json}
    (h : jsonCompatible value = some copy) : copy.UniqueKeys := by
  match value with
  | .none | .bool _ | .int _ | .str _ | .float (.finite _) =>
    cases h
    trivial
  | .float .nan | .float (.infinite _) | .bytes _ | .set _ | .object _ _ => cases h
  | .list items | .tuple items =>
    rw [jsonCompatible, Option.map_eq_some_iff] at h
    obtain ⟨copies, hcopies, rfl⟩ := h
    exact uniqueKeys_of_jsonCompatibleList hcopies
  | .dict items =>
    rw [jsonCompatible, Option.map_eq_some_iff] at h
    obtain ⟨copies, hcopies, rfl⟩ := h
    exact uniqueKeys_of_jsonCompatibleItems hcopies List.nodup_nil trivial

theorem uniqueKeys_of_jsonCompatibleList {items : List PyValue} {copies : List Json}
    (h : jsonCompatibleList items = some copies) : Json.UniqueKeysList copies := by
  match items with
  | [] =>
    cases h
    trivial
  | item :: items =>
    rw [jsonCompatibleList, Option.bind_eq_some_iff] at h
    obtain ⟨copy, hcopy, h⟩ := h
    rw [Option.map_eq_some_iff] at h
    obtain ⟨copies, hcopies, rfl⟩ := h
    exact ⟨uniqueKeys_of_jsonCompatible hcopy, uniqueKeys_of_jsonCompatibleList hcopies⟩

theorem uniqueKeys_of_jsonCompatibleItems {result copies : List (PyStr × Json)}
    {items : List (PyValue × PyValue)} (h : jsonCompatibleItems result items = some copies)
    (hunique : (result.map Prod.fst).Nodup) (hvalues : Json.UniqueKeysItems result) :
    (Json.dict copies).UniqueKeys := by
  match items with
  | [] =>
    cases h
    exact ⟨hunique, hvalues⟩
  | (.str key, item) :: items =>
    rw [jsonCompatibleItems, Option.bind_eq_some_iff] at h
    obtain ⟨copy, hcopy, h⟩ := h
    apply uniqueKeys_of_jsonCompatibleItems h (Json.setItem_nodup hunique key copy)
    rw [Json.uniqueKeysItems_iff] at hvalues ⊢
    exact Json.setItem_values hvalues key (uniqueKeys_of_jsonCompatible hcopy)
  | (.none, _) :: _ | (.bool _, _) :: _ | (.int _, _) :: _ | (.float _, _) :: _ |
    (.bytes _, _) :: _ | (.list _, _) :: _ | (.tuple _, _) :: _ | (.set _, _) :: _ |
    (.dict _, _) :: _ | (.object _ _, _) :: _ => cases h

end

/-! ## Looking keys up -/

/-- Setting a key changes no other one. -/
theorem key?_setItem_of_ne {key key' : PyStr} (hne : key' ≠ key) (items : List (PyStr × Json))
    (value : Json) : Json.key? (Json.setItem items key value) key' = Json.key? items key' := by
  have hno : (key' == key) = false := by
    rw [beq_eq_false_iff_ne]
    exact hne
  unfold Json.setItem
  split
  · clear * - hno
    induction items with
    | nil => rfl
    | cons item items ih =>
      rw [Json.key?, Json.key?] at ih ⊢
      rw [List.map_cons, List.lookup_cons, ih, List.lookup_cons]
      by_cases hkey : item.1 = key
      · rw [if_pos hkey, hkey, hno]
      · rw [if_neg hkey]
  · rw [Json.key?, List.lookup_append, List.lookup_cons, hno]
    exact Option.or_none

/-- An entry stays as it is when its key does not come again. -/
theorem key?_of_jsonCompatibleItems {result copies : List (PyStr × Json)}
    {items : List (PyValue × PyValue)} {key : PyStr}
    (h : jsonCompatibleItems result items = some copies)
    (hno : ∀ item ∈ items, item.1.isText key = false) :
    Json.key? copies key = Json.key? result key := by
  match items with
  | [] =>
    cases h
    rfl
  | (.str key', item) :: items =>
    obtain ⟨hfirst, hrest⟩ := List.forall_mem_cons.mp hno
    rw [jsonCompatibleItems, Option.bind_eq_some_iff] at h
    obtain ⟨copy, -, h⟩ := h
    have hne : key ≠ key' := by
      rintro rfl
      simp [PyValue.isText] at hfirst
    rw [key?_of_jsonCompatibleItems h hrest, key?_setItem_of_ne hne]
  | (.none, _) :: _ | (.bool _, _) :: _ | (.int _, _) :: _ | (.float _, _) :: _ |
    (.bytes _, _) :: _ | (.list _, _) :: _ | (.tuple _, _) :: _ | (.set _, _) :: _ |
    (.dict _, _) :: _ | (.object _ _, _) :: _ => cases h

/-! ## Hashes do not depend on the order of keys -/

theorem sha256Value_dict_of_perm (floats : FloatText) {items items' : List (PyStr × Json)}
    (hperm : items.Perm items') (hunique : (items.map Prod.fst).Nodup) :
    sha256Value floats (.dict items) = sha256Value floats (.dict items') := by
  rw [sha256Value, jsonBytes, JSONEncoder.dumps, JSONEncoder.encode_dict_of_perm hperm hunique]
  rfl

theorem sha256Value_sortKeys (floats : FloatText) {value : Json} (hunique : value.UniqueKeys) :
    sha256Value floats value.sortKeys = sha256Value floats value := by
  rw [sha256Value, jsonBytes, JSONEncoder.dumps, JSONEncoder.encode_sortKeys 0 hunique]
  rfl

end HermesClaude.Parity
