/-
# Hashes of tool schemas

A tool schema comes from the host as nested Python values.  Before it is hashed it is
made canonical: mappings are sorted by their keys, sets by the text of their elements, and
what is no JSON is replaced by the name of its type.  A key that is no text becomes a label
with the name of its type, so different keys of one mapping may get the same label, and
of those only the last one is kept.
-/

import HermesClaude.Library.Options
import HermesClaude.Library.StableSort
import HermesClaude.Parity.Hashing
import HermesClaude.Python.JsonAscii

namespace HermesClaude.Prompt

open HermesClaude.Python HermesClaude.Library HermesClaude.Parity

/-- A Python value as `_canonical_value` sees it: what `isinstance` finds, with the name of the
class where that is not determined by it. -/
inductive SchemaValue
  | none
  | bool (b : Bool)
  | int (cls : PyStr) (i : Int)
  | str (cls : PyStr) (s : PyStr)
  | float (cls : PyStr) (f : PyFloat)
  | mapping (cls : PyStr) (items : List (SchemaValue × SchemaValue))
  | /-- A list or a tuple. -/
    sequence (cls : PyStr) (items : List SchemaValue)
  | /-- A set or a frozen set, in the order of its iteration. -/
    set (cls : PyStr) (items : List SchemaValue)
  | bytes (cls : PyStr) (length : Nat)
  | object (cls : PyStr)

namespace SchemaValue

/-- `type(value).__name__`. -/
def typeName : SchemaValue → PyStr
  | .none => lit "NoneType"
  | .bool _ => lit "bool"
  | .int cls _ | .str cls _ | .float cls _ | .mapping cls _ | .sequence cls _ | .set cls _
  | .bytes cls _ | .object cls => cls

/-- `{"__type__": name}`. -/
def typeMarker (name : PyStr) : Json := .dict [(lit "__type__", .str name)]

/-- `{"__float__": str(value)}` of a float that is not finite. -/
def floatMarker (text : String) : Json := .dict [(lit "__float__", .str (lit text))]

/-- `f"<key:{name}>"`. -/
def keyLabel (name : PyStr) : PyStr := lit "<key:" ++ name ++ lit ">"

/-- What a key becomes. -/
def label : SchemaValue → PyStr
  | .str _ name => name
  | key => keyLabel key.typeName

/-- `dict(pairs)`. -/
def dictOf (pairs : List (PyStr × Json)) : List (PyStr × Json) :=
  pairs.foldl (fun entries pair => Json.setItem entries pair.1 pair.2) []

/-- `json.dumps(item, sort_keys=True, separators=(",", ":"))`, with the item. -/
def withText (floats : FloatText) (value : Json) : Option (PyStr × Json) :=
  ((hashEncoder floats).asciiDumps value).map fun text => (text, value)

/-- `sorted(values, key=json.dumps)`. -/
def sortByText (floats : FloatText) (values : List Json) : Option (List Json) :=
  (values.mapM (withText floats)).map fun texts => (sortByKey Prod.fst texts).map Prod.snd

section Canonical

variable (floats : FloatText)

mutual

/-- `_canonical_value`, or `none` where sorting a set raises. -/
def canonicalValue : SchemaValue → Option Json
  | .none => some .null
  | .bool b => some (.bool b)
  | .int _ i => some (.int i)
  | .str _ s => some (.str s)
  | .float _ (.finite q) => some (.float q)
  | .float _ .nan => some (floatMarker "nan")
  | .float _ (.infinite negative) => some (floatMarker (if negative then "-inf" else "inf"))
  | .mapping _ items =>
    (canonicalPairs items).map fun pairs => .dict (dictOf (sortByKey Prod.fst pairs))
  | .sequence _ items => (canonicalItems items).map .list
  | .set _ items => (canonicalItems items).bind fun values => (sortByText floats values).map .list
  | .bytes _ length => some (.dict [(lit "__bytes_length__", .int length)])
  | .object cls => some (typeMarker cls)

/-- `pairs`. -/
def canonicalPairs : List (SchemaValue × SchemaValue) → Option (List (PyStr × Json))
  | [] => some []
  | (key, item) :: rest =>
    (match key with
      | .str _ name => (canonicalValue item).map fun value => (name, value)
      | key => some (keyLabel key.typeName, typeMarker item.typeName)).bind fun pair =>
    (canonicalPairs rest).map fun pairs => pair :: pairs

def canonicalItems : List SchemaValue → Option (List Json)
  | [] => some []
  | item :: rest =>
    (canonicalValue item).bind fun value => (canonicalItems rest).map fun values => value :: values

end

/-- `stable_tool_schema_hash`, or `none` where it raises. -/
def stableToolSchemaHash (schema : SchemaValue) : Option PyStr :=
  (canonicalValue floats schema).bind (sha256Value floats)

end Canonical

/-! ## Well-formed values -/

/-- `isinstance(key, str)`, with the text. -/
def textKey : SchemaValue → Option PyStr
  | .str _ name => some name
  | _ => Option.none

mutual

/-- Floats are floats, and no mapping has a text key twice. -/
def WellFormed : SchemaValue → Prop
  | .float _ (.finite q) => IsDouble q
  | .mapping _ items => (items.filterMap fun item => item.1.textKey).Nodup ∧ WellFormedItems items
  | .sequence _ items | .set _ items => WellFormedList items
  | _ => True

def WellFormedItems : List (SchemaValue × SchemaValue) → Prop
  | [] => True
  | (_, item) :: rest => WellFormed item ∧ WellFormedItems rest

def WellFormedList : List SchemaValue → Prop
  | [] => True
  | item :: rest => WellFormed item ∧ WellFormedList rest

end

theorem wellFormedItems_iff (items : List (SchemaValue × SchemaValue)) :
    WellFormedItems items ↔ ∀ item ∈ items, WellFormed item.2 := by
  induction items with
  | nil => simp [WellFormedItems]
  | cons item rest ih => rw [WellFormedItems, ih, List.forall_mem_cons]

theorem wellFormedList_iff (items : List SchemaValue) :
    WellFormedList items ↔ ∀ item ∈ items, WellFormed item := by
  induction items with
  | nil => simp [WellFormedList]
  | cons item rest ih => rw [WellFormedList, ih, List.forall_mem_cons]

/-! ## Dictionaries of sorted pairs -/

theorem hasKey_iff {entries : List (PyStr × Json)} {key : PyStr} :
    Json.hasKey entries key = true ↔ key ∈ entries.map Prod.fst := by
  rw [Json.hasKey, List.any_eq_true, List.mem_map]
  simp only [beq_iff_eq]

theorem key?_setItem_self (entries : List (PyStr × Json)) (key : PyStr) (value : Json) :
    Json.key? (Json.setItem entries key value) key = some value := by
  cases hkey : Json.hasKey entries key with
  | false =>
    have hnone : entries.lookup key = Option.none := by
      rw [List.lookup_eq_none_iff]
      intro entry hentry
      rw [Json.hasKey, List.any_eq_false] at hkey
      rw [bne_iff_ne]
      intro heq
      exact hkey entry hentry (by simp [heq])
    rw [Json.setItem, hkey, Json.key?]
    simp [List.lookup_append, hnone]
  | true =>
    rw [Json.setItem, if_pos hkey, Json.key?]
    induction entries with
    | nil => cases hkey
    | cons entry rest ih =>
      rw [List.map_cons]
      by_cases hentry : entry.1 = key
      · rw [if_pos hentry, List.lookup_cons_self]
      · have hrest : Json.hasKey rest key = true := by
          rw [Json.hasKey, List.any_cons, Bool.or_eq_true, beq_iff_eq] at hkey
          exact hkey.resolve_left hentry
        have hne : (key == entry.1) = false := beq_eq_false_iff_ne.mpr (Ne.symm hentry)
        rw [if_neg hentry, List.lookup_cons, hne]
        exact ih hrest

theorem key?_setItem (entries : List (PyStr × Json)) (key other : PyStr) (value : Json) :
    Json.key? (Json.setItem entries key value) other =
      if other = key then some value else Json.key? entries other := by
  split
  · next h =>
    subst h
    exact key?_setItem_self entries other value
  · next h => exact key?_setItem_of_ne h entries value

/-- The last pair with a key is the one that counts. -/
theorem key?_dictOf (pairs : List (PyStr × Json)) (key : PyStr) :
    Json.key? (dictOf pairs) key = ((pairs.filter (·.1 = key)).getLast?).map Prod.snd := by
  have hfrom : ∀ entries, Json.key?
      (pairs.foldl (fun entries pair => Json.setItem entries pair.1 pair.2) entries) key =
        (((pairs.filter (·.1 = key)).getLast?).map Prod.snd).or (Json.key? entries key) := by
    induction pairs with
    | nil =>
      intro entries
      rfl
    | cons pair rest ih =>
      intro entries
      rw [List.foldl_cons, ih, key?_setItem]
      by_cases hkey : pair.1 = key
      · rw [List.filter_cons_of_pos (by simpa using hkey), List.getLast?_cons, if_pos hkey.symm]
        cases (rest.filter (·.1 = key)).getLast? <;> rfl
      · rw [List.filter_cons_of_neg (by simpa using hkey), if_neg (Ne.symm hkey)]
  exact (hfrom []).trans Option.or_none

/-- Each key once, in order, as long as the pairs come in order. -/
theorem inKeyOrder_dictOf {pairs : List (PyStr × Json)}
    (h : pairs.Pairwise fun a b => a.1 ≤ b.1) : InKeyOrder Prod.fst (dictOf pairs) := by
  have hfrom : ∀ entries : List (PyStr × Json), (entries.map Prod.fst).Pairwise (· < ·) →
      (∀ key ∈ entries.map Prod.fst, ∀ pair ∈ pairs, key ≤ pair.1) →
        ((pairs.foldl (fun entries pair => Json.setItem entries pair.1 pair.2) entries).map
          Prod.fst).Pairwise (· < ·) := by
    induction pairs with
    | nil =>
      intro entries hentries _
      exact hentries
    | cons pair rest ih =>
      intro entries hentries hle
      rw [List.pairwise_cons] at h
      have hkeys := Json.setItem_keys entries pair.1 pair.2
      have hrest : ∀ key ∈ entries.map Prod.fst, ∀ other ∈ rest, key ≤ other.1 := by
        intro key hkey other hother
        exact hle key hkey other (List.mem_cons_of_mem _ hother)
      apply ih h.2
      · rw [hkeys]
        split
        · exact hentries
        · next hnew =>
          rw [List.pairwise_append]
          refine ⟨hentries, List.pairwise_singleton _ _, ?_⟩
          intro key hkey other hother
          rw [List.mem_singleton.mp hother]
          apply lt_of_le_of_ne (hle key hkey pair List.mem_cons_self)
          rintro rfl
          exact hnew (hasKey_iff.mpr hkey)
      · intro key hkey other hother
        rw [hkeys] at hkey
        split at hkey
        · exact hrest key hkey other hother
        · rw [List.mem_append, List.mem_singleton] at hkey
          rcases hkey with hkey | rfl
          · exact hrest key hkey other hother
          · exact h.1 other hother
  rw [InKeyOrder, ← List.pairwise_map]
  exact hfrom [] List.Pairwise.nil (List.forall_mem_nil _)

theorem nodup_dictOf (pairs : List (PyStr × Json)) :
    ((dictOf (sortByKey Prod.fst pairs)).map Prod.fst).Nodup :=
  (inKeyOrder_dictOf (sorted_sortByKey pairs)).nodup

/-- The values of a dictionary are values of its pairs. -/
theorem values_dictOf {P : Json → Prop} {pairs : List (PyStr × Json)} (h : ∀ pair ∈ pairs, P pair.2) :
    ∀ entry ∈ dictOf pairs, P entry.2 := by
  have hfrom : ∀ entries : List (PyStr × Json), (∀ entry ∈ entries, P entry.2) →
      ∀ entry ∈ pairs.foldl (fun entries pair => Json.setItem entries pair.1 pair.2) entries,
        P entry.2 := by
    induction pairs with
    | nil =>
      intro entries hentries
      exact hentries
    | cons pair rest ih =>
      intro entries hentries
      rw [List.forall_mem_cons] at h
      exact ih h.2 _ (Json.setItem_values hentries pair.1 h.1)
  exact hfrom [] (List.forall_mem_nil _)

/-- The value of a key, which is the one that came last. -/
theorem key?_sorted (pairs : List (PyStr × Json)) (key : PyStr) :
    Json.key? (dictOf (sortByKey Prod.fst pairs)) key =
      ((pairs.filter (·.1 = key)).getLast?).map Prod.snd := by
  rw [key?_dictOf, filter_sortByKey (k := key) (by simp)]

/-! ## Canonical documents -/

/-- A document in the form that is hashed. -/
structure CanonicalDocument (value : Json) : Prop where
  uniqueKeys : value.UniqueKeys
  sorted : value.sortKeys = value
  doubles : value.HasDoubles

theorem sortItems_eq_self {entries : List (PyStr × Json)} (h : InKeyOrder Prod.fst entries) :
    sortItems entries = entries := sortByKey_eq_self h

theorem CanonicalDocument.list {values : List Json} (h : ∀ value ∈ values, CanonicalDocument value) :
    CanonicalDocument (.list values) where
  uniqueKeys := (Json.uniqueKeysList_iff values).mpr fun value hvalue => (h value hvalue).uniqueKeys
  sorted := by
    have hmap : values.map Json.sortKeys = values := by
      conv_rhs => rw [← List.map_id values]
      exact List.map_congr_left fun value hvalue => (h value hvalue).sorted
    rw [Json.sortKeys, Json.sortKeysList_eq, hmap]
  doubles := (Json.hasDoublesList_iff values).mpr fun value hvalue => (h value hvalue).doubles

theorem CanonicalDocument.dict {entries : List (PyStr × Json)} (horder : InKeyOrder Prod.fst entries)
    (h : ∀ entry ∈ entries, CanonicalDocument entry.2) : CanonicalDocument (.dict entries) where
  uniqueKeys :=
    ⟨horder.nodup, (Json.uniqueKeysItems_iff entries).mpr fun entry hentry => (h entry hentry).uniqueKeys⟩
  sorted := by
    have hmap : (entries.map fun entry => (entry.1, entry.2.sortKeys)) = entries := by
      conv_rhs => rw [← List.map_id entries]
      apply List.map_congr_left
      intro entry hentry
      rw [(h entry hentry).sorted]
      rfl
    rw [Json.sortKeys, Json.sortKeysItems_eq, hmap, sortItems_eq_self horder]
  doubles := (Json.hasDoublesItems_iff entries).mpr fun entry hentry => (h entry hentry).doubles

theorem canonical_typeMarker (name : PyStr) : CanonicalDocument (typeMarker name) :=
  .dict (List.pairwise_singleton _ _) (List.forall_mem_singleton.mpr ⟨trivial, rfl, trivial⟩)

theorem canonical_floatMarker (text : String) : CanonicalDocument (floatMarker text) :=
  .dict (List.pairwise_singleton _ _) (List.forall_mem_singleton.mpr ⟨trivial, rfl, trivial⟩)

section Documents

variable {floats : FloatText}

/-- What one item of a mapping becomes. -/
def canonicalPair (floats : FloatText) (item : SchemaValue × SchemaValue) : Option (PyStr × Json) :=
  match item.1 with
  | .str _ name => (canonicalValue floats item.2).map fun value => (name, value)
  | key => some (keyLabel key.typeName, typeMarker item.2.typeName)

theorem canonicalPair_text {key item : SchemaValue} {name : PyStr} (h : key.textKey = some name) :
    canonicalPair floats (key, item) = (canonicalValue floats item).map fun value => (name, value) := by
  cases key <;> cases h
  rfl

theorem canonicalPair_other {key item : SchemaValue} (h : key.textKey = Option.none) :
    canonicalPair floats (key, item) = some (keyLabel key.typeName, typeMarker item.typeName) := by
  cases key <;> cases h <;> rfl

theorem label_text {key : SchemaValue} {name : PyStr} (h : key.textKey = some name) :
    key.label = name := by
  cases key <;> cases h
  rfl

theorem label_other {key : SchemaValue} (h : key.textKey = Option.none) :
    key.label = keyLabel key.typeName := by
  cases key <;> cases h <;> rfl

/-- An item goes under the label of its key. -/
theorem label_of_canonicalPair {item : SchemaValue × SchemaValue} {pair : PyStr × Json}
    (h : canonicalPair floats item = some pair) : pair.1 = item.1.label := by
  rcases item with ⟨key, item⟩
  cases hkey : key.textKey with
  | none =>
    rw [canonicalPair_other hkey, Option.some_inj] at h
    rw [← h, label_other hkey]
  | some name =>
    rw [canonicalPair_text hkey, Option.map_eq_some_iff] at h
    rcases h with ⟨value, -, rfl⟩
    exact (label_text hkey).symm

theorem canonicalPairs_eq (items : List (SchemaValue × SchemaValue)) :
    canonicalPairs floats items = items.mapM (canonicalPair floats) := by
  induction items with
  | nil => rfl
  | cons item rest ih =>
    rcases item with ⟨key, item⟩
    rw [mapM_cons_option, ← ih]
    cases key <;> rfl

theorem canonicalItems_eq (items : List SchemaValue) :
    canonicalItems floats items = items.mapM (canonicalValue floats) := by
  induction items with
  | nil => rfl
  | cons item rest ih => rw [canonicalItems, mapM_cons_option, ih]

theorem withText_eq_some {value : Json} {pair : PyStr × Json} :
    withText floats value = some pair ↔
      (hashEncoder floats).asciiDumps value = some pair.1 ∧ pair.2 = value := by
  rw [withText, Option.map_eq_some_iff]
  constructor
  · intro h
    rcases h with ⟨text, htext, rfl⟩
    exact ⟨htext, rfl⟩
  · intro h
    exact ⟨pair.1, h.1, Prod.ext rfl h.2.symm⟩

theorem map_snd_of_mapM_withText {values : List Json} {texts : List (PyStr × Json)}
    (h : values.mapM (withText floats) = some texts) : texts.map Prod.snd = values := by
  induction values generalizing texts with
  | nil =>
    cases h
    rfl
  | cons value values ih =>
    simp only [mapM_cons_option, Option.bind_eq_some_iff, Option.map_eq_some_iff] at h
    rcases h with ⟨pair, hpair, rest, hrest, rfl⟩
    rw [List.map_cons, ih hrest, (withText_eq_some.mp hpair).2]

/-- Sorting keeps the elements. -/
theorem perm_of_sortByText {values sorted : List Json} (h : sortByText floats values = some sorted) :
    sorted.Perm values := by
  rw [sortByText, Option.map_eq_some_iff] at h
  rcases h with ⟨texts, htexts, rfl⟩
  rw [← map_snd_of_mapM_withText htexts]
  exact (perm_sortByKey texts).map Prod.snd

mutual

/-- What is canonical stays so when its keys are sorted again. -/
theorem canonicalDocument {value : SchemaValue} {document : Json} (hwell : value.WellFormed)
    (h : canonicalValue floats value = some document) : CanonicalDocument document := by
  match value with
  | .none | .bool _ | .int _ _ | .str _ _ =>
    cases h
    exact ⟨trivial, rfl, trivial⟩
  | .float _ (.finite q) =>
    cases h
    exact ⟨trivial, rfl, hwell⟩
  | .float _ .nan | .float _ (.infinite _) =>
    cases h
    exact canonical_floatMarker _
  | .mapping _ items =>
    rw [canonicalValue, Option.map_eq_some_iff] at h
    rcases h with ⟨pairs, hpairs, rfl⟩
    apply CanonicalDocument.dict (inKeyOrder_dictOf (sorted_sortByKey pairs))
    apply values_dictOf
    intro pair hpair
    exact canonicalDocument_pairs hwell.2 hpairs pair ((perm_sortByKey pairs).mem_iff.mp hpair)
  | .sequence _ items =>
    rw [canonicalValue, Option.map_eq_some_iff] at h
    rcases h with ⟨values, hvalues, rfl⟩
    exact .list (canonicalDocument_items hwell hvalues)
  | .set _ items =>
    simp only [canonicalValue, Option.bind_eq_some_iff, Option.map_eq_some_iff] at h
    rcases h with ⟨values, hvalues, sorted, hsorted, rfl⟩
    apply CanonicalDocument.list
    intro value hvalue
    exact canonicalDocument_items hwell hvalues value ((perm_of_sortByText hsorted).mem_iff.mp hvalue)
  | .bytes _ _ =>
    cases h
    exact .dict (List.pairwise_singleton _ _) (List.forall_mem_singleton.mpr ⟨trivial, rfl, trivial⟩)
  | .object _ =>
    cases h
    exact canonical_typeMarker _

theorem canonicalDocument_pairs {items : List (SchemaValue × SchemaValue)} {pairs : List (PyStr × Json)}
    (hwell : WellFormedItems items) (h : canonicalPairs floats items = some pairs) :
    ∀ pair ∈ pairs, CanonicalDocument pair.2 := by
  match items with
  | [] =>
    cases h
    exact List.forall_mem_nil _
  | (key, item) :: rest =>
    rw [canonicalPairs_eq, mapM_cons_option, ← canonicalPairs_eq] at h
    simp only [Option.bind_eq_some_iff, Option.map_eq_some_iff] at h
    rcases h with ⟨pair, hpair, pairs, hpairs, rfl⟩
    rw [List.forall_mem_cons]
    refine ⟨?_, canonicalDocument_pairs hwell.2 hpairs⟩
    cases hkey : key.textKey with
    | none =>
      rw [canonicalPair_other hkey, Option.some_inj] at hpair
      rw [← hpair]
      exact canonical_typeMarker _
    | some name =>
      rw [canonicalPair_text hkey, Option.map_eq_some_iff] at hpair
      rcases hpair with ⟨value, hvalue, rfl⟩
      exact canonicalDocument hwell.1 hvalue

theorem canonicalDocument_items {items : List SchemaValue} {values : List Json}
    (hwell : WellFormedList items) (h : canonicalItems floats items = some values) :
    ∀ value ∈ values, CanonicalDocument value := by
  match items with
  | [] =>
    cases h
    exact List.forall_mem_nil _
  | item :: rest =>
    simp only [canonicalItems, Option.bind_eq_some_iff, Option.map_eq_some_iff] at h
    rcases h with ⟨value, hvalue, values, hvalues, rfl⟩
    rw [List.forall_mem_cons]
    exact ⟨canonicalDocument hwell.1 hvalue, canonicalDocument_items hwell.2 hvalues⟩

end

end Documents

end SchemaValue

end HermesClaude.Prompt
