/-
# The schema language of the bridge

A tool declares its arguments in a bounded subset of JSON schema.  `_valid_schema`
says which schemas are admitted and `_matches_schema` checks arguments against an
admitted one; both recurse into nested schemas, the first with a depth bound that
the second inherits, because nothing deeper is ever admitted.

Schemas are copies made by the bounded copier, so they are plain JSON trees.
-/

import HermesClaude.Bridge.PlainJson

namespace HermesClaude.Bridge

open HermesClaude.Python

/-- `_MAX_NAME_UTF8_BYTES`. -/
def maxNameUtf8Bytes : Nat := 256

/-- `_SCHEMA_KEYS`. -/
def schemaKeys : List PyStr :=
  ["type", "properties", "required", "additionalProperties", "items", "enum", "default", "anyOf",
    "minLength", "maxLength", "minimum", "maximum", "minItems", "maxItems", "description",
    "title"].map lit

/-- `_SCHEMA_TYPES`. -/
def schemaTypes : List PyStr :=
  ["object", "array", "string", "number", "integer", "boolean", "null"].map lit

/-- The keys a schema without a type of its own may not have. -/
def typedKeys : List PyStr :=
  ["properties", "required", "additionalProperties", "items", "minLength", "maxLength", "minimum",
    "maximum", "minItems", "maxItems", "enum"].map lit

section Entries

variable (schema : List (PyStr × Json))

/-- `schema[key]`, or `none` where the key is missing. -/
def entry (key : String) : Option Json := Json.key? schema (lit key)

/-- `schema.get(key)` where `None` means the same as a missing key. -/
def present (key : String) : Option Json :=
  match entry schema key with
  | some .null => none
  | value => value

/-- `any(key in schema for key in keys)`. -/
def hasAny (keys : List String) : Bool := keys.any fun key => Json.hasKey schema (lit key)

/-- The number under a key. -/
def bound (key : String) : Option Rat := (entry schema key).bind Json.number?

/-- The list under a key, empty where there is none. -/
def elements (key : String) : List Json := ((entry schema key).bind Json.list?).getD []

/-- `schema.get("properties", {})`. -/
def properties : List (PyStr × Json) := ((entry schema "properties").bind Json.dict?).getD []

end Entries

/-- `math.isfinite` of an integer raises where it has no `float`. -/
def maxFloatInt : Nat := 2 ^ 1024 - 2 ^ 970

/-- `_is_finite_number`. -/
def isFiniteNumber : Json → Bool
  | .int i => i.natAbs < maxFloatInt
  | .float _ => true
  | _ => false

/-- `_valid_nonnegative_integer`. -/
def validNonnegativeInteger : Json → Bool
  | .int i => 0 ≤ i && i ≤ maxInputUtf8Bytes
  | _ => false

/-- A value under a key, if there is one, passes a check. -/
def checked (schema : List (PyStr × Json)) (key : String) (check : Json → Bool) : Bool :=
  (entry schema key).all check

/-- The lower bound under one key does not exceed the upper bound under another. -/
def ordered (schema : List (PyStr × Json)) (low high : String) : Bool :=
  match bound schema low, bound schema high with
  | some l, some h => l ≤ h
  | _, _ => true

/-- `not any(unicodedata.category(char).startswith("C") for char in name)`, with the
other checks on the name of a property. -/
def validPropertyName (db : UnicodeDatabase) (name : PyStr) : Bool :=
  !name.isEmpty && (utf8Size name).any (fun size => size ≤ maxNameUtf8Bytes) &&
    !name.any db.isOther

/-- The `anyOf` checks of `_valid_schema`. -/
def validAlternatives (valid : Json → Bool) (alternatives : Json) : Bool :=
  match alternatives with
  | .list children => !children.isEmpty && children.length ≤ 16 && children.all valid
  | _ => false

/-- The `object` branch of `_valid_schema`. -/
def validObject (db : UnicodeDatabase) (valid : Json → Bool) (schema : List (PyStr × Json)) :
    Bool :=
  checked schema "properties" (fun v => v.dict?.isSome) &&
    (properties schema).all (fun property => validPropertyName db property.1 && valid property.2) &&
    checked schema "required" (fun v => v.list?.isSome) &&
    (elements schema "required").all
      (fun name => name.str?.any fun s => Json.hasKey (properties schema) s) &&
    checked schema "additionalProperties" (fun v => match v with
      | .bool _ => true
      | _ => false)

/-- The part of `_valid_schema` about a schema with a type. -/
def validTyped (db : UnicodeDatabase) (valid : Json → Bool) (type : PyStr)
    (schema : List (PyStr × Json)) : Bool :=
  checked schema "description" (fun v => v.str?.isSome) &&
    checked schema "title" (fun v => v.str?.isSome) &&
    checked schema "enum" (fun v => ((copyPlainJson Json.view v).bind Json.list?).isSome) &&
    ["minLength", "maxLength", "minItems", "maxItems"].all
      (fun key => checked schema key validNonnegativeInteger) &&
    ordered schema "minLength" "maxLength" && ordered schema "minItems" "maxItems" &&
    ["minimum", "maximum"].all (fun key => checked schema key isFiniteNumber) &&
    ordered schema "minimum" "maximum" &&
    (if type = lit "object" then validObject db valid schema
      else if type = lit "array" then checked schema "items" valid
      else !hasAny schema ["properties", "required", "additionalProperties"]) &&
    (type = lit "string" || !hasAny schema ["minLength", "maxLength"]) &&
    (type = lit "array" || !hasAny schema ["minItems", "maxItems"]) &&
    (type = lit "number" || type = lit "integer" || !hasAny schema ["minimum", "maximum"])

/-- The body of `_valid_schema`, given the check of nested schemas. -/
def validEntries (db : UnicodeDatabase) (valid : Json → Bool) (schema : List (PyStr × Json)) :
    Bool :=
  schema.all (fun item => item.1 ∈ schemaKeys) &&
    checked schema "default" (fun v => (copyPlainJson Json.view v).isSome) &&
    match present schema "type", present schema "anyOf" with
    | none, none => false
    | none, some alternatives =>
      validAlternatives valid alternatives && !typedKeys.any (Json.hasKey schema)
    | some type, alternatives =>
      type.str?.any fun name => name ∈ schemaTypes && alternatives.all (validAlternatives valid) &&
        validTyped db valid name schema

/-- `_valid_schema`; the first argument is how many more levels the depth bound
leaves. -/
def validSchema (db : UnicodeDatabase) : Nat → Json → Bool
  | 0, _ => false
  | levels + 1, schema => schema.dict?.any (validEntries db (validSchema db levels))

/-! ## Matching -/

/-- The `object` branch of `_matches_schema`, for a dictionary. -/
def matchesObject (matched : Json → Json → Bool) (value : List (PyStr × Json))
    (schema : List (PyStr × Json)) : Bool :=
  (elements schema "required").all (fun name => name.str?.any (Json.hasKey value)) &&
    ((match entry schema "additionalProperties" with
      | some (.bool false) => false
      | _ => true) || value.all fun item => Json.hasKey (properties schema) item.1) &&
    value.all fun item => (Json.key? (properties schema) item.1).all (matched item.2)

/-- The `array` branch of `_matches_schema`, for a list. -/
def matchesArray (matched : Json → Json → Bool) (value : List Json)
    (schema : List (PyStr × Json)) : Bool :=
  (bound schema "minItems").all (fun low => decide (low ≤ (value.length : Rat))) &&
    (bound schema "maxItems").all (fun high => decide ((value.length : Rat) ≤ high)) &&
    (present schema "items").all fun item => value.all fun child => matched child item

/-- The `minimum` and `maximum` checks of `_matches_schema`. -/
def withinRange (schema : List (PyStr × Json)) (value : Rat) : Bool :=
  (bound schema "minimum").all (fun low => low ≤ value) &&
    (bound schema "maximum").all fun high => value ≤ high

/-- The scalar branches of `_matches_schema`. -/
def matchesScalar (type : PyStr) (value : Json) (schema : List (PyStr × Json)) : Bool :=
  if type = lit "string" then
    value.str?.any fun s =>
      (bound schema "minLength").all (fun low => decide (low ≤ (s.length : Rat))) &&
        (bound schema "maxLength").all fun high => decide ((s.length : Rat) ≤ high)
  else if type = lit "number" then
    isFiniteNumber value && value.number?.all (withinRange schema)
  else if type = lit "integer" then
    match value with
    | .int i => withinRange schema i
    | _ => false
  else if type = lit "boolean" then
    match value with
    | .bool _ => true
    | _ => false
  else if type = lit "null" then
    match value with
    | .null => true
    | _ => false
  else true

/-- The `enum` check of `_matches_schema`, which objects and arrays never reach. -/
def matchesEnum (value : Json) (schema : List (PyStr × Json)) : Bool :=
  match entry schema "enum" with
  | none => true
  | some _ => (elements schema "enum").any fun item => item.sameType value && item.pyEq value

/-- The body of `_matches_schema`, given the check against nested schemas. -/
def matchesEntries (matched : Json → Json → Bool) (value : Json)
    (schema : List (PyStr × Json)) : Bool :=
  (present schema "anyOf").all
      (fun alternatives => (alternatives.list?.getD []).any fun child => matched value child) &&
    match (present schema "type").bind Json.str? with
    | none => true
    | some type =>
      if type = lit "object" then value.dict?.any fun items => matchesObject matched items schema
      else if type = lit "array" then
        value.list?.any fun items => matchesArray matched items schema
      else matchesScalar type value schema && matchesEnum value schema

/-- `_matches_schema` on schemas with at most the given number of levels. -/
def matchesSchema : Nat → Json → Json → Bool
  | 0, _, _ => false
  | levels + 1, value, schema => schema.dict?.any (matchesEntries (matchesSchema levels) value)

/-! ## Enough levels

An admitted schema is never deeper than the bound it was admitted under, so the
levels do not show in the verdict. -/

section Nested

variable {db : UnicodeDatabase} {valid : Json → Bool} {schema : List (PyStr × Json)}

/-- An admitted schema with a type passed the checks of that type. -/
theorem validTyped_of_validEntries (hvalid : validEntries db valid schema = true) {type : PyStr}
    (htype : (present schema "type").bind Json.str? = some type) :
    validTyped db valid type schema = true := by
  obtain ⟨value, hvalue, hname⟩ := Option.bind_eq_some_iff.mp htype
  simp only [validEntries, hvalue, Bool.and_eq_true] at hvalid
  have htyped := hvalid.2
  simp only [hname, Option.any_some, Bool.and_eq_true] at htyped
  exact htyped.2

/-- The alternatives of an admitted schema are admitted. -/
theorem valid_of_alternative (hvalid : validEntries db valid schema = true) {alternatives : Json}
    (hpresent : present schema "anyOf" = some alternatives) {child : Json}
    (hchild : child ∈ alternatives.list?.getD []) : valid child = true := by
  have halternatives : validAlternatives valid alternatives = true := by
    simp only [validEntries, hpresent, Bool.and_eq_true] at hvalid
    cases htype : present schema "type" with
    | none =>
      simp only [htype, Bool.and_eq_true] at hvalid
      exact hvalid.2.1
    | some type =>
      simp only [htype, Option.any_eq_true, Bool.and_eq_true, Option.all_some] at hvalid
      obtain ⟨_, _, ⟨_, h⟩, _⟩ := hvalid.2
      exact h
  cases alternatives with
  | list children =>
    simp only [validAlternatives, Bool.and_eq_true, List.all_eq_true] at halternatives
    exact halternatives.2 child hchild
  | null | bool | int | float | str | dict => simp [validAlternatives] at halternatives

/-- The properties of an admitted object schema are admitted. -/
theorem valid_of_property (hvalid : validEntries db valid schema = true)
    (htype : (present schema "type").bind Json.str? = some (lit "object")) {name : PyStr}
    {child : Json} (hchild : Json.key? (properties schema) name = some child) :
    valid child = true := by
  have htyped := validTyped_of_validEntries hvalid htype
  simp only [validTyped, Bool.and_eq_true] at htyped
  have hobject : validObject db valid schema = true := by
    simpa only [if_true] using htyped.1.1.1.2
  simp only [validObject, Bool.and_eq_true, List.all_eq_true] at hobject
  obtain ⟨before, after, hsplit, -⟩ := List.lookup_eq_some_iff.mp hchild
  have hmem : (name, child) ∈ properties schema := by rw [hsplit]; simp
  exact (hobject.1.1.1.2 _ hmem).2

/-- The item schema of an admitted array schema is admitted. -/
theorem valid_of_items (hvalid : validEntries db valid schema = true)
    (htype : (present schema "type").bind Json.str? = some (lit "array")) {item : Json}
    (hitem : present schema "items" = some item) : valid item = true := by
  have htyped := validTyped_of_validEntries hvalid htype
  simp only [validTyped, Bool.and_eq_true] at htyped
  have hne : lit "array" ≠ lit "object" := by decide
  have hchecked : checked schema "items" valid = true := by
    simpa only [hne, if_false, if_true] using htyped.1.1.1.2
  have hentry : entry schema "items" = some item := by
    unfold present at hitem
    split at hitem
    · exact absurd hitem (by simp)
    · exact hitem
  simpa [checked, hentry] using hchecked

/-- Two checks of nested schemas that agree on what is consulted agree on an option. -/
theorem all_congr {β : Type} {o : Option β} {p q : β → Bool} (h : ∀ b, o = some b → p b = q b) :
    o.all p = o.all q := by
  cases o with
  | none => rfl
  | some b => exact h b rfl

theorem anyOf_congr (first second : Json → Json → Bool) (value : Json) {alternatives : Json}
    (hsame : ∀ child ∈ alternatives.list?.getD [], first value child = second value child) :
    ((alternatives.list?.getD []).any fun child => first value child) =
      (alternatives.list?.getD []).any fun child => second value child := by
  rw [Bool.eq_iff_iff, List.any_eq_true, List.any_eq_true]
  refine exists_congr fun child => and_congr_right fun hmem => ?_
  rw [hsame child hmem]

theorem matchesObject_congr {first second : Json → Json → Bool} (items : List (PyStr × Json))
    (hsame : ∀ name child, Json.key? (properties schema) name = some child →
      ∀ value, first value child = second value child) :
    matchesObject first items schema = matchesObject second items schema := by
  have hchildren : ∀ item : PyStr × Json,
      (Json.key? (properties schema) item.1).all (first item.2) =
        (Json.key? (properties schema) item.1).all (second item.2) :=
    fun item => all_congr fun child hchild => hsame item.1 child hchild item.2
  simp only [matchesObject, hchildren]

theorem matchesArray_congr {first second : Json → Json → Bool} (items : List Json)
    (hsame : ∀ item, present schema "items" = some item →
      ∀ value, first value item = second value item) :
    matchesArray first items schema = matchesArray second items schema := by
  have hitems : (present schema "items").all (fun item => items.all fun child => first child item) =
      (present schema "items").all fun item => items.all fun child => second child item := by
    refine all_congr fun item hitem => ?_
    simp only [hsame item hitem]
  simp only [matchesArray, hitems]

/-- The matcher consults admitted nested schemas only. -/
theorem matchesEntries_congr {first second : Json → Json → Bool}
    (hvalid : validEntries db valid schema = true)
    (hsame : ∀ child, valid child = true → ∀ value, first value child = second value child)
    (value : Json) : matchesEntries first value schema = matchesEntries second value schema := by
  have hanyOf := all_congr (o := present schema "anyOf") fun alternatives hpresent =>
    anyOf_congr first second value fun child hchild =>
      hsame child (valid_of_alternative hvalid hpresent hchild) value
  unfold matchesEntries
  rw [hanyOf]
  congr 1
  cases htype : (present schema "type").bind Json.str? with
  | none => rfl
  | some type =>
    by_cases hobject : type = lit "object"
    · subst hobject
      have hproperty := fun items => matchesObject_congr items
        fun name child hchild => hsame child (valid_of_property hvalid htype hchild)
      simp only [hproperty, if_true]
    · by_cases harray : type = lit "array"
      · subst harray
        have hitem := fun items => matchesArray_congr items
          fun item hitem => hsame item (valid_of_items hvalid htype hitem)
        simp only [hitem, hobject, if_true, if_false]
      · simp only [hobject, harray, if_false]

end Nested

/-- **Enough levels.** Against an admitted schema the matcher gives one verdict at
every number of levels from the admitted one on. -/
theorem matchesSchema_of_valid {db : UnicodeDatabase} {levels : Nat} {schema : Json}
    (hvalid : validSchema db levels schema = true) (more : Nat) (value : Json) :
    matchesSchema (levels + more) value schema = matchesSchema levels value schema := by
  induction levels generalizing schema value with
  | zero => exact absurd hvalid (by simp [validSchema])
  | succ levels ih =>
    rw [validSchema, Option.any_eq_true] at hvalid
    obtain ⟨entries, hentries, hvalid⟩ := hvalid
    rw [Nat.add_right_comm, matchesSchema, matchesSchema, hentries]
    exact matchesEntries_congr hvalid (fun child hchild value => ih hchild value) value

end HermesClaude.Bridge
