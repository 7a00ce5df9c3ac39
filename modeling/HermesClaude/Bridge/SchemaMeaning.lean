/-
# What a schema means

A schema is a set of constraint keywords.  Each keyword constrains the values of its own
kind, wherever the schema has it, and a nested schema constrains the value at its place.
This module states that meaning without looking at the matcher and says exactly where the
matcher keeps to it.

There are two ways in which it does not.  Its branches for objects and arrays return
before they get to `enum`, so a listed set of objects or arrays is no constraint at all.
And an integer too large for a `float` is no `number`, although it is an `integer`.
-/

import HermesClaude.Bridge.Schema
import Mathlib.Logic.Relation

namespace HermesClaude.Bridge

open HermesClaude.Python

/-! ## The meaning -/

/-- Whether a value has the type a schema names. -/
def hasType (type : PyStr) : Json → Bool
  | .dict _ => type = lit "object"
  | .list _ => type = lit "array"
  | .str _ => type = lit "string"
  | .int _ => type = lit "integer" || type = lit "number"
  | .float _ => type = lit "number"
  | .bool _ => type = lit "boolean"
  | .null => type = lit "null"

mutual

/-- Whether two values are equal with the same types at every depth. -/
def alike : Json → Json → Bool
  | .null, .null => true
  | .bool a, .bool b => a == b
  | .int i, .int j => i == j
  | .float p, .float q => p == q
  | .str s, .str t => s == t
  | .list xs, .list ys => alikeList xs ys
  | .dict xs, .dict ys => xs.length == ys.length && alikeItems xs ys
  | _, _ => false

/-- Whether two lists are alike element by element. -/
def alikeList : List Json → List Json → Bool
  | [], [] => true
  | x :: xs, y :: ys => alike x y && alikeList xs ys
  | _, _ => false

/-- Whether every entry has one that is alike under its key. -/
def alikeItems : List (PyStr × Json) → List (PyStr × Json) → Bool
  | [], _ => true
  | (key, x) :: xs, ys =>
    (match Json.key? ys key with
      | some y => alike x y
      | none => false) && alikeItems xs ys

end

/-- The number a value is, if it is one: `True` is none. -/
def numeric? : Json → Option Rat
  | .int i => some i
  | .float q => some q
  | _ => none

/-- The type a schema names. -/
def typeOf (schema : List (PyStr × Json)) : Option PyStr := (present schema "type").bind Json.str?

/-- `value` satisfies one of the alternatives of the schema, if it has any. -/
def AnyOf (nested : Json → Json → Prop) (value : Json) (schema : List (PyStr × Json)) : Prop :=
  ∀ alternatives, present schema "anyOf" = some alternatives →
    ∃ child ∈ alternatives.list?.getD [], nested value child

/-- `value` meets every keyword of the schema but `enum`, where `nested` says which values
satisfy the nested schemas. -/
structure Meets (nested : Json → Json → Prop) (value : Json) (schema : List (PyStr × Json)) :
    Prop where
  type : ∀ type, typeOf schema = some type → hasType type value = true
  anyOf : AnyOf nested value schema
  required : ∀ items, value = .dict items → ∀ name ∈ elements schema "required",
    ∃ s, name = .str s ∧ Json.hasKey items s = true
  properties : ∀ items, value = .dict items → ∀ item ∈ items, ∀ child,
    Json.key? (properties schema) item.1 = some child → nested item.2 child
  additionalProperties : entry schema "additionalProperties" = some (.bool false) →
    ∀ items, value = .dict items → ∀ item ∈ items,
      Json.hasKey (Bridge.properties schema) item.1 = true
  items : ∀ child, present schema "items" = some child →
    ∀ items, value = .list items → ∀ item ∈ items, nested item child
  minItems : ∀ low, bound schema "minItems" = some low →
    ∀ items, value = .list items → low ≤ items.length
  maxItems : ∀ high, bound schema "maxItems" = some high →
    ∀ items, value = .list items → (items.length : Rat) ≤ high
  minLength : ∀ low, bound schema "minLength" = some low →
    ∀ s, value = .str s → low ≤ s.length
  maxLength : ∀ high, bound schema "maxLength" = some high →
    ∀ s, value = .str s → (s.length : Rat) ≤ high
  minimum : ∀ low, bound schema "minimum" = some low →
    ∀ number, numeric? value = some number → low ≤ number
  maximum : ∀ high, bound schema "maximum" = some high →
    ∀ number, numeric? value = some number → number ≤ high

/-- `value` meets the keyword `enum`: it is like one of the listed values. -/
def Listed (value : Json) (schema : List (PyStr × Json)) : Prop :=
  (entry schema "enum").isSome = true → ∃ member ∈ elements schema "enum", alike member value = true

/-- **Satisfaction**: the value meets every keyword, at every depth. -/
inductive Satisfies : Json → Json → Prop
  | intro {value : Json} {schema : List (PyStr × Json)} {nested : Json → Json → Prop}
      (sound : ∀ v s, nested v s → Satisfies v s) (meets : Meets nested value schema)
      (listed : Listed value schema) : Satisfies value (.dict schema)

/-- A larger set of satisfied nested schemas. -/
theorem Meets.mono {first second : Json → Json → Prop} {value : Json}
    {schema : List (PyStr × Json)} (h : Meets first value schema)
    (hsub : ∀ v s, first v s → second v s) : Meets second value schema :=
  { h with
    anyOf := fun alternatives hpresent =>
      (h.anyOf alternatives hpresent).imp fun _ hchild => ⟨hchild.1, hsub _ _ hchild.2⟩
    properties := fun items hvalue item hitem child hchild =>
      hsub _ _ (h.properties items hvalue item hitem child hchild)
    items := fun child hchild items hvalue item hitem =>
      hsub _ _ (h.items child hchild items hvalue item hitem) }

theorem satisfies_iff {value : Json} {schema : List (PyStr × Json)} :
    Satisfies value (.dict schema) ↔ Meets Satisfies value schema ∧ Listed value schema := by
  constructor
  · rintro ⟨sound, meets, listed⟩
    exact ⟨meets.mono sound, listed⟩
  · rintro ⟨meets, listed⟩
    exact .intro (fun _ _ => id) meets listed

theorem dict?_eq_some {value : Json} {items : List (PyStr × Json)} :
    value.dict? = some items ↔ value = .dict items := by
  cases value <;> simp [Json.dict?]

theorem list?_eq_some {value : Json} {items : List Json} :
    value.list? = some items ↔ value = .list items := by
  cases value <;> simp [Json.list?]

/-! ## What the matcher checks -/

section Checks

variable {matched : Json → Json → Bool} {schema : List (PyStr × Json)}

theorem matchesObject_iff {items : List (PyStr × Json)} :
    matchesObject matched items schema = true ↔
      (∀ name ∈ elements schema "required", ∃ s, name = .str s ∧ Json.hasKey items s = true) ∧
      (entry schema "additionalProperties" = some (.bool false) →
        ∀ item ∈ items, Json.hasKey (properties schema) item.1 = true) ∧
      ∀ item ∈ items, ∀ child, Json.key? (properties schema) item.1 = some child →
        matched item.2 child = true := by
  have hrequired : ∀ name : Json, name.str?.any (Json.hasKey items) = true ↔
      ∃ s, name = .str s ∧ Json.hasKey items s = true := by
    intro name
    cases name <;> simp [Json.str?]
  unfold matchesObject
  rw [Bool.and_eq_true, Bool.and_eq_true, and_assoc]
  refine and_congr ?_ (and_congr ?_ ?_)
  · simp only [List.all_eq_true, hrequired]
  · split
    · rename_i hclosed
      simp [hclosed]
    · rename_i hother
      simp only [Bool.true_or, true_iff]
      exact fun hclosed => (hother hclosed).elim
  · simp only [List.all_eq_true, Option.all_eq_true]

theorem matchesArray_iff {items : List Json} :
    matchesArray matched items schema = true ↔
      (∀ low, bound schema "minItems" = some low → low ≤ items.length) ∧
      (∀ high, bound schema "maxItems" = some high → (items.length : Rat) ≤ high) ∧
      ∀ child, present schema "items" = some child → ∀ item ∈ items, matched item child = true := by
  unfold matchesArray
  rw [Bool.and_eq_true, Bool.and_eq_true, and_assoc]
  simp only [List.all_eq_true, Option.all_eq_true, decide_eq_true_eq]

theorem withinRange_iff {number : Rat} :
    withinRange schema number = true ↔ (∀ low, bound schema "minimum" = some low → low ≤ number) ∧
      ∀ high, bound schema "maximum" = some high → number ≤ high := by
  unfold withinRange
  rw [Bool.and_eq_true]
  simp only [Option.all_eq_true, decide_eq_true_eq]

/-- The scalar branches check the type, and the bounds of that type. -/
theorem matchesScalar_iff {type : PyStr} (hknown : type ∈ schemaTypes)
    (hobject : type ≠ lit "object") (harray : type ≠ lit "array") {value : Json} :
    matchesScalar type value schema = true ↔
      hasType type value = true ∧
      (type = lit "number" → isFiniteNumber value = true) ∧
      (∀ low, bound schema "minLength" = some low → ∀ s, value = .str s → low ≤ s.length) ∧
      (∀ high, bound schema "maxLength" = some high →
        ∀ s, value = .str s → (s.length : Rat) ≤ high) ∧
      (∀ low, bound schema "minimum" = some low →
        ∀ number, numeric? value = some number → low ≤ number) ∧
      ∀ high, bound schema "maximum" = some high →
        ∀ number, numeric? value = some number → number ≤ high := by
  simp only [schemaTypes, List.map_cons, List.map_nil, List.mem_cons, List.not_mem_nil,
    or_false] at hknown
  rcases hknown with rfl | rfl | rfl | rfl | rfl | rfl | rfl
  · exact absurd rfl hobject
  · exact absurd rfl harray
  · cases value <;> simp +decide [matchesScalar, hasType, numeric?, Json.str?, Option.all_eq_true]
  · cases value <;> simp +decide [matchesScalar, hasType, numeric?, Json.number?, isFiniteNumber,
      withinRange_iff]
  · cases value <;> simp +decide [matchesScalar, hasType, numeric?, withinRange_iff]
  · cases value <;> simp +decide [matchesScalar, hasType, numeric?]
  · cases value <;> simp +decide [matchesScalar, hasType, numeric?]

/-- On a value without parts, the same type and Python's `==` is being alike. -/
theorem alike_eq_pyEq (member : Json) {value : Json} (hdict : value.dict? = none)
    (hlist : value.list? = none) :
    alike member value = (member.sameType value && member.pyEq value) := by
  cases value with
  | list items => cases hlist
  | dict items => cases hdict
  | bool b =>
    cases member with
    | bool a => cases a <;> cases b <;> rfl
    | null | int | float | str | list | dict => rfl
  | null | int | float | str =>
    cases member <;> simp [alike, Json.sameType, Json.pyEq, Json.number?, Json.str?, eq_comm]

theorem matchesEnum_iff {value : Json} (hdict : value.dict? = none) (hlist : value.list? = none) :
    matchesEnum value schema = true ↔ Listed value schema := by
  unfold matchesEnum Listed
  cases hentry : entry schema "enum" with
  | none => simp
  | some members => simp [alike_eq_pyEq _ hdict hlist]

end Checks

/-! ## Where a nested schema is consulted -/

/-- One level down: a nested schema, at the value it is consulted for. -/
inductive Below : Json × Json → Json × Json → Prop
  | /-- An alternative, for the value itself. -/
    alternative {value alternatives child : Json} {schema : List (PyStr × Json)}
      (hpresent : present schema "anyOf" = some alternatives)
      (hchild : child ∈ alternatives.list?.getD []) :
      Below (value, .dict schema) (value, child)
  | /-- The schema of a property, for an entry of an object. -/
    property {items : List (PyStr × Json)} {item : PyStr × Json} {child : Json}
      {schema : List (PyStr × Json)} (htype : typeOf schema = some (lit "object"))
      (hitem : item ∈ items) (hchild : Json.key? (properties schema) item.1 = some child) :
      Below (.dict items, .dict schema) (item.2, child)
  | /-- The schema of the items, for an element of an array. -/
    element {items : List Json} {item child : Json} {schema : List (PyStr × Json)}
      (htype : typeOf schema = some (lit "array")) (hitem : item ∈ items)
      (hchild : present schema "items" = some child) :
      Below (.list items, .dict schema) (item, child)

/-- A schema whose values have parts. -/
def IsContainer (schema : List (PyStr × Json)) : Prop :=
  typeOf schema = some (lit "object") ∨ typeOf schema = some (lit "array")

section Levels

variable {db : UnicodeDatabase} {valid : Json → Bool} {matched : Json → Json → Bool}
  {schema : List (PyStr × Json)} {value : Json}

/-- The nested schemas of an admitted schema are admitted. -/
theorem Below.admitted (hvalid : validEntries db valid schema = true) {v s : Json}
    (h : Below (value, .dict schema) (v, s)) : valid s = true := by
  cases h with
  | alternative hpresent hchild => exact valid_of_alternative hvalid hpresent hchild
  | property htype _ hchild => exact valid_of_property hvalid htype hchild
  | element htype _ hchild => exact valid_of_items hvalid htype hchild

/-- An admitted schema names a type of the language. -/
theorem known_of_typeOf (hvalid : validEntries db valid schema = true) {type : PyStr}
    (htype : typeOf schema = some type) : type ∈ schemaTypes := by
  obtain ⟨name, hname, hstr⟩ := Option.bind_eq_some_iff.mp htype
  simp only [validEntries, hname, Bool.and_eq_true] at hvalid
  have htyped := hvalid.2
  simp only [hstr, Option.any_some, Bool.and_eq_true, decide_eq_true_eq] at htyped
  exact htyped.1.1

/-- An admitted schema without a type has none of the keywords of a type. -/
theorem entry_of_untyped (hvalid : validEntries db valid schema = true)
    (htype : typeOf schema = none) {key : String} (hkey : lit key ∈ typedKeys) :
    entry schema key = none := by
  cases hpresent : present schema "type" with
  | some name =>
    simp only [validEntries, hpresent, Bool.and_eq_true] at hvalid
    rw [typeOf, hpresent] at htype
    have hstr : name.str? = none := htype
    simp [hstr] at hvalid
  | none =>
    have htyped : typedKeys.any (Json.hasKey schema) = false := by
      simp only [validEntries, hpresent, Bool.and_eq_true] at hvalid
      have hrest := hvalid.2
      split at hrest
      · cases hrest
      · simp only [Bool.and_eq_true, Bool.not_eq_true'] at hrest
        exact hrest.2
      · rename_i heq
        cases heq
    have habsent := List.any_eq_false.mp htyped (lit key) hkey
    rw [Json.hasKey, Bool.not_eq_true, List.any_eq_false] at habsent
    refine List.lookup_eq_none_iff.mpr fun item hitem => ?_
    have hne := habsent item hitem
    rw [Bool.not_eq_true, beq_eq_false_iff_ne] at hne
    exact bne_iff_ne.mpr hne.symm

section Meets

variable {nested : Json → Json → Prop}

/-- Without a type only the alternatives are left. -/
theorem meets_untyped_iff (hvalid : validEntries db valid schema = true)
    (htype : typeOf schema = none) : Meets nested value schema ↔ AnyOf nested value schema := by
  have habsent : ∀ key : String, lit key ∈ typedKeys → entry schema key = none :=
    fun key hkey => entry_of_untyped hvalid htype hkey
  have hbound : ∀ key : String, lit key ∈ typedKeys → ∀ q, bound schema key ≠ some q := by
    intro key hkey q hq
    simp [bound, habsent key hkey] at hq
  refine ⟨Meets.anyOf, fun hany => ⟨?_, hany, ?_, ?_, ?_, ?_, ?_, ?_, ?_, ?_, ?_, ?_⟩⟩
  · rintro type htyped
    rw [htype] at htyped
    cases htyped
  · intro items _ name hname
    simp [elements, habsent "required" (by decide)] at hname
  · intro items _ item _ child hchild
    simp [properties, habsent "properties" (by decide), Json.key?] at hchild
  · intro hclosed
    rw [habsent "additionalProperties" (by decide)] at hclosed
    cases hclosed
  · intro child hchild
    simp [present, habsent "items" (by decide)] at hchild
  all_goals exact fun q hq => absurd hq (hbound _ (by decide) q)

theorem meets_object_iff (htype : typeOf schema = some (lit "object")) :
    Meets nested value schema ↔ ∃ items, value = .dict items ∧ AnyOf nested value schema ∧
      (∀ name ∈ elements schema "required", ∃ s, name = .str s ∧ Json.hasKey items s = true) ∧
      (entry schema "additionalProperties" = some (.bool false) →
        ∀ item ∈ items, Json.hasKey (properties schema) item.1 = true) ∧
      ∀ item ∈ items, ∀ child, Json.key? (properties schema) item.1 = some child →
        nested item.2 child := by
  constructor
  · intro h
    have hobject := h.type _ htype
    cases value with
    | dict items =>
      exact ⟨items, rfl, h.anyOf, h.required items rfl,
        fun hclosed => h.additionalProperties hclosed items rfl, h.properties items rfl⟩
    | null | bool | int | float | str | list => simp +decide [hasType] at hobject
  · rintro ⟨items, rfl, hany, hrequired, hclosed, hproperties⟩
    refine ⟨?_, hany, ?_, ?_, ?_, ?_, ?_, ?_, ?_, ?_, ?_, ?_⟩
    · rintro type htyped
      cases htype.symm.trans htyped
      rfl
    · rintro _ ⟨⟩
      exact hrequired
    · rintro _ ⟨⟩
      exact hproperties
    · rintro hfalse _ ⟨⟩
      exact hclosed hfalse
    all_goals rintro _ _ _ ⟨⟩

theorem meets_array_iff (htype : typeOf schema = some (lit "array")) :
    Meets nested value schema ↔ ∃ items, value = .list items ∧ AnyOf nested value schema ∧
      (∀ low, bound schema "minItems" = some low → low ≤ items.length) ∧
      (∀ high, bound schema "maxItems" = some high → (items.length : Rat) ≤ high) ∧
      ∀ child, present schema "items" = some child → ∀ item ∈ items, nested item child := by
  constructor
  · intro h
    have harray := h.type _ htype
    cases value with
    | list items =>
      exact ⟨items, rfl, h.anyOf, fun low hlow => h.minItems low hlow items rfl,
        fun high hhigh => h.maxItems high hhigh items rfl,
        fun child hchild => h.items child hchild items rfl⟩
    | null | bool | int | float | str | dict => simp +decide [hasType] at harray
  · rintro ⟨items, rfl, hany, hmin, hmax, hitems⟩
    refine ⟨?_, hany, ?_, ?_, ?_, ?_, ?_, ?_, ?_, ?_, ?_, ?_⟩
    · rintro type htyped
      cases htype.symm.trans htyped
      rfl
    · rintro _ ⟨⟩
    · rintro _ ⟨⟩
    · rintro _ _ ⟨⟩
    · rintro child hchild _ ⟨⟩
      exact hitems child hchild
    · rintro low hlow _ ⟨⟩
      exact hmin low hlow
    · rintro high hhigh _ ⟨⟩
      exact hmax high hhigh
    all_goals rintro _ _ _ ⟨⟩

/-- A value of a scalar type has no parts. -/
theorem scalar_of_hasType {type : PyStr} (hobject : type ≠ lit "object")
    (harray : type ≠ lit "array") (h : hasType type value = true) :
    value.dict? = none ∧ value.list? = none := by
  cases value with
  | dict => exact absurd (of_decide_eq_true h) hobject
  | list => exact absurd (of_decide_eq_true h) harray
  | null | bool | int | float | str => exact ⟨rfl, rfl⟩

theorem meets_scalar_iff {type : PyStr} (htype : typeOf schema = some type)
    (hobject : type ≠ lit "object") (harray : type ≠ lit "array") :
    Meets nested value schema ↔ AnyOf nested value schema ∧ hasType type value = true ∧
      (∀ low, bound schema "minLength" = some low → ∀ s, value = .str s → low ≤ s.length) ∧
      (∀ high, bound schema "maxLength" = some high →
        ∀ s, value = .str s → (s.length : Rat) ≤ high) ∧
      (∀ low, bound schema "minimum" = some low →
        ∀ number, numeric? value = some number → low ≤ number) ∧
      ∀ high, bound schema "maximum" = some high →
        ∀ number, numeric? value = some number → number ≤ high := by
  constructor
  · exact fun h => ⟨h.anyOf, h.type _ htype, h.minLength, h.maxLength, h.minimum, h.maximum⟩
  · rintro ⟨hany, hscalar, hlow, hhigh, hmin, hmax⟩
    obtain ⟨hdict, hlist⟩ := scalar_of_hasType hobject harray hscalar
    have hnodict : ∀ items, value ≠ .dict items := by
      rintro items rfl
      cases hdict
    have hnolist : ∀ items, value ≠ .list items := by
      rintro items rfl
      cases hlist
    refine ⟨?_, hany, ?_, ?_, ?_, ?_, ?_, ?_, hlow, hhigh, hmin, hmax⟩
    · rintro other htyped
      cases htype.symm.trans htyped
      exact hscalar
    · exact fun items hvalue => absurd hvalue (hnodict items)
    · exact fun items hvalue => absurd hvalue (hnodict items)
    · exact fun _ items hvalue => absurd hvalue (hnodict items)
    all_goals exact fun _ _ items hvalue => absurd hvalue (hnolist items)

end Meets

/-- **One level.** Where the matcher is right about the nested schemas, it checks every
keyword of an admitted schema, but for the `enum` of a container, and takes only what
`_is_finite_number` accepts for a number. -/
theorem matchesEntries_iff (hvalid : validEntries db valid schema = true)
    (hnested : ∀ v s, Below (value, .dict schema) (v, s) →
      (matched v s = true ↔ Satisfies v s)) :
    matchesEntries matched value schema = true ↔
      Meets Satisfies value schema ∧ (¬ IsContainer schema → Listed value schema) ∧
        (typeOf schema = some (lit "number") → isFiniteNumber value = true) := by
  have hanyOf : (present schema "anyOf").all
      (fun alternatives => (alternatives.list?.getD []).any fun child => matched value child) = true ↔
      AnyOf Satisfies value schema := by
    simp only [AnyOf, Option.all_eq_true, List.any_eq_true]
    refine forall₂_congr fun alternatives hpresent => exists_congr fun child => ?_
    exact and_congr_right fun hchild => hnested _ _ (.alternative hpresent hchild)
  unfold matchesEntries
  rw [Bool.and_eq_true, hanyOf]
  have htypeOf : (present schema "type").bind Json.str? = typeOf schema := rfl
  rw [htypeOf]
  cases htype : typeOf schema with
  | none =>
    have hlisted : Listed value schema := by
      intro hsome
      rw [entry_of_untyped hvalid htype (by decide)] at hsome
      cases hsome
    rw [meets_untyped_iff hvalid htype]
    exact ⟨fun h => ⟨h.1, fun _ => hlisted, by rintro ⟨⟩⟩, fun h => ⟨h.1, rfl⟩⟩
  | some type =>
    simp only [Option.some.injEq]
    have hcontainer : IsContainer schema ↔ type = lit "object" ∨ type = lit "array" := by
      rw [IsContainer, htype, Option.some.injEq, Option.some.injEq]
    by_cases hobject : type = lit "object"
    · subst hobject
      have hdefects : (¬ IsContainer schema → Listed value schema) ∧
          (lit "object" = lit "number" → isFiniteNumber value = true) :=
        ⟨fun h => absurd (hcontainer.mpr (.inl rfl)) h, fun h => absurd h (by decide)⟩
      rw [if_pos rfl, and_iff_left hdefects, meets_object_iff htype, Option.any_eq_true]
      constructor
      · rintro ⟨hany, items, hitems, hmatches⟩
        obtain rfl := dict?_eq_some.mp hitems
        obtain ⟨hrequired, hclosed, hproperties⟩ := matchesObject_iff.mp hmatches
        refine ⟨items, rfl, hany, hrequired, hclosed, fun item hitem child hchild => ?_⟩
        exact (hnested _ _ (.property htype hitem hchild)).mp (hproperties item hitem child hchild)
      · rintro ⟨items, rfl, hany, hrequired, hclosed, hproperties⟩
        refine ⟨hany, items, rfl, matchesObject_iff.mpr ⟨hrequired, hclosed, ?_⟩⟩
        intro item hitem child hchild
        exact (hnested _ _ (.property htype hitem hchild)).mpr (hproperties item hitem child hchild)
    · by_cases harray : type = lit "array"
      · subst harray
        have hdefects : (¬ IsContainer schema → Listed value schema) ∧
            (lit "array" = lit "number" → isFiniteNumber value = true) :=
          ⟨fun h => absurd (hcontainer.mpr (.inr rfl)) h, fun h => absurd h (by decide)⟩
        rw [if_neg hobject, if_pos rfl, and_iff_left hdefects, meets_array_iff htype,
          Option.any_eq_true]
        constructor
        · rintro ⟨hany, items, hitems, hmatches⟩
          obtain rfl := list?_eq_some.mp hitems
          obtain ⟨hmin, hmax, hchildren⟩ := matchesArray_iff.mp hmatches
          refine ⟨items, rfl, hany, hmin, hmax, fun child hchild item hitem => ?_⟩
          exact (hnested _ _ (.element htype hitem hchild)).mp (hchildren child hchild item hitem)
        · rintro ⟨items, rfl, hany, hmin, hmax, hchildren⟩
          refine ⟨hany, items, rfl, matchesArray_iff.mpr ⟨hmin, hmax, ?_⟩⟩
          intro child hchild item hitem
          exact (hnested _ _ (.element htype hitem hchild)).mpr (hchildren child hchild item hitem)
      · have hplain : ¬ IsContainer schema := by
          rw [hcontainer]
          exact not_or.mpr ⟨hobject, harray⟩
        rw [if_neg hobject, if_neg harray, Bool.and_eq_true,
          matchesScalar_iff (known_of_typeOf hvalid htype) hobject harray,
          meets_scalar_iff htype hobject harray]
        constructor
        · rintro ⟨hany, ⟨hscalar, hfinite, hbounds⟩, henum⟩
          obtain ⟨hdict, hlist⟩ := scalar_of_hasType hobject harray hscalar
          exact ⟨⟨hany, hscalar, hbounds⟩, fun _ => (matchesEnum_iff hdict hlist).mp henum, hfinite⟩
        · rintro ⟨⟨hany, hscalar, hbounds⟩, hlisted, hfinite⟩
          obtain ⟨hdict, hlist⟩ := scalar_of_hasType hobject harray hscalar
          exact ⟨hany, ⟨hscalar, hfinite, hbounds⟩, (matchesEnum_iff hdict hlist).mpr (hlisted hplain)⟩

end Levels

/-! ## Where the matcher is right -/

/-- What keeps the two defects of the matcher from showing at one place: a value that meets
the other keywords of a container schema is also listed in its `enum`, and one that
satisfies a `number` schema is a number that has a `float`. -/
structure Undisturbed (value : Json) (schema : List (PyStr × Json)) : Prop where
  listed : IsContainer schema → Meets Satisfies value schema → Listed value schema
  finite : typeOf schema = some (lit "number") → Satisfies value (.dict schema) →
    isFiniteNumber value = true

/-- A place inside a value, with the schema that is consulted there. -/
abbrev Consulted (value schema v s : Json) : Prop :=
  Relation.ReflTransGen Below (value, schema) (v, s)

section Verdict

variable {db : UnicodeDatabase} {levels : Nat} {value schema : Json}

/-- The matcher is right about a place whose nested places it is right about, exactly where
neither defect shows. -/
theorem matches_iff_satisfies_here {entries : List (PyStr × Json)}
    (hvalid : validSchema db levels (.dict entries) = true)
    (hnested : ∀ v s, Below (value, .dict entries) (v, s) →
      (matchesSchema levels v s = true ↔ Satisfies v s)) :
    (matchesSchema levels value (.dict entries) = true ↔ Satisfies value (.dict entries)) ↔
      Undisturbed value entries := by
  cases levels with
  | zero => cases hvalid
  | succ levels =>
    have hentries : validEntries db (validSchema db levels) entries = true := hvalid
    have hlevel : ∀ v s, Below (value, .dict entries) (v, s) →
        (matchesSchema levels v s = true ↔ Satisfies v s) := by
      intro v s hbelow
      rw [← matchesSchema_of_valid (hbelow.admitted hentries) 1 v]
      exact hnested v s hbelow
    have hmatches : matchesSchema (levels + 1) value (.dict entries) =
        matchesEntries (matchesSchema levels) value entries := rfl
    rw [hmatches, matchesEntries_iff hentries hlevel, satisfies_iff]
    constructor
    · intro hiff
      refine ⟨fun hcontainer hmeets => ?_, fun hnumber hsatisfies => ?_⟩
      · refine (hiff.mp ⟨hmeets, fun hplain => absurd hcontainer hplain, fun hnumber => ?_⟩).2
        rw [IsContainer, hnumber] at hcontainer
        rcases hcontainer with hc | hc <;> simp +decide at hc
      · exact (hiff.mpr (satisfies_iff.mp hsatisfies)).2.2 hnumber
    · rintro ⟨hlisted, hfinite⟩
      constructor
      · rintro ⟨hmeets, hplain, -⟩
        refine ⟨hmeets, ?_⟩
        by_cases hcontainer : IsContainer entries
        · exact hlisted hcontainer hmeets
        · exact hplain hcontainer
      · rintro ⟨hmeets, hall⟩
        exact ⟨hmeets, fun _ => hall, fun hnumber => hfinite hnumber (satisfies_iff.mpr ⟨hmeets, hall⟩)⟩

/-- A nested schema of an admitted schema is admitted one level lower. -/
theorem validSchema_of_below {v s v' s' : Json} (hvalid : validSchema db levels s = true)
    (h : Below (v, s) (v', s')) : ∃ below, levels = below + 1 ∧ validSchema db below s' = true := by
  cases levels with
  | zero => cases hvalid
  | succ below =>
    refine ⟨below, rfl, ?_⟩
    have hentries : ∃ entries, s = .dict entries := by
      cases h <;> exact ⟨_, rfl⟩
    obtain ⟨entries, rfl⟩ := hentries
    have hentries : validEntries db (validSchema db below) entries = true := hvalid
    exact h.admitted hentries

/-- Every schema that is consulted is admitted at some level of the outermost one. -/
theorem validSchema_of_consulted {v s : Json} (hvalid : validSchema db levels schema = true)
    (h : Consulted value schema v s) :
    ∃ below more, levels = below + more ∧ validSchema db below s = true := by
  suffices hpair : ∀ place : Json × Json, Relation.ReflTransGen Below (value, schema) place →
      ∃ below more, levels = below + more ∧ validSchema db below place.2 = true from hpair _ h
  intro place hplace
  induction hplace with
  | refl => exact ⟨levels, 0, rfl, hvalid⟩
  | tail _ hbelow ih =>
    obtain ⟨below, more, rfl, hnested⟩ := ih
    obtain ⟨lower, rfl, hlower⟩ := validSchema_of_below hnested hbelow
    exact ⟨lower, more + 1, by omega, hlower⟩

/-- Where no defect shows at any place, the matcher is right at every place. -/
theorem matches_of_undisturbed {v s : Json} (hvalid : validSchema db levels s = true)
    (hconsulted : Consulted value schema v s)
    (hclear : ∀ v entries, Consulted value schema v (.dict entries) → Undisturbed v entries) :
    matchesSchema levels v s = true ↔ Satisfies v s := by
  induction levels generalizing v s with
  | zero => cases hvalid
  | succ levels ih =>
    cases s with
    | dict entries =>
      refine (matches_iff_satisfies_here hvalid fun v' s' hbelow => ?_).mpr
        (hclear v entries hconsulted)
      have hentries : validEntries db (validSchema db levels) entries = true := hvalid
      have hnested : validSchema db levels s' = true := hbelow.admitted hentries
      rw [matchesSchema_of_valid hnested 1]
      exact ih hnested (hconsulted.tail hbelow)
    | null | bool | int | float | str | list => cases hvalid

end Verdict

/-! ## A constraint that is not checked -/

/-- `{"type": "array", "enum": [["fast"], ["safe"]]}`. -/
def modesSchema : List (PyStr × Json) :=
  [(lit "type", .str (lit "array")),
    (lit "enum", .list [.list [.str (lit "fast")], .list [.str (lit "safe")]])]

/-- The schema of a tool with one argument, `modes`. -/
def modesToolSchema : Json :=
  .dict [(lit "type", .str (lit "object")),
    (lit "properties", .dict [(lit "modes", .dict modesSchema)])]

end HermesClaude.Bridge
