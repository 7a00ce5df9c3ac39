/-
# References to memory and skill tools

Of the host's tool schemas those with the name of a tool that only reads become references: a name
and a hash.  Of several schemas with one name the one with the smallest hash counts, and the
references are in a fixed order, so they do not tell the order of the schemas.
-/

import HermesClaude.Library.Smallest
import HermesClaude.Prompt.SchemaHash
import HermesClaude.Python.Patterns
import Mathlib.Data.List.Lex
import Mathlib.Data.Prod.Lex

namespace HermesClaude.Prompt

open HermesClaude.Library HermesClaude.Python

/-- `MEMORY_TOOL_NAMES`. -/
def memoryToolNames : List PyStr := [lit "memory", lit "session_search"]

/-- `SKILL_TOOL_NAMES`. -/
def skillToolNames : List PyStr := [lit "skill_view", lit "skills_list"]

/-- `READ_SIDE_TOOL_NAMES`. -/
def readSideToolNames : List PyStr := memoryToolNames ++ skillToolNames

/-- `MemorySkillKind`. -/
inductive MemorySkillKind
  | memory
  | skill
  deriving DecidableEq

def MemorySkillKind.text : MemorySkillKind → PyStr
  | .memory => lit "memory"
  | .skill => lit "skill"

/-- `ToolSchemaReference`. -/
structure ToolSchemaReference where
  name : PyStr
  kind : MemorySkillKind
  schemaHash : PyStr
  deriving DecidableEq

/-- `lambda ref: (ref.kind, ref.name, ref.schema_hash)`. -/
def referenceKey (ref : ToolSchemaReference) : PyStr ×ₗ PyStr ×ₗ PyStr :=
  toLex (ref.kind.text, toLex (ref.name, ref.schemaHash))

/-- `MemorySkillReferences`. -/
structure MemorySkillReferences where
  references : List ToolSchemaReference
  schemaHash : PyStr
  inOrder : references.Pairwise fun a b => referenceKey a ≤ referenceKey b

/-- The `get` of a mapping under a text. -/
def getItem (items : List (SchemaValue × SchemaValue)) (key : String) : Option SchemaValue :=
  (items.find? fun item => item.1.textKey = some (lit key)).map Prod.snd

/-- What comes behind the last separator of a text. -/
def afterLast (separator : PyStr) : PyStr → Option PyStr
  | [] => none
  | c :: rest =>
    match afterLast separator rest with
    | some last => some last
    | none => if separator.isPrefixOf (c :: rest) then some ((c :: rest).drop separator.length) else none

/-- The name of a schema, or else of its function. -/
def rawName (items : List (SchemaValue × SchemaValue)) : Option PyStr :=
  match getItem items "name" with
  | some (.str _ name) => some name
  | _ =>
    match getItem items "function" with
    | some (.mapping _ function) =>
      match getItem function "name" with
      | some (.str _ name) => some name
      | _ => none
    | _ => none

/-- `_schema_name`. -/
def schemaName (unicode : WordDatabase) (schema : SchemaValue) : Option PyStr :=
  match schema with
  | .mapping _ items =>
    (rawName items).bind fun name =>
      let lowered := unicode.lower (strip name)
      -- `candidate.rsplit("__", 1)[-1]`
      let candidate := (afterLast (lit "__") lowered).getD lowered
      if candidate ∈ readSideToolNames then some candidate else none
  | _ => none

/-- The tool schemas as they are given. -/
inductive ToolSchemas
  | absent
  | single (schema : SchemaValue)
  | sequence (schemas : List SchemaValue)
  | other

/-- The schemas that are read. -/
def ToolSchemas.items : ToolSchemas → List SchemaValue
  | .single schema => [schema]
  | .sequence schemas => schemas
  | .absent | .other => []

/-- The same schemas in another order. -/
inductive ToolSchemas.Reordered : ToolSchemas → ToolSchemas → Prop
  | sequence {schemas schemas' : List SchemaValue} (hperm : schemas.Perm schemas') :
      Reordered (.sequence schemas) (.sequence schemas')
  | refl (schemas : ToolSchemas) : Reordered schemas schemas

section References

variable (floats : FloatText) (unicode : WordDatabase)

/-- The kind that a name has. -/
def kindOf (name : PyStr) : MemorySkillKind := if name ∈ memoryToolNames then .memory else .skill

/-- The reference to a schema with a known name, or `none` where hashing raises. -/
def reference (named : PyStr × SchemaValue) : Option ToolSchemaReference :=
  (named.2.stableToolSchemaHash floats).map fun hash => ⟨named.1, kindOf named.1, hash⟩

/-- The schemas with a known name. -/
def namedSchemas (schemas : List SchemaValue) : List (PyStr × SchemaValue) :=
  schemas.filterMap fun schema => (schemaName unicode schema).map fun name => (name, schema)

/-- A text of the payload. -/
def textValue (text : PyStr) : SchemaValue := .str (lit "str") text

/-- What the hash of the references is computed from. -/
def referencePayload (references : List ToolSchemaReference) : SchemaValue :=
  .sequence (lit "list") (references.map fun ref => .mapping (lit "dict")
    [(textValue (lit "kind"), textValue ref.kind.text), (textValue (lit "name"), textValue ref.name),
      (textValue (lit "schema_hash"), textValue ref.schemaHash)])

/-- `MemorySkillReferences(references)`, or `none` where hashing raises. -/
def memorySkillReferences (references : List ToolSchemaReference) : Option MemorySkillReferences :=
  ((referencePayload (sortByKey referenceKey references)).stableToolSchemaHash floats).map fun hash =>
    ⟨sortByKey referenceKey references, hash, sorted_sortByKey references⟩

/-- `build_memory_skill_references`, or `none` where it raises. -/
def buildMemorySkillReferences (schemas : ToolSchemas) : Option MemorySkillReferences :=
  ((namedSchemas unicode schemas.items).mapM (reference floats)).bind fun references =>
    memorySkillReferences floats
      (smallestPerKey ToolSchemaReference.name ToolSchemaReference.schemaHash references)

end References

variable {floats : FloatText} {unicode : WordDatabase} {references references' : List ToolSchemaReference}

/-- A name and a hash determine a reference. -/
theorem keysAgree_reference {named : List (PyStr × SchemaValue)}
    (h : named.mapM (reference floats) = some references) :
    KeysAgree (fun ref => (ref.name, ref.schemaHash)) references := by
  have hkind : ∀ ref ∈ references, ref.kind = kindOf ref.name := by
    intro ref href
    rcases exists_of_mem_mapM h href with ⟨item, -, hitem⟩
    rcases Option.map_eq_some_iff.mp hitem with ⟨hash, -, rfl⟩
    rfl
  intro a ha b hb heq
  rcases Prod.mk.inj heq with ⟨hname, hhash⟩
  have hsame : a.kind = b.kind := by rw [hkind a ha, hkind b hb, hname]
  cases a
  cases b
  cases hname
  cases hhash
  cases hsame
  rfl

theorem nodup_referenceKey (h : (references.map ToolSchemaReference.name).Nodup) :
    (references.map referenceKey).Nodup := by
  apply List.Nodup.of_map fun key => (ofLex (ofLex key).2).1
  rw [List.map_map]
  exact h

/-- References in another order are the same references. -/
theorem memorySkillReferences_perm (hnodup : (references.map ToolSchemaReference.name).Nodup)
    (hperm : references.Perm references') :
    memorySkillReferences floats references = memorySkillReferences floats references' := by
  have hsorted := sortByKey_eq_of_perm (nodup_referenceKey hnodup) hperm
  simp only [memorySkillReferences, hsorted]

theorem build_of_mapM {schemas : ToolSchemas}
    (h : (namedSchemas unicode schemas.items).mapM (reference floats) = some references) :
    buildMemorySkillReferences floats unicode schemas = memorySkillReferences floats
      (smallestPerKey ToolSchemaReference.name ToolSchemaReference.schemaHash references) := by
  rw [buildMemorySkillReferences, h, Option.bind_some]

/-- **The order of the schemas does not matter.** -/
theorem ToolSchemas.Reordered.build_eq (floats : FloatText) (unicode : WordDatabase)
    {schemas schemas' : ToolSchemas} (h : schemas.Reordered schemas') :
    buildMemorySkillReferences floats unicode schemas =
      buildMemorySkillReferences floats unicode schemas' := by
  cases h with
  | refl => rfl
  | @sequence items items' hperm =>
    have hnamed : (namedSchemas unicode items).Perm (namedSchemas unicode items') := hperm.filterMap _
    cases hrefs : (namedSchemas unicode items).mapM (reference floats) with
    | none =>
      have hrefs' : (namedSchemas unicode items').mapM (reference floats) = none := by
        rw [Option.eq_none_iff_forall_ne_some]
        intro references' hsome
        rcases mapM_perm_option hnamed.symm hsome with ⟨references, hback, -⟩
        rw [hrefs] at hback
        cases hback
      rw [buildMemorySkillReferences, buildMemorySkillReferences, ToolSchemas.items, ToolSchemas.items,
        hrefs, hrefs']
    | some references =>
      rcases mapM_perm_option hnamed hrefs with ⟨references', hrefs', hsame⟩
      rw [build_of_mapM hrefs, build_of_mapM hrefs']
      apply memorySkillReferences_perm (smallest_smallestPerKey _ _ references).nodup
      exact smallestPerKey_perm (keysAgree_reference hrefs) hsame.symm

/-! ## Guidance -/

/-- The names of the references of a kind. -/
def MemorySkillReferences.names (refs : MemorySkillReferences) (kind : MemorySkillKind) : List PyStr :=
  (refs.references.filter (·.kind = kind)).map ToolSchemaReference.name

/-- `prompt_guidance`. -/
def MemorySkillReferences.promptGuidance (refs : MemorySkillReferences) : PyStr :=
  let skillNames := (refs.names .skill).filter (· ∈ skillToolNames)
  let rendered := (lit " and ").intercalate (skillNames.map fun name => lit "\x60" ++ name ++ lit "\x60")
  (lit "\n").intercalate
    ((if lit "memory" ∈ refs.names .memory then
        [lit "Use the host-provided \x60memory\x60 tool for durable facts."] else []) ++
      (if lit "session_search" ∈ refs.names .memory then
        [lit "Use the host-provided \x60session_search\x60 tool for relevant cross-session context."]
        else []) ++
      (if skillNames ≠ [] then
        [lit "Use the host-provided " ++ rendered ++ lit " tools to inspect skills."] else []))

end HermesClaude.Prompt
