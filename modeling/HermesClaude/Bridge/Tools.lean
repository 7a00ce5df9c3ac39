/-
# The tool inventory of a bridge

A host describes its tools in the public OpenAI or Anthropic shape.  The bridge
normalises each description into an immutable definition with a bounded copy of its
schema, rejects duplicates, sorts by name and leaves out what it was told to exclude.
A definition carries the checks it passed, so whoever holds one need not repeat them.

The name of a tool is kept as it is: it has no blank and no control character, but
it need not be an identifier, and it may be longer than one.
-/

import HermesClaude.Bridge.Schema
import Mathlib.Data.List.Lex
import Mathlib.Data.List.Sort
import Mathlib.Order.Fin.Basic

namespace HermesClaude.Bridge

open HermesClaude.Python

universe u

/-- `_MAX_DESCRIPTION_UTF8_BYTES`. -/
def maxDescriptionUtf8Bytes : Nat := 4096

/-- `_MAX_REQUEST_ID_UTF8_BYTES`. -/
def maxRequestIdUtf8Bytes : Nat := 256

/-! ## Bounded text -/

/-- `" ".join(value.split())`. -/
def joinWords (value : PyStr) : PyStr :=
  (lit " ").intercalate ((value.splitOnP CodePoint.isSpace).filter (· ≠ []))

/-- The longest start of a text whose UTF-8 size is within a limit. -/
def takeBytes : Nat → PyStr → PyStr
  | _, [] => []
  | limit, c :: rest =>
    if c.utf8Width > limit then [] else c :: takeBytes (limit - c.utf8Width) rest

/-- The UTF-8 size of text that has one. -/
def byteCount (value : PyStr) : Nat := (value.map CodePoint.utf8Width).sum

/-- `" … [truncated] … "`. -/
def truncationMarker : PyStr := lit " … [truncated] … "

/-- `_bounded_text`, where `redact` is what happens to the text first. -/
def boundedText (db : UnicodeDatabase) (redact : PyStr → PyStr) (value : PyStr) (limit : Nat) :
    Option PyStr :=
  let value := joinWords ((redact value).map fun c => if db.isOther c then 0x20 else c)
  match utf8Size value with
  | none => none
  | some size =>
    if size ≤ limit then some value
    else if byteCount truncationMarker ≥ limit then some (takeBytes limit truncationMarker)
    else
      let remaining := limit - byteCount truncationMarker
      some (takeBytes (remaining / 2) value ++ truncationMarker ++
        (takeBytes (remaining - remaining / 2) value.reverse).reverse)

/-! ## Definitions -/

/-- `ToolBridgeConfigurationError`, by what it reports. -/
inductive ToolBridgeConfigurationError
  | specNotObject
  | functionMalformed
  | nameMalformed
  | descriptionMalformed
  | schemaUnsupported
  | specsNotSequence
  | duplicateName
  | hostIncomplete
  | correlationMalformed
  | excludedMalformed
  deriving DecidableEq

/-- The text of the error. -/
def ToolBridgeConfigurationError.message : ToolBridgeConfigurationError → String
  | .specNotObject => "tool schema must be an object"
  | .functionMalformed => "tool schema function is malformed"
  | .nameMalformed => "tool schema name is malformed"
  | .descriptionMalformed => "tool schema description is malformed"
  | .schemaUnsupported => "tool schema input schema is unsupported"
  | .specsNotSequence => "tool schemas must be a sequence"
  | .duplicateName => "duplicate tool schema name"
  | .hostIncomplete => "host services are incomplete"
  | .correlationMalformed => "host correlation is malformed"
  | .excludedMalformed => "excluded tool names are malformed"

/-- The checks of `normalize_tool_schema` on a name. -/
def validToolName (db : UnicodeDatabase) (name : PyStr) : Bool :=
  !name.isEmpty && (utf8Size name).any (fun size => size ≤ maxNameUtf8Bytes) &&
    !name.any fun c => db.isOther c || c.isSpace

/-- The checks of `normalize_tool_schema` on a copied schema. -/
def validInputSchema (db : UnicodeDatabase) (schema : Json) : Bool :=
  validSchema db (maxJsonDepth + 1) schema &&
    (schema.dict?.bind fun entries => (entry entries "type").bind Json.str?) = some (lit "object")

/-- `HostToolDefinition`. -/
structure HostToolDefinition (db : UnicodeDatabase) where
  name : PyStr
  description : PyStr
  inputSchema : Json
  /-- Nothing else is ever normalised. -/
  validName : validToolName db name = true
  validInputSchema : validInputSchema db inputSchema = true

theorem length_le_byteCount (s : PyStr) : s.length ≤ byteCount s := by
  induction s with
  | nil => exact Nat.le_refl _
  | cons c rest ih =>
    have hwidth : 1 ≤ c.utf8Width := by
      unfold CodePoint.utf8Width
      split_ifs <;> omega
    rw [byteCount] at ih ⊢
    rw [List.map_cons, List.sum_cons, List.length_cons]
    omega

/-- The length of text never exceeds its UTF-8 size. -/
theorem length_le_of_utf8Size {s : PyStr} {size : Nat} (h : utf8Size s = some size) :
    s.length ≤ size := by
  unfold utf8Size at h
  split_ifs at h
  cases h
  exact length_le_byteCount s

theorem HostToolDefinition.name_ne_nil {db : UnicodeDatabase} (definition : HostToolDefinition db) :
    definition.name ≠ [] := by
  have hvalid := definition.validName
  simp only [validToolName, Bool.and_eq_true] at hvalid
  simpa using hvalid.1.1

theorem HostToolDefinition.length_name_le {db : UnicodeDatabase}
    (definition : HostToolDefinition db) : definition.name.length ≤ maxNameUtf8Bytes := by
  have hvalid := definition.validName
  simp only [validToolName, Bool.and_eq_true, Option.any_eq_true, decide_eq_true_eq] at hvalid
  obtain ⟨size, hsize, hle⟩ := hvalid.1.2
  exact (length_le_of_utf8Size hsize).trans hle

section Normalize

variable {α : Type u} (db : UnicodeDatabase) (V : ObjectView α)

/-- Where a description keeps its three parts: `name`, `description` and the schema. -/
def specParts (spec : List (α × α)) :
    Except ToolBridgeConfigurationError (Option α × Option α × Option α) :=
  if (V.get spec "type").any fun v => V.isText v (lit "function") then
    match (V.get spec "function").bind V.mapping? with
    | none => .error .functionMalformed
    | some function =>
      .ok (V.get function "name", V.get function "description", V.get function "parameters")
  else
    .ok (V.get spec "name", V.get spec "description",
      (V.get spec "input_schema").or (V.get spec "parameters"))

/-- `type(value) is str`, with the text. -/
def text? (value : Option α) : Option PyStr :=
  value.bind fun v => match V.node v with
    | .str s => some s
    | _ => none

/-- `value is None`, also for a missing one. -/
def absent (value : Option α) : Bool :=
  value.all fun v => match V.node v with
    | .none => true
    | _ => false

/-- The description of a tool, which defaults to its name. -/
def normalizeDescription (name : PyStr) (description : Option α) : Option PyStr :=
  (if absent V description then some name else text? V description).bind fun s =>
    boundedText db id s maxDescriptionUtf8Bytes

/-- `normalize_tool_schema`. -/
def normalizeToolSchema (spec : α) :
    Except ToolBridgeConfigurationError (HostToolDefinition db) :=
  match V.mapping? spec with
  | none => .error .specNotObject
  | some items =>
    match specParts V items with
    | .error error => .error error
    | .ok (nameValue, descriptionValue, schemaValue) =>
      match text? V nameValue with
      | none => .error .nameMalformed
      | some name =>
        if hname : validToolName db name = true then
          match normalizeDescription db V name descriptionValue with
          | none => .error .descriptionMalformed
          | some description =>
            match schemaValue.bind (copyPlainJson V ·) with
            | none => .error .schemaUnsupported
            | some schema =>
              if hschema : Bridge.validInputSchema db schema = true then
                .ok ⟨name, description, schema, hname, hschema⟩
              else .error .schemaUnsupported
        else .error .nameMalformed

/-- The loop of `normalize_tool_schemas`, with the definitions so far. -/
def normalizeAll (done : List (HostToolDefinition db)) :
    List α → Except ToolBridgeConfigurationError (List (HostToolDefinition db))
  | [] => .ok done
  | spec :: rest =>
    match normalizeToolSchema db V spec with
    | .error error => .error error
    | .ok definition =>
      if done.any fun other => other.name == definition.name then .error .duplicateName
      else normalizeAll (done ++ [definition]) rest

/-- `normalize_tool_schemas`. -/
def normalizeToolSchemas (specs : α) :
    Except ToolBridgeConfigurationError (List (HostToolDefinition db)) :=
  match V.iterate specs with
  | none => .error .specsNotSequence
  | some items =>
    (normalizeAll db V [] items).map (List.insertionSort fun a b => a.name ≤ b.name)

end Normalize

/-! ## The bridge -/

/-- `HostToolBridge._safe_identifier`. -/
def safeIdentifier (value : PyValue) (limit : Nat) : Option PyStr :=
  match value with
  | .str s =>
    if !s.isEmpty && s.all CodePoint.isIdentifier && (utf8Size s).any (fun size => size ≤ limit)
    then some s else none
  | _ => none

/-- `HostToolBridge`, less the host it was built for. -/
structure HostToolBridge (db : UnicodeDatabase) where
  correlationId : Option PyStr
  definitions : List (HostToolDefinition db)
  sdkCallCount : Nat := 0
  hostExecutionCount : Nat := 0

namespace HostToolBridge

variable {db : UnicodeDatabase}

/-- `bridge.tool_names`. -/
def toolNames (bridge : HostToolBridge db) : List PyStr := bridge.definitions.map (·.name)

/-- `self._definitions_by_name.get(name)`. -/
def definition? (bridge : HostToolBridge db) (name : PyStr) : Option (HostToolDefinition db) :=
  bridge.definitions.find? fun definition => definition.name == name

/-- The correlation check shared by the constructor and `begin_turn`. -/
def bindCorrelation (correlationId : PyValue) :
    Except ToolBridgeConfigurationError (Option PyStr) :=
  if correlationId.isNone then .ok none
  else
    match safeIdentifier correlationId maxRequestIdUtf8Bytes with
    | none => .error .correlationMalformed
    | some id => .ok (some id)

/-- The names to leave out: `frozenset(excluded_names)`, all of them identifiers. -/
def excludedNames (excluded : PyValue) : Except ToolBridgeConfigurationError (List PyStr) :=
  match excluded.iterate with
  | none => .error .excludedMalformed
  | some items =>
    match items.mapM fun item => safeIdentifier item maxNameUtf8Bytes with
    | none => .error .excludedMalformed
    | some names => .ok names

/-- The constructor of a bridge, given what normalising the tool schemas yields;
`complete` says whether the host has the two services. -/
def assemble (complete : Bool)
    (definitions : Except ToolBridgeConfigurationError (List (HostToolDefinition db)))
    (excluded correlationId : PyValue) :
    Except ToolBridgeConfigurationError (HostToolBridge db) := do
  if !complete then throw .hostIncomplete
  let correlationId ← bindCorrelation correlationId
  let excluded ← excludedNames excluded
  let definitions ← definitions
  return {
    correlationId
    definitions := definitions.filter fun definition => definition.name ∉ excluded }

/-- `HostToolBridge(host, tool_schemas, …)`. -/
def create {α : Type u} (db : UnicodeDatabase) (V : ObjectView α) (complete : Bool)
    (toolSchemas : α) (excluded : PyValue := .tuple []) (correlationId : PyValue := .none) :
    Except ToolBridgeConfigurationError (HostToolBridge db) :=
  assemble complete (normalizeToolSchemas db V toolSchemas) excluded correlationId

/-- `begin_turn`. -/
def beginTurn (bridge : HostToolBridge db) (correlationId : PyValue) :
    Except ToolBridgeConfigurationError (HostToolBridge db) :=
  (bindCorrelation correlationId).map fun id => { bridge with correlationId := id }

end HostToolBridge

/-! ## Distinct names -/

section Distinct

variable {α : Type u} {db : UnicodeDatabase} {V : ObjectView α}

theorem normalizeAll_nodup {specs : List α} {done definitions : List (HostToolDefinition db)}
    (hdone : (done.map (·.name)).Nodup)
    (h : normalizeAll db V done specs = .ok definitions) : (definitions.map (·.name)).Nodup := by
  induction specs generalizing done with
  | nil =>
    cases h
    exact hdone
  | cons spec rest ih =>
    rw [normalizeAll] at h
    cases hspec : normalizeToolSchema db V spec with
    | error error =>
      rw [hspec] at h
      cases h
    | ok definition =>
      simp only [hspec] at h
      split_ifs at h with hduplicate
      refine ih ?_ h
      have hfresh : definition.name ∉ done.map (·.name) := by
        intro hmem
        obtain ⟨other, hother, heq⟩ := List.mem_map.mp hmem
        exact hduplicate (List.any_eq_true.mpr ⟨other, hother, beq_iff_eq.mpr heq⟩)
      rw [List.map_append, List.map_singleton]
      exact hdone.append (List.nodup_singleton _) (by simpa using hfresh)

/-- A new bridge has executed nothing. -/
theorem HostToolBridge.assemble_count {complete : Bool}
    {definitions : Except ToolBridgeConfigurationError (List (HostToolDefinition db))}
    {excluded correlation : PyValue} {bridge : HostToolBridge db}
    (h : HostToolBridge.assemble complete definitions excluded correlation = .ok bridge) :
    bridge.hostExecutionCount = 0 := by
  unfold HostToolBridge.assemble at h
  cases complete with
  | false => cases h
  | true =>
    cases hcorrelation : HostToolBridge.bindCorrelation correlation with
    | error error => rw [hcorrelation] at h; cases h
    | ok id =>
      cases hexcluded : HostToolBridge.excludedNames excluded with
      | error error => rw [hcorrelation, hexcluded] at h; cases h
      | ok names =>
        cases definitions with
        | error error => rw [hcorrelation, hexcluded] at h; cases h
        | ok definitions =>
          rw [hcorrelation, hexcluded] at h
          cases h
          rfl

/-- A bridge never exposes two tools under one name. -/
theorem HostToolBridge.create_nodup {complete : Bool} {specs : α} {excluded correlation : PyValue}
    {bridge : HostToolBridge db}
    (h : HostToolBridge.create db V complete specs excluded correlation = .ok bridge) :
    bridge.toolNames.Nodup := by
  obtain ⟨keep, definitions, hnormalize, hkept⟩ : ∃ keep definitions,
      normalizeToolSchemas db V specs = .ok definitions ∧
        bridge.definitions = definitions.filter keep := by
    unfold HostToolBridge.create HostToolBridge.assemble at h
    cases complete with
    | false => cases h
    | true =>
      cases hcorrelation : HostToolBridge.bindCorrelation correlation with
      | error error => rw [hcorrelation] at h; cases h
      | ok id =>
        cases hexcluded : HostToolBridge.excludedNames excluded with
        | error error => rw [hcorrelation, hexcluded] at h; cases h
        | ok names =>
          cases hnormalize : normalizeToolSchemas db V specs with
          | error error => rw [hcorrelation, hexcluded, hnormalize] at h; cases h
          | ok definitions =>
            rw [hcorrelation, hexcluded, hnormalize] at h
            cases h
            exact ⟨_, definitions, rfl, rfl⟩
  have hsorted : (definitions.map (·.name)).Nodup := by
    unfold normalizeToolSchemas at hnormalize
    cases hitems : V.iterate specs with
    | none => simp only [hitems] at hnormalize; cases hnormalize
    | some items =>
      cases hall : normalizeAll db V [] items with
      | error error => simp only [hitems, hall] at hnormalize; cases hnormalize
      | ok unsorted =>
        simp only [hitems, hall] at hnormalize
        cases hnormalize
        have hperm := (List.perm_insertionSort (fun a b => a.name ≤ b.name) unsorted).map
          (·.name)
        have hnil : (([] : List (HostToolDefinition db)).map (·.name)).Nodup := List.nodup_nil
        exact hperm.nodup_iff.mpr (normalizeAll_nodup hnil hall)
  rw [HostToolBridge.toolNames, hkept]
  exact (List.filter_sublist.map _).nodup hsorted

end Distinct

end HermesClaude.Bridge
