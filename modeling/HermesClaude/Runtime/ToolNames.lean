/-
# The two tool-name gates

A tool use passes two gates.  The session compares the raw name in the SDK message
with the names it was configured with; the runtime compares the name in the projected
event, which the projector has bounded and respelled, with the same names.  The bridge
admits names that the projector respells, and the projector respells names that are
not declared into names that are, so the two gates do not decide the same question.

The gates agree on a name that is spelled canonically.  Every other name is decided
twice.
-/

import HermesClaude.Bridge.Tools
import HermesClaude.Content.Projection
import HermesClaude.Content.ZeroNative
import Mathlib.Data.List.Dedup

namespace HermesClaude.Runtime

universe u

open HermesClaude.Python HermesClaude.Bridge HermesClaude.Content

/-- `_MAX_TOOL_OBSERVATION_NAME_CHARS`. -/
def maxToolObservationNameChars : Nat := 128

/-- `_safe_tool_observation_name`. -/
def safeToolObservationName (value : PyValue) : Option PyStr :=
  match value with
  | .str s =>
    let name := strip s
    if name.isEmpty || name.length > maxToolObservationNameChars || !name.all CodePoint.isIdentifier
    then none else some name
  | _ => none

/-- `f"mcp__{_MCP_SERVER_NAME}__{name}"`. -/
def qualifiedName (name : PyStr) : PyStr := lit "mcp__hermes-tools__" ++ name

/-- The names a runtime allows for the tools of its bridge: `allowed_tools` of the
session configuration and `allowed_tool_names` of a turn. -/
def allowedToolNames {db : UnicodeDatabase} (bridge : HostToolBridge db) : List PyStr :=
  bridge.toolNames.map qualifiedName

/-- What `SDKSessionConfiguration.create` reports about `allowed_tools`. -/
inductive AllowedToolsError
  | invalid
  | notHermesName
  | duplicate
  deriving DecidableEq

/-- The checks of `SDKSessionConfiguration.create` on `allowed_tools`. -/
def checkAllowedTools (names : List PyStr) : Except AllowedToolsError Unit :=
  if names.any fun name => name.isEmpty || name.length > 4096 then .error .invalid
  else if names.any fun name => !(lit "mcp__hermes-tools__").isPrefixOf name ||
      name == lit "mcp__hermes-tools__" then .error .notHermesName
  else if names.dedup.length ≠ names.length then .error .duplicate
  else .ok ()

/-- The comparison `zero_native_violation` makes on the name of a tool use. -/
def passesSessionGate (allowed : List PyStr) (block : PyValue) : Prop :=
  (allowedName? allowed (block.getAttr "name")).isSome = true

/-- The comparison `run_turn` makes on a projected event; only tool requests are
compared. -/
def passesRuntimeGate (allowed : List PyStr) : RuntimeEvent → Prop
  | .toolRequest _ name => ∃ observed ∈ safeToolObservationName (.str name), observed ∈ allowed
  | _ => True

/-- The gates agree on every tool use of a message. -/
def GatesAgree (allowed : List PyStr) (message : PyValue) : Prop :=
  ∀ blocks ∈ contentBlocks message, ∀ block ∈ toolUses blocks,
    passesSessionGate allowed block ↔ passesRuntimeGate allowed (toolRequestEvent block)

/-! ## The runtime gate -/

/-- The runtime observes a canonical name as it is. -/
theorem safeToolObservationName_of_canonical {name : PyStr} (h : Canonical name) :
    safeToolObservationName (.str name) = some name := by
  have hlength : ¬ name.length > maxToolObservationNameChars := Nat.not_lt.mpr h.2.1
  simp [safeToolObservationName, strip_of_canonical h, h.2.2, hlength, h.1]

/-- The runtime gate looks at the projector's spelling. -/
theorem passesRuntimeGate_iff {allowed : List PyStr} {block : PyValue} :
    passesRuntimeGate allowed (toolRequestEvent block) ↔
      Content.safeIdentifier (block.safeAttr "name") (lit "unknown") ∈ allowed := by
  have hcanonical : Canonical (Content.safeIdentifier (block.safeAttr "name") (lit "unknown")) := by
    have hunknown : Canonical (lit "unknown") := by decide
    cases hname : block.safeAttr "name" with
    | str raw => exact canonical_spelling raw
    | none | bool | int | float | bytes | list | tuple | set | dict | object => exact hunknown
  simp [passesRuntimeGate, toolRequestEvent, safeToolObservationName_of_canonical hcanonical]

/-- The session gate looks at the raw name. -/
theorem passesSessionGate_iff {allowed : List PyStr} {block : PyValue} :
    passesSessionGate allowed block ↔ ∃ raw ∈ allowed, block.getAttr "name" = some (.str raw) := by
  rw [passesSessionGate, ← not_iff_not, Option.not_isSome_iff_eq_none, allowedName?_eq_none_iff]

/-! ## The declared names -/

section Declared

variable {db : UnicodeDatabase} {bridge : HostToolBridge db}

/-- A declared name has no blank in it. -/
theorem isSpace_of_mem_allowed {name : PyStr} (h : name ∈ allowedToolNames bridge) :
    ∀ c ∈ name, c.isSpace = false := by
  obtain ⟨tool, htool, rfl⟩ := List.mem_map.mp h
  obtain ⟨definition, -, rfl⟩ := List.mem_map.mp htool
  have hvalid := definition.validName
  simp only [validToolName, Bool.and_eq_true, Bool.not_eq_true', List.any_eq_false,
    Bool.or_eq_true, not_or, Bool.not_eq_true] at hvalid
  intro c hc
  rcases List.mem_append.mp hc with hc | hc
  · have hliteral : (lit "mcp__hermes-tools__").all (fun c => !c.isSpace) = true := by decide
    simpa using List.all_eq_true.mp hliteral c hc
  · exact (hvalid.2 c hc).2

/-- The session configuration accepts the names of every bridge that is accepted. -/
theorem checkAllowedTools_of_create {α : Type u} {V : ObjectView α} {complete : Bool} {specs : α}
    {excluded correlation : PyValue}
    (h : HostToolBridge.create db V complete specs excluded correlation = .ok bridge) :
    checkAllowedTools (allowedToolNames bridge) = .ok () := by
  have hdefinition : ∀ name ∈ allowedToolNames bridge, ∃ definition : HostToolDefinition db,
      name = qualifiedName definition.name := by
    intro name hname
    obtain ⟨tool, htool, rfl⟩ := List.mem_map.mp hname
    obtain ⟨definition, -, rfl⟩ := List.mem_map.mp htool
    exact ⟨definition, rfl⟩
  have hprefix : (lit "mcp__hermes-tools__").length = 19 := by decide
  have hvalid : ¬ (allowedToolNames bridge).any
      (fun name => name.isEmpty || name.length > 4096) = true := by
    simp only [List.any_eq_true, Bool.or_eq_true, decide_eq_true_eq, not_exists, not_and, not_or]
    intro name hname
    obtain ⟨definition, rfl⟩ := hdefinition name hname
    have hlength := definition.length_name_le
    have hbound : maxNameUtf8Bytes = 256 := rfl
    rw [List.isEmpty_iff, ← List.length_eq_zero_iff, qualifiedName, List.length_append, hprefix]
    omega
  have hhermes : ¬ (allowedToolNames bridge).any (fun name =>
      !(lit "mcp__hermes-tools__").isPrefixOf name || name == lit "mcp__hermes-tools__") = true := by
    simp only [List.any_eq_true, Bool.or_eq_true, beq_iff_eq, not_exists, not_and, not_or]
    intro name hname
    obtain ⟨definition, rfl⟩ := hdefinition name hname
    refine ⟨?_, fun heq => definition.name_ne_nil (List.append_right_eq_self.mp heq)⟩
    simp [qualifiedName, List.isPrefixOf_iff_prefix]
  have hdistinct : (allowedToolNames bridge).Nodup :=
    (HostToolBridge.create_nodup h).map fun first second heq => List.append_cancel_left heq
  rw [checkAllowedTools, if_neg hvalid, if_neg hhermes, List.Nodup.dedup hdistinct, if_neg (by simp)]

/-- The placeholder for an unusable name is never declared. -/
theorem unknown_not_mem_allowed : lit "unknown" ∉ allowedToolNames bridge := by
  intro h
  obtain ⟨tool, -, heq⟩ := List.mem_map.mp h
  have hfirst := congrArg (List.take 1) heq
  rw [qualifiedName, List.take_append_of_le_length (by decide)] at hfirst
  exact absurd hfirst (by decide)

/-- A canonical declared name followed by a blank is not declared, and is spelled as a
name that is. -/
theorem disguised_of_mem_allowed {name : PyStr} (h : name ∈ allowedToolNames bridge)
    (hcanonical : Canonical name) :
    name ++ lit " " ∉ allowedToolNames bridge ∧
      spelling (name ++ lit " ") ∈ allowedToolNames bridge := by
  refine ⟨fun hmem => ?_, (spelling_append_space hcanonical).symm ▸ h⟩
  have hblank : (0x20 : CodePoint) ∈ name ++ lit " " :=
    List.mem_append_right _ (by decide)
  exact absurd (isSpace_of_mem_allowed hmem _ hblank) (by decide)

end Declared

/-! ## Agreement -/

/-- A raw name that both gates decide alike: it is canonical, or it is declared and
respelled as a declared name, or neither. -/
def DecidedAlike (allowed : List PyStr) (raw : PyStr) : Prop :=
  Canonical raw ∨ (raw ∈ allowed ∧ spelling raw ∈ allowed) ∨ (raw ∉ allowed ∧ spelling raw ∉ allowed)

theorem decidedAlike_iff {allowed : List PyStr} {raw : PyStr} :
    DecidedAlike allowed raw ↔ (raw ∈ allowed ↔ spelling raw ∈ allowed) := by
  by_cases hcanonical : Canonical raw
  · simp [DecidedAlike, hcanonical, spelling_eq_self hcanonical]
  · simp only [DecidedAlike, hcanonical, false_or]
    tauto

section Agreement

variable {db : UnicodeDatabase} {bridge : HostToolBridge db}

/-- One tool use passes both gates or neither exactly when its name is decided alike. -/
theorem block_agrees_iff {block : PyValue} :
    (passesSessionGate (allowedToolNames bridge) block ↔
        passesRuntimeGate (allowedToolNames bridge) (toolRequestEvent block)) ↔
      ∀ raw, block.getAttr "name" = some (.str raw) →
        DecidedAlike (allowedToolNames bridge) raw := by
  rw [passesSessionGate_iff, passesRuntimeGate_iff, PyValue.safeAttr]
  by_cases htext : ∃ raw, block.getAttr "name" = some (.str raw)
  · obtain ⟨raw, hraw⟩ := htext
    simp [hraw, decidedAlike_iff, spelling]
  · have hplaceholder : Content.safeIdentifier ((block.getAttr "name").getD .none)
        (lit "unknown") = lit "unknown" := by
      cases hname : block.getAttr "name" with
      | none => rfl
      | some value =>
        cases value with
        | str raw => exact absurd ⟨raw, hname⟩ htext
        | none | bool | int | float | bytes | list | tuple | set | dict | object => rfl
    rw [hplaceholder]
    have hleft : ¬ ∃ raw ∈ allowedToolNames bridge, block.getAttr "name" = some (.str raw) := by
      intro h
      rcases h with ⟨raw, -, hraw⟩
      exact htext ⟨raw, hraw⟩
    have hright : ∀ raw, block.getAttr "name" = some (.str raw) →
        DecidedAlike (allowedToolNames bridge) raw := fun raw hraw => absurd ⟨raw, hraw⟩ htext
    exact iff_of_true (iff_of_false hleft unknown_not_mem_allowed) hright

/-- An assistant message with one tool use of the given name. -/
def toolUseMessage (raw : PyStr) : PyValue :=
  .object "AssistantMessage" [("content", .list [.object "ToolUseBlock" [("name", .str raw)]])]

theorem gatesAgree_iff {message : PyValue} :
    GatesAgree (allowedToolNames bridge) message ↔
      ∀ blocks ∈ contentBlocks message, ∀ block ∈ toolUses blocks,
        ∀ raw, block.getAttr "name" = some (.str raw) →
          DecidedAlike (allowedToolNames bridge) raw := by
  simp only [GatesAgree, block_agrees_iff]

theorem toolUseMessage_agrees {raw : PyStr}
    (h : GatesAgree (allowedToolNames bridge) (toolUseMessage raw)) :
    DecidedAlike (allowedToolNames bridge) raw :=
  gatesAgree_iff.mp h [.object "ToolUseBlock" [("name", .str raw)]] rfl
    (.object "ToolUseBlock" [("name", .str raw)]) List.mem_cons_self raw rfl

/-- **The two gates.** On one message the gates agree exactly when every name in it is
decided alike.  They agree on every message exactly when the bridge exposes no tool.
And a turn that uses declared tools only passes the runtime gate exactly when every
declared name is canonical or respelled as a declared one. -/
theorem gates_agree_iff (bridge : HostToolBridge db) :
    (∀ message, GatesAgree (allowedToolNames bridge) message ↔
      ∀ blocks ∈ contentBlocks message, ∀ block ∈ toolUses blocks,
        ∀ raw, block.getAttr "name" = some (.str raw) →
          DecidedAlike (allowedToolNames bridge) raw) ∧
    ((∀ message, message.typeName = "AssistantMessage" →
        GatesAgree (allowedToolNames bridge) message) ↔ bridge.toolNames = []) ∧
    ((∀ block, passesSessionGate (allowedToolNames bridge) block →
        passesRuntimeGate (allowedToolNames bridge) (toolRequestEvent block)) ↔
      ∀ name ∈ allowedToolNames bridge,
        Canonical name ∨ spelling name ∈ allowedToolNames bridge) := by
  refine ⟨fun message => gatesAgree_iff, ⟨fun hagree => ?_, fun hnone message _ => ?_⟩,
    fun hpass name hname => ?_, fun hnames block hsession => ?_⟩
  · by_contra hsome
    obtain ⟨tool, htool⟩ := List.exists_mem_of_ne_nil _ hsome
    have hname : qualifiedName tool ∈ allowedToolNames bridge := List.mem_map_of_mem htool
    have halike : ∀ raw, DecidedAlike (allowedToolNames bridge) raw :=
      fun raw => toolUseMessage_agrees (hagree (toolUseMessage raw) rfl)
    have hspelled := (decidedAlike_iff.mp (halike (qualifiedName tool))).mp hname
    have hdisguised := disguised_of_mem_allowed hspelled (canonical_spelling _)
    exact hdisguised.1 ((decidedAlike_iff.mp (halike _)).mpr hdisguised.2)
  · have hempty : allowedToolNames bridge = [] := by rw [allowedToolNames, hnone, List.map_nil]
    refine gatesAgree_iff.mpr fun blocks _ block _ raw _ => ?_
    simp [decidedAlike_iff, hempty]
  · have hblock := hpass (.object "ToolUseBlock" [("name", .str name)])
      (passesSessionGate_iff.mpr ⟨name, hname, rfl⟩)
    exact Or.inr (passesRuntimeGate_iff.mp hblock)
  · obtain ⟨name, hname, hraw⟩ := passesSessionGate_iff.mp hsession
    rw [passesRuntimeGate_iff, PyValue.safeAttr, hraw]
    rcases hnames name hname with hcanonical | hspelled
    · show spelling name ∈ allowedToolNames bridge
      rw [spelling_eq_self hcanonical]
      exact hname
    · exact hspelled

end Agreement

/-! ## A declared tool that ends the turn -/

/-- `{"name": "files/read", "input_schema": {"type": "object"}}`. -/
def slashSpec : Json :=
  .dict [(lit "name", .str (lit "files/read")),
    (lit "input_schema", .dict [(lit "type", .str (lit "object"))])]

/-- The bridge and the session configuration accept a tool whose name has a slash in
it, and the gates disagree on a message that uses exactly this tool. -/
theorem slash_tool_refused :
    ∃ bridge, HostToolBridge.create asciiDatabase Json.view true (.list [slashSpec]) = .ok bridge ∧
      checkAllowedTools (allowedToolNames bridge) = .ok () ∧
      ¬ GatesAgree (allowedToolNames bridge)
        (toolUseMessage (lit "mcp__hermes-tools__files/read")) := by
  refine ⟨_, rfl, rfl, fun hagree => ?_⟩
  have halike := decidedAlike_iff.mp (toolUseMessage_agrees hagree)
  exact absurd halike (by decide)

end HermesClaude.Runtime
