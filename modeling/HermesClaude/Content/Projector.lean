/-
# The projector

`ClaudeSdkEventProjector` with everything that it puts into events: it keeps what messages say about
the model, and projects a message onto bounded events.

A message comes from the provider, and its attributes may hold anything.  Projecting raises in two
places: where the content of an assistant message can not be iterated over, and where a number of a
result is a decimal text that `int` refuses.
-/

import HermesClaude.Content.EvidenceBounds
import HermesClaude.Content.ProjectedValues

namespace HermesClaude.Content

open HermesClaude.Python

/-- The parts of the standard library that projecting rests on. -/
structure ProjectorLibrary extends TextLibrary where
  floats : FloatText
  /-- `float(text)`, or `none` where it raises. -/
  parseFloat : PyStr → Option PyFloat

/-! ## Events -/

/-- `RuntimeUsageReceipt`. -/
structure RuntimeUsageReceipt where
  runtimeId : PyStr
  provider : PyStr
  model : PyStr
  billingMode : BillingMode
  costStatus : PyStr
  inputTokens : Nat
  outputTokens : Nat
  cacheReadTokens : Nat
  cacheWriteTokens : Nat
  reasoningTokens : Nat
  replaySafe : Bool
  correlationId : Option PyStr
  selectedModel : Option PyStr
  effectiveModel : Option PyStr
  canonicalModel : Option PyStr
  modelResolution : PyStr

/-- A public event of a projection. -/
inductive ProjectedEvent
  | content (text : PyStr)
  | toolRequest (requestId name : PyStr) (arguments : List (PyStr × Json))
  | usage (receipt : RuntimeUsageReceipt)
  | completed (result : List (PyStr × Json))

/-- `ToolResultMetadata`. -/
structure ToolResultMetadata where
  toolUseId : PyStr
  text : PyStr
  isError : Bool

/-- `ProjectionResult`. -/
structure ProjectedMessage where
  events : List ProjectedEvent := []
  toolResults : List ToolResultMetadata := []
  isToolIteration : Bool := false
  finalText : Option PyStr := none
  isResult : Bool := false
  model : Option PyStr := none
  selectedModel : Option PyStr := none
  effectiveModel : Option PyStr := none
  canonicalModel : Option PyStr := none
  modelResolution : PyStr := lit "unknown"

theorem short_safeIdentifier (value : PyValue) {default : PyStr} (hdefault : Short default) :
    Short (safeIdentifier value default) := by
  rw [safeIdentifier]
  split
  · exact hdefault
  · have htext : (safeText value maxIdentifierChars).length ≤ maxIdentifierChars := by
      cases value with
      | str s => exact List.length_take_le _ _
      | none | bool | int | float | bytes | list | tuple | set | dict | object => exact Nat.zero_le _
    exact (length_substituteRuns_le _ _).trans ((length_strip_le _).trans htext)

/-- `_safe_identifier(value, default="") or None`. -/
def optionalIdentifier (value : PyValue) : Option PyStr :=
  let text := safeIdentifier value []
  if text = [] then none else some text

theorem shortName_optionalIdentifier (value : PyValue) : ShortName (optionalIdentifier value) := by
  rw [optionalIdentifier]
  split
  · exact shortName_none
  · exact shortName_some (short_safeIdentifier value (Nat.zero_le _))

/-! ## The state -/

/-- `ClaudeSdkEventProjector`: all names that it holds are short. -/
structure EventProjector where
  runtimeId : PyStr
  provider : PyStr
  selectedModel : Option PyStr
  billingMode : BillingMode
  correlationId : Option PyStr
  session : SessionEvidence
  turn : TurnEvidence
  runtimeId_short : Short runtimeId
  provider_short : Short provider
  selectedModel_short : ShortName selectedModel
  correlationId_short : ShortName correlationId
  session_short : session.Short
  turn_short : turn.Short

/-- Nothing was observed yet. -/
theorem short_noEvidence : TurnEvidence.Short {} :=
  ⟨List.forall_mem_nil _, List.forall_mem_nil _, List.forall_mem_nil _⟩

namespace EventProjector

section Steps

variable (library : ProjectorLibrary)

/-- The billing mode of a setting. -/
def billingModeOf (value : PyValue) : BillingMode :=
  if value.isText (lit "subscription_included") then .subscriptionIncluded
  else if value.isText (lit "sdk_reported_metered") then .sdkReportedMetered
  else .unknown

/-- `__init__`. -/
def create (runtimeId provider model billingMode correlationId : PyValue) : EventProjector where
  runtimeId := safeIdentifier runtimeId (lit "hermes-claude-agent-sdk")
  provider := safeIdentifier provider (lit "claude-agent-sdk")
  selectedModel := safeModelIdentifier library.toTextLibrary model
  billingMode := billingModeOf billingMode
  correlationId := optionalIdentifier correlationId
  session := {}
  turn := {}
  runtimeId_short := short_safeIdentifier runtimeId (by decide)
  provider_short := short_safeIdentifier provider (by decide)
  selectedModel_short := shortName_safeModelIdentifier model
  correlationId_short := shortName_optionalIdentifier correlationId
  session_short := shortName_none
  turn_short := short_noEvidence

/-- `begin_turn`. -/
def beginTurn (projector : EventProjector) (correlationId : PyValue) : EventProjector :=
  { projector with
    correlationId := optionalIdentifier correlationId
    turn := {}
    correlationId_short := shortName_optionalIdentifier correlationId
    turn_short := short_noEvidence }

/-- `_observe_init_model`. -/
def observeInitModel (projector : EventProjector) (message : PyValue) : EventProjector :=
  { projector with
    session := projector.session.observe library.toTextLibrary message
    session_short := projector.session_short.observe message }

/-- `_observe_model_evidence`. -/
def observeModelEvidence (projector : EventProjector) (message : PyValue) : EventProjector :=
  { projector with
    turn := projector.turn.observe library.toTextLibrary message
    turn_short := projector.turn_short.observe message }

/-- `_model_provenance`. -/
def modelProvenance (projector : EventProjector) : ModelResolution :=
  Content.modelProvenance library.toTextLibrary projector.selectedModel projector.session projector.turn

/-- The request of a `ToolUseBlock`. -/
def toolRequest (block : PyValue) : ProjectedEvent :=
  .toolRequest (safeIdentifier (block.safeAttr "id") (lit "unknown-tool-request"))
    (safeIdentifier (block.safeAttr "name") (lit "unknown")) (safeToolArguments (block.safeAttr "input"))

/-- The rest of `_project_assistant`, or `none` where its loop raises. -/
def projectAssistant (projector : EventProjector) (message : PyValue) : Option ProjectedMessage :=
  (contentBlocks message).map fun blocks =>
    let texts := blockTexts blocks
    let text := if texts = [] then none else some (((lit "\n").intercalate texts).take maxTextChars)
    let model := projector.modelProvenance library
    { events := ((text.filter (· ≠ [])).toList.map .content) ++ (toolUses blocks).map toolRequest
      finalText := text
      model := model.effective
      selectedModel := projector.selectedModel
      effectiveModel := model.effective
      canonicalModel := model.canonical
      modelResolution := model.resolution }

/-- The result of a `ToolResultBlock`. -/
def toolResult (block : PyValue) : ToolResultMetadata where
  toolUseId := safeIdentifier (block.safeAttr "tool_use_id") (lit "unknown-tool-use")
  text := flattenToolResultContent library.floats (block.safeAttr "content")
  isError := match block.safeAttr "is_error" (.bool false) with
    | .bool b => b
    | _ => false

/-- `_project_user`. -/
def projectUser (message : PyValue) : ProjectedMessage :=
  match (message.safeAttr "content").sequence? with
  | none => {}
  | some content =>
    let toolResults :=
      (content.filter fun block => block.typeName == "ToolResultBlock").map (toolResult library)
    { toolResults, isToolIteration := !toolResults.isEmpty }

/-- The receipt of a result, or `none` where a number raises. -/
def usageReceipt (projector : EventProjector) (message usage : PyValue) : Option RuntimeUsageReceipt := do
  let number := usageInt library.toTextLibrary
  let model := projector.modelProvenance library
  let inputTokens ← number (knownValue usage "input_tokens")
  let outputTokens ← number (knownValue usage "output_tokens")
  let cacheReadTokens ← number
    (orElse (knownValue usage "cache_read_input_tokens") (knownValue usage "cache_read_tokens"))
  let cacheWriteTokens ← number
    (orElse (knownValue usage "cache_creation_input_tokens") (knownValue usage "cache_write_tokens"))
  let reasoningTokens ← number (knownValue usage "reasoning_tokens")
  pure {
    runtimeId := projector.runtimeId
    provider := projector.provider
    model := (model.canonical.or model.effective).getD unknownModel
    billingMode := projector.billingMode
    costStatus := safeCostStatus library.parseFloat projector.billingMode (message.safeAttr "total_cost_usd")
    inputTokens, outputTokens, cacheReadTokens, cacheWriteTokens, reasoningTokens
    replaySafe := false
    correlationId := projector.correlationId
    selectedModel := projector.selectedModel
    effectiveModel := model.effective
    canonicalModel := model.canonical
    modelResolution := model.resolution }

/-- The numbers of a completion that are not zero, or `none` where one of them raises. -/
def numberEntries (message : PyValue) : List String → Option (List (PyStr × Json))
  | [] => some []
  | field :: rest =>
    (usageInt library.toTextLibrary (message.safeAttr field)).bind fun value =>
      (numberEntries message rest).map fun entries =>
        if value = 0 then entries else (lit field, .int value) :: entries

/-- The number fields of a completion. -/
def numberFields : List String := ["num_turns", "duration_ms", "duration_api_ms"]

/-- Whether a result says that it failed. -/
def hasFailed (message : PyValue) : Bool :=
  match message.safeAttr "is_error" with
  | .bool b => b
  | _ => false

/-- The text of a result that did not fail. -/
def resultText (message : PyValue) : PyStr :=
  if hasFailed message then [] else safeText (message.safeAttr "result") maxTextChars

/-- `completion`, with its numbers. -/
def completion (projector : EventProjector) (message : PyValue) (final : PyStr)
    (numbers : List (PyStr × Json)) : List (PyStr × Json) :=
  let model := projector.modelProvenance library
  let subtype := safeText (message.safeAttr "subtype") 64
  (if final = [] then [] else [(lit "text", .str final)]) ++
    [(lit "model", .str ((model.canonical.or model.effective).getD unknownModel)),
      (lit "selected_model", .str (projector.selectedModel.getD unknownModel)),
      (lit "effective_model", .str (model.effective.getD unknownModel)),
      (lit "canonical_model", .str (model.canonical.getD unknownModel)),
      (lit "model_resolution", .str model.resolution)] ++
    (if hasFailed message then [(lit "is_error", .bool true)] else []) ++
    (if subtype = [] then [] else [(lit "subtype", .str subtype)]) ++ numbers

/-- The usage event of a result, if it has usage, or `none` where a number raises. -/
def usageEvents (projector : EventProjector) (message : PyValue) : Option (List ProjectedEvent) :=
  let usage := message.safeAttr "usage"
  if usage.isNone then some []
  else (projector.usageReceipt library message usage).map fun receipt => [.usage receipt]

/-- The rest of `_project_result`, or `none` where it raises. -/
def projectResult (projector : EventProjector) (message : PyValue) : Option ProjectedMessage :=
  let final := resultText message
  let model := projector.modelProvenance library
  (projector.usageEvents library message).bind fun usage =>
    (numberEntries library message numberFields).map fun numbers =>
      { events := (if final = [] then [] else [.content final]) ++ usage ++
          [.completed (projector.completion library message final numbers)]
        finalText := if final = [] then none else some final
        isResult := true
        model := model.effective
        selectedModel := projector.selectedModel
        effectiveModel := model.effective
        canonicalModel := model.canonical
        modelResolution := model.resolution }

/-- The projector after a message was observed. -/
def observe (projector : EventProjector) (message : PyValue) : EventProjector :=
  if message.typeName = "AssistantMessage" ∨ message.typeName = "ResultMessage" then
    projector.observeModelEvidence library message
  else if message.typeName = "SystemMessage" then projector.observeInitModel library message
  else projector

/-- `project`: the result, or `none` where it raises, and the projector afterwards. -/
def project (projector : EventProjector) (message : PyValue) :
    Option ProjectedMessage × EventProjector :=
  let observed := projector.observe library message
  if message.typeName = "AssistantMessage" then (observed.projectAssistant library message, observed)
  else if message.typeName = "UserMessage" then (some (projectUser library message), observed)
  else if message.typeName = "ResultMessage" then (observed.projectResult library message, observed)
  else (some {}, observed)

end Steps

/-! ## What a session sees of the events -/

/-- An event without the arguments, the models and the completion. -/
def outline : ProjectedEvent → RuntimeEvent
  | .content text => .content text
  | .toolRequest requestId name _ => .toolRequest requestId name
  | .usage receipt => .usage {
      runtimeId := receipt.runtimeId
      provider := receipt.provider
      billingMode := receipt.billingMode.text
      costStatus := receipt.costStatus
      replaySafe := receipt.replaySafe
      correlationId := match receipt.correlationId with
        | some text => .str text
        | none => .none
      tokens := [receipt.inputTokens, receipt.outputTokens, receipt.cacheReadTokens,
        receipt.cacheWriteTokens, receipt.reasoningTokens] }
  | .completed _ => .completed

variable {library : ProjectorLibrary} {projector : EventProjector} {message : PyValue}

/-- The events of an assistant message are those that a session passes on. -/
theorem outline_projectAssistant : (projector.projectAssistant library message).map
    (fun projected => projected.events.map outline) = assistantEvents message := by
  rw [projectAssistant, assistantEvents, Option.map_map]
  congr 1
  funext blocks
  have hrequests : (toolUses blocks).map (outline ∘ toolRequest) = (toolUses blocks).map toolRequestEvent :=
    rfl
  simp only [Function.comp_apply, List.map_append, List.map_map, hrequests]
  congr 1
  by_cases htexts : blockTexts blocks = []
  · rw [htexts]
    rfl
  · rw [if_neg htexts]
    by_cases htext : ((lit "\n").intercalate (blockTexts blocks)).take maxTextChars = []
    · rw [htext]
      rfl
    · simp [htext, outline]

/-- A projector as a turn builds it, for a correlation id. -/
structure OfTurn (projector : EventProjector) (correlationId : PyValue) : Prop where
  runtimeId : projector.runtimeId = lit "hermes-claude-agent-sdk"
  provider : projector.provider = lit "anthropic"
  billingMode : projector.billingMode = .subscriptionIncluded
  correlationId : projector.correlationId = optionalIdentifier correlationId

/-- The receipt that a session passes on. -/
theorem OfTurn.outline_usageEvents {correlationId : PyValue} (h : projector.OfTurn correlationId)
    {usage : List ProjectedEvent} (husage : projector.usageEvents library message = some usage) :
    usage.map outline = if (message.safeAttr "usage").isNone then [] else [.usage {
      runtimeId := lit "hermes-claude-agent-sdk"
      provider := lit "anthropic"
      billingMode := lit "subscription_included"
      costStatus := lit "included"
      replaySafe := false
      correlationId := if (safeIdentifier correlationId []).isEmpty then .none
        else .str (safeIdentifier correlationId [])
      tokens := usageTokens library.toTextLibrary (message.safeAttr "usage") }] := by
  rw [usageEvents] at husage
  split at husage
  · next hnone =>
    cases husage
    rw [if_pos hnone]
    rfl
  · next hsome =>
    rcases Option.map_eq_some_iff.mp husage with ⟨receipt, hreceipt, rfl⟩
    simp only [usageReceipt, Option.bind_eq_bind, Option.bind_eq_some_iff, Option.pure_def,
      Option.some_inj, usageInt_eq_some_iff] at hreceipt
    rcases hreceipt with ⟨_, ⟨-, rfl⟩, _, ⟨-, rfl⟩, _, ⟨-, rfl⟩, _, ⟨-, rfl⟩, _, ⟨-, rfl⟩, rfl⟩
    rw [if_neg hsome]
    simp only [List.map_cons, List.map_nil, outline, h.runtimeId, h.provider, h.billingMode,
      h.correlationId, optionalIdentifier, List.isEmpty_iff, safeCostStatus, BillingMode.text, usageTokens]
    by_cases hempty : safeIdentifier correlationId [] = []
    · simp [hempty]
    · simp [hempty]

/-- The events of a result are those that a session passes on, if no number raises. -/
theorem OfTurn.outline_projectResult {correlationId : PyValue} (h : projector.OfTurn correlationId)
    {projected : ProjectedMessage} (hprojected : projector.projectResult library message = some projected) :
    projected.events.map outline = resultEvents library.toTextLibrary correlationId message := by
  rcases Option.bind_eq_some_iff.mp hprojected with ⟨usage, husage, hrest⟩
  rcases Option.map_eq_some_iff.mp hrest with ⟨numbers, -, rfl⟩
  have hevents : resultEvents library.toTextLibrary correlationId message =
      (if (resultText message).isEmpty then [] else [.content (resultText message)]) ++
        usage.map outline ++ [.completed] := by
    rw [h.outline_usageEvents husage]
    rfl
  rw [hevents, List.map_append, List.map_append]
  by_cases hfinal : resultText message = []
  · simp [hfinal, outline]
  · simp [hfinal, outline]

end EventProjector

end HermesClaude.Content
