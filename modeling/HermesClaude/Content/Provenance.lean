/-
# The model behind a turn

`ClaudeSdkEventProjector` keeps what SDK messages say about the model that answered: the
models that root messages name and the models that usage is reported for, both of one
turn, and the model that the session announced at its start.  `begin_turn` forgets the
first two.  From the three it resolves the model of a turn, or says that they disagree.

Sets and dictionaries of model names are lists here; their order is never looked at.
-/

import HermesClaude.Content.Projection
import HermesClaude.Content.ZeroNative

namespace HermesClaude.Content

open HermesClaude.Python

/-- The parts of the standard library that reading a message rests on. -/
structure TextLibrary where
  /-- `str.casefold`. -/
  casefold : PyStr → PyStr
  /-- `int(text)` where `text.isdecimal()`. -/
  decimal : PyStr → Option Nat

/-- A character of the class `[A-Za-z0-9]`. -/
def isAlphanumeric (c : CodePoint) : Bool :=
  let n := c.val
  (0x41 ≤ n && n ≤ 0x5A) || (0x61 ≤ n && n ≤ 0x7A) || (0x30 ≤ n && n ≤ 0x39)

/-- `_SAFE_MODEL_IDENTIFIER.fullmatch(text)`. -/
def matchesModelIdentifier : PyStr → Bool
  | [] => false
  | c :: rest => isAlphanumeric c && rest.all fun c => c.isIdentifier || c == 0x2F

/-- `_UNKNOWN_MODEL`. -/
def unknownModel : PyStr := lit "unknown"

/-- `_SYNTHETIC_MODEL_IDENTIFIERS`. -/
def syntheticModelIdentifiers : List PyStr := [lit "synthetic", lit "claude-fable-synthetic"]

/-- `_known_value`. -/
def knownValue (source : PyValue) (key : String) : PyValue :=
  match source.mapping? with
  | some items => (PyValue.lookupKey items (lit key)).getD .none
  | none => source.safeAttr key

/-- What a turn's messages say about its model; `begin_turn` resets it. -/
structure TurnEvidence where
  reportedModels : List PyStr := []
  usageModels : List PyStr := []
  usageCanonicalModels : List (PyStr × Option PyStr) := []
  usageMalformed : Bool := false
  deriving DecidableEq

/-- What the init messages of a session say about its model. -/
structure SessionEvidence where
  model : Option PyStr := none
  malformed : Bool := false
  conflict : Bool := false
  deriving DecidableEq

/-- What is known of a model: the effective one, its canonical name, and how they were
resolved. -/
structure ModelResolution where
  effective : Option PyStr
  canonical : Option PyStr
  resolution : PyStr

/-- The evidence is malformed or disagrees. -/
def ModelResolution.ambiguous : ModelResolution := ⟨none, none, lit "ambiguous"⟩

section Evidence

variable (library : TextLibrary)

/-- `_safe_model_identifier`. -/
def safeModelIdentifier (value : PyValue) : Option PyStr :=
  match value with
  | .str s =>
    let text := strip s
    if text.isEmpty || text.length > maxIdentifierChars || text.any CodePoint.isAsciiControl then
      none
    else if library.casefold text = unknownModel || !matchesModelIdentifier text then none
    else some text
  | _ => none

/-- `_observe_init_model`. -/
def SessionEvidence.observe (evidence : SessionEvidence) (message : PyValue) : SessionEvidence :=
  if !(message.safeAttr "subtype").isText (lit "init") then evidence
  else
    match (message.safeAttr "data").mapping? with
    | none => { evidence with malformed := true }
    | some items =>
      match PyValue.lookupKey items (lit "model") with
      | none => evidence
      | some model =>
        match safeModelIdentifier library model, evidence.model with
        | none, _ => { evidence with malformed := true }
        | some safeModel, none => { evidence with model := some safeModel }
        | some safeModel, some sessionModel =>
          if sessionModel = safeModel then evidence else { evidence with conflict := true }

/-- `models.add(model)`. -/
def addModel (models : List PyStr) (model : PyStr) : List PyStr :=
  if model ∈ models then models else models ++ [model]

/-- `canonical_models[model] = canonical`. -/
def setCanonical (entries : List (PyStr × Option PyStr)) (model : PyStr)
    (canonical : Option PyStr) : List (PyStr × Option PyStr) :=
  if entries.any (·.1 = model) then
    entries.map fun entry => if entry.1 = model then (model, canonical) else entry
  else entries ++ [(model, canonical)]

/-- `canonical_models.get(model)`. -/
def canonicalOf (entries : List (PyStr × Option PyStr)) (model : PyStr) : Option PyStr :=
  (entries.find? fun entry => entry.1 = model).bind Prod.snd

/-- `canonical_models.setdefault(model, None)`. -/
def defaultCanonical (entries : List (PyStr × Option PyStr)) (model : PyStr) :
    List (PyStr × Option PyStr) :=
  if entries.any (·.1 = model) then entries else entries ++ [(model, none)]

/-- The canonical name a usage entry carries: an outer `none` where it is malformed. -/
def canonicalName (usage : PyValue) : Option (Option PyStr) :=
  match knownValue usage "canonicalModel" with
  | .none => some none
  | .str s =>
    if library.casefold (strip s) = unknownModel then some none
    else (safeModelIdentifier library (.str s)).map some
  | _ => none

/-- One entry of `model_usage`. -/
def TurnEvidence.observeUsage (evidence : TurnEvidence) (entry : PyValue × PyValue) :
    TurnEvidence :=
  match safeModelIdentifier library entry.1, entry.2.mapping? with
  | some model, some _ =>
    match canonicalName library entry.2 with
    | none => { evidence with usageMalformed := true }
    | some canonical =>
      let previous := canonicalOf evidence.usageCanonicalModels model
      if previous.isSome && canonical.isSome && previous ≠ canonical then
        { evidence with usageMalformed := true }
      else { evidence with
        usageModels := addModel evidence.usageModels model
        usageCanonicalModels :=
          if canonical.isSome then setCanonical evidence.usageCanonicalModels model canonical
          else defaultCanonical evidence.usageCanonicalModels model }
  | _, _ => { evidence with usageMalformed := true }

/-- `_observe_model_evidence`. -/
def TurnEvidence.observe (evidence : TurnEvidence) (message : PyValue) : TurnEvidence :=
  let parent := message.safeAttr "parent_tool_use_id"
  let evidence := match safeModelIdentifier library (message.safeAttr "model") with
    | some reported =>
      if parent.isNone || parent.isText [] then
        { evidence with reportedModels := addModel evidence.reportedModels reported }
      else evidence
    | none => evidence
  match message.safeAttr "model_usage" with
  | .none => evidence
  | .dict entries =>
    if entries.length > maxArgumentItems then { evidence with usageMalformed := true }
    else entries.foldl (TurnEvidence.observeUsage library) evidence
  | _ => { evidence with usageMalformed := true }

/-- The models that `_model_provenance` looks at as reported: with a session model only
that one counts, and `none` says that another one was reported. -/
def countedReports (session : SessionEvidence) (turn : TurnEvidence) : Option (List PyStr) :=
  match session.model with
  | none => some turn.reportedModels
  | some model =>
    if turn.reportedModels.any fun reported =>
        reported ≠ model && library.casefold reported ∉ syntheticModelIdentifiers then none
    else some (turn.reportedModels.filter (· = model))

/-- The model when usage is reported for several: the session's or the single reported
one, which must be one of them or the canonical name of exactly one. -/
def amongUsageModels (session : SessionEvidence) (turn : TurnEvidence)
    (reportedModels : List PyStr) : Option (Option PyStr × Option PyStr) :=
  let reported := match session.model, reportedModels with
    | some model, _ => some model
    | none, [model] => some model
    | none, _ => none
  reported.bind fun reported =>
    if reported ∈ turn.usageModels then
      some (some reported, canonicalOf turn.usageCanonicalModels reported)
    else if (turn.usageCanonicalModels.filter (·.2 = some reported)).length = 1 then
      some (some reported, some reported)
    else none

/-- The model when usage is reported for at most one. -/
def bySingleUsage (session : SessionEvidence) (turn : TurnEvidence)
    (reportedModels : List PyStr) : Option (Option PyStr × Option PyStr) :=
  match turn.usageModels.head? with
  | some usageModel =>
    let canonical := canonicalOf turn.usageCanonicalModels usageModel
    match session.model with
    | some model =>
      if usageModel = model then some (some model, canonical)
      else if canonical = some model then some (some model, some model)
      else none
    | none =>
      if reportedModels.all fun reported => reported = usageModel || canonical = some reported then
        some (some usageModel, canonical)
      else none
  | none =>
    match session.model, reportedModels with
    | some model, _ => some (some model, none)
    | none, [] => some (none, none)
    | none, [model] => some (some model, none)
    | none, _ => none

/-- `_model_provenance`. -/
def modelProvenance (selectedModel : Option PyStr) (session : SessionEvidence)
    (turn : TurnEvidence) : ModelResolution :=
  if turn.usageMalformed || session.malformed || session.conflict then .ambiguous
  else
    let found := (countedReports library session turn).bind fun reportedModels =>
      if turn.usageModels.length > 1 then amongUsageModels session turn reportedModels
      else bySingleUsage session turn reportedModels
    match found with
    | none => .ambiguous
    | some (none, canonical) => ⟨none, canonical, lit "unknown"⟩
    | some (some effective, canonical) =>
      if canonical.any (· ≠ effective) then ⟨some effective, canonical, lit "canonicalized"⟩
      else if selectedModel.any (· ≠ effective) then ⟨some effective, canonical, lit "mismatch"⟩
      else ⟨some effective, canonical,
        if selectedModel.isSome then lit "exact" else lit "reported"⟩

end Evidence

/-! ## The events of a result -/

/-- `_MAX_USAGE_TOKENS`. -/
def maxUsageTokens : Nat := 10 ^ 12

/-- `_coerce_usage_int`. -/
def coerceUsageInt (library : TextLibrary) (value : PyValue) : Nat :=
  match value with
  | .int i => min i.toNat maxUsageTokens
  | .float (.finite q) => min q.floor.toNat maxUsageTokens
  | .str s => min ((library.decimal (strip s)).getD 0) maxUsageTokens
  | _ => 0

/-- `a or b`. -/
def orElse (a b : PyValue) : PyValue := if a.truthy then a else b

/-- The tokens of a usage receipt. -/
def usageTokens (library : TextLibrary) (usage : PyValue) : List Nat :=
  [knownValue usage "input_tokens", knownValue usage "output_tokens",
    orElse (knownValue usage "cache_read_input_tokens") (knownValue usage "cache_read_tokens"),
    orElse (knownValue usage "cache_creation_input_tokens") (knownValue usage "cache_write_tokens"),
    knownValue usage "reasoning_tokens"].map (coerceUsageInt library)

/-- The events of `_project_result`, of a projector that `run_turn` has built. -/
def resultEvents (library : TextLibrary) (correlationId : PyValue) (message : PyValue) :
    List RuntimeEvent :=
  let failed := match message.safeAttr "is_error" with
    | .bool b => b
    | _ => false
  let final := if failed then [] else safeText (message.safeAttr "result") maxTextChars
  let usage := message.safeAttr "usage"
  let correlation := safeIdentifier correlationId []
  (if final.isEmpty then [] else [.content final]) ++
    (if usage.isNone then [] else [.usage {
      runtimeId := lit "hermes-claude-agent-sdk"
      provider := lit "anthropic"
      billingMode := lit "subscription_included"
      costStatus := lit "included"
      replaySafe := false
      correlationId := if correlation.isEmpty then .none else .str correlation
      tokens := usageTokens library usage }]) ++
    [.completed]

end HermesClaude.Content
