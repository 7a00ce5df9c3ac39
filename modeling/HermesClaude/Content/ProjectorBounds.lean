/-
# What the projector promises

Whatever a message holds, everything in the events of its projection is bounded.  And there is a
projection, unless the content of an assistant message can not be iterated over or a result holds a
decimal text that `int` refuses.
-/

import HermesClaude.Content.Projector

namespace HermesClaude.Content

open HermesClaude.Python

/-! ## Bounds -/

/-- The bound of a text of the completion. -/
def completionLimit (key : PyStr) : Nat :=
  if key = lit "text" then maxTextChars else if key = lit "subtype" then 64 else maxIdentifierChars

/-- A bounded entry of the completion. -/
def BoundedEntry (entry : PyStr × Json) : Prop :=
  match entry.2 with
  | .str s => s.length ≤ completionLimit entry.1
  | .int i => 0 ≤ i ∧ i ≤ maxUsageTokens
  | .bool _ => True
  | _ => False

/-- A receipt with short names, and tokens within `_MAX_USAGE_TOKENS`. -/
structure RuntimeUsageReceipt.WithinBounds (receipt : RuntimeUsageReceipt) : Prop where
  runtimeId : Short receipt.runtimeId
  provider : Short receipt.provider
  model : Short receipt.model
  costStatus : Short receipt.costStatus
  correlationId : ShortName receipt.correlationId
  selectedModel : ShortName receipt.selectedModel
  effectiveModel : ShortName receipt.effectiveModel
  canonicalModel : ShortName receipt.canonicalModel
  modelResolution : Short receipt.modelResolution
  inputTokens : receipt.inputTokens ≤ maxUsageTokens
  outputTokens : receipt.outputTokens ≤ maxUsageTokens
  cacheReadTokens : receipt.cacheReadTokens ≤ maxUsageTokens
  cacheWriteTokens : receipt.cacheWriteTokens ≤ maxUsageTokens
  reasoningTokens : receipt.reasoningTokens ≤ maxUsageTokens

/-- An event within the bounds. -/
def ProjectedEvent.WithinBounds : ProjectedEvent → Prop
  | .content text => text.length ≤ maxTextChars
  | .toolRequest requestId name arguments => Short requestId ∧ Short name ∧ BoundedArguments arguments
  | .usage receipt => receipt.WithinBounds
  | .completed result => ∀ entry ∈ result, BoundedEntry entry

/-- A projection within the bounds. -/
structure ProjectedMessage.WithinBounds (projected : ProjectedMessage) : Prop where
  events : ∀ event ∈ projected.events, event.WithinBounds
  toolResults : ∀ result ∈ projected.toolResults,
    Short result.toolUseId ∧ result.text.length ≤ maxTextChars
  finalText : ∀ text ∈ projected.finalText, text.length ≤ maxTextChars

/-! ## Where projecting raises -/

/-- Iterating over the content of an assistant message raises. -/
def ContentRaises (message : PyValue) : Prop :=
  (message.safeAttr "content").truthy = true ∧ (message.safeAttr "content").iterate = none

/-- The values that the tokens of a receipt are read from. -/
def usageValues (usage : PyValue) : List PyValue :=
  [knownValue usage "input_tokens", knownValue usage "output_tokens",
    orElse (knownValue usage "cache_read_input_tokens") (knownValue usage "cache_read_tokens"),
    orElse (knownValue usage "cache_creation_input_tokens") (knownValue usage "cache_write_tokens"),
    knownValue usage "reasoning_tokens"]

/-- A number of a result is a decimal text that `int` refuses. -/
def NumberRaises (library : TextLibrary) (message : PyValue) : Prop :=
  ((message.safeAttr "usage").isNone = false ∧
      ∃ value ∈ usageValues (message.safeAttr "usage"), Overlong library value) ∨
    ∃ field ∈ EventProjector.numberFields, Overlong library (message.safeAttr field)

/-- A message whose projection raises. -/
def Unprojectable (library : TextLibrary) (message : PyValue) : Prop :=
  (message.typeName = "AssistantMessage" ∧ ContentRaises message) ∨
    (message.typeName = "ResultMessage" ∧ NumberRaises library message)

variable {library : ProjectorLibrary} {projector : EventProjector} {message : PyValue}

theorem short_getD {name : Option PyStr} (h : ShortName name) : Short (name.getD unknownModel) := by
  cases name with
  | none => exact (by decide : Short unknownModel)
  | some text => exact h text rfl

theorem shortName_or {a b : Option PyStr} (ha : ShortName a) (hb : ShortName b) : ShortName (a.or b) := by
  cases a with
  | none => exact hb
  | some text => exact ha

theorem short_safeCostStatus (parseFloat : PyStr → Option PyFloat) (billingMode : BillingMode)
    (value : PyValue) : Short (safeCostStatus parseFloat billingMode value) := by
  have hunknown : Short (lit "unknown") := by decide
  cases billingMode with
  | subscriptionIncluded => exact (by decide : Short (lit "included"))
  | sdkReportedMetered =>
    rw [safeCostStatus]
    split
    · exact (by decide : Short (lit "reported"))
    · exact hunknown
  | unknown => exact hunknown

namespace EventProjector

theorem short_model (library : ProjectorLibrary) (projector : EventProjector) :
    (projector.modelProvenance library).Short :=
  short_modelProvenance projector.session_short projector.turn_short _

/-! ## Assistant messages -/

theorem withinBounds_toolRequest (block : PyValue) : (toolRequest block).WithinBounds :=
  ⟨short_safeIdentifier _ (by decide), short_safeIdentifier _ (by decide), bounded_safeToolArguments _⟩

theorem projectAssistant_eq_none_iff (library : ProjectorLibrary) (projector : EventProjector)
    (message : PyValue) :
    projector.projectAssistant library message = none ↔ ContentRaises message := by
  rw [projectAssistant, Option.map_eq_none_iff, contentBlocks, ContentRaises]
  cases (message.safeAttr "content").truthy <;> simp

theorem withinBounds_projectAssistant {projected : ProjectedMessage}
    (h : projector.projectAssistant library message = some projected) : projected.WithinBounds := by
  rcases Option.map_eq_some_iff.mp h with ⟨blocks, -, rfl⟩
  have htext : ∀ text ∈ (if blockTexts blocks = [] then none
      else some (((lit "\n").intercalate (blockTexts blocks)).take maxTextChars)),
      text.length ≤ maxTextChars := by
    intro text hmem
    split at hmem
    · cases hmem
    · cases hmem
      exact List.length_take_le _ _
  refine ⟨?_, List.forall_mem_nil _, htext⟩
  intro event hevent
  rcases List.mem_append.mp hevent with hcontent | hrequest
  · rcases List.mem_map.mp hcontent with ⟨text, hmem, rfl⟩
    exact htext text (Option.mem_filter_iff.mp (Option.mem_toList.mp hmem)).1
  · rcases List.mem_map.mp hrequest with ⟨block, -, rfl⟩
    exact withinBounds_toolRequest block

/-! ## User messages -/

theorem withinBounds_projectUser (message : PyValue) : (projectUser library message).WithinBounds := by
  rw [projectUser]
  split
  · exact ⟨List.forall_mem_nil _, List.forall_mem_nil _, fun _ h => by cases h⟩
  · refine ⟨List.forall_mem_nil _, ?_, fun _ h => by cases h⟩
    intro result hresult
    rcases List.mem_map.mp hresult with ⟨block, -, rfl⟩
    exact ⟨short_safeIdentifier _ (by decide), length_flattenToolResultContent_le _ _⟩

/-! ## Results -/

theorem usageInt_le {value : PyValue} {n : Nat} (h : usageInt library.toTextLibrary value = some n) :
    n ≤ maxUsageTokens := by
  rw [(usageInt_eq_some_iff.mp h).2]
  exact coerceUsageInt_le _ _

theorem exists_usageReceipt_iff {usage : PyValue} :
    (∃ receipt, projector.usageReceipt library message usage = some receipt) ↔
      ∀ value ∈ usageValues usage, ¬Overlong library.toTextLibrary value := by
  have hvalues : (∀ value ∈ usageValues usage, ¬Overlong library.toTextLibrary value) ↔
      ∀ value ∈ usageValues usage, usageInt library.toTextLibrary value =
        some (coerceUsageInt library.toTextLibrary value) := by
    simp only [usageInt_eq_some_iff, and_true]
  rw [hvalues]
  simp only [usageValues, List.forall_mem_cons, List.not_mem_nil, false_implies, implies_true, and_true]
  constructor
  · intro h
    rcases h with ⟨receipt, h⟩
    simp only [usageReceipt, Option.bind_eq_bind, Option.bind_eq_some_iff] at h
    rcases h with ⟨_, hinput, _, houtput, _, hread, _, hwrite, _, hreasoning, -⟩
    have hsame : ∀ {value n}, usageInt library.toTextLibrary value = some n →
        usageInt library.toTextLibrary value = some (coerceUsageInt library.toTextLibrary value) := by
      intro value n hn
      exact usageInt_eq_some_iff.mpr ⟨(usageInt_eq_some_iff.mp hn).1, rfl⟩
    exact ⟨hsame hinput, hsame houtput, hsame hread, hsame hwrite, hsame hreasoning⟩
  · intro h
    apply Option.isSome_iff_exists.mp
    simp only [usageReceipt, h.1, h.2.1, h.2.2.1, h.2.2.2.1, h.2.2.2.2]
    rfl

theorem withinBounds_usageReceipt {usage : PyValue} {receipt : RuntimeUsageReceipt}
    (h : projector.usageReceipt library message usage = some receipt) : receipt.WithinBounds := by
  have hmodel := short_model library projector
  simp only [usageReceipt, Option.bind_eq_bind, Option.bind_eq_some_iff, Option.pure_def,
    Option.some_inj] at h
  rcases h with ⟨inputTokens, hinput, outputTokens, houtput, cacheReadTokens, hread, cacheWriteTokens,
    hwrite, reasoningTokens, hreasoning, rfl⟩
  exact {
    runtimeId := projector.runtimeId_short
    provider := projector.provider_short
    model := short_getD (shortName_or hmodel.canonical hmodel.effective)
    costStatus := short_safeCostStatus _ _ _
    correlationId := projector.correlationId_short
    selectedModel := projector.selectedModel_short
    effectiveModel := hmodel.effective
    canonicalModel := hmodel.canonical
    modelResolution := hmodel.resolution
    inputTokens := usageInt_le hinput
    outputTokens := usageInt_le houtput
    cacheReadTokens := usageInt_le hread
    cacheWriteTokens := usageInt_le hwrite
    reasoningTokens := usageInt_le hreasoning }

theorem exists_usageEvents_iff (library : ProjectorLibrary) (projector : EventProjector)
    (message : PyValue) :
    (∃ events, projector.usageEvents library message = some events) ↔
      ¬((message.safeAttr "usage").isNone = false ∧
        ∃ value ∈ usageValues (message.safeAttr "usage"), Overlong library.toTextLibrary value) := by
  rw [usageEvents]
  cases husage : (message.safeAttr "usage").isNone with
  | true => simp
  | false =>
    constructor
    · intro h hraises
      rcases h with ⟨events, h⟩
      rcases Option.map_eq_some_iff.mp h with ⟨receipt, hreceipt, -⟩
      rcases hraises.2 with ⟨value, hvalue, hlong⟩
      exact exists_usageReceipt_iff.mp ⟨receipt, hreceipt⟩ value hvalue hlong
    · intro h
      have hvalues : ∀ value ∈ usageValues (message.safeAttr "usage"),
          ¬Overlong library.toTextLibrary value := by
        intro value hvalue hlong
        exact h ⟨rfl, value, hvalue, hlong⟩
      rcases exists_usageReceipt_iff |>.mpr hvalues with
        ⟨receipt, hreceipt⟩
      exact ⟨_, Option.map_eq_some_iff.mpr ⟨receipt, hreceipt, rfl⟩⟩

theorem withinBounds_usageEvents {events : List ProjectedEvent}
    (h : projector.usageEvents library message = some events) : ∀ event ∈ events, event.WithinBounds := by
  rw [usageEvents] at h
  split at h
  · cases h
    exact List.forall_mem_nil _
  · rcases Option.map_eq_some_iff.mp h with ⟨receipt, hreceipt, rfl⟩
    rw [List.forall_mem_singleton]
    exact withinBounds_usageReceipt hreceipt

theorem exists_numberEntries_iff (library : ProjectorLibrary) (message : PyValue) (fields : List String) :
    (∃ entries, numberEntries library message fields = some entries) ↔
      ∀ field ∈ fields, ¬Overlong library.toTextLibrary (message.safeAttr field) := by
  induction fields with
  | nil => simp [numberEntries]
  | cons field rest ih =>
    rw [List.forall_mem_cons, ← ih, numberEntries]
    constructor
    · intro h
      rcases h with ⟨entries, h⟩
      rcases Option.bind_eq_some_iff.mp h with ⟨value, hvalue, hrest⟩
      rcases Option.map_eq_some_iff.mp hrest with ⟨entries', hentries, -⟩
      exact ⟨(usageInt_eq_some_iff.mp hvalue).1, entries', hentries⟩
    · intro h
      rcases h with ⟨hfield, entries, hentries⟩
      rw [usageInt_eq_some_iff.mpr ⟨hfield, rfl⟩, hentries]
      exact ⟨_, rfl⟩

theorem boundedEntry_numberEntries {fields : List String} {entries : List (PyStr × Json)}
    (h : numberEntries library message fields = some entries) : ∀ entry ∈ entries, BoundedEntry entry := by
  induction fields generalizing entries with
  | nil =>
    cases h
    exact List.forall_mem_nil _
  | cons field rest ih =>
    rw [numberEntries] at h
    rcases Option.bind_eq_some_iff.mp h with ⟨value, hvalue, hrest⟩
    rcases Option.map_eq_some_iff.mp hrest with ⟨entries', hentries, rfl⟩
    split
    · exact ih hentries
    · rw [List.forall_mem_cons]
      refine ⟨⟨Int.natCast_nonneg _, ?_⟩, ih hentries⟩
      exact Int.ofNat_le.mpr (usageInt_le hvalue)

theorem boundedEntry_completion {final : PyStr} {numbers : List (PyStr × Json)}
    (hfinal : final.length ≤ maxTextChars) (hnumbers : ∀ entry ∈ numbers, BoundedEntry entry) :
    ∀ entry ∈ projector.completion library message final numbers, BoundedEntry entry := by
  have hmodel := short_model library projector
  have hname (key : String) (hkey : completionLimit (lit key) = maxIdentifierChars) {name : PyStr}
      (h : Short name) : BoundedEntry (lit key, .str name) := by
    rw [BoundedEntry, hkey]
    exact h
  have hsubtype : (safeText (message.safeAttr "subtype") 64).length ≤ 64 := by
    cases message.safeAttr "subtype" with
    | str s => exact List.length_take_le _ _
    | none | bool | int | float | bytes | list | tuple | set | dict | object => exact Nat.zero_le _
  simp only [completion, List.forall_mem_append, List.forall_mem_cons]
  refine ⟨⟨⟨⟨?_, ?_⟩, ?_⟩, ?_⟩, hnumbers⟩
  · split
    · exact List.forall_mem_nil _
    · rw [List.forall_mem_singleton]
      exact hfinal
  · exact ⟨hname "model" (by decide) (short_getD (shortName_or hmodel.canonical hmodel.effective)),
      hname "selected_model" (by decide) (short_getD projector.selectedModel_short),
      hname "effective_model" (by decide) (short_getD hmodel.effective),
      hname "canonical_model" (by decide) (short_getD hmodel.canonical),
      hname "model_resolution" (by decide) hmodel.resolution, List.forall_mem_nil _⟩
  · split
    · rw [List.forall_mem_singleton]
      trivial
    · exact List.forall_mem_nil _
  · split
    · exact List.forall_mem_nil _
    · rw [List.forall_mem_singleton]
      exact hsubtype

theorem withinBounds_projectResult {projected : ProjectedMessage}
    (h : projector.projectResult library message = some projected) : projected.WithinBounds := by
  rcases Option.bind_eq_some_iff.mp h with ⟨usage, husage, hrest⟩
  rcases Option.map_eq_some_iff.mp hrest with ⟨numbers, hnumbers, rfl⟩
  have hlength : (resultText message).length ≤ maxTextChars := by
    rw [resultText]
    split
    · exact Nat.zero_le _
    · cases message.safeAttr "result" with
      | str s => exact List.length_take_le _ _
      | none | bool | int | float | bytes | list | tuple | set | dict | object => exact Nat.zero_le _
  refine ⟨?_, List.forall_mem_nil _, ?_⟩
  · simp only [List.forall_mem_append, List.forall_mem_singleton]
    refine ⟨⟨?_, withinBounds_usageEvents husage⟩,
      boundedEntry_completion hlength (boundedEntry_numberEntries hnumbers)⟩
    split
    · exact List.forall_mem_nil _
    · rw [List.forall_mem_singleton]
      exact hlength
  · intro text htext
    dsimp only at htext
    split at htext
    · cases htext
    · cases htext
      exact hlength

theorem exists_projectResult_iff : (∃ projected, projector.projectResult library message = some projected) ↔
    ¬NumberRaises library.toTextLibrary message := by
  have husage := exists_usageEvents_iff library projector message
  have hnumbers := exists_numberEntries_iff library message numberFields
  rw [NumberRaises, not_or, ← husage]
  simp only [not_exists, not_and] at hnumbers ⊢
  rw [← hnumbers]
  constructor
  · intro h
    rcases h with ⟨projected, h⟩
    rcases Option.bind_eq_some_iff.mp h with ⟨usage, husage, hrest⟩
    rcases Option.map_eq_some_iff.mp hrest with ⟨numbers, hnumbers, -⟩
    exact ⟨⟨usage, husage⟩, numbers, hnumbers⟩
  · intro h
    rcases h with ⟨⟨usage, husage⟩, numbers, hnumbers⟩
    exact ⟨_, Option.bind_eq_some_iff.mpr ⟨usage, husage,
      Option.map_eq_some_iff.mpr ⟨numbers, hnumbers, rfl⟩⟩⟩

/-- **The projector.**  A message is projected, with everything within the bounds, exactly where
its projection does not raise. -/
theorem project_returns_iff (library : ProjectorLibrary) (projector : EventProjector)
    (message : PyValue) :
    (∃ projected, (projector.project library message).1 = some projected ∧ projected.WithinBounds) ↔
      ¬Unprojectable library.toTextLibrary message := by
  have hiff (result : Option ProjectedMessage) (hbounds : ∀ projected ∈ result, projected.WithinBounds) :
      (∃ projected, result = some projected ∧ projected.WithinBounds) ↔
        ∃ projected, result = some projected := by
    constructor
    · intro h
      rcases h with ⟨projected, hsome, -⟩
      exact ⟨projected, hsome⟩
    · intro h
      rcases h with ⟨projected, hsome⟩
      exact ⟨projected, hsome, hbounds projected hsome⟩
  have hempty : ProjectedMessage.WithinBounds {} :=
    ⟨List.forall_mem_nil _, List.forall_mem_nil _, fun _ h => by cases h⟩
  rw [project, Unprojectable]
  generalize projector.observe library message = observed
  by_cases hassistant : message.typeName = "AssistantMessage"
  · rw [if_pos hassistant, hiff _ fun _ => withinBounds_projectAssistant, hassistant]
    simp only [true_and, ← projectAssistant_eq_none_iff library observed]
    rw [← Option.isSome_iff_exists, Option.isSome_iff_ne_none]
    simp
  · rw [if_neg hassistant]
    by_cases huser : message.typeName = "UserMessage"
    · rw [if_pos huser, hiff _ fun _ h => Option.some.inj h ▸ withinBounds_projectUser message, huser]
      simp
    · rw [if_neg huser]
      by_cases hresult : message.typeName = "ResultMessage"
      · rw [if_pos hresult, hiff _ fun _ => withinBounds_projectResult, hresult, exists_projectResult_iff]
        simp
      · rw [if_neg hresult, hiff _ fun _ h => Option.some.inj h ▸ hempty]
        simp [hassistant, hresult]

/-- The standard library restricted to ASCII. -/
def asciiLibrary : ProjectorLibrary where
  casefold s := s.map CodePoint.asciiLower
  decimal s := if s ≠ [] ∧ s.all CodePoint.isDigit then some (ofDecimal s) else none
  floats := exactFloatText
  parseFloat _ := none

/-- So many nines. -/
def nines (count : Nat) : PyStr := List.replicate count 0x39

theorem overlong_nines {count : Nat} (hcount : maxStrDigits < count) :
    Overlong asciiLibrary.toTextLibrary (.str (nines count)) := by
  have hdigit : ∀ c ∈ nines count, c = 0x39 := fun c hc => List.eq_of_mem_replicate hc
  have hstrip : strip (nines count) = nines count := by
    apply strip_eq_self
    intro c hc
    rw [hdigit c hc]
    decide
  have hlength : (nines count).length = count := List.length_replicate
  have hne : nines count ≠ [] := by
    intro hnil
    rw [hnil] at hlength
    exact absurd hcount (hlength ▸ Nat.not_lt_zero _)
  have hall : (nines count).all CodePoint.isDigit = true := by
    rw [List.all_eq_true]
    intro c hc
    rw [hdigit c hc]
    decide
  refine ⟨nines count, rfl, ?_, ?_⟩
  · simp only [hstrip, asciiLibrary, hne, hall, ne_eq, not_false_eq_true, and_self, if_true,
      Option.isSome_some]
  · rw [hstrip, hlength]
    exact hcount

theorem project_result (hresult : message.typeName = "ResultMessage") :
    (projector.project library message).1 =
      (projector.observe library message).projectResult library message := by
  rw [project, if_neg (by rw [hresult]; decide), if_neg (by rw [hresult]; decide), if_pos hresult]

/-- A projector without settings. -/
def plainProjector : EventProjector := create asciiLibrary .none .none .none .none .none

theorem project_nines {count : Nat} (hcount : maxStrDigits < count) :
    (plainProjector.project asciiLibrary
      (.object "ResultMessage" [("duration_ms", .str (nines count))])).1 = none := by
  have hraises : NumberRaises asciiLibrary.toTextLibrary
      (.object "ResultMessage" [("duration_ms", .str (nines count))]) :=
    Or.inr ⟨"duration_ms", by decide, overlong_nines hcount⟩
  rw [project_result rfl, Option.eq_none_iff_forall_ne_some]
  intro projected hprojected
  exact exists_projectResult_iff.mp ⟨projected, hprojected⟩ hraises

/-- A number in place of the content, and a duration with too many digits: neither message is
projected. -/
theorem project_raises :
    (plainProjector.project asciiLibrary (.object "AssistantMessage" [("content", .int 5)])).1 = none ∧
      (plainProjector.project asciiLibrary
        (.object "ResultMessage" [("duration_ms", .str (nines 4301))])).1 = none :=
  ⟨rfl, project_nines (by decide)⟩

end EventProjector

end HermesClaude.Content
