/-
# Billing evidence of a turn

One SDK message yields at most one evidence update, and a turn folds its updates
with `_merge_evidence`.  The fold is last-writer-wins in each of the four fields,
so the evidence a turn has gathered is a bank of registers over its messages;
only the names recorded as malformed accumulate.
-/

import HermesClaude.Billing.Policy
import HermesClaude.Library.Register
import Mathlib.Data.List.Dedup

namespace HermesClaude.Billing

open HermesClaude.Python HermesClaude.Library

/-- `_read_field`: the first of the names that a mapping has as a key, or that
any other value has as an attribute. -/
def readField (value : PyValue) (names : List String) (default : PyValue := .none) : PyValue :=
  let read (name : String) : Option PyValue :=
    match value.mapping? with
    | some items => PyValue.lookupKey items (lit name)
    | none => value.getAttr name
  (names.findSome? read).getD default

section Extraction

variable (U : UnicodeDatabase)

/-- `value.replace("-", "_").replace(" ", "").lower()`. -/
def normalizeKind (text : PyStr) : PyStr :=
  let hyphen : CodePoint := 0x2D
  let blank : CodePoint := 0x20
  U.lower ((text.map fun c => if c = hyphen then 0x5F else c).filter fun c => c ≠ blank)

/-- `_event_kind`. -/
def eventKind (event : PyValue) : PyStr :=
  match event.mapping? with
  | some _ =>
    match readField event ["type", "kind"] (.str []) with
    | .str text => normalizeKind U text
    | _ => []
  | none => normalizeKind U (lit event.typeName)

/-- `any(key in event for key in names)` on a mapping. -/
def hasAnyKey (event : PyValue) (names : List String) : Bool :=
  match event.mapping? with
  | some items => names.any fun name => (PyValue.lookupKey items (lit name)).isSome
  | none => false

/-- `subtype in (None, "init")`. -/
def isInitSubtype (subtype : PyValue) : Bool :=
  subtype.isNone || subtype.isText (lit "init")

/-- The rate-limit half of `extract_sdk_billing_evidence`. -/
def extractRateLimit (info : PyValue) : SDKBillingEvidence :=
  let found := readField info ["raw"] (.dict [])
  let raw := if found.isNone then .dict [] else found
  let rawMalformed := raw.mapping?.isNone
  let raw := if rawMalformed then .dict [] else raw
  let overageValue := readField info ["is_using_overage", "isUsingOverage"]
    (readField raw ["isUsingOverage", "is_using_overage"])
  let overageStatus := readField info ["overage_status", "overageStatus"]
    (readField raw ["overageStatus", "overage_status"])
  let rateLimitType := readField info ["rate_limit_type", "rateLimitType"]
    (readField raw ["rateLimitType", "rate_limit_type"])
  let malformed := rawMalformed || (canonicalUsingOverage overageValue).2
  { isUsingOverage := overageValue
    overageStatus := overageStatus
    rateLimitType := rateLimitType
    malformedFields := .tuple (if malformed then [.str (lit "is_using_overage")] else []) }

/-- `extract_sdk_billing_evidence` on an SDK message. -/
def extractSdkBillingEvidence (event : PyValue) : Option SDKBillingEvidence :=
  let kind := eventKind U event
  let subtype := readField event ["subtype"]
  let isSystem := decide (kind ∈ [lit "systemmessage", lit "system_message", lit "system"]) ||
    (hasAnyKey event ["apiKeySource", "api_key_source"] && isInitSubtype subtype)
  if isSystem then
    if !isInitSubtype subtype then none
    else
      let data := readField event ["data"] event
      match data.mapping? with
      | none => some { malformedFields := .tuple [.str (lit "api_key_source")] }
      | some _ => some { apiKeySource := readField data ["apiKeySource", "api_key_source"] }
  else
    let info := readField event ["rate_limit_info", "rateLimitInfo"]
    let named := decide (kind ∈ [lit "ratelimitevent", lit "rate_limit_event", lit "rate_limit"])
    let direct := info.isNone && event.mapping?.isSome
    let isRateLimit := named || (direct && hasAnyKey event
      ["raw", "isUsingOverage", "is_using_overage", "overageStatus", "overage_status",
        "rateLimitType", "rate_limit_type"])
    if isRateLimit then some (extractRateLimit (if direct then event else info)) else none

end Extraction

/-! ## Merging -/

/-- Lexicographic order of text, as `sorted` uses it. -/
def textLe : PyStr → PyStr → Bool
  | [], _ => true
  | _ :: _, [] => false
  | a :: as, b :: bs => if a = b then textLe as bs else decide (a.val < b.val)

/-- The field names among recorded malformed fields.  The extractor records
tuples of names and nothing else. -/
def recordedNames (malformedFields : PyValue) : List PyStr :=
  ((malformedFields.iterate).getD []).filterMap fun
    | .str name => some name
    | _ => none

/-- `update if update is not None else current`. -/
def overwrite (current update : PyValue) : PyValue :=
  if update.isNone then current else update

/-- `_merge_evidence`. -/
def mergeEvidence (current : Option SDKBillingEvidence) (update : SDKBillingEvidence) :
    SDKBillingEvidence :=
  match current with
  | none => update
  | some current =>
    { apiKeySource := overwrite current.apiKeySource update.apiKeySource
      isUsingOverage := overwrite current.isUsingOverage update.isUsingOverage
      overageStatus := overwrite current.overageStatus update.overageStatus
      rateLimitType := overwrite current.rateLimitType update.rateLimitType
      malformedFields := .tuple (((recordedNames current.malformedFields ++
        recordedNames update.malformedFields).dedup.insertionSort
          (fun a b => textLe a b = true)).map .str) }

/-- The evidence a turn holds after a sequence of updates. -/
def mergedEvidence (updates : List SDKBillingEvidence) : Option SDKBillingEvidence :=
  updates.foldl (fun current update => some (mergeEvidence current update)) none

@[simp]
theorem mergedEvidence_nil : mergedEvidence [] = none := rfl

@[simp]
theorem mergedEvidence_append_singleton (updates : List SDKBillingEvidence)
    (update : SDKBillingEvidence) :
    mergedEvidence (updates ++ [update]) =
      some (mergeEvidence (mergedEvidence updates) update) := by
  simp [mergedEvidence]

/-! ## Registers -/

/-- A field value as a register update: `None` does not write. -/
def writes (value : PyValue) : Option PyValue :=
  if value.isNone then none else some value

/-- The last value written to a field, or `None`. -/
def lastWritten (values : List PyValue) : PyValue :=
  (Register.last (values.map writes)).getD .none

/-- The evidence that consists of the last value written to each field and of
every field name recorded as malformed. -/
def registers (updates : List SDKBillingEvidence) : SDKBillingEvidence where
  apiKeySource := lastWritten (updates.map (·.apiKeySource))
  isUsingOverage := lastWritten (updates.map (·.isUsingOverage))
  overageStatus := lastWritten (updates.map (·.overageStatus))
  rateLimitType := lastWritten (updates.map (·.rateLimitType))
  malformedFields := .tuple ((updates.flatMap fun u => recordedNames u.malformedFields).map .str)

@[simp]
theorem lastWritten_nil : lastWritten [] = .none := rfl

@[simp]
theorem lastWritten_append_singleton (values : List PyValue) (value : PyValue) :
    lastWritten (values ++ [value]) = overwrite (lastWritten values) value := by
  unfold lastWritten overwrite writes
  by_cases hnone : value.isNone = true
  · simp [hnone]
  · simp [hnone]

@[simp]
theorem overwrite_none (value : PyValue) : overwrite .none value = value := by
  cases value <;> simp [overwrite, PyValue.isNone]

@[simp]
theorem lastWritten_singleton (value : PyValue) : lastWritten [value] = value := by
  simpa using lastWritten_append_singleton [] value

theorem recordedNames_map_str (names : List PyStr) :
    recordedNames (.tuple (names.map .str)) = names := by
  simp [recordedNames, PyValue.iterate, List.filterMap_map]

/-- Merging is last-writer-wins in each field, and keeps the recorded names. -/
theorem mergedEvidence_eq_registers {updates : List SDKBillingEvidence}
    (hupdates : updates ≠ []) :
    ∃ merged, mergedEvidence updates = some merged ∧
      merged.apiKeySource = (registers updates).apiKeySource ∧
      merged.isUsingOverage = (registers updates).isUsingOverage ∧
      merged.overageStatus = (registers updates).overageStatus ∧
      merged.rateLimitType = (registers updates).rateLimitType ∧
      ∀ name, name ∈ recordedNames merged.malformedFields ↔
        name ∈ recordedNames (registers updates).malformedFields := by
  induction updates using List.reverseRecOn with
  | nil => exact absurd rfl hupdates
  | append_singleton updates update ih =>
    rw [mergedEvidence_append_singleton]
    refine ⟨_, rfl, ?_⟩
    by_cases hempty : updates = []
    · subst hempty
      simp [mergeEvidence, registers, recordedNames_map_str]
    · obtain ⟨merged, hmerged, hsource, husing, hstatus, hlimit, hnames⟩ := ih hempty
      rw [hmerged]
      simp only [registers, recordedNames_map_str] at hnames
      refine ⟨?_, ?_, ?_, ?_, fun name => ?_⟩
      · simp [mergeEvidence, registers, hsource]
      · simp [mergeEvidence, registers, husing]
      · simp [mergeEvidence, registers, hstatus]
      · simp [mergeEvidence, registers, hlimit]
      · simp only [mergeEvidence, registers, recordedNames_map_str, List.mem_insertionSort,
          List.mem_dedup, List.mem_append, List.flatMap_append, List.flatMap_cons,
          List.flatMap_nil, List.append_nil, hnames]

/-- What is recorded as malformed depends on the recorded names only. -/
theorem recordedMalformed_tuple (items : List PyValue) :
    recordedMalformed (.tuple items) =
      billingFieldNames.filter fun name => decide (name ∈ recordedNames (.tuple items)) := by
  simp only [recordedMalformed]
  congr 1
  funext name
  rw [Bool.eq_iff_iff, List.any_eq_true, decide_eq_true_eq]
  simp only [recordedNames, PyValue.iterate, Option.getD_some, List.mem_filterMap]
  constructor
  · rintro ⟨v, hmem, hv⟩
    exact ⟨v, hmem, by rw [PyValue.isText_iff.mp hv]⟩
  · rintro ⟨v, hmem, hv⟩
    cases v with
    | str s => exact ⟨.str s, hmem, by simpa [PyValue.isText] using hv⟩
    | none | bool | int | float | bytes | list | tuple | set | dict | object => simp at hv

section Gate

variable (U : UnicodeDatabase)

/-- The extractor records malformed fields as a tuple. -/
theorem malformedFields_of_extract {event : PyValue} {update : SDKBillingEvidence}
    (h : extractSdkBillingEvidence U event = some update) :
    ∃ items, update.malformedFields = .tuple items := by
  unfold extractSdkBillingEvidence at h
  simp only at h
  split_ifs at h
  · split at h <;> cases h <;> exact ⟨_, rfl⟩
  · cases h
    exact ⟨_, rfl⟩
  · cases h
    exact ⟨_, rfl⟩

/-- The merged evidence of a turn is judged as the registers are. -/
theorem classify_mergedEvidence {updates : List SDKBillingEvidence} (hupdates : updates ≠ [])
    (htuple : ∀ u ∈ updates, ∃ items, u.malformedFields = .tuple items) :
    classifySdkBilling U (mergedEvidence updates) =
      classifySdkBilling U (some (registers updates)) := by
  obtain ⟨merged, hmerged, hsource, husing, hstatus, hlimit, hnames⟩ :=
    mergedEvidence_eq_registers hupdates
  have hmergedTuple : ∃ items, merged.malformedFields = .tuple items := by
    rw [← List.dropLast_append_getLast hupdates, mergedEvidence_append_singleton,
      Option.some.injEq] at hmerged
    subst hmerged
    unfold mergeEvidence
    split
    · exact htuple _ (List.getLast_mem hupdates)
    · exact ⟨_, rfl⟩
  obtain ⟨items, hitems⟩ := hmergedTuple
  have hmalformed : recordedMalformed merged.malformedFields =
      recordedMalformed (registers updates).malformedFields := by
    rw [hitems] at hnames ⊢
    rw [recordedMalformed_tuple, registers, recordedMalformed_tuple]
    simp only [hnames, registers]
  have hnormalize : normalizeEvidence U merged = normalizeEvidence U (registers updates) := by
    simp only [normalizeEvidence, hsource, husing, hstatus, hlimit, hmalformed]
  simp only [hmerged, classifySdkBilling, hnormalize]

end Gate

end HermesClaude.Billing
