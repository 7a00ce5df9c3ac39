/-
# What the billing gate accepts

`classify_sdk_billing` takes any value: typed evidence, a mapping with the four fields, or
something else.  This module reads its acceptance off the raw fields, by their trimmed
lower-case text, and then asks whether a decision stands by the evidence it carries.

The decision carries the normalized categories and no longer the names of the malformed
fields, so evidence that was blocked for a malformed field alone may be judged differently
the second time.
-/

import HermesClaude.Billing.Policy

namespace HermesClaude.Billing

open HermesClaude.Python

/-! ## Evidence of any kind -/

/-- A value given as evidence.  A mapping is known by its answer to each name: the value of
the item, nothing where it has none, or an exception. -/
inductive EvidenceValue
  | typed (evidence : SDKBillingEvidence)
  | mapping (item : String → Except Unit (Option PyValue))
  | other

/-- `_read_field` on a mapping: the item of the first name that is a key.  An exception ends
the search without one. -/
def readMappingField (item : String → Except Unit (Option PyValue)) : List String → PyValue
  | [] => .none
  | name :: names =>
    match item name with
    | .error _ => .none
    | .ok (some value) => value
    | .ok none => readMappingField item names

/-- `_coerce_evidence`. -/
def coerceEvidence : EvidenceValue → Option SDKBillingEvidence
  | .typed evidence => some evidence
  | .mapping item => some {
      apiKeySource := readMappingField item ["api_key_source", "apiKeySource"]
      isUsingOverage := readMappingField item ["is_using_overage", "isUsingOverage"]
      overageStatus := readMappingField item ["overage_status", "overageStatus"]
      rateLimitType := readMappingField item ["rate_limit_type", "rateLimitType"] }
  | .other => none

variable (U : UnicodeDatabase)

/-- `classify_sdk_billing` on any value. -/
def classifyEvidence (value : EvidenceValue) : BillingDecision :=
  classifySdkBilling U (coerceEvidence value)

/-! ## The raw fields -/

/-- The trimmed lower-case text of a signal. -/
def signalText (value : PyValue) : Option PyStr :=
  match value with
  | .str s => some (U.lower (strip s))
  | _ => none

/-- A signal that is neither absent nor text, or whose text is blank or too long. -/
def MalformedText (value : PyValue) : Prop :=
  value ≠ .none ∧
    ∀ text, signalText U value = some text → text = [] ∨ maxEvidenceTextLength < text.length

/-- A flag that is neither absent nor a boolean. -/
def MalformedFlag (value : PyValue) : Prop :=
  value ≠ .none ∧ ∀ b, value ≠ .bool b

/-- Some field of the evidence has the wrong type, is blank or too long. -/
def SDKBillingEvidence.IllFormed (e : SDKBillingEvidence) : Prop :=
  MalformedText U e.apiKeySource ∨ MalformedFlag e.isUsingOverage ∨
    MalformedText U e.overageStatus ∨ MalformedText U e.rateLimitType

/-- The evidence comes with the name of a malformed field, or with something that is no
collection of names. -/
def SDKBillingEvidence.RecordsMalformed (e : SDKBillingEvidence) : Prop :=
  recordedMalformed e.malformedFields ≠ []

/-- The text of a signal is one of the given ones. -/
def ReadsAs (value : PyValue) (texts : List PyStr) : Prop :=
  ∃ text ∈ texts, signalText U value = some text

/-- Every field is absent or reads like a subscription, and at least one field does. -/
structure SDKBillingEvidence.ShowsSubscription (e : SDKBillingEvidence) : Prop where
  source : e.apiKeySource = .none ∨ signalText U e.apiKeySource = some (lit "none")
  flag : e.isUsingOverage ≠ .bool true
  status : e.overageStatus = .none ∨ ReadsAs U e.overageStatus safeOverageStatuses
  limit : e.rateLimitType = .none ∨ ReadsAs U e.rateLimitType safeRateLimitTypes ∨
    (signalText U e.rateLimitType = some (lit "overage") ∧ e.isUsingOverage = .bool false)
  positive : signalText U e.apiKeySource = some (lit "none") ∨ e.isUsingOverage = .bool false ∨
    ReadsAs U e.overageStatus safeOverageStatuses ∨ ReadsAs U e.rateLimitType safeRateLimitTypes

/-- Some field reads like paid use. -/
def SDKBillingEvidence.ShowsPaidUse (e : SDKBillingEvidence) : Prop :=
  (ReadsAs U e.apiKeySource meteredApiKeySources ∨ e.isUsingOverage = .bool true ∨
      ReadsAs U e.overageStatus riskyOverageStatuses) ∨
    (signalText U e.rateLimitType = some (lit "overage") ∧ e.isUsingOverage ≠ .bool false)

/-! ## Categories of a signal -/

/-- The bound of `_bounded_signal_text`: neither blank nor too long. -/
def Bounded (text : PyStr) : Prop := ¬ (text = [] ∨ maxEvidenceTextLength < text.length)

instance (text : PyStr) : Decidable (Bounded text) := inferInstanceAs (Decidable (¬ _))

/-- The texts that the policy knows, with those of its categories. -/
def knownTexts : List PyStr :=
  lit "none" :: lit "overage" :: lit "unknown" ::
    (meteredApiKeySources ++ safeOverageStatuses ++ riskyOverageStatuses ++ safeRateLimitTypes)

/-- Every known text is within the bound. -/
theorem bounded_of_known : ∀ text ∈ knownTexts, Bounded text := by
  decide +kernel

/-- What is not malformed keeps its text; what is malformed reads as `unknown`. -/
theorem boundedSignalText_eq (value : PyValue) :
    (value = .none ∧ boundedSignalText U value = (none, false)) ∨
      (MalformedText U value ∧ boundedSignalText U value = (some (lit "unknown"), true)) ∨
      ∃ text, signalText U value = some text ∧ Bounded text ∧
        boundedSignalText U value = (some text, false) := by
  cases value with
  | none => exact .inl ⟨rfl, rfl⟩
  | str s =>
    by_cases hbound : U.lower (strip s) = [] ∨ maxEvidenceTextLength < (U.lower (strip s)).length
    · refine .inr (.inl ⟨⟨by simp, ?_⟩, by simp [boundedSignalText, hbound]⟩)
      intro text htext
      cases htext
      exact hbound
    · exact .inr (.inr ⟨_, rfl, hbound, by simp [boundedSignalText, hbound]⟩)
  | bool | int | float | bytes | list | tuple | set | dict | object =>
    exact .inr (.inl ⟨⟨by simp, by simp [signalText]⟩, rfl⟩)

theorem signalText_none : signalText U .none = none := rfl

/-- Malformed text reads as nothing the policy knows. -/
theorem MalformedText.ne_text {value : PyValue} (h : MalformedText U value) {text : PyStr}
    (hbounded : Bounded text) : signalText U value ≠ some text := by
  intro htext
  exact hbounded (h.2 text htext)

/-- The second component of `_bounded_signal_text` tells whether the signal is malformed. -/
theorem boundedSignalText_malformed (value : PyValue) :
    (boundedSignalText U value).2 = true ↔ MalformedText U value := by
  rcases boundedSignalText_eq U value with ⟨hnone, heq⟩ | ⟨hmalformed, heq⟩ | ⟨text, htext, hb, heq⟩
  · simp [boundedSignalText, MalformedText, hnone]
  · simp [heq, hmalformed]
  · rw [heq]
    exact iff_of_false (by simp) fun h => h.ne_text U hb htext

theorem canonicalApiKeySource_malformed (value : PyValue) :
    (canonicalApiKeySource U value).2 = (boundedSignalText U value).2 := by
  unfold canonicalApiKeySource
  split
  · simp_all
  · split_ifs <;> simp_all

theorem canonicalOverageStatus_malformed (value : PyValue) :
    (canonicalOverageStatus U value).2 = (boundedSignalText U value).2 := by
  unfold canonicalOverageStatus
  split
  · simp_all
  · split_ifs <;> simp_all

theorem canonicalRateLimitType_malformed (value : PyValue) :
    (canonicalRateLimitType U value).2 = (boundedSignalText U value).2 := by
  unfold canonicalRateLimitType
  split
  · simp_all
  · split_ifs <;> simp_all

theorem canonicalUsingOverage_malformed (value : PyValue) :
    (canonicalUsingOverage value).2 = true ↔ MalformedFlag value := by
  cases value <;> simp [canonicalUsingOverage, MalformedFlag]

/-- A field is malformed exactly if it is recorded so, or ill-formed itself. -/
theorem malformed_iff (e : SDKBillingEvidence) :
    e.Malformed U ↔ e.RecordsMalformed ∨ e.IllFormed U := by
  unfold SDKBillingEvidence.Malformed SDKBillingEvidence.RecordsMalformed
    SDKBillingEvidence.IllFormed
  simp only [normalizeEvidence, ← boundedSignalText_malformed, ← canonicalUsingOverage_malformed,
    canonicalApiKeySource_malformed, canonicalOverageStatus_malformed,
    canonicalRateLimitType_malformed, ne_eq, List.append_eq_nil_iff, ite_eq_right_iff,
    List.cons_ne_nil, imp_false, not_and_or, not_not, or_assoc]

/-! ### The categories of each field -/

/-- The category of an API-key source. -/
def sourceCategory (text : PyStr) : PyStr :=
  if text = lit "none" then lit "none"
  else if text ∈ meteredApiKeySources then lit "metered"
  else lit "unknown"

/-- The category of an overage status. -/
def statusCategory (text : PyStr) : PyStr :=
  if text ∈ safeOverageStatuses ∨ text ∈ riskyOverageStatuses then text else lit "unknown"

/-- The category of a rate-limit window. -/
def limitCategory (text : PyStr) : PyStr :=
  if text ∈ safeRateLimitTypes then text
  else if text = lit "overage" then text
  else lit "unknown"

theorem canonicalApiKeySource_eq (value : PyValue) :
    (canonicalApiKeySource U value).1 = (boundedSignalText U value).1.map sourceCategory := by
  unfold canonicalApiKeySource
  split <;> rename_i heq <;> rw [heq]
  · rfl
  · simp only [Option.map_some, sourceCategory]
    split_ifs <;> rfl

theorem canonicalOverageStatus_eq (value : PyValue) :
    (canonicalOverageStatus U value).1 = (boundedSignalText U value).1.map statusCategory := by
  unfold canonicalOverageStatus
  split <;> rename_i heq <;> rw [heq]
  · rfl
  · simp only [Option.map_some, statusCategory]
    split_ifs <;> rfl

theorem canonicalRateLimitType_eq (value : PyValue) :
    (canonicalRateLimitType U value).1 = (boundedSignalText U value).1.map limitCategory := by
  unfold canonicalRateLimitType
  split <;> rename_i heq <;> rw [heq]
  · rfl
  · simp only [Option.map_some, limitCategory]
    split_ifs <;> rfl

/-- An absent signal has no category, and every other one has some. -/
theorem category_eq_none {f : PyStr → PyStr} {value : PyValue} :
    (boundedSignalText U value).1.map f = none ↔ value = .none := by
  rw [Option.map_eq_none_iff]
  rcases boundedSignalText_eq U value with ⟨hnone, heq⟩ | ⟨hmalformed, heq⟩ | ⟨text, htext, _, heq⟩
  · simp [hnone, boundedSignalText]
  · simp [heq, hmalformed.1]
  · rw [heq]
    refine iff_of_false (by simp) ?_
    intro hnone
    simp [hnone, signalText_none] at htext

/-- A signal falls into one of some categories exactly if it reads as one of the texts that
have these categories. -/
theorem category_iff {f : PyStr → PyStr} {categories texts : List PyStr}
    (hf : ∀ text, f text ∈ categories ↔ text ∈ texts) (hbounded : ∀ text ∈ texts, Bounded text)
    (hunknown : lit "unknown" ∉ texts) (value : PyValue) :
    (∃ category ∈ categories, (boundedSignalText U value).1.map f = some category) ↔
      ReadsAs U value texts := by
  unfold ReadsAs
  rcases boundedSignalText_eq U value with ⟨hnone, heq⟩ | ⟨hmalformed, heq⟩ | ⟨text, htext, _, heq⟩
  · simp [hnone, boundedSignalText, signalText_none]
  · rw [heq]
    refine iff_of_false ?_ ?_
    · simpa [hf] using hunknown
    · intro h
      rcases h with ⟨text, hmem, htext⟩
      exact hmalformed.ne_text U (hbounded text hmem) htext
  · simp [heq, htext, hf]

theorem source_none_iff (value : PyValue) :
    (canonicalApiKeySource U value).1 = some (lit "none") ↔
      signalText U value = some (lit "none") := by
  have hf : ∀ text, sourceCategory text ∈ [lit "none"] ↔ text ∈ [lit "none"] := by
    intro text
    have hmetered : lit "metered" ≠ lit "none" := by decide
    have hunknown : lit "unknown" ≠ lit "none" := by decide
    unfold sourceCategory
    split_ifs <;> simp_all
  simpa [ReadsAs, canonicalApiKeySource_eq] using
    category_iff U hf (by decide) (by decide) value

theorem source_metered_iff (value : PyValue) :
    (canonicalApiKeySource U value).1 = some (lit "metered") ↔
      ReadsAs U value meteredApiKeySources := by
  have hf : ∀ text, sourceCategory text ∈ [lit "metered"] ↔ text ∈ meteredApiKeySources := by
    intro text
    have hnone : lit "none" ≠ lit "metered" := by decide
    have hunmetered : lit "none" ∉ meteredApiKeySources := by decide
    have hunknown : lit "unknown" ≠ lit "metered" := by decide
    unfold sourceCategory
    split_ifs <;> simp_all
  simpa [canonicalApiKeySource_eq] using
    category_iff U hf (fun text h => bounded_of_known text (by simp [knownTexts, h])) (by decide) value

/-- A status is in one of two sets of known ones exactly if it reads so. -/
theorem status_iff (texts : List PyStr)
    (hknown : ∀ text ∈ texts, text ∈ safeOverageStatuses ∨ text ∈ riskyOverageStatuses)
    (hunknown : lit "unknown" ∉ texts) (value : PyValue) :
    (∃ text ∈ texts, (canonicalOverageStatus U value).1 = some text) ↔
      ReadsAs U value texts := by
  have hf : ∀ text, statusCategory text ∈ texts ↔ text ∈ texts := by
    intro text
    unfold statusCategory
    split_ifs with h
    · rfl
    · exact iff_of_false hunknown fun hmem => h (hknown text hmem)
  rw [canonicalOverageStatus_eq]
  refine category_iff U hf (fun text h => bounded_of_known text ?_) hunknown value
  rcases hknown text h with h | h <;> simp [knownTexts, h]

theorem limit_iff (texts : List PyStr)
    (hknown : ∀ text ∈ texts, text ∈ safeRateLimitTypes ∨ text = lit "overage")
    (hunknown : lit "unknown" ∉ texts) (value : PyValue) :
    (∃ text ∈ texts, (canonicalRateLimitType U value).1 = some text) ↔
      ReadsAs U value texts := by
  have hf : ∀ text, limitCategory text ∈ texts ↔ text ∈ texts := by
    intro text
    unfold limitCategory
    split_ifs with hsafe hoverage
    · rfl
    · rfl
    · refine iff_of_false hunknown fun hmem => ?_
      exact (hknown text hmem).elim hsafe hoverage
  rw [canonicalRateLimitType_eq]
  refine category_iff U hf (fun text h => bounded_of_known text ?_) hunknown value
  rcases hknown text h with h | h <;> simp [knownTexts, h]

theorem isRisky_iff {status : Option PyStr} :
    isRisky status = true ↔ ∃ text ∈ riskyOverageStatuses, status = some text := by
  cases status <;> simp [isRisky]

/-! ## Exact acceptance -/

/-- The normalized evidence is that of a subscription exactly if the raw fields show one. -/
theorem subscription_iff (e : SDKBillingEvidence) :
    (normalizeEvidence U e).1.Subscription ↔ e.ShowsSubscription U := by
  have hsource : (canonicalApiKeySource U e.apiKeySource).1 = none ↔ e.apiKeySource = .none := by
    rw [canonicalApiKeySource_eq]
    exact category_eq_none U
  have hstatus : (canonicalOverageStatus U e.overageStatus).1 = none ↔
      e.overageStatus = .none := by
    rw [canonicalOverageStatus_eq]
    exact category_eq_none U
  have hlimit : (canonicalRateLimitType U e.rateLimitType).1 = none ↔
      e.rateLimitType = .none := by
    rw [canonicalRateLimitType_eq]
    exact category_eq_none U
  have hsafe := status_iff U safeOverageStatuses (fun text h => .inl h) (by decide)
    e.overageStatus
  have hwindow := limit_iff U safeRateLimitTypes (fun text h => .inl h) (by decide)
    e.rateLimitType
  have hoverage : (canonicalRateLimitType U e.rateLimitType).1 = some (lit "overage") ↔
      signalText U e.rateLimitType = some (lit "overage") := by
    simpa [ReadsAs] using
      limit_iff U [lit "overage"] (by simp) (by decide) e.rateLimitType
  simp only [NormalizedEvidence.Subscription, normalizeEvidence, canonicalUsingOverage_eq_some,
    source_none_iff, hsource, hstatus, hlimit, hsafe, hwindow, hoverage, ne_eq]
  constructor
  · intro h
    exact ⟨h.1, h.2.1, h.2.2.1, h.2.2.2.1, h.2.2.2.2⟩
  · intro h
    exact ⟨h.source, h.flag, h.status, h.limit, h.positive⟩

/-- The normalized evidence is paid use exactly if the raw fields show it. -/
theorem paidUse_iff (e : SDKBillingEvidence) :
    (e.PaidUse U ∨ e.OverageWindow U) ↔ e.ShowsPaidUse U := by
  have hrisky := status_iff U riskyOverageStatuses (fun text h => .inr h) (by decide)
    e.overageStatus
  have hoverage : (canonicalRateLimitType U e.rateLimitType).1 = some (lit "overage") ↔
      signalText U e.rateLimitType = some (lit "overage") := by
    simpa [ReadsAs] using
      limit_iff U [lit "overage"] (by simp) (by decide) e.rateLimitType
  simp only [SDKBillingEvidence.PaidUse, SDKBillingEvidence.OverageWindow, source_metered_iff,
    isRisky_iff, hrisky, hoverage, SDKBillingEvidence.ShowsPaidUse]

/-- **Exact acceptance.** The gate allows a value exactly if it is evidence none of whose
fields is ill-formed or recorded as malformed, and whose fields show a subscription. -/
theorem allowed_classifyEvidence_iff (value : EvidenceValue) :
    (classifyEvidence U value).allowed = true ↔
      ∃ e, coerceEvidence value = some e ∧ ¬ e.RecordsMalformed ∧ ¬ e.IllFormed U ∧
        e.ShowsSubscription U := by
  unfold classifyEvidence
  cases coerceEvidence value with
  | none => simp [classifySdkBilling, blocked]
  | some e =>
    rw [allowed_classifySdkBilling_iff, SDKBillingEvidence.Subscription, malformed_iff,
      subscription_iff, not_or, and_assoc]
    simp

/-- Evidence that reads like a subscription and says that one of its fields was malformed. -/
def recordedEvidence : SDKBillingEvidence where
  apiKeySource := .str (lit "none")
  malformedFields := .tuple [.str (lit "overage_status")]

/-- Well-formed fields that show a subscription are not enough: the record counts. -/
theorem recorded_not_allowed :
    ¬ ∀ value : EvidenceValue, (classifyEvidence asciiDatabase value).allowed = true ↔
      ∃ e, coerceEvidence value = some e ∧ ¬ e.IllFormed asciiDatabase ∧
        e.ShowsSubscription asciiDatabase := by
  intro hall
  have hblocked : (classifyEvidence asciiDatabase (.typed recordedEvidence)).allowed = false := by
    decide +kernel
  have hformed : ¬ recordedEvidence.IllFormed asciiDatabase := by
    intro hill
    rcases hill with h | h | h | h
    · have hnone := boundedSignalText_malformed asciiDatabase recordedEvidence.apiKeySource
      have hfalse : (boundedSignalText asciiDatabase recordedEvidence.apiKeySource).2 = false := by
        decide +kernel
      exact absurd (hnone.mpr h) (by simp [hfalse])
    · exact h.1 rfl
    · exact h.1 rfl
    · exact h.1 rfl
  have hnone : signalText asciiDatabase recordedEvidence.apiKeySource = some (lit "none") := by
    decide +kernel
  have hshows : recordedEvidence.ShowsSubscription asciiDatabase :=
    ⟨.inr hnone, by simp [recordedEvidence], .inl rfl, .inl rfl, .inl hnone⟩
  have hallowed := (hall (.typed recordedEvidence)).mpr ⟨_, rfl, hformed, hshows⟩
  simp [hblocked] at hallowed

/-! ## A decision and its own evidence -/

/-- Lower-case ASCII text without white space. -/
def isPlainText (text : PyStr) : Bool :=
  text.all fun c => decide (c.val < 128) && !c.isSpace && decide (c.asciiLower = c)

theorem isPlainText_known : knownTexts.all isPlainText = true := by
  decide +kernel

/-- A category reads as itself. -/
theorem boundedSignalText_known {text : PyStr} (hmem : text ∈ knownTexts) :
    boundedSignalText U (.str text) = (some text, false) := by
  have hplain : ∀ c ∈ text, (c.val < 128 ∧ c.isSpace = false) ∧ c.asciiLower = c := by
    have h := List.all_eq_true.mp isPlainText_known text hmem
    simpa [isPlainText] using h
  have hstrip : strip text = text := strip_eq_self fun c hc => (hplain c hc).1.2
  have hlower : U.lower text = text := by
    rw [U.lower_ascii text fun c hc => (hplain c hc).1.1]
    exact (List.map_congr_left fun c hc => (hplain c hc).2).trans (List.map_id text)
  have hbounded : Bounded text := bounded_of_known text hmem
  simp only [boundedSignalText, hstrip, hlower]
  exact if_neg hbounded

/-- A category assigned twice is the category assigned once. -/
theorem boundedSignalText_category {f : PyStr → PyStr}
    (hknown : ∀ text, f text ∈ knownTexts) (hidem : ∀ text, f (f text) = f text)
    (value : PyValue) :
    (boundedSignalText U (categoryValue ((boundedSignalText U value).1.map f))).1.map f =
        (boundedSignalText U value).1.map f ∧
      (boundedSignalText U (categoryValue ((boundedSignalText U value).1.map f))).2 = false := by
  cases (boundedSignalText U value).1 with
  | none => exact ⟨rfl, rfl⟩
  | some text =>
    simp only [Option.map_some, categoryValue, boundedSignalText_known U (hknown text), hidem,
      and_self]

theorem sourceCategory_known (text : PyStr) : sourceCategory text ∈ knownTexts := by
  unfold sourceCategory
  split_ifs <;> decide

theorem sourceCategory_idem (text : PyStr) :
    sourceCategory (sourceCategory text) = sourceCategory text := by
  by_cases hnone : text = lit "none"
  · simp [sourceCategory, hnone]
  by_cases hmetered : text ∈ meteredApiKeySources
  · have h : sourceCategory text = lit "metered" := by simp [sourceCategory, hnone, hmetered]
    rw [h]
    decide
  · have h : sourceCategory text = lit "unknown" := by simp [sourceCategory, hnone, hmetered]
    rw [h]
    decide

theorem statusCategory_known (text : PyStr) : statusCategory text ∈ knownTexts := by
  unfold statusCategory
  split_ifs with h
  · rcases h with h | h <;> simp [knownTexts, h]
  · decide

theorem statusCategory_idem (text : PyStr) :
    statusCategory (statusCategory text) = statusCategory text := by
  by_cases h : text ∈ safeOverageStatuses ∨ text ∈ riskyOverageStatuses
  · simp [statusCategory, h]
  · have hunknown : statusCategory text = lit "unknown" := by simp [statusCategory, h]
    rw [hunknown]
    decide

theorem limitCategory_known (text : PyStr) : limitCategory text ∈ knownTexts := by
  unfold limitCategory
  split_ifs with hsafe hoverage
  · simp [knownTexts, hsafe]
  · simp [knownTexts, hoverage]
  · decide

theorem limitCategory_idem (text : PyStr) :
    limitCategory (limitCategory text) = limitCategory text := by
  by_cases h : text ∈ safeRateLimitTypes ∨ text = lit "overage"
  · have hsame : limitCategory text = text := by
      rcases h with h | h <;> simp [limitCategory, h]
    rw [hsame, hsame]
  · have hunknown : limitCategory text = lit "unknown" := by
      rw [not_or] at h
      simp [limitCategory, h]
    rw [hunknown]
    decide

/-- Normalized evidence is its own normal form, with no field malformed. -/
theorem normalizeEvidence_toEvidence (e : SDKBillingEvidence) :
    normalizeEvidence U (normalizeEvidence U e).1.toEvidence = ((normalizeEvidence U e).1, []) := by
  have hsource := boundedSignalText_category U sourceCategory_known sourceCategory_idem
    e.apiKeySource
  have hstatus := boundedSignalText_category U statusCategory_known statusCategory_idem
    e.overageStatus
  have hlimit := boundedSignalText_category U limitCategory_known limitCategory_idem
    e.rateLimitType
  have hrecord : recordedMalformed (.tuple []) = [] := by decide
  simp only [normalizeEvidence, NormalizedEvidence.toEvidence, hrecord,
    canonicalApiKeySource_malformed, canonicalOverageStatus_malformed,
    canonicalRateLimitType_malformed, canonicalApiKeySource_eq, canonicalOverageStatus_eq,
    canonicalRateLimitType_eq, hsource, hstatus, hlimit]
  cases (canonicalUsingOverage e.isUsingOverage).1 <;> rfl

/-- Judged again, the evidence of a decision has only its categories left. -/
theorem classifySdkBilling_toEvidence (e : SDKBillingEvidence) :
    classifySdkBilling U (some (normalizeEvidence U e).1.toEvidence) =
      classifyNormalized (normalizeEvidence U e).1 := by
  simp [classifySdkBilling, normalizeEvidence_toEvidence]

/-- Evidence is unknown exactly if it is neither paid use nor a subscription. -/
theorem classifyNormalized_unknown (n : NormalizedEvidence) :
    ((classifyNormalized n).allowed = false ∧
        (classifyNormalized n).blockReason = some .unknownEvidence) ↔
      (classifyNormalized n).immediate ≠ true ∧ (classifyNormalized n).allowed ≠ true := by
  unfold classifyNormalized
  split_ifs <;> simp [blocked, BillingDecision.immediate, immediateBillingBlocks]

/-- **Standing by one's evidence.** A decision is repeated on its own evidence exactly if
malformed evidence would be unknown anyway: its fields show neither paid use nor a
subscription. -/
theorem reclassify_iff (value : EvidenceValue) :
    ((classifyEvidence U (.typed (classifyEvidence U value).evidence)).allowed =
          (classifyEvidence U value).allowed ∧
        (classifyEvidence U (.typed (classifyEvidence U value).evidence)).blockReason =
          (classifyEvidence U value).blockReason) ↔
      ∀ e, coerceEvidence value = some e → (e.RecordsMalformed ∨ e.IllFormed U) →
        ¬ e.ShowsPaidUse U ∧ ¬ e.ShowsSubscription U := by
  unfold classifyEvidence
  cases coerceEvidence value with
  | none =>
    refine iff_of_true ⟨?_, ?_⟩ ?_
    · exact congrArg BillingDecision.allowed (classifySdkBilling_toEvidence U {})
    · exact congrArg BillingDecision.blockReason (classifySdkBilling_toEvidence U {})
    · intro e he
      cases he
  | some e =>
    have hcarried : (classifySdkBilling U (some e)).evidence =
        (normalizeEvidence U e).1.toEvidence := by
      unfold classifySdkBilling classifyNormalized
      simp only
      split_ifs <;> rfl
    rw [hcarried]
    simp only [coerceEvidence, classifySdkBilling_toEvidence, Option.some.injEq, forall_eq',
      ← malformed_iff]
    by_cases hmalformed : e.Malformed U
    · have hne : (normalizeEvidence U e).2 ≠ [] := hmalformed
      have hunknown := classifyNormalized_unknown (normalizeEvidence U e).1
      have hpaid : (classifyNormalized (normalizeEvidence U e).1).immediate = true ↔
          e.ShowsPaidUse U := by
        rw [classifyNormalized_immediate, ← paidUse_iff, paidUse_iff_normalized,
          overageWindow_iff_normalized]
      have hallowed : (classifyNormalized (normalizeEvidence U e).1).allowed = true ↔
          e.ShowsSubscription U := by
        rw [← subscription_iff]
        exact ⟨(canonical_normalizeEvidence U e).subscription,
          NormalizedEvidence.Subscription.allowed⟩
      simp only [classifySdkBilling, hne, ne_eq, not_false_eq_true, if_true, blocked,
        hmalformed, true_imp_iff]
      rw [hunknown, Ne, Ne, hpaid, hallowed]
    · have heq : (normalizeEvidence U e).2 = [] := not_not.mp hmalformed
      simp [classifySdkBilling, heq, hmalformed]

/-- A subscription source beside an overage flag that is no boolean. -/
def malformedFlagEvidence : SDKBillingEvidence where
  apiKeySource := .str (lit "none")
  isUsingOverage := .str (lit "yes")

/-- Normalization turns blocked evidence into allowed evidence. -/
theorem reclassified_allowed :
    ¬ ∀ value : EvidenceValue,
      (classifyEvidence asciiDatabase (.typed (classifyEvidence asciiDatabase value).evidence)).allowed =
          (classifyEvidence asciiDatabase value).allowed ∧
        (classifyEvidence asciiDatabase (.typed
            (classifyEvidence asciiDatabase value).evidence)).blockReason =
          (classifyEvidence asciiDatabase value).blockReason := by
  intro hall
  have hfirst : (classifyEvidence asciiDatabase (.typed malformedFlagEvidence)).allowed = false := by
    decide +kernel
  have hsecond : (classifyEvidence asciiDatabase (.typed
      (classifyEvidence asciiDatabase (.typed malformedFlagEvidence)).evidence)).allowed = true := by
    decide +kernel
  have hsame := (hall (.typed malformedFlagEvidence)).1
  simp [hfirst, hsecond] at hsame

end HermesClaude.Billing
