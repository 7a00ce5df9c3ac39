/-
# The subscription-only billing policy

`classify_sdk_billing` decides from one evidence snapshot whether a turn may go
on.  The only allowed result is a recognised subscription signal without any
sign of paid use; unknown, malformed and contradictory evidence is blocked.

The second half reads the decision back as a property of the four evidence
fields: when it blocks at once, and what an allowed snapshot rules out.
-/

import HermesClaude.Python.Value
import Mathlib.Data.List.Sort

namespace HermesClaude.Billing

open HermesClaude.Python

/-- Sanitized billing labels suitable for a usage receipt. -/
inductive BillingMode
  | subscriptionIncluded
  | sdkReportedMetered
  | unknown
  deriving DecidableEq

/-- Why a subscription-only turn cannot proceed. -/
inductive BillingBlockReason
  | apiKeySource
  | extraUsage
  | overage
  | unknownEvidence
  | conflictingEvidence
  deriving DecidableEq

/-- The value of a block reason. -/
def BillingBlockReason.value : BillingBlockReason → String
  | .apiKeySource => "api_key_source"
  | .extraUsage => "extra_usage"
  | .overage => "overage"
  | .unknownEvidence => "unknown_evidence"
  | .conflictingEvidence => "conflicting_evidence"

/-- Typed billing signals; a field holds whatever value the SDK reported. -/
structure SDKBillingEvidence where
  apiKeySource : PyValue := .none
  isUsingOverage : PyValue := .none
  overageStatus : PyValue := .none
  rateLimitType : PyValue := .none
  malformedFields : PyValue := .tuple []

/-- Typed result the host must gate on before making another SDK call. -/
structure BillingDecision where
  mode : BillingMode
  allowed : Bool
  blockReason : Option BillingBlockReason
  evidence : SDKBillingEvidence

def maxEvidenceTextLength : Nat := 64

def meteredApiKeySources : List PyStr :=
  [lit "anthropic_api_key", lit "anthropic_auth_token", lit "anthropic_token", lit "api_key",
    lit "api-key", lit "metered"]

def safeOverageStatuses : List PyStr :=
  [lit "rejected", lit "disabled", lit "not_allowed", lit "not-allowed", lit "inactive",
    lit "none"]

def riskyOverageStatuses : List PyStr :=
  [lit "allowed", lit "allowed_warning", lit "allowed-warning"]

def safeRateLimitTypes : List PyStr :=
  [lit "five_hour", lit "five-hour", lit "seven_day", lit "seven-day", lit "seven_day_opus",
    lit "seven_day_sonnet", lit "seven_day_overage_included"]

/-- The names of the four billing fields. -/
def billingFieldNames : List PyStr :=
  [lit "api_key_source", lit "is_using_overage", lit "overage_status", lit "rate_limit_type"]

variable (U : UnicodeDatabase)

/-- `_bounded_signal_text`: the trimmed lower-case text, and whether the value
was malformed. -/
def boundedSignalText (value : PyValue) : Option PyStr × Bool :=
  match value with
  | .none => (none, false)
  | .str s =>
    let text := U.lower (strip s)
    if text = [] ∨ maxEvidenceTextLength < text.length then (some (lit "unknown"), true)
    else (some text, false)
  | _ => (some (lit "unknown"), true)

/-- `_canonical_api_key_source`. -/
def canonicalApiKeySource (value : PyValue) : Option PyStr × Bool :=
  match boundedSignalText U value with
  | (none, malformed) => (none, malformed)
  | (some text, malformed) =>
    if text = lit "none" then (some (lit "none"), malformed)
    else if text ∈ meteredApiKeySources then (some (lit "metered"), malformed)
    else (some (lit "unknown"), malformed)

/-- `_canonical_overage_status`. -/
def canonicalOverageStatus (value : PyValue) : Option PyStr × Bool :=
  match boundedSignalText U value with
  | (none, malformed) => (none, malformed)
  | (some text, malformed) =>
    if text ∈ safeOverageStatuses ∨ text ∈ riskyOverageStatuses then (some text, malformed)
    else (some (lit "unknown"), malformed)

/-- `_canonical_rate_limit_type`. -/
def canonicalRateLimitType (value : PyValue) : Option PyStr × Bool :=
  match boundedSignalText U value with
  | (none, malformed) => (none, malformed)
  | (some text, malformed) =>
    if text ∈ safeRateLimitTypes then (some text, malformed)
    else if text = lit "overage" then (some text, malformed)
    else (some (lit "unknown"), malformed)

/-- `is_using_overage` after normalisation: `None` or a boolean, and whether the
value was neither. -/
def canonicalUsingOverage (value : PyValue) : Option Bool × Bool :=
  match value with
  | .none => (none, false)
  | .bool b => (some b, false)
  | _ => (none, true)

/-- The field names already recorded as malformed.  A value that is no
collection is itself reported, under the name of the field that holds it. -/
def recordedMalformed (malformedFields : PyValue) : List PyStr :=
  match malformedFields with
  | .tuple names | .list names | .set names =>
    billingFieldNames.filter fun name => names.any fun v => v.isText name
  | _ => [lit "malformed_fields"]

/-- The canonical categories of the four fields. -/
structure NormalizedEvidence where
  apiKeySource : Option PyStr
  isUsingOverage : Option Bool
  overageStatus : Option PyStr
  rateLimitType : Option PyStr

/-- A canonical category as an evidence field. -/
def categoryValue : Option PyStr → PyValue
  | none => .none
  | some text => .str text

/-- The normalized categories as evidence. -/
def NormalizedEvidence.toEvidence (n : NormalizedEvidence) : SDKBillingEvidence where
  apiKeySource := categoryValue n.apiKeySource
  isUsingOverage := match n.isUsingOverage with
    | none => .none
    | some b => .bool b
  overageStatus := categoryValue n.overageStatus
  rateLimitType := categoryValue n.rateLimitType

/-- `_normalize_evidence`: the canonical categories, and the names of the
malformed fields.  The names are only tested for emptiness and membership. -/
def normalizeEvidence (evidence : SDKBillingEvidence) : NormalizedEvidence × List PyStr :=
  let source := canonicalApiKeySource U evidence.apiKeySource
  let using_ := canonicalUsingOverage evidence.isUsingOverage
  let status := canonicalOverageStatus U evidence.overageStatus
  let limit := canonicalRateLimitType U evidence.rateLimitType
  (⟨source.1, using_.1, status.1, limit.1⟩,
    recordedMalformed evidence.malformedFields ++
      (if source.2 then [lit "api_key_source"] else []) ++
      (if using_.2 then [lit "is_using_overage"] else []) ++
      (if status.2 then [lit "overage_status"] else []) ++
      (if limit.2 then [lit "rate_limit_type"] else []))

/-- `_blocked`. -/
def blocked (reason : BillingBlockReason) (evidence : SDKBillingEvidence)
    (metered : Bool := false) : BillingDecision :=
  { mode := if metered then .sdkReportedMetered else .unknown
    allowed := false
    blockReason := some reason
    evidence := evidence }

/-- Whether a normalized overage status is one of the risky ones. -/
def isRisky (status : Option PyStr) : Bool :=
  match status with
  | none => false
  | some text => decide (text ∈ riskyOverageStatuses)

/-- The gate on normalized evidence without malformed fields. -/
def classifyNormalized (n : NormalizedEvidence) : BillingDecision :=
  let evidence := n.toEvidence
  if n.apiKeySource = some (lit "none") ∧ (n.isUsingOverage = some true ∨ isRisky n.overageStatus)
  then blocked .conflictingEvidence evidence
  else if n.isUsingOverage = some false ∧ isRisky n.overageStatus then
    blocked .conflictingEvidence evidence
  else if n.apiKeySource = some (lit "metered") then
    blocked .apiKeySource evidence true
  else if n.isUsingOverage = some true ∨ isRisky n.overageStatus then
    blocked .extraUsage evidence true
  else if n.rateLimitType = some (lit "overage") ∧ n.isUsingOverage ≠ some false then
    blocked .overage evidence true
  else if n.apiKeySource = some (lit "unknown") ∨ n.overageStatus = some (lit "unknown") ∨
      n.rateLimitType = some (lit "unknown") then
    blocked .unknownEvidence evidence
  else if ¬ (n.apiKeySource = some (lit "none") ∨ n.isUsingOverage = some false ∨
      (∃ text ∈ safeOverageStatuses, n.overageStatus = some text) ∨
      (∃ text ∈ safeRateLimitTypes, n.rateLimitType = some text)) then
    blocked .unknownEvidence evidence
  else
    { mode := .subscriptionIncluded, allowed := true, blockReason := none, evidence := evidence }

/-- `classify_sdk_billing` on typed evidence, or on `None` where no message of
the turn carried any. -/
def classifySdkBilling (evidence : Option SDKBillingEvidence) : BillingDecision :=
  match evidence with
  | none => blocked .unknownEvidence {}
  | some typed =>
    let (normalized, malformed) := normalizeEvidence U typed
    if malformed ≠ [] then blocked .unknownEvidence normalized.toEvidence
    else classifyNormalized normalized

/-- `_IMMEDIATE_BILLING_BLOCKS`. -/
def immediateBillingBlocks : List BillingBlockReason :=
  [.apiKeySource, .extraUsage, .overage, .conflictingEvidence]

/-- `decision.block_reason in _IMMEDIATE_BILLING_BLOCKS`. -/
def BillingDecision.immediate (d : BillingDecision) : Bool :=
  match d.blockReason with
  | none => false
  | some reason => decide (reason ∈ immediateBillingBlocks)

/-! ## Reading the decision off the fields -/

/-- Some field is malformed, or was recorded as malformed. -/
def SDKBillingEvidence.Malformed (e : SDKBillingEvidence) : Prop :=
  (normalizeEvidence U e).2 ≠ []

instance (e : SDKBillingEvidence) : Decidable (e.Malformed U) :=
  inferInstanceAs (Decidable (_ ≠ _))

/-- Paid-use evidence: a metered API-key source, active Extra Usage, or an
overage status that permits it. -/
def SDKBillingEvidence.PaidUse (e : SDKBillingEvidence) : Prop :=
  (canonicalApiKeySource U e.apiKeySource).1 = some (lit "metered") ∨
    e.isUsingOverage = .bool true ∨
    isRisky (canonicalOverageStatus U e.overageStatus).1 = true

/-- The overage window, unless overage is reported as not in use. -/
def SDKBillingEvidence.OverageWindow (e : SDKBillingEvidence) : Prop :=
  (canonicalRateLimitType U e.rateLimitType).1 = some (lit "overage") ∧
    e.isUsingOverage ≠ .bool false

theorem canonicalUsingOverage_eq_some {v : PyValue} {b : Bool} :
    (canonicalUsingOverage v).1 = some b ↔ v = .bool b := by
  cases v <;> simp [canonicalUsingOverage]

/-- Normalization finds the paid-use signals of the raw fields. -/
theorem paidUse_iff_normalized (e : SDKBillingEvidence) :
    e.PaidUse U ↔ (normalizeEvidence U e).1.apiKeySource = some (lit "metered") ∨
      (normalizeEvidence U e).1.isUsingOverage = some true ∨
      isRisky (normalizeEvidence U e).1.overageStatus = true := by
  simp only [SDKBillingEvidence.PaidUse, normalizeEvidence, canonicalUsingOverage_eq_some]

theorem overageWindow_iff_normalized (e : SDKBillingEvidence) :
    e.OverageWindow U ↔ (normalizeEvidence U e).1.rateLimitType = some (lit "overage") ∧
      (normalizeEvidence U e).1.isUsingOverage ≠ some false := by
  simp only [SDKBillingEvidence.OverageWindow, normalizeEvidence, ne_eq,
    canonicalUsingOverage_eq_some]

/-- Without malformed fields the gate blocks at once exactly on a sign of paid
use. -/
theorem classifyNormalized_immediate (n : NormalizedEvidence) :
    (classifyNormalized n).immediate = true ↔
      (n.apiKeySource = some (lit "metered") ∨ n.isUsingOverage = some true ∨
        isRisky n.overageStatus = true) ∨
      (n.rateLimitType = some (lit "overage") ∧ n.isUsingOverage ≠ some false) := by
  unfold classifyNormalized
  split_ifs <;> simp_all [BillingDecision.immediate, blocked, immediateBillingBlocks]

/-- **Immediate blocks.** The gate blocks at once exactly when the evidence shows
paid use and no field of it is malformed. -/
theorem immediate_classifySdkBilling_iff (e : SDKBillingEvidence) :
    (classifySdkBilling U (some e)).immediate = true ↔
      ¬ e.Malformed U ∧ (e.PaidUse U ∨ e.OverageWindow U) := by
  rw [paidUse_iff_normalized, overageWindow_iff_normalized]
  by_cases hmalformed : (normalizeEvidence U e).2 = []
  · simp only [classifySdkBilling, SDKBillingEvidence.Malformed, hmalformed, ne_eq,
      not_true_eq_false, not_false_eq_true, true_and, if_false]
    exact classifyNormalized_immediate _
  · simp [classifySdkBilling, SDKBillingEvidence.Malformed, hmalformed,
      BillingDecision.immediate, blocked, immediateBillingBlocks]

/-- An allowed decision carries no block reason. -/
theorem allowed_iff_blockReason (e : Option SDKBillingEvidence) :
    (classifySdkBilling U e).allowed = true ↔ (classifySdkBilling U e).blockReason = none := by
  cases e with
  | none => simp [classifySdkBilling, blocked]
  | some e =>
    by_cases hmalformed : (normalizeEvidence U e).2 = []
    · simp only [classifySdkBilling, hmalformed, ne_eq, not_true_eq_false, if_false]
      unfold classifyNormalized
      split_ifs <;> simp [blocked]
    · simp [classifySdkBilling, hmalformed, blocked]

/-- Allowed evidence has no malformed field. -/
theorem not_malformed_of_allowed {e : SDKBillingEvidence}
    (h : (classifySdkBilling U (some e)).allowed = true) : ¬ e.Malformed U := by
  intro hmalformed
  have hne : (normalizeEvidence U e).2 ≠ [] := hmalformed
  simp [classifySdkBilling, hne, blocked] at h

/-- Allowed evidence shows no paid use. -/
theorem not_paidUse_of_allowed {e : SDKBillingEvidence}
    (h : (classifySdkBilling U (some e)).allowed = true) :
    ¬ (e.PaidUse U ∨ e.OverageWindow U) := by
  intro hpaid
  have hnow : (classifySdkBilling U (some e)).immediate = true :=
    (immediate_classifySdkBilling_iff U e).mpr ⟨not_malformed_of_allowed U h, hpaid⟩
  rw [allowed_iff_blockReason] at h
  simp [BillingDecision.immediate, h] at hnow

/-! ## What the gate accepts -/

theorem canonicalApiKeySource_cases (v : PyValue) :
    (canonicalApiKeySource U v).1 = none ∨ (canonicalApiKeySource U v).1 = some (lit "none") ∨
      (canonicalApiKeySource U v).1 = some (lit "metered") ∨
      (canonicalApiKeySource U v).1 = some (lit "unknown") := by
  unfold canonicalApiKeySource
  split
  · exact .inl rfl
  · split_ifs <;> simp

theorem canonicalOverageStatus_cases (v : PyValue) :
    (canonicalOverageStatus U v).1 = none ∨
      (∃ text ∈ safeOverageStatuses, (canonicalOverageStatus U v).1 = some text) ∨
      isRisky (canonicalOverageStatus U v).1 = true ∨
      (canonicalOverageStatus U v).1 = some (lit "unknown") := by
  unfold canonicalOverageStatus
  split
  · exact .inl rfl
  · rename_i text _ _
    split_ifs with hknown
    · rcases hknown with hsafe | hrisky
      · exact .inr (.inl ⟨text, hsafe, rfl⟩)
      · exact .inr (.inr (.inl (by simpa [isRisky] using hrisky)))
    · exact .inr (.inr (.inr rfl))

theorem canonicalRateLimitType_cases (v : PyValue) :
    (canonicalRateLimitType U v).1 = none ∨
      (∃ text ∈ safeRateLimitTypes, (canonicalRateLimitType U v).1 = some text) ∨
      (canonicalRateLimitType U v).1 = some (lit "overage") ∨
      (canonicalRateLimitType U v).1 = some (lit "unknown") := by
  unfold canonicalRateLimitType
  split
  · exact .inl rfl
  · rename_i text _ _
    split_ifs with hsafe hoverage
    · exact .inr (.inl ⟨text, hsafe, rfl⟩)
    · exact .inr (.inr (.inl (by rw [hoverage])))
    · exact .inr (.inr (.inr rfl))

/-- A subscription snapshot in canonical categories: every field is absent or a
subscription value, and at least one field says so. -/
def NormalizedEvidence.Subscription (n : NormalizedEvidence) : Prop :=
  (n.apiKeySource = none ∨ n.apiKeySource = some (lit "none")) ∧
    n.isUsingOverage ≠ some true ∧
    (n.overageStatus = none ∨ ∃ text ∈ safeOverageStatuses, n.overageStatus = some text) ∧
    (n.rateLimitType = none ∨ (∃ text ∈ safeRateLimitTypes, n.rateLimitType = some text) ∨
      (n.rateLimitType = some (lit "overage") ∧ n.isUsingOverage = some false)) ∧
    (n.apiKeySource = some (lit "none") ∨ n.isUsingOverage = some false ∨
      (∃ text ∈ safeOverageStatuses, n.overageStatus = some text) ∨
      ∃ text ∈ safeRateLimitTypes, n.rateLimitType = some text)

/-- A subscription snapshot: no field is malformed, and the categories are those
of a subscription. -/
def SDKBillingEvidence.Subscription (e : SDKBillingEvidence) : Prop :=
  ¬ e.Malformed U ∧ (normalizeEvidence U e).1.Subscription

/-- A safe overage status is neither risky nor unknown. -/
theorem safeOverageStatuses_disjoint :
    ∀ text ∈ safeOverageStatuses, text ∉ riskyOverageStatuses ∧ text ≠ lit "unknown" := by
  decide

/-- A safe window is neither the overage window nor unknown. -/
theorem safeRateLimitTypes_disjoint :
    ∀ text ∈ safeRateLimitTypes, text ≠ lit "overage" ∧ text ≠ lit "unknown" := by
  decide

/-- A subscription status is not a risky one. -/
theorem NormalizedEvidence.Subscription.not_risky {n : NormalizedEvidence}
    (h : n.Subscription) : isRisky n.overageStatus = false := by
  rcases h.2.2.1 with hnone | ⟨text, hsafe, hstatus⟩
  · rw [hnone]
    rfl
  · simp [hstatus, isRisky, (safeOverageStatuses_disjoint text hsafe).1]

/-- No field of a subscription snapshot is unknown. -/
theorem NormalizedEvidence.Subscription.not_unknown {n : NormalizedEvidence}
    (h : n.Subscription) :
    ¬ (n.apiKeySource = some (lit "unknown") ∨ n.overageStatus = some (lit "unknown") ∨
      n.rateLimitType = some (lit "unknown")) := by
  have hunknown : lit "none" ≠ lit "unknown" := by decide
  have hoverage : lit "overage" ≠ lit "unknown" := by decide
  rintro (hsource | hstatus | hlimit)
  · rcases h.1 with h | h
    · simp [h] at hsource
    · simp [h, hunknown] at hsource
  · rcases h.2.2.1 with h | ⟨text, hsafe, h⟩
    · simp [h] at hstatus
    · simp [h, (safeOverageStatuses_disjoint text hsafe).2] at hstatus
  · rcases h.2.2.2.1 with h | ⟨text, hsafe, h⟩ | ⟨h, _⟩
    · simp [h] at hlimit
    · simp [h, (safeRateLimitTypes_disjoint text hsafe).2] at hlimit
    · simp [h, hoverage] at hlimit

/-- Without a sign of paid use the gate only asks that no field is unknown and
that some field is positive. -/
theorem allowed_classifyNormalized_of_unpaid {n : NormalizedEvidence}
    (hmetered : n.apiKeySource ≠ some (lit "metered")) (husing : n.isUsingOverage ≠ some true)
    (hrisky : ¬ isRisky n.overageStatus = true)
    (hwindow : ¬ (n.rateLimitType = some (lit "overage") ∧ n.isUsingOverage ≠ some false)) :
    (classifyNormalized n).allowed = true ↔
      ¬ (n.apiKeySource = some (lit "unknown") ∨ n.overageStatus = some (lit "unknown") ∨
        n.rateLimitType = some (lit "unknown")) ∧
      (n.apiKeySource = some (lit "none") ∨ n.isUsingOverage = some false ∨
        (∃ text ∈ safeOverageStatuses, n.overageStatus = some text) ∨
        ∃ text ∈ safeRateLimitTypes, n.rateLimitType = some text) := by
  rw [classifyNormalized, if_neg (by simp [husing, hrisky]), if_neg (by simp [hrisky]),
    if_neg hmetered, if_neg (by simp [husing, hrisky]), if_neg hwindow]
  split_ifs with hunknown hpositive
  · exact iff_of_false (by simp [blocked]) fun h => h.1 hunknown
  · exact iff_of_true rfl ⟨hunknown, hpositive⟩
  · exact iff_of_false (by simp [blocked]) fun h => hpositive h.2

/-- The gate lets a subscription snapshot through. -/
theorem NormalizedEvidence.Subscription.allowed {n : NormalizedEvidence}
    (h : n.Subscription) : (classifyNormalized n).allowed = true := by
  have hrisky := h.not_risky
  have hmetered : n.apiKeySource ≠ some (lit "metered") := by
    have : lit "none" ≠ lit "metered" := by decide
    rcases h.1 with h | h <;> simp [h, this]
  have hwindow : ¬ (n.rateLimitType = some (lit "overage") ∧ n.isUsingOverage ≠ some false) := by
    rintro ⟨hlimit, husing⟩
    rcases h.2.2.2.1 with h | ⟨text, hsafe, h⟩ | ⟨_, h⟩
    · simp [h] at hlimit
    · simp [h, (safeRateLimitTypes_disjoint text hsafe).1] at hlimit
    · exact husing h
  exact (allowed_classifyNormalized_of_unpaid hmetered h.2.1 (by simp [hrisky]) hwindow).mpr
    ⟨h.not_unknown, h.2.2.2.2⟩

/-- The categories normalization can produce. -/
structure NormalizedEvidence.Canonical (n : NormalizedEvidence) : Prop where
  source : n.apiKeySource = none ∨ n.apiKeySource = some (lit "none") ∨
    n.apiKeySource = some (lit "metered") ∨ n.apiKeySource = some (lit "unknown")
  status : n.overageStatus = none ∨ (∃ text ∈ safeOverageStatuses, n.overageStatus = some text) ∨
    isRisky n.overageStatus = true ∨ n.overageStatus = some (lit "unknown")
  limit : n.rateLimitType = none ∨ (∃ text ∈ safeRateLimitTypes, n.rateLimitType = some text) ∨
    n.rateLimitType = some (lit "overage") ∨ n.rateLimitType = some (lit "unknown")

theorem canonical_normalizeEvidence (e : SDKBillingEvidence) :
    (normalizeEvidence U e).1.Canonical where
  source := canonicalApiKeySource_cases U e.apiKeySource
  status := canonicalOverageStatus_cases U e.overageStatus
  limit := canonicalRateLimitType_cases U e.rateLimitType

/-- What the gate lets through is a subscription snapshot. -/
theorem NormalizedEvidence.Canonical.subscription {n : NormalizedEvidence} (hn : n.Canonical)
    (hallowed : (classifyNormalized n).allowed = true) : n.Subscription := by
  have himmediate : (classifyNormalized n).immediate = false := by
    by_contra hne
    unfold classifyNormalized at hallowed hne
    split_ifs at hallowed hne <;> simp_all [blocked, BillingDecision.immediate]
  rw [← Bool.not_eq_true, classifyNormalized_immediate] at himmediate
  simp only [not_or, not_and, not_not] at himmediate
  obtain ⟨⟨hmetered, husing, hrisky⟩, hwindow⟩ := himmediate
  have hgate := (allowed_classifyNormalized_of_unpaid hmetered husing hrisky
    fun h => h.2 (hwindow h.1)).mp hallowed
  obtain ⟨hunknown, hpositive⟩ := hgate
  simp only [not_or] at hunknown
  refine ⟨?_, husing, ?_, ?_, hpositive⟩
  · rcases hn.source with h | h | h | h
    · exact .inl h
    · exact .inr h
    · exact absurd h hmetered
    · exact absurd h hunknown.1
  · rcases hn.status with h | h | h | h
    · exact .inl h
    · exact .inr h
    · exact absurd h hrisky
    · exact absurd h hunknown.2.1
  · rcases hn.limit with h | h | h | h
    · exact .inl h
    · exact .inr (.inl h)
    · exact .inr (.inr ⟨h, hwindow h⟩)
    · exact absurd h hunknown.2.2

/-- **Exact acceptance.** The gate allows exactly the subscription snapshots. -/
theorem allowed_classifySdkBilling_iff (e : SDKBillingEvidence) :
    (classifySdkBilling U (some e)).allowed = true ↔ e.Subscription U := by
  by_cases hmalformed : (normalizeEvidence U e).2 = []
  · simp only [classifySdkBilling, hmalformed, ne_eq, not_true_eq_false, if_false,
      SDKBillingEvidence.Subscription, SDKBillingEvidence.Malformed, not_false_eq_true, true_and]
    exact ⟨(canonical_normalizeEvidence U e).subscription,
      NormalizedEvidence.Subscription.allowed⟩
  · simp [classifySdkBilling, SDKBillingEvidence.Subscription, SDKBillingEvidence.Malformed,
      hmalformed, blocked]

end HermesClaude.Billing
