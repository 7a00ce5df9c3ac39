/-
# Aliases of a billing signal

Each rate-limit field has two spellings, and may stand in the rate-limit info or in the raw
mapping inside it.  The extractor takes the first reading it finds, so a reading that says
nothing, or that says all is well, hides what another spelling reports.

A paid signal gets through exactly if it is hidden in this way and the readings in front
show a subscription, or if the whole event is taken for a system message whose API-key
source is `none`.
-/

import HermesClaude.Billing.Evidence

namespace HermesClaude.Billing

open HermesClaude.Python

/-- Everything a value reads as under the given names, in that order. -/
def readings (value : PyValue) (names : List String) : List PyValue :=
  names.filterMap fun name =>
    match value.mapping? with
    | some items => PyValue.lookupKey items (lit name)
    | none => value.getAttr name

/-- What is found under `raw`. -/
def nestedRaw (info : PyValue) : PyValue :=
  let found := readField info ["raw"] (.dict [])
  if found.isNone then .dict [] else found

/-- Everything `raw` reads as, where it is a mapping. -/
def rawReadings (info : PyValue) (names : List String) : List PyValue :=
  if (nestedRaw info).mapping?.isNone then [] else readings (nestedRaw info) names

/-- All readings of `is_using_overage`, in the order in which the extractor looks. -/
def usingReadings (info : PyValue) : List PyValue :=
  readings info ["is_using_overage", "isUsingOverage"] ++
    rawReadings info ["isUsingOverage", "is_using_overage"]

/-- All readings of `overage_status`. -/
def statusReadings (info : PyValue) : List PyValue :=
  readings info ["overage_status", "overageStatus"] ++
    rawReadings info ["overageStatus", "overage_status"]

/-- All readings of `rate_limit_type`. -/
def limitReadings (info : PyValue) : List PyValue :=
  readings info ["rate_limit_type", "rateLimitType"] ++
    rawReadings info ["rateLimitType", "rate_limit_type"]

/-- The reading in front. -/
def front (found : List PyValue) : PyValue := found.head?.getD .none

/-- The readings in front, as evidence. -/
def frontEvidence (info : PyValue) : SDKBillingEvidence where
  isUsingOverage := front (usingReadings info)
  overageStatus := front (statusReadings info)
  rateLimitType := front (limitReadings info)

variable (U : UnicodeDatabase)

/-- The event is taken for a system message. -/
def readsAsSystem (event : PyValue) : Bool :=
  decide (eventKind U event ∈ [lit "systemmessage", lit "system_message", lit "system"]) ||
    (hasAnyKey event ["apiKeySource", "api_key_source"] &&
      isInitSubtype (readField event ["subtype"]))

/-- Rate-limit info is not nested in the event: the event itself holds it. -/
def holdsInfo (event : PyValue) : Bool :=
  (readField event ["rate_limit_info", "rateLimitInfo"]).isNone && event.mapping?.isSome

/-- The rate-limit info of an event. -/
def rateLimitInfo (event : PyValue) : PyValue :=
  if holdsInfo event then event else readField event ["rate_limit_info", "rateLimitInfo"]

/-- An event that says it is about rate limits, or a mapping that holds such fields and is no
system message. -/
def IsRateLimitEvent (event : PyValue) : Prop :=
  eventKind U event ∈ [lit "ratelimitevent", lit "rate_limit_event", lit "rate_limit"] ∨
    (readsAsSystem U event = false ∧ holdsInfo event = true ∧ hasAnyKey event
      ["raw", "isUsingOverage", "is_using_overage", "overageStatus", "overage_status",
        "rateLimitType", "rate_limit_type"] = true)

/-! ## Signals -/

/-- The value is a risky overage status. -/
def IsRiskyStatus (value : PyValue) : Prop := isRisky (canonicalOverageStatus U value).1 = true

/-- The value is the overage window. -/
def IsOverageWindow (value : PyValue) : Prop :=
  (canonicalRateLimitType U value).1 = some (lit "overage")

/-- A sign of paid use stands somewhere in the info or in `raw`. -/
def PaidSignal (info : PyValue) : Prop :=
  .bool true ∈ usingReadings info ∨
    (∃ value ∈ statusReadings info, IsRiskyStatus U value) ∨
    ((∃ value ∈ limitReadings info, IsOverageWindow U value) ∧
      .bool false ∉ usingReadings info)

/-- A sign of paid use stands behind another reading of its field. -/
def HiddenSignal (info : PyValue) : Prop :=
  .bool true ∈ (usingReadings info).tail ∨
    (∃ value ∈ (statusReadings info).tail, IsRiskyStatus U value) ∨
    ((∃ value ∈ (limitReadings info).tail, IsOverageWindow U value) ∧
      .bool false ∉ usingReadings info)

/-- The readings in front show a subscription, and `raw` is nothing else than a mapping. -/
def FrontSafe (info : PyValue) : Prop :=
  (nestedRaw info).mapping?.isSome = true ∧ (frontEvidence info).Subscription U

/-- What the extractor reads of a system message. -/
def systemEvidence (event : PyValue) : SDKBillingEvidence where
  apiKeySource := readField (readField event ["data"] event) ["apiKeySource", "api_key_source"]

/-- A system message that shows a subscription: its API-key source is `none`. -/
def ShowsNoSource (event : PyValue) : Prop :=
  (readField event ["data"] event).mapping?.isSome = true ∧
    (systemEvidence event).Subscription U

/-- No sign of paid use is masked. -/
structure Unmasked (event : PyValue) : Prop where
  /-- A rate-limit event with paid use is not taken for an innocent system message. -/
  system : readsAsSystem U event = true → PaidSignal U (rateLimitInfo event) →
    ¬ ShowsNoSource U event
  /-- Nothing is hidden behind readings that show a subscription. -/
  hidden : readsAsSystem U event = false → HiddenSignal U (rateLimitInfo event) →
    ¬ FrontSafe U (rateLimitInfo event)

/-! ## The extractor takes the readings in front -/

theorem readField_eq (value : PyValue) (names : List String) (default : PyValue) :
    readField value names default = (readings value names).head?.getD default := by
  apply congrArg (Option.getD · default)
  exact List.head?_filterMap.symm

/-- A reading of one value that falls back on a reading of another. -/
theorem readField_readField (value other : PyValue) (names otherNames : List String) :
    readField value names (readField other otherNames) =
      front (readings value names ++ readings other otherNames) := by
  rw [readField_eq, readField_eq, front, List.head?_append]
  cases (readings value names).head? <;> rfl

theorem readings_empty (names : List String) : readings (.dict []) names = [] := by
  unfold readings
  induction names with
  | nil => rfl
  | cons name rest ih => exact ih

/-- What the extractor reads of `raw`. -/
theorem rawReadings_eq (info : PyValue) (names : List String) :
    readings (if (nestedRaw info).mapping?.isNone then .dict [] else nestedRaw info) names =
      rawReadings info names := by
  unfold rawReadings
  by_cases hraw : (nestedRaw info).mapping?.isNone = true
  · rw [if_pos hraw, if_pos hraw]
    exact readings_empty names
  · rw [if_neg hraw, if_neg hraw]

/-- The rate-limit half of the extractor, as readings in front. -/
theorem extractRateLimit_eq (info : PyValue) :
    extractRateLimit info = { frontEvidence info with
      malformedFields := .tuple (if (nestedRaw info).mapping?.isNone ||
          (canonicalUsingOverage (front (usingReadings info))).2 then
        [.str (lit "is_using_overage")] else []) } := by
  unfold extractRateLimit frontEvidence usingReadings statusReadings limitReadings
  simp only [← rawReadings_eq, ← readField_readField]
  rfl

/-- An overage value that is no boolean makes evidence malformed, whatever else is recorded. -/
theorem malformed_of_using {e : SDKBillingEvidence}
    (h : (canonicalUsingOverage e.isUsingOverage).2 = true) : e.Malformed U := by
  unfold SDKBillingEvidence.Malformed normalizeEvidence
  simp [h]

/-- So does the record of a billing field. -/
theorem malformed_of_recorded {e : SDKBillingEvidence} {name : PyStr}
    (hname : name ∈ billingFieldNames) (h : e.malformedFields = .tuple [.str name]) :
    e.Malformed U := by
  have hrecorded : name ∈ recordedMalformed e.malformedFields := by
    rw [h]
    simp [recordedMalformed, hname, PyValue.isText]
  unfold SDKBillingEvidence.Malformed normalizeEvidence
  intro hempty
  simp only [List.append_eq_nil_iff] at hempty
  rw [hempty.1.1.1.1] at hrecorded
  cases hrecorded

/-- The extractor's record of malformed fields adds nothing where `raw` is a mapping, and
blocks the event where it is not. -/
theorem allowed_extractRateLimit_iff (info : PyValue) :
    (classifySdkBilling U (some (extractRateLimit info))).allowed = true ↔ FrontSafe U info := by
  rw [allowed_classifySdkBilling_iff, extractRateLimit_eq]
  unfold FrontSafe
  cases hraw : (nestedRaw info).mapping? with
  | none =>
    apply iff_of_false
    · rintro ⟨hmalformed, -⟩
      exact hmalformed (malformed_of_recorded U (by decide) rfl)
    · rintro ⟨hsome, -⟩
      cases hsome
  | some items =>
    cases husing : (canonicalUsingOverage (front (usingReadings info))).2 with
    | true =>
      apply iff_of_false
      · rintro ⟨hmalformed, -⟩
        exact hmalformed (malformed_of_using U husing)
      · rintro ⟨-, hmalformed, -⟩
        exact hmalformed (malformed_of_using U husing)
    | false =>
      have hsome : (some items).isSome = true := rfl
      rw [and_iff_right hsome]
      rfl

/-! ## What is in front is seen -/

/-- A list's member stands in front or behind. -/
theorem front_or_tail {found : List PyValue} {value : PyValue} (h : value ∈ found) :
    value = front found ∨ value ∈ found.tail := by
  cases found with
  | nil => cases h
  | cons first rest => exact List.mem_cons.mp h

/-- A sign of paid use in front is paid use to the gate. -/
theorem paid_front_or_hidden {info : PyValue} (h : PaidSignal U info) :
    ((frontEvidence info).PaidUse U ∨ (frontEvidence info).OverageWindow U) ∨
      HiddenSignal U info := by
  rcases h with husing | ⟨value, hvalue, hrisky⟩ | ⟨⟨value, hvalue, hwindow⟩, hnot⟩
  · rcases front_or_tail husing with hfront | htail
    · exact .inl (.inl (.inr (.inl hfront.symm)))
    · exact .inr (.inl htail)
  · rcases front_or_tail hvalue with hfront | htail
    · rw [hfront] at hrisky
      exact .inl (.inl (.inr (.inr hrisky)))
    · exact .inr (.inr (.inl ⟨value, htail, hrisky⟩))
  · rcases front_or_tail hvalue with hfront | htail
    · rw [hfront] at hwindow
      refine .inl (.inr ⟨hwindow, ?_⟩)
      intro hfalse
      apply hnot
      unfold frontEvidence at hfalse
      dsimp only at hfalse
      unfold front at hfalse
      cases hfound : usingReadings info with
      | nil =>
        rw [hfound] at hfalse
        cases hfalse
      | cons first rest =>
        rw [hfound] at hfalse
        rw [← hfalse]
        exact List.mem_cons_self
    · exact .inr (.inr (.inr ⟨⟨value, htail, hwindow⟩, hnot⟩))

theorem paid_of_hidden {info : PyValue} (h : HiddenSignal U info) : PaidSignal U info := by
  rcases h with husing | ⟨value, hvalue, hrisky⟩ | ⟨⟨value, hvalue, hwindow⟩, hnot⟩
  · exact .inl (List.mem_of_mem_tail husing)
  · exact .inr (.inl ⟨value, List.mem_of_mem_tail hvalue, hrisky⟩)
  · exact .inr (.inr ⟨⟨value, List.mem_of_mem_tail hvalue, hwindow⟩, hnot⟩)

/-- A subscription in front shows no paid use. -/
theorem hidden_of_safe {info : PyValue} (hpaid : PaidSignal U info) (hsafe : FrontSafe U info) :
    HiddenSignal U info := by
  have hallowed : (classifySdkBilling U (some (frontEvidence info))).allowed = true :=
    (allowed_classifySdkBilling_iff U _).mpr hsafe.2
  exact (paid_front_or_hidden U hpaid).resolve_left (not_paidUse_of_allowed U hallowed)

/-! ## Events -/

section Event

variable {U} {event : PyValue}

/-- A rate-limit event that is taken for a system message. -/
theorem extract_of_system (h : IsRateLimitEvent U event) (hsystem : readsAsSystem U event = true) :
    (classifySdkBilling U (extractSdkBillingEvidence U event)).allowed = true ↔
      ShowsNoSource U event := by
  have hinit : isInitSubtype (readField event ["subtype"]) = true := by
    rcases h with hkind | ⟨hnot, -⟩
    · rcases Bool.or_eq_true _ _ ▸ hsystem with hother | hkeys
      · rw [decide_eq_true_eq] at hother
        have hdisjoint : ∀ kind ∈ [lit "ratelimitevent", lit "rate_limit_event", lit "rate_limit"],
            kind ∉ [lit "systemmessage", lit "system_message", lit "system"] := by decide
        exact absurd hother (hdisjoint _ hkind)
      · rw [Bool.and_eq_true] at hkeys
        exact hkeys.2
    · rw [hsystem] at hnot
      cases hnot
  have hread : ∀ found, (readField event ["data"] event).mapping? = found →
      extractSdkBillingEvidence U event =
        found.elim (some { malformedFields := .tuple [.str (lit "api_key_source")] })
          fun _ => some (systemEvidence event) := by
    intro found hfound
    unfold readsAsSystem at hsystem
    unfold extractSdkBillingEvidence
    dsimp only
    rw [if_pos hsystem, hinit, hfound]
    cases found with
    | none => rfl
    | some items => rfl
  rw [hread _ rfl]
  unfold ShowsNoSource
  cases hdata : (readField event ["data"] event).mapping? with
  | none =>
    apply iff_of_false
    · intro hallowed
      exact not_malformed_of_allowed U hallowed (malformed_of_recorded U (by decide) rfl)
    · rintro ⟨hsome, -⟩
      cases hsome
  | some items =>
    have hsome : (some items).isSome = true := rfl
    rw [and_iff_right hsome]
    exact allowed_classifySdkBilling_iff U _

/-- A rate-limit event that is taken for what it is. -/
theorem extract_of_rateLimit (h : IsRateLimitEvent U event)
    (hsystem : readsAsSystem U event = false) :
    extractSdkBillingEvidence U event = some (extractRateLimit (rateLimitInfo event)) := by
  have hlimit : (decide (eventKind U event ∈
        [lit "ratelimitevent", lit "rate_limit_event", lit "rate_limit"]) ||
      (holdsInfo event && hasAnyKey event
        ["raw", "isUsingOverage", "is_using_overage", "overageStatus", "overage_status",
          "rateLimitType", "rate_limit_type"])) = true := by
    rcases h with hkind | ⟨-, hholds, hkeys⟩
    · rw [decide_eq_true hkind, Bool.true_or]
    · rw [hholds, hkeys, Bool.and_self, Bool.or_true]
  unfold readsAsSystem at hsystem
  unfold holdsInfo at hlimit
  unfold extractSdkBillingEvidence
  dsimp only
  rw [hsystem, if_neg Bool.false_ne_true, if_pos hlimit]
  rfl

end Event

/-- A rate-limit event with a sign of paid use, in whatever place, is never allowed exactly
if no sign is masked. -/
theorem paid_blocked_iff_unmasked {event : PyValue} (h : IsRateLimitEvent U event) :
    (PaidSignal U (rateLimitInfo event) →
      (classifySdkBilling U (extractSdkBillingEvidence U event)).allowed = false) ↔
      Unmasked U event := by
  cases hsystem : readsAsSystem U event with
  | true =>
    have hallowed := extract_of_system h hsystem
    rw [← Bool.not_eq_true, hallowed]
    constructor
    · intro hblocked
      exact ⟨fun _ => hblocked, fun hfalse => absurd (hsystem.symm.trans hfalse) (by decide)⟩
    · intro hunmasked
      exact hunmasked.system hsystem
  | false =>
    rw [extract_of_rateLimit h hsystem, ← Bool.not_eq_true, allowed_extractRateLimit_iff]
    constructor
    · intro hblocked
      refine ⟨fun htrue => absurd (hsystem.symm.trans htrue) (by decide), ?_⟩
      intro _ hhidden
      exact hblocked (paid_of_hidden U hhidden)
    · intro hunmasked hpaid hsafe
      exact hunmasked.hidden hsystem (hidden_of_safe U hpaid hsafe) hsafe

/-! ## Small events -/

/-- A rate-limit event with the given fields. -/
def rateLimitEvent (fields : List (String × PyValue)) : PyValue :=
  .dict ((.str (lit "type"), .str (lit "rate_limit_event")) ::
    fields.map fun field => (.str (lit field.1), field.2))

/-- Only `raw` reports paid use, and nothing is in front of it. -/
def nestedSignal : PyValue :=
  rateLimitEvent [("overage_status", .str (lit "disabled")),
    ("raw", .dict [(.str (lit "isUsingOverage"), .bool true)])]

/-- The second spelling reports paid use, and the first one denies it. -/
def deniedSignal : PyValue :=
  rateLimitEvent [("is_using_overage", .bool false), ("isUsingOverage", .bool true)]

/-- `raw` reports paid use, and the info has nothing to report. -/
def silencedSignal : PyValue :=
  rateLimitEvent [("is_using_overage", .none), ("overage_status", .str (lit "disabled")),
    ("raw", .dict [(.str (lit "isUsingOverage"), .bool true)])]

theorem paid_blocked_iff_unmasked_nested :
    (classifySdkBilling asciiDatabase
      (extractSdkBillingEvidence asciiDatabase nestedSignal)).allowed = false := by
  have hevent : IsRateLimitEvent asciiDatabase nestedSignal := .inl (by decide)
  have hpaid : PaidSignal asciiDatabase (rateLimitInfo nestedSignal) :=
    .inl (List.mem_singleton_self _)
  refine (paid_blocked_iff_unmasked asciiDatabase hevent).mpr ⟨?_, ?_⟩ hpaid
  · intro hsystem
    cases hsystem
  · rintro - (husing | ⟨value, hvalue, -⟩ | ⟨⟨value, hvalue, -⟩, -⟩)
    · cases husing
    · cases hvalue
    · cases hvalue

/-- A rate-limit event with a sign of paid use is allowed. -/
def PaidButAllowed (event : PyValue) : Prop :=
  IsRateLimitEvent asciiDatabase event ∧ PaidSignal asciiDatabase (rateLimitInfo event) ∧
    (classifySdkBilling asciiDatabase
      (extractSdkBillingEvidence asciiDatabase event)).allowed = true

theorem masked_signals_allowed : PaidButAllowed deniedSignal ∧ PaidButAllowed silencedSignal := by
  have hdenied : .bool true ∈ usingReadings (rateLimitInfo deniedSignal) :=
    List.mem_cons_of_mem _ (List.mem_singleton_self _)
  have hsilenced : .bool true ∈ usingReadings (rateLimitInfo silencedSignal) :=
    List.mem_cons_of_mem _ (List.mem_singleton_self _)
  constructor
  · exact ⟨.inl (by decide), .inl hdenied, by decide⟩
  · exact ⟨.inl (by decide), .inl hsilenced, by decide⟩

end HermesClaude.Billing
