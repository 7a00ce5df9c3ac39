/-
# The environment of a child

A child inherits the environment of its parent, with a plan of overrides laid over it.  The
plan scrubs the metered vectors of the parent, switches the refusal fallback off, and takes
harmless settings from the configuration.

Of the parent the plan depends on one bit for each denylisted key, and under a denylisted or
secret-looking key it does not depend on the configuration at all.
-/

import HermesClaude.Library.Entries
import HermesClaude.Python.JsonText
import HermesClaude.Python.Value

namespace HermesClaude.Billing

open HermesClaude.Python HermesClaude.Library

/-- The parts of the standard library that the plan rests on. -/
structure EnvironmentLibrary where
  /-- `str.upper`. -/
  upper : PyStr → PyStr
  /-- `str` of a float. -/
  floatText : PyFloat → PyStr

/-- `METERED_ENV_DENYLIST`. -/
def meteredEnvDenylist : List PyStr :=
  ["ANTHROPIC_API_KEY", "ANTHROPIC_AUTH_TOKEN", "ANTHROPIC_TOKEN", "ANTHROPIC_BASE_URL",
    "CLAUDE_CODE_USE_BEDROCK", "CLAUDE_CODE_USE_VERTEX", "AWS_ACCESS_KEY_ID",
    "AWS_SECRET_ACCESS_KEY", "AWS_SESSION_TOKEN", "GOOGLE_APPLICATION_CREDENTIALS"].map lit

/-- `REFUSAL_FALLBACK_ENV`. -/
def refusalFallbackEnv : PyStr := lit "CLAUDE_CODE_DISABLE_REFUSAL_FALLBACK"

/-- `REFUSAL_FALLBACK_VALUE`. -/
def refusalFallbackValue : PyStr := lit "1"

/-- `_MAX_ENV_KEY_LENGTH`. -/
def maxEnvKeyLength : Nat := 128

/-- `_MAX_ENV_VALUE_LENGTH`. -/
def maxEnvValueLength : Nat := 4096

/-- `_SECRETISH_ENV_PARTS`. -/
def secretishEnvParts : List PyStr :=
  ["AUTH", "AUTHENTICATION", "COOKIE", "CREDENTIAL", "KEY", "OAUTH", "PASSWORD", "PRIVATE",
    "SECRET", "TOKEN"].map lit

/-! ## Metered values -/

/-- `is_subscription_oauth_token`. -/
def isSubscriptionOauthToken : PyValue → Bool
  | .str value =>
    if value = [] then false
    else if (lit "sk-ant-api").isPrefixOf value then false
    else if (lit "sk-ant-").isPrefixOf value then true
    else if (lit "eyJ").isPrefixOf value then true
    else (lit "cc-").isPrefixOf value
  | _ => false

/-- `is_metered_sdk_env_value`. -/
def isMeteredSdkEnvValue (key value : PyValue) : Bool :=
  match key with
  | .str key =>
    if key ∉ meteredEnvDenylist then false
    else if value.isNone || value.isText [] then false
    else if key = lit "ANTHROPIC_TOKEN" then !isSubscriptionOauthToken value
    else true
  | _ => false

/-- A parent environment, by its answer to each key: the value, nothing where it has none, or
an exception.  What is no mapping is left out. -/
abbrev ParentEnvironment := Option (PyStr → Except Unit (Option PyValue))

/-- What is found under a key of the parent. -/
def ParentEnvironment.read (parent : ParentEnvironment) (key : PyStr) :
    Except Unit (Option PyValue) :=
  match parent with
  | none => .ok none
  | some answer => answer key

/-- The parent has a metered value under a key; a value that cannot be read counts as an
object of no known kind. -/
def ParentEnvironment.metered (parent : ParentEnvironment) (key : PyStr) : Bool :=
  match parent.read key with
  | .error _ => isMeteredSdkEnvValue (.str key) (.object "object" [])
  | .ok none => false
  | .ok (some value) => isMeteredSdkEnvValue (.str key) value

/-! ## The plan -/

section Plan

variable (library : EnvironmentLibrary)

/-- `_safe_env_key`. -/
def safeEnvKey : PyValue → Option PyStr
  | .str value =>
    if value = [] ∨ maxEnvKeyLength < value.length ∨ value.any (·.val == 0) then none
    else some value
  | _ => none

/-- `str(value)` of a scalar, nothing for other values, or an exception. -/
def scalarText : PyValue → Except Unit (Option PyStr)
  | .str s => .ok (some s)
  | .bool b => .ok (some (lit (if b then "True" else "False")))
  | .int i =>
    match intRepr i with
    | some text => .ok (some text)
    | none => .error ()
  | .float f => .ok (some (library.floatText f))
  | _ => .ok none

/-- `_safe_env_value`. -/
def safeEnvValue (value : PyValue) : Except Unit (Option PyStr) :=
  (scalarText library value).map fun text =>
    text.filter fun text => !(decide (maxEnvValueLength < text.length) || text.any (·.val == 0))

/-- A key in upper case, with underscores for hyphens. -/
def envKeyText (key : PyStr) : PyStr :=
  (library.upper key).map fun c => if c = 0x2D then 0x5F else c

/-- The parts of a key between hyphens and underscores, in upper case. -/
def envKeyParts (key : PyStr) : List PyStr := (envKeyText library key).splitOn 0x5F

/-- `_looks_secretish_env_key`. -/
def looksSecretishEnvKey (key : PyStr) : Bool :=
  (envKeyParts library key).any fun part => decide (part ∈ secretishEnvParts)

/-- A key that the configuration cannot set. -/
def isReservedEnvKey (key : PyStr) : Bool :=
  decide (key ∈ meteredEnvDenylist) || key == refusalFallbackEnv || looksSecretishEnvKey library key

/-- The loop of `plan_sdk_env_overrides` over the denylist. -/
def scrubParent (parent : ParentEnvironment) : List PyStr → List (PyStr × PyStr) →
    List (PyStr × PyStr)
  | [], overrides => overrides
  | key :: keys, overrides =>
    scrubParent parent keys (if parent.metered key then setEntry key [] overrides else overrides)

/-- The loop of `plan_sdk_env_overrides` over the items of the configuration.  An exception
ends it with the plan accumulated so far. -/
def applyConfigured : List (PyValue × PyValue) → List (PyStr × PyStr) → List (PyStr × PyStr)
  | [], overrides => overrides
  | (rawKey, rawValue) :: items, overrides =>
    match safeEnvKey rawKey with
    | none => applyConfigured items overrides
    | some key =>
      if rawValue.isNone || isReservedEnvKey library key then applyConfigured items overrides
      else
        match safeEnvValue library rawValue with
        | .error _ => overrides
        | .ok none => applyConfigured items overrides
        | .ok (some value) => applyConfigured items (setEntry key value overrides)

/-- `plan_sdk_env_overrides`.  The configuration is given by the items that it yields until it
ends or raises, if it is a mapping. -/
def planSdkEnvOverrides (parent : ParentEnvironment)
    (configured : Option (List (PyValue × PyValue))) : List (PyStr × PyStr) :=
  let overrides := scrubParent parent meteredEnvDenylist [(refusalFallbackEnv, refusalFallbackValue)]
  match configured with
  | none => overrides
  | some items => applyConfigured library items overrides

/-- The environment of the child: the plan over that of the parent. -/
def childEnvironment (parent : ParentEnvironment) (plan : List (PyStr × PyStr)) (key : PyStr) :
    Except Unit (Option PyValue) :=
  match plan.lookup key with
  | some value => .ok (some (.str value))
  | none => parent.read key

end Plan

/-- A key that is named after a secret: one of its parts, from one separator to the next, is a
secret word. -/
def IsSecretNamed (library : EnvironmentLibrary) (key : PyStr) : Prop :=
  ∃ part ∈ secretishEnvParts, ∃ before after,
    (before = [] ∨ ∃ rest, before = rest ++ [0x5F]) ∧
    (after = [] ∨ ∃ rest, after = 0x5F :: rest) ∧
    envKeyText library key = before ++ part ++ after

/-- Secret words have no separators. -/
theorem secretishEnvParts_plain :
    ∀ part ∈ secretishEnvParts, ∀ c ∈ part, (c == (0x5F : CodePoint)) = false := by
  have hall : (secretishEnvParts.all fun part => part.all fun c => !(c == 0x5F)) = true := by
    decide +kernel
  simpa using hall

/-- A secret word between separators is a part of the key. -/
theorem mem_splitOn {before part after : PyStr}
    (hplain : ∀ c ∈ part, (c == (0x5F : CodePoint)) = false)
    (hbefore : before = [] ∨ ∃ rest, before = rest ++ [0x5F])
    (hafter : after = [] ∨ ∃ rest, after = 0x5F :: rest) :
    part ∈ (before ++ part ++ after).splitOn 0x5F := by
  have hmiddle : part ∈ (part ++ after).splitOnP (· == 0x5F) := by
    rcases hafter with rfl | ⟨rest, rfl⟩
    · rw [List.append_nil, List.splitOnP_eq_singleton hplain]
      exact List.mem_cons_self
    · rw [List.splitOnP_append_cons part rest rfl, List.splitOnP_eq_singleton hplain]
      exact List.mem_cons_self
  show part ∈ (before ++ part ++ after).splitOnP (· == 0x5F)
  rw [List.append_assoc]
  rcases hbefore with rfl | ⟨rest, rfl⟩
  · exact hmiddle
  · rw [List.append_assoc, List.singleton_append, List.splitOnP_append_cons rest _ rfl]
    exact List.mem_append_right _ hmiddle

theorem looksSecretishEnvKey_of_named {library : EnvironmentLibrary} {key : PyStr}
    (h : IsSecretNamed library key) : looksSecretishEnvKey library key = true := by
  rcases h with ⟨part, hpart, before, after, hbefore, hafter, htext⟩
  have hmem : part ∈ envKeyParts library key := by
    unfold envKeyParts
    rw [htext]
    exact mem_splitOn (secretishEnvParts_plain part hpart) hbefore hafter
  exact List.any_eq_true.mpr ⟨part, hmem, decide_eq_true hpart⟩

/-! ## What the plan depends on -/

/-- The loop over the denylist depends on what is metered only. -/
theorem scrubParent_congr {parent other : ParentEnvironment} {keys : List PyStr}
    {overrides : List (PyStr × PyStr)}
    (hagree : ∀ key ∈ keys, parent.metered key = other.metered key) :
    scrubParent parent keys overrides = scrubParent other keys overrides := by
  induction keys generalizing overrides with
  | nil => rfl
  | cons key keys ih =>
    rw [List.forall_mem_cons] at hagree
    rw [scrubParent, scrubParent, hagree.1]
    exact ih hagree.2

/-- Metered keys are scrubbed; the others keep their entries. -/
theorem lookup_scrubParent (parent : ParentEnvironment) (keys : List PyStr)
    (overrides : List (PyStr × PyStr)) (key : PyStr) :
    (scrubParent parent keys overrides).lookup key =
      if key ∈ keys ∧ parent.metered key = true then some [] else overrides.lookup key := by
  induction keys generalizing overrides with
  | nil => simp [scrubParent]
  | cons head keys ih =>
    rw [scrubParent, ih]
    by_cases hlater : key ∈ keys ∧ parent.metered key = true
    · rw [if_pos hlater, if_pos ⟨List.mem_cons_of_mem _ hlater.1, hlater.2⟩]
    rw [if_neg hlater]
    by_cases hhead : key = head
    · subst hhead
      by_cases hmetered : parent.metered key = true
      · rw [if_pos hmetered, lookup_setEntry, if_pos rfl, if_pos ⟨List.mem_cons_self, hmetered⟩]
      · rw [if_neg hmetered, if_neg fun h => hmetered h.2]
    · have hmem : ¬ (key ∈ head :: keys ∧ parent.metered key = true) := by
        intro h
        exact hlater ⟨(List.mem_cons.mp h.1).resolve_left hhead, h.2⟩
      rw [if_neg hmem]
      split_ifs
      · rw [lookup_setEntry, if_neg hhead]
      · rfl

/-- The configuration leaves reserved keys alone. -/
theorem lookup_applyConfigured (library : EnvironmentLibrary) (items : List (PyValue × PyValue))
    (overrides : List (PyStr × PyStr)) {key : PyStr} (hreserved : isReservedEnvKey library key = true) :
    (applyConfigured library items overrides).lookup key = overrides.lookup key := by
  induction items generalizing overrides with
  | nil => rfl
  | cons item items ih =>
    unfold applyConfigured
    cases safeEnvKey item.1 with
    | none => exact ih overrides
    | some name =>
      dsimp only
      split_ifs with hskip
      · exact ih overrides
      · cases safeEnvValue library item.2 with
        | error _ => rfl
        | ok text =>
          cases text with
          | none => exact ih overrides
          | some value =>
            have hother : key ≠ name := by
              intro heq
              rw [heq] at hreserved
              exact hskip (by rw [hreserved, Bool.or_true])
            dsimp only
            rw [ih, lookup_setEntry, if_neg hother]

/-- Under a reserved key the plan is made of the parent's metered bits and the switch. -/
theorem lookup_planSdkEnvOverrides (library : EnvironmentLibrary) (parent : ParentEnvironment)
    (configured : Option (List (PyValue × PyValue))) {key : PyStr}
    (hreserved : isReservedEnvKey library key = true) :
    (planSdkEnvOverrides library parent configured).lookup key =
      if key ∈ meteredEnvDenylist ∧ parent.metered key = true then some []
      else if key = refusalFallbackEnv then some refusalFallbackValue
      else none := by
  have hscrubbed := lookup_scrubParent parent meteredEnvDenylist
    [(refusalFallbackEnv, refusalFallbackValue)] key
  rw [lookup_cons_eq_if] at hscrubbed
  unfold planSdkEnvOverrides
  cases configured with
  | none => exact hscrubbed
  | some items =>
    dsimp only
    rw [lookup_applyConfigured library items _ hreserved]
    exact hscrubbed

/-- An empty value is not metered. -/
theorem not_metered_nil (key : PyStr) : isMeteredSdkEnvValue (.str key) (.str []) = false := by
  have hempty : (PyValue.str []).isText [] = true := rfl
  simp [isMeteredSdkEnvValue, hempty]

/-- What cannot be read is metered under every denylisted key. -/
theorem metered_of_error {parent : ParentEnvironment} {key : PyStr}
    (hkey : key ∈ meteredEnvDenylist) (h : parent.read key = .error ()) :
    parent.metered key = true := by
  unfold ParentEnvironment.metered
  rw [h]
  simp [isMeteredSdkEnvValue, hkey, PyValue.isNone, PyValue.isText, isSubscriptionOauthToken]

/-- **No metered route.** In the environment of a child no denylisted key has a metered value,
and the refusal fallback is off.  Under denylisted and secret-looking keys the plan takes
nothing from the configuration, and of the parent it knows no more than which denylisted keys
are metered. -/
theorem child_environment_unmetered (library : EnvironmentLibrary) (parent : ParentEnvironment)
    (configured : Option (List (PyValue × PyValue))) :
    (∀ key ∈ meteredEnvDenylist, ∃ found,
        childEnvironment parent (planSdkEnvOverrides library parent configured) key = .ok found ∧
        ∀ value ∈ found, isMeteredSdkEnvValue (.str key) value = false) ∧
      childEnvironment parent (planSdkEnvOverrides library parent configured) refusalFallbackEnv =
        .ok (some (.str refusalFallbackValue)) ∧
      (∀ key, (key ∈ meteredEnvDenylist ∨ IsSecretNamed library key) →
        ∀ other, (planSdkEnvOverrides library parent configured).lookup key =
          (planSdkEnvOverrides library parent other).lookup key) ∧
      ∀ other : ParentEnvironment,
        (∀ key ∈ meteredEnvDenylist, parent.metered key = other.metered key) →
        planSdkEnvOverrides library parent configured =
          planSdkEnvOverrides library other configured := by
  refine ⟨?_, ?_, ?_, ?_⟩
  · intro key hkey
    have hreserved : isReservedEnvKey library key = true := by simp [isReservedEnvKey, hkey]
    have hrefusal : key ≠ refusalFallbackEnv := by
      intro heq
      exact absurd (heq ▸ hkey) (by decide)
    unfold childEnvironment
    rw [lookup_planSdkEnvOverrides library parent configured hreserved, if_neg hrefusal]
    by_cases hmetered : parent.metered key = true
    · rw [if_pos ⟨hkey, hmetered⟩]
      refine ⟨_, rfl, ?_⟩
      intro value hvalue
      cases hvalue
      exact not_metered_nil key
    · rw [if_neg fun h => hmetered h.2]
      cases hread : parent.read key with
      | error failure => exact absurd (metered_of_error hkey hread) hmetered
      | ok found =>
        refine ⟨found, rfl, ?_⟩
        intro value hvalue
        cases hvalue
        unfold ParentEnvironment.metered at hmetered
        rw [hread] at hmetered
        exact Bool.eq_false_of_not_eq_true hmetered
  · have hreserved : isReservedEnvKey library refusalFallbackEnv = true := by
      simp [isReservedEnvKey]
    have hkey : refusalFallbackEnv ∉ meteredEnvDenylist := by decide
    unfold childEnvironment
    rw [lookup_planSdkEnvOverrides library parent configured hreserved, if_neg fun h => hkey h.1,
      if_pos rfl]
  · intro key hkey other
    have hreserved : isReservedEnvKey library key = true := by
      rcases hkey with hkey | hkey
      · simp [isReservedEnvKey, hkey]
      · simp [isReservedEnvKey, looksSecretishEnvKey_of_named hkey]
    rw [lookup_planSdkEnvOverrides library parent configured hreserved,
      lookup_planSdkEnvOverrides library parent other hreserved]
  · intro other hagree
    unfold planSdkEnvOverrides
    rw [scrubParent_congr hagree]

end HermesClaude.Billing
