/-
# The authentication status

Before anything is billed the CLI is asked how it is logged in.  Its answer is a JSON text, of which
four fields count.  While the text is parsed all other fields are dropped, and an object that has
one of the four twice is refused; then the size of the fields is bounded once more, by an
approximation; and then an ordered chain of checks gives a category.
-/

import HermesClaude.Python.JsonHooks
import HermesClaude.Python.Utf8
import HermesClaude.Python.Value

namespace HermesClaude.Billing

open HermesClaude.Python

/-- `AuthCategory`, as far as parsing gives it. -/
inductive AuthCategory
  | subscriptionOauth
  | loggedOut
  | apiKey
  | metered
  | thirdParty
  | missingSubscription
  | malformed
  | oversized
  | unknown
  deriving DecidableEq

/-- `AuthPreflightResult`. -/
structure AuthPreflightResult where
  allowed : Bool
  category : AuthCategory
  deriving DecidableEq

/-- `_result`. -/
def authResult (category : AuthCategory) : AuthPreflightResult where
  allowed := category = .subscriptionOauth
  category

/-- `_MAX_STATUS_BYTES`. -/
def maxStatusBytes : Nat := 1024 * 1024

/-- `_MAX_ENUM_TEXT_LENGTH`. -/
def maxEnumTextLength : Nat := 128

/-- `_MAX_MAPPING_KEYS`. -/
def maxMappingKeys : Nat := 128

/-- `_STATUS_FIELDS`. -/
def statusFields : List PyStr :=
  [lit "loggedIn", lit "authMethod", lit "apiProvider", lit "subscriptionType"]

/-- `_OAUTH_METHODS`. -/
def oauthMethods : List PyStr :=
  [lit "oauth", lit "oauth_token", lit "claude.ai", lit "claude_ai", lit "first_party_oauth",
    lit "first-party-oauth"]

/-- `_API_KEY_METHODS`. -/
def apiKeyMethods : List PyStr :=
  [lit "api_key", lit "api-key", lit "apikey", lit "api key", lit "key", lit "api"]

/-- `_METERED_METHODS`. -/
def meteredMethods : List PyStr :=
  [lit "metered", lit "payg", lit "pay_as_you_go", lit "pay-as-you-go", lit "usage_based",
    lit "usage-based", lit "extra_usage", lit "extra-usage"]

/-- `_FIRST_PARTY_PROVIDERS`. -/
def firstPartyProviders : List PyStr :=
  [lit "firstparty", lit "first_party", lit "first-party", lit "anthropic", lit "claude.ai",
    lit "claude_ai"]

/-- `_THIRD_PARTY_PROVIDERS`. -/
def thirdPartyProviders : List PyStr :=
  [lit "thirdparty", lit "third_party", lit "third-party", lit "bedrock", lit "aws_bedrock",
    lit "aws-bedrock", lit "vertex", lit "google_vertex", lit "google-vertex", lit "foundry",
    lit "azure"]

/-- `_SUBSCRIPTION_TYPES`. -/
def subscriptionTypes : List PyStr :=
  [lit "pro", lit "max", lit "max_5x", lit "max-5x", lit "max_20x", lit "max-20x", lit "team",
    lit "business", lit "enterprise", lit "education", lit "edu"]

/-- `_METERED_SUBSCRIPTION_TYPES`. -/
def meteredSubscriptionTypes : List PyStr :=
  [lit "metered", lit "payg", lit "pay_as_you_go", lit "pay-as-you-go", lit "usage_based",
    lit "usage-based", lit "extra_usage", lit "extra-usage"]

/-- The parts of the standard library that the check rests on. -/
structure StatusLibrary where
  floats : FloatText
  /-- The full case folding of a character, as the Unicode tables have it. -/
  fold : CodePoint → PyStr
  /-- Surrogates have no case. -/
  fold_surrogate : ∀ c : CodePoint, c.isSurrogate = true → fold c = [c]
  /-- The order in which `_STATUS_FIELDS` is iterated over. -/
  order : List PyStr
  order_perm : order.Perm statusFields

/-- `str.casefold`, which folds one character after the other. -/
def StatusLibrary.casefold (library : StatusLibrary) (s : PyStr) : PyStr := s.flatMap library.fold

/-! ## Parsing -/

/-- `_json_object_pairs`, after some pairs. -/
def jsonObjectPairsFrom (result : List (PyStr × PyValue)) : List (PyStr × PyValue) → Option PyValue
  | [] => some (.dict (pairItems result))
  | (key, value) :: rest =>
    if key ∈ statusFields ∧ key ∈ result.map Prod.fst then none
    else if key ∈ statusFields then jsonObjectPairsFrom (result ++ [(key, value)]) rest
    else jsonObjectPairsFrom result rest

/-- `_json_object_pairs`. -/
def jsonObjectPairs (pairs : List (PyStr × PyValue)) : Option PyValue := jsonObjectPairsFrom [] pairs

/-- The constants of `json.loads`. -/
def jsonConstant (word : PyStr) : Option PyValue :=
  if word = lit "NaN" then some (.float .nan)
  else some (.float (.infinite (decide (word = lit "-Infinity"))))

/-- `json.loads` as it is without a hook for objects, which keeps all their pairs. -/
def jsonDecoder (floats : FloatText) : JSONDecoder where
  floats
  parseConstant := jsonConstant
  objectPairsHook := keepPairs

/-- `_normalise_status_mapping`. -/
def normaliseStatusMapping (library : StatusLibrary) (payload : PyValue) :
    Option (List (PyStr × PyValue)) :=
  payload.mapping?.bind fun items =>
    if items.length > maxMappingKeys then none
    else some (library.order.filterMap fun key =>
      (PyValue.lookupKey items key).map fun value => (key, value))

/-- `_mapping_is_oversized`, with the budget that is left. -/
def mappingIsOversized : Int → List (PyStr × PyValue) → Bool
  | _, [] => false
  | budget, (key, value) :: rest =>
    let budget := budget - (key.length + 4)
    if budget < 0 then true
    else
      match value with
      | .str s =>
        match utf8Size s with
        | none => false
        | some size =>
          if budget - (size + 2) < 0 then true else mappingIsOversized (budget - (size + 2)) rest
      | .bytes data =>
        if budget - (data.length + 2) < 0 then true
        else mappingIsOversized (budget - (data.length + 2)) rest
      | .dict _ => if budget - 16 < 0 then true else mappingIsOversized (budget - 16) rest
      | _ => if budget - 8 < 0 then true else mappingIsOversized (budget - 8) rest

/-- The mapping of a value that was parsed, or why there is none. -/
def statusMapping (library : StatusLibrary) (payload : PyValue) (limit : Nat) :
    Except AuthCategory (List (PyStr × PyValue)) :=
  match normaliseStatusMapping library payload with
  | none =>
    .error (if payload.mapping?.any fun items => decide (items.length > maxMappingKeys) then .oversized
      else .malformed)
  | some mapping => if mappingIsOversized limit mapping then .error .oversized else .ok mapping

/-- The mapping of a JSON text. -/
def textMapping (library : StatusLibrary) (text : PyStr) (limit : Nat) :
    Except AuthCategory (List (PyStr × PyValue)) :=
  match utf8Size text with
  | none => .error .malformed
  | some size =>
    if size > limit then .error .oversized
    else
      match ((jsonDecoder library.floats).withHook jsonObjectPairs).loads text with
      | none => .error .malformed
      | some payload => statusMapping library payload limit

/-- `_payload_to_mapping`. -/
def payloadToMapping (library : StatusLibrary) (payload : PyValue) (limit : Nat) :
    Except AuthCategory (List (PyStr × PyValue)) :=
  match payload with
  | .bytes data =>
    if data.length > limit then .error .oversized
    else
      match decodeUtf8 false data with
      | none => .error .malformed
      | some text => textMapping library text limit
  | .str text => textMapping library text limit
  | payload => statusMapping library payload limit

/-! ## Judging -/

/-- `_normalise_enum_text`. -/
def normaliseEnumText (library : StatusLibrary) (value : PyValue) : Option PyStr :=
  match value with
  | .str s =>
    let text := library.casefold (strip s)
    if text = [] ∨ text.length > maxEnumTextLength then none
    else if text.any CodePoint.isAsciiControl then none
    else some text
  | _ => none

/-- The judgement of a method and a provider, or `none` where the subscription decides. -/
def judgeRoute (authMethod apiProvider : PyStr) : Option AuthCategory :=
  if authMethod ∈ apiKeyMethods then some .apiKey
  else if authMethod ∈ meteredMethods then some .metered
  else if apiProvider ∈ thirdPartyProviders then some .thirdParty
  else if apiProvider ∉ firstPartyProviders then some .unknown
  else if authMethod ∉ oauthMethods then some .unknown
  else none

/-- The judgement of a subscription. -/
def judgeSubscription (library : StatusLibrary) (subscriptionType : Option PyValue) : AuthCategory :=
  match subscriptionType with
  | none => .missingSubscription
  | some (.str raw) =>
    if strip raw = [] then .missingSubscription
    else
      match normaliseEnumText library (.str raw) with
      | none => .malformed
      | some text =>
        if text ∈ meteredSubscriptionTypes then .metered
        else if text ∉ subscriptionTypes then .unknown
        else .subscriptionOauth
  | some _ => .malformed

/-- The category of a mapping. -/
def judgeMapping (library : StatusLibrary) (mapping : List (PyStr × PyValue)) : AuthCategory :=
  let get := fun key : String => (mapping.lookup (lit key)).getD .none
  match get "loggedIn" with
  | .bool false => .loggedOut
  | .bool true =>
    match normaliseEnumText library (get "authMethod"), normaliseEnumText library (get "apiProvider") with
    | some authMethod, some apiProvider =>
      (judgeRoute authMethod apiProvider).getD
        (judgeSubscription library (mapping.lookup (lit "subscriptionType")))
    | _, _ => .malformed
  | _ => .malformed

/-- `parse_auth_status`. -/
def parseAuthStatus (library : StatusLibrary) (payload maxBytes : PyValue) : AuthPreflightResult :=
  match maxBytes with
  | .int limit =>
    if limit ≤ 0 then authResult .oversized
    else
      match payloadToMapping library payload (min limit.toNat maxStatusBytes) with
      | .error category => authResult category
      | .ok mapping => authResult (judgeMapping library mapping)
  | _ => authResult .malformed

end HermesClaude.Billing
