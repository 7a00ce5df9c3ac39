/-
# Ownership receipts

A receipt binds a trial to its candidate and to the digests of what was observed before it.
Observations are sanitized: nothing raw is in them at any depth, texts are identities, numbers
are bounded, and what is called a hash is a digest.  The digests of a receipt are computed from
the documents, never taken from them.

The mappings that are given are dictionaries.  A receipt is not written to a file here.
-/

import HermesClaude.Parity.GatewayInventory
import HermesClaude.Parity.Manifest
import HermesClaude.Parity.ResultFields

namespace HermesClaude.Parity.Ownership

open HermesClaude.Python HermesClaude.Library
open V4GatewayInventory (isClosed isDigest)

/-- What building a receipt raises. -/
inductive Violation
  /-- `OwnershipReceiptViolation(message)`. -/
  | receipt (message : PyStr)
  /-- The `ValueError` of a document that has no encoding, which is not caught. -/
  | valueError
  deriving DecidableEq

/-- What a check gives. -/
abbrev Checked := Except Violation

/-- `if not condition: raise OwnershipReceiptViolation(message)`. -/
def ensure (condition : Bool) (message : PyStr) : Checked Unit :=
  if condition then .ok () else .error (.receipt message)

/-! ## Values -/

/-- `_mapping`. -/
def mapping (value : PyValue) (field : PyStr) : Checked Entries :=
  match value with
  | .dict items =>
    match jsonCompatible (.dict items) with
    | some (.dict entries) => .ok entries
    | _ => .error (.receipt (field ++ lit " is not JSON-compatible"))
  | _ => .error (.receipt (field ++ lit " must be a mapping"))

/-- `_mapping` of a value that is already a document. -/
def mappingOf (value : Json) (field : PyStr) : Checked Entries :=
  match value with
  | .dict entries => .ok entries
  | _ => .error (.receipt (field ++ lit " must be a mapping"))

/-- A value that must be a text of some form. -/
def checkText (valid : PyStr → Bool) (value : Json) (message : PyStr) : Checked PyStr :=
  match value with
  | .str text => if valid text then .ok text else .error (.receipt message)
  | _ => .error (.receipt message)

/-- `_digest`. -/
def digest (value : Json) (field : PyStr) (length : Nat := 64) : Checked PyStr :=
  checkText (isDigest length) value (field ++ lit " must be a nonzero lowercase digest")

/-- A character of `[A-Za-z0-9._:@/+#\-]`. -/
def isIdentityChar (c : CodePoint) : Bool := isSafeIdChar c || c.val = 0x23

/-- `_SAFE_ID.fullmatch(text)`. -/
def isIdentity : PyStr → Bool
  | [] => false
  | c :: rest => isSafeIdStart c && rest.length ≤ 255 && rest.all isIdentityChar

/-- `_safe_id`. -/
def safeId (value : Json) (field : PyStr) : Checked PyStr :=
  checkText isIdentity value (field ++ lit " must be a bounded sanitized identity")

/-! ## Observations -/

/-- `_RAW_KEYS`. -/
def rawKeys : List PyStr :=
  ["raw", "raw_prompt", "raw_content", "raw_transcript", "rawprompt", "rawcontent",
    "rawtranscript", "messages", "message", "prompt", "content", "transcript", "session",
    "session_id", "sessionid", "raw_session", "credential", "credentials", "password", "secret",
    "secrets", "token", "access_token", "accesstoken", "refresh_token", "refreshtoken", "api_key",
    "apikey", "auth", "auth_material", "authmaterial", "config", "configuration", "cookie",
    "cookies", "evidence_sha256", "proof_hash", "proof_sha256", "stream_hash"].map lit

section Observations

variable (casefold : PyStr → PyStr)

/-- The keys that name raw data, in any case and with dashes for underscores. -/
def isRawKey (key : PyStr) : Bool :=
  let lowered := (casefold key).map fun c => if c = 0x2D then 0x5F else c
  lowered ∈ rawKeys || (lit "raw_").isPrefixOf lowered || (lit "_raw").isSuffixOf lowered

/-- `key.casefold().endswith("_hash")`. -/
def isHashKey (key : PyStr) : Bool := (lit "_hash").isSuffixOf (casefold key)

/-- `f"{location}.{key}"`. -/
def atKey (location key : PyStr) : PyStr := location ++ lit "." ++ key

/-- `f"{location}[{index}]"`. -/
def atIndex (location : PyStr) (index : Nat) : PyStr := location ++ lit "[" ++ decimal index ++ lit "]"

mutual

/-- `_reject_raw`. -/
def rejectRaw (location : PyStr) : Json → Checked Unit
  | .dict items => rejectRawItems location items
  | .list items => rejectRawList location 0 items
  | .null | .bool _ | .int _ | .float _ | .str _ => .ok ()

def rejectRawItems (location : PyStr) : List (PyStr × Json) → Checked Unit
  | [] => .ok ()
  | (key, child) :: items => do
    ensure (!isRawKey casefold key) (location ++ lit " contains forbidden raw-data field")
    rejectRaw (atKey location key) child
    rejectRawItems location items

def rejectRawList (location : PyStr) (index : Nat) : List Json → Checked Unit
  | [] => .ok ()
  | child :: items => do
    rejectRaw (atIndex location index) child
    rejectRawList location (index + 1) items

end

mutual

/-- `visit` of `_observation`. -/
def visit (location : PyStr) : Json → Checked Json
  | .dict items => do
    ensure (!items.isEmpty) (location ++ lit " must not be empty")
    ensure (items.length ≤ 128) (location ++ lit " has too many fields")
    let normalized ← visitItems location items
    return .dict normalized
  | .list items => do
    ensure (items.length ≤ 128) (location ++ lit " has too many entries")
    let normalized ← visitList location 0 items
    return .list normalized
  | .bool b => .ok (.bool b)
  | .int i =>
    if -1 ≤ i ∧ i ≤ 1000000000 then .ok (.int i)
    else .error (.receipt (location ++ lit " integer is outside the bounded range"))
  | .str text => do
    let text ← safeId (.str text) location
    return .str text
  | .null | .float _ => .error (.receipt (location ++ lit " must be a sanitized scalar"))

def visitItems (location : PyStr) : List (PyStr × Json) → Checked (List (PyStr × Json))
  | [] => .ok []
  | (key, child) :: items => do
    let key ← safeId (.str key) (location ++ lit " key")
    let child ← (if isHashKey casefold key then (digest child (atKey location key)).map .str
      else visit (atKey location key) child)
    let normalized ← visitItems location items
    return (key, child) :: normalized

def visitList (location : PyStr) (index : Nat) : List Json → Checked (List Json)
  | [] => .ok []
  | child :: items => do
    let child ← visit (atIndex location index) child
    let normalized ← visitList location (index + 1) items
    return child :: normalized

end

/-- `_observation` of the entries of a document. -/
def observation (value : Json) (field : PyStr) : Checked Entries := do
  let raw ← mappingOf value field
  ensure (!raw.isEmpty) (field ++ lit " must contain sanitized observation data")
  rejectRaw casefold field (.dict raw)
  let normalized ← visit casefold field (.dict raw)
  mappingOf normalized field

mutual

/-- A value as it may stand in an observation. -/
def isSanitized : Json → Bool
  | .dict items => !items.isEmpty && items.length ≤ 128 && areSanitizedItems items
  | .list items => items.length ≤ 128 && areSanitized items
  | .bool _ => true
  | .int i => -1 ≤ i ∧ i ≤ 1000000000
  | .str text => isIdentity text
  | .null | .float _ => false

def areSanitizedItems : List (PyStr × Json) → Bool
  | [] => true
  | (key, child) :: items =>
    isIdentity key && !isRawKey casefold key &&
      (if isHashKey casefold key then child.str?.any (isDigest 64) else isSanitized child) &&
      areSanitizedItems items

def areSanitized : List Json → Bool
  | [] => true
  | child :: items => isSanitized child && areSanitized items

end

/-! ### What is observed -/

theorem ensure_eq_ok {condition : Bool} {message : PyStr} {u : Unit} :
    ensure condition message = .ok u ↔ condition = true := by
  cases condition with
  | false => simp [ensure]
  | true => simp [ensure]

theorem map_eq_ok {α β : Type} {f : α → β} {x : Checked α} {b : β} :
    x.map f = .ok b ↔ ∃ a, x = .ok a ∧ f a = b := by
  cases x with
  | error violation => simp [Except.map]
  | ok a => simp [Except.map]

theorem checkText_eq_ok {valid : PyStr → Bool} {value : Json} {message text : PyStr} :
    checkText valid value message = .ok text ↔ value = .str text ∧ valid text = true := by
  cases value with
  | str found =>
    rw [checkText, Json.str.injEq]
    split_ifs with h
    · rw [Except.ok.injEq]
      exact ⟨fun hfound => ⟨hfound, hfound ▸ h⟩, And.left⟩
    · apply iff_of_false
      · intro hfound
        cases hfound
      · intro hfound
        exact h (hfound.1 ▸ hfound.2)
  | _ =>
    apply iff_of_false
    · intro hfound
      cases hfound
    · intro hfound
      cases hfound.1

variable {casefold}

/-- A value under a key that names a hash is a digest. -/
theorem any_str_iff {valid : PyStr → Bool} {value : Json} :
    value.str?.any valid = true ↔ ∃ text, value = .str text ∧ valid text = true := by
  cases value with
  | str found => simp [Json.str?]
  | _ => simp [Json.str?]

mutual

/-- What is visited after the search for raw data is sanitized, and left as it is. -/
theorem visit_eq_ok {location location' : PyStr} {value result : Json} :
    (rejectRaw casefold location value = .ok () ∧ visit casefold location' value = .ok result) ↔
      isSanitized casefold value = true ∧ value = result := by
  match value with
  | .null | .float _ => simp [visit, isSanitized]
  | .bool b => simp [rejectRaw, visit, isSanitized]
  | .int i =>
    simp only [rejectRaw, visit, isSanitized, decide_eq_true_eq]
    split_ifs with h
    · simp [h]
    · simp [h]
  | .str text =>
    simp only [rejectRaw, visit, isSanitized, safeId, bind_eq_ok, checkText_eq_ok, Json.str.injEq]
    constructor
    · rintro ⟨-, found, ⟨rfl, hsafe⟩, h⟩
      cases h
      exact ⟨hsafe, rfl⟩
    · rintro ⟨hsafe, rfl⟩
      exact ⟨trivial, text, ⟨rfl, hsafe⟩, rfl⟩
  | .list items =>
    simp only [rejectRaw, visit, isSanitized, bind_eq_ok, ensure_eq_ok, Bool.and_eq_true]
    constructor
    · rintro ⟨hraw, -, hlength, normalized, hnormalized, h⟩
      obtain ⟨hsanitized, hsame⟩ := visitList_eq_ok.mp ⟨hraw, hnormalized⟩
      cases h
      exact ⟨⟨hlength, hsanitized⟩, congrArg Json.list hsame⟩
    · rintro ⟨⟨hlength, hsanitized⟩, rfl⟩
      obtain ⟨hraw, hnormalized⟩ := visitList_eq_ok.mpr ⟨hsanitized, rfl⟩
      exact ⟨hraw, (), hlength, items, hnormalized, rfl⟩
  | .dict items =>
    simp only [rejectRaw, visit, isSanitized, bind_eq_ok, ensure_eq_ok, Bool.and_eq_true]
    constructor
    · rintro ⟨hraw, -, hsome, -, hlength, normalized, hnormalized, h⟩
      obtain ⟨hsanitized, hsame⟩ := visitItems_eq_ok.mp ⟨hraw, hnormalized⟩
      cases h
      exact ⟨⟨⟨hsome, hlength⟩, hsanitized⟩, congrArg Json.dict hsame⟩
    · rintro ⟨⟨⟨hsome, hlength⟩, hsanitized⟩, rfl⟩
      obtain ⟨hraw, hnormalized⟩ := visitItems_eq_ok.mpr ⟨hsanitized, rfl⟩
      exact ⟨hraw, (), hsome, (), hlength, items, hnormalized, rfl⟩

theorem visitItems_eq_ok {location location' : PyStr} {items result : List (PyStr × Json)} :
    (rejectRawItems casefold location items = .ok () ∧
        visitItems casefold location' items = .ok result) ↔
      areSanitizedItems casefold items = true ∧ items = result := by
  match items with
  | [] => simp [rejectRawItems, visitItems, areSanitizedItems]
  | (key, child) :: rest =>
    simp only [rejectRawItems, visitItems, areSanitizedItems, bind_eq_ok, ensure_eq_ok, safeId,
      checkText_eq_ok, Bool.and_eq_true]
    -- Under the name of a hash stands a digest, in which nothing raw is looked for.
    have hchild : ∀ found : Json, (rejectRaw casefold (atKey location key) child = .ok () ∧
        (if isHashKey casefold key then (digest child (atKey location' key)).map .str
          else visit casefold (atKey location' key) child) = Except.ok found) ↔
        (if isHashKey casefold key then child.str?.any (isDigest 64)
          else isSanitized casefold child) = true ∧ child = found := by
      intro found
      by_cases hhash : isHashKey casefold key = true
      · simp only [hhash, if_true, map_eq_ok, digest, checkText_eq_ok, any_str_iff]
        constructor
        · rintro ⟨-, text, ⟨rfl, hdigest⟩, rfl⟩
          exact ⟨⟨text, rfl, hdigest⟩, rfl⟩
        · rintro ⟨⟨text, rfl, hdigest⟩, rfl⟩
          exact ⟨rfl, text, ⟨rfl, hdigest⟩, rfl⟩
      · simp only [hhash]
        exact visit_eq_ok
    constructor
    · rintro ⟨⟨-, hnotRaw, ⟨⟩, hraw, hrawRest⟩, name, ⟨hname, hsafe⟩, found, hfound, others, hothers, h⟩
      cases hname
      obtain ⟨hgood, rfl⟩ := (hchild found).mp ⟨hraw, hfound⟩
      obtain ⟨hrest, rfl⟩ := visitItems_eq_ok.mp ⟨hrawRest, hothers⟩
      cases h
      rw [Bool.not_eq_true'] at hnotRaw
      exact ⟨⟨⟨⟨hsafe, by rw [hnotRaw]; rfl⟩, hgood⟩, hrest⟩, rfl⟩
    · rintro ⟨⟨⟨⟨hsafe, hnotRaw⟩, hgood⟩, hrest⟩, rfl⟩
      obtain ⟨hraw, hfound⟩ := (hchild child).mpr ⟨hgood, rfl⟩
      obtain ⟨hrawRest, hothers⟩ := visitItems_eq_ok.mpr ⟨hrest, rfl⟩
      exact ⟨⟨(), hnotRaw, (), hraw, hrawRest⟩, key, ⟨rfl, hsafe⟩, child, hfound, rest, hothers, rfl⟩

theorem visitList_eq_ok {location location' : PyStr} {index index' : Nat} {items result : List Json} :
    (rejectRawList casefold location index items = .ok () ∧
        visitList casefold location' index' items = .ok result) ↔
      areSanitized casefold items = true ∧ items = result := by
  match items with
  | [] => simp [rejectRawList, visitList, areSanitized]
  | child :: rest =>
    simp only [rejectRawList, visitList, areSanitized, bind_eq_ok, Bool.and_eq_true]
    constructor
    · rintro ⟨⟨⟨⟩, hraw, hrawRest⟩, found, hfound, others, hothers, h⟩
      obtain ⟨hchild, rfl⟩ := visit_eq_ok.mp ⟨hraw, hfound⟩
      obtain ⟨hrest, rfl⟩ := visitList_eq_ok.mp ⟨hrawRest, hothers⟩
      cases h
      exact ⟨⟨hchild, hrest⟩, rfl⟩
    · rintro ⟨⟨hchild, hrest⟩, rfl⟩
      obtain ⟨hraw, hfound⟩ := visit_eq_ok.mpr ⟨hchild, rfl⟩
      obtain ⟨hrawRest, hothers⟩ := visitList_eq_ok.mpr ⟨hrest, rfl⟩
      exact ⟨⟨(), hraw, hrawRest⟩, child, hfound, rest, hothers, rfl⟩

end

theorem mappingOf_eq_ok {value : Json} {field : PyStr} {entries : Entries} :
    mappingOf value field = .ok entries ↔ value = .dict entries := by
  cases value with
  | dict items => simp [mappingOf]
  | _ => simp [mappingOf]

/-- **What is observed.** An observation is accepted exactly where it is sanitized at every depth,
and nothing in it is changed. -/
theorem observation_eq_ok (casefold : PyStr → PyStr) (value : Json) (field : PyStr) (result : Entries) :
    observation casefold value field = .ok result ↔
      value = .dict result ∧ isSanitized casefold value = true := by
  simp only [observation, bind_eq_ok, mappingOf_eq_ok, ensure_eq_ok]
  constructor
  · rintro ⟨raw, rfl, -, -, ⟨⟩, hraw, normalized, hvisit, rfl⟩
    obtain ⟨hsanitized, hsame⟩ := visit_eq_ok.mp ⟨hraw, hvisit⟩
    exact ⟨hsame, hsanitized⟩
  · rintro ⟨rfl, hsanitized⟩
    obtain ⟨hraw, hvisit⟩ := visit_eq_ok.mpr ⟨hsanitized, rfl⟩
    have hsome : (!result.isEmpty) = true := by
      simp only [isSanitized, Bool.and_eq_true] at hsanitized
      exact hsanitized.1.1
    exact ⟨result, rfl, (), hsome, (), hraw, .dict result, hvisit, rfl⟩

end Observations

/-! ## Projections -/

/-- `OWNERSHIP_PREFLIGHTS`. -/
def ownershipPreflights : List String :=
  ["zero_native_absence", "exact_prompt_settings_tools_mcp", "no_native_events_projector",
    "delegate_owner", "background_owner", "canonical_transcript_content", "streaming_owner",
    "redaction_fail_closed"]

/-- `_SOURCE_FIELDS`. -/
def sourceFields : List PyStr := ["executable", "source_ref", "test_id"].map lit

/-- `_PROJECTION_FIELDS`. -/
def projectionFields : List PyStr :=
  ["schema_version", "name", "candidate_hash", "status", "source", "observation"].map lit

/-- `_STREAM_FIELDS`. -/
def streamFields : List PyStr := projectionFields ++ ["trial_candidate_hash", "trial_index"].map lit

/-- `_source`.  The keys of what it returns are hashed in their order, whatever order they are in. -/
def source (value : Json) (field : PyStr) : Checked Entries := do
  let raw ← mappingOf value field
  ensure (hasFields raw sourceFields) (field ++ lit " identity fields are incomplete or unknown")
  let executable ← safeId (raw.field "executable") (atKey field (lit "executable"))
  let sourceRef ← safeId (raw.field "source_ref") (atKey field (lit "source_ref"))
  let testId ← safeId (raw.field "test_id") (atKey field (lit "test_id"))
  return [(lit "executable", .str executable), (lit "source_ref", .str sourceRef),
    (lit "test_id", .str testId)]

/-- `value == text`. -/
def equalsText (value : Json) (text : PyStr) : Bool := value.str? = some text

section Receipts

variable (floats : FloatText) (casefold : PyStr → PyStr)

/-- `sha256_value`. -/
def sha256 (value : Json) : Checked PyStr :=
  match sha256Value floats value with
  | some digest => .ok digest
  | none => .error .valueError

/-- The check that a document is a successful one of some name. -/
def checkNamed (projection : Entries) (name : PyStr) (message : PyStr) : Checked Unit :=
  ensure (Json.pyEq (projection.field "schema_version") (.int 1) &&
    equalsText (projection.field "name") name && equalsText (projection.field "status") (lit "PASS"))
    message

/-- The check that a document is bound to a candidate. -/
def checkBound (value : Json) (field : PyStr) (candidateHash message : PyStr) : Checked Unit := do
  let found ← digest value field
  ensure (found = candidateHash) message

/-- The text that names a projection in messages. -/
def projectionTitle (name : PyStr) : PyStr := lit "preflight projection " ++ name

/-- `_projection`: the digest of what is normalized. -/
def projection (value : PyValue) (name candidateHash : PyStr) : Checked PyStr := do
  let projection ← mapping value (projectionTitle name)
  ensure (hasFields projection projectionFields) (projectionTitle name ++ lit " fields are not closed")
  rejectRaw casefold (projectionTitle name) (.dict projection)
  checkNamed projection name (projectionTitle name ++ lit " is not a successful named v1 document")
  checkBound (projection.field "candidate_hash") (projectionTitle name ++ lit ".candidate_hash")
    candidateHash (projectionTitle name ++ lit " is bound to another candidate")
  let source ← source (projection.field "source") (projectionTitle name ++ lit ".source")
  let observation ← observation casefold (projection.field "observation")
    (projectionTitle name ++ lit ".observation")
  sha256 floats (.dict [
    (lit "schema_version", .int 1), (lit "name", .str name),
    (lit "candidate_hash", .str candidateHash), (lit "status", .str (lit "PASS")),
    (lit "source", .dict source), (lit "observation", .dict observation)])

/-- `_stream_projection`: the digest of what is normalized. -/
def streamProjection (value : PyValue) (candidateHash : PyStr) (trial : ResultPacket) :
    Checked PyStr := do
  let projection ← mapping value (lit "stream projection")
  ensure (hasFields projection streamFields) (lit "stream projection fields are not closed")
  rejectRaw casefold (lit "stream projection") (.dict projection)
  checkNamed projection (lit "stream") (lit "stream projection is not a successful named v1 document")
  checkBound (projection.field "candidate_hash") (lit "stream projection.candidate_hash")
    candidateHash (lit "stream projection is bound to another candidate")
  checkBound (projection.field "trial_candidate_hash") (lit "stream projection.trial_candidate_hash")
    trial.candidateHash.1 (lit "stream projection is bound to another predecessor candidate")
  ensure (projection.field "trial_index" matches .int _ &&
      Json.pyEq (projection.field "trial_index") (.int trial.trialIndex))
    (lit "stream projection trial repetition does not match predecessor")
  let source ← source (projection.field "source") (lit "stream projection.source")
  let observation ← observation casefold (projection.field "observation")
    (lit "stream projection.observation")
  sha256 floats (.dict [
    (lit "schema_version", .int 1), (lit "name", .str (lit "stream")),
    (lit "candidate_hash", .str candidateHash),
    (lit "trial_candidate_hash", .str trial.candidateHash.1),
    (lit "trial_index", .int trial.trialIndex), (lit "status", .str (lit "PASS")),
    (lit "source", .dict source), (lit "observation", .dict observation)])

/-! ## Candidates -/

/-- `_CANDIDATE_FIELDS`. -/
def candidateFields : List PyStr :=
  ["plugin_sha", "host_sha", "wheel_sha256", "profile_sha256", "sdk_distribution", "sdk_version",
    "cli_version", "model", "runner_id", "runner_version"].map lit

/-- The fields of a candidate that hold digests, with their lengths. -/
def candidateDigests : List (String × Nat) :=
  [("plugin_sha", 40), ("host_sha", 40), ("wheel_sha256", 64), ("profile_sha256", 64)]

/-- What every candidate of this contract is. -/
def frozenIdentity : List (String × PyStr) :=
  [("sdk_distribution", lit "claude-agent-sdk"), ("sdk_version", lit "0.2.151"),
    ("cli_version", lit "2.1.258"), ("model", lit "claude-fable-5-1"),
    ("runner_id", lit "hermes-parity-v4"), ("runner_version", lit "4.0.0")]

/-- `_candidate`. -/
def candidate (value : PyValue) (trial : ResultPacket) : Checked (Entries × PyStr) := do
  let candidate ← mapping value (lit "candidate")
  ensure (hasFields candidate candidateFields)
    (lit "candidate identity must contain exactly the ten v4 fields")
  candidateDigests.forM fun field => do
    let _ ← digest (candidate.field field.1) (lit "candidate." ++ lit field.1) field.2
  frozenIdentity.forM fun field =>
    ensure (equalsText (candidate.field field.1) field.2)
      (lit "candidate." ++ lit field.1 ++ lit " does not match the frozen v4 identity")
  ensure (equalsText (candidate.field "plugin_sha") trial.pluginSha.1 &&
      equalsText (candidate.field "host_sha") trial.hostSha.1)
    (lit "candidate does not match predecessor plugin or host")
  ensure (equalsText (candidate.field "sdk_version") trial.sdkVersion.1 &&
      equalsText (candidate.field "profile_sha256") trial.profileHash.1)
    (lit "candidate does not match predecessor SDK or profile")
  ensure (equalsText (candidate.field "runner_version") trial.runnerVersion.1)
    (lit "candidate does not match predecessor runner")
  let candidateHash ← sha256 floats (.dict candidate)
  return (candidate, candidateHash)

/-! ## Receipts -/

/-- `V3_RESULT_CONTRACT_HASH`. -/
def v3ResultContractHash : PyStr :=
  lit "aaddc44c53b5648202e34c5682a5c0ee599fa52b896c0530d0945cac95eb3244"

/-- `V3_RESULT_CATALOG_HASH`. -/
def v3ResultCatalogHash : PyStr :=
  lit "768c2d8f99077f8557a192d1053fc80401e83dee80d77475d12119df75b63abb"

/-- The receipt that is built. -/
structure OwnershipReceipt where
  candidate : Entries
  candidateHash : PyStr
  trialCandidateHash : PyStr
  trialIndex : Nat
  /-- The digests of the preflight projections, in the order of their names. -/
  evidence : List (String × PyStr)
  primary : PyStr
  secondary : PyStr
  transcript : PyStr
  stream : PyStr

namespace OwnershipReceipt

/-- An entry of `preflight_results`. -/
def passed (evidenceSha256 : PyStr) : Json :=
  .dict [(lit "status", .str (lit "PASS")), (lit "evidence_sha256", .str evidenceSha256)]

/-- The proof hashes of a receipt. -/
def proofHashes (receipt : OwnershipReceipt) : Entries :=
  [(lit "primary", .str receipt.primary), (lit "secondary", .str receipt.secondary),
    (lit "transcript", .str receipt.transcript), (lit "stream", .str receipt.stream)]

/-- The document of a receipt. -/
def toDict (receipt : OwnershipReceipt) : Entries :=
  [(lit "schema_version", .int 1),
    (lit "candidate", .dict receipt.candidate),
    (lit "candidate_hash", .str receipt.candidateHash),
    (lit "trial_candidate_hash", .str receipt.trialCandidateHash),
    (lit "trial_index", .int receipt.trialIndex),
    (lit "preflight_results",
      .dict (receipt.evidence.map fun evidence => (lit evidence.1, passed evidence.2))),
    (lit "proof_hashes", .dict receipt.proofHashes)]

end OwnershipReceipt

/-- What a trial is given as: a packet as it was decoded, or a document of one. -/
inductive TrialSource
  | packet (trial : ResultPacket)
  | document (value : PyValue)

/-- `_trial`. -/
def readTrial : TrialSource → Checked ResultPacket
  | .packet trial => .ok trial
  | .document value =>
    match ResultPacket.fromDict floats value with
    | .ok trial => .ok trial
    | .error _ => .error (.receipt (lit "underlying predecessor trial is absent or invalid"))

/-- `value == "0" * 64`, or no value. -/
def isEmptyHash (value : PyStr) : Bool := value.isEmpty || value == List.replicate 64 0x30

/-- The proofs of a trial, each of them a digest. -/
def proofsOf (trial : ResultPacket) : Checked (PyStr × PyStr × PyStr) :=
  match trial.primaryProofHash, trial.secondaryProofHash with
  | some primary, some secondary => do
    let primary ← digest (.str primary.1) (lit "trial.primary_proof_hash")
    let secondary ← digest (.str secondary.1) (lit "trial.secondary_proof_hash")
    let transcript ← digest (.str trial.traceHash.1) (lit "trial.trace_hash")
    return (primary, secondary, transcript)
  | _, _ => .error (.receipt (lit "predecessor trial lacks primary or secondary proof"))

/-- The projections by name. -/
def projectionsOf (value : PyValue) : Checked Frame :=
  match value.mapping? with
  | none => .error (.receipt (lit "preflight projections must be a mapping"))
  | some items => do
    ensure (isClosed items ownershipPreflights)
      (lit "preflight projections must contain exactly the eight named checks")
    return items

/-- `build_ownership_receipt`, without an output. -/
def buildOwnershipReceipt (trial : TrialSource) (candidateValue preflightProjections
    streamProjectionValue : PyValue) : Checked OwnershipReceipt := do
  let observed ← readTrial floats trial
  ensure (observed.contractHash.1 = v3ResultContractHash &&
      observed.catalogHash.1 = v3ResultCatalogHash)
    (lit "predecessor trial is not the immutable v3 envelope")
  ensure (!isEmptyHash observed.packetHash.1) (lit "predecessor trial packet hash is empty")
  ensure (!isEmptyHash observed.candidateHash.1) (lit "predecessor trial candidate hash is empty")
  let (primary, secondary, transcript) ← proofsOf observed
  let (candidate, candidateHash) ← candidate floats candidateValue observed
  let projections ← projectionsOf preflightProjections
  let evidence ← ownershipPreflights.mapM fun name => do
    let evidence ← projection floats casefold (getItem projections name) (lit name) candidateHash
    return (name, evidence)
  let stream ← streamProjection floats casefold streamProjectionValue candidateHash observed
  return {
    candidate, candidateHash, trialCandidateHash := observed.candidateHash.1,
    trialIndex := observed.trialIndex, evidence, primary, secondary, transcript, stream }

end Receipts

end HermesClaude.Parity.Ownership
