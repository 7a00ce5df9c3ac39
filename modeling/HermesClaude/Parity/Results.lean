/-
# Result packets

A packet records one trial of one path of a capability: what was run, against which
candidate, which events were observed, and the hashes that bind these together.  A
document becomes a packet only if every field is well formed and both hashes are those of
its content; the fields of a packet carry their well-formedness.
-/

import HermesClaude.Parity.Hashing

namespace HermesClaude.Parity

open HermesClaude.Python

/-- Why a document is refused. -/
inductive ResultViolation
  /-- `ResultViolation(message)`. -/
  | violation (message : PyStr)
  /-- The message that lists missing and unknown fields. -/
  | fields (location : PyStr) (missing unknown : List PyStr)
  /-- The message that a file cannot be read safely, or the exception of a number with too
  many digits, which is not caught. -/
  | unreadable
  /-- Another exception, which is not caught. -/
  | raised (exception : String)

/-- `if condition: raise`. -/
def refuseIf (condition : Bool) (violation : ResultViolation) : Except ResultViolation Unit :=
  if condition then .error violation else .ok ()

/-- `if not condition: raise ResultViolation(message)`. -/
def require (condition : Bool) (message : PyStr) : Except ResultViolation Unit :=
  refuseIf (!condition) (.violation message)

/-- `sorted(texts)`. -/
def sorted (texts : List PyStr) : List PyStr := texts.insertionSort (· ≤ ·)

/-- A value, or the violation that says that there is none. -/
def orRefuse {α : Type} (value : Option α) (violation : ResultViolation) :
    Except ResultViolation α :=
  match value with
  | some a => .ok a
  | none => .error violation

/-- The value of a call that may raise. -/
def orRaise {α : Type} (value : Option α) (exception : String) : Except ResultViolation α :=
  orRefuse value (.raised exception)

/-! ## Enumerations -/

/-- `ExecutionClassification`. -/
inductive ExecutionClassification
  | pending
  | expectedNegative
  | environmentBlocked
  | verifiedFailure
  | complete
  deriving DecidableEq

/-- `ExecutionClassification.value`. -/
def ExecutionClassification.value : ExecutionClassification → PyStr
  | .pending => lit "PENDING"
  | .expectedNegative => lit "EXPECTED_NEGATIVE"
  | .environmentBlocked => lit "ENVIRONMENT_BLOCKED"
  | .verifiedFailure => lit "VERIFIED_FAILURE"
  | .complete => lit "COMPLETE"

/-- The members of the enumeration. -/
def executionClassifications : List ExecutionClassification :=
  [.pending, .expectedNegative, .environmentBlocked, .verifiedFailure, .complete]

/-- The lane of a run. -/
inductive Lane
  | rc
  | runtime
  deriving DecidableEq

def Lane.value : Lane → PyStr
  | .rc => lit "rc"
  | .runtime => lit "runtime"

/-- The path of a trial. -/
inductive TrialPath
  | positive
  | denial
  | recovery
  deriving DecidableEq

def TrialPath.value : TrialPath → PyStr
  | .positive => lit "positive"
  | .denial => lit "denial"
  | .recovery => lit "recovery"

/-- `_BILLING`. -/
inductive BillingClassification
  | subscriptionIncluded
  | explicitlyFree
  | none
  | notSafe
  | unknown
  deriving DecidableEq

def BillingClassification.value : BillingClassification → PyStr
  | .subscriptionIncluded => lit "subscription_included"
  | .explicitlyFree => lit "explicitly_free"
  | .none => lit "none"
  | .notSafe => lit "unsafe"
  | .unknown => lit "unknown"

/-- `hash(value)` succeeds: a document is hashable unless it is a container. -/
def isHashable : Json → Bool
  | .list _ | .dict _ => false
  | .null | .bool _ | .int _ | .float _ | .str _ => true

/-- The member of an enumeration with the given text. -/
def memberWith {E : Type} (members : List E) (value : E → PyStr) (raw : Json) : Option E :=
  members.find? fun member => raw.str? = some (value member)

/-- `if value not in members: raise ResultViolation(message)`. -/
def requireMember {E : Type} (members : List E) (value : E → PyStr) (raw : Json)
    (message : PyStr) : Except ResultViolation E :=
  if !isHashable raw then .error (.raised "TypeError")
  else orRefuse (memberWith members value raw) (.violation message)

/-! ## Texts -/

/-- A character of `[A-Za-z0-9._:@/+\-]`. -/
def isSafeIdChar (c : CodePoint) : Bool :=
  c.isIdentifier || c.val = 0x40 || c.val = 0x2F || c.val = 0x2B

/-- A character of `[A-Za-z0-9]`. -/
def isSafeIdStart (c : CodePoint) : Bool :=
  (0x41 ≤ c.val && c.val ≤ 0x5A) || (0x61 ≤ c.val && c.val ≤ 0x7A) || c.isDigit

/-- `_SAFE_ID.fullmatch(text)`. -/
def isSafeId : PyStr → Bool
  | [] => false
  | c :: rest => isSafeIdStart c && rest.length ≤ 255 && rest.all isSafeIdChar

/-- A safe identifier. -/
abbrev SafeId := { text : PyStr // isSafeId text = true }

/-- A lowercase SHA-256 digest. -/
abbrev Digest := { text : PyStr // isHex 64 text = true }

theorem isHex_replicate_a : isHex 64 (List.replicate 64 0x61) = true := by decide

theorem isHex_replicate_b : isHex 64 (List.replicate 64 0x62) = true := by decide

/-- A full lowercase Git SHA. -/
abbrev GitSha := { text : PyStr // isHex 40 text = true }

/-- A text of the given kind, or the violation that says it is not one. -/
def requireText (valid : PyStr → Bool) (value : Json) (message : PyStr) :
    Except ResultViolation { text : PyStr // valid text = true } :=
  match value with
  | .str text => if h : valid text = true then .ok ⟨text, h⟩ else .error (.violation message)
  | _ => .error (.violation message)

/-- `_safe_id`. -/
def safeId (value : Json) (field : PyStr) : Except ResultViolation SafeId :=
  requireText isSafeId value (field ++ lit " is not a safe identifier")

/-- `_hash`. -/
def hash (value : Json) (field : PyStr) : Except ResultViolation Digest :=
  requireText (isHex 64) value (field ++ lit " must be a lowercase SHA-256 digest")

/-- `_sha`. -/
def sha (value : Json) (field : PyStr) : Except ResultViolation GitSha :=
  requireText (isHex 40) value (field ++ lit " must be a full lowercase Git SHA")

/-- A check that lets `None` pass. -/
def optional {α : Type} (check : Json → Except ResultViolation α) (value : Json) :
    Except ResultViolation (Option α) :=
  match value with
  | .null => .ok none
  | value => (check value).map some

/-! ## Events -/

/-- `_PACKET_FIELDS`. -/
def packetFields : List PyStr :=
  ["schema_version", "capability_id", "source_pack", "lane", "path", "execution_id",
    "classification", "contract_hash", "catalog_hash", "plugin_sha", "host_sha", "sdk_version",
    "profile_id", "profile_hash", "runner_version", "inventory_hash", "candidate_hash",
    "billing_classification", "turn_count", "trial_index", "normalized_events", "trace_hash",
    "primary_proof_hash", "secondary_proof_hash", "silent_fallback", "invariant_violations",
    "reason_code", "packet_hash"].map lit

/-- The fields of `_EVENT_FIELDS` that hold digests. -/
def eventHashFields : List PyStr :=
  ["name_hash", "request_hash", "state_hash", "usage_hash", "schema_hash", "tool_hash",
    "parent_hash", "metadata_hash"].map lit

/-- `_EVENT_FIELDS`. -/
def eventFields : List PyStr :=
  [lit "sequence", lit "kind", lit "status", lit "terminal_outcome"] ++ eventHashFields

/-- `_EVENT_KINDS`. -/
def eventKinds : List PyStr :=
  ["start", "approval_requested", "approval_decision", "tool_requested", "tool_result", "state",
    "usage", "compaction", "background", "restart", "terminal"].map lit

/-- `_TERMINAL_OUTCOMES`. -/
def terminalOutcomes : List PyStr := ["completed", "denied", "failed", "cancelled"].map lit

/-- `_FORBIDDEN_KEYS`. -/
def forbiddenKeys : List PyStr :=
  ["raw_content", "raw_prompt", "raw_session", "messages", "auth_material", "credential",
    "credentials", "api_key", "access_token", "refresh_token", "session_id"].map lit

/-- `_MAX_PACKET_BYTES`. -/
def maxPacketBytes : Nat := 2 * 1024 * 1024

/-- `_MAX_NORMALIZED_EVENTS`. -/
def maxNormalizedEvents : Nat := 10000

/-- The entries of a document. -/
abbrev Entries := List (PyStr × Json)

/-- `entries.get(name)`. -/
def Entries.field (entries : Entries) (name : String) : Json :=
  (Json.key? entries (lit name)).getD .null

/-- `entries.pop("packet_hash")`, with what is left. -/
def Entries.withoutHash (entries : Entries) : Entries :=
  entries.filter fun item => item.1 ≠ lit "packet_hash"

mutual

/-- `_reject_forbidden_keys`. -/
def rejectForbiddenKeys (location : PyStr) : Json → Except ResultViolation Unit
  | .dict items => rejectForbiddenItems location items
  | .list items => rejectForbiddenList location 0 items
  | .null | .bool _ | .int _ | .float _ | .str _ => .ok ()

def rejectForbiddenItems (location : PyStr) : List (PyStr × Json) → Except ResultViolation Unit
  | [] => .ok ()
  | (key, child) :: items =>
    if key ∈ forbiddenKeys then
      .error (.violation (location ++ lit " contains forbidden field " ++ key))
    else
      (rejectForbiddenKeys (location ++ lit "." ++ key) child).bind fun _ =>
        rejectForbiddenItems location items

def rejectForbiddenList (location : PyStr) (index : Nat) : List Json → Except ResultViolation Unit
  | [] => .ok ()
  | child :: items =>
    (rejectForbiddenKeys (location ++ lit "[" ++ decimal index ++ lit "]") child).bind fun _ =>
      rejectForbiddenList location (index + 1) items

end

/-- `normalized_events[index]`, as messages name it. -/
def eventLocation (index : Nat) : PyStr := lit "normalized_events[" ++ decimal index ++ lit "]"

/-- Whether a value is one of the given texts. -/
def isOneOf (texts : List PyStr) (value : Json) : Bool := value.str?.any (· ∈ texts)

/-- The digests of an event. -/
def checkEventHashes (index : Nat) : Entries → Except ResultViolation Unit
  | [] => .ok ()
  | (key, value) :: items => do
    if key ∈ eventHashFields then
      let _ ← hash value (eventLocation index ++ lit "." ++ key)
      checkEventHashes index items
    else checkEventHashes index items

/-- The terminal outcome of an event of some kind. -/
def checkOutcome (kind outcome : Json) : Except ResultViolation Unit :=
  if kind.str? = some (lit "terminal") then do
    refuseIf (!isHashable outcome) (.raised "TypeError")
    require (isOneOf terminalOutcomes outcome)
      (lit "terminal events require a supported terminal_outcome")
  else require (outcome matches .null) (lit "terminal_outcome is allowed only on terminal events")

/-- The body of the loop of `_normalize_events`, for the event at an index. -/
def normalizeEvent (index : Nat) (raw : Json) : Except ResultViolation Entries :=
  match raw with
  | .dict event => do
    let unknown := (event.filter fun item => item.1 ∉ eventFields).map Prod.fst
    refuseIf (!unknown.isEmpty) (.fields (eventLocation index) [] (sorted unknown))
    require (Json.pyEq (Entries.field event "sequence") (.int (index + 1)))
      (lit "normalized event sequence must be contiguous and one-based")
    let kind := Entries.field event "kind"
    refuseIf (!isHashable kind) (.raised "TypeError")
    require (isOneOf eventKinds kind) (eventLocation index ++ lit ".kind is unsupported")
    let _ ← optional (safeId · (eventLocation index ++ lit ".status")) (Entries.field event "status")
    checkEventHashes index event
    checkOutcome kind (Entries.field event "terminal_outcome")
    pure event
  | _ => .error (.violation (eventLocation index ++ lit " must be a mapping"))

/-- The loop of `_normalize_events`, from an index on. -/
def normalizeFrom (index : Nat) : List Json → Except ResultViolation (List Entries)
  | [] => .ok []
  | raw :: items => do
    let event ← normalizeEvent index raw
    let events ← normalizeFrom (index + 1) items
    pure (event :: events)

/-- `_normalize_events`. -/
def normalizeEvents (value : Json) : Except ResultViolation (List Entries) :=
  match value with
  | .list items =>
    if items.length > maxNormalizedEvents then
      .error (.violation (lit "normalized_events exceeds the bounded event count"))
    else normalizeFrom 0 items
  | _ => .error (.violation (lit "normalized_events must be a list"))

/-! ## Packets -/

/-- The dimensions of a candidate. -/
structure Candidate where
  catalogHash : PyStr
  pluginSha : PyStr
  hostSha : PyStr
  sdkVersion : PyStr
  profileHash : PyStr
  runnerVersion : PyStr
  inventoryHash : PyStr

/-- `candidate_hash`, or `none` where it raises. -/
def candidateHash (floats : FloatText) (candidate : Candidate) : Option PyStr :=
  sha256Value floats (.dict [
    (lit "catalog_hash", .str candidate.catalogHash),
    (lit "plugin_sha", .str candidate.pluginSha),
    (lit "host_sha", .str candidate.hostSha),
    (lit "sdk_version", .str candidate.sdkVersion),
    (lit "profile_hash", .str candidate.profileHash),
    (lit "runner_version", .str candidate.runnerVersion),
    (lit "inventory_hash", .str candidate.inventoryHash)])

/-- `ResultPacket`.  Its schema version is `1`, it claims no silent fallback and no
violated invariant: no other packet can be decoded. -/
structure ResultPacket where
  capabilityId : SafeId
  sourcePack : SafeId
  lane : Lane
  path : TrialPath
  executionId : SafeId
  classification : ExecutionClassification
  contractHash : Digest
  catalogHash : Digest
  pluginSha : GitSha
  hostSha : GitSha
  sdkVersion : SafeId
  profileId : SafeId
  profileHash : Digest
  runnerVersion : SafeId
  inventoryHash : Digest
  candidateHash : Digest
  billingClassification : BillingClassification
  turnCount : Nat
  trialIndex : Nat
  normalizedEvents : List Entries
  traceHash : Digest
  primaryProofHash : Option Digest
  secondaryProofHash : Option Digest
  reasonCode : Option SafeId
  packetHash : Digest

namespace ResultPacket

/-- The dimensions that a packet is bound to. -/
def candidate (packet : ResultPacket) : Candidate where
  catalogHash := packet.catalogHash
  pluginSha := packet.pluginSha
  hostSha := packet.hostSha
  sdkVersion := packet.sdkVersion
  profileHash := packet.profileHash
  runnerVersion := packet.runnerVersion
  inventoryHash := packet.inventoryHash

/-- `event["kind"] == "terminal"`. -/
def isTerminal (event : Entries) : Bool := (Entries.field event "kind").str? = some (lit "terminal")

/-- The rules that tie a classification to the terminal events. -/
def checkTerminal (classification : ExecutionClassification) (terminal : List Entries) :
    Except ResultViolation Unit := do
  let outcomeIn (outcomes : List PyStr) : Bool :=
    terminal.head?.any fun event => isOneOf outcomes (Entries.field event "terminal_outcome")
  match classification with
  | .pending | .environmentBlocked =>
    require terminal.isEmpty
      (lit "pending or environment-blocked packets cannot contain a terminal")
  | _ =>
    require (terminal.length = 1) (lit "completed executions require exactly one terminal event")
  match classification with
  | .complete =>
    require (outcomeIn [lit "completed"]) (lit "COMPLETE requires a completed terminal")
  | .expectedNegative =>
    require (outcomeIn [lit "denied"]) (lit "EXPECTED_NEGATIVE requires a denied terminal")
  | .verifiedFailure =>
    require (outcomeIn [lit "failed", lit "cancelled"])
      (lit "VERIFIED_FAILURE requires a failed or cancelled terminal")
  | _ => .ok ()

/-- `type(value) is int` with the value in a range, or the violation. -/
def requireInt (least most : Int) (value : Json) (message : PyStr) : Except ResultViolation Nat :=
  match value with
  | .int i => if least ≤ i ∧ i ≤ most then .ok i.toNat else .error (.violation message)
  | _ => .error (.violation message)

/-- `type(value) is int` with a least value, or the violation. -/
def requireIntFrom (least : Int) (value : Json) (message : PyStr) : Except ResultViolation Nat :=
  match value with
  | .int i => if least ≤ i then .ok i.toNat else .error (.violation message)
  | _ => .error (.violation message)

/-- The members of `_BILLING`. -/
def billingClassifications : List BillingClassification :=
  [.subscriptionIncluded, .explicitlyFree, .none, .notSafe, .unknown]

/-- Each of the violations is an identifier. -/
def checkViolationNames : List Json → Except ResultViolation Unit
  | [] => .ok ()
  | item :: items => (safeId item (lit "invariant_violations")).bind fun _ => checkViolationNames items

/-- There must be no violations. -/
def checkViolations (value : Json) : Except ResultViolation Unit :=
  match value with
  | .list items => do
    checkViolationNames items
    require items.isEmpty (lit "invariant violations fail the contract")
  | _ => .error (.violation (lit "invariant_violations must be a list"))

/-- A packet needs its proofs where it is passing evidence. -/
def needsProofs (classification : ExecutionClassification) : Bool :=
  classification = .complete || classification = .expectedNegative

/-- `from_dict` of the entries of a document, all of them with known names. -/
def fromFields (floats : FloatText) (entries : Entries) : Except ResultViolation ResultPacket := do
  let get := entries.field
  require (Json.pyEq (get "schema_version") (.int 1)) (lit "packet schema_version must equal 1")
  let classification ← orRefuse
    (memberWith executionClassifications ExecutionClassification.value (get "classification"))
    (.violation (lit "classification is unsupported"))
  let capabilityId ← safeId (get "capability_id") (lit "capability_id")
  let sourcePack ← safeId (get "source_pack") (lit "source_pack")
  let lane ← requireMember [.rc, .runtime] Lane.value (get "lane") (lit "lane must be rc or runtime")
  let path ← requireMember [.positive, .denial, .recovery] TrialPath.value (get "path")
    (lit "path must be positive, denial, or recovery")
  let executionId ← safeId (get "execution_id") (lit "execution_id")
  let sdkVersion ← safeId (get "sdk_version") (lit "sdk_version")
  let profileId ← safeId (get "profile_id") (lit "profile_id")
  let runnerVersion ← safeId (get "runner_version") (lit "runner_version")
  let billing ← requireMember billingClassifications BillingClassification.value
    (get "billing_classification") (lit "billing_classification is unsupported")
  require (billing ≠ .notSafe && billing ≠ .unknown)
    (lit "unsafe or unknown billing evidence fails closed")
  let turnCount ← requireInt 0 180 (get "turn_count")
    (lit "turn_count must be an integer in [0, 180]")
  let trialIndex ← requireIntFrom 1 (get "trial_index")
    (lit "trial_index must be a positive integer")
  require (get "silent_fallback" matches .bool _) (lit "silent_fallback must be a boolean")
  require (get "silent_fallback" matches .bool false) (lit "silent fallback is forbidden")
  checkViolations (get "invariant_violations")
  let reasonCode ← optional (safeId · (lit "reason_code")) (get "reason_code")
  let events ← normalizeEvents (get "normalized_events")
  checkTerminal classification (events.filter isTerminal)
  let primary ← optional (hash · (lit "primary_proof_hash")) (get "primary_proof_hash")
  let secondary ← optional (hash · (lit "secondary_proof_hash")) (get "secondary_proof_hash")
  require (!(needsProofs classification && (primary.isNone || secondary.isNone)))
    (lit "passing evidence requires primary and secondary proof hashes")
  let traceHash ← hash (get "trace_hash") (lit "trace_hash")
  let trace ← orRaise (sha256Value floats (.list (events.map .dict))) "ValueError"
  require (traceHash.val = trace) (lit "trace_hash does not match normalized_events")
  let catalogHash ← hash (get "catalog_hash") (lit "catalog_hash")
  let profileHash ← hash (get "profile_hash") (lit "profile_hash")
  let inventoryHash ← hash (get "inventory_hash") (lit "inventory_hash")
  let pluginSha ← sha (get "plugin_sha") (lit "plugin_sha")
  let hostSha ← sha (get "host_sha") (lit "host_sha")
  let expected ← orRaise (Parity.candidateHash floats {
    catalogHash, pluginSha, hostSha, sdkVersion, profileHash, runnerVersion, inventoryHash })
    "ValueError"
  let candidateHash ← hash (get "candidate_hash") (lit "candidate_hash")
  require (candidateHash.val = expected)
    (lit "candidate_hash does not match the bound candidate fields")
  let packetHash ← hash (get "packet_hash") (lit "packet_hash")
  let content ← orRaise (sha256Value floats (.dict entries.withoutHash)) "ValueError"
  require (packetHash.val = content) (lit "packet_hash does not match packet content")
  let contractHash ← hash (get "contract_hash") (lit "contract_hash")
  pure {
    capabilityId, sourcePack, lane, path, executionId, classification, contractHash, catalogHash,
    pluginSha, hostSha, sdkVersion, profileId, profileHash, runnerVersion, inventoryHash,
    candidateHash, billingClassification := billing, turnCount, trialIndex,
    normalizedEvents := events, traceHash, primaryProofHash := primary,
    secondaryProofHash := secondary, reasonCode, packetHash }

/-- `ResultPacket.from_dict`. -/
def fromDict (floats : FloatText) (value : PyValue) : Except ResultViolation ResultPacket :=
  match jsonCompatible value with
  | none => .error (.violation (lit "packet is not JSON-compatible"))
  | some raw =>
    let entries := raw.dict?.getD []
    let missing := packetFields.filter fun field => !Json.hasKey entries field
    let unknown := (entries.map Prod.fst).filter fun field => field ∉ packetFields
    if !(missing.isEmpty && unknown.isEmpty) then
      .error (.fields (lit "packet") (sorted missing) (sorted unknown))
    else
      (rejectForbiddenKeys (lit "packet") raw).bind fun _ => fromFields floats entries

/-- A text or `None`. -/
def ofOptional {valid : PyStr → Bool} : Option { text : PyStr // valid text = true } → Json
  | some text => .str text.val
  | none => .null

/-- The entries of `to_dict` behind the schema version. -/
def fields (packet : ResultPacket) : List (String × Json) :=
  [("capability_id", .str packet.capabilityId),
    ("source_pack", .str packet.sourcePack),
    ("lane", .str packet.lane.value),
    ("path", .str packet.path.value),
    ("execution_id", .str packet.executionId),
    ("classification", .str packet.classification.value),
    ("contract_hash", .str packet.contractHash),
    ("catalog_hash", .str packet.catalogHash),
    ("plugin_sha", .str packet.pluginSha),
    ("host_sha", .str packet.hostSha),
    ("sdk_version", .str packet.sdkVersion),
    ("profile_id", .str packet.profileId),
    ("profile_hash", .str packet.profileHash),
    ("runner_version", .str packet.runnerVersion),
    ("inventory_hash", .str packet.inventoryHash),
    ("candidate_hash", .str packet.candidateHash),
    ("billing_classification", .str packet.billingClassification.value),
    ("turn_count", .int packet.turnCount),
    ("trial_index", .int packet.trialIndex),
    ("normalized_events", .list (packet.normalizedEvents.map .dict)),
    ("trace_hash", .str packet.traceHash),
    ("primary_proof_hash", ofOptional packet.primaryProofHash),
    ("secondary_proof_hash", ofOptional packet.secondaryProofHash),
    ("silent_fallback", .bool false),
    ("invariant_violations", .list []),
    ("reason_code", ofOptional packet.reasonCode),
    ("packet_hash", .str packet.packetHash)]

/-- The entries of `to_dict`, with a schema version. -/
def entriesWith (schemaVersion : Json) (packet : ResultPacket) : Entries :=
  (("schema_version", schemaVersion) :: packet.fields).map fun field => (lit field.1, field.2)

/-- The entries of `to_dict`. -/
def toEntries (packet : ResultPacket) : Entries := packet.entriesWith (.int 1)

/-- `ResultPacket.to_dict`. -/
def toDict (packet : ResultPacket) : PyValue := (Json.dict packet.toEntries).toValue

/-- `packet == other`: the events are dictionaries. -/
def pyEq (packet other : ResultPacket) : Prop :=
  { packet with normalizedEvents := other.normalizedEvents } = other ∧
    Json.pyEqList (packet.normalizedEvents.map .dict) (other.normalizedEvents.map .dict) = true

/-! ### Building -/

/-- The arguments of `build`. -/
structure BuildArguments where
  capabilityId : PyValue
  sourcePack : PyValue
  lane : PyValue
  path : PyValue
  executionId : PyValue
  classification : PyValue
  contractHash : PyValue
  catalogHash : PyValue
  pluginSha : PyValue
  hostSha : PyValue
  sdkVersion : PyValue
  profileId : PyValue
  profileHash : PyValue
  runnerVersion : PyValue
  inventoryHash : PyValue
  billingClassification : PyValue
  turnCount : PyValue := .int 0
  trialIndex : PyValue
  normalizedEvents : List (List (PyValue × PyValue)) := []
  primaryProofHash : PyValue := .none
  secondaryProofHash : PyValue := .none
  silentFallback : PyValue := .bool false
  invariantViolations : List PyValue := []
  reasonCode : PyValue := .none

/-- A dictionary with the given fields. -/
def dictOf (fields : List (String × PyValue)) : PyValue :=
  .dict (fields.map fun field => (.str (lit field.1), field.2))

/-- `sha256_value` of what `build` hashes.  A value that is not JSON-compatible is refused
here; where Python hashes it all the same, `from_dict` refuses the document. -/
def hashArgument (floats : FloatText) (value : PyValue) : Except ResultViolation PyValue :=
  (orRaise ((jsonCompatible value).bind (sha256Value floats)) "ValueError").map .str

/-- `ExecutionClassification(classification)`. -/
def classificationOf (value : PyValue) : Except ResultViolation ExecutionClassification :=
  orRaise ((jsonCompatible value).bind
    (memberWith executionClassifications ExecutionClassification.value)) "ValueError"

/-- The document that `build` decodes, but for its hash. -/
def BuildArguments.fields (args : BuildArguments) (identity trace : PyValue)
    (classification : ExecutionClassification) : List (String × PyValue) :=
  [("schema_version", .int 1),
    ("capability_id", args.capabilityId),
    ("source_pack", args.sourcePack),
    ("lane", args.lane),
    ("path", args.path),
    ("execution_id", args.executionId),
    ("classification", .str classification.value),
    ("contract_hash", args.contractHash),
    ("catalog_hash", args.catalogHash),
    ("plugin_sha", args.pluginSha),
    ("host_sha", args.hostSha),
    ("sdk_version", args.sdkVersion),
    ("profile_id", args.profileId),
    ("profile_hash", args.profileHash),
    ("runner_version", args.runnerVersion),
    ("inventory_hash", args.inventoryHash),
    ("candidate_hash", identity),
    ("billing_classification", args.billingClassification),
    ("turn_count", args.turnCount),
    ("trial_index", args.trialIndex),
    ("normalized_events", .list (args.normalizedEvents.map .dict)),
    ("trace_hash", trace),
    ("primary_proof_hash", args.primaryProofHash),
    ("secondary_proof_hash", args.secondaryProofHash),
    ("silent_fallback", args.silentFallback),
    ("invariant_violations", .list args.invariantViolations),
    ("reason_code", args.reasonCode)]

/-- `ResultPacket.build`. -/
def build (floats : FloatText) (args : BuildArguments) : Except ResultViolation ResultPacket := do
  let identity ← hashArgument floats (dictOf [
    ("catalog_hash", args.catalogHash),
    ("plugin_sha", args.pluginSha),
    ("host_sha", args.hostSha),
    ("sdk_version", args.sdkVersion),
    ("profile_hash", args.profileHash),
    ("runner_version", args.runnerVersion),
    ("inventory_hash", args.inventoryHash)])
  let classification ← classificationOf args.classification
  let trace ← hashArgument floats (.list (args.normalizedEvents.map .dict))
  let raw := args.fields identity trace classification
  let content ← hashArgument floats (dictOf raw)
  fromDict floats (dictOf (raw ++ [("packet_hash", content)]))

end ResultPacket

/-! ## Files -/

/-- The encoder of stored documents. -/
def fileEncoder (floats : FloatText) : JSONEncoder where
  floats
  indent := some 2
  keySeparator := lit ": "

/-- `write_text(json.dumps(value, ..) + "\n", encoding="utf-8")`: the bytes of the file, or
`none` where it raises. -/
def fileBytes (floats : FloatText) (value : Json) : Option Bytes :=
  ((fileEncoder floats).dumps value).bind fun text => encodeUtf8 (text ++ [0x0A])

/-- `dict[key] = value`. -/
def setPair (items : List (PyStr × PyValue)) (pair : PyStr × PyValue) : List (PyStr × PyValue) :=
  if items.any (fun item => item.1 == pair.1) then
    items.map fun item => if item.1 = pair.1 then pair else item
  else items ++ [pair]

/-- `json.JSONDecoder()`: the last of repeated keys counts, and the constants that are not
JSON are floats. -/
def defaultDecoder (floats : FloatText) : JSONDecoder where
  floats
  parseConstant word :=
    some (.float (if word = lit "NaN" then .nan else .infinite (word = lit "-Infinity")))
  objectPairsHook fields :=
    some (.dict ((fields.foldl setPair []).map fun field => (.str field.1, field.2)))

/-- Reading in text mode: every line ending is a line feed. -/
def universalNewlines : PyStr → PyStr
  | [] => []
  | 0x0D :: 0x0A :: rest => 0x0A :: universalNewlines rest
  | c :: rest => (if c = 0x0D then 0x0A else c) :: universalNewlines rest

/-- `json.loads(path.read_text(encoding="utf-8"))` of a file, or `none` where it raises. -/
def readFile (floats : FloatText) (data : Bytes) : Option PyValue :=
  (decodeUtf8 false data).bind fun text => (defaultDecoder floats).loads (universalNewlines text)

/-- The bytes that `write` stores, or `none` where it raises. -/
def ResultPacket.write (floats : FloatText) (packet : ResultPacket) : Option Bytes :=
  fileBytes floats (.dict packet.toEntries)

/-- `read_result_packet` of what the file at a path holds, where it is a regular file. -/
def readResultPacket (floats : FloatText) (path : PyStr) (file : Option Bytes) :
    Except ResultViolation ResultPacket :=
  match file with
  | none => .error (.violation (lit "result packet is not a regular file: " ++ path))
  | some data =>
    if data.length > maxPacketBytes then
      .error (.violation (lit "result packet exceeds the bounded file size"))
    else
      match readFile floats data with
      | some value => ResultPacket.fromDict floats value
      | none => .error .unreadable

end HermesClaude.Parity
