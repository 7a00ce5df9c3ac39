/-
# Attempts in result packets

The validator of result packets reads an attempt next to the three paths that the catalog
declares for its capability: the trace, what each path was observed to do, the resume state
and the billing.
-/

import HermesClaude.Parity.Contract
import HermesClaude.Parity.Executors

namespace HermesClaude.Parity

open HermesClaude.Python HermesClaude.Library

/-- How a validator of packets fails: with `PacketValidationError`, or with another exception. -/
inductive PacketFailure
  | invalid (message : String)
  | escaped
  deriving DecidableEq

namespace Packets

/-- `EXPECTED`. -/
def expectedOutcomes : List String := ["PASS", "EXPECTED_NEGATIVE", "NOT_APPLICABLE"]

/-- `OBSERVED`. -/
def observedStatuses : List String :=
  ["PASS", "EXPECTED_NEGATIVE", "VERIFIED_FAILURE", "ENVIRONMENT_BLOCKED", "PENDING",
    "NOT_APPLICABLE"]

/-- `TERMINAL`. -/
def terminalKinds : List String := ["complete", "cancelled", "failed", "not_applicable"]

/-- `FORBIDDEN`. -/
def forbidden : List PyStr :=
  ["raw", "content", "prompt", "transcript", "session_token", "resume_state", "auth", "credential",
    "secret", "provider_payload", "fixture_content", "exception", "environment", "filesystem_path",
    "path", "customer", "customer_identifier", "customer_data", "tool_args", "tool_results",
    "arguments", "headers", "cookies", "fixture_bytes"].map lit

/-! ## Checks -/

/-- `if not condition: _fail(message)`. -/
def valid (condition : Bool) (message : String) : Except PacketFailure Unit :=
  if condition then .ok () else .error (.invalid message)

/-- The value, or `_fail(message)`. -/
def orFail {α : Type} (value : Option α) (message : String) : Except PacketFailure α :=
  match value with
  | some a => .ok a
  | none => .error (.invalid message)

mutual

/-- `_safe`: whether no key in a value is forbidden. -/
def safe : Json → Bool
  | .dict items => safeItems items
  | .list items => safeList items
  | _ => true

def safeItems : List (PyStr × Json) → Bool
  | [] => true
  | (key, value) :: rest => decide (key ∉ forbidden) && safe value && safeItems rest

def safeList : List Json → Bool
  | [] => true
  | value :: rest => safe value && safeList rest

end

/-- `str(sorted(keys))` of keys that are sorted. -/
def reprKeys (keys : List String) : String :=
  "[" ++ ", ".intercalate (keys.map fun key => "'" ++ key ++ "'") ++ "]"

/-- `_obj`; the keys are given in order. -/
def obj (value : Json) (keys : List String) (label : String) : Except PacketFailure Entries :=
  match value with
  | .dict items =>
    if !hasFields items (keys.map lit) then
      .error (.invalid (label ++ " must have exactly " ++ reprKeys keys))
    else if !safe value then .error (.invalid "packet contains forbidden content")
    else .ok items
  | _ => .error (.invalid (label ++ " must have exactly " ++ reprKeys keys))

/-- `_enum`. -/
def enum (value : Json) (allowed : List String) (label : String) : Except PacketFailure PyStr :=
  orFail (value.str?.filter (· ∈ allowed.map lit)) (label ++ " is outside its closed enum")

/-- `_bool`. -/
def bool (value : Json) (label : String) : Except PacketFailure Bool :=
  match value with
  | .bool b => .ok b
  | _ => .error (.invalid (label ++ " must be boolean"))

/-- `_int`. -/
def int (value : Json) (label : String) (low : Int := 0) (high : Int := 4096) :
    Except PacketFailure Int :=
  match value with
  | .int i =>
    if low ≤ i ∧ i ≤ high then .ok i
    else .error (.invalid (label ++ " is outside its integer bound"))
  | _ => .error (.invalid (label ++ " is outside its integer bound"))

/-- `_sha`. -/
def sha (value : Json) (label : String) : Except PacketFailure PyStr :=
  orFail (value.str?.filter (isHex 64)) (label ++ " must be a lowercase SHA-256 digest")

/-- `_sha(.., nullable=True)`. -/
def sha? (value : Json) (label : String) : Except PacketFailure (Option PyStr) :=
  match value with
  | .null => .ok none
  | value => (sha value label).map some

/-- `_id`. -/
def id (value : Json) (label : String) : Except PacketFailure PyStr :=
  match value with
  | .str text =>
    match utf8Size text with
    | none => .error .escaped
    | some size =>
      if text.isEmpty || size > 128 || text ≠ strip text then
        .error (.invalid (label ++ " is not a bounded identifier"))
      else if !text.all CodePoint.isIdentifier then
        .error (.invalid (label ++ " has an invalid grammar"))
      else .ok text
  | _ => .error (.invalid (label ++ " must be a string"))

/-- `_arr`. -/
def arr (value : Json) (label : String) (maximum : Nat := 4096) : Except PacketFailure (List Json) :=
  match value with
  | .list items =>
    if items.length ≤ maximum then .ok items
    else .error (.invalid (label ++ " must be a bounded array"))
  | _ => .error (.invalid (label ++ " must be a bounded array"))

/-- `_terminal`. -/
def terminal (value : Json) (label : String) : Except PacketFailure (PyStr × Int) := do
  let result ← obj value ["count", "kind"] label
  let kind ← enum (result.field "kind") terminalKinds (label ++ ".kind")
  let count ← int (result.field "count") (label ++ ".count") 0 1
  return (kind, count)

/-- `_trace_codes`. -/
def codes (value : Json) (label : String) : Except PacketFailure (List PyStr) := do
  let items ← arr value label 256
  items.mapM fun code =>
    orFail (code.str?.filter (· ∈ traceCodes)) (label ++ " contains an unknown trace code")

/-! ## Paths -/

/-- `_state`. -/
def state (value : Json) (label : String) : Except PacketFailure PathState := do
  let result ← obj value ["approval", "billing", "boundary_sha256", "lifecycle", "resume",
    "side_effect_count", "tool"] label
  let lifecycle ← enum (result.field "lifecycle") lifecycles (label ++ ".lifecycle")
  let approval ← enum (result.field "approval") approvalStates (label ++ ".approval")
  let tool ← enum (result.field "tool") toolStates (label ++ ".tool")
  let resume ← enum (result.field "resume") resumeStates (label ++ ".resume")
  let billing ← enum (result.field "billing") billingStates (label ++ ".billing")
  let sideEffectCount ← int (result.field "side_effect_count") (label ++ ".side_effect_count")
  let boundary ← sha? (result.field "boundary_sha256") (label ++ ".boundary_sha256")
  return ⟨lifecycle, approval, tool, resume, billing, sideEffectCount, boundary⟩

/-- The loop over the tool calls of a path. -/
def toolCall (label : String) (ordinal : Nat) (value : Json) : Except PacketFailure PathCall := do
  let item ← obj value ["name", "ordinal", "outcome", "request_id", "schema_sha256"]
    (label ++ ".tool_calls[" ++ toString ordinal ++ "]")
  valid (ordinalIs (item.field "ordinal") ordinal) (label ++ " tool ordinal is not contiguous")
  let name ← id (item.field "name") "tool name"
  let schema ← sha (item.field "schema_sha256") "tool schema hash"
  let outcome ← enum (item.field "outcome") callOutcomes "tool outcome"
  let request ← obj (item.field "request_id") ["mode", "sha256"] "request_id"
  let mode ← enum (request.field "mode") ["none", "required"] "request_id.mode"
  let digest ← sha? (request.field "sha256") "request_id.sha256"
  valid (mode != lit "none" || digest.isNone) "request_id mode none has a digest"
  return ⟨name, schema, outcome, mode, digest⟩

/-- The loop over the SDK events of a path. -/
def sdkEvent (label : String) (value : Json) : Except PacketFailure (PyStr × PyStr) := do
  let item ← obj value ["event", "trace_code"] (label ++ ".sdk_event")
  let event ← orFail (item.field "event").str? "SDK event is outside its closed enum"
  let mapped ← orFail (sdkEventCodes.lookup event) "SDK event is outside its closed enum"
  valid ((item.field "trace_code").pyEq (.str mapped)) "SDK event mapping is invalid"
  return (event, mapped)

/-- `_path`. -/
def path (value : Json) (label : String) : Except PacketFailure PathDeclaration := do
  let result ← obj value ["expected_outcome", "required", "sdk_events", "side_effect_count",
    "state_after", "state_before", "terminal", "tool_calls", "trace_codes"] label
  let required ← bool (result.field "required") (label ++ ".required")
  let expected ← enum (result.field "expected_outcome") expectedOutcomes
    (label ++ ".expected_outcome")
  let traceCodes ← codes (result.field "trace_codes") (label ++ ".trace_codes")
  let terminal ← terminal (result.field "terminal") (label ++ ".terminal")
  let calls ← arr (result.field "tool_calls") (label ++ ".tool_calls") 32
  let toolCalls ← (ordinals calls).mapM fun call => toolCall label call.1 call.2
  let sideEffectCount ← int (result.field "side_effect_count") (label ++ ".side_effect_count")
  let events ← arr (result.field "sdk_events") (label ++ ".sdk_events") 32
  let sdkEvents ← events.mapM (sdkEvent label)
  let before ← state (result.field "state_before") (label ++ ".state_before")
  let after ← state (result.field "state_after") (label ++ ".state_after")
  valid (after.sideEffectCount - before.sideEffectCount == sideEffectCount)
    (label ++ " side-effect transition is invalid")
  valid (required || (expected == lit "NOT_APPLICABLE" && traceCodes.isEmpty && toolCalls.isEmpty &&
      sdkEvents.isEmpty && sideEffectCount == 0 && terminal == (lit "not_applicable", 0) &&
      before == emptyState && after == before))
    (label ++ " non-required declaration is not empty")
  valid (!required || expected != lit "NOT_APPLICABLE")
    (label ++ " required path cannot be NOT_APPLICABLE")
  valid (!required || expected != lit "PASS" || terminal == (lit "complete", 1))
    (label ++ " positive declaration is not complete")
  valid (!required || expected != lit "EXPECTED_NEGATIVE" || terminal.1 == lit "failed" ||
      terminal.1 == lit "cancelled")
    (label ++ " denial declaration is not failed/cancelled")
  return ⟨required, expected, traceCodes, terminal.1, terminal.2, toolCalls, sideEffectCount,
    sdkEvents, before, after⟩

/-- A call is the declared one, up to the digest of its request id: where the declaration
requires an id and leaves its digest open, there is one, and elsewhere the ids are equal. -/
def callMatches (actual expected : PathCall) : Bool :=
  let isOpen := expected.requestMode == lit "required" && expected.requestDigest.isNone
  actual.name == expected.name && actual.schema == expected.schema &&
    actual.outcome == expected.outcome &&
    ((actual.requestMode == expected.requestMode && actual.requestDigest == expected.requestDigest &&
        !isOpen) ||
      (isOpen && actual.requestMode == lit "required" && actual.requestDigest.isSome))

/-- `_path_matches`. -/
def pathMatches (actual expected : PathDeclaration) : Bool :=
  actual.toolCalls.length == expected.toolCalls.length &&
    decide ({ actual with toolCalls := [] } = { expected with toolCalls := [] }) &&
    (actual.toolCalls.zip expected.toolCalls).all fun calls => callMatches calls.1 calls.2

/-! ## Statuses -/

/-- `derive_path_qualification`, of an outcome and a status in their enums. -/
def derivePathQualification (expected status : PyStr) : PyStr :=
  if status = lit "ENVIRONMENT_BLOCKED" then lit "BLOCKED"
  else if status = lit "PENDING" then lit "PENDING"
  else if status = lit "NOT_APPLICABLE" then
    if expected = status then lit "NOT_APPLICABLE" else lit "FAIL"
  else if status = expected then status
  else lit "FAIL"

/-- A path status, once it is checked. -/
structure PathStatus where
  status : PyStr
  observed : List PyStr
  terminalKind : PyStr
  terminalCount : Int
  qualification : PyStr
  deriving DecidableEq

/-- The terminal that goes with a status. -/
def statusTerminal (status : PyStr) : PyStr × Int :=
  if status = lit "PASS" then (lit "complete", 1)
  else if status = lit "EXPECTED_NEGATIVE" ∨ status = lit "VERIFIED_FAILURE" then (lit "failed", 1)
  else (lit "not_applicable", 0)

/-- The path was executed, as far as its status says. -/
def isExecuted (status : PyStr) : Bool :=
  status ∈ ["PASS", "EXPECTED_NEGATIVE", "VERIFIED_FAILURE"].map lit

/-- `validate_path_status`. -/
def validatePathStatus (value : Json) (expected : PyStr) (label : String) :
    Except PacketFailure PathStatus := do
  let result ← obj value ["observed_trace_codes", "qualification", "status", "terminal"] label
  let status ← enum (result.field "status") observedStatuses (label ++ ".status")
  let observed ← codes (result.field "observed_trace_codes") (label ++ ".observed_trace_codes")
  let (kind, count) ← terminal (result.field "terminal") (label ++ ".terminal")
  valid (count == (statusTerminal status).2 && (kind == (statusTerminal status).1 ||
      (kind == lit "cancelled" &&
        (status == lit "EXPECTED_NEGATIVE" || status == lit "VERIFIED_FAILURE"))))
    (label ++ ".terminal does not match status")
  valid (isExecuted status || observed.isEmpty) (label ++ " non-executed status has a trace")
  valid (!isExecuted status || observed.filter isTerminalCode == [terminalCode kind])
    (label ++ " must contain its one terminal trace")
  let qualification := derivePathQualification expected status
  valid ((result.field "qualification").pyEq (.str qualification))
    (label ++ ".qualification is not derived")
  return ⟨status, observed, kind, count, qualification⟩

/-! ## Attempts -/

/-- What `_resume` and `_billing` read of an attempt. -/
structure ResumeRecord where
  prior : Option PyStr
  produced : Option PyStr
  deriving DecidableEq

/-- `_resume`. -/
def resume (value : Json) (label : String) : Except PacketFailure ResumeRecord := do
  let result ← obj value ["accepted", "fixture_ref", "present", "prior_state_sha256",
    "produced_state_sha256", "runtime_id", "runtime_schema_version", "state_length",
    "supplied_state_sha256"] label
  let present ← bool (result.field "present") (label ++ ".present")
  valid ((result.field "runtime_id").pyEq (.str (lit "hermes-claude-agent-sdk")) &&
      (result.field "runtime_schema_version").pyEq (.int 1))
    (label ++ " runtime envelope is invalid")
  let stateLength ← int (result.field "state_length") (label ++ ".state_length") 0 512
  let _ ← bool (result.field "accepted") (label ++ ".accepted")
  let prior ← sha? (result.field "prior_state_sha256") (label ++ ".prior_state_sha256")
  let supplied ← sha? (result.field "supplied_state_sha256") (label ++ ".supplied_state_sha256")
  let produced ← sha? (result.field "produced_state_sha256") (label ++ ".produced_state_sha256")
  valid (!present || decide (1 ≤ stateLength ∧ stateLength ≤ 512))
    (label ++ " present state has invalid length")
  match result.field "fixture_ref" with
  | .str ref =>
    if ref = lit "fixture:none" then
      valid (!present && stateLength == 0 && prior.isNone && supplied.isNone && produced.isNone)
        (label ++ " absent state has metadata")
    else if (lit "fixture:").isPrefixOf ref then
      let _ ← id (.str (ref.drop 8)) (label ++ ".fixture_ref")
    else valid false (label ++ ".fixture_ref is invalid")
  | _ => valid false (label ++ ".fixture_ref is invalid")
  return ⟨prior, produced⟩

/-- `_billing`, with whether the billing is safe. -/
def billing (value : Json) : Except PacketFailure Bool := do
  let result ← obj value ["mode", "safe", "status"] "billing"
  let mode ← enum (result.field "mode") ["subscription_included", "api_key", "metered",
    "extra_usage", "glm", "unknown", "not_applicable"] "billing.mode"
  let status ← enum (result.field "status")
    ["included", "blocked", "reported", "unknown", "not_applicable"] "billing.status"
  let isSafe ← bool (result.field "safe") "billing.safe"
  valid (isSafe == (decide (mode ∈ ["subscription_included", "not_applicable"].map lit) &&
      decide (status ∈ ["included", "not_applicable"].map lit)))
    "billing.safe is not derived"
  return isSafe

/-- The loop over the trace of an attempt. -/
def traceEntry (label : String) (seq : Nat) (value : Json) : Except PacketFailure PyStr := do
  let item ← obj value ["actor", "code", "correlation_sha256", "phase", "seq"] (label ++ ".trace")
  valid (ordinalIs (item.field "seq") seq) (label ++ ".trace is invalid")
  let code ← (match item.field "code" with
    | .str code => .ok code
    | .list _ | .dict _ => .error .escaped
    | _ => .error (.invalid (label ++ ".trace is invalid")))
  let (actor, phase) ← orFail (traceRegistry.lookup code) (label ++ ".trace is invalid")
  valid ((item.field "actor").pyEq (.str actor) && (item.field "phase").pyEq (.str phase))
    (label ++ ".trace is invalid")
  let _ ← sha? (item.field "correlation_sha256") "trace.correlation_sha256"
  return code

/-- Whether all statuses are `PASS`, `EXPECTED_NEGATIVE` or `NOT_APPLICABLE`. -/
def allDeclared : List Json → Except PacketFailure Bool
  | [] => .ok true
  | .dict items :: rest =>
    match Entries.field items "status" with
    | .str status => if status ∈ expectedOutcomes.map lit then allDeclared rest else .ok false
    | .list _ | .dict _ => .error .escaped
    | _ => .ok false
  | _ :: _ => .ok false

/-- The boundaries of a path in a trace: its begin and its end stand there once, and the codes
between them are those that were observed. -/
def boundaries (trace : List PyStr) (role : TrialPath) (observed : List PyStr) (label : String) :
    Except PacketFailure Unit := do
  let first := pathCode role "begin"
  let last := pathCode role "end"
  valid (trace.count first == 1 && trace.count last == 1) (label ++ " lacks one contiguous boundary")
  let start := trace.idxOf first
  let stop := trace.idxOf last
  valid (decide (start < stop) && (trace.take stop).drop (start + 1) == observed)
    (label ++ " trace is not contiguous")

/-- The name of a path in labels. -/
def roleName : TrialPath → String
  | .positive => "positive"
  | .denial => "denial"
  | .recovery => "recovery"

/-- The loop over the paths of an attempt. -/
def pathStatus (trace : List PyStr) (paths statuses : Entries) (expectedPaths : Option (TrialPath → Json))
    (label : String) (role : TrialPath) : Except PacketFailure PathStatus := do
  let name := roleName role
  let actual ← path (paths.field name) (label ++ ".paths." ++ name)
  let expected ← (match expectedPaths with
    | some expectedPaths => path (expectedPaths role) (label ++ ".expected." ++ name)
    | none => .ok actual)
  valid (expectedPaths.isNone || pathMatches actual expected)
    (label ++ ".paths." ++ name ++ " differs from catalog")
  let status ← validatePathStatus (statuses.field name) expected.expectedOutcome
    (label ++ ".path_status." ++ name)
  valid (!expected.required || status.status != lit "NOT_APPLICABLE")
    (label ++ ".required path is NOT_APPLICABLE")
  valid (expected.required || status.status == lit "NOT_APPLICABLE")
    (label ++ ".non-required path executed")
  valid (expectedPaths.isNone ||
      !decide (status.status ∈ ["PASS", "EXPECTED_NEGATIVE"].map lit) ||
      status.observed == expected.traceCodes)
    (label ++ ".path_status." ++ name ++ " trace differs from catalog")
  if isExecuted status.status then
    boundaries trace role status.observed (label ++ "." ++ name)
  return status

/-- An attempt, once it is checked. -/
structure Attempt where
  candidate : PyStr
  boundary : PyStr
  freshBoundary : Bool
  trace : List PyStr
  statuses : List PathStatus
  resume : ResumeRecord
  billingSafe : Bool
  deriving DecidableEq

/-- `_attempt`. -/
def attempt (value : Json) (expectedPaths : Option (TrialPath → Json)) (label : String)
    (expectedTrace : Option (List PyStr) := none) : Except PacketFailure Attempt := do
  let result ← obj value ["billing", "boundary_sha256", "candidate_sha256", "execution_ref_sha256",
    "fresh_boundary", "ordinal", "path_status", "paths", "resume", "trace"] label
  let _ ← int (result.field "ordinal") (label ++ ".ordinal") 1
  let freshBoundary ← bool (result.field "fresh_boundary") (label ++ ".fresh_boundary")
  let candidate ← sha (result.field "candidate_sha256") (label ++ ".candidate_sha256")
  let _ ← sha (result.field "execution_ref_sha256") (label ++ ".execution_ref_sha256")
  let boundary ← sha (result.field "boundary_sha256") (label ++ ".boundary_sha256")
  let entries ← arr (result.field "trace") (label ++ ".trace") 256
  let trace ← (ordinals entries).mapM fun entry => traceEntry label entry.1 entry.2
  let paths ← obj (result.field "paths") ["denial", "positive", "recovery"] (label ++ ".paths")
  let statuses ← obj (result.field "path_status") ["denial", "positive", "recovery"]
    (label ++ ".path_status")
  let differs ← (if expectedTrace.all (· == trace) then .ok false
    else allDeclared (trialPaths.map fun role => statuses.field (roleName role)))
  valid (!differs) (label ++ ".trace differs from catalog")
  let checked ← trialPaths.mapM (pathStatus trace paths statuses expectedPaths label)
  let observed := checked.flatMap fun status => status.observed.filter isTerminalCode
  valid (sorted observed == sorted (trace.filter isTerminalCode))
    (label ++ " terminal trace count is not exact")
  let resume ← resume (result.field "resume") (label ++ ".resume")
  let billingSafe ← billing (result.field "billing")
  return ⟨candidate, boundary, freshBoundary, trace, checked, resume, billingSafe⟩

/-- The attempt passes: each path has the outcome that was declared. -/
def Attempt.passes (attempt : Attempt) : Bool :=
  attempt.statuses.all fun status =>
    status.qualification ∈ ["PASS", "EXPECTED_NEGATIVE", "NOT_APPLICABLE"].map lit

end Packets

end HermesClaude.Parity
