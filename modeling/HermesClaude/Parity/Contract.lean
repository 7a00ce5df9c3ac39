/-
# The parity catalog

The validator of catalogs: a catalog declares the source rows, the tool inventory, the ledger
of the SDK, and for each capability three paths with the trace that each of them leaves.
Everything is checked against a closed schema, and every hash is computed again.
-/

import HermesClaude.Parity.Canonical
import HermesClaude.Parity.GatewayEvents
import HermesClaude.Parity.Manifest

namespace HermesClaude.Parity

open HermesClaude.Python HermesClaude.Library

/-- The parts of the standard library that validating catalogs and packets rests on. -/
structure ContractLibrary extends CanonicalLibrary where
  /-- `str.casefold`. -/
  casefold : PyStr → PyStr

/-! ## Registries -/

/-- `TRACE_REGISTRY`: the actor and the phase of every trace code. -/
def traceRegistry : List (PyStr × PyStr × PyStr) :=
  [("registration.accepted", "runner", "preflight"), ("selection.accepted", "runner", "preflight"),
    ("preflight.pass", "plugin", "preflight"), ("preflight.fail", "plugin", "preflight"),
    ("approval.requested", "host", "before_output"), ("approval.granted", "host", "before_output"),
    ("approval.denied", "host", "before_output"),
    ("approval.late_rejected", "host", "before_output"),
    ("tool.requested", "plugin", "side_effects"), ("tool.executed", "plugin", "side_effects"),
    ("tool.denied", "plugin", "side_effects"), ("tool.cancelled", "plugin", "side_effects"),
    ("tool.failed", "plugin", "side_effects"), ("tool.recovered", "plugin", "side_effects"),
    ("host.execute_tool", "host", "side_effects"),
    ("host.execute_tool_failed", "host", "side_effects"), ("state.bound", "plugin", "lifecycle"),
    ("state.invalid", "plugin", "lifecycle"), ("resume.supplied", "plugin", "lifecycle"),
    ("resume.accepted", "plugin", "lifecycle"), ("resume.rejected", "plugin", "lifecycle"),
    ("session.opened", "plugin", "lifecycle"), ("session.restarted", "plugin", "lifecycle"),
    ("session.isolated", "plugin", "lifecycle"), ("compaction.started", "plugin", "lifecycle"),
    ("compaction.completed", "plugin", "lifecycle"), ("compaction.failed", "plugin", "lifecycle"),
    ("compaction.watchdog", "plugin", "lifecycle"), ("usage.included", "plugin", "lifecycle"),
    ("usage.blocked", "plugin", "lifecycle"), ("usage.unknown", "plugin", "lifecycle"),
    ("sdk.precompact", "sdk", "lifecycle"), ("sdk.compact_boundary", "sdk", "lifecycle"),
    ("sdk.result", "sdk", "lifecycle"), ("sdk.tool_use", "sdk", "side_effects"),
    ("sdk.tool_result", "sdk", "side_effects"), ("sdk.resume", "sdk", "lifecycle"),
    ("sdk.query", "sdk", "lifecycle"), ("path.positive.begin", "runner", "lifecycle"),
    ("path.positive.end", "runner", "lifecycle"), ("path.denial.begin", "runner", "lifecycle"),
    ("path.denial.end", "runner", "lifecycle"), ("path.recovery.begin", "runner", "lifecycle"),
    ("path.recovery.end", "runner", "lifecycle"), ("terminal.complete", "plugin", "terminal"),
    ("terminal.cancelled", "plugin", "terminal"), ("terminal.failed", "plugin", "terminal"),
    ("recovery.started", "host", "side_effects"), ("recovery.completed", "host", "side_effects"),
    ("recovery.failed", "host", "side_effects"), ("inventory.exact", "runner", "preflight"),
    ("inventory.drift", "runner", "preflight"), ("package.imported", "runner", "lifecycle"),
    ("package.uninstalled", "runner", "lifecycle"), ("package.reinstalled", "runner", "lifecycle"),
    ("ledger.covered", "runner", "lifecycle"), ("ledger.equivalent", "runner", "lifecycle"),
    ("ledger.upgrade_required", "runner", "lifecycle"),
    ("ledger.not_applicable", "runner", "lifecycle")].map
    fun (code, actor, phase) => (lit code, lit actor, lit phase)

/-- The trace codes. -/
def traceCodes : List PyStr := traceRegistry.map Prod.fst

/-- `SDK_EVENT_CODES`. -/
def sdkEventCodes : List (PyStr × PyStr) :=
  [("ClaudeSDKClient.query", "sdk.query"), ("PreCompact", "sdk.precompact"),
    ("SystemMessage.compact_boundary", "sdk.compact_boundary"), ("ResultMessage", "sdk.result"),
    ("ToolUseBlock", "sdk.tool_use"), ("ToolResultBlock", "sdk.tool_result"),
    ("ClaudeSDKClient.resume", "sdk.resume"), ("HostToolBridge.handler", "host.execute_tool")].map
    fun (event, code) => (lit event, lit code)

/-- `EXPECTED_PACK_COUNTS`. -/
def expectedPackCounts : List (PyStr × Nat) :=
  [(lit "v2_non_soak", 53), (lit "openclaw_active", 12), (lit "sdk_boundary", 23),
    (lit "clawprobench_native", 36)]

/-- `_LANE_BY_PACK`. -/
def laneByPack : List (PyStr × PyStr) :=
  [(lit "v2_non_soak", lit "catalog"), (lit "openclaw_active", lit "openclaw"),
    (lit "sdk_boundary", lit "sdk_boundary"), (lit "clawprobench_native", lit "clawprobench_native")]

/-- `_FORBIDDEN_MARKERS`. -/
def forbiddenMarkers : List String :=
  ["prompt", "transcript", "cookie", "authorization", "private_key"]

/-! ## Patterns -/

/-- An ASCII letter. -/
def isLetter (c : CodePoint) : Bool :=
  (0x41 ≤ c.val && c.val ≤ 0x5A) || (0x61 ≤ c.val && c.val ≤ 0x7A)

/-- An ASCII letter or digit. -/
def isLetterOrDigit (c : CodePoint) : Bool := isLetter c || (0x30 ≤ c.val && c.val ≤ 0x39)

/-- A first character, then up to `most` further ones. -/
def matchesTail (first next : CodePoint → Bool) (most : Nat) : PyStr → Bool
  | [] => false
  | c :: rest => first c && rest.length ≤ most && rest.all next

/-- One of the tags, then a letter or a digit, then up to `most` further characters. -/
def matchesTagged (tags : List String) (next : CodePoint → Bool) (most : Nat) (text : PyStr) : Bool :=
  tags.any fun tag => (lit tag).isPrefixOf text &&
    matchesTail isLetterOrDigit next most (text.drop (lit tag).length)

/-- A character of a reference. -/
def isReferenceCharacter (c : CodePoint) : Bool :=
  c.isIdentifier || c == 0x23 || c == 0x40 || c == 0x2F

/-- `_SAFE`. -/
def safePattern (text : PyStr) : Bool :=
  1 ≤ text.length && text.length ≤ 128 && text.all CodePoint.isIdentifier

/-- `_CAP`. -/
def capPattern : PyStr → Bool := matchesTagged ["CAP-"] CodePoint.isIdentifier 63

/-- `_SCENARIO`. -/
def scenarioPattern : PyStr → Bool := matchesTagged ["SCN-"] CodePoint.isIdentifier 63

/-- `_PARTITION`. -/
def partitionPattern : PyStr → Bool := matchesTagged ["PART-"] CodePoint.isIdentifier 63

/-- `_ROW`. -/
def rowPattern : PyStr → Bool := matchesTail isLetter CodePoint.isIdentifier 79

/-- `_REF`. -/
def refPattern : PyStr → Bool :=
  matchesTagged ["src:", "test:", "doc:", "evidence:", "ledger:"] isReferenceCharacter 190

/-- `_SRC_REF`. -/
def srcRefPattern : PyStr → Bool := matchesTagged ["src:"] isReferenceCharacter 190

/-- `_EVIDENCE_REF`. -/
def evidenceRefPattern : PyStr → Bool :=
  matchesTagged ["evidence:"] (fun c => isReferenceCharacter c && c != 0x2F) 190

/-! ## Checks -/

/-- How a validator of the contract fails: with `CatalogValidationError("invalid {field}")`, or
with another exception. -/
inductive ContractFailure
  | invalid (field : String)
  | escaped
  deriving DecidableEq

namespace Contract

/-- `if not condition: _bad(field)`. -/
def valid (condition : Bool) (field : String) : Except ContractFailure Unit :=
  if condition then .ok () else .error (.invalid field)

/-- The value, or `_bad(field)`. -/
def orBad {α : Type} (value : Option α) (field : String) : Except ContractFailure α :=
  match value with
  | some a => .ok a
  | none => .error (.invalid field)

/-- `_obj`. -/
def obj (value : Json) (keys : List String) (field : String) : Except ContractFailure Entries :=
  match value with
  | .dict items => if hasFields items (keys.map lit) then .ok items else .error (.invalid field)
  | _ => .error (.invalid field)

/-- `_list`. -/
def list (value : Json) (field : String) (maximum : Nat := 256) : Except ContractFailure (List Json) :=
  match value with
  | .list items => if items.length ≤ maximum then .ok items else .error (.invalid field)
  | _ => .error (.invalid field)

/-- `_bool`. -/
def bool (value : Json) (field : String) : Except ContractFailure Bool :=
  match value with
  | .bool b => .ok b
  | _ => .error (.invalid field)

/-- `_int`. -/
def int (value : Json) (field : String) (low : Int := 0) (high : Int := 4096) :
    Except ContractFailure Int :=
  match value with
  | .int i => if low ≤ i ∧ i ≤ high then .ok i else .error (.invalid field)
  | _ => .error (.invalid field)

/-- `_text`. -/
def text (casefold : PyStr → PyStr) (value : Json) (field : String) (maximum : Nat := 4096) :
    Except ContractFailure PyStr :=
  match value with
  | .str text =>
    if text = [] then .error (.invalid field)
    else
      match utf8Size text with
      | none => .error .escaped
      | some size =>
        if size > maximum || text.any CodePoint.isAsciiControl || contains text "\\" ||
            (lit "/").isPrefixOf text || contains text ":/" || contains text ".." ||
            contains text "//" || forbiddenMarkers.any (contains (casefold text)) then
          .error (.invalid field)
        else .ok text
  | _ => .error (.invalid field)

/-- `_match`. -/
def matching (casefold : PyStr → PyStr) (value : Json) (pattern : PyStr → Bool) (field : String)
    (maximum : Nat := 256) : Except ContractFailure PyStr := do
  let text ← text casefold value field maximum
  valid (pattern text) field
  return text

/-- `_sha1`. -/
def sha1 (value : Json) (field : String) : Except ContractFailure PyStr :=
  orBad (value.str?.filter (isHex 40)) field

/-- `_sha256`. -/
def sha256 (value : Json) (field : String) : Except ContractFailure PyStr :=
  orBad (value.str?.filter (isHex 64)) field

/-- `_sha256(.., nullable=True)`. -/
def sha256? (value : Json) (field : String) : Except ContractFailure (Option PyStr) :=
  match value with
  | .null => .ok none
  | value => (sha256 value field).map some

/-- `_enum`. -/
def enum (value : Json) (allowed : List String) (field : String) : Except ContractFailure PyStr :=
  orBad (value.str?.filter (· ∈ allowed.map lit)) field

end Contract

/-- The ordinal of an item is its place. -/
def ordinalIs (value : Json) (ordinal : Nat) : Bool := value.pyEq (.int ordinal)

/-- `isinstance(value, bool)`. -/
def isBool : Json → Bool
  | .bool _ => true
  | _ => false

/-- `value is None`. -/
def isNull : Json → Bool
  | .null => true
  | _ => false

/-! ## Paths -/

/-- A state of a path. -/
structure PathState where
  lifecycle : PyStr
  approval : PyStr
  tool : PyStr
  resume : PyStr
  billing : PyStr
  sideEffectCount : Int
  boundary : Option PyStr
  deriving DecidableEq

/-- `_EMPTY_STATE`. -/
def emptyState : PathState :=
  ⟨lit "fresh", lit "not_required", lit "none", lit "absent", lit "not_applicable", 0, none⟩

/-- A tool call of a path. -/
structure PathCall where
  name : PyStr
  schema : PyStr
  outcome : PyStr
  requestMode : PyStr
  requestDigest : Option PyStr
  deriving DecidableEq

/-- A path, once it is checked. -/
structure PathDeclaration where
  required : Bool
  expectedOutcome : PyStr
  traceCodes : List PyStr
  terminalKind : PyStr
  terminalCount : Int
  toolCalls : List PathCall
  sideEffectCount : Int
  /-- The events, with their trace codes. -/
  sdkEvents : List (PyStr × PyStr)
  stateBefore : PathState
  stateAfter : PathState
  deriving DecidableEq

/-- `_PATH_KEYS`. -/
def pathKeys : List String :=
  ["required", "expected_outcome", "trace_codes", "terminal", "tool_calls", "side_effect_count",
    "sdk_events", "state_before", "state_after"]

/-- `_STATE_KEYS`. -/
def stateKeys : List String :=
  ["lifecycle", "approval", "tool", "resume", "billing", "side_effect_count", "boundary_sha256"]

/-- The lifecycles, approvals, tools, resumes and billings of `_STATE_ENUMS`. -/
def lifecycles : List String :=
  ["fresh", "bound", "running", "completed", "failed", "cancelled", "closed"]
def approvalStates : List String := ["not_required", "pending", "granted", "denied", "late_rejected"]
def toolStates : List String :=
  ["none", "requested", "executed", "denied", "cancelled", "failed", "recovered"]
def resumeStates : List String := ["absent", "supplied", "accepted", "rejected"]
def billingStates : List String := ["included", "blocked", "unknown", "not_applicable"]

/-- The outcomes of a tool call. -/
def callOutcomes : List String :=
  ["requested", "executed", "denied", "cancelled", "failed", "recovered"]

/-- The trace code of the given end of a path. -/
def pathCode (role : TrialPath) (ending : String) : PyStr :=
  lit "path." ++ role.value ++ lit "." ++ lit ending

/-- The trace code of a terminal. -/
def terminalCode (kind : PyStr) : PyStr := lit "terminal." ++ kind

/-- `code.startswith("terminal.")`. -/
def isTerminalCode (code : PyStr) : Bool := (lit "terminal.").isPrefixOf code

/-- Number the items of a list from 1 on. -/
def ordinals {α : Type} (items : List α) : List (Nat × α) := (List.range' 1 items.length).zip items

/-- The name of a path's key in a capability. -/
def TrialPath.key : TrialPath → String
  | .positive => "positive_path"
  | .denial => "denial_path"
  | .recovery => "recovery_path"

namespace Contract

/-- `_state`. -/
def state (value : Json) (field : String) : Except ContractFailure PathState := do
  let result ← obj value stateKeys field
  let lifecycle ← enum (result.field "lifecycle") lifecycles field
  let approval ← enum (result.field "approval") approvalStates field
  let tool ← enum (result.field "tool") toolStates field
  let resume ← enum (result.field "resume") resumeStates field
  let billing ← enum (result.field "billing") billingStates field
  let sideEffectCount ← int (result.field "side_effect_count") field
  let boundary ← sha256? (result.field "boundary_sha256") field
  return ⟨lifecycle, approval, tool, resume, billing, sideEffectCount, boundary⟩

section Library

variable (library : ContractLibrary)

/-- `_tool_call`. -/
def toolCall (field : String) (ordinal : Nat) (value : Json) : Except ContractFailure PathCall := do
  let result ← obj value ["ordinal", "name", "schema_sha256", "outcome", "request_id"] field
  valid (ordinalIs (result.field "ordinal") ordinal && !isBool (result.field "ordinal")) field
  let name ← matching library.casefold (result.field "name") safePattern field
  let schema ← sha256 (result.field "schema_sha256") field
  let outcome ← enum (result.field "outcome") callOutcomes field
  let request ← obj (result.field "request_id") ["mode", "sha256"] field
  let mode ← enum (request.field "mode") ["none", "required"] field
  valid (isNull (request.field "sha256")) field
  return ⟨name, schema, outcome, mode, none⟩

/-- The loop over the SDK events of a path. -/
def sdkEvent (field : String) (value : Json) : Except ContractFailure (PyStr × PyStr) := do
  let item ← obj value ["event", "trace_code"] field
  let event ← orBad (item.field "event").str? field
  let mapped ← orBad (sdkEventCodes.lookup event) field
  valid ((item.field "trace_code").pyEq (.str mapped)) field
  return (event, mapped)

/-- What a required path must declare. -/
def requiredChecks (role : TrialPath) (path : PathDeclaration) : Bool :=
  path.traceCodes.head? == some (pathCode role "begin") &&
    path.traceCodes.getLast? == some (pathCode role "end") &&
    path.traceCodes.countP isTerminalCode == 1 &&
    decide (terminalCode path.terminalKind ∈ path.traceCodes) &&
    (if role = .denial then
      path.expectedOutcome == lit "EXPECTED_NEGATIVE" &&
        (path.terminalKind == lit "failed" || path.terminalKind == lit "cancelled")
    else path.expectedOutcome == lit "PASS" && path.terminalKind == lit "complete") &&
    path.terminalCount == 1

/-- What a path that is not required must leave empty. -/
def emptyChecks (path : PathDeclaration) : Bool :=
  path.expectedOutcome == lit "NOT_APPLICABLE" && path.traceCodes.isEmpty &&
    path.toolCalls.isEmpty && path.sideEffectCount == 0 && path.sdkEvents.isEmpty &&
    path.terminalKind == lit "not_applicable" && path.terminalCount == 0 &&
    path.stateBefore == emptyState && path.stateAfter == emptyState

/-- `_path`. -/
def path (role : TrialPath) (field : String) (value : Json) :
    Except ContractFailure PathDeclaration := do
  let result ← obj value pathKeys field
  let required ← bool (result.field "required") field
  let expectedOutcome ← enum (result.field "expected_outcome")
    ["PASS", "EXPECTED_NEGATIVE", "NOT_APPLICABLE"] field
  let traces ← list (result.field "trace_codes") field
  let traceCodes ← traces.mapM fun code => orBad (code.str?.filter (· ∈ traceCodes)) field
  let terminal ← obj (result.field "terminal") ["kind", "count"] field
  let terminalKind ← enum (terminal.field "kind")
    ["complete", "cancelled", "failed", "not_applicable"] field
  let terminalCount ← int (terminal.field "count") field 0 1
  let calls ← list (result.field "tool_calls") field 32
  let toolCalls ← (ordinals calls).mapM fun call => toolCall library field call.1 call.2
  let sideEffectCount ← int (result.field "side_effect_count") field
  let events ← list (result.field "sdk_events") field 32
  let sdkEvents ← events.mapM (sdkEvent field)
  let stateBefore ← state (result.field "state_before") field
  let stateAfter ← state (result.field "state_after") field
  valid (stateAfter.sideEffectCount - stateBefore.sideEffectCount == sideEffectCount) field
  let declaration : PathDeclaration := ⟨required, expectedOutcome, traceCodes, terminalKind,
    terminalCount, toolCalls, sideEffectCount, sdkEvents, stateBefore, stateAfter⟩
  valid (if required then requiredChecks role declaration else emptyChecks declaration) field
  return declaration

end Library

end Contract

end HermesClaude.Parity
