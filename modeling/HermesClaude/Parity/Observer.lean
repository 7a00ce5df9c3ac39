/-
# The observer behind a gateway

The observer sees the event frames that the gateway selects, and the calls that are made
through it.  It remembers approvals, tool calls, delegated tasks and terminals, and is closed
by the first violation.

What it remembers is what the frames say: whether an approval is pending, whether a denial is
in force, which tool calls are unfinished are all laws of the form *since* over the
history of what was observed.
-/

import HermesClaude.Library.System
import HermesClaude.Library.History
import HermesClaude.Library.Entries
import HermesClaude.Parity.GatewayEvents

namespace HermesClaude.Parity

open HermesClaude.Python HermesClaude.Library

/-! ## Reading frames -/

/-- `_APPROVAL`. -/
def approvalKinds : List PyStr := ["approval.request", "approval.requested"].map lit

/-- `_START`. -/
def startKinds : List PyStr := ["tool.start", "tool.started"].map lit

/-- `_COMPLETE`. -/
def completeKinds : List PyStr := ["tool.complete", "tool.completed", "tool.result"].map lit

/-- `_POST_TERMINAL_CONTROL`. -/
def postTerminalControl : List PyStr := [lit "sessions.changed"]

/-- The first of the values that is not `None`. -/
def firstFound (values : List PyValue) : PyValue :=
  (values.find? fun value => !value.isNone).getD .none

/-- `_find`, with the number of levels it still looks into. -/
def findIn (keys : List String) : Nat → PyValue → PyValue
  | 0, _ => .none
  | levels + 1, .dict items =>
    match keys.findSome? fun key => PyValue.lookupKey items (lit key) with
    | some value => value
    | none => firstFound (items.map fun item => findIn keys levels item.2)
  | levels + 1, .list items => firstFound ((items.take 32).map (findIn keys levels))
  | levels + 1, .tuple items => firstFound ((items.take 32).map (findIn keys levels))
  | _ + 1, _ => .none

/-- `_find`. -/
def find (keys : List String) (value : PyValue) : PyValue := findIn keys 5 value

/-- `_id`. -/
def identity (value : PyValue) (field : String) : Except ObserverFailure PyStr :=
  match value with
  | .str text =>
    if text = [] then fail (field ++ " is not bounded")
    else
      match encodeUtf8 text with
      | none => .error .escaped
      | some raw =>
        if raw.length > 256 || text.any CodePoint.isAsciiControl then
          fail (field ++ " is not bounded")
        else .ok text
  | _ => fail (field ++ " is not bounded")

/-- The bytes of an ASCII literal of the source. -/
def asciiBytes (text : String) : Bytes := text.toList.map fun c => UInt8.ofNat c.toNat

/-- `identity_hash`. -/
def identityHash (kind : String) (value : PyStr) : Except ObserverFailure PyStr := do
  ensure (matchesSafe (lit kind)) "identity kind is not bounded"
  let text ← identity (.str value) kind
  match encodeUtf8 text with
  | none => .error .escaped
  | some raw =>
    .ok (hexdigest (asciiBytes "hermes-claude-agent-sdk:v4:gateway-observer" ++ [0] ++
      asciiBytes kind ++ [0] ++ raw))

/-- `identity_hash(kind, _id(value, field))`. -/
def hashedIdentity (kind field : String) (value : PyValue) : Except ObserverFailure PyStr := do
  let text ← identity value field
  identityHash kind text

/-- An item of `_events`. -/
structure ObservedEvent where
  kind : PyStr
  byteLength : Nat
  sha256 : PyStr
  terminalStatus : Option PyStr
  deriving DecidableEq

/-! ## Approvals -/

/-- The class of an answer to an approval request. -/
inductive Decision
  | allow
  | deny
  deriving DecidableEq

/-- What the observer remembers of approvals. -/
structure Approvals where
  pendingHash : Option PyStr := none
  /-- The kind, size and digest of each request, and the hash of its id. -/
  requests : List (PyStr × Nat × PyStr × PyStr) := []
  responses : List Decision := []
  denied : Bool := false
  denialFree : Bool := false
  recovery : Bool := false
  denialGuard : Bool := false
  deriving DecidableEq

/-- `_event` on an approval request. -/
def Approvals.request (a : Approvals) (item : ObservedEvent) (value : PyValue) :
    Except ObserverFailure Approvals := do
  ensure a.pendingHash.isNone "approval request arrived before its response"
  let requestHash ← hashedIdentity "approval_id" "approval request"
    (find ["request_id", "approval_id", "id"] value)
  return { a with
    requests := a.requests ++ [(item.kind, item.byteLength, item.sha256, requestHash)]
    pendingHash := some requestHash }

/-- The value under `resolved` in a response, or in its result. -/
def resolvedValue (value : PyValue) : PyValue :=
  match value with
  | .dict items =>
    match getItem items "result" with
    | .dict result => getItem result "resolved"
    | _ => getItem items "resolved"
  | other => other

/-- `_response`. -/
def Approvals.response (a : Approvals) (decision : Decision) (value : PyValue) :
    Except ObserverFailure Approvals :=
  match resolvedValue value with
  | .int 1 =>
    let a := { a with responses := a.responses ++ [decision], pendingHash := none }
    match decision with
    | .deny => .ok { a with denied := true, denialFree := true, denialGuard := true }
    | .allow => .ok (if a.denied then { a with recovery := true, denialGuard := false } else a)
  | _ => fail "approval response did not resolve"

/-! ## Tool calls -/

/-- What the observer remembers of tool calls. -/
structure ToolCalls where
  starts : List PyStr := []
  completes : List PyStr := []
  /-- The names of the unfinished calls, by the hashes of their ids. -/
  active : List (PyStr × PyStr) := []
  deriving DecidableEq

/-- The tool name that a frame carries. -/
def toolName (value : PyValue) : Except ObserverFailure PyStr :=
  identity (find ["name", "tool_name", "tool"] value) "tool name"

/-- The hash of the id of the tool call that a frame is about. -/
def callHash (value : PyValue) : Except ObserverFailure PyStr :=
  hashedIdentity "tool_call_id" "tool call" (find ["tool_id", "tool_call_id", "call_id"] value)

/-- `_event` on a tool event; `permitted` is whether no approval is pending and no denial in
force, `starting` whether the event starts a call. -/
def ToolCalls.event (allowed : List PyStr) (t : ToolCalls) (permitted starting : Bool)
    (value : PyValue) : Except ObserverFailure ToolCalls := do
  ensure permitted "approval did not permit a tool event"
  let name ← toolName value
  ensure (decide (name ∈ allowed)) "tool name is outside the permitted inventory"
  let hash ← callHash value
  if starting then
    ensure (t.active.lookup hash).isNone "tool call id was started twice"
    return { t with active := (hash, name) :: t.active, starts := t.starts ++ [name] }
  else
    ensure (decide (t.active.lookup hash = some name)) "tool completion has no matching start"
    return { t with
      active := dropEntry hash t.active
      completes := t.completes ++ [name] }

/-! ## Delegated tasks -/

/-- The phases of a delegated task. -/
inductive TaskPhase
  | spawnRequested
  | start
  | complete
  deriving DecidableEq

/-- The phase that a kind names. -/
def phaseOf (lowered : PyStr) : Option TaskPhase :=
  if contains lowered "spawn" && contains lowered "request" then some .spawnRequested
  else if endsWithAny lowered [".start", ".started"] then some .start
  else if endsWithAny lowered [".complete", ".completed", ".result", ".done"] then some .complete
  else none

/-- The hashes of the identities of a delegated task. -/
structure TaskIdentities where
  parent : Option PyStr
  child : Option PyStr
  delegation : Option PyStr
  deriving DecidableEq

/-- An item of `_children`. -/
structure TaskEvent where
  index : Int
  count : Int
  phase : TaskPhase
  identities : TaskIdentities
  deriving DecidableEq

/-- What the observer remembers of delegated tasks. -/
structure Tasks where
  children : List TaskEvent := []
  parentHash : Option PyStr := none
  phases : List (Int × TaskPhase) := []
  /-- `_child_complete`. -/
  completed : List Int := []
  count : Option Int := none
  deriving DecidableEq

/-- The hash of the identity that a frame carries under some of the aliases of `source`. -/
def aliasedIdentity (source : String) (aliases : List String) (value : PyValue) :
    Except ObserverFailure (Option PyStr) := do
  let hashes ← (aliases.filter fun key => !(find [key] value).isNone).mapM fun key =>
    hashedIdentity source source (find [key] value)
  ensure (decide (hashes.dedup.length ≤ 1)) "subagent identities disagree"
  return hashes.head?

/-- The identities of the task that a frame is about. -/
def taskIdentities (value : PyValue) : Except ObserverFailure TaskIdentities := do
  let parent ← aliasedIdentity "parent_id" ["parent_id", "parent_session_id", "parent"] value
  let child ← aliasedIdentity "child_id" ["child_id", "child_session_id", "child"] value
  let delegation ← aliasedIdentity "delegation_id" ["delegation_id", "delegation"] value
  return ⟨parent, child, delegation⟩

/-- The index, the count and the phase of the task that a frame is about. -/
def taskOrdinals (lowered : PyStr) (value : PyValue) : Option (Int × Int × TaskPhase) :=
  match find ["task_index"] value, find ["task_count"] value, phaseOf lowered with
  | .int index, .int count, some phase => some (index, count, phase)
  | _, _, _ => none

/-- The phase comes next for a task whose previous phase is given, or the task is the next one
to begin. -/
def Tasks.ordered (t : Tasks) (index : Int) (phase : TaskPhase) : Bool :=
  match t.phases.lookup index, phase with
  | none, .spawnRequested => index == t.phases.length
  | none, .start => index == t.phases.length
  | some .spawnRequested, .start => true
  | some .start, .complete => true
  | _, _ => false

/-- Two hashes of an identity agree where both are there. -/
def agrees (hash hash' : Option PyStr) : Bool := hash.isNone || hash'.isNone || hash == hash'

/-- The identities agree wherever both are there. -/
def TaskIdentities.agrees (x y : TaskIdentities) : Bool :=
  Parity.agrees x.parent y.parent && Parity.agrees x.child y.child &&
    Parity.agrees x.delegation y.delegation

/-- `_event` on an event of a delegated task. -/
def Tasks.event (t : Tasks) (lowered : PyStr) (value : PyValue) : Except ObserverFailure Tasks := do
  let (index, count, phase) ← orFail (taskOrdinals lowered value)
    "subagent task ordinals are not contiguous"
  ensure (decide (1 ≤ count ∧ 0 ≤ index ∧ index < count) && t.ordered index phase &&
    (t.count.isNone || t.count == some count)) "subagent task ordinals are not contiguous"
  let identities ← taskIdentities value
  ensure (t.children.all fun old => old.index != index || identities.agrees old.identities)
    "subagent identity changed during lifecycle"
  ensure (agrees identities.parent t.parentHash) "subagent parent identity changed"
  return {
    children := t.children ++ [⟨index, count, phase, identities⟩]
    parentHash := identities.parent.or t.parentHash
    phases := setEntry index phase t.phases
    completed := if phase = .complete then t.completed.insert index else t.completed
    count := some count }

/-- All delegated work is complete, and linked to one parent where there are several tasks. -/
def Tasks.complete (t : Tasks) : Bool :=
  t.count.all fun count =>
    (t.completed.length : Int) == count &&
      (count ≤ 1 || (((t.children.filter fun child => child.identities.parent = t.parentHash).map
        TaskEvent.index).dedup.length : Int) == count)

/-! ## The observer -/

/-- What an observer is built with. -/
structure ObserverConfig where
  library : GatewayLibrary
  /-- `_allowed`. -/
  allowed : List PyStr
  sessionHash : Option PyStr := none
  maxEvents : Nat := 10000
  expectedTerminalCount : Nat := 1
  expectedTaskCount : Option Int := none
  bounded : 1 ≤ maxEvents ∧ maxEvents ≤ 10000 := by decide
  phased : expectedTerminalCount = 1 ∨ expectedTerminalCount = 2 := by decide

theorem maxEvents_bounded : 1 ≤ 10000 ∧ 10000 ≤ 10000 := by decide

theorem terminalCount_phased : 1 = 1 ∨ 1 = 2 := .inl rfl

/-- Something that an observer took note of. -/
inductive Happening
  | /-- An event frame was recorded. -/
    event (frame : PyValue)
  | /-- An event frame after the final terminal was passed over. -/
    control (frame : PyValue)
  | /-- An approval request was answered. -/
    answer (decision : Decision)

/-- `V4GatewayObserver`. -/
structure ObserverState where
  sessionHash : Option PyStr
  events : List ObservedEvent := []
  approvals : Approvals := {}
  tools : ToolCalls := {}
  tasks : Tasks := {}
  terminalCount : Nat := 0
  terminal : Option PyStr := none
  failed : Bool := false
  /-- What was taken note of so far, in order. -/
  history : List Happening := []

/-- A call or a frame that comes to an observer. -/
inductive ObserverLabel
  | /-- The gateway passes a frame on, in `next_event` or `wait_event`. -/
    frame (value : PyValue)
  | /-- `wait_event` is given a session id. -/
    waitSession (sessionId : PyValue)
  | /-- `call`; `answer` is what the gateway passes on, where the call gets that far. -/
    call (method : PyStr) (params : Frame) (answer : Option PyValue)

/-- The choices that an approval can be answered with. -/
def decisionMap : List (PyStr × Decision) :=
  [(lit "allow", .allow), (lit "approve", .allow), (lit "yes", .allow), (lit "deny", .deny),
    (lit "reject", .deny), (lit "no", .deny), (lit "cancel", .deny)]

namespace ObserverState

section Steps

variable (config : ObserverConfig)

/-- `_session`. -/
def session (s : ObserverState) (value : PyValue) : Except ObserverFailure ObserverState :=
  let found := match value with
    | .str text => .str text
    | other => find ["session_id"] other
  if found.isNone then .ok s
  else do
    let digest ← hashedIdentity "session_id" "session_id" found
    ensure (s.sessionHash.isNone || s.sessionHash == some digest) "session identity does not match"
    return { s with sessionHash := some digest }

/-- `_event` on a terminal. -/
def terminate (s : ObserverState) (terminal : PyStr) : Except ObserverFailure ObserverState := do
  ensure (s.approvals.pendingHash.isNone && s.tools.active.isEmpty)
    "terminal event has incomplete observed evidence"
  let s := { s with terminalCount := s.terminalCount + 1 }
  ensure (decide (s.terminalCount ≤ config.expectedTerminalCount))
    "terminal event count exceeds the admitted lifecycle"
  ensure (config.expectedTerminalCount != 2 ||
    (terminal == lit "completed" && s.tasks.count == config.expectedTaskCount))
    "two-phase terminal is not bound to its delegated work"
  if config.expectedTerminalCount = 2 ∧ s.terminalCount = 1 then return s
  ensure s.tasks.complete "terminal event has incomplete observed evidence"
  return { s with terminal := some terminal }

/-- `_event` past its checks on the final terminal and the session.  Nothing but a violation can
be raised here: every text in a frame whose digest was computed has an encoding. -/
def record (s : ObserverState) (value : PyValue) (p : Parts) :
    Except ObserverFailure ObserverState := do
  ensure (decide (s.events.length < config.maxEvents)) "event sequence exceeds the bounded count"
  let lowered := config.library.casefold p.kind
  let item : ObservedEvent := ⟨p.kind, p.size, p.digest, p.terminal⟩
  let approvals ← (if lowered ∈ approvalKinds then s.approvals.request item value
    else .ok s.approvals)
  let tools ← (if lowered ∈ startKinds ∨ lowered ∈ completeKinds then
      s.tools.event config.allowed (approvals.pendingHash.isNone && !approvals.denialGuard)
        (decide (lowered ∈ startKinds)) value
    else .ok s.tools)
  let tasks ← (if lowered ∈ childKinds then s.tasks.event lowered value else .ok s.tasks)
  let s := { s with
    events := s.events ++ [item]
    approvals, tools, tasks
    history := s.history ++ [.event value] }
  match p.terminal with
  | none => return s
  | some terminal => s.terminate config terminal

/-- `_event`. -/
def event (s : ObserverState) (value : PyValue) : Except ObserverFailure ObserverState := do
  let p ← parts config.library value
  if s.terminal.isSome then
    ensure (decide (config.library.casefold p.kind ∈ postTerminalControl))
      "event arrived after terminal"
    return { s with history := s.history ++ [.control value] }
  else
    let sessionId := getItem p.params "session_id"
    let s ← (if sessionId.isNone || sessionId.isText [] then .ok s else s.session sessionId)
    s.record config value p

/-- The part of `_call_check` that binds the session. -/
def callSession (s : ObserverState) (params : Frame) : Except ObserverFailure ObserverState :=
  let sessionId := getItem params "session_id"
  if sessionId.isNone then .ok s
  else do
    let digest ← hashedIdentity "session_id" "session_id" sessionId
    ensure (s.sessionHash.isNone || s.sessionHash == some digest)
      "call session identity does not match"
    return { s with sessionHash := some digest }

/-- The part of `_call_check` that reads the decision. -/
def decision (s : ObserverState) (method : PyStr) (params : Frame) :
    Except ObserverFailure (Option Decision) :=
  if method ≠ lit "approval.respond" then .ok none
  else do
    let pendingHash ← orFail s.approvals.pendingHash "approval response has no pending request"
    let requestId := (PyValue.lookupKey params (lit "request_id")).getD (getItem params "approval_id")
    let requestHash ← hashedIdentity "approval_id" "approval request" requestId
    ensure (requestHash == pendingHash) "approval response does not match the pending request"
    let choice := (PyValue.lookupKey params (lit "choice")).getD
      ((PyValue.lookupKey params (lit "decision")).getD (.str (lit "other")))
    let text ← orFail (asText choice) "approval choice is invalid"
    ensure (decide (text.length ≤ 64)) "approval choice is invalid"
    let decision ← orFail (decisionMap.lookup (config.library.casefold text))
      "approval choice is unsupported"
    return some decision

/-- A failure reaches the caller: a violation closes the observer, and nobody asks what else
it has left behind; any other exception leaves the observer as it is. -/
def fails (s : ObserverState) : ObserverFailure → ObserverState
  | .violation _ => { s with failed := true }
  | .escaped => s

/-- The observer after a step that may have failed. -/
def settle (s : ObserverState) : Except ObserverFailure ObserverState → ObserverState
  | .ok t => t
  | .error failure => s.fails failure

/-- `_response` on an observer. -/
def respond (s : ObserverState) (decision : Decision) (value : PyValue) :
    Except ObserverFailure ObserverState := do
  let approvals ← s.approvals.response decision value
  return { s with approvals, history := s.history ++ [.answer decision] }

/-- `_call_frame`. -/
def callFrame (s : ObserverState) (method : PyStr) (decision : Option Decision) (value : PyValue) :
    ObserverState :=
  if method = lit "session.create" then s.settle (s.session value)
  else if method = lit "session.resume" then
    -- a resumed session has a handle of its own
    let s := { s with sessionHash := none }
    s.settle (s.session value)
  else
    match decision with
    | some decision => if method = lit "approval.respond" then s.settle (s.respond decision value) else s
    | none => s

/-- `call`. -/
def call (s : ObserverState) (method : PyStr) (params : Frame) (answer : Option PyValue) :
    ObserverState :=
  if !matchesSafe method then s
  else
    match s.callSession params with
    | .error failure => s.fails failure
    | .ok s =>
      match s.decision config method params with
      | .error failure => s.fails failure
      | .ok decision =>
        match answer with
        | none => s
        | some value => s.callFrame method decision value

/-- `wait_event`, up to the gateway: what fails here does not close the observer. -/
def waitSession (s : ObserverState) (sessionId : PyValue) : ObserverState :=
  let bound := do
    let text ← identity sessionId "session_id"
    s.session (.dict [(.str (lit "session_id"), .str text)])
  match bound with
  | .ok t => t
  | .error _ => s

/-- The effect of a step; a closed observer refuses all of them. -/
def next (s : ObserverState) (label : ObserverLabel) : Option ObserverState :=
  if s.failed then none
  else
    match label with
    | .frame value => some (s.settle (s.event config value))
    | .waitSession sessionId => some (s.waitSession sessionId)
    | .call method params answer => some (s.call config method params answer)

end Steps

end ObserverState

/-- The system of one observer, from its construction. -/
def observerSystem (config : ObserverConfig) : System ObserverState ObserverLabel where
  init := { sessionHash := config.sessionHash }
  next := ObserverState.next config

/-- What `snapshot` returns of the lifecycle. -/
structure Snapshot where
  events : List ObservedEvent
  requests : List (PyStr × Nat × PyStr × PyStr)
  responses : List Decision
  denialToolFree : Bool
  recoverySucceeded : Bool
  started : List PyStr
  completed : List PyStr
  subagents : List TaskEvent
  terminalStatus : Option PyStr
  terminalCount : Nat
  deriving DecidableEq

/-- `snapshot`. -/
def ObserverState.snapshot (s : ObserverState) (requireTerminal : Bool := true) :
    Except ObserverFailure Snapshot := do
  ensure (!s.failed) "observer is closed after an observation violation"
  ensure (s.approvals.pendingHash.isNone && s.tools.starts.isPerm s.tools.completes &&
    (!requireTerminal || s.terminal.isSome)) "observation is incomplete"
  return {
    events := s.events
    requests := s.approvals.requests
    responses := s.approvals.responses
    denialToolFree := s.approvals.denialFree
    recoverySucceeded := s.approvals.denied && s.approvals.recovery &&
      s.terminal == some (lit "completed")
    started := s.tools.starts
    completed := s.tools.completes
    subagents := s.tasks.children
    terminalStatus := s.terminal
    terminalCount := s.terminalCount }

end HermesClaude.Parity
