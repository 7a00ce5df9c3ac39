/-
# Live executors

A live executor hands one turn to a gateway.  It submits the prompt, unless the turn is one that the
host delivers of its own accord, and follows the events of the gateway until one of them is
terminal.  Every answer of the gateway is checked, and an executor that finds something amiss stops
where it is: what it has handed to the gateway by then is not taken back.

A gateway is the list of its answers here, whatever it is asked.  The executor is told that its map
is valid, and which hash it has.
-/

import HermesClaude.Library.Stateful
import HermesClaude.Parity.EventAccumulator
import HermesClaude.Parity.Results

namespace HermesClaude.Parity

open HermesClaude.Python HermesClaude.Library

/-! ## Gateways -/

/-- What a method of a gateway returns. -/
inductive Returned
  | value (value : PyValue)
  | projection (projection : EventProjection)

/-- What a method of a gateway raises. -/
inductive GatewayRaise
  | /-- `GatewayClosed`, `GatewayTimeout` or `TimeoutError`. -/
    quiet
  | other
  deriving DecidableEq

/-- What a gateway does when one of its methods is called. -/
structure GatewayReply where
  /-- What it gives to the projector, one after the other. -/
  shown : List PyValue := []
  answer : Except GatewayRaise Returned := .ok (.value .none)

/-- The methods that `gateway.call` is asked for. -/
inductive GatewayMethod
  | sessionCreate
  | sessionResume
  | promptSubmit
  | approvalRespond
  deriving DecidableEq

/-- A call of a method of a gateway. -/
inductive GatewayRequest
  | start
  | call (method : GatewayMethod) (params : Frame)
  | nextEvent (timeout : Option Rat)
  | close

/-- A prompt is submitted. -/
def GatewayRequest.isSubmit : GatewayRequest → Bool
  | .call method _ => method = .promptSubmit
  | _ => false

/-- The gateway is closed. -/
def GatewayRequest.isClose : GatewayRequest → Bool
  | .close => true
  | _ => false

/-- `V4LiveGateway`: the answers that it has still to give, and what was handed to it. -/
structure LiveGateway where
  replies : List GatewayReply
  sent : List GatewayRequest := []

namespace LiveGateway

/-- The next answer.  A gateway that has nothing left to say lets the call time out. -/
def answer (g : LiveGateway) (request : GatewayRequest) : GatewayReply × LiveGateway :=
  (g.replies.headD { answer := .error .quiet },
    { replies := g.replies.tail, sent := g.sent ++ [request] })

/-- How many prompts were handed to the gateway. -/
def submits (g : LiveGateway) : Nat := g.sent.countP GatewayRequest.isSubmit

/-- `close` was called. -/
def isClosed (g : LiveGateway) : Bool := g.sent.any GatewayRequest.isClose

end LiveGateway

/-! ## Identifiers and receipts -/

/-- `V4AttemptIdentity`. -/
structure AttemptIdentity where
  candidateHash : PyStr
  preflightHash : PyStr
  liveMapSha256 : PyStr
  sourcePack : PyStr
  sourceItemId : PyStr
  predecessorExecutionId : PyStr
  path : PyStr
  trialIndex : Int

/-- `row_key`. -/
def AttemptIdentity.rowKey (identity : AttemptIdentity) : PyStr :=
  identity.sourcePack ++ lit "/" ++ identity.sourceItemId

/-- `_RAW`. -/
def rawMarks : List String :=
  ["raw_prompt", "raw_content", "raw_transcript", "session_id", "credential", "token", "api_key",
    "password", "cookie"]

/-- `text.replace("-", "_")`. -/
def underscored (text : PyStr) : PyStr := text.map fun c => if c.val = 0x2D then 0x5F else c

/-- `_safe_id`, which tells the message of its violation. -/
def liveSafeId (library : GatewayLibrary) (value : PyValue) (field : String) :
    Except String PyStr :=
  match value with
  | .str text =>
    if text = [] || text.length > 256 || text.any CodePoint.isAsciiControl ||
        rawMarks.any (contains (underscored (library.casefold text))) then
      .error (field ++ " is not bounded")
    else .ok text
  | _ => .error (field ++ " is not bounded")

/-- `_approval_id`. -/
def approvalId (library : GatewayLibrary) (event : Frame) : Except String PyStr :=
  let eventParams := params event
  let sources := [eventParams, asMapping (getItem eventParams "payload")]
  let named := sources.flatMap fun source =>
    ["request_id", "approval_id", "id"].map (getItem source)
  match (named.filterMap asText).find? (· ≠ []) with
  | some text => liveSafeId library (.str text) "approval_id"
  | none => .error "approval request lacks a usable ID"

/-- The request of an approval, as a receipt keeps it. -/
structure ApprovalRequest where
  kind : PyStr
  byteLength : Nat
  sha256 : PyStr

/-- `_MAX_RESULT_BYTES`. -/
def maxResultBytes : Nat := 1048576

/-- `_approval_request_projection`. -/
def approvalRequestProjection (projection : EventProjection) : Except String ApprovalRequest :=
  if projection.eventType = [] || projection.byteLength > maxResultBytes ||
      !isHex 64 projection.sha256 then
    .error "approval request projection is invalid"
  else .ok ⟨projection.eventType, projection.byteLength, projection.sha256⟩

/-- `decision_class`. -/
inductive DecisionClass
  | allow
  | deny
  | other
  deriving DecidableEq

/-- The decision about an approval, as a receipt keeps it. -/
structure ApprovalDecision where
  decisionClass : DecisionClass
  ok : Bool
  resultKind : PyStr
  resultBytes : Nat
  resultSha256 : PyStr

/-- `_RESULT_KINDS`. -/
def resultKinds : List PyStr := ["null", "boolean", "number", "string", "array", "object"].map lit

/-- `_approval_decision_projection`. -/
def approvalDecisionProjection (response : Frame) (decisionClass : DecisionClass) :
    Except String ApprovalDecision :=
  match getItem response "ok", getItem response "result_kind", getItem response "result_bytes",
    getItem response "result_sha256" with
  | .bool ok, .str kind, .int bytes, .str sha256 =>
    if kind ∈ resultKinds && decide (0 ≤ bytes) && decide (bytes ≤ maxResultBytes) &&
        isHex 64 sha256 then
      .ok ⟨decisionClass, ok, kind, bytes.toNat, sha256⟩
    else .error "approval response envelope is invalid"
  | _, _, _, _ => .error "approval response envelope is invalid"

/-- The `approval` of a receipt. -/
structure ApprovalSummary where
  decisionClass : DecisionClass
  requestCount : Nat
  decisionCount : Nat
  requests : List ApprovalRequest
  decisions : List ApprovalDecision

/-- The receipt of a turn. -/
structure LiveReceipt where
  identity : AttemptIdentity
  candidate : List (PyStr × PyStr)
  classification : String := "COMPLETE"
  terminalStatus : PyStr
  eventCount : Nat
  eventKinds : List (PyStr × Nat)
  events : List EventProjection
  controlCallsUsed : Nat
  providerCalls : Nat
  turnsUsed : Nat := 1
  approval : ApprovalSummary

/-! ## The live map -/

/-- A row of a live map that is valid. -/
structure LiveRow where
  sourcePack : PyStr
  sourceItemId : PyStr
  predecessorExecutionId : PyStr
  mandatoryPaths : List PyStr
  requiredTrialIndexes : List Int
  parentCalls : Option Int

/-- `f"{row['source_pack']}/{row['source_item_id']}"`. -/
def LiveRow.key (row : LiveRow) : PyStr := row.sourcePack ++ lit "/" ++ row.sourceItemId

/-- A row and one of its trials. -/
structure TrialKey where
  sourcePack : PyStr
  sourceItemId : PyStr
  trialIndex : Int
  deriving DecidableEq

/-- What `validate_v4_live_execution_map` makes of a map and of its files. -/
inductive MapReading
  | /-- It raises. -/
    invalid
  | /-- It returns its accounting, with `map_sha256`. -/
    valid (sha256 : Option PyStr)

/-- What a session and its executors are built with: an admitted candidate, and a live map. -/
structure LiveSetup where
  candidate : List (PyStr × PyStr)
  candidateHash : PyStr
  preflightHash : PyStr
  liveMap : List LiveRow
  expectedMapHash : PyStr
  sessionParams : Frame := []

/-- `TOTAL_CALL_COUNT`. -/
def totalCallCount : Int := 150

/-- `TURN_BUDGET`. -/
def liveTurnBudget : Int := 180

/-! ## The executor -/

/-- What an executor raises. -/
inductive ExecutorError
  | /-- `V4LiveExecutorViolation`. -/
    violation (message : String)
  | /-- An exception of the gateway, of an accumulator or of Python. -/
    other
  deriving DecidableEq

/-- `V4LiveExecutor`, as far as it does not change. -/
structure LiveExecutor where
  identity : AttemptIdentity
  candidate : List (PyStr × PyStr)
  plannedProviderCalls : Int

/-- What changes of an executor. -/
structure ExecutorState where
  gateway : LiveGateway
  controlCalls : Nat := 0
  providerCalls : Nat := 0
  approvalCount : Nat := 0
  used : Bool := false

/-- The methods of an executor. -/
abbrev Executing := Stateful ExecutorError ExecutorState

/-- `CONTROL_CALL_LIMIT`. -/
def controlCallLimit : Nat := 16

/-- `POST_TERMINAL_CONTROL_LIMIT`. -/
def postTerminalControlLimit : Nat := 8

/-- `_POST_TERMINAL_CONTROL`. -/
def LiveExecutor.postTerminalControl : List PyStr := [lit "sessions.changed"]

/-- `_APPROVAL`. -/
def LiveExecutor.approvalKinds : List PyStr := ["approval.request", "approval.requested"].map lit

/-- What the events of a turn have come to. -/
structure TurnProgress where
  events : List EventProjection := []
  accumulator : Accumulator := {}
  receipts : List (ApprovalRequest × ApprovalDecision) := []

/-- What the events of a turn come to in the end. -/
structure TurnEnd where
  terminal : PyStr
  /-- `terminal_usage_present`. -/
  usage : Bool
  progress : TurnProgress

/-- The last mapping that a projector was given. -/
def capturedMapping (shown : List PyValue) : Option Frame :=
  (shown.filterMap PyValue.mapping?).getLast?

/-- `_event_type`. -/
def frameType (event : Frame) : Option PyStr := asText (getItem (params event) "type")

/-- The class of a choice. -/
def decisionClass (library : GatewayLibrary) (choice : PyStr) : DecisionClass :=
  let decision := library.casefold choice
  if decision ∈ ["allow", "approve", "yes"].map lit then .allow
  else if decision ∈ ["deny", "reject", "no", "cancel"].map lit then .deny
  else .other

/-- A number of Python that equals an integer: booleans are numbers, too. -/
def equalsInt (value : PyValue) (i : Int) : Bool :=
  match value with
  | .bool b => (if b then 1 else 0) == i
  | .int j => j == i
  | .float (.finite q) => q == i
  | _ => false

namespace LiveExecutor

variable (config : AccumulatorConfig) (executor : LiveExecutor)

/-- The row that an executor is built for. -/
def admittedRow (liveMap : List LiveRow) (key : PyStr) (path : PyStr) (trialIndex : Int) :
    Except String LiveRow :=
  if path ∉ ["positive", "denial", "recovery"].map lit then .error "attempt path is unsupported"
  else
    -- a dictionary keeps the last row with the key
    match liveMap.reverse.find? fun row => row.key = key with
    | none => .error "attempt path or trial is not mandatory"
    | some row =>
      if path ∉ row.mandatoryPaths || trialIndex ∉ row.requiredTrialIndexes then
        .error "attempt path or trial is not mandatory"
      else if path ≠ lit "positive" then
        .error "provider execution is admitted only for the positive path"
      else .ok row

/-- `V4LiveExecutor(...)`. -/
def construct (library : GatewayLibrary) (setup : LiveSetup) (reading : MapReading) (key : TrialKey)
    (path : PyStr) (plannedCalls plannedTurns : Int) : Except String LiveExecutor := do
  let sha256 ← match reading with
    | .invalid => .error "live map validation failed"
    | .valid sha256 => .ok sha256
  if sha256 ≠ some setup.expectedMapHash || !isHex 64 setup.expectedMapHash then
    throw "live map identity is invalid"
  if plannedCalls < 1 || totalCallCount < plannedCalls || plannedTurns < 1 ||
      liveTurnBudget < plannedTurns then
    throw "attempt budget exceeds v4 envelope"
  let pack ← liveSafeId library (.str key.sourcePack) "source_pack"
  let item ← liveSafeId library (.str key.sourceItemId) "source_item_id"
  let row ← admittedRow setup.liveMap (pack ++ lit "/" ++ item) path key.trialIndex
  let predecessor ← liveSafeId library (.str row.predecessorExecutionId) "predecessor_execution_id"
  return {
    identity := {
      candidateHash := setup.candidateHash
      preflightHash := setup.preflightHash
      liveMapSha256 := setup.expectedMapHash
      sourcePack := pack
      sourceItemId := item
      predecessorExecutionId := predecessor
      path
      trialIndex := key.trialIndex }
    candidate := setup.candidate
    plannedProviderCalls := plannedCalls }

/-- `raise V4LiveExecutorViolation(message)`, unless the condition holds. -/
def demand (condition : Bool) (message : String) : Executing Unit :=
  if condition then pure () else throw (.violation message)

/-- The result of a check that tells the message of its violation. -/
def checked {α : Type} (result : Except String α) : Executing α :=
  Stateful.fromExcept (result.mapError .violation)

/-- Call a method of the gateway. -/
def ask (request : GatewayRequest) : Executing GatewayReply :=
  Stateful.stepping fun s =>
    ((s.gateway.answer request).1, { s with gateway := (s.gateway.answer request).2 })

/-- An envelope contradicts the identity of the executor. -/
def contradicts (envelope : Frame) : Bool :=
  let texts : List (String × PyStr) :=
    [("candidate_hash", executor.identity.candidateHash),
      ("preflight_hash", executor.identity.preflightHash),
      ("live_map_sha256", executor.identity.liveMapSha256),
      ("row_key", executor.identity.rowKey), ("path", executor.identity.path)]
  texts.any (fun entry => (PyValue.lookupKey envelope (lit entry.1)).any (!·.isText entry.2)) ||
    (PyValue.lookupKey envelope (lit "trial_index")).any (!equalsInt · executor.identity.trialIndex)

/-- The mapping that `gateway.call` returned. -/
def envelope (answer : Except GatewayRaise Returned) : Except String Frame :=
  match answer with
  | .ok (.value (.dict items)) => .ok items
  | .ok _ => .error "gateway call returned an invalid envelope"
  | .error _ => .error "gateway call failed"

/-- `_call` before the gateway is asked. -/
def admitCall (method : GatewayMethod) : Executing Unit := do
  modify fun s => { s with controlCalls := s.controlCalls + 1 }
  let s ← get
  demand (s.controlCalls ≤ controlCallLimit) "control call budget exhausted"
  demand (method ≠ .promptSubmit || s.providerCalls < executor.plannedProviderCalls)
    "provider call budget exhausted"

/-- `_call` behind the answer of the gateway: only here is a provider call counted. -/
def acceptReply (method : GatewayMethod) (reply : GatewayReply) :
    Executing (List PyValue × Frame) := do
  let result ← checked (envelope reply.answer)
  demand (!executor.contradicts result &&
      !executor.contradicts (asMapping (getItem result "identity")))
    "gateway response identity does not match"
  modify fun s =>
    { s with providerCalls := s.providerCalls + if method = .promptSubmit then 1 else 0 }
  return (reply.shown, result)

/-- `_call`, also with what its projector was given. -/
def call (method : GatewayMethod) (parameters : Frame) : Executing (List PyValue × Frame) := do
  executor.admitCall method
  let reply ← ask (.call method parameters)
  executor.acceptReply method reply

/-- The event belongs to the session, or to none. -/
def inSession (sessionId : PyStr) (event : Frame) : Bool :=
  let named := getItem (params event) "session_id"
  named.isNone || named.isText [] || named.isText sessionId

/-- The projection of what `next_event` returned, with its kind and the accumulator after it. -/
def projected (answer : Returned) (accumulator : Accumulator) :
    Except ExecutorError (EventProjection × Option PyStr × Accumulator) :=
  match answer with
  | .projection projection => .ok (projection, some projection.eventType, accumulator)
  | .value (.dict items) =>
    match accumulator.add config (.mapping items) with
    | .ok (projection, accumulator) => .ok (projection, frameType items, accumulator)
    | .error _ => .error .other
  | .value _ => .error (.violation "gateway event has an invalid shape")

/-- Answer the approval request that an event carries, and add to the receipts. -/
def respond (sessionId choice : PyStr) (raw : Option Frame) (projection : EventProjection)
    (receipts : List (ApprovalRequest × ApprovalDecision)) :
    Executing (List (ApprovalRequest × ApprovalDecision)) := do
  let library := config.gateway.library
  let event ← checked (raw.elim (.error "approval request lacks a usable ID") .ok)
  let approval ← checked (approvalId library event)
  let (_, response) ← executor.call .approvalRespond
    [(.str (lit "session_id"), .str sessionId), (.str (lit "choice"), .str choice),
      (.str (lit "request_id"), .str approval)]
  let request ← checked (approvalRequestProjection projection)
  let decision ← checked (approvalDecisionProjection response (decisionClass library choice))
  modify fun s => { s with approvalCount := s.approvalCount + 1 }
  return receipts ++ [(request, decision)]

/-- `_next`, and `events.append` of what it returns; also what its projector was given. -/
def next (sessionId choice : PyStr) (timeout : Option Rat) (progress : TurnProgress) :
    Executing (EventProjection × Option Frame × TurnProgress) := do
  let reply ← ask (.nextEvent timeout)
  let answer ← checked (reply.answer.mapError fun _ => "gateway event sequence failed")
  let raw := capturedMapping reply.shown
  demand (raw.all (inSession sessionId)) "event session identity does not match"
  let (projection, kind, accumulator) ←
    Stateful.fromExcept (projected config answer progress.accumulator)
  let receipts ← (if kind.any (· ∈ approvalKinds) then
    executor.respond config sessionId choice raw projection progress.receipts
    else pure progress.receipts)
  return (projection, raw, { events := progress.events ++ [projection], accumulator, receipts })

/-- `terminal_usage_present`. -/
def reportsUsage (raw : Option Frame) : Bool :=
  raw.any fun event =>
    (getItem (asMapping (getItem (params event) "payload")) "usage").mapping?.isSome

/-- The loop over the events of a turn, with the number of events there is still room for. -/
def follow (sessionId choice : PyStr) (timeout : Option Rat) :
    Nat → TurnProgress → Executing TurnEnd
  | 0, progress => do
    let _ ← executor.next config sessionId choice timeout progress
    throw (.violation "event sequence exceeds the bounded count")
  | room + 1, progress => do
    let (projection, raw, progress) ← executor.next config sessionId choice timeout progress
    match projection.terminalStatus with
    | some terminal => return { terminal, usage := reportsUsage raw, progress }
    | none => follow sessionId choice timeout room progress

/-- What comes after the terminal event: nothing, or an event that may or may not be ignored. -/
def trailing (answer : Except GatewayRaise Returned) : Except ExecutorError Bool :=
  match answer with
  | .error .quiet => .ok false
  | .error .other => .error .other
  | .ok (.value .none) => .ok false
  | .ok (.projection projection) =>
    if projection.eventType ∈ postTerminalControl then .ok true
    else .error (.violation "event arrived after terminal")
  | .ok (.value value) =>
    match (value.safeAttr "event_type").memTexts postTerminalControl with
    | some true => .ok true
    | some false => .error (.violation "event arrived after terminal")
    | none => .error .other

/-- The loop over the events after the terminal one. -/
def settle : Nat → Executing Unit
  | 0 => throw (.violation "post-terminal control event bound exhausted")
  | rounds + 1 => do
    let reply ← ask (.nextEvent (some (1 / 100)))
    let more ← Stateful.fromExcept (trailing reply.answer)
    if more then settle rounds else pure ()

/-- The session that `prompt.submit` names: the first one its projector was given, or the one of
its envelope. -/
def namedSession (shown : List PyValue) (submitted : Frame) : Option PyStr :=
  match (shown.filterMap fun raw => asText (getItem (asMapping raw) "session_id")) with
  | first :: _ => some first
  | [] => asText (getItem submitted "session_id")

/-- `prompt.submit`, at the head of a turn. -/
def submit (sessionId prompt : PyStr) : Executing Unit := do
  let (shown, submitted) ← executor.call .promptSubmit
    [(.str (lit "session_id"), .str sessionId), (.str (lit "text"), .str prompt)]
  demand ((namedSession shown submitted).all (· = sessionId))
    "prompt response session identity does not match"

/-- The proof that a turn is one that the host has delivered. -/
def deliveryProof (ended : TurnEnd) : Except ExecutorError Unit :=
  let kinds := ended.progress.events.map EventProjection.eventType
  match kinds.dropWhile (· ≠ lit "message.start") with
  | [] => .error .other  -- `starts[0]` raises before the check for starts is made
  | _ :: rest =>
    if rest.any (· ∈ ["message.usage", "session.usage"].map lit) || ended.usage then .ok ()
    else .error (.violation "automatic Hermes delivery turn lacks start or usage proof")

/-- `dict(sorted(Counter(kinds).items()))`. -/
def kindCounts (kinds : List PyStr) : List (PyStr × Nat) :=
  (sorted kinds.dedup).map fun kind => (kind, kinds.count kind)

/-- The receipt of a turn that came to its end. -/
def receipt (s : ExecutorState) (decisionClass : DecisionClass) (ended : TurnEnd) :
    LiveReceipt where
  identity := executor.identity
  candidate := executor.candidate
  terminalStatus := ended.terminal
  eventCount := ended.progress.events.length
  eventKinds := kindCounts (ended.progress.events.map EventProjection.eventType)
  events := ended.progress.events
  controlCallsUsed := s.controlCalls
  providerCalls := s.providerCalls
  approval := {
    decisionClass
    requestCount := ended.progress.receipts.length
    decisionCount := s.approvalCount
    requests := ended.progress.receipts.map Prod.fst
    decisions := ended.progress.receipts.map Prod.snd }

/-- A turn of the host is proved to be one, and counts as one provider call. -/
def proveDelivery (ended : TurnEnd) : Executing Unit := do
  Stateful.fromExcept (deliveryProof ended)
  modify fun s => { s with providerCalls := 1 }

/-- `_execute_turn` behind the submission of the prompt. -/
def finishTurn (sessionId choice : PyStr) (submitPrompt expectFollowup : Bool) :
    Executing LiveReceipt := do
  let ended ← executor.follow config sessionId choice (if submitPrompt then none else some 600)
    maxEvents {}
  (if expectFollowup then pure () else settle postTerminalControlLimit)
  demand (ended.terminal = lit "completed") "positive provider execution did not complete"
  (if submitPrompt then pure () else proveDelivery ended)
  let s ← get
  return executor.receipt s (decisionClass config.gateway.library choice) ended

/-- A turn may begin: an executor is used once. -/
def begin : Executing Unit := do
  let s ← get
  demand (!s.used) "attempt is already terminal"
  modify fun s => { s with used := true }

/-- A prompt that may be submitted. -/
def promptCheck (prompt : PyStr) : Except ExecutorError Unit :=
  if strip prompt = [] then .error (.violation "prompt is empty or too large")
  else
    match utf8Size prompt with
    | none => .error .other
    | some size =>
      if size > maxResultBytes then .error (.violation "prompt is empty or too large") else .ok ()

/-- What a turn must meet before it goes to the gateway. -/
def admitTurn (promptCheck : Except ExecutorError Unit) (sessionId choice : PyStr) :
    Executing PyStr := do
  begin
  Stateful.fromExcept promptCheck
  demand (strip choice ≠ [] && decide (choice.length ≤ 64)) "approval choice is invalid"
  checked (liveSafeId config.gateway.library (.str sessionId) "session_id")

/-- `run_on_session`. -/
def runOnSession (prompt sessionId choice : PyStr) (expectFollowup : Bool) :
    Executing LiveReceipt := do
  let sessionId ← admitTurn config (promptCheck prompt) sessionId choice
  executor.submit sessionId prompt
  executor.finishTurn config sessionId choice true expectFollowup

/-- `observe_on_session`. -/
def observeOnSession (sessionId choice : PyStr) : Executing LiveReceipt := do
  let sessionId ← admitTurn config (.ok ()) sessionId choice
  executor.finishTurn config sessionId choice false false

end LiveExecutor

end HermesClaude.Parity
