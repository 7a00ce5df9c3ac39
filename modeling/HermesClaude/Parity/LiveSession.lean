/-
# Live sessions

A live session owns one gateway.  Its first turn binds it to a row of the live map and to a trial of
that row; the row says how many turns the trial may take.  A turn that fails closes the session.

A session that is closed can be taken up again with another gateway: its successor is given the
counters of the session, and is bound to the same row.
-/

import HermesClaude.Parity.LiveTurns

namespace HermesClaude.Parity

open HermesClaude.Python HermesClaude.Library

/-- What a session raises, or what is raised inside one of its methods. -/
inductive SessionError
  | /-- `V4LiveSessionViolation`. -/
    violation (message : String)
  | other
  deriving DecidableEq

/-- A violation is raised again, and any other exception becomes a violation with a message. -/
def SessionError.wrapped (message : String) : SessionError → SessionError
  | .violation own => .violation own
  | .other => .violation message

/-- `V4LiveSession`. -/
structure LiveSession where
  setup : LiveSetup
  gateway : LiveGateway
  plannedCalls : Int
  plannedTurns : Int
  resumeStoredSessionId : Option PyStr := none
  liveSessionId : Option PyStr := none
  storedSessionId : Option PyStr := none
  liveHandle : Option OpaqueHandle := none
  storedHandle : Option OpaqueHandle := none
  /-- The receipts of the turns, with their `turn_index`. -/
  turnReceipts : List (Nat × LiveReceipt) := []
  rowTurns : TrialKey → Nat := fun _ => 0
  boundRow : Option TrialKey := none
  providerCalls : Nat := 0
  started : Bool := false
  closed : Bool := false
  failed : Bool := false

/-- The methods of a session. -/
abbrev Sessioning := Stateful SessionError LiveSession

/-- `_row_turn_budget`. -/
def rowTurnBudget (liveMap : List LiveRow) (sourcePack sourceItemId : PyStr) :
    Except SessionError Int :=
  match liveMap.find? fun row => row.sourcePack = sourcePack && row.sourceItemId = sourceItemId with
  | none => .error (.violation "row parent-call ledger is unavailable")
  | some row =>
    match row.parentCalls with
    | none => .error (.violation "row parent-call ledger is unavailable")
    | some calls =>
      let trials : Int := row.requiredTrialIndexes.length
      if trials = 0 || calls % trials ≠ 0 then
        .error (.violation "row parent-call ledger is invalid")
      else
        let budget := calls / trials
        if 1 ≤ budget && budget ≤ 4 then .ok budget
        else .error (.violation "row parent-turn budget is outside 1..4")

/-- `OpaqueHandle.from_value` of a text, or `none` where it raises. -/
def OpaqueHandle.fromText (kind : String) (text : PyStr) : Option OpaqueHandle :=
  (encodeUtf8 text).bind fun raw =>
    if raw = [] || raw.length > maxFrameBytes then none
    else some ⟨lit kind, raw.length, hexdigest raw⟩

/-- The identities that a gateway has shown. -/
structure CapturedIds where
  sessionId : Option PyStr := none
  storedSessionId : Option PyStr := none

/-- The arguments of `run_turn`. -/
structure TurnArguments where
  prompt : PyStr
  row : TrialKey
  path : PyStr := lit "positive"
  approvalChoice : PyStr := lit "deny"
  plannedCalls : Int := 1
  expectFollowup : Bool := false

namespace LiveSession

variable (config : AccumulatorConfig)

/-- `raise V4LiveSessionViolation(message)`, unless the condition holds. -/
def demand (condition : Bool) (message : String) : Sessioning Unit :=
  if condition then pure () else throw (.violation message)

/-- Call a method of the gateway. -/
def ask (request : GatewayRequest) : Sessioning GatewayReply :=
  Stateful.stepping fun s =>
    ((s.gateway.answer request).1, { s with gateway := (s.gateway.answer request).2 })

/-- `started`, and there is a live session. -/
def isLive (s : LiveSession) : Bool := s.started && !s.closed && s.liveSessionId.isSome

/-- `close`. -/
def close : Sessioning Unit := do
  let s ← get
  if s.closed then pure ()
  else do
    let reply ← ask .close
    modify fun s => { s with closed := true, failed := s.failed || !reply.answer.isOk }
    demand reply.answer.isOk "gateway close failed"

/-- `self._failed = True`, `self.close()`, and the exception. -/
def failTurn {α : Type} (failure : SessionError) : Sessioning α := do
  modify fun s => { s with failed := true }
  close
  throw failure

/-- Fail the turn, unless the condition holds. -/
def unlessFail (condition : Bool) (message : String) : Sessioning Unit :=
  if condition then pure () else failTurn (.violation message)

/-! ### Starting -/

/-- One identity more, unless it contradicts the one that is there. -/
def captureId (known : Option PyStr) (value : PyValue) : Option (Option PyStr) :=
  match (asText value).filter (· ≠ []) with
  | none => some known
  | some text => if known.all (· = text) then some (some text) else none

/-- `_capture_session_identities`, or `none` where it raises. -/
def captureSessionIdentities (captured : CapturedIds) (raw : PyValue) : Option CapturedIds := do
  let items := asMapping raw
  let sessionId ← captureId captured.sessionId (getItem items "session_id")
  let stored ← captureId captured.storedSessionId (getItem items "stored_session_id")
  let stored ← captureId stored (getItem items "session_key")
  let stored ← captureId stored (getItem items "resumed")
  return { sessionId, storedSessionId := stored }

/-- `response.get(key)`. -/
def responseGet (response : Returned) (key : String) : Except SessionError PyValue :=
  match response with
  | .value (.dict items) => .ok (getItem items key)
  | _ => .error .other

/-- `value or rest`. -/
def orElse (value : PyValue) (rest : Except SessionError PyValue) : Except SessionError PyValue :=
  if value.truthy then .ok value else rest

/-- A text, or `None`. -/
def textOrNone (text : Option PyStr) : PyValue := text.elim .none .str

/-- The identities of the live and of the stored session. -/
def sessionIdentities (library : GatewayLibrary) (captured : CapturedIds) (response : Returned)
    (resume : Option PyStr) : Except SessionError (PyStr × PyStr) := do
  let live ← orElse (textOrNone captured.sessionId) (responseGet response "session_id")
  let stored ← orElse (textOrNone captured.storedSessionId) (do
    orElse (← responseGet response "stored_session_id") (do
      orElse (← responseGet response "session_key") (do
        orElse (← responseGet response "resumed") (.ok (textOrNone resume)))))
  match (asText live).filter (· ≠ []), (asText stored).filter (· ≠ []) with
  | some live, some stored => do
    let live ← (liveSafeId library (.str live) "session_id").mapError fun _ => .other
    let stored ← (liveSafeId library (.str stored) "stored_session_id").mapError fun _ => .other
    if resume.any (· ≠ stored) then
      throw (.violation "resumed stored session identity does not match")
    return (live, stored)
  | _, _ => throw (.violation "gateway did not return both session identities")

/-- The call that starts a session: `session.resume` or `session.create`. -/
def startRequest (s : LiveSession) : GatewayRequest :=
  match s.resumeStoredSessionId with
  | some stored =>
    let named := (.str (lit "session_id"), .str stored) :: s.setup.sessionParams
    .call .sessionResume
      (if (PyValue.lookupKey named (lit "cols")).isSome then named
      else named ++ [(.str (lit "cols"), .int 80)])
  | none => .call .sessionCreate s.setup.sessionParams

/-- What a gateway returns. -/
def returned (reply : GatewayReply) : Except SessionError Returned :=
  reply.answer.mapError fun _ => .other

/-- What must be there. -/
def required {α : Type} (value : Option α) : Except SessionError α := value.elim (.error .other) .ok

/-- The body of `start`. -/
def startBody : Sessioning (OpaqueHandle × OpaqueHandle) := do
  let s ← get
  let ready ← ask .start
  let _ ← Stateful.fromExcept (returned ready)
  let reply ← ask s.startRequest
  let captured ← Stateful.fromExcept (required (reply.shown.foldlM captureSessionIdentities {}))
  let response ← Stateful.fromExcept (returned reply)
  let (live, stored) ← Stateful.fromExcept
    (sessionIdentities config.gateway.library captured response s.resumeStoredSessionId)
  modify fun s => { s with liveSessionId := some live, storedSessionId := some stored }
  let liveHandle ← Stateful.fromExcept (required (OpaqueHandle.fromText "live_session" live))
  modify fun s => { s with liveHandle := some liveHandle }
  let storedHandle ← Stateful.fromExcept (required (OpaqueHandle.fromText "stored_session" stored))
  modify fun s => { s with storedHandle := some storedHandle, started := true }
  return (liveHandle, storedHandle)

/-- `start`. -/
def start : Sessioning (OpaqueHandle × OpaqueHandle) := do
  let s ← get
  demand (!(s.started || s.closed || s.failed)) "session cannot be started twice"
  tryCatch (startBody config) fun failure => do
    modify fun s => { s with failed := true }
    let _ ← ask .close  -- an exception of the gateway is ignored here
    throw (failure.wrapped "session start failed")

/-! ### Turns -/

/-- Let an executor work on the gateway. -/
def runExecutor {α : Type} (x : Executing α) : Sessioning α := ExceptT.mk fun s =>
  ((x.exec { gateway := s.gateway }).1.mapError fun _ => .other,
    { s with gateway := (x.exec { gateway := s.gateway }).2.gateway })

/-- The receipt of a turn is recorded. -/
def record (row : TrialKey) (receipt : LiveReceipt) (s : LiveSession) : LiveSession :=
  { s with
    turnReceipts := s.turnReceipts ++ [(s.turnReceipts.length + 1, receipt)]
    rowTurns := Function.update s.rowTurns row (s.rowTurns row + 1)
    providerCalls := s.providerCalls + receipt.providerCalls }

/-- The first turn binds the session to its row and trial. -/
def bindRow (row : TrialKey) (rowBudget : Int) : Sessioning Unit := do
  let s ← get
  if s.boundRow = none then do
    demand (s.plannedCalls = rowBudget && s.plannedTurns = rowBudget)
      "session budget does not equal the row trial budget"
    modify fun s => { s with boundRow := some row }
  else demand (s.boundRow = some row) "a live session cannot cross row or trial boundaries"

/-- `run_turn`, until the executor is built. -/
def openTurn (arguments : TurnArguments) : Sessioning Unit := do
  let s ← get
  let rowBudget ← Stateful.fromExcept
    (rowTurnBudget s.setup.liveMap arguments.row.sourcePack arguments.row.sourceItemId)
  bindRow arguments.row rowBudget
  demand (arguments.plannedCalls = 1)
    "one Hermes turn must submit exactly one parent provider call"
  demand (s.rowTurns arguments.row < rowBudget) "row parent-turn budget exhausted"

/-- A turn, from the executor on: the receipt is recorded where it is accepted. -/
def conduct (row : TrialKey) (path : PyStr) (plannedCalls : Int) (reading : MapReading)
    (run : LiveExecutor → PyStr → Executing LiveReceipt)
    (accepts : LiveSession → LiveReceipt → Bool) (message : String) : Sessioning LiveReceipt := do
  let s ← get
  let executor ← Stateful.fromExcept ((LiveExecutor.construct config.gateway.library s.setup reading
    row path plannedCalls s.plannedTurns).mapError fun _ => .other)
  let sessionId ← Stateful.fromExcept (required s.liveSessionId)
  let receipt ← runExecutor (run executor sessionId)
  demand (accepts s receipt) message
  modify (record row receipt)
  return receipt

/-- `run_turn`, from the executor on. -/
def conductTurn (arguments : TurnArguments) (reading : MapReading) : Sessioning LiveReceipt :=
  conduct config arguments.row arguments.path arguments.plannedCalls reading
    (fun executor sessionId => executor.runOnSession config arguments.prompt sessionId
      arguments.approvalChoice arguments.expectFollowup)
    (fun s receipt =>
      1 ≤ receipt.providerCalls && s.providerCalls + receipt.providerCalls ≤ s.plannedCalls)
    "turn exceeded the session provider-call budget"

/-- `run_turn`. -/
def runTurn (arguments : TurnArguments) (reading : MapReading) : Sessioning LiveReceipt := do
  let s ← get
  demand s.isLive "session is not live"
  unlessFail (arguments.path = lit "positive")
    "provider turns are admitted only for the positive path"
  unlessFail (s.turnReceipts.length < s.plannedTurns) "session turn budget exhausted"
  unlessFail (1 ≤ arguments.plannedCalls &&
      arguments.plannedCalls ≤ s.plannedCalls - s.providerCalls)
    "session provider-call budget exhausted"
  tryCatch (openTurn arguments >>= fun _ => conductTurn config arguments reading)
    fun failure => failTurn (failure.wrapped "session turn failed")

/-- `observe_delivery_turn`, from the executor on. -/
def conductDelivery (row : TrialKey) (approvalChoice : PyStr) (reading : MapReading) :
    Sessioning LiveReceipt :=
  conduct config row (lit "positive") 1 reading
    (fun executor sessionId => executor.observeOnSession config sessionId approvalChoice)
    (fun _ receipt => receipt.providerCalls = 1) "automatic delivery lacks one provider call"

/-- `observe_delivery_turn`. -/
def observeDeliveryTurn (row : TrialKey) (approvalChoice : PyStr) (reading : MapReading) :
    Sessioning LiveReceipt := do
  let s ← get
  demand (s.isLive && s.boundRow.isSome) "session is not live for automatic delivery"
  unlessFail (s.boundRow = some row) "automatic delivery crossed a row or trial boundary"
  unlessFail (s.turnReceipts.length < s.plannedTurns && s.providerCalls < s.plannedCalls)
    "automatic delivery exceeded the session budget"
  let rowBudget ← Stateful.fromExcept
    (rowTurnBudget s.setup.liveMap row.sourcePack row.sourceItemId)
  unlessFail (s.rowTurns row < rowBudget) "automatic delivery exceeded the row budget"
  tryCatch (conductDelivery config row approvalChoice reading)
    fun failure => failTurn (failure.wrapped "automatic delivery turn failed")

/-! ### Sessions that are taken up again -/

/-- Why a session that is to be resumed is not admitted, if it is not. -/
def refusal (setup : LiveSetup) (plannedCalls plannedTurns : Int) (resume : PyStr)
    (reading : MapReading) : Option String :=
  if plannedCalls < 1 || totalCallCount < plannedCalls then some "session call budget is invalid"
  else if plannedTurns < 1 || liveTurnBudget < plannedTurns then
    some "session turn budget is invalid"
  else if !(liveSafeId config.gateway.library (.str resume) "stored_session_id").isOk then
    some "stored session identity is invalid"
  else
    match reading with
    | .invalid => some "candidate, preflight, or live-map admission failed"
    | .valid sha256 =>
      if sha256 ≠ some setup.expectedMapHash then some "live map identity is invalid" else none

/-- `V4LiveSession(...)` for a session that is resumed. -/
def construct (setup : LiveSetup) (replies : List GatewayReply) (plannedCalls plannedTurns : Int)
    (resume : PyStr) (reading : MapReading) : Except SessionError LiveSession :=
  match refusal config setup plannedCalls plannedTurns resume reading with
  | some message => .error (.violation message)
  | none => .ok {
      setup
      gateway := { replies }
      plannedCalls
      plannedTurns
      resumeStoredSessionId := some resume }

/-- `restart`: the successor of a session, with another gateway. -/
def restart (s : LiveSession) (replies : List GatewayReply) (plannedCalls plannedTurns : Option Int)
    (reading : MapReading) : Except SessionError LiveSession :=
  match s.storedSessionId with
  | some stored =>
    if s.closed then do
      let resumed ← construct config s.setup replies (plannedCalls.getD s.plannedCalls)
        (plannedTurns.getD s.plannedTurns) stored reading
      return { resumed with
        turnReceipts := s.turnReceipts
        rowTurns := s.rowTurns
        boundRow := s.boundRow
        providerCalls := s.providerCalls }
    else .error (.violation "session has no stored identity or is still live")
  | none => .error (.violation "session has no stored identity or is still live")

end LiveSession

end HermesClaude.Parity
