/-
# The steps of a runtime

`run_turn` is cut at its `await`s and `yield`s.  A label says which party moves and
what it does: the host iterates the generator or closes it, an awaited operation comes
back, the session task produces a projection or ends, the SDK executes a host tool.
What the host answers when it is asked is part of the label of the step that asks.

Code between two suspensions is one step, also where it fails in the middle: an
exception goes to the handler it reaches, and the handler's own call of
`session.cancel()` is the next suspension unless the session is closed already.
-/

import HermesClaude.Library.System
import HermesClaude.Runtime.State

namespace HermesClaude.Runtime

open HermesClaude.Python HermesClaude.Bridge HermesClaude.Content HermesClaude.Session
  HermesClaude.Billing HermesClaude.Library

/-- What `host.cancellation_requested()` does. -/
inductive Poll
  | returns (value : PyValue)
  | /-- It raises an `Exception`. -/
    raises
  | /-- It raises something else: `CancelledError`, or any other `BaseException`. -/
    escapes (cancelled : Bool)

/-- How a suspended generator goes on. -/
inductive Signal
  | /-- The host asks for the next event. -/
    next
  | /-- The host closes the generator, which raises `GeneratorExit` at the `yield`. -/
    close
  | /-- The awaited operation returns. -/
    returned
  | timedOut
  | /-- `CancelledError` at the `await`. -/
    cancelled

/-- What the beginning of a turn finds outside the request. -/
structure StartAnswers where
  preflight : PreflightAnswers
  poll : Poll
  /-- Whether building the MCP server, the session configuration and the session
  succeeds. -/
  buildsServer : Bool := true
  buildsConfiguration : Bool := true
  buildsSession : Bool := true

/-- One step of a runtime. -/
inductive Label (db : UnicodeDatabase)
  | /-- The host calls `preflight`. -/
    preflight (request : RuntimeTurnRequest db) (answers : PreflightAnswers)
  | /-- The host asks a new generator for its first event. -/
    start (request : RuntimeTurnRequest db) (host : RuntimeHost) (answers : StartAnswers)
  | /-- The generator goes on; where it comes to the cancellation poll, `poll` is the
    host's answer, or `none` while the poll is not due. -/
    generator (signal : Signal) (poll : Option Poll)
  | /-- The session hands over a projection. -/
    produce (projection : ProjectionResult)
  | taskEnds (ending : Ending)
  | /-- The session closes itself. -/
    sessionCloses
  | /-- The SDK has a host tool executed for a turn. -/
    tool (turn : Nat)
  | /-- The task of an abandoned turn ends. -/
    orphanEnds (turn : Nat) (ending : Ending)
  | /-- The host calls `close`. -/
    close

/-- What a runtime is built with. -/
structure RuntimeContext (db : UnicodeDatabase) where
  library : ImageLibrary

/-! ## Preflight -/

/-- `_resume_id`: the conversation to resume, and whether the envelope is acceptable. -/
def resumeId {db : UnicodeDatabase} (request : RuntimeTurnRequest db) : Option PyStr × Bool :=
  match request.sessionState with
  | none => (none, true)
  | some envelope =>
    let versionOk := match envelope.schemaVersion with
      | .int i => i == 1
      | .bool b => b
      | .float f => f == .finite 1
      | _ => false
    if !envelope.runtimeId.isText (lit "hermes-claude-agent-sdk") || !versionOk then (none, false)
    else
      match envelope.state.mapping? with
      | none => (none, false)
      | some items =>
        if items.any fun item => !item.1.isText (lit "external_session_id") then (none, false)
        else
          match getItem items "external_session_id" with
          | .none => (none, true)
          | .str id =>
            if id.isEmpty || id.length > 512 || id.any CodePoint.isAsciiControl then (none, false)
            else (some id, true)
          | _ => (none, false)

/-- `_check_auth`. -/
def checkAuth (probe : Option PyValue) : Bool :=
  probe.any fun result =>
    let category := result.safeAttr "category"
    let category := category.safeAttr "value" category
    (match result.safeAttr "allowed" with
      | .bool b => b
      | _ => false) && category.isText (lit "subscription_oauth")

/-- A failure found before anything was set up. -/
def preflightFailure (code message : String) (replaySafe : Bool) : RuntimeFailure :=
  ⟨code, message, .preflight, replaySafe, false⟩

/-- The checks of `preflight`, with the failure it returns. -/
def preflightChecks {db : UnicodeDatabase} (request : RuntimeTurnRequest db)
    (answers : PreflightAnswers) : Option RuntimeFailure :=
  if !(request.provider = lit "claude-agent-sdk" && request.apiMode = lit "agent_runtime" &&
      request.model = lit "claude-fable-5-1") then
    some (preflightFailure "claude_runtime_selection_unsupported"
      "Claude runtime selection is outside its declared descriptor" true)
  else if !(resumeId request).2 then
    some (preflightFailure "claude_runtime_state_invalid"
      "Claude runtime state is incompatible" false)
  else if !answers.compatibility.any (fun v => v.mapping?.any fun items =>
      match getItem items "compatible" with
      | .bool b => b
      | _ => false) then
    some (preflightFailure "claude_runtime_sdk_compatibility_unsupported"
      "Claude runtime SDK/CLI compatibility is unavailable for the selected model" true)
  else if !checkAuth answers.auth then
    some (preflightFailure "claude_subscription_auth_rejected"
      "Claude subscription authentication is unavailable" false)
  else none

/-! ## Yielding -/

/-- The event a turn is about to yield, with what has happened so far. -/
def Turn.emit {db : UnicodeDatabase} (t : Turn db) (event : TurnEvent) (inSetup : Bool) : Turn db :=
  { t with
    yielded := t.yielded ++ [⟨event, inSetup, t.executions, t.yielded.any (·.event.isContent)⟩] }

/-- The turn yields the event after which it is over. -/
def Turn.emitLast {db : UnicodeDatabase} (t : Turn db) (event : TurnEvent) (inSetup : Bool) :
    Turn db :=
  { t.emit event inSetup with pc := .yieldedTerminal }

/-- The turn yields its terminal event, inside the `try`. -/
def Turn.conclude {db : UnicodeDatabase} (t : Turn db) (event : TurnEvent) : Turn db :=
  { t.emitLast event true with terminal := true }

/-- The phase of a failure: side effects first, then visible output. -/
def failurePhase (sideEffects visible : Bool) : RuntimeFailurePhase :=
  if sideEffects then .afterSideEffects
  else if visible then .afterVisibleOutput
  else .beforeVisibleOutput

namespace ClaudeAgentSDKRuntime

variable {db : UnicodeDatabase}

/-- The generator is suspended in the given turn. -/
def suspend (r : ClaudeAgentSDKRuntime db) (t : Turn db) : ClaudeAgentSDKRuntime db :=
  { r with turn := some t }

/-- Whether a turn leaves a task behind when its generator is over. -/
def leavesTask (t : Turn db) : Bool :=
  t.task.any SessionTask.isRunning && !t.cancelReturned

/-- The generator of the turn is over. -/
def finish (r : ClaudeAgentSDKRuntime db) (t : Turn db) (ending : GeneratorEnding) :
    ClaudeAgentSDKRuntime db :=
  { r with
    turn := none
    orphans := if leavesTask t then r.orphans ++ [t.number] else r.orphans
    finished := r.finished ++ [⟨t, ending, leavesTask t⟩] }

/-- `bridge.host_execution_count > bridge_execution_start`, with what it decides. -/
def phase (r : ClaudeAgentSDKRuntime db) (t : Turn db) : RuntimeFailurePhase :=
  failurePhase (r.executionCount > t.bridgeExecutionStart) t.visible

/-- The phase the `except Exception` handler computes. -/
def handlerPhase (r : ClaudeAgentSDKRuntime db) (t : Turn db) : RuntimeFailurePhase :=
  match t.bridge with
  | .absent | .fresh => failurePhase false t.visible
  | .bound => failurePhase (r.executionCount ≠ t.bridgeExecutionStart) t.visible

/-! ## Cancelling the session -/

/-- The session is marked closed. -/
def closeSession (r : ClaudeAgentSDKRuntime db) : ClaudeAgentSDKRuntime db :=
  { r with session := r.session.map fun session => { session with closed := true } }

/-- The event of the `except Exception` handler. -/
def handlerFailure (r : ClaudeAgentSDKRuntime db) (t : Turn db) : TurnEvent :=
  .failed (if r.session.isNone then
    ⟨"claude_runtime_configuration_failed", "Claude runtime configuration failed",
      r.handlerPhase t, false, false⟩
  else ⟨"claude_runtime_failed", "Claude runtime turn failed", r.handlerPhase t, false, false⟩)

/-- `run_turn` after its call of `session.cancel()`. -/
def afterCancel (r : ClaudeAgentSDKRuntime db) (t : Turn db) :
    CancelSite → ClaudeAgentSDKRuntime db
  | .pump => r.suspend { t with pc := .receiving }
  | .native phase => r.suspend { t with pc := .awaitingNativeTask phase }
  | .cancelledHandler => r.finish t .raised
  | .errorHandler =>
    if t.terminal then r.finish t .over else r.suspend (t.emitLast (r.handlerFailure t) true)

/-- `await session.cancel()`, which does nothing where there is no session and returns
at once where it is closed. -/
def cancelSession (r : ClaudeAgentSDKRuntime db) (t : Turn db) (site : CancelSite) :
    ClaudeAgentSDKRuntime db :=
  match r.session with
  | none => r.afterCancel t site
  | some session =>
    if session.closed then r.afterCancel { t with cancelReturned := true } site
    else
      { r with
        session := some { session with cancelRequested := true }
        turn := some { t with pc := .cancelling site } }

/-! ## The pump -/

/-- The head of the pump's loop, up to the next `await`. -/
def pumpHead (r : ClaudeAgentSDKRuntime db) (t : Turn db) (poll : Option Poll) :
    ClaudeAgentSDKRuntime db :=
  if !t.task.any SessionTask.isRunning && t.queue.isEmpty then r.suspend { t with pc := .awaitingTask }
  else if t.cancelSent then r.suspend { t with pc := .receiving }
  else
    match poll with
    | none => r.suspend { t with pc := .receiving }
    | some (.escapes true) => r.cancelSession t .cancelledHandler
    | some (.escapes false) => r.finish t .raised
    | some (.returns (.bool false)) => r.suspend { t with pc := .receiving }
    | some (.returns (.bool true)) => r.cancelSession { t with cancelSent := true } .pump
    | some (.returns _) | some .raises =>
      r.cancelSession { t with cancelSent := true, cancellationUnavailable := true } .pump

/-- The receipt of a usage event, as the runtime vouches for it. -/
def vouchedReceipt (t : Turn db) (receipt : UsageReceipt) : UsageReceipt :=
  { receipt with
    runtimeId := lit "hermes-claude-agent-sdk"
    provider := lit "anthropic"
    billingMode := lit "subscription_included"
    costStatus := lit "included"
    replaySafe := false
    correlationId := t.request.correlationId }

/-- `_MAX_TURN_TOOL_OBSERVATIONS`. -/
def maxTurnToolObservations : Nat := 64

/-- A tool request is remembered and not passed on. -/
def observe (r : ClaudeAgentSDKRuntime db) (name : PyStr) : ClaudeAgentSDKRuntime db :=
  match safeToolObservationName (.str name) with
  | none => r
  | some observed =>
    if r.lastTurnToolObservations.length < maxTurnToolObservations then
      { r with lastTurnToolObservations := r.lastTurnToolObservations ++ [observed] }
    else r

/-- The loop over the events of a projection, up to the next suspension. -/
def passOn (r : ClaudeAgentSDKRuntime db) (t : Turn db) (poll : Option Poll) :
    List RuntimeEvent → ClaudeAgentSDKRuntime db
  | [] => r.pumpHead t poll
  | .completed :: rest => r.passOn t poll rest
  | .toolRequest _ name :: rest => (r.observe name).passOn t poll rest
  | .usage receipt :: rest =>
    r.suspend { t.emit (.projected (.usage (vouchedReceipt t receipt))) true with pc := .yielding rest }
  | .content text :: rest =>
    r.suspend { t.emit (.projected (.content text)) true with pc := .yielding rest, visible := true }
  | .compaction phase :: rest =>
    r.suspend { t.emit (.projected (.compaction phase)) true with pc := .yielding rest }

/-- `_safe_tool_observation_name(event.name) not in allowed_tool_names`, of a tool
request. -/
def isUnexpected (allowed : List PyStr) : RuntimeEvent → Bool
  | .toolRequest _ name => !(safeToolObservationName (.str name)).any (· ∈ allowed)
  | _ => false

/-- `terminal_model_provenance` after a projection. -/
def provenanceAfter (before : ModelProvenance) (projection : ProjectionResult) : ModelProvenance :=
  if !projection.isResult then before
  else if projection.modelResolution = lit "ambiguous" then
    { modelResolution := lit "ambiguous" }
  else {
    effectiveModel := (projection.effectiveModel.filter (· ≠ [])).getD (lit "unknown")
    canonicalModel := (projection.canonicalModel.filter (· ≠ [])).getD (lit "unknown")
    modelResolution := projection.modelResolution }

/-- The body of the pump's loop, with a projection from the queue. -/
def receive (r : ClaudeAgentSDKRuntime db) (t : Turn db) (projection : ProjectionResult)
    (poll : Option Poll) : ClaudeAgentSDKRuntime db :=
  let t := { t with provenance := provenanceAfter t.provenance projection }
  if projection.events.any (isUnexpected t.allowedToolNames) then
    r.cancelSession t (.native (r.phase t))
  else r.passOn t poll projection.events

/-! ## The end of a turn -/

/-- The identity a completion reports under `model`. -/
def reportedModel (provenance : ModelProvenance) : PyStr :=
  if provenance.canonicalModel ≠ lit "unknown" then provenance.canonicalModel
  else provenance.effectiveModel

/-- The completion of a turn; the flag that keeps the handler silent is set first. -/
def complete (r : ClaudeAgentSDKRuntime db) (t : Turn db) (result : SessionTurnResult) :
    ClaudeAgentSDKRuntime db :=
  let t := { t with terminal := true }
  match copyMessages t.request.messages with
  | none => r.cancelSession t .errorHandler
  | some messages =>
    let text := result.finalText.getD []
    r.suspend (t.conclude (.completed {
      text
      messages := messages ++
        [[(.str (lit "role"), .str (lit "assistant")), (.str (lit "content"), .str text)]]
      model := reportedModel t.provenance
      selectedModel := t.request.model
      provenance := t.provenance }))

/-- The code and the message of a turn that failed. -/
def resultFailure (result : SessionTurnResult) (phase : RuntimeFailurePhase) : RuntimeFailure :=
  if result.outcome = .billingBlocked then
    let reason := ((result.billingDecision.bind (·.blockReason)).getD .unknownEvidence).value
    ⟨"claude_subscription_billing_blocked",
      "Claude subscription billing blocked: " ++ reason, phase, false, result.retryable⟩
  else if result.errorCode = some "sdk_native_tool_unsupported" then
    ⟨"claude_runtime_native_tool_unsupported", "Claude runtime turn failed", phase, false,
      result.retryable⟩
  else
    ⟨(result.errorCode.filter (· ≠ "")).getD "claude_runtime_failed",
      "Claude runtime turn failed", phase, false, result.retryable⟩

/-- `run_turn` after `result = await task`. -/
def settle (r : ClaudeAgentSDKRuntime db) (t : Turn db) (result : SessionTurnResult) :
    ClaudeAgentSDKRuntime db :=
  if t.cancellationUnavailable then
    r.suspend (t.conclude (.failed ⟨"claude_runtime_cancellation_unavailable",
      "Claude runtime cancellation state is unavailable", r.phase t, false, false⟩))
  else
    match result.outcome with
    | .complete =>
      match result.externalSessionId with
      | some id => r.suspend { t.emit (.state id) true with pc := .yieldedState result }
      | none => r.complete t result
    | .cancelled => r.suspend (t.conclude (.cancelled "cancelled"))
    | .billingBlocked | .timedOut | .failed | .closed =>
      r.suspend (t.conclude (.failed (resultFailure result (r.phase t))))

/-- The failure of a turn that met a native tool. -/
def nativeFailure (phase : RuntimeFailurePhase) : RuntimeFailure :=
  ⟨"claude_runtime_native_tool_unsupported",
    "Claude runtime emitted an unsupported native tool event", phase, false, false⟩

/-- An awaited task is over: its result, or the exception it raises here. -/
def taskOver (r : ClaudeAgentSDKRuntime db) (t : Turn db)
    (go : SessionTurnResult → ClaudeAgentSDKRuntime db) :
    Option SessionTask → Option (ClaudeAgentSDKRuntime db)
  | some (.ended (.returned result)) => some (go result)
  | some (.ended .raisedCancelled) => some (r.cancelSession t .cancelledHandler)
  | some (.ended .raisedError) => some (r.cancelSession t .errorHandler)
  | some .running | none => none

/-- The generator goes on from where it is suspended. -/
def resume (r : ClaudeAgentSDKRuntime db) (t : Turn db) (signal : Signal) (poll : Option Poll) :
    Option (ClaudeAgentSDKRuntime db) :=
  match t.pc, signal with
  | .cancelling site, .returned => some (r.closeSession.afterCancel { t with cancelReturned := true } site)
  | .cancelling site, .cancelled =>
    some (if site.isHandler then r.finish t .raised else r.cancelSession t .cancelledHandler)
  | .receiving, .returned =>
    match t.queue with
    | [] => none
    | projection :: rest => some (r.receive { t with queue := rest } projection poll)
  | .receiving, .timedOut => some (r.pumpHead t poll)
  | .receiving, .cancelled => some (r.cancelSession t .cancelledHandler)
  | .yielding rest, .next => some (r.passOn t poll rest)
  | .awaitingTask, .returned => r.taskOver t (r.settle t) t.task
  | .awaitingNativeTask phase, .returned =>
    r.taskOver t (fun _ => r.suspend (t.conclude (.failed (nativeFailure phase)))) t.task
  | .yieldedState result, .next => some (r.complete t result)
  | .yieldedTerminal, .next => some (r.finish t .over)
  | .yielding _, .close | .yieldedState _, .close | .yieldedTerminal, .close =>
    some (r.finish t .over)
  | _, _ => none

/-! ## The beginning of a turn -/

/-- A turn that fails before session setup. -/
def refuse (r : ClaudeAgentSDKRuntime db) (t : Turn db) (failure : RuntimeFailure) :
    ClaudeAgentSDKRuntime db :=
  r.suspend (t.emitLast (.failed failure) false)

/-- A failure before anything was visible. -/
def earlyFailure (code message : String) : RuntimeFailure :=
  ⟨code, message, .beforeVisibleOutput, false, false⟩

/-- The first setup of a runtime: what it has kept, and the bridge that the turn's local
variable holds where setup fails. -/
def firstSetup (r : ClaudeAgentSDKRuntime db) (request : RuntimeTurnRequest db)
    (host : RuntimeHost) (answers : StartAnswers) :
    ClaudeAgentSDKRuntime db × Option LocalBridge :=
  let r := { r with host := some host.identity }
  match HostToolBridge.assemble host.complete request.tools (.tuple []) request.correlationId with
  | .error _ => (r, some .absent)
  | .ok bridge =>
    if !answers.buildsServer || !answers.buildsConfiguration then (r, some .fresh)
    else
      let r := { r with bridge := some bridge, contract := some request.contract }
      if !answers.buildsSession then (r, some .fresh)
      else ({ r with session := some { number := r.turns, resumeId := (resumeId request).1 } }, none)

/-- The rest of session setup: the turn is bound to the bridge and its task is created. -/
def bindTurn (r : ClaudeAgentSDKRuntime db) (t : Turn db) : ClaudeAgentSDKRuntime db :=
  let t := { t with bridge := .bound }
  match r.bridge with
  | none => r.cancelSession { t with bridge := .absent } .errorHandler
  | some bridge =>
    match bridge.beginTurn t.request.correlationId with
    | .error _ => r.cancelSession t .errorHandler
    | .ok bound =>
      { r with bridge := some bound }.suspend
        { t with
          bridgeExecutionStart := bound.hostExecutionCount
          allowedToolNames := allowedToolNames bound
          boundTo := r.session
          task := some .running
          pc := .receiving }

/-- Session setup. -/
def setup (r : ClaudeAgentSDKRuntime db) (t : Turn db) (host : RuntimeHost)
    (answers : StartAnswers) : ClaudeAgentSDKRuntime db :=
  match r.session with
  | none =>
    match r.firstSetup t.request host answers with
    | (r, some bridge) => r.cancelSession { t with bridge } .errorHandler
    | (r, none) => r.bindTurn t
  | some session =>
    if some t.request.contract ≠ r.contract then
      r.suspend (t.emitLast (.failed (earlyFailure "claude_runtime_session_contract_changed"
        "Claude runtime session prompt, tools, or selection changed")) true)
    else if session.canRestartAfterCancel then
      { r with session := some {
        number := r.turns, resumeId := (resumeId t.request).1 } }.bindTurn t
    else r.bindTurn t

/-- The turn reaches session setup. -/
def enter (r : ClaudeAgentSDKRuntime db) (t : Turn db) : ClaudeAgentSDKRuntime db :=
  { r with authorizations := r.authorizations ++ [.entered t.number t.request.identity] }

/-- The beginning of a turn after preflight. -/
def proceed (r : ClaudeAgentSDKRuntime db) (context : RuntimeContext db) (t : Turn db)
    (host : RuntimeHost) (answers : StartAnswers) : ClaudeAgentSDKRuntime db :=
  if r.closed then
    r.refuse t (earlyFailure "claude_runtime_closed" "Claude runtime is closed")
  else
    match answers.poll with
    | .escapes _ => r.finish t .raised
    | .returns (.bool true) =>
      r.suspend (t.emitLast (.cancelled "cancelled before runtime start") false)
    | .returns (.bool false) =>
      if r.host.any (· ≠ host.identity) then
        r.refuse t (earlyFailure "claude_runtime_host_binding_changed"
          "Claude runtime host binding changed")
      else
        match buildSdkTurnInput context.library t.request.messages with
        | .error (.validation code) =>
          r.refuse t (earlyFailure code "Claude runtime image input is invalid")
        | .error .escaped => r.finish t .raised
        | .ok none =>
          r.refuse t (earlyFailure "claude_runtime_prompt_invalid"
            "Claude runtime requires a bounded text turn")
        | .ok (some _) => (r.enter t).setup t host answers
    | .returns _ | .raises =>
      r.refuse t (earlyFailure "claude_runtime_cancellation_unavailable"
        "Claude runtime cancellation state is unavailable")

/-- What `run_turn` does to the runtime before anything else. -/
def prepare (r : ClaudeAgentSDKRuntime db) : ClaudeAgentSDKRuntime db :=
  { r with lastTurnToolObservations := [], turns := r.turns + 1 }

/-- The turn that begins. -/
def newTurn (r : ClaudeAgentSDKRuntime db) (request : RuntimeTurnRequest db) : Turn db :=
  { number := r.turns, request, behind := !r.orphans.isEmpty }

/-- `preflight`. -/
def preflight (r : ClaudeAgentSDKRuntime db) (request : RuntimeTurnRequest db)
    (answers : PreflightAnswers) : ClaudeAgentSDKRuntime db × Option RuntimeFailure :=
  let failure := preflightChecks request answers
  ({ r with
      preflightRequest := if failure.isSome then none else some request.identity
      authorizations := r.authorizations ++ [.checked request.identity answers failure] },
    failure)

/-- `_consume_preflight`, in the turn of the given number. -/
def consumePreflight (r : ClaudeAgentSDKRuntime db) (turn : Nat)
    (request : RuntimeTurnRequest db) : ClaudeAgentSDKRuntime db × Bool :=
  if r.preflightRequest = some request.identity then
    ({ r with
        preflightRequest := none
        authorizations := r.authorizations ++ [.consumed turn request.identity] }, true)
  else ({ r with preflightRequest := none }, false)

/-- The authorization of a turn: a check that waits for this request is consumed, else
`run_turn` checks the request itself. -/
def authorize (r : ClaudeAgentSDKRuntime db) (turn : Nat) (request : RuntimeTurnRequest db)
    (answers : PreflightAnswers) : ClaudeAgentSDKRuntime db × Option RuntimeFailure :=
  match r.consumePreflight turn request with
  | (r, true) => (r, none)
  | (r, false) =>
    match r.preflight request answers with
    | (r, some failure) => (r, some failure)
    | (r, none) =>
      match r.consumePreflight turn request with
      | (r, true) => (r, none)
      | (r, false) => (r, some (preflightFailure "claude_runtime_preflight_unavailable"
          "Claude runtime preflight could not be consumed" false))

/-- `run_turn`, up to its first suspension. -/
def startTurn (r : ClaudeAgentSDKRuntime db) (context : RuntimeContext db)
    (request : RuntimeTurnRequest db) (host : RuntimeHost) (answers : StartAnswers) :
    ClaudeAgentSDKRuntime db :=
  match r.prepare.authorize r.turns request answers.preflight with
  | (authorized, some failure) => authorized.refuse (r.newTurn request) failure
  | (authorized, none) => authorized.proceed context (r.newTurn request) host answers

/-! ## Steps -/

/-- A host tool is executed. -/
def execute (r : ClaudeAgentSDKRuntime db) (bridge : HostToolBridge db) (turn : Nat) :
    ClaudeAgentSDKRuntime db :=
  { r with
    bridge := some { bridge with hostExecutionCount := bridge.hostExecutionCount + 1 }
    turn := r.turn.map fun t => { t with executions := t.executions + 1 }
    toolRuns := r.toolRuns ++ [⟨turn, turn ∈ r.orphans⟩] }

/-- A task that completes a turn reports its conversation, to the session it ran on. -/
def report (r : ClaudeAgentSDKRuntime db) (ran : Option RuntimeSession) (ending : Ending) :
    ClaudeAgentSDKRuntime db :=
  match ending with
  | .returned result =>
    if result.outcome = .complete then
      { r with session := r.session.map fun session =>
          if ran.any (·.number = session.number) then
            { session with reportedId := result.externalSessionId }
          else session }
    else r
  | .raisedCancelled | .raisedError => r

/-- The session the task of a turn that is over was created for. -/
def ranOn (r : ClaudeAgentSDKRuntime db) (turn : Nat) : Option RuntimeSession :=
  (r.finished.find? fun f => f.turn.number = turn).bind fun f => f.turn.boundTo

/-- The effect of one step, or `none` where it is not enabled. -/
def next (context : RuntimeContext db) (r : ClaudeAgentSDKRuntime db) :
    Label db → Option (ClaudeAgentSDKRuntime db)
  | .preflight request answers => some (r.preflight request answers).1
  | .start request host answers =>
    match r.turn with
    | some _ => none
    | none => some (r.startTurn context request host answers)
  | .generator signal poll => r.turn.bind fun t => r.resume t signal poll
  | .produce projection =>
    match r.turn with
    | some t =>
      match t.task with
      | some .running => some (r.suspend { t with
          queue := t.queue ++ [projection]
          produced := t.produced ++ projection.events })
      | _ => none
    | none => none
  | .taskEnds ending =>
    match r.turn with
    | some t =>
      match t.task with
      | some .running => some ((r.report t.boundTo ending).suspend
          { t with task := some (.ended ending) })
      | _ => none
    | none => none
  | .sessionCloses =>
    if r.session.isSome then some r.closeSession else none
  | .tool turn =>
    if turn < r.turns then r.bridge.map fun bridge => r.execute bridge turn else none
  | .orphanEnds turn ending =>
    if turn ∈ r.orphans then
      some { r.report (r.ranOn turn) ending with orphans := r.orphans.filter (· ≠ turn) }
    else none
  | .close =>
    if r.closed then some r
    else some { r.closeSession with
      closed := true
      preflightRequest := none
      authorizations := r.authorizations ++ [.dropped] }

/-- The system of one runtime, from its construction. -/
def runtimeSystem (context : RuntimeContext db) : System (ClaudeAgentSDKRuntime db) (Label db) where
  init := {}
  next := ClaudeAgentSDKRuntime.next context

end ClaudeAgentSDKRuntime

end HermesClaude.Runtime
