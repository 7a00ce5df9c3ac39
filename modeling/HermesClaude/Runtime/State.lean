/-
# The state of a runtime

`ClaudeAgentSDKRuntime` keeps one SDK session and one tool bridge across turns.  Each
turn is an asynchronous generator, which the host iterates, next to a task that runs
the session's turn and fills a queue of projections.  The generator is suspended at an
`await` or at a `yield`; between two suspensions it runs alone.

Turns follow one another.  A turn whose generator is over can leave its task behind,
so the state remembers the tasks that still run on a session nobody cancelled.

The history fields say what was checked, produced and yielded, which tools were executed
and how turns ended.  No step reads them.
-/

import HermesClaude.Bridge.Calls
import HermesClaude.Runtime.ToolNames
import HermesClaude.Runtime.TurnInput
import HermesClaude.Session.State

namespace HermesClaude.Runtime

open HermesClaude.Python HermesClaude.Bridge HermesClaude.Content HermesClaude.Session

/-- `RuntimeFailurePhase`. -/
inductive RuntimeFailurePhase
  | preflight
  | beforeVisibleOutput
  | afterVisibleOutput
  | afterSideEffects
  deriving DecidableEq

/-- `RuntimeFailure`. -/
structure RuntimeFailure where
  code : String
  message : String
  phase : RuntimeFailurePhase
  replaySafe : Bool
  retryable : Bool := false

/-- The model identity a turn reports: effective model, canonical model, resolution. -/
structure ModelProvenance where
  effectiveModel : PyStr := lit "unknown"
  canonicalModel : PyStr := lit "unknown"
  modelResolution : PyStr := lit "unknown"

/-- `ProjectionResult`, as far as the runtime reads it. -/
structure ProjectionResult where
  events : List RuntimeEvent := []
  isResult : Bool := false
  effectiveModel : Option PyStr := none
  canonicalModel : Option PyStr := none
  modelResolution : PyStr := lit "unknown"

/-- The payload of the `RuntimeCompletedEvent` of a turn. -/
structure Completion where
  text : PyStr
  /-- The conversation, each message as the items it is built from. -/
  messages : List (List (PyValue × PyValue))
  model : PyStr
  selectedModel : PyStr
  provenance : ModelProvenance

/-- An event a turn yields. -/
inductive TurnEvent
  | /-- An event of a projection, passed on. -/
    projected (event : RuntimeEvent)
  | state (externalSessionId : PyStr)
  | completed (result : Completion)
  | failed (failure : RuntimeFailure)
  | cancelled (reason : String)

/-- The events that end a turn. -/
def TurnEvent.isTerminal : TurnEvent → Bool
  | .completed _ | .failed _ | .cancelled _ => true
  | .projected _ | .state _ => false

/-- `event.kind.value == "content"`. -/
def TurnEvent.isContent : TurnEvent → Bool
  | .projected (.content _) => true
  | _ => false

/-- A yielded event, with what had happened in its turn by then. -/
structure Yielded where
  event : TurnEvent
  /-- Whether session setup had been entered. -/
  inSetup : Bool
  /-- How many host tools had been executed since the turn began. -/
  executions : Nat
  /-- Whether the turn had yielded content before. -/
  contentBefore : Bool

/-- `RuntimeSessionState`, the envelope a request carries. -/
structure SessionEnvelope where
  runtimeId : PyValue
  schemaVersion : PyValue
  state : PyValue

/-- `RuntimeTurnRequest`.  The tool schemas are given by what normalising them
yields. -/
structure RuntimeTurnRequest (db : UnicodeDatabase) where
  /-- The identity of the request object. -/
  identity : Nat
  provider : PyStr
  model : PyStr
  apiMode : PyStr
  toolSchemaHash : PyStr
  promptSnapshot : PyStr
  tools : Except ToolBridgeConfigurationError (List (HostToolDefinition db))
  correlationId : PyValue
  sessionState : Option SessionEnvelope
  messages : PyValue

/-- A host object. -/
structure RuntimeHost where
  identity : Nat
  /-- Whether `execute_tool` and `cancellation_requested` are callable. -/
  complete : Bool

/-- What the runtime must not change within a session: `_session_contract`. -/
structure SessionContract where
  provider : PyStr
  model : PyStr
  apiMode : PyStr
  toolSchemaHash : PyStr
  promptSnapshot : PyStr
  deriving DecidableEq

/-- The contract of a request. -/
def RuntimeTurnRequest.contract {db : UnicodeDatabase} (request : RuntimeTurnRequest db) :
    SessionContract :=
  ⟨request.provider, request.model, request.apiMode, request.toolSchemaHash,
    request.promptSnapshot⟩

/-- The session of a runtime, as far as the runtime sees it. -/
structure RuntimeSession where
  /-- How many turns had begun when it was created. -/
  number : Nat
  /-- `configuration.resume_external_session_id`. -/
  resumeId : Option PyStr
  closed : Bool := false
  cancelRequested : Bool := false
  /-- The conversation that its most recent completed turn reported. -/
  reportedId : Option PyStr := none

/-- `can_restart_after_cancel`. -/
def RuntimeSession.canRestartAfterCancel (session : RuntimeSession) : Bool :=
  session.closed && session.cancelRequested

/-- The task that runs `session.run_turn`. -/
inductive SessionTask
  | running
  | ended (ending : Ending)

/-- Whether the task still runs. -/
def SessionTask.isRunning : SessionTask → Bool
  | .running => true
  | .ended _ => false

/-- Where `run_turn` calls `session.cancel()`. -/
inductive CancelSite
  | /-- After the host asked for cancellation, or could not say. -/
    pump
  | /-- After a native tool event, with the phase computed before. -/
    native (phase : RuntimeFailurePhase)
  | /-- In `except asyncio.CancelledError`. -/
    cancelledHandler
  | /-- In `except Exception`. -/
    errorHandler

/-- Whether a call of `session.cancel()` is made by an exception handler. -/
def CancelSite.isHandler : CancelSite → Bool
  | .cancelledHandler | .errorHandler => true
  | .pump | .native _ => false

/-- Where the generator of a turn is suspended. -/
inductive GeneratorPc
  | /-- Awaiting `session.cancel()`. -/
    cancelling (site : CancelSite)
  | /-- Awaiting the queue. -/
    receiving
  | /-- At the `yield` of the pump, with the events of the projection still to come. -/
    yielding (rest : List RuntimeEvent)
  | /-- At `result = await task`, after the pump. -/
    awaitingTask
  | /-- At `await task`, after a native tool event. -/
    awaitingNativeTask (phase : RuntimeFailurePhase)
  | /-- At the `yield` of the state event. -/
    yieldedState (result : SessionTurnResult)
  | /-- At a `yield` after which `run_turn` is over. -/
    yieldedTerminal

/-- The bridge a turn has in its local variable. -/
inductive LocalBridge
  | absent
  | /-- A bridge the runtime does not keep. -/
    fresh
  | /-- `self._bridge`. -/
    bound

/-- A turn in progress: the local variables of `run_turn`, and its history. -/
structure Turn (db : UnicodeDatabase) where
  /-- The number of the turn. -/
  number : Nat
  request : RuntimeTurnRequest db
  pc : GeneratorPc := .receiving
  visible : Bool := false
  terminal : Bool := false
  bridge : LocalBridge := .absent
  bridgeExecutionStart : Nat := 0
  allowedToolNames : List PyStr := []
  cancelSent : Bool := false
  cancellationUnavailable : Bool := false
  provenance : ModelProvenance := {}
  /-- The task, once it is created. -/
  task : Option SessionTask := none
  queue : List ProjectionResult := []
  /-- The session the task runs on, as it was when the task was created. -/
  boundTo : Option RuntimeSession := none
  /-- The events of all projections the session has handed over, in order. -/
  produced : List RuntimeEvent := []
  yielded : List Yielded := []
  /-- How many host tools were executed since the turn began. -/
  executions : Nat := 0
  /-- Whether a call of `session.cancel()` has returned. -/
  cancelReturned : Bool := false
  /-- Whether the turn began while an abandoned task was still running. -/
  behind : Bool := false

/-- How a generator ends. -/
inductive GeneratorEnding
  | /-- It returned, or the host closed it. -/
    over
  | raised

/-- A turn whose generator is over. -/
structure FinishedTurn (db : UnicodeDatabase) where
  turn : Turn db
  ending : GeneratorEnding
  /-- Whether its task was still running and its session not cancelled. -/
  abandoned : Bool

/-- An executed host tool, and whether it was executed for an abandoned turn. -/
structure ToolRun where
  turn : Nat
  abandoned : Bool

/-- What preflight finds outside the request. -/
structure PreflightAnswers where
  /-- `check_model_compatibility(model)`, or `none` where it raises. -/
  compatibility : Option PyValue
  /-- The result of the auth probe, or `none` where it raises. -/
  auth : Option PyValue

/-- What happens to the authorization of turns. -/
inductive AuthorizationEvent
  | /-- A call of `preflight`, with what it found and what it returned. -/
    checked (request : Nat) (answers : PreflightAnswers) (failure : Option RuntimeFailure)
  | /-- `_consume_preflight` found the check of this request. -/
    consumed (turn request : Nat)
  | /-- A turn reached session setup. -/
    entered (turn request : Nat)
  | /-- `close` dropped the check that was waiting. -/
    dropped

/-- `ClaudeAgentSDKRuntime`. -/
structure ClaudeAgentSDKRuntime (db : UnicodeDatabase) where
  preflightRequest : Option Nat := none
  closed : Bool := false
  host : Option Nat := none
  bridge : Option (HostToolBridge db) := none
  contract : Option SessionContract := none
  session : Option RuntimeSession := none
  lastTurnToolObservations : List PyStr := []
  turn : Option (Turn db) := none
  /-- The turns whose generator is over and whose task still runs on a session that
  was not cancelled. -/
  orphans : List Nat := []
  turns : Nat := 0
  finished : List (FinishedTurn db) := []
  toolRuns : List ToolRun := []
  authorizations : List AuthorizationEvent := []

/-- `bridge.host_execution_count`. -/
def ClaudeAgentSDKRuntime.executionCount {db : UnicodeDatabase}
    (r : ClaudeAgentSDKRuntime db) : Nat :=
  r.bridge.elim 0 (·.hostExecutionCount)

end HermesClaude.Runtime
