/-
# The state of an SDK session

`SDKSession` owns one SDK client, one reader task and a lock that serialises
turns.  Its coroutines interleave only at their `await`s, so the state records,
next to the object's own fields, where each coroutine is suspended: the turn that
holds the turn lock, the `close` call that holds the close lock, and the reader.

Callers that merely wait for a lock have no effect on the session and are not
part of the state; a call enters it when it obtains the lock.

The last fields are history: what the reader received, what reached a projector,
which queries were issued and how turns ended.  No step reads them.
-/

import HermesClaude.Billing.Evidence
import HermesClaude.Content.ZeroNative
import HermesClaude.Library.Channel
import HermesClaude.Session.Compaction

namespace HermesClaude.Session

open HermesClaude.Python HermesClaude.Billing HermesClaude.Content HermesClaude.Library

/-- `SessionOutcome`. -/
inductive SessionOutcome
  | complete
  | cancelled
  | billingBlocked
  | timedOut
  | failed
  | closed
  deriving DecidableEq

/-- `SessionTurnResult`, with its state update inlined. -/
structure SessionTurnResult where
  outcome : SessionOutcome
  finalText : Option PyStr := none
  externalSessionId : Option PyStr := none
  billingDecision : Option BillingDecision := none
  errorCode : Option String := none
  retryable : Bool := false

/-- What a turn inbox holds: an SDK message with its position in the stream, or
one of the control markers. -/
inductive Item
  | message (position : Nat) (message : PyValue)
  | cancelled
  | nativeToolViolation
  | postTerminalOutput
  | compactionWatchdogExpired
  | streamEnded (failed : Bool)

/-- The message an item carries, with its position. -/
def Item.message? : Item → Option (Nat × PyValue)
  | .message position content => some (position, content)
  | _ => none

/-- Whether an item is one of the two markers of a protocol violation. -/
def Item.isViolation : Item → Bool
  | .nativeToolViolation | .postTerminalOutput => true
  | _ => false

/-- The reader task. -/
inductive Reader
  | /-- No reader was ever created. -/
    absent
  | /-- The task exists and has not run yet. -/
    created
  | running
  | /-- `reader.cancel()` was called and the task has not ended yet. -/
    cancelling
  | finished
  deriving DecidableEq

/-- Whether the reader still consumes the client's stream. -/
def Reader.live : Reader → Bool
  | .created | .running => true
  | .absent | .cancelling | .finished => false

/-- The local variables of a turn that outlive an iteration of its loop. -/
structure Locals where
  evidence : Option SDKBillingEvidence := none
  finalText : Option PyStr := none
  externalSessionId : Option PyStr := none

/-- What the projector and the callback value of one message will be: the
projector may raise, and otherwise decides the final text. -/
inductive Projection
  | raises
  | projects (finalText : Option PyStr)

/-- Where a `close` call is suspended. -/
inductive CloseStage
  | /-- Awaiting the close lock, which another call holds. -/
    acquiring
  | /-- Awaiting `self._compaction.end_turn(completed=False)`. -/
    endingCompaction
  | /-- Awaiting `client.disconnect()`. -/
    disconnecting
  | /-- Awaiting the cancelled reader. -/
    stoppingReader
  deriving DecidableEq

/-- How a turn ends: its result, or the exception it raises. -/
inductive Ending
  | returned (result : SessionTurnResult)
  | raisedCancelled
  | raisedError

/-- How `run_turn` goes on after tearing the client down. -/
inductive After
  | /-- Return before an inbox was published. -/
    leave (result : SessionTurnResult)
  | /-- `start` re-raises what its `connect` raised. -/
    startFailed (cancelled : Bool)
  | /-- A `return` inside the `try`. -/
    finish (result : SessionTurnResult)
  | /-- The `return` of the `except Exception` handler. -/
    handled (result : SessionTurnResult)
  | /-- The shielded `cancel` task of the `except CancelledError` handler. -/
    reraise

/-- Where the turn that holds the turn lock is suspended. -/
inductive TurnPc
  | /-- Awaiting `client.connect()`. -/
    connecting
  | /-- Awaiting `client.query(prompt)`. -/
    querying
  | /-- Awaiting `inbox.get()`. -/
    receiving (locals : Locals)
  | /-- Awaiting `self._compaction.handle_message(message)`. -/
    boundary (locals : Locals) (position : Nat) (message : PyValue) (projection : Projection)
  | /-- Awaiting the billing callback before an immediate block. -/
    blocking (locals : Locals) (decision : BillingDecision)
  | /-- Awaiting the projection callback of an ordinary message. -/
    projecting (locals : Locals) (finalText : Option PyStr)
  | /-- Awaiting the billing callback of the result. -/
    resultBilling (locals : Locals) (position : Nat) (message : PyValue)
      (decision : BillingDecision) (projection : Projection)
  | /-- Awaiting the projection callback of the result. -/
    resultProjecting (locals : Locals) (message : PyValue) (decision : BillingDecision)
      (finalText : Option PyStr)
  | /-- Awaiting `asyncio.sleep(0)`. -/
    resultSettling (locals : Locals) (message : PyValue) (decision : BillingDecision)
  | /-- The `cancel` task of the `except CancelledError` handler has not started. -/
    cleanup
  | /-- Awaiting `client.interrupt()`. -/
    interrupting (after : After)
  | /-- Inside `close`. -/
    closing (stage : CloseStage) (after : After)
  | /-- Awaiting `self._compaction.end_turn(...)` in the `finally` block. -/
    retiring (ending : Ending)

/-- What the reader made of a message. -/
inductive Fate
  | /-- It was put into the active inbox. -/
    delivered
  | /-- It broke the zero-native boundary. -/
    native
  | /-- It came after the result, or while no inbox was active. -/
    postTerminal
  | /-- The zero-native check raised on it. -/
    unchecked
  deriving DecidableEq

/-- The marker that tells an active inbox of a message it does not get. -/
def Fate.marker : Fate → Option Item
  | .native => some .nativeToolViolation
  | .postTerminal => some .postTerminalOutput
  | .delivered | .unchecked => none

/-- One message the reader received. -/
structure Reception where
  message : PyValue
  /-- The turn whose inbox was active. -/
  inbox : Option Nat
  fate : Fate
  /-- How many turns had entered when it was received. -/
  entered : Nat

/-- A message handed to a projector. -/
structure ProjectedMessage where
  turn : Nat
  position : Nat

/-- An issued query, with the reader at that moment. -/
structure Query where
  turn : Nat
  reader : Reader

/-- A finished turn, with its inbox as it was then. -/
structure Finished where
  turn : Nat
  ending : Ending
  inbox : Channel Item

/-- `SDKSession`. -/
structure SDKSession where
  /-- Whether `_client` is set. -/
  client : Bool := false
  reader : Reader := .absent
  /-- Whether `_reader_task` is set. -/
  readerTask : Bool := false
  /-- The turn whose inbox `_active_inbox` is. -/
  activeInbox : Option Nat := none
  turnTerminalSeen : Bool := false
  postTerminalOutput : Bool := false
  postTerminalNativeViolation : Bool := false
  streamToolIndexes : StreamToolIndexes := []
  closed : Bool := false
  cancelRequested : Bool := false
  compaction : Lifecycle := {}
  /-- The number of turns that have obtained the turn lock; also the identity of
  the latest one. -/
  turnId : Nat := 0
  turn : Option TurnPc := none
  /-- The inbox of the latest turn, empty until it is published. -/
  inbox : Channel Item := Channel.empty
  /-- A `close` call of another task that holds the close lock. -/
  closer : Option CloseStage := none
  stream : List Reception := []
  projected : List ProjectedMessage := []
  queries : List Query := []
  finished : List Finished := []

/-- `type(message).__name__ == "ResultMessage"`. -/
def isResult (message : PyValue) : Bool := message.typeName == "ResultMessage"

/-- A terminal failure of a result, as safe to log: its code, and whether a retry
may help. -/
def classifyResultFailure (message : PyValue) : String × Bool :=
  let byReason : Option String :=
    match message.safeAttr "terminal_reason" with
    | .str reason =>
      if reason = lit "api_error" then some "sdk_terminal_api_error"
      else if reason = lit "max_turns" then some "sdk_terminal_max_turns"
      else none
    | _ => none
  let bySubtype : Option String :=
    match message.safeAttr "subtype" with
    | .str subtype =>
      if subtype = lit "error_during_execution" then some "sdk_result_error_during_execution"
      else if subtype = lit "error_max_turns" then some "sdk_result_error_max_turns"
      else none
    | _ => none
  let unclassified := ((byReason.or bySubtype).getD "sdk_result_failed", false)
  match message.safeAttr "api_error_status" with
  | .int status =>
    if 400 ≤ status ∧ status ≤ 599 then
      if status = 401 ∨ status = 403 then (s!"sdk_api_auth_{status}", false)
      else if status = 402 then ("sdk_api_billing_402", false)
      else if status = 408 then ("sdk_api_timeout_408", true)
      else if status = 429 then ("sdk_api_rate_limit_429", true)
      else if status = 503 ∨ status = 529 then (s!"sdk_api_overloaded_{status}", true)
      else if 500 ≤ status then (s!"sdk_api_server_error_{status}", true)
      else (s!"sdk_api_error_{status}", false)
    else unclassified
  | _ => unclassified

/-- The session id a result reports, if it is one the session accepts. -/
def reportedSessionId (message : PyValue) : Option PyStr :=
  match message.safeAttr "session_id" with
  | .str id =>
    if 0 < id.length ∧ id.length ≤ 512 ∧ id.all fun c => !c.isAsciiControl then some id else none
  | _ => none

end HermesClaude.Session
