/-
# The steps of an SDK session

A step takes one coroutine from one suspension to the next, and a label says which
one and what it was resumed with.  `run_turn` is cut at its `await`s into the
functions below, in the order of the source; `close` is shared by the turn that
tears its own client down and by other tasks.

Acquiring a free lock does not suspend, so `close` takes a free close lock in the
same step.  Waiting for the transition lock of the compaction lifecycle is a
suspension of its own whether or not the lock is free, which only adds schedules.
-/

import HermesClaude.Session.State
import HermesClaude.Library.System

namespace HermesClaude.Session

open HermesClaude.Python HermesClaude.Billing HermesClaude.Content HermesClaude.Library

/-- The prompt of a `run_turn` call. -/
inductive Prompt
  | text (s : PyStr)
  | /-- An `SDKTurnInput`. -/
    rich
  | other

/-- Whether `run_turn` accepts the prompt. -/
def Prompt.valid : Prompt → Bool
  | .text s => !(strip s).isEmpty
  | .rich => true
  | .other => false

/-- How the operation a turn awaits comes back. -/
inductive Resume
  | completed
  | /-- `inbox.get()` returns; the projection is what the projector would make of
    the item. -/
    item (projection : Projection)
  | /-- An `Exception`. -/
    raised
  | timedOut
  | /-- `CancelledError`, because the turn's task was cancelled. -/
    cancelled

/-- One step of the session. -/
inductive Label
  | /-- A `run_turn` call obtains the turn lock, or is rejected before it; where
    there is no client yet, `constructs` says whether building one succeeds. -/
    runTurn (prompt : Prompt) (constructs : Bool)
  | turn (resume : Resume)
  | /-- The reader task runs for the first time. -/
    readerStart
  | receive (message : PyValue)
  | /-- The SDK message stream ends, or fails. -/
    streamEnd (failed : Bool)
  | /-- The cancelled reader ends. -/
    readerCancelled
  | /-- Another task calls `cancel`; its `close` is a label of its own. -/
    cancel
  | /-- Another task calls `close` and obtains the close lock. -/
    close
  | /-- That task goes on, or is cancelled. -/
    closer (resume : Resume)
  | /-- The SDK invokes the PreCompact hook, and the hook obtains the lock. -/
    preCompact (trigger : Trigger)
  | /-- The hook or the watchdog, suspended inside the lock, goes on. -/
    compaction
  | /-- The hook task is cancelled inside the lock. -/
    hookCancelled
  | /-- The watchdog's sleep is over and it obtains the lock. -/
    watchdog

/-- What a session is configured with. -/
structure SessionContext where
  unicode : UnicodeDatabase
  /-- `configuration.allowed_tools`. -/
  allowedTools : List PyStr

namespace SDKSession

/-! ## Primitive updates -/

/-- `inbox.put_nowait(item)` on the active inbox, if there is one.  An inbox that
stayed active after its turn is never read again. -/
def put (s : SDKSession) (item : Item) : SDKSession :=
  { s with inbox := if s.activeInbox = some s.turnId then s.inbox.send item else s.inbox }

/-- The `put_nowait` of the watchdog callback that `bind` installed. -/
def putWatchdog (s : SDKSession) (bound : Option Nat) : SDKSession :=
  { s with
    inbox := if bound = some s.turnId then s.inbox.send .compactionWatchdogExpired
      else s.inbox }

/-- `run_turn` ends and the turn lock is released. -/
def leave (s : SDKSession) (ending : Ending) : SDKSession :=
  { s with turn := none, finished := s.finished ++ [⟨s.turnId, ending, s.inbox⟩] }

/-- The `finally` block up to its `await`: the inbox is retired. -/
def retire (s : SDKSession) (ending : Ending) : SDKSession :=
  { s with
    activeInbox := if s.activeInbox = some s.turnId then none else s.activeInbox
    turnTerminalSeen := false
    streamToolIndexes := []
    turn := some (.retiring ending) }

/-- The message is passed to the turn's projector. -/
def project (s : SDKSession) (position : Nat) : SDKSession :=
  { s with projected := s.projected ++ [⟨s.turnId, position⟩] }

/-! ## Closing -/

/-- Whether some `close` call holds the close lock. -/
def closeLockHeld (s : SDKSession) : Bool :=
  s.closer.isSome ||
    match s.turn with
    | some (.closing stage _) => decide (stage ≠ .acquiring)
    | _ => false

/-- `reader.cancel()`: a task that never ran ends at once. -/
def cancelReader : Reader → Reader
  | .absent => .absent
  | .created => .finished
  | .running => .cancelling
  | .cancelling => .cancelling
  | .finished => .finished

/-- The end of `close`: the reader task is cancelled and awaited. -/
def stopReader (s : SDKSession) : SDKSession × Option CloseStage :=
  if s.readerTask then
    ({ s with readerTask := false, reader := cancelReader s.reader }, some .stoppingReader)
  else (s, none)

/-- `close` after `end_turn`: the marker for the active inbox, then the client. -/
def dropClient (s : SDKSession) : SDKSession × Option CloseStage :=
  let s := s.put .cancelled
  if s.client then ({ s with client := false }, some .disconnecting) else stopReader s

/-- `close` goes on from a suspension: the new stage, or `none` when it returns. -/
def closeAdvance (s : SDKSession) : CloseStage → Option (SDKSession × Option CloseStage)
  | .acquiring =>
    if s.closeLockHeld then none
    else if s.closed then some (s, none)
    else some ({ s with closed := true }, some .endingCompaction)
  | .endingCompaction =>
    if s.compaction.heldBy .close then
      let s := { s with compaction := s.compaction.resume }
      if s.compaction.op.isSome then some (s, some .endingCompaction) else some (dropClient s)
    else if s.compaction.op.isSome then none
    else
      let s := { s with compaction := s.compaction.endTurn false .close }
      if s.compaction.heldBy .close then some (s, some .endingCompaction)
      else some (dropClient s)
  | .disconnecting => some (stopReader s)
  | .stoppingReader => some (s, none)

/-- `run_turn` goes on after its teardown. -/
def resumeAfter (s : SDKSession) : After → SDKSession
  | .leave result => s.leave (.returned result)
  | .startFailed true => s.leave .raisedCancelled
  | .startFailed false =>
    s.leave (.returned { outcome := .failed, errorCode := some "sdk_start_failed" })
  | .finish result => s.retire (.returned result)
  | .handled result => s.retire (.returned result)
  | .reraise => s.retire .raisedCancelled

/-- The turn's `close` goes on to the given stage, or is done. -/
def atStage (s : SDKSession) (stage : Option CloseStage) (after : After) : SDKSession :=
  match stage with
  | some stage => { s with turn := some (.closing stage after) }
  | none => s.resumeAfter after

/-- The turn calls `close`; a free lock is taken without suspending. -/
def enterClose (s : SDKSession) (after : After) : SDKSession :=
  match s.closeAdvance .acquiring with
  | some (t, stage) => t.atStage stage after
  | none => s.atStage (some .acquiring) after

/-- `_interrupt_then_close`. -/
def interruptThenClose (s : SDKSession) (after : After) : SDKSession :=
  if s.client then { s with turn := some (.interrupting after) } else s.enterClose after

/-- Whether the turn's own `close` holds the lock of the compaction lifecycle. -/
def holdsCompaction (s : SDKSession) : Bool :=
  match s.turn with
  | some (.closing .endingCompaction _) => s.compaction.heldBy .close
  | _ => false

/-- `CancelledError` in the turn's teardown.  The shielded cleanup does not notice it. -/
def cancelTeardown (s : SDKSession) (after : After) : SDKSession :=
  let abandoned :=
    if s.holdsCompaction then { s with compaction := s.compaction.abandon } else s
  match after with
  | .leave _ | .startFailed _ => abandoned.leave .raisedCancelled
  | .finish _ => { abandoned with turn := some .cleanup }
  | .handled _ => abandoned.retire .raisedCancelled
  | .reraise => s

/-! ## Entering a turn -/

/-- `run_turn` after `start`: the inbox is published and the query issued.  The
compaction callbacks are bound outside the `try`. -/
def publish (s : SDKSession) : SDKSession :=
  if s.cancelRequested then s.leave (.returned { outcome := .cancelled })
  else
    let s := { s with
      activeInbox := some s.turnId
      turnTerminalSeen := false
      streamToolIndexes := [] }
    if s.compaction.active then s.leave .raisedError
    else
      let s := { s with compaction := s.compaction.bind s.turnId }
      if s.client then
        { s with queries := s.queries ++ [⟨s.turnId, s.reader⟩], turn := some .querying }
      else
        s.interruptThenClose
          (.handled { outcome := .failed, errorCode := some "sdk_turn_failed" })

/-- `run_turn` once it holds the turn lock, up to its first suspension. -/
def enter (s : SDKSession) (constructs : Bool) : SDKSession :=
  let s := { s with turnId := s.turnId + 1, inbox := Channel.empty }
  if s.closed then
    s.leave (.returned { outcome := .closed, errorCode := some "session_closed" })
  else if s.postTerminalNativeViolation then
    { s with postTerminalNativeViolation := false, postTerminalOutput := false }.interruptThenClose
      (.leave { outcome := .failed, errorCode := some "sdk_native_tool_unsupported" })
  else if s.postTerminalOutput then
    { s with postTerminalOutput := false }.interruptThenClose
      (.leave { outcome := .failed, errorCode := some "sdk_post_terminal_output" })
  else if s.client then s.publish
  else if !constructs then
    s.leave (.returned { outcome := .failed, errorCode := some "sdk_start_failed" })
  else { s with client := true, turn := some .connecting }

/-! ## The turn loop -/

/-- A failed result with what the turn has so far. -/
def failedWith (locals : Locals) (code : String) : SessionTurnResult :=
  { outcome := .failed
    finalText := locals.finalText
    externalSessionId := locals.externalSessionId
    errorCode := some code }

/-- A billing block with what the turn has so far. -/
def billingBlockedWith (locals : Locals) (decision : BillingDecision) : SessionTurnResult :=
  { outcome := .billingBlocked
    finalText := locals.finalText
    externalSessionId := locals.externalSessionId
    billingDecision := some decision
    errorCode := some "sdk_billing_blocked" }

/-- The `except Exception` handler. -/
def failTurn (s : SDKSession) (locals : Locals) : SDKSession :=
  s.interruptThenClose (.handled (failedWith locals "sdk_turn_failed"))

/-- `return SessionTurnResult(TIMED_OUT, …)` after the teardown. -/
def timeOut (s : SDKSession) : SDKSession :=
  s.interruptThenClose (.finish { outcome := .timedOut, errorCode := some "sdk_turn_timeout" })

/-- What a turn keeps of the session id a result reports. -/
def withSessionId (locals : Locals) (message : PyValue) : Locals :=
  match reportedSessionId message with
  | some id => { locals with externalSessionId := some id }
  | none => locals

@[simp]
theorem withSessionId_evidence (locals : Locals) (message : PyValue) :
    (withSessionId locals message).evidence = locals.evidence := by
  unfold withSessionId
  split <;> rfl

variable (C : SessionContext)

/-- The evidence after a message. -/
def observeEvidence (locals : Locals) (message : PyValue) : Locals :=
  match extractSdkBillingEvidence C.unicode message with
  | none => locals
  | some update => { locals with evidence := some (mergeEvidence locals.evidence update) }

/-- Whether the message carried evidence that blocks at once. -/
def blocksAtOnce (locals : Locals) (message : PyValue) : Bool :=
  (extractSdkBillingEvidence C.unicode message).isSome &&
    (classifySdkBilling C.unicode (observeEvidence C locals message).evidence).immediate

/-- The loop body after `handle_message`: billing, then projection or the result. -/
def dispatch (s : SDKSession) (locals : Locals) (position : Nat) (message : PyValue)
    (projection : Projection) : SDKSession :=
  let seen := observeEvidence C locals message
  if blocksAtOnce C locals message then
    { s with turn := some (.blocking seen (classifySdkBilling C.unicode seen.evidence)) }
  else if !isResult message then
    match projection with
    | .raises => (s.project position).failTurn seen
    | .projects finalText =>
      { s.project position with turn := some (.projecting seen finalText) }
  else
    let named := withSessionId seen message
    { s with
      turn := some (.resultBilling named position message
        (classifySdkBilling C.unicode named.evidence) projection) }

/-- Whether `handle_message` looks for a boundary at all. -/
def isBoundary (s : SDKSession) (message : PyValue) : Bool :=
  message.typeName == "SystemMessage" &&
    (message.safeAttr "subtype").isText (lit "compact_boundary") && s.compaction.active

/-- The trigger a boundary message reports. -/
def boundaryTrigger (message : PyValue) : Trigger :=
  match (message.safeAttr "data").mapping? with
  | none => .auto
  | some data =>
    let read (key : String) : PyValue := (PyValue.lookupKey data (lit key)).getD .none
    let metadata := if (read "compact_metadata").truthy then read "compact_metadata"
      else read "compactMetadata"
    match metadata.mapping? with
    | none => .auto
    | some fields => trigger ((PyValue.lookupKey fields (lit "trigger")).getD .none)

/-- The loop body from the dequeued item to `handle_message`. -/
def handleItem (s : SDKSession) (locals : Locals) (item : Item) (projection : Projection) :
    SDKSession :=
  if s.cancelRequested then s.retire (.returned { outcome := .cancelled })
  else
    match item with
    | .cancelled => s.retire (.returned { outcome := .cancelled })
    | .nativeToolViolation =>
      s.interruptThenClose (.finish (failedWith locals "sdk_native_tool_unsupported"))
    | .postTerminalOutput =>
      s.interruptThenClose (.finish (failedWith locals "sdk_post_terminal_output"))
    | .compactionWatchdogExpired =>
      s.interruptThenClose
        (.finish { outcome := .failed, errorCode := some "sdk_compaction_watchdog" })
    | .streamEnded failed =>
      s.retire (.returned
        (failedWith locals (if failed then "sdk_stream_failed" else "sdk_stream_ended")))
    | .message position message =>
      if s.isBoundary message then
        { s with turn := some (.boundary locals position message projection) }
      else s.dispatch C locals position message projection

/-- The drain loop: how many waiting items it takes, and the violation that stops
it, if any does. -/
def trailing : List Item → Nat × Option Item
  | [] => (0, none)
  | .postTerminalOutput :: _ => (1, some .postTerminalOutput)
  | .nativeToolViolation :: _ => (1, some .nativeToolViolation)
  | _ :: rest => ((trailing rest).1 + 1, (trailing rest).2)

/-- The result after the drain found no violation. -/
def concludeResult (s : SDKSession) (locals : Locals) (message : PyValue)
    (decision : BillingDecision) : SDKSession :=
  let ended (outcome : SessionOutcome) : SessionTurnResult :=
    { outcome := outcome
      finalText := locals.finalText
      externalSessionId := locals.externalSessionId
      billingDecision := some decision }
  match (message.safeAttr "terminal_reason").memTexts
      [lit "aborted_streaming", lit "aborted_tools"] with
  | none => s.failTurn locals
  | some true => s.retire (.returned (ended .cancelled))
  | some false =>
    match message.safeAttr "is_error" with
    | .bool true =>
      s.retire (.returned { ended .failed with
        errorCode := some (classifyResultFailure message).1
        retryable := (classifyResultFailure message).2 })
    | _ => s.retire (.returned (ended .complete))

/-- The loop body after `asyncio.sleep(0)`. -/
def settle (s : SDKSession) (locals : Locals) (message : PyValue) (decision : BillingDecision) :
    SDKSession :=
  let found := trailing s.inbox.queue
  let s := { s with inbox := s.inbox.drain found.1 }
  match found.2 with
  | some .nativeToolViolation =>
    s.interruptThenClose (.finish (failedWith locals "sdk_native_tool_unsupported"))
  | some _ => s.interruptThenClose (.finish (failedWith locals "sdk_post_terminal_output"))
  | none => s.concludeResult locals message decision

/-- The text a projection leaves the turn with. -/
def withText (locals : Locals) (finalText : Option PyStr) : Locals :=
  { locals with finalText := finalText.or locals.finalText }

/-- The turn's task is cancelled inside the `try`. -/
def cancelTurn (s : SDKSession) : SDKSession :=
  let s := if s.compaction.heldBy .boundary then { s with compaction := s.compaction.abandon }
    else s
  { s with turn := some .cleanup }

/-- The turn resumes inside `handle_message`. -/
def resumeBoundary (s : SDKSession) (locals : Locals) (position : Nat) (message : PyValue)
    (projection : Projection) : Option SDKSession :=
  if s.compaction.heldBy .boundary then
    let s := { s with compaction := s.compaction.resume }
    if s.compaction.op.isSome then some s
    else some (s.dispatch C locals position message projection)
  else if s.compaction.op.isSome then none
  else
    let s := { s with compaction := s.compaction.complete (boundaryTrigger message) }
    if s.compaction.heldBy .boundary then some s
    else some (s.dispatch C locals position message projection)

/-- Whether a turn ended with `turn_completed` set. -/
def Ending.completed : Ending → Bool
  | .returned result => decide (result.outcome = .complete)
  | _ => false

/-- The turn resumes inside `end_turn` of its `finally` block. -/
def resumeRetiring (s : SDKSession) (ending : Ending) : Option SDKSession :=
  if s.compaction.heldBy .endOfTurn then
    let s := { s with compaction := s.compaction.resume }
    if s.compaction.op.isSome then some s else some (s.leave ending)
  else if s.compaction.op.isSome then none
  else
    let s := { s with
      compaction := s.compaction.endTurn (Ending.completed ending) .endOfTurn }
    if s.compaction.heldBy .endOfTurn then some s else some (s.leave ending)

/-- The shielded `cancel` task starts. -/
def startCleanup (s : SDKSession) : SDKSession :=
  if s.closed then s.retire .raisedCancelled
  else ({ s with cancelRequested := true }.put .cancelled).interruptThenClose .reraise

/-- The turn goes on from where it is suspended. -/
def turnStep (s : SDKSession) (pc : TurnPc) (resume : Resume) : Option SDKSession :=
  match pc, resume with
  | .connecting, .completed =>
    some { s with reader := .created, readerTask := true }.publish
  | .connecting, .cancelled => some (s.enterClose (.startFailed true))
  | .connecting, .raised | .connecting, .timedOut => some (s.enterClose (.startFailed false))
  | .querying, .completed => some { s with turn := some (.receiving {}) }
  | .querying, .timedOut => some s.timeOut
  | .querying, .raised => some (s.failTurn {})
  | .receiving locals, .item projection =>
    match s.inbox.receive with
    | none => none
    | some (item, inbox) => some ({ s with inbox := inbox }.handleItem C locals item projection)
  | .receiving _, .timedOut => if s.compaction.active then some s else some s.timeOut
  | .boundary locals position message projection, .completed =>
    s.resumeBoundary C locals position message projection
  | .blocking locals decision, .completed =>
    some (s.interruptThenClose (.finish (billingBlockedWith locals decision)))
  | .blocking locals _, .raised => some (s.failTurn locals)
  | .projecting locals finalText, .completed =>
    some { s with turn := some (.receiving (withText locals finalText)) }
  | .projecting locals _, .raised => some (s.failTurn locals)
  | .resultBilling locals position message decision projection, .completed =>
    if !decision.allowed then some (s.enterClose (.finish (billingBlockedWith locals decision)))
    else
      match projection with
      | .raises => some ((s.project position).failTurn locals)
      | .projects finalText =>
        some { s.project position with
          turn := some (.resultProjecting locals message decision finalText) }
  | .resultBilling locals _ _ _ _, .raised => some (s.failTurn locals)
  | .resultProjecting locals message decision finalText, .completed =>
    some { s with turn := some (.resultSettling (withText locals finalText) message decision) }
  | .resultProjecting locals _ _ _, .raised => some (s.failTurn locals)
  | .resultSettling locals message decision, .completed =>
    some (s.settle locals message decision)
  | .cleanup, .completed => some s.startCleanup
  | .interrupting after, .completed | .interrupting after, .raised
  | .interrupting after, .timedOut => some (s.enterClose after)
  | .interrupting after, .cancelled => some (s.cancelTeardown after)
  | .closing stage after, .completed =>
    (s.closeAdvance stage).map fun next => next.1.atStage next.2 after
  | .closing _ after, .cancelled => some (s.cancelTeardown after)
  | .retiring ending, .completed => s.resumeRetiring ending
  | .retiring _, .cancelled =>
    let s := if s.compaction.heldBy .endOfTurn then
      { s with compaction := s.compaction.abandon } else s
    some (s.leave .raisedCancelled)
  | .querying, .cancelled | .receiving _, .cancelled | .boundary _ _ _ _, .cancelled
  | .blocking _ _, .cancelled | .projecting _ _, .cancelled
  | .resultBilling _ _ _ _ _, .cancelled | .resultProjecting _ _ _ _, .cancelled
  | .resultSettling _ _ _, .cancelled => some s.cancelTurn
  | _, _ => none

/-! ## The reader -/

/-- The `finally` block of the reader. -/
def endReader (s : SDKSession) (failed : Bool) : SDKSession :=
  { s with reader := .finished }.put (.streamEnded failed)

/-- The history entry of a received message. -/
def record (s : SDKSession) (message : PyValue) (fate : Fate) : SDKSession :=
  { s with stream := s.stream ++ [⟨message, s.activeInbox, fate, s.turnId⟩] }

/-- The reader has found a zero-native violation. -/
def rejectNative (s : SDKSession) (message : PyValue) : SDKSession :=
  let s := s.record message .native
  if s.activeInbox.isSome then s.put .nativeToolViolation
  else { s with postTerminalNativeViolation := true }

/-- The reader passes an admitted message on. -/
def deliver (s : SDKSession) (message : PyValue) : SDKSession :=
  if s.activeInbox.isSome then
    if s.turnTerminalSeen then (s.record message .postTerminal).put .postTerminalOutput
    else
      { (s.record message .delivered).put (.message s.stream.length message) with
        turnTerminalSeen := isResult message }
  else { s.record message .postTerminal with postTerminalOutput := true }

/-- The reader receives a message.  A check that raises ends the reader. -/
def receive (s : SDKSession) (message : PyValue) : SDKSession :=
  match zeroNativeViolation message C.allowedTools s.streamToolIndexes with
  | none => (s.record message .unchecked).endReader true
  | some (true, indexes) => { s with streamToolIndexes := indexes }.rejectNative message
  | some (false, indexes) => { s with streamToolIndexes := indexes }.deliver message

/-! ## Other tasks -/

/-- The hook or the watchdog goes on inside the transition lock; the watchdog
notifies the turn it is bound to after its event. -/
def resumeCompaction (s : SDKSession) : Option SDKSession :=
  match s.compaction.op with
  | some .starting => some { s with compaction := s.compaction.resume }
  | some (.emitting .watchdog) =>
    some ({ s with compaction := s.compaction.resume }.putWatchdog s.compaction.bound)
  | _ => none

/-- One step. -/
def next (s : SDKSession) : Label → Option SDKSession
  | .runTurn prompt constructs =>
    if !prompt.valid then some s
    else if s.turn.isSome then none
    else some (s.enter constructs)
  | .turn resume =>
    match s.turn with
    | none => none
    | some pc => s.turnStep C pc resume
  | .readerStart =>
    if s.reader ≠ .created then none
    else if s.client then some { s with reader := .running }
    else some (s.endReader true)
  | .receive message => if s.reader = .running then some (s.receive C message) else none
  | .streamEnd failed => if s.reader = .running then some (s.endReader failed) else none
  | .readerCancelled => if s.reader = .cancelling then some (s.endReader false) else none
  | .cancel =>
    if s.closed then some s else some ({ s with cancelRequested := true }.put .cancelled)
  | .close =>
    if s.closeLockHeld then none
    else if s.closed then some s
    else some { s with closed := true, closer := some .endingCompaction }
  | .closer .completed =>
    match s.closer with
    | none => none
    | some stage => (s.closeAdvance stage).map fun next => { next.1 with closer := next.2 }
  | .closer .cancelled =>
    if s.closer.isNone then none
    else if s.compaction.heldBy .close then
      some { s with closer := none, compaction := s.compaction.abandon }
    else some { s with closer := none }
  | .closer _ => none
  | .preCompact t =>
    if s.compaction.op.isSome then none
    else some { s with compaction := s.compaction.start t }
  | .compaction => s.resumeCompaction
  | .hookCancelled =>
    match s.compaction.op with
    | some .starting => some { s with compaction := s.compaction.abandon }
    | _ => none
  | .watchdog =>
    if s.compaction.op.isSome || !s.compaction.watchdogTask then none
    else some { s with compaction := s.compaction.expire }

end SDKSession

/-- The session as a transition system. -/
def sessionSystem (C : SessionContext) : System SDKSession Label where
  init := {}
  next := SDKSession.next C

end HermesClaude.Session
