/-
# Tool calls

The SDK calls a tool through `handle_tool_call`, which checks the request, asks the
host whether the turn was cancelled, lets the host execute the tool, and asks once
more before it reports the result.  `ToolBridgeRequestError` means that a request was
rejected before host execution, and the execution counter is what the runtime bases
the failure phase of a turn on; both are accounts of the same side effect.

The host is a record of what it does at each of the three points where it is asked,
so that a theorem about every host is a theorem about every such record.
-/

import HermesClaude.Bridge.Tools

namespace HermesClaude.Bridge

open HermesClaude.Python

universe u

/-- The code of a `ToolBridgeRequestError`. -/
inductive ToolBridgeRequestError
  | requestId
  | name
  | unknown
  | arguments
  | cancelled
  | cancellationUnavailable
  deriving DecidableEq

/-- `_REQUEST_MESSAGES`. -/
def ToolBridgeRequestError.message : ToolBridgeRequestError → String
  | .requestId => "Tool request correlation is malformed"
  | .name => "Tool name is malformed"
  | .unknown => "Tool is not available"
  | .arguments => "Tool arguments are malformed"
  | .cancelled => "Tool call cancelled"
  | .cancellationUnavailable => "Tool cancellation state unavailable"

/-- `ToolCallResult`. -/
structure ToolCallResult where
  requestId : PyStr
  correlationId : Option PyStr
  toolName : PyStr
  text : PyStr
  isError : Bool := false

/-- The parts of the standard library that turn a host result into text. -/
structure ResultCodec where
  /-- `json.dumps(copied, …)`, or `none` where it raises. -/
  dumps : Json → Option PyStr
  /-- `json.loads(copied)`, or `none` where it raises. -/
  loads : PyStr → Option Json
  /-- `_redact_secret_like`. -/
  redact : PyStr → PyStr

/-- `set(value) == {"error"}` for a dictionary. -/
def isErrorObject (value : Json) : Bool :=
  match value with
  | .dict entries => !entries.isEmpty && entries.all fun item => item.1 = lit "error"
  | _ => false

/-- The answer for a result the bridge cannot pass on. -/
def unsupportedResult : PyStr × Bool := (lit "Host returned unsupported result", true)

/-- `_result_text`. -/
def resultText {α : Type u} (db : UnicodeDatabase) (codec : ResultCodec) (V : ObjectView α)
    (value : α) : PyStr × Bool :=
  match copyPlainJson V value (maxResultUtf8Bytes * 4) with
  | none => unsupportedResult
  | some copied =>
    match copied.str?.or (codec.dumps copied) with
    | none => unsupportedResult
    | some text =>
      match boundedText db codec.redact text maxResultUtf8Bytes with
      | none => unsupportedResult
      | some bounded =>
        (bounded, isErrorObject copied || (copied.str?.bind codec.loads).any isErrorObject)

/-- What `cancellation_requested` does when it is asked. -/
inductive Probe
  | returns (value : PyValue)
  | raises

/-- `_is_cancelled`. -/
def Probe.isCancelled : Probe → Except ToolBridgeRequestError Bool
  | .returns (.bool b) => .ok b
  | .returns _ => .error .cancellationUnavailable
  | .raises => .error .cancellationUnavailable

/-- What `execute_tool` does when it is called. -/
inductive HostExecution (α : Type u)
  | /-- It raises, at once or when its result is awaited, anything but
    `CancelledError`. -/
    raises
  | /-- `CancelledError`, at once or when its result is awaited. -/
    cancelled
  | notAwaitable
  | /-- It returns an awaitable, which yields a value. -/
    yields (value : α)

/-- A host during one call: its answers, in the order they are asked for. -/
structure HostBehaviour (α : Type u) where
  before : Probe
  execution : HostExecution α
  after : Probe

/-- One call of `host.execute_tool`. -/
structure ToolExecution where
  name : PyStr
  arguments : Json
  requestId : PyStr

/-- How a call ends. -/
inductive CallEnding
  | returned (result : ToolCallResult)
  | rejected (error : ToolBridgeRequestError)
  | raisedCancelled

/-- A finished call: the executions it made and the bridge it leaves behind. -/
structure FinishedCall (db : UnicodeDatabase) where
  ending : CallEnding
  executions : List ToolExecution
  bridge : HostToolBridge db

/-- `_matches_schema` against the schema of a definition. -/
def HostToolDefinition.accepts {db : UnicodeDatabase} (definition : HostToolDefinition db)
    (value : Json) : Bool :=
  matchesSchema (maxJsonDepth + 1) value definition.inputSchema

namespace HostToolBridge

variable {db : UnicodeDatabase}

/-- A request as it is handed to the host. -/
structure ToolRequest where
  requestId : PyStr
  name : PyStr
  arguments : List (PyStr × Json)

section Call

variable {α : Type u} (V : ObjectView α) (codec : ResultCodec)

/-- The checks of `handle_tool_call` that do not involve the host. -/
def checkRequest (bridge : HostToolBridge db) (requestId name : PyValue) (arguments : α) :
    Except ToolBridgeRequestError ToolRequest :=
  match safeIdentifier requestId maxRequestIdUtf8Bytes with
  | none => .error .requestId
  | some id =>
    match name with
    | .str tool =>
      match bridge.definition? tool with
      | none => .error .unknown
      | some definition =>
        match copyPlainJson V arguments with
        | some (.dict copied) =>
          if definition.accepts (.dict copied) then .ok ⟨id, tool, copied⟩ else .error .arguments
        | _ => .error .arguments
    | _ => .error .name

/-- A result of `handle_tool_call`. -/
def result (bridge : HostToolBridge db) (request : ToolRequest) (text : PyStr)
    (isError : Bool) : CallEnding :=
  .returned ⟨request.requestId, bridge.correlationId, request.name, text, isError⟩

/-- `handle_tool_call` once the tool was executed. -/
def reportExecution (bridge : HostToolBridge db) (request : ToolRequest)
    (execution : HostExecution α) (after : Probe) : CallEnding :=
  match execution with
  | .cancelled => .raisedCancelled
  | .raises | .notAwaitable => bridge.result request (lit "Host tool execution failed") true
  | .yields value =>
    match after.isCancelled with
    | .error error => .rejected error
    | .ok true => bridge.result request (lit "Tool call cancelled") true
    | .ok false =>
      let (text, isError) := resultText db codec V value
      bridge.result request text isError

/-- `handle_tool_call`. -/
def handleToolCall (bridge : HostToolBridge db) (requestId name : PyValue) (arguments : α)
    (host : HostBehaviour α) : FinishedCall db :=
  match bridge.checkRequest V requestId name arguments with
  | .error error => ⟨.rejected error, [], bridge⟩
  | .ok request =>
    match host.before.isCancelled with
    | .error error => ⟨.rejected error, [], bridge⟩
    | .ok true => ⟨.rejected .cancelled, [], bridge⟩
    | .ok false =>
      let bridge := { bridge with hostExecutionCount := bridge.hostExecutionCount + 1 }
      ⟨bridge.reportExecution V codec request host.execution host.after,
        [⟨request.name, .dict request.arguments, request.requestId⟩], bridge⟩

/-- A decimal number with at least four digits. -/
def paddedCount (n : Nat) : PyStr :=
  let digits := lit (toString n)
  List.replicate (4 - digits.length) 0x30 ++ digits

/-- `_next_sdk_request_id`, with the bridge that has counted the call. -/
def nextSdkRequestId (bridge : HostToolBridge db) : PyStr × HostToolBridge db :=
  let bridge := { bridge with sdkCallCount := bridge.sdkCallCount + 1 }
  let suffix := lit "sdk-call-" ++ paddedCount bridge.sdkCallCount
  let correlated := match bridge.correlationId with
    | none | some [] => lit "sdk"
    | some correlation => correlation
  let candidate := correlated ++ lit ":" ++ suffix
  ((safeIdentifier (.str candidate) maxRequestIdUtf8Bytes).getD suffix, bridge)

/-- The handler that `_make_sdk_handler` makes for a tool: what the SDK is told, or
`none` where the handler raises, and the call itself. -/
def sdkHandler (bridge : HostToolBridge db) (name : PyStr) (arguments : α)
    (host : HostBehaviour α) : Option ToolCallResult × FinishedCall db :=
  let (requestId, bridge) := bridge.nextSdkRequestId
  let call := bridge.handleToolCall V codec (.str requestId) (.str name) arguments host
  (match call.ending with
    | .returned result => some result
    | .rejected error =>
      some ⟨requestId, call.bridge.correlationId, name, lit error.message, true⟩
    | .raisedCancelled => none,
  call)

end Call

/-! ## Accounting -/

section Accounting

variable {α : Type u} (V : ObjectView α) (codec : ResultCodec)

/-- A request the bridge admits: a valid request id, the name of a declared tool, and
arguments whose copy is a dictionary that matches the tool's schema. -/
structure Admits (bridge : HostToolBridge db) (requestId name : PyValue) (arguments : α)
    (request : ToolRequest) : Prop where
  requestId : safeIdentifier requestId maxRequestIdUtf8Bytes = some request.requestId
  name : name = .str request.name
  copied : copyPlainJson V arguments = some (.dict request.arguments)
  accepted : ∃ definition ∈ bridge.definition? request.name,
    definition.accepts (.dict request.arguments) = true

/-- The account a call has to give: a rejected request was never executed, and every
other one was executed once, as it was admitted, and counted once. -/
def Accounted (bridge : HostToolBridge db) (requestId name : PyValue) (arguments : α)
    (call : FinishedCall db) : Prop :=
  match call.ending with
  | .rejected _ =>
    call.executions = [] ∧ call.bridge.hostExecutionCount = bridge.hostExecutionCount
  | .returned _ | .raisedCancelled =>
    (∃ request, bridge.Admits V requestId name arguments request ∧
      Shows V arguments (.dict request.arguments) ∧
      call.executions = [⟨request.name, .dict request.arguments, request.requestId⟩]) ∧
    call.bridge.hostExecutionCount = bridge.hostExecutionCount + 1

/-- The host executes the tool and its answer to the second question is unusable. -/
structure LosesCancellation (host : HostBehaviour α) : Prop where
  before : host.before = .returns (.bool false)
  executes : ∃ value, host.execution = .yields value
  after : ∀ b, host.after ≠ .returns (.bool b)

variable {V codec} {bridge : HostToolBridge db} {requestId name : PyValue} {arguments : α}
  {host : HostBehaviour α}

theorem isCancelled_eq_ok_iff {probe : Probe} {b : Bool} :
    probe.isCancelled = .ok b ↔ probe = .returns (.bool b) := by
  cases probe with
  | raises => simp [Probe.isCancelled]
  | returns value => cases value <;> simp [Probe.isCancelled]

/-- The checks succeed exactly on the requests the bridge admits. -/
theorem checkRequest_eq_ok_iff {request : ToolRequest} :
    bridge.checkRequest V requestId name arguments = .ok request ↔
      bridge.Admits V requestId name arguments request := by
  constructor
  · intro h
    unfold checkRequest at h
    split at h
    next => cases h
    next id hid =>
      split at h
      next tool =>
        split at h
        next => cases h
        next definition hdefinition =>
          split at h
          next copied hcopied =>
            split_ifs at h with haccepts
            cases h
            exact ⟨hid, rfl, hcopied, definition, hdefinition, haccepts⟩
          next => cases h
      next => cases h
  · rintro ⟨hid, rfl, hcopied, definition, hdefinition, haccepts⟩
    simp [checkRequest, hid, hcopied, Option.mem_def.mp hdefinition, haccepts]

variable (codec) in
/-- A call that is not admitted, or that the first question stops, has no effect. -/
theorem handleToolCall_of_not_executed
    (h : ∀ request, bridge.Admits V requestId name arguments request →
      host.before ≠ .returns (.bool false)) :
    ∃ error, bridge.handleToolCall V codec requestId name arguments host =
      ⟨.rejected error, [], bridge⟩ := by
  unfold handleToolCall
  cases hcheck : bridge.checkRequest V requestId name arguments with
  | error error => exact ⟨error, rfl⟩
  | ok request =>
    cases hbefore : host.before.isCancelled with
    | error error => exact ⟨error, rfl⟩
    | ok b =>
      cases b with
      | true => exact ⟨.cancelled, rfl⟩
      | false => exact absurd (isCancelled_eq_ok_iff.mp hbefore) (h _ (checkRequest_eq_ok_iff.mp hcheck))

/-- An admitted call that the first question lets pass executes the tool. -/
theorem handleToolCall_of_executed {request : ToolRequest}
    (hadmits : bridge.Admits V requestId name arguments request)
    (hbefore : host.before = .returns (.bool false)) :
    bridge.handleToolCall V codec requestId name arguments host =
      ⟨HostToolBridge.reportExecution V codec
          { bridge with hostExecutionCount := bridge.hostExecutionCount + 1 } request
          host.execution host.after,
        [⟨request.name, .dict request.arguments, request.requestId⟩],
        { bridge with hostExecutionCount := bridge.hostExecutionCount + 1 }⟩ := by
  rw [handleToolCall, checkRequest_eq_ok_iff.mpr hadmits, isCancelled_eq_ok_iff.mpr hbefore]

variable (V codec bridge) in
/-- After the execution an error can only come from the second question. -/
theorem reportExecution_rejected_iff (request : ToolRequest) (execution : HostExecution α)
    (after : Probe) :
    (∃ error, bridge.reportExecution V codec request execution after = .rejected error) ↔
      (∃ value, execution = .yields value) ∧ ∀ b, after ≠ .returns (.bool b) := by
  cases execution with
  | raises | notAwaitable => simp [reportExecution, result]
  | cancelled => simp [reportExecution]
  | yields value =>
    have hanswer : (∀ b, after ≠ .returns (.bool b)) ↔ ∃ error, after.isCancelled = .error error := by
      cases hafter : after.isCancelled with
      | error error =>
        have : ∀ b, after ≠ .returns (.bool b) := fun b hb => by
          rw [isCancelled_eq_ok_iff.mpr hb] at hafter
          cases hafter
        simpa using this
      | ok b =>
        have := isCancelled_eq_ok_iff.mp hafter
        simp [this]
    rw [hanswer]
    simp only [reportExecution, HostExecution.yields.injEq, exists_eq', true_and]
    cases hafter : after.isCancelled with
    | error error => simp
    | ok b => cases b <;> simp [result]

/-- **Tool execution accounting.** Whatever the host does, a call gives a true account
of what it executed, unless an admitted request was executed, its result arrived, and
the cancellation question asked after that has no Boolean answer. -/
theorem call_accounted_iff (bridge : HostToolBridge db) (requestId name : PyValue)
    (arguments : α) (host : HostBehaviour α) :
    bridge.Accounted V requestId name arguments
        (bridge.handleToolCall V codec requestId name arguments host) ↔
      ¬ ((∃ request, bridge.Admits V requestId name arguments request) ∧
        LosesCancellation host) := by
  by_cases hexecuted : (∃ request, bridge.Admits V requestId name arguments request) ∧
      host.before = .returns (.bool false)
  · obtain ⟨⟨request, hadmits⟩, hbefore⟩ := hexecuted
    have hrejected := reportExecution_rejected_iff V codec
      { bridge with hostExecutionCount := bridge.hostExecutionCount + 1 } request
      host.execution host.after
    rw [handleToolCall_of_executed hadmits hbefore, Accounted]
    generalize HostToolBridge.reportExecution V codec _ request host.execution host.after = ending
      at hrejected ⊢
    have haccount : (∃ request', bridge.Admits V requestId name arguments request' ∧
        Shows V arguments (.dict request'.arguments) ∧
        [ToolExecution.mk request.name (.dict request.arguments) request.requestId] =
          [⟨request'.name, .dict request'.arguments, request'.requestId⟩]) ∧
        bridge.hostExecutionCount + 1 = bridge.hostExecutionCount + 1 :=
      ⟨⟨request, hadmits, copyPlainJson_shows hadmits.copied, rfl⟩, rfl⟩
    cases ending with
    | rejected error =>
      obtain ⟨hexecutes, hafter⟩ := hrejected.mp ⟨error, rfl⟩
      refine ⟨fun h => absurd h.1 (by simp), fun h => ?_⟩
      exact absurd ⟨⟨request, hadmits⟩, hbefore, hexecutes, hafter⟩ h
    | returned _ | raisedCancelled =>
      refine ⟨fun _ h => ?_, fun _ => haccount⟩
      obtain ⟨_, heq⟩ := hrejected.mpr ⟨h.2.executes, h.2.after⟩
      cases heq
  · have hstopped : ∀ request, bridge.Admits V requestId name arguments request →
        host.before ≠ .returns (.bool false) :=
      fun request hadmits hbefore => hexecuted ⟨⟨request, hadmits⟩, hbefore⟩
    obtain ⟨error, hcall⟩ := handleToolCall_of_not_executed codec hstopped
    rw [hcall, Accounted]
    exact ⟨fun _ h => hexecuted ⟨h.1, h.2.before⟩, fun _ => ⟨rfl, rfl⟩⟩

end Accounting

/-! ## A tool that ran although its call was rejected -/

/-- `{"name": "deploy", "input_schema": {"type": "object"}}`. -/
def deploySpec : Json :=
  .dict [(lit "name", .str (lit "deploy")),
    (lit "input_schema", .dict [(lit "type", .str (lit "object"))])]

/-- A host that executes the tool and whose cancellation state is gone afterwards. -/
def failingHost : HostBehaviour Json where
  before := .returns (.bool false)
  execution := .yields .null
  after := .raises

/-- The tool is executed and the call is rejected as if it had not been. -/
theorem rejected_after_execution :
    ∃ bridge, create asciiDatabase Json.view true (.list [deploySpec]) = .ok bridge ∧
      ∀ codec, ¬ bridge.Accounted Json.view (.str (lit "r-1")) (.str (lit "deploy")) (.dict [])
        (bridge.handleToolCall Json.view codec (.str (lit "r-1")) (.str (lit "deploy"))
          (.dict []) failingHost) := by
  refine ⟨_, rfl, fun codec haccounted => ?_⟩
  exact List.cons_ne_nil _ _ haccounted.1

end HostToolBridge

end HermesClaude.Bridge
