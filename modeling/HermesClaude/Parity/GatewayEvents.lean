/-
# Gateway events

A gateway reads JSON frames and keeps a projection of each event; an observer behind it
reads the same frames again.  Both decide whether an event ends a turn, each in its own
way: the gateway by a set of kinds, the observer by that set, by suffixes, and by an explicit
outcome wherever it stands.

They agree exactly on the frames whose kind or payload leaves the observer no more to see.
-/

import HermesClaude.Library.Checks
import HermesClaude.Parity.Hashing
import Mathlib.Data.List.Infix

namespace HermesClaude.Parity

open HermesClaude.Python HermesClaude.Library

/-- The parts of the standard library that reading a frame rests on. -/
structure GatewayLibrary where
  /-- `str.casefold`. -/
  casefold : PyStr → PyStr
  /-- `json.dumps(value, ensure_ascii=False, sort_keys=True, separators=(",", ":"),
  allow_nan=False).encode()`, or `none` where it raises. -/
  dumps : PyValue → Option Bytes

/-- A JSON object, by its items. -/
abbrev Frame := List (PyValue × PyValue)

/-- The exceptions of a gateway. -/
inductive GatewayError
  | /-- `EventAccumulatorError`. -/
    accumulator (message : String)
  | /-- `NativeToolEvent`. -/
    nativeTool (message : String)
  | /-- `GatewayProtocolError`. -/
    protocol (message : String)
  | /-- `GatewayTimeout`. -/
    timeout (message : String)
  | /-- `GatewayClosed`. -/
    closed (message : String)
  | /-- `ValueError`. -/
    value (message : String)
  deriving DecidableEq

/-! ## Inventories -/

/-- `MAX_FRAME_BYTES`. -/
def maxFrameBytes : Nat := 1048576

/-- `TOOL_PREFIX`. -/
def toolPrefix : PyStr := lit "mcp__hermes-tools__"

/-- `HOST_TOOLS`. -/
def hostTools : List PyStr :=
  ["memory", "session_search", "skills", "browser", "cron", "terminal", "process_manage",
    "delegate_task", "tool_search", "tool_describe", "tool_call"].map lit

/-- `MCP_TOOLS`. -/
def mcpTools : List PyStr := hostTools.map fun name => toolPrefix ++ name

/-- `TERMINAL_STATUSES`. -/
def terminalStatuses : List PyStr := ["completed", "denied", "failed", "cancelled"].map lit

/-- `_TERMINAL_STATUS_MAP`. -/
def terminalStatusMap : List (PyStr × PyStr) :=
  [(lit "complete", lit "completed"), (lit "completed", lit "completed"),
    (lit "error", lit "failed"), (lit "failed", lit "failed"),
    (lit "interrupted", lit "cancelled"), (lit "cancelled", lit "cancelled"),
    (lit "denied", lit "denied")]

/-- `_NATIVE_TYPES`. -/
def nativeTypes : List PyStr :=
  ["agent", "agent_tool", "tool_use", "tool_result", "server_tool_use", "server_tool_result"].map
    lit

/-- `_HERMES_SUBAGENT_EVENTS`. -/
def hermesSubagentEvents : List PyStr :=
  ["subagent.spawn_requested", "subagent.start", "subagent.complete", "subagent.text",
    "subagent.thinking", "subagent.tool", "subagent.progress"].map lit

/-- `TURN_TERMINAL_TYPES`. -/
def turnTerminalTypes : List PyStr :=
  ["terminal", "message.complete", "session.complete", "run.complete", "task.complete",
    "turn.complete"].map lit

/-! ## The gateway's projection -/

/-- `mapping.get(key)`. -/
def getItem (items : Frame) (key : String) : PyValue :=
  (PyValue.lookupKey items (lit key)).getD .none

/-- `value if isinstance(value, Mapping) else {}`. -/
def asMapping (value : PyValue) : Frame := value.mapping?.getD []

/-- `_params`. -/
def params (frame : Frame) : Frame := asMapping (getItem frame "params")

/-- A character of an identifier, or a slash. -/
def isKindCharacter (c : CodePoint) : Bool := c.isIdentifier || c == 0x2F

/-- `_SAFE_KIND.fullmatch(text)`. -/
def matchesSafeKind (text : PyStr) : Bool :=
  1 ≤ text.length && text.length ≤ 96 && text.all isKindCharacter

/-- `_kind`. -/
def kind (value : PyValue) : Except GatewayError PyStr :=
  match value with
  | .str text =>
    if text ≠ strip text || !matchesSafeKind text then
      .error (.accumulator "event kind is not a bounded identifier")
    else .ok text
  | _ => .error (.accumulator "event kind is not a bounded identifier")

/-- `part in text`. -/
def contains (text : PyStr) (part : String) : Bool := decide (lit part <:+: text)

section Projection

variable (library : GatewayLibrary) (hosts mcps : List PyStr)

/-- The check of `_tool_check` on the type of a mapping: whether the mapping is about a
tool. -/
def typeCheck (hermesEventType : Option PyStr) (toolish : Bool) (typ : PyValue) :
    Except GatewayError Bool :=
  match typ with
  | .str typ =>
    let lowered := library.casefold typ
    let isHermesEvent := hermesEventType = some typ && decide (typ ∈ hermesSubagentEvents)
    if !isHermesEvent && (contains lowered "agent" || decide (lowered ∈ nativeTypes)) then
      .error (.nativeTool "native tool or agent event is not admitted")
    else
      .ok (toolish || contains lowered "tool" || (contains lowered "agent" && !isHermesEvent))
  | _ => .ok toolish

/-- The check of `_tool_check` on one name of a mapping. -/
def nameCheck (toolish : Bool) (name : PyValue) : Except GatewayError Bool :=
  match name with
  | .str name =>
    if name = [] then .ok toolish
    else if name ∈ mcps || (toolish && decide (name ∈ hosts)) then .ok true
    else if toolish then
      .error (.nativeTool "tool request is outside the Hermes MCP namespace")
    else .ok toolish
  | _ => .ok toolish

/-- The keys whose values `_tool_check` looks into. -/
def checkedKeys : List String :=
  ["payload", "content", "content_block", "delta", "event", "request", "result", "tool"]

/-- `_tool_check`, with the number of levels it still looks into; only at the top there is a
Hermes event type. -/
def toolCheck : Nat → Option PyStr → Bool → PyValue → Except GatewayError Unit
  | 0, _, _, _ => .ok ()
  | levels + 1, hermesEventType, toolish, .dict items => do
    let aboutTool ← typeCheck library hermesEventType toolish (getItem items "type")
    let aboutTool ← nameCheck hosts mcps aboutTool (getItem items "name")
    let aboutTool ← nameCheck hosts mcps aboutTool (getItem items "tool_name")
    let aboutTool ← nameCheck hosts mcps aboutTool (getItem items "tool")
    items.forM fun item =>
      if checkedKeys.any fun key => item.1.isText (lit key) then
        toolCheck levels none (aboutTool && !item.1.isText (lit "result")) item.2
      else .ok ()
  | levels + 1, _, toolish, .list items =>
    (items.take 64).forM fun child => toolCheck levels none toolish child
  | levels + 1, _, toolish, .tuple items =>
    (items.take 64).forM fun child => toolCheck levels none toolish child
  | _ + 1, _, _, _ => .ok ()

/-- `OpaqueHandle`, once it is checked. -/
structure OpaqueHandle where
  kind : PyStr
  byteLength : Nat
  sha256 : PyStr
  deriving DecidableEq

/-- `EventProjection`. -/
structure EventProjection where
  eventType : PyStr
  byteLength : Nat
  sha256 : PyStr
  terminalStatus : Option PyStr := none
  projection : Option OpaqueHandle := none
  deriving DecidableEq

/-- The terminal status the gateway finds. -/
def gatewayTerminal (lowered : PyStr) (body : Frame) : Except GatewayError (Option PyStr) :=
  let terminalish := decide (lowered ∈ turnTerminalTypes)
  match (if terminalish then getItem body "terminal_outcome" else .none) with
  | .none =>
    if terminalish then
      match getItem body "status" with
      | .str status =>
        match terminalStatusMap.lookup status with
        | some terminal => .ok (some terminal)
        | none => .error (.accumulator "terminal status is unsupported")
      | _ => .error (.accumulator "terminal status is unsupported")
    else .ok none
  | .str candidate =>
    if candidate ∈ terminalStatuses then .ok (some candidate)
    else .error (.accumulator "terminal outcome is unsupported")
  | _ => .error (.accumulator "terminal outcome is unsupported")

/-- `_event_projection`. -/
def eventProjection (frame : Frame) (encoded : Bytes) : Except GatewayError EventProjection := do
  let eventParams := params frame
  let eventType ← kind (getItem eventParams "type")
  let lowered := library.casefold eventType
  toolCheck library hosts mcps 6 (some eventType) false (.dict eventParams)
  let body := asMapping (getItem eventParams "payload")
  let names := [getItem eventParams "name", getItem eventParams "tool_name",
    getItem eventParams "tool", getItem body "name", getItem body "tool_name", getItem body "tool"]
  let inventory :=
    if lowered ∈ [lit "tool.start", lit "tool.complete"] then hosts else mcps
  if contains lowered "tool" && !decide (eventType ∈ hermesSubagentEvents) &&
      !names.any (fun name => inventory.any name.isText) then
    throw (.nativeTool "tool request is outside the Hermes MCP namespace")
  let terminal ← gatewayTerminal lowered body
  return {
    eventType
    byteLength := encoded.length
    sha256 := hexdigest encoded
    terminalStatus := terminal }

end Projection

/-! ## The observer's reading -/

/-- `V4GatewayObserverViolation`. -/
structure ObserverViolation where
  message : String
  deriving DecidableEq

/-- How a step of the observer fails: with a violation, or with another exception. -/
inductive ObserverFailure
  | violation (violation : ObserverViolation)
  | escaped
  deriving DecidableEq

/-- `_fail`. -/
def fail {α : Type} (message : String) : Except ObserverFailure α := .error (.violation ⟨message⟩)

/-- `if not condition: _fail(message)`. -/
def ensure (condition : Bool) (message : String) : Except ObserverFailure Unit :=
  if condition then .ok () else fail message

/-- The value, or `_fail(message)`. -/
def orFail {α : Type} (value : Option α) (message : String) : Except ObserverFailure α :=
  match value with
  | some a => .ok a
  | none => fail message

/-- The text, where a value is one. -/
def asText : PyValue → Option PyStr
  | .str text => some text
  | _ => none

/-- A character of a kind, or one of `@+#`. -/
def isSafeCharacter (c : CodePoint) : Bool :=
  isKindCharacter c || c == 0x40 || c == 0x2B || c == 0x23

/-- `_SAFE.fullmatch(text)`. -/
def matchesSafe (text : PyStr) : Bool :=
  1 ≤ text.length && text.length ≤ 256 && text.all isSafeCharacter

/-- `_TERMINALS`. -/
def observerTerminals : List (PyStr × PyStr) :=
  [(lit "complete", lit "completed"), (lit "completed", lit "completed"),
    (lit "denied", lit "denied"), (lit "error", lit "failed"), (lit "failed", lit "failed"),
    (lit "interrupted", lit "cancelled"), (lit "cancelled", lit "cancelled")]

/-- `_CHILD`. -/
def childKinds : List PyStr :=
  ["subagent.spawn_requested", "subagent.start", "subagent.complete"].map lit

/-- `text.endswith(endings)`. -/
def endsWithAny (text : PyStr) (endings : List String) : Bool :=
  endings.any fun ending => (lit ending).isSuffixOf text

/-- The suffixes of the kinds that the observer takes for ends of a turn. -/
def terminalSuffixes : List String := [".terminal", ".finished", ".done"]

/-- What `_parts` returns. -/
structure Parts where
  params : Frame
  kind : PyStr
  size : Nat
  digest : PyStr
  terminal : Option PyStr

section Observer

variable (library : GatewayLibrary)

/-- `_digest`. -/
def digest (value : PyValue) : Except ObserverFailure (Nat × PyStr) :=
  match library.dumps value with
  | none => fail "observed frame is not bounded JSON"
  | some raw =>
    if raw.length > maxFrameBytes then fail "observed frame exceeds the bounded size"
    else .ok (raw.length, hexdigest raw)

/-- The terminal status the observer finds. -/
def observerTerminal (lowered : PyStr) (payload : Frame) :
    Except ObserverFailure (Option PyStr) :=
  let terminal := if lowered ∈ childKinds then .none else getItem payload "terminal_outcome"
  let terminal :=
    if terminal.isNone &&
        (decide (lowered ∈ turnTerminalTypes) || endsWithAny lowered terminalSuffixes) then
      match getItem payload "status" with
      | .str status => ((observerTerminals.lookup status).map .str).getD .none
      | _ => .none
    else terminal
  match terminal with
  | .none => .ok none
  | .str status =>
    if status ∈ terminalStatuses then .ok (some status)
    else fail "event terminal status is unsupported"
  | other => if other.hashable then fail "event terminal status is unsupported" else .error .escaped

/-- `_parts`. -/
def parts (value : PyValue) : Except ObserverFailure Parts := do
  let frame ← orFail value.mapping? "observed frame is not a Gateway event"
  ensure ((getItem frame "jsonrpc").isText (lit "2.0") && (getItem frame "method").isText (lit "event"))
    "observed frame is not a Gateway event"
  let eventParams ← orFail (getItem frame "params").mapping? "event type is not bounded"
  let kind ← orFail (asText (getItem eventParams "type")) "event type is not bounded"
  ensure (matchesSafe kind) "event type is not bounded"
  let (size, sha256) ← digest library value
  let payload := asMapping (getItem eventParams "payload")
  let terminal ← observerTerminal (library.casefold kind) payload
  return { params := eventParams, kind, size, digest := sha256, terminal }

end Observer

/-! ## Agreement -/

/-- The observer has no more to see than the gateway: the kind ends a turn, or belongs to a
subagent, or there is no explicit outcome, and no known status under a kind with one of the
observer's suffixes. -/
def TellsNoMore (lowered : PyStr) (payload : Frame) : Prop :=
  lowered ∈ turnTerminalTypes ∨ lowered ∈ childKinds ∨
    (getItem payload "terminal_outcome" = .none ∧
      (endsWithAny lowered terminalSuffixes = true → ∀ status ∈ observerTerminals.map Prod.fst,
        getItem payload "status" ≠ .str status))

/-- Both read the same outcome off a status. -/
theorem terminalStatusMap_lookup (status : PyStr) :
    terminalStatusMap.lookup status = observerTerminals.lookup status := by
  by_cases hknown : status ∈ observerTerminals.map Prod.fst
  · have hsame : ∀ status ∈ observerTerminals.map Prod.fst,
        terminalStatusMap.lookup status = observerTerminals.lookup status := by decide
    exact hsame status hknown
  · have hkeys : ∀ status ∈ terminalStatusMap.map Prod.fst,
        status ∈ observerTerminals.map Prod.fst := by decide
    have hnone : terminalStatusMap.lookup status = none := by
      rw [List.lookup_eq_none_iff]
      intro entry hentry
      rw [bne_iff_ne]
      intro heq
      exact hknown (hkeys status (heq ▸ List.mem_map_of_mem hentry))
    have hnone' : observerTerminals.lookup status = none := by
      rw [List.lookup_eq_none_iff]
      intro entry hentry
      rw [bne_iff_ne]
      intro heq
      exact hknown (heq ▸ List.mem_map_of_mem hentry)
    rw [hnone, hnone']

/-- A known status is read as one of the four outcomes. -/
theorem observerTerminals_lookup {status terminal : PyStr}
    (h : observerTerminals.lookup status = some terminal) :
    status ∈ observerTerminals.map Prod.fst ∧ terminal ∈ terminalStatuses := by
  obtain ⟨before, after, heq, -⟩ := List.lookup_eq_some_iff.mp h
  have hmem : (status, terminal) ∈ observerTerminals := by
    rw [heq]
    exact List.mem_append_right _ List.mem_cons_self
  have hvalues : ∀ entry ∈ observerTerminals, entry.2 ∈ terminalStatuses := by decide
  exact ⟨List.mem_map_of_mem hmem, hvalues _ hmem⟩

section Terminal

variable {lowered : PyStr} {payload : Frame} {seen expected : Option PyStr}

theorem not_child_of_turnTerminal (h : lowered ∈ turnTerminalTypes) : lowered ∉ childKinds := by
  have hdisjoint : ∀ kind ∈ turnTerminalTypes, kind ∉ childKinds := by decide
  exact hdisjoint lowered h

/-- Where the kind ends a turn, both read the outcome, or else the status. -/
theorem observerTerminal_of_turnTerminal (h : lowered ∈ turnTerminalTypes)
    (hgateway : gatewayTerminal lowered payload = .ok expected) :
    observerTerminal lowered payload = .ok expected := by
  have hchild := not_child_of_turnTerminal h
  unfold gatewayTerminal at hgateway
  unfold observerTerminal
  simp only [h, hchild, decide_true, if_true, if_false, Bool.true_or, Bool.and_true] at hgateway ⊢
  cases houtcome : getItem payload "terminal_outcome" with
  | none =>
    rw [houtcome] at hgateway
    dsimp only at hgateway
    split at hgateway
    next status hstatus =>
      split at hgateway
      next terminal hterminal =>
        rw [terminalStatusMap_lookup] at hterminal
        have hvalue := (observerTerminals_lookup hterminal).2
        cases hgateway
        simp [PyValue.isNone, hterminal, hvalue]
      next => cases hgateway
    next => cases hgateway
  | str candidate =>
    rw [houtcome] at hgateway
    dsimp only at hgateway
    split_ifs at hgateway with hcandidate
    cases hgateway
    simp [PyValue.isNone, hcandidate]
  | bool | int | float | bytes | list | tuple | set | dict | object =>
    rw [houtcome] at hgateway
    cases hgateway

/-- Everywhere else the gateway sees nothing. -/
theorem gatewayTerminal_of_other (h : lowered ∉ turnTerminalTypes)
    (hgateway : gatewayTerminal lowered payload = .ok expected) : expected = none := by
  unfold gatewayTerminal at hgateway
  simp only [h, decide_false, Bool.false_eq_true, if_false] at hgateway
  cases hgateway
  rfl

/-- The observer sees nothing of a subagent's event. -/
theorem observerTerminal_of_child (h : lowered ∈ childKinds)
    (hobserver : observerTerminal lowered payload = .ok seen) : seen = none := by
  have hsuffix : ∀ kind ∈ childKinds, kind ∉ turnTerminalTypes ∧
      endsWithAny kind terminalSuffixes = false := by decide
  obtain ⟨hkind, hends⟩ := hsuffix lowered h
  unfold observerTerminal at hobserver
  simp only [h, hkind, hends, decide_false, Bool.or_self, Bool.and_false, Bool.false_eq_true,
    if_true, if_false] at hobserver
  cases hobserver
  rfl

/-- An outcome that an event carries by itself is seen. -/
theorem observerTerminal_of_outcome (hchild : lowered ∉ childKinds)
    (houtcome : getItem payload "terminal_outcome" ≠ .none)
    (hobserver : observerTerminal lowered payload = .ok seen) : seen ≠ none := by
  have hsome : (getItem payload "terminal_outcome").isNone = false := by
    cases hvalue : getItem payload "terminal_outcome" with
    | none => exact absurd hvalue houtcome
    | bool | int | float | str | bytes | list | tuple | set | dict | object => rfl
  unfold observerTerminal at hobserver
  simp only [hchild, if_false, hsome, Bool.false_and, Bool.false_eq_true] at hobserver
  rintro rfl
  split at hobserver
  next hnone => exact houtcome hnone
  next =>
    split_ifs at hobserver
    all_goals cases hobserver
  next =>
    split_ifs at hobserver
    all_goals cases hobserver

/-- What the observer sees of any other event. -/
theorem observerTerminal_of_other (hturn : lowered ∉ turnTerminalTypes)
    (hchild : lowered ∉ childKinds)
    (hobserver : observerTerminal lowered payload = .ok seen) :
    seen = none ↔ getItem payload "terminal_outcome" = .none ∧
      (endsWithAny lowered terminalSuffixes = true → ∀ status ∈ observerTerminals.map Prod.fst,
        getItem payload "status" ≠ .str status) := by
  by_cases houtcome : getItem payload "terminal_outcome" = .none
  case neg =>
    exact iff_of_false (observerTerminal_of_outcome hchild houtcome hobserver) fun h => houtcome h.1
  unfold observerTerminal at hobserver
  simp only [hturn, hchild, houtcome, decide_false, Bool.false_or, if_false] at hobserver
  rw [and_iff_right houtcome]
  by_cases hends : endsWithAny lowered terminalSuffixes = true
  · simp only [hends, PyValue.isNone_none, Bool.and_self, if_true, forall_const] at hobserver ⊢
    cases hstatus : getItem payload "status" with
    | str status =>
      rw [hstatus] at hobserver
      dsimp only at hobserver
      cases hlookup : observerTerminals.lookup status with
      | none =>
        rw [hlookup] at hobserver
        cases hobserver
        apply iff_of_true rfl
        intro known hknown heq
        cases heq
        obtain ⟨entry, hentry, rfl⟩ := List.mem_map.mp hknown
        have hdiffers := List.lookup_eq_none_iff.mp hlookup entry hentry
        simp at hdiffers
      | some terminal =>
        obtain ⟨hknown, hvalue⟩ := observerTerminals_lookup hlookup
        rw [hlookup] at hobserver
        simp only [Option.map_some, Option.getD_some, hvalue, if_true] at hobserver
        cases hobserver
        exact iff_of_false (by rintro ⟨⟩) fun h => h status hknown rfl
    | none | bool | int | float | bytes | list | tuple | set | dict | object =>
      rw [hstatus] at hobserver
      cases hobserver
      simp
  · rw [Bool.not_eq_true] at hends
    simp only [hends, Bool.and_false, Bool.false_eq_true, if_false] at hobserver
    cases hobserver
    exact iff_of_true rfl fun h => nomatch hends.symm.trans h

/-- Both find the same outcome exactly if the observer has no more to see. -/
theorem terminals_agree_iff (hgateway : gatewayTerminal lowered payload = .ok expected)
    (hobserver : observerTerminal lowered payload = .ok seen) :
    seen = expected ↔ TellsNoMore lowered payload := by
  by_cases hturn : lowered ∈ turnTerminalTypes
  · rw [observerTerminal_of_turnTerminal hturn hgateway] at hobserver
    cases hobserver
    exact iff_of_true rfl (.inl hturn)
  · rw [gatewayTerminal_of_other hturn hgateway]
    by_cases hchild : lowered ∈ childKinds
    · exact iff_of_true (observerTerminal_of_child hchild hobserver) (.inr (.inl hchild))
    · rw [observerTerminal_of_other hturn hchild hobserver]
      unfold TellsNoMore
      simp [hturn, hchild]

end Terminal

/-! ## Frames -/

@[simp]
theorem ensure_eq_ok {condition : Bool} {message : String} {u : Unit} :
    ensure condition message = .ok u ↔ condition = true := by
  cases condition with
  | false => simp [ensure, fail]
  | true => simp [ensure]

theorem ensure_bind_eq_ok {α : Type} {condition : Bool} {message : String}
    {f : Unit → Except ObserverFailure α} {a : α} :
    (ensure condition message >>= f) = .ok a ↔ condition = true ∧ f () = .ok a :=
  check_bind_eq_ok

@[simp]
theorem orFail_eq_ok {α : Type} {value : Option α} {message : String} {a : α} :
    orFail value message = .ok a ↔ value = some a :=
  required_eq_ok

theorem asText_eq_some {value : PyValue} {text : PyStr} :
    asText value = some text ↔ value = .str text := by
  cases value <;> simp [asText]

@[simp]
theorem mapping?_eq_some {value : PyValue} {items : Frame} :
    value.mapping? = some items ↔ value = .dict items := by
  cases value <;> simp [PyValue.mapping?]

section Frames

variable {library : GatewayLibrary} {hosts mcps : List PyStr} {frame : Frame} {encoded : Bytes}

/-- What an accepted projection says of the kind and the payload. -/
theorem eventProjection_eq_ok {projection : EventProjection}
    (h : eventProjection library hosts mcps frame encoded = .ok projection) :
    getItem (params frame) "type" = .str projection.eventType ∧
      gatewayTerminal (library.casefold projection.eventType)
        (asMapping (getItem (params frame) "payload")) = .ok projection.terminalStatus := by
  unfold eventProjection at h
  obtain ⟨eventType, hkind, h⟩ := bind_eq_ok.mp h
  obtain ⟨-, -, h⟩ := bind_eq_ok.mp h
  have htype : getItem (params frame) "type" = .str eventType := by
    unfold kind at hkind
    split at hkind
    next text htext =>
      split_ifs at hkind
      cases hkind
      exact htext
    next => cases hkind
  dsimp only at h
  generalize (if library.casefold eventType ∈ [lit "tool.start", lit "tool.complete"] then hosts
    else mcps) = inventory at h
  split_ifs at h
  · cases h
  · obtain ⟨terminal, hterminal, h⟩ := bind_eq_ok.mp h
    cases h
    exact ⟨htype, hterminal⟩

/-- What accepted parts say of the kind and the payload. -/
theorem parts_eq_ok {parts' : Parts} (h : parts library (.dict frame) = .ok parts') :
    getItem (params frame) "type" = .str parts'.kind ∧
      observerTerminal (library.casefold parts'.kind)
        (asMapping (getItem (params frame) "payload")) = .ok parts'.terminal := by
  unfold parts at h
  simp only [bind_eq_ok, orFail_eq_ok, ensure_eq_ok, mapping?_eq_some, asText_eq_some] at h
  obtain ⟨items, hitems, -, -, eventParams, hparams, kind, htype, -, -, measured, -, terminal,
    hterminal, h⟩ := h
  cases hitems
  cases h
  have heq : params frame = eventParams := by rw [params, hparams]; rfl
  rw [heq]
  exact ⟨htype, hterminal⟩

end Frames

/-- On every frame that both accept, the gateway and the observer find the same terminal
status exactly if the observer has no more to see than the gateway. -/
theorem terminal_statuses_agree_iff (library : GatewayLibrary) (hosts mcps : List PyStr)
    {frame : Frame} {encoded : Bytes} {projection : EventProjection} {observed : Parts}
    (hgateway : eventProjection library hosts mcps frame encoded = .ok projection)
    (hobserver : parts library (.dict frame) = .ok observed) :
    observed.terminal = projection.terminalStatus ↔
      TellsNoMore (library.casefold projection.eventType)
        (asMapping (getItem (params frame) "payload")) := by
  obtain ⟨hkind, hexpected⟩ := eventProjection_eq_ok hgateway
  obtain ⟨hkind', hseen⟩ := parts_eq_ok hobserver
  rw [hkind, PyValue.str.injEq] at hkind'
  rw [← hkind'] at hseen
  exact terminals_agree_iff hexpected hseen

/-! ## Small frames -/

/-- A library for ASCII frames, whose encodings nobody looks at. -/
def asciiGatewayLibrary : GatewayLibrary where
  casefold text := text.map CodePoint.asciiLower
  dumps _ := some []

/-- An event frame of the given kind with one entry in its payload. -/
def eventFrame (kind key value : String) : Frame :=
  [(.str (lit "jsonrpc"), .str (lit "2.0")), (.str (lit "method"), .str (lit "event")),
    (.str (lit "params"), .dict [(.str (lit "type"), .str (lit kind)),
      (.str (lit "payload"), .dict [(.str (lit key), .str (lit value))])])]

/-- What a frame is to the gateway. -/
def gatewayStatus (frame : Frame) : Option (Option PyStr) :=
  (eventProjection asciiGatewayLibrary hostTools mcpTools frame []).toOption.map
    EventProjection.terminalStatus

/-- What a frame is to the observer. -/
def observerStatus (frame : Frame) : Option (Option PyStr) :=
  (parts asciiGatewayLibrary (.dict frame)).toOption.map Parts.terminal

theorem eventProjection_of_status {frame : Frame} {status : Option PyStr}
    (h : gatewayStatus frame = some status) :
    ∃ projection, eventProjection asciiGatewayLibrary hostTools mcpTools frame [] =
      .ok projection ∧ projection.terminalStatus = status := by
  unfold gatewayStatus at h
  cases hprojection : eventProjection asciiGatewayLibrary hostTools mcpTools frame [] with
  | error failure =>
    rw [hprojection] at h
    cases h
  | ok projection =>
    rw [hprojection] at h
    cases h
    exact ⟨projection, rfl, rfl⟩

theorem parts_of_status {frame : Frame} {status : Option PyStr}
    (h : observerStatus frame = some status) :
    ∃ observed, parts asciiGatewayLibrary (.dict frame) = .ok observed ∧
      observed.terminal = status := by
  unfold observerStatus at h
  cases hparts : parts asciiGatewayLibrary (.dict frame) with
  | error failure =>
    rw [hparts] at h
    cases h
  | ok observed =>
    rw [hparts] at h
    cases h
    exact ⟨observed, rfl, rfl⟩

theorem terminal_statuses_agree_complete :
    ∃ projection observed,
      eventProjection asciiGatewayLibrary hostTools mcpTools
        (eventFrame "message.complete" "status" "error") [] = .ok projection ∧
      parts asciiGatewayLibrary (.dict (eventFrame "message.complete" "status" "error")) =
        .ok observed ∧
      observed.terminal = projection.terminalStatus := by
  have hgateway : gatewayStatus (eventFrame "message.complete" "status" "error") =
      some (some (lit "failed")) := by decide +kernel
  have hobserver : observerStatus (eventFrame "message.complete" "status" "error") =
      some (some (lit "failed")) := by decide +kernel
  obtain ⟨projection, hprojection, -⟩ := eventProjection_of_status hgateway
  obtain ⟨observed, hobserved, -⟩ := parts_of_status hobserver
  refine ⟨projection, observed, hprojection, hobserved, ?_⟩
  apply (terminal_statuses_agree_iff _ _ _ hprojection hobserved).mpr
  have hkind : .str (lit "message.complete") = PyValue.str projection.eventType :=
    (eventProjection_eq_ok hprojection).1
  rw [PyValue.str.injEq] at hkind
  rw [← hkind]
  exact .inl (by decide)

/-- To the gateway the turn goes on, to the observer it is over. -/
def OverForObserver (frame : Frame) : Prop :=
  ∃ projection observed,
    eventProjection asciiGatewayLibrary hostTools mcpTools frame [] = .ok projection ∧
    parts asciiGatewayLibrary (.dict frame) = .ok observed ∧
    projection.terminalStatus = none ∧ observed.terminal = some (lit "completed")

theorem overForObserver {frame : Frame} (hgateway : gatewayStatus frame = some none)
    (hobserver : observerStatus frame = some (some (lit "completed"))) : OverForObserver frame := by
  obtain ⟨projection, hprojection, hordinary⟩ := eventProjection_of_status hgateway
  obtain ⟨observed, hobserved, hterminal⟩ := parts_of_status hobserver
  exact ⟨projection, observed, hprojection, hobserved, hordinary, hterminal⟩

/-- An ordinary event that carries an outcome, and one whose kind has one of the observer's
suffixes. -/
theorem terminal_statuses_differ :
    OverForObserver (eventFrame "message.delta" "terminal_outcome" "completed") ∧
      OverForObserver (eventFrame "run.finished" "status" "completed") := by
  constructor
  · exact overForObserver (by decide +kernel) (by decide +kernel)
  · exact overForObserver (by decide +kernel) (by decide +kernel)

end HermesClaude.Parity
