/-
# Event accumulators

An accumulator takes event frames one by one and keeps a projection of each.  It refuses
frames about native tools: `_tool_check` walks through the parameters of an event, along the
keys that may hold another object and along lists.

The walk ends at a depth and at a width, and what lies beyond is let through.
-/

import HermesClaude.Library.Entries
import HermesClaude.Parity.GatewayQueue

namespace HermesClaude.Parity

open HermesClaude.Python HermesClaude.Library

/-- `MAX_EVENTS`. -/
def maxEvents : Nat := 10000

/-- What an accumulator is built with. -/
structure AccumulatorConfig where
  gateway : GatewayConfig
  /-- `json.loads`, or `none` where it raises. -/
  loads : Bytes → Option PyValue
  maxEvents : Nat := maxEvents

/-- `EventAccumulator`. -/
structure Accumulator where
  events : List EventProjection := []
  counts : List (PyStr × Nat) := []
  bytes : Nat := 0
  terminal : Option PyStr := none
  deriving DecidableEq

/-- What is given to `add`. -/
inductive EventInput
  | mapping (items : Frame)
  | bytes (raw : Bytes)
  | text (text : PyStr)
  | other

/-- What `add` raises. -/
inductive AccumulatorError
  | gateway (error : GatewayError)
  | /-- `DuplicateTerminalError`. -/
    duplicateTerminal
  | /-- `PostTerminalEventError`. -/
    postTerminal
  deriving DecidableEq

section Add

variable (config : AccumulatorConfig)

/-- `_load` of encoded JSON. -/
def loadBytes (raw : Bytes) : Except GatewayError (Frame × Bytes) :=
  if raw.length > maxFrameBytes then .error (.protocol "frame exceeds the bounded size")
  else
    match config.loads raw with
    | none => .error (.protocol "frame is not valid JSON")
    | some (.dict items) => .ok (items, raw)
    | some _ => .error (.protocol "frame must be a JSON object")

/-- `_load`. -/
def loadInput : EventInput → Except GatewayError (Frame × Bytes)
  | .mapping items => (load config.gateway items).map fun encoded => (items, encoded)
  | .bytes raw => loadBytes config raw
  | .text text =>
    match encodeUtf8 text with
    | none => .error (.value "surrogates not allowed")
    | some raw => loadBytes config raw
  | .other => .error (.protocol "frame must be a mapping or JSON text")

/-- `_load` and `_event_projection` of what is given. -/
def projectInput (input : EventInput) : Except GatewayError EventProjection := do
  let (frame, encoded) ← loadInput config input
  if !(getItem frame "jsonrpc").isText (lit "2.0") || !(getItem frame "method").isText (lit "event") then
    throw (.accumulator "frame is not a gateway event")
  eventProjection config.gateway.library config.gateway.hosts config.gateway.mcps frame encoded

/-- `EventAccumulator.add`. -/
def Accumulator.add (s : Accumulator) (input : EventInput) :
    Except AccumulatorError (EventProjection × Accumulator) := do
  let projection ← (projectInput config input).mapError .gateway
  if s.terminal.isSome then
    throw (if projection.terminalStatus.isSome then .duplicateTerminal else .postTerminal)
  if s.events.length ≥ config.maxEvents then
    throw (.gateway (.accumulator "event sequence exceeds the bounded count"))
  let seen := (s.counts.lookup projection.eventType).getD 0
  return (projection, {
    events := s.events ++ [projection]
    counts := setEntry projection.eventType (seen + 1) s.counts
    bytes := s.bytes + projection.byteLength
    terminal := match projection.terminalStatus with
      | some status => some status
      | none => s.terminal })

end Add

/-! ## Positions -/

/-- A text that names a native type. -/
def isNativeType (text : PyStr) : Bool := contains text "agent" || decide (text ∈ nativeTypes)

/-- An object whose type is native, as it is written or without regard to case. -/
def IsNative (library : GatewayLibrary) (value : PyValue) : Prop :=
  ∃ items typ, value = .dict items ∧ getItem items "type" = .str typ ∧
    (isNativeType typ = true ∨ isNativeType (library.casefold typ) = true)

/-- An object with the type of one of Hermes' own subagent events. -/
def IsSubagentEvent (value : PyValue) : Prop :=
  ∃ items typ, value = .dict items ∧ getItem items "type" = .str typ ∧ typ ∈ hermesSubagentEvents

/-- The values that are reached through inspected keys and list elements: how deep they lie,
and whether only the first elements of lists lead there. -/
inductive Position (root : PyValue) : Nat → Bool → PyValue → Prop
  | root : Position root 0 true root
  | item {depth : Nat} {shown : Bool} {items : Frame} {entry : PyValue × PyValue} :
    Position root depth shown (.dict items) → entry ∈ items →
    (checkedKeys.any fun key => entry.1.isText (lit key)) = true →
    Position root (depth + 1) shown entry.2
  | element {depth index : Nat} {shown : Bool} {value child : PyValue} {items : List PyValue} :
    Position root depth shown value → value.sequence? = some items → items[index]? = some child →
    Position root (depth + 1) (shown && decide (index < 64)) child

/-- A position that the walk does not come to: it lies too deep, or too far back in a list. -/
def IsBeyond (depth : Nat) (shown : Bool) : Prop := 5 < depth ∨ shown = false

section Walk

variable {library : GatewayLibrary} {hosts mcps : List PyStr}

/-- What the walk says of an object it comes to. -/
theorem toolCheck_dict {levels : Nat} {hermesEventType : Option PyStr} {toolish : Bool}
    {items : Frame}
    (h : toolCheck library hosts mcps (levels + 1) hermesEventType toolish (.dict items) = .ok ()) :
    (∃ aboutTool, typeCheck library hermesEventType toolish (getItem items "type") =
        .ok aboutTool) ∧
      ∀ entry ∈ items, (checkedKeys.any fun key => entry.1.isText (lit key)) = true →
        ∃ toolish', toolCheck library hosts mcps levels none toolish' entry.2 = .ok () := by
  rw [toolCheck, bind_eq_ok] at h
  rcases h with ⟨aboutTool, htype, h⟩
  simp only [bind_eq_ok] at h
  rcases h with ⟨_, _, _, _, last, _, h⟩
  refine ⟨⟨aboutTool, htype⟩, ?_⟩
  intro entry hentry hkey
  have hcheck := forM_eq_ok.mp h entry hentry
  rw [if_pos hkey] at hcheck
  exact ⟨_, hcheck⟩

/-- What the walk says of a list it comes to. -/
theorem toolCheck_sequence {levels : Nat} {hermesEventType : Option PyStr} {toolish : Bool}
    {value : PyValue} {items : List PyValue} (hitems : value.sequence? = some items)
    (h : toolCheck library hosts mcps (levels + 1) hermesEventType toolish value = .ok ()) :
    ∀ child ∈ items.take 64, toolCheck library hosts mcps levels none toolish child = .ok () := by
  cases value with
  | list elements | tuple elements =>
    cases hitems
    rw [toolCheck] at h
    exact forM_eq_ok.mp h
  | none | bool | int | float | str | bytes | set | dict | object => cases hitems

/-- **One walk.** Every position within the limits is checked, with the levels that are left;
only the root is checked under the type of the event. -/
theorem toolCheck_of_position {root value : PyValue} {depth levels : Nat} {shown : Bool}
    {eventType : Option PyStr} {toolish : Bool}
    (hroot : toolCheck library hosts mcps levels eventType toolish root = .ok ())
    (hposition : Position root depth shown value) (hshown : shown = true)
    (hdepth : depth ≤ levels) :
    (depth = 0 ∧ value = root) ∨
      (depth ≠ 0 ∧ ∃ toolish', toolCheck library hosts mcps (levels - depth) none toolish' value =
        .ok ()) := by
  induction hposition with
  | root => exact .inl ⟨rfl, rfl⟩
  | item hparent hentry hkey ih =>
    rename_i depth shown items entry
    have hchecked : ∃ hermesEventType toolish', toolCheck library hosts mcps
        (levels - (depth + 1) + 1) hermesEventType toolish' (.dict items) = .ok () := by
      have hlevels : levels - (depth + 1) + 1 = levels - depth := by omega
      rw [hlevels]
      rcases ih hshown (by omega) with ⟨hzero, heq⟩ | ⟨-, toolish', h⟩
      · rw [hzero, heq]
        exact ⟨_, _, hroot⟩
      · exact ⟨_, _, h⟩
    rcases hchecked with ⟨_, _, h⟩
    exact .inr ⟨by omega, (toolCheck_dict h).2 entry hentry hkey⟩
  | element hparent hitems hchild ih =>
    rename_i depth index shown value child items
    rw [Bool.and_eq_true, decide_eq_true_eq] at hshown
    have hchecked : ∃ hermesEventType toolish', toolCheck library hosts mcps
        (levels - (depth + 1) + 1) hermesEventType toolish' value = .ok () := by
      have hlevels : levels - (depth + 1) + 1 = levels - depth := by omega
      rw [hlevels]
      rcases ih hshown.1 (by omega) with ⟨hzero, heq⟩ | ⟨-, toolish', h⟩
      · rw [hzero, heq]
        exact ⟨_, _, hroot⟩
      · exact ⟨_, _, h⟩
    rcases hchecked with ⟨_, toolish', h⟩
    have hmem : child ∈ items.take 64 := by
      apply List.mem_of_getElem? (i := index)
      rw [List.getElem?_take, if_pos hshown.2, hchild]
    exact .inr ⟨by omega, toolish', toolCheck_sequence hitems h child hmem⟩

/-- A checked type is not native, except for that of the event itself. -/
theorem typeCheck_eq_ok {hermesEventType : Option PyStr} {toolish aboutTool : Bool} {typ : PyStr}
    (h : typeCheck library hermesEventType toolish (.str typ) = .ok aboutTool)
    (hnative : isNativeType (library.casefold typ) = true) :
    hermesEventType = some typ ∧ typ ∈ hermesSubagentEvents := by
  by_contra hother
  have hfalse : (decide (hermesEventType = some typ) && decide (typ ∈ hermesSubagentEvents)) =
      false := by
    simpa using hother
  unfold isNativeType at hnative
  simp only [typeCheck, hfalse, Bool.not_false, Bool.true_and] at h
  rw [if_pos hnative] at h
  cases h

/-- Only the root lies at depth zero. -/
theorem Position.eq_root {root value : PyValue} {depth : Nat} {shown : Bool}
    (h : Position root depth shown value) (hdepth : depth = 0) : shown = true ∧ value = root := by
  cases h with
  | root => exact ⟨rfl, rfl⟩
  | item => cases hdepth
  | element => cases hdepth

/-- What an accepted event says of the walk through its parameters. -/
theorem toolCheck_of_add {config : AccumulatorConfig} {s t : Accumulator} {input : EventInput}
    {projection : EventProjection} {frame : Frame} {encoded : Bytes}
    (hload : loadInput config input = .ok (frame, encoded))
    (hadd : s.add config input = .ok (projection, t)) :
    ∃ eventType, toolCheck config.gateway.library config.gateway.hosts config.gateway.mcps 6
      (some eventType) false (.dict (params frame)) = .ok () := by
  unfold Accumulator.add at hadd
  rcases bind_eq_ok.mp hadd with ⟨projection', hprojection, -⟩
  have hproject : projectInput config input = .ok projection' := by
    cases hresult : projectInput config input with
    | error failure =>
      rw [hresult] at hprojection
      cases hprojection
    | ok found =>
      rw [hresult] at hprojection
      cases hprojection
      rfl
  unfold projectInput at hproject
  rw [hload] at hproject
  rcases bind_eq_ok.mp hproject with ⟨loaded, hloaded, hevent⟩
  cases hloaded
  dsimp only at hevent
  split_ifs at hevent
  · cases hevent
  · unfold eventProjection at hevent
    rcases bind_eq_ok.mp hevent with ⟨eventType, -, hrest⟩
    rcases bind_eq_ok.mp hrest with ⟨⟨⟩, hcheck, -⟩
    exact ⟨eventType, hcheck⟩

end Walk

/-- **Native tool events.** An accepted event is free of native objects, apart from Hermes' own
subagent events, exactly if none hides where the walk does not come to. -/
theorem no_native_position_iff (config : AccumulatorConfig) {s t : Accumulator}
    {input : EventInput} {projection : EventProjection} {frame : Frame} {encoded : Bytes}
    (hfold : ∀ text, isNativeType text = true →
      isNativeType (config.gateway.library.casefold text) = true)
    (hload : loadInput config input = .ok (frame, encoded))
    (hadd : s.add config input = .ok (projection, t)) :
    (∀ depth shown value, Position (.dict (params frame)) depth shown value →
        IsNative config.gateway.library value → depth = 0 ∧ IsSubagentEvent value) ↔
      ∀ depth shown value, Position (.dict (params frame)) depth shown value →
        IsBeyond depth shown → ¬ IsNative config.gateway.library value := by
  constructor
  · intro h depth shown value hposition hbeyond hnative
    have hdepth := (h depth shown value hposition hnative).1
    have hshown := (hposition.eq_root hdepth).1
    rcases hbeyond with hdeep | hcut
    · omega
    · simp [hshown] at hcut
  · intro h depth shown value hposition hnative
    have hwithin : ¬ IsBeyond depth shown := fun hbeyond => h depth shown value hposition hbeyond hnative
    unfold IsBeyond at hwithin
    rw [not_or, Bool.not_eq_false] at hwithin
    rcases toolCheck_of_add hload hadd with ⟨eventType, hroot⟩
    rcases hnative with ⟨items, typ, rfl, htyp, hname⟩
    have hfolded : isNativeType (config.gateway.library.casefold typ) = true :=
      hname.elim (hfold typ) id
    rcases toolCheck_of_position hroot hposition hwithin.2 (by omega) with
      ⟨hzero, heq⟩ | ⟨-, toolish, hcheck⟩
    · rw [← heq] at hroot
      rcases (toolCheck_dict hroot).1 with ⟨aboutTool, htype⟩
      rw [htyp] at htype
      exact ⟨hzero, items, typ, rfl, htyp, (typeCheck_eq_ok htype hfolded).2⟩
    · have hlevels : 6 - depth = 5 - depth + 1 := by omega
      rw [hlevels] at hcheck
      rcases (toolCheck_dict hcheck).1 with ⟨aboutTool, htype⟩
      rw [htyp] at htype
      exact absurd (typeCheck_eq_ok htype hfolded).1 (by simp)

/-! ## Small events -/

/-- Folding ASCII text letter by letter keeps native names. -/
theorem isNativeType_asciiLower {text : PyStr} (h : isNativeType text = true) :
    isNativeType (text.map CodePoint.asciiLower) = true := by
  unfold isNativeType contains at h ⊢
  rw [Bool.or_eq_true, decide_eq_true_eq, decide_eq_true_eq] at h ⊢
  rcases h with hagent | hmem
  · have hlower : (lit "agent").map CodePoint.asciiLower = lit "agent" := by decide
    rw [← hlower]
    exact .inl (hagent.map CodePoint.asciiLower)
  · have hlower : ∀ typ ∈ nativeTypes, typ.map CodePoint.asciiLower = typ := by decide
    rw [hlower text hmem]
    exact .inr hmem

/-- An accumulator whose library encodes one frame, as the given text. -/
def spelledAccumulator (text : String) : AccumulatorConfig where
  gateway := {
    library := { asciiGatewayLibrary with dumps := fun _ => encodeUtf8 (lit text) }
    bounded := asciiGateway.bounded }
  loads _ := none

/-- The result of a first event. -/
theorem add_of_isSome {config : AccumulatorConfig} {input : EventInput}
    (h : (({} : Accumulator).add config input).toOption.isSome = true) :
    ∃ projection t, ({} : Accumulator).add config input = .ok (projection, t) := by
  cases hadd : ({} : Accumulator).add config input with
  | error failure =>
    rw [hadd] at h
    cases h
  | ok result => exact ⟨result.1, result.2, rfl⟩

/-- The text of a small event. -/
def helloText : String :=
  "\x7b\"jsonrpc\":\"2.0\",\"method\":\"event\",\"params\":" ++
    "\x7b\"payload\":\x7b\"text\":\"hello\"\x7d,\"type\":\"message.delta\"\x7d\x7d"

theorem no_native_position_hello :
    ∃ frame encoded projection t,
      loadInput (spelledAccumulator helloText) (.mapping (eventFrame "message.delta" "text" "hello")) =
        .ok (frame, encoded) ∧
      ({} : Accumulator).add (spelledAccumulator helloText)
        (.mapping (eventFrame "message.delta" "text" "hello")) = .ok (projection, t) ∧
      ((∀ depth shown value, Position (.dict (params frame)) depth shown value →
          IsNative (spelledAccumulator helloText).gateway.library value →
            depth = 0 ∧ IsSubagentEvent value) ↔
        ∀ depth shown value, Position (.dict (params frame)) depth shown value →
          IsBeyond depth shown → ¬ IsNative (spelledAccumulator helloText).gateway.library value) := by
  have hsome : (({} : Accumulator).add (spelledAccumulator helloText)
      (.mapping (eventFrame "message.delta" "text" "hello"))).toOption.isSome = true := by
    decide +kernel
  rcases add_of_isSome hsome with ⟨projection, t, hadd⟩
  cases hload : loadInput (spelledAccumulator helloText)
      (.mapping (eventFrame "message.delta" "text" "hello")) with
  | error failure =>
    unfold Accumulator.add projectInput at hadd
    rw [hload] at hadd
    cases hadd
  | ok loaded =>
    exact ⟨loaded.1, loaded.2, projection, t, rfl, hadd,
      no_native_position_iff _ (fun text h => isNativeType_asciiLower h) hload hadd⟩

/-- A value inside so many objects, each under `content`. -/
def nest : Nat → PyValue → PyValue
  | 0, value => value
  | depth + 1, value => .dict [(.str (lit "content"), nest depth value)]

/-- `content` is one of the keys that the walk follows. -/
theorem content_checked :
    (checkedKeys.any fun key => (PyValue.str (lit "content")).isText (lit key)) = true := by
  decide

theorem position_nest {root value : PyValue} {depth : Nat} {shown : Bool} (levels : Nat)
    (h : Position root depth shown (nest levels value)) :
    Position root (depth + levels) shown value := by
  induction levels generalizing depth with
  | zero => exact h
  | succ levels ih =>
    have hchild : Position root (depth + 1) shown (nest levels value) :=
      h.item List.mem_cons_self content_checked
    have hvalue := ih hchild
    rwa [Nat.add_right_comm] at hvalue

/-- An event with the given payload. -/
def payloadFrame (payload : PyValue) : Frame :=
  [(.str (lit "jsonrpc"), .str (lit "2.0")), (.str (lit "method"), .str (lit "event")),
    (.str (lit "params"), .dict [(.str (lit "type"), .str (lit "message.delta")),
      (.str (lit "payload"), payload)])]

/-- A native agent event. -/
def agentObject : PyValue := .dict [(.str (lit "type"), .str (lit "Agent"))]

/-- An agent event below the limit of depth. -/
def deepFrame : Frame := payloadFrame (nest 5 agentObject)

/-- An agent event after the limit of width. -/
def wideFrame : Frame :=
  payloadFrame (.dict [(.str (lit "content"), .list (List.replicate 64 .none ++ [agentObject]))])

/-- An accumulator for ASCII frames, whose encodings nobody looks at. -/
def asciiAccumulator : AccumulatorConfig where
  gateway := asciiGateway
  loads _ := none

/-- A frame is accepted, with a native object below its root. -/
def HidesNative (frame : Frame) : Prop :=
  (∃ projection t, ({} : Accumulator).add asciiAccumulator (.mapping frame) = .ok (projection, t)) ∧
    ∃ depth shown value, Position (.dict (params frame)) depth shown value ∧
      IsNative asciiAccumulator.gateway.library value ∧ depth ≠ 0

/-- Agent events get through below the limit of depth, and after the limit of width. -/
theorem native_position_admitted : HidesNative deepFrame ∧ HidesNative wideFrame := by
  have hagent : IsNative asciiAccumulator.gateway.library agentObject := by
    refine ⟨_, lit "Agent", rfl, rfl, .inr ?_⟩
    decide
  constructor
  · refine ⟨add_of_isSome (by decide +kernel), 6, true, agentObject, ?_, hagent, by decide⟩
    have hpayload : Position (.dict (params deepFrame)) 1 true (nest 5 agentObject) := by
      have hparams : params deepFrame = [(.str (lit "type"), .str (lit "message.delta")),
          (.str (lit "payload"), nest 5 agentObject)] := rfl
      rw [hparams]
      exact Position.root.item (List.mem_cons_of_mem _ List.mem_cons_self) (by decide)
    exact position_nest 5 hpayload
  · refine ⟨add_of_isSome (by decide +kernel), 3, false, agentObject, ?_, hagent, by decide⟩
    have hpayload : Position (.dict (params wideFrame)) 1 true
        (.dict [(.str (lit "content"), .list (List.replicate 64 .none ++ [agentObject]))]) := by
      have hparams : params wideFrame = [(.str (lit "type"), .str (lit "message.delta")),
          (.str (lit "payload"),
            .dict [(.str (lit "content"), .list (List.replicate 64 .none ++ [agentObject]))])] :=
        rfl
      rw [hparams]
      exact Position.root.item (List.mem_cons_of_mem _ List.mem_cons_self) (by decide)
    have hcontent := hpayload.item List.mem_cons_self content_checked
    have hlast : (List.replicate 64 PyValue.none ++ [agentObject])[64]? = some agentObject := rfl
    exact hcontent.element rfl hlast

end HermesClaude.Parity
