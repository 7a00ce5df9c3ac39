/-
# The zero-native boundary

Claude-native tools are disabled, and every SDK message is checked before it can
reach a projector: task messages, nested messages, server tools and tool uses
outside the declared host tools are violations.  Partial stream events carry tool
input without a tool name, so the check remembers which block indexes named an
allowed tool.

The check reads at most a fixed number of content blocks.
-/

import HermesClaude.Python.Value

namespace HermesClaude.Content

open HermesClaude.Python

/-- `_MAX_ARGUMENT_ITEMS`. -/
def maxArgumentItems : Nat := 32

/-- `_STREAM_TOOL_INDEX_LIMIT`. -/
def streamToolIndexLimit : Nat := 128

/-- `_mapping_value`: the item under the first of the keys that is present, or
`none` for `_MISSING`. -/
def mappingValue (source : Option (List (PyValue × PyValue))) (keys : List String) :
    Option PyValue :=
  source.bind fun items => keys.findSome? fun key => PyValue.lookupKey items (lit key)

/-- The tool names proved for block indexes of the current stream. -/
abbrev StreamToolIndexes := List (Nat × PyStr)

/-- `stream_tool_indexes[index] = name`, where there is an index. -/
def StreamToolIndexes.record (indexes : StreamToolIndexes) (index : Option Nat)
    (name : PyStr) : StreamToolIndexes :=
  match index with
  | none => indexes
  | some i => (i, name) :: indexes.filter fun entry => entry.1 ≠ i

/-- `stream_tool_indexes.pop(index, None)`, where there is an index. -/
def StreamToolIndexes.forget (indexes : StreamToolIndexes) (index : Option Nat) :
    StreamToolIndexes :=
  match index with
  | none => indexes
  | some i => indexes.filter fun entry => entry.1 ≠ i

/-- What a check of one message yields: the verdict and the indexes afterwards,
or `none` where the check itself raises. -/
abbrev Verdict := Option (Bool × StreamToolIndexes)

/-- The block index of a raw stream event, if it is in range. -/
def streamIndex (event : List (PyValue × PyValue)) : Option Nat :=
  match mappingValue (some event) ["index"] with
  | some (.int i) => if 0 ≤ i ∧ i < streamToolIndexLimit then some i.toNat else none
  | _ => none

/-- `type(name) is str and name in allowed_tool_names`. -/
def allowedName? (allowed : List PyStr) (name : Option PyValue) : Option PyStr :=
  match name with
  | some (.str s) => if s ∈ allowed then some s else none
  | _ => none

/-- The types a partial stream event may not carry in its block or its delta. -/
def nativeStreamTypes : List PyStr :=
  [lit "server_tool_use", lit "server_tool_result", lit "tool_result"]

/-- `value in {…}` for a value that may be `_MISSING`. -/
def memStreamTypes (value : Option PyValue) (texts : List PyStr) : Option Bool :=
  match value with
  | none => some false
  | some v => v.memTexts texts

/-- Whether a value that may be `_MISSING` is the given text. -/
def isStreamType (value : Option PyValue) (text : String) : Bool :=
  match value with
  | none => false
  | some v => v.isText (lit text)

/-- The checks of `_stream_tool_violation` on a block or a delta with one of the
given tool types: a verdict, or `none` where the check falls through. -/
def streamPartVerdict (allowed : List PyStr) (indexes : StreamToolIndexes) (index : Option Nat)
    (part : List (PyValue × PyValue)) (toolTypes : List String) : Option (Option (Bool × StreamToolIndexes)) :=
  let partType := mappingValue (some part) ["type"]
  match memStreamTypes partType nativeStreamTypes with
  | none => some none
  | some true => some (some (true, indexes))
  | some false =>
    if toolTypes.any (isStreamType partType) then
      match allowedName? allowed (mappingValue (some part) ["name"]) with
      | none => some (some (true, indexes))
      | some name => some (some (false, indexes.record index name))
    else none

/-- `_stream_tool_violation`. -/
def streamToolViolation (message : PyValue) (allowed : List PyStr)
    (indexes : StreamToolIndexes) : Verdict :=
  match (message.safeAttr "event").mapping? with
  | none => some (false, indexes)
  | some event =>
    let index := streamIndex event
    let eventType := mappingValue (some event) ["type"]
    let block := (mappingValue (some event) ["content_block", "contentBlock"]).bind PyValue.mapping?
    let delta := (mappingValue (some event) ["delta"]).bind PyValue.mapping?
    let ofBlock := block.bind fun part =>
      streamPartVerdict allowed indexes index part ["tool_use"]
    let ofDelta := delta.bind fun part =>
      (streamPartVerdict allowed indexes index part ["tool_use", "tool_use_delta"]).or
        (if isStreamType (mappingValue (some part) ["type"]) "input_json_delta" then
          some (some (match index with
            | none => true
            | some i => !indexes.any fun entry => entry.1 == i, indexes))
        else none)
    match ofBlock.or ofDelta with
    | some verdict => verdict
    | none =>
      if isStreamType eventType "content_block_stop" || isStreamType eventType "contentBlockStop"
      then some (false, indexes.forget index)
      else if isStreamType eventType "content_block_start" ||
          isStreamType eventType "contentBlockStart" then
        match block with
        | none => some (false, indexes)
        | some part =>
          let partType := mappingValue (some part) ["type"]
          some (!(isStreamType partType "text" || isStreamType partType "thinking"), indexes)
      else some (false, indexes)

/-- The body of the content loop of `zero_native_violation`. -/
def blockViolates (allowed : List PyStr) (block : PyValue) : Bool :=
  block.typeName == "ServerToolUseBlock" || block.typeName == "ServerToolResultBlock" ||
    (block.typeName == "ToolUseBlock" &&
      ((allowedName? allowed (block.getAttr "name")).isNone ||
        !(block.safeAttr "parent_tool_use_id").isNone))

/-- `text.startswith(prefix)` on a class name. -/
def nameStartsWith (name start : String) : Bool := start.toList.isPrefixOf name.toList

/-- The checks `zero_native_violation` makes of the message as a whole. -/
def messageViolates (message : PyValue) : Bool :=
  nameStartsWith message.typeName "Task" ||
    (match message.safeAttr "subtype" with
      | .str subtype => (lit "task_").isPrefixOf subtype
      | _ => false) ||
    !(message.safeAttr "parent_tool_use_id").isNone ||
    (message.typeName == "ResultMessage" && !(message.safeAttr "deferred_tool_use").isNone)

/-- `zero_native_violation`. -/
def zeroNativeViolation (message : PyValue) (allowed : List PyStr)
    (indexes : StreamToolIndexes) : Verdict :=
  if messageViolates message then some (true, indexes)
  else if message.typeName = "StreamEvent" then streamToolViolation message allowed indexes
  else
    match (message.safeAttr "content").sequence? with
    | none => some (false, indexes)
    | some content =>
      some ((content.take maxArgumentItems).any (blockViolates allowed), indexes)

/-! ## Blocks that cross the boundary -/

/-- A content block that crosses the zero-native boundary: a server tool block,
or a tool use that is nested or whose raw name is not exactly an allowed one. -/
def CrossesBoundary (allowed : List PyStr) (block : PyValue) : Prop :=
  block.typeName = "ServerToolUseBlock" ∨ block.typeName = "ServerToolResultBlock" ∨
    (block.typeName = "ToolUseBlock" ∧
      ((¬ ∃ name ∈ allowed, block.getAttr "name" = some (.str name)) ∨
        block.safeAttr "parent_tool_use_id" ≠ .none))

theorem allowedName?_eq_none_iff {allowed : List PyStr} {name : Option PyValue} :
    allowedName? allowed name = none ↔ ¬ ∃ s ∈ allowed, name = some (.str s) := by
  cases name with
  | none => simp [allowedName?]
  | some v =>
    cases v with
    | str s => simp [allowedName?]
    | none | bool | int | float | bytes | list | tuple | set | dict | object =>
      simp [allowedName?]

/-- The loop body recognises exactly the blocks that cross the boundary. -/
theorem blockViolates_iff {allowed : List PyStr} {block : PyValue} :
    blockViolates allowed block = true ↔ CrossesBoundary allowed block := by
  have hparent : (!(block.safeAttr "parent_tool_use_id").isNone) = true ↔
      block.safeAttr "parent_tool_use_id" ≠ .none := by
    rw [Bool.not_eq_true', ← Bool.not_eq_true, PyValue.isNone_iff]
  simp only [blockViolates, CrossesBoundary, Bool.or_eq_true, Bool.and_eq_true, beq_iff_eq,
    Option.isNone_iff_eq_none, allowedName?_eq_none_iff, hparent, or_assoc]

/-- Where the check looks at the content it never raises and leaves the stream
indexes alone. -/
theorem zeroNativeViolation_of_content {message : PyValue} {allowed : List PyStr}
    {content : List PyValue} (hcontent : (message.safeAttr "content").sequence? = some content)
    (hstream : message.typeName ≠ "StreamEvent") (indexes : StreamToolIndexes) :
    zeroNativeViolation message allowed indexes =
      some (messageViolates message ||
        (content.take maxArgumentItems).any (blockViolates allowed), indexes) := by
  unfold zeroNativeViolation
  by_cases hmessage : messageViolates message = true
  · simp [hmessage]
  · simp [hmessage, hstream, hcontent]

/-- Indexes only matter to stream events. -/
theorem zeroNativeViolation_indexes {message : PyValue} {allowed : List PyStr}
    (hstream : message.typeName ≠ "StreamEvent") {indexes after : StreamToolIndexes}
    {verdict : Bool} (h : zeroNativeViolation message allowed indexes = some (verdict, after)) :
    after = indexes := by
  unfold zeroNativeViolation at h
  split_ifs at h
  · simp only [Option.some.injEq, Prod.mk.injEq] at h
    exact h.2.symm
  · split at h <;> simp only [Option.some.injEq, Prod.mk.injEq] at h <;> exact h.2.symm

end HermesClaude.Content
