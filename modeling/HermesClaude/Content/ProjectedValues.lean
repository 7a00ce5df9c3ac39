/-
# Values in projected events

What `ClaudeSdkEventProjector` makes of single values from the provider: the arguments of a tool
call, the text of a tool result, a number of tokens and the status of a cost.  Everything is
bounded.  One conversion is not guarded: `int` refuses a decimal text that is too long.
-/

import HermesClaude.Content.ToolArguments
import HermesClaude.Python.JsonCodec

namespace HermesClaude.Content

open HermesClaude.Python

/-! ## Plain values as a graph of objects -/

/-- The elements of a list at their places below the place of the list. -/
def placeValues (path : List Nat) (items : List PyValue) : List (List Nat × PyValue) :=
  items.zipIdx.map fun item => (item.2 :: path, item.1)

/-- The keys and values of a mapping at their places. -/
def placePairs (path : List Nat) (items : List (PyValue × PyValue)) :
    List ((List Nat × PyValue) × (List Nat × PyValue)) :=
  items.zipIdx.map fun item => (((2 * item.2) :: path, item.1.1), ((2 * item.2 + 1) :: path, item.1.2))

/-- What a value at its place shows. -/
def valueNode : List Nat × PyValue → Node (List Nat × PyValue)
  | (_, .none) => .none
  | (_, .bool b) => .bool b
  | (_, .int i) => .int i
  | (_, .float f) => .float f
  | (_, .str s) => .str s
  | (path, .list items) => .list (placeValues path items)
  | (path, .tuple items) => .tuple (placeValues path items)
  | (path, .dict items) => .mapping (placePairs path items) false
  | _ => .other

/-- The graph of a value that contains no cycle: an object is its place. -/
def valueGraph : ObjectGraph (List Nat × PyValue) (List Nat) where
  node := valueNode
  identity := Prod.fst

/-- `_safe_json_value`. -/
def safeJsonOf (value : PyValue) : Json :=
  (safeJsonValue valueGraph maxArgumentDepth ∅ ([], value)).1

theorem bounded_safeJsonOf (value : PyValue) : Bounded maxArgumentDepth (safeJsonOf value) :=
  (sanitises_safeJsonValue maxArgumentDepth).bounded ∅ ([], value)

/-! ## Tool calls -/

/-- `_UNAVAILABLE_TOOL_INPUT`. -/
def unavailableToolInput : Json := .str (lit "[unavailable tool input]")

/-- The arguments of a call whose input is no mapping. -/
def inputArguments (normalized : Json) : List (PyStr × Json) :=
  match normalized with
  | .str s => [(lit "input", if s = lit "[unavailable]" then unavailableToolInput else .str s)]
  | normalized => [(lit "input", normalized)]

/-- `_safe_tool_arguments`. -/
def safeToolArguments (value : PyValue) : List (PyStr × Json) :=
  match value with
  | .none => []
  | .dict items =>
    match safeJsonOf (.dict items) with
    | .dict entries => entries
    | _ => [(lit "input", unavailableToolInput)]
  | value => inputArguments (safeJsonOf value)

/-- Arguments within the bounds: a bounded mapping, or one entry with a bounded value. -/
def BoundedArguments (arguments : List (PyStr × Json)) : Prop :=
  Bounded maxArgumentDepth (.dict arguments) ∨
    ∃ value, arguments = [(lit "input", value)] ∧ Bounded maxArgumentDepth value

theorem bounded_unavailableToolInput : Bounded maxArgumentDepth unavailableToolInput := by
  have hlength : (lit "[unavailable tool input]").length ≤ maxArgumentStringChars := by decide
  exact hlength

theorem bounded_inputArguments {normalized : Json} (h : Bounded maxArgumentDepth normalized) :
    BoundedArguments (inputArguments normalized) := by
  cases normalized with
  | str s =>
    refine Or.inr ⟨_, rfl, ?_⟩
    split
    · exact bounded_unavailableToolInput
    · exact h
  | null | bool | int | float | list | dict => exact Or.inr ⟨_, rfl, h⟩

theorem bounded_safeToolArguments (value : PyValue) : BoundedArguments (safeToolArguments value) := by
  have hbounded := bounded_safeJsonOf value
  cases value with
  | none => exact Or.inl ⟨Nat.zero_le _, List.nodup_nil, List.forall_mem_nil _⟩
  | dict items =>
    rw [safeToolArguments]
    split
    · next entries heq =>
      rw [heq] at hbounded
      exact Or.inl hbounded
    · exact Or.inr ⟨_, rfl, bounded_unavailableToolInput⟩
  | bool | int | float | str | bytes | list | tuple | set | object =>
    exact bounded_inputArguments hbounded

/-! ## Tool results -/

section Results

variable (floats : FloatText)

mutual

/-- `json.dumps(value, ensure_ascii=False, sort_keys=True)`, or `none` where it raises. -/
def dumpSorted : Json → Option PyStr
  | .null => some (lit "null")
  | .bool true => some (lit "true")
  | .bool false => some (lit "false")
  | .int i => intRepr i
  | .float q => some (floats.repr q)
  | .str s => some (encodeString s)
  | .list items =>
    (dumpItems items).map fun texts => lit "[" ++ (lit ", ").intercalate texts ++ lit "]"
  | .dict items =>
    (dumpEntries items).map fun fields => lit "\x7b" ++ (lit ", ").intercalate
      ((sortItems fields).map fun field => encodeString field.1 ++ lit ": " ++ field.2) ++ lit "\x7d"

def dumpItems : List Json → Option (List PyStr)
  | [] => some []
  | item :: rest => (dumpSorted item).bind fun text => (dumpItems rest).map fun texts => text :: texts

def dumpEntries : List (PyStr × Json) → Option (List (PyStr × PyStr))
  | [] => some []
  | (key, item) :: rest =>
    (dumpSorted item).bind fun text => (dumpEntries rest).map fun fields => (key, text) :: fields

end

/-- `_UNAVAILABLE_TOOL_RESULT`. -/
def unavailableToolResult : PyStr := lit "[unavailable tool result]"

/-- One item of a tool result. -/
def resultPart (item : PyValue) : PyStr :=
  let dumped := (dumpSorted floats (safeJsonOf item)).getD unavailableToolResult
  match item.mapping? with
  | none => dumped
  | some items =>
    match PyValue.lookupKey items (lit "type"), PyValue.lookupKey items (lit "text") with
    | some (.str kind), some (.str text) =>
      if kind = lit "text" ∧ text ≠ [] then text.take maxTextChars else dumped
    | _, _ => dumped

/-- `_flatten_tool_result_content`. -/
def flattenToolResultContent (content : PyValue) : PyStr :=
  match content with
  | .none => []
  | .str s => s.take maxTextChars
  | .dict _ =>
    ((dumpSorted floats (safeJsonOf content)).map (List.take maxTextChars)).getD unavailableToolResult
  | .list items | .tuple items =>
    ((lit "\n").intercalate ((items.take maxArgumentItems).map (resultPart floats))).take maxTextChars
  | _ => unavailableToolResult

theorem length_flattenToolResultContent_le (content : PyValue) :
    (flattenToolResultContent floats content).length ≤ maxTextChars := by
  have hsentinel : unavailableToolResult.length ≤ maxTextChars := by decide
  cases content with
  | none => exact Nat.zero_le _
  | str s => exact List.length_take_le _ _
  | dict items =>
    rw [flattenToolResultContent]
    cases dumpSorted floats (safeJsonOf (.dict items)) with
    | none => exact hsentinel
    | some text => exact List.length_take_le _ _
  | list items | tuple items => exact List.length_take_le _ _
  | bool | int | float | bytes | set | object => exact hsentinel

end Results

/-! ## Tokens -/

/-- A decimal text that `int` refuses. -/
def Overlong (library : TextLibrary) (value : PyValue) : Prop :=
  ∃ s, value = .str s ∧ (library.decimal (strip s)).isSome = true ∧ maxStrDigits < (strip s).length

/-- `_coerce_usage_int`, or `none` where it raises. -/
def usageInt (library : TextLibrary) (value : PyValue) : Option Nat :=
  match value with
  | .str s =>
    match library.decimal (strip s) with
    | some n => if maxStrDigits < (strip s).length then none else some (min n maxUsageTokens)
    | none => some 0
  | value => some (coerceUsageInt library value)

theorem coerceUsageInt_le (library : TextLibrary) (value : PyValue) :
    coerceUsageInt library value ≤ maxUsageTokens := by
  unfold coerceUsageInt
  split
  · exact Nat.min_le_right _ _
  · exact Nat.min_le_right _ _
  · exact Nat.min_le_right _ _
  · exact Nat.zero_le _

/-- **The one conversion that raises.**  Everywhere else the number is the coerced one. -/
theorem usageInt_eq_some_iff {library : TextLibrary} {value : PyValue} {n : Nat} :
    usageInt library value = some n ↔ ¬Overlong library value ∧ n = coerceUsageInt library value := by
  have hother (hvalue : ∀ s, value ≠ .str s) : ¬Overlong library value := by
    intro h
    rcases h with ⟨s, hs, -⟩
    exact hvalue s hs
  cases value with
  | str s =>
    have hoverlong : Overlong library (.str s) ↔
        (library.decimal (strip s)).isSome = true ∧ maxStrDigits < (strip s).length := by
      constructor
      · intro h
        rcases h with ⟨_, ⟨⟩, h⟩
        exact h
      · intro h
        exact ⟨s, rfl, h⟩
    rw [hoverlong, usageInt, coerceUsageInt]
    cases hdecimal : library.decimal (strip s) with
    | none => simp [eq_comm]
    | some m =>
      by_cases hlong : maxStrDigits < (strip s).length
      · simp [hlong]
      · simp [hlong, eq_comm]
  | none | bool | int | float | bytes | list | tuple | set | dict | object =>
    rw [and_iff_right (hother (by intro s h; cases h)), usageInt, Option.some_inj, eq_comm]
    · intro s h
      cases h

/-! ## Costs -/

/-- How a turn is billed. -/
inductive BillingMode
  | subscriptionIncluded
  | sdkReportedMetered
  | unknown
  deriving DecidableEq

def BillingMode.text : BillingMode → PyStr
  | .subscriptionIncluded => lit "subscription_included"
  | .sdkReportedMetered => lit "sdk_reported_metered"
  | .unknown => lit "unknown"

/-- The integers from here on are too large for a float. -/
def floatOverflow : Nat := 2 ^ 1024 - 2 ^ 970

/-- `math.isfinite(candidate) and candidate >= 0`. -/
def isReported : PyFloat → Bool
  | .finite q => 0 ≤ q
  | _ => false

/-- Whether a metered cost counts as reported. -/
def costReported (parseFloat : PyStr → Option PyFloat) (totalCostUsd : PyValue) : Bool :=
  match totalCostUsd with
  | .int i => decide (0 ≤ i) && decide (i < floatOverflow)
  | .float f => isReported f
  | .str s => ((parseFloat s).map isReported).getD false
  | _ => false

/-- `_safe_cost_status`, with `float` of a text, or `none` where that raises. -/
def safeCostStatus (parseFloat : PyStr → Option PyFloat) (billingMode : BillingMode)
    (totalCostUsd : PyValue) : PyStr :=
  match billingMode with
  | .subscriptionIncluded => lit "included"
  | .sdkReportedMetered =>
    if costReported parseFloat totalCostUsd then lit "reported" else lit "unknown"
  | .unknown => lit "unknown"

end HermesClaude.Content
