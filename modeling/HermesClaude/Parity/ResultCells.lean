/-
# Cells of result packets

A result packet has a cell for each capability of a partition of the catalog, and a cell has the
attempts that were made of it.  The cells are read next to the catalog, in one loop that
carries the boundaries seen so far, and are graded by what the attempts qualify as.
-/

import HermesClaude.Parity.PacketParts

namespace HermesClaude.Parity.Packets

open HermesClaude.Python HermesClaude.Library

/-! ## Reading the catalog

The validator of results takes a catalog as it is: whatever it lacks makes a lookup raise. -/

/-- A lookup that raises where there is nothing. -/
def orEscape {α : Type} (value : Option α) : Except PacketFailure α :=
  match value with
  | some a => .ok a
  | none => .error .escaped

/-- `items[key]`. -/
def item (items : Entries) (key : String) : Except PacketFailure Json :=
  orEscape (Json.key? items (lit key))

/-- `iter(value)`. -/
def iterate : Json → Except PacketFailure (List Json)
  | .list items => .ok items
  | .dict items => .ok (items.map fun item => .str item.1)
  | .str text => .ok (text.map fun c => .str [c])
  | .null | .bool _ | .int _ | .float _ => .error .escaped

/-- `iter(items.get(key, []))`. -/
def iterateField (items : Entries) (key : String) : Except PacketFailure (List Json) :=
  iterate ((Json.key? items (lit key)).getD (.list []))

/-- The capabilities of a catalog, each with its id. -/
def catalogCapabilities (catalog : Entries) : Except PacketFailure (List (Json × Entries)) := do
  let capabilities ← iterateField catalog "capabilities"
  capabilities.mapM fun capability => do
    let items ← orEscape capability.dict?
    let id ← item items "id"
    if isHashable id then return (id, items) else .error .escaped

/-- The partitions of a catalog, each with its id. -/
def catalogPartitions (catalog : Entries) : Except PacketFailure (List (Json × Entries)) := do
  let partitions ← iterateField catalog "scope_partitions"
  (partitions.filterMap Json.dict?).mapM fun items =>
    let id := items.field "id"
    if isHashable id then .ok (id, items) else .error .escaped

/-- The entry of `{value["id"]: value for value in values}` under a key: of several values with
one id, the last one. -/
def lastWith (values : List (Json × Entries)) (id : Json) : Option Entries :=
  (values.reverse.find? fun value => value.1.pyEq id).map Prod.snd

/-- `next((value for value in values if value.get("id") == id), {})`. -/
def firstWith (values : List (Json × Entries)) (id : Json) : Entries :=
  ((values.find? fun value => value.1.pyEq id).map Prod.snd).getD []

/-- `capability.get("repeat_policy", {}).get("mode")`. -/
def repeatMode (capability : Entries) : Except PacketFailure Json :=
  match (Json.key? capability (lit "repeat_policy")).getD (.dict []) with
  | .dict policy => .ok (Entries.field policy "mode")
  | _ => .error .escaped

/-- `capability.get("repeat_policy", {"mode": "once"}).get("mode")`. -/
def repeatModeOrOnce (capability : Entries) : Except PacketFailure Json :=
  if Json.hasKey capability (lit "repeat_policy") then repeatMode capability
  else .ok (.str (lit "once"))

/-- `list(capability.get("expected_trace"))`, unless it is `None`.  No code of a trace is empty,
so an empty text may stand for whatever is no text. -/
def expectedTrace (capability : Entries) : Except PacketFailure (Option (List PyStr)) :=
  match capability.field "expected_trace" with
  | .null => .ok none
  | value => (iterate value).map fun codes => some (codes.map fun code => code.str?.getD [])

/-- The value under one key after the other. -/
def lookIn : Json → List String → Json
  | value, [] => value
  | .dict items, key :: keys => lookIn (Entries.field items key) keys
  | _, _ :: _ => .null

/-! ## Attempts of a cell -/

/-- An attempt as it was read, and once it is checked. -/
abbrev CheckedAttempt := Json × Attempt

/-- What the loop over the attempts carries. -/
structure Walk where
  /-- The state that the attempt before has produced, if there is one. -/
  previous : Option PyStr
  boundaries : List PyStr
  billingSafe : Bool
  attempts : List CheckedAttempt

/-- The body of the loop over the attempts of a cell. -/
def attemptStep (candidate : PyStr) (isolated : Bool) (capability : Entries) (label : String)
    (walk : Walk) (entry : Nat × Json) : Except PacketFailure Walk := do
  let (ordinal, value) := entry
  let items ← orFail value.dict? "attempt ordinals are not contiguous"
  valid (ordinalIs (Entries.field items "ordinal") ordinal) "attempt ordinals are not contiguous"
  let trace ← expectedTrace capability
  let checked ← attempt value (some fun role => capability.field role.key)
    (label ++ ".attempt[" ++ toString ordinal ++ "]") trace
  valid (checked.candidate == candidate) "attempt candidate differs"
  valid (!isolated || (checked.freshBoundary && decide (checked.boundary ∉ walk.boundaries)))
    "isolated boundary is not fresh/unique"
  valid (walk.previous.isNone || checked.resume.prior == walk.previous)
    "resume prior state does not chain"
  return { previous := checked.resume.produced
           boundaries := checked.boundary :: walk.boundaries
           billingSafe := walk.billingSafe && checked.billingSafe
           attempts := walk.attempts ++ [(value, checked)] }

/-! ## Cells -/

/-- A cell, once it is checked. -/
structure CellRecord where
  capabilityId : PyStr
  required : Bool
  sourceRows : List Json
  /-- The capability that the cell copies. -/
  capability : Entries
  attempts : List CheckedAttempt

/-- What the loop over the cells carries. -/
structure Progress where
  boundaries : List PyStr
  billingSafe : Bool
  records : List CellRecord

/-- The capability that a cell copies. -/
def copiedCapability (capabilities : List (Json × Entries)) (capabilityId : PyStr) (cell : Entries) :
    Except PacketFailure Entries := do
  let capability ← orFail (lastWith capabilities (.str capabilityId)) "cell does not copy catalog"
  ["scenario_id", "source_rows", "required"].forM fun key => do
    let value ← item capability key
    valid ((cell.field key).pyEq value) "cell does not copy catalog"
  trialPaths.forM fun role => (item capability role.key).map fun _ => ()
  return capability

/-- The number of attempts is one that the repeat policy admits. -/
def attemptCount (mode : Json) (count : Nat) : Except PacketFailure Unit := do
  valid (!mode.pyEq (.str (lit "once")) || count == 1) "once cell must have one attempt"
  valid (!mode.pyEq (.str (lit "consecutive_3")) || decide (1 ≤ count ∧ count ≤ 3))
    "repeat cell has invalid attempt count"

/-- The body of the loop over the cells. -/
def cellStep (capabilities : List (Json × Entries)) (candidate runScope : PyStr)
    (progress : Progress) (entry : Nat × Json) : Except PacketFailure Progress := do
  let label := "cell[" ++ toString entry.1 ++ "]"
  let cell ← obj entry.2 ["attempts", "capability_id", "required", "scenario_id", "session_scope",
    "source_rows"] label
  let capabilityId ← id (cell.field "capability_id") "capability_id"
  valid (decide (capabilityId ∉ progress.records.map CellRecord.capabilityId))
    "result capability IDs are duplicated"
  let _ ← pref (cell.field "capability_id") "CAP-" "capability_id"
  let _ ← pref (cell.field "scenario_id") "SCN-" "scenario_id"
  let _ ← sourceRows (cell.field "source_rows") "cell.source_rows"
  let scope ← enum (cell.field "session_scope") ["isolated_cell", "one_logical_session"]
    "cell.session_scope"
  let required ← bool (cell.field "required") "cell.required"
  valid (scope == runScope) "cell scope differs from run"
  let attempts ← arr (cell.field "attempts") "cell.attempts" 3
  let capability ← copiedCapability capabilities capabilityId cell
  let mode ← repeatModeOrOnce capability
  attemptCount mode attempts.length
  let walk ← (ordinals attempts).foldlM
    (attemptStep candidate (scope == lit "isolated_cell") capability label)
    { previous := none, boundaries := progress.boundaries, billingSafe := progress.billingSafe
      attempts := [] }
  return { boundaries := walk.boundaries
           billingSafe := walk.billingSafe
           records := progress.records ++ [{ capabilityId, required, capability
                                             sourceRows := (cell.field "source_rows").list?.getD []
                                             attempts := walk.attempts }] }

/-! ## Grading a cell -/

/-- `attempts[-1]`. -/
def CellRecord.last (record : CellRecord) : Except PacketFailure CheckedAttempt :=
  orEscape record.attempts.getLast?

/-- The entry of `pass_caret_3`: three attempts, and all of them pass. -/
def CellRecord.caret (record : CellRecord) : Bool :=
  record.attempts.length == 3 && record.attempts.all fun attempt => attempt.2.passes

/-- The entry of `pass_at_3`: some attempt passes, of three where the mode asks for three. -/
def CellRecord.at (record : CellRecord) (mode : Json) : Bool :=
  (!mode.pyEq (.str (lit "consecutive_3")) || record.attempts.length == 3) &&
    record.attempts.any fun attempt => attempt.2.passes

/-- What a cell is graded as. -/
structure CellGrade where
  capabilityId : PyStr
  /-- The qualifications of the paths in the last attempt. -/
  last : List PyStr
  caret : Bool
  qualified : Bool
  notRequired : List PyStr
  attempts : Nat

/-- The grade of a cell, for the repeat mode of its capability. -/
def CellRecord.grade (capabilities : List (Json × Entries)) (record : CellRecord) :
    Except PacketFailure CellGrade := do
  let last ← record.last
  let mode ← repeatMode (firstWith capabilities (.str record.capabilityId))
  let notRequired := trialPaths.filter fun role =>
    !(lookIn last.1 ["paths", roleName role, "required"] matches .bool true)
  return { capabilityId := record.capabilityId
           last := last.2.statuses.map PathStatus.qualification
           caret := record.caret
           qualified := record.at mode
           notRequired := sorted (notRequired.map fun role => lit (roleName role))
           attempts := record.attempts.length }

/-- The entry of `cell_qualifications`. -/
def CellGrade.qualifications (grade : CellGrade) : Json :=
  .dict (((trialPaths.map fun role => lit (roleName role)).zip (grade.last.map .str)) ++
    [(lit "qualified", .bool grade.qualified),
      (lit "not_required_paths", .list (grade.notRequired.map .str)),
      (lit "attempts", .int grade.attempts)])

/-- `{cell["capability_id"]: value for cell, attempts in records}`. -/
def byCapability (grades : List CellGrade) (value : CellGrade → Json) : Json :=
  .dict (grades.map fun grade => (grade.capabilityId, value grade))

/-- The status of a result before its ledger is read.  The other entries of a cell's
qualifications are no texts, and are none of the three that are looked for. -/
def gradeStatus (grades : List CellGrade) (clean : Bool) : PyStr :=
  if grades.isEmpty || grades.any (fun grade => lit "BLOCKED" ∈ grade.last) then lit "BLOCKED"
  else if grades.any fun grade => lit "PENDING" ∈ grade.last then lit "PENDING"
  else if grades.any (fun grade => lit "FAIL" ∈ grade.last) || !clean then lit "FAIL"
  else lit "PASS"

end HermesClaude.Parity.Packets
