/-
# Validating result packets

A result packet is accepted next to its catalog and its freeze: its cells are those of one
partition of the catalog, its grade is computed again from the cells, and the packet, its
inventory and its candidate are bound to the freeze by their hashes.
-/

import HermesClaude.Parity.ResultCells

namespace HermesClaude.Parity.Packets

open HermesClaude.Python HermesClaude.Library

/-! ## Runs -/

/-- The run of a result, once it is checked. -/
structure Run where
  scenario : PyStr
  partitionId : PyStr
  sessionScope : PyStr
  cellCount : Int
  requiredCellCount : Int
  terminalEventCount : Int

/-- The checks of a result's run. -/
def run (value : Json) : Except PacketFailure Run := do
  let result ← obj value ["candidate_unchanged", "cell_count", "mode", "required_cell_count",
    "resume_boundary", "run_id_sha256", "scenario_sha256", "scope_partition_id", "session_scope",
    "terminal_event_count"] "result.run"
  let _ ← sha (result.field "run_id_sha256") "run_id_sha256"
  let scenario ← sha (result.field "scenario_sha256") "scenario_sha256"
  let _ ← enum (result.field "mode") ["deterministic", "integration", "live"] "run.mode"
  let partitionId ← pref (result.field "scope_partition_id") "PART-" "run.scope_partition_id"
  let sessionScope ← enum (result.field "session_scope") ["isolated_cell", "one_logical_session"]
    "run.session_scope"
  let unchanged ← bool (result.field "candidate_unchanged") "run.candidate_unchanged"
  valid unchanged "run candidate_unchanged must be true"
  let cellCount ← int (result.field "cell_count") "run.cell_count"
  let requiredCellCount ← int (result.field "required_cell_count") "run.required_cell_count"
  let terminalEventCount ← int (result.field "terminal_event_count") "run.terminal_event_count"
  if !isNull (result.field "resume_boundary") then
    resumeBoundary (result.field "resume_boundary")
  return { scenario, partitionId, sessionScope, cellCount, requiredCellCount, terminalEventCount }

/-! ## The cells and their partition -/

/-- The row has texts for its key. -/
def hasRowKey (row : Json) : Bool :=
  ["pack_id", "row_id"].all fun key => (lookIn row [key]).str?.isSome

/-- The source rows of the capabilities with the given ids.  Rows without a key of texts are not
those of a cell, and sorting them may raise. -/
def partitionRows (capabilities : List (Json × Entries)) (ids : List Json) :
    Except PacketFailure (List Json) := do
  let groups ← ids.mapM fun id => do
    let capability ← orEscape (lastWith capabilities id)
    let rows ← item capability "source_rows"
    iterate rows
  if groups.flatten.all hasRowKey then return groups.flatten else .error .escaped

/-- The cells are those of the partition, with its rows. -/
def bijection (capabilities : List (Json × Entries)) (partition : Entries) (run : Run)
    (records : List CellRecord) : Except PacketFailure (List Json) := do
  let value ← item partition "capability_ids"
  let ids ← iterate value
  let rows ← partitionRows capabilities ids
  valid (records.all (fun record => ids.any fun id => id.pyEq (.str record.capabilityId)) &&
    ids.all fun id => records.any fun record => id.pyEq (.str record.capabilityId))
    "result cells are not the catalog partition bijection"
  let scope ← item partition "session_scope"
  valid (scope.pyEq (.str run.sessionScope)) "result cells are not the catalog partition bijection"
  valid ((Json.list (sortRows (records.flatMap CellRecord.sourceRows))).pyEq (.list (sortRows rows)))
    "result cells are not the catalog partition bijection"
  return ids

/-- The statuses of all paths, in the order of the attempts. -/
def pathStatuses (records : List CellRecord) : List PyStr :=
  records.flatMap fun record => record.attempts.flatMap fun attempt =>
    attempt.2.statuses.map PathStatus.status

/-- The counts of a run are those of its cells. -/
def countsMatch (run : Run) (records : List CellRecord) : Bool :=
  run.terminalEventCount == (pathStatuses records).countP isExecuted &&
    run.cellCount == records.length && run.requiredCellCount == records.countP CellRecord.required

/-- The cells of a result, once they are checked. -/
structure Cells where
  /-- The capabilities of the catalog, with their ids. -/
  capabilities : List (Json × Entries)
  /-- The capability ids of the partition. -/
  partition : List Json
  records : List CellRecord
  billingSafe : Bool

/-- The checks of a result's cells next to the catalog. -/
def readCells (catalog : Entries) (candidate : PyStr) (run : Run) (value : Json) :
    Except PacketFailure Cells := do
  let cells ← arr value "result.cells"
  let capabilities ← catalogCapabilities catalog
  let partitions ← catalogPartitions catalog
  let partition ← orFail (lastWith partitions (.str run.partitionId))
    "result scope partition is not catalog-bound"
  let progress ← (ordinals cells).foldlM (cellStep capabilities candidate run.sessionScope)
    { boundaries := [], billingSafe := true, records := [] }
  let ids ← bijection capabilities partition run progress.records
  valid (countsMatch run progress.records) "run derived counts are invalid"
  return { capabilities, partition := ids, records := progress.records
           billingSafe := progress.billingSafe }

/-! ## Grading -/

section Library

variable (library : ContractLibrary)

/-- `iter(value or [])`. -/
def iterateOrNothing : Json → Except PacketFailure (List Json)
  | .null | .bool false | .int 0 => .ok []
  | .float q => if q = 0 then .ok [] else .error .escaped
  | value => iterate value

/-- The row ids of the SDK's pack in a catalog that has a ledger. -/
def sdkRowIds (catalog : Entries) : Except PacketFailure (List Json) := do
  let packs ← iterateOrNothing (catalog.field "source_packs")
  valid (catalog.field "sdk_ledger").dict?.isSome "catalog SDK ledger is unavailable"
  let source ← orFail ((packs.filterMap Json.dict?).find? fun pack =>
    (Entries.field pack "id").pyEq (.str (lit "sdk_boundary"))) "catalog SDK ledger is unavailable"
  let rows ← iterateField source "row_ids"
  rows.mapM fun row =>
    match row with
    | .dict items => item items "row_id"
    | row => .ok row

/-- The rows of a ledger that need a newer SDK. -/
def upgradeRows (rows : List LedgerRecord) : List PyStr :=
  sorted ((rows.filter fun row => row.classification = lit "requires_0_3_239").map LedgerRecord.rowId)

/-- The status of a ledger. -/
def ledgerStatus (rows : List LedgerRecord) : PyStr :=
  if (upgradeRows rows).isEmpty then lit "CLEAR" else lit "STOP"

/-- `_sdk_grade`, with the status of the ledger. -/
def sdkGrade (value : Json) (catalog : Entries) : Except PacketFailure PyStr := do
  let result ← obj value ["ledger_sha256", "requires_0_3_239_rows", "row_count", "status",
    "upgrade_issue_ref"] "grade.sdk_ledger"
  let ids ← sdkRowIds catalog
  let (hash, rows) ← validateSdkLedger library (catalog.field "sdk_ledger") ids
  valid ((Json.dict result).pyEq (.dict [(lit "ledger_sha256", .str hash),
      (lit "row_count", .int 23),
      (lit "requires_0_3_239_rows", .list ((upgradeRows rows).map .str)),
      (lit "upgrade_issue_ref", if (upgradeRows rows).isEmpty then .null else .str (lit "issue:16")),
      (lit "status", .str (ledgerStatus rows))]))
    "grade.sdk_ledger is not bound to catalog"
  return ledgerStatus rows

/-- What the validator has found before it grades. -/
structure Findings where
  inventoryExact : Bool
  billingSafe : Bool
  isolationSafe : Bool
  terminalExact : Bool
  resumeSafe : Bool
  bijection : Bool

/-- Nothing was found that fails a result by itself. -/
def Findings.clean (findings : Findings) : Bool :=
  findings.inventoryExact && findings.terminalExact && findings.billingSafe &&
    findings.isolationSafe && findings.resumeSafe && findings.bijection

/-- `GRADE_KEYS`, sorted. -/
def gradeKeys : List String :=
  ["billing_safe", "candidate_consistent", "cell_qualifications", "environment_blocked_count",
    "expected_negative_count", "inventory_exact", "isolation_safe", "observed_cell_count",
    "observed_pass_count", "pass_at_3", "pass_caret_3", "pending_count", "required_cell_count",
    "required_pass_count", "result_bijection", "resume_safe", "sdk_ledger", "status",
    "terminal_events_exact", "verified_failure_count"]

/-- The counts of a grade. -/
def gradeCounts (records : List CellRecord) : List (String × Nat) :=
  let count := fun status => (pathStatuses records).count (lit status)
  [("required_cell_count", records.countP CellRecord.required),
    ("observed_cell_count", records.length), ("required_pass_count", count "PASS"),
    ("observed_pass_count", count "PASS"), ("expected_negative_count", count "EXPECTED_NEGATIVE"),
    ("verified_failure_count", count "VERIFIED_FAILURE"),
    ("environment_blocked_count", count "ENVIRONMENT_BLOCKED"), ("pending_count", count "PENDING")]

/-- The projections of a grade. -/
def gradeProjections (grades : List CellGrade) : List (String × Json) :=
  [("cell_qualifications", byCapability grades CellGrade.qualifications),
    ("pass_caret_3", byCapability grades fun grade => .bool grade.caret),
    ("pass_at_3", byCapability grades fun grade => .bool grade.qualified)]

/-- The flags of a grade. -/
def gradeFlags (findings : Findings) : List (String × Bool) :=
  [("candidate_consistent", true), ("terminal_events_exact", findings.terminalExact),
    ("inventory_exact", findings.inventoryExact), ("billing_safe", findings.billingSafe),
    ("resume_safe", findings.resumeSafe), ("isolation_safe", findings.isolationSafe),
    ("result_bijection", findings.bijection)]

/-- The status of a result: an open row of the ledger fails a result that would pass. -/
def finalStatus (sdk status : PyStr) : PyStr :=
  if sdk = lit "STOP" ∧ status = lit "PASS" then lit "FAIL" else status

/-- The first part of `_grade`: what follows from the cells alone, with the grade of every cell. -/
def gradeCells (value : Json) (cells : Cells) : Except PacketFailure (Entries × List CellGrade) := do
  let result ← obj value gradeKeys "result.grade"
  let grades ← cells.records.mapM (CellRecord.grade cells.capabilities)
  (gradeCounts cells.records).forM fun count =>
    (int (result.field count.1) ("grade." ++ count.1)).map fun _ => ()
  valid ((gradeCounts cells.records).all fun count => (result.field count.1).pyEq (.int count.2))
    "grade counts are not derived"
  (gradeProjections grades).forM fun projection => do
    derived (result.field projection.1) ("grade." ++ projection.1)
    valid ((result.field projection.1).pyEq projection.2)
      "grade qualification projections are not derived"
  return (result, grades)

/-- `_grade`. -/
def grade (value : Json) (catalog : Entries) (cells : Cells) (findings : Findings) :
    Except PacketFailure (Entries × List CellGrade) := do
  let (result, grades) ← gradeCells value cells
  let sdk ← sdkGrade library (result.field "sdk_ledger") catalog
  (gradeFlags findings).forM fun flag =>
    (bool (result.field flag.1) ("grade." ++ flag.1)).map fun _ => ()
  valid ((result.field "status").pyEq
    (.str (finalStatus sdk (gradeStatus grades findings.clean)))) "grade.status is not derived"
  valid ((gradeFlags findings).all fun flag => (result.field flag.1).pyEq (.bool flag.2))
    "grade derived field is not recomputed"
  return (result, grades)

/-! ## Results -/

/-- A result, once it is checked. -/
structure Result extends Cells where
  items : Entries
  grade : Entries
  grades : List CellGrade

/-- The bindings of a result to its freeze, its candidate and its catalog. -/
def bindings (items frozen catalog : Entries) (candidate : PyStr) (inventory : InventoryRecord)
    (run : Run) (records : List CellRecord) : Except PacketFailure Unit := do
  let setHash ← canonicalSha256 library
    (.list ((sorted (records.map CellRecord.capabilityId)).map .str))
  valid ((frozen.field "capability_set_sha256").pyEq (.str setHash))
    "capability_set_sha256 is not bound"
  let bound : List (String × Json) := [("freeze_sha256", items.field "freeze_sha256"),
    ("candidate_sha256", .str candidate), ("contract_sha256", items.field "contract_sha256"),
    ("catalog_sha256", items.field "catalog_sha256"),
    ("source_map_sha256", items.field "source_map_sha256"),
    ("fixture_manifest_sha256", items.field "fixture_manifest_sha256"),
    ("declared_inventory_sha256", .str inventory.declared),
    ("observed_inventory_sha256", .str inventory.observed), ("scenario_sha256", .str run.scenario),
    ("scope_partition_id", .str run.partitionId), ("session_scope", .str run.sessionScope),
    ("sdk_ledger_sha256", lookIn (.dict catalog) ["sdk_ledger", "ledger_sha256"])]
  valid (bound.all fun field => (frozen.field field.1).pyEq field.2)
    "result freeze/candidate binding is invalid"
  valid (["catalog_sha256", "contract_sha256", "source_map_sha256"].all fun key =>
    (items.field key).pyEq (catalog.field key)) "result catalog binding is invalid"

/-- `validate_result`.  A missing freeze or catalog is `null`.  Of the exceptions that are no
`PacketValidationError` it turns some into one; they are not told apart here. -/
def validateResult (value freeze catalog : Json) : Except PacketFailure Result := do
  let result ← obj value ["candidate", "catalog_sha256", "cells", "contract_sha256",
    "fixture_manifest_sha256", "freeze_sha256", "grade", "inventory", "redaction",
    "result_schema_version", "result_sha256", "run", "source_map_sha256"] "result"
  valid ((result.field "result_schema_version").pyEq (.str (lit "3.0.0")))
    "result schema version is invalid"
  ["freeze_sha256", "contract_sha256", "catalog_sha256", "source_map_sha256",
    "fixture_manifest_sha256"].forM fun key =>
      (sha (result.field key) ("result." ++ key)).map fun _ => ()
  let catalog ← orFail catalog.dict? "catalog is required to bind SDK ledger and cells"
  valid (safe (.dict catalog)) "packet contains forbidden content"
  let candidate ← candidate library (result.field "candidate")
  let inventory ← inventory library (result.field "inventory")
  valid (inventory.candidate == candidate) "candidate/inventory binding is invalid"
  let run ← run (result.field "run")
  let cells ← readCells catalog candidate run (result.field "cells")
  valid (!isNull freeze) "freeze is required to bind result"
  -- the loop over the cells has failed where they are not isolated or do not resume
  let findings : Findings :=
    { inventoryExact := inventory.exact, billingSafe := cells.billingSafe, isolationSafe := true
      terminalExact := true, resumeSafe := true, bijection := true }
  let (graded, grades) ← grade library (result.field "grade") catalog cells findings
  validateRedaction (result.field "redaction")
  let _ ← hashIs library (result.field "result_sha256") (without result ["result_sha256"])
    "result hash is invalid"
  let frozen ← validateFreeze library freeze
  bindings library result frozen catalog candidate inventory run cells.records
  return { cells with items := result, grade := graded, grades }

end Library

end HermesClaude.Parity.Packets
