/-
# Validating catalogs

A catalog maps the 124 source rows of four packs onto capabilities, one capability for each
row, and the capabilities onto partitions.  The tool inventory and the ledger of the SDK are
parts of it, and are bound to it by their hashes.
-/

import HermesClaude.Parity.Contract

namespace HermesClaude.Parity

open HermesClaude.Python HermesClaude.Library

/-! ## Hashes -/

/-- `{key: items[key] for key in keys}`. -/
def project (items : Entries) (keys : List String) : Json :=
  .dict (keys.map fun key => (lit key, items.field key))

/-- A row key: the id of a pack and the id of a row in it. -/
abbrev RowKey := PyStr × PyStr

/-- The key that rows are sorted by. -/
def rowKey (row : Json) : RowKey :=
  match row with
  | .dict items =>
    (((Entries.field items "pack_id").str?).getD [], ((Entries.field items "row_id").str?).getD [])
  | _ => ([], [])

/-- The order of row keys. -/
def rowKeyLe (x y : RowKey) : Bool := decide (x.1 < y.1 ∨ (x.1 = y.1 ∧ x.2 ≤ y.2))

/-- `sorted(rows, key=lambda row: (row["pack_id"], row["row_id"]))`. -/
def sortRows (rows : List Json) : List Json :=
  rows.insertionSort fun x y => rowKeyLe (rowKey x) (rowKey y) = true

namespace Contract

/-- An entry of a declared inventory. -/
structure InventoryEntry where
  name : PyStr
  schema : PyStr
  enabled : Bool
  deriving DecidableEq

/-- A capability of a catalog, once it is checked. -/
structure Capability where
  id : PyStr
  scenarioId : PyStr
  sourceRows : List RowKey
  positive : PathDeclaration
  denial : PathDeclaration
  recovery : PathDeclaration
  expectedTrace : List PyStr
  repeatMode : PyStr
  sessionScope : PyStr
  items : Entries

/-- What `validate_catalog` accepts. -/
structure Catalog where
  items : Entries
  /-- The row ids of each pack. -/
  packs : List (PyStr × List PyStr)
  capabilities : List Capability

section Library

variable (library : ContractLibrary)

/-- `canonical_sha256`. -/
def canonicalSha256 (value : Json) (omitKeys : List String := []) : Except ContractFailure PyStr :=
  match canonicalJsonBytes library.toCanonicalLibrary value.toValue (omitKeys.map lit) with
  | .ok data => .ok (hexdigest data)
  | .error _ => .error .escaped

/-- `if value != expected: _bad(field)`, for a hash. -/
def hashIs (value : Json) (expected : PyStr) (field : String) : Except ContractFailure Unit :=
  valid (value.pyEq (.str expected)) field

/-- `hash_declared_inventory`. -/
def hashDeclaredInventory (inventory : Entries) : Except ContractFailure PyStr :=
  canonicalSha256 library (project inventory ["tools", "mcp_servers"])

/-- `hash_source_map`. -/
def hashSourceMap (packs : List Entries) : Except ContractFailure PyStr :=
  canonicalSha256 library (.list ((packs.insertionSort fun x y =>
    (x.field "id").str?.getD [] ≤ (y.field "id").str?.getD []).map fun pack =>
      project pack ["id", "expected_count", "row_ids", "source", "provenance"]))

/-- The hash of the sorted rows of `hash_sdk_ledger`. -/
def hashLedgerRows (rows : List Json) : Except ContractFailure PyStr :=
  canonicalSha256 library (.list (sortRows rows))

/-- The hash of the ledger of `hash_sdk_ledger`. -/
def hashLedger (ledger : Entries) : Except ContractFailure PyStr :=
  canonicalSha256 library (project ledger ["schema_version", "rows"])

/-! ## Inventory -/

/-- The body of the loop over the entries of an inventory. -/
def inventoryEntry (keys : List String) (owner : Bool) (field : String) (value : Json) :
    Except ContractFailure InventoryEntry := do
  let item ← obj value keys field
  let name ← matching library.casefold (item.field "name") safePattern field
  let schema ← sha256 (item.field "schema_sha256") field
  let _ ← (if owner then (enum (item.field "declared_by") ["host", "plugin"] field).map some
    else .ok none)
  let enabled ← bool (item.field "enabled") field
  return ⟨name, schema, enabled⟩

/-- `names == sorted(names)`, without repetitions. -/
def sortedNames (names : List PyStr) : Bool := decide (names = sorted names ∧ names.Nodup)

/-- The loop over one of the two groups of an inventory. -/
def inventoryGroup (inventory : Entries) (keys : List String) (owner : Bool) (name : String) :
    Except ContractFailure (List InventoryEntry) := do
  let items ← list (inventory.field name) name
  let entries ← items.mapM (inventoryEntry library keys owner name)
  valid (sortedNames (entries.map InventoryEntry.name)) name
  return entries

/-- `_inventory`, with the tools. -/
def inventory (value : Json) : Except ContractFailure (List InventoryEntry) := do
  let result ← obj value ["schema_version", "tools", "mcp_servers", "declared_inventory_sha256"]
    "tool inventory"
  valid ((result.field "schema_version").pyEq (.int 1)) "tool inventory"
  let tools ← inventoryGroup library result ["name", "schema_sha256", "declared_by", "enabled"] true
    "tools"
  let _ ← inventoryGroup library result ["name", "schema_sha256", "enabled"] false "mcp_servers"
  let hash ← hashDeclaredInventory library result
  hashIs (result.field "declared_inventory_sha256") hash "tool inventory"
  return tools

/-! ## Packs -/

/-- `_pack`, with the row ids. -/
def pack (expected : PyStr × Nat) (value : Json) : Except ContractFailure (Entries × List PyStr) := do
  let result ← obj value ["id", "expected_count", "row_ids", "source", "provenance",
    "row_ids_sha256"] "source pack"
  valid ((result.field "id").pyEq (.str expected.1) &&
    (result.field "expected_count").pyEq (.int expected.2)) "source pack"
  let rows ← list (result.field "row_ids") "row ids" 256
  let rows ← rows.mapM fun row => matching library.casefold row rowPattern "row id" 80
  valid (sortedNames rows && rows.length == expected.2) "row ids"
  let source ← obj (result.field "source")
    ["kind", "repo_id", "commit_sha", "source_ref", "artifact_sha256"] "source"
  let kind ← enum (source.field "kind") ["git_commit", "immutable_artifact"] "source"
  let _ ← matching library.casefold (source.field "repo_id") safePattern "source"
  let _ ← (if kind = lit "git_commit" then (sha1 (source.field "commit_sha") "source").map some
    else (valid (isNull (source.field "commit_sha")) "source").map fun _ => none)
  let _ ← matching library.casefold (source.field "source_ref") srcRefPattern "source"
  let _ ← sha256 (source.field "artifact_sha256") "source"
  let provenance ← obj (result.field "provenance") ["origin_id", "license_id", "attribution_ref"]
    "provenance"
  let _ ← matching library.casefold (provenance.field "origin_id") safePattern "provenance"
  let _ ← enum (provenance.field "license_id")
    ["MIT", "Apache-2.0", "BSD-3-Clause", "CC-BY-4.0", "proprietary-approved"] "provenance"
  let _ ← matching library.casefold (provenance.field "attribution_ref") refPattern "provenance"
  let _ ← sha256 (result.field "row_ids_sha256") "source pack"
  let hash ← canonicalSha256 library (.list (rows.map .str))
  hashIs (result.field "row_ids_sha256") hash "source pack"
  return (result, rows)

/-- `_predecessor`. -/
def predecessor (value : Json) : Except ContractFailure Unit := do
  let result ← obj value ["contract_version", "contract_sha256", "baseline_sha", "evidence",
    "replacement_receipt"] "predecessor"
  valid ((result.field "contract_version").pyEq (.str (lit "2.0.0"))) "predecessor"
  let _ ← sha256 (result.field "contract_sha256") "predecessor"
  let _ ← sha1 (result.field "baseline_sha") "predecessor"
  let evidence ← obj (result.field "evidence") ["ref", "sha256"] "evidence"
  let _ ← matching library.casefold (evidence.field "ref") evidenceRefPattern "evidence"
  let _ ← sha256 (evidence.field "sha256") "evidence"
  let receipt ← obj (result.field "replacement_receipt") ["receipt_schema_version", "ref",
    "receipt_artifact_sha256", "replacement_receipt_sha256", "prior_mechanism_id", "prior_gate_id",
    "successor_mechanism_id", "successor_gate_id", "v2_evidence_immutable"] "receipt"
  valid ((receipt.field "receipt_schema_version").pyEq (.int 1) &&
    (receipt.field "prior_mechanism_id").pyEq (.str (lit "parity-v2")) &&
    (receipt.field "prior_gate_id").pyEq (.str (lit "passive-soak-48h-100-run")) &&
    (receipt.field "successor_mechanism_id").pyEq (.str (lit "parity-v3")) &&
    (receipt.field "successor_gate_id").pyEq (.str (lit "feature-parity-v3")) &&
    (receipt.field "v2_evidence_immutable" matches .bool true)) "receipt"
  let _ ← matching library.casefold (receipt.field "ref") evidenceRefPattern "receipt"
  let _ ← sha256 (receipt.field "receipt_artifact_sha256") "receipt"
  let _ ← sha256 (receipt.field "replacement_receipt_sha256") "receipt"
  let hash ← canonicalSha256 library (.dict receipt) ["replacement_receipt_sha256"]
  hashIs (receipt.field "replacement_receipt_sha256") hash "receipt"

/-! ## The SDK ledger -/

/-- `_CLASSIFICATIONS`. -/
def classifications : List String :=
  ["covered_current", "equivalent_host", "requires_0_3_239", "not_runtime_applicable"]

/-- A row of the SDK ledger. -/
structure LedgerRow where
  rowId : PyStr
  executable : Bool
  classification : PyStr
  proofRef : PyStr
  deriving DecidableEq

/-- The body of the loop over the rows of the SDK ledger, with the row ids seen before; `rowIds`
are the row ids of the SDK's pack. -/
def ledgerRow (rowIds seen : List PyStr) (ordinal : Nat) (value : Json) :
    Except ContractFailure LedgerRow := do
  let item ← obj value ["pack_id", "row_id", "ordinal", "executable", "classification", "proof"]
    "sdk row"
  valid ((item.field "pack_id").pyEq (.str (lit "sdk_boundary")) &&
    ordinalIs (item.field "ordinal") ordinal && !isBool (item.field "ordinal")) "sdk row"
  let rowId ← matching library.casefold (item.field "row_id") rowPattern "sdk row" 80
  valid (decide (rowId ∉ seen ∧ rowId ∈ rowIds)) "sdk row"
  let executable ← bool (item.field "executable") "sdk row"
  let classification ← enum (item.field "classification") classifications "sdk row"
  valid (!executable || classification != lit "not_runtime_applicable") "sdk row"
  let proof ← obj (item.field "proof") ["ref", "sha256"] "sdk proof"
  let ref ← matching library.casefold (proof.field "ref") refPattern "sdk proof"
  let _ ← sha256 (proof.field "sha256") "sdk proof"
  return ⟨rowId, executable, classification, ref⟩

/-- The loop over the rows of the SDK ledger. -/
def ledgerRows (rowIds seen : List PyStr) (ordinal : Nat) :
    List Json → Except ContractFailure (List LedgerRow)
  | [] => .ok []
  | value :: rest => do
    let row ← ledgerRow library rowIds seen ordinal value
    let others ← ledgerRows rowIds (row.rowId :: seen) (ordinal + 1) rest
    return row :: others

/-- `_sdk_ledger`, with the rows. -/
def sdkLedger (rowIds : List PyStr) (value : Json) : Except ContractFailure (List LedgerRow) := do
  let result ← obj value ["schema_version", "rows", "rows_sha256", "ledger_sha256"] "sdk ledger"
  valid ((result.field "schema_version").pyEq (.int 1)) "sdk ledger"
  let rows ← list (result.field "rows") "sdk rows" 23
  let checked ← ledgerRows library rowIds [] 1 rows
  valid (rowIds.all (· ∈ checked.map LedgerRow.rowId) && rows.length == 23) "sdk ledger"
  let rowsHash ← hashLedgerRows library rows
  let ledgerHash ← hashLedger library result
  hashIs (result.field "rows_sha256") rowsHash "sdk ledger"
  hashIs (result.field "ledger_sha256") ledgerHash "sdk ledger"
  return checked

/-! ## Capabilities -/

/-- `_PROOF_KINDS`. -/
def proofKinds : List String :=
  ["focused_test", "deterministic", "integration", "live", "source_map", "receipt", "ledger"]

/-- `_SURFACES`. -/
def surfaces : List String :=
  ["registration", "selection", "approval", "tool", "denial", "recovery", "resume", "isolation",
    "compaction", "usage", "packaging", "inventory", "sdk"]

/-- `_proof`. -/
def proof (value : Json) (field : String) : Except ContractFailure Unit := do
  let result ← obj value ["kind", "ref", "sha256"] field
  let _ ← enum (result.field "kind") proofKinds field
  let _ ← matching library.casefold (result.field "ref") refPattern field
  let _ ← sha256 (result.field "sha256") field

/-- The body of the loop over the source rows of a capability. -/
def sourceRow (value : Json) : Except ContractFailure RowKey := do
  let item ← obj value ["pack_id", "row_id"] "source row"
  let packId ← enum (item.field "pack_id")
    ["v2_non_soak", "openclaw_active", "sdk_boundary", "clawprobench_native"] "source row"
  let rowId ← matching library.casefold (item.field "row_id") rowPattern "source row" 80
  return (packId, rowId)

/-- The trace codes of an expected trace; a code that has no hash raises `TypeError`. -/
def expectedTrace (codes : List Json) : Except ContractFailure (List PyStr) :=
  codes.mapM fun code =>
    match code with
    | .list _ | .dict _ => .error .escaped
    | code => orBad (code.str?.filter (· ∈ traceCodes)) "expected trace"

/-- `_capability`. -/
def capability (sourceKeys : List RowKey) (tools : List InventoryEntry) (ledger : List LedgerRow)
    (value : Json) : Except ContractFailure Capability := do
  let result ← obj value ["id", "source_rows", "scenario_id", "lane", "surface", "owner",
    "consumers", "positive_path", "denial_path", "recovery_path", "state_before", "state_after",
    "expected_trace", "primary_proof", "secondary_proof", "repeat_policy", "session_scope",
    "sdk_classification", "required"] "capability"
  let id ← matching library.casefold (result.field "id") capPattern "capability"
  let rows ← list (result.field "source_rows") "source rows"
  let mapped ← rows.mapM (sourceRow library)
  valid (decide mapped.Nodup && mapped.all (· ∈ sourceKeys)) "source row"
  valid (!rows.isEmpty && decide (mapped.Pairwise fun x y => rowKeyLe x y = true)) "source rows"
  let scenarioId ← matching library.casefold (result.field "scenario_id") scenarioPattern "scenario"
  let lanes := mapped.map fun row => laneByPack.lookup row.1
  valid (lanes.all (· == lanes.head?.join) &&
    lanes.head?.join.any fun lane => (result.field "lane").pyEq (.str lane)) "lane"
  let _ ← enum (result.field "surface") surfaces "surface"
  let _ ← enum (result.field "owner") ["plugin", "host", "exact_pair"] "owner"
  valid ((result.field "consumers").pyEq (.list (["inventory", "run", "grade"].map fun name =>
    .str (lit name)))) "consumers"
  let positive ← path library .positive "positive_path" (result.field "positive_path")
  let denial ← path library .denial "denial_path" (result.field "denial_path")
  let recovery ← path library .recovery "recovery_path" (result.field "recovery_path")
  let paths := [positive, denial, recovery]
  let _ ← state (result.field "state_before") "capability state"
  let _ ← state (result.field "state_after") "capability state"
  let traces ← list (result.field "expected_trace") "expected trace"
  let trace ← expectedTrace traces
  proof library (result.field "primary_proof") "primary proof"
  let secondary ← list (result.field "secondary_proof") "secondary proof" 3
  let _ ← secondary.mapM fun value => proof library value "secondary proof"
  let policy ← obj (result.field "repeat_policy") ["mode", "reason"] "repeat policy"
  let mode ← enum (policy.field "mode") ["once", "consecutive_3"] "repeat policy"
  let reason ← enum (policy.field "reason") ["stable", "consequential", "initial_failure", "unstable"]
    "repeat policy"
  valid ((mode == lit "once") == (reason == lit "stable")) "repeat policy"
  let scope ← enum (result.field "session_scope") ["isolated_cell", "one_logical_session"]
    "session scope"
  let classification ← enum (result.field "sdk_classification") classifications "sdk classification"
  let sdkRows := mapped.filter fun row => row.1 = lit "sdk_boundary"
  valid (decide (sdkRows.length ≤ 1)) "sdk classification"
  let expectedClass := match sdkRows.head? with
    | some row => ((ledger.find? fun entry => entry.rowId = row.2).map
        LedgerRow.classification).getD (lit "not_runtime_applicable")
    | none => lit "not_runtime_applicable"
  valid (classification == expectedClass && (result.field "required" matches .bool true) &&
    ((!sdkRows.isEmpty && classification == lit "not_runtime_applicable") ||
      paths.any PathDeclaration.required)) "capability"
  valid (paths.all fun path => path.toolCalls.all fun call =>
    tools.any fun tool => tool.name == call.name && tool.schema == call.schema) "tool binding"
  return ⟨id, scenarioId, mapped, positive, denial, recovery, trace, mode, scope, result⟩

/-- The loop over the capabilities, with the ids, the scenarios and the rows seen before. -/
def capabilities (sourceKeys : List RowKey) (tools : List InventoryEntry) (ledger : List LedgerRow) :
    List PyStr → List PyStr → List RowKey → List Json → Except ContractFailure (List Capability)
  | _, _, _, [] => .ok []
  | ids, scenarios, mapped, value :: rest => do
    let checked ← capability library sourceKeys tools ledger value
    valid (decide (checked.id ∉ ids ∧ checked.scenarioId ∉ scenarios) &&
      checked.sourceRows.all (· ∉ mapped)) "capability bijection"
    let others ← capabilities sourceKeys tools ledger (checked.id :: ids)
      (checked.scenarioId :: scenarios) (checked.sourceRows ++ mapped) rest
    return checked :: others

/-- `_partition`, with the id, the scope and the capabilities. -/
def partition (scopes : List (PyStr × PyStr)) (value : Json) :
    Except ContractFailure (PyStr × PyStr × List PyStr) := do
  let result ← obj value ["id", "session_scope", "capability_ids", "capability_set_sha256"] "partition"
  let id ← matching library.casefold (result.field "id") partitionPattern "partition"
  let scope ← enum (result.field "session_scope") ["isolated_cell", "one_logical_session"] "partition"
  let ids ← list (result.field "capability_ids") "partition capabilities"
  let ids ← ids.mapM fun identifier =>
    matching library.casefold identifier capPattern "partition capability"
  valid (sortedNames ids && ids.all (fun identifier => (scopes.lookup identifier).isSome) &&
    !ids.isEmpty) "partition capabilities"
  valid (ids.all fun identifier => scopes.lookup identifier == some scope) "partition scope"
  let hash ← canonicalSha256 library (.list (ids.map .str))
  hashIs (result.field "capability_set_sha256") hash "partition"
  return (id, scope, ids)

/-- The loop over the partitions, with the ids and the capabilities seen before. -/
def partitions (scopes : List (PyStr × PyStr)) :
    List PyStr → List PyStr → List Json → Except ContractFailure (List (PyStr × PyStr × List PyStr))
  | _, _, [] => .ok []
  | seen, caps, value :: rest => do
    let checked ← partition library scopes value
    valid (decide (checked.1 ∉ seen) && checked.2.2.all (· ∉ caps)) "partition bijection"
    let others ← partitions scopes (checked.1 :: seen) (checked.2.2 ++ caps) rest
    return checked :: others

/-- `build_contract_envelope`. -/
def contractEnvelope : Json :=
  .dict ([("contract_id", "hermes-agent-sdk-feature-parity"), ("contract_version", "3.0.0"),
    ("catalog_schema_version", "3.0.0"), ("result_schema_version", "3.0.0"),
    ("sdk_distribution", "claude-agent-sdk"), ("sdk_version", "0.2.144")].map fun (key, value) =>
      (lit key, .str (lit value)))

/-- The id of a capability that is not checked yet. -/
def rawId : Json → Option PyStr
  | .dict items => (Entries.field items "id").str?
  | _ => none

/-- `validate_catalog`. -/
def validateCatalog (value : PyValue) : Except ContractFailure Catalog := do
  let canonical ← (match canonicalize library.toCanonicalLibrary value with
    | .ok canonical => .ok canonical
    | .error _ => .error (.invalid "catalog"))
  let catalog ← obj canonical ["catalog_schema_version", "contract_id", "contract_sha256",
    "source_map_sha256", "catalog_sha256", "predecessor", "source_packs", "scope_partitions",
    "capabilities", "tool_inventory", "sdk_ledger"] "catalog"
  valid ((catalog.field "catalog_schema_version").pyEq (.str (lit "3.0.0")) &&
    (catalog.field "contract_id").pyEq (.str (lit "hermes-agent-sdk-feature-parity"))) "catalog"
  let envelopeHash ← canonicalSha256 library contractEnvelope
  hashIs (catalog.field "contract_sha256") envelopeHash "contract hash"
  let _ ← sha256 (catalog.field "source_map_sha256") "source map hash"
  let _ ← sha256 (catalog.field "catalog_sha256") "catalog hash"
  predecessor library (catalog.field "predecessor")
  let packs ← list (catalog.field "source_packs") "source packs" 4
  valid (packs.length == expectedPackCounts.length) "source packs"
  let packs ← (expectedPackCounts.zip packs).mapM fun entry => pack library entry.1 entry.2
  let packRows := (expectedPackCounts.map Prod.fst).zip (packs.map Prod.snd)
  let sourceKeys := packRows.flatMap fun entry => entry.2.map fun row => (entry.1, row)
  valid (sourceKeys.length == 124) "source map"
  let mapHash ← hashSourceMap library (packs.map Prod.fst)
  hashIs (catalog.field "source_map_sha256") mapHash "source map hash"
  let tools ← inventory library (catalog.field "tool_inventory")
  let ledger ← sdkLedger library ((packRows.lookup (lit "sdk_boundary")).getD [])
    (catalog.field "sdk_ledger")
  let caps ← list (catalog.field "capabilities") "capabilities" 124
  let ids ← caps.mapM fun cap => orBad (rawId cap) "capabilities"
  valid (decide (ids = sorted ids)) "capabilities"
  let checked ← capabilities library sourceKeys tools ledger [] [] [] caps
  let mapped := checked.flatMap Capability.sourceRows
  valid (sourceKeys.all (· ∈ mapped) && checked.length == 124) "capability bijection"
  let values ← list (catalog.field "scope_partitions") "scope partitions" 256
  let scopes := checked.map fun cap => (cap.id, cap.sessionScope)
  let parts ← partitions library scopes [] [] values
  valid (checked.all (fun cap => parts.any fun part => cap.id ∈ part.2.2) &&
    decide (parts.map Prod.fst = sorted (parts.map Prod.fst)) &&
    checked.all fun cap => parts.any fun part => part.2.1 == cap.sessionScope) "partition bijection"
  let hash ← canonicalSha256 library (.dict catalog) ["catalog_sha256"]
  hashIs (catalog.field "catalog_sha256") hash "catalog hash"
  return ⟨catalog, packRows, checked⟩

end Library

end Contract

end HermesClaude.Parity
