/-
# Parts of result packets

Besides its cells, a result packet holds the candidate, the inventory of tools, the grade of
the SDK's ledger and what was redacted, and it is bound to a freeze.  Each part is read against
a closed schema, and every hash of a projection is computed again.
-/

import HermesClaude.Parity.Attempts
import HermesClaude.Parity.Catalog
import HermesClaude.Parity.Inventory

namespace HermesClaude.Parity.Packets

open HermesClaude.Python HermesClaude.Library

/-! ## Texts -/

/-- `_sha1`. -/
def sha1 (value : Json) (label : String) : Except PacketFailure PyStr :=
  orFail (value.str?.filter (isHex 40)) (label ++ " must be lowercase SHA-1")

/-- `_version`. -/
def version (value : Json) (label : String) : Except PacketFailure PyStr := do
  let text ← id value label
  let parts := text.splitOn 0x2E
  valid (parts.length == 3 && parts.all fun part => !part.isEmpty && part.all CodePoint.isDigit)
    (label ++ " must be semver")
  return text

/-- `_pref`. -/
def pref (value : Json) (tag label : String) : Except PacketFailure PyStr := do
  let text ← id value label
  valid ((lit tag).isPrefixOf text) (label ++ " has an invalid prefix")
  return text

/-- `_drift_id`. -/
def driftId (value : Json) (label : String) : Except PacketFailure PyStr := do
  let text := value.str?.getD []
  let _ ← id (.str (Inventory.unqualified text)) label
  return text

/-- `_sorted`. -/
def inOrder (values : List PyStr) (label : String) : Except PacketFailure Unit :=
  valid (Contract.sortedNames values) (label ++ " must be sorted and unique")

/-- The markers that no reference to a proof may have in it. -/
def proofMarkers : List String :=
  ["raw", "content", "prompt", "transcript", "session", "auth", "secret", "provider", "customer",
    "exception", "cookie", "header", "token", "credential", "private_key"]

/-- A character of a reference to a proof. -/
def isProofCharacter (c : CodePoint) : Bool := c.isIdentifier || c == 0x40 || c == 0x2F

/-- A character of a source identity. -/
def isSourceCharacter (c : CodePoint) : Bool := isProofCharacter c && c != 0x3A && c != 0x2F

/-- A segment of a path in a repository. -/
def isSegment (text : PyStr) : Bool :=
  !text.isEmpty && text != lit "." && text != lit ".." &&
    text.all fun c => isSourceCharacter c && c != 0x40

/-- `_proof_ref`. -/
def proofRef (casefold : PyStr → PyStr) (value : Json) (label : String) :
    Except PacketFailure PyStr :=
  match value with
  | .str text =>
    if text = [] then .error (.invalid (label ++ " is unsafe"))
    else
      match utf8Size text with
      | none => .error .escaped
      | some size => do
        valid (decide (size ≤ 256) && !(lit "/").isPrefixOf text && !contains text "\\" &&
          !contains text "//" && !text.any CodePoint.isAsciiControl &&
          !proofMarkers.any (contains (casefold text))) (label ++ " is unsafe")
        valid (text.all isProofCharacter) (label ++ " contains unsafe characters")
        let parts := text.splitOn 0x3A
        valid (!(lit "src:").isPrefixOf text || (parts.length == 3 &&
            (parts.drop 1).head?.any fun source => !source.isEmpty && source.all isSourceCharacter))
          (label ++ " has an invalid source identity")
        valid (parts.getLast?.any fun path => (path.splitOn 0x2F).all isSegment)
          (label ++ " is not repository-relative")
        return text
  | _ => .error (.invalid (label ++ " is unsafe"))

/-! ## Projections of a grade -/

/-- A key in a label; it is one of the keys that `_id` accepts. -/
def keyText (key : PyStr) : String := String.ofList (key.map fun c => Char.ofNat c.val)

mutual

/-- `_derived` of the items of a mapping. -/
def derivedItems (label : String) : Entries → Except PacketFailure Unit
  | [] => .ok ()
  | (key, item) :: rest => do
    valid (decide (key ∉ forbidden)) (label ++ " contains forbidden content")
    let _ ← id (.str key) (label ++ " key")
    derivedValue (label ++ "." ++ keyText key) item
    derivedItems label rest

/-- The branches of `_derived` for an item. -/
def derivedValue (label : String) : Json → Except PacketFailure Unit
  | .dict items =>
    if 4096 < items.length then .error (.invalid (label ++ " is oversized"))
    else derivedItems label items
  | .list items => items.forM fun child => (id child label).map fun _ => ()
  | .bool _ => .ok ()
  | .int i => (int (.int i) label).map fun _ => ()
  | .str text => (enum (.str text) (observedStatuses ++ ["FAIL", "BLOCKED", "CLEAR", "STOP"])
      label).map fun _ => ()
  | .null | .float _ => .error (.invalid (label ++ " is not safe metadata"))

end

/-- `_derived`. -/
def derived (value : Json) (label : String) : Except PacketFailure Unit :=
  match value with
  | .dict _ => derivedValue label value
  | _ => .error (.invalid (label ++ " must be an object"))

/-! ## Rows -/

/-- `_source_rows`. -/
def sourceRows (value : Json) (label : String) : Except PacketFailure (List RowKey) := do
  let rows ← arr value label
  let keys ← rows.mapM fun row => do
    let item ← obj row ["pack_id", "row_id"] label
    let packId ← id (item.field "pack_id") "pack_id"
    let rowId ← id (item.field "row_id") "row_id"
    return ((packId, rowId) : RowKey)
  valid (decide ((keys.Pairwise fun x y => rowKeyLe x y = true) ∧ keys.Nodup))
    (label ++ " is not sorted/unique")
  return keys

/-! ## Redaction -/

/-- `REDACTION_CATEGORIES`. -/
def redactionCategories : List PyStr :=
  ["auth", "credential", "secret", "prompt", "transcript", "session", "resume_state",
    "provider_payload", "fixture_content", "customer_identifier", "customer_data", "environment",
    "exception", "filesystem_path", "path", "tool_args", "tool_results", "headers",
    "cookies"].map lit

/-- `validate_redaction`. -/
def validateRedaction (value : Json) : Except PacketFailure Unit := do
  let result ← obj value ["forbidden_field_count", "omitted_categories", "profile", "secret_scan"]
    "redaction"
  valid ((result.field "profile").pyEq (.str (lit "v3-safe"))) "redaction profile is invalid"
  let count ← int (result.field "forbidden_field_count") "redaction.forbidden_field_count"
  let categories ← arr (result.field "omitted_categories") "redaction.omitted_categories" 19
  let names ← categories.mapM fun category =>
    orFail (category.str?.filter (· ∈ redactionCategories))
      "redaction category is not in the closed enum"
  inOrder names "redaction.omitted_categories"
  let scan ← enum (result.field "secret_scan") ["PASS", "FAIL"] "redaction.secret_scan"
  valid (count == 0 && scan == lit "PASS") "redaction is not safe"

/-- `_resume_boundary`. -/
def resumeBoundary (value : Json) : Except PacketFailure Unit := do
  let result ← obj value ["accepted", "prior_state_sha256", "produced_state_sha256", "runtime_id",
    "runtime_schema_version", "supplied_state_sha256", "turn_index"] "run.resume_boundary"
  let _ ← int (result.field "turn_index") "resume turn" 1
  let _ ← id (result.field "runtime_id") "resume runtime"
  let _ ← int (result.field "runtime_schema_version") "resume schema" 1 1
  let _ ← bool (result.field "accepted") "resume accepted"
  ["prior_state_sha256", "supplied_state_sha256", "produced_state_sha256"].forM fun key =>
    (sha? (result.field key) ("resume." ++ key)).map fun _ => ()

/-! ## Hashed parts -/

section Library

variable (library : ContractLibrary)

/-- `canonical_sha256`. -/
def canonicalSha256 (value : Json) : Except PacketFailure PyStr :=
  match canonicalJsonBytes library.toCanonicalLibrary value.toValue with
  | .ok data => .ok (hexdigest data)
  | .error _ => .error .escaped

/-- `_omit`. -/
def without (items : Entries) (keys : List String) : Json :=
  .dict (items.filter fun item => item.1 ∉ keys.map lit)

/-- The value is the hash of a projection. -/
def hashIs (value projection : Json) (message : String) : Except PacketFailure PyStr := do
  let hash ← canonicalSha256 library projection
  valid (value.pyEq (.str hash)) message
  return hash

/-- `_candidate`, with the hash of the candidate. -/
def candidate (value : Json) : Except PacketFailure PyStr := do
  let result ← obj value ["candidate_schema_version", "candidate_sha256", "host_sha", "plugin_sha",
    "profile_sha256", "runner_id", "runner_version", "sdk_distribution", "sdk_version",
    "wheel_sha256"] "candidate"
  valid ((result.field "candidate_schema_version").pyEq (.int 1) &&
    (result.field "sdk_distribution").pyEq (.str (lit "claude-agent-sdk")) &&
    (result.field "sdk_version").pyEq (.str (lit "0.2.144"))) "candidate envelope is invalid"
  let _ ← sha1 (result.field "plugin_sha") "plugin_sha"
  let _ ← sha1 (result.field "host_sha") "host_sha"
  let _ ← sha (result.field "wheel_sha256") "wheel_sha256"
  let _ ← sha (result.field "profile_sha256") "profile_sha256"
  valid ((result.field "runner_id").pyEq (.str (lit "hermes-parity-v3"))) "runner_id is invalid"
  let _ ← version (result.field "runner_version") "runner_version"
  hashIs library (result.field "candidate_sha256") (project result ["plugin_sha", "host_sha",
    "wheel_sha256", "sdk_distribution", "sdk_version", "profile_sha256", "runner_id",
    "runner_version"]) "candidate_sha256 does not match"

/-- The loop over a group of an inventory, with the name before. -/
def inventoryGroup (label : String) : PyStr → List Json → Except PacketFailure Unit
  | _, [] => .ok ()
  | previous, entry :: rest => do
    let item ← obj entry ["enabled", "name", "schema_sha256"] label
    let name ← id (item.field "name") "inventory.name"
    valid (decide (previous < name)) "inventory group is not sorted/unique"
    let _ ← sha (item.field "schema_sha256") "inventory.schema_sha256"
    let _ ← bool (item.field "enabled") "inventory.enabled"
    inventoryGroup label name rest

/-- The lists of names in which an inventory drifts. -/
def driftNames : List String := ["unknown_names", "missing_names", "schema_drift_names"]

/-- An inventory, once it is checked. -/
structure InventoryRecord where
  candidate : PyStr
  declared : PyStr
  observed : PyStr
  /-- No name is unknown, missing or of another schema. -/
  exact : Bool
  deriving DecidableEq

/-- `_inventory`. -/
def inventory (value : Json) : Except PacketFailure InventoryRecord := do
  let result ← obj value ["candidate_sha256", "declared_inventory_sha256", "mcp_servers",
    "missing_names", "observed_inventory_sha256", "schema_drift_names", "tools", "unknown_names"]
    "inventory"
  let candidate ← sha (result.field "candidate_sha256") "inventory.candidate_sha256"
  let _ ← sha (result.field "declared_inventory_sha256") "inventory.declared_inventory_sha256"
  ["tools", "mcp_servers"].forM fun group => do
    let entries ← arr (result.field group) ("inventory." ++ group)
    inventoryGroup ("inventory." ++ group) [] entries
  let drift ← driftNames.mapM fun key => do
    let values ← arr (result.field key) ("inventory." ++ key)
    let names ← values.mapM fun value => driftId value ("inventory." ++ key)
    inOrder names ("inventory." ++ key)
    return names
  let declared ← hashIs library (result.field "declared_inventory_sha256")
    (project result ["tools", "mcp_servers"]) "inventory hash does not match"
  let observed ← hashIs library (result.field "observed_inventory_sha256")
    (without result ("declared_inventory_sha256" :: "observed_inventory_sha256" :: driftNames))
    "inventory hash does not match"
  return ⟨candidate, declared, observed, drift.all List.isEmpty⟩

/-- A row of the SDK's ledger, once it is checked. -/
structure LedgerRecord where
  rowId : PyStr
  classification : PyStr
  items : Entries

/-- The body of the loop over the rows of the SDK's ledger, with the row ids seen before. -/
def ledgerRow (seen : List PyStr) (ordinal : Nat) (value : Json) :
    Except PacketFailure LedgerRecord := do
  let item ← obj value ["classification", "executable", "ordinal", "pack_id", "proof", "row_id"]
    "sdk_ledger.row"
  valid ((item.field "pack_id").pyEq (.str (lit "sdk_boundary")) &&
    ordinalIs (item.field "ordinal") ordinal) "SDK ledger ordinal/key is invalid"
  let rowId ← id (item.field "row_id") "sdk row_id"
  valid (decide (rowId ∉ seen)) "SDK ledger row keys are duplicated"
  let executable ← bool (item.field "executable") "sdk executable"
  let classification ← enum (item.field "classification") Contract.classifications
    "sdk classification"
  valid (!executable || classification != lit "not_runtime_applicable") "executable SDK row is N/A"
  let proof ← obj (item.field "proof") ["ref", "sha256"] "sdk proof"
  let _ ← proofRef library.casefold (proof.field "ref") "sdk proof ref"
  let _ ← sha (proof.field "sha256") "sdk proof hash"
  return ⟨rowId, classification, item⟩

/-- The loop over the rows of the SDK's ledger. -/
def ledgerRows (seen : List PyStr) (ordinal : Nat) :
    List Json → Except PacketFailure (List LedgerRecord)
  | [] => .ok []
  | value :: rest => do
    let row ← ledgerRow library seen ordinal value
    let others ← ledgerRows (row.rowId :: seen) (ordinal + 1) rest
    return row :: others

/-- The row ids of the SDK's pack; ids of which one is no text are not those of any ledger. -/
def sourceIds (sourceRows : List Json) : Except PacketFailure (List PyStr) :=
  match sourceRows.mapM Json.str? with
  | some texts => .ok texts
  | none => .error .escaped

/-- `validate_sdk_ledger` with the row ids of the SDK's pack. -/
def validateSdkLedger (value : Json) (sourceRows : List Json) :
    Except PacketFailure (PyStr × List LedgerRecord) := do
  let result ← obj value ["ledger_sha256", "rows", "rows_sha256", "schema_version"] "sdk_ledger"
  valid ((result.field "schema_version").pyEq (.int 1)) "SDK ledger schema version is invalid"
  let rows ← arr (result.field "rows") "sdk_ledger.rows" 23
  let checked ← ledgerRows library [] 1 rows
  valid (rows.length == 23) "SDK ledger is not the exact 23-row source set"
  let ids ← sourceIds sourceRows
  valid (sorted (checked.map LedgerRecord.rowId) == sorted ids)
    "SDK ledger is not the exact 23-row source set"
  let _ ← hashIs library (result.field "rows_sha256") (.list (sortRows (checked.map fun row =>
    project row.items ["pack_id", "row_id", "ordinal", "executable", "classification", "proof"])))
    "SDK ledger hash mismatch"
  let hash ← hashIs library (result.field "ledger_sha256") (project result ["schema_version", "rows"])
    "SDK ledger hash mismatch"
  return (hash, checked)

/-- The fields of a freeze that are digests; the source checks them in no fixed order. -/
def freezeHashes : List String :=
  ["candidate_sha256", "capability_set_sha256", "catalog_sha256", "contract_sha256",
    "declared_inventory_sha256", "fixture_manifest_sha256", "observed_inventory_sha256",
    "receipt_artifact_sha256", "replacement_receipt_sha256", "scenario_sha256",
    "sdk_ledger_sha256", "source_map_sha256"]

/-- `validate_freeze`. -/
def validateFreeze (value : Json) : Except PacketFailure Entries := do
  let result ← obj value ["candidate_sha256", "capability_set_sha256", "catalog_sha256",
    "contract_id", "contract_sha256", "declared_inventory_sha256", "fixture_manifest_sha256",
    "freeze_schema_version", "freeze_sha256", "frozen", "observed_inventory_sha256",
    "receipt_artifact_sha256", "replacement_receipt_sha256", "scenario_sha256",
    "scope_partition_id", "sdk_ledger_sha256", "session_scope", "source_map_sha256"] "freeze"
  valid ((result.field "freeze_schema_version").pyEq (.int 1) &&
    (result.field "contract_id").pyEq (.str (lit "hermes-agent-sdk-feature-parity")))
    "freeze envelope is invalid"
  freezeHashes.forM fun key => (sha (result.field key) ("freeze." ++ key)).map fun _ => ()
  let _ ← pref (result.field "scope_partition_id") "PART-" "freeze.scope_partition_id"
  let _ ← enum (result.field "session_scope") ["isolated_cell", "one_logical_session"]
    "freeze.session_scope"
  let frozen ← bool (result.field "frozen") "freeze.frozen"
  valid frozen "freeze hash is invalid"
  let _ ← hashIs library (result.field "freeze_sha256") (without result ["freeze_sha256"])
    "freeze hash is invalid"
  return result

end Library

end HermesClaude.Parity.Packets
