/-
# Run manifests

The manifest of a run lists the receipts of its executions and the hashes of its packets,
bound to the candidate and to its own content.  A run resumes only from a manifest that
passes every check made when it is loaded.
-/

import HermesClaude.Parity.Executors

namespace HermesClaude.Parity

open HermesClaude.Python

/-- `_MAX_MANIFEST_BYTES`. -/
def maxManifestBytes : Nat := 4 * 1024 * 1024

/-- What a manifest is bound to. -/
structure ManifestIdentity where
  lane : Lane
  contractHash : PyStr
  catalogHash : PyStr
  exactCandidate : PyStr

/-! ## Writing -/

/-- The document of a receipt. -/
def Receipt.toEntries (receipt : Receipt) : Entries :=
  [(lit "receipt_id", .str receipt.receiptId),
    (lit "execution_id_hash", .str receipt.executionIdHash),
    (lit "scope", .str (scopeOf receipt.path)),
    (lit "path", ofPath receipt.path),
    (lit "trial_index", .int receipt.trialIndex),
    (lit "turn_count", .int receipt.turnCount)]

/-- The entries of a manifest that say what it is bound to. -/
def ManifestIdentity.fields (identity : ManifestIdentity) : List (String × Json) :=
  [("schema_version", .int 1),
    ("lane", .str identity.lane.value),
    ("contract_hash", .str identity.contractHash),
    ("catalog_hash", .str identity.catalogHash),
    ("candidate_hash", .str identity.exactCandidate),
    ("turn_budget", .int (turnBudget identity.lane))]

/-- The entries of a manifest without its hash. -/
def manifestContent (identity : ManifestIdentity) (executions : List Receipt)
    (packetHashes : List PyStr) : Entries :=
  let lists : List (String × Json) := [
    ("executions", .list (executions.map fun receipt => .dict receipt.toEntries)),
    ("packet_hashes", .list ((sorted packetHashes).map .str))]
  (identity.fields ++ lists).map fun field => (lit field.1, field.2)

/-- `_manifest_payload`, or `none` where it raises. -/
def manifestPayload (floats : FloatText) (identity : ManifestIdentity) (executions : List Receipt)
    (packetHashes : List PyStr) : Option Entries :=
  let value := manifestContent identity executions packetHashes
  (sha256Value floats (.dict value)).map fun digest =>
    value ++ [(lit "manifest_hash", .str digest)]

/-- `_write_manifest` of a payload: the bytes of the file, or `none` where it raises. -/
def manifestBytes (floats : FloatText) (identity : ManifestIdentity) (executions : List Receipt)
    (packetHashes : List PyStr) : Option Bytes :=
  (manifestPayload floats identity executions packetHashes).bind fun payload =>
    fileBytes floats (.dict payload)

/-! ## Loading -/

/-- `_MANIFEST_FIELDS`. -/
def manifestFields : List PyStr :=
  ["schema_version", "lane", "contract_hash", "catalog_hash", "candidate_hash", "turn_budget",
    "executions", "packet_hashes", "manifest_hash"].map lit

/-- The fields of a receipt. -/
def receiptFields : List PyStr :=
  ["receipt_id", "execution_id_hash", "scope", "path", "trial_index", "turn_count"].map lit

/-- `set(entries) == fields`. -/
def hasFields (entries : Entries) (fields : List PyStr) : Bool :=
  fields.all (fun field => Json.hasKey entries field) &&
    entries.all fun item => item.1 ∈ fields

/-- `isinstance(value, str) and len(value) == 64`, with the text. -/
def digestText (value : Json) : Option PyStr :=
  match value with
  | .str text => if text.length = 64 then some text else none
  | _ => none

/-- The path of a receipt of the given scope. -/
def loadPath (scope path : Json) : Except ResultViolation (Option TrialPath) :=
  if scope.str? = some (lit "path") then
    (requireMember trialPaths TrialPath.value path
      (lit "run manifest path receipt is malformed")).map some
  else do
    require (path matches .null) (lit "run manifest bundle receipt cannot name one path")
    pure none

/-- The body of the loop over the receipts, with the ids seen before. -/
def loadReceipt (seen : List PyStr) (raw : Json) : Except ResultViolation Receipt :=
  match raw with
  | .dict entries => do
    let get := Entries.field entries
    require (hasFields entries receiptFields) (lit "run manifest execution receipt is malformed")
    refuseIf (!isHashable (get "receipt_id")) (.raised "TypeError")
    require (!isOneOf seen (get "receipt_id"))
      (lit "run manifest contains a duplicate execution receipt")
    refuseIf (!isHashable (get "scope")) (.raised "TypeError")
    require (isOneOf [lit "bundle", lit "path"] (get "scope"))
      (lit "run manifest execution scope is unsupported")
    let receiptId ← orRefuse (digestText (get "receipt_id"))
      (.violation (lit "run manifest receipt_id is malformed"))
    let executionIdHash ← orRefuse (digestText (get "execution_id_hash"))
      (.violation (lit "run manifest execution_id_hash is malformed"))
    let trialIndex ← ResultPacket.requireIntFrom 1 (get "trial_index")
      (lit "run manifest trial_index is malformed")
    let path ← loadPath (get "scope") (get "path")
    let turnCount ← ResultPacket.requireIntFrom 0 (get "turn_count")
      (lit "run manifest turn_count is malformed")
    pure { receiptId, executionIdHash, path, trialIndex, turnCount }
  | _ => .error (.violation (lit "run manifest execution receipt is malformed"))

/-- The loop over the receipts. -/
def loadReceipts (seen : List PyStr) : List Json → Except ResultViolation (List Receipt)
  | [] => .ok []
  | raw :: executions => do
    let receipt ← loadReceipt seen raw
    let receipts ← loadReceipts (receipt.receiptId :: seen) executions
    pure (receipt :: receipts)

/-- The checks of `_load_manifest` on the entries of the document. -/
def loadContent (floats : FloatText) (identity : ManifestIdentity) (loaded : Entries) :
    Except ResultViolation (List Receipt × List PyStr) := do
  require (hasFields loaded manifestFields) (lit "run manifest fields do not match schema")
  require (identity.fields.all fun field => Json.pyEq (loaded.field field.1) field.2)
    (lit "run manifest does not match the exact candidate and lane")
  let content ← orRaise
    (sha256Value floats (.dict (loaded.filter fun item => item.1 ≠ lit "manifest_hash"))) "ValueError"
  require (Json.pyEq (loaded.field "manifest_hash") (.str content))
    (lit "run manifest hash does not match its content")
  let (executions, packetHashes) ← orRefuse
    ((loaded.field "executions").list?.bind fun executions =>
      (loaded.field "packet_hashes").list?.map fun packetHashes => (executions, packetHashes))
    (.violation (lit "run manifest executions and packet_hashes must be lists"))
  let receipts ← loadReceipts [] executions
  require ((receipts.map Receipt.turnCount).sum ≤ turnBudget identity.lane)
    (lit "run manifest exceeds the authorized turn budget")
  let hashes ← orRefuse (packetHashes.mapM digestText)
    (.violation (lit "run manifest packet hashes are malformed"))
  pure (receipts, hashes)

/-- `_load_manifest` of the bytes of a regular file. -/
def loadManifest (floats : FloatText) (identity : ManifestIdentity) (data : Bytes) :
    Except ResultViolation (List Receipt × List PyStr) :=
  if data.length > maxManifestBytes then
    .error (.violation (lit "run manifest is missing or exceeds the bounded file size"))
  else
    match readFile floats data with
    | none => .error .unreadable
    | some value =>
      match jsonCompatible value with
      | some (.dict loaded) => loadContent floats identity loaded
      | some _ => .error (.violation (lit "run manifest fields do not match schema"))
      | none => .error (.violation (lit "run manifest cannot be read safely"))

end HermesClaude.Parity
