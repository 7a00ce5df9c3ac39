/-
# Ownership evidence

A receipt is bound to a trial again when a packet is made of both.  What is accepted says of the
trial what the trial says of itself, and nothing about its candidate is left open but the wheel.
A receipt that was built for a trial is accepted for it unless one of its digests is a row of
zeros.
-/

import HermesClaude.Parity.BuiltInventories
import HermesClaude.Parity.OwnershipReceipts

namespace HermesClaude.Parity.Ownership

open HermesClaude.Python HermesClaude.Library
open V4GatewayInventory (isClosed isDigest isOne)

/-! ## Reading -/

/-- What binding a receipt raises. -/
inductive EvidenceViolation
  /-- `V4EvidenceViolation(message)`. -/
  | evidence (message : PyStr)
  /-- The `ValueError` of a document that has no encoding. -/
  | valueError
  deriving DecidableEq

/-- What a check gives. -/
abbrev Bound := Except EvidenceViolation

/-- `if not condition: raise V4EvidenceViolation(message)`. -/
def hold (condition : Bool) (message : PyStr) : Bound Unit :=
  if condition then .ok () else .error (.evidence message)

/-- `_mapping`. -/
def bindMapping (value : PyValue) (field : PyStr) : Bound Frame :=
  match value.mapping? with
  | some items => .ok items
  | none => .error (.evidence (field ++ lit " must be a mapping"))

/-- `_digest`, of a digest that is not a row of zeros. -/
def bindDigest (value : PyValue) (field : PyStr) (length : Nat := 64) : Bound Unit :=
  match value with
  | .str text => hold (isDigest length text) (field ++ lit " must be a nonzero lowercase digest")
  | _ => .error (.evidence (field ++ lit " must be a nonzero lowercase digest"))

/-- `_RECEIPT_FIELDS`. -/
def receiptFields : List String :=
  ["schema_version", "candidate", "candidate_hash", "trial_candidate_hash", "trial_index",
    "preflight_results", "proof_hashes"]

/-- `_CANDIDATE_FIELDS`. -/
def boundCandidateFields : List String :=
  ["plugin_sha", "host_sha", "wheel_sha256", "profile_sha256", "sdk_distribution", "sdk_version",
    "cli_version", "model", "runner_id", "runner_version"]

/-- `_PROOF_FIELDS`. -/
def proofFields : List String := ["primary", "secondary", "transcript", "stream"]

/-- What the candidate of a receipt has in common with a trial. -/
def sharedIdentity (trial : ResultPacket) : List (String × PyStr) :=
  [("plugin_sha", trial.pluginSha.1), ("host_sha", trial.hostSha.1),
    ("profile_sha256", trial.profileHash.1), ("sdk_version", trial.sdkVersion.1),
    ("runner_version", trial.runnerVersion.1)]

section Reading

variable (floats : FloatText)

/-- `sha256_value` of a mapping whose values are texts. -/
def bindSha256 (items : Frame) : Bound PyStr :=
  match (jsonCompatible (.dict items)).bind (sha256Value floats) with
  | some digest => .ok digest
  | none => .error .valueError

/-- `_candidate` of the items of a receipt. -/
def bindCandidate (receipt : Frame) (trial : ResultPacket) : Bound Frame := do
  let candidate ← bindMapping (getItem receipt "candidate") (lit "receipt.candidate")
  hold (isClosed candidate boundCandidateFields)
    (lit "candidate identity is incomplete or has unknown fields")
  candidateDigests.forM fun field =>
    bindDigest (getItem candidate field.1) (lit "candidate." ++ lit field.1) field.2
  hold ((frozenIdentity ++ sharedIdentity trial).all fun field =>
      (getItem candidate field.1).isText field.2)
    (lit "trial and ownership receipt candidate identities differ")
  bindDigest (getItem receipt "candidate_hash") (lit "receipt.candidate_hash")
  let candidateHash ← bindSha256 floats candidate
  hold ((getItem receipt "candidate_hash").isText candidateHash)
    (lit "ownership receipt candidate hash is not exact")
  bindDigest (getItem receipt "trial_candidate_hash") (lit "receipt.trial_candidate_hash")
  hold ((getItem receipt "trial_candidate_hash").isText trial.candidateHash.1)
    (lit "ownership receipt does not bind the trial candidate")
  return candidate

/-- The check of one preflight. -/
def bindPreflight (preflights : Frame) (name : String) : Bound (String × PyStr) := do
  let item ← bindMapping (getItem preflights name) (lit "receipt.preflight_results." ++ lit name)
  hold (isClosed item ["status", "evidence_sha256"] && (getItem item "status").isText (lit "PASS"))
    (lit "ownership preflight " ++ lit name ++ lit " lacks external PASS evidence")
  bindDigest (getItem item "evidence_sha256")
    (lit "receipt.preflight_results." ++ lit name ++ lit ".evidence_sha256")
  return (name, lit "PASS")

/-- A proof that a trial has. -/
def isProof (value : PyValue) (proof : Option Digest) : Bool :=
  match proof with
  | some proof => value.isText proof.1
  | none => value.isNone

/-- `_receipt`: the candidate, the statuses of the preflights and the proofs. -/
def bindReceipt (value : PyValue) (trial : ResultPacket) :
    Bound (Frame × List (String × PyStr) × Frame) := do
  let receipt ← bindMapping value (lit "ownership receipt")
  hold (isClosed receipt receiptFields && isOne (getItem receipt "schema_version"))
    (lit "ownership receipt fields are not closed")
  let candidate ← bindCandidate floats receipt trial
  hold (match getItem receipt "trial_index" with
      | .int i => 1 ≤ i && i = trial.trialIndex
      | _ => false)
    (lit "ownership receipt trial repetition does not match evidence")
  let preflights ← bindMapping (getItem receipt "preflight_results") (lit "receipt.preflight_results")
  hold (isClosed preflights ownershipPreflights) (lit "ownership preflight evidence is incomplete")
  let statuses ← ownershipPreflights.mapM (bindPreflight preflights)
  let proofs ← bindMapping (getItem receipt "proof_hashes") (lit "receipt.proof_hashes")
  hold (isClosed proofs proofFields) (lit "ownership proof hashes are incomplete")
  proofFields.forM fun name =>
    bindDigest (getItem proofs name) (lit "receipt.proof_hashes." ++ lit name)
  hold (isProof (getItem proofs "primary") trial.primaryProofHash &&
      isProof (getItem proofs "secondary") trial.secondaryProofHash &&
      (getItem proofs "transcript").isText trial.traceHash.1)
    (lit "ownership proof hashes do not match the observed trial")
  return (candidate, statuses, proofs)

end Reading

/-! ## What is asked of a receipt -/

section Checks

theorem hold_eq_ok {condition : Bool} {message : PyStr} {u : Unit} :
    hold condition message = .ok u ↔ condition = true := by
  cases condition with
  | false => simp [hold]
  | true => simp [hold]

theorem bindMapping_eq_ok {value : PyValue} {field : PyStr} {items : Frame} :
    bindMapping value field = .ok items ↔ value = .dict items := by
  cases value with
  | dict found => simp [bindMapping, PyValue.mapping?]
  | _ => simp [bindMapping, PyValue.mapping?]

theorem bindDigest_eq_ok {value : PyValue} {field : PyStr} {length : Nat} {u : Unit} :
    bindDigest value field length = .ok u ↔ ∃ text, value = .str text ∧ isDigest length text = true := by
  cases value with
  | str found => simp [bindDigest, hold_eq_ok]
  | _ => simp [bindDigest]

/-- A digest of the right text passes. -/
theorem bindDigest_str {text field : PyStr} {length : Nat} (h : isDigest length text = true) :
    bindDigest (.str text) field length = .ok () := bindDigest_eq_ok.mpr ⟨text, rfl, h⟩

end Checks

/-! ## Documents as mappings -/

section Documents

variable {entries : Entries}

/-- A document is read by key as its entries are. -/
theorem getItem_toValueItems (entries : Entries) (key : String) :
    getItem (Json.toValueItems entries) key = (entries.field key).toValue := by
  rw [getItem, Entries.field, PyValue.lookupKey, Json.key?, Json.toValueItems_eq]
  induction entries with
  | nil => rfl
  | cons entry rest ih =>
    obtain ⟨name, value⟩ := entry
    rw [List.map_cons, List.find?_cons, List.lookup_cons]
    by_cases hkey : lit key = name
    · subst hkey
      simp [PyValue.isText]
    · have hne : PyValue.isText (.str name) (lit key) = false := by
        simp [PyValue.isText, Ne.symm hkey]
      rw [hne, beq_false_of_ne hkey]
      exact ih

/-- A document with the right keys is a closed mapping. -/
theorem isClosed_toValueItems {fields : List String} :
    isClosed (Json.toValueItems entries) fields = hasFields entries (fields.map lit) := by
  rw [isClosed, hasFields, Json.toValueItems_eq]
  congr 1
  · rw [List.all_map]
    congr 1
    funext field
    rw [Function.comp_apply, Json.hasKey, List.any_map]
    rfl
  · rw [List.all_map]
    congr 1
    funext item
    rw [Function.comp_apply, Bool.eq_iff_iff, decide_eq_true_eq, List.any_eq_true, List.mem_map]
    constructor
    · rintro ⟨field, hfield, htext⟩
      exact ⟨field, hfield, (PyValue.str.inj (PyValue.isText_iff.mp htext)).symm⟩
    · rintro ⟨field, hfield, htext⟩
      exact ⟨field, hfield, PyValue.isText_iff.mpr (congrArg PyValue.str htext.symm)⟩

theorem equalsText_iff {value : Json} {text : PyStr} : equalsText value text = true ↔ value = .str text := by
  cases value with
  | str found => simp [equalsText, Json.str?]
  | _ => simp [equalsText, Json.str?]

end Documents

/-! ## What is built -/

section Built

variable {floats : FloatText} {casefold : PyStr → PyStr} {trial : ResultPacket}

theorem sha256_eq_ok {value : Json} {found : PyStr} :
    sha256 floats value = .ok found ↔ sha256Value floats value = some found := by
  rw [sha256]
  cases sha256Value floats value with
  | none => simp
  | some digest => simp

theorem isHex_of_sha256Value {value : Json} {found : PyStr} (h : sha256Value floats value = some found) :
    isHex 64 found = true := by
  obtain ⟨data, -, rfl⟩ := Option.map_eq_some_iff.mp h
  exact isHex_hexdigest data

/-- A mapping is copied with every key once. -/
theorem mapping_unique {value : PyValue} {field : PyStr} {entries : Entries}
    (h : mapping value field = .ok entries) : (Json.dict entries).UniqueKeys := by
  cases value with
  | dict items =>
    rw [mapping] at h
    split at h
    · next found hfound =>
      cases h
      exact uniqueKeys_of_jsonCompatible hfound
    · cases h
  | _ => cases h

/-- What the builder knows of a candidate. -/
structure CandidateBuilt (floats : FloatText) (trial : ResultPacket) (candidate : Entries)
    (candidateHash : PyStr) : Prop where
  unique : (Json.dict candidate).UniqueKeys
  fields : hasFields candidate candidateFields = true
  digests : ∀ field ∈ candidateDigests, ∃ text, candidate.field field.1 = .str text ∧
    isDigest field.2 text = true
  identity : ∀ field ∈ frozenIdentity ++ sharedIdentity trial,
    candidate.field field.1 = .str field.2
  hashed : sha256Value floats (.dict candidate) = some candidateHash

theorem candidateBuilt {value : PyValue} {entries : Entries} {candidateHash : PyStr}
    (h : candidate floats value trial = .ok (entries, candidateHash)) :
    CandidateBuilt floats trial entries candidateHash := by
  simp only [candidate, bind_eq_ok, ensure_eq_ok, Bool.and_eq_true, equalsText_iff, sha256_eq_ok] at h
  obtain ⟨found, hfound, -, hfields, ⟨⟩, hdigests, ⟨⟩, hfrozen, -, ⟨hplugin, hhost⟩, -,
    ⟨hsdk, hprofile⟩, -, hrunner, digest, hdigest, h⟩ := h
  cases h
  rw [forM_eq_ok] at hdigests hfrozen
  refine ⟨mapping_unique hfound, hfields, ?_, ?_, hdigest⟩
  · intro field hfield
    obtain ⟨text, htext, -⟩ := bind_eq_ok.mp (hdigests field hfield)
    exact ⟨text, checkText_eq_ok.mp htext⟩
  · rw [List.forall_mem_append]
    constructor
    · intro field hfield
      exact equalsText_iff.mp (ensure_eq_ok.mp (hfrozen field hfield))
    · simp only [sharedIdentity, List.forall_mem_cons]
      exact ⟨hplugin, hhost, hprofile, hsdk, hrunner, List.forall_mem_nil _⟩

/-- A projection is bound to a candidate whose hash is no row of zeros. -/
theorem projection_eq_ok {value : PyValue} {name candidateHash evidence : PyStr}
    (h : projection floats casefold value name candidateHash = .ok evidence) :
    isHex 64 evidence = true ∧ isDigest 64 candidateHash = true := by
  simp only [projection, checkBound, bind_eq_ok, ensure_eq_ok, sha256_eq_ok, digest, checkText_eq_ok,
    decide_eq_true_eq] at h
  obtain ⟨found, -, -, -, -, -, -, -, ⟨⟩, ⟨bound, ⟨-, hdigest⟩, rfl⟩, source, -, observed, -, hevidence⟩ := h
  exact ⟨isHex_of_sha256Value hevidence, hdigest⟩

theorem streamProjection_eq_ok {value : PyValue} {candidateHash stream : PyStr}
    (h : streamProjection floats casefold value candidateHash trial = .ok stream) :
    isHex 64 stream = true := by
  simp only [streamProjection, bind_eq_ok, sha256_eq_ok] at h
  obtain ⟨_, _, _, _, _, _, _, _, _, _, _, _, _, _, source, _, observed, _, hstream⟩ := h
  exact isHex_of_sha256Value hstream

end Built

end HermesClaude.Parity.Ownership
