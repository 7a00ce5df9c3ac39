/-
# Bound receipts

A receipt that was built for a trial is bound to this trial unless one of its computed digests
is a row of zeros.  What is bound is what was built: the candidate, a pass for every preflight,
and the proofs of the trial with the digest of its stream.
-/

import HermesClaude.Parity.ManifestRoundTrip
import HermesClaude.Parity.OwnershipEvidence

namespace HermesClaude.Parity.Ownership

open HermesClaude.Python HermesClaude.Library
open V4GatewayInventory (isClosed isDigest isOne)

variable {floats : FloatText} {casefold : PyStr → PyStr} {trial : ResultPacket}

/-- What the builder knows of a receipt. -/
structure ReceiptBuilt (floats : FloatText) (trial : ResultPacket) (receipt : OwnershipReceipt) :
    Prop where
  candidate : CandidateBuilt floats trial receipt.candidate receipt.candidateHash
  candidateHash : isDigest 64 receipt.candidateHash = true
  trialCandidateHash : receipt.trialCandidateHash = trial.candidateHash.1
  trialIsDigest : isDigest 64 trial.candidateHash.1 = true
  trialIndex : receipt.trialIndex = trial.trialIndex
  names : receipt.evidence.map Prod.fst = ownershipPreflights
  evidence : ∀ evidence ∈ receipt.evidence, isHex 64 evidence.2 = true
  stream : isHex 64 receipt.stream = true
  primary : ∃ proof, trial.primaryProofHash = some proof ∧ proof.1 = receipt.primary
  secondary : ∃ proof, trial.secondaryProofHash = some proof ∧ proof.1 = receipt.secondary
  transcript : trial.traceHash.1 = receipt.transcript
  proofs : ∀ proof ∈ [receipt.primary, receipt.secondary, receipt.transcript],
    isDigest 64 proof = true

theorem isDigest_of_isHex {text : PyStr} (h : isHex 64 text = true) (hnonempty : isEmptyHash text = false) :
    isDigest 64 text = true := by
  rw [isEmptyHash, Bool.or_eq_false_iff] at hnonempty
  rw [isDigest, h, Bool.true_and, bne, hnonempty.2]
  rfl

theorem proofsOf_eq_ok {primary secondary transcript : PyStr}
    (h : proofsOf trial = .ok (primary, secondary, transcript)) :
    (∃ proof, trial.primaryProofHash = some proof ∧ proof.1 = primary) ∧
      (∃ proof, trial.secondaryProofHash = some proof ∧ proof.1 = secondary) ∧
      trial.traceHash.1 = transcript ∧
      ∀ proof ∈ [primary, secondary, transcript], isDigest 64 proof = true := by
  rw [proofsOf] at h
  split at h
  · next first second hprimary hsecondary =>
    simp only [bind_eq_ok, digest, checkText_eq_ok, Json.str.injEq] at h
    obtain ⟨_, ⟨rfl, hfirst⟩, _, ⟨rfl, hsecond⟩, _, ⟨rfl, htrace⟩, h⟩ := h
    cases h
    refine ⟨⟨first, hprimary, rfl⟩, ⟨second, hsecondary, rfl⟩, rfl, ?_⟩
    simp only [List.forall_mem_cons]
    exact ⟨hfirst, hsecond, htrace, List.forall_mem_nil _⟩
  · cases h

theorem projections_eq_ok {projections : Frame} {names : List String} {candidateHash : PyStr}
    {evidence : List (String × PyStr)}
    (h : (names.mapM fun name => do
      let evidence ← projection floats casefold (getItem projections name) (lit name) candidateHash
      return (name, evidence)) = .ok evidence) :
    evidence.map Prod.fst = names ∧ (∀ item ∈ evidence, isHex 64 item.2 = true) ∧
      (names ≠ [] → isDigest 64 candidateHash = true) := by
  rw [mapM_eq_ok] at h
  induction h with
  | nil => exact ⟨rfl, List.forall_mem_nil _, fun h => absurd rfl h⟩
  | cons hfirst hrest ih =>
    obtain ⟨found, hfound, hpair⟩ := bind_eq_ok.mp hfirst
    cases hpair
    obtain ⟨hhex, hdigest⟩ := projection_eq_ok hfound
    refine ⟨?_, List.forall_mem_cons.mpr ⟨hhex, ih.2.1⟩, fun _ => hdigest⟩
    rw [List.map_cons, ih.1]

/-- What is built was checked against the trial that was read. -/
theorem receiptBuilt {source : TrialSource} {candidateValue preflights stream : PyValue}
    {receipt : OwnershipReceipt}
    (h : buildOwnershipReceipt floats casefold source candidateValue preflights stream = .ok receipt) :
    ∃ trial, readTrial floats source = .ok trial ∧ ReceiptBuilt floats trial receipt := by
  simp only [buildOwnershipReceipt, bind_eq_ok, ensure_eq_ok, Bool.not_eq_true'] at h
  obtain ⟨trial, htrial, -, -, -, -, -, hnonempty, ⟨primary, secondary, transcript⟩, hproofs,
    ⟨candidate, candidateHash⟩, hcandidate, projections, -, evidence, hevidence, stream, hstream,
    h⟩ := h
  cases h
  obtain ⟨hprimary, hsecondary, htranscript, hdigests⟩ := proofsOf_eq_ok hproofs
  obtain ⟨hnames, hhex, hcandidateHash⟩ := projections_eq_ok hevidence
  exact ⟨trial, htrial, candidateBuilt hcandidate, hcandidateHash (List.cons_ne_nil _ _), rfl,
    isDigest_of_isHex trial.candidateHash.2 hnonempty, rfl, hnames, hhex, streamProjection_eq_ok hstream,
    hprimary, hsecondary, htranscript, hdigests⟩

/-! ## Binding -/

section Binding

variable {receipt : OwnershipReceipt}

/-- The items of a receipt. -/
def receiptItems (receipt : OwnershipReceipt) : Frame := Json.toValueItems receipt.toDict

/-- Every key of a receipt is read back. -/
theorem getItem_receiptItems (receipt : OwnershipReceipt) :
    getItem (receiptItems receipt) "candidate" = .dict (Json.toValueItems receipt.candidate) ∧
      getItem (receiptItems receipt) "candidate_hash" = .str receipt.candidateHash ∧
      getItem (receiptItems receipt) "trial_candidate_hash" = .str receipt.trialCandidateHash ∧
      getItem (receiptItems receipt) "trial_index" = .int receipt.trialIndex ∧
      getItem (receiptItems receipt) "preflight_results" = .dict (Json.toValueItems
        (receipt.evidence.map fun evidence => (lit evidence.1, OwnershipReceipt.passed evidence.2))) ∧
      getItem (receiptItems receipt) "proof_hashes" = .dict (Json.toValueItems receipt.proofHashes) := by
  simp only [receiptItems, getItem_toValueItems]
  exact ⟨rfl, rfl, rfl, rfl, rfl, rfl⟩

theorem bindCandidate_receiptItems (h : ReceiptBuilt floats trial receipt) :
    bindCandidate floats (receiptItems receipt) trial = .ok (Json.toValueItems receipt.candidate) := by
  obtain ⟨hcandidate, hhash, htrial, -⟩ := getItem_receiptItems receipt
  have hjson : jsonCompatible (.dict (Json.toValueItems receipt.candidate)) =
      some (.dict receipt.candidate) := jsonCompatible_toValue h.candidate.unique
  simp only [bindCandidate, bind_eq_ok, bindMapping_eq_ok, hold_eq_ok, hcandidate, hhash, htrial,
    PyValue.dict.injEq, exists_eq_left', getItem_toValueItems]
  refine ⟨(), ?_, (), ?_, (), ?_, (), bindDigest_str h.candidateHash, receipt.candidateHash, ?_, (), ?_,
    (), ?_, (), ?_, rfl⟩
  · rw [isClosed_toValueItems]
    exact h.candidate.fields
  · rw [forM_eq_ok]
    intro field hfield
    obtain ⟨text, htext, hdigest⟩ := h.candidate.digests field hfield
    rw [htext]
    exact bindDigest_str hdigest
  · rw [List.all_eq_true]
    intro field hfield
    rw [h.candidate.identity field hfield]
    exact PyValue.isText_iff.mpr rfl
  · rw [bindSha256, hjson, Option.bind_some, h.candidate.hashed]
  · exact PyValue.isText_iff.mpr rfl
  · rw [h.trialCandidateHash]
    exact bindDigest_str h.trialIsDigest
  · rw [h.trialCandidateHash]
    exact PyValue.isText_iff.mpr rfl

/-- An entry of a receipt is read under its name. -/
theorem getItem_evidence {evidence : List (String × PyStr)} (hnodup : (evidence.map Prod.fst).Nodup)
    {item : String × PyStr} (hitem : item ∈ evidence) :
    getItem (Json.toValueItems (evidence.map fun item => (lit item.1, OwnershipReceipt.passed item.2)))
      item.1 = (OwnershipReceipt.passed item.2).toValue := by
  have hkeys : ((evidence.map fun item => (lit item.1, OwnershipReceipt.passed item.2)).map Prod.fst).Nodup := by
    rw [List.map_map]
    have hcomp : (Prod.fst ∘ fun item : String × PyStr => (lit item.1, OwnershipReceipt.passed item.2)) =
        lit ∘ Prod.fst := rfl
    rw [hcomp, ← List.map_map]
    exact hnodup.map lit_injective
  rw [getItem_toValueItems]
  congr 1
  exact field_eq_of_mem hkeys (List.mem_map_of_mem hitem)

theorem bindPreflight_eq_ok {evidence : List (String × PyStr)} (hnodup : (evidence.map Prod.fst).Nodup)
    {item : String × PyStr} (hitem : item ∈ evidence) {status : String × PyStr} :
    bindPreflight (Json.toValueItems
        (evidence.map fun item => (lit item.1, OwnershipReceipt.passed item.2))) item.1 = .ok status ↔
      isDigest 64 item.2 = true ∧ (item.1, lit "PASS") = status := by
  have hitems : bindMapping (getItem (Json.toValueItems
      (evidence.map fun item => (lit item.1, OwnershipReceipt.passed item.2))) item.1)
      (lit "receipt.preflight_results." ++ lit item.1) = .ok (Json.toValueItems
        [(lit "status", .str (lit "PASS")), (lit "evidence_sha256", .str item.2)]) := by
    rw [getItem_evidence hnodup hitem]
    rfl
  have hclosed : (isClosed (Json.toValueItems
      [(lit "status", .str (lit "PASS")), (lit "evidence_sha256", .str item.2)])
      ["status", "evidence_sha256"] && PyValue.isText (getItem (Json.toValueItems
        [(lit "status", .str (lit "PASS")), (lit "evidence_sha256", .str item.2)]) "status")
      (lit "PASS")) = true := by
    rw [isClosed_toValueItems, getItem_toValueItems, Bool.and_eq_true]
    exact ⟨hasFields_of_perm (.refl _), rfl⟩
  have hdigest : getItem (Json.toValueItems
      [(lit "status", .str (lit "PASS")), (lit "evidence_sha256", .str item.2)]) "evidence_sha256" =
      .str item.2 := by
    rw [getItem_toValueItems]
    rfl
  rw [bindPreflight, hitems, ok_bind, hdigest]
  simp only [bind_eq_ok, hold_eq_ok, bindDigest_eq_ok, hclosed]
  constructor
  · rintro ⟨-, -, -, ⟨text, htext, h⟩, hstatus⟩
    cases htext
    cases hstatus
    exact ⟨h, rfl⟩
  · rintro ⟨h, rfl⟩
    exact ⟨(), trivial, (), ⟨item.2, rfl, h⟩, rfl⟩

/-- The preflights of a receipt are bound where every digest is one. -/
theorem bindPreflights_eq_ok (h : ReceiptBuilt floats trial receipt) {statuses : List (String × PyStr)} :
    ownershipPreflights.mapM (bindPreflight (Json.toValueItems (receipt.evidence.map fun item =>
        (lit item.1, OwnershipReceipt.passed item.2)))) = .ok statuses ↔
      (∀ item ∈ receipt.evidence, isDigest 64 item.2 = true) ∧
        (receipt.evidence.map fun item => (item.1, lit "PASS")) = statuses := by
  have hnodup : (receipt.evidence.map Prod.fst).Nodup := by
    rw [h.names]
    decide
  rw [← h.names, mapM_eq_ok, List.forall₂_map_left_iff]
  constructor
  · intro hall
    constructor
    · intro item hitem
      obtain ⟨status, -, hstatus⟩ := exists_right_of_mem hall hitem
      exact ((bindPreflight_eq_ok hnodup hitem).mp hstatus).1
    · have hpairs : List.Forall₂ (fun item status => (item.1, lit "PASS") = status) receipt.evidence
          statuses := by
        refine hall.imp ?_
        intro item status hstatus
        simp only [bindPreflight, bind_eq_ok] at hstatus
        obtain ⟨-, -, -, -, -, -, hpair⟩ := hstatus
        exact Except.ok.inj hpair
      rw [← List.forall₂_eq_eq_eq, List.forall₂_map_left_iff]
      exact hpairs
  · rintro ⟨hall, rfl⟩
    rw [List.forall₂_map_right_iff, List.forall₂_same]
    intro item hitem
    exact (bindPreflight_eq_ok hnodup hitem).mpr ⟨hall item hitem, rfl⟩

/-- No digest that was computed for a receipt is a row of zeros. -/
def OwnershipReceipt.HashesNonzero (receipt : OwnershipReceipt) : Prop :=
  (∀ item ∈ receipt.evidence, item.2 ≠ List.replicate 64 0x30) ∧ receipt.stream ≠ List.replicate 64 0x30

instance (receipt : OwnershipReceipt) : Decidable receipt.HashesNonzero :=
  inferInstanceAs (Decidable (_ ∧ _))

/-- What a packet takes from a receipt. -/
def OwnershipReceipt.parts (receipt : OwnershipReceipt) : Frame × List (String × PyStr) × Frame :=
  (Json.toValueItems receipt.candidate, receipt.evidence.map fun item => (item.1, lit "PASS"),
    Json.toValueItems receipt.proofHashes)

theorem isDigest_iff_ne {text : PyStr} (h : isHex 64 text = true) :
    isDigest 64 text = true ↔ text ≠ List.replicate 64 0x30 := by
  rw [isDigest, h, Bool.true_and, bne_iff_ne]

/-- A receipt that was built is bound where its trial counts from one and its digests are digests. -/
theorem bindReceipt_eq_ok (h : ReceiptBuilt floats trial receipt)
    {result : Frame × List (String × PyStr) × Frame} :
    bindReceipt floats (.dict (receiptItems receipt)) trial = .ok result ↔
      (1 ≤ receipt.trialIndex ∧ receipt.HashesNonzero) ∧ receipt.parts = result := by
  obtain ⟨-, -, -, hindex, hpreflights, hproofs⟩ := getItem_receiptItems receipt
  have hclosed : (isClosed (receiptItems receipt) receiptFields &&
      isOne (getItem (receiptItems receipt) "schema_version")) = true := by
    rw [receiptItems, isClosed_toValueItems, getItem_toValueItems, Bool.and_eq_true]
    exact ⟨hasFields_of_perm (.refl _), rfl⟩
  have hpreflightsClosed : isClosed (Json.toValueItems (receipt.evidence.map fun item =>
      (lit item.1, OwnershipReceipt.passed item.2))) ownershipPreflights = true := by
    rw [isClosed_toValueItems, ← h.names]
    apply hasFields_of_perm
    rw [List.map_map, List.map_map]
    exact .refl _
  have hproofsClosed : isClosed (Json.toValueItems receipt.proofHashes) proofFields = true := by
    rw [isClosed_toValueItems]
    exact hasFields_of_perm (.refl _)
  have hproof : getItem (Json.toValueItems receipt.proofHashes) "primary" = .str receipt.primary ∧
      getItem (Json.toValueItems receipt.proofHashes) "secondary" = .str receipt.secondary ∧
      getItem (Json.toValueItems receipt.proofHashes) "transcript" = .str receipt.transcript ∧
      getItem (Json.toValueItems receipt.proofHashes) "stream" = .str receipt.stream := by
    simp only [getItem_toValueItems]
    exact ⟨rfl, rfl, rfl, rfl⟩
  obtain ⟨hprimary, hsecondary, htranscript, hstream⟩ := hproof
  have hsame : (isProof (.str receipt.primary) trial.primaryProofHash &&
      isProof (.str receipt.secondary) trial.secondaryProofHash &&
      (PyValue.str receipt.transcript).isText trial.traceHash.1) = true := by
    obtain ⟨primary, hfirst, hprimary⟩ := h.primary
    obtain ⟨secondary, hsecond, hsecondary⟩ := h.secondary
    rw [hfirst, hsecond, h.transcript, ← hprimary, ← hsecondary]
    simp [isProof, PyValue.isText]
  simp only [bindReceipt, bind_eq_ok, bindMapping_eq_ok, hold_eq_ok, PyValue.dict.injEq,
    exists_eq_left', hclosed, bindCandidate_receiptItems h, hindex, hpreflights, hpreflightsClosed,
    bindPreflights_eq_ok h, hproofs, hproofsClosed, hprimary, hsecondary, htranscript, hsame]
  have hdigests : (proofFields.forM fun name =>
      bindDigest (getItem (Json.toValueItems receipt.proofHashes) name)
        (lit "receipt.proof_hashes." ++ lit name)) = .ok () ↔ isDigest 64 receipt.stream = true := by
    have hknown := h.proofs
    simp only [List.forall_mem_cons] at hknown
    obtain ⟨hknownPrimary, hknownSecondary, hknownTranscript, -⟩ := hknown
    simp only [forM_eq_ok, proofFields, List.forall_mem_cons, hprimary, hsecondary, htranscript,
      hstream, bindDigest_eq_ok, PyValue.str.injEq, exists_eq_left', hknownPrimary, hknownSecondary,
      hknownTranscript, List.not_mem_nil, false_implies, implies_true, true_and, and_true]
  have hnonzero : receipt.HashesNonzero ↔ (∀ item ∈ receipt.evidence, isDigest 64 item.2 = true) ∧
      isDigest 64 receipt.stream = true := by
    rw [OwnershipReceipt.HashesNonzero, isDigest_iff_ne h.stream]
    exact and_congr_left' (forall₂_congr fun item hitem => (isDigest_iff_ne (h.evidence item hitem)).symm)
  rw [hnonzero]
  constructor
  · rintro ⟨-, -, candidate, hcandidate, -, htrial, -, -, statuses, ⟨hevidence, rfl⟩, -, -, ⟨⟩, hstream,
      -, -, hresult⟩
    cases hcandidate
    cases hresult
    simp only [Bool.and_eq_true, decide_eq_true_eq, Nat.one_le_cast] at htrial
    exact ⟨⟨htrial.1, hevidence, hdigests.mp hstream⟩, rfl⟩
  · rintro ⟨⟨htrial, hevidence, hstream⟩, rfl⟩
    refine ⟨(), trivial, _, rfl, (), ?_, (), trivial, _, ⟨hevidence, rfl⟩, (), trivial, (),
      hdigests.mpr hstream, (), trivial, rfl⟩
    simp only [Bool.and_eq_true, decide_eq_true_eq]
    exact ⟨by exact_mod_cast htrial, congrArg Nat.cast h.trialIndex⟩

end Binding

/-- **What is built is bound.** A receipt that is built is bound to its trial, with what it says,
exactly where the trial counts from one and no computed digest is a row of zeros. -/
theorem bind_built (floats : FloatText) (casefold : PyStr → PyStr) (source : TrialSource)
    (candidateValue preflights stream : PyValue) :
    (do
      let receipt ← buildOwnershipReceipt floats casefold source candidateValue preflights stream
      let trial ← readTrial floats source
      return (bindReceipt floats (Json.dict receipt.toDict).toValue trial).toOption) =
    (do
      let receipt ← buildOwnershipReceipt floats casefold source candidateValue preflights stream
      return if 1 ≤ receipt.trialIndex ∧ receipt.HashesNonzero then some receipt.parts else none) := by
  cases hbuilt : buildOwnershipReceipt floats casefold source candidateValue preflights stream with
  | error violation => rfl
  | ok receipt =>
    obtain ⟨trial, htrial, hreceipt⟩ := receiptBuilt hbuilt
    have hbind : (bindReceipt floats (Json.dict receipt.toDict).toValue trial).toOption =
        if 1 ≤ receipt.trialIndex ∧ receipt.HashesNonzero then some receipt.parts else none := by
      cases hbound : bindReceipt floats (Json.dict receipt.toDict).toValue trial with
      | ok result =>
        obtain ⟨hgood, rfl⟩ := (bindReceipt_eq_ok hreceipt).mp hbound
        rw [if_pos hgood]
        rfl
      | error violation =>
        have hbad : ¬(1 ≤ receipt.trialIndex ∧ receipt.HashesNonzero) := by
          intro hgood
          have hok := (bindReceipt_eq_ok hreceipt).mpr ⟨hgood, rfl⟩
          have hcontradiction := hbound.symm.trans hok
          cases hcontradiction
        rw [if_neg hbad]
        rfl
    rw [ok_bind, ok_bind, htrial, ok_bind, hbind]

end HermesClaude.Parity.Ownership
