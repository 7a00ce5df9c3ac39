/-
# Grades of a candidate

The grader of the feature catalog: packets of one candidate are admitted one after another,
and every path of the lane gets a status from its trials and from the repeat policy of its
row.
-/

import HermesClaude.Parity.Executors
import HermesClaude.Parity.RepeatPolicy
import HermesClaude.Parity.TrialGrades

namespace HermesClaude.Parity

open HermesClaude.Python HermesClaude.Library

/-! ## The catalog -/

/-- `Capability`, as far as the grader reads it. -/
structure CatalogRow extends Capability where
  expectedTrace : List PyStr
  policy_accepted : RepeatPolicy.Accepted ⟨consecutivePasses, triggers⟩

/-- `Catalog`, as far as the grader reads it. -/
structure GradedCatalog where
  rows : List CatalogRow
  contractHash : Digest
  catalogHash : Digest
  capabilityIds_nodup : (rows.map fun row => row.capabilityId).Nodup

namespace GradedCatalog

/-- `for_lane`. -/
def forLane (catalog : GradedCatalog) (lane : Lane) : List CatalogRow :=
  catalog.rows.filter fun row => row.lane = lane

/-- `by_id`. -/
def byId (catalog : GradedCatalog) (id : PyStr) : Option CatalogRow :=
  catalog.rows.find? fun row => row.capabilityId = id

end GradedCatalog

/-! ## Packets -/

namespace ResultPacket

/-- `_is_pass`. -/
def isPass (packet : ResultPacket) (path : TrialPath) : Bool :=
  Parity.isPass path packet.classification

/-- `_trace_matches`. -/
def traceMatches (packet : ResultPacket) (expectedTrace : List PyStr) : Bool :=
  Parity.traceMatches packet.path packet.normalizedEvents expectedTrace

/-- What no two packets of a report have in common. -/
def gradeKey (packet : ResultPacket) : PyStr × TrialPath × Nat × Digest :=
  (packet.capabilityId.val, packet.path, packet.trialIndex, packet.candidateHash)

/-- `_three_consecutive`. -/
def threeConsecutive (expectedTrace : List PyStr) (packets : List ResultPacket) : Bool :=
  Parity.threeConsecutive trialIndex candidateHash
    (fun packet => packet.isPass packet.path && packet.traceMatches expectedTrace) packets

end ResultPacket

/-- The loop over the packets of a report; what is kept besides the packets is read off them. -/
def admitPacket (catalog : GradedCatalog) (lane : Lane) (expected : Option PyStr)
    (admitted : List ResultPacket) (packet : ResultPacket) :
    Except ResultViolation (List ResultPacket) := do
  require (packet.contractHash = catalog.contractHash && packet.catalogHash = catalog.catalogHash)
    (lit "result packet is bound to a different contract or catalog")
  let row ← orRefuse (catalog.byId packet.capabilityId.val)
    (.violation (lit "result packet references unknown capability " ++ packet.capabilityId.val))
  require (packet.lane = row.lane && packet.lane = lane)
    (lit "result packet lane does not match the catalog or requested lane")
  require (packet.sourcePack.val = row.sourcePack && packet.executionId.val = row.executionId)
    (lit "result packet source or execution identity does not match catalog")
  require (expected.all fun hash => packet.candidateHash.val = hash)
    (lit "result packet is bound to a different exact candidate")
  require (packet.gradeKey ∉ admitted.map ResultPacket.gradeKey)
    (lit "duplicate result packet for capability/path/trial/candidate")
  .ok (admitted ++ [packet])

/-- The packets of a path. -/
def trialsOf (id : PyStr) (path : TrialPath) (packets : List ResultPacket) : List ResultPacket :=
  packets.filter fun packet => packet.capabilityId.val = id && packet.path = path

/-! ## Grades -/

/-- The status of a path. -/
inductive GradeStatus
  | notRequired
  | verifiedFailure
  | complete
  | pending
  deriving DecidableEq

/-- `PathGrade`. -/
structure PathGrade where
  capabilityId : PyStr
  path : TrialPath
  required : Bool
  status : GradeStatus
  observedTrials : Nat
  requiredConsecutive : Nat
  passAt3 : Bool
  passPower3 : Bool
  reason : PyStr

/-- A packet counts as a failure: it is one, or its trace is not that of the row. -/
def isFailing (row : CatalogRow) (path : TrialPath) (packet : ResultPacket) : Bool :=
  packet.classification = .verifiedFailure ||
    packet.isPass path && !packet.traceMatches row.expectedTrace

/-- The trials of a path differ in classification or trace. -/
def isUnstable (row : CatalogRow) (observed : List ResultPacket) : Bool :=
  1 < (observed.map fun packet =>
    (packet.classification, packet.traceMatches row.expectedTrace)).dedup.length

/-- The number of passes in a row that a path needs. -/
def requiredConsecutive (row : CatalogRow) (triggers : List PyStr) (path : TrialPath)
    (observed : List ResultPacket) : Nat :=
  if asksForThree triggers || observed.any (isFailing row path) || isUnstable row observed then
    max row.consecutivePasses 3
  else row.consecutivePasses

/-- The status of a path and its reason. -/
def gradeStatus (required hadFailure passPower3 passes blocked observed : Bool) (needed : Nat) :
    GradeStatus × PyStr :=
  if !required then
    (.notRequired, lit "catalog path is explicitly not required")
  else if hadFailure && !(needed = 3 && passPower3) then
    (.verifiedFailure, lit "a verified failure or trace mismatch has not been followed by strict 3/3 evidence")
  else if 3 ≤ needed && passPower3 then
    (.complete, lit "three consecutive passes share one unchanged candidate identity")
  else if needed = 1 && passes then
    (.complete, lit "required path has deterministic passing evidence")
  else if blocked then
    (.pending, lit "execution is pending or environment-blocked")
  else if observed then
    (.pending, lit "repeat requirement not met: need " ++ decimal needed ++ lit " consecutive pass(es)")
  else
    (.pending, lit "no result packet exists for this required path")

/-- The grade of a path whose policy has the given triggers. -/
def pathGrade (row : CatalogRow) (path : TrialPath) (triggers : List PyStr)
    (observed : List ResultPacket) : PathGrade :=
  let passing (packet : ResultPacket) : Bool :=
    packet.isPass path && packet.traceMatches row.expectedTrace
  let passPower3 := ResultPacket.threeConsecutive row.expectedTrace observed
  let needed := requiredConsecutive row triggers path observed
  let blocked := observed.any fun packet =>
    packet.classification = .pending || packet.classification = .environmentBlocked
  let graded := gradeStatus (row.required path) (observed.any (isFailing row path)) passPower3
    (observed.any passing) blocked (!observed.isEmpty) needed
  { capabilityId := row.capabilityId
    path
    required := row.required path
    status := graded.1
    observedTrials := observed.length
    requiredConsecutive := needed
    passAt3 := (observed.take 3).any passing
    passPower3
    reason := graded.2 }

/-- The grade of a path from the packets of its group. -/
def gradePath (row : CatalogRow) (path : TrialPath) (grouped : List ResultPacket) :
    Except ResultViolation PathGrade := do
  let triggers ← orRaise row.triggers "KeyError"
  .ok (pathGrade row path triggers (sortByIndex ResultPacket.trialIndex grouped))

/-- `GradeReport`. -/
structure GradeReport where
  lane : Lane
  status : GradeStatus
  exitCode : Nat
  contractHash : Digest
  catalogHash : Digest
  candidateHash : Option PyStr
  sourceCoverage : List (PyStr × Nat)
  requiredPaths : Nat
  passedPaths : Nat
  pendingPaths : Nat
  failedPaths : Nat
  passAt3Paths : Nat
  passPower3Paths : Nat
  pathGrades : List PathGrade

/-- `expected or next(iter(identities))`: an empty text counts as none. -/
def candidateIdentity (expected : Option PyStr) (packets : List ResultPacket) : Option PyStr :=
  (expected.filter fun hash => !hash.isEmpty).or
    (packets.head?.map fun packet => packet.candidateHash.val)

/-- The report on the grades of all paths. -/
def gradeReport (catalog : GradedCatalog) (lane : Lane) (identity : Option PyStr)
    (grades : List PathGrade) : GradeReport :=
  let required := grades.filter PathGrade.required
  let count (status : GradeStatus) : Nat := required.countP fun grade => grade.status = status
  let packs := (catalog.forLane lane).map fun row => row.sourcePack
  let (status, exitCode) :=
    if 0 < count .verifiedFailure then (.verifiedFailure, 1)
    else if 0 < count .pending then (.pending, 75)
    else (.complete, 0)
  { lane
    status
    exitCode
    contractHash := catalog.contractHash
    catalogHash := catalog.catalogHash
    candidateHash := identity
    sourceCoverage := packs.eraseDups.map fun pack => (pack, packs.count pack)
    requiredPaths := required.length
    passedPaths := count .complete
    pendingPaths := count .pending
    failedPaths := count .verifiedFailure
    passAt3Paths := required.countP PathGrade.passAt3
    passPower3Paths := required.countP PathGrade.passPower3
    pathGrades := grades }

/-- The paths of a lane in the order in which they are graded. -/
def lanePaths (catalog : GradedCatalog) (lane : Lane) : List (CatalogRow × TrialPath) :=
  (catalog.forLane lane).flatMap fun row => trialPaths.map fun path => (row, path)

/-- A lane by its text. -/
def laneOf (text : PyStr) : Option Lane := memberWith [.rc, .runtime] Lane.value (.str text)

/-- `grade_packets`. -/
def gradePackets (catalog : GradedCatalog) (packets : List ResultPacket) (laneText : PyStr)
    (expected : Option PyStr) : Except ResultViolation GradeReport := do
  let lane ← orRefuse (laneOf laneText) (.violation (lit "grade lane must be rc or runtime"))
  let admitted ← packets.foldlM (admitPacket catalog lane expected) []
  require (expected.isSome || (admitted.map ResultPacket.candidateHash).dedup.length ≤ 1)
    (lit "one grade report cannot combine multiple candidate identities")
  let grades ← (lanePaths catalog lane).mapM fun cell =>
    gradePath cell.1 cell.2 (trialsOf cell.1.capabilityId cell.2 admitted)
  .ok (gradeReport catalog lane (candidateIdentity expected admitted) grades)

/-! ## Admission -/

theorem laneOf_value (lane : Lane) : laneOf lane.value = some lane := by
  cases lane with
  | rc => decide
  | runtime => decide

section Admission

variable {catalog : GradedCatalog} {lane : Lane} {expected : Option PyStr}
  {packets : List ResultPacket}

/-- A packet is one of the catalog, of the lane and of the expected candidate. -/
structure PacketFits (catalog : GradedCatalog) (lane : Lane) (expected : Option PyStr)
    (packet : ResultPacket) : Prop where
  sameContract : packet.contractHash = catalog.contractHash
  sameCatalog : packet.catalogHash = catalog.catalogHash
  hasRow : ∃ row, catalog.byId packet.capabilityId.val = some row ∧ packet.lane = row.lane ∧
    packet.sourcePack.val = row.sourcePack ∧ packet.executionId.val = row.executionId
  sameLane : packet.lane = lane
  asExpected : ∀ hash, expected = some hash → packet.candidateHash.val = hash

/-- Packets that a report admits: each fits, no two are of the same trial, and they are of one
candidate. -/
structure Admissible (catalog : GradedCatalog) (lane : Lane) (expected : Option PyStr)
    (packets : List ResultPacket) : Prop where
  fits : ∀ packet ∈ packets, PacketFits catalog lane expected packet
  distinct : (packets.map ResultPacket.gradeKey).Nodup
  candidate : OneCandidate ResultPacket.candidateHash packets

/-- A step of the loop over the packets. -/
theorem admitPacket_eq_ok {admitted next : List ResultPacket} {packet : ResultPacket} :
    admitPacket catalog lane expected admitted packet = .ok next ↔
      PacketFits catalog lane expected packet ∧
        packet.gradeKey ∉ admitted.map ResultPacket.gradeKey ∧ next = admitted ++ [packet] := by
  simp only [admitPacket, bind_eq_ok, require_eq_ok, orRefuse_eq_ok, Bool.and_eq_true,
    decide_eq_true_eq, Option.all_eq_true, Except.ok.injEq]
  constructor
  · intro h
    rcases h with ⟨⟨⟩, ⟨hcontract, hcatalog⟩, row, hrow, ⟨⟩, ⟨hlane, hasked⟩, ⟨⟩, ⟨hpack, hrun⟩, ⟨⟩,
      hcandidate, ⟨⟩, hnew, hnext⟩
    exact ⟨⟨hcontract, hcatalog, ⟨row, hrow, hlane, hpack, hrun⟩, hasked, hcandidate⟩, hnew, hnext.symm⟩
  · intro h
    rcases h with ⟨hfits, hnew, hnext⟩
    rcases hfits.hasRow with ⟨row, hrow, hlane, hpack, hrun⟩
    exact ⟨(), ⟨hfits.sameContract, hfits.sameCatalog⟩, row, hrow, (), ⟨hlane, hfits.sameLane⟩, (), ⟨hpack, hrun⟩,
      (), hfits.asExpected, (), hnew, hnext.symm⟩

/-- The trials of a path have different indexes. -/
theorem Admissible.nodup_trialIndex (h : Admissible catalog lane expected packets) (id : PyStr)
    (path : TrialPath) : ((trialsOf id path packets).map ResultPacket.trialIndex).Nodup := by
  have hkeys : ((trialsOf id path packets).map ResultPacket.gradeKey).Nodup :=
    List.Nodup.sublist (List.filter_sublist.map _) h.distinct
  rw [List.Nodup, List.pairwise_map] at hkeys ⊢
  apply hkeys.imp_of_mem
  intro a b ha hb hne hindex
  rw [trialsOf, List.mem_filter, Bool.and_eq_true, decide_eq_true_iff, decide_eq_true_iff] at ha hb
  apply hne
  rw [ResultPacket.gradeKey, ResultPacket.gradeKey, ha.2.1, ha.2.2, hb.2.1, hb.2.2, hindex,
    h.candidate a ha.1 b hb.1]

theorem Admissible.oneCandidate (h : Admissible catalog lane expected packets) (id : PyStr)
    (path : TrialPath) : OneCandidate ResultPacket.candidateHash (trialsOf id path packets) := by
  intro a ha b hb
  exact h.candidate a (List.mem_filter.mp ha).1 b (List.mem_filter.mp hb).1

/-- What a report admits. -/
theorem admits_iff {admitted : List ResultPacket} :
    (packets.foldlM (admitPacket catalog lane expected) [] = .ok admitted ∧
      (expected.isSome || (admitted.map ResultPacket.candidateHash).dedup.length ≤ 1) = true) ↔
      Admissible catalog lane expected packets ∧ admitted = packets := by
  rw [foldlM_collect_eq_ok fun _ _ _ => admitPacket_eq_ok, List.nil_append, Bool.or_eq_true,
    decide_eq_true_iff, dedup_length_le_one]
  constructor
  · intro h
    rcases h with ⟨⟨hfits, -, hdistinct, rfl⟩, hcandidate⟩
    refine ⟨⟨hfits, hdistinct, ?_⟩, rfl⟩
    rcases hcandidate with hexpected | hone
    · rcases Option.isSome_iff_exists.mp hexpected with ⟨hash, hhash⟩
      intro a ha b hb
      have hafits : a.candidateHash.val = hash := (hfits a ha).asExpected hash hhash
      have hbfits : b.candidateHash.val = hash := (hfits b hb).asExpected hash hhash
      exact Subtype.ext (hafits.trans hbfits.symm)
    · exact hone
  · intro h
    rcases h with ⟨hadmissible, rfl⟩
    exact ⟨⟨hadmissible.fits, fun _ _ => List.not_mem_nil, hadmissible.distinct, rfl⟩,
      .inr hadmissible.candidate⟩

end Admission

end HermesClaude.Parity
