/-
# What a completed grade means

A path is graded complete where three trials in a row pass, wherever a failure stands; the
number of passes that a policy asks for is read only where it is one.  So a completed grade
does not always mean what the policy of the row asks for, and this is said exactly.
-/

import HermesClaude.Parity.Grader
import HermesClaude.Parity.ResultRoundTrip

namespace HermesClaude.Parity

open HermesClaude.Python HermesClaude.Library

/-! ## What a grade says -/

theorem gradeStatus_eq_complete {required hadFailure passPower3 passes blocked observed : Bool}
    {needed : Nat} :
    (gradeStatus required hadFailure passPower3 passes blocked observed needed).1 = .complete ↔
      required = true ∧ (hadFailure = true → needed = 3 ∧ passPower3 = true) ∧
        (3 ≤ needed ∧ passPower3 = true ∨ needed = 1 ∧ passes = true) := by
  unfold gradeStatus
  grind

section Grades

variable {row : CatalogRow} {path : TrialPath} {trials : List ResultPacket}

/-- A trial passes its path with the trace of the row. -/
def Passes (row : CatalogRow) (packet : ResultPacket) : Prop :=
  (packet.isPass packet.path && packet.traceMatches row.expectedTrace) = true

/-- So many trials with consecutive indexes pass. -/
def PassesInRow (row : CatalogRow) (trials : List ResultPacket) (count : Nat) : Prop :=
  HasRun ResultPacket.trialIndex (Passes row) trials count

/-- So many trials with consecutive indexes pass behind all that failed. -/
def PassesAfterFailures (row : CatalogRow) (path : TrialPath) (trials : List ResultPacket)
    (count : Nat) : Prop :=
  HasRunAfter ResultPacket.trialIndex (Passes row) (fun packet => isFailing row path packet = true)
    trials count

/-- Some trial failed or its trace is not that of the row. -/
def hasFailure (row : CatalogRow) (path : TrialPath) (trials : List ResultPacket) : Bool :=
  trials.any (isFailing row path)

/-- The policy is consequential or unstable. -/
def CatalogRow.isStrict (row : CatalogRow) : Bool :=
  (row.triggers.getD []).any fun text =>
    strip text = lit "consequential" || strip text = lit "unstable"

/-- The number of passes that the policy of a row asks for. -/
def askedPasses (row : CatalogRow) (path : TrialPath) (trials : List ResultPacket) : Nat :=
  if row.isStrict || hasFailure row path trials then max row.consecutivePasses 3
  else row.consecutivePasses

/-- What a completed grade is to mean. -/
def MeetsPolicy (row : CatalogRow) (path : TrialPath) (trials : List ResultPacket) : Prop :=
  PassesInRow row trials (askedPasses row path trials) ∧
    (hasFailure row path trials = true →
      PassesAfterFailures row path trials (askedPasses row path trials))

/-- Without a failure, three passes are looked for: the policy has such a trigger as it
stands, the trials differ, or the policy asks for three or more. -/
def looksForThree (row : CatalogRow) (trials : List ResultPacket) : Bool :=
  asksForThree (row.triggers.getD []) || isUnstable row trials || 3 ≤ row.consecutivePasses

/-- What the trials of a completed path have. -/
def Completes (row : CatalogRow) (path : TrialPath) (trials : List ResultPacket) : Prop :=
  if hasFailure row path trials then row.consecutivePasses ≤ 3 ∧ PassesInRow row trials 3
  else if looksForThree row trials then PassesInRow row trials 3
  else row.consecutivePasses = 1 ∧ PassesInRow row trials 1

/-- Whether trials differ does not depend on their order. -/
theorem isUnstable_perm {observed : List ResultPacket} (hperm : observed.Perm trials) :
    isUnstable row observed = isUnstable row trials := by
  have hlength := ((hperm.map fun packet =>
    (packet.classification, packet.traceMatches row.expectedTrace)).dedup).length_eq
  rw [isUnstable, isUnstable, hlength]

/-- A path is graded complete exactly if its trials are. -/
theorem pathGrade_eq_complete {triggers : List PyStr} (htriggers : row.triggers = some triggers)
    (hpath : ∀ packet ∈ trials, packet.path = path)
    (hcandidate : OneCandidate ResultPacket.candidateHash trials)
    (hdistinct : (trials.map ResultPacket.trialIndex).Nodup) :
    (pathGrade row path triggers (sortByIndex ResultPacket.trialIndex trials)).status = .complete ↔
      row.required path = true ∧ Completes row path trials := by
  have hperm : (sortByIndex ResultPacket.trialIndex trials).Perm trials := perm_sortByIndex trials
  have hfailure : (sortByIndex ResultPacket.trialIndex trials).any (isFailing row path) =
      hasFailure row path trials := hperm.any_eq
  have hthree : ResultPacket.threeConsecutive row.expectedTrace
      (sortByIndex ResultPacket.trialIndex trials) = true ↔ PassesInRow row trials 3 := by
    have hsorted : OneCandidate ResultPacket.candidateHash
        (sortByIndex ResultPacket.trialIndex trials) := by
      intro a ha b hb
      exact hcandidate a (hperm.mem_iff.mp ha) b (hperm.mem_iff.mp hb)
    rw [ResultPacket.threeConsecutive,
      threeConsecutive_iff hsorted ((hperm.map _).nodup_iff.mpr hdistinct)]
    exact ⟨fun h => h.perm hperm, fun h => h.perm hperm.symm⟩
  have hone : (sortByIndex ResultPacket.trialIndex trials).any (fun packet =>
      packet.isPass path && packet.traceMatches row.expectedTrace) = true ↔
        PassesInRow row trials 1 := by
    rw [hperm.any_eq, PassesInRow, hasRun_one, List.any_eq_true]
    constructor
    · intro h
      rcases h with ⟨packet, hpacket, hpasses⟩
      refine ⟨packet, hpacket, ?_⟩
      rw [Passes, hpath packet hpacket]
      exact hpasses
    · intro h
      rcases h with ⟨packet, hpacket, hpasses⟩
      rw [Passes, hpath packet hpacket] at hpasses
      exact ⟨packet, hpacket, hpasses⟩
  change (gradeStatus _ _ _ _ _ _ _).1 = .complete ↔ _
  rw [gradeStatus_eq_complete, hfailure, hthree, hone, requiredConsecutive, hfailure,
    isUnstable_perm hperm]
  apply and_congr_right
  intro hrequired
  rw [Completes, looksForThree, htriggers, Option.getD_some]
  generalize PassesInRow row trials 3 = three
  generalize PassesInRow row trials 1 = one
  grind

end Grades

section Reports

variable {catalog : GradedCatalog} {lane : Lane} {expected : Option PyStr}
  {packets : List ResultPacket} {row : CatalogRow} {path : TrialPath}

theorem gradePackets_eq_ok {report : GradeReport} :
    gradePackets catalog packets lane.value expected = .ok report ↔
      Admissible catalog lane expected packets ∧ ∃ grades,
        List.Forall₂ (fun cell grade =>
          gradePath cell.1 cell.2 (trialsOf cell.1.capabilityId cell.2 packets) = .ok grade)
          (lanePaths catalog lane) grades ∧
        report = gradeReport catalog lane (candidateIdentity expected packets) grades := by
  rw [gradePackets, laneOf_value]
  simp only [bind_eq_ok, orRefuse_eq_ok, require_eq_ok, mapM_eq_ok, Except.ok.injEq]
  constructor
  · intro h
    rcases h with ⟨_, hlane, admitted, hadmitted, ⟨⟩, hone, grades, hgrades, hreport⟩
    cases hlane
    rcases admits_iff.mp ⟨hadmitted, hone⟩ with ⟨hadmissible, rfl⟩
    exact ⟨hadmissible, grades, hgrades, hreport.symm⟩
  · intro h
    rcases h with ⟨hadmissible, grades, hgrades, hreport⟩
    rcases admits_iff.mpr ⟨hadmissible, rfl⟩ with ⟨hadmitted, hone⟩
    exact ⟨lane, rfl, packets, hadmitted, (), hone, grades, hgrades, hreport.symm⟩

/-- Every policy of the lane names its triggers. -/
def NamesTriggers (catalog : GradedCatalog) (lane : Lane) : Prop :=
  ∀ row ∈ catalog.forLane lane, row.triggers.isSome = true

/-- A report grades a path complete. -/
def GradedComplete (catalog : GradedCatalog) (packets : List ResultPacket) (lane : Lane)
    (expected : Option PyStr) (id : PyStr) (path : TrialPath) : Prop :=
  ∃ report, gradePackets catalog packets lane.value expected = .ok report ∧
    ∃ grade ∈ report.pathGrades, grade.capabilityId = id ∧ grade.path = path ∧
      grade.status = .complete

theorem mem_lanePaths {cell : CatalogRow × TrialPath} :
    cell ∈ lanePaths catalog lane ↔ cell.1 ∈ catalog.forLane lane := by
  rw [lanePaths, List.mem_flatMap]
  constructor
  · intro h
    rcases h with ⟨row, hrow, hcell⟩
    rcases List.mem_map.mp hcell with ⟨path, -, rfl⟩
    exact hrow
  · intro h
    exact ⟨cell.1, h, List.mem_map.mpr ⟨cell.2, mem_trialPaths cell.2, rfl⟩⟩

/-- A grade is made wherever the policy of the row names its triggers. -/
theorem gradePath_eq_ok {trials : List ResultPacket} {grade : PathGrade} :
    gradePath row path trials = .ok grade ↔ ∃ triggers, row.triggers = some triggers ∧
      grade = pathGrade row path triggers (sortByIndex ResultPacket.trialIndex trials) := by
  simp only [gradePath, bind_eq_ok, orRaise_eq_ok, Except.ok.injEq]
  exact exists_congr fun triggers => and_congr_right fun _ => eq_comm

/-- Rows of a catalog with the same id are the same. -/
theorem GradedCatalog.eq_of_capabilityId {other : CatalogRow} (hrow : row ∈ catalog.forLane lane)
    (hother : other ∈ catalog.forLane lane) (hid : other.capabilityId = row.capabilityId) :
    other = row := by
  have hinjective := List.inj_on_of_nodup_map catalog.capabilityIds_nodup
  exact hinjective (List.mem_of_mem_filter hother) (List.mem_of_mem_filter hrow) hid

/-- **Completed grades.** A required path is graded complete exactly if its trials are, and all
policies of the lane name their triggers. -/
theorem gradedComplete_iff (hadmissible : Admissible catalog lane expected packets)
    (hrow : row ∈ catalog.forLane lane) :
    GradedComplete catalog packets lane expected row.capabilityId path ↔
      NamesTriggers catalog lane ∧ row.required path = true ∧
        Completes row path (trialsOf row.capabilityId path packets) := by
  have hstatus : ∀ triggers, row.triggers = some triggers →
      ((pathGrade row path triggers (sortByIndex ResultPacket.trialIndex
        (trialsOf row.capabilityId path packets))).status = .complete ↔
      row.required path = true ∧ Completes row path (trialsOf row.capabilityId path packets)) := by
    intro triggers htriggers
    apply pathGrade_eq_complete htriggers
    · intro packet hpacket
      rw [trialsOf, List.mem_filter, Bool.and_eq_true, decide_eq_true_iff, decide_eq_true_iff] at hpacket
      exact hpacket.2.2
    · exact hadmissible.oneCandidate _ _
    · exact hadmissible.nodup_trialIndex _ _
  constructor
  · intro h
    rcases h with ⟨report, hreport, grade, hgrade, hid, hpath, hcomplete⟩
    rcases gradePackets_eq_ok.mp hreport with ⟨-, grades, hgrades, rfl⟩
    have hnames : NamesTriggers catalog lane := by
      intro other hother
      have hcell : (other, TrialPath.positive) ∈ lanePaths catalog lane := mem_lanePaths.mpr hother
      rcases exists_right_of_mem hgrades hcell with ⟨_, -, hmade⟩
      rcases gradePath_eq_ok.mp hmade with ⟨triggers, htriggers, -⟩
      exact Option.isSome_of_eq_some htriggers
    refine ⟨hnames, ?_⟩
    rcases exists_left_of_mem hgrades hgrade with ⟨cell, hcell, hmade⟩
    rcases gradePath_eq_ok.mp hmade with ⟨triggers, htriggers, rfl⟩
    have hsame : cell.1 = row :=
      GradedCatalog.eq_of_capabilityId hrow (mem_lanePaths.mp hcell) hid
    rcases cell with ⟨other, otherPath⟩
    cases hsame
    cases hpath
    exact (hstatus triggers htriggers).mp hcomplete
  · intro h
    rcases h with ⟨hnames, hrest⟩
    have hmade : ∀ cell ∈ lanePaths catalog lane, ∃ grade,
        gradePath cell.1 cell.2 (trialsOf cell.1.capabilityId cell.2 packets) = .ok grade := by
      intro cell hcell
      rcases Option.isSome_iff_exists.mp (hnames cell.1 (mem_lanePaths.mp hcell)) with
        ⟨triggers, htriggers⟩
      exact ⟨_, gradePath_eq_ok.mpr ⟨triggers, htriggers, rfl⟩⟩
    rcases exists_forall₂ hmade with ⟨grades, hgrades⟩
    have hcell : (row, path) ∈ lanePaths catalog lane := mem_lanePaths.mpr hrow
    rcases exists_right_of_mem hgrades hcell with ⟨grade, hgrade, hrowGrade⟩
    rcases gradePath_eq_ok.mp hrowGrade with ⟨triggers, htriggers, rfl⟩
    exact ⟨_, gradePackets_eq_ok.mpr ⟨hadmissible, grades, hgrades, rfl⟩, _, hgrade, rfl, rfl,
      (hstatus triggers htriggers).mpr hrest⟩

/-- When the grade of a path is complete exactly if its policy is met: the policies of the lane
name their triggers, and the trials do not tell what is looked for from what is asked for. -/
def GradedAsAsked (catalog : GradedCatalog) (lane : Lane) (row : CatalogRow) (path : TrialPath)
    (trials : List ResultPacket) : Prop :=
  (NamesTriggers catalog lane →
    -- three passes are enough behind failures, and no more than three ever are
    if hasFailure row path trials then
      if row.consecutivePasses ≤ 3 then
        PassesInRow row trials 3 → PassesAfterFailures row path trials 3
      else ¬ PassesAfterFailures row path trials row.consecutivePasses
    else if looksForThree row trials then
      (PassesInRow row trials 3 ↔ PassesInRow row trials (askedPasses row path trials))
    else if row.consecutivePasses = 1 then
      PassesInRow row trials 1 → PassesInRow row trials (askedPasses row path trials)
    else ¬ PassesInRow row trials (askedPasses row path trials)) ∧
  (¬ NamesTriggers catalog lane → ¬ MeetsPolicy row path trials)

/-- Behind a failure, three passes are asked for, or more where the policy asks for more. -/
theorem meetsPolicy_of_hasFailure {trials : List ResultPacket}
    (hfailure : hasFailure row path trials = true) : MeetsPolicy row path trials ↔
      PassesAfterFailures row path trials (max row.consecutivePasses 3) := by
  have hasked : askedPasses row path trials = max row.consecutivePasses 3 := by
    rw [askedPasses, hfailure, Bool.or_true, if_pos rfl]
  rw [MeetsPolicy, hasked]
  constructor
  · intro h
    exact h.2 hfailure
  · intro h
    exact ⟨h.hasRun, fun _ => h⟩

theorem meetsPolicy_of_not_hasFailure {trials : List ResultPacket}
    (hfailure : hasFailure row path trials = false) : MeetsPolicy row path trials ↔
      PassesInRow row trials (askedPasses row path trials) := by
  rw [MeetsPolicy, hfailure]
  exact and_iff_left nofun

/-- What is looked for is what is asked for under the condition, and under no other. -/
theorem completes_iff_meetsPolicy {trials : List ResultPacket} :
    (Completes row path trials ↔ MeetsPolicy row path trials) ↔
      if hasFailure row path trials then
        if row.consecutivePasses ≤ 3 then
          PassesInRow row trials 3 → PassesAfterFailures row path trials 3
        else ¬ PassesAfterFailures row path trials row.consecutivePasses
      else if looksForThree row trials then
        (PassesInRow row trials 3 ↔ PassesInRow row trials (askedPasses row path trials))
      else if row.consecutivePasses = 1 then
        PassesInRow row trials 1 → PassesInRow row trials (askedPasses row path trials)
      else ¬ PassesInRow row trials (askedPasses row path trials) := by
  rw [Completes]
  by_cases hfailure : hasFailure row path trials = true
  · rw [meetsPolicy_of_hasFailure hfailure, if_pos hfailure, if_pos hfailure]
    by_cases hthree : row.consecutivePasses ≤ 3
    · have hafter : PassesAfterFailures row path trials 3 → PassesInRow row trials 3 :=
        HasRunAfter.hasRun
      rw [if_pos hthree, max_eq_right hthree, and_iff_right hthree]
      exact ⟨Iff.mp, fun h => ⟨h, hafter⟩⟩
    · have hmore : 3 ≤ row.consecutivePasses := by omega
      rw [if_neg hthree, max_eq_left hmore]
      tauto
  · have hnone : hasFailure row path trials = false := Bool.eq_false_iff.mpr hfailure
    rw [meetsPolicy_of_not_hasFailure hnone, if_neg hfailure, if_neg hfailure]
    by_cases hlooks : looksForThree row trials = true
    · rw [if_pos hlooks, if_pos hlooks]
    · rw [if_neg hlooks, if_neg hlooks]
      by_cases hone : row.consecutivePasses = 1
      · have hasked : 1 ≤ askedPasses row path trials := by
          rw [askedPasses, hone]
          split
          · decide
          · decide
        have hsome : PassesInRow row trials (askedPasses row path trials) → PassesInRow row trials 1 :=
          fun h => h.mono hasked
        rw [if_pos hone, and_iff_right hone]
        exact ⟨Iff.mp, fun h => ⟨h, hsome⟩⟩
      · rw [if_neg hone]
        tauto

/-- A completed grade means what the policy of its row asks for exactly if the trials of the
path cannot tell it from what the grader looks for. -/
theorem completed_grade_iff (catalog : GradedCatalog) (packets : List ResultPacket) (lane : Lane)
    (expected : Option PyStr) (hadmissible : Admissible catalog lane expected packets)
    (row : CatalogRow) (hrow : row ∈ catalog.forLane lane) (path : TrialPath)
    (hrequired : row.required path = true) :
    (GradedComplete catalog packets lane expected row.capabilityId path ↔
      MeetsPolicy row path (trialsOf row.capabilityId path packets)) ↔
    GradedAsAsked catalog lane row path (trialsOf row.capabilityId path packets) := by
  rw [gradedComplete_iff hadmissible hrow, GradedAsAsked, and_iff_right hrequired,
    ← completes_iff_meetsPolicy]
  by_cases hnames : NamesTriggers catalog lane
  · rw [and_iff_right hnames]
    tauto
  · tauto

end Reports

/-! ## A failure behind three passes -/

/-- A row that asks for one pass. -/
def parentRow : CatalogRow where
  capabilityId := lit "v2:parent-01"
  sourcePack := lit "v2_non_soak"
  lane := .rc
  required path := path = .positive
  consecutivePasses := 1
  triggers := some []
  executionId := lit "v2-parent-01"
  expectedTrace := ["start", "state", "terminal"].map lit
  policy_accepted := RepeatPolicy.accepted_iff.mpr ⟨le_refl 1, List.forall_mem_nil _⟩

def parentCatalog : GradedCatalog where
  rows := [parentRow]
  contractHash := ⟨List.replicate 64 0x61, isHex_replicate_a⟩
  catalogHash := ⟨List.replicate 64 0x62, isHex_replicate_b⟩
  capabilityIds_nodup := by decide

/-- The events of a trial that passes, or that fails. -/
def parentEvents (passes : Bool) : List Entries :=
  [[(lit "sequence", .int 1), (lit "kind", .str (lit "start"))],
    [(lit "sequence", .int 2), (lit "kind", .str (lit "state"))],
    [(lit "sequence", .int 3), (lit "kind", .str (lit "terminal")),
      (lit "terminal_outcome", .str (lit (if passes then "completed" else "failed")))]]

/-- The digest of these events. -/
def parentTraceHash (passes : Bool) : Digest :=
  if passes then ⟨lit "88bfebb235088c38f045b3d8b314682f25bf43aba328d71dc5cd4289c9912294", by decide⟩
  else ⟨lit "b93676a07856ade2da30141a7c28f40cad4af9750ec979452a683164b03ff657", by decide⟩

/-- A trial of the row, but for the hash of the packet. -/
def parentDraft (trialIndex : Nat) (passes : Bool) (packetHash : Digest) : ResultPacket where
  capabilityId := ⟨parentRow.capabilityId, by decide⟩
  sourcePack := ⟨parentRow.sourcePack, by decide⟩
  lane := .rc
  path := .positive
  executionId := ⟨parentRow.executionId, by decide⟩
  classification := if passes then .complete else .verifiedFailure
  contractHash := parentCatalog.contractHash
  catalogHash := parentCatalog.catalogHash
  pluginSha := ⟨List.replicate 40 0x63, by decide⟩
  hostSha := ⟨List.replicate 40 0x64, by decide⟩
  sdkVersion := ⟨lit "1", by decide⟩
  profileId := ⟨lit "profile", by decide⟩
  profileHash := ⟨List.replicate 64 0x65, by decide⟩
  runnerVersion := ⟨lit "1", by decide⟩
  inventoryHash := ⟨List.replicate 64 0x66, by decide⟩
  candidateHash :=
    ⟨lit "0322ef98209c81fb4a830e879b32ca4d72c9d80573242625a58735d1c26ee68a", by decide⟩
  billingClassification := .subscriptionIncluded
  turnCount := 1
  trialIndex
  normalizedEvents := parentEvents passes
  traceHash := parentTraceHash passes
  primaryProofHash := some parentCatalog.contractHash
  secondaryProofHash := some parentCatalog.contractHash
  reasonCode := none
  packetHash

/-- What the hash of a trial is of. -/
def parentContent (trialIndex : Nat) (passes : Bool) : Json :=
  .dict (parentDraft trialIndex passes parentCatalog.contractHash).toEntries.withoutHash

/-- The digest of a value that can be rendered. -/
def digestOf (rendered : Option Bytes) : Digest :=
  match rendered with
  | some data => ⟨hexdigest data, isHex_hexdigest data⟩
  | none => parentCatalog.contractHash

theorem map_hexdigest {rendered : Option Bytes} (h : rendered.isSome = true) :
    rendered.map hexdigest = some (digestOf rendered).val := by
  cases rendered with
  | none => cases h
  | some data => rfl

/-- The hash of a trial. -/
def parentHash (trialIndex : Nat) (passes : Bool) : Digest :=
  digestOf (jsonBytes exactFloatText (parentContent trialIndex passes))

theorem parentDraft_withoutHash (trialIndex : Nat) (passes : Bool) (hash : Digest) :
    Json.dict (parentDraft trialIndex passes hash).toEntries.withoutHash =
      parentContent trialIndex passes := by
  have hsplit : ∀ digest : Digest, (parentDraft trialIndex passes digest).toEntries =
      (parentDraft trialIndex passes hash).toEntries.dropLast ++
        [(lit "packet_hash", .str digest.val)] := fun _ => rfl
  rw [parentContent, hsplit hash, hsplit parentCatalog.contractHash, Entries.withoutHash,
    Entries.withoutHash, List.filter_append, List.filter_append]
  congr 1

theorem parentEvents_fit (passes : Bool) : EventsFit 0 (parentEvents passes) := by
  have hread : (normalizeEvents (.list ((parentEvents passes).map .dict))).toOption.isSome = true := by
    cases passes with
    | false => decide +kernel
    | true => decide +kernel
  cases hevents : normalizeEvents (.list ((parentEvents passes).map .dict)) with
  | error violation =>
    rw [hevents] at hread
    cases hread
  | ok events =>
    rcases normalizeEvents_eq_ok.mp hevents with ⟨hsame, -, hfit⟩
    have hmap : (parentEvents passes).map Json.dict = events.map Json.dict := Json.list.inj hsame
    have hequal : parentEvents passes = events :=
      List.map_injective_iff.mpr (fun _ _ => Json.dict.inj) hmap
    rw [hequal]
    exact hfit

theorem parentDraft_valid {trialIndex : Nat} (htrial : 1 ≤ trialIndex) (passes : Bool) (hash : Digest) :
    (parentDraft trialIndex passes hash).Valid exactFloatText where
  billing := ⟨nofun, nofun⟩
  turnCount := (by decide : 1 ≤ 180)
  trialIndex := htrial
  count := (by decide : 3 ≤ maxNormalizedEvents)
  events := parentEvents_fit passes
  terminal := by
    cases passes with
    | false => rfl
    | true => rfl
  proofs := fun _ => ⟨nofun, nofun⟩
  trace := by
    have htrace : ∀ passes, sha256Value exactFloatText (.list ((parentEvents passes).map .dict)) =
        some (parentTraceHash passes).val := by decide +kernel
    exact htrace passes
  candidate := by
    have hcandidate : Parity.candidateHash exactFloatText
        (parentDraft 1 true parentCatalog.contractHash).candidate =
        some (parentDraft 1 true parentCatalog.contractHash).candidateHash.val := by
      decide +kernel
    exact hcandidate

theorem parentEvents_unique (passes : Bool) :
    (Json.list ((parentEvents passes).map .dict)).UniqueKeys := by
  cases passes with
  | false =>
    exact ⟨⟨by decide, trivial, trivial, trivial⟩, ⟨by decide, trivial, trivial, trivial⟩,
      ⟨by decide, trivial, trivial, trivial, trivial⟩, trivial⟩
  | true =>
    exact ⟨⟨by decide, trivial, trivial, trivial⟩, ⟨by decide, trivial, trivial, trivial⟩,
      ⟨by decide, trivial, trivial, trivial, trivial⟩, trivial⟩

/-- A trial with its hash comes back from its document. -/
theorem parentDraft_decoded {trialIndex : Nat} (htrial : 1 ≤ trialIndex) {passes : Bool}
    (hcontent : (jsonBytes exactFloatText (parentContent trialIndex passes)).isSome = true) :
    ResultPacket.fromDict exactFloatText
        (parentDraft trialIndex passes (parentHash trialIndex passes)).toDict =
      .ok (parentDraft trialIndex passes (parentHash trialIndex passes)) := by
  have hhash : sha256Value exactFloatText (parentContent trialIndex passes) =
      some (parentHash trialIndex passes).val := map_hexdigest hcontent
  generalize parentHash trialIndex passes = hash at hhash
  apply (ResultPacket.fromDict_toDict (parentDraft_valid htrial passes _)
    (parentEvents_unique passes)).mpr
  rw [parentDraft_withoutHash, hhash]
  rfl

theorem parentContent_rendered : [(1, true), (2, true), (3, true), (4, false)].all (fun trial =>
    (jsonBytes exactFloatText (parentContent trial.1 trial.2)).isSome) = true := by
  decide +kernel

/-- Three trials that pass, and one that fails behind them. -/
def failingTrials (hash : Nat → Bool → Digest) : List ResultPacket :=
  [parentDraft 1 true (hash 1 true), parentDraft 2 true (hash 2 true),
    parentDraft 3 true (hash 3 true), parentDraft 4 false (hash 4 false)]

section Failing

variable {hash : Nat → Bool → Digest}

theorem parentDraft_fits (trialIndex : Nat) (passes : Bool) (packetHash : Digest) :
    PacketFits parentCatalog .rc none (parentDraft trialIndex passes packetHash) where
  sameContract := rfl
  sameCatalog := rfl
  hasRow := ⟨parentRow, List.find?_cons_of_pos (decide_eq_true rfl), rfl, rfl, rfl⟩
  sameLane := rfl
  asExpected := nofun

theorem failingTrials_admissible : Admissible parentCatalog .rc none (failingTrials hash) where
  fits := by
    simp only [failingTrials, List.forall_mem_cons, parentDraft_fits, true_and]
    exact List.forall_mem_nil _
  distinct := by
    apply List.Nodup.of_map fun key : PyStr × TrialPath × Nat × Digest => key.2.2.1
    rw [List.map_map]
    exact (by decide : [1, 2, 3, 4].Nodup)
  candidate := by
    have hcandidate : ∀ packet ∈ failingTrials hash,
        packet.candidateHash = (parentDraft 1 true parentCatalog.contractHash).candidateHash := by
      rw [failingTrials, List.forall_mem_cons, List.forall_mem_cons, List.forall_mem_cons,
        List.forall_mem_cons]
      exact ⟨rfl, rfl, rfl, rfl, List.forall_mem_nil _⟩
    intro a ha b hb
    rw [hcandidate a ha, hcandidate b hb]

theorem mem_failingTrials {packet : ResultPacket} : packet ∈ failingTrials hash ↔
    packet = parentDraft 1 true (hash 1 true) ∨ packet = parentDraft 2 true (hash 2 true) ∨
      packet = parentDraft 3 true (hash 3 true) ∨ packet = parentDraft 4 false (hash 4 false) := by
  simp only [failingTrials, List.mem_cons, List.not_mem_nil, or_false]

/-- The trials of the path are all trials. -/
theorem trialsOf_failingTrials :
    trialsOf parentRow.capabilityId .positive (failingTrials hash) = failingTrials hash := by
  have hall : ∀ trialIndex passes packetHash,
      (decide ((parentDraft trialIndex passes packetHash).capabilityId.val = parentRow.capabilityId) &&
        decide ((parentDraft trialIndex passes packetHash).path = .positive)) = true := by
    intro trialIndex passes packetHash
    rw [Bool.and_eq_true, decide_eq_true_iff, decide_eq_true_iff]
    exact ⟨rfl, rfl⟩
  rw [trialsOf, List.filter_eq_self]
  intro packet hpacket
  rcases mem_failingTrials.mp hpacket with rfl | rfl | rfl | rfl
  all_goals exact hall _ _ _

theorem hasFailure_failingTrials : hasFailure parentRow .positive (failingTrials hash) = true :=
  List.any_eq_true.mpr ⟨_, mem_failingTrials.mpr (.inr (.inr (.inr rfl))), rfl⟩

theorem parentDraft_passes (trialIndex : Nat) (packetHash : Digest) :
    Passes parentRow (parentDraft trialIndex true packetHash) := by
  have hpasses : (isPass .positive .complete &&
      traceMatches .positive (parentEvents true) parentRow.expectedTrace) = true := by decide +kernel
  exact hpasses

theorem failingTrials_completes : Completes parentRow .positive (failingTrials hash) := by
  rw [Completes, if_pos hasFailure_failingTrials]
  refine ⟨(by decide : 1 ≤ 3), 1, ?_⟩
  intro k hk
  obtain rfl | rfl | rfl : k = 0 ∨ k = 1 ∨ k = 2 := by omega
  · exact ⟨_, mem_failingTrials.mpr (.inl rfl), rfl, parentDraft_passes _ _⟩
  · exact ⟨_, mem_failingTrials.mpr (.inr (.inl rfl)), rfl, parentDraft_passes _ _⟩
  · exact ⟨_, mem_failingTrials.mpr (.inr (.inr (.inl rfl))), rfl, parentDraft_passes _ _⟩

theorem failingTrials_not_meetsPolicy : ¬ MeetsPolicy parentRow .positive (failingTrials hash) := by
  rw [meetsPolicy_of_hasFailure hasFailure_failingTrials]
  intro h
  rcases h with ⟨first, hafter, hrun⟩
  have hfour : 4 < first := hafter _ (mem_failingTrials.mpr (.inr (.inr (.inr rfl)))) rfl
  rcases hrun 0 (by decide) with ⟨packet, hpacket, hindex, -⟩
  have hmost : packet.trialIndex ≤ 4 := by
    rcases mem_failingTrials.mp hpacket with rfl | rfl | rfl | rfl
    · exact (by decide : 1 ≤ 4)
    · exact (by decide : 2 ≤ 4)
    · exact (by decide : 3 ≤ 4)
    · exact le_refl 4
  omega

end Failing

theorem parentRow_mem : parentRow ∈ parentCatalog.forLane .rc := List.mem_singleton.mpr rfl

theorem parent_grade_iff : (GradedComplete parentCatalog (failingTrials parentHash) .rc none
      parentRow.capabilityId .positive ↔
    MeetsPolicy parentRow .positive
      (trialsOf parentRow.capabilityId .positive (failingTrials parentHash))) ↔
    GradedAsAsked parentCatalog .rc parentRow .positive
      (trialsOf parentRow.capabilityId .positive (failingTrials parentHash)) :=
  completed_grade_iff parentCatalog (failingTrials parentHash) .rc none failingTrials_admissible
    parentRow parentRow_mem .positive rfl

/-- The report grades the path complete, though the last trial failed. -/
theorem graded_before_failure : ∃ packets : List ResultPacket,
    (∀ packet ∈ packets, ResultPacket.fromDict exactFloatText packet.toDict = .ok packet) ∧
    Admissible parentCatalog .rc none packets ∧ parentRow ∈ parentCatalog.forLane .rc ∧
    parentRow.required .positive = true ∧
    GradedComplete parentCatalog packets .rc none parentRow.capabilityId .positive ∧
    ¬ MeetsPolicy parentRow .positive (trialsOf parentRow.capabilityId .positive packets) := by
  have hnames : NamesTriggers parentCatalog .rc := by
    intro row hrow
    cases List.mem_singleton.mp hrow
    rfl
  refine ⟨failingTrials parentHash, ?_, failingTrials_admissible, parentRow_mem, rfl, ?_, ?_⟩
  · have hrendered := parentContent_rendered
    simp only [List.all_cons, List.all_nil, Bool.and_true, Bool.and_eq_true] at hrendered
    rcases hrendered with ⟨hfirst, hsecond, hthird, hfourth⟩
    intro packet hpacket
    rcases mem_failingTrials.mp hpacket with rfl | rfl | rfl | rfl
    · exact parentDraft_decoded (by decide) hfirst
    · exact parentDraft_decoded (by decide) hsecond
    · exact parentDraft_decoded (by decide) hthird
    · exact parentDraft_decoded (by decide) hfourth
  · rw [gradedComplete_iff failingTrials_admissible parentRow_mem, trialsOf_failingTrials]
    exact ⟨hnames, rfl, failingTrials_completes⟩
  · rw [trialsOf_failingTrials]
    exact failingTrials_not_meetsPolicy

end HermesClaude.Parity
