/-
# What a completed trial set means

The trials of a path are frozen, and so a completed path should have them all, and all should
pass.  It has them all; where there are four trials or more, three in a row that pass are
enough, and where there are two, nothing is.
-/

import HermesClaude.Parity.ResultGrader

namespace HermesClaude.Parity.V4

open HermesClaude.Python HermesClaude.Library

/-! ## Checks -/

theorem requireResult_eq_ok {condition : Bool} {message : PyStr} {u : Unit} :
    requireResult condition message = .ok u ↔ condition = true := by
  cases condition with
  | false => exact iff_of_false nofun nofun
  | true => exact iff_of_true rfl rfl

theorem orStop_eq_ok {α : Type} {value : Option α} {violation : Violation} {a : α} :
    orStop value violation = .ok a ↔ value = some a := required_eq_ok

theorem one_le_of_readTarget {value : Json} {passes : Nat} (h : readTarget value = .ok passes) :
    1 ≤ passes := by
  cases value with
  | int i =>
    rw [readTarget] at h
    by_cases hi : 1 ≤ i
    · rw [if_pos hi] at h
      cases h
      omega
    · rw [if_neg hi] at h
      cases h
  | null | bool _ | float _ | str _ | list _ | dict _ => cases h

/-- A policy that is read asks for a positive number of passes. -/
theorem one_le_of_readRepeatPolicy {value : Json} {policy : RepeatPolicy}
    (h : readRepeatPolicy value = .ok policy) : 1 ≤ policy.consecutivePasses := by
  rw [readRepeatPolicy] at h
  rcases bind_eq_ok.mp h with ⟨entries, -, h⟩
  rcases bind_eq_ok.mp h with ⟨passes, hpasses, h⟩
  rcases bind_eq_ok.mp h with ⟨triggers, -, h⟩
  cases h
  exact one_le_of_readTarget hpasses

theorem requiredTrialIndexes_eq_ok {row : SourceRow} {required : List Nat} :
    requiredTrialIndexes row = .ok required ↔
      ∃ policy, readRepeatPolicy row.repeatPolicy = .ok policy ∧ required = trialIndexes policy := by
  simp only [requiredTrialIndexes, bind_eq_ok, Except.ok.injEq]
  exact exists_congr fun policy => and_congr_right fun _ => eq_comm

theorem mem_trialIndexes {policy : RepeatPolicy} {index : Nat} :
    index ∈ trialIndexes policy ↔ 1 ≤ index ∧ index ≤ target policy := by
  rw [trialIndexes, List.mem_range'_1]
  omega

/-! ## Rows -/

section Rows

variable {contract : Contract} {lane : Lane} {cell other : SourceRow × TrialPath}

theorem mem_gradeRows : cell ∈ gradeRows contract lane ↔
    cell.1 ∈ contract.rows lane ∧ cell.2 ∈ cell.1.mandatoryPaths := by
  rw [gradeRows, List.mem_flatMap]
  constructor
  · intro h
    rcases h with ⟨row, hrow, hcell⟩
    rcases List.mem_map.mp hcell with ⟨path, hpath, rfl⟩
    exact ⟨hrow, hpath⟩
  · intro h
    exact ⟨cell.1, h.1, List.mem_map.mpr ⟨cell.2, h.2, rfl⟩⟩

/-- Rows of a lane with the same key are the same. -/
theorem Contract.eq_of_key {row other : SourceRow} (hrow : row ∈ contract.rows lane)
    (hother : other ∈ contract.rows lane) (hkey : other.key = row.key) : other = row := by
  cases lane with
  | rc => exact List.inj_on_of_nodup_map contract.keys_nodup hother hrow hkey
  | runtime => rw [List.mem_singleton.mp hrow, List.mem_singleton.mp hother]

theorem Packet.isOf_iff {packet : Packet} : packet.isOf cell = true ↔
    (packet.sourcePack, packet.sourceItemId) = cell.1.key ∧ packet.path = cell.2 := by
  rw [isOf, SourceRow.key, Prod.mk.injEq, Bool.and_eq_true, Bool.and_eq_true, decide_eq_true_iff,
    decide_eq_true_iff, decide_eq_true_iff]

/-- A packet is of one path. -/
theorem eq_of_isOf {packet : Packet} (hcell : cell ∈ gradeRows contract lane)
    (hother : other ∈ gradeRows contract lane) (hofCell : packet.isOf cell = true)
    (hofOther : packet.isOf other = true) : other = cell := by
  rcases Packet.isOf_iff.mp hofCell with ⟨hkey, hpath⟩
  rcases Packet.isOf_iff.mp hofOther with ⟨hotherKey, hotherPath⟩
  apply Prod.ext
  · exact Contract.eq_of_key (mem_gradeRows.mp hcell).1 (mem_gradeRows.mp hother).1
      (hotherKey.symm.trans hkey)
  · exact hotherPath.symm.trans hpath

theorem find?_isOf {packet : Packet} : (gradeRows contract lane).find? packet.isOf = some cell ↔
    cell ∈ gradeRows contract lane ∧ packet.isOf cell = true := by
  constructor
  · intro h
    exact ⟨List.mem_of_find?_eq_some h, List.find?_some h⟩
  · intro h
    rcases h with ⟨hcell, hof⟩
    cases hfound : (gradeRows contract lane).find? packet.isOf with
    | none => exact absurd hof (List.find?_eq_none.mp hfound cell hcell)
    | some found =>
      rw [eq_of_isOf hcell (List.mem_of_find?_eq_some hfound) hof (List.find?_some hfound)]

end Rows

/-! ## Admission -/

section Admission

variable {contract : Contract} {lane : Lane} {packets : List Packet}

/-- A packet is of a required trial of a path of the lane. -/
def PacketFits (contract : Contract) (lane : Lane) (packet : Packet) : Prop :=
  ∃ cell ∈ gradeRows contract lane, packet.isOf cell = true ∧
    ∃ policy, readRepeatPolicy cell.1.repeatPolicy = .ok policy ∧
      packet.trialIndex ∈ trialIndexes policy

/-- Packets that a report admits. -/
structure Admissible (contract : Contract) (lane : Lane) (packets : List Packet) : Prop where
  fits : ∀ packet ∈ packets, PacketFits contract lane packet
  distinct : (packets.map Packet.gradeKey).Nodup
  candidate : OneCandidate Packet.candidateHash packets
  turns : turnsAdd contract lane packets = true

/-- A step of the loop over the packets. -/
theorem admitTrial_eq_ok {admitted next : List Packet} {packet : Packet} :
    admitTrial (gradeRows contract lane) admitted packet = .ok next ↔
      PacketFits contract lane packet ∧ packet.gradeKey ∉ admitted.map Packet.gradeKey ∧
        next = admitted ++ [packet] := by
  simp only [admitTrial, bind_eq_ok, requireResult_eq_ok, orStop_eq_ok, requiredTrialIndexes_eq_ok,
    find?_isOf, decide_eq_true_eq, Except.ok.injEq]
  constructor
  · intro h
    rcases h with ⟨cell, ⟨hcell, hof⟩, _, ⟨policy, hpolicy, rfl⟩, ⟨⟩, hindex, ⟨⟩, hnew, hnext⟩
    exact ⟨⟨cell, hcell, hof, policy, hpolicy, hindex⟩, hnew, hnext.symm⟩
  · intro h
    rcases h with ⟨⟨cell, hcell, hof, policy, hpolicy, hindex⟩, hnew, hnext⟩
    exact ⟨cell, ⟨hcell, hof⟩, _, ⟨policy, hpolicy, rfl⟩, (), hindex, (), hnew, hnext.symm⟩

/-- What a report admits. -/
theorem admits_iff {admitted : List Packet} :
    (packets.foldlM (admitTrial (gradeRows contract lane)) [] = .ok admitted ∧
      decide ((admitted.map Packet.candidateHash).dedup.length ≤ 1) = true ∧
      turnsAdd contract lane admitted = true) ↔
      Admissible contract lane packets ∧ admitted = packets := by
  rw [foldlM_collect_eq_ok fun _ _ _ => admitTrial_eq_ok, List.nil_append, decide_eq_true_iff,
    dedup_length_le_one]
  constructor
  · intro h
    rcases h with ⟨⟨hfits, -, hdistinct, rfl⟩, hcandidate, hturns⟩
    exact ⟨⟨hfits, hdistinct, hcandidate, hturns⟩, rfl⟩
  · intro h
    rcases h with ⟨hadmissible, rfl⟩
    exact ⟨⟨hadmissible.fits, fun _ _ => List.not_mem_nil, hadmissible.distinct, rfl⟩,
      hadmissible.candidate, hadmissible.turns⟩

section Trials

variable {cell : SourceRow × TrialPath} {policy : RepeatPolicy}

/-- The trials of a path have different indexes. -/
theorem Admissible.nodup_trialIndex (h : Admissible contract lane packets)
    (cell : SourceRow × TrialPath) : ((trialsOf cell packets).map Packet.trialIndex).Nodup := by
  have hkeys : ((trialsOf cell packets).map Packet.gradeKey).Nodup :=
    List.Nodup.sublist (List.filter_sublist.map _) h.distinct
  rw [List.Nodup, List.pairwise_map] at hkeys ⊢
  apply hkeys.imp_of_mem
  intro a b ha hb hne hindex
  rcases List.mem_filter.mp ha with ⟨hain, haof⟩
  rcases List.mem_filter.mp hb with ⟨hbin, hbof⟩
  rcases Packet.isOf_iff.mp haof with ⟨hakey, hapath⟩
  rcases Packet.isOf_iff.mp hbof with ⟨hbkey, hbpath⟩
  rcases Prod.mk.inj (hakey.trans hbkey.symm) with ⟨hpack, hitem⟩
  apply hne
  rw [Packet.gradeKey, Packet.gradeKey, hpack, hitem, hapath, hbpath, hindex,
    h.candidate a hain b hbin]

theorem Admissible.oneCandidate (h : Admissible contract lane packets)
    (cell : SourceRow × TrialPath) : OneCandidate Packet.candidateHash (trialsOf cell packets) := by
  intro a ha b hb
  exact h.candidate a (List.mem_filter.mp ha).1 b (List.mem_filter.mp hb).1

/-- The trials of a path are among those that its policy asks for. -/
theorem Admissible.trialIndex_mem (h : Admissible contract lane packets)
    (hcell : cell ∈ gradeRows contract lane)
    (hpolicy : readRepeatPolicy cell.1.repeatPolicy = .ok policy) :
    ∀ packet ∈ trialsOf cell packets, 1 ≤ packet.trialIndex ∧ packet.trialIndex ≤ target policy := by
  intro packet hpacket
  rcases List.mem_filter.mp hpacket with ⟨hin, hof⟩
  rcases h.fits packet hin with ⟨other, hother, hotherOf, read, hread, hindex⟩
  cases eq_of_isOf hcell hother hof hotherOf
  rw [hpolicy] at hread
  cases hread
  exact mem_trialIndexes.mp hindex

end Trials

end Admission

/-! ## What a result says -/

theorem resultStatus_eq_complete {observed hadFailure three exactTrials passes blocked : Bool}
    {needed : Nat} :
    (resultStatus observed hadFailure three exactTrials passes blocked needed).1 = .complete ↔
      observed = true ∧ (hadFailure = true → needed = 3 ∧ three = true) ∧ exactTrials = true ∧
        (3 ≤ needed ∧ three = true ∨ needed = 1 ∧ passes = true) := by
  unfold resultStatus
  grind

section Results

variable {cell : SourceRow × TrialPath} {policy : RepeatPolicy} {trials : List Packet}

/-- Every required trial has a packet. -/
def Covered (policy : RepeatPolicy) (trials : List Packet) : Prop :=
  ∀ index ∈ trialIndexes policy, ∃ packet ∈ trials, packet.trialIndex = index

/-- Every packet passes with the trace of the row. -/
def AllPass (row : SourceRow) (trials : List Packet) : Prop :=
  ∀ packet ∈ trials, packet.passes row = true

/-- What a completed path is to have: every required trial has a packet, all of them pass, and
they share one candidate. -/
structure PassesExactly (row : SourceRow) (policy : RepeatPolicy) (trials : List Packet) : Prop where
  covered : Covered policy trials
  passes : AllPass row trials
  candidate : OneCandidate Packet.candidateHash trials

/-- No trial is done without passing. -/
def NoneFails (row : SourceRow) (trials : List Packet) : Prop :=
  ∀ packet ∈ trials, packet.fails row = false

/-- Three trials with consecutive indexes pass. -/
def ThreePass (row : SourceRow) (trials : List Packet) : Prop :=
  HasRun Packet.trialIndex (fun packet => packet.passes row = true) trials 3

/-- The indexes of the trials are different, and among those that are required. -/
structure Numbered (policy : RepeatPolicy) (trials : List Packet) : Prop where
  distinct : (trials.map Packet.trialIndex).Nodup
  bounds : ∀ packet ∈ trials, 1 ≤ packet.trialIndex ∧ packet.trialIndex ≤ target policy

theorem fails_eq_false_of_passes {row : SourceRow} {packet : Packet}
    (h : packet.passes row = true) : packet.fails row = false := by
  rw [Packet.passes, Bool.and_eq_true] at h
  rw [Packet.fails, h.1, h.2]
  exact Bool.and_false _

theorem AllPass.noneFails {row : SourceRow} (h : AllPass row trials) : NoneFails row trials := by
  intro packet hpacket
  exact fails_eq_false_of_passes (h packet hpacket)

/-- Where all required trials pass, three in a row do, if there are three. -/
theorem Covered.threePass {row : SourceRow} (hcovered : Covered policy trials)
    (hpass : AllPass row trials) (hthree : 3 ≤ target policy) : ThreePass row trials := by
  apply HasRun.of_forall ?_ hpass hthree
  intro number hone hmost
  exact hcovered number (mem_trialIndexes.mpr ⟨hone, hmost⟩)

/-- Among three required trials, three in a row are all. -/
theorem Numbered.allPass {row : SourceRow} (h : Numbered policy trials)
    (htarget : target policy = 3) (hthree : ThreePass row trials) : AllPass row trials := by
  have hbounds := h.bounds
  rw [htarget] at hbounds
  exact HasRun.forall_good hbounds h.distinct hthree

theorem Numbered.not_threePass {row : SourceRow} (h : Numbered policy trials)
    (htarget : target policy < 3) : ¬ ThreePass row trials := by
  intro hthree
  have hmost : 3 ≤ target policy := HasRun.le_bound h.bounds hthree
  omega

/-- A path with one required trial has one packet. -/
theorem Numbered.eq_singleton (h : Numbered policy trials) (htarget : target policy = 1)
    (hcovered : Covered policy trials) : ∃ packet, trials = [packet] := by
  rcases hcovered 1 (mem_trialIndexes.mpr ⟨le_refl 1, by omega⟩) with ⟨packet, hpacket, -⟩
  have hsame : ∀ other ∈ trials, other = packet := by
    intro other hother
    have hbounds := h.bounds other hother
    have hown := h.bounds packet hpacket
    exact List.inj_on_of_nodup_map h.distinct hother hpacket (by omega)
  have hnodup : trials.Nodup := List.Nodup.of_map _ h.distinct
  refine ⟨packet, ?_⟩
  exact List.perm_singleton.mp ((List.perm_ext_iff_of_nodup hnodup (List.nodup_singleton packet)).mpr
    fun other => ⟨fun hother => List.mem_singleton.mpr (hsame other hother),
      fun hother => List.mem_singleton.mp hother ▸ hpacket⟩)

/-- What the trials of a completed path have. -/
def Completes (row : SourceRow) (policy : RepeatPolicy) (trials : List Packet) : Prop :=
  Covered policy trials ∧
    if target policy ≤ 3 then target policy ≠ 2 ∧ AllPass row trials
    else NoneFails row trials ∧ ThreePass row trials

/-- The trials in the order of their indexes. -/
theorem sorted_perm : (sortByIndex Packet.trialIndex trials).Perm trials := perm_sortByIndex trials

theorem coversExactly_iff (h : Numbered policy trials) :
    coversExactly (trialIndexes policy) (sortByIndex Packet.trialIndex trials) = true ↔
      Covered policy trials := by
  rw [coversExactly, Bool.and_eq_true, List.all_eq_true, List.all_eq_true]
  simp only [decide_eq_true_iff, List.mem_map, sorted_perm.mem_iff]
  apply and_iff_left
  intro index hindex
  rcases hindex with ⟨packet, hpacket, rfl⟩
  exact mem_trialIndexes.mpr (h.bounds packet hpacket)

theorem passPower3_iff {row : SourceRow} (h : Numbered policy trials)
    (hcandidate : OneCandidate Packet.candidateHash trials) :
    passPower3 row (sortByIndex Packet.trialIndex trials) = true ↔ ThreePass row trials := by
  have hsorted : OneCandidate Packet.candidateHash (sortByIndex Packet.trialIndex trials) := by
    intro a ha b hb
    exact hcandidate a (sorted_perm.mem_iff.mp ha) b (sorted_perm.mem_iff.mp hb)
  rw [passPower3, threeConsecutive_iff hsorted ((sorted_perm.map _).nodup_iff.mpr h.distinct)]
  exact ⟨fun h => h.perm sorted_perm, fun h => h.perm sorted_perm.symm⟩

theorem any_fails_iff {row : SourceRow} :
    (sortByIndex Packet.trialIndex trials).any (Packet.fails row) = true ↔ ¬ NoneFails row trials := by
  rw [sorted_perm.any_eq, List.any_eq_true, NoneFails]
  push Not
  simp only [ne_eq, Bool.not_eq_false]

/-- How many passes in a row are looked for. -/
theorem requiredConsecutive_eq {row : SourceRow} {triggers : List PyStr}
    (htriggers : policy.triggers = some triggers) (hpasses : 1 ≤ policy.consecutivePasses)
    {observed : List Packet} :
    requiredConsecutive row policy triggers observed =
      if target policy < 3 ∧ (observed.any (V4.Packet.fails row) || isUnstable row observed) = true
      then 3 else target policy := by
  rw [requiredConsecutive, target, htriggers, Option.getD_some]
  cases asksForThree triggers with
  | true =>
    rw [Bool.true_or, Bool.true_or, if_pos rfl, if_neg (by omega)]
  | false =>
    rw [Bool.false_or, if_neg Bool.false_ne_true]
    by_cases hraised : (observed.any (Packet.fails row) || isUnstable row observed) = true
    · rw [if_pos hraised]
      by_cases htwo : policy.consecutivePasses < 3
      · rw [if_pos ⟨htwo, hraised⟩, max_eq_right (by omega)]
      · rw [if_neg (fun h => htwo h.1), max_eq_left (by omega)]
    · rw [if_neg hraised, if_neg (fun h => hraised h.2)]

theorem one_le_target (hpasses : 1 ≤ policy.consecutivePasses) : 1 ≤ target policy := by
  rw [target]
  split
  · omega
  · exact hpasses

theorem Covered.ne_nil (hpasses : 1 ≤ policy.consecutivePasses) (hcovered : Covered policy trials) :
    (!(sortByIndex Packet.trialIndex trials).isEmpty) = true := by
  have hone : 1 ≤ target policy := one_le_target hpasses
  rcases hcovered 1 (mem_trialIndexes.mpr ⟨le_refl 1, hone⟩) with ⟨packet, hpacket, -⟩
  rw [Bool.not_eq_true', List.isEmpty_eq_false_iff_exists_mem]
  exact ⟨packet, sorted_perm.mem_iff.mpr hpacket⟩

/-- A path with one required trial is looked at alone. -/
theorem Numbered.completes_one {row : SourceRow} (h : Numbered policy trials)
    (htarget : target policy = 1) (hcovered : Covered policy trials) :
    (NoneFails row trials ∧ isUnstable row (sortByIndex Packet.trialIndex trials) = false ∧
      (sortByIndex Packet.trialIndex trials).any (Packet.passes row) = true) ↔ AllPass row trials := by
  rcases h.eq_singleton htarget hcovered with ⟨packet, rfl⟩
  constructor
  · intro h
    rcases List.any_eq_true.mp h.2.2 with ⟨other, hother, hpasses⟩
    cases List.mem_singleton.mp hother
    intro other hother
    rw [List.mem_singleton.mp hother]
    exact hpasses
  · intro hpass
    refine ⟨hpass.noneFails, ?_, ?_⟩
    · simp [isUnstable, sortByIndex]
    · exact List.any_eq_true.mpr ⟨packet, List.mem_singleton.mpr rfl,
        hpass packet (List.mem_singleton.mpr rfl)⟩

/-- **Completed trial sets.** A path is complete exactly if its trials are. -/
theorem pathResult_eq_complete {triggers : List PyStr} (htriggers : policy.triggers = some triggers)
    (hpasses : 1 ≤ policy.consecutivePasses) (hnumbered : Numbered policy trials)
    (hcandidate : OneCandidate Packet.candidateHash trials) :
    (pathResult cell policy triggers (sortByIndex Packet.trialIndex trials)).status = .complete ↔
      Completes cell.1 policy trials := by
  change (resultStatus _ _ _ _ _ _ _).1 = .complete ↔ _
  rw [resultStatus_eq_complete, coversExactly_iff hnumbered, passPower3_iff hnumbered hcandidate,
    any_fails_iff, requiredConsecutive_eq htriggers hpasses, Completes]
  have hone : 1 ≤ target policy := one_le_target hpasses
  have hraised : (sortByIndex Packet.trialIndex trials).any (Packet.fails cell.1) = false ↔
      NoneFails cell.1 trials := by
    rw [← Bool.not_eq_true, any_fails_iff, not_not]
  have hnonempty : Covered policy trials → _ := Covered.ne_nil hpasses
  -- what the number of required trials says about three in a row
  have hfew : target policy < 3 → ¬ ThreePass cell.1 trials := hnumbered.not_threePass
  have hsingle : target policy = 1 → Covered policy trials →
      ((NoneFails cell.1 trials ∧
        isUnstable cell.1 (sortByIndex Packet.trialIndex trials) = false ∧
        (sortByIndex Packet.trialIndex trials).any (Packet.passes cell.1) = true) ↔
      AllPass cell.1 trials) := hnumbered.completes_one
  have hthree : target policy = 3 → ThreePass cell.1 trials → AllPass cell.1 trials :=
    hnumbered.allPass
  have hall : Covered policy trials → AllPass cell.1 trials → 3 ≤ target policy →
      ThreePass cell.1 trials := Covered.threePass
  generalize ThreePass cell.1 trials = three at hfew hthree hall ⊢
  generalize AllPass cell.1 trials = all at hsingle hthree hall ⊢
  generalize NoneFails cell.1 trials = none at hraised hsingle ⊢
  generalize Covered policy trials = covered at hnonempty hsingle hall ⊢
  generalize (sortByIndex Packet.trialIndex trials).any (Packet.fails cell.1) = fails at hraised ⊢
  generalize isUnstable cell.1 (sortByIndex Packet.trialIndex trials) = unstable at hsingle ⊢
  generalize (sortByIndex Packet.trialIndex trials).any (Packet.passes cell.1) = passes at hsingle ⊢
  generalize (!(sortByIndex Packet.trialIndex trials).isEmpty) = observed at hnonempty ⊢
  generalize target policy = count at hone hfew hsingle hthree hall ⊢
  obtain rfl | rfl | rfl | hmore : count = 1 ∨ count = 2 ∨ count = 3 ∨ 4 ≤ count := by omega
  · grind
  · grind
  · grind
  · grind

end Results

section Reports

variable {contract : Contract} {lane : Lane} {packets : List Packet} {cell : SourceRow × TrialPath}
  {policy : RepeatPolicy}

theorem mem_gradedCells : cell ∈ gradedCells contract lane ↔ cell ∈ gradeRows contract lane :=
  List.mem_insertionSort _

theorem gradeResultPackets_eq_ok {report : ResultReport} :
    gradeResultPackets contract packets lane.value = .ok report ↔
      Admissible contract lane packets ∧ ∃ counts details,
        List.Forall₂ (fun row count => expectedPackets row = .ok count) (contract.rows lane) counts ∧
        List.Forall₂ (fun cell detail => gradePath cell (trialsOf cell packets) = .ok detail)
          (gradedCells contract lane) details ∧
        report = resultReport contract lane packets counts.sum details := by
  rw [gradeResultPackets, laneOf_value]
  simp only [bind_eq_ok, orStop_eq_ok, requireResult_eq_ok, mapM_eq_ok, Except.ok.injEq]
  constructor
  · intro h
    rcases h with ⟨_, hlane, admitted, hadmitted, ⟨⟩, hone, ⟨⟩, hturns, counts, hcounts, details,
      hdetails, hreport⟩
    cases hlane
    rcases admits_iff.mp ⟨hadmitted, hone, hturns⟩ with ⟨hadmissible, rfl⟩
    exact ⟨hadmissible, counts, details, hcounts, hdetails, hreport.symm⟩
  · intro h
    rcases h with ⟨hadmissible, counts, details, hcounts, hdetails, hreport⟩
    rcases admits_iff.mpr ⟨hadmissible, rfl⟩ with ⟨hadmitted, hone, hturns⟩
    exact ⟨lane, rfl, packets, hadmitted, (), hone, (), hturns, counts, hcounts, details, hdetails,
      hreport.symm⟩

/-- A result is made wherever the policy of the row is read and names its triggers. -/
theorem gradePath_eq_ok {trials : List Packet} {detail : PathResult} :
    gradePath cell trials = .ok detail ↔ ∃ policy triggers,
      readRepeatPolicy cell.1.repeatPolicy = .ok policy ∧ policy.triggers = some triggers ∧
        detail = pathResult cell policy triggers (sortByIndex Packet.trialIndex trials) := by
  simp only [gradePath, bind_eq_ok, orStop_eq_ok, Except.ok.injEq]
  constructor
  · intro h
    rcases h with ⟨policy, hpolicy, triggers, htriggers, hdetail⟩
    exact ⟨policy, triggers, hpolicy, htriggers, hdetail.symm⟩
  · intro h
    rcases h with ⟨policy, triggers, hpolicy, htriggers, hdetail⟩
    exact ⟨policy, hpolicy, triggers, htriggers, hdetail.symm⟩

/-- A report marks a path complete. -/
def MarkedComplete (contract : Contract) (packets : List Packet) (lane : Lane)
    (cell : SourceRow × TrialPath) : Prop :=
  ∃ report, gradeResultPackets contract packets lane.value = .ok report ∧
    ∃ detail ∈ report.pathResults, (detail.sourcePack, detail.sourceItemId) = cell.1.key ∧
      detail.path = cell.2 ∧ detail.status = .complete

/-- A report with a path that is not complete has an exit code other than `0`. -/
theorem exitCode_ne_zero {trialPackets : Nat} {details : List PathResult} {detail : PathResult}
    (hdetail : detail ∈ details) (hstatus : detail.status ≠ .complete) :
    (resultReport contract lane packets trialPackets details).exitCode ≠ 0 := by
  have hpos : ∀ status, detail.status = status →
      0 < details.countP fun detail => detail.status = status := by
    intro status h
    exact List.countP_pos_iff.mpr ⟨detail, hdetail, decide_eq_true h⟩
  have hcounted : 0 < (details.countP fun detail => detail.status = .verifiedFailure) ∨
      0 < (details.countP fun detail => detail.status = .partialSet) +
        ((details.countP fun detail => detail.status = .pending) +
          details.countP fun detail => detail.status = .notRun) := by
    cases hcase : detail.status with
    | complete => exact absurd hcase hstatus
    | verifiedFailure => exact .inl (hpos _ hcase)
    | partialSet => exact .inr (Nat.add_pos_left (hpos _ hcase) _)
    | pending => exact .inr (Nat.add_pos_right _ (Nat.add_pos_left (hpos _ hcase) _))
    | notRun => exact .inr (Nat.add_pos_right _ (Nat.add_pos_right _ (hpos _ hcase)))
  simp only [resultReport]
  by_cases hfailed : 0 < details.countP fun detail => detail.status = .verifiedFailure
  · rw [if_pos hfailed]
    decide
  · rw [if_neg hfailed, if_pos (hcounted.resolve_left hfailed)]
    decide

/-- All policies of a lane are read, and name their triggers, if that of one of its rows does. -/
theorem policies_of_isSome (hcell : cell ∈ gradeRows contract lane)
    (hpolicy : readRepeatPolicy cell.1.repeatPolicy = .ok policy)
    (htriggers : policy.triggers.isSome = true) : ∀ row ∈ contract.rows lane,
      ∃ policy, readRepeatPolicy row.repeatPolicy = .ok policy ∧ policy.triggers.isSome = true := by
  cases lane with
  | rc => exact contract.policies
  | runtime =>
    intro row hrow
    have hsoak : cell.1 = contract.runtimeSoak := List.mem_singleton.mp (mem_gradeRows.mp hcell).1
    rw [List.mem_singleton.mp hrow, ← hsoak]
    exact ⟨policy, hpolicy, htriggers⟩

theorem numbered_trialsOf (hadmissible : Admissible contract lane packets)
    (hcell : cell ∈ gradeRows contract lane)
    (hpolicy : readRepeatPolicy cell.1.repeatPolicy = .ok policy) :
    Numbered policy (trialsOf cell packets) :=
  ⟨hadmissible.nodup_trialIndex cell, hadmissible.trialIndex_mem hcell hpolicy⟩

/-- **Completed paths.** A report marks a path complete exactly if its trials are, and its policy
names its triggers. -/
theorem markedComplete_iff (hadmissible : Admissible contract lane packets)
    (hcell : cell ∈ gradeRows contract lane)
    (hpolicy : readRepeatPolicy cell.1.repeatPolicy = .ok policy) :
    MarkedComplete contract packets lane cell ↔
      policy.triggers.isSome = true ∧ Completes cell.1 policy (trialsOf cell packets) := by
  have hstatus : ∀ triggers, policy.triggers = some triggers →
      ((pathResult cell policy triggers (sortByIndex Packet.trialIndex
        (trialsOf cell packets))).status = .complete ↔
      Completes cell.1 policy (trialsOf cell packets)) := by
    intro triggers htriggers
    exact pathResult_eq_complete htriggers (one_le_of_readRepeatPolicy hpolicy)
      (numbered_trialsOf hadmissible hcell hpolicy) (hadmissible.oneCandidate cell)
  constructor
  · intro h
    rcases h with ⟨report, hreport, detail, hdetail, hkey, hpath, hcomplete⟩
    rcases gradeResultPackets_eq_ok.mp hreport with ⟨-, counts, details, -, hdetails, rfl⟩
    rcases exists_left_of_mem hdetails hdetail with ⟨other, hother, hmade⟩
    rcases gradePath_eq_ok.mp hmade with ⟨read, triggers, hread, htriggers, rfl⟩
    have hsame : other = cell := by
      apply Prod.ext
      · exact Contract.eq_of_key (mem_gradeRows.mp hcell).1
          (mem_gradeRows.mp (mem_gradedCells.mp hother)).1 hkey
      · exact hpath
    cases hsame
    rw [hpolicy] at hread
    cases hread
    exact ⟨Option.isSome_of_eq_some htriggers, (hstatus triggers htriggers).mp hcomplete⟩
  · intro h
    rcases h with ⟨hsome, hcompletes⟩
    have hpolicies := policies_of_isSome hcell hpolicy hsome
    have hcounted : ∀ row ∈ contract.rows lane, ∃ count, expectedPackets row = .ok count := by
      intro row hrow
      rcases hpolicies row hrow with ⟨read, hread, -⟩
      exact ⟨_, bind_eq_ok.mpr ⟨_, requiredTrialIndexes_eq_ok.mpr ⟨read, hread, rfl⟩, rfl⟩⟩
    have hmade : ∀ other ∈ gradedCells contract lane, ∃ detail,
        gradePath other (trialsOf other packets) = .ok detail := by
      intro other hother
      rcases hpolicies other.1 (mem_gradeRows.mp (mem_gradedCells.mp hother)).1 with
        ⟨read, hread, hnames⟩
      rcases Option.isSome_iff_exists.mp hnames with ⟨triggers, htriggers⟩
      exact ⟨_, gradePath_eq_ok.mpr ⟨read, triggers, hread, htriggers, rfl⟩⟩
    rcases exists_forall₂ hcounted with ⟨counts, hcounts⟩
    rcases exists_forall₂ hmade with ⟨details, hdetails⟩
    rcases exists_right_of_mem hdetails (mem_gradedCells.mpr hcell) with ⟨detail, hdetail, hown⟩
    rcases gradePath_eq_ok.mp hown with ⟨read, triggers, hread, htriggers, rfl⟩
    rw [hpolicy] at hread
    cases hread
    exact ⟨_, gradeResultPackets_eq_ok.mpr ⟨hadmissible, counts, details, hcounts, hdetails, rfl⟩, _,
      hdetail, rfl, rfl, (hstatus triggers htriggers).mpr hcompletes⟩

/-- A report that does not mark a path complete has an exit code other than `0`. -/
theorem exitCode_of_not_markedComplete (hcell : cell ∈ gradeRows contract lane)
    (hnot : ¬ MarkedComplete contract packets lane cell) {report : ResultReport}
    (hreport : gradeResultPackets contract packets lane.value = .ok report) : report.exitCode ≠ 0 := by
  rcases gradeResultPackets_eq_ok.mp hreport with ⟨-, counts, details, -, hdetails, hmade⟩
  rcases exists_right_of_mem hdetails (mem_gradedCells.mpr hcell) with ⟨detail, hdetail, hown⟩
  rcases gradePath_eq_ok.mp hown with ⟨read, triggers, -, -, hresult⟩
  rw [hmade]
  apply exitCode_ne_zero hdetail
  intro hcomplete
  apply hnot
  refine ⟨report, hreport, detail, ?_, ?_, ?_, hcomplete⟩
  · rw [hmade]
    exact hdetail
  · rw [hresult]
    rfl
  · rw [hresult]
    rfl

/-- When the grade of a path is exact: its policy names its triggers, asks for other than two
trials, and of four or more trials not three in a row pass while others are pending. -/
def GradedExactly (row : SourceRow) (policy : RepeatPolicy) (trials : List Packet) : Prop :=
  (policy.triggers = none → ¬ PassesExactly row policy trials) ∧
  (policy.triggers.isSome = true →
    (target policy = 2 → ¬ PassesExactly row policy trials) ∧
    (4 ≤ target policy → Covered policy trials → NoneFails row trials → ThreePass row trials →
      AllPass row trials))

/-- What is looked for is all that is required under the condition, and under no other. -/
theorem completes_iff_passesExactly {row : SourceRow} {trials : List Packet}
    (hcandidate : OneCandidate Packet.candidateHash trials) :
    (Completes row policy trials ↔ PassesExactly row policy trials) ↔
      (target policy = 2 → ¬ PassesExactly row policy trials) ∧
      (4 ≤ target policy → Covered policy trials → NoneFails row trials → ThreePass row trials →
        AllPass row trials) := by
  have hexactly : PassesExactly row policy trials ↔
      Covered policy trials ∧ AllPass row trials :=
    ⟨fun h => ⟨h.covered, h.passes⟩, fun h => ⟨h.1, h.2, hcandidate⟩⟩
  have hnone : AllPass row trials → NoneFails row trials := AllPass.noneFails
  have hthree : Covered policy trials → AllPass row trials → 3 ≤ target policy →
      ThreePass row trials := Covered.threePass
  rw [hexactly, Completes]
  grind

/-- A path is marked complete exactly if every required trial has a packet, all of them pass with
the trace of the row and share one candidate, and otherwise the exit code is not `0`: so it is
exactly under the condition. -/
theorem exact_grade_iff (contract : Contract) (packets : List Packet) (lane : Lane)
    (hadmissible : Admissible contract lane packets) (row : SourceRow)
    (hrow : row ∈ contract.rows lane) (path : TrialPath) (hpath : path ∈ row.mandatoryPaths)
    (policy : RepeatPolicy) (hpolicy : readRepeatPolicy row.repeatPolicy = .ok policy) :
    ((MarkedComplete contract packets lane (row, path) ↔
        PassesExactly row policy (trialsOf (row, path) packets)) ∧
      (¬ PassesExactly row policy (trialsOf (row, path) packets) →
        ¬ MarkedComplete contract packets lane (row, path) ∧
        ∀ report, gradeResultPackets contract packets lane.value = .ok report →
          report.exitCode ≠ 0)) ↔
    GradedExactly row policy (trialsOf (row, path) packets) := by
  have hcell : (row, path) ∈ gradeRows contract lane := mem_gradeRows.mpr ⟨hrow, hpath⟩
  have hexit : ¬ MarkedComplete contract packets lane (row, path) → ∀ report,
      gradeResultPackets contract packets lane.value = .ok report → report.exitCode ≠ 0 :=
    fun hnot report hreport => exitCode_of_not_markedComplete hcell hnot hreport
  have hmarked := markedComplete_iff hadmissible hcell hpolicy
  have hcompletes : (Completes row policy (trialsOf (row, path) packets) ↔
      PassesExactly row policy (trialsOf (row, path) packets)) ↔ _ :=
    completes_iff_passesExactly (hadmissible.oneCandidate (row, path))
  rw [GradedExactly]
  constructor
  · intro h
    rcases h with ⟨hiff, -⟩
    constructor
    · intro hnone hpasses
      have hnames : policy.triggers.isSome = true := (hmarked.mp (hiff.mpr hpasses)).1
      rw [hnone] at hnames
      cases hnames
    · intro hnames
      apply hcompletes.mp
      rw [hmarked, and_iff_right hnames] at hiff
      exact hiff
  · intro h
    rcases h with ⟨hunnamed, hnamed⟩
    have hiff : MarkedComplete contract packets lane (row, path) ↔
        PassesExactly row policy (trialsOf (row, path) packets) := by
      rw [hmarked]
      cases htriggers : policy.triggers with
      | none => exact iff_of_false (fun h => Bool.false_ne_true h.1) (hunnamed htriggers)
      | some triggers =>
        have hnames : policy.triggers.isSome = true := Option.isSome_of_eq_some htriggers
        rw [and_iff_right (by rfl)]
        exact hcompletes.mpr (hnamed hnames)
    refine ⟨hiff, ?_⟩
    intro hnot
    have hunmarked : ¬ MarkedComplete contract packets lane (row, path) := fun h => hnot (hiff.mp h)
    exact ⟨hunmarked, hexit hunmarked⟩

end Reports

/-! ## A trial that is pending behind three passes -/

/-- The row of the runtime campaign, where its policy asks for four passes. -/
def soakRow : SourceRow where
  sourcePack := lit "runtime_active"
  sourceItemId := lit "soak-100-turn"
  mandatoryPaths := [.positive, .denial, .recovery]
  expectedTrace := ["start", "state", "tool_requested", "tool_result", "restart", "background",
    "usage", "terminal"].map lit
  repeatPolicy := .dict [(lit "minimum_passes", .int 1), (lit "consecutive_passes", .int 4),
    (lit "triggers", .list [])]
  disposition := none
  mandatoryPaths_nodup := by decide

/-- What is read of its policy. -/
def soakPolicy : RepeatPolicy := ⟨4, some []⟩

theorem readRepeatPolicy_soakRow : readRepeatPolicy soakRow.repeatPolicy = .ok soakPolicy := by
  rfl

def soakContract : Contract where
  sourceRows := []
  runtimeSoak := soakRow
  turns := 100
  keys_nodup := List.nodup_nil
  policies := List.forall_mem_nil _

/-- The events of a trial that passes. -/
def soakEvents : List Entries :=
  ((List.range 7).map fun k => [(lit "sequence", .int (k + 1)),
    (lit "kind", .str ((soakRow.expectedTrace[k]?).getD []))]) ++
  [[(lit "sequence", .int 8), (lit "kind", .str (lit "terminal")),
    (lit "terminal_outcome", .str (lit "completed"))]]

/-- A trial of the positive path that passes. -/
def passingTrial (trialIndex : Nat) (h : 1 ≤ trialIndex) : Packet where
  sourcePack := soakRow.sourcePack
  sourceItemId := soakRow.sourceItemId
  path := .positive
  classification := .complete
  candidateHash := ⟨List.replicate 64 0x61, isHex_replicate_a⟩
  events := soakEvents
  trialIndex
  turnCount := 25
  events_ne := by decide
  terminal := by rfl
  trialIndex_pos := h
  turnCount_le := by decide

/-- A trial of this path that is pending. -/
def pendingTrial : Packet where
  sourcePack := soakRow.sourcePack
  sourceItemId := soakRow.sourceItemId
  path := .positive
  classification := .pending
  candidateHash := ⟨List.replicate 64 0x61, isHex_replicate_a⟩
  events := [[(lit "sequence", .int 1), (lit "kind", .str (lit "preflight"))]]
  trialIndex := 4
  turnCount := 0
  events_ne := by decide
  terminal := by rfl
  trialIndex_pos := by decide
  turnCount_le := by decide

/-- Three trials that pass, and one that is pending. -/
def soakTrials : List Packet :=
  [passingTrial 1 (by decide), passingTrial 2 (by decide), passingTrial 3 (by decide), pendingTrial]

theorem soakTrials_graded : (gradeResultPackets soakContract soakTrials Lane.runtime.value).toOption.any
    (fun report => report.pathResults.any fun detail =>
      detail.sourcePack = soakRow.sourcePack && detail.sourceItemId = soakRow.sourceItemId &&
        detail.path = .positive && detail.status = .complete) = true := by
  decide +kernel

/-- The report marks the path complete. -/
theorem exists_soakReport : ∃ report,
    gradeResultPackets soakContract soakTrials Lane.runtime.value = .ok report ∧
    ∃ detail ∈ report.pathResults, (detail.sourcePack, detail.sourceItemId) = soakRow.key ∧
      detail.path = .positive ∧ detail.status = .complete := by
  rcases (Option.any_eq_true _ _).mp soakTrials_graded with ⟨report, hreport, hmarked⟩
  rcases List.any_eq_true.mp hmarked with ⟨detail, hdetail, hchecks⟩
  simp only [Bool.and_eq_true, decide_eq_true_eq] at hchecks
  rcases hchecks with ⟨⟨⟨hpack, hitem⟩, hpath⟩, hcomplete⟩
  refine ⟨report, ?_, detail, hdetail, Prod.ext hpack hitem, hpath, hcomplete⟩
  cases hgraded : gradeResultPackets soakContract soakTrials Lane.runtime.value with
  | error violation =>
    rw [hgraded] at hreport
    cases hreport
  | ok graded =>
    rw [hgraded] at hreport
    cases hreport
    rfl

theorem soakTrials_admissible : Admissible soakContract .runtime soakTrials := by
  rcases exists_soakReport with ⟨report, hreport, -⟩
  exact (gradeResultPackets_eq_ok.mp hreport).1

theorem soak_grade_iff :
    ((MarkedComplete soakContract soakTrials .runtime (soakRow, .positive) ↔
        PassesExactly soakRow soakPolicy (trialsOf (soakRow, .positive) soakTrials)) ∧
      (¬ PassesExactly soakRow soakPolicy (trialsOf (soakRow, .positive) soakTrials) →
        ¬ MarkedComplete soakContract soakTrials .runtime (soakRow, .positive) ∧
        ∀ report, gradeResultPackets soakContract soakTrials Lane.runtime.value = .ok report →
          report.exitCode ≠ 0)) ↔
    GradedExactly soakRow soakPolicy (trialsOf (soakRow, .positive) soakTrials) :=
  exact_grade_iff soakContract soakTrials .runtime soakTrials_admissible soakRow
    (List.mem_singleton.mpr rfl) .positive (by decide) soakPolicy readRepeatPolicy_soakRow

/-- A path of which a required trial is pending is marked complete. -/
theorem pending_marked_complete : Admissible soakContract .runtime soakTrials ∧
    soakRow ∈ soakContract.rows .runtime ∧ .positive ∈ soakRow.mandatoryPaths ∧
    requiredTrialIndexes soakRow = .ok [1, 2, 3, 4] ∧
    MarkedComplete soakContract soakTrials .runtime (soakRow, .positive) ∧
    ¬ PassesExactly soakRow soakPolicy (trialsOf (soakRow, .positive) soakTrials) := by
  refine ⟨soakTrials_admissible, List.mem_singleton.mpr rfl, by decide, rfl, exists_soakReport, ?_⟩
  intro h
  have hpending : pendingTrial ∈ trialsOf (soakRow, .positive) soakTrials := by
    apply List.mem_filter.mpr
    constructor
    · simp [soakTrials]
    · decide +kernel
  have hpasses : pendingTrial.passes soakRow = true := h.passes pendingTrial hpending
  revert hpasses
  decide +kernel

end HermesClaude.Parity.V4
