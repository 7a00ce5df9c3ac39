/-
# The order of graded packets

Packets come from files in any order.  They are admitted one after another and sorted within
their path, and neither leaves a trace of the order they came in: no two packets of a path that
is graded have the same index, and all are of one candidate.
-/

import HermesClaude.Library.Keyed
import HermesClaude.Parity.GradedPolicies

namespace HermesClaude.Parity

open HermesClaude.Python HermesClaude.Library

section Order

variable {catalog : GradedCatalog} {lane : Lane} {expected : Option PyStr}
  {packets packets' : List ResultPacket}

/-- Whether packets are admitted does not depend on their order. -/
theorem Admissible.perm (hperm : packets.Perm packets')
    (h : Admissible catalog lane expected packets) :
    Admissible catalog lane expected packets' := by
  have hmem : ∀ packet ∈ packets', packet ∈ packets := by
    intro packet hpacket
    exact hperm.mem_iff.mpr hpacket
  refine ⟨?_, ?_, ?_⟩
  · intro packet hpacket
    exact h.fits packet (hmem packet hpacket)
  · exact (hperm.map ResultPacket.gradeKey).nodup_iff.mp h.distinct
  · intro a ha b hb
    exact h.candidate a (hmem a ha) b (hmem b hb)

/-- The trials of a path have one order once they are sorted. -/
theorem Admissible.sorted_trials (h : Admissible catalog lane expected packets)
    (hperm : packets.Perm packets') (id : PyStr) (path : TrialPath) :
    sortByIndex ResultPacket.trialIndex (trialsOf id path packets) =
      sortByIndex ResultPacket.trialIndex (trialsOf id path packets') := by
  have hnodup : ((trialsOf id path packets).map ResultPacket.trialIndex).Nodup :=
    h.nodup_trialIndex id path
  have htrials : (trialsOf id path packets).Perm (trialsOf id path packets') := hperm.filter _
  exact sortByKey_eq_of_perm hnodup htrials

/-- The identity of the candidate does not depend on which packet comes first. -/
theorem Admissible.candidateIdentity_eq (h : Admissible catalog lane expected packets)
    (hperm : packets.Perm packets') :
    candidateIdentity expected packets = candidateIdentity expected packets' := by
  rw [candidateIdentity, candidateIdentity]
  congr 1
  cases packets with
  | nil => rw [hperm.nil_eq]
  | cons first rest =>
    cases packets' with
    | nil => cases hperm.eq_nil
    | cons first' rest' =>
      have hfirst' : first' ∈ first :: rest := hperm.mem_iff.mpr List.mem_cons_self
      have hsame : first.candidateHash = first'.candidateHash :=
        h.candidate first List.mem_cons_self first' hfirst'
      rw [List.head?_cons, List.head?_cons, Option.map_some, Option.map_some, hsame]

/-- A report on packets is the report on them in another order. -/
theorem gradePackets_of_perm (hperm : packets.Perm packets') {report : GradeReport}
    (h : gradePackets catalog packets lane.value expected = .ok report) :
    gradePackets catalog packets' lane.value expected = .ok report := by
  rcases gradePackets_eq_ok.mp h with ⟨hadmissible, grades, hgrades, hreport⟩
  rw [hadmissible.candidateIdentity_eq hperm] at hreport
  refine gradePackets_eq_ok.mpr ⟨hadmissible.perm hperm, grades, ?_, hreport⟩
  apply hgrades.imp
  intro cell grade hgrade
  rw [gradePath, hadmissible.sorted_trials hperm] at hgrade
  exact hgrade

end Order

theorem laneOf_eq_some {text : PyStr} {lane : Lane} (h : laneOf text = some lane) :
    text = lane.value := by
  have hlanes : ∀ lane : Lane, lane ∈ [Lane.rc, .runtime] := by
    intro lane
    cases lane <;> decide
  exact Json.str.inj ((memberWith_eq_some hlanes Lane.value_injective).mp h)

/-- A lane that is none is refused whatever the packets are. -/
theorem gradePackets_of_no_lane {catalog : GradedCatalog} {laneText : PyStr}
    (hlane : laneOf laneText = none) (packets : List ResultPacket) (expected : Option PyStr) :
    (gradePackets catalog packets laneText expected).toOption = none := by
  rw [gradePackets, hlane]
  rfl

/-- **Order of packets.** Grading packets in another order raises in the same cases, and where
it does not raise the whole report is the same. -/
theorem grade_ignores_order (catalog : GradedCatalog) (laneText : PyStr) (expected : Option PyStr)
    {packets packets' : List ResultPacket} (hperm : packets.Perm packets') :
    (gradePackets catalog packets laneText expected).toOption =
      (gradePackets catalog packets' laneText expected).toOption := by
  cases hlane : laneOf laneText with
  | none => rw [gradePackets_of_no_lane hlane, gradePackets_of_no_lane hlane]
  | some lane =>
    have htext : laneText = lane.value := laneOf_eq_some hlane
    rw [htext]
    apply toOption_congr
    · intro report hreport
      exact gradePackets_of_perm hperm hreport
    · intro report hreport
      exact gradePackets_of_perm hperm.symm hreport

/-- Three trials that pass and one that fails are graded, from the first to the last or from the
last to the first. -/
theorem grade_ignores_order_reversed :
    GradedComplete parentCatalog (failingTrials parentHash) .rc none parentRow.capabilityId .positive ∧
    (gradePackets parentCatalog (failingTrials parentHash) Lane.rc.value none).toOption =
      (gradePackets parentCatalog (failingTrials parentHash).reverse Lane.rc.value none).toOption := by
  constructor
  · have hnames : NamesTriggers parentCatalog .rc := by
      intro row hrow
      cases List.mem_singleton.mp hrow
      rfl
    apply (gradedComplete_iff failingTrials_admissible parentRow_mem).mpr
    rw [trialsOf_failingTrials]
    exact ⟨hnames, rfl, failingTrials_completes⟩
  · exact grade_ignores_order parentCatalog _ none (List.reverse_perm _).symm

end HermesClaude.Parity
