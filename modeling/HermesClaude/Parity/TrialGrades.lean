/-
# Trials of a path

What both graders read off the trials of one path: whether a trial passes, whether its
events are those of the row, and whether three trials in a row pass.  On trials with
different indexes and one candidate, the last is to have a run of three.
-/

import HermesClaude.Library.Consecutive
import HermesClaude.Parity.Results
import Mathlib.Data.List.Dedup

namespace HermesClaude.Parity

open HermesClaude.Python HermesClaude.Library

/-- `_is_pass`: what a path that is to be denied must end in is the denial. -/
def isPass (path : TrialPath) (classification : ExecutionClassification) : Bool :=
  match path with
  | .denial => classification = .expectedNegative
  | .positive | .recovery => classification = .complete

/-- The kinds of the events. -/
def eventKindsOf (events : List Entries) : List (Option PyStr) :=
  events.map fun event => (Entries.field event "kind").str?

/-- The last event is a terminal with this outcome. -/
def endsIn (outcome : String) (events : List Entries) : Bool :=
  events.getLast?.any fun event => ResultPacket.isTerminal event &&
    (Entries.field event "terminal_outcome").str? = some (lit outcome)

/-- `_trace_matches`: the trace of a denial need not be that of the row. -/
def traceMatches (path : TrialPath) (events : List Entries) (expectedTrace : List PyStr) : Bool :=
  match path with
  | .denial => endsIn "denied" events &&
      (expectedTrace.head? != some (lit "start") ||
        (eventKindsOf events).head? = some (some (lit "start")))
  | .positive | .recovery =>
    eventKindsOf events = expectedTrace.map some && endsIn "completed" events

/-- The triggers of a policy that ask for three passes, as the graders look for them. -/
def asksForThree (triggers : List PyStr) : Bool :=
  lit "consequential" ∈ triggers || lit "unstable" ∈ triggers

/-! ## Three in a row -/

section Windows

variable {α κ : Type} [DecidableEq κ] (index : α → Nat) (candidate : α → κ) (passes : α → Bool)

/-- What is asked of three trials that stand next to each other. -/
def windowPasses (a b c : α) : Bool :=
  [a, b, c].all passes && ([a, b, c].map candidate).dedup.length = 1 &&
    [a, b, c].map index = List.range' (index a) 3

/-- Some three trials next to each other pass, in the order of their indexes. -/
def threeConsecutive (trials : List α) : Bool :=
  hasWindow (windowPasses index candidate passes) (sortByIndex index trials)

variable {index candidate passes}

/-- The trials are of one candidate. -/
def OneCandidate (candidate : α → κ) (trials : List α) : Prop :=
  ∀ a ∈ trials, ∀ b ∈ trials, candidate a = candidate b

/-- Trials are of one candidate if the set of their candidates has at most one member. -/
theorem dedup_length_le_one {trials : List α} :
    (trials.map candidate).dedup.length ≤ 1 ↔ OneCandidate candidate trials := by
  have hmem : ∀ a ∈ trials, candidate a ∈ (trials.map candidate).dedup := by
    intro a ha
    exact List.mem_dedup.mpr (List.mem_map_of_mem ha)
  have hof : ∀ k ∈ (trials.map candidate).dedup, ∃ a ∈ trials, candidate a = k := by
    intro k hk
    exact List.mem_map.mp (List.mem_dedup.mp hk)
  have hnodup : (trials.map candidate).dedup.Nodup := List.nodup_dedup _
  generalize (trials.map candidate).dedup = candidates at hmem hof hnodup
  cases candidates with
  | nil =>
    apply iff_of_true
    · exact Nat.zero_le 1
    · intro a ha
      cases hmem a ha
  | cons first rest =>
    cases rest with
    | nil =>
      apply iff_of_true
      · exact le_refl 1
      · intro a ha b hb
        exact (List.mem_singleton.mp (hmem a ha)).trans (List.mem_singleton.mp (hmem b hb)).symm
    | cons second rest =>
      apply iff_of_false
      · simp
      · intro h
        rcases hof first (by simp) with ⟨a, ha, hfirst⟩
        rcases hof second (by simp) with ⟨b, hb, hsecond⟩
        have hsame : first = second := by rw [← hfirst, ← hsecond, h a ha b hb]
        exact (List.nodup_cons.mp hnodup).1 (by simp [hsame])

theorem windowPasses_iff {a b c : α} (hab : candidate a = candidate b)
    (hbc : candidate b = candidate c) :
    windowPasses index candidate passes a b c = true ↔
      (passes a = true ∧ passes b = true ∧ passes c = true) ∧
        index b = index a + 1 ∧ index c = index a + 2 := by
  have hone : ([a, b, c].map candidate).dedup.length = 1 := by
    rw [List.map_cons, List.map_cons, List.map_cons, List.map_nil, hab, hbc,
      List.dedup_cons_of_mem (by simp), List.dedup_cons_of_mem (by simp)]
    rfl
  have hindex : [a, b, c].map index = List.range' (index a) 3 ↔
      index b = index a + 1 ∧ index c = index a + 2 := by
    simp [List.range']
  rw [windowPasses, Bool.and_eq_true, Bool.and_eq_true, decide_eq_true_iff, decide_eq_true_iff,
    hindex, and_iff_left hone]
  simp only [List.all_cons, List.all_nil, Bool.and_true, Bool.and_eq_true]

/-- **Three in a row.** Trials of one candidate with different indexes have three in a row that
pass exactly if they have a run of three. -/
theorem threeConsecutive_iff {trials : List α} (hcandidate : OneCandidate candidate trials)
    (hdistinct : (trials.map index).Nodup) :
    threeConsecutive index candidate passes trials = true ↔
      HasRun index (fun trial => passes trial = true) trials 3 := by
  have hperm : (sortByIndex index trials).Perm trials := perm_sortByIndex trials
  have haccept : AcceptsRuns index (fun trial => passes trial = true) (sortByIndex index trials)
      (windowPasses index candidate passes) := by
    intro a ha b hb c hc
    apply windowPasses_iff
    · exact hcandidate a (hperm.mem_iff.mp ha) b (hperm.mem_iff.mp hb)
    · exact hcandidate b (hperm.mem_iff.mp hb) c (hperm.mem_iff.mp hc)
  rw [threeConsecutive, hasWindow_iff (pairwise_sortByIndex hdistinct) haccept]
  constructor
  · intro h
    exact h.perm hperm
  · intro h
    exact h.perm hperm.symm

end Windows

end HermesClaude.Parity
