/-
# Runs that end

A rank that every step lowers bounds the length of every run.  Where some step is enabled in every
state that is not final, a run can be brought to an end from wherever it is.

Nothing here refers to a particular program.
-/

import HermesClaude.Library.System

namespace HermesClaude.Library.System

universe u v

variable {State : Type u} {Label : Type v} {S : System State Label} {rank : State → Nat}

/-- Every step lowers the rank. -/
def Ranked (S : System State Label) (rank : State → Nat) : Prop :=
  ∀ s label t, S.next s label = some t → rank t < rank s

/-- **No run is longer than the rank that it uses up.** -/
theorem Ranked.length_add_rank_le (h : Ranked S rank) {labels : List Label} :
    ∀ {s t : State}, S.run s labels = some t → labels.length + rank t ≤ rank s := by
  induction labels with
  | nil =>
    intro s t hrun
    rw [run_nil, Option.some.injEq] at hrun
    exact Nat.le_of_eq (by rw [hrun, List.length_nil, Nat.zero_add])
  | cons label rest ih =>
    intro s t hrun
    rw [run_cons] at hrun
    rcases Option.bind_eq_some_iff.mp hrun with ⟨middle, hnext, hrest⟩
    have hlower := h s label middle hnext
    have hbound := ih hrest
    rw [List.length_cons]
    omega

/-- **Every guarded run can be brought to an end** where a step that meets the guard is enabled in
every state it reaches that is not final. -/
theorem Ranked.exists_final (h : Ranked S rank) {guard : State → Label → Prop} {final : State → Prop}
    (hprogress : ∀ s, S.ReachableUnder guard s → ¬final s →
      ∃ label t, guard s label ∧ S.next s label = some t) {s : State} (hs : S.ReachableUnder guard s) :
    ∃ labels t, S.run s labels = some t ∧ S.ReachableUnder guard t ∧ final t := by
  induction hrank : rank s using Nat.strongRecOn generalizing s with
  | ind n ih =>
    by_cases hfinal : final s
    · exact ⟨[], s, rfl, hs, hfinal⟩
    · rcases hprogress s hs hfinal with ⟨label, middle, hmeets, hnext⟩
      have hlower : rank middle < n := hrank ▸ h s label middle hnext
      rcases ih (rank middle) hlower (hs.step hmeets hnext) rfl with ⟨labels, t, hrun, ht⟩
      refine ⟨label :: labels, t, ?_, ht⟩
      rw [run_cons, hnext, Option.bind_some, hrun]

end HermesClaude.Library.System
