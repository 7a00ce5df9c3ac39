/-
# Labelled transition systems

A system is an initial state and a partial step function; a label fixes every
choice the environment makes, so that an execution is a list of labels and can be
replayed by computation.  Reachability is relative to a guard on the steps taken:
a property that fails in general may hold along every run whose steps all meet a
condition, and that is a statement about runs, not about one step.

Nothing here refers to a particular program.
-/

import Mathlib.Data.List.Basic

namespace HermesClaude.Library

universe u v w

/-- A labelled transition system with a deterministic step for each label. -/
structure System (State : Type u) (Label : Type v) where
  /-- Where every run starts. -/
  init : State
  /-- The effect of a label, or `none` where it is not enabled. -/
  next : State → Label → Option State

namespace System

variable {State : Type u} {Label : Type v} (S : System State Label)

/-- The states that runs reach when each of their steps meets the guard. -/
inductive ReachableUnder (guard : State → Label → Prop) : State → Prop
  | /-- The empty run. -/
    init : ReachableUnder guard S.init
  | /-- One more enabled step that meets the guard. -/
    step {s t : State} {label : Label} (reached : ReachableUnder guard s)
      (meets : guard s label) (taken : S.next s label = some t) : ReachableUnder guard t

/-- The states that unrestricted runs reach. -/
def Reachable (s : State) : Prop := S.ReachableUnder (fun _ _ => True) s

variable {S}

theorem Reachable.init : S.Reachable S.init := ReachableUnder.init

theorem Reachable.step {s t : State} {label : Label} (reached : S.Reachable s)
    (taken : S.next s label = some t) : S.Reachable t :=
  ReachableUnder.step reached trivial taken

/-- A stronger guard reaches fewer states. -/
theorem ReachableUnder.mono {strong weak : State → Label → Prop} {s : State}
    (hguard : ∀ s label, strong s label → weak s label)
    (h : S.ReachableUnder strong s) : S.ReachableUnder weak s := by
  induction h with
  | init => exact .init
  | step _ meets taken ih => exact .step ih (hguard _ _ meets) taken

/-- A guarded run is in particular a run. -/
theorem ReachableUnder.reachable {guard : State → Label → Prop} {s : State}
    (h : S.ReachableUnder guard s) : S.Reachable s :=
  h.mono fun _ _ _ => trivial

/-- **Invariant rule.** What holds initially and is kept by every guarded step
out of a reachable state holds of every state a guarded run reaches. -/
theorem ReachableUnder.invariant {guard : State → Label → Prop} {P : State → Prop}
    (hinit : P S.init)
    (hstep : ∀ {s t label}, S.ReachableUnder guard s → P s → guard s label →
      S.next s label = some t → P t)
    {s : State} (h : S.ReachableUnder guard s) : P s := by
  induction h with
  | init => exact hinit
  | step reached meets taken ih => exact hstep reached ih meets taken

/-- The invariant rule for unrestricted runs. -/
theorem Reachable.invariant {P : State → Prop} (hinit : P S.init)
    (hstep : ∀ {s t label}, S.Reachable s → P s → S.next s label = some t → P t)
    {s : State} (h : S.Reachable s) : P s :=
  ReachableUnder.invariant hinit (fun reached hP _ taken => hstep reached hP taken) h

variable (S) in
/-- Replay a list of labels. -/
def run : State → List Label → Option State
  | s, [] => some s
  | s, label :: rest => (S.next s label).bind fun t => run t rest

@[simp]
theorem run_nil (s : State) : S.run s [] = some s := rfl

theorem run_cons (s : State) (label : Label) (rest : List Label) :
    S.run s (label :: rest) = (S.next s label).bind fun t => S.run t rest := rfl

/-- Runs compose. -/
theorem run_append (s : State) (first second : List Label) :
    S.run s (first ++ second) = (S.run s first).bind fun t => S.run t second := by
  induction first generalizing s with
  | nil => rfl
  | cons label rest ih =>
    rw [List.cons_append, run_cons, run_cons]
    cases S.next s label with
    | none => rfl
    | some t => exact ih t

/-- A replayed run ends in a reachable state. -/
theorem Reachable.run {s t : State} {labels : List Label} (h : S.Reachable s)
    (hrun : S.run s labels = some t) : S.Reachable t := by
  induction labels generalizing s with
  | nil =>
    rw [run_nil, Option.some.injEq] at hrun
    exact hrun ▸ h
  | cons label rest ih =>
    rw [run_cons] at hrun
    cases hnext : S.next s label with
    | none => simp [hnext] at hrun
    | some middle =>
      rw [hnext] at hrun
      exact ih (h.step hnext) hrun

/-- A concrete replay gives a reachable state with any property that computation
confirms of its end. -/
theorem exists_reachable_of_run (labels : List Label) {P : State → Prop}
    (h : ∃ t ∈ S.run S.init labels, P t) : ∃ t, S.Reachable t ∧ P t := by
  obtain ⟨t, hrun, hP⟩ := h
  exact ⟨t, Reachable.init.run hrun, hP⟩

variable (S) in
/-- Replay a list of labels each of which must pass a check. -/
def runChecked (check : State → Label → Bool) : State → List Label → Option State
  | s, [] => some s
  | s, label :: rest =>
    if check s label then (S.next s label).bind fun t => runChecked check t rest else none

/-- A checked replay is a guarded run. -/
theorem ReachableUnder.runChecked {guard : State → Label → Prop} {check : State → Label → Bool}
    (hcheck : ∀ s label, check s label = true → guard s label) {s t : State}
    {labels : List Label} (h : S.ReachableUnder guard s)
    (hrun : S.runChecked check s labels = some t) : S.ReachableUnder guard t := by
  induction labels generalizing s with
  | nil =>
    rw [System.runChecked, Option.some.injEq] at hrun
    exact hrun ▸ h
  | cons label rest ih =>
    rw [System.runChecked] at hrun
    split_ifs at hrun with hmeets
    cases hnext : S.next s label with
    | none => simp [hnext] at hrun
    | some middle =>
      rw [hnext] at hrun
      exact ih (h.step (hcheck s label hmeets) hnext) hrun

/-- A concrete checked replay gives a state of a guarded run. -/
theorem exists_reachableUnder_of_runChecked {guard : State → Label → Prop}
    {check : State → Label → Bool} (hcheck : ∀ s label, check s label = true → guard s label)
    (labels : List Label) {P : State → Prop}
    (h : ∃ t ∈ S.runChecked check S.init labels, P t) : ∃ t, S.ReachableUnder guard t ∧ P t := by
  obtain ⟨t, hrun, hP⟩ := h
  exact ⟨t, ReachableUnder.init.runChecked hcheck hrun, hP⟩

/-- The same, where the check is the guard. -/
theorem exists_reachableUnder_of_check (check : State → Label → Bool) (labels : List Label)
    {P : State → Prop} (h : ∃ t ∈ S.runChecked check S.init labels, P t) :
    ∃ t, S.ReachableUnder (fun s label => check s label = true) t ∧ P t :=
  exists_reachableUnder_of_runChecked (fun _ _ hmeets => hmeets) labels h

/-- A replay of labels that meet the guard in every state goes on as a guarded run. -/
theorem ReachableUnder.run_of_forall {guard : State → Label → Prop} {s t : State}
    {labels : List Label} (h : S.ReachableUnder guard s) (hguard : ∀ label ∈ labels, ∀ s, guard s label)
    (hrun : S.run s labels = some t) : S.ReachableUnder guard t := by
  induction labels generalizing s with
  | nil => exact Option.some.inj hrun ▸ h
  | cons label rest ih =>
    obtain ⟨middle, hnext, hrest⟩ := Option.bind_eq_some_iff.mp (run_cons s label rest ▸ hrun)
    apply ih
    · exact h.step (hguard label List.mem_cons_self s) hnext
    · intro other hother
      exact hguard other (List.mem_cons_of_mem _ hother)
    · exact hrest

/-- A replay of labels that meet the guard in every state is a guarded run. -/
theorem exists_reachableUnder_of_forall {guard : State → Label → Prop} (labels : List Label)
    (hguard : ∀ label ∈ labels, ∀ s, guard s label) {P : State → Prop}
    (h : ∃ t ∈ S.run S.init labels, P t) : ∃ t, S.ReachableUnder guard t ∧ P t := by
  obtain ⟨t, hrun, hP⟩ := h
  exact ⟨t, ReachableUnder.init.run_of_forall hguard hrun, hP⟩

/-! ## Observers -/

section Observers

variable {History : Type w}

variable (S) in
/-- The system next to an observer that sees every step and takes no part in any. -/
def observe (start : History) (watch : State → Label → State → History → History) :
    System (State × History) Label where
  init := (S.init, start)
  next p label := (S.next p.1 label).map fun t => (t, watch p.1 label t p.2)

variable {start : History} {watch : State → Label → State → History → History}
  {guard : State → Label → Prop}

/-- An observed step is a step, with what the observer makes of it. -/
theorem observe_next {p q : State × History} {label : Label}
    (h : (S.observe start watch).next p label = some q) :
    S.next p.1 label = some q.1 ∧ q.2 = watch p.1 label q.1 p.2 := by
  obtain ⟨t, hnext, rfl⟩ := Option.map_eq_some_iff.mp h
  exact ⟨hnext, rfl⟩

/-- The observer restricts no run. -/
theorem ReachableUnder.observed {s : State} (h : S.ReachableUnder guard s) :
    ∃ history, (S.observe start watch).ReachableUnder (fun p => guard p.1) (s, history) := by
  induction h with
  | init => exact ⟨start, .init⟩
  | @step s t label _ meets taken ih =>
    obtain ⟨history, hreached⟩ := ih
    refine ⟨watch s label t history, .step hreached meets ?_⟩
    exact Option.map_eq_some_iff.mpr ⟨t, taken, rfl⟩

end Observers

end System

end HermesClaude.Library
