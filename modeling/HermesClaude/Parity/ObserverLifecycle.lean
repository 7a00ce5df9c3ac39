/-
# The lifecycle that an observer reports

A lifecycle is a property of the history of what was observed: every completion has its
start, no tool runs while an approval is pending or a denial in force, every delegated task
goes through its phases, and nothing follows the final terminal.

The fields of an observer reflect such a history, each group of fields by a law of its own,
and a snapshot is taken of an observer whose history is a lifecycle.
-/

import Mathlib.Data.Int.Interval
import HermesClaude.Parity.Observer

namespace HermesClaude.Parity

open HermesClaude.Python HermesClaude.Library

/-! ## Lifecycles -/

/-- The kinds of tool events. -/
def toolKinds : List PyStr := startKinds ++ completeKinds

section Lifecycle

variable (library : GatewayLibrary)

/-- The kind of a frame, in lower case. -/
def frameKind (frame : PyValue) : PyStr :=
  ((parts library frame).toOption.map fun p => library.casefold p.kind).getD []

/-- The terminal status of a frame. -/
def frameOutcome (frame : PyValue) : Option PyStr :=
  (parts library frame).toOption.bind Parts.terminal

/-- The event of a delegated task that a frame carries. -/
def frameTask (frame : PyValue) : Option TaskEvent :=
  (taskOrdinals (frameKind library frame) frame).bind fun (index, count, phase) =>
    (taskIdentities frame).toOption.map fun identities => ⟨index, count, phase, identities⟩

namespace Happening

/-- A recorded event of one of the given kinds. -/
def HasKind (kinds : List PyStr) : Happening → Prop
  | .event frame => frameKind library frame ∈ kinds
  | _ => False

/-- A tool call with this id and this name is started. -/
def Starts (hash name : PyStr) : Happening → Prop
  | .event frame => frameKind library frame ∈ startKinds ∧ callHash frame = .ok hash ∧
      toolName frame = .ok name
  | _ => False

/-- A tool call with this id is completed under this name. -/
def Completes (hash name : PyStr) : Happening → Prop
  | .event frame => frameKind library frame ∈ completeKinds ∧ callHash frame = .ok hash ∧
      toolName frame = .ok name
  | _ => False

/-- A tool event with this call id. -/
def Uses (hash : PyStr) : Happening → Prop
  | .event frame => frameKind library frame ∈ toolKinds ∧ callHash frame = .ok hash
  | _ => False

/-- An answer to an approval request. -/
def IsAnswer : Happening → Prop
  | .answer _ => True
  | _ => False

/-- A recorded event that carries a terminal status. -/
def isTerminal : Happening → Bool
  | .event frame => (frameOutcome library frame).isSome
  | _ => false

/-- The name of the tool that is started. -/
def started : Happening → Option PyStr
  | .event frame => if frameKind library frame ∈ startKinds then (toolName frame).toOption else none
  | _ => none

/-- The name of the tool that is completed. -/
def completed : Happening → Option PyStr
  | .event frame =>
    if frameKind library frame ∈ completeKinds then (toolName frame).toOption else none
  | _ => none

/-- The record that is kept of an event. -/
def recorded : Happening → Option ObservedEvent
  | .event frame =>
    (parts library frame).toOption.map fun p => ⟨p.kind, p.size, p.digest, p.terminal⟩
  | _ => none

/-- The event of a delegated task. -/
def task : Happening → Option TaskEvent
  | .event frame => if frameKind library frame ∈ childKinds then frameTask library frame else none
  | _ => none

end Happening

/-- An approval request waits for its answer. -/
def ApprovalPending (history : List Happening) : Prop :=
  Since (Happening.HasKind library approvalKinds) (fun h => ¬ h.IsAnswer) history

/-- There was a denial, and nothing was allowed since. -/
def DenialInForce (history : List Happening) : Prop :=
  Since (fun h => h = .answer .deny) (fun h => h ≠ .answer .allow) history

/-- The tool call with this id was started under this name, and is unfinished: no later event
is about it. -/
def Unfinished (hash name : PyStr) (history : List Happening) : Prop :=
  Since (Happening.Starts library hash name) (fun h => ¬ h.Uses library hash) history

/-- The phases of one task, in order. -/
def phasesOf (tasks : List TaskEvent) (index : Int) : List TaskPhase :=
  (tasks.filter fun task => task.index = index).map TaskEvent.phase

/-- Start, then complete; a request to spawn the task may come first. -/
def taskPhases : List (List TaskPhase) :=
  [[.start, .complete], [.spawnRequested, .start, .complete]]

/-- Delegated tasks went through their phases. -/
structure TasksDone (tasks : List TaskEvent) : Prop where
  /-- There is one count; the indexes are those below it, and each task is complete. -/
  phases : ∃ count : Int, (∀ task ∈ tasks, task.count = count ∧ 0 ≤ task.index ∧ task.index < count) ∧
    ∀ index, 0 ≤ index → index < count → phasesOf tasks index ∈ taskPhases
  /-- A task begins when those with smaller indexes have begun. -/
  order : Along (fun before task => ∀ index, 0 ≤ index → index < task.index →
    ∃ earlier ∈ before, earlier.index = index) tasks
  /-- The identities of a task are stable. -/
  identities : ∀ task ∈ tasks, ∀ other ∈ tasks, task.index = other.index →
    task.identities.agrees other.identities = true
  /-- There is one parent. -/
  parent : ∀ task ∈ tasks, ∀ other ∈ tasks,
    agrees task.identities.parent other.identities.parent = true

/-- The final terminal is followed by control events only, and these are not recorded. -/
def Closed (history : List Happening) : Prop :=
  ∃ before frame after, history = before ++ .event frame :: after ∧
    (frameOutcome library frame).isSome = true ∧
    ∀ h ∈ after, ∃ passed, h = .control passed ∧ frameKind library passed ∈ postTerminalControl

/-- A valid lifecycle. -/
structure Lifecycle (config : ObserverConfig) (history : List Happening) : Prop where
  /-- Every completion matches an earlier unfinished start with the same call id and name. -/
  matched : Along (fun before h => h.HasKind config.library completeKinds →
    ∃ hash name, h.Completes config.library hash name ∧ Unfinished config.library hash name before)
    history
  /-- Every tool event names an allowed tool. -/
  inventory : ∀ frame, .event frame ∈ history → frameKind config.library frame ∈ toolKinds →
    ∃ name ∈ config.allowed, toolName frame = .ok name
  /-- No tool event occurs while an approval is pending or a denial in force. -/
  permitted : Along (fun before h => h.HasKind config.library toolKinds →
    ¬ ApprovalPending config.library before ∧ ¬ DenialInForce before) history
  tasks : TasksDone (history.filterMap (Happening.task config.library))
  terminals : history.countP (Happening.isTerminal config.library) ≤ config.expectedTerminalCount
  final : Closed config.library history

end Lifecycle

/-! ## Approvals -/

section Approvals

variable {library : GatewayLibrary} {history : List Happening} {a a' : Approvals}
  {frame : PyValue} {h : Happening}

/-- What the approval fields say of a history. -/
structure ApprovalBooks (library : GatewayLibrary) (history : List Happening) (a : Approvals) :
    Prop where
  pending : a.pendingHash.isSome = true ↔ ApprovalPending library history
  inForce : a.denialGuard = true ↔ DenialInForce history
  denied : a.denialGuard = true → a.denied = true

theorem ApprovalBooks.start : ApprovalBooks library [] {} := by
  refine ⟨iff_of_false ?_ not_since_nil, iff_of_false ?_ not_since_nil, ?_⟩
  all_goals
    intro h
    cases h

/-- What is neither a request nor an answer leaves the books as they are. -/
theorem ApprovalBooks.quiet (hbooks : ApprovalBooks library history a)
    (hrequest : ¬ h.HasKind library approvalKinds) (hanswer : ¬ h.IsAnswer) :
    ApprovalBooks library (history ++ [h]) a := by
  have hdecision : ∀ decision, h ≠ .answer decision := by
    rintro decision rfl
    exact hanswer trivial
  refine ⟨?_, ?_, hbooks.denied⟩
  · rw [hbooks.pending]
    exact (since_snoc_of_quiet hrequest hanswer).symm
  · rw [hbooks.inForce]
    apply Iff.symm
    apply since_snoc_of_quiet
    · exact hdecision .deny
    · exact hdecision .allow

theorem ApprovalBooks.request {item : ObservedEvent} (hbooks : ApprovalBooks library history a)
    (hkind : frameKind library frame ∈ approvalKinds) (h : a.request item frame = .ok a') :
    ApprovalBooks library (history ++ [.event frame]) a' := by
  unfold Approvals.request at h
  obtain ⟨-, h⟩ := ensure_bind_eq_ok.mp h
  obtain ⟨hash, -, h⟩ := bind_eq_ok.mp h
  cases h
  refine ⟨iff_of_true rfl (since_snoc_of_marks hkind), ?_, hbooks.denied⟩
  show a.denialGuard = true ↔ _
  rw [hbooks.inForce]
  apply Iff.symm
  apply since_snoc_of_quiet
  · exact nofun
  · exact nofun

theorem ApprovalBooks.answer {decision : Decision} {value : PyValue}
    (hbooks : ApprovalBooks library history a) (h : a.response decision value = .ok a') :
    ApprovalBooks library (history ++ [.answer decision]) a' := by
  have hpending : ¬ ApprovalPending library (history ++ [.answer decision]) := by
    apply not_since_snoc
    · exact id
    · exact fun hkeeps => hkeeps trivial
  unfold Approvals.response at h
  split at h
  next =>
    cases decision with
    | deny =>
      cases h
      exact ⟨iff_of_false nofun hpending, iff_of_true rfl (since_snoc_of_marks rfl), fun _ => rfl⟩
    | allow =>
      have hforce : ¬ DenialInForce (history ++ [.answer .allow]) :=
        not_since_snoc nofun fun hkeeps => hkeeps rfl
      dsimp only at h
      split_ifs at h with hdenied
      · cases h
        exact ⟨iff_of_false nofun hpending, iff_of_false nofun hforce, nofun⟩
      · cases h
        have hguard : ¬ a.denialGuard = true := fun hguard => hdenied (hbooks.denied hguard)
        exact ⟨iff_of_false nofun hpending, iff_of_false hguard hforce, hbooks.denied⟩
  next => cases h

end Approvals

/-! ## Tool calls -/

section ToolCalls

variable {library : GatewayLibrary} {allowed : List PyStr} {history : List Happening}
  {t t' : ToolCalls} {frame : PyValue} {h : Happening}

/-- What the tool fields say of a history. -/
structure ToolBooks (library : GatewayLibrary) (allowed : List PyStr) (history : List Happening)
    (t : ToolCalls) : Prop where
  active : ∀ hash name, t.active.lookup hash = some name ↔ Unfinished library hash name history
  matched : Along (fun before h => h.HasKind library completeKinds →
    ∃ hash name, h.Completes library hash name ∧ Unfinished library hash name before) history
  inventory : ∀ frame, .event frame ∈ history → frameKind library frame ∈ toolKinds →
    ∃ name ∈ allowed, toolName frame = .ok name
  starts : t.starts = history.filterMap (Happening.started library)
  completes : t.completes = history.filterMap (Happening.completed library)

theorem ToolBooks.start : ToolBooks library allowed [] {} := by
  refine ⟨?_, along_nil, nofun, rfl, rfl⟩
  intro hash name
  exact iff_of_false nofun not_since_nil

theorem not_start_of_complete {kind : PyStr} (h : kind ∈ completeKinds) : kind ∉ startKinds := by
  have hdisjoint : ∀ kind ∈ completeKinds, kind ∉ startKinds := by decide
  exact hdisjoint kind h

/-- What an accepted tool event says. -/
theorem ToolCalls.event_eq_ok {permitted starting : Bool}
    (h : t.event allowed permitted starting frame = .ok t') :
    permitted = true ∧ ∃ hash name, callHash frame = .ok hash ∧ toolName frame = .ok name ∧
      name ∈ allowed ∧
      ((starting = true ∧ t.active.lookup hash = none ∧
          t' = { t with active := (hash, name) :: t.active, starts := t.starts ++ [name] }) ∨
        (starting = false ∧ t.active.lookup hash = some name ∧
          t' = { t with active := dropEntry hash t.active, completes := t.completes ++ [name] })) := by
  unfold ToolCalls.event at h
  obtain ⟨hpermitted, h⟩ := ensure_bind_eq_ok.mp h
  obtain ⟨name, hname, h⟩ := bind_eq_ok.mp h
  obtain ⟨hallowed, h⟩ := ensure_bind_eq_ok.mp h
  obtain ⟨hash, hhash, h⟩ := bind_eq_ok.mp h
  refine ⟨hpermitted, hash, name, hhash, hname, of_decide_eq_true hallowed, ?_⟩
  split_ifs at h with hstarting
  · obtain ⟨hnew, h⟩ := ensure_bind_eq_ok.mp h
    cases h
    exact .inl ⟨hstarting, Option.isNone_iff_eq_none.mp hnew, rfl⟩
  · obtain ⟨hknown, h⟩ := ensure_bind_eq_ok.mp h
    cases h
    exact .inr ⟨Bool.eq_false_of_not_eq_true hstarting, of_decide_eq_true hknown, rfl⟩

/-- What is no tool event leaves the books as they are. -/
theorem ToolBooks.quiet (hbooks : ToolBooks library allowed history t)
    (htool : ¬ h.HasKind library toolKinds) : ToolBooks library allowed (history ++ [h]) t := by
  have hstart : ¬ h.HasKind library startKinds := by
    intro hkind
    cases h with
    | event frame => exact htool (List.mem_append_left _ hkind)
    | control frame => exact hkind
    | answer decision => exact hkind
  have hcomplete : ¬ h.HasKind library completeKinds := by
    intro hkind
    cases h with
    | event frame => exact htool (List.mem_append_right _ hkind)
    | control frame => exact hkind
    | answer decision => exact hkind
  refine ⟨?_, ?_, ?_, ?_, ?_⟩
  · intro hash name
    rw [hbooks.active]
    apply Iff.symm
    apply since_snoc_of_quiet
    · intro hstarts
      cases h with
      | event frame => exact hstart hstarts.1
      | control frame => exact hstarts
      | answer decision => exact hstarts
    · intro huses
      cases h with
      | event frame => exact htool huses.1
      | control frame => exact huses
      | answer decision => exact huses
  · exact along_snoc.mpr ⟨hbooks.matched, fun hkind => absurd hkind hcomplete⟩
  · intro frame hframe hkind
    rcases List.mem_append.mp hframe with hframe | hframe
    · exact hbooks.inventory frame hframe hkind
    · cases List.mem_singleton.mp hframe
      exact absurd hkind htool
  · rw [hbooks.starts, List.filterMap_append]
    cases h with
    | event frame => simp [Happening.started, show frameKind library frame ∉ startKinds from hstart]
    | control frame => simp [Happening.started]
    | answer decision => simp [Happening.started]
  · rw [hbooks.completes, List.filterMap_append]
    cases h with
    | event frame =>
      simp [Happening.completed, show frameKind library frame ∉ completeKinds from hcomplete]
    | control frame => simp [Happening.completed]
    | answer decision => simp [Happening.completed]

theorem ToolBooks.event {permitted : Bool} (hbooks : ToolBooks library allowed history t)
    (hkind : frameKind library frame ∈ startKinds ∨ frameKind library frame ∈ completeKinds)
    (h : t.event allowed permitted (decide (frameKind library frame ∈ startKinds)) frame = .ok t') :
    ToolBooks library allowed (history ++ [.event frame]) t' := by
  obtain ⟨-, hash, name, hhash, hname, hallowed, hcases⟩ := ToolCalls.event_eq_ok h
  have htool : frameKind library frame ∈ toolKinds := List.mem_append.mpr hkind
  have hinventory : ∀ other, .event other ∈ history ++ [.event frame] →
      frameKind library other ∈ toolKinds → ∃ name ∈ allowed, toolName other = .ok name := by
    intro other hother hkind
    rcases List.mem_append.mp hother with hother | hother
    · exact hbooks.inventory other hother hkind
    · cases List.mem_singleton.mp hother
      exact ⟨name, hallowed, hname⟩
  have huses : ∀ other, Happening.Uses library other (.event frame) ↔ other = hash := by
    intro other
    show _ ∧ callHash frame = .ok other ↔ _
    rw [hhash, Except.ok.injEq]
    exact ⟨fun huses => huses.2.symm, fun heq => ⟨htool, heq.symm⟩⟩
  rcases hcases with ⟨hstarting, hnew, rfl⟩ | ⟨hstarting, hknown, rfl⟩
  · have hstart : frameKind library frame ∈ startKinds := of_decide_eq_true hstarting
    have hcomplete : frameKind library frame ∉ completeKinds :=
      fun hcomplete => not_start_of_complete hcomplete hstart
    refine ⟨?_, ?_, hinventory, ?_, ?_⟩
    · intro other called
      show ((hash, name) :: t.active).lookup other = some called ↔ _
      rw [lookup_cons_eq_if, Unfinished, since_snoc, huses]
      show (if other = hash then some name else t.active.lookup other) = some called ↔
        (_ ∧ callHash frame = .ok other ∧ toolName frame = .ok called) ∨ _
      rw [hhash, hname, Except.ok.injEq, Except.ok.injEq]
      by_cases hother : other = hash
      · subst hother
        simp [hstart]
      · rw [if_neg hother, hbooks.active]
        simp [hother, Ne.symm hother, Unfinished]
    · exact along_snoc.mpr ⟨hbooks.matched, fun hkind => absurd hkind hcomplete⟩
    · rw [List.filterMap_append, ← hbooks.starts]
      simp [Happening.started, hstart, hname, Except.toOption]
    · rw [List.filterMap_append, ← hbooks.completes]
      simp [Happening.completed, hcomplete]
  · have hstart : frameKind library frame ∉ startKinds := of_decide_eq_false hstarting
    have hcomplete : frameKind library frame ∈ completeKinds := hkind.resolve_left hstart
    refine ⟨?_, ?_, hinventory, ?_, ?_⟩
    · intro other called
      show (dropEntry hash t.active).lookup other = some called ↔ _
      rw [lookup_dropEntry, Unfinished, since_snoc, huses]
      have hstarts : ¬ Happening.Starts library other called (.event frame) := fun h => hstart h.1
      by_cases hother : other = hash
      · subst hother
        simp [hstarts]
      · rw [if_neg hother, hbooks.active]
        simp [hother, hstarts, Unfinished]
    · refine along_snoc.mpr ⟨hbooks.matched, fun _ => ⟨hash, name, ⟨hcomplete, hhash, hname⟩, ?_⟩⟩
      exact (hbooks.active hash name).mp hknown
    · rw [List.filterMap_append, ← hbooks.starts]
      simp [Happening.started, hstart]
    · rw [List.filterMap_append, ← hbooks.completes]
      simp [Happening.completed, hcomplete, hname, Except.toOption]

end ToolCalls

/-! ## Delegated tasks -/

section Tasks

variable {tasks : List TaskEvent} {task : TaskEvent} {t t' : Tasks}

@[simp]
theorem agrees_self (hash : Option PyStr) : agrees hash hash = true := by
  simp [agrees]

theorem agrees_comm (hash hash' : Option PyStr) : agrees hash hash' = agrees hash' hash := by
  rw [agrees, agrees, Bool.or_comm hash.isNone, Bool.beq_comm]

theorem TaskIdentities.agrees_self (x : TaskIdentities) : x.agrees x = true := by
  simp [TaskIdentities.agrees]

theorem TaskIdentities.agrees_comm (x y : TaskIdentities) : x.agrees y = y.agrees x := by
  rw [TaskIdentities.agrees, TaskIdentities.agrees, Parity.agrees_comm x.parent,
    Parity.agrees_comm x.child, Parity.agrees_comm x.delegation]

theorem phasesOf_snoc (tasks : List TaskEvent) (task : TaskEvent) (index : Int) :
    phasesOf (tasks ++ [task]) index =
      if task.index = index then phasesOf tasks index ++ [task.phase] else phasesOf tasks index := by
  rw [phasesOf, List.filter_append, List.map_append]
  split_ifs with hindex
  · simp [phasesOf, hindex]
  · simp [phasesOf, hindex]

/-- A task that has a phase has an event. -/
theorem exists_of_phasesOf {index : Int} {phase : TaskPhase}
    (h : (phasesOf tasks index).getLast? = some phase) : ∃ task ∈ tasks, task.index = index := by
  obtain ⟨task, htask, -⟩ := List.mem_map.mp (List.mem_of_getLast? h)
  obtain ⟨hmem, hindex⟩ := List.mem_filter.mp htask
  exact ⟨task, hmem, of_decide_eq_true hindex⟩

/-- The phases that a task may have gone through so far. -/
def taskBeginnings : List (List TaskPhase) :=
  [[], [.spawnRequested], [.start], [.spawnRequested, .start], [.start, .complete],
    [.spawnRequested, .start, .complete]]

/-- The phase may come after the given one. -/
def follows : Option TaskPhase → TaskPhase → Bool
  | none, .spawnRequested => true
  | none, .start => true
  | some .spawnRequested, .start => true
  | some .start, .complete => true
  | _, _ => false

theorem taskBeginnings_snoc (phase : TaskPhase) : ∀ phases ∈ taskBeginnings,
    follows phases.getLast? phase = true → phases ++ [phase] ∈ taskBeginnings := by
  cases phase <;> decide

theorem not_follows_complete (phase : TaskPhase) : follows (some .complete) phase = false := by
  cases phase <;> rfl

theorem taskPhases_of_complete : ∀ phases ∈ taskBeginnings,
    phases.getLast? = some .complete → phases ∈ taskPhases := by
  decide

/-- The phase comes next, and a new task gets the next index. -/
theorem Tasks.ordered_iff {index : Int} {phase : TaskPhase} (h : t.ordered index phase = true) :
    follows (t.phases.lookup index) phase = true ∧
      (t.phases.lookup index = none → index = t.phases.length) := by
  unfold Tasks.ordered at h
  split at h
  next hlookup => exact ⟨by rw [hlookup]; rfl, fun _ => eq_of_beq h⟩
  next hlookup => exact ⟨by rw [hlookup]; rfl, fun _ => eq_of_beq h⟩
  next hlookup => exact ⟨by rw [hlookup]; rfl, fun hnone => nomatch hlookup.symm.trans hnone⟩
  next hlookup => exact ⟨by rw [hlookup]; rfl, fun hnone => nomatch hlookup.symm.trans hnone⟩
  next => cases h

/-- What an accepted event of a task says. -/
structure Tasks.Accepts (t : Tasks) (task : TaskEvent) : Prop where
  within : 0 ≤ task.index ∧ task.index < task.count
  ordered : t.ordered task.index task.phase = true
  count : t.count = none ∨ t.count = some task.count
  identities : ∀ old ∈ t.children, old.index = task.index →
    task.identities.agrees old.identities = true
  parent : agrees task.identities.parent t.parentHash = true

/-- The fields after an accepted event. -/
def Tasks.accept (t : Tasks) (task : TaskEvent) : Tasks where
  children := t.children ++ [task]
  parentHash := task.identities.parent.or t.parentHash
  phases := setEntry task.index task.phase t.phases
  completed := if task.phase = .complete then t.completed.insert task.index else t.completed
  count := some task.count

theorem Tasks.event_eq_ok {lowered : PyStr} {frame : PyValue} (h : t.event lowered frame = .ok t') :
    ∃ task : TaskEvent, taskOrdinals lowered frame = some (task.index, task.count, task.phase) ∧
      taskIdentities frame = .ok task.identities ∧ t.Accepts task ∧ t' = t.accept task := by
  unfold Tasks.event at h
  obtain ⟨⟨index, count, phase⟩, hordinals, h⟩ := bind_eq_ok.mp h
  obtain ⟨hchecks, h⟩ := ensure_bind_eq_ok.mp h
  obtain ⟨identities, hidentities, h⟩ := bind_eq_ok.mp h
  obtain ⟨hagrees, h⟩ := ensure_bind_eq_ok.mp h
  obtain ⟨hparent, h⟩ := ensure_bind_eq_ok.mp h
  cases h
  simp only [Bool.and_eq_true, decide_eq_true_eq, Bool.or_eq_true, Option.isNone_iff_eq_none,
    beq_iff_eq] at hchecks
  obtain ⟨⟨⟨-, hwithin⟩, hordered⟩, hcount⟩ := hchecks
  refine ⟨⟨index, count, phase, identities⟩, orFail_eq_ok.mp hordinals, hidentities,
    ⟨hwithin, hordered, hcount, ?_, hparent⟩, rfl⟩
  intro old hold hindex
  have hcheck := List.all_eq_true.mp hagrees old hold
  simpa [hindex] using hcheck

/-- What the fields about delegated tasks say of the events so far. -/
structure TaskBooks (tasks : List TaskEvent) (t : Tasks) : Prop where
  children : t.children = tasks
  keys : t.phases.map Prod.fst = (List.range t.phases.length).map Int.ofNat
  phases : ∀ index, t.phases.lookup index = (phasesOf tasks index).getLast?
  ordered : ∀ index, phasesOf tasks index ∈ taskBeginnings
  completed : ∀ index, index ∈ t.completed ↔ (phasesOf tasks index).getLast? = some .complete
  distinct : t.completed.Nodup
  counted : ∀ task ∈ tasks, t.count = some task.count ∧ 0 ≤ task.index ∧ task.index < task.count
  order : Along (fun before task => ∀ index, 0 ≤ index → index < task.index →
    ∃ earlier ∈ before, earlier.index = index) tasks
  identities : ∀ task ∈ tasks, ∀ other ∈ tasks, task.index = other.index →
    task.identities.agrees other.identities = true
  parent : ∀ task ∈ tasks, ∀ hash, task.identities.parent = some hash → t.parentHash = some hash

namespace TaskBooks

theorem start : TaskBooks [] {} where
  children := rfl
  keys := rfl
  phases _ := rfl
  ordered _ := List.mem_cons_self
  completed _ := iff_of_false nofun nofun
  distinct := List.nodup_nil
  counted := nofun
  order := along_nil
  identities := nofun
  parent := nofun

/-- The tasks that have begun are those with an index below their number. -/
theorem begun (h : TaskBooks tasks t) (index : Int) :
    (t.phases.lookup index).isSome = true ↔ 0 ≤ index ∧ index < t.phases.length := by
  rw [lookup_isSome_iff, h.keys, List.mem_map]
  constructor
  · rintro ⟨n, hn, rfl⟩
    have hlt : n < t.phases.length := List.mem_range.mp hn
    simp only [Int.ofNat_eq_natCast]
    omega
  · rintro ⟨hzero, hlt⟩
    refine ⟨index.toNat, List.mem_range.mpr (by omega), ?_⟩
    simp only [Int.ofNat_eq_natCast]
    omega

theorem accept_keys (h : TaskBooks tasks t) (haccepts : t.Accepts task) :
    (t.accept task).phases.map Prod.fst =
      (List.range (t.accept task).phases.length).map Int.ofNat := by
  show (setEntry task.index task.phase t.phases).map Prod.fst =
    (List.range (setEntry task.index task.phase t.phases).length).map Int.ofNat
  have hlength : (setEntry task.index task.phase t.phases).length =
      ((setEntry task.index task.phase t.phases).map Prod.fst).length := by
    rw [List.length_map]
  rw [hlength, keys_setEntry]
  split_ifs with hkey
  · rw [List.length_map]
    exact h.keys
  · have hnone : t.phases.lookup task.index = none := by
      rw [← Option.not_isSome_iff_eq_none, lookup_isSome_iff]
      exact hkey
    rw [List.length_append, List.length_map, List.length_singleton, List.range_succ,
      List.map_append, ← h.keys, (Tasks.ordered_iff haccepts.ordered).2 hnone]
    rfl

theorem accept_phases (h : TaskBooks tasks t) (index : Int) :
    (t.accept task).phases.lookup index = (phasesOf (tasks ++ [task]) index).getLast? := by
  show (setEntry task.index task.phase t.phases).lookup index = _
  rw [lookup_setEntry, phasesOf_snoc, h.phases]
  by_cases hindex : index = task.index
  · rw [if_pos hindex, if_pos hindex.symm, List.getLast?_append]
    rfl
  · rw [if_neg hindex, if_neg (Ne.symm hindex)]

theorem accept_completed (h : TaskBooks tasks t) (haccepts : t.Accepts task) (index : Int) :
    index ∈ (t.accept task).completed ↔
      (phasesOf (tasks ++ [task]) index).getLast? = some .complete := by
  show index ∈ (if task.phase = .complete then t.completed.insert task.index else t.completed) ↔ _
  rw [phasesOf_snoc]
  by_cases hindex : task.index = index
  · subst hindex
    rw [if_pos rfl, List.getLast?_append]
    show _ ↔ some task.phase = _
    by_cases hphase : task.phase = .complete
    · simp [hphase]
    · rw [if_neg hphase, h.completed]
      -- a completed task has no further phase
      have hnot : (phasesOf tasks task.index).getLast? ≠ some .complete := by
        intro hlast
        have hfollows := (Tasks.ordered_iff haccepts.ordered).1
        rw [h.phases, hlast, not_follows_complete] at hfollows
        cases hfollows
      simp [hnot, hphase]
  · rw [if_neg hindex, ← h.completed]
    split_ifs
    · rw [List.mem_insert_iff]
      simp [Ne.symm hindex]
    · rfl

theorem accept (h : TaskBooks tasks t) (haccepts : t.Accepts task) :
    TaskBooks (tasks ++ [task]) (t.accept task) where
  children := by rw [Tasks.accept, h.children]
  keys := h.accept_keys haccepts
  phases := h.accept_phases
  ordered index := by
    rw [phasesOf_snoc]
    split_ifs with hindex
    · apply taskBeginnings_snoc task.phase _ (h.ordered index)
      rw [← h.phases, ← hindex]
      exact (Tasks.ordered_iff haccepts.ordered).1
    · exact h.ordered index
  completed := h.accept_completed haccepts
  distinct := by
    show (if task.phase = .complete then t.completed.insert task.index else t.completed).Nodup
    split_ifs
    · exact h.distinct.insert
    · exact h.distinct
  counted other hother := by
    rcases List.mem_append.mp hother with hother | hother
    · obtain ⟨hcount, hwithin⟩ := h.counted other hother
      rcases haccepts.count with hnone | hsame
      · cases hcount.symm.trans hnone
      · exact ⟨hsame.symm.trans hcount, hwithin⟩
    · rw [List.mem_singleton.mp hother]
      exact ⟨rfl, haccepts.within⟩
  order := by
    refine along_snoc.mpr ⟨h.order, ?_⟩
    intro index hzero hlt
    have hle : task.index ≤ t.phases.length := by
      cases hlookup : t.phases.lookup task.index with
      | none => exact le_of_eq ((Tasks.ordered_iff haccepts.ordered).2 hlookup)
      | some phase => exact le_of_lt ((h.begun task.index).mp (by rw [hlookup]; rfl)).2
    obtain ⟨phase, hphase⟩ := Option.isSome_iff_exists.mp
      ((h.begun index).mpr ⟨hzero, lt_of_lt_of_le hlt hle⟩)
    rw [h.phases] at hphase
    exact exists_of_phasesOf hphase
  identities other hother another hanother hindex := by
    rcases List.mem_append.mp hother with hother | hother
    · rcases List.mem_append.mp hanother with hanother | hanother
      · exact h.identities other hother another hanother hindex
      · cases List.mem_singleton.mp hanother
        rw [TaskIdentities.agrees_comm]
        exact haccepts.identities other (h.children ▸ hother) hindex
    · cases List.mem_singleton.mp hother
      rcases List.mem_append.mp hanother with hanother | hanother
      · exact haccepts.identities another (h.children ▸ hanother) hindex.symm
      · cases List.mem_singleton.mp hanother
        exact TaskIdentities.agrees_self _
  parent other hother hash hparent := by
    show task.identities.parent.or t.parentHash = some hash
    rcases List.mem_append.mp hother with hother | hother
    · have hknown : t.parentHash = some hash := h.parent other hother hash hparent
      have hagrees : agrees task.identities.parent t.parentHash = true := haccepts.parent
      rw [hknown] at hagrees ⊢
      cases hnew : task.identities.parent with
      | none => rfl
      | some new =>
        rw [hnew] at hagrees
        simpa [agrees] using hagrees
    · cases List.mem_singleton.mp hother
      rw [hparent]
      rfl

/-- Where all delegated work is complete, the tasks went through their phases. -/
theorem tasksDone (h : TaskBooks tasks t) (hcomplete : t.complete = true) : TasksDone tasks where
  phases := by
    cases hcount : t.count with
    | none =>
      refine ⟨0, ?_, fun index hzero hlt => absurd hzero (by omega)⟩
      intro task htask
      cases hcount.symm.trans (h.counted task htask).1
    | some count =>
      have hcounted : ∀ task ∈ tasks, task.count = count ∧ 0 ≤ task.index ∧ task.index < count := by
        intro task htask
        obtain ⟨hsome, hwithin⟩ := h.counted task htask
        cases hcount.symm.trans hsome
        exact ⟨rfl, hwithin⟩
      have hlength : (t.completed.length : Int) = count := by
        simp only [Tasks.complete, hcount, Option.all_some, Bool.and_eq_true, beq_iff_eq] at hcomplete
        exact hcomplete.1
      have hsubset : t.completed.toFinset ⊆ Finset.Ico 0 count := by
        intro index hindex
        obtain ⟨task, htask, rfl⟩ :=
          exists_of_phasesOf ((h.completed index).mp (List.mem_toFinset.mp hindex))
        exact Finset.mem_Ico.mpr (hcounted task htask).2
      have hall : t.completed.toFinset = Finset.Ico 0 count := by
        apply Finset.eq_of_subset_of_card_le hsubset
        rw [Int.card_Ico, List.toFinset_card_of_nodup h.distinct]
        omega
      refine ⟨count, hcounted, ?_⟩
      intro index hzero hlt
      apply taskPhases_of_complete _ (h.ordered index)
      rw [← h.completed, ← List.mem_toFinset, hall]
      exact Finset.mem_Ico.mpr ⟨hzero, hlt⟩
  order := h.order
  identities := h.identities
  parent task htask other hother := by
    cases hparent : task.identities.parent with
    | none => rfl
    | some hash =>
      cases hparent' : other.identities.parent with
      | none => rfl
      | some hash' =>
        have hsame := (h.parent task htask hash hparent).symm.trans (h.parent other hother hash' hparent')
        cases hsame
        exact agrees_self _

end TaskBooks

end Tasks

/-! ## Observers -/

section Observer

variable {config : ObserverConfig} {s t : ObserverState} {value : PyValue} {p : Parts}

/-- What an observer says of its history. -/
structure ObserverBooks (config : ObserverConfig) (s : ObserverState) : Prop where
  approvals : ApprovalBooks config.library s.history s.approvals
  tools : ToolBooks config.library config.allowed s.history s.tools
  permitted : Along (fun before h => h.HasKind config.library toolKinds →
    ¬ ApprovalPending config.library before ∧ ¬ DenialInForce before) s.history
  tasks : TaskBooks (s.history.filterMap (Happening.task config.library)) s.tasks
  events : s.events = s.history.filterMap (Happening.recorded config.library)
  terminals : s.terminalCount = s.history.countP (Happening.isTerminal config.library)
  bound : s.terminalCount ≤ config.expectedTerminalCount
  final : s.terminal.isSome = true → s.approvals.pendingHash = none ∧
    Closed config.library s.history ∧
    TasksDone (s.history.filterMap (Happening.task config.library))

theorem frameKind_of_parts (h : parts config.library value = .ok p) :
    frameKind config.library value = config.library.casefold p.kind := by
  rw [frameKind, h]
  rfl

theorem frameOutcome_of_parts (h : parts config.library value = .ok p) :
    frameOutcome config.library value = p.terminal := by
  rw [frameOutcome, h]
  rfl

namespace ObserverState

/-- What an accepted terminal says. -/
theorem terminate_eq_ok {terminal : PyStr} (h : s.terminate config terminal = .ok t) :
    s.approvals.pendingHash = none ∧ s.terminalCount + 1 ≤ config.expectedTerminalCount ∧
      (t = { s with terminalCount := s.terminalCount + 1 } ∨
        (s.tasks.complete = true ∧
          t = { s with terminalCount := s.terminalCount + 1, terminal := some terminal })) := by
  unfold terminate at h
  obtain ⟨hquiet, h⟩ := ensure_bind_eq_ok.mp h
  obtain ⟨hcount, h⟩ := ensure_bind_eq_ok.mp h
  obtain ⟨-, h⟩ := ensure_bind_eq_ok.mp h
  rw [Bool.and_eq_true, Option.isNone_iff_eq_none] at hquiet
  refine ⟨hquiet.1, of_decide_eq_true hcount, ?_⟩
  split_ifs at h
  · cases h
    exact .inl rfl
  · obtain ⟨hcomplete, h⟩ := ensure_bind_eq_ok.mp h
    cases h
    exact .inr ⟨hcomplete, rfl⟩

/-- The observer after an event was recorded, up to its terminal status. -/
def recorded (s : ObserverState) (value : PyValue) (p : Parts) (approvals : Approvals)
    (tools : ToolCalls) (tasks : Tasks) : ObserverState :=
  { s with
    events := s.events ++ [⟨p.kind, p.size, p.digest, p.terminal⟩]
    approvals, tools, tasks
    history := s.history ++ [.event value] }

/-- What a recorded event says. -/
theorem record_eq_ok (h : s.record config value p = .ok t) :
    ∃ approvals tools tasks,
      (if config.library.casefold p.kind ∈ approvalKinds then
          s.approvals.request ⟨p.kind, p.size, p.digest, p.terminal⟩ value
        else .ok s.approvals) = .ok approvals ∧
      (if config.library.casefold p.kind ∈ startKinds ∨
            config.library.casefold p.kind ∈ completeKinds then
          s.tools.event config.allowed (approvals.pendingHash.isNone && !approvals.denialGuard)
            (decide (config.library.casefold p.kind ∈ startKinds)) value
        else .ok s.tools) = .ok tools ∧
      (if config.library.casefold p.kind ∈ childKinds then
          s.tasks.event (config.library.casefold p.kind) value
        else .ok s.tasks) = .ok tasks ∧
      ((p.terminal = none ∧ t = s.recorded value p approvals tools tasks) ∨
        ∃ terminal, p.terminal = some terminal ∧
          (s.recorded value p approvals tools tasks).terminate config terminal = .ok t) := by
  unfold record at h
  obtain ⟨-, h⟩ := ensure_bind_eq_ok.mp h
  obtain ⟨approvals, happrovals, h⟩ := bind_eq_ok.mp h
  obtain ⟨tools, htools, h⟩ := bind_eq_ok.mp h
  obtain ⟨tasks, htasks, h⟩ := bind_eq_ok.mp h
  refine ⟨approvals, tools, tasks, happrovals, htools, htasks, ?_⟩
  cases hterminal : p.terminal with
  | none =>
    dsimp only at h
    rw [hterminal] at h
    cases h
    exact .inl ⟨rfl, by rw [recorded, hterminal]⟩
  | some terminal =>
    dsimp only at h
    rw [hterminal] at h
    refine .inr ⟨terminal, rfl, ?_⟩
    rw [recorded, hterminal]
    exact h

/-- Binding a session, where one is named. -/
theorem bound_eq_ok {message : String} {found : PyValue}
    (h : (if found.isNone then .ok s else do
      let digest ← hashedIdentity "session_id" "session_id" found
      ensure (s.sessionHash.isNone || s.sessionHash == some digest) message
      return { s with sessionHash := some digest }) = .ok t) :
    ∃ hash, t = { s with sessionHash := hash } := by
  split_ifs at h
  · cases h
    exact ⟨s.sessionHash, rfl⟩
  · obtain ⟨digest, -, h⟩ := bind_eq_ok.mp h
    obtain ⟨-, h⟩ := ensure_bind_eq_ok.mp h
    cases h
    exact ⟨some digest, rfl⟩

/-- The session is all that binding it changes. -/
theorem session_eq_ok (h : s.session value = .ok t) :
    ∃ hash, t = { s with sessionHash := hash } :=
  bound_eq_ok h

theorem callSession_eq_ok {params : Frame} (h : s.callSession params = .ok t) :
    ∃ hash, t = { s with sessionHash := hash } :=
  bound_eq_ok h

/-- A decision is read only where a request is pending. -/
theorem pending_of_decision {method : PyStr} {params : Frame} {d : Decision}
    (h : s.decision config method params = .ok (some d)) :
    s.approvals.pendingHash.isSome = true := by
  unfold decision at h
  split_ifs at h
  · cases h
  · obtain ⟨hash, hpending, -⟩ := bind_eq_ok.mp h
    rw [orFail_eq_ok.mp hpending]
    rfl

end ObserverState

namespace ObserverBooks

theorem start : ObserverBooks config { sessionHash := config.sessionHash } where
  approvals := .start
  tools := .start
  permitted := along_nil
  tasks := .start
  events := rfl
  terminals := rfl
  bound := Nat.zero_le _
  final := nofun

theorem bind (h : ObserverBooks config s) (hash : Option PyStr) :
    ObserverBooks config { s with sessionHash := hash } :=
  ⟨h.approvals, h.tools, h.permitted, h.tasks, h.events, h.terminals, h.bound, h.final⟩

theorem fails (h : ObserverBooks config s) (failure : ObserverFailure) :
    ObserverBooks config (s.fails failure) := by
  cases failure with
  | violation violation =>
    exact ⟨h.approvals, h.tools, h.permitted, h.tasks, h.events, h.terminals, h.bound, h.final⟩
  | escaped => exact h

/-- An event after the final terminal is passed over. -/
theorem control (h : ObserverBooks config s) (hterminal : s.terminal.isSome = true)
    (hkind : frameKind config.library value ∈ postTerminalControl) :
    ObserverBooks config { s with history := s.history ++ [.control value] } := by
  have htasks : (s.history ++ [Happening.control value]).filterMap
      (Happening.task config.library) = s.history.filterMap (Happening.task config.library) := by
    simp [Happening.task]
  refine ⟨h.approvals.quiet id id, h.tools.quiet id, ?_, ?_, ?_, ?_, h.bound, ?_⟩
  · exact along_snoc.mpr ⟨h.permitted, nofun⟩
  · show TaskBooks _ s.tasks
    rw [htasks]
    exact h.tasks
  · show s.events = _
    simp [h.events, Happening.recorded]
  · show s.terminalCount = _
    simp [h.terminals, Happening.isTerminal]
  · intro _
    obtain ⟨hquiet, ⟨before, frame, after, hhistory, houtcome, hafter⟩, hdone⟩ := h.final hterminal
    refine ⟨hquiet, ⟨before, frame, after ++ [.control value], ?_, houtcome, ?_⟩, ?_⟩
    · show s.history ++ [.control value] = _
      rw [hhistory]
      simp
    · intro x hx
      rcases List.mem_append.mp hx with hx | hx
      · exact hafter x hx
      · cases List.mem_singleton.mp hx
        exact ⟨value, rfl, hkind⟩
    · show TasksDone ((s.history ++ [Happening.control value]).filterMap _)
      rw [htasks]
      exact hdone

/-- An event is recorded, whatever its terminal status. -/
theorem recorded (h : ObserverBooks config s)
    (hparts : parts config.library value = .ok p) {approvals : Approvals} {tools : ToolCalls}
    {tasks : Tasks}
    (happrovals : (if config.library.casefold p.kind ∈ approvalKinds then
        s.approvals.request ⟨p.kind, p.size, p.digest, p.terminal⟩ value
      else .ok s.approvals) = .ok approvals)
    (htools : (if config.library.casefold p.kind ∈ startKinds ∨
          config.library.casefold p.kind ∈ completeKinds then
        s.tools.event config.allowed (approvals.pendingHash.isNone && !approvals.denialGuard)
          (decide (config.library.casefold p.kind ∈ startKinds)) value
      else .ok s.tools) = .ok tools)
    (htasks : (if config.library.casefold p.kind ∈ childKinds then
        s.tasks.event (config.library.casefold p.kind) value
      else .ok s.tasks) = .ok tasks) :
    let r := s.recorded value p approvals tools tasks
    ApprovalBooks config.library r.history approvals ∧
      ToolBooks config.library config.allowed r.history tools ∧
      Along (fun before h => h.HasKind config.library toolKinds →
        ¬ ApprovalPending config.library before ∧ ¬ DenialInForce before) r.history ∧
      TaskBooks (r.history.filterMap (Happening.task config.library)) tasks ∧
      r.events = r.history.filterMap (Happening.recorded config.library) := by
  have hkind := frameKind_of_parts hparts
  rw [← hkind] at happrovals htools htasks
  refine ⟨?_, ?_, ?_, ?_, ?_⟩
  · show ApprovalBooks _ (s.history ++ [.event value]) _
    split_ifs at happrovals with hrequest
    · exact h.approvals.request hrequest happrovals
    · cases happrovals
      exact h.approvals.quiet hrequest id
  · show ToolBooks _ _ (s.history ++ [.event value]) _
    split_ifs at htools with htool
    · exact h.tools.event htool htools
    · cases htools
      exact h.tools.quiet fun hmem => htool (List.mem_append.mp hmem)
  · refine along_snoc.mpr ⟨h.permitted, ?_⟩
    intro htool
    -- a tool event is no approval request, so the approvals are still those of before
    have hquiet : frameKind config.library value ∉ approvalKinds := by
      have hdisjoint : ∀ kind ∈ toolKinds, kind ∉ approvalKinds := by decide
      exact hdisjoint _ htool
    rw [if_neg hquiet] at happrovals
    cases happrovals
    rw [if_pos (List.mem_append.mp htool)] at htools
    obtain ⟨hpermitted, -⟩ := ToolCalls.event_eq_ok htools
    rw [Bool.and_eq_true, Bool.not_eq_true', Option.isNone_iff_eq_none] at hpermitted
    rw [← h.approvals.pending, ← h.approvals.inForce, hpermitted.1, hpermitted.2]
    exact ⟨nofun, nofun⟩
  · show TaskBooks ((s.history ++ [Happening.event value]).filterMap _) _
    rw [List.filterMap_append]
    split_ifs at htasks with hchild
    · obtain ⟨task, hordinals, hidentities, haccepts, rfl⟩ := Tasks.event_eq_ok htasks
      have htask : Happening.task config.library (.event value) = some task := by
        simp [Happening.task, hchild, frameTask, hordinals, hidentities, Except.toOption]
      simp only [List.filterMap_cons, htask, List.filterMap_nil]
      exact h.tasks.accept haccepts
    · cases htasks
      have htask : Happening.task config.library (.event value) = none := if_neg hchild
      simp only [List.filterMap_cons, htask, List.filterMap_nil, List.append_nil]
      exact h.tasks
  · show s.events ++ [_] = (s.history ++ [Happening.event value]).filterMap _
    rw [List.filterMap_append, ← h.events]
    simp [Happening.recorded, hparts, Except.toOption]

/-- **Step of an event.** -/
theorem record (h : ObserverBooks config s) (hopen : s.terminal = none)
    (hparts : parts config.library value = .ok p) (hrecord : s.record config value p = .ok t) :
    ObserverBooks config t := by
  obtain ⟨approvals, tools, tasks, happrovals, htools, htasks, hend⟩ :=
    ObserverState.record_eq_ok hrecord
  obtain ⟨hbooks, htoolBooks, hpermitted, htaskBooks, hevents⟩ :=
    h.recorded hparts happrovals htools htasks
  have houtcome := frameOutcome_of_parts hparts
  have hcount : (s.history ++ [Happening.event value]).countP
      (Happening.isTerminal config.library) = s.terminalCount + (if p.terminal.isSome then 1 else 0) := by
    rw [List.countP_append, ← h.terminals, List.countP_singleton]
    simp [Happening.isTerminal, houtcome]
  rcases hend with ⟨hnone, rfl⟩ | ⟨terminal, hterminal, hend⟩
  · rw [hnone] at hcount
    refine ⟨hbooks, htoolBooks, hpermitted, htaskBooks, hevents, hcount.symm, h.bound, ?_⟩
    intro hsome
    rw [show (s.recorded value p approvals tools tasks).terminal = none from hopen] at hsome
    cases hsome
  · rw [hterminal] at hcount
    obtain ⟨hquiet, hbound, rfl | ⟨hcomplete, rfl⟩⟩ := ObserverState.terminate_eq_ok hend
    · refine ⟨hbooks, htoolBooks, hpermitted, htaskBooks, hevents, hcount.symm, hbound, ?_⟩
      intro hsome
      rw [show (s.recorded value p approvals tools tasks).terminal = none from hopen] at hsome
      cases hsome
    · refine ⟨hbooks, htoolBooks, hpermitted, htaskBooks, hevents, hcount.symm, hbound, ?_⟩
      intro _
      refine ⟨hquiet, ⟨s.history, value, [], rfl, ?_, nofun⟩, htaskBooks.tasksDone hcomplete⟩
      rw [houtcome, hterminal]
      rfl

theorem event (h : ObserverBooks config s) (hevent : s.event config value = .ok t) :
    ObserverBooks config t := by
  unfold ObserverState.event at hevent
  obtain ⟨p, hparts, hevent⟩ := bind_eq_ok.mp hevent
  split_ifs at hevent with hterminal
  · obtain ⟨hcontrol, hevent⟩ := ensure_bind_eq_ok.mp hevent
    cases hevent
    apply h.control hterminal
    rw [frameKind_of_parts hparts]
    exact of_decide_eq_true hcontrol
  · obtain ⟨bound, hbound, hevent⟩ := bind_eq_ok.mp hevent
    have hopen : s.terminal = none := by simpa using hterminal
    obtain ⟨hash, rfl⟩ : ∃ hash, bound = { s with sessionHash := hash } := by
      split_ifs at hbound
      · cases hbound
        exact ⟨s.sessionHash, rfl⟩
      · exact ObserverState.session_eq_ok hbound
    exact (h.bind hash).record hopen hparts hevent

theorem settle (h : ObserverBooks config s) {result : Except ObserverFailure ObserverState}
    (hok : ∀ t, result = .ok t → ObserverBooks config t) : ObserverBooks config (s.settle result) := by
  cases result with
  | ok t => exact hok t rfl
  | error failure => exact h.fails failure

theorem session (h : ObserverBooks config s) (hsession : s.session value = .ok t) :
    ObserverBooks config t := by
  obtain ⟨hash, rfl⟩ := ObserverState.session_eq_ok hsession
  exact h.bind hash

/-- **Step of an answer.** Only a pending request is answered, so the final terminal has not
come. -/
theorem respond {decision : Decision} (h : ObserverBooks config s)
    (hpending : s.approvals.pendingHash.isSome = true)
    (hrespond : s.respond decision value = .ok t) : ObserverBooks config t := by
  unfold ObserverState.respond at hrespond
  obtain ⟨approvals, hresponse, hrespond⟩ := bind_eq_ok.mp hrespond
  cases hrespond
  refine ⟨h.approvals.answer hresponse, h.tools.quiet id, ?_, ?_, ?_, ?_, h.bound, ?_⟩
  · exact along_snoc.mpr ⟨h.permitted, nofun⟩
  · have htasks : (s.history ++ [Happening.answer decision]).filterMap
        (Happening.task config.library) =
        s.history.filterMap (Happening.task config.library) := by
      simp [Happening.task]
    show TaskBooks _ s.tasks
    rw [htasks]
    exact h.tasks
  · show s.events = _
    simp [h.events, Happening.recorded]
  · show s.terminalCount = _
    simp [h.terminals, Happening.isTerminal]
  · intro hterminal
    rw [(h.final hterminal).1] at hpending
    cases hpending

theorem callFrame {method : PyStr} {decision : Option Decision} (h : ObserverBooks config s)
    (hpending : ∀ d, decision = some d → s.approvals.pendingHash.isSome = true) :
    ObserverBooks config (s.callFrame method decision value) := by
  unfold ObserverState.callFrame
  dsimp only
  by_cases hcreate : method = lit "session.create"
  · rw [if_pos hcreate]
    exact h.settle fun t => h.session
  rw [if_neg hcreate]
  by_cases hresume : method = lit "session.resume"
  · rw [if_pos hresume]
    exact (h.bind none).settle fun t => (h.bind none).session
  rw [if_neg hresume]
  cases decision with
  | none => exact h
  | some decision =>
    dsimp only
    split_ifs
    · exact h.settle fun t => h.respond (hpending decision rfl)
    · exact h

theorem call {method : PyStr} {params : Frame} {answer : Option PyValue}
    (h : ObserverBooks config s) : ObserverBooks config (s.call config method params answer) := by
  unfold ObserverState.call
  split_ifs
  · exact h
  · split
    next failure hsession => exact h.fails failure
    next bound hsession =>
      obtain ⟨hash, rfl⟩ := ObserverState.callSession_eq_ok hsession
      split
      next failure hdecision => exact (h.bind hash).fails failure
      next decision hdecision =>
        cases answer with
        | none => exact h.bind hash
        | some value =>
          apply (h.bind hash).callFrame
          rintro d rfl
          exact ObserverState.pending_of_decision hdecision

theorem waitSession {sessionId : PyValue} (h : ObserverBooks config s) :
    ObserverBooks config (s.waitSession sessionId) := by
  unfold ObserverState.waitSession
  dsimp only
  split
  next t hbound =>
    obtain ⟨text, -, hsession⟩ := bind_eq_ok.mp hbound
    exact h.session hsession
  next => exact h

/-- **Step.** Whatever comes to an observer, its fields still say what its history does. -/
theorem next {label : ObserverLabel} (h : ObserverBooks config s)
    (hnext : (observerSystem config).next s label = some t) : ObserverBooks config t := by
  change s.next config label = some t at hnext
  unfold ObserverState.next at hnext
  split_ifs at hnext
  cases label with
  | frame value =>
    cases hnext
    exact h.settle fun t => h.event
  | waitSession sessionId =>
    cases hnext
    exact h.waitSession
  | call method params answer =>
    cases hnext
    exact h.call

/-- **Run.** -/
theorem of_reachable (h : (observerSystem config).Reachable s) : ObserverBooks config s :=
  h.invariant start fun _ hbooks hnext => hbooks.next hnext

end ObserverBooks

/-! ## Snapshots -/

/-- What a snapshot reports is what its history says. -/
structure Snapshot.Describes (library : GatewayLibrary) (snapshot : Snapshot)
    (history : List Happening) : Prop where
  events : snapshot.events = history.filterMap (Happening.recorded library)
  started : snapshot.started = history.filterMap (Happening.started library)
  completed : snapshot.completed = history.filterMap (Happening.completed library)
  subagents : snapshot.subagents = history.filterMap (Happening.task library)
  terminalCount : snapshot.terminalCount = history.countP (Happening.isTerminal library)

/-- For every sequence of calls and event frames after which `snapshot` succeeds, what was
observed is a valid lifecycle, and the snapshot reports it. -/
theorem snapshot_reports_lifecycle (config : ObserverConfig) {s : ObserverState}
    (h : (observerSystem config).Reachable s) {snapshot : Snapshot}
    (hsnapshot : s.snapshot = .ok snapshot) :
    Lifecycle config s.history ∧ snapshot.Describes config.library s.history := by
  have hbooks : ObserverBooks config s := .of_reachable h
  unfold ObserverState.snapshot at hsnapshot
  obtain ⟨-, hsnapshot⟩ := ensure_bind_eq_ok.mp hsnapshot
  obtain ⟨hchecks, hsnapshot⟩ := ensure_bind_eq_ok.mp hsnapshot
  cases hsnapshot
  simp only [Bool.not_true, Bool.false_or, Bool.and_eq_true] at hchecks
  obtain ⟨-, hclosed, hdone⟩ := hbooks.final hchecks.2
  constructor
  · exact ⟨hbooks.tools.matched, hbooks.tools.inventory, hbooks.permitted, hdone,
      hbooks.terminals ▸ hbooks.bound, hclosed⟩
  · exact ⟨hbooks.events, hbooks.tools.starts, hbooks.tools.completes, hbooks.tasks.children,
      hbooks.terminals⟩

end Observer

/-- An observer for ASCII frames, with one allowed tool. -/
def asciiObserver : ObserverConfig where
  library := asciiGatewayLibrary
  allowed := [lit "memory"]
  bounded := maxEvents_bounded
  phased := terminalCount_phased

/-- An event of the tool call `call-1`. -/
def toolFrame (kind : String) : PyValue :=
  .dict [(.str (lit "jsonrpc"), .str (lit "2.0")), (.str (lit "method"), .str (lit "event")),
    (.str (lit "params"), .dict [(.str (lit "type"), .str (lit kind)),
      (.str (lit "payload"), .dict [(.str (lit "name"), .str (lit "memory")),
        (.str (lit "tool_id"), .str (lit "call-1"))])])]

/-- A turn with one tool call. -/
def toolTurn : List ObserverLabel :=
  [.frame (toolFrame "tool.start"), .frame (toolFrame "tool.complete"),
    .frame (.dict (eventFrame "message.complete" "status" "complete"))]

theorem snapshot_reports_lifecycle_turn : ∃ s, (observerSystem asciiObserver).Reachable s ∧
    s.history.length = 3 ∧ Lifecycle asciiObserver s.history := by
  obtain ⟨s, hreached, hlength, hsnapshot⟩ : ∃ s, (observerSystem asciiObserver).Reachable s ∧
      (s.history.length = 3 ∧ s.snapshot.toOption.isSome = true) := by
    apply System.exists_reachable_of_run toolTurn
    decide +kernel
  obtain ⟨snapshot, hsnapshot⟩ := Option.isSome_iff_exists.mp hsnapshot
  have hok : s.snapshot = .ok snapshot := by
    cases hresult : s.snapshot with
    | error failure =>
      rw [hresult] at hsnapshot
      cases hsnapshot
    | ok other =>
      rw [hresult] at hsnapshot
      cases hsnapshot
      rfl
  exact ⟨s, hreached, hlength, (snapshot_reports_lifecycle asciiObserver hreached hok).1⟩

end HermesClaude.Parity
