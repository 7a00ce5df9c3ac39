/-
# How turns end

`run_turn` returns a result or raises `CancelledError`, and its `finally` block retires
the inbox it published.  One statement stands between publishing and the `try`: binding
the compaction callbacks, which refuses while a compaction is active.  A PreCompact hook
that runs while no turn is active makes it so, and then the turn ends with an error
nobody promised and its inbox stays active.

Along every run in which no turn binds its callbacks during a compaction, turns end
cleanly.
-/

import HermesClaude.Session.Runs

namespace HermesClaude.Session

open HermesClaude.Python HermesClaude.Content HermesClaude.Library

/-- Every turn that is over returned a result or was cancelled, and its inbox is not the
active one. -/
def EndsCleanly (s : SDKSession) : Prop :=
  ∀ f ∈ s.finished, f.ending ≠ .raisedError ∧ s.activeInbox ≠ some f.turn

/-- Where the step has a turn bind its callbacks, no compaction is active. -/
def bindsIdle (s : SDKSession) : Label → Bool
  | .runTurn prompt _ =>
    !prompt.valid || s.closed || s.postTerminalNativeViolation || s.postTerminalOutput ||
      !s.client || s.cancelRequested || !s.compaction.active
  | .turn .completed =>
    match s.turn with
    | some .connecting => s.cancelRequested || !s.compaction.active
    | _ => true
  | _ => true

/-- `bindsIdle`, as a condition. -/
def BindsIdle (s : SDKSession) (label : Label) : Prop := bindsIdle s label = true

/-- The suspensions of a turn whose inbox is published. -/
inductive Published : TurnPc → Prop
  | loop {pc : TurnPc} (inner : SDKSession.InLoop pc) : Published pc
  | tearing {pc : TurnPc} {after : After} (inner : SDKSession.After.Inner after)
      (tearing : SDKSession.TearingDown after pc) : Published pc

/-- The turns that are over, and the latest one among them only when none is running. -/
structure Settled (s : SDKSession) : Prop where
  caught : ∀ f ∈ s.finished, f.ending ≠ .raisedError
  entered : ∀ f ∈ s.finished, f.turn ≤ s.turnId
  latest : ∀ f ∈ s.finished, f.turn = s.turnId → s.turn = none

/-- The invariant: only a turn that is running and has published its inbox has it
active. -/
structure Tidy (s : SDKSession) : Prop where
  settled : Settled s
  active : ∀ turn, s.activeInbox = some turn →
    turn = s.turnId ∧ ∃ pc, s.turn = some pc ∧ Published pc
  retiring : ∀ ending, s.turn = some (.retiring ending) → ending ≠ .raisedError

/-- What holds of a running turn whatever it does next: the inbox it may have published is
its own, and it is not over. -/
structure Running (s : SDKSession) : Prop where
  caught : ∀ f ∈ s.finished, f.ending ≠ .raisedError
  earlier : ∀ f ∈ s.finished, f.turn < s.turnId
  active : ∀ turn, s.activeInbox = some turn → turn = s.turnId

section Preservation

variable {C : SessionContext} {s t u : SDKSession}

open SDKSession

theorem Tidy.running (h : Tidy s) {pc : TurnPc} (hturn : s.turn = some pc) : Running s where
  caught := h.settled.caught
  earlier := fun f hf => by
    have hle := h.settled.entered f hf
    have hne : f.turn ≠ s.turnId := by
      intro heq
      rw [h.settled.latest f hf heq] at hturn
      cases hturn
    omega
  active := fun turn hactive => (h.active turn hactive).1

theorem Running.settled (h : Running s) : Settled s where
  caught := h.caught
  entered := fun f hf => Nat.le_of_lt (h.earlier f hf)
  latest := fun f hf heq => absurd heq (Nat.ne_of_lt (h.earlier f hf))

theorem Running.closing (h : Running s) (hclosing : Closing s t) : Running t := by
  rw [hclosing.rest]
  exact { h with }

theorem Running.advancing (h : Running s) (hadvancing : Advancing s t) : Running t := by
  rw [hadvancing]
  exact { h with }

/-- A turn with a published inbox is suspended. -/
theorem Running.published (h : Running s) {pc : TurnPc} (hpc : Published pc) :
    Tidy { s with turn := some pc } where
  settled := { h.settled with
    latest := fun f hf heq => absurd heq (Nat.ne_of_lt (h.earlier f hf)) }
  active := fun turn hactive => ⟨h.active turn hactive, pc, rfl, hpc⟩
  retiring := by
    rintro ending hretiring
    cases hretiring
    rcases hpc with ⟨⟨⟩⟩ | ⟨_, ⟨⟩⟩

/-- A turn without a published inbox is suspended. -/
theorem Running.unpublished (h : Running s) (hinactive : s.activeInbox = none) {pc : TurnPc}
    (hpc : ∀ ending, pc ≠ .retiring ending) : Tidy { s with turn := some pc } where
  settled := { h.settled with
    latest := fun f hf heq => absurd heq (Nat.ne_of_lt (h.earlier f hf)) }
  active := fun turn hactive => by rw [show s.activeInbox = some turn from hactive] at hinactive; cases hinactive
  retiring := fun ending hretiring => absurd (Option.some.inj hretiring) (hpc ending)

/-- A turn whose inbox is not active leaves. -/
theorem Running.leave (h : Running s) (hinactive : s.activeInbox = none) {ending : Ending}
    (hending : ending ≠ .raisedError) : Tidy (s.leave ending) where
  settled := by
    refine ⟨fun f hf => ?_, fun f hf => ?_, fun _ _ _ => rfl⟩
    all_goals rcases List.mem_append.mp hf with hf | hf
    · exact h.caught f hf
    · rw [List.mem_singleton.mp hf]
      exact hending
    · exact Nat.le_of_lt (h.earlier f hf)
    · rw [List.mem_singleton.mp hf]
      exact Nat.le_refl _
  active := fun turn hactive => by
    rw [show s.activeInbox = some turn from hactive] at hinactive
    cases hinactive
  retiring := fun _ hretiring => by cases hretiring

/-- A turn retires its own inbox. -/
theorem Running.retire (h : Running s) {ending : Ending} (hending : ending ≠ .raisedError) :
    Tidy (s.retire ending) where
  settled := { h.settled with
    latest := fun f hf heq => absurd heq (Nat.ne_of_lt (h.earlier f hf)) }
  active := by
    intro turn hactive
    simp only [SDKSession.retire] at hactive
    split_ifs at hactive with hown
    exact absurd (h.active turn hactive ▸ hactive) hown
  retiring := by
    rintro _ ⟨⟩
    exact hending

/-- A teardown after which the turn goes on inside its `try`. -/
theorem Running.tornDown (h : Running s) {after : After} (hinner : After.Inner after)
    (htorn : TornDown s after t) : Tidy t := by
  cases htorn with
  | suspended hclosing htearing => exact (h.closing hclosing).published (.tearing hinner htearing)
  | resumed hclosing =>
    have hu := h.closing hclosing
    cases hinner with
    | finish | handled | reraise => exact hu.retire (by rintro ⟨⟩)

/-- A teardown before an inbox was published. -/
theorem Running.tornDown_early (h : Running s) (hinactive : s.activeInbox = none) {after : After}
    (hearly : ¬ After.Inner after) (htorn : TornDown s after t) : Tidy t := by
  cases htorn with
  | @suspended u pc hclosing htearing =>
    refine (h.closing hclosing).unpublished (by rw [hclosing.rest]; exact hinactive) ?_
    rintro ending rfl
    cases htearing
  | @resumed u hclosing =>
    have hu := h.closing hclosing
    have hinactive' : u.activeInbox = none := by rw [hclosing.rest]; exact hinactive
    cases after with
    | leave => exact hu.leave hinactive' (by rintro ⟨⟩)
    | startFailed cancelled =>
      cases cancelled <;> exact hu.leave hinactive' (by rintro ⟨⟩)
    | finish => exact absurd (.finish _) hearly
    | handled => exact absurd (.handled _) hearly
    | reraise => exact absurd .reraise hearly

theorem Running.loopOutcome (h : Running s) (houtcome : LoopOutcome s t) : Tidy t := by
  cases houtcome with
  | moved hadvancing hinner => exact (h.advancing hadvancing).published (.loop hinner)
  | torn hadvancing hinner htears =>
    exact (h.advancing hadvancing).tornDown hinner htears.tornDown
  | retired hadvancing hcaught => exact (h.advancing hadvancing).retire hcaught

/-- A turn that publishes its inbox while no compaction is active binds its callbacks and
goes on inside the `try`. -/
theorem Running.publish (h : Running s) (hinactive : s.activeInbox = none)
    (hidle : s.cancelRequested = true ∨ s.compaction.active = false) : Tidy s.publish := by
  unfold SDKSession.publish
  split_ifs with hcancel
  · exact h.leave hinactive (by rintro ⟨⟩)
  · simp only
    have hpublished : Running { s with
        activeInbox := some s.turnId
        turnTerminalSeen := false
        streamToolIndexes := []
        compaction := s.compaction.bind s.turnId } :=
      { h with active := fun turn hactive => (Option.some.inj hactive).symm }
    split_ifs with hactive
    · rcases hidle with hrequested | hidle
      · exact absurd hrequested hcancel
      · rw [hidle] at hactive
        cases hactive
    · exact (Running.published (s := { s with
          activeInbox := some s.turnId
          turnTerminalSeen := false
          streamToolIndexes := []
          compaction := s.compaction.bind s.turnId
          queries := s.queries ++ [⟨s.turnId, s.reader⟩] }) { hpublished with } (.loop .querying))
    · exact hpublished.tornDown (.handled _) (interruptThenClose_tornDown _ _)

/-- A turn that has not published an inbox is running while none is active. -/
theorem Tidy.inactive (h : Tidy s) {pc : TurnPc} (hturn : s.turn = some pc)
    (hpc : ¬ Published pc) : s.activeInbox = none := by
  cases hactive : s.activeInbox with
  | none => rfl
  | some turn =>
    obtain ⟨-, pc', hturn', hpublished⟩ := h.active turn hactive
    rw [hturn, Option.some.injEq] at hturn'
    exact absurd (hturn' ▸ hpublished) hpc

/-- A connecting turn publishes its inbox or closes. -/
theorem Tidy.connecting (h : Tidy s) (hturn : s.turn = some .connecting) {resume : Resume}
    (hguard : BindsIdle s (.turn resume)) (hstep : s.turnStep C .connecting resume = some t) :
    Tidy t := by
  have hinactive : s.activeInbox = none := by
    refine h.inactive hturn ?_
    rintro (⟨⟨⟩⟩ | ⟨_, ⟨⟩⟩)
  have hfailed : ∀ cancelled, Tidy (s.enterClose (.startFailed cancelled)) := fun cancelled =>
    (h.running hturn).tornDown_early hinactive (by rintro ⟨⟩) (enterClose_tornDown s _)
  cases resume <;> cases hstep
  · refine Running.publish (s := { s with reader := .created, readerTask := true })
      { h.running hturn with } hinactive ?_
    simpa [BindsIdle, bindsIdle, hturn] using hguard
  · exact hfailed false
  · exact hfailed false
  · exact hfailed true

/-- A turn that is past its connection keeps the invariant. -/
theorem Tidy.turnOutcome (h : Tidy s) {pc : TurnPc} (hturn : s.turn = some pc)
    (hconnected : pc ≠ .connecting) (houtcome : TurnOutcome s pc t) : Tidy t := by
  have hrunning := h.running hturn
  have hearly : ∀ {after : After}, ¬ After.Inner after → TearingDown after pc →
      s.activeInbox = none := by
    intro after hafter htearing
    refine h.inactive hturn fun hpublished => ?_
    cases hpublished with
    | loop hloop => exact htearing.not_inLoop hloop
    | tearing hinner hother => exact hafter (htearing.unique hother ▸ hinner)
  have htorn : ∀ {after : After}, TearingDown after pc → TornDown s after t → Tidy t := by
    intro after htearing htorn
    by_cases hinner : After.Inner after
    · exact hrunning.tornDown hinner htorn
    · exact hrunning.tornDown_early (hearly hinner htearing) hinner htorn
  cases houtcome with
  | connected | connectFailed => exact absurd rfl hconnected
  | loop _ hloop => exact hrunning.loopOutcome hloop
  | interrupted => exact htorn .interrupting (enterClose_tornDown s _)
  | closing hadvance =>
    exact htorn (.closing _) (atStage_tornDown (closeAdvance_closing hadvance))
  | @teardownCancelled _ after htearing =>
    obtain ⟨c, heq⟩ := cancelTeardown_eq s after
    have hc : Running { s with compaction := c } := { hrunning with }
    rw [heq]
    cases after with
    | leave | startFailed =>
      exact hc.leave (hearly (by rintro ⟨⟩) htearing) (by rintro ⟨⟩)
    | finish => exact hc.published (.loop .cleanup)
    | handled => exact hc.retire (by rintro ⟨⟩)
    | reraise => exact { h with settled := { h.settled with } }
  | retiring => exact { h with settled := { h.settled with } }
  | @left ending c =>
    refine Running.leave (s := { s with compaction := c }) { hrunning with }
      (h.inactive hturn ?_) (h.retiring ending hturn)
    rintro (⟨⟨⟩⟩ | ⟨_, ⟨⟩⟩)
  | retireCancelled c =>
    refine Running.leave (s := { s with compaction := c }) { hrunning with }
      (h.inactive hturn ?_) (by rintro ⟨⟩)
    rintro (⟨⟨⟩⟩ | ⟨_, ⟨⟩⟩)

theorem Tidy.enter (h : Tidy s) (hturn : s.turn = none) (constructs : Bool)
    (hidle : s.closed = false → s.postTerminalNativeViolation = false →
      s.postTerminalOutput = false → s.client = true →
      s.cancelRequested = true ∨ s.compaction.active = false) : Tidy (s.enter constructs) := by
  have hinactive : s.activeInbox = none := by
    cases hactive : s.activeInbox with
    | none => rfl
    | some turn =>
      obtain ⟨-, pc, hsome, -⟩ := h.active turn hactive
      rw [hturn] at hsome
      cases hsome
  have hrunning : Running { s with turnId := s.turnId + 1, inbox := Channel.empty } :=
    ⟨h.settled.caught, fun f hf => Nat.lt_succ_of_le (h.settled.entered f hf),
      fun turn hactive => by rw [show s.activeInbox = some turn from hactive] at hinactive; cases hinactive⟩
  unfold SDKSession.enter
  simp only
  split_ifs with hclosed hnative houtput hclient hconstructs
  · exact hrunning.leave hinactive (by rintro ⟨⟩)
  · exact Running.tornDown_early (s := { s with
      turnId := s.turnId + 1, inbox := Channel.empty
      postTerminalNativeViolation := false, postTerminalOutput := false })
      { hrunning with } hinactive (by rintro ⟨⟩) (interruptThenClose_tornDown _ _)
  · exact Running.tornDown_early (s := { s with
      turnId := s.turnId + 1, inbox := Channel.empty, postTerminalOutput := false })
      { hrunning with } hinactive (by rintro ⟨⟩) (interruptThenClose_tornDown _ _)
  · exact hrunning.publish hinactive (hidle (by simpa using hclosed) (by simpa using hnative)
      (by simpa using houtput) hclient)
  · exact hrunning.leave hinactive (by rintro ⟨⟩)
  · exact Running.unpublished (s := { s with
      turnId := s.turnId + 1, inbox := Channel.empty, client := true }) { hrunning with } hinactive
      (by rintro _ ⟨⟩)

theorem Tidy.ambient (h : Tidy s) (ha : Ambient s t) : Tidy t where
  settled := by
    refine ⟨?_, ?_, ?_⟩ <;> rw [ha.finished]
    · exact h.settled.caught
    · rw [ha.turnId]; exact h.settled.entered
    · rw [ha.turnId, ha.turn]; exact h.settled.latest
  active := by rw [ha.activeInbox, ha.turnId, ha.turn]; exact h.active
  retiring := by rw [ha.turn]; exact h.retiring

theorem Tidy.next (h : Tidy s) {label : Label} (hguard : BindsIdle s label)
    (hnext : s.next C label = some t) : Tidy t := by
  by_cases hambient : IsAmbient label
  · exact h.ambient (next_ambient hnext hambient)
  · cases label with
    | runTurn prompt constructs =>
      simp only [SDKSession.next] at hnext
      split_ifs at hnext with hinvalid hturn <;> cases hnext
      · exact h
      · refine h.enter (by simpa using hturn) constructs fun hopen hnative houtput hclient => ?_
        have hvalid : prompt.valid = true := by simpa using hinvalid
        simpa [BindsIdle, bindsIdle, hvalid, hopen, hnative, houtput, hclient] using hguard
    | turn resume =>
      simp only [SDKSession.next] at hnext
      split at hnext
      · cases hnext
      · rename_i pc hturn
        by_cases hpc : pc = .connecting
        · subst hpc
          exact h.connecting hturn hguard hnext
        · exact h.turnOutcome hturn hpc (turnStep_outcome hturn hnext)
    | _ => exact absurd trivial hambient

end Preservation

/-- **Turns end cleanly.** Along every run in which no turn binds its callbacks during a
compaction, every turn that is over returned a result or raised `CancelledError`, and its
inbox is not the active one. -/
theorem turns_end_cleanly {C : SessionContext} {s : SDKSession}
    (hs : (sessionSystem C).ReachableUnder BindsIdle s) : EndsCleanly s := by
  have htidy : Tidy s := by
    refine System.ReachableUnder.invariant ?_ (fun _ h hguard hnext => h.next hguard hnext) hs
    exact ⟨⟨by simp [sessionSystem], by simp [sessionSystem], by simp [sessionSystem]⟩,
      by simp [sessionSystem], by simp [sessionSystem]⟩
  refine fun f hf => ⟨htidy.settled.caught f hf, fun hactive => ?_⟩
  obtain ⟨heq, pc, hturn, -⟩ := htidy.active f.turn hactive
  rw [htidy.settled.latest f hf heq] at hturn
  cases hturn

theorem turns_end_cleanly_twice : ∃ s, (sessionSystem plainContext).Reachable s ∧
    s.finished.length = 2 ∧ EndsCleanly s := by
  obtain ⟨s, hs, hlength⟩ := System.exists_reachableUnder_of_check
    (S := sessionSystem plainContext) (P := fun s => s.finished.length = 2) bindsIdle
    (wholeTurn subscriptionMessages ++
      [.runTurn (.text (lit "again")) true, .turn .timedOut, .turn .completed, .turn .completed,
        .turn .completed, .readerCancelled, .turn .completed, .turn .completed]) (by decide)
  exact ⟨s, hs.reachable, hlength, turns_end_cleanly hs⟩

/-- A turn completes, the SDK runs the PreCompact hook while no turn is active, and the
next turn ends with the error of `bind`, its inbox still active. -/
theorem hook_between_turns : ∃ s, (sessionSystem plainContext).Reachable s ∧
    ¬ EndsCleanly s := by
  obtain ⟨s, hs, f, hf, hactive⟩ : ∃ s, (sessionSystem plainContext).Reachable s ∧
      ∃ f ∈ s.finished, s.activeInbox = some f.turn :=
    System.exists_reachable_of_run
      (wholeTurn subscriptionMessages ++
        [.preCompact .auto, .compaction, .runTurn (.text (lit "again")) true]) (by decide)
  exact ⟨s, hs, fun hcleanly => (hcleanly f hf).2 hactive⟩

end HermesClaude.Session
