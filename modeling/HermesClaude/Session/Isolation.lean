/-
# Isolation of turns

Messages never leak from one turn into another.  What a turn projects was delivered
to its own inbox, in stream order and before its result; that much holds in every
run.  A message that arrives while no inbox is active is owned by nobody, and the
next turn pays for it: it is refused without a query.

The refusal rests on the reader's flags, and the reader sets a flag only for a
message its check could judge.  A check that raises ends the reader silently, so the
refusal is a property of the runs in which that does not happen while no inbox is
active.
-/

import HermesClaude.Session.Runs

namespace HermesClaude.Session

open HermesClaude.Python HermesClaude.Billing HermesClaude.Content HermesClaude.Library

/-- The step does not make the check raise while no inbox is active. -/
def ChecksIdle (C : SessionContext) (s : SDKSession) (label : Label) : Prop :=
  ∀ message, label = .receive message → s.activeInbox = none →
    zeroNativeViolation message C.allowedTools s.streamToolIndexes ≠ none

/-- A result that refuses a turn: one of the two protocol violations, or CLOSED. -/
def Refusal (result : SessionTurnResult) : Prop :=
  (result.outcome = .failed ∧
    (result.errorCode = some "sdk_native_tool_unsupported" ∨
      result.errorCode = some "sdk_post_terminal_output")) ∨
  result.outcome = .closed

/-- A refused turn returns a refusal, unless its own task is cancelled. -/
def Ending.Refuses : Ending → Prop
  | .returned result => Refusal result
  | .raisedCancelled => True
  | .raisedError => False

/-- The turn is refused: it issued no query, and it is either over or on its way out. -/
structure Refused (s : SDKSession) (turn : Nat) : Prop where
  queries : ∀ q ∈ s.queries, q.turn ≠ turn
  finished : ∀ f ∈ s.finished, f.turn = turn → f.ending.Refuses
  running : s.turnId = turn → ∀ pc, s.turn = some pc →
    ∃ result, Refusal result ∧ SDKSession.TearingDown (.leave result) pc

/-- The session will not enter another turn normally. -/
def Flagged (s : SDKSession) : Prop :=
  s.closed = true ∨ s.postTerminalNativeViolation = true ∨ s.postTerminalOutput = true

/-- Whatever was received while no inbox was active has been, or will be, answered
with a refusal of the next turn. -/
structure Isolated (s : SDKSession) : Prop where
  entered : ∀ r ∈ s.stream, r.entered ≤ s.turnId
  finished : ∀ f ∈ s.finished, f.turn ≤ s.turnId
  queries : ∀ q ∈ s.queries, q.turn ≤ s.turnId
  flagged : ∀ r ∈ s.stream, r.inbox = none → r.entered = s.turnId → Flagged s
  refused : ∀ r ∈ s.stream, r.inbox = none → r.entered < s.turnId → Refused s (r.entered + 1)

section Preservation

variable {C : SessionContext} {s t : SDKSession}

open SDKSession

theorem Flagged.ambient (h : Flagged s) (ha : Ambient s t) : Flagged t :=
  h.imp ha.closed (Or.imp ha.native ha.output)

theorem Flagged.frame (h : Flagged s) (hf : Frame s t) : Flagged t := by
  unfold Flagged
  rw [hf.native, hf.output]
  exact h.imp_left hf.closed

theorem Refused.ambient {turn : Nat} (h : Refused s turn) (ha : Ambient s t) :
    Refused t turn where
  queries := by
    rw [ha.queries]
    exact h.queries
  finished := by
    rw [ha.finished]
    exact h.finished
  running := by
    rw [ha.turnId, ha.turn]
    exact h.running

/-- A reception while no inbox is active raises a flag, unless the check raises. -/
theorem flagged_receive {message : PyValue} (hinactive : s.activeInbox = none)
    (hcheck : zeroNativeViolation message C.allowedTools s.streamToolIndexes ≠ none) :
    Flagged (s.receive C message) := by
  unfold receive
  split
  · contradiction
  · refine .inr (.inl ?_)
    simp [rejectNative, record, hinactive]
  · refine .inr (.inr ?_)
    simp [deliver, record, hinactive]

theorem Isolated.ambient (h : Isolated s) {label : Label} (hnext : s.next C label = some t)
    (hlabel : IsAmbient label) (hguard : ChecksIdle C s label) : Isolated t := by
  have ha := next_ambient hnext hlabel
  have hnew : ∀ r ∈ t.stream, r ∈ s.stream ∨
      (r.entered = s.turnId ∧ (r.inbox = none → Flagged t)) := by
    intro r hr
    rcases next_stream hnext with hsame | ⟨message, rfl, rfl⟩
    · exact .inl (hsame ▸ hr)
    · obtain ⟨fate, hstream, -⟩ := receive_stream (C := C) (s := s) message
      rw [hstream] at hr
      refine (List.mem_append.mp hr).imp_right fun hmem => ?_
      rw [List.mem_singleton.mp hmem]
      exact ⟨rfl, fun hinactive => flagged_receive hinactive (hguard message rfl hinactive)⟩
  refine ⟨?_, ?_, ?_, ?_, ?_⟩
  · intro r hr
    rw [ha.turnId]
    exact (hnew r hr).elim (h.entered r) fun hlast => hlast.1.le
  · rw [ha.finished, ha.turnId]
    exact h.finished
  · rw [ha.queries, ha.turnId]
    exact h.queries
  · intro r hr hinbox hentered
    rw [ha.turnId] at hentered
    exact (hnew r hr).elim (fun hold => (h.flagged r hold hinbox hentered).ambient ha)
      fun hlast => hlast.2 hinbox
  · intro r hr hinbox hentered
    rw [ha.turnId] at hentered
    rcases hnew r hr with hold | ⟨hlast, -⟩
    · exact (h.refused r hold hinbox hentered).ambient ha
    · exact absurd hlast hentered.ne

/-- A turn that is torn down on its way to a refusal stays refused. -/
theorem Refused.tornDown {turn : Nat} {result : SessionTurnResult} (h : Refused s turn)
    (hrefusal : Refusal result) (htorn : TornDown s (.leave result) t) : Refused t turn := by
  cases htorn with
  | @suspended u pc hclosing htearing =>
    have hqueries : u.queries = s.queries := by rw [hclosing.rest]
    have hfinished : u.finished = s.finished := by rw [hclosing.rest]
    refine ⟨?_, ?_, ?_⟩
    · simpa only [hqueries] using h.queries
    · simpa only [hfinished] using h.finished
    · rintro - pc' hpc
      cases hpc
      exact ⟨result, hrefusal, htearing⟩
  | @resumed u hclosing =>
    have hqueries : u.queries = s.queries := by rw [hclosing.rest]
    have hfinished : u.finished = s.finished := by rw [hclosing.rest]
    refine ⟨?_, ?_, fun _ pc hpc => by cases hpc⟩
    · simpa only [resumeAfter, leave, hqueries] using h.queries
    · intro f hf hturn
      simp only [resumeAfter, leave, hfinished, List.mem_append, List.mem_singleton] at hf
      rcases hf with hold | rfl
      · exact h.finished f hold hturn
      · exact hrefusal

/-- A refused turn that goes on stays refused. -/
theorem Refused.turnStep {pc : TurnPc} (h : Refused s s.turnId) (hturn : s.turn = some pc)
    (houtcome : TurnOutcome s pc t) : Refused t s.turnId := by
  obtain ⟨result, hrefusal, htearing⟩ := h.running rfl pc hturn
  rcases houtcome.of_tearingDown htearing with htorn | rfl
  · exact h.tornDown hrefusal htorn
  · obtain ⟨c, heq⟩ := cancelTeardown_eq s (.leave result)
    rw [heq]
    refine ⟨h.queries, ?_, fun _ pc hpc => by cases hpc⟩
    intro f hf hlast
    rcases List.mem_append.mp hf with hold | hnew
    · exact h.finished f hold hlast
    · rw [List.mem_singleton.mp hnew]
      trivial

theorem Isolated.turnStep (h : Isolated s) {pc : TurnPc} (hturn : s.turn = some pc)
    (houtcome : TurnOutcome s pc t) : Isolated t := by
  have hframe := houtcome.frame
  refine ⟨?_, ?_, ?_, ?_, ?_⟩
  · rw [hframe.stream, hframe.turnId]
    exact h.entered
  · intro f hf
    rw [hframe.turnId]
    exact (hframe.finished f hf).elim (h.finished f) fun heq => heq.le
  · intro q hq
    rw [hframe.turnId]
    exact (hframe.queries q hq).elim (h.queries q) fun heq => heq.le
  · rw [hframe.stream, hframe.turnId]
    exact fun r hr hinbox hentered => (h.flagged r hr hinbox hentered).frame hframe
  · rw [hframe.stream, hframe.turnId]
    intro r hr hinbox hentered
    have hrefused := h.refused r hr hinbox hentered
    by_cases hcurrent : r.entered + 1 = s.turnId
    · rw [hcurrent] at hrefused ⊢
      exact hrefused.turnStep hturn houtcome
    · refine ⟨?_, ?_, ?_⟩
      · intro q hq heq
        rcases hframe.queries q hq with hold | hnew
        · exact hrefused.queries q hold heq
        · exact hcurrent (heq.symm.trans hnew)
      · intro f hf heq
        rcases hframe.finished f hf with hold | hnew
        · exact hrefused.finished f hold heq
        · exact absurd (heq.symm.trans hnew) hcurrent
      · intro heq
        rw [hframe.turnId] at heq
        exact absurd heq.symm hcurrent

/-- A flagged session refuses the turn that enters next. -/
theorem refused_enter (h : Isolated s) (hturn : s.turn = none) (hflagged : Flagged s)
    (constructs : Bool) : Refused (s.enter constructs) (s.turnId + 1) := by
  let entered : SDKSession := { s with turnId := s.turnId + 1, inbox := Channel.empty }
  have hentered : Refused entered (s.turnId + 1) := by
    refine ⟨fun q hq heq => ?_, fun f hf heq => ?_, fun _ pc hpc => ?_⟩
    · exact absurd (h.queries q hq) (by omega)
    · exact absurd (h.finished f hf) (by omega)
    · rw [show entered.turn = none from hturn] at hpc
      cases hpc
  unfold enter
  simp only
  split_ifs with hclosed hnative houtput
  · refine ⟨hentered.queries, ?_, fun _ pc hpc => by cases hpc⟩
    intro f hf hlast
    rcases List.mem_append.mp hf with hold | hnew
    · exact hentered.finished f hold hlast
    · rw [List.mem_singleton.mp hnew]
      exact .inr rfl
  · exact Refused.tornDown
      (s := { entered with postTerminalNativeViolation := false, postTerminalOutput := false })
      ⟨hentered.queries, hentered.finished, hentered.running⟩ (.inl ⟨rfl, .inl rfl⟩)
      (interruptThenClose_tornDown _ _)
  · exact Refused.tornDown (s := { entered with postTerminalOutput := false })
      ⟨hentered.queries, hentered.finished, hentered.running⟩ (.inl ⟨rfl, .inr rfl⟩)
      (interruptThenClose_tornDown _ _)
  -- an unflagged session does not get here
  all_goals
    rcases hflagged with hflag | hflag | hflag
    · exact absurd hflag hclosed
    · exact absurd hflag hnative
    · exact absurd hflag houtput

theorem Isolated.enter (h : Isolated s) (hturn : s.turn = none) (constructs : Bool) :
    Isolated (s.enter constructs) := by
  have hrefused := refused_enter h hturn
  obtain ⟨u, hstream, hturnId, hfinished, hqueries, hframe⟩ := enter_frame s constructs
  have hf : ∀ f ∈ (s.enter constructs).finished, f ∈ s.finished ∨ f.turn = s.turnId + 1 := by
    rw [← hfinished, ← hturnId]
    exact hframe.finished
  have hq : ∀ q ∈ (s.enter constructs).queries, q ∈ s.queries ∨ q.turn = s.turnId + 1 := by
    rw [← hqueries, ← hturnId]
    exact hframe.queries
  refine ⟨?_, ?_, ?_, ?_, ?_⟩
  · rw [hframe.stream, hframe.turnId, hstream, hturnId]
    exact fun r hr => Nat.le_succ_of_le (h.entered r hr)
  · rw [hframe.turnId, hturnId]
    exact fun f hmem => (hf f hmem).elim (fun hold => Nat.le_succ_of_le (h.finished f hold))
      fun heq => heq.le
  · rw [hframe.turnId, hturnId]
    exact fun q hmem => (hq q hmem).elim (fun hold => Nat.le_succ_of_le (h.queries q hold))
      fun heq => heq.le
  · rw [hframe.stream, hframe.turnId, hstream, hturnId]
    intro r hr _ hentered
    exact absurd (h.entered r hr) (by omega)
  · rw [hframe.stream, hframe.turnId, hstream, hturnId]
    intro r hr hinbox hentered
    rcases Nat.lt_succ_iff_lt_or_eq.mp hentered with hearlier | hlast
    · have hold := h.refused r hr hinbox hearlier
      refine ⟨fun q hmem heq => ?_, fun f hmem heq => ?_, fun heq => ?_⟩
      · exact (hq q hmem).elim (fun hmem' => hold.queries q hmem' heq) fun hnew => by omega
      · exact (hf f hmem).elim (fun hmem' => hold.finished f hmem' heq) fun hnew => by omega
      · rw [hframe.turnId, hturnId] at heq
        omega
    · rw [hlast]
      exact hrefused (h.flagged r hr hinbox hlast) constructs

theorem Isolated.next (h : Isolated s) {label : Label} (hguard : ChecksIdle C s label)
    (hnext : s.next C label = some t) : Isolated t := by
  cases label with
  | runTurn prompt constructs =>
    simp only [SDKSession.next] at hnext
    split_ifs at hnext with _ hturn <;> cases hnext
    · exact h
    · exact h.enter (by simpa using hturn) constructs
  | turn resume =>
    simp only [SDKSession.next] at hnext
    split at hnext
    · cases hnext
    · rename_i pc hturn
      exact h.turnStep hturn (turnStep_outcome hturn hnext)
  | readerStart | receive | streamEnd | readerCancelled | cancel | close | closer | preCompact
  | compaction | hookCancelled | watchdog => exact h.ambient hnext trivial hguard

end Preservation

/-- Turns are isolated in a state: what was projected was projected once and in stream
order, by the turn that was delivered it and before its result; and what arrived while
no inbox was active was not projected and is answered with a refusal. -/
structure TurnsIsolated (s : SDKSession) : Prop where
  ascending : s.projected.Pairwise fun x y => x.position < y.position
  owned : ∀ x ∈ s.projected, ∃ r, s.stream[x.position]? = some r ∧ r.inbox = some x.turn ∧
    ∀ position r', s.stream[position]? = some r' → r'.inbox = some x.turn →
      r'.fate = .delivered → isResult r'.message = true → x.position ≤ position
  idle : ∀ position r, s.stream[position]? = some r → r.inbox = none →
    (∀ x ∈ s.projected, x.position ≠ position) ∧
    (∀ q ∈ s.queries, q.turn ≠ r.entered + 1) ∧
    ∀ f ∈ s.finished, f.turn = r.entered + 1 → f.ending.Refuses

/-- **Stream isolation.**  Turns are isolated in every run in which the check never
raises while no inbox is active. -/
theorem turns_isolated {C : SessionContext} {s : SDKSession}
    (hs : (sessionSystem C).ReachableUnder (ChecksIdle C) s) : TurnsIsolated s := by
  have hm : s.mailbox.Consistent := SDKSession.mailbox_consistent hs.reachable
  have hisolated : Isolated s := by
    refine System.ReachableUnder.invariant ?_ (fun _ h hguard hnext => h.next hguard hnext) hs
    constructor <;> simp [sessionSystem]
  have howned : ∀ x ∈ s.projected, ∃ r, s.stream[x.position]? = some r ∧
      r.inbox = some x.turn := by
    intro x hx
    obtain ⟨message, hmem⟩ := (hm.owned x hx).2.delivered
    obtain ⟨r, hget, hinbox, -⟩ := mem_deliveredTo.mp hmem
    exact ⟨r, hget, hinbox⟩
  refine ⟨hm.ascending, fun x hx => ?_, fun position r hget hinbox => ⟨?_, ?_, ?_⟩⟩
  · obtain ⟨r, hget, hinbox⟩ := howned x hx
    refine ⟨r, hget, hinbox, fun position r' hget' hinbox' hfate hresult => ?_⟩
    exact (hm.owned x hx).2.beforeResult (position, r'.message)
      (mem_deliveredTo.mpr ⟨r', hget', hinbox', hfate, rfl⟩) hresult
  · rintro x hx rfl
    obtain ⟨r', hget', hinbox'⟩ := howned x hx
    rw [hget, Option.some.injEq] at hget'
    rw [← hget', hinbox] at hinbox'
    cases hinbox'
  · intro q hq heq
    have hmem : r ∈ s.stream := List.mem_of_getElem? hget
    have hentered : r.entered < s.turnId := by
      have := hisolated.queries q hq
      omega
    exact (hisolated.refused r hmem hinbox hentered).queries q hq heq
  · intro f hf heq
    have hmem : r ∈ s.stream := List.mem_of_getElem? hget
    have hentered : r.entered < s.turnId := by
      have := hisolated.finished f hf
      omega
    exact (hisolated.refused r hmem hinbox hentered).finished f hf heq

/-- Whether a step keeps the idle check from raising is decided by computation. -/
def checksIdle (C : SessionContext) (s : SDKSession) : Label → Bool
  | .receive message => s.activeInbox.isSome ||
      (zeroNativeViolation message C.allowedTools s.streamToolIndexes).isSome
  | _ => true

theorem checksIdle_sound (C : SessionContext) (s : SDKSession) (label : Label)
    (h : checksIdle C s label = true) : ChecksIdle C s label := by
  rintro message rfl hinactive hraises
  simp [checksIdle, hinactive, hraises] at h

theorem turns_isolated_refusal : ∃ s, (sessionSystem plainContext).Reachable s ∧
    (s.turnId = 2 ∧ s.queries.length = 1 ∧ s.finished.length = 2) ∧ TurnsIsolated s := by
  obtain ⟨s, hs, hshape⟩ := System.exists_reachableUnder_of_runChecked
    (S := sessionSystem plainContext)
    (P := fun s => s.turnId = 2 ∧ s.queries.length = 1 ∧ s.finished.length = 2)
    (checksIdle_sound plainContext)
    (wholeTurn subscriptionMessages ++
      [.receive (overageMessage (.bool false)), .runTurn (.text (lit "again")) true,
        .turn .completed, .turn .completed, .turn .completed, .readerCancelled,
        .turn .completed]) (by decide)
  exact ⟨s, hs.reachable, hshape, turns_isolated hs⟩

/-- A partial stream event whose block type cannot be hashed. -/
def unhashableEvent : PyValue :=
  .object "StreamEvent" [("event", .dict [(.str (lit "type"), .str (lit "content_block_start")),
    (.str (lit "content_block"), .dict [(.str (lit "type"), .list [])])])]

/-- The check raises on a message between two turns, and the next turn issues a
query. -/
theorem unchecked_idle_message : ∃ s, (sessionSystem plainContext).Reachable s ∧
    ¬ TurnsIsolated s := by
  obtain ⟨s, hs, r, hr, hinbox, q, hq, hturn⟩ :
      ∃ s, (sessionSystem plainContext).Reachable s ∧ ∃ r ∈ s.stream, r.inbox = none ∧
        ∃ q ∈ s.queries, q.turn = r.entered + 1 :=
    System.exists_reachable_of_run
      (wholeTurn subscriptionMessages ++
        [.receive unhashableEvent, .runTurn (.text (lit "again")) true]) (by decide)
  refine ⟨s, hs, fun hisolated => ?_⟩
  obtain ⟨position, hget⟩ := List.getElem?_of_mem hr
  exact (hisolated.idle position r hget hinbox).2.1 q hq hturn

end HermesClaude.Session
