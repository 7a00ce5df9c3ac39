/-
# The reader of a live session

A query is worth issuing only while somebody reads the answer.  The reader is created
when the client connects and is cancelled only by `close`, so a session that is not
closed has a reader, but the reader may have come to its end: when the stream ends or
fails while no turn is active, nothing records it, and the next turn issues its query
all the same.

Along every run that enters no turn in such a state, each query finds a live reader.
-/

import HermesClaude.Session.Runs

namespace HermesClaude.Session

open HermesClaude.Python HermesClaude.Content HermesClaude.Library

/-- The session would let a turn issue a query although its reader has ended. -/
def Deaf (s : SDKSession) : Prop :=
  s.client = true ∧ s.reader = .finished ∧ s.closed = false ∧
    s.postTerminalNativeViolation = false ∧ s.postTerminalOutput = false ∧
    s.cancelRequested = false ∧ s.compaction.active = false

/-- The step does not enter a turn while the session is deaf. -/
def EntersAlive (s : SDKSession) (label : Label) : Prop :=
  ∀ prompt constructs, label = .runTurn prompt constructs → prompt.valid = true → ¬ Deaf s

/-- What holds of the client and the reader wherever the turn is. -/
structure ReaderBase (s : SDKSession) : Prop where
  closer : s.closer.isSome = true → s.closed = true
  cancelling : s.reader = .cancelling → s.closed = true
  reading : s.client = true → s.closed = false → s.reader ≠ .absent
  queries : ∀ q ∈ s.queries, q.reader.live = true

/-- The invariant: only a connecting turn has a client without a reader, and a turn
closes only a session marked closed. -/
structure Alive (s : SDKSession) : Prop where
  closer : s.closer.isSome = true → s.closed = true
  cancelling : s.reader = .cancelling → s.closed = true
  reading : s.client = true → s.closed = false → s.turn = some .connecting ∨ s.reader ≠ .absent
  locked : ∀ stage after, s.turn = some (.closing stage after) → s.closed = true
  queries : ∀ q ∈ s.queries, q.reader.live = true

section Preservation

variable {C : SessionContext} {s t u : SDKSession}

open SDKSession

theorem Alive.base (h : Alive s) (hturn : s.turn ≠ some .connecting) : ReaderBase s where
  closer := h.closer
  cancelling := h.cancelling
  reading := fun hclient hopen => (h.reading hclient hopen).resolve_left hturn
  queries := h.queries

theorem ReaderBase.alive (h : ReaderBase s)
    (locked : ∀ stage after, s.turn = some (.closing stage after) → s.closed = true) : Alive s where
  closer := h.closer
  cancelling := h.cancelling
  reading := fun hclient hopen => .inr (h.reading hclient hopen)
  locked := locked
  queries := h.queries

/-- A closed session has nothing left to go wrong. -/
theorem Alive.of_closed (hclosed : s.closed = true) (hqueries : ∀ q ∈ s.queries, q.reader.live = true) :
    Alive s where
  closer := fun _ => hclosed
  cancelling := fun _ => hclosed
  reading := fun _ hopen => by rw [hclosed] at hopen; cases hopen
  locked := fun _ _ _ => hclosed
  queries := hqueries

theorem TornDown.queries {after : After} (h : TornDown s after t) : t.queries = s.queries := by
  cases h with
  | suspended hclosing => rw [hclosing.rest]
  | @resumed u hclosing =>
    have hsame : (u.resumeAfter after).queries = u.queries := by
      cases after with
      | startFailed cancelled => cases cancelled <;> rfl
      | leave | finish | handled | reraise => rfl
    rw [hsame, hclosing.rest]

theorem atStage_closed {stage : Option CloseStage} {after : After} (h : s.closed = true) :
    (s.atStage stage after).closed = true :=
  (atStage_tornDown (.refl s)).frame.closed h

/-- Beginning to close marks the session closed, or finds it so. -/
theorem enterClose_alive (hcloser : s.closer.isSome = true → s.closed = true)
    (hlocked : ∀ stage after, s.turn = some (.closing stage after) → s.closed = true)
    (hqueries : ∀ q ∈ s.queries, q.reader.live = true) (after : After) :
    Alive (s.enterClose after) := by
  have hsame := TornDown.queries (enterClose_tornDown s after)
  refine .of_closed ?_ (hsame ▸ hqueries)
  unfold enterClose
  split
  · rename_i hadvance
    exact atStage_closed (closeAdvance_closed hadvance fun hstage => absurd rfl hstage)
  · rename_i hwaits
    refine atStage_closed ?_
    have hheld : s.closeLockHeld = true := by
      simp only [closeAdvance] at hwaits
      split_ifs at hwaits with hheld
      exact hheld
    unfold closeLockHeld at hheld
    rcases Bool.or_eq_true_iff.mp hheld with hother | hown
    · exact hcloser hother
    · split at hown
      · rename_i hturn
        exact hlocked _ _ hturn
      · cases hown

theorem interruptThenClose_alive (h : ReaderBase s)
    (hlocked : ∀ stage after, s.turn = some (.closing stage after) → s.closed = true)
    (after : After) : Alive (s.interruptThenClose after) := by
  unfold interruptThenClose
  split_ifs
  · exact ReaderBase.alive { h with } fun _ _ hturn => by cases hturn
  · exact enterClose_alive h.closer hlocked h.queries after

theorem Tears.alive (h : ReaderBase s)
    (hlocked : ∀ stage after, s.turn = some (.closing stage after) → s.closed = true)
    {after : After} (htears : Tears s after t) : Alive t := by
  cases htears with
  | interrupts => exact interruptThenClose_alive h hlocked after
  | closes => exact enterClose_alive h.closer hlocked h.queries after

theorem ReaderBase.advancing (h : ReaderBase s) (ha : Advancing s t) : ReaderBase t := by
  rw [ha]
  exact { h with }

theorem LoopOutcome.alive (h : ReaderBase s) {pc : TurnPc} (hturn : s.turn = some pc)
    (inner : InLoop pc) (houtcome : LoopOutcome s t) : Alive t := by
  cases houtcome with
  | @moved u pc' hadvancing hinner =>
    have hu := h.advancing hadvancing
    refine ReaderBase.alive { hu with } ?_
    rintro stage after hpc
    cases hpc
    cases hinner
  | @torn u _ after hadvancing _ htears =>
    refine Tears.alive (h.advancing hadvancing) ?_ htears
    rw [hadvancing]
    intro stage after hpc
    have hpc' : s.turn = some (.closing stage after) := hpc
    rw [hturn, Option.some.injEq] at hpc'
    subst hpc'
    cases inner
  | @retired u ending hadvancing =>
    have hu := h.advancing hadvancing
    exact ReaderBase.alive { hu with } fun _ _ hpc => by cases hpc

/-- Publishing an inbox issues a query, and only to a live reader. -/
theorem publish_alive (h : ReaderBase s)
    (hlocked : ∀ stage after, s.turn = some (.closing stage after) → s.closed = true)
    (hlive : s.cancelRequested = false → s.compaction.active = false → s.client = true →
      s.reader.live = true) : Alive s.publish := by
  unfold publish
  split_ifs with hcancel
  · exact ReaderBase.alive { h with } fun _ _ hpc => by cases hpc
  · simp only
    split_ifs with hactive hclient
    · exact ReaderBase.alive { h with } fun _ _ hpc => by cases hpc
    · refine ReaderBase.alive { h with queries := ?_ } fun _ _ hpc => by cases hpc
      intro q hq
      rcases List.mem_append.mp hq with hold | hnew
      · exact h.queries q hold
      · rw [List.mem_singleton.mp hnew]
        exact hlive (by simpa using hcancel) (by simpa using hactive) hclient
    · exact interruptThenClose_alive (s := { s with
        activeInbox := some s.turnId
        turnTerminalSeen := false
        streamToolIndexes := []
        compaction := s.compaction.bind s.turnId }) { h with } hlocked _

theorem TurnOutcome.alive (h : Alive s) {pc : TurnPc} (hturn : s.turn = some pc)
    (houtcome : TurnOutcome s pc t) : Alive t := by
  cases houtcome with
  | connected =>
    refine publish_alive (s := { s with reader := .created, readerTask := true }) ?_ h.locked
      fun _ _ _ => rfl
    exact ⟨h.closer, fun hreader => (by cases hreader),
      fun _ _ hreader => (by cases hreader), h.queries⟩
  | connectFailed => exact enterClose_alive h.closer h.locked h.queries _
  | loop inner houtcome =>
    have hbase : ReaderBase s := h.base (by rw [hturn]; cases inner <;> simp)
    exact LoopOutcome.alive hbase hturn inner houtcome
  | interrupted => exact enterClose_alive h.closer h.locked h.queries _
  | @closing stage after next hadvance =>
    have hclosed := closeAdvance_closed hadvance fun _ => h.locked stage after hturn
    refine .of_closed (atStage_closed hclosed) ?_
    rw [TornDown.queries (atStage_tornDown (closeAdvance_closing hadvance))]
    exact h.queries
  | @teardownCancelled _ after htearing =>
    have hbase : ReaderBase s := h.base (by rw [hturn]; cases htearing <;> simp)
    obtain ⟨c, heq⟩ := cancelTeardown_eq s after
    rw [heq]
    cases after with
    | leave | startFailed | finish | handled =>
      exact ReaderBase.alive { hbase with } fun _ _ hpc => by cases hpc
    | reraise => exact ReaderBase.alive { hbase with } h.locked
  | retiring => exact { h with }
  | left | retireCancelled =>
    have hbase : ReaderBase s := h.base (by rw [hturn]; simp)
    exact ReaderBase.alive { hbase with } fun _ _ hpc => by cases hpc

theorem Alive.enter (h : Alive s) (hturn : s.turn = none) (hdeaf : ¬ Deaf s)
    (constructs : Bool) : Alive (s.enter constructs) := by
  have hbase : ReaderBase s := h.base (by rw [hturn]; simp)
  have hlocked : ∀ stage after, s.turn = some (.closing stage after) → s.closed = true := h.locked
  unfold SDKSession.enter
  simp only
  split_ifs with hclosed hnative houtput hclient
  · exact ReaderBase.alive { hbase with } fun _ _ hpc => by cases hpc
  · exact interruptThenClose_alive (s := { s with
      turnId := s.turnId + 1, inbox := Channel.empty
      postTerminalNativeViolation := false, postTerminalOutput := false }) { hbase with } hlocked _
  · exact interruptThenClose_alive (s := { s with
      turnId := s.turnId + 1, inbox := Channel.empty, postTerminalOutput := false })
      { hbase with } hlocked _
  · have hopen : s.closed = false := by simpa using hclosed
    refine publish_alive (s := { s with turnId := s.turnId + 1, inbox := Channel.empty })
      { hbase with } hlocked fun hcancel hcompaction _ => ?_
    -- the guard leaves a reader that was created and neither cancelled nor finished
    cases hreader : s.reader with
    | created | running => rfl
    | absent => exact absurd hreader (hbase.reading hclient hopen)
    | cancelling =>
      rw [h.cancelling hreader] at hopen
      cases hopen
    | finished =>
      exact absurd ⟨hclient, hreader, hopen, by simpa using hnative, by simpa using houtput,
        hcancel, hcompaction⟩ hdeaf
  · exact ReaderBase.alive { hbase with } fun _ _ hpc => by cases hpc
  · exact {
      closer := h.closer
      cancelling := h.cancelling
      reading := fun _ _ => .inl rfl
      locked := fun _ _ hpc => by cases hpc
      queries := h.queries }

/-- Nothing but the reader's own state matters for a step of another task. -/
theorem Alive.other (h : Alive s) (hturn : t.turn = s.turn) (hclient : t.client = s.client)
    (hclosed : t.closed = s.closed) (hcloser : t.closer = s.closer)
    (hqueries : t.queries = s.queries) (hcancelling : t.reader ≠ .cancelling)
    (hreader : s.reader ≠ .absent → t.reader ≠ .absent) : Alive t where
  closer := by rw [hcloser, hclosed]; exact h.closer
  cancelling := fun heq => absurd heq hcancelling
  reading := by
    rw [hclient, hclosed, hturn]
    exact fun hc ho => (h.reading hc ho).imp_right hreader
  locked := by rw [hturn, hclosed]; exact h.locked
  queries := by rw [hqueries]; exact h.queries

theorem receive_reader (message : PyValue) :
    (s.receive C message).client = s.client ∧ (s.receive C message).closed = s.closed ∧
    (s.receive C message).closer = s.closer ∧
    ((s.receive C message).reader = s.reader ∨ (s.receive C message).reader = .finished) := by
  unfold receive
  split
  · exact ⟨rfl, rfl, rfl, .inr rfl⟩
  · unfold rejectNative
    simp only
    split_ifs <;> exact ⟨rfl, rfl, rfl, .inl rfl⟩
  · unfold deliver
    split_ifs <;> exact ⟨rfl, rfl, rfl, .inl rfl⟩

theorem Alive.next (h : Alive s) {label : Label} (hguard : EntersAlive s label)
    (hnext : s.next C label = some t) : Alive t := by
  cases label with
  | runTurn prompt constructs =>
    simp only [SDKSession.next] at hnext
    split_ifs at hnext with hinvalid hturn <;> cases hnext
    · exact h
    · exact h.enter (by simpa using hturn) (hguard _ _ rfl (by simpa using hinvalid)) constructs
  | turn resume =>
    simp only [SDKSession.next] at hnext
    split at hnext
    · cases hnext
    · rename_i pc hturn
      exact TurnOutcome.alive h hturn (turnStep_outcome hturn hnext)
  | readerStart =>
    simp only [SDKSession.next] at hnext
    split_ifs at hnext <;> cases hnext
    · exact h.other rfl rfl rfl rfl rfl (by simp) (by simp)
    · exact h.other rfl rfl rfl rfl rfl (by simp [endReader, put]) (by simp [endReader, put])
  | receive message =>
    have ha := next_ambient hnext trivial
    simp only [SDKSession.next] at hnext
    split_ifs at hnext with hrunning
    cases hnext
    obtain ⟨hclient, hclosed, hcloser, hreader⟩ := receive_reader (s := s) (C := C) message
    refine h.other ha.turn hclient hclosed hcloser ha.queries ?_ fun _ => ?_ <;>
      rcases hreader with heq | heq <;> simp [heq, hrunning]
  | streamEnd failed =>
    simp only [SDKSession.next] at hnext
    split_ifs at hnext
    cases hnext
    exact h.other rfl rfl rfl rfl rfl (by simp [endReader, put]) (by simp [endReader, put])
  | readerCancelled =>
    simp only [SDKSession.next] at hnext
    split_ifs at hnext
    cases hnext
    exact h.other rfl rfl rfl rfl rfl (by simp [endReader, put]) (by simp [endReader, put])
  | cancel =>
    simp only [SDKSession.next] at hnext
    split_ifs at hnext <;> cases hnext <;> exact { h with }
  | close =>
    simp only [SDKSession.next] at hnext
    split_ifs at hnext <;> cases hnext
    · exact h
    · exact .of_closed rfl h.queries
  | closer resume =>
    cases resume with
    | completed =>
      simp only [SDKSession.next] at hnext
      split at hnext
      · cases hnext
      · rename_i stage hstage
        simp only [Option.map_eq_some_iff] at hnext
        obtain ⟨next, hadvance, rfl⟩ := hnext
        have hclosing := closeAdvance_closing hadvance
        have hclosed := closeAdvance_closed hadvance fun _ => h.closer (by rw [hstage]; rfl)
        refine .of_closed hclosed ?_
        have hqueries : next.1.queries = s.queries := by rw [hclosing.rest]
        rw [show ({ next.1 with closer := next.2 } : SDKSession).queries = s.queries from hqueries]
        exact h.queries
    | cancelled =>
      simp only [SDKSession.next] at hnext
      split_ifs at hnext <;> cases hnext <;>
        exact { h with closer := fun hcloser => (by cases hcloser) }
    | item | raised | timedOut => cases hnext
  | preCompact trigger =>
    simp only [SDKSession.next] at hnext
    split_ifs at hnext
    cases hnext
    exact { h with }
  | compaction =>
    simp only [SDKSession.next, resumeCompaction] at hnext
    split at hnext <;> cases hnext <;> exact { h with }
  | hookCancelled =>
    simp only [SDKSession.next] at hnext
    split at hnext <;> cases hnext
    exact { h with }
  | watchdog =>
    simp only [SDKSession.next] at hnext
    split_ifs at hnext
    cases hnext
    exact { h with }

end Preservation

/-- **A query is read.**  Along every run that enters no turn while the session is
deaf, the reader was live whenever a query was issued. -/
theorem queries_read {C : SessionContext} {s : SDKSession}
    (hs : (sessionSystem C).ReachableUnder EntersAlive s) :
    ∀ q ∈ s.queries, q.reader.live = true := by
  have halive : Alive s := by
    refine System.ReachableUnder.invariant ?_ (fun _ h hguard hnext => h.next hguard hnext) hs
    constructor <;> simp [sessionSystem]
  exact halive.queries

/-- Deafness and entering a turn are decided by computation. -/
def entersAlive (s : SDKSession) : Label → Bool
  | .runTurn prompt _ =>
    !prompt.valid || !(s.client && s.reader == .finished && !s.closed &&
      !s.postTerminalNativeViolation && !s.postTerminalOutput && !s.cancelRequested &&
      !s.compaction.active)
  | _ => true

theorem entersAlive_sound (s : SDKSession) (label : Label) (h : entersAlive s label = true) :
    EntersAlive s label := by
  rintro prompt constructs rfl hvalid ⟨hclient, hreader, hclosed, hnative, houtput, hcancel,
    hcompaction⟩
  simp [entersAlive, hvalid, hclient, hreader, hclosed, hnative, houtput, hcancel,
    hcompaction] at h

theorem queries_read_twice : ∃ s, (sessionSystem plainContext).Reachable s ∧
    s.queries.length = 2 ∧ ∀ q ∈ s.queries, q.reader.live = true := by
  obtain ⟨s, hs, hlength⟩ := System.exists_reachableUnder_of_runChecked
    (S := sessionSystem plainContext) (P := fun s => s.queries.length = 2) entersAlive_sound
    (wholeTurn subscriptionMessages ++ [.runTurn (.text (lit "again")) true]) (by decide)
  exact ⟨s, hs.reachable, hlength, queries_read hs⟩

/-- A turn completes, the stream ends, and the next turn queries a client nobody
reads. -/
theorem query_after_stream_end : ∃ s, (sessionSystem plainContext).Reachable s ∧
    ∃ q ∈ s.queries, q.reader.live = false :=
  System.exists_reachable_of_run
    (wholeTurn subscriptionMessages ++ [.streamEnd false, .runTurn (.text (lit "again")) true]) (by decide)

end HermesClaude.Session
