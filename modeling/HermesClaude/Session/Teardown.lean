/-
# Closing a session

`close` marks the session closed before it tears anything down, and whoever calls it
later returns at once.  So the call that sets the mark has to get to its end: it
disconnects the client and cancels the reader.  A cancellation that reaches it at the
end of the compaction or at the disconnect leaves the rest undone for good.  And a turn
that is still connecting creates a reader for a session that was closed meanwhile.

What a `close` call still owes is a property of the stage it is suspended at; whether
a disconnect came to its end is seen by an observer of the session.
-/

import HermesClaude.Session.Runs

namespace HermesClaude.Session

open HermesClaude.Python HermesClaude.Content HermesClaude.Library

/-- What has happened to the client of a session. -/
structure ClientHistory where
  /-- Whether a client was ever constructed. -/
  constructed : Bool := false
  /-- Whether a disconnect came to its own end, to an exception or to its timeout. -/
  disconnected : Bool := false

/-- Whether the step is the end of an awaited disconnect. -/
def endsDisconnect (s : SDKSession) : Label → Bool
  | .turn .completed =>
    match s.turn with
    | some (.closing .disconnecting _) => true
    | _ => false
  | .closer .completed => s.closer = some .disconnecting
  | _ => false

/-- What an observer of the client makes of a step. -/
def watchClient (s : SDKSession) (label : Label) (t : SDKSession) (h : ClientHistory) :
    ClientHistory where
  constructed := h.constructed || t.client
  disconnected := h.disconnected || endsDisconnect s label

/-- The session next to an observer of its client. -/
def observedSession (C : SessionContext) : System (SDKSession × ClientHistory) Label :=
  (sessionSystem C).observe {} watchClient

/-- The teardown is done: the client, if there ever was one, was disconnected, and no
reader runs that was not cancelled. -/
structure TornDownWhole (reader : Reader) (h : ClientHistory) : Prop where
  disconnected : h.constructed = true → h.disconnected = true
  stopped : reader.live = false

/-- Once the session is marked closed and no call is under way, the teardown is done. -/
def CloseComplete (p : SDKSession × ClientHistory) : Prop :=
  p.1.closed = true → p.1.turn = none → p.1.closer = none → TornDownWhole p.1.reader p.2

/-- The stages of `close` at which a cancellation does no harm. -/
def CloseStage.safe : CloseStage → Bool
  | .acquiring | .stoppingReader => true
  | .endingCompaction | .disconnecting => false

/-- A step that lets a teardown get to its end: no cancellation reaches a call that has
marked the session closed before it has cancelled the reader, and no connection
succeeds on a session that was closed meanwhile. -/
def letsClose (s : SDKSession) : Label → Bool
  | .turn .cancelled =>
    match s.turn with
    | some (.closing _ .reraise) => true
    | some (.closing stage _) => stage.safe
    | _ => true
  | .turn .completed =>
    match s.turn with
    | some .connecting => !s.closed
    | _ => true
  | .closer .cancelled => s.closer.all CloseStage.safe
  | _ => true

/-- `letsClose`, as a condition. -/
def LetsClose (s : SDKSession) (label : Label) : Prop := letsClose s label = true

/-! ## What a call still owes -/

/-- A reader that runs can be cancelled. -/
def Stoppable (reader : Reader) (readerTask : Bool) : Prop :=
  reader.live = true → readerTask = true

/-- What is left to do at a stage, and what is done. -/
def AtStage (client : Bool) (reader : Reader) (readerTask : Bool) (h : ClientHistory) :
    Option CloseStage → Prop
  | some .endingCompaction => (h.constructed = true → client = true) ∧ Stoppable reader readerTask
  | some .disconnecting => Stoppable reader readerTask
  | some .stoppingReader | none => TornDownWhole reader h
  | some .acquiring => False

/-- The stage at which a suspended turn holds the close lock. -/
def lockStage : Option TurnPc → Option CloseStage
  | some (.closing .acquiring _) => none
  | some (.closing stage _) => some stage
  | _ => none

/-- The invariant, with the stage at which the turn holds the close lock. -/
structure Owes (s : SDKSession) (h : ClientHistory) (stage : Option CloseStage) : Prop where
  built : s.client = true → h.constructed = true
  exclusive : s.closer.isSome = true → stage = none
  opened : s.closed = false → s.closer = none ∧ stage = none ∧
    (h.constructed = true → s.client = true) ∧ Stoppable s.reader s.readerTask
  closed : s.closed = true → AtStage s.client s.reader s.readerTask h (s.closer.or stage)

/-- The invariant of an observed session. -/
def Whole (p : SDKSession × ClientHistory) : Prop := Owes p.1 p.2 (lockStage p.1.turn)

/-- The history after a step. -/
def ClientHistory.after (h : ClientHistory) (disconnect : Bool) : ClientHistory :=
  { h with disconnected := h.disconnected || disconnect }

section Preservation

variable {C : SessionContext} {s t u : SDKSession} {h : ClientHistory}

open SDKSession

theorem cancelReader_live (reader : Reader) : (cancelReader reader).live = false := by
  cases reader <;> rfl

/-- Cancelling the reader finishes what a disconnect left. -/
theorem stopReader_whole (hstoppable : Stoppable s.reader s.readerTask)
    (hdisconnected : h.constructed = true → h.disconnected = true) :
    TornDownWhole (stopReader s).1.reader h ∧
      ((stopReader s).2 = some .stoppingReader ∨ (stopReader s).2 = none) := by
  unfold stopReader
  split_ifs with htask
  · exact ⟨⟨hdisconnected, cancelReader_live s.reader⟩, .inl rfl⟩
  · refine ⟨⟨hdisconnected, ?_⟩, .inr rfl⟩
    cases hlive : s.reader.live with
    | false => rfl
    | true => exact absurd (hstoppable hlive) htask

theorem TornDownWhole.after {reader : Reader} (hwhole : TornDownWhole reader h)
    (disconnect : Bool) : TornDownWhole reader (h.after disconnect) :=
  ⟨fun hconstructed => by simp [ClientHistory.after, hwhole.disconnected hconstructed],
    hwhole.stopped⟩

theorem AtStage.after {client readerTask : Bool} {reader : Reader} {stage : Option CloseStage}
    (hat : AtStage client reader readerTask h stage) (disconnect : Bool) :
    AtStage client reader readerTask (h.after disconnect) stage := by
  match stage, hat with
  | some .endingCompaction, hat => exact hat
  | some .disconnecting, hat => exact hat
  | some .stoppingReader, hat => exact TornDownWhole.after hat disconnect
  | none, hat => exact TornDownWhole.after hat disconnect

/-- What a session owes at a stage. -/
abbrev OwesAt (s : SDKSession) (h : ClientHistory) (stage : Option CloseStage) : Prop :=
  AtStage s.client s.reader s.readerTask h stage

theorem dropClient_at (hstage : OwesAt s h (some .endingCompaction)) :
    OwesAt (dropClient s).1 h (dropClient s).2 := by
  obtain ⟨hbuilt, hstoppable⟩ := hstage
  unfold dropClient
  simp only
  split_ifs with hclient
  · exact hstoppable
  · have hnone : h.constructed = true → h.disconnected = true :=
      fun hconstructed => absurd (hbuilt hconstructed) hclient
    obtain ⟨hwhole, hstage⟩ := stopReader_whole (s := s.put .cancelled) hstoppable hnone
    rcases hstage with heq | heq <;> rw [heq] <;> exact hwhole

/-- A call of `close` goes on and owes what its next stage owes. -/
theorem closeAdvance_at {stage : CloseStage} {next : SDKSession × Option CloseStage}
    (hat : OwesAt s h (some stage)) (hadvance : s.closeAdvance stage = some next) :
    OwesAt next.1 (h.after (stage = .disconnecting)) next.2 := by
  cases stage with
  | acquiring => exact hat.elim
  | endingCompaction =>
    refine AtStage.after ?_ _
    have hcompaction : ∀ c : Lifecycle,
        OwesAt { s with compaction := c } h (some .endingCompaction) := fun _ => hat
    simp only [closeAdvance] at hadvance
    split_ifs at hadvance <;> cases hadvance
    · exact hcompaction _
    · exact dropClient_at (hcompaction _)
    · exact hcompaction _
    · exact dropClient_at (hcompaction _)
  | disconnecting =>
    cases hadvance
    obtain ⟨hwhole, hstage⟩ := stopReader_whole (h := h.after true) hat
      fun _ => by simp [ClientHistory.after]
    rcases hstage with heq | heq <;> rw [heq] <;> exact hwhole
  | stoppingReader =>
    cases hadvance
    exact TornDownWhole.after hat _

/-- The stages a call of `close` goes on to. -/
theorem closeAdvance_stage {stage : CloseStage} {next : SDKSession × Option CloseStage}
    (hadvance : s.closeAdvance stage = some next) : next.2 ≠ some .acquiring := by
  have hstop : ∀ u : SDKSession, (stopReader u).2 ≠ some .acquiring := by
    intro u
    unfold stopReader
    split_ifs <;> simp
  have hdrop : ∀ u : SDKSession, (dropClient u).2 ≠ some .acquiring := by
    intro u
    unfold dropClient
    simp only
    split_ifs
    · simp
    · exact hstop _
  cases stage <;> simp only [closeAdvance] at hadvance
  · split_ifs at hadvance <;> cases hadvance <;> simp
  · split_ifs at hadvance <;> cases hadvance
    · simp
    · exact hdrop _
    · simp
    · exact hdrop _
  · cases hadvance
    exact hstop _
  · cases hadvance
    simp

/-! ## Steps -/

/-- A session that differs in nothing the teardown looks at owes the same. -/
theorem Owes.same {stage : Option CloseStage} (ho : Owes s h stage) (hclosed : t.closed = s.closed)
    (hclient : t.client = s.client) (hcloser : t.closer = s.closer)
    (htask : t.readerTask = s.readerTask) (hlive : t.reader.live = true → s.reader.live = true) :
    Owes t h stage := by
  have hstoppable : Stoppable s.reader s.readerTask → Stoppable t.reader t.readerTask :=
    fun hs hrunning => htask ▸ hs (hlive hrunning)
  have hwhole : TornDownWhole s.reader h → TornDownWhole t.reader h := fun hs =>
    ⟨hs.disconnected, by
      cases hrunning : t.reader.live with
      | false => rfl
      | true => exact absurd (hlive hrunning) (by simp [hs.stopped])⟩
  refine ⟨hclient ▸ ho.built, hcloser ▸ ho.exclusive, fun hopen => ?_, fun hmarked => ?_⟩
  · obtain ⟨hfree, hstage, hbuilt, hs⟩ := ho.opened (hclosed ▸ hopen)
    exact ⟨hcloser.trans hfree, hstage, hclient ▸ hbuilt, hstoppable hs⟩
  · have hat := ho.closed (hclosed ▸ hmarked)
    rw [hcloser]
    match s.closer.or stage, hat with
    | some .endingCompaction, hat => exact ⟨hclient ▸ hat.1, hstoppable hat.2⟩
    | some .disconnecting, hat => exact hstoppable hat
    | some .stoppingReader, hat => exact hwhole hat
    | none, hat => exact hwhole hat

/-- A step that constructs no client is seen for the disconnect it may end. -/
theorem watchClient_eq (hbuilt : t.client = true → h.constructed = true) (label : Label) :
    watchClient s label t h = h.after (endsDisconnect s label) := by
  cases hclient : t.client with
  | false => simp [watchClient, ClientHistory.after, hclient]
  | true => simp [watchClient, ClientHistory.after, hclient, hbuilt hclient]

/-- What the observer adds does not change what is owed. -/
theorem Owes.watch {stage : Option CloseStage} (ho : Owes t h stage) (label : Label) :
    Owes t (watchClient s label t h) stage := by
  rw [watchClient_eq ho.built]
  exact ⟨ho.built, ho.exclusive, ho.opened, fun hclosed => (ho.closed hclosed).after _⟩

/-- A turn that does not hold the close lock is suspended, or is over. -/
theorem Owes.resumeAfter (ho : Owes s h none) (after : After) :
    Whole (s.resumeAfter after, h) := by
  cases after with
  | startFailed cancelled => cases cancelled <;> exact { ho with }
  | leave | finish | handled | reraise => exact { ho with }

theorem Owes.atStage {stage : Option CloseStage} (ho : Owes s h stage)
    (hstage : stage ≠ some .acquiring) (after : After) : Whole (s.atStage stage after, h) := by
  cases stage with
  | none => exact ho.resumeAfter after
  | some stage =>
    cases stage with
    | acquiring => exact absurd rfl hstage
    | endingCompaction | disconnecting | stoppingReader => exact { ho with }

/-- A call of `close` takes the lock, finds the session closed, or waits. -/
theorem Owes.acquire (ho : Owes s h none) {next : SDKSession × Option CloseStage}
    (hadvance : s.closeAdvance .acquiring = some next) : Owes next.1 h next.2 := by
  simp only [closeAdvance] at hadvance
  split_ifs at hadvance with hheld hclosed <;> cases hadvance
  · exact ho
  · obtain ⟨hfree, -, hbuilt, hstoppable⟩ := ho.opened (by simpa using hclosed)
    refine ⟨ho.built, fun hcloser => ?_, fun hopen => (by cases hopen), fun _ => ?_⟩
    · rw [show s.closer = none from hfree] at hcloser
      cases hcloser
    · rw [show ({ s with closed := true } : SDKSession).closer = none from hfree]
      exact ⟨hbuilt, hstoppable⟩

theorem Owes.enterClose (ho : Owes s h none) (after : After) : Whole (s.enterClose after, h) := by
  unfold SDKSession.enterClose
  split
  next hadvance => exact (ho.acquire hadvance).atStage (closeAdvance_stage hadvance) after
  next => exact { ho with }

theorem Owes.interruptThenClose (ho : Owes s h none) (after : After) :
    Whole (s.interruptThenClose after, h) := by
  unfold SDKSession.interruptThenClose
  split_ifs
  · exact { ho with }
  · exact ho.enterClose after

theorem Owes.loopOutcome (ho : Owes s h none) (houtcome : LoopOutcome s t) : Whole (t, h) := by
  have hadvanced : ∀ {u : SDKSession}, Advancing s u → Owes u h none := by
    intro u hadvancing
    rw [hadvancing]
    exact { ho with }
  cases houtcome with
  | moved hadvancing hinner =>
    have hu := hadvanced hadvancing
    cases hinner <;> exact { hu with }
  | torn hadvancing _ htears =>
    have hu := hadvanced hadvancing
    cases htears with
    | interrupts => exact hu.interruptThenClose _
    | closes => exact hu.enterClose _
  | retired hadvancing =>
    have hu := hadvanced hadvancing
    exact { hu with }

theorem Owes.publish (ho : Owes s h none) : Whole (s.publish, h) := by
  unfold SDKSession.publish
  split_ifs
  · exact { ho with }
  · simp only
    split_ifs
    · exact { ho with }
    · exact { ho with }
    · exact Owes.interruptThenClose (s := { s with
        activeInbox := some s.turnId
        turnTerminalSeen := false
        streamToolIndexes := []
        compaction := s.compaction.bind s.turnId }) { ho with } _

/-- A call that has cancelled the reader owes nothing any more. -/
theorem Owes.release (ho : Owes s h (some .stoppingReader)) : Owes s h none := by
  have hfree : s.closer = none := by
    cases hcloser : s.closer with
    | none => rfl
    | some stage => cases ho.exclusive (by rw [hcloser]; rfl)
  refine ⟨ho.built, fun _ => rfl, fun hopen => ?_, fun hclosed => ?_⟩
  · cases (ho.opened hopen).2.1
  · have hat := ho.closed hclosed
    rw [hfree] at hat ⊢
    exact hat

/-- A turn that holds the close lock goes on with its `close`. -/
theorem Owes.advance {stage : CloseStage} (ho : Owes s h (some stage))
    {next : SDKSession × Option CloseStage} (hadvance : s.closeAdvance stage = some next) :
    Owes next.1 (h.after (stage = .disconnecting)) next.2 := by
  have hclosing := closeAdvance_closing hadvance
  have hfree : next.1.closer = none := by
    rw [hclosing.rest]
    cases hcloser : s.closer with
    | none => rfl
    | some stage => cases ho.exclusive (by rw [hcloser]; rfl)
  have hmarked : s.closed = true := by
    cases hopen : s.closed with
    | true => rfl
    | false => cases (ho.opened hopen).2.1
  have hsame : s.closer = next.1.closer := by rw [hclosing.rest]
  refine ⟨fun hclient => ho.built (hclosing.client hclient), fun hcloser => ?_, fun hopen => ?_,
    fun _ => ?_⟩
  · rw [hfree] at hcloser
    cases hcloser
  · rw [hclosing.closed hmarked] at hopen
    cases hopen
  · have hat := ho.closed hmarked
    rw [hsame, hfree] at hat
    rw [hfree]
    exact closeAdvance_at hat hadvance

/-- A turn inside `close` goes on with it, or is cancelled where it does no harm. -/
theorem Whole.closing (ho : Whole (s, h)) {stage : CloseStage} {after : After}
    (hturn : s.turn = some (.closing stage after)) {resume : Resume}
    (hguard : LetsClose s (.turn resume))
    (hstep : s.turnStep C (.closing stage after) resume = some t) :
    Whole (t, watchClient s (.turn resume) t h) := by
  have howes : Owes s h (lockStage (some (.closing stage after))) := hturn ▸ ho
  cases resume with
  | completed =>
    simp only [turnStep, Option.map_eq_some_iff] at hstep
    obtain ⟨next, hadvance, rfl⟩ := hstep
    have hnext : Owes next.1 (h.after (stage = .disconnecting)) next.2 := by
      cases stage with
      | acquiring =>
        have hacquired := Owes.acquire howes hadvance
        exact ⟨hacquired.built, hacquired.exclusive, hacquired.opened,
          fun hclosed => (hacquired.closed hclosed).after _⟩
      | endingCompaction | disconnecting | stoppingReader => exact Owes.advance howes hadvance
    have hstaged := hnext.atStage (closeAdvance_stage hadvance) after
    rw [watchClient_eq (t := next.1.atStage next.2 after) (h := h) hstaged.built]
    have hends : endsDisconnect s (.turn .completed) = decide (stage = .disconnecting) := by
      rw [endsDisconnect, hturn]
      cases stage <;> rfl
    rw [hends]
    exact hstaged
  | cancelled =>
    cases hstep
    by_cases hreraise : after = .reraise
    · subst hreraise
      exact Owes.watch ho _
    · have hsafe : stage.safe = true := by
        cases after with
        | reraise => exact absurd rfl hreraise
        | leave | startFailed | finish | handled => simpa [LetsClose, letsClose, hturn] using hguard
      have hfree : Owes s h none := by
        cases stage with
        | acquiring => exact howes
        | stoppingReader => exact Owes.release howes
        | endingCompaction | disconnecting => cases hsafe
      refine Owes.watch ?_ _
      obtain ⟨c, heq⟩ := cancelTeardown_eq s after
      rw [heq]
      cases after with
      | reraise => exact absurd rfl hreraise
      | leave | startFailed | finish | handled => exact { hfree with }
  | item | raised | timedOut => cases hstep

/-- A connecting turn creates a reader for an open session, or closes. -/
theorem Whole.connecting (ho : Whole (s, h)) (hturn : s.turn = some .connecting)
    {resume : Resume} (hguard : LetsClose s (.turn resume))
    (hstep : s.turnStep C .connecting resume = some t) :
    Whole (t, watchClient s (.turn resume) t h) := by
  have hfree : Owes s h none := by
    have howes : Owes s h (lockStage (some .connecting)) := hturn ▸ ho
    exact howes
  refine Owes.watch ?_ _
  cases resume <;> cases hstep
  · have hopen : s.closed = false := by simpa [LetsClose, letsClose, hturn] using hguard
    obtain ⟨hcloser, -, hbuilt, -⟩ := hfree.opened hopen
    refine Owes.publish (s := { s with reader := .created, readerTask := true })
      ⟨hfree.built, hfree.exclusive, fun _ => ⟨hcloser, rfl, hbuilt, fun _ => rfl⟩, fun hclosed => ?_⟩
    rw [hopen] at hclosed
    cases hclosed
  · exact hfree.enterClose _
  · exact hfree.enterClose _
  · exact hfree.enterClose _

theorem Whole.turnStep (ho : Whole (s, h)) {pc : TurnPc} (hturn : s.turn = some pc)
    {resume : Resume} (hguard : LetsClose s (.turn resume))
    (hstep : s.turnStep C pc resume = some t) :
    Whole (t, watchClient s (.turn resume) t h) := by
  have howes : Owes s h (lockStage (some pc)) := hturn ▸ ho
  by_cases hconnecting : pc = .connecting
  · subst hconnecting
    exact ho.connecting hturn hguard hstep
  by_cases hclosing : ∃ stage after, pc = .closing stage after
  · obtain ⟨stage, after, rfl⟩ := hclosing
    exact ho.closing hturn hguard hstep
  have hfree : Owes s h none := by
    cases pc with
    | closing stage after => exact absurd ⟨stage, after, rfl⟩ hclosing
    | _ => exact howes
  refine Owes.watch ?_ _
  cases turnStep_outcome hturn hstep with
  | connected | connectFailed => exact absurd rfl hconnecting
  | interrupted => exact hfree.enterClose _
  | loop _ hloop => exact hfree.loopOutcome hloop
  | @closing stage after => exact absurd ⟨stage, after, rfl⟩ hclosing
  | @teardownCancelled _ after htearing =>
    obtain ⟨c, heq⟩ := cancelTeardown_eq s after
    rw [heq]
    cases after with
    | leave | startFailed | finish | handled => exact { hfree with }
    | reraise =>
      cases htearing with
      | closing stage => exact absurd ⟨stage, _, rfl⟩ hclosing
      | interrupting => exact { ho with }
  | retiring => exact { ho with }
  | left | retireCancelled => exact { hfree with }

/-- A turn enters a session that is not closed with what the session has. -/
theorem Whole.enter (ho : Whole (s, h)) (hturn : s.turn = none) (prompt : Prompt)
    (constructs : Bool) :
    Whole (s.enter constructs, watchClient s (.runTurn prompt constructs) (s.enter constructs) h) := by
  have hfree : Owes s h none := by
    have howes : Owes s h (lockStage none) := hturn ▸ ho
    exact howes
  unfold SDKSession.enter
  simp only
  split_ifs with hclosed
  · refine Owes.watch ?_ _
    exact { hfree with }
  · exact Owes.watch (Owes.interruptThenClose (s := { s with
      turnId := s.turnId + 1, inbox := Channel.empty
      postTerminalNativeViolation := false, postTerminalOutput := false }) { hfree with } _) _
  · exact Owes.watch (Owes.interruptThenClose (s := { s with
      turnId := s.turnId + 1, inbox := Channel.empty, postTerminalOutput := false })
      { hfree with } _) _
  · exact Owes.watch (Owes.publish (s := { s with
      turnId := s.turnId + 1, inbox := Channel.empty }) { hfree with }) _
  · refine Owes.watch ?_ _
    exact { hfree with }
  · -- the only step that constructs a client
    have hopen : s.closed = false := by simpa using hclosed
    obtain ⟨hcloser, -, -, hstoppable⟩ := hfree.opened hopen
    refine ⟨fun _ => by simp [watchClient], hfree.exclusive, fun _ => ⟨hcloser, rfl, fun _ => rfl,
      hstoppable⟩, fun hmarked => ?_⟩
    rw [show s.closed = true from hmarked] at hopen
    cases hopen

theorem receive_untouched (message : PyValue) :
    (s.receive C message).client = s.client ∧ (s.receive C message).closed = s.closed ∧
    (s.receive C message).closer = s.closer ∧
    (s.receive C message).readerTask = s.readerTask ∧
    ((s.receive C message).reader.live = true → s.reader.live = true) := by
  unfold receive
  split
  · exact ⟨rfl, rfl, rfl, rfl, by rintro ⟨⟩⟩
  · unfold rejectNative
    simp only
    split_ifs <;> exact ⟨rfl, rfl, rfl, rfl, id⟩
  · unfold deliver
    split_ifs <;> exact ⟨rfl, rfl, rfl, rfl, id⟩

/-- A `close` call of another task goes on, or is cancelled where it does no harm. -/
theorem Whole.closer (ho : Whole (s, h)) {resume : Resume} (hguard : LetsClose s (.closer resume))
    (hnext : s.next C (.closer resume) = some t) :
    Whole (t, watchClient s (.closer resume) t h) := by
  cases hcloser : s.closer with
  | none => cases resume <;> simp [SDKSession.next, hcloser] at hnext
  | some stage =>
    have hstage : lockStage s.turn = none := ho.exclusive (by rw [hcloser]; rfl)
    have hmarked : s.closed = true := by
      cases hopen : s.closed with
      | true => rfl
      | false =>
        have hfree : s.closer = none := (ho.opened hopen).1
        rw [hcloser] at hfree
        cases hfree
    have hat : OwesAt s h (some stage) := by
      have hclosed := ho.closed hmarked
      rw [show s.closer = some stage from hcloser] at hclosed
      exact hclosed
    cases resume with
    | completed =>
      simp only [SDKSession.next, hcloser, Option.map_eq_some_iff] at hnext
      obtain ⟨next, hadvance, rfl⟩ := hnext
      have hclosing := closeAdvance_closing hadvance
      have hends : endsDisconnect s (.closer .completed) = decide (stage = .disconnecting) := by
        simp [endsDisconnect, hcloser]
      have hbuilt : next.1.client = true → h.constructed = true :=
        fun hclient => ho.built (hclosing.client hclient)
      rw [watchClient_eq (t := { next.1 with closer := next.2 }) (h := h) hbuilt, hends]
      refine ⟨hbuilt, fun _ => ?_, fun hopen => ?_, fun _ => ?_⟩
      · rw [show lockStage next.1.turn = lockStage s.turn by rw [hclosing.turn]]
        exact hstage
      · rw [show next.1.closed = true from hclosing.closed hmarked] at hopen
        cases hopen
      · rw [show lockStage next.1.turn = none by rw [hclosing.turn]; exact hstage, Option.or_none]
        exact closeAdvance_at hat hadvance
    | cancelled =>
      have hsafe : stage.safe = true := by simpa [LetsClose, letsClose, hcloser] using hguard
      have hdone : ∀ c : Lifecycle,
          Whole ({ s with closer := none, compaction := c }, h) := by
        intro c
        refine ⟨ho.built, by rintro ⟨⟩, fun hopen => ?_, fun _ => ?_⟩
        · rw [show s.closed = false from hopen] at hmarked
          cases hmarked
        · rw [show lockStage ({ s with closer := none, compaction := c } : SDKSession).turn = none
            from hstage]
          cases stage with
          | acquiring => exact hat.elim
          | stoppingReader => exact hat
          | endingCompaction | disconnecting => cases hsafe
      simp only [SDKSession.next, hcloser, Option.isNone_some, Bool.false_eq_true, if_false] at hnext
      refine Owes.watch ?_ _
      split_ifs at hnext <;> cases hnext <;> exact hdone _
    | item | raised | timedOut => cases hnext

theorem Whole.next (ho : Whole (s, h)) {label : Label} (hguard : LetsClose s label)
    (hnext : s.next C label = some t) : Whole (t, watchClient s label t h) := by
  cases label with
  | runTurn prompt constructs =>
    simp only [SDKSession.next] at hnext
    split_ifs at hnext with hinvalid hturn <;> cases hnext
    · exact Owes.watch ho _
    · exact ho.enter (by simpa using hturn) prompt constructs
  | turn resume =>
    simp only [SDKSession.next] at hnext
    split at hnext
    · cases hnext
    · rename_i pc hturn
      exact ho.turnStep hturn hguard hnext
  | readerStart =>
    simp only [SDKSession.next] at hnext
    split_ifs at hnext with hcreated <;> cases hnext
    all_goals
      have hlive : s.reader.live = true := by
        rw [not_not.mp hcreated]
        rfl
      refine Owes.watch ?_ _
      exact Owes.same ho rfl rfl rfl rfl fun _ => hlive
  | receive message =>
    simp only [SDKSession.next] at hnext
    split_ifs at hnext
    cases hnext
    obtain ⟨hclient, hclosed, hcloser, htask, hlive⟩ := receive_untouched (s := s) (C := C) message
    have hturn : (s.receive C message).turn = s.turn := ambient_receive.turn
    refine Owes.watch ?_ _
    rw [hturn]
    exact Owes.same ho hclosed hclient hcloser htask hlive
  | streamEnd | readerCancelled =>
    simp only [SDKSession.next] at hnext
    split_ifs at hnext
    cases hnext
    refine Owes.watch ?_ _
    exact Owes.same ho rfl rfl rfl rfl (by rintro ⟨⟩)
  | cancel =>
    simp only [SDKSession.next] at hnext
    split_ifs at hnext <;> cases hnext
    · exact Owes.watch ho _
    · refine Owes.watch ?_ _
      exact { ho with }
  | close =>
    simp only [SDKSession.next] at hnext
    split_ifs at hnext with hheld hclosed <;> cases hnext
    · exact Owes.watch ho _
    · obtain ⟨-, hstage, hbuilt, hstoppable⟩ := ho.opened (by simpa using hclosed)
      refine Owes.watch ?_ _
      exact ⟨ho.built, fun _ => hstage, fun hopen => (by cases hopen), fun _ => ⟨hbuilt, hstoppable⟩⟩
  | closer resume => exact ho.closer hguard hnext
  | preCompact trigger =>
    simp only [SDKSession.next] at hnext
    split_ifs at hnext
    cases hnext
    refine Owes.watch ?_ _
    exact { ho with }
  | compaction =>
    simp only [SDKSession.next, resumeCompaction] at hnext
    split at hnext <;> cases hnext
    all_goals
      refine Owes.watch ?_ _
      exact { ho with }
  | hookCancelled =>
    simp only [SDKSession.next] at hnext
    split at hnext <;> cases hnext
    refine Owes.watch ?_ _; exact { ho with }
  | watchdog =>
    simp only [SDKSession.next] at hnext
    split_ifs at hnext
    cases hnext
    refine Owes.watch ?_ _
    exact { ho with }

end Preservation

/-- **Close is complete.** Along every run that lets calls of `close` get to their end,
once the session is marked closed and no call is under way, the client was disconnected
to its own end, an exception or the timeout, and no reader runs that was not
cancelled. -/
theorem close_complete {C : SessionContext} {p : SDKSession × ClientHistory}
    (hp : (observedSession C).ReachableUnder (fun p => LetsClose p.1) p) : CloseComplete p := by
  have hwhole : Whole p := by
    refine System.ReachableUnder.invariant (S := observedSession C) ?_ ?_ hp
    · exact ⟨by rintro ⟨⟩, by rintro ⟨⟩, fun _ => ⟨rfl, rfl, by rintro ⟨⟩, by rintro ⟨⟩⟩, by rintro ⟨⟩⟩
    · rintro ⟨s, h⟩ ⟨t, h'⟩ label _ ho hguard hnext
      obtain ⟨hstep, hwatch⟩ := System.observe_next hnext
      have hwatched : h' = watchClient s label t h := hwatch
      rw [hwatched]
      exact ho.next hguard hstep
  intro hclosed hturn hcloser
  have hat := hwhole.closed hclosed
  rw [hcloser, hturn] at hat
  exact hat

theorem close_complete_idle : ∃ p, (observedSession plainContext).Reachable p ∧
    (p.1.closed = true ∧ p.2.constructed = true) ∧ CloseComplete p := by
  obtain ⟨p, hp, hshape⟩ := System.exists_reachableUnder_of_check
    (S := observedSession plainContext)
    (P := fun p => p.1.closed = true ∧ p.2.constructed = true) (fun p => letsClose p.1)
    (wholeTurn subscriptionMessages ++
      [.close, .closer .completed, .closer .completed, .readerCancelled, .closer .completed])
    (by decide)
  exact ⟨p, hp.reachable, hshape, close_complete hp⟩

/-- The call of `close` is cancelled while the client disconnects; the reader is left
running on a session that is closed for everybody else. -/
theorem close_cancelled : ∃ p, (observedSession plainContext).Reachable p ∧ ¬ CloseComplete p := by
  obtain ⟨p, hp, hclosed, hturn, hcloser, hlive⟩ :
      ∃ p, (observedSession plainContext).Reachable p ∧ p.1.closed = true ∧
        p.1.turn.isNone = true ∧ p.1.closer = none ∧ p.1.reader.live = true :=
    System.exists_reachable_of_run
      (wholeTurn subscriptionMessages ++ [.close, .closer .completed, .closer .cancelled])
      (by decide)
  refine ⟨p, hp, fun hcomplete => ?_⟩
  have hstopped := (hcomplete hclosed (Option.isNone_iff_eq_none.mp hturn) hcloser).stopped
  rw [hstopped] at hlive
  cases hlive

end HermesClaude.Session
