/-
# What a step of a session can do

Every failing turn, and every `close` call, runs through the same few functions.
This module says once what they can do to a session, so that an invariant of the
session need not look into them: closing touches the client, the reader, the
compaction lifecycle and the inbox, and a turn that tears its client down is
afterwards either suspended inside the teardown or goes on as planned.

The last part says it for a whole step: which fields a turn leaves alone, and that
a query is issued only where a turn publishes its inbox.
-/

import HermesClaude.Session.Step

namespace HermesClaude.Session

open HermesClaude.Python HermesClaude.Billing HermesClaude.Content HermesClaude.Library

namespace SDKSession

variable {s t u : SDKSession}

/-! ## Closing -/

/-- What any part of `close` can change. -/
structure Closing (s t : SDKSession) : Prop where
  rest : t = { s with
    client := t.client
    reader := t.reader
    readerTask := t.readerTask
    closed := t.closed
    compaction := t.compaction
    inbox := t.inbox }
  taken : t.inbox.taken = s.inbox.taken
  sent : ∀ item ∈ t.inbox.sent, item ∈ s.inbox.sent ∨ item.isViolation = false
  client : t.client = true → s.client = true
  closed : s.closed = true → t.closed = true
  reader : t.reader = s.reader ∨ t.reader = cancelReader s.reader

@[simp]
theorem put_taken (s : SDKSession) (item : Item) : (s.put item).inbox.taken = s.inbox.taken := by
  unfold put
  split_ifs <;> rfl

theorem put_sent (s : SDKSession) {item : Item} (noViolation : item.isViolation = false) :
    ∀ other ∈ (s.put item).inbox.sent, other ∈ s.inbox.sent ∨ other.isViolation = false := by
  intro other hother
  unfold put at hother
  split_ifs at hother
  · rw [Channel.sent_send, List.mem_append, List.mem_singleton] at hother
    exact hother.imp_right fun hnew => by rwa [hnew]
  · exact .inl hother

theorem Closing.refl (s : SDKSession) : Closing s s :=
  ⟨rfl, rfl, fun _ => .inl, id, id, .inl rfl⟩

theorem Closing.turn (h : Closing s t) : t.turn = s.turn := by
  rw [h.rest]

theorem stopReader_closing (s : SDKSession) : Closing s (stopReader s).1 := by
  unfold stopReader
  split_ifs
  · exact ⟨rfl, rfl, fun _ => .inl, id, id, .inr rfl⟩
  · exact .refl s

theorem dropClient_closing (s : SDKSession) : Closing s (dropClient s).1 := by
  unfold dropClient
  simp only
  split_ifs with hclient
  · exact ⟨rfl, put_taken s _, put_sent s rfl, fun h => (Bool.false_ne_true h).elim, id,
      .inl rfl⟩
  · obtain ⟨hrest, htaken, hsent, hcl, hclosed, hreader⟩ := stopReader_closing (s.put .cancelled)
    exact ⟨hrest, htaken.trans (put_taken s _), fun item hitem =>
      (hsent item hitem).elim (put_sent s rfl item) .inr, hcl, hclosed, hreader⟩

/-- A different compaction lifecycle is within what closing may change. -/
theorem Closing.ofCompaction {c : Lifecycle} (h : Closing { s with compaction := c } t) :
    Closing s t :=
  ⟨h.rest, h.taken, h.sent, h.client, h.closed, h.reader⟩

theorem closeAdvance_closing {stage : CloseStage} {next : SDKSession × Option CloseStage}
    (h : s.closeAdvance stage = some next) : Closing s next.1 := by
  cases stage with
  | acquiring =>
    simp only [closeAdvance] at h
    split_ifs at h <;> cases h
    · exact .refl s
    · exact ⟨rfl, rfl, fun _ => .inl, id, fun _ => rfl, .inl rfl⟩
  | endingCompaction =>
    simp only [closeAdvance] at h
    split_ifs at h <;> cases h
    · exact (Closing.refl _).ofCompaction
    · exact (dropClient_closing _).ofCompaction
    · exact (Closing.refl _).ofCompaction
    · exact (dropClient_closing _).ofCompaction
  | disconnecting =>
    cases h
    exact stopReader_closing s
  | stoppingReader =>
    cases h
    exact .refl s

/-- Past the lock, closing happens on a session that is marked closed. -/
theorem closeAdvance_closed {stage : CloseStage} {next : SDKSession × Option CloseStage}
    (h : s.closeAdvance stage = some next) (hclosed : stage ≠ .acquiring → s.closed = true) :
    next.1.closed = true := by
  cases stage with
  | acquiring =>
    simp only [closeAdvance] at h
    split_ifs at h with _ hwas <;> cases h
    · exact hwas
    · rfl
  | endingCompaction | disconnecting | stoppingReader =>
    exact (closeAdvance_closing h).closed (hclosed (by decide))

/-! ## Suspensions and teardown of a turn -/

/-- The suspensions of a turn between its query and its result. -/
inductive InLoop : TurnPc → Prop
  | querying : InLoop .querying
  | receiving (locals : Locals) : InLoop (.receiving locals)
  | boundary (locals : Locals) (position : Nat) (message : PyValue) (projection : Projection) :
      InLoop (.boundary locals position message projection)
  | blocking (locals : Locals) (decision : BillingDecision) : InLoop (.blocking locals decision)
  | projecting (locals : Locals) (finalText : Option PyStr) :
      InLoop (.projecting locals finalText)
  | resultBilling (locals : Locals) (position : Nat) (message : PyValue)
      (decision : BillingDecision) (projection : Projection) :
      InLoop (.resultBilling locals position message decision projection)
  | resultProjecting (locals : Locals) (message : PyValue) (decision : BillingDecision)
      (finalText : Option PyStr) : InLoop (.resultProjecting locals message decision finalText)
  | resultSettling (locals : Locals) (message : PyValue) (decision : BillingDecision) :
      InLoop (.resultSettling locals message decision)
  | cleanup : InLoop .cleanup

/-- What one step does to a turn in the loop. -/
inductive LoopMove (C : SessionContext) (s : SDKSession) : TurnPc → SDKSession → Prop
  | cancels {pc : TurnPc} : LoopMove C s pc s.cancelTurn
  | fails {pc : TurnPc} (locals : Locals) : LoopMove C s pc (s.failTurn locals)
  | expires {pc : TurnPc} : LoopMove C s pc s.timeOut
  | queries : LoopMove C s .querying { s with turn := some (.receiving {}) }
  | waits (locals : Locals) : LoopMove C s (.receiving locals) s
  | takes (locals : Locals) (projection : Projection) {item : Item} {inbox : Channel Item}
      (taken : s.inbox.receive = some (item, inbox)) :
      LoopMove C s (.receiving locals)
        ({ s with inbox := inbox }.handleItem C locals item projection)
  | resumes {locals : Locals} {position : Nat} {message : PyValue} {projection : Projection}
      {t : SDKSession}
      (resumed : s.resumeBoundary C locals position message projection = some t) :
      LoopMove C s (.boundary locals position message projection) t
  | blocks (locals : Locals) (decision : BillingDecision) :
      LoopMove C s (.blocking locals decision)
        (s.interruptThenClose (.finish (billingBlockedWith locals decision)))
  | projects (locals : Locals) (finalText : Option PyStr) :
      LoopMove C s (.projecting locals finalText)
        { s with turn := some (.receiving (withText locals finalText)) }
  | refuses {locals : Locals} {position : Nat} {message : PyValue} {decision : BillingDecision}
      {projection : Projection} (refused : decision.allowed = false) :
      LoopMove C s (.resultBilling locals position message decision projection)
        (s.enterClose (.finish (billingBlockedWith locals decision)))
  | raises {locals : Locals} {position : Nat} {message : PyValue} {decision : BillingDecision}
      {projection : Projection} (allowed : decision.allowed = true) :
      LoopMove C s (.resultBilling locals position message decision projection)
        ((s.project position).failTurn locals)
  | admits {locals : Locals} {position : Nat} {message : PyValue} {decision : BillingDecision}
      {projection : Projection} (finalText : Option PyStr) (allowed : decision.allowed = true) :
      LoopMove C s (.resultBilling locals position message decision projection)
        { s.project position with
          turn := some (.resultProjecting locals message decision finalText) }
  | collects (locals : Locals) (message : PyValue) (decision : BillingDecision)
      (finalText : Option PyStr) :
      LoopMove C s (.resultProjecting locals message decision finalText)
        { s with turn := some (.resultSettling (withText locals finalText) message decision) }
  | settles (locals : Locals) (message : PyValue) (decision : BillingDecision) :
      LoopMove C s (.resultSettling locals message decision) (s.settle locals message decision)
  | cleans : LoopMove C s .cleanup s.startCleanup

variable {C : SessionContext}

theorem loopMove_of_turnStep {pc : TurnPc} {resume : Resume} (hpc : InLoop pc)
    (h : s.turnStep C pc resume = some t) : LoopMove C s pc t := by
  cases hpc with
  | querying =>
    cases resume <;> cases h
    · exact .queries
    · exact .fails _
    · exact .expires
    · exact .cancels
  | receiving locals =>
    cases resume with
    | item projection =>
      simp only [turnStep] at h
      split at h
      next => cases h
      next item inbox htaken =>
        cases h
        exact .takes locals projection htaken
    | timedOut =>
      simp only [turnStep] at h
      split_ifs at h <;> cases h
      · exact .waits locals
      · exact .expires
    | cancelled =>
      cases h
      exact .cancels
    | completed | raised => cases h
  | boundary locals position message projection =>
    cases resume with
    | completed => exact .resumes h
    | cancelled =>
      cases h
      exact .cancels
    | item | raised | timedOut => cases h
  | blocking locals decision =>
    cases resume <;> cases h
    · exact .blocks locals decision
    · exact .fails locals
    · exact .cancels
  | projecting locals finalText =>
    cases resume <;> cases h
    · exact .projects locals finalText
    · exact .fails locals
    · exact .cancels
  | resultBilling locals position message decision projection =>
    cases resume with
    | completed =>
      simp only [turnStep] at h
      split_ifs at h with hrefused
      · cases h
        exact .refuses (by simpa using hrefused)
      · have hallowed : decision.allowed = true := by simpa using hrefused
        cases projection <;> cases h
        · exact .raises hallowed
        · exact .admits _ hallowed
    | raised =>
      cases h
      exact .fails locals
    | cancelled =>
      cases h
      exact .cancels
    | item | timedOut => cases h
  | resultProjecting locals message decision finalText =>
    cases resume <;> cases h
    · exact .collects locals message decision finalText
    · exact .fails locals
    · exact .cancels
  | resultSettling locals message decision =>
    cases resume <;> cases h
    · exact .settles locals message decision
    · exact .cancels
  | cleanup =>
    cases resume <;> cases h
    exact .cleans

/-- A boundary waits or lets its message go on; only the lifecycle is changed before. -/
theorem resumeBoundary_eq_some {locals : Locals} {position : Nat} {message : PyValue}
    {projection : Projection}
    (h : s.resumeBoundary C locals position message projection = some t) :
    ∃ c, t = { s with compaction := c } ∨
      t = ({ s with compaction := c } : SDKSession).dispatch C locals position message
        projection := by
  simp only [resumeBoundary] at h
  split_ifs at h <;> cases h
  · exact ⟨_, .inl rfl⟩
  · exact ⟨_, .inr rfl⟩
  · exact ⟨_, .inl rfl⟩
  · exact ⟨_, .inr rfl⟩

/-- A turn suspended inside its teardown. -/
inductive TearingDown (after : After) : TurnPc → Prop
  | interrupting : TearingDown after (.interrupting after)
  | closing (stage : CloseStage) : TearingDown after (.closing stage after)

theorem TearingDown.unique {pc : TurnPc} {after other : After} (h : TearingDown after pc)
    (h' : TearingDown other pc) : other = after := by
  cases h <;> cases h' <;> rfl

theorem TearingDown.not_inLoop {pc : TurnPc} {after : After} (h : TearingDown after pc) :
    ¬ InLoop pc := by
  intro hloop
  cases h <;> cases hloop

/-- A turn connects, is in the loop, tears its client down or retires its inbox. -/
theorem turnPc_cases (pc : TurnPc) : pc = .connecting ∨ InLoop pc ∨
    (∃ after, TearingDown after pc) ∨ ∃ ending, pc = .retiring ending := by
  cases pc with
  | connecting => exact .inl rfl
  | querying => exact .inr (.inl .querying)
  | receiving => exact .inr (.inl (.receiving _))
  | boundary => exact .inr (.inl (.boundary _ _ _ _))
  | blocking => exact .inr (.inl (.blocking _ _))
  | projecting => exact .inr (.inl (.projecting _ _))
  | resultBilling => exact .inr (.inl (.resultBilling _ _ _ _ _))
  | resultProjecting => exact .inr (.inl (.resultProjecting _ _ _ _))
  | resultSettling => exact .inr (.inl (.resultSettling _ _ _))
  | cleanup => exact .inr (.inl .cleanup)
  | interrupting after => exact .inr (.inr (.inl ⟨after, .interrupting⟩))
  | closing stage after => exact .inr (.inr (.inl ⟨after, .closing stage⟩))
  | retiring ending => exact .inr (.inr (.inr ⟨ending, rfl⟩))

/-- What a turn that tears its client down can be found doing. -/
inductive TornDown (s : SDKSession) (after : After) : SDKSession → Prop
  | suspended {t : SDKSession} {pc : TurnPc} (closing : Closing s t)
      (tearing : TearingDown after pc) : TornDown s after { t with turn := some pc }
  | resumed {t : SDKSession} (closing : Closing s t) : TornDown s after (t.resumeAfter after)

theorem atStage_tornDown {stage : Option CloseStage} {after : After} (h : Closing s t) :
    TornDown s after (t.atStage stage after) := by
  cases stage with
  | some stage => exact .suspended h (.closing stage)
  | none => exact .resumed h

theorem enterClose_tornDown (s : SDKSession) (after : After) :
    TornDown s after (s.enterClose after) := by
  unfold enterClose
  split
  · rename_i hadvance
    exact atStage_tornDown (closeAdvance_closing hadvance)
  · exact atStage_tornDown (.refl s)

theorem interruptThenClose_tornDown (s : SDKSession) (after : After) :
    TornDown s after (s.interruptThenClose after) := by
  unfold interruptThenClose
  split_ifs
  · exact .suspended (.refl s) .interrupting
  · exact enterClose_tornDown s after

/-- The two calls that begin a teardown. -/
inductive Tears (s : SDKSession) (after : After) : SDKSession → Prop
  | interrupts : Tears s after (s.interruptThenClose after)
  | closes : Tears s after (s.enterClose after)

theorem Tears.tornDown {after : After} (h : Tears s after t) : TornDown s after t := by
  cases h with
  | interrupts => exact interruptThenClose_tornDown s after
  | closes => exact enterClose_tornDown s after

/-- How `run_turn` goes on inside its `try`. -/
inductive After.Inner : After → Prop
  | finish (result : SessionTurnResult) : Inner (.finish result)
  | handled (result : SessionTurnResult) : Inner (.handled result)
  | reraise : Inner .reraise

/-- A turn whose teardown is cancelled, with the lifecycle as the cancelled
`close` leaves it. -/
theorem cancelTeardown_eq (s : SDKSession) (after : After) :
    ∃ c : Lifecycle, s.cancelTeardown after =
      match after with
      | .leave _ | .startFailed _ => { s with compaction := c }.leave .raisedCancelled
      | .finish _ => { s with compaction := c, turn := some .cleanup }
      | .handled _ => { s with compaction := c }.retire .raisedCancelled
      | .reraise => { s with compaction := c } := by
  cases after with
  | reraise => exact ⟨s.compaction, rfl⟩
  | leave | startFailed | finish | handled =>
    simp only [cancelTeardown]
    split_ifs
    · exact ⟨s.compaction.abandon, rfl⟩
    · exact ⟨s.compaction, rfl⟩

/-- A retiring turn waits on, or leaves with its ending or because it was
cancelled. -/
theorem turnStep_of_retiring {C : SessionContext} {ending : Ending} {resume : Resume}
    (h : s.turnStep C (.retiring ending) resume = some t) :
    ∃ c : Lifecycle, t = { s with compaction := c } ∨
      t = { s with compaction := c }.leave ending ∨
      t = { s with compaction := c }.leave .raisedCancelled := by
  cases resume with
  | completed =>
    simp only [turnStep, resumeRetiring] at h
    split_ifs at h <;> cases h
    · exact ⟨_, .inl rfl⟩
    · exact ⟨_, .inr (.inl rfl)⟩
    · exact ⟨_, .inl rfl⟩
    · exact ⟨_, .inr (.inl rfl)⟩
  | cancelled =>
    simp only [turnStep, Option.some.injEq] at h
    subst h
    split_ifs
    · exact ⟨_, .inr (.inr rfl)⟩
    · exact ⟨s.compaction, .inr (.inr rfl)⟩
  | item | raised | timedOut => cases h

/-! ## The turn loop -/

/-- What the loop changes of a session, apart from the suspension of its turn. -/
def Advancing (s t : SDKSession) : Prop :=
  t = { s with
    inbox := t.inbox
    projected := t.projected
    compaction := t.compaction
    cancelRequested := t.cancelRequested }

/-- Where a step of the loop leads. -/
inductive LoopOutcome (s : SDKSession) : SDKSession → Prop
  | moved {u : SDKSession} {pc : TurnPc} (advancing : Advancing s u) (inner : InLoop pc) :
      LoopOutcome s { u with turn := some pc }
  | torn {u t : SDKSession} {after : After} (advancing : Advancing s u) (inner : After.Inner after)
      (tears : Tears u after t) : LoopOutcome s t
  | retired {u : SDKSession} {ending : Ending} (advancing : Advancing s u)
      (caught : ending ≠ .raisedError) : LoopOutcome s (u.retire ending)

theorem LoopOutcome.of_advancing (h : Advancing s u) (ht : LoopOutcome u t) :
    LoopOutcome s t := by
  have hcompose {v : SDKSession} (hv : Advancing u v) : Advancing s v := by
    unfold Advancing at *
    rw [hv, h]
  cases ht with
  | moved hv inner => exact .moved (hcompose hv) inner
  | torn hv inner tears => exact .torn (hcompose hv) inner tears
  | retired hv caught => exact .retired (hcompose hv) caught

theorem failTurn_outcome (s : SDKSession) (locals : Locals) :
    LoopOutcome s (s.failTurn locals) :=
  .torn (u := s) rfl (.handled _) .interrupts

theorem finish_outcome (s : SDKSession) (result : SessionTurnResult) :
    LoopOutcome s (s.interruptThenClose (.finish result)) :=
  .torn (u := s) rfl (.finish _) .interrupts

theorem dispatch_outcome (s : SDKSession) (locals : Locals) (position : Nat)
    (message : PyValue) (projection : Projection) :
    LoopOutcome s (s.dispatch C locals position message projection) := by
  unfold dispatch
  simp only
  split_ifs
  · exact .moved rfl (.blocking _ _)
  · cases projection with
    | raises => exact .of_advancing (u := s.project position) rfl (failTurn_outcome _ _)
    | projects finalText => exact .moved (u := s.project position) rfl (.projecting _ _)
  · exact .moved rfl (.resultBilling _ _ _ _ _)

theorem handleItem_outcome (s : SDKSession) (locals : Locals) (item : Item)
    (projection : Projection) : LoopOutcome s (s.handleItem C locals item projection) := by
  unfold handleItem
  split_ifs
  · exact .retired rfl (by rintro ⟨⟩)
  · cases item with
    | cancelled => exact .retired rfl (by rintro ⟨⟩)
    | nativeToolViolation => exact finish_outcome s _
    | postTerminalOutput => exact finish_outcome s _
    | compactionWatchdogExpired => exact finish_outcome s _
    | streamEnded failed => exact .retired rfl (by rintro ⟨⟩)
    | message position message =>
      simp only
      split_ifs
      · exact .moved rfl (.boundary _ _ _ _)
      · exact dispatch_outcome s _ _ _ _

theorem settle_outcome (s : SDKSession) (locals : Locals) (message : PyValue)
    (decision : BillingDecision) : LoopOutcome s (s.settle locals message decision) := by
  let drained : SDKSession := { s with inbox := s.inbox.drain (trailing s.inbox.queue).1 }
  have hdrained : Advancing s drained := rfl
  unfold settle
  simp only
  split
  · exact (finish_outcome drained _).of_advancing hdrained
  · exact (finish_outcome drained _).of_advancing hdrained
  · unfold concludeResult
    simp only
    split
    · exact (failTurn_outcome drained _).of_advancing hdrained
    · exact .retired (u := drained) hdrained (by rintro ⟨⟩)
    · split <;> exact .retired (u := drained) hdrained (by rintro ⟨⟩)

theorem resumeBoundary_outcome {locals : Locals} {position : Nat} {message : PyValue}
    {projection : Projection} (hturn : s.turn = some (.boundary locals position message projection))
    (h : s.resumeBoundary C locals position message projection = some t) : LoopOutcome s t := by
  obtain ⟨c, rfl | rfl⟩ := resumeBoundary_eq_some h
  · have hmoved : LoopOutcome s { s with
        compaction := c, turn := some (.boundary locals position message projection) } :=
      .moved (u := { s with compaction := c }) rfl (.boundary _ _ _ _)
    rwa [← hturn] at hmoved
  · exact .of_advancing (u := { s with compaction := c }) rfl (dispatch_outcome _ _ _ _ _)

theorem cancelTurn_outcome (s : SDKSession) : LoopOutcome s s.cancelTurn := by
  unfold cancelTurn
  simp only
  split_ifs
  · exact .moved (u := { s with compaction := s.compaction.abandon }) rfl .cleanup
  · exact .moved rfl .cleanup

theorem startCleanup_outcome (s : SDKSession) : LoopOutcome s s.startCleanup := by
  unfold startCleanup
  split_ifs
  · exact .retired rfl (by rintro ⟨⟩)
  · exact .torn (u := put { s with cancelRequested := true } .cancelled) rfl .reraise
      .interrupts

/-- A step out of the loop stays in it, tears the client down or retires the
inbox. -/
theorem turnStep_of_inLoop {pc : TurnPc} {resume : Resume} (hpc : InLoop pc)
    (hturn : s.turn = some pc) (h : s.turnStep C pc resume = some t) : LoopOutcome s t := by
  cases loopMove_of_turnStep hpc h with
  | cancels => exact cancelTurn_outcome s
  | fails locals => exact failTurn_outcome s locals
  | expires => exact finish_outcome s _
  | queries => exact .moved rfl (.receiving _)
  | waits locals =>
    have hmoved : LoopOutcome s { s with turn := some (.receiving locals) } :=
      .moved rfl (.receiving _)
    rwa [← hturn] at hmoved
  | @takes locals projection item inbox =>
    exact .of_advancing (u := { s with inbox := inbox }) rfl (handleItem_outcome _ _ _ _)
  | resumes hresumed => exact resumeBoundary_outcome hturn hresumed
  | blocks => exact finish_outcome s _
  | projects => exact .moved rfl (.receiving _)
  | refuses => exact .torn (u := s) rfl (.finish _) .closes
  | @raises _ position =>
    exact .of_advancing (u := s.project position) rfl (failTurn_outcome _ _)
  | @admits _ position =>
    exact .moved (u := s.project position) rfl (.resultProjecting _ _ _ _)
  | collects => exact .moved rfl (.resultSettling _ _ _)
  | settles => exact settle_outcome s _ _ _
  | cleans => exact startCleanup_outcome s

/-! ## A step of a turn -/

/-- Where a step of a turn leads. -/
inductive TurnOutcome (s : SDKSession) : TurnPc → SDKSession → Prop
  | connected : TurnOutcome s .connecting
      { s with reader := .created, readerTask := true }.publish
  | connectFailed (cancelled : Bool) :
      TurnOutcome s .connecting (s.enterClose (.startFailed cancelled))
  | loop {pc : TurnPc} {t : SDKSession} (inner : InLoop pc) (outcome : LoopOutcome s t) :
      TurnOutcome s pc t
  | interrupted {after : After} : TurnOutcome s (.interrupting after) (s.enterClose after)
  | closing {stage : CloseStage} {after : After} {next : SDKSession × Option CloseStage}
      (advance : s.closeAdvance stage = some next) :
      TurnOutcome s (.closing stage after) (next.1.atStage next.2 after)
  | teardownCancelled {pc : TurnPc} {after : After} (tearing : TearingDown after pc) :
      TurnOutcome s pc (s.cancelTeardown after)
  | retiring {ending : Ending} (c : Lifecycle) :
      TurnOutcome s (.retiring ending) { s with compaction := c }
  | left {ending : Ending} (c : Lifecycle) :
      TurnOutcome s (.retiring ending) ({ s with compaction := c }.leave ending)
  | retireCancelled {ending : Ending} (c : Lifecycle) :
      TurnOutcome s (.retiring ending) ({ s with compaction := c }.leave .raisedCancelled)

theorem turnStep_outcome {pc : TurnPc} {resume : Resume} (hturn : s.turn = some pc)
    (h : s.turnStep C pc resume = some t) : TurnOutcome s pc t := by
  cases pc with
  | connecting =>
    cases resume <;> cases h
    · exact .connected
    · exact .connectFailed false
    · exact .connectFailed false
    · exact .connectFailed true
  | interrupting after =>
    cases resume <;> cases h
    · exact .interrupted
    · exact .interrupted
    · exact .interrupted
    · exact .teardownCancelled .interrupting
  | closing stage after =>
    cases resume with
    | completed =>
      simp only [turnStep, Option.map_eq_some_iff] at h
      obtain ⟨next, hadvance, rfl⟩ := h
      exact .closing hadvance
    | cancelled =>
      cases h
      exact .teardownCancelled (.closing stage)
    | item | raised | timedOut => cases h
  | retiring ending =>
    obtain ⟨c, rfl | rfl | rfl⟩ := turnStep_of_retiring h
    · exact .retiring c
    · exact .left c
    · exact .retireCancelled c
  | querying => exact .loop .querying (turnStep_of_inLoop .querying hturn h)
  | receiving => exact .loop (.receiving _) (turnStep_of_inLoop (.receiving _) hturn h)
  | boundary =>
    exact .loop (.boundary _ _ _ _) (turnStep_of_inLoop (.boundary _ _ _ _) hturn h)
  | blocking => exact .loop (.blocking _ _) (turnStep_of_inLoop (.blocking _ _) hturn h)
  | projecting => exact .loop (.projecting _ _) (turnStep_of_inLoop (.projecting _ _) hturn h)
  | resultBilling =>
    exact .loop (.resultBilling _ _ _ _ _)
      (turnStep_of_inLoop (.resultBilling _ _ _ _ _) hturn h)
  | resultProjecting =>
    exact .loop (.resultProjecting _ _ _ _)
      (turnStep_of_inLoop (.resultProjecting _ _ _ _) hturn h)
  | resultSettling =>
    exact .loop (.resultSettling _ _ _) (turnStep_of_inLoop (.resultSettling _ _ _) hturn h)
  | cleanup => exact .loop .cleanup (turnStep_of_inLoop .cleanup hturn h)

/-- A turn inside its teardown goes on with it, unless it is cancelled. -/
theorem TurnOutcome.of_tearingDown {pc : TurnPc} {after : After} (hpc : TearingDown after pc)
    (h : TurnOutcome s pc t) : TornDown s after t ∨ t = s.cancelTeardown after := by
  cases h with
  | connected | connectFailed | retiring | left | retireCancelled => cases hpc
  | loop inner => exact absurd inner hpc.not_inLoop
  | interrupted =>
    cases hpc
    exact .inl (enterClose_tornDown s _)
  | closing hadvance =>
    cases hpc
    exact .inl (atStage_tornDown (closeAdvance_closing hadvance))
  | teardownCancelled hother =>
    rw [hpc.unique hother]
    exact .inr rfl

/-- What a turn leaves alone, whatever it does; the entries it adds to the history
are its own. -/
structure Frame (s t : SDKSession) : Prop where
  stream : t.stream = s.stream
  turnId : t.turnId = s.turnId
  output : t.postTerminalOutput = s.postTerminalOutput
  native : t.postTerminalNativeViolation = s.postTerminalNativeViolation
  closed : s.closed = true → t.closed = true
  finished : ∀ f ∈ t.finished, f ∈ s.finished ∨ f.turn = s.turnId
  queries : ∀ q ∈ t.queries, q ∈ s.queries ∨ q.turn = s.turnId

theorem Frame.refl (s : SDKSession) : Frame s s :=
  ⟨rfl, rfl, rfl, rfl, id, fun _ => .inl, fun _ => .inl⟩

theorem Frame.trans (h : Frame s t) (h' : Frame t u) : Frame s u where
  stream := h'.stream.trans h.stream
  turnId := h'.turnId.trans h.turnId
  output := h'.output.trans h.output
  native := h'.native.trans h.native
  closed := h'.closed ∘ h.closed
  finished := fun f hf => (h'.finished f hf).elim (h.finished f) fun heq => .inr (heq.trans h.turnId)
  queries := fun q hq => (h'.queries q hq).elim (h.queries q) fun heq => .inr (heq.trans h.turnId)

theorem Closing.frame (h : Closing s t) : Frame s t where
  stream := by rw [h.rest]
  turnId := by rw [h.rest]
  output := by rw [h.rest]
  native := by rw [h.rest]
  closed := h.closed
  finished := by
    rw [h.rest]
    exact fun _ => .inl
  queries := by
    rw [h.rest]
    exact fun _ => .inl

theorem Advancing.frame (h : Advancing s t) : Frame s t := by
  rw [h]
  exact { Frame.refl s with }

theorem leave_frame (s : SDKSession) (ending : Ending) : Frame s (s.leave ending) :=
  { Frame.refl s with
    finished := by
      intro f hf
      refine (List.mem_append.mp hf).imp_right fun hnew => ?_
      rw [List.mem_singleton.mp hnew] }

theorem resumeAfter_frame (s : SDKSession) (after : After) : Frame s (s.resumeAfter after) := by
  cases after with
  | startFailed cancelled => cases cancelled <;> exact leave_frame s _
  | leave => exact leave_frame s _
  | finish | handled | reraise => exact { Frame.refl s with }

theorem TornDown.frame {after : After} (h : TornDown s after t) : Frame s t := by
  cases h with
  | suspended hclosing => exact { hclosing.frame with }
  | resumed hclosing => exact hclosing.frame.trans (resumeAfter_frame _ _)

theorem LoopOutcome.frame (h : LoopOutcome s t) : Frame s t := by
  cases h with
  | moved hadvancing => exact { hadvancing.frame with }
  | torn hadvancing _ htears => exact hadvancing.frame.trans htears.tornDown.frame
  | retired hadvancing => exact { hadvancing.frame with }

theorem cancelTeardown_frame (s : SDKSession) (after : After) :
    Frame s (s.cancelTeardown after) := by
  obtain ⟨c, heq⟩ := cancelTeardown_eq s after
  rw [heq]
  cases after with
  | leave | startFailed => exact { leave_frame s .raisedCancelled with }
  | finish | handled | reraise => exact { Frame.refl s with }

theorem publish_frame (s : SDKSession) : Frame s s.publish := by
  unfold publish
  split_ifs
  · exact leave_frame s _
  · simp only
    split_ifs
    · exact { leave_frame s .raisedError with }
    · exact { Frame.refl s with
        queries := by
          intro q hq
          refine (List.mem_append.mp hq).imp_right fun hnew => ?_
          rw [List.mem_singleton.mp hnew] }
    · exact { (interruptThenClose_tornDown { s with
        activeInbox := some s.turnId
        turnTerminalSeen := false
        streamToolIndexes := []
        compaction := s.compaction.bind s.turnId } _).frame with }

theorem TurnOutcome.frame {pc : TurnPc} (h : TurnOutcome s pc t) : Frame s t := by
  cases h with
  | connected => exact { publish_frame { s with reader := .created, readerTask := true } with }
  | connectFailed => exact (enterClose_tornDown s _).frame
  | loop _ houtcome => exact houtcome.frame
  | interrupted => exact (enterClose_tornDown s _).frame
  | closing hadvance => exact (atStage_tornDown (closeAdvance_closing hadvance)).frame
  | teardownCancelled => exact cancelTeardown_frame s _
  | retiring => exact { Frame.refl s with }
  | left c => exact { leave_frame s _ with }
  | retireCancelled c => exact { leave_frame s _ with }

/-! ## What other tasks do -/

/-- What a step of another task may change, as far as a turn is concerned. -/
structure Ambient (s t : SDKSession) : Prop where
  turn : t.turn = s.turn
  turnId : t.turnId = s.turnId
  activeInbox : t.activeInbox = s.activeInbox
  projected : t.projected = s.projected
  finished : t.finished = s.finished
  queries : t.queries = s.queries
  output : s.postTerminalOutput = true → t.postTerminalOutput = true
  native : s.postTerminalNativeViolation = true → t.postTerminalNativeViolation = true
  closed : s.closed = true → t.closed = true
  taken : t.inbox.taken = s.inbox.taken
  sent : ∀ item ∈ t.inbox.sent,
    item ∈ s.inbox.sent ∨ item.isViolation = false ∨ s.activeInbox = some s.turnId
  stream : t.stream = s.stream ∨
    ∃ message fate, t.stream = s.stream ++ [⟨message, s.activeInbox, fate, s.turnId⟩]

theorem Closing.ambient (h : Closing s t) : Ambient s t where
  turn := h.turn
  turnId := by rw [h.rest]
  activeInbox := by rw [h.rest]
  projected := by rw [h.rest]
  finished := by rw [h.rest]
  queries := by rw [h.rest]
  output := by
    rw [h.rest]
    exact id
  native := by
    rw [h.rest]
    exact id
  closed := h.closed
  taken := h.taken
  sent := fun item hitem => (h.sent item hitem).imp_right .inl
  stream := .inl (by rw [h.rest])

theorem ambient_put (s : SDKSession) (item : Item) : Ambient s (s.put item) where
  turn := rfl
  turnId := rfl
  activeInbox := rfl
  projected := rfl
  finished := rfl
  queries := rfl
  output := id
  native := id
  closed := id
  taken := put_taken s item
  sent := by
    intro other hother
    unfold put at hother
    split_ifs at hother with hactive
    · exact .inr (.inr hactive)
    · exact .inl hother
  stream := .inl rfl

theorem ambient_record (s : SDKSession) (message : PyValue) (fate : Fate) :
    Ambient s (s.record message fate) where
  turn := rfl
  turnId := rfl
  activeInbox := rfl
  projected := rfl
  finished := rfl
  queries := rfl
  output := id
  native := id
  closed := id
  taken := rfl
  sent := fun _ => .inl
  stream := .inr ⟨message, fate, rfl⟩

theorem ambient_record_put (s : SDKSession) (message : PyValue) (fate : Fate) (item : Item) :
    Ambient s ((s.record message fate).put item) :=
  { ambient_put (s.record message fate) item with
    stream := .inr ⟨message, fate, rfl⟩ }

theorem ambient_receive {message : PyValue} : Ambient s (s.receive C message) := by
  unfold receive
  split
  · exact { ambient_record_put s message .unchecked _ with }
  · unfold rejectNative
    simp only
    split_ifs
    · exact { ambient_record_put s message .native _ with }
    · exact { ambient_record s message .native with native := fun _ => rfl }
  · unfold deliver
    split_ifs
    · exact { ambient_record_put s message .postTerminal _ with }
    · exact { ambient_record_put s message .delivered _ with }
    · exact { ambient_record s message .postTerminal with output := fun _ => rfl }

theorem Ambient.refl (s : SDKSession) : Ambient s s :=
  ⟨rfl, rfl, rfl, rfl, rfl, rfl, id, id, id, rfl, fun _ => .inl, .inl rfl⟩

/-- The labels that are not steps of a turn. -/
def IsAmbient : Label → Prop
  | .runTurn _ _ | .turn _ => False
  | _ => True

theorem next_ambient {label : Label} (h : s.next C label = some t) (hlabel : IsAmbient label) :
    Ambient s t := by
  cases label with
  | runTurn | turn => exact hlabel.elim
  | readerStart =>
    simp only [next] at h
    split_ifs at h <;> cases h
    · exact { Ambient.refl s with }
    · exact { ambient_put s (.streamEnded true) with }
  | receive message =>
    simp only [next] at h
    split_ifs at h
    cases h
    exact ambient_receive
  | streamEnd failed =>
    simp only [next] at h
    split_ifs at h
    cases h
    exact { ambient_put s (.streamEnded failed) with }
  | readerCancelled =>
    simp only [next] at h
    split_ifs at h
    cases h
    exact { ambient_put s (.streamEnded false) with }
  | cancel =>
    simp only [next] at h
    split_ifs at h <;> cases h
    · exact .refl s
    · exact { ambient_put s .cancelled with }
  | close =>
    simp only [next] at h
    split_ifs at h <;> cases h
    · exact .refl s
    · exact { Ambient.refl s with closed := fun _ => rfl }
  | closer resume =>
    cases resume with
    | completed =>
      simp only [next] at h
      split at h
      · cases h
      · simp only [Option.map_eq_some_iff] at h
        obtain ⟨next, hadvance, rfl⟩ := h
        exact { Closing.ambient (closeAdvance_closing hadvance) with }
    | cancelled =>
      simp only [next] at h
      split_ifs at h <;> cases h <;> exact { Ambient.refl s with }
    | item | raised | timedOut => cases h
  | preCompact trigger =>
    simp only [next] at h
    split_ifs at h
    cases h
    exact { Ambient.refl s with }
  | compaction =>
    simp only [next, resumeCompaction] at h
    split at h <;> cases h
    · exact { Ambient.refl s with }
    · refine { Ambient.refl s with taken := ?_, sent := ?_ }
      · unfold putWatchdog
        simp only
        split_ifs <;> rfl
      · intro item hitem
        unfold putWatchdog at hitem
        simp only at hitem
        split_ifs at hitem
        · rw [Channel.sent_send, List.mem_append, List.mem_singleton] at hitem
          exact hitem.imp_right fun hnew => .inl (by rw [hnew]; rfl)
        · exact .inl hitem
  | hookCancelled =>
    simp only [next] at h
    split at h <;> cases h
    exact { Ambient.refl s with }
  | watchdog =>
    simp only [next] at h
    split_ifs at h
    cases h
    exact { Ambient.refl s with }

/-! ## The stream -/

/-- Entering a turn may clear the two flags; apart from that it leaves alone what any
step of the new turn does. -/
theorem enter_frame (s : SDKSession) (constructs : Bool) :
    ∃ u : SDKSession, u.stream = s.stream ∧ u.turnId = s.turnId + 1 ∧ u.finished = s.finished ∧
      u.queries = s.queries ∧ Frame u (s.enter constructs) := by
  let entered : SDKSession := { s with turnId := s.turnId + 1, inbox := Channel.empty }
  unfold enter
  simp only
  split_ifs
  · exact ⟨entered, rfl, rfl, rfl, rfl, leave_frame entered _⟩
  · exact ⟨{ entered with postTerminalNativeViolation := false, postTerminalOutput := false },
      rfl, rfl, rfl, rfl, (interruptThenClose_tornDown _ _).frame⟩
  · exact ⟨{ entered with postTerminalOutput := false }, rfl, rfl, rfl, rfl,
      (interruptThenClose_tornDown _ _).frame⟩
  · exact ⟨entered, rfl, rfl, rfl, rfl, publish_frame entered⟩
  · exact ⟨entered, rfl, rfl, rfl, rfl, leave_frame entered _⟩
  · exact ⟨entered, rfl, rfl, rfl, rfl, { Frame.refl entered with }⟩

/-- Only the reader extends the stream. -/
theorem next_stream {label : Label} (h : s.next C label = some t) :
    t.stream = s.stream ∨ ∃ message, label = .receive message ∧ t = s.receive C message := by
  cases label with
  | receive message =>
    simp only [next] at h
    split_ifs at h
    cases h
    exact .inr ⟨message, rfl, rfl⟩
  | runTurn prompt constructs =>
    simp only [next] at h
    split_ifs at h <;> cases h
    · exact .inl rfl
    · obtain ⟨u, hstream, -, -, -, hframe⟩ := enter_frame s constructs
      exact .inl (hframe.stream.trans hstream)
  | turn resume =>
    simp only [next] at h
    split at h
    · cases h
    · rename_i hturn
      exact .inl (turnStep_outcome hturn h).frame.stream
  | closer resume =>
    cases resume with
    | completed =>
      simp only [next] at h
      split at h
      · cases h
      · simp only [Option.map_eq_some_iff] at h
        obtain ⟨next, hadvance, rfl⟩ := h
        exact .inl (closeAdvance_closing hadvance).frame.stream
    | cancelled =>
      simp only [next] at h
      split_ifs at h <;> cases h <;> exact .inl rfl
    | item | raised | timedOut => cases h
  | compaction =>
    simp only [next, resumeCompaction] at h
    split at h <;> cases h <;> exact .inl rfl
  | hookCancelled =>
    simp only [next] at h
    split at h <;> cases h
    exact .inl rfl
  | readerStart | streamEnd | readerCancelled | cancel | close | preCompact | watchdog =>
    simp only [next] at h
    split_ifs at h <;> cases h <;> exact .inl rfl

/-- The entry a received message leaves, with the fate its check decides. -/
theorem receive_stream (message : PyValue) :
    ∃ fate, (s.receive C message).stream =
        s.stream ++ [⟨message, s.activeInbox, fate, s.turnId⟩] ∧
      match zeroNativeViolation message C.allowedTools s.streamToolIndexes with
      | none => fate = .unchecked
      | some (true, _) => fate = .native
      | some (false, _) => fate = .delivered ∨ fate = .postTerminal := by
  unfold receive
  cases hcheck : zeroNativeViolation message C.allowedTools s.streamToolIndexes with
  | none => exact ⟨.unchecked, rfl, rfl⟩
  | some verdict =>
    obtain ⟨native, indexes⟩ := verdict
    cases native with
    | true =>
      refine ⟨.native, ?_, rfl⟩
      simp only [rejectNative]
      split_ifs <;> rfl
    | false =>
      simp only [deliver]
      split_ifs
      · exact ⟨.postTerminal, rfl, .inr rfl⟩
      · exact ⟨.delivered, rfl, .inl rfl⟩
      · exact ⟨.postTerminal, rfl, .inr rfl⟩

end SDKSession

end HermesClaude.Session
