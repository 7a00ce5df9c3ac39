/-
# The phase of a failure

A failed turn tells the host how far it came, and the host decides by it whether a retry
can repeat a side effect.  The phase is computed from the execution counter of the
bridge and its value when the turn began.

Two schedules make it wrong.  After a native tool event the phase is computed first and
the session cancelled afterwards, so a tool that runs meanwhile is not counted.  And a
later turn whose correlation id the bridge refuses fails before its baseline is set, so
the tools of earlier turns are counted as its own.
-/

import HermesClaude.Runtime.Invariants

namespace HermesClaude.Runtime

open HermesClaude.Python HermesClaude.Bridge HermesClaude.Content HermesClaude.Session
  HermesClaude.Library

variable {db : UnicodeDatabase}

/-- A failure yielded after session setup was entered carries the phase of what had
happened in its turn by then. -/
def Yielded.Exact (y : Yielded) : Prop :=
  ∀ failure, y.event = .failed failure → y.inSetup = true →
    (failure.phase = .afterSideEffects ↔ 0 < y.executions) ∧
      (y.executions = 0 → (failure.phase = .afterVisibleOutput ↔ y.contentBefore = true) ∧
        (failure.phase = .beforeVisibleOutput ↔ y.contentBefore = false))

/-- The phase that what has happened in a turn so far gives. -/
def Turn.phaseNow (t : Turn db) : RuntimeFailurePhase :=
  failurePhase (0 < t.executions) (t.yielded.any (·.event.isContent))

theorem exact_of_phase {t : Turn db} {event : TurnEvent} {inSetup : Bool}
    (h : ∀ failure, event = .failed failure → inSetup = true → failure.phase = t.phaseNow) :
    Yielded.Exact ⟨event, inSetup, t.executions, t.yielded.any (·.event.isContent)⟩ := by
  intro failure hevent hsetup
  rw [h failure hevent hsetup, Turn.phaseNow, failurePhase]
  dsimp only
  by_cases hexecutions : 0 < t.executions
  · simp [hexecutions, Nat.ne_of_gt hexecutions]
  · have hzero : t.executions = 0 := by omega
    cases t.yielded.any (·.event.isContent) <;> simp [hzero]

/-- The phase a suspended generator has computed already. -/
def GeneratorPc.keptPhase : GeneratorPc → Option RuntimeFailurePhase
  | .cancelling (.native phase) | .awaitingNativeTask phase => some phase
  | _ => none

namespace ClaudeAgentSDKRuntime

/-! ## The condition -/

/-- No tool runs while a turn goes on to yield a phase it has computed already, unless
that phase reports side effects.  And where tools have run for earlier turns, the bridge
accepts the correlation id of the turn that begins. -/
def keepsPhase (r : ClaudeAgentSDKRuntime db) : Label db → Bool
  | .tool _ => r.turn.all fun t => t.pc.keptPhase.all (· = .afterSideEffects)
  | .start request _ _ => r.session.isNone || r.executionCount = 0 ||
      (HostToolBridge.bindCorrelation request.correlationId).isOk
  | _ => true

/-- `keepsPhase`, as a condition. -/
def KeepsPhase (r : ClaudeAgentSDKRuntime db) (label : Label db) : Prop :=
  keepsPhase r label = true

/-! ## What a turn has counted -/

/-- The local variables of a turn agree with what has happened in it. -/
structure Counts (r : ClaudeAgentSDKRuntime db) (t : Turn db) : Prop where
  visible : t.visible = t.yielded.any (·.event.isContent)
  bound : t.bridge = .bound → r.executionCount = t.bridgeExecutionStart + t.executions
  unbound : t.bridge ≠ .bound → r.bridge = none ∧ t.executions = 0

/-- The invariant: what was yielded is exact, the turn has counted right as long as it
can still fail, and a phase it has computed already is still right. -/
structure Booked (r : ClaudeAgentSDKRuntime db) (t : Turn db) : Prop where
  yielded : ∀ y ∈ t.yielded, y.Exact
  counts : t.pc ≠ .yieldedTerminal → Counts r t
  kept : ∀ phase ∈ t.pc.keptPhase, phase = t.phaseNow

/-- What remains of the invariant when a turn is over. -/
def FinishedExact (f : FinishedTurn db) : Prop := ∀ y ∈ f.turn.yielded, y.Exact

/-- The invariant of a runtime that reports exact phases. -/
abbrev Reports (r : ClaudeAgentSDKRuntime db) : Prop := Invariant Booked (fun r => ∀ f ∈ r.finished, FinishedExact f) r

variable {r : ClaudeAgentSDKRuntime db} {t : Turn db}

/-- What the three places inside the pump and after it compute. -/
theorem Counts.phase (h : Counts r t) : r.phase t = t.phaseNow := by
  rw [ClaudeAgentSDKRuntime.phase, Turn.phaseNow, h.visible]
  by_cases hbridge : t.bridge = .bound
  · have hcount := h.bound hbridge
    have hiff : (r.executionCount > t.bridgeExecutionStart) ↔ 0 < t.executions := by omega
    simp only [hiff]
  · obtain ⟨hnone, hzero⟩ := h.unbound hbridge
    simp [executionCount, hnone, hzero]

/-- What the exception handler computes. -/
theorem Counts.handlerPhase (h : Counts r t) : r.handlerPhase t = t.phaseNow := by
  rw [ClaudeAgentSDKRuntime.handlerPhase, Turn.phaseNow, h.visible]
  cases hbridge : t.bridge with
  | bound =>
    have hcount := h.bound hbridge
    have hiff : (r.executionCount ≠ t.bridgeExecutionStart) ↔ 0 < t.executions := by omega
    simp only [hiff]
  | absent | fresh => simp [(h.unbound (by simp [hbridge])).2]

theorem Counts.emit (h : Counts r t) (event : TurnEvent) (hcontent : event.isContent = false)
    (inSetup : Bool) : Counts r (t.emit event inSetup) :=
  ⟨by simp [Turn.emit, hcontent, h.visible], h.bound, h.unbound⟩

theorem emit_exact (hyielded : ∀ y ∈ t.yielded, y.Exact) {event : TurnEvent} {inSetup : Bool}
    (h : ∀ failure, event = .failed failure → inSetup = true → failure.phase = t.phaseNow) :
    ∀ y ∈ (t.emit event inSetup).yielded, y.Exact := by
  intro y hy
  rcases List.mem_append.mp hy with hy | hy
  · exact hyielded y hy
  · rw [List.mem_singleton.mp hy]
    exact exact_of_phase h

section Segments

theorem suspend_reports (hfinished : ∀ f ∈ r.finished, FinishedExact f) (ht : Booked r t) :
    Reports (r.suspend t) :=
  ⟨fun _ ht' => (Option.some.inj ht') ▸ { ht with counts := fun hpc => { ht.counts hpc with } },
    hfinished⟩

/-- A turn that has counted right may be suspended anywhere. -/
theorem Counts.booked (hcounts : Counts r t) (hyielded : ∀ y ∈ t.yielded, y.Exact)
    {p : GeneratorPc} (hkept : ∀ phase ∈ p.keptPhase, phase = t.phaseNow) :
    Booked r { t with pc := p } :=
  ⟨hyielded, fun _ => { hcounts with }, hkept⟩

theorem finish_reports (hfinished : ∀ f ∈ r.finished, FinishedExact f)
    (ht : ∀ y ∈ t.yielded, y.Exact) (ending : GeneratorEnding) : Reports (r.finish t ending) := by
  refine ⟨fun t' ht' => (by cases ht'), fun f hf => ?_⟩
  rcases List.mem_append.mp hf with hf | hf
  · exact hfinished f hf
  · rw [List.mem_singleton.mp hf]
    exact ht

/-- Yielding the last event of a turn. -/
theorem emitLast_reports (hfinished : ∀ f ∈ r.finished, FinishedExact f)
    (hyielded : ∀ y ∈ t.yielded, y.Exact) {event : TurnEvent} {inSetup : Bool} (terminal : Bool)
    (h : ∀ failure, event = .failed failure → inSetup = true → failure.phase = t.phaseNow) :
    Reports (r.suspend { t.emitLast event inSetup with terminal := terminal }) :=
  suspend_reports hfinished ⟨emit_exact hyielded h, fun hpc => absurd rfl hpc, by rintro phase ⟨⟩⟩

/-- The end of the exception handler. -/
theorem handlerExit_reports (hfinished : ∀ f ∈ r.finished, FinishedExact f)
    (hyielded : ∀ y ∈ t.yielded, y.Exact) (hphase : r.handlerPhase t = t.phaseNow) :
    Reports (r.afterCancel t .errorHandler) := by
  rw [afterCancel]
  split_ifs
  · exact finish_reports hfinished hyielded .over
  · refine emitLast_reports hfinished hyielded t.terminal fun failure hfailure _ => ?_
    rw [handlerFailure, TurnEvent.failed.injEq] at hfailure
    rw [← hfailure]
    split_ifs <;> exact hphase

theorem afterCancel_reports (hfinished : ∀ f ∈ r.finished, FinishedExact f)
    (hyielded : ∀ y ∈ t.yielded, y.Exact) (hcounts : Counts r t) {site : CancelSite}
    (hsite : ∀ phase, site = .native phase → phase = t.phaseNow) :
    Reports (r.afterCancel t site) := by
  cases site with
  | pump =>
    exact suspend_reports hfinished (hcounts.booked hyielded (by rintro phase ⟨⟩))
  | native phase =>
    exact suspend_reports hfinished
      (hcounts.booked hyielded (by rintro kept ⟨⟩; exact hsite phase rfl))
  | cancelledHandler => exact finish_reports hfinished hyielded .raised
  | errorHandler => exact handlerExit_reports hfinished hyielded hcounts.handlerPhase

theorem cancelSession_reports (hfinished : ∀ f ∈ r.finished, FinishedExact f)
    (hyielded : ∀ y ∈ t.yielded, y.Exact) (hcounts : Counts r t) {site : CancelSite}
    (hsite : ∀ phase, site = .native phase → phase = t.phaseNow) :
    Reports (r.cancelSession t site) := by
  unfold cancelSession
  split
  next => exact afterCancel_reports hfinished hyielded hcounts hsite
  next session _ =>
    split_ifs
    · exact afterCancel_reports (t := { t with cancelReturned := true }) hfinished hyielded
        { hcounts with } hsite
    · refine ⟨fun t' ht' => ?_, hfinished⟩
      cases ht'
      refine { hcounts.booked hyielded (p := .cancelling site) ?_ with
        counts := fun _ => { hcounts with } }
      cases site with
      | native phase =>
        rintro kept ⟨⟩
        exact hsite phase rfl
      | pump | cancelledHandler | errorHandler => rintro phase ⟨⟩

theorem pumpHead_reports (hfinished : ∀ f ∈ r.finished, FinishedExact f)
    (hyielded : ∀ y ∈ t.yielded, y.Exact) (hcounts : Counts r t) (poll : Option Poll) :
    Reports (r.pumpHead t poll) := by
  have hreceiving : Reports (r.suspend { t with pc := .receiving }) :=
    suspend_reports hfinished (hcounts.booked hyielded (by rintro phase ⟨⟩))
  have hcancel : ∀ unavailable, Reports (r.cancelSession
      { t with cancelSent := true, cancellationUnavailable := unavailable } .pump) :=
    fun unavailable => cancelSession_reports
      (t := { t with cancelSent := true, cancellationUnavailable := unavailable }) hfinished
      hyielded { hcounts with } (by rintro phase ⟨⟩)
  unfold pumpHead
  split_ifs
  · exact suspend_reports hfinished (hcounts.booked hyielded (by rintro phase ⟨⟩))
  · exact hreceiving
  · split
    · exact hreceiving
    · exact cancelSession_reports hfinished hyielded hcounts (by rintro phase ⟨⟩)
    · exact finish_reports hfinished hyielded .raised
    · exact hreceiving
    · exact hcancel t.cancellationUnavailable
    · exact hcancel true
    · exact hcancel true

/-- Remembering a tool request touches neither the bridge nor the finished turns. -/
theorem observe_same (r : ClaudeAgentSDKRuntime db) (name : PyStr) :
    (r.observe name).bridge = r.bridge ∧ (r.observe name).finished = r.finished := by
  unfold observe
  repeat' split
  all_goals exact ⟨rfl, rfl⟩

theorem passOn_reports {events : List RuntimeEvent}
    (hfinished : ∀ f ∈ r.finished, FinishedExact f) (hyielded : ∀ y ∈ t.yielded, y.Exact)
    (hcounts : Counts r t) (poll : Option Poll) : Reports (r.passOn t poll events) := by
  induction events generalizing r with
  | nil => exact pumpHead_reports hfinished hyielded hcounts poll
  | cons event rest ih =>
    have hexact : ∀ e : RuntimeEvent, ∀ y ∈ (t.emit (.projected e) true).yielded, y.Exact :=
      fun e => emit_exact hyielded (by rintro failure ⟨⟩)
    cases event with
    | completed => exact ih hfinished hcounts
    | toolRequest requestId name =>
      obtain ⟨hbridge, hsame⟩ := observe_same r name
      refine ih (hsame ▸ hfinished) ⟨hcounts.visible, fun h => ?_, fun h => ?_⟩
      · rw [executionCount, hbridge]
        exact hcounts.bound h
      · rw [hbridge]
        exact hcounts.unbound h
    | usage receipt =>
      have hemitted := hcounts.emit (.projected (.usage (vouchedReceipt t receipt))) rfl true
      exact suspend_reports hfinished (hemitted.booked (hexact _) (by rintro phase ⟨⟩))
    | content text =>
      have hemitted : Counts r { t.emit (.projected (.content text)) true with visible := true } :=
        ⟨by simp [Turn.emit, TurnEvent.isContent], hcounts.bound, hcounts.unbound⟩
      exact suspend_reports hfinished (hemitted.booked (hexact _) (by rintro phase ⟨⟩))
    | compaction phase =>
      have hemitted := hcounts.emit (.projected (.compaction phase)) rfl true
      exact suspend_reports hfinished (hemitted.booked (hexact _) (by rintro phase ⟨⟩))

theorem receive_reports (hfinished : ∀ f ∈ r.finished, FinishedExact f)
    (hyielded : ∀ y ∈ t.yielded, y.Exact) (hcounts : Counts r t) (projection : ProjectionResult)
    (poll : Option Poll) : Reports (r.receive t projection poll) := by
  have hprovenance : Counts r { t with provenance := provenanceAfter t.provenance projection } :=
    { hcounts with }
  unfold receive
  dsimp only
  split_ifs
  · refine cancelSession_reports
      (t := { t with provenance := provenanceAfter t.provenance projection }) hfinished hyielded
      hprovenance ?_
    rintro phase ⟨⟩
    exact hprovenance.phase
  · exact passOn_reports
      (t := { t with provenance := provenanceAfter t.provenance projection }) hfinished hyielded
      hprovenance poll

theorem complete_reports (hfinished : ∀ f ∈ r.finished, FinishedExact f)
    (hyielded : ∀ y ∈ t.yielded, y.Exact) (hcounts : Counts r t) (result : SessionTurnResult) :
    Reports (r.complete t result) := by
  unfold complete
  dsimp only
  split
  next =>
    exact cancelSession_reports (t := { t with terminal := true }) hfinished hyielded
      { hcounts with } (by rintro phase ⟨⟩)
  next => exact emitLast_reports hfinished hyielded true (by rintro failure ⟨⟩)

/-- What a failed session result is reported with. -/
theorem resultFailure_phase (result : SessionTurnResult) (phase : RuntimeFailurePhase) :
    (resultFailure result phase).phase = phase := by
  unfold resultFailure
  repeat' split
  all_goals rfl

theorem settle_reports (hfinished : ∀ f ∈ r.finished, FinishedExact f)
    (hyielded : ∀ y ∈ t.yielded, y.Exact) (hcounts : Counts r t) (result : SessionTurnResult) :
    Reports (r.settle t result) := by
  have hfailed : Reports (r.suspend (t.conclude (.failed (resultFailure result (r.phase t))))) := by
    refine emitLast_reports hfinished hyielded true ?_
    rintro failure ⟨⟩ _
    rw [resultFailure_phase, hcounts.phase]
  unfold settle
  split_ifs
  · refine emitLast_reports hfinished hyielded true ?_
    rintro failure ⟨⟩ _
    exact hcounts.phase
  · split
    next =>
      split
      next id _ =>
        have hemitted := hcounts.emit (.state id) rfl true
        exact suspend_reports hfinished
          (hemitted.booked (emit_exact hyielded (by rintro failure ⟨⟩)) (by rintro phase ⟨⟩))
      next => exact complete_reports hfinished hyielded hcounts result
    next => exact emitLast_reports hfinished hyielded true (by rintro failure ⟨⟩)
    all_goals exact hfailed

theorem resume_reports {signal : Signal} {poll : Option Poll} {s : ClaudeAgentSDKRuntime db}
    (ht : Booked r t) (hfinished : ∀ f ∈ r.finished, FinishedExact f)
    (hresume : r.resume t signal poll = some s) : Reports s := by
  have hyielded := ht.yielded
  cases resumed_of_resume hresume with
  | @cancelReturned site hpc =>
    have hcounts := ht.counts (by simp [hpc])
    refine afterCancel_reports (r := r.closeSession) (t := { t with cancelReturned := true })
      hfinished hyielded { hcounts with } ?_
    rintro phase rfl
    exact ht.kept phase (by rw [hpc]; rfl)
  | handlerCancelled => exact finish_reports hfinished hyielded .raised
  | cancelCancelled hpc | receiveCancelled hpc =>
    exact cancelSession_reports hfinished hyielded (ht.counts (by simp [hpc]))
      (by rintro phase ⟨⟩)
  | @received projection rest hpc =>
    have hcounts := ht.counts (by simp [hpc])
    exact receive_reports (t := { t with queue := rest }) hfinished hyielded { hcounts with }
      projection poll
  | timedOut hpc => exact pumpHead_reports hfinished hyielded (ht.counts (by simp [hpc])) poll
  | passedOn hpc => exact passOn_reports hfinished hyielded (ht.counts (by simp [hpc])) poll
  | settled hpc => exact settle_reports hfinished hyielded (ht.counts (by simp [hpc])) _
  | nativeFailed hpc =>
    refine emitLast_reports hfinished hyielded true ?_
    rintro failure ⟨⟩ _
    exact ht.kept _ (by rw [hpc]; rfl)
  | taskCancelled hpc | taskRaised hpc =>
    have hcounts : Counts r t := by
      rcases hpc with hpc | ⟨phase, hpc⟩ <;> exact ht.counts (by simp [hpc])
    exact cancelSession_reports hfinished hyielded hcounts (by rintro phase ⟨⟩)
  | stateTaken hpc => exact complete_reports hfinished hyielded (ht.counts (by simp [hpc])) _
  | exhausted | closed => exact finish_reports hfinished hyielded .over

theorem bindTurn_reports (hfinished : ∀ f ∈ r.finished, FinishedExact f)
    (hyielded : t.yielded = []) (hvisible : t.visible = false) (hexecutions : t.executions = 0)
    (hstart : t.bridgeExecutionStart = 0)
    (hcount : (∀ id, HostToolBridge.bindCorrelation t.request.correlationId ≠ .ok id) → r.executionCount = 0) :
    Reports (r.bindTurn t) := by
  have hnone : ∀ y ∈ t.yielded, y.Exact := by simp [hyielded]
  unfold bindTurn
  dsimp only
  split
  next hbridge =>
    exact cancelSession_reports (t := { t with bridge := .absent }) hfinished hnone
      ⟨by simp [hyielded, hvisible], by rintro ⟨⟩, fun _ => ⟨hbridge, hexecutions⟩⟩
      (by rintro phase ⟨⟩)
  next bridge hbridge =>
    split
    next error hbegin =>
      refine cancelSession_reports (t := { t with bridge := .bound }) hfinished hnone
        ⟨by simp [hyielded, hvisible], fun _ => ?_, fun h => absurd rfl h⟩ (by rintro phase ⟨⟩)
      rw [hstart, hexecutions]
      refine hcount fun id hid => ?_
      rw [HostToolBridge.beginTurn, hid] at hbegin
      cases hbegin
    next bound _ =>
      have hcounts : Counts { r with bridge := some bound } { t with
          bridge := .bound, bridgeExecutionStart := bound.hostExecutionCount } :=
        ⟨by simp [hyielded, hvisible], fun _ => by simp [executionCount, hexecutions],
          fun h => absurd rfl h⟩
      exact suspend_reports (r := { r with bridge := some bound }) hfinished
        ⟨hnone, fun _ => { hcounts with }, by rintro phase ⟨⟩⟩

theorem startTurn_reports {context : RuntimeContext db} {request : RuntimeTurnRequest db}
    {host : RuntimeHost} {answers : StartAnswers}
    (hguard : KeepsPhase r (.start request host answers))
    (hfinished : ∀ f ∈ r.finished, FinishedExact f) :
    Reports (r.startTurn context request host answers) := by
  have hnone : ∀ y ∈ (r.newTurn request).yielded, y.Exact := fun y hy => by cases hy
  obtain ⟨authorized, result, hauthorized, hbegun⟩ := begun_of_startTurn context r request host answers
  obtain ⟨log, rfl⟩ := hauthorized.eq
  generalize r.startTurn context request host answers = s at hbegun ⊢
  generalize hs : { r.prepare with preflightRequest := none, authorizations := log } = s' at hbegun
  have hkept : ∀ f ∈ s'.finished, FinishedExact f := by rw [← hs]; exact hfinished
  cases hbegun with
  | refused failure => exact emitLast_reports hkept hnone false (by rintro failure _ ⟨⟩)
  | cancelled => exact emitLast_reports hkept hnone false (by rintro _ ⟨⟩)
  | escaped => exact finish_reports hkept hnone .raised
  | entered =>
    have hsetup := setUp_of_setup (s'.enter (r.newTurn request)) (r.newTurn request) host answers
    generalize (s'.enter (r.newTurn request)).setup (r.newTurn request) host answers = s
      at hsetup ⊢
    cases hsetup with
    | @failed kept bridge hsame _ _ hunbound =>
      refine handlerExit_reports (hsame.finished ▸ hkept) hnone ?_
      cases bridge with
      | bound => exact absurd rfl hunbound
      | absent | fresh => rfl
    | changed =>
      refine emitLast_reports (r := s'.enter (r.newTurn request)) hkept hnone false ?_
      rintro failure ⟨⟩ _
      rfl
    | @bound kept hsame _ _ hcount hfirst =>
      refine bindTurn_reports (hsame.finished ▸ hkept) rfl rfl rfl rfl fun hrefused => ?_
      have hsession : s'.session = r.session := by rw [← hs]; rfl
      have hexecuted : s'.executionCount = r.executionCount := by rw [← hs]; rfl
      cases hlive : r.session with
      | none => exact hfirst (hsession.trans hlive)
      | some session =>
        rw [hcount (by rw [enter, hsession, hlive]; rfl)]
        cases hid : HostToolBridge.bindCorrelation request.correlationId with
        | ok id => exact absurd hid (hrefused id)
        | error _ =>
          have hzero : r.executionCount = 0 := by
            simpa [KeepsPhase, keepsPhase, hlive, hid, Except.isOk, Except.toBool] using hguard
          exact hexecuted.trans hzero

end Segments

/-- A tool that runs is counted by the bridge and by the turn. -/
theorem Booked.tool {bridge : HostToolBridge db} {turn : Nat}
    (hguard : KeepsPhase r (.tool turn)) (hbridge : r.bridge = some bridge)
    (hturn : r.turn = some t) (ht : Booked r t) :
    Booked (r.execute bridge turn) { t with executions := t.executions + 1 } := by
  have hcounted : Counts r t →
      Counts (r.execute bridge turn) { t with executions := t.executions + 1 } := by
    intro hcounts
    refine ⟨hcounts.visible, fun hbound => ?_, fun hunbound => ?_⟩
    · have hbefore := hcounts.bound hbound
      simp only [executionCount, hbridge, Option.elim_some] at hbefore
      simp only [executionCount, execute, Option.elim_some]
      omega
    · simp [(hcounts.unbound hunbound).1] at hbridge
  refine ⟨ht.yielded, fun hpc => hcounted (ht.counts hpc), fun phase hphase => ?_⟩
  have hreported : phase = .afterSideEffects := by
    simpa [KeepsPhase, keepsPhase, hturn, Option.mem_def.mp hphase] using hguard
  rw [hreported]
  simp [Turn.phaseNow, failurePhase]

/-- The phases of a runtime are booked by every step that meets the condition. -/
theorem booked_inductive (context : RuntimeContext db) :
    Inductive context KeepsPhase Booked (fun r => ∀ f ∈ r.finished, FinishedExact f) where
  init := fun f hf => by cases hf
  history := fun hsame hfinished => hsame.finished ▸ hfinished
  execute := id
  orphanEnds := id
  frame := fun {r s t} hframe ht =>
    { ht with
      counts := fun hpc =>
        have hcounts := ht.counts hpc
        ⟨hcounts.visible, fun h => by rw [executionCount, hframe.bridge]; exact hcounts.bound h,
          fun h => by rw [hframe.bridge]; exact hcounts.unbound h⟩ }
  produce := fun _ ht => { ht with counts := fun hpc => { ht.counts hpc with } }
  taskEnds := fun _ _ ht => { ht with counts := fun hpc => { ht.counts hpc with } }
  tool := Booked.tool
  start := fun hguard _ hfinished => startTurn_reports hguard hfinished
  resume := fun _ _ ht hfinished hresume => resume_reports ht hfinished hresume

/-- **The phase of a failure is exact.** In every run in which no tool runs behind a phase
that a native tool event has fixed, and no correlation id is refused after tools have
run, every failure that a turn yields after session setup says what had happened in that
turn by then. -/
theorem failure_phase_exact (context : RuntimeContext db) {r : ClaudeAgentSDKRuntime db}
    (hr : (runtimeSystem context).ReachableUnder KeepsPhase r) :
    (∀ f ∈ r.finished, ∀ y ∈ f.turn.yielded, y.Exact) ∧
      ∀ t, r.turn = some t → ∀ y ∈ t.yielded, y.Exact :=
  have hreports := (booked_inductive context).reachable hr
  ⟨hreports.history, fun t ht => (hreports.turn t ht).yielded⟩

theorem failure_phase_exact_failed : ∃ r, (runtimeSystem textOnlyContext).Reachable r ∧
    r.finished.length = 1 ∧ (∀ f ∈ r.finished, ∀ y ∈ f.turn.yielded, y.Exact) ∧
      ∀ t, r.turn = some t → ∀ y ∈ t.yielded, y.Exact := by
  obtain ⟨r, hr, hlength⟩ := System.exists_reachableUnder_of_check
    (S := runtimeSystem textOnlyContext) (P := fun r => r.finished.length = 1) keepsPhase
    [.start (plainRequest 0 [userMessage]) plainHost plainAnswers, .tool 0,
      .taskEnds (.returned { outcome := .failed }), .generator .timedOut none,
      .generator .returned none, .generator .next none] (by decide)
  exact ⟨r, hr.reachable, hlength, failure_phase_exact textOnlyContext hr⟩

/-- A native tool event arrives; while `run_turn` waits for the session to be cancelled
the host still executes `deploy`, and the failure says that nothing had happened. -/
theorem side_effect_unreported : ∃ r, (runtimeSystem textOnlyContext).Reachable r ∧
    ¬ ∀ f ∈ r.finished, ∀ y ∈ f.turn.yielded, y.Exact := by
  obtain ⟨r, hr, f, hf, y, hy, hevent, hsetup, hexecutions⟩ := System.exists_reachable_of_run
    (S := runtimeSystem textOnlyContext)
    (P := fun r => ∃ f ∈ r.finished, ∃ y ∈ f.turn.yielded,
      y.event = .failed (nativeFailure .beforeVisibleOutput) ∧ y.inSetup = true ∧
        y.executions = 1)
    [.start deployRequest plainHost plainAnswers,
      .produce { events := [.toolRequest (lit "t-1") (lit "Bash")] },
      .generator .returned none, .tool 0, .generator .returned none,
      .taskEnds (.returned { outcome := .cancelled }), .generator .returned none,
      .generator .next none]
    ⟨_, rfl, _, List.mem_singleton_self _, _, List.mem_singleton_self _, rfl, rfl, rfl⟩
  refine ⟨r, hr, fun hexact => ?_⟩
  have hphase := (hexact f hf y hy _ hevent hsetup).1.mpr (by omega)
  cases hphase

end ClaudeAgentSDKRuntime

end HermesClaude.Runtime
