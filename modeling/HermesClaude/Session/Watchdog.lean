/-
# A watchdog expiry and its turn

An expired watchdog reports itself and then puts a marker into the inbox of the bound
turn, behind whatever the reader has put there.  The loop of `run_turn` fails on the
marker.  What takes the result apart does not know it: the drain that follows a result
drops the marker with everything else, so a turn completes although its compaction was
reported as expired.

The invariant is that a reported turn which can still complete has the marker, or the
watchdog that is about to send it, ahead of every successful result.
-/

import HermesClaude.Session.LifecycleSteps
import HermesClaude.Session.Runs

namespace HermesClaude.Session

open HermesClaude.Python HermesClaude.Billing HermesClaude.Content HermesClaude.Library

/-- A WATCHDOG event was reported under the turn's binding. -/
def Expired (c : Lifecycle) (turn : Nat) : Prop := CompactionPhase.watchdog ∈ c.phases turn

/-- No turn that returned COMPLETE was reported as expired. -/
def ExpiryFails (s : SDKSession) : Prop :=
  ∀ f ∈ s.finished, f.ending.Completes → ¬ Expired s.compaction f.turn

/-- Whether a result neither failed nor was aborted. -/
def succeeds (message : PyValue) : Bool :=
  decide ((message.safeAttr "terminal_reason").memTexts
    [lit "aborted_streaming", lit "aborted_tools"] = some false) &&
    match message.safeAttr "is_error" with
    | .bool true => false
    | _ => true

/-- Whether an item carries a successful result. -/
def Item.succeeds : Item → Bool
  | .message _ content => isResult content && Session.succeeds content
  | _ => false

/-- Whether the running turn has a successful result, or has it waiting in its inbox. -/
def SDKSession.resultReached (s : SDKSession) : Bool :=
  match s.turn with
  | some .querying | some (.receiving _) | some (.boundary _ _ _ _) | some (.projecting _ _) =>
    s.inbox.queue.any Item.succeeds
  | some (.resultBilling _ _ message decision _) => decision.allowed && succeeds message
  | some (.resultProjecting _ message _ _) | some (.resultSettling _ message _) =>
    succeeds message
  | some (.retiring ending) => Ending.completed ending
  | _ => false

/-- A step in which the watchdog is not late: it does not expire once the turn has a
successful result, and no such result arrives between its event and its marker. -/
def expiresInTime (s : SDKSession) : Label → Bool
  | .watchdog => !s.compaction.active || !s.resultReached
  | .receive message => !s.compaction.heldBy .watchdog || !(isResult message && succeeds message)
  | _ => true

/-- `expiresInTime`, as a condition. -/
def ExpiresInTime (s : SDKSession) (label : Label) : Prop := expiresInTime s label = true

/-! ## Quiet moves -/

namespace Lifecycle

variable {c d : Lifecycle}

/-- An operation that waits for the cancelled watchdog has another event to report. -/
def Plain (c : Lifecycle) : Prop :=
  ∀ event finisher, c.op = some (.gathering event finisher) → event.phase ≠ .watchdog

/-- Nothing is reported as expired, and a watchdog about to notify its turn stays so. -/
structure Quiet (c d : Lifecycle) : Prop where
  silent : ∀ turn, Expired d turn → Expired c turn
  named : ∀ entry ∈ d.emitted, entry ∈ c.emitted ∨ c.bound = some entry.1
  bound : ∀ turn, d.bound = some turn → c.bound = some turn
  notifying : c.op = some (.emitting .watchdog) →
    d.op = some (.emitting .watchdog) ∧ d.bound = c.bound
  plain : Plain d

theorem Quiet.refl (h : Plain c) : Quiet c c :=
  ⟨fun _ => id, fun _ => .inl, fun _ => id, fun hop => ⟨hop, rfl⟩, h⟩

/-- A move that reports nothing. -/
theorem Quiet.of_same (hemitted : d.emitted = c.emitted)
    (hbound : d.bound = c.bound ∨ d.bound = none) (hop : c.op ≠ some (.emitting .watchdog))
    (hplain : Plain d) : Quiet c d where
  silent := by
    intro turn
    unfold Expired phases
    rw [hemitted]
    exact id
  named := by
    rw [hemitted]
    exact fun _ => .inl
  bound := by
    intro turn hturn
    rcases hbound with hsame | hnone
    · rwa [← hsame]
    · rw [hnone] at hturn
      cases hturn
  notifying := fun h => absurd h hop
  plain := hplain

theorem mem_emitted_emit {event : CompactionEvent} {entry : Nat × CompactionEvent}
    (h : entry ∈ (c.emit event).emitted) : entry ∈ c.emitted ∨ c.bound = some entry.1 := by
  unfold emit at h
  split at h
  · exact .inl h
  · rename_i turn hbound
    refine (List.mem_append.mp h).imp_right fun hnew => ?_
    rw [List.mem_singleton.mp hnew]
    exact hbound

/-- Reporting a phase other than WATCHDOG. -/
theorem Quiet.emitted {event : CompactionEvent} (hevent : event.phase ≠ .watchdog)
    (hemitted : d.emitted = c.emitted) (hbound : d.bound = c.bound)
    (hop : c.op ≠ some (.emitting .watchdog)) (hplain : Plain d) : Quiet c (d.emit event) where
  silent := by
    intro turn hexpired
    have hphases : d.phases turn = c.phases turn := by
      unfold phases
      rw [hemitted]
    unfold Expired at *
    rw [phases_emit, hphases, List.mem_append] at hexpired
    refine hexpired.resolve_right fun hnew => ?_
    split_ifs at hnew
    · exact hevent (List.mem_singleton.mp hnew).symm
    · cases hnew
  named := by
    intro entry hentry
    rw [← hemitted, ← hbound]
    exact mem_emitted_emit hentry
  bound := by
    intro turn hturn
    rwa [emit_bound, hbound] at hturn
  notifying := fun h => absurd h hop
  plain := by
    unfold Plain
    rw [emit_op]
    exact hplain

/-- `_finish` on behalf of anybody but the watchdog. -/
theorem Quiet.finish {event : CompactionEvent} {finisher : Finisher}
    (hevent : event.phase ≠ .watchdog) (hemitted : d.emitted = c.emitted)
    (hbound : d.bound = c.bound) (hop : c.op ≠ some (.emitting .watchdog)) :
    Quiet c (d.finish event finisher) := by
  unfold Lifecycle.finish
  split_ifs
  · refine .of_same hemitted (.inl hbound) hop ?_
    rintro _ _ ⟨⟩
    exact hevent
  · exact .emitted hevent hemitted hbound hop (by rintro _ _ ⟨⟩)

theorem plain_of_free (h : c.op = none) : Plain c := by
  intro event finisher hop
  rw [h] at hop
  cases hop

/-- **Moves are quiet.** -/
theorem Moves.quiet (h : Moves c d) (hplain : Plain c) : Quiet c d := by
  have hfree : c.op = none → c.op ≠ some (.emitting .watchdog) := by
    intro hnone
    rw [hnone]
    rintro ⟨⟩
  have hother : c.heldBy .watchdog = false → c.op ≠ some (.emitting .watchdog) := by
    intro hheld hop
    simp [heldBy, hop] at hheld
  cases h with
  | stays => exact .refl hplain
  | starts t free =>
    unfold Lifecycle.start
    split_ifs
    · exact .of_same rfl (.inl rfl) (hfree free) (plain_of_free free)
    · exact .emitted (by rintro ⟨⟩) rfl rfl (hfree free) (by rintro _ _ ⟨⟩)
  | completes t free =>
    unfold Lifecycle.complete
    split_ifs
    · exact .refl hplain
    · exact .of_same rfl (.inl rfl) (hfree free) (plain_of_free free)
    · exact .finish (by rintro ⟨⟩) rfl rfl (hfree free)
  | ends completed closing free =>
    by_cases hactive : c.active = true
    · rw [Lifecycle.endTurn, if_pos hactive]
      refine .finish ?_ rfl rfl (hfree free)
      cases completed <;> rintro ⟨⟩
    · rw [Lifecycle.endTurn, if_neg hactive]
      exact .of_same rfl (.inr rfl) (hfree free) (plain_of_free free)
  | resumes inside other =>
    unfold Lifecycle.resume
    split
    · exact .refl hplain
    · exact .of_same rfl (.inl rfl) (hother other) (plain_of_free rfl)
    · rename_i event finisher hop
      exact .emitted (hplain _ _ hop) rfl rfl (hother other) (by rintro _ _ ⟨⟩)
    · rename_i finisher hop
      cases finisher with
      | boundary | watchdog => exact .of_same rfl (.inl rfl) (hother other) (plain_of_free rfl)
      | endOfTurn | close => exact .of_same rfl (.inr rfl) (hother other) (plain_of_free rfl)
  | abandons inside other => exact .of_same rfl (.inl rfl) (hother other) (plain_of_free rfl)

/-! ### Returning from `end_turn` -/

theorem finish_heldBy (event : CompactionEvent) (finisher : Finisher) :
    (c.finish event finisher).heldBy finisher = true := by
  unfold Lifecycle.finish
  split_ifs
  · exact decide_eq_true rfl
  · rw [heldBy, emit_op]
    exact decide_eq_true rfl

/-- An `end_turn` that does not suspend has removed the callbacks. -/
theorem bound_of_endTurn {completed : Bool} {finisher : Finisher}
    (h : (c.endTurn completed finisher).heldBy finisher = false) :
    (c.endTurn completed finisher).bound = none := by
  by_cases hactive : c.active = true
  · rw [Lifecycle.endTurn, if_pos hactive, finish_heldBy] at h
    cases h
  · rw [Lifecycle.endTurn, if_neg hactive]

/-- The same of one that goes on from its last suspension. -/
theorem bound_of_resume (hheld : c.heldBy .endOfTurn = true) (hdone : c.resume.op = none) :
    c.resume.bound = none := by
  rcases hop : c.op with _ | _ | ⟨event, finisher⟩ | finisher
  · simp [heldBy, hop] at hheld
  · simp [heldBy, hop] at hheld
  · simp [Lifecycle.resume, hop] at hdone
  · obtain rfl : finisher = .endOfTurn := by simpa [heldBy, hop] using hheld
    simp only [Lifecycle.resume, hop]

/-! ### The expiry -/

/-- What `expire` does to an active lifecycle: it reports the bound turn, and only it. -/
structure Reports (c d : Lifecycle) : Prop where
  op : d.op = some (.emitting .watchdog)
  bound : d.bound = c.bound
  named : ∀ entry ∈ d.emitted, entry ∈ c.emitted ∨ c.bound = some entry.1
  expired : ∀ turn, Expired d turn → Expired c turn ∨ c.bound = some turn

theorem expire_reports (hactive : c.active = true) : Reports c c.expire := by
  have heq : c.expire = { c with
      depth := 0, watchdogTask := false, op := some (.emitting .watchdog) }.emit
        ⟨.watchdog, c.activeTrigger⟩ := by
    simp [Lifecycle.expire, Lifecycle.finish, hactive]
  rw [heq]
  refine ⟨emit_op _, emit_bound _, fun entry hentry => ?_, fun turn hexpired => ?_⟩
  · exact mem_emitted_emit (c := { c with
      depth := 0, watchdogTask := false, op := some (.emitting .watchdog) }) hentry
  unfold Expired at hexpired
  rw [phases_emit, List.mem_append] at hexpired
  refine hexpired.imp_right fun hnew => ?_
  split_ifs at hnew with hbound
  · exact hbound
  · cases hnew

end Lifecycle

/-! ## The invariant -/

open Lifecycle (Quiet Plain)

/-- No successful result is among the items. -/
def NoSuccess (items : List Item) : Prop := ∀ item ∈ items, item.succeeds = false

/-- The watchdog's marker comes ahead of every successful result. -/
def MarkerFirst (items : List Item) : Prop :=
  ∃ before after, items = before ++ .compactionWatchdogExpired :: after ∧ NoSuccess before

/-- A turn has the marker waiting ahead of its result, or is about to get it. -/
inductive Warned (c : Lifecycle) (turn : Nat) (items : List Item) : Prop
  | marked (first : MarkerFirst items)
  | notifying (op : c.op = some (.emitting .watchdog)) (bound : c.bound = some turn)
      (none : NoSuccess items)

/-- Nothing was ever bound for the turn. -/
structure Fresh (c : Lifecycle) (turn : Nat) : Prop where
  emitted : ∀ entry ∈ c.emitted, entry.1 < turn
  bound : ∀ other, c.bound = some other → other < turn

/-- What holds of a suspended turn once it was reported as expired. -/
def Heeds (c : Lifecycle) (turn : Nat) (items : List Item) : TurnPc → Prop
  | .connecting => Fresh c turn
  | .querying | .receiving _ | .projecting _ _ => Expired c turn → Warned c turn items
  | .boundary _ _ message _ => isResult message = false ∧ (Expired c turn → Warned c turn items)
  | .resultBilling _ _ message decision _ =>
    Expired c turn → decision.allowed = true → succeeds message = false
  | .resultProjecting _ message _ _ | .resultSettling _ message _ =>
    Expired c turn → succeeds message = false
  | .retiring ending => ending.Completes → ¬ Expired c turn
  | .blocking _ _ | .cleanup | .interrupting _ | .closing _ _ => True

/-- What holds of the turns that are over. -/
structure Recorded (c : Lifecycle) (turnId : Nat) (finished : List Finished) : Prop where
  plain : Plain c
  emitted : ∀ entry ∈ c.emitted, entry.1 ≤ turnId
  bound : ∀ other, c.bound = some other → other ≤ turnId
  finished : ∀ f ∈ finished, f.ending.Completes →
    ¬ Expired c f.turn ∧ c.bound ≠ some f.turn

/-- The invariant. -/
structure Heeded (s : SDKSession) : Prop where
  recorded : Recorded s.compaction s.turnId s.finished
  turn : ∀ pc, s.turn = some pc → Heeds s.compaction s.turnId s.inbox.queue pc

/-- What a step of another task may put into the inbox: one item, and no successful
result while the watchdog is about to notify. -/
def Extends (c : Lifecycle) (items more : List Item) : Prop :=
  more = items ∨ ∃ item : Item, more = items ++ [item] ∧
    (item.succeeds = true → c.op ≠ some (.emitting .watchdog))

theorem NoSuccess.send {items : List Item} {item : Item} (h : NoSuccess items)
    (hitem : item.succeeds = false) : NoSuccess (items ++ [item]) := by
  intro other hother
  rcases List.mem_append.mp hother with hold | hnew
  · exact h other hold
  · rwa [List.mem_singleton.mp hnew]

theorem MarkerFirst.send {items : List Item} (h : MarkerFirst items) (item : Item) :
    MarkerFirst (items ++ [item]) := by
  obtain ⟨before, after, rfl, hbefore⟩ := h
  exact ⟨before, after ++ [item], by simp, hbefore⟩

section Preservation

variable {c d : Lifecycle} {turn turnId : Nat} {items : List Item} {finished : List Finished}

theorem Warned.extends (h : Warned c turn items) {more : List Item}
    (hmore : Extends c items more) : Warned c turn more := by
  rcases hmore with rfl | ⟨item, rfl, hitem⟩
  · exact h
  · cases h with
    | marked first => exact .marked (first.send item)
    | notifying op bound none =>
      exact .notifying op bound (none.send (by simpa using mt hitem (not_not_intro op)))

theorem Warned.quiet (h : Warned c turn items) (hquiet : Quiet c d) : Warned d turn items := by
  cases h with
  | marked first => exact .marked first
  | notifying op bound none =>
    obtain ⟨hop, hbound⟩ := hquiet.notifying op
    exact .notifying hop (hbound.trans bound) none

/-- What a warned turn takes out of its inbox is the marker, or no success. -/
theorem Warned.take {item : Item} (h : Warned c turn (item :: items))
    (hitem : item ≠ .compactionWatchdogExpired) :
    item.succeeds = false ∧ Warned c turn items := by
  cases h with
  | marked first =>
    obtain ⟨before, after, heq, hbefore⟩ := first
    cases before with
    | nil => exact absurd (List.cons.inj heq).1 hitem
    | cons head before =>
      obtain ⟨rfl, rfl⟩ := List.cons.inj heq
      exact ⟨hbefore _ (List.mem_cons_self ..),
        .marked ⟨before, after, rfl, fun other hother => hbefore other (List.mem_cons_of_mem _ hother)⟩⟩
  | notifying op bound none =>
    exact ⟨none _ (List.mem_cons_self ..),
      .notifying op bound fun other hother => none other (List.mem_cons_of_mem _ hother)⟩

theorem Fresh.not_expired (h : Fresh c turn) : ¬ Expired c turn := by
  intro hexpired
  obtain ⟨entry, hentry, -⟩ := List.mem_map.mp hexpired
  obtain ⟨hmem, hturn⟩ := List.mem_filter.mp hentry
  have hlt := h.emitted entry hmem
  rw [of_decide_eq_true hturn] at hlt
  exact absurd hlt (Nat.lt_irrefl _)

theorem Fresh.quiet (h : Fresh c turn) (hquiet : Quiet c d) : Fresh d turn where
  emitted := fun entry hentry =>
    (hquiet.named entry hentry).elim (h.emitted entry) (h.bound entry.1)
  bound := fun other hother => h.bound other (hquiet.bound other hother)

theorem Recorded.quiet (h : Recorded c turnId finished) (hquiet : Quiet c d) :
    Recorded d turnId finished where
  plain := hquiet.plain
  emitted := fun entry hentry =>
    (hquiet.named entry hentry).elim (h.emitted entry) (h.bound entry.1)
  bound := fun other hother => h.bound other (hquiet.bound other hother)
  finished := by
    intro f hf hcompletes
    obtain ⟨hexpired, hbound⟩ := h.finished f hf hcompletes
    exact ⟨fun hexp => hexpired (hquiet.silent f.turn hexp),
      fun hother => hbound (hquiet.bound f.turn hother)⟩

/-- A suspended turn does not mind quiet moves and what other tasks put into its inbox. -/
theorem Heeds.quiet {pc : TurnPc} (h : Heeds c turn items pc) (hquiet : Quiet c d)
    {more : List Item} (hmore : Extends c items more) : Heeds d turn more pc := by
  have hwarned : (Expired c turn → Warned c turn items) →
      Expired d turn → Warned d turn more := fun hheeds hexpired =>
    ((hheeds (hquiet.silent turn hexpired)).extends hmore).quiet hquiet
  cases pc with
  | connecting => exact Fresh.quiet h hquiet
  | querying | receiving | projecting => exact hwarned h
  | boundary => exact ⟨h.1, hwarned h.2⟩
  | resultBilling | resultProjecting | resultSettling =>
    exact fun hexpired => h (hquiet.silent turn hexpired)
  | retiring => exact fun hcompletes hexpired => h hcompletes (hquiet.silent turn hexpired)
  | blocking | cleanup | interrupting | closing => trivial

end Preservation

/-! ## Steps of a turn -/

section Steps

open SDKSession

variable {C : SessionContext} {s t : SDKSession}

/-- The turns that are over, seen from a state with the lifecycle of another. -/
abbrev RecordedIn (s : SDKSession) (c : Lifecycle) : Prop := Recorded c s.turnId s.finished

theorem Heeded.leave (h : RecordedIn s s.compaction) {ending : Ending}
    (hending : ending.Completes →
      ¬ Expired s.compaction s.turnId ∧ s.compaction.bound ≠ some s.turnId) :
    Heeded (s.leave ending) where
  recorded := { h with
    finished := by
      intro f hf
      rcases List.mem_append.mp hf with hold | hnew
      · exact h.finished f hold
      · rw [List.mem_singleton.mp hnew]
        exact hending }
  turn := fun _ hpc => by cases hpc

/-- A turn that does not complete leaves. -/
theorem Heeded.leave_incomplete (h : RecordedIn s s.compaction) {ending : Ending}
    (hending : ¬ ending.Completes) : Heeded (s.leave ending) :=
  .leave h fun hcompletes => absurd hcompletes hending

theorem Heeded.retire (h : RecordedIn s s.compaction) {ending : Ending}
    (hending : ending.Completes → ¬ Expired s.compaction s.turnId) : Heeded (s.retire ending) where
  recorded := h
  turn := by
    intro pc hpc
    cases hpc
    exact hending

/-- A turn that does not complete retires its inbox. -/
theorem Heeded.retire_incomplete (h : RecordedIn s s.compaction) {ending : Ending}
    (hending : ¬ ending.Completes) : Heeded (s.retire ending) :=
  .retire h fun hcompletes => absurd hcompletes hending

/-- A turn is suspended. -/
theorem Heeded.suspend (h : RecordedIn s s.compaction) {pc : TurnPc}
    (hheeds : Heeds s.compaction s.turnId s.inbox.queue pc) :
    Heeded { s with turn := some pc } where
  recorded := h
  turn := by
    rintro pc' hpc
    cases hpc
    exact hheeds

/-- A turn that tears its client down does not complete. -/
theorem Heeded.tornDown (h : RecordedIn s t.compaction) {after : After}
    (harmless : after.Harmless) (ht : TornDown s after t) : Heeded t := by
  cases ht with
  | @suspended u pc hclosing htearing =>
    have hu : RecordedIn u u.compaction := by
      unfold RecordedIn
      rw [hclosing.rest]
      exact h
    refine .suspend hu ?_
    cases htearing <;> trivial
  | @resumed u hclosing =>
    rw [resumeAfter_compaction] at h
    have hu : RecordedIn u u.compaction := by
      unfold RecordedIn
      rw [hclosing.rest]
      exact h
    cases after with
    | leave result => exact .leave_incomplete hu (not_completes_returned harmless)
    | startFailed cancelled =>
      cases cancelled
      · exact .leave_incomplete hu (not_completes_returned (by decide))
      · exact .leave_incomplete hu not_completes_raised
    | finish result => exact .retire_incomplete hu (not_completes_returned harmless)
    | handled result => exact .retire_incomplete hu (not_completes_returned harmless)
    | reraise => exact .retire_incomplete hu not_completes_raised

/-- A turn begins its teardown. -/
theorem Heeded.tears (h : RecordedIn s s.compaction) (after : After)
    (harmless : after.Harmless) (ht : Tears s after t) : Heeded t := by
  refine .tornDown ?_ harmless ht.tornDown
  cases ht with
  | interrupts =>
    rw [interruptThenClose_compaction]
    exact h
  | closes =>
    rw [enterClose_compaction]
    exact h

theorem Heeded.failTurn (h : RecordedIn s s.compaction) (locals : Locals) :
    Heeded (s.failTurn locals) :=
  .tears h (.handled _) (by rintro ⟨⟩) .interrupts

theorem Heeded.finishWith (h : RecordedIn s s.compaction) {result : SessionTurnResult}
    (hresult : result.outcome ≠ .complete) : Heeded (s.interruptThenClose (.finish result)) :=
  .tears h (.finish _) hresult .interrupts

theorem Heeded.dispatch (h : RecordedIn s s.compaction) {locals : Locals} {position : Nat}
    {message : PyValue} {projection : Projection}
    (hwarned : Expired s.compaction s.turnId → Warned s.compaction s.turnId s.inbox.queue)
    (hmessage : Expired s.compaction s.turnId → isResult message = true →
      succeeds message = false) :
    Heeded (s.dispatch C locals position message projection) := by
  unfold SDKSession.dispatch
  simp only
  split_ifs with hblocks hresult
  · exact .suspend h trivial
  · cases projection with
    | raises => exact .failTurn (s := s.project position) h _
    | projects finalText => exact .suspend (s := s.project position) h hwarned
  · exact .suspend h fun hexpired _ => hmessage hexpired (by simpa using hresult)

theorem Heeded.handleItem (h : RecordedIn s s.compaction) {locals : Locals} {item : Item}
    {projection : Projection} (hwarned : Expired s.compaction s.turnId →
      Warned s.compaction s.turnId (item :: s.inbox.queue)) :
    Heeded (s.handleItem C locals item projection) := by
  unfold SDKSession.handleItem
  split_ifs
  · exact .retire_incomplete h (not_completes_returned (by rintro ⟨⟩))
  · cases item with
    | cancelled => exact .retire_incomplete h (not_completes_returned (by rintro ⟨⟩))
    | streamEnded failed => exact .retire_incomplete h (not_completes_returned (by rintro ⟨⟩))
    | nativeToolViolation | postTerminalOutput | compactionWatchdogExpired =>
      exact .finishWith h (by rintro ⟨⟩)
    | message position message =>
      have htake := fun hexpired => (hwarned hexpired).take (by rintro ⟨⟩)
      simp only
      split_ifs with hboundary
      · have hresult : isResult message = false := by
          simp only [SDKSession.isBoundary, Bool.and_eq_true, beq_iff_eq] at hboundary
          rw [isResult, hboundary.1.1]
          rfl
        exact .suspend h ⟨hresult, fun hexpired => (htake hexpired).2⟩
      · refine .dispatch h (fun hexpired => (htake hexpired).2) fun hexpired hresult => ?_
        have hfails := (htake hexpired).1
        rwa [Item.succeeds, hresult, Bool.true_and] at hfails

/-- Only a successful result completes a turn. -/
theorem Heeded.concludeResult (h : RecordedIn s s.compaction) {locals : Locals}
    {message : PyValue} {decision : BillingDecision}
    (hmessage : Expired s.compaction s.turnId → succeeds message = false) :
    Heeded (s.concludeResult locals message decision) := by
  unfold SDKSession.concludeResult
  simp only
  split
  · exact .failTurn h _
  · exact .retire_incomplete h (not_completes_returned (by rintro ⟨⟩))
  · rename_i hreason
    split
    · exact .retire_incomplete h (not_completes_returned (by rintro ⟨⟩))
    · rename_i hflag
      refine .retire h fun _ hexpired => ?_
      have hfails := hmessage hexpired
      simp only [succeeds, hreason, decide_true, Bool.true_and] at hfails
      cases hfails

theorem Heeded.settle (h : RecordedIn s s.compaction) {locals : Locals} {message : PyValue}
    {decision : BillingDecision}
    (hmessage : Expired s.compaction s.turnId → succeeds message = false) :
    Heeded (s.settle locals message decision) := by
  let drained : SDKSession := { s with inbox := s.inbox.drain (trailing s.inbox.queue).1 }
  have hdrained : RecordedIn drained drained.compaction := h
  unfold SDKSession.settle
  simp only
  split
  · exact .finishWith hdrained (by rintro ⟨⟩)
  · exact .finishWith hdrained (by rintro ⟨⟩)
  · exact .concludeResult (s := drained) hdrained hmessage

/-- A turn publishes its inbox. -/
theorem Heeded.publish (h : RecordedIn s s.compaction) (hfresh : Fresh s.compaction s.turnId)
    (hunfinished : Unfinished s) : Heeded s.publish := by
  unfold SDKSession.publish
  split_ifs
  · exact .leave_incomplete h (not_completes_returned (by rintro ⟨⟩))
  · simp only
    split_ifs with hactive
    · refine .leave_incomplete (s := { s with
        activeInbox := some s.turnId, turnTerminalSeen := false, streamToolIndexes := [] }) h ?_
      rintro ⟨result, ⟨⟩, -⟩
    all_goals
      have hbound : RecordedIn s (s.compaction.bind s.turnId) := { h with
        bound := by
          rintro other ⟨⟩
          exact Nat.le_refl _
        finished := by
          intro f hf hcompletes
          refine ⟨(h.finished f hf hcompletes).1, fun hsame => ?_⟩
          exact hunfinished f hf (Option.some.inj hsame).symm }
    · refine .suspend (s := { s with
        activeInbox := some s.turnId, turnTerminalSeen := false, streamToolIndexes := []
        compaction := s.compaction.bind s.turnId
        queries := s.queries ++ [⟨s.turnId, s.reader⟩] }) hbound ?_
      exact fun hexpired => absurd hexpired hfresh.not_expired
    · exact .tears (s := { s with
        activeInbox := some s.turnId, turnTerminalSeen := false, streamToolIndexes := []
        compaction := s.compaction.bind s.turnId }) hbound (.handled _) (by rintro ⟨⟩)
        .interrupts

/-- A call of `run_turn` obtains the turn lock. -/
theorem Heeded.enter (h : RecordedIn s s.compaction) (older : ∀ f ∈ s.finished, f.turn ≤ s.turnId)
    (constructs : Bool) : Heeded (s.enter constructs) := by
  have hfresh : Fresh s.compaction (s.turnId + 1) :=
    ⟨fun entry hentry => Nat.lt_succ_of_le (h.emitted entry hentry),
      fun other hother => Nat.lt_succ_of_le (h.bound other hother)⟩
  let entered : SDKSession := { s with turnId := s.turnId + 1, inbox := Channel.empty }
  have hentered : RecordedIn entered entered.compaction := { h with
    emitted := fun entry hentry => Nat.le_of_lt (hfresh.emitted entry hentry)
    bound := fun other hother => Nat.le_of_lt (hfresh.bound other hother) }
  unfold SDKSession.enter
  simp only
  split_ifs
  · exact .leave_incomplete hentered (not_completes_returned (by rintro ⟨⟩))
  · exact .tears (s := { entered with
      postTerminalNativeViolation := false, postTerminalOutput := false }) hentered
      (.leave _) (by rintro ⟨⟩) .interrupts
  · exact .tears (s := { entered with postTerminalOutput := false }) hentered
      (.leave _) (by rintro ⟨⟩) .interrupts
  · refine .publish hentered hfresh fun f hf heq => ?_
    have hle := older f hf
    rw [heq] at hle
    exact absurd hle (Nat.not_succ_le_self _)
  · exact .leave_incomplete hentered (not_completes_returned (by rintro ⟨⟩))
  · exact .suspend (s := { entered with client := true }) hentered hfresh

/-- A turn resumes inside `handle_message`. -/
theorem Heeded.resumeBoundary (h : Heeded s) {locals : Locals} {position : Nat}
    {message : PyValue} {projection : Projection}
    (hturn : s.turn = some (.boundary locals position message projection))
    (hstep : s.resumeBoundary C locals position message projection = some t) : Heeded t := by
  have hquiet := (resumeBoundary_moves hstep).quiet h.recorded.plain
  have hrecorded := h.recorded.quiet hquiet
  have hheeds := (h.turn _ hturn).quiet hquiet (.inl rfl)
  have hwaits : t = { s with compaction := t.compaction } → Heeded t := by
    intro heq
    rw [heq]
    refine ⟨hrecorded, fun pc hpc => ?_⟩
    cases hturn.symm.trans hpc
    exact hheeds
  have hgoes : ∀ c : Lifecycle,
      t = { s with compaction := c }.dispatch C locals position message projection → Heeded t := by
    rintro c rfl
    rw [dispatch_compaction] at hrecorded hheeds
    refine .dispatch (s := { s with compaction := c }) hrecorded hheeds.2 fun _ hresult => ?_
    rw [hheeds.1] at hresult
    cases hresult
  simp only [SDKSession.resumeBoundary] at hstep
  split_ifs at hstep <;> rw [Option.some.injEq] at hstep
  · exact hwaits (by rw [← hstep])
  · exact hgoes _ hstep.symm
  · exact hwaits (by rw [← hstep])
  · exact hgoes _ hstep.symm

/-- A turn resumes inside `end_turn`; it leaves with no callbacks bound. -/
theorem Heeded.resumeRetiring (h : Heeded s) {ending : Ending}
    (hturn : s.turn = some (.retiring ending)) (hstep : s.resumeRetiring ending = some t) :
    Heeded t := by
  have hquiet := (resumeRetiring_moves hstep).quiet h.recorded.plain
  have hrecorded := h.recorded.quiet hquiet
  have hheeds := (h.turn _ hturn).quiet hquiet (.inl rfl)
  have hwaits : t = { s with compaction := t.compaction } → Heeded t := by
    intro heq
    rw [heq]
    refine ⟨hrecorded, fun pc hpc => ?_⟩
    cases hturn.symm.trans hpc
    exact hheeds
  have hleaves : ∀ c : Lifecycle, c.bound = none → t = { s with compaction := c }.leave ending →
      Heeded t := by
    rintro c hbound rfl
    refine .leave (s := { s with compaction := c }) hrecorded fun hcompletes => ?_
    exact ⟨hheeds hcompletes, by rw [hbound]; rintro ⟨⟩⟩
  simp only [SDKSession.resumeRetiring] at hstep
  split_ifs at hstep with hheld hinside hfree hwaiting <;> rw [Option.some.injEq] at hstep
  · exact hwaits (by rw [← hstep])
  · exact hleaves _ (Lifecycle.bound_of_resume hheld (by simpa using hinside)) hstep.symm
  · exact hwaits (by rw [← hstep])
  · exact hleaves _ (Lifecycle.bound_of_endTurn (by simpa using hwaiting)) hstep.symm

/-- A turn whose teardown is cancelled does not complete. -/
theorem Heeded.cancelTeardown (h : Heeded s) (after : After) : Heeded (s.cancelTeardown after) := by
  have hrecorded := h.recorded.quiet ((cancelTeardown_moves s after).quiet h.recorded.plain)
  obtain ⟨c, heq⟩ := cancelTeardown_eq s after
  rw [heq] at hrecorded
  cases after with
  | reraise => exact h
  | leave | startFailed =>
    rw [heq]
    exact .leave_incomplete (s := { s with compaction := c }) hrecorded not_completes_raised
  | finish =>
    rw [heq]
    exact .suspend (s := { s with compaction := c }) hrecorded trivial
  | handled =>
    rw [heq]
    exact .retire_incomplete (s := { s with compaction := c }) hrecorded not_completes_raised

theorem Heeded.cancelTurn (h : Heeded s) : Heeded s.cancelTurn := by
  have hrecorded := h.recorded.quiet ((cancelTurn_moves s).quiet h.recorded.plain)
  unfold SDKSession.cancelTurn at hrecorded ⊢
  simp only at hrecorded ⊢
  split_ifs at hrecorded ⊢
  · exact .suspend (s := { s with compaction := s.compaction.abandon }) hrecorded trivial
  · exact .suspend hrecorded trivial

theorem Heeded.startCleanup (h : RecordedIn s s.compaction) : Heeded s.startCleanup := by
  unfold SDKSession.startCleanup
  split_ifs
  · exact .retire_incomplete h not_completes_raised
  · exact .tears (s := put { s with cancelRequested := true } .cancelled) h .reraise
      trivial .interrupts

/-- A turn past its connection keeps the invariant. -/
theorem Heeded.loopMove (h : Heeded s) {pc : TurnPc} (hturn : s.turn = some pc)
    (hmove : LoopMove C s pc t) : Heeded t := by
  have hrecorded := h.recorded
  have hheeds := h.turn pc hturn
  cases hmove with
  | cancels => exact h.cancelTurn
  | fails => exact .failTurn hrecorded _
  | expires => exact .finishWith hrecorded (by rintro ⟨⟩)
  | queries => exact .suspend hrecorded hheeds
  | waits => exact h
  | @takes locals projection item inbox htaken =>
    obtain ⟨hqueue, -, -⟩ := Channel.receive_eq_some htaken
    exact .handleItem (s := { s with inbox := inbox }) hrecorded (by rwa [← hqueue])
  | resumes hresumed => exact h.resumeBoundary hturn hresumed
  | blocks => exact .finishWith hrecorded (by rintro ⟨⟩)
  | projects => exact .suspend hrecorded hheeds
  | refuses => exact .tears hrecorded (.finish _) (by rintro ⟨⟩) .closes
  | @raises _ position => exact .failTurn (s := s.project position) hrecorded _
  | @admits _ position _ _ _ _ hallowed =>
    exact .suspend (s := s.project position) hrecorded fun hexpired => hheeds hexpired hallowed
  | collects => exact .suspend hrecorded hheeds
  | settles => exact .settle hrecorded hheeds
  | cleans => exact .startCleanup hrecorded

theorem Heeded.turnStep (h : Heeded s) (hsound : Sound C s) {pc : TurnPc} {resume : Resume}
    (hturn : s.turn = some pc) (hconnected : pc ≠ .connecting)
    (hstep : s.turnStep C pc resume = some t) : Heeded t := by
  have hrecorded := h.recorded
  have hquiet := (turnStep_moves hconnected hstep).quiet hrecorded.plain
  rcases turnPc_cases pc with rfl | hpc | ⟨after, hpc⟩ | ⟨ending, rfl⟩
  · exact absurd rfl hconnected
  · exact h.loopMove hturn (loopMove_of_turnStep hpc hstep)
  · have hharmless : after.Harmless := by
      have hprogress := hsound.progress _ hturn
      cases hpc <;> exact hprogress
    rcases (turnStep_outcome hturn hstep).of_tearingDown hpc with htorn | rfl
    · exact .tornDown (hrecorded.quiet hquiet) hharmless htorn
    · exact h.cancelTeardown after
  · cases resume with
    | completed => exact h.resumeRetiring hturn hstep
    | cancelled =>
      have hrecorded' := hrecorded.quiet hquiet
      simp only [SDKSession.turnStep, Option.some.injEq] at hstep
      subst hstep
      split_ifs at hrecorded' ⊢
      · exact .leave_incomplete (s := { s with compaction := s.compaction.abandon }) hrecorded'
          not_completes_raised
      · exact .leave_incomplete hrecorded' not_completes_raised
    | item | raised | timedOut => cases hstep

/-- A connecting turn publishes its inbox or closes. -/
theorem Heeded.connecting (h : Heeded s) (hsound : Sound C s) {resume : Resume}
    (hturn : s.turn = some .connecting) (hstep : s.turnStep C .connecting resume = some t) :
    Heeded t := by
  have hunfinished : Unfinished s := hsound.unfinished (by rw [hturn]; rfl)
  cases resume <;> cases hstep
  · exact .publish (s := { s with reader := .created, readerTask := true }) h.recorded
      (h.turn _ hturn) hunfinished
  all_goals exact .tears h.recorded (.startFailed _) trivial .closes

/-! ## Steps of other tasks -/

theorem put_extends (c : Lifecycle) (s : SDKSession) {item : Item}
    (hitem : item.succeeds = true → c.op ≠ some (.emitting .watchdog)) :
    Extends c s.inbox.queue (s.put item).inbox.queue := by
  unfold put
  split_ifs
  · exact .inr ⟨item, rfl, hitem⟩
  · exact .inl rfl

theorem closeAdvance_extends (c : Lifecycle) {stage : CloseStage}
    {next : SDKSession × Option CloseStage} (h : s.closeAdvance stage = some next) :
    Extends c s.inbox.queue next.1.inbox.queue := by
  have hstop : ∀ u : SDKSession, (stopReader u).1.inbox = u.inbox := by
    intro u
    unfold stopReader
    split_ifs <;> rfl
  have hdrop : ∀ u : SDKSession, Extends c u.inbox.queue (dropClient u).1.inbox.queue := by
    intro u
    have hput : Extends c u.inbox.queue (u.put .cancelled).inbox.queue :=
      put_extends c u (by rintro ⟨⟩)
    unfold dropClient
    simp only
    split_ifs
    · exact hput
    · rw [hstop]
      exact hput
  cases stage with
  | acquiring =>
    simp only [closeAdvance] at h
    split_ifs at h <;> cases h <;> exact .inl rfl
  | endingCompaction =>
    simp only [closeAdvance] at h
    split_ifs at h <;> cases h
    · exact .inl rfl
    · exact hdrop _
    · exact .inl rfl
    · exact hdrop _
  | disconnecting =>
    cases h
    rw [hstop]
    exact .inl rfl
  | stoppingReader =>
    cases h
    exact .inl rfl

/-- The reader sends a successful result only where the guard lets it. -/
theorem receive_extends {message : PyValue} (hguard : ExpiresInTime s (.receive message)) :
    Extends s.compaction s.inbox.queue (s.receive C message).inbox.queue := by
  have hitem (position : Nat) : (Item.message position message).succeeds = true →
      s.compaction.op ≠ some (.emitting .watchdog) := by
    intro hsucceeds hop
    have hmeets : expiresInTime s (.receive message) = true := hguard
    rw [Item.succeeds] at hsucceeds
    simp [expiresInTime, Lifecycle.heldBy, hop, hsucceeds] at hmeets
  unfold receive
  split
  · exact put_extends _ _ (by rintro ⟨⟩)
  · simp only [rejectNative]
    split_ifs
    · exact put_extends _ _ (by rintro ⟨⟩)
    · exact .inl rfl
  · simp only [deliver]
    split_ifs
    · exact put_extends _ _ (by rintro ⟨⟩)
    · exact put_extends _ _ (hitem _)
    · exact .inl rfl

/-- What a step of another task puts into the inbox, unless it is the marker. -/
theorem next_extends {label : Label} (hnext : s.next C label = some t) (hlabel : IsAmbient label)
    (hguard : ExpiresInTime s label) (hother : label ≠ .compaction) :
    Extends s.compaction s.inbox.queue t.inbox.queue := by
  cases label with
  | runTurn | turn => exact hlabel.elim
  | compaction => exact absurd rfl hother
  | receive message =>
    simp only [SDKSession.next] at hnext
    split_ifs at hnext
    cases hnext
    exact receive_extends hguard
  | readerStart =>
    simp only [SDKSession.next] at hnext
    split_ifs at hnext <;> cases hnext
    · exact .inl rfl
    · exact put_extends _ _ (by rintro ⟨⟩)
  | streamEnd | readerCancelled =>
    simp only [SDKSession.next] at hnext
    split_ifs at hnext
    cases hnext
    exact put_extends _ _ (by rintro ⟨⟩)
  | cancel =>
    simp only [SDKSession.next] at hnext
    split_ifs at hnext <;> cases hnext
    · exact .inl rfl
    · exact put_extends _ _ (by rintro ⟨⟩)
  | closer resume =>
    cases resume with
    | completed =>
      simp only [SDKSession.next] at hnext
      split at hnext
      · cases hnext
      · obtain ⟨next, hadvance, rfl⟩ := Option.map_eq_some_iff.mp hnext
        exact closeAdvance_extends _ hadvance
    | cancelled =>
      simp only [SDKSession.next] at hnext
      split_ifs at hnext <;> cases hnext <;> exact .inl rfl
    | item | raised | timedOut => cases hnext
  | hookCancelled =>
    simp only [SDKSession.next] at hnext
    split at hnext <;> cases hnext
    exact .inl rfl
  | close | preCompact | watchdog =>
    simp only [SDKSession.next] at hnext
    split_ifs at hnext <;> cases hnext <;> exact .inl rfl

/-- A step of another task that is not the watchdog's. -/
theorem Heeded.ambient (h : Heeded s) (ha : Ambient s t)
    (hquiet : Lifecycle.Quiet s.compaction t.compaction)
    (hextends : Extends s.compaction s.inbox.queue t.inbox.queue) : Heeded t where
  recorded := by
    rw [ha.turnId, ha.finished]
    exact h.recorded.quiet hquiet
  turn := by
    intro pc hpc
    rw [ha.turn] at hpc
    rw [ha.turnId]
    exact (h.turn pc hpc).quiet hquiet hextends

theorem completed_of_completes {ending : Ending} (h : ending.Completes) :
    Ending.completed ending = true := by
  obtain ⟨result, rfl, houtcome⟩ := h
  exact decide_eq_true houtcome

theorem noSuccess_of_any {items : List Item} (h : items.any Item.succeeds = false) :
    NoSuccess items := by
  intro item hitem
  simpa using List.any_eq_false.mp h item hitem

theorem Recorded.reports {c d : Lifecycle} {turnId : Nat} {finished : List Finished}
    (h : Recorded c turnId finished) (hreports : Lifecycle.Reports c d) :
    Recorded d turnId finished where
  plain := by
    intro event finisher hgathering
    rw [hreports.op] at hgathering
    cases hgathering
  emitted := fun entry hentry =>
    (hreports.named entry hentry).elim (h.emitted entry) (h.bound entry.1)
  bound := by
    rw [hreports.bound]
    exact h.bound
  finished := by
    intro f hf hcompletes
    obtain ⟨hexpired, hother⟩ := h.finished f hf hcompletes
    rw [hreports.bound]
    exact ⟨fun hnow => (hreports.expired f.turn hnow).elim hexpired hother, hother⟩

/-- A turn that is reported while no successful result waits is warned. -/
theorem Warned.reports {c d : Lifecycle} {turn : Nat} {items : List Item}
    (hreports : Lifecycle.Reports c d) (hfree : c.op = none)
    (hheeds : Expired c turn → Warned c turn items) (hnone : NoSuccess items)
    (hexpired : Expired d turn) : Warned d turn items := by
  rcases hreports.expired turn hexpired with hold | hnew
  · cases hheeds hold with
    | marked first => exact .marked first
    | notifying emitting =>
      rw [hfree] at emitting
      cases emitting
  · exact .notifying hreports.op (hreports.bound.trans hnew) hnone

/-- The watchdog of an active compaction expires.  The event goes to the bound turn, which
has no successful result yet. -/
theorem Heeded.expire (h : Heeded s) (hfree : s.compaction.op = none)
    (hactive : s.compaction.active = true) (hreached : s.resultReached = false) :
    Heeded { s with compaction := s.compaction.expire } := by
  have hreports := Lifecycle.expire_reports hactive
  refine ⟨h.recorded.reports hreports, fun pc hpc => ?_⟩
  have hheeds := h.turn pc hpc
  rw [resultReached, show s.turn = some pc from hpc] at hreached
  cases pc with
  | connecting =>
    refine ⟨fun entry hentry => ?_, fun other hother => ?_⟩
    · exact (hreports.named entry hentry).elim (hheeds.emitted entry) (hheeds.bound entry.1)
    · exact hheeds.bound other (hreports.bound ▸ hother)
  | querying | receiving | projecting =>
    exact Warned.reports hreports hfree hheeds (noSuccess_of_any hreached)
  | boundary =>
    exact ⟨hheeds.1, Warned.reports hreports hfree hheeds.2 (noSuccess_of_any hreached)⟩
  | resultBilling locals position message decision projection =>
    intro _ hallowed
    simpa [hallowed] using hreached
  | resultProjecting | resultSettling => exact fun _ => hreached
  | retiring ending =>
    intro hcompletes
    have hincomplete : Ending.completed ending = false := hreached
    rw [completed_of_completes hcompletes] at hincomplete
    cases hincomplete
  | blocking | cleanup | interrupting | closing => trivial

/-- The watchdog notifies the bound turn. -/
theorem Heeded.notify (h : Heeded s) (hop : s.compaction.op = some (.emitting .watchdog)) :
    Heeded ({ s with compaction := s.compaction.resume }.putWatchdog s.compaction.bound) := by
  have hresume : s.compaction.resume = { s.compaction with op := none } := by
    simp only [Lifecycle.resume, hop]
  have hexpired : ∀ {turn}, Expired { s.compaction with op := none } turn →
      Expired s.compaction turn := id
  rw [hresume]
  refine ⟨⟨Lifecycle.plain_of_free rfl, h.recorded.emitted, h.recorded.bound,
    h.recorded.finished⟩, fun pc hpc => ?_⟩
  have hheeds := h.turn pc hpc
  have hwarned : (Expired s.compaction s.turnId →
      Warned s.compaction s.turnId s.inbox.queue) → Expired s.compaction s.turnId →
        Warned { s.compaction with op := none } s.turnId
          (if s.compaction.bound = some s.turnId then s.inbox.send .compactionWatchdogExpired
            else s.inbox).queue := by
    intro hbefore hnow
    refine .marked ?_
    cases hbefore hnow with
    | marked first =>
      split_ifs
      · exact first.send _
      · exact first
    | notifying _ bound none =>
      rw [if_pos bound]
      exact ⟨s.inbox.queue, [], rfl, none⟩
  cases pc with
  | connecting => exact ⟨hheeds.emitted, hheeds.bound⟩
  | querying | receiving | projecting => exact hwarned hheeds
  | boundary => exact ⟨hheeds.1, hwarned hheeds.2⟩
  | resultBilling | resultProjecting | resultSettling | retiring => exact hheeds
  | blocking | cleanup | interrupting | closing => trivial

/-- A step in which the watchdog is not late. -/
theorem Heeded.next (h : Heeded s) (hsound : Sound C s) {label : Label}
    (hguard : ExpiresInTime s label) (hnext : s.next C label = some t) : Heeded t := by
  cases label with
  | runTurn prompt constructs =>
    simp only [SDKSession.next] at hnext
    split_ifs at hnext <;> cases hnext
    · exact h
    · exact .enter h.recorded hsound.history.older constructs
  | turn resume =>
    simp only [SDKSession.next] at hnext
    split at hnext
    · cases hnext
    · rename_i pc hturn
      by_cases hpc : pc = .connecting
      · subst hpc
        exact h.connecting hsound hturn hnext
      · exact h.turnStep hsound hturn hpc hnext
  | compaction =>
    obtain ⟨hop, rfl⟩ | ⟨hop, rfl⟩ := resumeCompaction_cases hnext
    · have hmoves : Lifecycle.Moves s.compaction s.compaction.resume :=
        .resumes (by rw [hop]; rfl) (by simp [Lifecycle.heldBy, hop])
      exact h.ambient (next_ambient hnext trivial) (hmoves.quiet h.recorded.plain) (.inl rfl)
    · exact h.notify hop
  | watchdog =>
    obtain ⟨hfree, -, rfl⟩ := next_watchdog hnext
    by_cases hactive : s.compaction.active = true
    · refine h.expire hfree hactive ?_
      have hmeets : expiresInTime s .watchdog = true := hguard
      simpa [expiresInTime, hactive] using hmeets
    · refine h.ambient (next_ambient hnext trivial) ?_ (.inl rfl)
      have heq : s.compaction.expire = { s.compaction with watchdogTask := false } := by
        simp [Lifecycle.expire, hactive]
      rw [heq]
      refine .of_same rfl (.inl rfl) ?_ h.recorded.plain
      rw [hfree]
      rintro ⟨⟩
  | _ =>
    have hmoves := ambient_moves hnext trivial (by rintro ⟨⟩) (by rintro ⟨⟩)
    exact h.ambient (next_ambient hnext trivial) (hmoves.quiet h.recorded.plain)
      (next_extends hnext trivial hguard (by rintro ⟨⟩))

end Steps

/-- **An expiry fails its turn.** Along every run in which the watchdog is not late, no
turn that returned COMPLETE was reported as expired. -/
theorem expiry_fails_turn {C : SessionContext} {s : SDKSession}
    (hs : (sessionSystem C).ReachableUnder ExpiresInTime s) : ExpiryFails s := by
  have hheeded : Heeded s := by
    refine System.ReachableUnder.invariant ?_ ?_ hs
    · refine ⟨⟨?_, ?_, ?_, ?_⟩, ?_⟩ <;> simp [sessionSystem, Lifecycle.Plain]
    · intro s t label hreached h hguard hnext
      exact h.next (sound_of_reachable hreached.reachable) hguard hnext
  exact fun f hf hcompletes => (hheeded.recorded.finished f hf hcompletes).1

theorem expiry_fails_turn_marked : ∃ s, (sessionSystem plainContext).Reachable s ∧
    (s.finished.length = 1 ∧ s.compaction.phases 1 = [.started, .watchdog]) ∧ ExpiryFails s := by
  obtain ⟨s, hs, hshape⟩ := System.exists_reachableUnder_of_check
    (S := sessionSystem plainContext)
    (P := fun s => s.finished.length = 1 ∧ s.compaction.phases 1 = [.started, .watchdog])
    expiresInTime
    (opening ++ [.preCompact .auto, .compaction, .watchdog, .compaction, .receive plainResult,
      .turn (.item (.projects none)), .turn .completed, .turn .completed, .turn .completed,
      .readerCancelled, .turn .completed, .turn .completed]) (by decide)
  exact ⟨s, hs.reachable, hshape, expiry_fails_turn hs⟩

/-- The watchdog expires while the callback of the result runs; the drain drops its marker
and the turn completes. -/
theorem expiry_after_result : ∃ s, (sessionSystem plainContext).Reachable s ∧
    ¬ ExpiryFails s := by
  obtain ⟨s, hs, f, hf, hcompleted, hexpired⟩ : ∃ s, (sessionSystem plainContext).Reachable s ∧
      ∃ f ∈ s.finished, SDKSession.Ending.completed f.ending = true ∧
        CompactionPhase.watchdog ∈ s.compaction.phases f.turn :=
    System.exists_reachable_of_run
      (schedule subscriptionMessages plainResult ++
        [.preCompact .auto, .compaction, .watchdog, .compaction, .turn .completed,
          .turn .completed, .turn .completed]) (by decide)
  refine ⟨s, hs, fun hfails => hfails f hf ?_ hexpired⟩
  cases hending : f.ending with
  | returned result => exact ⟨result, rfl, by simpa [hending, SDKSession.Ending.completed] using hcompleted⟩
  | raisedCancelled | raisedError =>
    rw [hending] at hcompleted
    cases hcompleted

end HermesClaude.Session
