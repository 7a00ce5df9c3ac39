/-
# What a live session does with its turns

A turn that a session is live for has one of two effects.  Where it succeeds it is recorded, and the
counters go up by one.  Where it fails nothing is recorded, and the session is closed together with
its gateway; a prompt that was handed over by then stays uncounted.
-/

import HermesClaude.Parity.LiveSession

namespace HermesClaude.Parity

open HermesClaude.Python HermesClaude.Library

namespace LiveSession

open Stateful

/-- No turn is opened, conducted or counted. -/
structure Idle (s t : LiveSession) : Prop where
  setup : t.setup = s.setup
  gateway : s.gateway.Spares t.gateway
  boundRow : t.boundRow = s.boundRow
  rowTurns : t.rowTurns = s.rowTurns
  turnReceipts : t.turnReceipts = s.turnReceipts
  providerCalls : t.providerCalls = s.providerCalls
  closed : s.closed = true → t.closed = true

instance : Std.Refl Idle := ⟨fun s => ⟨rfl, .refl s.gateway, rfl, rfl, rfl, rfl, id⟩⟩

instance : IsTrans LiveSession Idle where
  trans _ _ _ h h' := {
    setup := h'.setup.trans h.setup
    gateway := h.gateway.trans h'.gateway
    boundRow := h'.boundRow.trans h.boundRow
    rowTurns := h'.rowTurns.trans h.rowTurns
    turnReceipts := h'.turnReceipts.trans h.turnReceipts
    providerCalls := h'.providerCalls.trans h.providerCalls
    closed := fun hclosed => h'.closed (h.closed hclosed) }

section Idle

variable {config : AccumulatorConfig} {s t : LiveSession}

theorem demand_idle (condition : Bool) (message : String) :
    Keeps Idle (demand condition message) := by
  apply Keeps.ite
  · exact Keeps.pure _
  · exact Keeps.throw _

theorem ask_idle {request : GatewayRequest} (h : request.isSubmit = false) :
    Keeps Idle (ask request) := by
  apply Keeps.stepping
  intro s
  exact ⟨rfl, LiveGateway.spares_answer h s.gateway, rfl, rfl, rfl, rfl, id⟩

theorem close_idle : Keeps Idle close := by
  refine Keeps.bind Keeps.get fun s => Keeps.ite (Keeps.pure _) ?_
  refine Keeps.bind (ask_idle rfl) fun reply => ?_
  refine Keeps.bind (Keeps.modify ?_) fun _ => demand_idle _ _
  intro s
  exact ⟨rfl, .refl s.gateway, rfl, rfl, rfl, rfl, fun _ => rfl⟩

theorem startBody_idle : Keeps Idle (startBody config) := by
  refine Keeps.bind Keeps.get fun s => ?_
  refine Keeps.bind (ask_idle rfl) fun ready => ?_
  refine Keeps.bind (Keeps.fromExcept _) fun _ => ?_
  refine Keeps.bind (ask_idle ?_) fun reply => ?_
  · unfold startRequest
    split <;> rfl
  refine Keeps.bind (Keeps.fromExcept _) fun captured => ?_
  refine Keeps.bind (Keeps.fromExcept _) fun response => ?_
  refine Keeps.bind (Keeps.fromExcept _) ?_
  rintro ⟨live, stored⟩
  refine Keeps.bind (Keeps.modify fun s => ?_) fun _ => ?_
  · exact ⟨rfl, .refl s.gateway, rfl, rfl, rfl, rfl, id⟩
  refine Keeps.bind (Keeps.fromExcept _) fun liveHandle => ?_
  refine Keeps.bind (Keeps.modify fun s => ?_) fun _ => ?_
  · exact ⟨rfl, .refl s.gateway, rfl, rfl, rfl, rfl, id⟩
  refine Keeps.bind (Keeps.fromExcept _) fun storedHandle => ?_
  refine Keeps.bind (Keeps.modify fun s => ?_) fun _ => Keeps.pure _
  exact ⟨rfl, .refl s.gateway, rfl, rfl, rfl, rfl, id⟩

theorem start_idle : Keeps Idle (start config) := by
  refine Keeps.bind Keeps.get fun s => ?_
  refine Keeps.bind (demand_idle _ _) fun _ => ?_
  refine Keeps.tryCatch startBody_idle fun failure => ?_
  refine Keeps.bind (Keeps.modify fun s => ?_) fun _ => ?_
  · exact ⟨rfl, .refl s.gateway, rfl, rfl, rfl, rfl, id⟩
  exact Keeps.bind (ask_idle rfl) fun _ => Keeps.throw _

theorem failTurn_idle {α : Type} (failure : SessionError) :
    Keeps Idle (failTurn failure : Sessioning α) := by
  refine Keeps.bind (Keeps.modify fun s => ?_) fun _ => ?_
  · exact ⟨rfl, .refl s.gateway, rfl, rfl, rfl, rfl, id⟩
  exact Keeps.bind close_idle fun _ => Keeps.throw _

theorem demand_eq (condition : Bool) (message : String) :
    Keeps (· = ·) (demand condition message) := by
  apply Keeps.ite
  · exact Keeps.pure _
  · exact Keeps.throw _

/-- Behind a demand that is met its condition holds. -/
theorem holds_of_demand {condition : Prop} [Decidable condition] {message : String} {u : Unit}
    (h : exec (demand condition message) s = (.ok u, t)) : condition := by
  by_contra hfails
  rw [demand, if_neg (by simpa using hfails)] at h
  cases h

theorem isClosed_answer_close (g : LiveGateway) : (g.answer .close).2.isClosed = true := by
  rw [LiveGateway.isClosed, LiveGateway.answer, List.any_append]
  exact Bool.or_true _

/-- What closes a session closes its gateway. -/
theorem closed_of_close (hopen : s.closed = false) {result : Except SessionError Unit}
    (h : exec close s = (result, t)) : t.closed = true ∧ t.gateway.isClosed = true := by
  rw [close, exec_bind_of_ok exec_get, hopen] at h
  rcases exec_bind_cases h with ⟨e, hask, -⟩ | ⟨reply, s₁, hask, h⟩
  · cases hask
  cases hask
  rcases exec_bind_cases h with ⟨e, hmodify, -⟩ | ⟨_, s₂, hmodify, h⟩
  · cases hmodify
  cases hmodify
  rw [← (demand_eq _ _).of_exec h]
  exact ⟨rfl, isClosed_answer_close s.gateway⟩

/-- A turn that fails closes the session and its gateway. -/
theorem closed_of_failTurn {α : Type} {failure : SessionError} (hopen : s.closed = false)
    {result : Except SessionError α} (h : exec (failTurn failure) s = (result, t)) :
    (t.closed = true ∧ t.gateway.isClosed = true) ∧ ¬∃ a, result = .ok a := by
  rw [failTurn, exec_bind_of_ok (exec_modify _)] at h
  rcases exec_bind_cases h with ⟨e, hclose, rfl⟩ | ⟨_, s₁, hclose, h⟩
  · exact ⟨closed_of_close (by exact hopen) hclose, not_ok_of_error⟩
  · cases h
    exact ⟨closed_of_close (by exact hopen) hclose, not_ok_of_error⟩

end Idle

/-! ## What a turn does -/

section Turns

variable {config : AccumulatorConfig} {s t : LiveSession} {row : TrialKey}

/-- The row has so many turns. -/
def HasBudget (s : LiveSession) (row : TrialKey) (budget : Int) : Prop :=
  rowTurnBudget s.setup.liveMap row.sourcePack row.sourceItemId = .ok budget

/-- A turn is opened: the session may be bound to its row, and where the turn succeeds it is, and
there is room for one turn more. -/
structure Opens (row : TrialKey) (s t : LiveSession) (succeeds : Prop) : Prop where
  state : t = { s with boundRow := t.boundRow }
  bound : t.boundRow = s.boundRow ∨
    s.boundRow = none ∧ t.boundRow = some row ∧ ∃ budget, s.HasBudget row budget
  room : succeeds → t.boundRow = some row ∧
    ∃ budget, s.HasBudget row budget ∧ s.rowTurns row < budget

theorem Opens.of_fails {first succeeds : Prop} (h : Opens row s t first) (hfails : ¬succeeds) :
    Opens row s t succeeds := ⟨h.state, h.bound, fun hsucceeds => absurd hsucceeds hfails⟩

theorem opens_of_bindRow {rowBudget : Int} (hbudget : s.HasBudget row rowBudget)
    {result : Except SessionError Unit} (h : exec (bindRow row rowBudget) s = (result, t)) :
    Opens row s t False ∧ ((∃ u, result = .ok u) → t.boundRow = some row) := by
  rw [bindRow, exec_bind_of_ok exec_get] at h
  by_cases hbound : s.boundRow = none
  · rw [if_pos hbound] at h
    rcases exec_bind_cases h with ⟨e, hdemand, rfl⟩ | ⟨_, s₁, hdemand, h⟩
    · rw [← (demand_eq _ _).of_exec hdemand]
      exact ⟨⟨rfl, .inl rfl, False.elim⟩, fun hsucceeds => absurd hsucceeds not_ok_of_error⟩
    · rw [← (demand_eq _ _).of_exec hdemand] at h
      cases h
      exact ⟨⟨rfl, .inr ⟨hbound, rfl, rowBudget, hbudget⟩, False.elim⟩, fun _ => rfl⟩
  · rw [if_neg hbound] at h
    obtain rfl := (demand_eq _ _).of_exec h
    refine ⟨⟨rfl, .inl rfl, False.elim⟩, ?_⟩
    rintro ⟨u, rfl⟩
    exact holds_of_demand h

/-- What a turn needs to be conducted. -/
theorem opens_of_openTurn {arguments : TurnArguments} {result : Except SessionError Unit}
    (h : exec (openTurn arguments) s = (result, t)) :
    Opens arguments.row s t (∃ u, result = .ok u) := by
  rw [openTurn, exec_bind_of_ok exec_get] at h
  rcases exec_bind_cases h with ⟨e, hread, rfl⟩ | ⟨rowBudget, s₁, hread, h⟩
  · obtain ⟨-, rfl⟩ := of_exec_fromExcept hread
    exact ⟨rfl, .inl rfl, fun hsucceeds => absurd hsucceeds not_ok_of_error⟩
  obtain ⟨hbudget, rfl⟩ := of_exec_fromExcept hread
  rcases exec_bind_cases h with ⟨e, hbind, rfl⟩ | ⟨_, s₁, hbind, h⟩
  · exact (opens_of_bindRow hbudget hbind).1.of_fails not_ok_of_error
  obtain ⟨hopens, hbound⟩ := opens_of_bindRow hbudget hbind
  rcases exec_bind_cases h with ⟨e, hdemand, rfl⟩ | ⟨_, s₂, hdemand, h⟩
  · obtain rfl := (demand_eq _ _).of_exec hdemand
    exact hopens.of_fails not_ok_of_error
  obtain rfl := (demand_eq _ _).of_exec hdemand
  obtain rfl := (demand_eq _ _).of_exec h
  refine ⟨hopens.state, hopens.bound, ?_⟩
  rintro ⟨u, rfl⟩
  exact ⟨hbound ⟨_, rfl⟩, rowBudget, hbudget, holds_of_demand h⟩

/-- A turn is recorded exactly where it succeeds, and hands over so many prompts at most. -/
structure Counts (row : TrialKey) (prompts : Nat) (s t : LiveSession) (succeeds : Prop) : Prop where
  setup : t.setup = s.setup
  sent : s.gateway.sent <+: t.gateway.sent
  submits_le : t.gateway.submits ≤ s.gateway.submits + prompts
  submits_eq : succeeds → t.gateway.submits = s.gateway.submits + prompts
  rowTurns : succeeds → t.rowTurns = Function.update s.rowTurns row (s.rowTurns row + 1)
  turnReceipts : succeeds → t.turnReceipts.length = s.turnReceipts.length + 1
  providerCalls : succeeds → t.providerCalls = s.providerCalls + 1
  unrecorded : ¬succeeds → t.rowTurns = s.rowTurns ∧ t.turnReceipts = s.turnReceipts ∧
    t.providerCalls = s.providerCalls

/-- A turn that fails records nothing. -/
theorem Counts.of_fails {prompts : Nat} {succeeds : Prop} (hfails : ¬succeeds)
    (hsetup : t.setup = s.setup) (hsent : s.gateway.sent <+: t.gateway.sent)
    (hsubmits : t.gateway.submits ≤ s.gateway.submits + prompts)
    (hrecords : t.rowTurns = s.rowTurns ∧ t.turnReceipts = s.turnReceipts ∧
      t.providerCalls = s.providerCalls) : Counts row prompts s t succeeds where
  setup := hsetup
  sent := hsent
  submits_le := hsubmits
  submits_eq hsucceeds := absurd hsucceeds hfails
  rowTurns hsucceeds := absurd hsucceeds hfails
  turnReceipts hsucceeds := absurd hsucceeds hfails
  providerCalls hsucceeds := absurd hsucceeds hfails
  unrecorded _ := hrecords

theorem Counts.of_idle {prompts : Nat} {succeeds : Prop} (hfails : ¬succeeds) (h : Idle s t) :
    Counts row prompts s t succeeds :=
  .of_fails hfails h.setup h.gateway.sent (h.gateway.submits.le.trans (Nat.le_add_right _ _))
    ⟨h.rowTurns, h.turnReceipts, h.providerCalls⟩

/-- What fails goes on to fail. -/
theorem Counts.idle {u : LiveSession} {prompts : Nat} {first succeeds : Prop}
    (h : Counts row prompts s t first) (hfirst : ¬first) (hidle : Idle t u) (hfails : ¬succeeds) :
    Counts row prompts s u succeeds := by
  obtain ⟨hrowTurns, hreceipts, hcalls⟩ := h.unrecorded hfirst
  apply Counts.of_fails hfails
  · exact hidle.setup.trans h.setup
  · exact h.sent.trans hidle.gateway.sent
  · exact hidle.gateway.submits.le.trans h.submits_le
  · exact ⟨hidle.rowTurns.trans hrowTurns, hidle.turnReceipts.trans hreceipts,
      hidle.providerCalls.trans hcalls⟩

/-! ### Executors -/

/-- An executor hands over so many prompts at most, and exactly so many where it succeeds; its
receipt counts one provider call. -/
structure Runs (prompts : Nat) (g : LiveGateway) (result : Except ExecutorError LiveReceipt)
    (e : ExecutorState) : Prop where
  sent : g.sent <+: e.gateway.sent
  submits_le : e.gateway.submits ≤ g.submits + prompts
  submits_eq : (∃ receipt, result = .ok receipt) → e.gateway.submits = g.submits + prompts
  providerCalls : ∀ receipt, result = .ok receipt → receipt.providerCalls = 1

theorem runs_of_runOnSession {executor : LiveExecutor} {prompt sessionId choice : PyStr}
    {expectFollowup : Bool} {g : LiveGateway} {result : Except ExecutorError LiveReceipt}
    {e : ExecutorState}
    (h : exec (executor.runOnSession config prompt sessionId choice expectFollowup)
      { gateway := g } = (result, e)) : Runs 1 g result e := by
  have hsubmits := LiveExecutor.submits_of_runOnSession h
  refine ⟨hsubmits.sent, hsubmits.submits_le, hsubmits.submits_eq, ?_⟩
  rintro receipt rfl
  rw [LiveExecutor.providerCalls_of_runOnSession h]
  exact hsubmits.providerCalls_eq ⟨receipt, rfl⟩

theorem runs_of_observeOnSession {executor : LiveExecutor} {sessionId choice : PyStr}
    {g : LiveGateway} {result : Except ExecutorError LiveReceipt} {e : ExecutorState}
    (h : exec (executor.observeOnSession config sessionId choice) { gateway := g } = (result, e)) :
    Runs 0 g result e := by
  have hspares : g.Spares e.gateway := LiveExecutor.observeOnSession_unasked.of_exec h
  refine ⟨hspares.sent, hspares.submits.le, fun _ => hspares.submits, ?_⟩
  rintro receipt rfl
  exact LiveExecutor.providerCalls_of_observeOnSession h

theorem runExecutor_cases {α : Type} {x : Executing α} {result : Except SessionError α}
    (h : exec (runExecutor x) s = (result, t)) :
    ∃ first e, exec x { gateway := s.gateway } = (first, e) ∧ t = { s with gateway := e.gateway } ∧
      ∀ a, result = .ok a → first = .ok a := by
  obtain ⟨rfl, rfl⟩ := Prod.mk.inj h
  refine ⟨(exec x { gateway := s.gateway }).1, _, rfl, rfl, ?_⟩
  intro a ha
  cases hfirst : (exec x { gateway := s.gateway }).1 with
  | error e =>
    rw [hfirst] at ha
    cases ha
  | ok b =>
    rw [hfirst] at ha
    cases ha
    rfl

/-- A turn that is conducted leaves the session open, and bound to its row. -/
theorem counts_of_conduct {path : PyStr} {plannedCalls : Int} {reading : MapReading}
    {run : LiveExecutor → PyStr → Executing LiveReceipt}
    {accepts : LiveSession → LiveReceipt → Bool} {message : String} {prompts : Nat}
    (hrun : ∀ executor sessionId g result e,
      exec (run executor sessionId) { gateway := g } = (result, e) → Runs prompts g result e)
    {result : Except SessionError LiveReceipt}
    (h : exec (conduct config row path plannedCalls reading run accepts message) s = (result, t)) :
    Counts row prompts s t (∃ receipt, result = .ok receipt) ∧ t.boundRow = s.boundRow ∧
      t.closed = s.closed := by
  have hidle : Idle s s := refl_of _ s
  rw [conduct, exec_bind_of_ok exec_get] at h
  rcases exec_bind_cases h with ⟨e, hconstruct, rfl⟩ | ⟨executor, s₁, hconstruct, h⟩
  · obtain ⟨-, rfl⟩ := of_exec_fromExcept hconstruct
    exact ⟨.of_idle not_ok_of_error hidle, rfl, rfl⟩
  obtain ⟨-, rfl⟩ := of_exec_fromExcept hconstruct
  rcases exec_bind_cases h with ⟨e, hid, rfl⟩ | ⟨sessionId, s₁, hid, h⟩
  · obtain ⟨-, rfl⟩ := of_exec_fromExcept hid
    exact ⟨.of_idle not_ok_of_error hidle, rfl, rfl⟩
  obtain ⟨-, rfl⟩ := of_exec_fromExcept hid
  rcases exec_bind_cases h with ⟨e, hexecutor, rfl⟩ | ⟨receipt, s₁, hexecutor, h⟩
  · obtain ⟨first, e, hexec, rfl, -⟩ := runExecutor_cases hexecutor
    have hruns := hrun executor sessionId s.gateway first e hexec
    exact ⟨.of_fails not_ok_of_error rfl hruns.sent hruns.submits_le ⟨rfl, rfl, rfl⟩, rfl, rfl⟩
  obtain ⟨first, e, hexec, rfl, hok⟩ := runExecutor_cases hexecutor
  have hruns := hrun executor sessionId s.gateway first e hexec
  have hreceipt : first = .ok receipt := hok receipt rfl
  rcases exec_bind_cases h with ⟨e, hdemand, rfl⟩ | ⟨_, s₂, hdemand, h⟩
  · obtain rfl := (demand_eq _ _).of_exec hdemand
    exact ⟨.of_fails not_ok_of_error rfl hruns.sent hruns.submits_le ⟨rfl, rfl, rfl⟩, rfl, rfl⟩
  obtain rfl := (demand_eq _ _).of_exec hdemand
  cases h
  refine ⟨?_, rfl, rfl⟩
  exact {
    setup := rfl
    sent := hruns.sent
    submits_le := hruns.submits_le
    submits_eq := fun _ => hruns.submits_eq ⟨receipt, hreceipt⟩
    rowTurns := fun _ => rfl
    turnReceipts := fun _ => List.length_append
    providerCalls := fun _ => congrArg (s.providerCalls + ·) (hruns.providerCalls receipt hreceipt)
    unrecorded := fun hfails => absurd ⟨receipt, rfl⟩ hfails }

/-! ### Whole turns -/

/-- What a turn does to a session that is live for it. -/
structure Effect (row : TrialKey) (prompts : Nat) (s t : LiveSession) (succeeds : Prop) : Prop
    extends Counts row prompts s t succeeds where
  bound : t.boundRow = s.boundRow ∨
    s.boundRow = none ∧ t.boundRow = some row ∧ ∃ budget, s.HasBudget row budget
  /-- Only where there is room for one turn more is a prompt handed over, or a turn recorded. -/
  spends : t.gateway.submits ≠ s.gateway.submits ∨ succeeds →
    t.boundRow = some row ∧ ∃ budget, s.HasBudget row budget ∧ s.rowTurns row < budget

/-- A turn fails, and closes the session with its gateway. -/
def Closes (t : LiveSession) (succeeds : Prop) : Prop :=
  ¬succeeds → t.closed = true ∧ t.gateway.isClosed = true

/-- A turn that is refused. -/
theorem effect_of_failTurn {α : Type} {prompts : Nat} {failure : SessionError} {succeeds : Prop}
    (hopen : s.closed = false) (hfails : ¬succeeds) {result : Except SessionError α}
    (h : exec (failTurn failure) s = (result, t)) :
    Effect row prompts s t succeeds ∧ Closes t succeeds := by
  have hidle : Idle s t := (failTurn_idle failure).of_exec h
  refine ⟨{ toCounts := .of_idle hfails hidle, bound := .inl hidle.boundRow, spends := ?_ }, ?_⟩
  · rintro (hsubmits | hsucceeds)
    · exact absurd hidle.gateway.submits hsubmits
    · exact absurd hsucceeds hfails
  · intro _
    exact (closed_of_failTurn hopen h).1

/-- A turn whose failure is caught. -/
theorem effect_of_tryCatch {prompts : Nat} {body : Sessioning LiveReceipt} {message : String}
    (hopen : s.closed = false)
    (hbody : ∀ {result t}, exec body s = (result, t) →
      Effect row prompts s t (∃ receipt, result = .ok receipt) ∧ t.closed = s.closed)
    {result : Except SessionError LiveReceipt}
    (h : exec (tryCatch body fun failure => failTurn (failure.wrapped message)) s = (result, t)) :
    Effect row prompts s t (∃ receipt, result = .ok receipt) ∧
      Closes t (∃ receipt, result = .ok receipt) := by
  rcases hexec : exec body s with ⟨first, m⟩
  obtain ⟨heffect, hclosed⟩ := hbody hexec
  cases first with
  | ok receipt =>
    rw [exec_tryCatch_of_ok hexec] at h
    cases h
    exact ⟨heffect, fun hfails => absurd ⟨receipt, rfl⟩ hfails⟩
  | error failure =>
    rw [exec_tryCatch_of_error hexec] at h
    have hidle : Idle m t := (failTurn_idle _).of_exec h
    obtain ⟨hcloses, hfails⟩ := closed_of_failTurn (hclosed.trans hopen) h
    refine ⟨?_, fun _ => hcloses⟩
    refine {
      toCounts := heffect.toCounts.idle not_ok_of_error hidle hfails
      bound := ?_
      spends := ?_ }
    · rw [hidle.boundRow]
      exact heffect.bound
    · rintro (hsubmits | hsucceeds)
      · rw [hidle.gateway.submits] at hsubmits
        rw [hidle.boundRow]
        exact heffect.spends (.inl hsubmits)
      · exact absurd hsucceeds hfails

/-- A check in front of a turn. -/
theorem effect_of_unlessFail {prompts : Nat} {condition : Prop} [Decidable condition]
    {message : String} {rest : Unit → Sessioning LiveReceipt} (hopen : s.closed = false)
    (hrest : condition → ∀ {result t}, exec (rest ()) s = (result, t) →
      Effect row prompts s t (∃ receipt, result = .ok receipt) ∧
        Closes t (∃ receipt, result = .ok receipt))
    {result : Except SessionError LiveReceipt}
    (h : exec (unlessFail condition message >>= rest) s = (result, t)) :
    Effect row prompts s t (∃ receipt, result = .ok receipt) ∧
      Closes t (∃ receipt, result = .ok receipt) := by
  by_cases hcondition : condition
  · rw [unlessFail, if_pos (by simpa using hcondition), exec_bind_of_ok (exec_pure _)] at h
    exact hrest hcondition h
  · rw [unlessFail, if_neg (by simpa using hcondition)] at h
    rcases exec_bind_cases h with ⟨e, hfail, rfl⟩ | ⟨u, s₁, hfail, -⟩
    · exact effect_of_failTurn hopen not_ok_of_error hfail
    · exact absurd ⟨u, rfl⟩ (closed_of_failTurn hopen hfail).2

theorem effect_of_turnBody {arguments : TurnArguments} {reading : MapReading}
    {result : Except SessionError LiveReceipt}
    (h : exec (openTurn arguments >>= fun _ => conductTurn config arguments reading) s =
      (result, t)) :
    Effect arguments.row 1 s t (∃ receipt, result = .ok receipt) ∧ t.closed = s.closed := by
  rcases exec_bind_cases h with ⟨e, hopen, rfl⟩ | ⟨u, m, hopen, h⟩
  · have hopens := opens_of_openTurn hopen
    obtain ⟨bound, rfl⟩ : ∃ bound, t = { s with boundRow := bound } := ⟨_, hopens.state⟩
    refine ⟨{
      toCounts := .of_fails not_ok_of_error rfl List.prefix_rfl (Nat.le_succ _) ⟨rfl, rfl, rfl⟩
      bound := hopens.bound
      spends := ?_ }, rfl⟩
    rintro (hsubmits | hsucceeds)
    · exact absurd rfl hsubmits
    · exact absurd hsucceeds not_ok_of_error
  have hopens := opens_of_openTurn hopen
  obtain ⟨hbound, hroom⟩ := hopens.room ⟨u, rfl⟩
  obtain ⟨bound, rfl⟩ : ∃ bound, m = { s with boundRow := bound } := ⟨_, hopens.state⟩
  obtain ⟨hcounts, hboundRow, hclosed⟩ :=
    counts_of_conduct (fun _ _ _ _ _ hexec => runs_of_runOnSession hexec) h
  refine ⟨{
    setup := hcounts.setup
    sent := hcounts.sent
    submits_le := hcounts.submits_le
    submits_eq := hcounts.submits_eq
    rowTurns := hcounts.rowTurns
    turnReceipts := hcounts.turnReceipts
    providerCalls := hcounts.providerCalls
    unrecorded := hcounts.unrecorded
    bound := ?_
    spends := fun _ => ⟨hboundRow.trans hbound, hroom⟩ }, hclosed⟩
  rw [hboundRow]
  exact hopens.bound

theorem closed_of_isLive (hlive : s.isLive = true) : s.closed = false := by
  simp only [isLive, Bool.and_eq_true, Bool.not_eq_true'] at hlive
  exact hlive.1.2

/-- **What `run_turn` does to a live session.** -/
theorem effect_of_runTurn {arguments : TurnArguments} {reading : MapReading}
    (hlive : s.isLive = true) {result : Except SessionError LiveReceipt}
    (h : exec (runTurn config arguments reading) s = (result, t)) :
    Effect arguments.row 1 s t (∃ receipt, result = .ok receipt) ∧
      Closes t (∃ receipt, result = .ok receipt) := by
  have hopen : s.closed = false := closed_of_isLive hlive
  rw [runTurn, exec_bind_of_ok exec_get, demand, if_pos hlive, exec_bind_of_ok (exec_pure _)] at h
  refine effect_of_unlessFail hopen (fun _ _ _ h => ?_) h
  refine effect_of_unlessFail hopen (fun _ _ _ h => ?_) h
  rw [← Bool.decide_and] at h
  refine effect_of_unlessFail hopen (fun _ _ _ h => ?_) h
  exact effect_of_tryCatch hopen effect_of_turnBody h

/-- **What `observe_delivery_turn` does to a live session that is bound to a row.** -/
theorem effect_of_observeDeliveryTurn {choice : PyStr} {reading : MapReading}
    (hlive : s.isLive = true) {bound : TrialKey} (hbound : s.boundRow = some bound) {budget : Int}
    (hbudget : s.HasBudget bound budget) {result : Except SessionError LiveReceipt}
    (h : exec (observeDeliveryTurn config row choice reading) s = (result, t)) :
    Effect row 0 s t (∃ receipt, result = .ok receipt) ∧
      Closes t (∃ receipt, result = .ok receipt) := by
  have hopen : s.closed = false := closed_of_isLive hlive
  have hready : (s.isLive && s.boundRow.isSome) = true := by rw [hlive, hbound]; rfl
  rw [observeDeliveryTurn, exec_bind_of_ok exec_get, demand, if_pos hready,
    exec_bind_of_ok (exec_pure _)] at h
  refine effect_of_unlessFail hopen (fun hrow _ _ h => ?_) h
  obtain rfl : bound = row := Option.some.inj (hbound.symm.trans hrow)
  rw [← Bool.decide_and] at h
  refine effect_of_unlessFail hopen (fun _ _ _ h => ?_) h
  rw [hbudget, exec_bind_of_ok (exec_fromExcept _)] at h
  refine effect_of_unlessFail hopen (fun hroom _ _ h => ?_) h
  refine effect_of_tryCatch hopen (fun {_ m} h => ?_) h
  obtain ⟨hcounts, hboundRow, hclosed⟩ :=
    counts_of_conduct (fun _ _ _ _ _ hexec => runs_of_observeOnSession hexec) h
  exact ⟨{
    toCounts := hcounts
    bound := .inl hboundRow
    spends := fun _ => ⟨hboundRow.trans hbound, budget, hbudget, hroom⟩ }, hclosed⟩

end Turns

/-! ## What is refused, and what is handed on -/

section Refusals

variable {config : AccumulatorConfig} {s t : LiveSession}

/-- A session that is not live takes no turn, and nothing happens to it. -/
theorem runTurn_of_not_live {arguments : TurnArguments} {reading : MapReading}
    (h : s.isLive = false) :
    exec (runTurn config arguments reading) s = (.error (.violation "session is not live"), s) := by
  rw [runTurn, exec_bind_of_ok exec_get, h]
  exact exec_bind_of_error (exec_throw _)

theorem observeDeliveryTurn_of_not_live {row : TrialKey} {choice : PyStr} {reading : MapReading}
    (h : (s.isLive && s.boundRow.isSome) = false) :
    exec (observeDeliveryTurn config row choice reading) s =
      (.error (.violation "session is not live for automatic delivery"), s) := by
  rw [observeDeliveryTurn, exec_bind_of_ok exec_get, h]
  exact exec_bind_of_error (exec_throw _)

/-- What a session hands on to its successor. -/
structure Succeeds (s t : LiveSession) : Prop where
  setup : t.setup = s.setup
  sent : t.gateway.sent = []
  boundRow : t.boundRow = s.boundRow
  rowTurns : t.rowTurns = s.rowTurns
  turnReceipts : t.turnReceipts = s.turnReceipts
  providerCalls : t.providerCalls = s.providerCalls

theorem construct_eq_ok {setup : LiveSetup} {replies : List GatewayReply}
    {plannedCalls plannedTurns : Int} {resume : PyStr} {reading : MapReading}
    (h : construct config setup replies plannedCalls plannedTurns resume reading = .ok t) :
    t.setup = setup ∧ t.gateway.sent = [] := by
  unfold construct at h
  split at h
  · cases h
  · cases h
    exact ⟨rfl, rfl⟩

theorem succeeds_of_restart {replies : List GatewayReply} {plannedCalls plannedTurns : Option Int}
    {reading : MapReading}
    (h : s.restart config replies plannedCalls plannedTurns reading = .ok t) :
    Succeeds s t := by
  unfold restart at h
  split at h
  · split_ifs at h with hclosed
    obtain ⟨resumed, hresumed, h⟩ := bind_eq_ok.mp h
    cases h
    obtain ⟨hsetup, hsent⟩ := construct_eq_ok hresumed
    exact ⟨hsetup, hsent, rfl, rfl, rfl, rfl⟩
  · cases h

end Refusals

end LiveSession

end HermesClaude.Parity
