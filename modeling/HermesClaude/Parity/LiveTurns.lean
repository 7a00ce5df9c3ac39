/-
# What a live turn hands over

A turn that submits a prompt hands over one at most, and one that it observes hands over none.  The
steps behind the submission answer approvals and read events; none of them is a prompt, so that each
keeps the relation between the gateway before and after, and with them the whole turn does.
-/

import HermesClaude.Parity.LiveExecutor

namespace HermesClaude.Parity

open HermesClaude.Python HermesClaude.Library

namespace LiveGateway

variable {g : LiveGateway} {request : GatewayRequest}

theorem submits_answer :
    (g.answer request).2.submits = g.submits + if request.isSubmit then 1 else 0 := by
  rw [submits, answer, List.countP_append, List.countP_singleton, submits]

theorem sent_answer : g.sent <+: (g.answer request).2.sent := List.prefix_append g.sent [request]

/-- A gateway that is closed stays closed. -/
theorem isClosed_of_prefix {g' : LiveGateway} (h : g.sent <+: g'.sent)
    (hclosed : g.isClosed = true) : g'.isClosed = true := by
  obtain ⟨request, hmem, hclose⟩ := List.any_eq_true.mp hclosed
  exact List.any_eq_true.mpr ⟨request, h.subset hmem, hclose⟩

end LiveGateway

/-- More may have been handed to the gateway, but no prompt. -/
structure LiveGateway.Spares (g g' : LiveGateway) : Prop where
  sent : g.sent <+: g'.sent
  submits : g'.submits = g.submits

theorem LiveGateway.Spares.refl (g : LiveGateway) : g.Spares g := ⟨List.prefix_rfl, rfl⟩

theorem LiveGateway.Spares.trans {g g' g'' : LiveGateway} (h : g.Spares g') (h' : g'.Spares g'') :
    g.Spares g'' :=
  ⟨h.sent.trans h'.sent, h'.submits.trans h.submits⟩

theorem LiveGateway.spares_answer {request : GatewayRequest} (h : request.isSubmit = false)
    (g : LiveGateway) : g.Spares (g.answer request).2 := by
  refine ⟨sent_answer, ?_⟩
  rw [submits_answer, h]
  rfl

/-- No prompt is handed to the gateway, and no provider call is counted. -/
structure ExecutorState.Spares (s t : ExecutorState) : Prop where
  gateway : s.gateway.Spares t.gateway
  providerCalls : t.providerCalls = s.providerCalls

instance : Std.Refl ExecutorState.Spares := ⟨fun s => ⟨.refl s.gateway, rfl⟩⟩

instance : IsTrans ExecutorState ExecutorState.Spares :=
  ⟨fun _ _ _ h h' => ⟨h.gateway.trans h'.gateway, h'.providerCalls.trans h.providerCalls⟩⟩

namespace LiveExecutor

open Stateful

section Spares

variable {config : AccumulatorConfig} {executor : LiveExecutor} {sessionId choice : PyStr}

theorem demand_spares (condition : Bool) (message : String) :
    Keeps ExecutorState.Spares (demand condition message) := by
  apply Keeps.ite
  · exact Keeps.pure _
  · exact Keeps.throw _

theorem ask_spares {request : GatewayRequest} (h : request.isSubmit = false) :
    Keeps ExecutorState.Spares (ask request) := by
  apply Keeps.stepping
  intro s
  exact ⟨LiveGateway.spares_answer h s.gateway, rfl⟩

/-- What an executor changes of itself is no prompt. -/
theorem modify_spares {f : ExecutorState → ExecutorState}
    (hgateway : ∀ s, (f s).gateway = s.gateway)
    (hcalls : ∀ s, (f s).providerCalls = s.providerCalls) :
    Keeps ExecutorState.Spares (modify f : Executing PUnit) := by
  apply Keeps.modify
  intro s
  refine ⟨?_, hcalls s⟩
  rw [hgateway]
  exact .refl s.gateway

theorem admitCall_spares (method : GatewayMethod) :
    Keeps ExecutorState.Spares (executor.admitCall method) := by
  refine Keeps.bind (modify_spares (fun _ => rfl) fun _ => rfl) fun _ => ?_
  refine Keeps.bind Keeps.get fun s => ?_
  refine Keeps.bind (demand_spares _ _) fun _ => ?_
  exact demand_spares _ _

theorem call_spares {method : GatewayMethod} (hmethod : method ≠ .promptSubmit)
    (parameters : Frame) : Keeps ExecutorState.Spares (executor.call method parameters) := by
  refine Keeps.bind (admitCall_spares method) fun _ => ?_
  refine Keeps.bind (ask_spares ?_) fun reply => ?_
  · exact decide_eq_false hmethod
  refine Keeps.bind (Keeps.fromExcept _) fun result => ?_
  refine Keeps.bind (demand_spares _ _) fun _ => ?_
  refine Keeps.bind (modify_spares (fun _ => rfl) ?_) fun _ => Keeps.pure _
  intro s
  rw [if_neg hmethod]
  rfl

theorem respond_spares (raw : Option Frame) (projection : EventProjection)
    (receipts : List (ApprovalRequest × ApprovalDecision)) :
    Keeps ExecutorState.Spares
      (executor.respond config sessionId choice raw projection receipts) := by
  refine Keeps.bind (Keeps.fromExcept _) fun event => ?_
  refine Keeps.bind (Keeps.fromExcept _) fun approval => ?_
  refine Keeps.bind (call_spares (by decide) _) ?_
  rintro ⟨_, response⟩
  refine Keeps.bind (Keeps.fromExcept _) fun request => ?_
  refine Keeps.bind (Keeps.fromExcept _) fun decision => ?_
  exact Keeps.bind (modify_spares (fun _ => rfl) fun _ => rfl) fun _ => Keeps.pure _

theorem next_spares (timeout : Option Rat) (progress : TurnProgress) :
    Keeps ExecutorState.Spares (executor.next config sessionId choice timeout progress) := by
  refine Keeps.bind (ask_spares rfl) fun reply => ?_
  refine Keeps.bind (Keeps.fromExcept _) fun answer => ?_
  refine Keeps.bind (demand_spares _ _) fun _ => ?_
  refine Keeps.bind (Keeps.fromExcept _) ?_
  rintro ⟨projection, kind, accumulator⟩
  refine Keeps.bind (Keeps.ite ?_ (Keeps.pure _)) fun receipts => Keeps.pure _
  exact respond_spares _ projection _

theorem follow_spares (timeout : Option Rat) (room : Nat) (progress : TurnProgress) :
    Keeps ExecutorState.Spares (executor.follow config sessionId choice timeout room progress) := by
  induction room generalizing progress with
  | zero => exact Keeps.bind (next_spares timeout progress) fun _ => Keeps.throw _
  | succ room ih =>
    refine Keeps.bind (next_spares timeout progress) ?_
    rintro ⟨projection, raw, after⟩
    cases hterminal : projection.terminalStatus with
    | none =>
      simp only [hterminal]
      exact ih after
    | some terminal =>
      simp only [hterminal]
      exact Keeps.pure _

theorem settle_spares (rounds : Nat) : Keeps ExecutorState.Spares (settle rounds) := by
  induction rounds with
  | zero => exact Keeps.throw _
  | succ rounds ih =>
    refine Keeps.bind (ask_spares rfl) fun reply => ?_
    refine Keeps.bind (Keeps.fromExcept _) fun more => ?_
    exact Keeps.ite ih (Keeps.pure _)

/-- A submitted turn hands over no prompt once the first one is accepted. -/
theorem finishTurn_spares (expectFollowup : Bool) :
    Keeps ExecutorState.Spares
      (executor.finishTurn config sessionId choice true expectFollowup) := by
  refine Keeps.bind (follow_spares _ _ _) fun ended => ?_
  refine Keeps.bind (Keeps.ite (Keeps.pure _) (settle_spares _)) fun _ => ?_
  refine Keeps.bind (demand_spares _ _) fun _ => ?_
  refine Keeps.bind (Keeps.pure _) fun _ => ?_
  exact Keeps.bind Keeps.get fun _ => Keeps.pure _

end Spares

/-! ## What a turn hands over -/

section Turns

variable {config : AccumulatorConfig} {executor : LiveExecutor} {sessionId choice : PyStr}
  {s t : ExecutorState}

/-- No prompt is handed to the gateway. -/
def Unasked (s t : ExecutorState) : Prop := s.gateway.Spares t.gateway

instance : Std.Refl Unasked := ⟨fun s => .refl s.gateway⟩

instance : IsTrans ExecutorState Unasked := ⟨fun _ _ _ h h' => h.trans h'⟩

theorem Unasked.of_spares (h : s.Spares t) : Unasked s t := h.gateway

/-- What an executor changes of itself leaves the gateway alone. -/
theorem modify_unasked {f : ExecutorState → ExecutorState} (h : ∀ s, (f s).gateway = s.gateway) :
    Keeps Unasked (modify f : Executing PUnit) := by
  apply Keeps.modify
  intro s
  rw [Unasked, h]
  exact .refl s.gateway

theorem acceptReply_unasked (method : GatewayMethod) (reply : GatewayReply) :
    Keeps Unasked (executor.acceptReply method reply) := by
  refine Keeps.bind (Keeps.fromExcept _) fun result => ?_
  refine Keeps.bind ((demand_spares _ _).mono fun _ _ => Unasked.of_spares) fun _ => ?_
  exact Keeps.bind (modify_unasked fun _ => rfl) fun _ => Keeps.pure _

theorem providerCalls_of_acceptReply {method : GatewayMethod} {reply : GatewayReply}
    {result : List PyValue × Frame}
    (h : exec (executor.acceptReply method reply) s = (.ok result, t)) :
    t.providerCalls = s.providerCalls + if method = .promptSubmit then 1 else 0 := by
  obtain ⟨envelope, s₁, henvelope, h⟩ := exec_bind_eq_ok h
  obtain ⟨_, s₂, hdemand, h⟩ := exec_bind_eq_ok h
  have hfirst : s.Spares s₁ := (Keeps.fromExcept _).of_exec henvelope
  have hsecond : s₁.Spares s₂ := (demand_spares _ _).of_exec hdemand
  have hcalls : s₂.providerCalls = s.providerCalls := (trans_of _ hfirst hsecond).providerCalls
  cases h
  rw [← hcalls]

/-- At most one prompt is handed over, and exactly one where the submission succeeds. -/
structure Submits (s t : ExecutorState) (succeeds : Prop) : Prop where
  sent : s.gateway.sent <+: t.gateway.sent
  submits_le : t.gateway.submits ≤ s.gateway.submits + 1
  submits_eq : succeeds → t.gateway.submits = s.gateway.submits + 1
  providerCalls_eq : succeeds → t.providerCalls = s.providerCalls + 1

/-- Where the turn fails before it has asked the gateway, nothing is handed over. -/
theorem Submits.of_spares (h : s.Spares t) {succeeds : Prop} (hfails : ¬succeeds) :
    Submits s t succeeds where
  sent := h.gateway.sent
  submits_le := h.gateway.submits.le.trans (Nat.le_succ _)
  submits_eq hsucceeds := absurd hsucceeds hfails
  providerCalls_eq hsucceeds := absurd hsucceeds hfails

theorem Submits.of_fails {first succeeds : Prop} (h : Submits s t first) (hfails : ¬succeeds) :
    Submits s t succeeds where
  sent := h.sent
  submits_le := h.submits_le
  submits_eq hsucceeds := absurd hsucceeds hfails
  providerCalls_eq hsucceeds := absurd hsucceeds hfails

theorem Submits.after {r : ExecutorState} {succeeds : Prop} (hbefore : r.Spares s)
    (h : Submits s t succeeds) : Submits r t succeeds where
  sent := hbefore.gateway.sent.trans h.sent
  submits_le := hbefore.gateway.submits ▸ h.submits_le
  submits_eq hsucceeds := hbefore.gateway.submits ▸ h.submits_eq hsucceeds
  providerCalls_eq hsucceeds := hbefore.providerCalls ▸ h.providerCalls_eq hsucceeds

theorem Submits.before {u : ExecutorState} {succeeds : Prop} (h : Submits s t True)
    (hafter : t.Spares u) : Submits s u succeeds where
  sent := h.sent.trans hafter.gateway.sent
  submits_le := hafter.gateway.submits ▸ h.submits_le
  submits_eq _ := hafter.gateway.submits.trans (h.submits_eq trivial)
  providerCalls_eq _ := hafter.providerCalls.trans (h.providerCalls_eq trivial)

/-- `prompt.submit` hands over one prompt at most, and counts it where its answer is accepted. -/
theorem submits_of_call {parameters : Frame} {result : Except ExecutorError (List PyValue × Frame)}
    (h : exec (executor.call .promptSubmit parameters) s = (result, t)) :
    Submits s t (∃ answer, result = .ok answer) := by
  rcases exec_bind_cases h with ⟨e, hadmit, rfl⟩ | ⟨_, s₁, hadmit, h⟩
  · exact .of_spares ((admitCall_spares _).of_exec hadmit) not_ok_of_error
  refine .after ((admitCall_spares _).of_exec hadmit) ?_
  rcases exec_bind_cases h with ⟨e, hask, -⟩ | ⟨reply, s₂, hask, h⟩
  · cases hask
  cases hask
  have hasked : (s₁.gateway.answer (.call .promptSubmit parameters)).2.submits =
      s₁.gateway.submits + 1 := LiveGateway.submits_answer
  have haccept := (acceptReply_unasked _ _).of_exec h
  refine {
    sent := LiveGateway.sent_answer.trans haccept.sent
    submits_le := (haccept.submits.trans hasked).le
    submits_eq := fun _ => haccept.submits.trans hasked
    providerCalls_eq := ?_ }
  rintro ⟨answer, rfl⟩
  exact providerCalls_of_acceptReply h

theorem submits_of_submit {prompt : PyStr} {result : Except ExecutorError Unit}
    (h : exec (executor.submit sessionId prompt) s = (result, t)) :
    Submits s t (∃ u, result = .ok u) := by
  rcases exec_bind_cases h with ⟨e, hcall, rfl⟩ | ⟨answer, s₁, hcall, h⟩
  · exact (submits_of_call hcall).of_fails not_ok_of_error
  have hsubmits : Submits s s₁ True := by simpa using submits_of_call hcall
  exact hsubmits.before ((demand_spares _ _).of_exec h)

/-- The receipt tells the provider calls that the executor has counted. -/
theorem providerCalls_of_finishTurn {submitPrompt expectFollowup : Bool} {receipt : LiveReceipt}
    (h : exec (executor.finishTurn config sessionId choice submitPrompt expectFollowup) s =
      (.ok receipt, t)) : receipt.providerCalls = t.providerCalls := by
  obtain ⟨ended, s₁, -, h⟩ := exec_bind_eq_ok h
  obtain ⟨_, s₂, -, h⟩ := exec_bind_eq_ok h
  obtain ⟨_, s₃, -, h⟩ := exec_bind_eq_ok h
  obtain ⟨_, s₄, -, h⟩ := exec_bind_eq_ok h
  obtain ⟨s₅, s₆, hget, h⟩ := exec_bind_eq_ok h
  cases hget
  cases h
  rfl

theorem finishTurn_unasked (expectFollowup : Bool) :
    Keeps Unasked (executor.finishTurn config sessionId choice false expectFollowup) := by
  have hspares {α : Type} {x : Executing α} (h : Keeps ExecutorState.Spares x) : Keeps Unasked x :=
    h.mono fun _ _ => Unasked.of_spares
  refine Keeps.bind (hspares (follow_spares _ _ _)) fun ended => ?_
  refine Keeps.bind (Keeps.ite (Keeps.pure _) (hspares (settle_spares _))) fun _ => ?_
  refine Keeps.bind (hspares (demand_spares _ _)) fun _ => ?_
  refine Keeps.bind ?_ fun _ => Keeps.bind Keeps.get fun _ => Keeps.pure _
  exact Keeps.bind (Keeps.fromExcept _) fun _ => modify_unasked fun _ => rfl

theorem admitTurn_spares (promptCheck : Except ExecutorError Unit) :
    Keeps ExecutorState.Spares (admitTurn config promptCheck sessionId choice) := by
  refine Keeps.bind ?_ fun _ => ?_
  · refine Keeps.bind Keeps.get fun s => ?_
    refine Keeps.bind (demand_spares _ _) fun _ => ?_
    exact modify_spares (fun _ => rfl) fun _ => rfl
  refine Keeps.bind (Keeps.fromExcept _) fun _ => ?_
  refine Keeps.bind (demand_spares _ _) fun _ => ?_
  exact Keeps.fromExcept _

/-- **A submitted turn hands over one prompt at most**, and exactly one where it succeeds. -/
theorem submits_of_runOnSession {prompt : PyStr} {expectFollowup : Bool}
    {result : Except ExecutorError LiveReceipt}
    (h : exec (executor.runOnSession config prompt sessionId choice expectFollowup) s =
      (result, t)) :
    Submits s t (∃ receipt, result = .ok receipt) := by
  rcases exec_bind_cases h with ⟨e, hadmit, rfl⟩ | ⟨named, s₁, hadmit, h⟩
  · exact .of_spares ((admitTurn_spares _).of_exec hadmit) not_ok_of_error
  refine .after ((admitTurn_spares _).of_exec hadmit) ?_
  rcases exec_bind_cases h with ⟨e, hsubmit, rfl⟩ | ⟨_, s₂, hsubmit, h⟩
  · exact (submits_of_submit hsubmit).of_fails not_ok_of_error
  have hsubmits : Submits s₁ s₂ True := by simpa using submits_of_submit hsubmit
  exact hsubmits.before ((finishTurn_spares _).of_exec h)

/-- The receipt of a submitted turn counts what its executor has counted. -/
theorem providerCalls_of_runOnSession {prompt : PyStr} {expectFollowup : Bool}
    {receipt : LiveReceipt}
    (h : exec (executor.runOnSession config prompt sessionId choice expectFollowup) s =
      (.ok receipt, t)) : receipt.providerCalls = t.providerCalls := by
  obtain ⟨named, s₁, -, h⟩ := exec_bind_eq_ok h
  obtain ⟨_, s₂, -, h⟩ := exec_bind_eq_ok h
  exact providerCalls_of_finishTurn h

/-- **A turn of the host is observed without a prompt.** -/
theorem observeOnSession_unasked :
    Keeps Unasked (executor.observeOnSession config sessionId choice) := by
  refine Keeps.bind ((admitTurn_spares _).mono fun _ _ => Unasked.of_spares) fun _ => ?_
  exact finishTurn_unasked false

/-- Its receipt counts one provider call. -/
theorem providerCalls_of_observeOnSession {receipt : LiveReceipt}
    (h : exec (executor.observeOnSession config sessionId choice) s = (.ok receipt, t)) :
    receipt.providerCalls = 1 := by
  obtain ⟨named, s₁, -, h⟩ := exec_bind_eq_ok h
  obtain ⟨ended, s₂, -, h⟩ := exec_bind_eq_ok h
  obtain ⟨_, s₃, -, h⟩ := exec_bind_eq_ok h
  obtain ⟨_, s₄, -, h⟩ := exec_bind_eq_ok h
  obtain ⟨_, s₅, hproof, h⟩ := exec_bind_eq_ok h
  obtain ⟨_, s₆, -, hproof⟩ := exec_bind_eq_ok hproof
  obtain ⟨s₇, s₈, hget, h⟩ := exec_bind_eq_ok h
  cases hproof
  cases hget
  cases h
  rfl

end Turns

end LiveExecutor

end HermesClaude.Parity
