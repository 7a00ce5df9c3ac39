/-
# The budget of a live row

A session is closed when one of its turns fails, so that it spends no more than the prompt that it
has lost; and there was room for that one.  Its successor knows nothing of the prompt: it is given
the counters, and may spend as much again.

A chain that takes up no session which has lost a prompt stays within the budget of its row.
-/

import HermesClaude.Parity.LiveChain

namespace HermesClaude.Parity

open HermesClaude.Python HermesClaude.Library

/-- The operation takes up a session again. -/
def ChainOperation.isRestart : ChainOperation → Bool
  | .restart _ _ _ _ => true
  | _ => false

/-- No session is taken up again that has lost a prompt. -/
def TakesUpNoLoss (c : Chain) (operation : ChainOperation) : Prop :=
  operation.isRestart = true → c.current.lostPrompts = 0

instance (c : Chain) (operation : ChainOperation) : Decidable (TakesUpNoLoss c operation) :=
  inferInstanceAs (Decidable (_ → _))

/-- The row of the chain pays for all of its turns, a turn that failed has closed its gateway, and
nothing was handed over outside the turns. -/
structure Chain.KeepsBudget (setup : LiveSetup) (c : Chain) : Prop where
  within : c.spent = 0 ∨ ∃ (row : TrialKey) (budget : Int),
    rowTurnBudget setup.liveMap row.sourcePack row.sourceItemId = .ok budget ∧ c.spent ≤ budget ∧
      ∀ link ∈ c.links, ∀ record ∈ link.turns, record.spent ≠ 0 → record.row = row
  accounted : ∀ link ∈ c.links, link.session.gateway.submits = link.prompts
  closed : ∀ link ∈ c.links, ∀ record ∈ link.turns, record.failed = true →
    link.session.gateway.isClosed = true

/-! ## Runs that take up no loss -/

section Books

variable {config : AccumulatorConfig} {setup : LiveSetup} {c : Chain} {s t : LiveSession}
  {replies : List GatewayReply} {plannedCalls plannedTurns : Int} {resume : Option PyStr}

open Stateful LiveSession

/-- The earlier sessions have lost no prompt, and the row pays for what the last one has lost. -/
structure NoLoss (c : Chain) : Prop where
  earlier : ∀ link ∈ c.earlier, link.lostPrompts = 0
  current : ∀ row budget, c.current.session.boundRow = some row →
    c.current.session.HasBudget row budget →
      c.current.session.rowTurns row + c.current.lostPrompts ≤ budget

theorem NoLoss.idle (h : NoLoss c) (hidle : Idle c.current.session t) :
    NoLoss { c with current := { c.current with session := t } } where
  earlier := h.earlier
  current row budget hrow hbudget := by
    have hlost := h.current row budget (hidle.boundRow.symm.trans hrow)
      ((hasBudget_congr hidle.setup).mp hbudget)
    rw [← hidle.rowTurns] at hlost
    exact hlost

/-- A session that is open has lost no prompt. -/
theorem lostPrompts_of_open (h : ChainBooks setup c) (hopen : c.current.session.closed = false) :
    c.current.lostPrompts = 0 := by
  have hnone : c.current.turns.filter TurnRecord.failed = [] := by
    rw [List.filter_eq_nil_iff]
    intro record hrecord
    rw [h.lively hopen record hrecord]
    exact Bool.false_ne_true
  rw [Link.lostPrompts, hnone]
  rfl

theorem NoLoss.turn (h : NoLoss c) (hbooks : ChainBooks setup c)
    (hopen : c.current.session.closed = false) {row : TrialKey} {delivery ok : Bool} {prompts : Nat}
    (hcosts : Costs delivery prompts)
    (heffect : Effect row prompts c.current.session t (ok = true)) :
    NoLoss { c with current := c.current.add t (.of c.current.session t row delivery ok) } where
  earlier := h.earlier
  current other budget hother hbudget := by
    obtain ⟨budget', hbudget', hcounted⟩ :=
      budget_of_effect hbooks.unbound hbooks.budget heffect hother
    obtain rfl := hasBudget_unique hbudget' hbudget
    rw [lostPrompts_add, lostPrompts_of_open hbooks hopen, Nat.zero_add, TurnRecord.of]
    by_cases hlost : ok = true ∨ t.gateway.submits = c.current.session.gateway.submits
    · have hnothing :
          (if !ok then t.gateway.submits - c.current.session.gateway.submits else 0) = 0 := by
        rcases hlost with hok | hsame
        · rw [hok]
          rfl
        · rw [hsame, Nat.sub_self, ite_self]
      rw [hnothing, Nat.cast_zero, add_zero]
      exact hcounted
    · obtain ⟨hfails, hsubmits⟩ := not_or.mp hlost
      -- the turn has handed over its prompt, so that there was room for it
      obtain ⟨hbound, budget, hroom, hless⟩ := heffect.spends (.inl hsubmits)
      obtain rfl : row = other := Option.some.inj (hbound.symm.trans hother)
      obtain rfl : budget = budget' :=
        hasBudget_unique hroom ((hasBudget_congr heffect.setup).mp hbudget)
      have hone : prompts + (if delivery then 1 else 0) = 1 := hcosts
      have hle := heffect.submits_le
      have hturns : t.rowTurns row = c.current.session.rowTurns row := by
        rw [(heffect.unrecorded hfails).1]
      rw [Bool.eq_false_of_not_eq_true hfails]
      change ((t.rowTurns row : Nat) : Int) +
        ((t.gateway.submits - c.current.session.gateway.submits : Nat) : Int) ≤ budget
      rw [hturns]
      omega

theorem NoLoss.restart (h : NoLoss c) (hbooks : ChainBooks setup c)
    (hkept : c.current.lostPrompts = 0) (hsucceeds : Succeeds c.current.session t) :
    NoLoss { current := { session := t }, earlier := c.links } where
  earlier := List.forall_mem_cons.mpr ⟨hkept, h.earlier⟩
  current row budget hrow hbudget := by
    obtain ⟨budget', hbudget', hcounted⟩ := hbooks.budget row (hsucceeds.boundRow.symm.trans hrow)
    obtain rfl : budget' = budget :=
      hasBudget_unique hbudget' ((hasBudget_congr hsucceeds.setup).mp hbudget)
    change ((t.rowTurns row : Nat) : Int) + ((0 : Nat) : Int) ≤ budget'
    rw [hsucceeds.rowTurns, Nat.cast_zero, add_zero]
    exact hcounted

/-- An operation that takes up no loss causes none that the row would not pay for. -/
theorem NoLoss.step (h : NoLoss c) (hbooks : ChainBooks setup c) {c' : Chain}
    {operation : ChainOperation} (hkept : TakesUpNoLoss c operation)
    (hstep : ChainStep c operation c') : NoLoss c' := by
  cases hstep with
  | refused => exact h
  | idle hidle => exact h.idle hidle
  | turn hopen hcosts heffect hcloses => exact h.turn hbooks hopen hcosts heffect
  | restart hsucceeds => exact h.restart hbooks (hkept rfl) hsucceeds

theorem noLoss_of_reachable
    (h : (chainSystem config setup replies plannedCalls plannedTurns resume).ReachableUnder
      TakesUpNoLoss c) : NoLoss c := by
  refine System.ReachableUnder.invariant ?_ ?_ h
  · exact {
      earlier := fun link hlink => absurd hlink List.not_mem_nil
      current := fun row budget hrow => by cases hrow }
  · intro c c' operation hreached hnoLoss hkept hnext
    have hbooks : ChainBooks setup c := chainBooks_of_reachable hreached.reachable
    obtain rfl := Option.some.inj hnext
    exact hnoLoss.step hbooks hkept (hbooks.chainStep operation)

/-- A session that is bound to no row has lost nothing. -/
theorem lostPrompts_of_unbound {l : Link} (h : LinkBooks none l) : l.lostPrompts = 0 := by
  apply List.sum_eq_zero
  intro prompts hprompts
  obtain ⟨record, hrecord, rfl⟩ := List.mem_map.mp hprompts
  by_contra hsome
  have hspent : record.spent ≠ 0 := by
    rw [TurnRecord.spent]
    omega
  cases h.rows record (List.mem_of_mem_filter hrecord) hspent

/-- Where no loss was taken up, only the last session may have lost a prompt. -/
theorem NoLoss.lostPrompts (h : NoLoss c) : c.lostPrompts = c.current.lostPrompts := by
  have hearlier : (c.earlier.map Link.lostPrompts).sum = 0 := by
    apply List.sum_eq_zero
    intro lost hlost
    obtain ⟨link, hlink, rfl⟩ := List.mem_map.mp hlost
    exact h.earlier link hlink
  rw [Chain.lostPrompts, Chain.links, List.map_cons, List.sum_cons, hearlier, Nat.add_zero]

end Books

/-- **Live provider calls stay within the budget of their row** in every run that takes up no
session which has lost a prompt; a turn that fails closes its gateway. -/
theorem budget_kept (config : AccumulatorConfig) (setup : LiveSetup) (replies : List GatewayReply)
    (plannedCalls plannedTurns : Int) (resume : Option PyStr) {c : Chain}
    (h : (chainSystem config setup replies plannedCalls plannedTurns resume).ReachableUnder
      TakesUpNoLoss c) : c.KeepsBudget setup := by
  have hbooks : ChainBooks setup c := chainBooks_of_reachable h.reachable
  have hnoLoss : NoLoss c := noLoss_of_reachable h
  refine ⟨?_, fun link hlink => (hbooks.links link hlink).accounted,
    fun link hlink => (hbooks.links link hlink).closed⟩
  have hspent : c.spent = c.current.session.countedTurns + c.current.lostPrompts :=
    hnoLoss.lostPrompts ▸ hbooks.spent
  cases hbound : c.current.session.boundRow with
  | none =>
    have hlink : LinkBooks none c.current := hbound ▸ hbooks.links c.current List.mem_cons_self
    left
    rw [hspent, lostPrompts_of_unbound hlink, LiveSession.countedTurns, hbound]
    rfl
  | some row =>
    obtain ⟨budget, hbudget, -⟩ := hbooks.budget row hbound
    right
    refine ⟨row, budget, hbooks.setup ▸ hbudget, ?_, ?_⟩
    · rw [hspent, LiveSession.countedTurns, hbound, Option.elim_some, Nat.cast_add]
      exact hnoLoss.current row budget hbound hbudget
    · intro link hlink record hrecord hcost
      have hrow := (hbooks.links link hlink).rows record hrecord hcost
      exact Option.some.inj (hrow.symm.trans hbound)

/-! ## Two chains -/

/-- The hash of the map in the chains below. -/
def chainMapHash : PyStr := List.replicate 64 0x61

/-- An admitted candidate. -/
def liveCandidate : List (PyStr × PyStr) :=
  [(lit "plugin_sha", List.replicate 40 0x31), (lit "host_sha", List.replicate 40 0x32),
    (lit "wheel_sha256", List.replicate 64 0x33), (lit "profile_sha256", List.replicate 64 0x34),
    (lit "sdk_distribution", lit "claude-agent-sdk"), (lit "sdk_version", lit "0.2.151"),
    (lit "cli_version", lit "2.1.258"), (lit "model", lit "claude-fable-5-1"),
    (lit "runner_id", lit "hermes-parity-v4"), (lit "runner_version", lit "4.0.0")]

/-- A setup whose map has one row. -/
def rowSetup (row : LiveRow) : LiveSetup where
  candidate := liveCandidate
  candidateHash := chainMapHash
  preflightHash := chainMapHash
  liveMap := [row]
  expectedMapHash := chainMapHash

/-- The map is read as it was. -/
def sameMap : MapReading := .valid (some chainMapHash)

/-- A gateway that starts a session. -/
def startedReplies : List GatewayReply :=
  [{}, { shown := [.dict [(.str (lit "session_id"), .str (lit "live")),
    (.str (lit "stored_session_id"), .str (lit "stored"))]] }]

/-- It completes a turn, and is closed. -/
def completedReplies : List GatewayReply :=
  [{ answer := .ok (.value (.dict [])) },
    { answer := .ok (.projection {
      eventType := lit "message.complete"
      byteLength := 2
      sha256 := chainMapHash
      terminalStatus := some (lit "completed") }) },
    { answer := .error .quiet }, {}]

/-- The row of the map whose sessions are restarted, with two calls for each trial. -/
def liveRestartRow : LiveRow where
  sourcePack := lit "openclaw_active"
  sourceItemId := lit "config-restart-capability-flip"
  predecessorExecutionId := lit "active-config-restart-capability-flip"
  mandatoryPaths := ["positive", "denial", "recovery"].map lit
  requiredTrialIndexes := [1, 2, 3]
  parentCalls := some 6

/-- A turn on a trial of a row. -/
def promptOn (row : LiveRow) (trialIndex : Int) : ChainOperation :=
  .runTurn { prompt := lit "go on", row := ⟨row.sourcePack, row.sourceItemId, trialIndex⟩ } sameMap

/-- A turn before the restart, and one behind it. -/
def turnsAroundRestart : List ChainOperation :=
  [.start, promptOn liveRestartRow 2, .close,
    .restart (startedReplies ++ completedReplies) none none sameMap, .start,
    promptOn liveRestartRow 2]

/-- The chains on that row, whose first gateway completes a turn. -/
def liveRestartChains : System Chain ChainOperation :=
  chainSystem asciiAccumulator (rowSetup liveRestartRow) (startedReplies ++ completedReplies) 2 2 none

theorem budget_kept_restart : ∃ c : Chain, liveRestartChains.ReachableUnder TakesUpNoLoss c ∧
    c.spent = 2 ∧ c.KeepsBudget (rowSetup liveRestartRow) := by
  obtain ⟨c, hreached, hspent⟩ :
      ∃ c : Chain, liveRestartChains.ReachableUnder TakesUpNoLoss c ∧ c.spent = 2 := by
    refine System.exists_reachableUnder_of_runChecked
      (fun c operation (h : decide (TakesUpNoLoss c operation) = true) => of_decide_eq_true h)
      turnsAroundRestart ?_
    decide +kernel
  exact ⟨c, hreached, hspent, budget_kept _ _ _ _ _ _ hreached⟩

/-- The row of the map with one call for its one trial. -/
def liveParentRow : LiveRow where
  sourcePack := lit "v2_non_soak"
  sourceItemId := lit "PARENT-01"
  predecessorExecutionId := lit "v2-parent-01"
  mandatoryPaths := [lit "positive"]
  requiredTrialIndexes := [1]
  parentCalls := some 1

/-- The gateway loses a prompt, and another one completes the same turn. -/
def turnTakenUp : List ChainOperation :=
  [.start, promptOn liveParentRow 1,
    .restart (startedReplies ++ completedReplies) none none sameMap, .start,
    promptOn liveParentRow 1]

/-- No row of that map pays for more than one call. -/
theorem budget_liveParentRow {sourcePack sourceItemId : PyStr} {budget : Int}
    (h : rowTurnBudget [liveParentRow] sourcePack sourceItemId = .ok budget) : budget = 1 := by
  unfold rowTurnBudget at h
  rw [List.find?_singleton] at h
  split_ifs at h
  exact (Except.ok.inj h).symm

/-- The chains on that row, whose first gateway fails in the submission of a prompt. -/
def liveParentChains : System Chain ChainOperation :=
  chainSystem asciiAccumulator (rowSetup liveParentRow)
    (startedReplies ++ [{ answer := .error .other }]) 1 1 none

/-- A row that pays for one call has two prompts submitted. -/
theorem budget_exceeded :
    ∃ c : Chain, liveParentChains.Reachable c ∧ ¬c.KeepsBudget (rowSetup liveParentRow) := by
  obtain ⟨c, hreached, hspent⟩ : ∃ c : Chain, liveParentChains.Reachable c ∧ c.spent = 2 := by
    apply System.exists_reachable_of_run turnTakenUp
    decide +kernel
  refine ⟨c, hreached, ?_⟩
  rintro ⟨hzero | ⟨row, budget, hbudget, hle, -⟩, -, -⟩
  · omega
  · have hone : budget = 1 := budget_liveParentRow hbudget
    omega

end HermesClaude.Parity
