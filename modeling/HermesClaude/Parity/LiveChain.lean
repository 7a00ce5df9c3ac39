/-
# Chains of live sessions

Sessions that take each other up form a chain, and all of them work on one trial of one row.  What
the trial has cost is what the gateways of the chain were given, not what a session has counted: a
prompt whose turn fails is paid for and is in no counter.

The books of a chain balance in every run: what was paid for is what was counted, and what was lost.
-/

import HermesClaude.Library.System
import HermesClaude.Parity.LiveSessionTurns

namespace HermesClaude.Parity

open HermesClaude.Python HermesClaude.Library

/-- A turn that was asked of a session which was live for it. -/
structure TurnRecord where
  row : TrialKey
  /-- How many prompts the turn has handed to the gateway. -/
  prompts : Nat
  /-- It is a turn of the host, and was accepted. -/
  delivered : Bool
  /-- It has raised. -/
  failed : Bool

namespace TurnRecord

/-- What the turn has cost. -/
def spent (record : TurnRecord) : Nat := record.prompts + if record.delivered then 1 else 0

/-- The record of a turn that has led from one state of its session to another. -/
def of (s t : LiveSession) (row : TrialKey) (delivery ok : Bool) : TurnRecord where
  row
  prompts := t.gateway.submits - s.gateway.submits
  delivered := delivery && ok
  failed := !ok

end TurnRecord

/-- A session of a chain, with the turns that were asked of it. -/
structure Link where
  session : LiveSession
  turns : List TurnRecord := []

namespace Link

/-- The prompts that the turns have handed over. -/
def prompts (l : Link) : Nat := (l.turns.map TurnRecord.prompts).sum

/-- The turns of the host that were accepted. -/
def deliveries (l : Link) : Nat := l.turns.countP TurnRecord.delivered

/-- The prompts that were handed over by turns which failed. -/
def lostPrompts (l : Link) : Nat := ((l.turns.filter TurnRecord.failed).map TurnRecord.prompts).sum

/-- What the session has cost. -/
def spent (l : Link) : Nat := l.session.gateway.submits + l.deliveries

/-- One more turn. -/
def add (l : Link) (t : LiveSession) (record : TurnRecord) : Link where
  session := t
  turns := l.turns ++ [record]

end Link

/-- The last session of a chain, and those it has followed. -/
structure Chain where
  current : Link
  earlier : List Link := []

/-- An operation on the last session of a chain. -/
inductive ChainOperation
  | start
  | runTurn (arguments : TurnArguments) (reading : MapReading)
  | observeDeliveryTurn (row : TrialKey) (approvalChoice : PyStr) (reading : MapReading)
  | close
  | /-- The session that `restart` returns is the last one, with a gateway of its own. -/
    restart (replies : List GatewayReply) (plannedCalls plannedTurns : Option Int)
      (reading : MapReading)

namespace Chain

/-- All the sessions. -/
def links (c : Chain) : List Link := c.current :: c.earlier

/-- What the chain has cost: the prompts that its gateways were given, and the turns of the host
that were accepted. -/
def spent (c : Chain) : Nat := (c.links.map Link.spent).sum

/-- The prompts that were handed over by turns which failed. -/
def lostPrompts (c : Chain) : Nat := (c.links.map Link.lostPrompts).sum

/-- Do something to the last session that is no turn. -/
def idle {α : Type} (c : Chain) (x : Sessioning α) : Chain :=
  { c with current := { c.current with session := (x.exec c.current.session).2 } }

/-- Ask a turn of the last session; it is on record if the session is live for it. -/
def turn (c : Chain) (live : Bool) (row : TrialKey) (delivery : Bool) (x : Sessioning LiveReceipt) :
    Chain :=
  let outcome := x.exec c.current.session
  if live then
    { c with current :=
      c.current.add outcome.2 (.of c.current.session outcome.2 row delivery outcome.1.isOk) }
  else { c with current := { c.current with session := outcome.2 } }

/-- An operation, whether it raises or not. -/
def step (config : AccumulatorConfig) (c : Chain) : ChainOperation → Chain
  | .start => c.idle (LiveSession.start config)
  | .close => c.idle LiveSession.close
  | .runTurn arguments reading =>
    c.turn c.current.session.isLive arguments.row false
      (LiveSession.runTurn config arguments reading)
  | .observeDeliveryTurn row approvalChoice reading =>
    c.turn (c.current.session.isLive && c.current.session.boundRow.isSome) row true
      (LiveSession.observeDeliveryTurn config row approvalChoice reading)
  | .restart replies plannedCalls plannedTurns reading =>
    match c.current.session.restart config replies plannedCalls plannedTurns reading with
    | .ok resumed => { current := { session := resumed }, earlier := c.links }
    | .error _ => c

end Chain

/-- The chains that begin with a session of this setup, as its constructor leaves it. -/
def chainSystem (config : AccumulatorConfig) (setup : LiveSetup) (replies : List GatewayReply)
    (plannedCalls plannedTurns : Int) (resume : Option PyStr) : System Chain ChainOperation where
  init := { current := { session := {
    setup
    gateway := { replies }
    plannedCalls
    plannedTurns
    resumeStoredSessionId := resume } } }
  next c operation := some (c.step config operation)

/-! ## The books -/

/-- The turns that a session has counted for the row it is bound to. -/
def LiveSession.countedTurns (s : LiveSession) : Nat := s.boundRow.elim 0 s.rowTurns

/-- What holds of a session of a chain that is bound to this row, if it is bound. -/
structure LinkBooks (boundRow : Option TrialKey) (l : Link) : Prop where
  rows : ∀ record ∈ l.turns, record.spent ≠ 0 → boundRow = some record.row
  accounted : l.session.gateway.submits = l.prompts
  closed : ∀ record ∈ l.turns, record.failed = true → l.session.gateway.isClosed = true

/-- What holds of a chain in every run. -/
structure ChainBooks (setup : LiveSetup) (c : Chain) : Prop where
  setup : c.current.session.setup = setup
  /-- What was paid for is what was counted, and what was lost. -/
  spent : c.spent = c.current.session.countedTurns + c.lostPrompts
  unbound : c.current.session.boundRow = none → ∀ row, c.current.session.rowTurns row = 0
  budget : ∀ row, c.current.session.boundRow = some row → ∃ budget,
    c.current.session.HasBudget row budget ∧ c.current.session.rowTurns row ≤ budget
  receipts : c.current.session.turnReceipts.length = c.current.session.countedTurns
  providerCalls : c.current.session.providerCalls = c.current.session.countedTurns
  links : ∀ link ∈ c.links, LinkBooks c.current.session.boundRow link
  /-- A session is open only while none of its turns has failed. -/
  lively : c.current.session.closed = false → ∀ record ∈ c.current.turns, record.failed = false

section Books

variable {config : AccumulatorConfig} {setup : LiveSetup} {c : Chain} {s t : LiveSession}

open Stateful LiveSession

theorem countedTurns_of_eq (hbound : t.boundRow = s.boundRow) (hturns : t.rowTurns = s.rowTurns) :
    t.countedTurns = s.countedTurns := by
  rw [countedTurns, hbound, hturns, countedTurns]

theorem hasBudget_congr (h : t.setup = s.setup) {row : TrialKey} {budget : Int} :
    t.HasBudget row budget ↔ s.HasBudget row budget := by
  rw [HasBudget, HasBudget, h]

theorem hasBudget_unique {row : TrialKey} {budget budget' : Int} (h : s.HasBudget row budget)
    (h' : s.HasBudget row budget') : budget = budget' := Except.ok.inj (h.symm.trans h')

theorem LinkBooks.bind {before after : Option TrialKey} {l : Link} (h : LinkBooks before l)
    (hbound : ∀ row, before = some row → after = some row) : LinkBooks after l where
  rows record hrecord hspends := hbound record.row (h.rows record hrecord hspends)
  accounted := h.accounted
  closed := h.closed

/-- What a session does outside its turns leaves its books as they are. -/
theorem LinkBooks.idle {boundRow : Option TrialKey} {l : Link} (h : LinkBooks boundRow l)
    (hidle : Idle l.session t) : LinkBooks boundRow { l with session := t } where
  rows := h.rows
  accounted := hidle.gateway.submits.trans h.accounted
  closed record hrecord hfailed :=
    LiveGateway.isClosed_of_prefix hidle.gateway.sent (h.closed record hrecord hfailed)

theorem ChainBooks.idle (h : ChainBooks setup c) (hidle : Idle c.current.session t) :
    ChainBooks setup { c with current := { c.current with session := t } } := by
  have hcounted : t.countedTurns = c.current.session.countedTurns :=
    countedTurns_of_eq hidle.boundRow hidle.rowTurns
  have hspent : c.current.spent = Link.spent { c.current with session := t } := by
    rw [Link.spent, Link.spent, hidle.gateway.submits]
    rfl
  constructor
  case setup => exact hidle.setup.trans h.setup
  case spent =>
    rw [hcounted]
    exact (congrArg (· + (c.earlier.map Link.spent).sum) hspent).symm.trans h.spent
  case unbound =>
    intro hbound row
    rw [hidle.rowTurns]
    exact h.unbound (hidle.boundRow ▸ hbound) row
  case budget =>
    intro row hrow
    obtain ⟨budget, hbudget, hle⟩ := h.budget row (hidle.boundRow ▸ hrow)
    refine ⟨budget, (hasBudget_congr hidle.setup).mpr hbudget, ?_⟩
    rw [hidle.rowTurns]
    exact hle
  case receipts => rw [hidle.turnReceipts, hcounted, h.receipts]
  case providerCalls => rw [hidle.providerCalls, hcounted, h.providerCalls]
  case links =>
    obtain ⟨hcurrent, hearlier⟩ := List.forall_mem_cons.mp h.links
    rw [hidle.boundRow]
    exact List.forall_mem_cons.mpr ⟨hcurrent.idle hidle, hearlier⟩
  case lively =>
    intro hopen
    apply h.lively
    by_contra hclosed
    rw [hidle.closed (by simpa using hclosed)] at hopen
    cases hopen

/-! ### Turns -/

section Add

variable {l : Link} {record : TurnRecord}

theorem prompts_add : (l.add t record).prompts = l.prompts + record.prompts := by
  rw [Link.prompts, Link.add, List.map_append, List.sum_append, List.map_singleton,
    List.sum_singleton, Link.prompts]

theorem deliveries_add :
    (l.add t record).deliveries = l.deliveries + if record.delivered then 1 else 0 := by
  rw [Link.deliveries, Link.add, List.countP_append, List.countP_singleton, Link.deliveries]

theorem lostPrompts_add :
    (l.add t record).lostPrompts = l.lostPrompts + if record.failed then record.prompts else 0 := by
  rw [Link.lostPrompts, Link.add, List.filter_append, List.map_append, List.sum_append,
    Link.lostPrompts]
  cases hfailed : record.failed with
  | false => rw [List.filter_cons_of_neg (by simpa using hfailed)]; rfl
  | true => rw [List.filter_cons_of_pos hfailed]; rfl

end Add

theorem rowTurnBudget_pos {liveMap : List LiveRow} {sourcePack sourceItemId : PyStr} {budget : Int}
    (h : rowTurnBudget liveMap sourcePack sourceItemId = .ok budget) : 0 < budget := by
  unfold rowTurnBudget at h
  split at h
  next => cases h
  next row =>
    split at h
    next => cases h
    next calls =>
      dsimp only at h
      split_ifs at h with hinvalid hrange
      cases h
      simp only [Bool.and_eq_true, decide_eq_true_eq] at hrange
      exact hrange.1

theorem submits_mono {g g' : LiveGateway} (h : g.sent <+: g'.sent) : g.submits ≤ g'.submits :=
  h.sublist.countP_le

section Turn

variable {row : TrialKey} {prompts : Nat} {succeeds : Prop}

theorem countedTurns_of_success (hunbound : s.boundRow = none → ∀ row, s.rowTurns row = 0)
    (heffect : Effect row prompts s t succeeds) (hsucceeds : succeeds) :
    t.countedTurns = s.countedTurns + 1 := by
  have hbound : t.boundRow = some row := (heffect.spends (.inr hsucceeds)).1
  have hcounted : t.countedTurns = s.rowTurns row + 1 := by
    rw [countedTurns, hbound, Option.elim_some, heffect.rowTurns hsucceeds, Function.update_self]
  rw [hcounted]
  rcases heffect.bound with hsame | ⟨hnone, -, -⟩
  · rw [countedTurns, ← hsame, hbound, Option.elim_some]
  · rw [countedTurns, hnone, Option.elim_none, hunbound hnone]

theorem countedTurns_of_failure (hunbound : s.boundRow = none → ∀ row, s.rowTurns row = 0)
    (heffect : Effect row prompts s t succeeds) (hfails : ¬succeeds) :
    t.countedTurns = s.countedTurns := by
  obtain ⟨hturns, -, -⟩ := heffect.unrecorded hfails
  rcases heffect.bound with hsame | ⟨hnone, hbound, -⟩
  · exact countedTurns_of_eq hsame hturns
  · rw [countedTurns, hbound, Option.elim_some, hturns, hunbound hnone, countedTurns, hnone,
      Option.elim_none]

/-- A turn leaves its session within the budget of the row. -/
theorem budget_of_effect (hunbound : s.boundRow = none → ∀ row, s.rowTurns row = 0)
    (hbudget : ∀ row, s.boundRow = some row →
      ∃ budget, s.HasBudget row budget ∧ s.rowTurns row ≤ budget)
    (heffect : Effect row prompts s t succeeds) {other : TrialKey}
    (hother : t.boundRow = some other) :
    ∃ budget, t.HasBudget other budget ∧ t.rowTurns other ≤ budget := by
  simp only [HasBudget, heffect.setup]
  by_cases hsucceeds : succeeds
  · obtain ⟨hbound, budget, hbudget, hroom⟩ := heffect.spends (.inr hsucceeds)
    obtain rfl : row = other := Option.some.inj (hbound.symm.trans hother)
    refine ⟨budget, hbudget, ?_⟩
    rw [heffect.rowTurns hsucceeds, Function.update_self]
    push_cast
    exact hroom
  · rw [(heffect.unrecorded hsucceeds).1]
    rcases heffect.bound with hsame | ⟨hnone, hbound, budget, hbudget⟩
    · exact hbudget other (hsame.symm.trans hother)
    · obtain rfl : row = other := Option.some.inj (hbound.symm.trans hother)
      refine ⟨budget, hbudget, ?_⟩
      rw [hunbound hnone]
      exact (rowTurnBudget_pos hbudget).le

/-- The turn of a live session: a prompt is submitted, or a turn of the host is observed. -/
def Costs (delivery : Bool) (prompts : Nat) : Prop := prompts + (if delivery then 1 else 0) = 1

theorem costs_submitted : Costs false 1 := rfl

theorem costs_delivered : Costs true 0 := rfl

/-- The books of a session balance: what a turn costs is counted where it succeeds, and lost where
it fails. -/
theorem balance_of_effect {l : Link} {delivery ok : Bool} (hcosts : Costs delivery prompts)
    (heffect : Effect row prompts l.session t (ok = true)) :
    (l.add t (.of l.session t row delivery ok)).spent + l.lostPrompts =
      l.spent + (l.add t (.of l.session t row delivery ok)).lostPrompts + if ok then 1 else 0 := by
  have hmono : l.session.gateway.submits ≤ t.gateway.submits := submits_mono heffect.sent
  rw [Link.spent, deliveries_add, lostPrompts_add, Link.spent]
  cases ok with
  | true =>
    have hsubmits : t.gateway.submits = l.session.gateway.submits + prompts :=
      heffect.submits_eq rfl
    have hone : prompts + (if delivery then 1 else 0) = 1 := hcosts
    simp only [Link.add, TurnRecord.of, Bool.and_true, Bool.not_true, hsubmits, Bool.false_eq_true,
      if_true, if_false]
    omega
  | false =>
    simp only [Link.add, TurnRecord.of, Bool.and_false, Bool.not_false, Bool.false_eq_true, if_true,
      if_false]
    omega

/-- A turn that costs nothing has handed over nothing, and is no turn of the host. -/
theorem spends_of_spent {delivery ok : Bool}
    (hspent : (TurnRecord.of s t row delivery ok).spent ≠ 0) :
    t.gateway.submits ≠ s.gateway.submits ∨ ok = true := by
  by_contra hnothing
  obtain ⟨hsame, hok⟩ := not_or.mp hnothing
  apply hspent
  rw [TurnRecord.spent, TurnRecord.of, not_not.mp hsame, Bool.eq_false_of_not_eq_true hok,
    Nat.sub_self, Bool.and_false]
  rfl

theorem LinkBooks.add {l : Link} {delivery ok : Bool}
    (heffect : Effect row prompts l.session t (ok = true)) (hcloses : Closes t (ok = true))
    (h : LinkBooks t.boundRow l) :
    LinkBooks t.boundRow (l.add t (.of l.session t row delivery ok)) where
  rows record hrecord hspent := by
    rcases List.mem_append.mp hrecord with hold | hnew
    · exact h.rows record hold hspent
    · obtain rfl := List.mem_singleton.mp hnew
      exact (heffect.spends (spends_of_spent hspent)).1
  accounted := by
    rw [prompts_add, ← h.accounted]
    exact (Nat.add_sub_cancel' (submits_mono heffect.sent)).symm
  closed record hrecord hfailed := by
    rcases List.mem_append.mp hrecord with hold | hnew
    · exact LiveGateway.isClosed_of_prefix heffect.sent (h.closed record hold hfailed)
    · obtain rfl := List.mem_singleton.mp hnew
      refine (hcloses fun hok => ?_).2
      rw [TurnRecord.of, hok] at hfailed
      cases hfailed

theorem countedTurns_of_effect {ok : Bool}
    (hunbound : s.boundRow = none → ∀ row, s.rowTurns row = 0)
    (heffect : Effect row prompts s t (ok = true)) :
    t.countedTurns = s.countedTurns + if ok then 1 else 0 := by
  cases ok with
  | true => exact countedTurns_of_success hunbound heffect rfl
  | false => exact countedTurns_of_failure hunbound heffect Bool.false_ne_true

theorem ChainBooks.turn (h : ChainBooks setup c) (hopen : c.current.session.closed = false)
    {delivery ok : Bool} (hcosts : Costs delivery prompts)
    (heffect : Effect row prompts c.current.session t (ok = true))
    (hcloses : Closes t (ok = true)) :
    ChainBooks setup { c with
      current := c.current.add t (.of c.current.session t row delivery ok) } := by
  have hcounted := countedTurns_of_effect h.unbound heffect
  constructor
  case setup => exact heffect.setup.trans h.setup
  case spent =>
    have hspent := h.spent
    have hbalance := balance_of_effect hcosts heffect
    simp only [Chain.spent, Chain.lostPrompts, Chain.links, List.map_cons, List.sum_cons]
      at hspent ⊢
    change _ = t.countedTurns + _
    rw [hcounted]
    omega
  case unbound =>
    intro hunbound other
    have hnone : t.boundRow = none := hunbound
    have hfails : ¬ok = true := by
      intro hok
      rw [(heffect.spends (.inr hok)).1] at hnone
      cases hnone
    rcases heffect.bound with hsame | ⟨-, hbound, -⟩
    · rw [Link.add, (heffect.unrecorded hfails).1]
      exact h.unbound (hsame.symm.trans hnone) other
    · rw [hbound] at hnone
      cases hnone
  case budget =>
    intro other hother
    exact budget_of_effect h.unbound h.budget heffect hother
  case receipts =>
    change _ = t.countedTurns
    rw [hcounted, ← h.receipts]
    cases ok with
    | true => exact heffect.turnReceipts rfl
    | false => exact congrArg List.length (heffect.unrecorded Bool.false_ne_true).2.1
  case providerCalls =>
    change _ = t.countedTurns
    rw [hcounted, ← h.providerCalls]
    cases ok with
    | true => exact heffect.providerCalls rfl
    | false => exact (heffect.unrecorded Bool.false_ne_true).2.2
  case links =>
    have hbound : ∀ other, c.current.session.boundRow = some other → t.boundRow = some other := by
      intro other hother
      rcases heffect.bound with hsame | ⟨hnone, -, -⟩
      · exact hsame.trans hother
      · rw [hnone] at hother
        cases hother
    obtain ⟨hcurrent, hearlier⟩ := List.forall_mem_cons.mp h.links
    refine List.forall_mem_cons.mpr ⟨(hcurrent.bind hbound).add heffect hcloses, ?_⟩
    intro link hlink
    exact (hearlier link hlink).bind hbound
  case lively =>
    intro hlively record hrecord
    have hclosed : t.closed = false := hlively
    have hok : ok = true := by
      by_contra hfails
      rw [(hcloses hfails).1] at hclosed
      cases hclosed
    rcases List.mem_append.mp hrecord with hold | hnew
    · exact h.lively hopen record hold
    · obtain rfl := List.mem_singleton.mp hnew
      rw [TurnRecord.of, hok]
      rfl

end Turn

/-! ### Runs -/

/-- A session hands its books on. -/
theorem ChainBooks.restart (h : ChainBooks setup c) (hsucceeds : Succeeds c.current.session t) :
    ChainBooks setup { current := { session := t }, earlier := c.links } := by
  have hcounted : t.countedTurns = c.current.session.countedTurns :=
    countedTurns_of_eq hsucceeds.boundRow hsucceeds.rowTurns
  have hsubmits : t.gateway.submits = 0 := by
    rw [LiveGateway.submits, hsucceeds.sent]
    rfl
  constructor
  case setup => exact hsucceeds.setup.trans h.setup
  case spent =>
    have hfresh : Link.spent { session := t } = 0 := hsubmits
    have hspent : c.spent = t.countedTurns + c.lostPrompts := hcounted ▸ h.spent
    rw [Chain.spent, Chain.lostPrompts, Chain.links, List.map_cons, List.sum_cons, List.map_cons,
      List.sum_cons, hfresh, Nat.zero_add]
    exact hspent.trans (congrArg (t.countedTurns + ·) (Nat.zero_add _).symm)
  case unbound =>
    intro hunbound row
    have hnone : t.boundRow = none := hunbound
    have hrow : t.rowTurns row = 0 := by
      rw [hsucceeds.rowTurns]
      exact h.unbound (hsucceeds.boundRow.symm.trans hnone) row
    exact hrow
  case budget =>
    intro row hrow
    obtain ⟨budget, hbudget, hle⟩ := h.budget row (hsucceeds.boundRow.symm.trans hrow)
    refine ⟨budget, (hasBudget_congr hsucceeds.setup).mpr hbudget, ?_⟩
    rw [hsucceeds.rowTurns]
    exact hle
  case receipts => rw [hsucceeds.turnReceipts, hcounted, h.receipts]
  case providerCalls => rw [hsucceeds.providerCalls, hcounted, h.providerCalls]
  case links =>
    rw [hsucceeds.boundRow]
    refine List.forall_mem_cons.mpr ⟨?_, h.links⟩
    exact {
      rows := fun record hrecord => absurd hrecord List.not_mem_nil
      accounted := hsubmits
      closed := fun record hrecord => absurd hrecord List.not_mem_nil }
  case lively =>
    intro _ record hrecord
    exact absurd hrecord List.not_mem_nil

theorem isOk_iff {result : Except SessionError LiveReceipt} :
    (∃ receipt, result = .ok receipt) ↔ result.isOk = true := by
  cases result with
  | ok receipt => exact ⟨fun _ => rfl, fun _ => ⟨receipt, rfl⟩⟩
  | error failure =>
    constructor
    · intro h
      exact absurd h not_ok_of_error
    · intro h
      cases h

/-- The steps of a chain, told apart by what they do to its last session. -/
inductive ChainStep (c : Chain) : ChainOperation → Chain → Prop
  | refused {operation : ChainOperation} : ChainStep c operation c
  | idle {operation : ChainOperation} {t : LiveSession} (hidle : Idle c.current.session t) :
      ChainStep c operation { c with current := { c.current with session := t } }
  | turn {operation : ChainOperation} {t : LiveSession} {row : TrialKey} {delivery ok : Bool}
      {prompts : Nat} (hopen : c.current.session.closed = false) (hcosts : Costs delivery prompts)
      (heffect : Effect row prompts c.current.session t (ok = true))
      (hcloses : Closes t (ok = true)) :
      ChainStep c operation { c with
        current := c.current.add t (.of c.current.session t row delivery ok) }
  | restart {t : LiveSession} {replies : List GatewayReply} {plannedCalls plannedTurns : Option Int}
      {reading : MapReading} (hsucceeds : Succeeds c.current.session t) :
      ChainStep c (.restart replies plannedCalls plannedTurns reading)
        { current := { session := t }, earlier := c.links }

/-- A turn that the last session is live for. -/
theorem ChainStep.asked {operation : ChainOperation} (hopen : c.current.session.closed = false)
    {row : TrialKey} {delivery : Bool} {prompts : Nat} (hcosts : Costs delivery prompts)
    {x : Sessioning LiveReceipt}
    (heffect : ∀ result t, exec x c.current.session = (result, t) →
      Effect row prompts c.current.session t (∃ receipt, result = .ok receipt) ∧
        Closes t (∃ receipt, result = .ok receipt)) :
    ChainStep c operation (c.turn true row delivery x) := by
  obtain ⟨heffect, hcloses⟩ := heffect _ _ rfl
  rw [isOk_iff] at heffect hcloses
  exact .turn hopen hcosts heffect hcloses

/-- What an operation does, where the row of the chain has a budget. -/
theorem chainStep_step (hbudget : ∀ row, c.current.session.boundRow = some row →
      ∃ budget, c.current.session.HasBudget row budget) (operation : ChainOperation) :
    ChainStep c operation (c.step config operation) := by
  cases operation with
  | start => exact .idle (start_idle _)
  | close => exact .idle (close_idle _)
  | runTurn arguments reading =>
    cases hlive : c.current.session.isLive with
    | false =>
      rw [Chain.step, hlive, Chain.turn, runTurn_of_not_live hlive]
      exact .refused
    | true =>
      rw [Chain.step, hlive]
      exact .asked (closed_of_isLive hlive) costs_submitted fun _ _ => effect_of_runTurn hlive
  | observeDeliveryTurn row approvalChoice reading =>
    cases hready : c.current.session.isLive && c.current.session.boundRow.isSome with
    | false =>
      rw [Chain.step, hready, Chain.turn, observeDeliveryTurn_of_not_live hready]
      exact .refused
    | true =>
      rw [Chain.step, hready]
      obtain ⟨hlive, hsome⟩ := Bool.and_eq_true_iff.mp hready
      obtain ⟨bound, hbound⟩ := Option.isSome_iff_exists.mp hsome
      obtain ⟨budget, hbudget⟩ := hbudget bound hbound
      refine .asked (closed_of_isLive hlive) costs_delivered fun _ _ => ?_
      exact effect_of_observeDeliveryTurn hlive hbound hbudget
  | restart replies plannedCalls plannedTurns reading =>
    rw [Chain.step]
    cases hrestart : c.current.session.restart config replies plannedCalls plannedTurns reading with
    | error failure => exact .refused
    | ok resumed => exact .restart (succeeds_of_restart hrestart)

theorem ChainBooks.chainStep (h : ChainBooks setup c) (operation : ChainOperation) :
    ChainStep c operation (c.step config operation) := by
  apply chainStep_step
  intro row hrow
  obtain ⟨budget, hbudget, -⟩ := h.budget row hrow
  exact ⟨budget, hbudget⟩

/-- **Every operation keeps the books.** -/
theorem ChainBooks.step (h : ChainBooks setup c) {c' : Chain} {operation : ChainOperation}
    (hstep : ChainStep c operation c') : ChainBooks setup c' := by
  cases hstep with
  | refused => exact h
  | idle hidle => exact h.idle hidle
  | turn hopen hcosts heffect hcloses => exact h.turn hopen hcosts heffect hcloses
  | restart hsucceeds => exact h.restart hsucceeds

variable {replies : List GatewayReply} {plannedCalls plannedTurns : Int} {resume : Option PyStr}

theorem chainBooks_init :
    ChainBooks setup (chainSystem config setup replies plannedCalls plannedTurns resume).init where
  setup := rfl
  spent := rfl
  unbound _ _ := rfl
  budget _ hrow := by cases hrow
  receipts := rfl
  providerCalls := rfl
  links := by
    intro link hlink
    obtain rfl := List.mem_singleton.mp hlink
    exact {
      rows := fun record hrecord => absurd hrecord List.not_mem_nil
      accounted := rfl
      closed := fun record hrecord => absurd hrecord List.not_mem_nil }
  lively _ _ hrecord := absurd hrecord List.not_mem_nil

/-- **The books balance in every run**: what was paid for is what was counted and what was lost, and
what was counted is within the budget of the row. -/
theorem chainBooks_of_reachable
    (h : (chainSystem config setup replies plannedCalls plannedTurns resume).Reachable c) :
    ChainBooks setup c := by
  refine System.Reachable.invariant chainBooks_init ?_ h
  intro c c' operation _ hbooks hnext
  obtain rfl := Option.some.inj hnext
  exact hbooks.step (hbooks.chainStep operation)

end Books

end HermesClaude.Parity
