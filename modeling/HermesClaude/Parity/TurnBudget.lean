/-
# The turn budget

The turns on record never exceed the budget of the lane: a run counts the turns of its
receipts, hands the rest of the budget to every executor, and refuses an answer that claims
more before anything is written.
-/

import HermesClaude.Parity.RunnerSteps

namespace HermesClaude.Parity

open HermesClaude.Python HermesClaude.Library

/-- The turns of several receipts. -/
def totalTurns (receipts : List Receipt) : Nat := (receipts.map Receipt.turnCount).sum

/-- The manifest of a directory records these receipts, as written or as loaded. -/
def Directory.Records (floats : FloatText) (identity : ManifestIdentity) (disk : Directory)
    (receipts : List Receipt) : Prop :=
  match disk.manifest with
  | none => receipts = []
  | some data => ∃ hashes, manifestBytes floats identity receipts hashes = some data ∨
      loadManifest floats identity data = .ok (receipts, hashes)

/-- Nothing is left to record: whatever the run has executed is in its manifest. -/
def Control.settled : Control → Bool
  | .write _ _ | .checkpoint _ _ | .bundle _ _ _ _ => false
  | _ => true

/-! ## Answers -/

/-- A claimed number of turns. -/
def claimedTurns : Json → Option Int
  | .int i => some i
  | _ => none

/-- The numbers of turns that an answer claims: for a bundle, its own and that of its paths. -/
def Response.claims : Response → List Int
  | .outcome given => (claimedTurns given.turnCount).toList
  | .bundle given =>
    ((given.outcomes.filterMap Prod.snd).filterMap fun outcome =>
      claimedTurns outcome.turnCount).sum :: (claimedTurns given.turnCount).toList
  | .unsupported | .raises => []

theorem naturalOf_eq_some {value : Json} {n : Nat} (h : naturalOf value = some n) :
    claimedTurns value = some (n : Int) := by
  unfold naturalOf at h
  split at h
  next i =>
    split_ifs at h with hi
    cases h
    rw [claimedTurns, Int.toNat_of_nonneg hi]
  next => cases h

theorem validateOutcome_eq_ok {outcome : ExecutionOutcome} {checked : CheckedOutcome}
    (h : validateOutcome outcome = .ok checked) :
    checked.outcome = outcome ∧ outcome.classification.resolve = some checked.classification ∧
      naturalOf outcome.turnCount = some checked.turnCount := by
  unfold validateOutcome at h
  simp only [bind_eq_ok, orRefuse_eq_ok] at h
  obtain ⟨classification, hclassification, turnCount, hturns, hrest⟩ := h
  cases hrest
  exact ⟨rfl, hclassification, hturns⟩

/-- The paths of checked outcomes are those of the outcomes, in the same order. -/
theorem validateOutcomes_eq_ok {outcomes : List (TrialPath × ExecutionOutcome)}
    {checked : List (TrialPath × CheckedOutcome)} (h : validateOutcomes outcomes = .ok checked) :
    List.Forall₂ (fun item item' => item.1 = item'.1 ∧ validateOutcome item.2 = .ok item'.2)
      outcomes checked := by
  induction outcomes generalizing checked with
  | nil =>
    cases h
    exact .nil
  | cons item outcomes ih =>
    simp only [validateOutcomes, bind_eq_ok] at h
    obtain ⟨first, hfirst, rest, hrest, hchecked⟩ := h
    cases hchecked
    exact .cons ⟨rfl, hfirst⟩ (ih hrest)

theorem claims_of_forall₂ {outcomes : List (TrialPath × ExecutionOutcome)}
    {checked : List (TrialPath × CheckedOutcome)}
    (h : List.Forall₂ (fun item item' => item.1 = item'.1 ∧ validateOutcome item.2 = .ok item'.2)
      outcomes checked) :
    ((outcomes.map Prod.snd).filterMap fun outcome => claimedTurns outcome.turnCount).sum =
      ((CheckedResult.bundle checked).turnCount : Int) := by
  induction h with
  | nil => rfl
  | @cons item item' outcomes checked hitem _ ih =>
    have hturns := naturalOf_eq_some (validateOutcome_eq_ok hitem.2).2.2
    rw [List.map_cons, List.filterMap_cons, hturns, List.sum_cons, ih]
    simp [CheckedResult.turnCount]

/-- Every name of a bundle is that of a path, so that no outcome is left out. -/
theorem outcomes_of_names {outcomes : List (PyStr × Option ExecutionOutcome)}
    (hnames : ∀ item ∈ outcomes, (pathOf item.1).isSome = true) :
    (outcomes.filterMap fun item =>
      (pathOf item.1).bind fun path => item.2.map fun outcome => (path, outcome)).map Prod.snd =
      outcomes.filterMap Prod.snd := by
  rw [List.map_filterMap]
  apply List.filterMap_congr
  intro item hitem
  obtain ⟨path, hpath⟩ := Option.isSome_iff_exists.mp (hnames item hitem)
  rw [hpath, Option.bind_some, Option.map_map]
  cases item.2 <;> rfl

theorem namesAllPaths_iff {names : List PyStr} : namesAllPaths names = true ↔
    (∀ name ∈ names, (pathOf name).isSome = true) ∧ ∀ path ∈ trialPaths, path.value ∈ names := by
  rw [namesAllPaths, Bool.and_eq_true, List.all_eq_true, List.all_eq_true]
  simp only [decide_eq_true_eq]

/-- An accepted answer claims no more turns than are left. -/
theorem claims_le {response : Response} {result : ExecutorResult} {remaining : Int}
    {checked : CheckedResult} (hresult : callExecutor response = .ok result)
    (h : validateExecutorResult result remaining = .ok checked) :
    ∀ claim ∈ response.claims, claim ≤ remaining := by
  cases response with
  | unsupported => cases hresult
  | raises => simp [Response.claims]
  | outcome given =>
    cases hresult
    simp only [validateExecutorResult, bind_eq_ok, require_eq_ok, decide_eq_true_eq] at h
    obtain ⟨single, hsingle, -, hle, -⟩ := h
    intro claim hclaim
    rw [Response.claims, naturalOf_eq_some (validateOutcome_eq_ok hsingle).2.2] at hclaim
    rw [List.mem_singleton.mp hclaim]
    exact hle
  | bundle given =>
    cases hresult
    simp only [validateExecutorResult, bind_eq_ok, require_eq_ok, orRefuse_eq_ok,
      decide_eq_true_eq] at h
    obtain ⟨-, hnames, -, -, outcomes, houtcomes, turnCount, hturns, -, hsum, -, hle, -⟩ := h
    have hpaths : ∀ item ∈ given.outcomes, (pathOf item.1).isSome = true := by
      intro item hitem
      exact (namesAllPaths_iff.mp hnames).1 _ (List.mem_map_of_mem hitem)
    have htotal := claims_of_forall₂ (validateOutcomes_eq_ok houtcomes)
    rw [outcomes_of_names hpaths, ← hsum] at htotal
    intro claim hclaim
    rw [Response.claims, naturalOf_eq_some hturns, htotal] at hclaim
    simp only [Option.toList_some, List.mem_cons, List.not_mem_nil, or_false, or_self] at hclaim
    rw [hclaim]
    exact hle

/-- An accepted result takes no more turns than are left. -/
theorem turnCount_le {result : ExecutorResult} {remaining : Int} {checked : CheckedResult}
    (h : validateExecutorResult result remaining = .ok checked) :
    (checked.turnCount : Int) ≤ remaining := by
  cases result with
  | outcome given =>
    simp only [validateExecutorResult, bind_eq_ok, require_eq_ok, decide_eq_true_eq] at h
    obtain ⟨single, -, -, hle, hchecked⟩ := h
    cases hchecked
    exact hle
  | bundle given =>
    simp only [validateExecutorResult, bind_eq_ok, require_eq_ok, orRefuse_eq_ok,
      decide_eq_true_eq] at h
    obtain ⟨-, -, -, -, outcomes, -, turnCount, -, -, hsum, -, hle, hchecked⟩ := h
    cases hchecked
    rw [← hsum]
    exact hle

/-! ## The invariant -/

/-- A run counts the turns of its receipts, within the budget. -/
structure Budgeted (floats : FloatText) (args : RunArguments) (disk : Directory) (m : Memory) :
    Prop where
  used : m.usedTurns = totalTurns m.executionReceipts
  within : m.usedTurns ≤ turnBudget args.lane
  remaining : ∀ cell context, m.control = .awaiting cell context →
    context.remainingTurnBudget = turnBudget args.lane - m.usedTurns
  recorded : m.control.settled = true →
    disk.Records floats (args.identity m.exactCandidate) m.executionReceipts

section Invariant

variable {floats : FloatText} {args : RunArguments} {disk : Directory} {m m' : Memory}

/-- What a run counts does not change with the place in the loops. -/
theorem Budgeted.goesOn (h : Budgeted floats args disk m) (hsettled : m.control.settled = true)
    (hreceipts : m'.executionReceipts = m.executionReceipts) (hused : m'.usedTurns = m.usedTurns)
    (hcandidate : m'.exactCandidate = m.exactCandidate)
    (hremaining : ∀ cell context, m'.control = .awaiting cell context →
      context.remainingTurnBudget = turnBudget args.lane - m.usedTurns) :
    Budgeted floats args disk m' where
  used := by rw [hused, hreceipts, h.used]
  within := by
    rw [hused]
    exact h.within
  remaining := by
    rw [hused]
    exact hremaining
  recorded _ := by
    rw [hreceipts, hcandidate]
    exact h.recorded hsettled

theorem settle_not_awaiting {cell cell' : Cell} {packet : ResultPacket} {context : ExecutionContext} :
    (settle args m cell packet).control ≠ .awaiting cell' context := by
  unfold settle
  dsimp only
  split_ifs <;> simp

theorem retarget_fst (args : RunArguments) (m : Memory) (cell : Cell)
    (outcomes : List (TrialPath × CheckedOutcome)) :
    ∃ targets, (retarget args m cell outcomes).1 = { m with scenarioRepeatTargets := targets } := by
  unfold retarget
  split_ifs
  · exact ⟨_, rfl⟩
  · exact ⟨m.scenarioRepeatTargets, rfl⟩

/-- A run that has just written its manifest. -/
theorem Budgeted.written (h : Budgeted floats args disk m) {data : Bytes}
    (hdata : checkpointBytes floats args m = .ok data)
    (hreceipts : m'.executionReceipts = m.executionReceipts) (hused : m'.usedTurns = m.usedTurns)
    (hcandidate : m'.exactCandidate = m.exactCandidate)
    (hwaits : ∀ cell context, m'.control ≠ .awaiting cell context) :
    Budgeted floats args { disk with manifest := some data } m' where
  used := by rw [hused, hreceipts, h.used]
  within := by
    rw [hused]
    exact h.within
  remaining cell context hcontrol := absurd hcontrol (hwaits cell context)
  recorded _ := by
    rw [hreceipts, hcandidate]
    exact ⟨_, .inl (orRaise_eq_ok.mp hdata)⟩

/-- A run that has something left to record. -/
theorem Budgeted.unsettled (h : Budgeted floats args disk m) {disk' : Directory}
    (hreceipts : m'.executionReceipts = m.executionReceipts) (hused : m'.usedTurns = m.usedTurns)
    (hunsettled : m'.control.settled = false) : Budgeted floats args disk' m' where
  used := by rw [hused, hreceipts, h.used]
  within := by
    rw [hused]
    exact h.within
  remaining cell context hcontrol := by
    rw [hcontrol] at hunsettled
    cases hunsettled
  recorded hsettled := by
    rw [hunsettled] at hsettled
    cases hsettled

theorem Budgeted.step {next : Move} {disk' : Directory} (h : Budgeted floats args disk m)
    (hsteps : Steps floats args disk m next) (hafter : next.after disk = some (disk', m')) :
    Budgeted floats args disk' m' := by
  have hsettled : ∀ {control}, m.control = control → control.settled = true →
      m.control.settled = true := by
    rintro _ rfl hsettled
    exact hsettled
  cases hsteps with
  | leave control =>
    cases hafter
    refine h.goesOn (hsettled control rfl) rfl rfl rfl ?_
    intro _ _ hwaits
    cases hwaits
  | enter control policy =>
    cases hafter
    refine h.goesOn (hsettled control rfl) rfl rfl rfl ?_
    intro _ _ hwaits
    cases hwaits
  | exhaust control spent =>
    cases hafter
    refine h.goesOn (hsettled control rfl) rfl rfl rfl ?_
    intro _ _ hwaits
    cases hwaits
  | cached due cache known =>
    cases hafter
    refine h.goesOn (hsettled due.control rfl) rfl rfl rfl ?_
    intro _ _ hwaits
    exact absurd hwaits settle_not_awaiting
  | recorded due uncached file resume read candidate =>
    cases hafter
    refine h.goesOn (hsettled due.control rfl) rfl rfl rfl ?_
    intro _ _ hwaits
    exact absurd hwaits settle_not_awaiting
  | unregistered missing absent =>
    cases hafter
    exact h.unsettled rfl rfl rfl
  | known missing registered cache =>
    cases hafter
    exact h.unsettled rfl rfl rfl
  | call missing registered unknown =>
    cases hafter
    refine h.goesOn (hsettled missing.control rfl) rfl rfl rfl ?_
    intro _ _ hwaits
    cases hwaits
    rfl
  | write control build file =>
    cases hafter
    exact h.unsettled rfl rfl rfl
  | checkpoint control manifest =>
    cases hafter
    exact h.written manifest rfl rfl rfl fun _ _ => settle_not_awaiting
  | part control noFile build file =>
    cases hafter
    exact h.unsettled rfl rfl rfl
  | @bundled cell cell' outcomes built packet data targeted control known manifest target =>
    cases hafter
    obtain ⟨targets, htargeted⟩ := retarget_fst args _ cell outcomes
    rw [target] at htargeted
    subst htargeted
    exact h.written manifest rfl rfl rfl fun _ _ => settle_not_awaiting
  | report control read manifest =>
    cases hafter
    refine h.written manifest rfl rfl rfl ?_
    intro _ _ hwaits
    cases hwaits
  | finished control => cases hafter
  | raise violation => cases hafter

theorem Budgeted.receive {cell : Cell} {context : ExecutionContext} {response : Response}
    (h : Budgeted floats args disk m) (hwaits : m.control = .awaiting cell context)
    (hreceive : receive floats args m cell context response = .ok m') :
    Budgeted floats args disk m' := by
  obtain ⟨checked, receipt, haccepts, rfl⟩ := receive_eq_ok hreceive
  obtain ⟨result, -, hvalid⟩ := haccepts.valid
  have hturns : receipt.turnCount = checked.turnCount := by
    have hreceipt := haccepts.receipt
    unfold executionReceipt at hreceipt
    simp only [Option.bind_eq_bind, Option.bind_eq_some_iff, Option.pure_def, Option.some.injEq] at hreceipt
    obtain ⟨_, -, _, -, rfl⟩ := hreceipt
    rfl
  have hle := turnCount_le hvalid
  rw [h.remaining cell context hwaits] at hle
  have hused : m.usedTurns + checked.turnCount = totalTurns (m.executionReceipts ++ [receipt]) := by
    rw [totalTurns, List.map_append, List.sum_append, h.used, totalTurns, List.map_singleton,
      List.sum_singleton, hturns]
  have hrecorded : Budgeted floats args disk { (m.record receipt checked.turnCount) with
      control := .write cell unregisteredOutcome } :=
    { used := hused
      within := by
        dsimp only [Memory.record]
        omega
      remaining := by
        intro _ _ hcontrol
        cases hcontrol
      recorded := by
        intro hsettled
        cases hsettled }
  cases checked with
  | outcome single => exact hrecorded.unsettled rfl rfl rfl
  | bundle outcomes => exact hrecorded.unsettled rfl rfl rfl

/-- A manifest that loads is within the budget. -/
theorem loadManifest_within {identity : ManifestIdentity} {data : Bytes} {receipts : List Receipt}
    {hashes : List PyStr} (h : loadManifest floats identity data = .ok (receipts, hashes)) :
    totalTurns receipts ≤ turnBudget identity.lane := by
  unfold loadManifest at h
  split_ifs at h
  split at h
  next => cases h
  next value =>
    split at h
    next loaded =>
      simp only [loadContent, bind_eq_ok, require_eq_ok, decide_eq_true_eq] at h
      obtain ⟨-, -, -, -, -, -, -, -, -, -, receipts', -, -, hle, hashes', -, hrest⟩ := h
      cases hrest
      exact hle
    next => cases h
    next => cases h

theorem Budgeted.begin {resume : Bool} (h : beginRun floats args resume disk = .ok m) :
    Budgeted floats args disk m := by
  obtain ⟨exactCandidate, receipts, packets, -, hload, rfl⟩ := beginRun_eq_ok.mp h
  have hwithin : totalTurns receipts ≤ turnBudget args.lane := by
    rcases loadDirectory_eq_ok.mp hload with ⟨-, -, rfl, -⟩ | ⟨-, data, hashes, -, hmanifest, -⟩
    · exact Nat.zero_le _
    · exact loadManifest_within hmanifest
  have hrecords : disk.Records floats (args.identity exactCandidate) receipts := by
    unfold Directory.Records
    rcases loadDirectory_eq_ok.mp hload with ⟨hnone, -, rfl, -⟩ | ⟨-, data, hashes, hdata, hmanifest, -⟩
    · rw [hnone]
    · rw [hdata]
      exact ⟨hashes, .inr hmanifest⟩
  exact {
    used := rfl
    within := hwithin
    remaining := by
      intro _ _ hwaits
      cases hwaits
    recorded := fun _ => hrecords }

end Invariant

/-- Every run stays within the budget, on any directory. -/
theorem budgeted_of_reachable {floats : FloatText} {start : Directory} {s : RunState}
    (h : (runs floats start).Reachable s) {p : Process} (hp : s.process = some p) :
    Budgeted floats p.args s.disk p.memory :=
  process_invariant Budgeted.begin Budgeted.step Budgeted.receive h hp

/-! ## Manifests, calls and answers -/

section Budget

variable {floats : FloatText} {start : Directory} {s t : RunState} {args : RunArguments}
  {m : Memory}

/-- A manifest that is about to be written records the receipts of the run. -/
theorem Steps.manifest {disk : Directory} {data : Bytes} {m' : Memory}
    (h : Steps floats args disk m (.replaceManifest data m')) :
    ∃ hashes, manifestBytes floats (args.identity m.exactCandidate) m.executionReceipts hashes =
      some data := by
  cases h with
  | checkpoint control manifest => exact ⟨_, orRaise_eq_ok.mp manifest⟩
  | bundled control known manifest target => exact ⟨_, orRaise_eq_ok.mp manifest⟩
  | report control read manifest => exact ⟨_, orRaise_eq_ok.mp manifest⟩

/-- An answer that claims more turns than are left ends the run, and writes nothing. -/
theorem refused_of_claim {cell : Cell} {context : ExecutionContext} {response : Response}
    (hp : s.process = some ⟨args, m⟩) (hwaits : m.control = .awaiting cell context)
    (hclaim : ∃ claim ∈ response.claims, context.remainingTurnBudget < claim)
    (hnext : (runs floats start).next s (.respond response) = some t) :
    t.disk = s.disk ∧ t.process = none ∧ ∃ violation, t.lastEnd = some (.raised violation) := by
  cases runs_next hnext with
  | @answered args' m₁ m₂ cell' context' _ running waits received =>
    rw [hp] at running
    cases running
    rw [hwaits] at waits
    cases waits
    obtain ⟨checked, receipt, haccepts, -⟩ := receive_eq_ok received
    obtain ⟨result, hresult, hvalid⟩ := haccepts.valid
    obtain ⟨claim, hmem, hlt⟩ := hclaim
    exact absurd (claims_le hresult hvalid claim hmem) (not_le.mpr hlt)
  | rejected running waits received => exact ⟨rfl, rfl, _, rfl⟩

end Budget

/-- The turns on record never exceed the budget of the lane, in any sequence of fresh and
resumed runs on any directory and for any answers: every manifest that a run writes is
within the budget, every executor is told what the recorded turns leave of it, which is
never negative, and an answer that claims more ends the run before anything is written. -/
theorem turn_budget_kept (floats : FloatText) (start : Directory) {s : RunState}
    (h : (runs floats start).Reachable s) (args : RunArguments) (m : Memory)
    (hp : s.process = some ⟨args, m⟩) :
    (∀ data m', move floats args s.disk m = some (.replaceManifest data m') →
      ∃ receipts hashes,
        manifestBytes floats (args.identity m.exactCandidate) receipts hashes = some data ∧
        totalTurns receipts ≤ turnBudget args.lane) ∧
    ∀ cell context, m.control = .awaiting cell context →
      (∃ receipts, s.disk.Records floats (args.identity m.exactCandidate) receipts ∧
        context.remainingTurnBudget = turnBudget args.lane - totalTurns receipts) ∧
      0 ≤ context.remainingTurnBudget ∧
      ∀ response t, (∃ claim ∈ response.claims, context.remainingTurnBudget < claim) →
        (runs floats start).next s (.respond response) = some t →
        t.disk = s.disk ∧ t.process = none ∧ ∃ violation, t.lastEnd = some (.raised violation) := by
  have hbudget : Budgeted floats args s.disk m := budgeted_of_reachable h hp
  have hwithin : totalTurns m.executionReceipts ≤ turnBudget args.lane := hbudget.used ▸ hbudget.within
  constructor
  · intro data m' hmove
    obtain ⟨hashes, hdata⟩ := (steps_of_move hmove).manifest
    exact ⟨m.executionReceipts, hashes, hdata, hwithin⟩
  · intro cell context hwaits
    have hsettled : m.control.settled = true := by
      rw [hwaits]
      rfl
    have hremaining := hbudget.remaining cell context hwaits
    rw [hbudget.used] at hremaining
    refine ⟨⟨m.executionReceipts, hbudget.recorded hsettled, hremaining⟩, by omega, ?_⟩
    intro response t hclaim hnext
    exact refused_of_claim hp hwaits hclaim hnext

/-- A capability with one required path. -/
def lookupCapability : Capability where
  capabilityId := lit "lookup"
  sourcePack := lit "v2_non_soak"
  lane := .rc
  required path := path = .positive
  consecutivePasses := 1
  triggers := some []
  executionId := lit "lookup-run"

/-- A run of this capability alone. -/
def lookupRun (registered : PyStr → Bool) : RunArguments where
  catalog := {
    capabilities := [lookupCapability]
    contractHash := ⟨List.replicate 64 0x61, isHex_replicate_a⟩
    catalogHash := ⟨List.replicate 64 0x62, isHex_replicate_b⟩
    capabilityIds_nodup := by decide }
  lane := .rc
  profileId := lit "profile"
  profileHash := List.replicate 64 0x63
  pluginSha := List.replicate 40 0x64
  hostSha := List.replicate 40 0x65
  sdkVersion := lit "1"
  runnerVersion := lit "1"
  inventoryHash := List.replicate 64 0x66
  registered

/-- Whether a run waits for an executor. -/
def RunState.awaits (s : RunState) : Bool :=
  s.process.any fun p => p.memory.control matches .awaiting _ _

theorem RunState.awaits_iff {s : RunState} : s.awaits = true ↔ ∃ args m cell context,
    s.process = some ⟨args, m⟩ ∧ m.control = .awaiting cell context := by
  rw [RunState.awaits, Option.any_eq_true]
  constructor
  · rintro ⟨⟨args, m⟩, hp, hwaits⟩
    split at hwaits
    next cell context hcontrol => exact ⟨args, m, cell, context, hp, hcontrol⟩
    next => cases hwaits
  · rintro ⟨args, m, cell, context, hp, hcontrol⟩
    refine ⟨⟨args, m⟩, hp, ?_⟩
    dsimp only
    rw [hcontrol]

theorem lookupRun_awaits : ((runs exactFloatText emptyDirectory).run
    (runs exactFloatText emptyDirectory).init
    [.launch (lookupRun fun _ => true) false, .tick, .tick]).any RunState.awaits = true := by
  decide +kernel

/-- The first call of a run is told a budget that is not negative. -/
theorem lookup_turn_budget_kept : ∃ s args m cell context,
    (runs exactFloatText emptyDirectory).Reachable s ∧ s.process = some ⟨args, m⟩ ∧
    m.control = .awaiting cell context ∧ 0 ≤ context.remainingTurnBudget := by
  obtain ⟨s, hreached, hawaits⟩ :=
    System.exists_reachable_of_run _ ((Option.any_eq_true _ _).mp lookupRun_awaits)
  obtain ⟨args, m, cell, context, hp, hwaits⟩ := RunState.awaits_iff.mp hawaits
  have hbudget := (turn_budget_kept exactFloatText emptyDirectory hreached args m hp).2
  exact ⟨s, args, m, cell, context, hreached, hp, hwaits, (hbudget cell context hwaits).2.1⟩

end HermesClaude.Parity
