/-
# Executors

What is asked of an executor, what it may answer, and how an answer is checked before the
run records it: a receipt binds the answer to the candidate and to what was executed.
-/

import HermesClaude.Parity.Results

namespace HermesClaude.Parity

open HermesClaude.Python

/-! ## Capabilities -/

/-- `Capability`: a row of the catalog, as far as a run reads it. -/
structure Capability where
  capabilityId : PyStr
  sourcePack : PyStr
  lane : Lane
  /-- `paths[path]["required"]`. -/
  required : TrialPath → Bool
  /-- `repeat_policy["consecutive_passes"]`. -/
  consecutivePasses : Nat
  /-- `repeat_policy["triggers"]`, which the policy may lack. -/
  triggers : Option (List PyStr)
  executionId : PyStr

/-- `Catalog`: no two capabilities have the same id. -/
structure Catalog where
  capabilities : List Capability
  contractHash : Digest
  catalogHash : Digest
  capabilityIds_nodup : (capabilities.map Capability.capabilityId).Nodup

/-- `for_lane`. -/
def Catalog.forLane (catalog : Catalog) (lane : Lane) : List Capability :=
  catalog.capabilities.filter fun capability => capability.lane = lane

/-- `ExecutionContext`, but for what is the same in every call of a run. -/
structure ExecutionContext where
  capability : Capability
  path : TrialPath
  trialIndex : Nat
  remainingTurnBudget : Int

/-! ## Answers -/

/-- A classification as an executor gives it: a member of the enumeration, or another
value, such as the text of a member. -/
inductive GivenClassification
  | member (classification : ExecutionClassification)
  | value (raw : Json)

/-- `ExecutionOutcome`. -/
structure ExecutionOutcome where
  classification : GivenClassification
  billingClassification : Json
  normalizedEvents : List Entries := []
  primaryProofHash : Json := .null
  secondaryProofHash : Json := .null
  silentFallback : Json := .bool false
  invariantViolations : List Json := []
  reasonCode : Json := .null
  turnCount : Json := .int 0

/-- `ExecutionBundle`: an outcome for each name; another object may stand for one. -/
structure ExecutionBundle where
  outcomes : List (PyStr × Option ExecutionOutcome)
  turnCount : Json
  names_nodup : (outcomes.map Prod.fst).Nodup

/-- How a call of an executor ends. -/
inductive Response
  | outcome (outcome : ExecutionOutcome)
  | bundle (bundle : ExecutionBundle)
  /-- Another object. -/
  | unsupported
  /-- An `Exception`. -/
  | raises

/-- `ExecutorResult`. -/
inductive ExecutorResult
  | outcome (outcome : ExecutionOutcome)
  | bundle (bundle : ExecutionBundle)

/-- The outcome that stands for an exception of an executor. -/
def exceptionOutcome : ExecutionOutcome where
  classification := .member .verifiedFailure
  billingClassification := .str (lit "none")
  normalizedEvents := [[(lit "sequence", .int 1), (lit "kind", .str (lit "terminal")),
    (lit "status", .str (lit "executor_exception")),
    (lit "terminal_outcome", .str (lit "failed"))]]
  reasonCode := .str (lit "executor_exception")

/-- The outcome that stands for a missing executor. -/
def unregisteredOutcome : ExecutionOutcome where
  classification := .member .pending
  billingClassification := .str (lit "none")
  reasonCode := .str (lit "executor_not_registered")

/-- `_call_executor`, once the call has ended. -/
def callExecutor : Response → Except ResultViolation ExecutorResult
  | .outcome outcome => .ok (.outcome outcome)
  | .bundle bundle => .ok (.bundle bundle)
  | .raises => .ok (.outcome exceptionOutcome)
  | .unsupported => .error (.violation (lit "parity executor returned an unsupported outcome"))

/-! ## Checks -/

/-- `ExecutionClassification(classification)`, or `none` where it raises. -/
def GivenClassification.resolve : GivenClassification → Option ExecutionClassification
  | .member classification => some classification
  | .value raw => memberWith executionClassifications ExecutionClassification.value raw

/-- `classification is ExecutionClassification.X`: the text of a member is not the member. -/
def GivenClassification.isMember (given : GivenClassification)
    (classification : ExecutionClassification) : Bool :=
  match given with
  | .member other => other = classification
  | .value _ => false

/-- An outcome whose classification and turn count have been checked. -/
structure CheckedOutcome where
  outcome : ExecutionOutcome
  classification : ExecutionClassification
  turnCount : Nat

/-- A result that has been checked: a bundle has an outcome for each path. -/
inductive CheckedResult
  | outcome (outcome : CheckedOutcome)
  | bundle (outcomes : List (TrialPath × CheckedOutcome))

/-- The turns that a result claims. -/
def CheckedResult.turnCount : CheckedResult → Nat
  | .outcome checked => checked.turnCount
  | .bundle outcomes => (outcomes.map fun item => item.2.turnCount).sum

/-- `type(value) is int and value >= 0`, with the number. -/
def naturalOf : Json → Option Nat
  | .int i => if 0 ≤ i then some i.toNat else none
  | _ => none

/-- The paths of a trial. -/
def trialPaths : List TrialPath := [.positive, .denial, .recovery]

theorem mem_trialPaths (path : TrialPath) : path ∈ trialPaths := by
  cases path <;> decide

/-- `validate_outcome`. -/
def validateOutcome (outcome : ExecutionOutcome) : Except ResultViolation CheckedOutcome := do
  let classification ← orRefuse outcome.classification.resolve
    (.violation (lit "executor classification is unsupported"))
  let turnCount ← orRefuse (naturalOf outcome.turnCount)
    (.violation (lit "executor turn_count must be a non-negative integer"))
  pure { outcome, classification, turnCount }

/-- The outcome of each path, in the order of the bundle. -/
def validateOutcomes :
    List (TrialPath × ExecutionOutcome) → Except ResultViolation (List (TrialPath × CheckedOutcome))
  | [] => .ok []
  | (path, outcome) :: outcomes => do
    let checked ← validateOutcome outcome
    let rest ← validateOutcomes outcomes
    pure ((path, checked) :: rest)

/-- The path of a name. -/
def pathOf (name : PyStr) : Option TrialPath := memberWith trialPaths TrialPath.value (.str name)

/-- `set(result.outcomes) == {"positive", "denial", "recovery"}`. -/
def namesAllPaths (names : List PyStr) : Bool :=
  names.all (fun name => (pathOf name).isSome) && trialPaths.all fun path => path.value ∈ names

/-- `_validate_executor_result`, with what it has established. -/
def validateExecutorResult (result : ExecutorResult) (remaining : Int) :
    Except ResultViolation CheckedResult :=
  match result with
  | .outcome outcome => do
    let checked ← validateOutcome outcome
    require (checked.turnCount ≤ remaining)
      (lit "executor exceeded the remaining authorized turn budget")
    pure (.outcome checked)
  | .bundle bundle => do
    require (namesAllPaths (bundle.outcomes.map Prod.fst))
      (lit "combined executor must return positive, denial, and recovery outcomes")
    require (bundle.outcomes.all fun item => item.2.isSome)
      (lit "combined executor outcomes are malformed")
    let outcomes ← validateOutcomes (bundle.outcomes.filterMap fun item =>
      (pathOf item.1).bind fun path => item.2.map fun outcome => (path, outcome))
    let turnCount ← orRefuse (naturalOf bundle.turnCount)
      (.violation (lit "combined executor turn_count must be a non-negative integer"))
    require (turnCount = (CheckedResult.bundle outcomes).turnCount)
      (lit "combined executor turn_count must equal its path turn counts")
    require (turnCount ≤ remaining)
      (lit "combined executor exceeded the remaining authorized turn budget")
    pure (.bundle outcomes)

/-- `_TURN_BUDGETS`. -/
def turnBudget : Lane → Nat
  | .rc => 180
  | .runtime => 100

/-- The outcome of a path is the given member. -/
def isOutcome (outcomes : List (TrialPath × CheckedOutcome)) (path : TrialPath)
    (classification : ExecutionClassification) : Bool :=
  (outcomes.lookup path).any fun checked =>
    checked.outcome.classification.isMember classification

/-- `_validate_runtime_campaign`. -/
def validateRuntimeCampaign (result : CheckedResult) (lane : Lane) (executionId : PyStr) :
    Except ResultViolation Unit :=
  if lane ≠ .runtime || executionId ≠ lit "runtime-active-100-turn" then .ok ()
  else
    match result with
    | .outcome _ =>
      .error (.violation (lit "runtime qualification requires one combined campaign"))
    | .bundle outcomes =>
      let passing := isOutcome outcomes .positive .complete &&
        isOutcome outcomes .denial .expectedNegative && isOutcome outcomes .recovery .complete
      require (!(passing && result.turnCount ≠ turnBudget .runtime))
        (lit "passing runtime qualification must bind exactly 100 turns")

/-! ## Receipts -/

/-- A receipt of an execution: of one path, or of all of them. -/
structure Receipt where
  receiptId : PyStr
  executionIdHash : PyStr
  path : Option TrialPath
  trialIndex : Nat
  turnCount : Nat
  deriving DecidableEq

/-- The scope of a receipt. -/
def scopeOf : Option TrialPath → PyStr
  | none => lit "bundle"
  | some _ => lit "path"

/-- A path or `None`. -/
def ofPath : Option TrialPath → Json
  | none => .null
  | some path => .str path.value

/-- `_outcome_fingerprint`. -/
def outcomeFingerprint (checked : CheckedOutcome) : Json :=
  let outcome := checked.outcome
  .dict [
    (lit "classification", .str checked.classification.value),
    (lit "billing_classification", outcome.billingClassification),
    (lit "normalized_events", .list (outcome.normalizedEvents.map .dict)),
    (lit "primary_proof_hash", outcome.primaryProofHash),
    (lit "secondary_proof_hash", outcome.secondaryProofHash),
    (lit "silent_fallback", outcome.silentFallback),
    (lit "invariant_violations", .list outcome.invariantViolations),
    (lit "reason_code", outcome.reasonCode),
    (lit "turn_count", outcome.turnCount)]

/-- The fingerprint of a result. -/
def CheckedResult.fingerprint : CheckedResult → Json
  | .outcome checked => outcomeFingerprint checked
  | .bundle outcomes =>
    .dict (sortItems (outcomes.map fun item => (item.1.value, outcomeFingerprint item.2)))

/-- The path that a receipt names. -/
def CheckedResult.receiptPath (result : CheckedResult) (path : TrialPath) : Option TrialPath :=
  match result with
  | .outcome _ => some path
  | .bundle _ => none

/-- `_execution_receipt`, or `none` where it raises. -/
def executionReceipt (floats : FloatText) (exactCandidate executionId : PyStr)
    (path : Option TrialPath) (trialIndex : Nat) (result : CheckedResult) : Option Receipt := do
  let receiptId ← sha256Value floats (.dict [
    (lit "candidate_hash", .str exactCandidate),
    (lit "execution_id", .str executionId),
    (lit "scope", .str (scopeOf path)),
    (lit "path", ofPath path),
    (lit "trial_index", .int trialIndex),
    (lit "turn_count", .int result.turnCount),
    (lit "outcome", result.fingerprint)])
  let executionIdHash ← sha256Value floats (.str executionId)
  pure { receiptId, executionIdHash, path, trialIndex, turnCount := result.turnCount }

end HermesClaude.Parity
