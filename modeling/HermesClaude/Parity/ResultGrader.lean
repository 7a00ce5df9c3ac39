/-
# Grades of frozen trial sets

The grader of the successor contract: a row says which trials its paths have, packets of
other trials are refused, and a path whose trials are not all there is partial.  The status
of a path is chosen as in the grader of the feature catalog, and so it is three trials in a
row that complete a path, even one that has more.
-/

import HermesClaude.Parity.Grader

namespace HermesClaude.Parity.V4

open HermesClaude.Python HermesClaude.Library

/-! ## The contract -/

/-- Why packets are not graded. -/
inductive Violation
  /-- `V4ResultViolation(message)`. -/
  | result (message : PyStr)
  /-- `V4ContractViolation(message)`. -/
  | contract (message : PyStr)
  /-- Another exception, which is not caught. -/
  | raised (exception : String)

/-- `if not condition: raise V4ResultViolation(message)`. -/
def requireResult (condition : Bool) (message : PyStr) : Except Violation Unit :=
  if condition then .ok () else .error (.result message)

/-- A value, or the violation that says that there is none. -/
def orStop {α : Type} (value : Option α) (violation : Violation) : Except Violation α :=
  match value with
  | some a => .ok a
  | none => .error violation

/-- The texts in `set(value)`, or `none` where it raises. -/
def setTexts : Json → Option (List PyStr)
  | .list items => if items.all isHashable then some (items.filterMap Json.str?) else none
  | .dict items => some (items.map Prod.fst)
  | .str text => some (text.map fun c => [c])
  | _ => none

/-- The number of passes that a policy names. -/
def readTarget (value : Json) : Except Violation Nat :=
  match value with
  | .int i =>
    if 1 ≤ i then .ok i.toNat
    else .error (.contract (lit "source row repeat policy is malformed"))
  | _ => .error (.contract (lit "source row repeat policy is malformed"))

/-- The triggers that a policy names, if it does. -/
def readTriggers (value : Option Json) : Except Violation (Option (List PyStr)) :=
  match value with
  | none => .ok none
  | some value => (orStop (setTexts value) (.raised "TypeError")).map some

/-- What `required_trial_indexes` reads of the policy of a row. -/
def readRepeatPolicy (policy : Json) : Except Violation RepeatPolicy := do
  let entries ← orStop policy.dict?
    (.contract (lit "source row repeat_policy must be a mapping"))
  let passes ← readTarget (Entries.field entries "consecutive_passes")
  let triggers ← readTriggers (Json.key? entries (lit "triggers"))
  .ok ⟨passes, triggers⟩

/-- The number of trials that a policy asks for. -/
def target (policy : RepeatPolicy) : Nat :=
  if asksForThree (policy.triggers.getD []) then max policy.consecutivePasses 3
  else policy.consecutivePasses

/-- `range(1, target + 1)`. -/
def trialIndexes (policy : RepeatPolicy) : List Nat := List.range' 1 (target policy)

/-- A row of the contract, as far as the grader reads it. -/
structure SourceRow where
  sourcePack : PyStr
  sourceItemId : PyStr
  mandatoryPaths : List TrialPath
  expectedTrace : List PyStr
  repeatPolicy : Json
  /-- The row of the runtime campaign has none. -/
  disposition : Option PyStr
  mandatoryPaths_nodup : mandatoryPaths.Nodup

/-- What no two rows have in common. -/
def SourceRow.key (row : SourceRow) : PyStr × PyStr := (row.sourcePack, row.sourceItemId)

/-- `required_trial_indexes`. -/
def requiredTrialIndexes (row : SourceRow) : Except Violation (List Nat) := do
  let policy ← readRepeatPolicy row.repeatPolicy
  .ok (trialIndexes policy)

/-- A contract, as far as the grader reads it, and what its validation asks of it. -/
structure Contract where
  sourceRows : List SourceRow
  runtimeSoak : SourceRow
  turns : Nat
  keys_nodup : (sourceRows.map SourceRow.key).Nodup
  policies : ∀ row ∈ sourceRows, ∃ policy, readRepeatPolicy row.repeatPolicy = .ok policy ∧
    policy.triggers.isSome = true

/-- The rows of a lane. -/
def Contract.rows (contract : Contract) : Lane → List SourceRow
  | .rc => contract.sourceRows
  | .runtime => [contract.runtimeSoak]

/-- `_grade_rows`: the paths of a lane. -/
def gradeRows (contract : Contract) (lane : Lane) : List (SourceRow × TrialPath) :=
  (contract.rows lane).flatMap fun row => row.mandatoryPaths.map fun path => (row, path)

/-! ## Packets -/

/-- A packet as its validation returns it, as far as the grader reads it. -/
structure Packet where
  sourcePack : PyStr
  sourceItemId : PyStr
  path : TrialPath
  classification : ExecutionClassification
  candidateHash : Digest
  events : List Entries
  trialIndex : Nat
  turnCount : Nat
  events_ne : events ≠ []
  terminal : ResultPacket.checkTerminal classification (events.filter ResultPacket.isTerminal) = .ok ()
  trialIndex_pos : 1 ≤ trialIndex
  turnCount_le : turnCount ≤ 180

namespace Packet

/-- A packet is of a path of a row. -/
def isOf (packet : Packet) (cell : SourceRow × TrialPath) : Bool :=
  packet.sourcePack = cell.1.sourcePack && packet.sourceItemId = cell.1.sourceItemId &&
    packet.path = cell.2

/-- `_is_pass`. -/
def isPass (packet : Packet) : Bool := Parity.isPass packet.path packet.classification

/-- `_trace_matches`. -/
def traceMatches (packet : Packet) (row : SourceRow) : Bool :=
  Parity.traceMatches packet.path packet.events row.expectedTrace

/-- A packet that passes with the trace of the row. -/
def passes (row : SourceRow) (packet : Packet) : Bool := packet.isPass && packet.traceMatches row

/-- The packet says that its trial is not done. -/
def isPending (packet : Packet) : Bool :=
  packet.classification = .pending || packet.classification = .environmentBlocked

/-- A trial that is done, and does not pass. -/
def fails (row : SourceRow) (packet : Packet) : Bool :=
  !packet.isPending && (!packet.isPass || !packet.traceMatches row)

/-- What no two packets of a report have in common. -/
def gradeKey (packet : Packet) : PyStr × PyStr × TrialPath × Nat × Digest :=
  (packet.sourcePack, packet.sourceItemId, packet.path, packet.trialIndex, packet.candidateHash)

end Packet

/-- `_pass_power_3`. -/
def passPower3 (row : SourceRow) (packets : List Packet) : Bool :=
  threeConsecutive Packet.trialIndex Packet.candidateHash (Packet.passes row) packets

/-- The loop over the packets of a report; what is kept besides the packets is read off them. -/
def admitTrial (rows : List (SourceRow × TrialPath)) (admitted : List Packet) (packet : Packet) :
    Except Violation (List Packet) := do
  let cell ← orStop (rows.find? packet.isOf)
    (.result (lit "packet names an unknown or non-mandatory path"))
  let required ← requiredTrialIndexes cell.1
  requireResult (packet.trialIndex ∈ required)
    (lit "packet trial index is outside the frozen repeat policy")
  requireResult (packet.gradeKey ∉ admitted.map Packet.gradeKey)
    (lit "duplicate source/path/trial packet")
  .ok (admitted ++ [packet])

/-- The trials of a path. -/
def trialsOf (cell : SourceRow × TrialPath) (packets : List Packet) : List Packet :=
  packets.filter fun packet => packet.isOf cell

/-- Every packet passes its path. -/
def allPass (rows : List (SourceRow × TrialPath)) (packets : List Packet) : Bool :=
  packets.all fun packet => (rows.find? packet.isOf).any fun cell => packet.passes cell.1

/-- The check of the turns of a runtime campaign that passes. -/
def turnsAdd (contract : Contract) (lane : Lane) (packets : List Packet) : Bool :=
  !(lane = .runtime && packets.length = (gradeRows contract lane).length &&
    allPass (gradeRows contract lane) packets &&
    (packets.map Packet.turnCount).sum ≠ contract.turns)

/-! ## Grades -/

/-- The status of a path. -/
inductive ResultStatus
  | notRun
  | verifiedFailure
  | partialSet
  | complete
  | pending
  deriving DecidableEq

/-- What a report says about a path. -/
structure PathResult where
  sourcePack : PyStr
  sourceItemId : PyStr
  path : TrialPath
  status : ResultStatus
  trialIndexes : List Nat
  requiredTrialIndexes : List Nat
  passAt3 : Bool
  passPower3 : Bool
  reason : PyStr

/-- Trials differ in classification or trace. -/
def isUnstable (row : SourceRow) (observed : List Packet) : Bool :=
  1 < (observed.map fun packet => (packet.classification, packet.traceMatches row)).dedup.length

/-- The number of passes in a row that a path needs. -/
def requiredConsecutive (row : SourceRow) (policy : RepeatPolicy) (triggers : List PyStr)
    (observed : List Packet) : Nat :=
  if asksForThree triggers || observed.any (Packet.fails row) || isUnstable row observed then
    max policy.consecutivePasses 3
  else policy.consecutivePasses

/-- `{trial indexes} == set(required)`. -/
def coversExactly (required : List Nat) (observed : List Packet) : Bool :=
  required.all (· ∈ observed.map Packet.trialIndex) &&
    (observed.map Packet.trialIndex).all (· ∈ required)

/-- The status of a path and its reason. -/
def resultStatus (observed hadFailure passPower3 exactTrials passes blocked : Bool) (needed : Nat) :
    ResultStatus × PyStr :=
  if !observed then
    (.notRun, lit "no result packet exists for this required path")
  else if hadFailure && !(needed = 3 && passPower3) then
    (.verifiedFailure, lit "failure or trace mismatch lacks strict 3/3 evidence")
  else if !exactTrials then
    (.partialSet, lit "result packets do not cover the complete frozen trial set")
  else if 3 ≤ needed && passPower3 then
    (.complete, lit "three consecutive passes share one unchanged candidate identity")
  else if needed = 1 && passes then
    (.complete, lit "required path has deterministic passing evidence")
  else if blocked then
    (.pending, lit "execution is pending or environment-blocked")
  else
    (.pending, lit "repeat requirement not met: need " ++ decimal needed ++ lit " consecutive pass(es)")

/-- The result of a path whose policy has the given triggers. -/
def pathResult (cell : SourceRow × TrialPath) (policy : RepeatPolicy) (triggers : List PyStr)
    (observed : List Packet) : PathResult :=
  let row := cell.1
  let three := passPower3 row observed
  let status := resultStatus (!observed.isEmpty) (observed.any (Packet.fails row)) three
    (coversExactly (trialIndexes policy) observed) (observed.any (Packet.passes row))
    (observed.any Packet.isPending) (requiredConsecutive row policy triggers observed)
  { sourcePack := row.sourcePack
    sourceItemId := row.sourceItemId
    path := cell.2
    status := status.1
    trialIndexes := observed.map Packet.trialIndex
    requiredTrialIndexes := trialIndexes policy
    passAt3 := (observed.take 3).any (Packet.passes row)
    passPower3 := three
    reason := status.2 }

/-- The result of a path from the packets of its group. -/
def gradePath (cell : SourceRow × TrialPath) (grouped : List Packet) :
    Except Violation PathResult := do
  let policy ← readRepeatPolicy cell.1.repeatPolicy
  let triggers ← orStop policy.triggers (.raised "KeyError")
  .ok (pathResult cell policy triggers (sortByIndex Packet.trialIndex grouped))

/-- The report of a grade. -/
structure ResultReport where
  status : ResultStatus
  exitCode : Nat
  requiredPaths : Nat
  requiredTrialPackets : Nat
  observedPackets : Nat
  completePaths : Nat
  pendingPaths : Nat
  partialPaths : Nat
  notRunPaths : Nat
  failedPaths : Nat
  passAt3Paths : Nat
  passPower3Paths : Nat
  candidateHash : Option Digest
  dispositionTotals : List (PyStr × Nat)
  pathResults : List PathResult

/-- The report on the results of all paths. -/
def resultReport (contract : Contract) (lane : Lane) (packets : List Packet)
    (trialPackets : Nat) (details : List PathResult) : ResultReport :=
  let count (status : ResultStatus) : Nat := details.countP fun detail => detail.status = status
  let waiting := count .pending + count .notRun
  let dispositions := (contract.rows lane).filterMap SourceRow.disposition
  { status :=
      if 0 < count .verifiedFailure then .verifiedFailure
      else if 0 < count .partialSet then .partialSet
      else if 0 < waiting then .pending
      else .complete
    exitCode :=
      if 0 < count .verifiedFailure then 1
      else if 0 < count .partialSet + waiting then 75
      else 0
    requiredPaths := (gradeRows contract lane).length
    requiredTrialPackets := trialPackets
    observedPackets := packets.length
    completePaths := count .complete
    pendingPaths := count .pending
    partialPaths := count .partialSet
    notRunPaths := count .notRun
    failedPaths := count .verifiedFailure
    passAt3Paths := details.countP PathResult.passAt3
    passPower3Paths := details.countP PathResult.passPower3
    candidateHash := packets.head?.map Packet.candidateHash
    dispositionTotals := dispositions.eraseDups.map fun text => (text, dispositions.count text)
    pathResults := details }

/-- The order of `sorted(rows)`. -/
def cellKey (cell : SourceRow × TrialPath) : List PyStr :=
  [cell.1.sourcePack, cell.1.sourceItemId, cell.2.value]

/-- The paths of a lane in the order in which they are graded. -/
def gradedCells (contract : Contract) (lane : Lane) : List (SourceRow × TrialPath) :=
  (gradeRows contract lane).insertionSort fun a b => cellKey a ≤ cellKey b

/-- The number of packets that a row asks for. -/
def expectedPackets (row : SourceRow) : Except Violation Nat := do
  let required ← requiredTrialIndexes row
  .ok (row.mandatoryPaths.length * required.length)

/-- `grade_result_packets`, once the contract and the packets are validated. -/
def gradeResultPackets (contract : Contract) (packets : List Packet) (laneText : PyStr) :
    Except Violation ResultReport := do
  let lane ← orStop (laneOf laneText) (.result (lit "packets or grade lane is malformed"))
  let admitted ← packets.foldlM (admitTrial (gradeRows contract lane)) []
  requireResult ((admitted.map Packet.candidateHash).dedup.length ≤ 1)
    (lit "one grade cannot combine candidate identities")
  requireResult (turnsAdd contract lane admitted)
    (lit "runtime pass evidence must total exactly 100 parent turns")
  let counts ← (contract.rows lane).mapM expectedPackets
  let details ← (gradedCells contract lane).mapM fun cell => gradePath cell (trialsOf cell admitted)
  .ok (resultReport contract lane admitted counts.sum details)

end HermesClaude.Parity.V4
