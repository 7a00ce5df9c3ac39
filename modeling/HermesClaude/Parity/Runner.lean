/-
# Runs of the catalog

A run walks over the required paths of the selected capabilities and executes each trial
that has no packet yet.  Every step of the walk replaces at most one file, so that a run
may be interrupted between any two steps; what it keeps in memory is then lost, and the
next run has the directory only.
-/

import HermesClaude.Library.System
import HermesClaude.Parity.Manifest

namespace HermesClaude.Parity

open HermesClaude.Python HermesClaude.Library

/-! ## The result directory -/

/-- `f"{n:0{width}d}"`. -/
def zeroPad (width n : Nat) : PyStr :=
  List.replicate (width - (decimal n).length) 0x30 ++ decimal n

/-- The file name of `_result_path`. -/
def resultName (capabilityId : PyStr) (path : TrialPath) (trialIndex : Nat) : PyStr :=
  capabilityId ++ (lit "__" ++ (path.value ++ (lit "__trial-" ++ (zeroPad 3 trialIndex ++ lit ".json"))))

/-- `dict[key] = value`, and a file that is replaced. -/
def assign {β : Type} (items : List (PyStr × β)) (key : PyStr) (value : β) : List (PyStr × β) :=
  if items.any (fun item => item.1 == key) then
    items.map fun item => if item.1 = key then (key, value) else item
  else items ++ [(key, value)]

/-- The files of a result directory: packets by name, and `run-manifest.json`. -/
structure Directory where
  packets : List (PyStr × Bytes)
  manifest : Option Bytes

/-- A directory without a run. -/
def emptyDirectory : Directory := { packets := [], manifest := none }

/-! ## Runs -/

/-- The arguments of `run_catalog_async`, but for `resume` and those that are only handed
on to executors. -/
structure RunArguments where
  catalog : Catalog
  lane : Lane
  profileId : PyStr
  profileHash : PyStr
  pluginSha : PyStr
  hostSha : PyStr
  sdkVersion : PyStr
  runnerVersion : PyStr
  inventoryHash : PyStr
  /-- `registry.get(execution_id) is not None`. -/
  registered : PyStr → Bool
  capabilityIds : List PyStr := []
  maxTrialsPerPath : Nat := 6

/-- A place in the loops: the trial of a path of a capability, with the target of the path,
and the paths that come after it. -/
structure Cell where
  capability : Capability
  path : TrialPath
  trialIndex : Nat
  target : Nat
  rest : List (Capability × TrialPath)

/-- The file of a path of the trial, in the result directory. -/
def Cell.resultName (cell : Cell) (path : TrialPath) : PyStr :=
  Parity.resultName cell.capability.capabilityId path cell.trialIndex

/-- Where a run is. -/
inductive Control
  /-- Before the next path. -/
  | paths (rest : List (Capability × TrialPath))
  /-- Before the condition of the loop over the trials of a path. -/
  | trial (cell : Cell)
  /-- While an executor is running. -/
  | awaiting (cell : Cell) (context : ExecutionContext)
  /-- Before the packet of an outcome is built and written. -/
  | write (cell : Cell) (outcome : ExecutionOutcome)
  /-- Before the manifest that records this packet is written. -/
  | checkpoint (cell : Cell) (packet : ResultPacket)
  /-- In the loop over the outcomes of a bundle, with the pending ones and what is built. -/
  | bundle (cell : Cell) (outcomes pending : List (TrialPath × CheckedOutcome))
      (built : List (TrialPath × ResultPacket))
  /-- Behind the loops. -/
  | finish
  | done

/-- What a run keeps in memory. -/
structure Memory where
  resume : Bool
  exactCandidate : PyStr
  executionReceipts : List Receipt
  usedTurns : Nat
  packets : List ResultPacket := []
  outcomeCache : List ((PyStr × TrialPath × Nat) × ExecutionOutcome) := []
  bundlePacketCache : List ((PyStr × Nat) × List (TrialPath × ResultPacket)) := []
  checkpointPackets : List (PyStr × ResultPacket)
  scenarioRepeatTargets : List (PyStr × Nat) := []
  control : Control

/-- A step of a run. -/
inductive Move
  | go (memory : Memory)
  | replacePacket (name : PyStr) (data : Bytes) (memory : Memory)
  | replaceManifest (data : Bytes) (memory : Memory)
  | finished
  | raise (violation : ResultViolation)

/-- The rest of a step, where a call may have raised. -/
def orMoveRaise {α : Type} (value : Except ResultViolation α) (rest : α → Move) : Move :=
  match value with
  | .ok a => rest a
  | .error violation => .raise violation

namespace RunArguments

variable (args : RunArguments)

/-- The capabilities of the lane that were asked for, or all of them. -/
def capabilities : List Capability :=
  (args.catalog.forLane args.lane).filter fun capability =>
    args.capabilityIds.isEmpty || capability.capabilityId ∈ args.capabilityIds

/-- The required paths, in the order of the loops. -/
def requiredPaths : List (Capability × TrialPath) :=
  args.capabilities.flatMap fun capability =>
    (trialPaths.filter capability.required).map fun path => (capability, path)

/-- The candidate of the run. -/
def candidate : Candidate where
  catalogHash := args.catalog.catalogHash
  pluginSha := args.pluginSha
  hostSha := args.hostSha
  sdkVersion := args.sdkVersion
  profileHash := args.profileHash
  runnerVersion := args.runnerVersion
  inventoryHash := args.inventoryHash

/-- What the manifests of the run are bound to. -/
def identity (exactCandidate : PyStr) : ManifestIdentity where
  lane := args.lane
  contractHash := args.catalog.contractHash
  catalogHash := args.catalog.catalogHash
  exactCandidate

end RunArguments

/-- A classification as an argument of `build`. -/
def GivenClassification.toValue : GivenClassification → PyValue
  | .member classification => .str classification.value
  | .value raw => raw.toValue

/-- The classifications that end the trials of a path. -/
def endsTrials (classification : ExecutionClassification) : Bool :=
  classification = .pending || classification = .environmentBlocked

/-- Whether two lists have the same elements. -/
def sameElements (xs ys : List PyStr) : Bool := xs.all (· ∈ ys) && ys.all (· ∈ xs)

section Running

variable (floats : FloatText) (args : RunArguments)

/-- `build_packet`. -/
def buildPacket (capability : Capability) (path : TrialPath) (trialIndex : Nat)
    (outcome : ExecutionOutcome) : Except ResultViolation ResultPacket :=
  ResultPacket.build floats {
    capabilityId := .str capability.capabilityId
    sourcePack := .str capability.sourcePack
    lane := .str capability.lane.value
    path := .str path.value
    executionId := .str capability.executionId
    classification := outcome.classification.toValue
    contractHash := .str args.catalog.contractHash
    catalogHash := .str args.catalog.catalogHash
    pluginSha := .str args.pluginSha
    hostSha := .str args.hostSha
    sdkVersion := .str args.sdkVersion
    profileId := .str args.profileId
    profileHash := .str args.profileHash
    runnerVersion := .str args.runnerVersion
    inventoryHash := .str args.inventoryHash
    billingClassification := outcome.billingClassification.toValue
    turnCount := outcome.turnCount.toValue
    trialIndex := .int trialIndex
    normalizedEvents := outcome.normalizedEvents.map Json.toValueItems
    primaryProofHash := outcome.primaryProofHash.toValue
    secondaryProofHash := outcome.secondaryProofHash.toValue
    silentFallback := outcome.silentFallback.toValue
    invariantViolations := outcome.invariantViolations.map Json.toValue
    reasonCode := outcome.reasonCode.toValue }

/-- `[read_result_packet(path) for path in existing_paths]`, with the names.  The files are
taken in the order in which they were written: their order decides at most which of two
unreadable files is reported. -/
def readPackets : List (PyStr × Bytes) → Except ResultViolation (List (PyStr × ResultPacket))
  | [] => .ok []
  | (name, data) :: files => do
    let packet ← readResultPacket floats name (some data)
    let packets ← readPackets files
    pure ((name, packet) :: packets)

/-- The receipts and the packets that a run starts with. -/
def loadDirectory (resume : Bool) (exactCandidate : PyStr) (disk : Directory) :
    Except ResultViolation (List Receipt × List (PyStr × ResultPacket)) :=
  if resume then
    match disk.manifest with
    | some data => do
      let (receipts, packetHashes) ← loadManifest floats (args.identity exactCandidate) data
      let packets ← readPackets floats disk.packets
      require (sameElements (packets.map fun item => item.2.packetHash.val) packetHashes)
        (lit "run manifest packet set does not match the result directory")
      pure (receipts, packets)
    | none =>
      if disk.packets.isEmpty then .ok ([], [])
      else .error (.violation (lit "resume requires the matching run manifest"))
  else if disk.manifest.isSome || !disk.packets.isEmpty then
    .error (.violation (lit "fresh run refuses an existing manifest or result packet"))
  else .ok ([], [])

/-- `run_catalog_async` up to its loops. -/
def beginRun (resume : Bool) (disk : Directory) : Except ResultViolation Memory := do
  require (3 ≤ args.maxTrialsPerPath)
    (lit "max_trials_per_path must allow strict three-pass recovery")
  let available := (args.catalog.forLane args.lane).map Capability.capabilityId
  let unknown := args.capabilityIds.filter fun id => id ∉ available
  refuseIf (!unknown.isEmpty) (.fields (lit "requested capability ids") [] (sorted unknown))
  let exactCandidate ← orRaise (candidateHash floats args.candidate) "ValueError"
  let (executionReceipts, checkpointPackets) ← loadDirectory floats args resume exactCandidate disk
  pure {
    resume, exactCandidate, executionReceipts, checkpointPackets
    usedTurns := (executionReceipts.map Receipt.turnCount).sum
    control := .paths args.requiredPaths }

/-- The bytes of `checkpoint_manifest`, or the exception. -/
def checkpointBytes (m : Memory) : Except ResultViolation Bytes :=
  orRaise (manifestBytes floats (args.identity m.exactCandidate) m.executionReceipts
    (m.checkpointPackets.map fun item => item.2.packetHash.val)) "ValueError"

/-- The target of a path before its first trial. -/
def initialTarget (m : Memory) (capability : Capability) (triggers : List PyStr) : Nat :=
  let target :=
    if triggers.any fun trigger => trigger ∈ [lit "consequential", lit "unstable"] then
      max capability.consecutivePasses 3
    else capability.consecutivePasses
  max target ((m.scenarioRepeatTargets.lookup capability.executionId).getD 1)

/-- The end of the loop body: the packet of a trial decides how the path goes on. -/
def settle (m : Memory) (cell : Cell) (packet : ResultPacket) : Memory :=
  let target :=
    if packet.classification = .verifiedFailure then
      min args.maxTrialsPerPath (max cell.target (cell.trialIndex + 3))
    else cell.target
  { m with
    packets := m.packets ++ [packet]
    control :=
      if endsTrials packet.classification then .paths cell.rest
      else .trial { cell with trialIndex := cell.trialIndex + 1, target } }

/-- The repeat target of a scenario after a bundle with a failure. -/
def retarget (m : Memory) (cell : Cell) (outcomes : List (TrialPath × CheckedOutcome)) :
    Memory × Cell :=
  if outcomes.any fun item => item.2.outcome.classification.isMember .verifiedFailure then
    let known := (m.scenarioRepeatTargets.lookup cell.capability.executionId).getD 1
    let target := min args.maxTrialsPerPath (max known (cell.trialIndex + 3))
    ({ m with scenarioRepeatTargets :=
        assign m.scenarioRepeatTargets cell.capability.executionId target },
      { cell with target := max cell.target target })
  else (m, cell)

/-- The body of the loop over the trials, up to a call of an executor. -/
def moveTrial (disk : Directory) (m : Memory) (cell : Cell) : Move :=
  let id := cell.capability.executionId
  let name := cell.resultName cell.path
  match m.bundlePacketCache.lookup (id, cell.trialIndex) with
  | some built =>
    orMoveRaise (orRaise (built.lookup cell.path) "KeyError") fun packet =>
      .go (settle args m cell packet)
  | none =>
    match disk.packets.lookup name with
    | some data =>
      if !m.resume then
        .raise (.violation (lit "refusing to overwrite existing result packet: " ++ name))
      else
        orMoveRaise (readResultPacket floats name (some data)) fun packet =>
          if packet.candidateHash.val ≠ m.exactCandidate then
            .raise (.violation (lit "resume packet belongs to a different exact candidate"))
          else .go (settle args m cell packet)
    | none =>
      if !args.registered id then .go { m with control := .write cell unregisteredOutcome }
      else
        match m.outcomeCache.lookup (id, cell.path, cell.trialIndex) with
        | some outcome => .go { m with control := .write cell outcome }
        | none =>
          .go { m with control := .awaiting cell {
            capability := cell.capability
            path := cell.path
            trialIndex := cell.trialIndex
            remainingTurnBudget := turnBudget args.lane - m.usedTurns } }

/-- The next outcome of a bundle, or the end of its loop. -/
def moveBundle (disk : Directory) (m : Memory) (cell : Cell)
    (outcomes pending : List (TrialPath × CheckedOutcome)) (built : List (TrialPath × ResultPacket)) :
    Move :=
  match pending with
  | (path, checked) :: pending =>
    let name := cell.resultName path
    if (disk.packets.lookup name).isSome then
      .raise (.violation (lit "resume found an incomplete combined execution trial"))
    else
      orMoveRaise (buildPacket floats args cell.capability path cell.trialIndex checked.outcome)
        fun packet => orMoveRaise (orRaise (packet.write floats) "ValueError") fun data =>
          .replacePacket name data { m with
            checkpointPackets := assign m.checkpointPackets name packet
            control := .bundle cell outcomes pending (built ++ [(path, packet)]) }
  | [] =>
    orMoveRaise (orRaise (built.lookup cell.path) "KeyError") fun packet =>
      orMoveRaise (checkpointBytes floats args m) fun data =>
        let key := (cell.capability.executionId, cell.trialIndex)
        let cached := { m with bundlePacketCache := (key, built) :: m.bundlePacketCache }
        let (targeted, cell) := retarget args cached cell outcomes
        .replaceManifest data (settle args targeted cell packet)

/-- The next step of a run, unless it waits for an executor. -/
def move (disk : Directory) (m : Memory) : Option Move :=
  match m.control with
  | .paths [] => some (.go { m with control := .finish })
  | .paths ((capability, path) :: rest) =>
    some (orMoveRaise (orRaise capability.triggers "KeyError") fun triggers =>
      .go { m with control := .trial {
        capability, path, rest, trialIndex := 1, target := initialTarget m capability triggers } })
  | .trial cell =>
    some (if cell.trialIndex ≤ cell.target && cell.trialIndex ≤ args.maxTrialsPerPath then
      moveTrial floats args disk m cell
    else .go { m with control := .paths cell.rest })
  | .awaiting _ _ => none
  | .write cell outcome =>
    some (orMoveRaise (buildPacket floats args cell.capability cell.path cell.trialIndex outcome)
      fun packet => orMoveRaise (orRaise (packet.write floats) "ValueError") fun data =>
        let name := cell.resultName cell.path
        .replacePacket name data { m with
          checkpointPackets := assign m.checkpointPackets name packet
          control := .checkpoint cell packet })
  | .checkpoint cell packet =>
    some (orMoveRaise (checkpointBytes floats args m) fun data =>
      .replaceManifest data (settle args m cell packet))
  | .bundle cell outcomes pending built =>
    some (moveBundle floats args disk m cell outcomes pending built)
  | .finish =>
    some (orMoveRaise (readPackets floats disk.packets) fun _ =>
      orMoveRaise (checkpointBytes floats args m) fun data =>
        .replaceManifest data { m with control := .done })
  | .done => some .finished

/-- The end of the call of an executor. -/
def receive (m : Memory) (cell : Cell) (context : ExecutionContext) (response : Response) :
    Except ResultViolation Memory := do
  let result ← callExecutor response
  let checked ← validateExecutorResult result context.remainingTurnBudget
  validateRuntimeCampaign checked args.lane cell.capability.executionId
  let receipt ← orRaise (executionReceipt floats m.exactCandidate cell.capability.executionId
    (checked.receiptPath cell.path) cell.trialIndex checked) "ValueError"
  let recorded := { m with
    executionReceipts := m.executionReceipts ++ [receipt]
    usedTurns := m.usedTurns + checked.turnCount }
  match checked with
  | .outcome single =>
    let key := (cell.capability.executionId, cell.path, cell.trialIndex)
    pure { recorded with
      outcomeCache := (key, single.outcome) :: m.outcomeCache
      control := .write cell single.outcome }
  | .bundle outcomes => pure { recorded with control := .bundle cell outcomes outcomes [] }

end Running

/-! ## Runs one after the other -/

/-- How a run ends. -/
inductive RunEnd
  | finished
  | raised (violation : ResultViolation)
  | interrupted

/-- A run that is going on. -/
structure Process where
  args : RunArguments
  memory : Memory

/-- A directory and the run that works on it, if there is one. -/
structure RunState where
  disk : Directory
  process : Option Process
  /-- Whether there has been a run. -/
  started : Bool
  lastEnd : Option RunEnd

/-- What happens next. -/
inductive RunLabel
  /-- A run is started. -/
  | launch (args : RunArguments) (resume : Bool)
  /-- The run goes on. -/
  | tick
  /-- The executor that the run waits for ends. -/
  | respond (response : Response)
  /-- The run is interrupted. -/
  | interrupt

/-- A run ends. -/
def RunState.stop (s : RunState) (how : RunEnd) : RunState :=
  { s with process := none, lastEnd := some how }

/-- The run goes on with this memory. -/
def RunState.go (s : RunState) (args : RunArguments) (memory : Memory) : RunState :=
  { s with process := some { args, memory } }

section Sequences

variable (floats : FloatText)

/-- A run is started. -/
def RunState.launch (s : RunState) (args : RunArguments) (resume : Bool) : RunState :=
  match beginRun floats args resume s.disk with
  | .ok m => { s.go args m with started := true }
  | .error violation => { s.stop (.raised violation) with started := true }

/-- A step of the run, as it shows in the directory. -/
def RunState.apply (s : RunState) (args : RunArguments) : Move → RunState
  | .go m => s.go args m
  | .replacePacket name data m =>
    { s.go args m with disk := { s.disk with packets := assign s.disk.packets name data } }
  | .replaceManifest data m => { s.go args m with disk := { s.disk with manifest := some data } }
  | .finished => s.stop .finished
  | .raise violation => s.stop (.raised violation)

/-- The answer of an executor reaches the run. -/
def RunState.answer (s : RunState) (p : Process) (response : Response) : Option RunState :=
  match p.memory.control with
  | .awaiting cell context =>
    match receive floats p.args p.memory cell context response with
    | .ok m => some (s.go p.args m)
    | .error violation => some (s.stop (.raised violation))
  | _ => none

/-- Any number of runs, one after the other, on the given directory. -/
def runs (disk : Directory) : System RunState RunLabel where
  init := { disk, process := none, started := false, lastEnd := none }
  next s label :=
    match s.process, label with
    | none, .launch args resume => some (s.launch floats args resume)
    | some p, .tick => (move floats p.args s.disk p.memory).map (s.apply p.args)
    | some p, .respond response => s.answer floats p response
    | some _, .interrupt => some (s.stop .interrupted)
    | _, _ => none

end Sequences

end HermesClaude.Parity
