/-
# The steps of a run

What each step of a run does and when, one case for each way through the loops.  Every
invariant of runs is proved from these cases, without unfolding the loops again.
-/

import HermesClaude.Parity.ResultFields
import HermesClaude.Parity.Runner

namespace HermesClaude.Parity

open HermesClaude.Python HermesClaude.Library

/-! ## Before the loops -/

section Start

variable {floats : FloatText} {args : RunArguments} {disk : Directory} {resume : Bool}
  {exactCandidate : PyStr}

/-- The arguments of a run pass the checks that do not look at the directory. -/
structure RunArguments.Fit (floats : FloatText) (args : RunArguments) (exactCandidate : PyStr) :
    Prop where
  trials : 3 ≤ args.maxTrialsPerPath
  known : args.capabilityIds.filter (fun id =>
    id ∉ (args.catalog.forLane args.lane).map Capability.capabilityId) = []
  candidate : candidateHash floats args.candidate = some exactCandidate

/-- What a run has in memory when it enters its loops. -/
def RunArguments.initial (args : RunArguments) (resume : Bool) (exactCandidate : PyStr)
    (receipts : List Receipt) (packets : List (PyStr × ResultPacket)) : Memory where
  resume := resume
  exactCandidate := exactCandidate
  executionReceipts := receipts
  checkpointPackets := packets
  usedTurns := (receipts.map Receipt.turnCount).sum
  control := .paths args.requiredPaths

theorem loadDirectory_eq_ok {receipts : List Receipt} {packets : List (PyStr × ResultPacket)} :
    loadDirectory floats args resume exactCandidate disk = .ok (receipts, packets) ↔
      (disk.manifest = none ∧ disk.packets = [] ∧ receipts = [] ∧ packets = []) ∨
      (resume = true ∧ ∃ data hashes, disk.manifest = some data ∧
        loadManifest floats (args.identity exactCandidate) data = .ok (receipts, hashes) ∧
        readPackets floats disk.packets = .ok packets ∧
        sameElements (packets.map fun item => item.2.packetHash.val) hashes = true) := by
  unfold loadDirectory
  cases resume with
  | false =>
    cases hmanifest : disk.manifest with
    | some data => simp
    | none =>
      cases hpackets : disk.packets with
      | cons file files => simp
      | nil => simp
  | true =>
    cases hmanifest : disk.manifest with
    | some data =>
      simp only [if_true, bind_eq_ok, require_eq_ok, Prod.exists]
      constructor
      · rintro ⟨receipts', hashes, hload, packets', hread, ⟨⟩, hsame, hrest⟩
        cases hrest
        exact .inr ⟨trivial, data, hashes, rfl, hload, hread, hsame⟩
      · rintro (⟨h, -⟩ | ⟨-, _, hashes, h, hload, hread, hsame⟩)
        · cases h
        · cases h
          exact ⟨receipts, hashes, hload, packets, hread, (), hsame, rfl⟩
    | none =>
      cases hpackets : disk.packets with
      | cons file files => simp
      | nil => simp

/-- A run begins if its arguments fit and it accepts the directory. -/
theorem beginRun_eq_ok {m : Memory} :
    beginRun floats args resume disk = .ok m ↔ ∃ exactCandidate receipts packets,
      args.Fit floats exactCandidate ∧
      loadDirectory floats args resume exactCandidate disk = .ok (receipts, packets) ∧
      m = args.initial resume exactCandidate receipts packets := by
  simp only [beginRun, bind_eq_ok, require_eq_ok, refuseIf_eq_ok, orRaise_eq_ok, decide_eq_true_eq,
    Bool.not_eq_false', List.isEmpty_iff, Prod.exists]
  constructor
  · rintro ⟨⟨⟩, htrials, ⟨⟩, hknown, exactCandidate, hcandidate, receipts, packets, hload, hrest⟩
    cases hrest
    exact ⟨exactCandidate, receipts, packets, ⟨htrials, hknown, hcandidate⟩, hload, rfl⟩
  · rintro ⟨exactCandidate, receipts, packets, hfit, hload, rfl⟩
    exact ⟨(), hfit.trials, (), hfit.known, exactCandidate, hfit.candidate, receipts, packets, hload,
      rfl⟩

end Start

/-! ## The loops -/

section Loops

variable {floats : FloatText} {args : RunArguments} {disk : Directory} {m : Memory}

theorem orMoveRaise_eq {α : Type} {value : Except ResultViolation α} {rest : α → Move}
    {next : Move} (h : orMoveRaise value rest = next) :
    (∃ a, value = .ok a ∧ rest a = next) ∨ ∃ violation, next = .raise violation := by
  cases value with
  | ok a => exact .inl ⟨a, rfl, h⟩
  | error violation => exact .inr ⟨violation, h.symm⟩

/-- The loop over the trials of a path goes on. -/
structure Due (args : RunArguments) (m : Memory) (cell : Cell) : Prop where
  control : m.control = .trial cell
  target : cell.trialIndex ≤ cell.target
  most : cell.trialIndex ≤ args.maxTrialsPerPath

/-- A trial that has no packet yet. -/
structure Unrecorded (args : RunArguments) (disk : Directory) (m : Memory) (cell : Cell) : Prop
    extends Due args m cell where
  uncached : m.bundlePacketCache.lookup (cell.capability.executionId, cell.trialIndex) = none
  noFile : disk.packets.lookup (cell.resultName cell.path) = none

/-- What a step of a run does. -/
inductive Steps (floats : FloatText) (args : RunArguments) (disk : Directory) (m : Memory) :
    Move → Prop
  | leave (control : m.control = .paths []) :
      Steps floats args disk m (.go { m with control := .finish })
  | enter {capability : Capability} {path : TrialPath} {rest : List (Capability × TrialPath)}
      {triggers : List PyStr} (control : m.control = .paths ((capability, path) :: rest))
      (policy : capability.triggers = some triggers) :
      Steps floats args disk m (.go { m with control := .trial {
        capability, path, rest, trialIndex := 1, target := initialTarget m capability triggers } })
  | exhaust {cell : Cell} (control : m.control = .trial cell)
      (spent : ¬ (cell.trialIndex ≤ cell.target ∧ cell.trialIndex ≤ args.maxTrialsPerPath)) :
      Steps floats args disk m (.go { m with control := .paths cell.rest })
  | cached {cell : Cell} {built : List (TrialPath × ResultPacket)} {packet : ResultPacket}
      (due : Due args m cell)
      (cache : m.bundlePacketCache.lookup (cell.capability.executionId, cell.trialIndex) = some built)
      (known : built.lookup cell.path = some packet) :
      Steps floats args disk m (.go (settle args m cell packet))
  | recorded {cell : Cell} {data : Bytes} {packet : ResultPacket} (due : Due args m cell)
      (uncached : m.bundlePacketCache.lookup (cell.capability.executionId, cell.trialIndex) = none)
      (file : disk.packets.lookup (cell.resultName cell.path) = some data)
      (resume : m.resume = true)
      (read : readResultPacket floats (cell.resultName cell.path) (some data) = .ok packet)
      (candidate : packet.candidateHash.val = m.exactCandidate) :
      Steps floats args disk m (.go (settle args m cell packet))
  | unregistered {cell : Cell} (missing : Unrecorded args disk m cell)
      (absent : args.registered cell.capability.executionId = false) :
      Steps floats args disk m (.go { m with control := .write cell unregisteredOutcome })
  | known {cell : Cell} {outcome : ExecutionOutcome} (missing : Unrecorded args disk m cell)
      (registered : args.registered cell.capability.executionId = true)
      (cache : m.outcomeCache.lookup (cell.capability.executionId, cell.path, cell.trialIndex) =
        some outcome) :
      Steps floats args disk m (.go { m with control := .write cell outcome })
  | call {cell : Cell} (missing : Unrecorded args disk m cell)
      (registered : args.registered cell.capability.executionId = true)
      (unknown : m.outcomeCache.lookup (cell.capability.executionId, cell.path, cell.trialIndex) =
        none) :
      Steps floats args disk m (.go { m with control := .awaiting cell {
        capability := cell.capability
        path := cell.path
        trialIndex := cell.trialIndex
        remainingTurnBudget := turnBudget args.lane - m.usedTurns } })
  | write {cell : Cell} {outcome : ExecutionOutcome} {packet : ResultPacket} {data : Bytes}
      (control : m.control = .write cell outcome)
      (build : buildPacket floats args cell.capability cell.path cell.trialIndex outcome = .ok packet)
      (file : packet.write floats = some data) :
      Steps floats args disk m (.replacePacket (cell.resultName cell.path) data { m with
        checkpointPackets := assign m.checkpointPackets (cell.resultName cell.path) packet
        control := .checkpoint cell packet })
  | checkpoint {cell : Cell} {packet : ResultPacket} {data : Bytes}
      (control : m.control = .checkpoint cell packet)
      (manifest : checkpointBytes floats args m = .ok data) :
      Steps floats args disk m (.replaceManifest data (settle args m cell packet))
  | part {cell : Cell} {outcomes pending : List (TrialPath × CheckedOutcome)}
      {built : List (TrialPath × ResultPacket)} {path : TrialPath} {checked : CheckedOutcome}
      {packet : ResultPacket} {data : Bytes}
      (control : m.control = .bundle cell outcomes ((path, checked) :: pending) built)
      (noFile : disk.packets.lookup (cell.resultName path) = none)
      (build : buildPacket floats args cell.capability path cell.trialIndex checked.outcome =
        .ok packet)
      (file : packet.write floats = some data) :
      Steps floats args disk m (.replacePacket (cell.resultName path) data { m with
        checkpointPackets := assign m.checkpointPackets (cell.resultName path) packet
        control := .bundle cell outcomes pending (built ++ [(path, packet)]) })
  | bundled {cell cell' : Cell} {outcomes : List (TrialPath × CheckedOutcome)}
      {built : List (TrialPath × ResultPacket)} {packet : ResultPacket} {data : Bytes}
      {targeted : Memory} (control : m.control = .bundle cell outcomes [] built)
      (known : built.lookup cell.path = some packet)
      (manifest : checkpointBytes floats args m = .ok data)
      (target : retarget args { m with
        bundlePacketCache :=
          ((cell.capability.executionId, cell.trialIndex), built) :: m.bundlePacketCache }
        cell outcomes = (targeted, cell')) :
      Steps floats args disk m (.replaceManifest data (settle args targeted cell' packet))
  | report {packets : List (PyStr × ResultPacket)} {data : Bytes} (control : m.control = .finish)
      (read : readPackets floats disk.packets = .ok packets)
      (manifest : checkpointBytes floats args m = .ok data) :
      Steps floats args disk m (.replaceManifest data { m with control := .done })
  | finished (control : m.control = .done) : Steps floats args disk m .finished
  | raise (violation : ResultViolation) : Steps floats args disk m (.raise violation)

theorem steps_of_moveTrial {cell : Cell} (due : Due args m cell) :
    Steps floats args disk m (moveTrial floats args disk m cell) := by
  generalize hnext : moveTrial floats args disk m cell = next
  unfold moveTrial at hnext
  dsimp only at hnext
  split at hnext
  next built hcache =>
    rcases orMoveRaise_eq hnext with ⟨packet, hknown, rfl⟩ | ⟨violation, rfl⟩
    · exact .cached due hcache (orRaise_eq_ok.mp hknown)
    · exact .raise violation
  next hcache =>
    split at hnext
    next data hfile =>
      split_ifs at hnext with hresume
      · rw [← hnext]
        exact .raise _
      · rcases orMoveRaise_eq hnext with ⟨packet, hread, hsettle⟩ | ⟨violation, rfl⟩
        · split_ifs at hsettle with hcandidate
          · rw [← hsettle]
            exact .raise _
          · rw [← hsettle]
            apply Steps.recorded due hcache hfile ?_ hread
            · simpa using hcandidate
            · simpa using hresume
        · exact .raise violation
    next hfile =>
      have missing : Unrecorded args disk m cell := { due with uncached := hcache, noFile := hfile }
      split_ifs at hnext with hregistered
      · rw [← hnext]
        apply Steps.unregistered missing
        simpa using hregistered
      · have registered : args.registered cell.capability.executionId = true := by
          simpa using hregistered
        split at hnext
        next outcome hknown =>
          rw [← hnext]
          exact .known missing registered hknown
        next hunknown =>
          rw [← hnext]
          exact .call missing registered hunknown

theorem steps_of_moveBundle {cell : Cell} {outcomes pending : List (TrialPath × CheckedOutcome)}
    {built : List (TrialPath × ResultPacket)}
    (control : m.control = .bundle cell outcomes pending built) :
    Steps floats args disk m (moveBundle floats args disk m cell outcomes pending built) := by
  generalize hnext : moveBundle floats args disk m cell outcomes pending built = next
  unfold moveBundle at hnext
  split at hnext
  next path checked pending =>
    dsimp only at hnext
    split_ifs at hnext with hfile
    · rw [← hnext]
      exact .raise _
    · rcases orMoveRaise_eq hnext with ⟨packet, hbuild, hwrite⟩ | ⟨violation, rfl⟩
      · rcases orMoveRaise_eq hwrite with ⟨data, hdata, rfl⟩ | ⟨violation, rfl⟩
        · exact .part control (Option.not_isSome_iff_eq_none.mp hfile) hbuild (orRaise_eq_ok.mp hdata)
        · exact .raise violation
      · exact .raise violation
  next =>
    rcases orMoveRaise_eq hnext with ⟨packet, hknown, hwrite⟩ | ⟨violation, rfl⟩
    · rcases orMoveRaise_eq hwrite with ⟨data, hdata, rfl⟩ | ⟨violation, rfl⟩
      · exact .bundled control (orRaise_eq_ok.mp hknown) hdata rfl
      · exact .raise violation
    · exact .raise violation

/-- What a step of a run does, and when. -/
theorem steps_of_move {next : Move} (h : move floats args disk m = some next) :
    Steps floats args disk m next := by
  unfold move at h
  split at h
  next hcontrol =>
    cases h
    exact .leave hcontrol
  next capability path rest hcontrol =>
    rcases orMoveRaise_eq (Option.some.inj h) with ⟨triggers, hpolicy, rfl⟩ | ⟨violation, rfl⟩
    · exact .enter hcontrol (orRaise_eq_ok.mp hpolicy)
    · exact .raise violation
  next cell hcontrol =>
    split_ifs at h with hdue
    · cases h
      have hbounds : cell.trialIndex ≤ cell.target ∧ cell.trialIndex ≤ args.maxTrialsPerPath := by
        simpa using hdue
      exact steps_of_moveTrial ⟨hcontrol, hbounds.1, hbounds.2⟩
    · cases h
      apply Steps.exhaust hcontrol
      simpa using hdue
  next => cases h
  next cell outcome hcontrol =>
    rcases orMoveRaise_eq (Option.some.inj h) with ⟨packet, hbuild, hwrite⟩ | ⟨violation, rfl⟩
    · rcases orMoveRaise_eq hwrite with ⟨data, hdata, rfl⟩ | ⟨violation, rfl⟩
      · exact .write hcontrol hbuild (orRaise_eq_ok.mp hdata)
      · exact .raise violation
    · exact .raise violation
  next cell packet hcontrol =>
    rcases orMoveRaise_eq (Option.some.inj h) with ⟨data, hdata, rfl⟩ | ⟨violation, rfl⟩
    · exact .checkpoint hcontrol hdata
    · exact .raise violation
  next cell outcomes pending built hcontrol =>
    cases h
    exact steps_of_moveBundle hcontrol
  next hcontrol =>
    rcases orMoveRaise_eq (Option.some.inj h) with ⟨packets, hread, hwrite⟩ | ⟨violation, rfl⟩
    · rcases orMoveRaise_eq hwrite with ⟨data, hdata, rfl⟩ | ⟨violation, rfl⟩
      · exact .report hcontrol hread hdata
      · exact .raise violation
    · exact .raise violation
  next hcontrol =>
    cases h
    exact .finished hcontrol

end Loops

/-! ## Answers -/

section Answers

variable {floats : FloatText} {args : RunArguments} {m m' : Memory} {cell : Cell}
  {context : ExecutionContext} {response : Response}

/-- A run with the receipt of one more execution. -/
def Memory.record (m : Memory) (receipt : Receipt) (turns : Nat) : Memory :=
  { m with executionReceipts := m.executionReceipts ++ [receipt], usedTurns := m.usedTurns + turns }

/-- How a run goes on with a result. -/
def Memory.continueWith (m : Memory) (cell : Cell) : CheckedResult → Memory
  | .outcome single => { m with
      outcomeCache := ((cell.capability.executionId, cell.path, cell.trialIndex), single.outcome) ::
        m.outcomeCache
      control := .write cell single.outcome }
  | .bundle outcomes => { m with control := .bundle cell outcomes outcomes [] }

/-- An answer is accepted as a result, with the receipt of the execution. -/
structure Accepts (floats : FloatText) (args : RunArguments) (m : Memory) (cell : Cell)
    (context : ExecutionContext) (response : Response) (checked : CheckedResult)
    (receipt : Receipt) : Prop where
  valid : ∃ result, callExecutor response = .ok result ∧
    validateExecutorResult result context.remainingTurnBudget = .ok checked
  campaign : validateRuntimeCampaign checked args.lane cell.capability.executionId = .ok ()
  receipt : executionReceipt floats m.exactCandidate cell.capability.executionId
    (checked.receiptPath cell.path) cell.trialIndex checked = some receipt

/-- A run goes on with an answer that it accepts. -/
theorem receive_eq_ok (h : receive floats args m cell context response = .ok m') :
    ∃ checked receipt, Accepts floats args m cell context response checked receipt ∧
      m' = (m.record receipt checked.turnCount).continueWith cell checked := by
  unfold receive at h
  simp only [bind_eq_ok, orRaise_eq_ok] at h
  obtain ⟨result, hresult, checked, hchecked, ⟨⟩, hcampaign, receipt, hreceipt, hrest⟩ := h
  refine ⟨checked, receipt, ⟨⟨result, hresult, hchecked⟩, hcampaign, hreceipt⟩, ?_⟩
  cases checked with
  | outcome single => exact (Except.ok.inj hrest).symm
  | bundle outcomes => exact (Except.ok.inj hrest).symm

end Answers

/-! ## Runs one after the other -/

section Sequences

variable {floats : FloatText} {start : Directory} {s t : RunState} {label : RunLabel}

/-- What happens to a directory and the run that works on it. -/
inductive Next (floats : FloatText) (s : RunState) : RunLabel → RunState → Prop
  | launched {args : RunArguments} {resume : Bool} {m : Memory} (idle : s.process = none)
      (begun : beginRun floats args resume s.disk = .ok m) :
      Next floats s (.launch args resume) { s.go args m with started := true }
  | refused {args : RunArguments} {resume : Bool} {violation : ResultViolation}
      (idle : s.process = none) (begun : beginRun floats args resume s.disk = .error violation) :
      Next floats s (.launch args resume) { s.stop (.raised violation) with started := true }
  | moved {args : RunArguments} {m : Memory} {next : Move} (running : s.process = some ⟨args, m⟩)
      (move : move floats args s.disk m = some next) (steps : Steps floats args s.disk m next) :
      Next floats s .tick (s.apply args next)
  | answered {args : RunArguments} {m m' : Memory} {cell : Cell} {context : ExecutionContext}
      {response : Response} (running : s.process = some ⟨args, m⟩)
      (waits : m.control = .awaiting cell context)
      (received : receive floats args m cell context response = .ok m') :
      Next floats s (.respond response) (s.go args m')
  | rejected {args : RunArguments} {m : Memory} {cell : Cell} {context : ExecutionContext}
      {response : Response} {violation : ResultViolation} (running : s.process = some ⟨args, m⟩)
      (waits : m.control = .awaiting cell context)
      (received : receive floats args m cell context response = .error violation) :
      Next floats s (.respond response) (s.stop (.raised violation))
  | interrupted {p : Process} (running : s.process = some p) :
      Next floats s .interrupt (s.stop .interrupted)

theorem next_of_launch (idle : s.process = none) (args : RunArguments) (resume : Bool) :
    Next floats s (.launch args resume) (s.launch floats args resume) := by
  unfold RunState.launch
  cases hbegun : beginRun floats args resume s.disk with
  | ok m => exact .launched idle hbegun
  | error violation => exact .refused idle hbegun

theorem next_of_answer {p : Process} (running : s.process = some p) {response : Response}
    (h : s.answer floats p response = some t) : Next floats s (.respond response) t := by
  unfold RunState.answer at h
  split at h
  next cell context hwaits =>
    split at h
    next m hreceived =>
      cases h
      exact .answered running hwaits hreceived
    next violation hreceived =>
      cases h
      exact .rejected running hwaits hreceived
  next => cases h

/-- What can happen next. -/
theorem runs_next (h : (runs floats start).next s label = some t) : Next floats s label t := by
  unfold runs at h
  dsimp only at h
  split at h
  next idle =>
    cases h
    exact next_of_launch idle _ _
  next p running =>
    obtain ⟨next, hmove, rfl⟩ := Option.map_eq_some_iff.mp h
    exact .moved running hmove (steps_of_move hmove)
  next p response running => exact next_of_answer running h
  next p running =>
    cases h
    exact .interrupted running
  next => cases h

/-- The directory and the memory after a step, where the run goes on. -/
def Move.after (disk : Directory) : Move → Option (Directory × Memory)
  | .go m => some (disk, m)
  | .replacePacket name data m => some ({ disk with packets := assign disk.packets name data }, m)
  | .replaceManifest data m => some ({ disk with manifest := some data }, m)
  | .finished | .raise _ => none

theorem apply_process {args : RunArguments} {next : Move} {p : Process}
    (h : (s.apply args next).process = some p) :
    p.args = args ∧ next.after s.disk = some ((s.apply args next).disk, p.memory) := by
  cases next with
  | go m =>
    cases h
    exact ⟨rfl, rfl⟩
  | replacePacket name data m =>
    cases h
    exact ⟨rfl, rfl⟩
  | replaceManifest data m =>
    cases h
    exact ⟨rfl, rfl⟩
  | finished => cases h
  | raise violation => cases h

/-- **Rule for what a run remembers.** What holds when a run begins, and is kept by each of
its steps and by each answer that it accepts, holds of every run that is going on. -/
theorem process_invariant {P : RunArguments → Directory → Memory → Prop}
    (hbegin : ∀ {args resume disk m}, beginRun floats args resume disk = .ok m → P args disk m)
    (hstep : ∀ {args disk m next disk' m'}, P args disk m → Steps floats args disk m next →
      next.after disk = some (disk', m') → P args disk' m')
    (hreceive : ∀ {args disk m cell context response m'}, P args disk m →
      m.control = .awaiting cell context → receive floats args m cell context response = .ok m' →
      P args disk m')
    (h : (runs floats start).Reachable s) {p : Process} (hp : s.process = some p) :
    P p.args s.disk p.memory := by
  suffices hinv : ∀ p, s.process = some p → P p.args s.disk p.memory from hinv p hp
  clear hp p
  apply h.invariant
  · intro p hp
    cases hp
  · intro s t label _ ih hnext p hp
    cases runs_next hnext with
    | launched _ begun =>
      cases hp
      exact hbegin begun
    | refused _ _ => cases hp
    | moved running _ steps =>
      obtain ⟨hargs, hafter⟩ := apply_process hp
      rw [hargs]
      exact hstep (ih _ running) steps hafter
    | answered running waits received =>
      have hwaiting := ih _ running
      cases hp
      exact hreceive hwaiting waits received
    | rejected _ _ _ => cases hp
    | interrupted _ => cases hp

end Sequences

end HermesClaude.Parity
