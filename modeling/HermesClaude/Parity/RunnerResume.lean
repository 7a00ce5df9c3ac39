/-
# Resumed runs

A run leaves the directory as the next run accepts it, unless it ends between the packet and
the manifest of one trial, or writes a manifest that cannot be loaded again.
-/

import HermesClaude.Parity.ManifestRoundTrip
import HermesClaude.Parity.TurnBudget

namespace HermesClaude.Parity

open HermesClaude.Python HermesClaude.Library

/-! ## Files -/

section Files

variable {β γ : Type} {items : List (PyStr × β)} {key : PyStr} {value : β}

theorem lookup_eq_none_iff_any :
    items.lookup key = none ↔ items.any (fun item => item.1 == key) = false := by
  rw [List.lookup_eq_none_iff, List.any_eq_false]
  constructor
  · intro h item hitem hsame
    exact bne_iff_ne.mp (h item hitem) (eq_of_beq hsame).symm
  · intro h item hitem
    apply bne_iff_ne.mpr
    intro hsame
    exact h item hitem (beq_iff_eq.mpr hsame.symm)

/-- A new file is added behind the others. -/
theorem assign_of_lookup (h : items.lookup key = none) : assign items key value = items ++ [(key, value)] := by
  rw [assign, lookup_eq_none_iff_any.mp h]
  rfl

/-- What is recorded is not touched by a new file. -/
theorem lookup_assign (h : items.lookup key = none) {name : PyStr} {recorded : β}
    (hname : items.lookup name = some recorded) :
    (assign items key value).lookup name = some recorded := by
  rw [assign_of_lookup h, List.lookup_append, hname, Option.some_or]

/-- Replacing the same file in two directories. -/
theorem forall₂_assign {R : PyStr × β → PyStr × γ → Prop} {items' : List (PyStr × γ)} {value' : γ}
    (hkeys : ∀ item item', R item item' → item.1 = item'.1) (hnew : R (key, value) (key, value'))
    (h : List.Forall₂ R items items') :
    List.Forall₂ R (assign items key value) (assign items' key value') := by
  have hany : items.any (fun item => item.1 == key) = items'.any (fun item => item.1 == key) := by
    induction h with
    | nil => rfl
    | @cons item item' items items' hitem _ ih => rw [List.any_cons, List.any_cons, ih, hkeys _ _ hitem]
  unfold assign
  rw [hany]
  split_ifs
  · rw [List.forall₂_map_left_iff, List.forall₂_map_right_iff]
    apply h.imp
    intro item item' hitem
    rw [hkeys _ _ hitem]
    split_ifs
    · exact hnew
    · exact hitem
  · exact List.rel_append h (.cons hnew .nil)

end Files

/-! ## Packets in files -/

section Packets

variable {floats : FloatText} {args : RunArguments}

/-- A file is read as a packet with the hash of the one that a run remembers for it. -/
def Matches (floats : FloatText) (file : PyStr × Bytes) (item : PyStr × ResultPacket) : Prop :=
  file.1 = item.1 ∧ ∃ packet, readResultPacket floats file.1 (some file.2) = .ok packet ∧
    packet.packetHash.val = item.2.packetHash.val

theorem readPackets_eq_ok {files : List (PyStr × Bytes)} {packets : List (PyStr × ResultPacket)} :
    readPackets floats files = .ok packets ↔
      List.Forall₂ (fun file item => file.1 = item.1 ∧
        readResultPacket floats file.1 (some file.2) = .ok item.2) files packets := by
  induction files generalizing packets with
  | nil =>
    rw [readPackets, List.forall₂_nil_left_iff, Except.ok.injEq, eq_comm]
  | cons file files ih =>
    obtain ⟨name, data⟩ := file
    simp only [readPackets, bind_eq_ok, List.forall₂_cons_left_iff, ih]
    constructor
    · rintro ⟨packet, hread, rest, hrest, hpackets⟩
      cases hpackets
      exact ⟨(name, packet), rest, ⟨rfl, hread⟩, hrest, rfl⟩
    · rintro ⟨⟨name', packet⟩, rest, ⟨hname, hread⟩, hrest, rfl⟩
      cases hname
      exact ⟨packet, hread, rest, hrest, rfl⟩

/-- The files that a run remembers can be read, with the hashes that it remembers. -/
theorem readPackets_of_matches {files : List (PyStr × Bytes)} {items : List (PyStr × ResultPacket)}
    (h : List.Forall₂ (Matches floats) files items) :
    ∃ packets, readPackets floats files = .ok packets ∧
      packets.map (fun item => item.2.packetHash.val) =
        items.map fun item => item.2.packetHash.val := by
  induction h with
  | nil => exact ⟨[], rfl, rfl⟩
  | @cons file item files items hitem _ ih =>
    obtain ⟨packets, hread, hhashes⟩ := ih
    obtain ⟨-, packet, hpacket, hhash⟩ := hitem
    refine ⟨(file.1, packet) :: packets, ?_, ?_⟩
    · rw [readPackets_eq_ok] at hread ⊢
      exact .cons ⟨rfl, hpacket⟩ hread
    · rw [List.map_cons, List.map_cons, hhash, hhashes]

theorem matches_of_readPackets {files : List (PyStr × Bytes)} {packets : List (PyStr × ResultPacket)}
    (h : readPackets floats files = .ok packets) : List.Forall₂ (Matches floats) files packets := by
  apply (readPackets_eq_ok.mp h).imp
  rintro file item ⟨hname, hread⟩
  exact ⟨hname, item.2, hread, rfl⟩

theorem matches_of_build {capability : Capability} {path : TrialPath} {trialIndex : Nat}
    {outcome : ExecutionOutcome} {packet : ResultPacket} {data : Bytes}
    (hbuild : buildPacket floats args capability path trialIndex outcome = .ok packet)
    (hdata : packet.write floats = some data) (hsize : data.length ≤ maxPacketBytes) (name : PyStr) :
    Matches floats (name, data) (name, packet) :=
  ⟨rfl, packet.sortEvents, ResultPacket.readResultPacket_build hbuild hdata hsize name, rfl⟩

theorem sameElements_sorted {texts : List PyStr} : sameElements texts (sorted texts) = true := by
  have hmem : ∀ text, text ∈ sorted texts ↔ text ∈ texts :=
    fun text => (List.perm_insertionSort _ texts).mem_iff
  simp [sameElements, hmem]

end Packets

/-! ## What is on record stays -/

section Record

variable {floats : FloatText} {args : RunArguments} {disk disk' : Directory} {m m' : Memory}

/-- The trial that a run is about to execute or to write. -/
def Control.pending? : Control → Option Cell
  | .awaiting cell _ | .write cell _ => some cell
  | _ => none

/-- A trial that is about to be executed or written has no packet yet. -/
def NotRecorded (_ : RunArguments) (disk : Directory) (m : Memory) : Prop :=
  ∀ cell, m.control.pending? = some cell → disk.packets.lookup (cell.resultName cell.path) = none

theorem settle_pending? (cell : Cell) (packet : ResultPacket) :
    (settle args m cell packet).control.pending? = none := by
  unfold settle
  dsimp only
  split_ifs <;> rfl

theorem notRecorded_of_none (h : m.control.pending? = none) : NotRecorded args disk m := by
  intro cell hcell
  rw [h] at hcell
  cases hcell

theorem NotRecorded.step {next : Move} (hsteps : Steps floats args disk m next)
    (hafter : next.after disk = some (disk', m')) : NotRecorded args disk' m' := by
  cases hsteps with
  | leave control | enter control policy | exhaust control spent =>
    cases hafter
    exact notRecorded_of_none rfl
  | cached due cache known | recorded due uncached file resume read candidate =>
    cases hafter
    exact notRecorded_of_none (settle_pending? _ _)
  | unregistered missing absent | known missing registered cache | call missing registered unknown =>
    cases hafter
    intro cell hcell
    cases hcell
    exact missing.noFile
  | write control build file | part control noFile build file =>
    cases hafter
    exact notRecorded_of_none rfl
  | checkpoint control manifest | bundled control known manifest target =>
    cases hafter
    exact notRecorded_of_none (settle_pending? _ _)
  | report control read manifest =>
    cases hafter
    exact notRecorded_of_none rfl
  | finished control | raise violation => cases hafter

theorem NotRecorded.receive {cell : Cell} {context : ExecutionContext} {response : Response}
    (h : NotRecorded args disk m) (hwaits : m.control = .awaiting cell context)
    (hreceive : receive floats args m cell context response = .ok m') : NotRecorded args disk m' := by
  obtain ⟨checked, receipt, -, rfl⟩ := receive_eq_ok hreceive
  have hcell : m.control.pending? = some cell := by
    rw [hwaits]
    rfl
  intro other hother
  cases checked with
  | outcome single =>
    cases hother
    exact h _ hcell
  | bundle outcomes => cases hother

theorem NotRecorded.begin {resume : Bool} (h : beginRun floats args resume disk = .ok m) :
    NotRecorded args disk m := by
  obtain ⟨exactCandidate, receipts, packets, -, -, rfl⟩ := beginRun_eq_ok.mp h
  exact notRecorded_of_none rfl

variable {start : Directory} {s t : RunState} {label : RunLabel}

theorem notRecorded_of_reachable (h : (runs floats start).Reachable s) {p : Process}
    (hp : s.process = some p) : NotRecorded p.args s.disk p.memory :=
  process_invariant NotRecorded.begin (fun _ => NotRecorded.step) NotRecorded.receive h hp

/-- A step writes only where nothing is on record. -/
theorem Steps.replaces {name : PyStr} {data : Bytes} (h : NotRecorded args disk m)
    (hsteps : Steps floats args disk m (.replacePacket name data m')) :
    disk.packets.lookup name = none := by
  cases hsteps with
  | @write cell outcome packet _ control build file =>
    apply h
    rw [control]
    rfl
  | part control noFile build file => exact noFile

theorem recorded_of_next (h : (runs floats start).Reachable s)
    (hnext : (runs floats start).next s label = some t) {name : PyStr} {data : Bytes}
    (hname : s.disk.packets.lookup name = some data) : t.disk.packets.lookup name = some data := by
  cases runs_next hnext with
  | launched idle begun | refused idle begun => exact hname
  | @moved args m next running move steps =>
    have hpending : NotRecorded args s.disk m := notRecorded_of_reachable h running
    cases next with
    | go _ | replaceManifest _ _ | finished | raise _ => exact hname
    | replacePacket _ _ _ => exact lookup_assign (steps.replaces hpending) hname
  | answered running waits received | rejected running waits received => exact hname
  | interrupted running => exact hname

/-- What is on record stays as it is, whatever happens. -/
theorem recorded_of_run (h : (runs floats start).Reachable s) {labels : List RunLabel}
    (hrun : (runs floats start).run s labels = some t) {name : PyStr} {data : Bytes}
    (hname : s.disk.packets.lookup name = some data) : t.disk.packets.lookup name = some data := by
  induction labels generalizing s with
  | nil =>
    cases hrun
    exact hname
  | cons label labels ih =>
    obtain ⟨middle, hnext, hrest⟩ := Option.bind_eq_some_iff.mp hrun
    exact ih (h.step hnext) hrest (recorded_of_next h hnext hname)

end Record

/-! ## Trials are counted from one -/

section Indices

variable {floats : FloatText} {args : RunArguments} {disk disk' : Directory} {m m' : Memory}

/-- The trial that a run is working on. -/
def Control.cell? : Control → Option Cell
  | .trial cell | .awaiting cell _ | .write cell _ | .checkpoint cell _ | .bundle cell _ _ _ => some cell
  | .paths _ | .finish | .done => none

/-- The trial that a run is working on has an index of at least one. -/
def Counted (_ : RunArguments) (_ : Directory) (m : Memory) : Prop :=
  ∀ cell, m.control.cell? = some cell → 1 ≤ cell.trialIndex

theorem counted_settle (cell : Cell) (packet : ResultPacket) : Counted args disk (settle args m cell packet) := by
  intro other hother
  unfold settle at hother
  dsimp only at hother
  split_ifs at hother
  · cases hother
  · cases hother
    exact Nat.le_add_left 1 _
  · cases hother
    exact Nat.le_add_left 1 _

theorem Counted.step {next : Move} (h : Counted args disk m) (hsteps : Steps floats args disk m next)
    (hafter : next.after disk = some (disk', m')) : Counted args disk' m' := by
  have hsame : ∀ {cell : Cell}, m.control.cell? = some cell → m'.control.cell? = some cell →
      Counted args disk' m' := by
    intro cell hcell hcell' other hother
    rw [hcell'] at hother
    cases hother
    exact h cell hcell
  cases hsteps with
  | leave control | exhaust control spent | report control read manifest =>
    cases hafter
    intro cell hcell
    cases hcell
  | enter control policy =>
    cases hafter
    intro cell hcell
    cases hcell
    exact Nat.le_refl 1
  | cached due cache known | recorded due uncached file resume read candidate =>
    cases hafter
    exact counted_settle _ _
  | unregistered missing absent | known missing registered cache | call missing registered unknown =>
    cases hafter
    apply hsame _ rfl
    rw [missing.control]
    rfl
  | write control build file | part control noFile build file =>
    cases hafter
    apply hsame _ rfl
    rw [control]
    rfl
  | checkpoint control manifest | bundled control known manifest target =>
    cases hafter
    exact counted_settle _ _
  | finished control | raise violation => cases hafter

theorem Counted.receive {cell : Cell} {context : ExecutionContext} {response : Response}
    (h : Counted args disk m) (hwaits : m.control = .awaiting cell context)
    (hreceive : receive floats args m cell context response = .ok m') : Counted args disk m' := by
  obtain ⟨checked, receipt, -, rfl⟩ := receive_eq_ok hreceive
  have hcell : m.control.cell? = some cell := by
    rw [hwaits]
    rfl
  intro other hother
  cases checked with
  | outcome single =>
    cases hother
    exact h _ hcell
  | bundle outcomes =>
    cases hother
    exact h _ hcell

theorem Counted.begin {resume : Bool} (h : beginRun floats args resume disk = .ok m) :
    Counted args disk m := by
  obtain ⟨exactCandidate, receipts, packets, -, -, rfl⟩ := beginRun_eq_ok.mp h
  intro cell hcell
  cases hcell

end Indices

/-! ## Directories that are accepted -/

section Acceptance

variable {floats : FloatText} {args : RunArguments} {disk disk' : Directory} {m m' : Memory}
  {exactCandidate : PyStr}

/-- The receipts of a run can stand in its manifest. -/
def Countable (args : RunArguments) (exactCandidate : PyStr) (receipts : List Receipt) : Prop :=
  Loadable (args.identity exactCandidate) receipts []

theorem Digest.length_eq (digest : Digest) : digest.val.length = 64 := by
  obtain ⟨text, htext⟩ := digest
  rw [isHex, Bool.and_eq_true] at htext
  simpa using htext.1

theorem sha256Value_length {value : Json} {text : PyStr} (h : sha256Value floats value = some text) :
    text.length = 64 := by
  obtain ⟨data, -, rfl⟩ := Option.map_eq_some_iff.mp h
  rw [hexdigest, List.length_map, Sha256.length_hexDigest]

/-- A run with `resume` accepts the directory. -/
def Accepted (floats : FloatText) (args : RunArguments) (exactCandidate : PyStr) (disk : Directory) :
    Prop :=
  ∃ receipts packets, loadDirectory floats args true exactCandidate disk = .ok (receipts, packets) ∧
    Countable args exactCandidate receipts

/-- Nothing has been written that the manifest does not say. -/
def Control.quiet : Control → Bool
  | .checkpoint _ _ => false
  | .bundle _ _ _ built => built.isEmpty
  | _ => true

/-- What a run remembers is what the directory holds, and the directory is accepted whenever
the run is quiet. -/
structure Consistent (floats : FloatText) (args : RunArguments) (disk : Directory) (m : Memory) :
    Prop where
  fit : args.Fit floats m.exactCandidate
  receipts : Countable args m.exactCandidate m.executionReceipts
  files : List.Forall₂ (Matches floats) disk.packets m.checkpointPackets
  accepted : m.control.quiet = true → Accepted floats args m.exactCandidate disk

theorem countable_nil (args : RunArguments) (exactCandidate : PyStr) : Countable args exactCandidate [] where
  wellFormed := by simp
  nodup := .nil
  budget := Nat.zero_le _
  hashes := by simp

theorem accepted_empty (h : disk.manifest = none ∧ disk.packets = []) :
    Accepted floats args exactCandidate disk := by
  refine ⟨[], [], loadDirectory_eq_ok.mpr (.inl ⟨h.1, h.2, rfl, rfl⟩), countable_nil _ _⟩

/-- A run that begins is consistent, if the directory was accepted before. -/
theorem Consistent.begin {resume : Bool} (h : beginRun floats args resume disk = .ok m)
    (haccepted : ∀ exactCandidate, args.Fit floats exactCandidate →
      Accepted floats args exactCandidate disk) : Consistent floats args disk m := by
  obtain ⟨exactCandidate, receipts, packets, hfit, hload, rfl⟩ := beginRun_eq_ok.mp h
  have hall : Accepted floats args exactCandidate disk := haccepted exactCandidate hfit
  obtain ⟨receipts', packets', hload', hcountable⟩ := haccepted exactCandidate hfit
  rcases loadDirectory_eq_ok.mp hload with ⟨hnone, hempty, rfl, rfl⟩ | ⟨rfl, data, hashes, hdata, -, hread, -⟩
  · refine ⟨hfit, countable_nil _ _, ?_, fun _ => hall⟩
    rw [hempty]
    exact .nil
  · rw [hload] at hload'
    cases hload'
    exact ⟨hfit, hcountable, matches_of_readPackets hread, fun _ => hall⟩

/-- Where only the place in the loops changes, a quiet run stays consistent. -/
theorem Consistent.goesOn (h : Consistent floats args disk m) (hquiet : m.control.quiet = true)
    (hreceipts : m'.executionReceipts = m.executionReceipts)
    (hpackets : m'.checkpointPackets = m.checkpointPackets)
    (hcandidate : m'.exactCandidate = m.exactCandidate) : Consistent floats args disk m' where
  fit := by
    rw [hcandidate]
    exact h.fit
  receipts := by
    rw [hcandidate, hreceipts]
    exact h.receipts
  files := by
    rw [hpackets]
    exact h.files
  accepted _ := by
    rw [hcandidate]
    exact h.accepted hquiet

/-- A packet that has been written is remembered. -/
theorem Consistent.replaced (h : Consistent floats args disk m) {name : PyStr} {data : Bytes}
    {packet : ResultPacket} (hmatches : Matches floats (name, data) (name, packet))
    (hreceipts : m'.executionReceipts = m.executionReceipts)
    (hpackets : m'.checkpointPackets = assign m.checkpointPackets name packet)
    (hcandidate : m'.exactCandidate = m.exactCandidate) (hloud : m'.control.quiet = false) :
    Consistent floats args { disk with packets := assign disk.packets name data } m' where
  fit := by
    rw [hcandidate]
    exact h.fit
  receipts := by
    rw [hcandidate, hreceipts]
    exact h.receipts
  files := by
    rw [hpackets]
    exact forall₂_assign (fun _ _ hsame => hsame.1) hmatches h.files
  accepted hquiet := by
    rw [hloud] at hquiet
    cases hquiet

/-- The manifest that a run writes makes the directory accepted. -/
theorem Consistent.written (h : Consistent floats args disk m) {data : Bytes}
    (hdata : checkpointBytes floats args m = .ok data) (hsize : data.length ≤ maxManifestBytes)
    (hreceipts : m'.executionReceipts = m.executionReceipts)
    (hpackets : m'.checkpointPackets = m.checkpointPackets)
    (hcandidate : m'.exactCandidate = m.exactCandidate) :
    Consistent floats args { disk with manifest := some data } m' := by
  have hloadable : Loadable (args.identity m.exactCandidate) m.executionReceipts
      (m.checkpointPackets.map fun item => item.2.packetHash.val) := by
    refine { h.receipts with hashes := ?_ }
    rw [List.forall_mem_map]
    intro item _
    exact item.2.packetHash.length_eq
  have hload := loadManifest_manifestBytes (orRaise_eq_ok.mp hdata) hloadable hsize
  obtain ⟨packets, hread, hhashes⟩ := readPackets_of_matches h.files
  have haccepted : Accepted floats args m.exactCandidate { disk with manifest := some data } := by
    refine ⟨m.executionReceipts, packets, loadDirectory_eq_ok.mpr (.inr ⟨rfl, data, _, rfl, hload, hread, ?_⟩),
      h.receipts⟩
    rw [hhashes]
    exact sameElements_sorted
  exact {
    fit := by
      rw [hcandidate]
      exact h.fit
    receipts := by
      rw [hcandidate, hreceipts]
      exact h.receipts
    files := by
      rw [hpackets]
      exact h.files
    accepted := by
      intro _
      rw [hcandidate]
      exact haccepted }

/-- A step writes files that can be read again, and does not raise between the packet and the
manifest of a trial. -/
def Move.Careful (m : Memory) : Move → Prop
  | .raise _ => m.control.quiet = true
  | .replacePacket _ data _ => data.length ≤ maxPacketBytes
  | .replaceManifest data _ => data.length ≤ maxManifestBytes
  | .go _ | .finished => True

theorem Consistent.step {next : Move} (h : Consistent floats args disk m)
    (hsteps : Steps floats args disk m next) (hafter : next.after disk = some (disk', m'))
    (hcareful : next.Careful m) : Consistent floats args disk' m' := by
  have hquiet : ∀ {control}, m.control = control → control.quiet = true → m.control.quiet = true := by
    rintro _ rfl hquiet
    exact hquiet
  cases hsteps with
  | leave control | enter control policy | exhaust control spent =>
    cases hafter
    exact h.goesOn (hquiet control rfl) rfl rfl rfl
  | cached due cache known | recorded due uncached file resume read candidate =>
    cases hafter
    exact h.goesOn (hquiet due.control rfl) rfl rfl rfl
  | unregistered missing absent | known missing registered cache | call missing registered unknown =>
    cases hafter
    exact h.goesOn (hquiet missing.control rfl) rfl rfl rfl
  | write control build file =>
    cases hafter
    exact h.replaced (matches_of_build build file hcareful _) rfl rfl rfl rfl
  | @part cell outcomes pending built path checked packet data control noFile build file =>
    cases hafter
    refine h.replaced (matches_of_build build file hcareful _) rfl rfl rfl ?_
    cases built <;> rfl
  | checkpoint control manifest =>
    cases hafter
    exact h.written manifest hcareful rfl rfl rfl
  | @bundled cell cell' outcomes built packet data targeted control known manifest target =>
    cases hafter
    obtain ⟨targets, htargeted⟩ := retarget_fst args _ cell outcomes
    rw [target] at htargeted
    subst htargeted
    exact h.written manifest hcareful rfl rfl rfl
  | report control read manifest =>
    cases hafter
    exact h.written manifest hcareful rfl rfl rfl
  | finished control | raise violation => cases hafter

/-- The receipt of an execution can stand in a manifest. -/
theorem Accepts.wellFormed {cell : Cell} {context : ExecutionContext} {response : Response}
    {checked : CheckedResult} {receipt : Receipt} (hindex : 1 ≤ cell.trialIndex)
    (h : Accepts floats args m cell context response checked receipt) :
    receipt.WellFormed ∧ receipt.turnCount = checked.turnCount := by
  have hreceipt := h.receipt
  unfold executionReceipt at hreceipt
  simp only [Option.bind_eq_bind, Option.bind_eq_some_iff, Option.pure_def, Option.some.injEq] at hreceipt
  obtain ⟨receiptId, hid, executionIdHash, hhash, rfl⟩ := hreceipt
  exact ⟨⟨sha256Value_length hid, sha256Value_length hhash, hindex⟩, rfl⟩

/-- An execution with a receipt of its own is recorded. -/
theorem Consistent.receive {cell : Cell} {context : ExecutionContext} {response : Response}
    (h : Consistent floats args disk m) (hbudget : Budgeted floats args disk m)
    (hindex : 1 ≤ cell.trialIndex) (hwaits : m.control = .awaiting cell context)
    (hreceive : receive floats args m cell context response = .ok m')
    (hnew : ∀ checked receipt, Accepts floats args m cell context response checked receipt →
      receipt.receiptId ∉ m.executionReceipts.map Receipt.receiptId) :
    Consistent floats args disk m' := by
  have hquiet : m.control.quiet = true := by
    rw [hwaits]
    rfl
  have hbudget' := hbudget.receive hwaits hreceive
  obtain ⟨checked, receipt, haccepts, rfl⟩ := receive_eq_ok hreceive
  have hcountable : Countable args m.exactCandidate (m.executionReceipts ++ [receipt]) :=
    { wellFormed := by
        intro other hother
        rcases List.mem_append.mp hother with hother | hother
        · exact h.receipts.wellFormed other hother
        · rw [List.mem_singleton.mp hother]
          exact (haccepts.wellFormed hindex).1
      nodup := by
        rw [List.map_append, List.nodup_append]
        refine ⟨h.receipts.nodup, List.nodup_singleton _, ?_⟩
        intro id hid other hother hsame
        rw [List.map_singleton, List.mem_singleton] at hother
        rw [hsame, hother] at hid
        exact hnew checked receipt haccepts hid
      budget := by
        have hwithin := hbudget'.within
        rw [hbudget'.used] at hwithin
        cases checked with
        | outcome single => exact hwithin
        | bundle outcomes => exact hwithin
      hashes := by simp }
  have hrest : Consistent floats args disk (m.record receipt checked.turnCount) :=
    { fit := h.fit
      receipts := hcountable
      files := h.files
      accepted := h.accepted }
  cases checked with
  | outcome single => exact hrest.goesOn hquiet rfl rfl rfl
  | bundle outcomes => exact hrest.goesOn hquiet rfl rfl rfl

end Acceptance

/-! ## One fresh run and its resumptions -/

/-- One fresh run comes first, and all others resume it with the same arguments. -/
def Repeats (args : RunArguments) (s : RunState) (label : RunLabel) : Prop :=
  ∀ args' resume, label = .launch args' resume → args' = args ∧ resume = s.started

/-- Nothing ends the run between the packet and the manifest of a trial, every file that is
written can be read again, and every execution has a receipt of its own. -/
def Careful (floats : FloatText) (s : RunState) (label : RunLabel) : Prop :=
  ∀ args m, s.process = some ⟨args, m⟩ →
    match label with
    | .launch _ _ => True
    | .tick => ∀ next, move floats args s.disk m = some next → next.Careful m
    | .respond response => ∀ cell context checked receipt, m.control = .awaiting cell context →
        Accepts floats args m cell context response checked receipt →
        receipt.receiptId ∉ m.executionReceipts.map Receipt.receiptId
    | .interrupt => m.control.quiet = true

section Sequences

variable {floats : FloatText} {args : RunArguments} {s t : RunState} {label : RunLabel}

/-- Runs with the same arguments, each of which is consistent and leaves the directory as the
next one accepts it. -/
structure Intact (floats : FloatText) (args : RunArguments) (s : RunState) : Prop where
  idle : s.process = none → ∀ exactCandidate, args.Fit floats exactCandidate →
    Accepted floats args exactCandidate s.disk
  running : ∀ args' m, s.process = some ⟨args', m⟩ → args' = args ∧ Consistent floats args s.disk m

/-- A run that ends while it is quiet leaves an accepted directory. -/
theorem Intact.stop {m : Memory} (h : Intact floats args s) (hp : s.process = some ⟨args, m⟩)
    (hquiet : m.control.quiet = true) (how : RunEnd) : Intact floats args (s.stop how) := by
  have hconsistent := (h.running args m hp).2
  constructor
  · intro _ exactCandidate hfit
    have hcandidate := hfit.candidate
    rw [hconsistent.fit.candidate, Option.some.injEq] at hcandidate
    rw [← hcandidate]
    exact hconsistent.accepted hquiet
  · intro args' m' hp'
    cases hp'

/-- A run that goes on only has to be consistent. -/
theorem Intact.of_running {m : Memory} (hp : s.process = some ⟨args, m⟩)
    (hconsistent : Consistent floats args s.disk m) : Intact floats args s := by
  constructor
  · intro hidle
    rw [hidle] at hp
    cases hp
  · intro args' m' hp'
    rw [hp] at hp'
    cases hp'
    exact ⟨rfl, hconsistent⟩

theorem Intact.next (h : Intact floats args s)
    (hreached : (runs floats emptyDirectory).Reachable s) (hrepeats : Repeats args s label)
    (hcareful : Careful floats s label)
    (hnext : (runs floats emptyDirectory).next s label = some t) : Intact floats args t := by
  cases runs_next hnext with
  | @launched args' resume m idle begun =>
    obtain ⟨rfl, -⟩ := hrepeats args' resume rfl
    exact .of_running rfl (.begin begun (h.idle idle))
  | refused idle begun =>
    constructor
    · intro _
      exact h.idle idle
    · intro args' m hp
      cases hp
  | @moved args' m next running move steps =>
    obtain ⟨rfl, hconsistent⟩ := h.running _ _ running
    have hmove := hcareful _ _ running next move
    cases next with
    | go m' => exact .of_running rfl (hconsistent.step steps rfl hmove)
    | replacePacket name data m' => exact .of_running rfl (hconsistent.step steps rfl hmove)
    | replaceManifest data m' => exact .of_running rfl (hconsistent.step steps rfl hmove)
    | finished =>
      apply h.stop running
      cases steps with
      | finished control =>
        rw [control]
        rfl
    | raise violation => exact h.stop running hmove _
  | @answered args' m m' cell context response running waits received =>
    obtain ⟨rfl, hconsistent⟩ := h.running _ _ running
    have hbudget : Budgeted floats args' s.disk m := budgeted_of_reachable hreached running
    have hcounted : Counted args' s.disk m :=
      process_invariant Counted.begin Counted.step Counted.receive hreached running
    have hindex : 1 ≤ cell.trialIndex := by
      apply hcounted
      rw [waits]
      rfl
    apply Intact.of_running rfl
    apply hconsistent.receive hbudget hindex waits received
    intro checked receipt haccepts
    exact hcareful _ _ running cell context checked receipt waits haccepts
  | @rejected args' m cell context response violation running waits received =>
    obtain ⟨rfl, -⟩ := h.running _ _ running
    apply h.stop running
    rw [waits]
    rfl
  | @interrupted p running =>
    obtain ⟨args', m⟩ := p
    obtain ⟨rfl, -⟩ := h.running _ _ running
    exact h.stop running (hcareful _ _ running) _

/-- Careful runs leave every directory as the next run accepts it. -/
theorem intact_of_reachable
    (h : (runs floats emptyDirectory).ReachableUnder
      (fun s label => Repeats args s label ∧ Careful floats s label) s) : Intact floats args s := by
  apply h.invariant
  · constructor
    · intro _ exactCandidate _
      exact accepted_empty ⟨rfl, rfl⟩
    · intro args' m hp
      cases hp
  · intro s t label hreached ih hguard hnext
    exact ih.next hreached.reachable hguard.1 hguard.2 hnext

/-- The directory that one run leaves is accepted by the next one. -/
theorem Accepted.begin {exactCandidate : PyStr} {disk : Directory}
    (hfit : args.Fit floats exactCandidate) (h : Accepted floats args exactCandidate disk) :
    ∃ m, beginRun floats args true disk = .ok m := by
  obtain ⟨receipts, packets, hload, -⟩ := h
  exact ⟨_, beginRun_eq_ok.mpr ⟨exactCandidate, receipts, packets, hfit, hload, rfl⟩⟩

/-- The manifest of an accepted directory lists exactly the packets of the directory. -/
theorem Accepted.manifest {exactCandidate : PyStr} {disk : Directory}
    (h : Accepted floats args exactCandidate disk) :
    (disk.manifest = none ∧ disk.packets = []) ∨ ∃ data receipts hashes packets,
      disk.manifest = some data ∧
      loadManifest floats (args.identity exactCandidate) data = .ok (receipts, hashes) ∧
      readPackets floats disk.packets = .ok packets ∧
      ∀ hash, hash ∈ hashes ↔ hash ∈ packets.map fun item => item.2.packetHash.val := by
  obtain ⟨receipts, packets, hload, -⟩ := h
  rcases loadDirectory_eq_ok.mp hload with ⟨hnone, hempty, -⟩ | ⟨-, data, hashes, hdata, hmanifest, hread, hsame⟩
  · exact .inl ⟨hnone, hempty⟩
  · refine .inr ⟨data, receipts, hashes, packets, hdata, hmanifest, hread, ?_⟩
    simp only [sameElements, Bool.and_eq_true, List.all_eq_true, decide_eq_true_eq] at hsame
    intro hash
    exact ⟨hsame.2 hash, hsame.1 hash⟩

end Sequences

/-- Runs with the same arguments can be resumed from any point, if none of them ends between
the packet and the manifest of a trial, no execution repeats a receipt, and no file grows
too large: the next run accepts the directory, whose manifest lists its packets.  In all
runs, no recorded trial is executed again, and what is recorded stays as it is. -/
theorem careful_runs_resume (floats : FloatText) (args : RunArguments) {s : RunState}
    (h : (runs floats emptyDirectory).ReachableUnder
      (fun s label => Repeats args s label ∧ Careful floats s label) s) :
    (s.process = none → ∀ exactCandidate, args.Fit floats exactCandidate →
      (∃ m, beginRun floats args true s.disk = .ok m) ∧
      ((s.disk.manifest = none ∧ s.disk.packets = []) ∨ ∃ data receipts hashes packets,
        s.disk.manifest = some data ∧
        loadManifest floats (args.identity exactCandidate) data = .ok (receipts, hashes) ∧
        readPackets floats s.disk.packets = .ok packets ∧
        ∀ hash, hash ∈ hashes ↔ hash ∈ packets.map fun item => item.2.packetHash.val)) ∧
    (∀ m cell context, s.process = some ⟨args, m⟩ → m.control = .awaiting cell context →
      s.disk.packets.lookup (cell.resultName cell.path) = none) ∧
    ∀ labels t, (runs floats emptyDirectory).run s labels = some t → ∀ name data,
      s.disk.packets.lookup name = some data → t.disk.packets.lookup name = some data := by
  and_intros
  · intro hidle exactCandidate hfit
    have haccepted := (intact_of_reachable h).idle hidle exactCandidate hfit
    exact ⟨haccepted.begin hfit, haccepted.manifest⟩
  · intro m cell context hp hwaits
    have hpending : NotRecorded args s.disk m := notRecorded_of_reachable h.reachable hp
    apply hpending
    rw [hwaits]
    rfl
  · intro labels t hrun name data hname
    exact recorded_of_run h.reachable hrun hname

/-! ## An interruption between two files -/

instance (m : Memory) (next : Move) : Decidable (next.Careful m) := by
  cases next <;> unfold Move.Careful <;> infer_instance

/-- A label that starts no run and is careful. -/
def carefulStep (floats : FloatText) (s : RunState) (label : RunLabel) : Bool :=
  match label, s.process with
  | .tick, some p => (move floats p.args s.disk p.memory).all fun next => decide (next.Careful p.memory)
  | .interrupt, some p => p.memory.control.quiet
  | _, _ => false

theorem careful_of_carefulStep {floats : FloatText} {args : RunArguments} (s : RunState)
    (label : RunLabel) (h : carefulStep floats s label = true) :
    Repeats args s label ∧ Careful floats s label := by
  unfold carefulStep at h
  split at h
  next p hp =>
    refine ⟨by rintro _ _ ⟨⟩, ?_⟩
    intro args' m hp' next hmove
    rw [hp] at hp'
    cases hp'
    rw [Option.all_eq_true] at h
    exact of_decide_eq_true (h next hmove)
  next p hp =>
    refine ⟨by rintro _ _ ⟨⟩, ?_⟩
    intro args' m hp'
    rw [hp] at hp'
    cases hp'
    exact h
  next => cases h

section Pending

/-- A run of one trial that has no executor. -/
def pendingRun : RunArguments := lookupRun fun _ => false

/-- The directory while this run is going on. -/
def pendingStart : RunState :=
  (runs exactFloatText emptyDirectory).init.launch exactFloatText pendingRun false

/-- The run is started by the first step. -/
theorem pendingStart_reachable {guard : RunState → RunLabel → Prop}
    (hguard : guard (runs exactFloatText emptyDirectory).init (.launch pendingRun false)) :
    (runs exactFloatText emptyDirectory).ReachableUnder guard pendingStart :=
  .step .init hguard rfl

theorem repeats_init : Repeats pendingRun (runs exactFloatText emptyDirectory).init
    (.launch pendingRun false) := by
  intro args resume hlabel
  cases hlabel
  exact ⟨rfl, rfl⟩

/-- The run, interrupted behind the manifest of the trial and between its packet and its
manifest.  Both are evaluated at once, since they begin with the same steps. -/
theorem pendingRun_interrupted :
    ((runs exactFloatText emptyDirectory).runChecked (carefulStep exactFloatText) pendingStart
      [.tick, .tick, .tick, .tick, .interrupt]).any (fun s =>
        s.process.isNone && !s.disk.packets.isEmpty &&
        (candidateHash exactFloatText pendingRun.candidate).isSome) = true ∧
    ((runs exactFloatText emptyDirectory).run pendingStart
      [.tick, .tick, .tick, .interrupt]).any (fun s =>
        s.process.isNone && (beginRun exactFloatText pendingRun true s.disk).toOption.isNone &&
        (beginRun exactFloatText pendingRun false emptyDirectory).toOption.isSome) = true := by
  decide +kernel

/-- The trial is recorded before the run is interrupted. -/
theorem pendingRun_recorded :
    ((runs exactFloatText emptyDirectory).runChecked (carefulStep exactFloatText) pendingStart
      [.tick, .tick, .tick, .tick, .interrupt]).any (fun s =>
        s.process.isNone && !s.disk.packets.isEmpty &&
        (candidateHash exactFloatText pendingRun.candidate).isSome) = true :=
  pendingRun_interrupted.1

/-- A run without executors that is interrupted behind its first trial can be resumed. -/
theorem pending_run_resumes : ∃ s : RunState, s.process = none ∧ s.disk.packets ≠ [] ∧
    ∃ m, beginRun exactFloatText pendingRun true s.disk = .ok m := by
  obtain ⟨s, hrun, hs⟩ := (Option.any_eq_true _ _).mp pendingRun_recorded
  simp only [Bool.and_eq_true, Option.isNone_iff_eq_none, Bool.not_eq_true', List.isEmpty_eq_false_iff,
    Option.isSome_iff_exists] at hs
  obtain ⟨⟨hidle, hpackets⟩, exactCandidate, hcandidate⟩ := hs
  have hfit : pendingRun.Fit exactFloatText exactCandidate :=
    ⟨(by decide : 3 ≤ 6), rfl, hcandidate⟩
  have hcareful : Careful exactFloatText (runs exactFloatText emptyDirectory).init
      (.launch pendingRun false) := by
    intro args m hp
    cases hp
  have hstart : (runs exactFloatText emptyDirectory).ReachableUnder
      (fun s label => Repeats pendingRun s label ∧ Careful exactFloatText s label) pendingStart :=
    pendingStart_reachable ⟨repeats_init, hcareful⟩
  have hreached := hstart.runChecked careful_of_carefulStep hrun
  have hresumes := (careful_runs_resume exactFloatText pendingRun hreached).1 hidle exactCandidate hfit
  exact ⟨s, hidle, hpackets, hresumes.1⟩

/-- The run is interrupted between the packet of the trial and the manifest. -/
theorem pendingRun_refused :
    ((runs exactFloatText emptyDirectory).run pendingStart
      [.tick, .tick, .tick, .interrupt]).any (fun s =>
        s.process.isNone && (beginRun exactFloatText pendingRun true s.disk).toOption.isNone &&
        (beginRun exactFloatText pendingRun false emptyDirectory).toOption.isSome) = true :=
  pendingRun_interrupted.2

/-- A run that is interrupted between a packet and its manifest cannot be resumed: the
arguments are accepted, but the directory is not. -/
theorem interrupted_run_refused : ∃ s,
    (runs exactFloatText emptyDirectory).ReachableUnder (Repeats pendingRun) s ∧ s.process = none ∧
    (∃ m, beginRun exactFloatText pendingRun false emptyDirectory = .ok m) ∧
    ∀ m, beginRun exactFloatText pendingRun true s.disk ≠ .ok m := by
  obtain ⟨s, hrun, hs⟩ := (Option.any_eq_true _ _).mp pendingRun_refused
  simp only [Bool.and_eq_true, Option.isNone_iff_eq_none] at hs
  obtain ⟨⟨hidle, hrefused⟩, haccepted⟩ := hs
  refine ⟨s, (pendingStart_reachable repeats_init).run_of_forall ?_ hrun, hidle, ?_, ?_⟩
  · intro label hlabel s args resume hlaunch
    subst hlaunch
    simp at hlabel
  · cases hbegin : beginRun exactFloatText pendingRun false emptyDirectory with
    | ok m => exact ⟨m, rfl⟩
    | error violation =>
      rw [hbegin] at haccepted
      cases haccepted
  · intro m hbegin
    rw [hbegin] at hrefused
    cases hrefused

end Pending

end HermesClaude.Parity
