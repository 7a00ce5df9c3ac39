/-
# Reading the output of the CLI

The output of the CLI arrives in chunks that the operating system cuts as it likes.  Every read
asks for what is left of the budget and one byte more, so the loop learns that there is too much
without keeping it.  An empty chunk stands for the end of the output, and a read of no bytes at all
would look just like it; the budget never shrinks that far while the loop goes on.

A step of the system is what the operating system does next: it delivers some bytes, lets a deadline
pass, fails, or reports the exit of the process.
-/

import HermesClaude.Billing.AuthAcceptance
import HermesClaude.Library.Ranked

namespace HermesClaude.Billing

open HermesClaude.Python HermesClaude.Library

/-- `_BoundedCompleted`. -/
structure BoundedCompleted where
  returncode : Int
  stdout : Bytes
  oversized : Bool := false
  deriving DecidableEq

/-- How `_run_bounded_cli` ends. -/
inductive CliEnding
  | completed (completed : BoundedCompleted)
  | /-- It raises `TimeoutError` or `TimeoutExpired`. -/
    timedOut
  | /-- It raises anything else. -/
    failed
  deriving DecidableEq

/-- Where `_run_bounded_cli` is, once the process is there. -/
inductive CliPc
  | /-- At the head of its loop. -/
    reading
  | /-- Behind the loop, in `process.wait`. -/
    waiting
  | ended (ending : CliEnding)
  deriving DecidableEq

/-- What the operating system does next. -/
inductive CliEvent
  | /-- The deadline has passed at the head of the loop. -/
    deadline
  | /-- `select` finds nothing to read until the deadline. -/
    silent
  | /-- `os.read` returns the next bytes, so many of them. -/
    deliver (count : Nat)
  | /-- `select`, `os.read` or `process.wait` raises something that is no timeout. -/
    breaks
  | /-- The process exits, and `process.wait` returns its code. -/
    exits
  | /-- `process.wait` runs out of time. -/
    lingers

/-- `_run_bounded_cli`, with what the CLI has still to say. -/
structure BoundedCli where
  pc : CliPc := .reading
  /-- The bytes that the CLI writes and that were not read yet. -/
  unread : Bytes
  output : Bytes := []
  /-- `_stop_process` was called. -/
  stopped : Bool := false
  /-- The `finally` has closed the stream. -/
  closed : Bool := false
  deriving DecidableEq

/-- The size that `os.read` is asked for. -/
def readSize (limit : Int) (output : Bytes) : Int := min 8192 (limit + 1 - output.length)

/-- `os.read` of some size may return that many of the unread bytes: none only at their end, or
where none are asked for.  It refuses a negative size. -/
def Delivers (size : Int) (unread : Bytes) (count : Nat) : Prop :=
  0 ≤ size ∧ (count : Int) ≤ size ∧ count ≤ unread.length ∧ (count = 0 → size = 0 ∨ unread = [])

instance (size : Int) (unread : Bytes) (count : Nat) : Decidable (Delivers size unread count) :=
  inferInstanceAs (Decidable (_ ∧ _ ∧ _ ∧ _))

namespace BoundedCli

/-- `_stop_process`. -/
def stopProcess (s : BoundedCli) : BoundedCli := { s with stopped := true }

/-- The function is left, through its `finally`. -/
def finish (s : BoundedCli) (ending : CliEnding) : BoundedCli :=
  { s with pc := .ended ending, closed := true }

/-- `output.extend(chunk)`. -/
def extend (s : BoundedCli) (count : Nat) : BoundedCli :=
  { s with unread := s.unread.drop count, output := s.output ++ s.unread.take count }

/-- The loop from `os.read` to its end. -/
def takeChunk (limit : Int) (s : BoundedCli) (count : Nat) : BoundedCli :=
  if s.unread.take count = [] then { s with pc := .waiting }
  else if limit < (s.extend count).output.length then
    (s.extend count).stopProcess.finish
      (.completed { returncode := 0, stdout := [], oversized := true })
  else s.extend count

/-- `_run_bounded_cli` of a process with an exit code. -/
def step (limit code : Int) (s : BoundedCli) (event : CliEvent) : Option BoundedCli :=
  match s.pc, event with
  | .reading, .deadline | .reading, .silent => some (s.stopProcess.finish .timedOut)
  | .reading, .deliver count =>
    if Delivers (readSize limit s.output) s.unread count then some (s.takeChunk limit count) else none
  | .waiting, .exits => some (s.finish (.completed { returncode := code, stdout := s.output }))
  | .waiting, .lingers => some (s.stopProcess.finish .timedOut)
  | .reading, .breaks | .waiting, .breaks => some (s.finish .failed)
  | _, _ => none

end BoundedCli

/-- `_run_bounded_cli` of a CLI that writes some bytes and exits with a code. -/
def boundedCli (limit : Int) (bytes : Bytes) (code : Int) : System BoundedCli CliEvent where
  init := { unread := bytes }
  next := BoundedCli.step limit code

/-- The operating system delivers, and the process exits in time. -/
def CliEvent.Undisturbed : CliEvent → Prop
  | .deliver _ | .exits => True
  | .deadline | .silent | .breaks | .lingers => False

/-- What there is to say of the whole output: all of it, or that it is too long. -/
def boundedAnswer (limit : Int) (bytes : Bytes) (code : Int) : BoundedCompleted :=
  if (bytes.length : Int) ≤ limit then { returncode := code, stdout := bytes }
  else { returncode := 0, stdout := [], oversized := true }

/-! ## What a step does -/

section Steps

variable {limit code : Int} {bytes : Bytes} {s t : BoundedCli} {event : CliEvent}

/-- The steps of `_run_bounded_cli`, a read being split by what becomes of its chunk. -/
inductive CliStep (limit code : Int) (s : BoundedCli) : CliEvent → BoundedCli → Prop
  | late {event : CliEvent} (hpc : s.pc = .reading) (hevent : ¬event.Undisturbed) :
      CliStep limit code s event (s.stopProcess.finish .timedOut)
  | endOfFile (hpc : s.pc = .reading)
      (hempty : readSize limit s.output = 0 ∨ s.unread = []) :
      CliStep limit code s (.deliver 0) { s with pc := .waiting }
  | chunk {count : Nat} (hpc : s.pc = .reading) (hcount : 0 < count)
      (havailable : count ≤ s.unread.length) (hsize : (count : Int) ≤ readSize limit s.output)
      (hfits : ((s.extend count).output.length : Int) ≤ limit) :
      CliStep limit code s (.deliver count) (s.extend count)
  | tooMuch {count : Nat} (hpc : s.pc = .reading) (hcount : 0 < count)
      (havailable : count ≤ s.unread.length) (hsize : (count : Int) ≤ readSize limit s.output)
      (hexceeds : limit < ((s.extend count).output.length : Int)) :
      CliStep limit code s (.deliver count) ((s.extend count).stopProcess.finish
        (.completed { returncode := 0, stdout := [], oversized := true }))
  | exited (hpc : s.pc = .waiting) :
      CliStep limit code s .exits
        (s.finish (.completed { returncode := code, stdout := s.output }))
  | lingered (hpc : s.pc = .waiting) :
      CliStep limit code s .lingers (s.stopProcess.finish .timedOut)
  | broken (hpc : s.pc = .reading ∨ s.pc = .waiting) :
      CliStep limit code s .breaks (s.finish .failed)

@[simp]
theorem length_output_extend (s : BoundedCli) {count : Nat} (h : count ≤ s.unread.length) :
    (s.extend count).output.length = s.output.length + count := by
  rw [BoundedCli.extend, List.length_append, List.length_take_of_le h]

theorem cliStep_takeChunk {count : Nat} (hpc : s.pc = .reading)
    (h : Delivers (readSize limit s.output) s.unread count) :
    CliStep limit code s (.deliver count) (s.takeChunk limit count) := by
  rcases h with ⟨-, hsize, havailable, hempty⟩
  rw [BoundedCli.takeChunk]
  rcases Nat.eq_zero_or_pos count with rfl | hcount
  · rw [if_pos (List.take_zero ..)]
    exact .endOfFile hpc (hempty rfl)
  · have hchunk : s.unread.take count ≠ [] := by
      apply List.ne_nil_of_length_pos
      rw [List.length_take_of_le havailable]
      exact hcount
    rw [if_neg hchunk]
    split_ifs with hexceeds
    · exact .tooMuch hpc hcount havailable hsize hexceeds
    · exact .chunk hpc hcount havailable hsize (not_lt.mp hexceeds)

theorem cliStep_of_step (h : s.step limit code event = some t) : CliStep limit code s event t := by
  cases hpc : s.pc with
  | reading =>
    cases event with
    | deadline | silent =>
      simp only [BoundedCli.step, hpc, Option.some.injEq] at h
      exact h ▸ .late hpc id
    | deliver count =>
      simp only [BoundedCli.step, hpc] at h
      split_ifs at h with hdelivers
      exact Option.some.inj h ▸ cliStep_takeChunk hpc hdelivers
    | breaks =>
      simp only [BoundedCli.step, hpc, Option.some.injEq] at h
      exact h ▸ .broken (.inl hpc)
    | exits | lingers => simp [BoundedCli.step, hpc] at h
  | waiting =>
    cases event with
    | exits =>
      simp only [BoundedCli.step, hpc, Option.some.injEq] at h
      exact h ▸ .exited hpc
    | lingers =>
      simp only [BoundedCli.step, hpc, Option.some.injEq] at h
      exact h ▸ .lingered hpc
    | breaks =>
      simp only [BoundedCli.step, hpc, Option.some.injEq] at h
      exact h ▸ .broken (.inr hpc)
    | deadline | silent | deliver count => simp [BoundedCli.step, hpc] at h
  | ended ending => simp [BoundedCli.step, hpc] at h

end Steps

/-! ## Runs -/

section Runs

variable {limit code : Int} {bytes : Bytes} {s t : BoundedCli} {event : CliEvent}

/-- The steps that may still come, at most. -/
def BoundedCli.rank (s : BoundedCli) : Nat :=
  match s.pc with
  | .reading => s.unread.length + 2
  | .waiting => 1
  | .ended _ => 0

/-- Every read but the last consumes what is unread, and so every step lowers the rank. -/
theorem boundedCli_ranked (limit : Int) (bytes : Bytes) (code : Int) :
    (boundedCli limit bytes code).Ranked BoundedCli.rank := by
  intro s event t h
  have hstep : CliStep limit code s event t := cliStep_of_step h
  cases hstep with
  | late hpc hevent => simp [BoundedCli.rank, BoundedCli.finish, hpc]
  | endOfFile hpc hempty => simp [BoundedCli.rank, hpc]
  | chunk hpc hcount havailable hsize hfits =>
    simp only [BoundedCli.rank, BoundedCli.extend, hpc, List.length_drop]
    omega
  | tooMuch hpc hcount havailable hsize hexceeds => simp [BoundedCli.rank, BoundedCli.finish, hpc]
  | exited hpc => simp [BoundedCli.rank, BoundedCli.finish, hpc]
  | lingered hpc => simp [BoundedCli.rank, BoundedCli.finish, hpc]
  | broken hpc =>
    rcases hpc with hpc | hpc
    · simp [BoundedCli.rank, BoundedCli.finish, hpc]
    · simp [BoundedCli.rank, BoundedCli.finish, hpc]

/-- What holds of the reading throughout. -/
structure Faithful (limit : Int) (bytes : Bytes) (code : Int) (s : BoundedCli) : Prop where
  /-- No byte is lost or read twice. -/
  split : s.output ++ s.unread = bytes
  /-- One byte beyond the limit is kept at most. -/
  retained : (s.output.length : Int) ≤ limit + 1
  /-- While the loop goes on the budget is not used up. -/
  budget : s.pc = .reading → (s.output.length : Int) ≤ limit
  /-- The loop is left at the end of the output only. -/
  drained : s.pc = .waiting → s.output = bytes ∧ (s.output.length : Int) ≤ limit
  /-- What is returned is the answer. -/
  answer : ∀ completed, s.pc = .ended (.completed completed) →
    completed = boundedAnswer limit bytes code

theorem split_extend (h : s.output ++ s.unread = bytes) (count : Nat) :
    (s.extend count).output ++ (s.extend count).unread = bytes := by
  rw [BoundedCli.extend, List.append_assoc, List.take_append_drop, h]

/-- While the loop goes on it never asks for nothing. -/
theorem Faithful.one_le_readSize (h : Faithful limit bytes code s) (hpc : s.pc = .reading) :
    1 ≤ readSize limit s.output := by
  have hbudget := h.budget hpc
  rw [readSize, le_min_iff]
  omega

theorem Faithful.init (hlimit : 0 ≤ limit) : Faithful limit bytes code { unread := bytes } where
  split := List.nil_append bytes
  retained := by
    rw [List.length_nil]
    omega
  budget _ := hlimit
  drained hpc := by cases hpc
  answer _ hpc := by cases hpc

/-- A way out, with what it returns. -/
theorem Faithful.finish (hsplit : s.output ++ s.unread = bytes)
    (hretained : (s.output.length : Int) ≤ limit + 1) {ending : CliEnding}
    (hending : ∀ completed, ending = .completed completed →
      completed = boundedAnswer limit bytes code) :
    Faithful limit bytes code (s.finish ending) where
  split := hsplit
  retained := hretained
  budget hpc := by cases hpc
  drained hpc := by cases hpc
  answer completed hpc := hending completed (CliPc.ended.inj hpc)

/-- A chunk never brings more than the one byte too much. -/
theorem length_output_extend_le {count : Nat} (havailable : count ≤ s.unread.length)
    (hsize : (count : Int) ≤ readSize limit s.output) :
    ((s.extend count).output.length : Int) ≤ limit + 1 := by
  have hbudget : (count : Int) ≤ limit + 1 - s.output.length := hsize.trans (min_le_right _ _)
  rw [length_output_extend s havailable, Nat.cast_add]
  omega

theorem Faithful.step (h : Faithful limit bytes code s) (hstep : CliStep limit code s event t) :
    Faithful limit bytes code t := by
  cases hstep with
  | late hpc hevent => exact .finish (s := s.stopProcess) h.split h.retained (by simp)
  | endOfFile hpc hempty =>
    have hpositive := h.one_le_readSize hpc
    have hunread : s.unread = [] := by
      rcases hempty with hsize | hunread
      · omega
      · exact hunread
    have hwhole : s.output = bytes := by
      rw [← h.split, hunread, List.append_nil]
    exact ⟨h.split, h.retained, by simp, fun _ => ⟨hwhole, h.budget hpc⟩, by simp⟩
  | @chunk count hpc hcount havailable hsize hfits =>
    have hextend : (s.extend count).pc = .reading := hpc
    exact ⟨split_extend h.split count, length_output_extend_le havailable hsize, fun _ => hfits,
      by simp [hextend], by simp [hextend]⟩
  | @tooMuch count hpc hcount havailable hsize hexceeds =>
    have hsplit := split_extend h.split count
    have hlong : ¬(bytes.length : Int) ≤ limit := by
      rw [← hsplit, List.length_append, Nat.cast_add]
      omega
    apply Faithful.finish (s := (s.extend count).stopProcess) hsplit
      (length_output_extend_le havailable hsize)
    intro completed hcompleted
    cases hcompleted
    rw [boundedAnswer, if_neg hlong]
  | exited hpc =>
    rcases h.drained hpc with ⟨hwhole, hfits⟩
    apply Faithful.finish h.split h.retained
    intro completed hcompleted
    cases hcompleted
    rw [boundedAnswer, ← hwhole, if_pos hfits]
  | lingered hpc => exact .finish (s := s.stopProcess) h.split h.retained (by simp)
  | broken hpc => exact .finish h.split h.retained (by simp)

theorem Faithful.of_reachable (hlimit : 0 ≤ limit) (h : (boundedCli limit bytes code).Reachable s) :
    Faithful limit bytes code s := by
  apply h.invariant (Faithful.init hlimit)
  intro s t event _ hs hnext
  exact hs.step (cliStep_of_step hnext)

/-- **No way out leaves anything behind.**  The stream is closed, and the process has exited or was
stopped, except where a call failed that is no timeout. -/
theorem clean_of_reachable (h : (boundedCli limit bytes code).Reachable s) :
    ∀ ending, s.pc = .ended ending → s.closed = true ∧
      (s.stopped = true ∨ ending = .failed ∨
        ∃ completed, ending = .completed completed ∧ completed.oversized = false) := by
  apply h.invariant
  · intro ending hpc
    cases hpc
  · intro s t event _ hs hnext ending hpc
    have hstep : CliStep limit code s event t := cliStep_of_step hnext
    cases hstep with
    | late => exact ⟨rfl, .inl rfl⟩
    | endOfFile => cases hpc
    | chunk => exact hs ending hpc
    | tooMuch => exact ⟨rfl, .inl rfl⟩
    | exited =>
      cases hpc
      exact ⟨rfl, .inr (.inr ⟨_, rfl, rfl⟩)⟩
    | lingered => exact ⟨rfl, .inl rfl⟩
    | broken =>
      cases hpc
      exact ⟨rfl, .inr (.inl rfl)⟩

/-- An undisturbed run does not raise. -/
theorem completed_of_undisturbed
    (h : (boundedCli limit bytes code).ReachableUnder (fun _ event => event.Undisturbed) s) :
    ∀ ending, s.pc = .ended ending → ∃ completed, ending = .completed completed := by
  apply h.invariant
  · intro ending hpc
    cases hpc
  · intro s t event _ hs hevent hnext ending hpc
    have hstep : CliStep limit code s event t := cliStep_of_step hnext
    cases hstep with
    | late _ hlate => exact absurd hevent hlate
    | endOfFile => cases hpc
    | chunk => exact hs ending hpc
    | tooMuch =>
      cases hpc
      exact ⟨_, rfl⟩
    | exited =>
      cases hpc
      exact ⟨_, rfl⟩
    | lingered => exact hevent.elim
    | broken => exact hevent.elim

/-- While there is something to read the operating system may deliver it; it may deliver the end
where there is nothing, and it may let the process exit. -/
theorem exists_undisturbed (hs : Faithful limit bytes code s) (hpc : ∀ ending, s.pc ≠ .ended ending) :
    ∃ event t, event.Undisturbed ∧ (boundedCli limit bytes code).next s event = some t := by
  cases hat : s.pc with
  | reading =>
    have hpositive := hs.one_le_readSize hat
    have hdelivers : Delivers (readSize limit s.output) s.unread (min 1 s.unread.length) := by
      refine ⟨by omega, by omega, Nat.min_le_right 1 _, ?_⟩
      intro hzero
      exact .inr (List.length_eq_zero_iff.mp (by omega))
    refine ⟨.deliver (min 1 s.unread.length), s.takeChunk limit (min 1 s.unread.length), trivial, ?_⟩
    simp only [boundedCli, BoundedCli.step, hat, if_pos hdelivers]
  | waiting =>
    refine ⟨.exits, s.finish (.completed { returncode := code, stdout := s.output }), trivial, ?_⟩
    simp only [boundedCli, BoundedCli.step, hat]
  | ended ending => exact absurd hat (hpc ending)

/-- **Chunks do not matter.**  However the output is cut, a run that is not disturbed returns all of
it or says that it is too long, and it does end: it can be continued to its end from wherever it is,
and no run is longer than the output and two steps more.  Every read asks for something, and of the
output one byte beyond the limit is kept at most. -/
theorem boundedCli_ignores_chunks (limit : Int) (hlimit : 1 ≤ limit) (bytes : Bytes) (code : Int) :
    (∀ s, (boundedCli limit bytes code).Reachable s →
      (s.pc = .reading → 1 ≤ readSize limit s.output) ∧ (s.output.length : Int) ≤ limit + 1) ∧
    (∀ s, (boundedCli limit bytes code).ReachableUnder (fun _ event => event.Undisturbed) s →
      (∀ ending, s.pc = .ended ending → ending = .completed (boundedAnswer limit bytes code)) ∧
      ∃ events t, (boundedCli limit bytes code).run s events = some t ∧
        (boundedCli limit bytes code).ReachableUnder (fun _ event => event.Undisturbed) t ∧
        t.pc = .ended (.completed (boundedAnswer limit bytes code))) ∧
    ∀ events t, (boundedCli limit bytes code).run (boundedCli limit bytes code).init events = some t →
      events.length ≤ bytes.length + 2 := by
  have hfaithful : ∀ {s}, (boundedCli limit bytes code).Reachable s → Faithful limit bytes code s :=
    fun h => .of_reachable (by omega) h
  have hanswer : ∀ s,
      (boundedCli limit bytes code).ReachableUnder (fun _ event => event.Undisturbed) s →
        ∀ ending, s.pc = .ended ending → ending = .completed (boundedAnswer limit bytes code) := by
    intro s hs ending hpc
    rcases completed_of_undisturbed hs ending hpc with ⟨completed, rfl⟩
    rw [(hfaithful hs.reachable).answer completed hpc]
  refine ⟨?_, ?_, ?_⟩
  · intro s hs
    exact ⟨(hfaithful hs).one_le_readSize, (hfaithful hs).retained⟩
  · intro s hs
    refine ⟨hanswer s hs, ?_⟩
    have hranked := boundedCli_ranked limit bytes code
    have hprogress : ∀ s,
        (boundedCli limit bytes code).ReachableUnder (fun _ event => event.Undisturbed) s →
          ¬(∃ ending, s.pc = .ended ending) →
            ∃ event t, event.Undisturbed ∧ (boundedCli limit bytes code).next s event = some t :=
      fun s hs hopen => exists_undisturbed (hfaithful hs.reachable) (not_exists.mp hopen)
    rcases hranked.exists_final hprogress hs with ⟨events, t, hrun, ht, ending, hpc⟩
    exact ⟨events, t, hrun, ht, by rw [hpc, hanswer t ht ending hpc]⟩
  · intro events t hrun
    have hbound := (boundedCli_ranked limit bytes code).length_add_rank_le hrun
    have hinit : (boundedCli limit bytes code).init.rank = bytes.length + 2 := rfl
    omega

/-- Two bytes are too much for a limit of one. -/
theorem boundedCli_ignores_chunks_two :
    (1 : Int) ≤ 1 ∧
    (∀ s, (boundedCli 1 [104, 105] 0).ReachableUnder (fun _ event => event.Undisturbed) s →
      ∀ ending, s.pc = .ended ending →
        ending = .completed { returncode := 0, stdout := [], oversized := true }) ∧
    ∃ events t, (boundedCli 1 [104, 105] 0).run { unread := [104, 105] } events = some t ∧
      t.pc = .ended (.completed { returncode := 0, stdout := [], oversized := true }) := by
  have h := boundedCli_ignores_chunks 1 (by decide) [104, 105] 0
  rcases (h.2.1 _ .init).2 with ⟨events, t, hrun, -, hpc⟩
  exact ⟨by decide, fun s hs => (h.2.1 s hs).1, events, t, hrun, hpc⟩

end Runs

/-! ## What the probe makes of it -/

/-- `_DEFAULT_MAX_STATUS_BYTES`. -/
def defaultMaxStatusBytes : Nat := 64 * 1024

/-- `_bounded_output_limit`. -/
def boundedOutputLimit (value : PyValue) : Int :=
  match value with
  | .int limit => min maxStatusBytes (max 1 limit)
  | _ => defaultMaxStatusBytes

/-- The categories of the probe: those of parsing, and those of a CLI that gives no status. -/
inductive ProbeCategory
  | parsed (category : AuthCategory)
  | timeout
  | nonzero
  | probeFailed
  deriving DecidableEq

/-- `probe_claude_auth`, from what `_run_bounded_cli` returned. -/
def judgeCompleted (library : StatusLibrary) (limit : Int) (completed : BoundedCompleted) :
    ProbeCategory :=
  if completed.oversized then .parsed .oversized
  else if completed.returncode ≠ 0 then .nonzero
  else if limit < completed.stdout.length then .parsed .oversized
  else .parsed (parseAuthStatus library (.bytes completed.stdout) (.int limit)).category

/-- `probe_claude_auth`, from how `_run_bounded_cli` ended. -/
def judgeEnding (library : StatusLibrary) (limit : Int) : CliEnding → ProbeCategory
  | .completed completed => judgeCompleted library limit completed
  | .timedOut => .timeout
  | .failed => .probeFailed

section Probe

variable {library : StatusLibrary} {value : PyValue} {bytes : Bytes} {code : Int} {s : BoundedCli}
  {ending : CliEnding}

/-- A limit is a positive one that `parse_auth_status` takes as it is. -/
theorem exists_boundedOutputLimit (value : PyValue) :
    ∃ limit : Nat, boundedOutputLimit value = limit ∧ 1 ≤ limit ∧ limit ≤ maxStatusBytes := by
  have hbounds : 1 ≤ boundedOutputLimit value ∧ boundedOutputLimit value ≤ maxStatusBytes := by
    cases value with
    | int limit =>
      have hmax : (1 : Int) ≤ maxStatusBytes := by decide
      exact ⟨le_min hmax (le_max_left 1 limit), min_le_left _ _⟩
    | _ =>
      have hdefault : (1 : Int) ≤ defaultMaxStatusBytes ∧
          (defaultMaxStatusBytes : Int) ≤ maxStatusBytes := by decide
      exact hdefault
  rcases Int.eq_ofNat_of_zero_le (by omega : 0 ≤ boundedOutputLimit value) with ⟨limit, hlimit⟩
  rw [hlimit] at hbounds
  exact ⟨limit, hlimit, by omega, by omega⟩

/-- The answer of a run is judged as the whole output is. -/
theorem judgeCompleted_boundedAnswer {limit : Nat} :
    judgeCompleted library limit (boundedAnswer limit bytes code) =
      if limit < bytes.length then .parsed .oversized
      else if code ≠ 0 then .nonzero
      else .parsed (parseAuthStatus library (.bytes bytes) (.int limit)).category := by
  by_cases hfits : bytes.length ≤ limit
  · have hshort : ¬limit < bytes.length := not_lt.mpr hfits
    rw [boundedAnswer, if_pos (by exact_mod_cast hfits), if_neg hshort, judgeCompleted]
    dsimp only
    rw [if_neg Bool.false_ne_true]
    split_ifs with hcode hlong
    · rfl
    · exact absurd (by exact_mod_cast hlong) hshort
    · rfl
  · rw [boundedAnswer, if_neg (by exact_mod_cast hfits), if_pos (not_le.mp hfits), judgeCompleted]
    rfl

/-- **Chunks do not matter to the probe.**  Whenever the process exits in time the probe judges its
code and its whole output. -/
theorem judgeEnding_of_undisturbed {limit : Nat} (hlimit : 1 ≤ limit)
    (hs : (boundedCli limit bytes code).ReachableUnder (fun _ event => event.Undisturbed) s)
    (hpc : s.pc = .ended ending) :
    judgeEnding library limit ending =
      if limit < bytes.length then .parsed .oversized
      else if code ≠ 0 then .nonzero
      else .parsed (parseAuthStatus library (.bytes bytes) (.int limit)).category := by
  rcases completed_of_undisturbed hs ending hpc with ⟨completed, rfl⟩
  have hfaithful : Faithful limit bytes code s := .of_reachable (by omega) hs.reachable
  rw [hfaithful.answer completed hpc]
  exact judgeCompleted_boundedAnswer

/-- An answer is allowed where the process succeeds and its whole output is an accepted status that
fits the limit. -/
theorem judgeCompleted_boundedAnswer_eq {limit : Nat} (hlow : 1 ≤ limit)
    (hhigh : limit ≤ maxStatusBytes) :
    judgeCompleted library limit (boundedAnswer limit bytes code) = .parsed .subscriptionOauth ↔
      bytes.length ≤ limit ∧ code = 0 ∧
        ∃ items method provider subscription, IsStatusDocument library bytes items ∧
          Accepted library (PyValue.lookupKey items) method provider subscription ∧
          75 + ((utf8Size method).getD 0 + (utf8Size provider).getD 0 + (utf8Size subscription).getD 0) ≤
            limit := by
  rw [judgeCompleted_boundedAnswer]
  by_cases hlong : limit < bytes.length
  · rw [if_pos hlong]
    simp [not_le.mpr hlong]
  · have hlength := not_lt.mp hlong
    rw [if_neg hlong, ← allowed_iff_accepted library limit bytes hlow hhigh hlength,
      parseAuthStatus_bytes hlow hhigh hlength, allowed_authResult]
    by_cases hcode : code = 0
    · rw [if_neg (not_not.mpr hcode)]
      simp [hcode, hlength, authResult]
    · rw [if_pos hcode]
      simp [hcode]

/-- **The probe fails closed.**  However a run is disturbed, only an accepted status of a process that
succeeded is allowed. -/
theorem accepted_of_judgeEnding
    (hs : (boundedCli (boundedOutputLimit value) bytes code).Reachable s) (hpc : s.pc = .ended ending)
    (h : judgeEnding library (boundedOutputLimit value) ending = .parsed .subscriptionOauth) :
    code = 0 ∧ ∃ items method provider subscription, IsStatusDocument library bytes items ∧
      Accepted library (PyValue.lookupKey items) method provider subscription := by
  rcases exists_boundedOutputLimit value with ⟨limit, hlimit, hlow, hhigh⟩
  rw [hlimit] at hs h
  have hfaithful : Faithful limit bytes code s := .of_reachable (by omega) hs
  cases ending with
  | completed completed =>
    rw [hfaithful.answer completed hpc] at h
    rcases (judgeCompleted_boundedAnswer_eq hlow hhigh).mp h with
      ⟨-, hcode, items, method, provider, subscription, hitems, haccepted, -⟩
    exact ⟨hcode, items, method, provider, subscription, hitems, haccepted⟩
  | timedOut => cases h
  | failed => cases h

end Probe

end HermesClaude.Billing
