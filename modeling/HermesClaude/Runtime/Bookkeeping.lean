/-
# The books of overlapping turns

A host may start a turn while another is in progress.  What the first is told about its
model, the correlation of its tool requests and the phase of its failure are then its own
only as long as the second does not get in between: `run_turn` resets the projector and
the bridge before it waits for the turn lock, and the counter of executed tools is one
for all turns.

As long as no step does that, the books of each turn are what they would be without the
others.
-/

import HermesClaude.Runtime.ModelReports
import HermesClaude.Runtime.Phase

namespace HermesClaude.Runtime

open HermesClaude.Python HermesClaude.Bridge HermesClaude.Content HermesClaude.Session
  HermesClaude.Library

variable {db : UnicodeDatabase}

namespace ClaudeAgentSDKRuntime

variable {r s : ClaudeAgentSDKRuntime db} {t : Turn db}

/-- A turn that has yielded its last event only returns. -/
theorem resume_last {signal : Signal} {poll : Option Poll} (hpc : t.pc = .yieldedTerminal)
    (h : r.resume t signal poll = some s) : s.turn = none := by
  cases resumed_of_resume h with
  | exhausted | closed => rfl
  | cancelReturned pc | handlerCancelled pc | cancelCancelled pc | received pc | timedOut pc
    | receiveCancelled pc | passedOn pc | settled pc | nativeFailed pc | stateTaken pc =>
    rw [hpc] at pc
    cases pc
  | taskCancelled pc | taskRaised pc =>
    rw [hpc] at pc
    rcases pc with pc | ⟨phase, pc⟩ <;> cases pc

/-- Once a turn has yielded its last event, only what it has yielded matters. -/
theorem Booked.of_last (h : Booked r t) (hpc : t.pc = .yieldedTerminal) : Booked s t :=
  ⟨h.yielded, fun hother => absurd hpc hother, by rw [hpc]; rintro phase ⟨⟩⟩

/-- A turn that is bound looks at the counter of the bridge only. -/
theorem Booked.of_count (h : Booked r t) (hbound : t.bridge = .bound)
    (hcount : s.executionCount = r.executionCount) : Booked s t :=
  { h with
    counts := fun hpc =>
      ⟨(h.counts hpc).visible, fun _ => hcount.trans ((h.counts hpc).bound hbound),
        fun hunbound => absurd hbound hunbound⟩ }

/-- A turn that can still fail after a step of its own could before, and has the same
bridge. -/
theorem engaged_of_next {context : RuntimeContext db} {label : Label db}
    (hlabel : label.isFocused = true) (hturn : r.turn = some t)
    (hnext : r.next context label = some s) {u : Turn db} (hu : s.turn = some u)
    (hpc : u.pc ≠ .yieldedTerminal) : t.pc ≠ .yieldedTerminal ∧ u.bridge = t.bridge := by
  obtain ⟨t', v, hstep, hgoes⟩ := goes_of_next hturn hlabel hnext
  cases hgoes with
  | ends f p _ _ hnone =>
    rw [hnone] at hu
    cases hu
  | suspended hrecorded hsome =>
    rw [hsome, Option.some.injEq] at hu
    subst hu hrecorded
    cases hstep with
    | moved moves =>
      refine ⟨fun hlast => ?_, (fixed_of_moves moves).2.2⟩
      obtain ⟨w, hw, hresume⟩ := Option.bind_eq_some_iff.mp hnext
      rw [hturn, Option.some.injEq] at hw
      subst hw
      rw [resume_last hlast hresume] at hsome
      cases hsome
    | produced | ended | executed => exact ⟨hpc, rfl⟩

end ClaudeAgentSDKRuntime

namespace SharedRuntime

open ClaudeAgentSDKRuntime

variable {context : SharedContext db} {c d : SharedRuntime db} {t u v : Turn db}

/-! ## The phases of failures -/

/-- Every turn has counted its own tools, as long as it can still fail. -/
structure Phased (c : SharedRuntime db) : Prop where
  inProgress : ∀ t ∈ c.inProgress, Booked c.runtime t
  finished : ∀ f ∈ c.runtime.finished, FinishedExact f
  engaged : ∀ t ∈ c.inProgress, t.pc ≠ .yieldedTerminal →
    t.bridge = .bound ∧ c.runtime.session.isSome = true

/-- A tool that runs for a turn is counted for no other that can still fail, and that turn
itself has not fixed its phase yet. -/
structure KeepsPhases (c : SharedRuntime db) (turn : Nat) : Prop where
  own : ∀ t ∈ c.inProgress, t.number = turn → ∀ phase ∈ t.pc.keptPhase, phase = .afterSideEffects
  others : ∀ t ∈ c.inProgress, t.number ≠ turn → t.pc = .yieldedTerminal

/-- A step of one turn. -/
theorem Phased.advance (h : Phased c) {b : SharedRuntime db} (hin : b.inProgress = c.inProgress)
    (hruntime : b.runtime = c.runtime) {turn : Nat} {label : Label db}
    (hlabel : label.isFocused = true) (htool : ∀ n, label = .tool n → KeepsPhases c turn)
    (hnext : b.advance context turn label = some d) : Phased d := by
  have hshared := advance_shared hlabel hnext
  obtain ⟨t, r, hfocus, hstep, rfl⟩ := advance_eq_some hnext
  have hmem : t ∈ b.inProgress := List.mem_of_find?_eq_some hfocus
  have hnumber : t.number = turn := by simpa using List.find?_some hfocus
  rw [hruntime] at hstep hshared
  have ht : t ∈ c.inProgress := hin ▸ hmem
  have hbooked : Booked { c.runtime with turn := some t } t :=
    (booked_inductive context.runtime).frame (r := c.runtime) ⟨rfl, rfl⟩ (h.inProgress t ht)
  have hinvariant : Reports { c.runtime with turn := some t } :=
    ⟨fun t' ht' => Option.some.inj ht' ▸ hbooked, h.finished⟩
  have hguard : KeepsPhase { c.runtime with turn := some t } label := by
    unfold KeepsPhase keepsPhase
    split
    next n =>
      cases hkept : t.pc.keptPhase with
      | none => simp [hkept]
      | some phase =>
        have hphase := (htool n rfl).own t ht hnumber phase hkept
        simp [hkept, hphase]
    next => cases hlabel
    next => rfl
  have hreports : Reports r := (booked_inductive context.runtime).next hinvariant hguard hstep
  have hother : ∀ u ∈ c.inProgress, u.number ≠ turn → Booked r u := by
    intro u hu hne
    by_cases hruns : ∃ n, label = .tool n
    · obtain ⟨n, rfl⟩ := hruns
      exact (h.inProgress u hu).of_last ((htool n rfl).others u hu hne)
    · have hbridge := bridge_of_next (Label.beginsTurn_of_isFocused hlabel)
        (fun n hn => hruns ⟨n, hn⟩) hstep
      have hframe : SameFrame c.runtime r := ⟨hbridge, hshared.session_isSome⟩
      exact (booked_inductive context.runtime).frame hframe (h.inProgress u hu)
  refine ⟨fun u hu => ?_, hreports.history, fun u hu hpc => ?_⟩
  · have hframe : SameFrame r { r with turn := none } := ⟨rfl, rfl⟩
    refine (booked_inductive context.runtime).frame hframe ?_
    rcases (mem_store hmem hnumber r u).mp hu with ⟨hu, hne⟩ | hu
    · exact hother u (hin ▸ hu) hne
    · exact hreports.turn u hu
  · rw [hshared.session_isSome]
    rcases (mem_store hmem hnumber r u).mp hu with ⟨hu, hne⟩ | hu
    · exact h.engaged u (hin ▸ hu) hpc
    · obtain ⟨hbefore, hbridge⟩ := engaged_of_next hlabel rfl hstep hu hpc
      obtain ⟨hbound, hlive⟩ := h.engaged t ht hbefore
      exact ⟨hbridge.trans hbound, hlive⟩

/-- A step of no turn. -/
theorem Phased.outside (h : Phased c) {b : SharedRuntime db}
    (hin : b.inProgress = c.inProgress) (hruntime : b.runtime = c.runtime)
    {label : Label db} (hlabel : isOutside label = true)
    (htool : ∀ n, label = .tool n → ∀ t ∈ c.inProgress, t.pc = .yieldedTerminal)
    (hnext : b.outside context label = some d) : Phased d := by
  obtain ⟨hsame, hfinished, hshared⟩ := outside_rests hlabel hnext
  rw [hin] at hsame
  rw [hruntime] at hfinished hshared
  refine ⟨fun u hu => ?_, ?_, fun u hu hpc => ?_⟩
  · rw [hsame] at hu
    by_cases hruns : ∃ n, label = .tool n
    · obtain ⟨n, hn⟩ := hruns
      exact (h.inProgress u hu).of_last (htool n hn u hu)
    · have hbegins : label.beginsTurn = false := by
        cases label with
        | start => cases hlabel
        | preflight | generator | produce | taskEnds | sessionCloses | tool | orphanEnds | close => rfl
      obtain ⟨r, hstep, rfl⟩ := Option.map_eq_some_iff.mp hnext
      have hbridge := bridge_of_next hbegins (fun n hn => hruns ⟨n, hn⟩) hstep
      rw [idle, hruntime] at hbridge
      have hframe : SameFrame c.runtime { r with turn := none } := ⟨hbridge, hshared.session_isSome⟩
      exact (booked_inductive context.runtime).frame hframe (h.inProgress u hu)
  · rw [hfinished]
    exact h.finished
  · rw [hshared.session_isSome]
    exact h.engaged u (hsame ▸ hu) hpc

/-- Every step but the beginning of a turn keeps the phases. -/
theorem Phased.next (h : Phased c) {label : SharedLabel db} (hlabel : beginsTurn label = false)
    (hguard : ∀ turn, label = .tool turn → KeepsPhases c turn)
    (hnext : c.next context label = some d) : Phased d := by
  have hdelivers : ∀ {b : SharedRuntime db} {turn : Nat} {projection : ProjectionResult},
      b.inProgress = c.inProgress → b.runtime = c.runtime →
      b.deliver context turn projection = some d → Phased d := by
    intro b turn projection hin hruntime hdeliver
    unfold deliver at hdeliver
    split_ifs at hdeliver
    · exact h.advance hin hruntime rfl (by rintro n ⟨⟩) hdeliver
    · cases hdeliver
      refine ⟨?_, ?_, ?_⟩
      · rw [hin, hruntime]
        exact h.inProgress
      · rw [hruntime]
        exact h.finished
      · rw [hin, hruntime]
        exact h.engaged
  cases label with
  | start => cases hlabel
  | preflight | sessionCloses | close => exact h.outside rfl rfl rfl (by rintro n ⟨⟩) hnext
  | generator turn signal poll => exact h.advance rfl rfl rfl (by rintro n ⟨⟩) hnext
  | acquires turn =>
    obtain ⟨session, -, hholder⟩ := Option.bind_eq_some_iff.mp hnext
    obtain ⟨-, ⟨⟩⟩ := Option.ite_none_right_eq_some.mp hholder
    exact { h with }
  | message turn message =>
    obtain ⟨session, -, hholds⟩ := Option.bind_eq_some_iff.mp hnext
    obtain ⟨-, hobserved⟩ := Option.ite_none_right_eq_some.mp hholds
    dsimp only at hobserved
    split at hobserved
    · exact hdelivers (b := c.observe context turn session message) rfl rfl hobserved
    · cases hobserved
      exact { h with }
  | compaction turn phase =>
    obtain ⟨-, hobserved⟩ := Option.ite_none_right_eq_some.mp hnext
    exact hdelivers rfl rfl hobserved
  | taskEnds turn ending =>
    obtain ⟨-, hends⟩ := Option.ite_none_right_eq_some.mp hnext
    split_ifs at hends
    · exact h.advance (b := { c with
        tasks := c.tasks.filter (· ≠ turn)
        holder := fun session => (c.holder session).filter (· ≠ turn) }) rfl rfl rfl
        (by rintro n ⟨⟩) hends
    · exact h.outside (b := { c with
        tasks := c.tasks.filter (· ≠ turn)
        holder := fun session => (c.holder session).filter (· ≠ turn) }) rfl rfl rfl
        (by rintro n ⟨⟩) hends
    · cases hends
      exact { h with }
  | tool turn =>
    obtain ⟨-, hexecutes⟩ := Option.ite_none_right_eq_some.mp hnext
    obtain ⟨bridge, -, hruns⟩ := Option.bind_eq_some_iff.mp hexecutes
    have hkeeps := hguard turn rfl
    dsimp only at hruns
    split_ifs at hruns with hfocus
    · exact h.advance (b := { c with
        requests := c.requests ++ [(turn, bridge.correlationId)] }) rfl rfl rfl (fun _ _ => hkeeps) hruns
    · refine h.outside (b := { c with
        requests := c.requests ++ [(turn, bridge.correlationId)] }) rfl rfl rfl
        (fun _ _ t ht => hkeeps.others t ht fun hsame => ?_) hruns
      have hnone := List.find?_eq_none.mp (Option.not_isSome_iff_eq_none.mp hfocus) t ht
      simp [hsame] at hnone

/-- The beginning of a turn keeps the phases, if the bridge accepts its correlation
wherever tools have run. -/
theorem Phased.begin (h : Phased c) (hnumbered : Numbered c) {request : RuntimeTurnRequest db}
    {host : RuntimeHost} {answers : StartAnswers}
    (hguard : KeepsPhase c.runtime (.start request host answers)) :
    Phased (c.begin context request host answers) := by
  obtain ⟨v, hlaunch, hjoins⟩ := begin_joins hnumbered context request host answers
  have hreports : Reports (c.idle.startTurn context.runtime request host answers) :=
    startTurn_reports (r := c.idle) hguard h.finished
  refine ⟨fun u hu => ?_, hreports.history, fun u hu hpc => ?_⟩
  · rcases hjoins.inProgress u hu with hin | ⟨rfl, hsuspended⟩
    · by_cases hlast : u.pc = .yieldedTerminal
      · exact (h.inProgress u hin).of_last hlast
      · obtain ⟨hbound, hlive⟩ := h.engaged u hin hlast
        exact (h.inProgress u hin).of_count hbound (hlaunch.count hlive)
    · have hframe : SameFrame (c.idle.startTurn context.runtime request host answers)
          (c.begin context request host answers).runtime := ⟨rfl, rfl⟩
      exact (booked_inductive context.runtime).frame hframe (hreports.turn u hsuspended)
  · rcases hjoins.inProgress u hu with hin | ⟨rfl, hsuspended⟩
    · obtain ⟨hbound, hlive⟩ := h.engaged u hin hpc
      exact ⟨hbound, hlaunch.session.isSome hlive⟩
    · exact hlaunch.engaged hsuspended hpc

/-! ## The books -/

/-- The books of every turn are its own: the provenance it reports is what its messages
say by themselves, the correlation of a tool request is the one of the request of its
turn, and the phase of a failure says what the turn itself has done. -/
structure Isolated (texts : TextLibrary) (c : SharedRuntime db) : Prop where
  provenance : ∀ t ∈ c.turns, ∀ y ∈ t.yielded, ∀ result, y.event = .completed result →
    result.provenance = ownProvenance texts t.request (c.messagesOf t.number)
  correlation : ∀ x ∈ c.requests, ∀ t ∈ c.turns, t.number = x.1 →
    HostToolBridge.bindCorrelation t.request.correlationId = .ok x.2
  phase : ∀ t ∈ c.turns, ∀ y ∈ t.yielded, y.Exact

/-- Whether a generator is suspended at its last yield. -/
def isLast : GeneratorPc → Bool
  | .yieldedTerminal => true
  | _ => false

/-- No later turn shares the projector when it observes evidence about a turn, and where
it observes a result, the session has announced what the messages of the turn announce.
No turn with another correlation was bound after one for which a tool runs, no other turn
in progress can still fail then, and that turn has fixed no phase.  A turn whose
correlation the bridge refuses begins only before any tool has run. -/
def isApart (texts : TextLibrary) (c : SharedRuntime db) : SharedLabel db → Bool
  | .start request host answers => keepsPhase c.runtime (.start request host answers)
  | .message turn message =>
    (!ClaudeSdkEventProjector.isTurnEvidence message || c.turns.all fun u =>
      u.number ≤ turn || u.boundTo.map (·.number) ≠ c.sessionOf turn) &&
    (message.typeName ≠ "ResultMessage" || (c.sessionOf turn).all fun session =>
      (c.projector session).session = ownSession texts (c.messagesOf turn))
  | .tool turn =>
    (c.turns.all fun t => t.number ≠ turn || c.turns.all fun u =>
      u.number ≤ turn || u.boundTo.isNone || u.request.correlation = t.request.correlation) &&
    c.inProgress.all fun t =>
      if t.number = turn then t.pc.keptPhase.all (· = .afterSideEffects) else isLast t.pc
  | _ => true

theorem isLast_eq_true {p : GeneratorPc} (h : isLast p = true) : p = .yieldedTerminal := by
  cases p with
  | yieldedTerminal => rfl
  | cancelling | receiving | yielding | awaitingTask | awaitingNativeTask | yieldedState => cases h

theorem keeps_of_isApart_message {texts : TextLibrary} {turn : Nat} {message : PyValue}
    (h : isApart texts c (.message turn message) = true) :
    KeepsEvidence c turn message ∧ KeepsSession texts c turn message := by
  obtain ⟨hevidence, hsession⟩ := Bool.and_eq_true_iff.mp h
  refine ⟨fun hcounts u hu hlater => ?_, fun hresult session hbound => ?_⟩
  · rw [hcounts] at hevidence
    have hall := List.all_eq_true.mp hevidence u hu
    simpa [Nat.not_le.mpr hlater] using hall
  · rw [hbound] at hsession
    simpa [hresult] using hsession

theorem keeps_of_isApart_tool {texts : TextLibrary} {turn : Nat}
    (h : isApart texts c (.tool turn) = true) :
    KeepsCorrelation c turn ∧ KeepsPhases c turn := by
  obtain ⟨hcorrelation, hphases⟩ := Bool.and_eq_true_iff.mp h
  refine ⟨fun t ht hnumber u hu hlater hbound => ?_, ⟨fun t ht hnumber phase hphase => ?_,
    fun t ht hother => ?_⟩⟩
  · have hall := List.all_eq_true.mp hcorrelation t ht
    simp only [hnumber, ne_eq, not_true_eq_false, decide_false, Bool.false_or] at hall
    have hthis := List.all_eq_true.mp hall u hu
    simpa [Nat.not_le.mpr hlater, Option.isNone_iff_eq_none, Option.isSome_iff_ne_none.mp hbound]
      using hthis
  · have hall := List.all_eq_true.mp hphases t ht
    simp only [hnumber, if_true] at hall
    simpa [Option.mem_def.mp hphase] using hall
  · have hall := List.all_eq_true.mp hphases t ht
    simp only [hother, if_false] at hall
    exact isLast_eq_true hall

/-- All that is known of turns that are kept apart. -/
structure Apart (texts : TextLibrary) (c : SharedRuntime db) : Prop where
  numbered : Numbered c
  correlated : Correlated c
  evident : Evident texts c
  attributed : Attributed texts c
  phased : Phased c

theorem Apart.next (h : Apart context.texts c) {label : SharedLabel db}
    (hguard : isApart context.texts c label = true) (hnext : c.next context label = some d) :
    Apart context.texts d := by
  cases hbegins : beginsTurn label with
  | true =>
    cases label with
    | start request host answers =>
      cases hnext
      exact {
        numbered := h.numbered.begin context request host answers
        correlated := h.correlated.begin h.numbered context request host answers
        evident := h.evident.begin rfl h.numbered request host answers
        attributed := h.attributed.begin h.numbered context request host answers
        phased := h.phased.begin h.numbered hguard }
    | preflight | generator | acquires | message | compaction | taskEnds | tool | sessionCloses
      | close => cases hbegins
  | false =>
    have hmessage : ∀ turn message, label = .message turn message →
        KeepsEvidence c turn message ∧ KeepsSession context.texts c turn message := by
      rintro turn message rfl
      exact keeps_of_isApart_message hguard
    have htool : ∀ turn, label = .tool turn → KeepsCorrelation c turn ∧ KeepsPhases c turn := by
      rintro turn rfl
      exact keeps_of_isApart_tool hguard
    exact {
      numbered := h.numbered.next hbegins hnext
      correlated := h.correlated.next h.numbered hbegins (fun turn hturn => (htool turn hturn).1) hnext
      evident := h.evident.next rfl h.numbered hbegins
        (fun turn message hturn => (hmessage turn message hturn).1) hnext
      attributed := h.attributed.next rfl h.numbered h.evident hbegins hmessage hnext
      phased := h.phased.next hbegins (fun turn hturn => (htool turn hturn).2) hnext }

/-- Before any turn has begun. -/
theorem apart_init (texts : TextLibrary) : Apart texts ({} : SharedRuntime db) := by
  have hnone : ∀ t : Turn db, t ∉ ({} : SharedRuntime db).turns := fun t ht => (by cases ht)
  exact {
    numbered := numbered_init
    correlated := ⟨fun ⟨t, ht, _⟩ => absurd ht (hnone t), fun x hx => (by cases hx)⟩
    evident := ⟨fun t ht => absurd ht (hnone t), fun session hsession => (by cases hsession),
      fun t ht => absurd ht (hnone t)⟩
    attributed := ⟨fun t ht => (by cases ht), fun t ht => absurd ht (hnone t)⟩
    phased := ⟨fun t ht => (by cases ht), fun f hf => (by cases hf), fun t ht => (by cases ht)⟩ }

/-- **The books of overlapping turns.** In every run in which no turn gets in between, the
books of every turn are its own, however the turns overlap. -/
theorem overlapping_isolated (context : SharedContext db) {c : SharedRuntime db}
    (hr : (sharedSystem context).ReachableUnder
      (fun c label => isApart context.texts c label = true) c) : Isolated context.texts c := by
  have hapart : Apart context.texts c := System.ReachableUnder.invariant
    (S := sharedSystem context) (apart_init context.texts)
    (fun _ hc hguard hnext => hc.next hguard hnext) hr
  refine ⟨fun t ht y hy result hresult => (hapart.attributed.completes t ht y hy result hresult).1,
    hapart.correlated.requests, fun t ht => ?_⟩
  rcases mem_turns.mp ht with ⟨f, hf, rfl⟩ | hin
  · exact hapart.phased.finished f hf
  · exact (hapart.phased.inProgress t hin).yielded

/-- A request whose tool requests are to carry the given correlation. -/
def correlatedRequest (identity : Nat) (correlation : String) :
    RuntimeTurnRequest asciiDatabase :=
  { plainRequest identity [userMessage] with correlationId := .str (lit correlation) }

/-- A result that reports usage of one model. -/
def resultMessage (model : String) : PyValue :=
  .object "ResultMessage" [("is_error", .bool false), ("result", .str (lit "done")),
    ("model_usage", .dict [(.str (lit model), .dict [])])]

/-- A turn begins while the SDK turn of another still runs, which then completes; both have
had a tool executed. -/
theorem overlapping_isolated_completed : ∃ c, (sharedSystem textOnlyShared).Reachable c ∧
    (∃ f ∈ c.runtime.finished, ∃ y ∈ f.turn.yielded, ∃ result, y.event = .completed result ∧
      result.provenance.effectiveModel = lit "m") ∧
    c.requests = [(0, some (lit "a")), (1, some (lit "b"))] ∧ Isolated textOnlyShared.texts c := by
  obtain ⟨c, hc, hcompleted, hrequests⟩ := System.exists_reachableUnder_of_check
    (S := sharedSystem textOnlyShared)
    (P := fun c => (∃ f ∈ c.runtime.finished, ∃ y ∈ f.turn.yielded, ∃ result,
      y.event = .completed result ∧ result.provenance.effectiveModel = lit "m") ∧
        c.requests = [(0, some (lit "a")), (1, some (lit "b"))])
    (isApart textOnlyShared.texts)
    [.start (correlatedRequest 0 "a") plainHost plainAnswers, .acquires 0, .tool 0,
      .message 0 (resultMessage "m"), .start (correlatedRequest 1 "b") plainHost plainAnswers,
      .taskEnds 0 (.returned { outcome := .complete }), .generator 0 .returned none,
      .generator 0 .next none, .generator 0 .returned none, .generator 0 .next none, .acquires 1,
      .tool 1]
    ⟨_, rfl, ⟨_, List.mem_singleton_self _, _,
      List.mem_cons_of_mem _ (List.mem_singleton_self _), _, rfl, rfl⟩, rfl⟩
  exact ⟨c, hc.reachable, hcompleted, hrequests, overlapping_isolated textOnlyShared hc⟩

/-- The first turn runs when the second begins; then a tool of the first is requested with
the correlation of the second. -/
theorem correlation_of_other : ∃ c, (sharedSystem textOnlyShared).Reachable c ∧
    ¬ Isolated textOnlyShared.texts c := by
  obtain ⟨c, hc, hrequests, t, ht, hnumber, hcorrelation⟩ := System.exists_reachable_of_run
    (S := sharedSystem textOnlyShared)
    (P := fun c => c.requests = [(0, some (lit "b"))] ∧ ∃ t ∈ c.turns, t.number = 0 ∧
      t.request.correlation = some (some (lit "a")))
    [.start (correlatedRequest 0 "a") plainHost plainAnswers, .acquires 0,
      .start (correlatedRequest 1 "b") plainHost plainAnswers, .tool 0]
    ⟨_, rfl, rfl, _, List.mem_cons_self, rfl, rfl⟩
  refine ⟨c, hc, fun hisolated => ?_⟩
  have hmine := hisolated.correlation (0, some (lit "b")) (by rw [hrequests]; simp) t ht hnumber
  rw [RuntimeTurnRequest.correlation, hmine] at hcorrelation
  revert hcorrelation
  decide

end SharedRuntime

end HermesClaude.Runtime
