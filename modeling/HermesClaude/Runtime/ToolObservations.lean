/-
# What a runtime says about tools

A runtime keeps the names of the tools that the SDK asked for during its last turn, at most
sixty-four of them, and its host may read them at any time.  They are taken down one by one
while the generator works through the projections of the turn, so between two suspensions
the list belongs to some of the events that the session has handed over, and to no other
turn: a beginning turn starts from an empty list, and an abandoned task fills a queue that
nobody reads.

Once the turn has reported its completion the list belongs to all of its events.
-/

import HermesClaude.Runtime.Fidelity

namespace HermesClaude.Runtime

open HermesClaude.Python HermesClaude.Bridge HermesClaude.Content HermesClaude.Session
  HermesClaude.Library

open ClaudeAgentSDKRuntime (isUnexpected maxTurnToolObservations)

variable {db : UnicodeDatabase}

/-- The name under which a tool request is observed, if it is one. -/
def observedName : RuntimeEvent → Option PyStr
  | .toolRequest _ name => safeToolObservationName (.str name)
  | .completed | .content _ | .usage _ | .compaction _ => none

/-- The names under which the tool requests among some events are observed, in order. -/
def observedNames (events : List RuntimeEvent) : List PyStr := events.filterMap observedName

/-- Names were taken down for the events that were dealt with, all of them allowed; the others
are ahead. -/
def Watching (t : Turn db) (seen : List PyStr) (ahead : List RuntimeEvent) : Prop :=
  ∃ done, done ++ ahead = t.produced ∧
    seen = (observedNames done).take maxTurnToolObservations ∧
      done.any (isUnexpected t.allowedToolNames) = false

/-- The turn has reported its completion. -/
def Turn.Completed (t : Turn db) : Prop := ∃ y ∈ t.yielded, ∃ result, y.event = .completed result

/-- How far the names are taken down, by where the turn is suspended. -/
def Watched (seen : List PyStr) (t : Turn db) : Prop :=
  match t.pc with
  | .receiving | .cancelling .pump => Watching t seen t.queued
  | .yielding rest => Watching t seen (rest ++ t.queued) ∧
      rest.any (isUnexpected t.allowedToolNames) = false
  | .awaitingTask | .yieldedState _ => Watching t seen [] ∧ t.task ≠ some .running
  | .cancelling (.native _) | .cancelling .cancelledHandler | .cancelling .errorHandler
    | .awaitingNativeTask _ => ∃ ahead, Watching t seen ahead
  | .yieldedTerminal => (∃ ahead, Watching t seen ahead) ∧
      (t.Completed → Watching t seen [] ∧ t.task ≠ some .running)

/-- The invariant of a turn in progress: only its last event can be its completion. -/
structure Tallied (seen : List PyStr) (t : Turn db) : Prop where
  watched : Watched seen t
  unfinished : t.pc ≠ .yieldedTerminal → ¬ t.Completed

/-- What is known of the names when a turn is over. -/
structure Told (seen : List PyStr) (t : Turn db) : Prop where
  partly : ∃ ahead, Watching t seen ahead
  wholly : t.Completed → Watching t seen []

variable {t : Turn db} {seen : List PyStr} {ahead : List RuntimeEvent}

/-! ## Taking names down -/

/-- A name is taken down unless there are enough. -/
theorem observations_observe {r : ClaudeAgentSDKRuntime db} {names : List PyStr}
    (h : r.lastTurnToolObservations = names.take maxTurnToolObservations) (name : PyStr) :
    (r.observe name).lastTurnToolObservations =
      (names ++ (safeToolObservationName (.str name)).toList).take maxTurnToolObservations := by
  unfold ClaudeAgentSDKRuntime.observe
  cases safeToolObservationName (.str name) with
  | none => simp [h]
  | some observed =>
    dsimp only
    rw [Option.toList_some]
    have hlength : (names.take maxTurnToolObservations).length =
        min maxTurnToolObservations names.length :=
      List.length_take
    split_ifs with hroom
    · rw [h, hlength] at hroom
      have hshort : names.length < maxTurnToolObservations := by omega
      show r.lastTurnToolObservations ++ [observed] = _
      rw [h, List.take_of_length_le hshort.le, List.take_of_length_le]
      rw [List.length_append, List.length_singleton]
      omega
    · rw [h, hlength] at hroom
      have hlong : maxTurnToolObservations ≤ names.length := by omega
      rw [h, List.take_append_of_le_length hlong]

theorem observedNames_append (first second : List RuntimeEvent) :
    observedNames (first ++ second) = observedNames first ++ observedNames second :=
  List.filterMap_append

theorem observedNames_singleton (event : RuntimeEvent) :
    observedNames [event] = (observedName event).toList := by
  cases h : observedName event <;> simp [observedNames, h]

/-- An event is dealt with. -/
theorem Watching.deal {event : RuntimeEvent} {seen' : List PyStr}
    (h : Watching t seen (event :: ahead)) (hallowed : isUnexpected t.allowedToolNames event = false)
    (hseen : ∀ names : List PyStr, seen = names.take maxTurnToolObservations →
      seen' = (names ++ (observedName event).toList).take maxTurnToolObservations) :
    Watching t seen' ahead := by
  obtain ⟨done, hdone, hnames, hexpected⟩ := h
  refine ⟨done ++ [event], ?_, ?_, ?_⟩
  · rw [List.append_assoc]
    exact hdone
  · rw [observedNames_append, observedNames_singleton]
    exact hseen _ hnames
  · rw [List.any_append, hexpected]
    simpa using hallowed

/-- Any other event than a tool request leaves the names as they are. -/
theorem Watching.skip {event : RuntimeEvent} (h : Watching t seen (event :: ahead))
    (hallowed : isUnexpected t.allowedToolNames event = false) (hname : observedName event = none) :
    Watching t seen ahead := by
  refine h.deal hallowed fun names hnames => ?_
  rw [hname, Option.toList_none, List.append_nil]
  exact hnames

/-! ## Where a turn is suspended -/

theorem Tallied.told (h : Tallied seen t) : Told seen t := by
  have hwatched := h.watched
  have hopen := h.unfinished
  unfold Watched at hwatched
  cases hpc : t.pc with
  | cancelling site =>
    rw [hpc] at hwatched hopen
    have hunfinished : ¬ t.Completed := hopen (by rintro ⟨⟩)
    refine ⟨?_, fun hdone => absurd hdone hunfinished⟩
    cases site with
    | pump => exact ⟨_, hwatched⟩
    | native | cancelledHandler | errorHandler => exact hwatched
  | receiving =>
    rw [hpc] at hwatched hopen
    exact ⟨⟨_, hwatched⟩, fun hdone => absurd hdone (hopen (by rintro ⟨⟩))⟩
  | yielding rest =>
    rw [hpc] at hwatched hopen
    exact ⟨⟨_, hwatched.1⟩, fun hdone => absurd hdone (hopen (by rintro ⟨⟩))⟩
  | awaitingTask | yieldedState =>
    rw [hpc] at hwatched
    exact ⟨⟨_, hwatched.1⟩, fun _ => hwatched.1⟩
  | awaitingNativeTask phase =>
    rw [hpc] at hwatched hopen
    exact ⟨hwatched, fun hdone => absurd hdone (hopen (by rintro ⟨⟩))⟩
  | yieldedTerminal =>
    rw [hpc] at hwatched
    exact ⟨hwatched.1, fun hdone => (hwatched.2 hdone).1⟩

theorem Tallied.receiving (h : Tallied seen t) (hpc : t.pc = .receiving) :
    Watching t seen t.queued := by
  have hwatched := h.watched
  unfold Watched at hwatched
  rw [hpc] at hwatched
  exact hwatched

theorem Tallied.yielding (h : Tallied seen t) {rest : List RuntimeEvent}
    (hpc : t.pc = .yielding rest) :
    Watching t seen (rest ++ t.queued) ∧ rest.any (isUnexpected t.allowedToolNames) = false := by
  have hwatched := h.watched
  unfold Watched at hwatched
  rw [hpc] at hwatched
  exact hwatched

theorem Tallied.drained (h : Tallied seen t)
    (hpc : t.pc = .awaitingTask ∨ ∃ result, t.pc = .yieldedState result) :
    Watching t seen [] ∧ t.task ≠ some .running := by
  have hwatched := h.watched
  unfold Watched at hwatched
  rcases hpc with hpc | ⟨result, hpc⟩
  all_goals
    rw [hpc] at hwatched
    exact hwatched

/-- A call of `session.cancel()` in the pump comes back to the pump. -/
theorem Tallied.cancelling (h : Tallied seen t) {site : CancelSite}
    (hpc : t.pc = .cancelling site) : site = .pump → Watching t seen t.queued := by
  rintro rfl
  have hwatched := h.watched
  unfold Watched at hwatched
  rw [hpc] at hwatched
  exact hwatched

/-- The session hands over another projection. -/
theorem Tallied.produce (h : Tallied seen t) (htask : t.task = some .running)
    (projection : ProjectionResult) : Tallied seen { t with
      queue := t.queue ++ [projection]
      produced := t.produced ++ projection.events } := by
  have hmore : ∀ ahead, Watching t seen ahead → Watching { t with
      queue := t.queue ++ [projection]
      produced := t.produced ++ projection.events } seen (ahead ++ projection.events) := by
    rintro ahead ⟨done, hdone, hnames, hexpected⟩
    refine ⟨done, ?_, hnames, hexpected⟩
    show done ++ (ahead ++ projection.events) = t.produced ++ projection.events
    rw [← hdone, List.append_assoc]
  have hqueued : (t.queue ++ [projection]).flatMap (·.events) = t.queued ++ projection.events := by
    rw [List.flatMap_append, List.flatMap_singleton]
    rfl
  have hpartly : (∃ ahead, Watching t seen ahead) → ∃ ahead, Watching { t with
      queue := t.queue ++ [projection]
      produced := t.produced ++ projection.events } seen ahead :=
    fun ⟨ahead, hahead⟩ => ⟨_, hmore ahead hahead⟩
  refine ⟨?_, h.unfinished⟩
  have hwatched := h.watched
  unfold Watched at hwatched ⊢
  unfold Turn.queued at hqueued ⊢
  dsimp only
  rw [hqueued]
  split at hwatched
  · exact hmore _ hwatched
  · exact hmore _ hwatched
  · refine ⟨?_, hwatched.2⟩
    rw [← List.append_assoc]
    exact hmore _ hwatched.1
  · exact absurd htask hwatched.2
  · exact absurd htask hwatched.2
  · exact hpartly hwatched
  · exact hpartly hwatched
  · exact hpartly hwatched
  · exact hpartly hwatched
  · exact ⟨hpartly hwatched.1, fun hdone => absurd htask (hwatched.2 hdone).2⟩

/-- The task of the turn ends. -/
theorem Tallied.taskEnds (h : Tallied seen t) (ending : Ending) :
    Tallied seen { t with task := some (.ended ending) } := by
  refine ⟨?_, h.unfinished⟩
  have hwatched := h.watched
  have hover : some (SessionTask.ended ending) ≠ some .running := by rintro ⟨⟩
  unfold Watched at hwatched ⊢
  dsimp only
  split at hwatched
  · exact hwatched
  · exact hwatched
  · exact hwatched
  · exact ⟨hwatched.1, hover⟩
  · exact ⟨hwatched.1, hover⟩
  · exact hwatched
  · exact hwatched
  · exact hwatched
  · exact hwatched
  · exact ⟨hwatched.1, fun hdone => ⟨(hwatched.2 hdone).1, hover⟩⟩

namespace ClaudeAgentSDKRuntime

/-- The names belong to the turn in progress, or to the last one. -/
structure Tracks (r : ClaudeAgentSDKRuntime db) : Prop where
  turn : ∀ t, r.turn = some t → Tallied r.lastTurnToolObservations t
  last : r.turn = none → ∀ f ∈ r.finished.getLast?, Told r.lastTurnToolObservations f.turn

variable {r s : ClaudeAgentSDKRuntime db}

/-! ## The segments of a generator -/

theorem suspend_tracks (h : Tallied r.lastTurnToolObservations t) : Tracks (r.suspend t) := by
  refine ⟨fun t' ht' => ?_, by rintro ⟨⟩⟩
  cases ht'
  exact h

theorem finish_tracks (h : Told r.lastTurnToolObservations t) (ending : GeneratorEnding) :
    Tracks (r.finish t ending) := by
  refine ⟨by rintro t' ⟨⟩, fun _ f hf => ?_⟩
  have hlast : (r.finished ++ [FinishedTurn.mk t ending (leavesTask t)]).getLast? = some f := hf
  rw [List.getLast?_concat, Option.some.injEq] at hlast
  subst hlast
  exact h

/-- A failure or a cancellation is yielded. -/
theorem fail_tracks (h : ∃ ahead, Watching t r.lastTurnToolObservations ahead)
    (hopen : ¬ t.Completed) {event : TurnEvent} (hevent : ∀ result, event ≠ .completed result)
    (inSetup terminal : Bool) :
    Tracks (r.suspend { t.emitLast event inSetup with terminal := terminal }) := by
  have hstill : ¬ Turn.Completed { t.emitLast event inSetup with terminal := terminal } := by
    rintro ⟨y, hy, result, hresult⟩
    rcases List.mem_append.mp hy with hy | hy
    · exact hopen ⟨y, hy, result, hresult⟩
    · rw [List.mem_singleton.mp hy] at hresult
      exact hevent result hresult
  exact suspend_tracks ⟨⟨h, fun hdone => absurd hdone hstill⟩, fun _ => hstill⟩

theorem afterCancel_tracks {site : CancelSite}
    (hpump : site = .pump → Watching t r.lastTurnToolObservations t.queued)
    (h : ∃ ahead, Watching t r.lastTurnToolObservations ahead) (hopen : ¬ t.Completed) :
    Tracks (r.afterCancel t site) := by
  cases site with
  | pump => exact suspend_tracks ⟨hpump rfl, fun _ => hopen⟩
  | native phase => exact suspend_tracks ⟨h, fun _ => hopen⟩
  | cancelledHandler => exact finish_tracks ⟨h, fun hdone => absurd hdone hopen⟩ .raised
  | errorHandler =>
    rw [afterCancel]
    split_ifs
    · exact finish_tracks ⟨h, fun hdone => absurd hdone hopen⟩ .over
    · exact fail_tracks h hopen (by rintro result ⟨⟩) true t.terminal

theorem cancelSession_tracks {site : CancelSite}
    (hpump : site = .pump → Watching t r.lastTurnToolObservations t.queued)
    (h : ∃ ahead, Watching t r.lastTurnToolObservations ahead) (hopen : ¬ t.Completed) :
    Tracks (r.cancelSession t site) := by
  unfold cancelSession
  split
  next => exact afterCancel_tracks hpump h hopen
  next session _ =>
    split_ifs
    · exact afterCancel_tracks (t := { t with cancelReturned := true }) hpump h hopen
    · refine ⟨fun t' ht' => ?_, by rintro ⟨⟩⟩
      cases ht'
      refine ⟨?_, fun _ => hopen⟩
      cases site with
      | pump => exact hpump rfl
      | native | cancelledHandler | errorHandler => exact h

theorem handler_tracks {site : CancelSite} (hsite : site ≠ .pump)
    (h : ∃ ahead, Watching t r.lastTurnToolObservations ahead) (hopen : ¬ t.Completed) :
    Tracks (r.cancelSession t site) :=
  cancelSession_tracks (fun hpump => absurd hpump hsite) h hopen

theorem pumpHead_tracks (h : Watching t r.lastTurnToolObservations t.queued)
    (hopen : ¬ t.Completed) (poll : Option Poll) : Tracks (r.pumpHead t poll) := by
  have hreceiving : Tracks (r.suspend { t with pc := .receiving }) :=
    suspend_tracks ⟨h, fun _ => hopen⟩
  have hcancel : ∀ unavailable, Tracks (r.cancelSession
      { t with cancelSent := true, cancellationUnavailable := unavailable } .pump) :=
    fun unavailable => cancelSession_tracks
      (t := { t with cancelSent := true, cancellationUnavailable := unavailable })
      (fun _ => h) ⟨_, h⟩ hopen
  unfold pumpHead
  split_ifs with hover
  · obtain ⟨htask, hqueue⟩ := Bool.and_eq_true_iff.mp hover
    have hempty : t.queued = [] := by
      rw [Turn.queued, List.isEmpty_iff.mp hqueue]
      rfl
    rw [hempty] at h
    refine suspend_tracks ⟨⟨h, fun hrunning => ?_⟩, fun _ => hopen⟩
    have hstill : t.task = some .running := hrunning
    rw [hstill] at htask
    cases htask
  · exact hreceiving
  · split
    · exact hreceiving
    · exact handler_tracks (by rintro ⟨⟩) ⟨_, h⟩ hopen
    · exact finish_tracks ⟨⟨_, h⟩, fun hdone => absurd hdone hopen⟩ .raised
    · exact hreceiving
    · exact hcancel t.cancellationUnavailable
    · exact hcancel true
    · exact hcancel true

/-- Passing events on takes down the names of the tool requests among them. -/
theorem passOn_tracks {events : List RuntimeEvent}
    (h : Watching t r.lastTurnToolObservations (events ++ t.queued))
    (hallowed : events.any (isUnexpected t.allowedToolNames) = false) (hopen : ¬ t.Completed)
    (poll : Option Poll) : Tracks (r.passOn t poll events) := by
  induction events generalizing r with
  | nil => exact pumpHead_tracks h hopen poll
  | cons event rest ih =>
    rw [List.any_cons, Bool.or_eq_false_iff] at hallowed
    obtain ⟨hevent, hrest⟩ := hallowed
    have hyield : ∀ (outward : TurnEvent) (visible : Bool) (hname : observedName event = none)
        (hother : ∀ result, outward ≠ .completed result), Tracks (r.suspend
          { t.emit outward true with pc := .yielding rest, visible := visible }) := by
      intro outward visible hname hother
      refine suspend_tracks ⟨⟨h.skip hevent hname, hrest⟩, fun _ => ?_⟩
      rintro ⟨y, hy, result, hresult⟩
      rcases List.mem_append.mp hy with hy | hy
      · exact hopen ⟨y, hy, result, hresult⟩
      · rw [List.mem_singleton.mp hy] at hresult
        exact hother result hresult
    cases event with
    | completed => exact ih (h.skip hevent rfl) hrest
    | toolRequest requestId name =>
      exact ih (h.deal hevent fun names hnames => observations_observe hnames name) hrest
    | usage receipt => exact hyield _ t.visible rfl (by rintro result ⟨⟩)
    | content text => exact hyield _ true rfl (by rintro result ⟨⟩)
    | compaction phase => exact hyield _ t.visible rfl (by rintro result ⟨⟩)

theorem receive_tracks {projection : ProjectionResult}
    (h : Watching t r.lastTurnToolObservations (projection.events ++ t.queued))
    (hopen : ¬ t.Completed) (poll : Option Poll) : Tracks (r.receive t projection poll) := by
  unfold receive
  dsimp only
  split_ifs with hunexpected
  · exact handler_tracks (t := { t with provenance := provenanceAfter t.provenance projection })
      (by rintro ⟨⟩) ⟨_, h⟩ hopen
  · exact passOn_tracks (t := { t with provenance := provenanceAfter t.provenance projection }) h
      (by simpa using hunexpected) hopen poll

theorem complete_tracks (h : Watching t r.lastTurnToolObservations []) (htask : t.task ≠ some .running)
    (hopen : ¬ t.Completed) (result : SessionTurnResult) : Tracks (r.complete t result) := by
  unfold complete
  dsimp only
  split
  · exact handler_tracks (t := { t with terminal := true }) (by rintro ⟨⟩) ⟨_, h⟩ hopen
  · refine suspend_tracks ⟨⟨⟨_, h⟩, fun _ => ⟨h, htask⟩⟩, fun hpc => absurd rfl hpc⟩

theorem settle_tracks (h : Watching t r.lastTurnToolObservations []) (htask : t.task ≠ some .running)
    (hopen : ¬ t.Completed) (result : SessionTurnResult) : Tracks (r.settle t result) := by
  unfold settle
  split_ifs
  · exact fail_tracks ⟨_, h⟩ hopen (by rintro result ⟨⟩) true true
  · split
    · split
      next id _ =>
        refine suspend_tracks ⟨⟨h, htask⟩, fun _ => ?_⟩
        rintro ⟨y, hy, completion, hcompletion⟩
        rcases List.mem_append.mp hy with hy | hy
        · exact hopen ⟨y, hy, completion, hcompletion⟩
        · rw [List.mem_singleton.mp hy] at hcompletion
          cases hcompletion
      next => exact complete_tracks h htask hopen result
    all_goals exact fail_tracks ⟨_, h⟩ hopen (by rintro result ⟨⟩) true true

/-- A generator that goes on keeps the names accounted for. -/
theorem resume_tracks {signal : Signal} {poll : Option Poll}
    (h : Tallied r.lastTurnToolObservations t) (hresume : r.resume t signal poll = some s) :
    Tracks s := by
  have htold := h.told
  have hopen : ∀ {pc : GeneratorPc}, t.pc = pc → pc ≠ .yieldedTerminal → ¬ t.Completed :=
    fun hpc hother => h.unfinished (hpc ▸ hother)
  cases resumed_of_resume hresume with
  | @cancelReturned site hpc =>
    exact afterCancel_tracks (r := r.closeSession) (t := { t with cancelReturned := true })
      (h.cancelling hpc) htold.partly (hopen hpc (by rintro ⟨⟩))
  | handlerCancelled => exact finish_tracks htold .raised
  | cancelCancelled hpc | receiveCancelled hpc =>
    exact handler_tracks (by rintro ⟨⟩) htold.partly (hopen hpc (by rintro ⟨⟩))
  | @received projection rest hpc hqueue =>
    have hqueued : t.queued = projection.events ++ rest.flatMap (·.events) := by
      rw [Turn.queued, hqueue, List.flatMap_cons]
    have hahead := h.receiving hpc
    rw [hqueued] at hahead
    exact receive_tracks (t := { t with queue := rest }) hahead (hopen hpc (by rintro ⟨⟩)) poll
  | timedOut hpc => exact pumpHead_tracks (h.receiving hpc) (hopen hpc (by rintro ⟨⟩)) poll
  | passedOn hpc =>
    obtain ⟨hahead, hallowed⟩ := h.yielding hpc
    exact passOn_tracks hahead hallowed (hopen hpc (by rintro ⟨⟩)) poll
  | settled hpc =>
    obtain ⟨hall, htask⟩ := h.drained (.inl hpc)
    exact settle_tracks hall htask (hopen hpc (by rintro ⟨⟩)) _
  | nativeFailed hpc =>
    exact fail_tracks htold.partly (hopen hpc (by rintro ⟨⟩)) (by rintro result ⟨⟩) true true
  | taskCancelled hpc | taskRaised hpc =>
    have hunfinished : ¬ t.Completed := by
      rcases hpc with hpc | ⟨phase, hpc⟩
      · exact hopen hpc (by rintro ⟨⟩)
      · exact hopen hpc (by rintro ⟨⟩)
    exact handler_tracks (by rintro ⟨⟩) htold.partly hunfinished
  | stateTaken hpc =>
    obtain ⟨hall, htask⟩ := h.drained (.inr ⟨_, hpc⟩)
    exact complete_tracks hall htask (hopen hpc (by rintro ⟨⟩)) _
  | exhausted | closed => exact finish_tracks htold .over

/-! ## The beginning of a turn -/

/-- A turn without a task has produced nothing, and no name is taken down. -/
structure Unwatched (r : ClaudeAgentSDKRuntime db) (t : Turn db) : Prop where
  seen : r.lastTurnToolObservations = []
  produced : t.produced = []
  queue : t.queue = []
  yielded : t.yielded = []

theorem Unwatched.partly (h : Unwatched r t) :
    ∃ ahead, Watching t r.lastTurnToolObservations ahead :=
  ⟨[], [], h.produced.symm, h.seen, rfl⟩

theorem Unwatched.unfinished (h : Unwatched r t) : ¬ t.Completed := by
  rintro ⟨y, hy, -⟩
  rw [h.yielded] at hy
  cases hy

theorem bindTurn_tracks (h : Unwatched r t) : Tracks (r.bindTurn t) := by
  unfold bindTurn
  dsimp only
  split
  · exact handler_tracks (t := { t with bridge := .absent }) (by rintro ⟨⟩) h.partly h.unfinished
  · split
    · exact handler_tracks (t := { t with bridge := .bound }) (by rintro ⟨⟩) h.partly h.unfinished
    · refine suspend_tracks ⟨⟨[], ?_, h.seen, rfl⟩, fun _ => h.unfinished⟩
      show t.queue.flatMap (·.events) = t.produced
      rw [h.queue, h.produced]
      rfl

theorem setup_tracks (h : Unwatched r t) (host : RuntimeHost) (answers : StartAnswers) :
    Tracks (r.setup t host answers) := by
  have hkept : ∀ {kept : ClaudeAgentSDKRuntime db},
      kept.lastTurnToolObservations = r.lastTurnToolObservations → Unwatched kept t :=
    fun hsame => ⟨hsame.trans h.seen, h.produced, h.queue, h.yielded⟩
  unfold setup
  split
  next =>
    have hfirst : (r.firstSetup t.request host answers).1.lastTurnToolObservations =
        r.lastTurnToolObservations := by
      unfold firstSetup
      dsimp only
      split
      · rfl
      · split_ifs <;> rfl
    split
    next kept bridge hsetup =>
      rw [hsetup] at hfirst
      exact handler_tracks (t := { t with bridge := bridge }) (by rintro ⟨⟩) (hkept hfirst).partly
        h.unfinished
    next kept hsetup =>
      rw [hsetup] at hfirst
      exact bindTurn_tracks (hkept hfirst)
  next session _ =>
    split_ifs
    · exact fail_tracks h.partly h.unfinished (by rintro result ⟨⟩) true t.terminal
    · exact bindTurn_tracks (hkept rfl)
    · exact bindTurn_tracks h

/-- **A turn begins with no names.** -/
theorem startTurn_tracks (context : RuntimeContext db) (request : RuntimeTurnRequest db)
    (host : RuntimeHost) (answers : StartAnswers) :
    Tracks (r.startTurn context request host answers) := by
  obtain ⟨authorized, result, hauthorized, hbegun⟩ :=
    begun_of_startTurn context r request host answers
  obtain ⟨log, rfl⟩ := hauthorized.eq
  generalize r.startTurn context request host answers = s at hbegun ⊢
  generalize hs : { r.prepare with preflightRequest := none, authorizations := log } = s' at hbegun
  have hnew : Unwatched s' (r.newTurn request) := by
    rw [← hs]
    exact ⟨rfl, rfl, rfl, rfl⟩
  cases hbegun with
  | refused failure => exact fail_tracks hnew.partly hnew.unfinished (by rintro result ⟨⟩) false false
  | cancelled => exact fail_tracks hnew.partly hnew.unfinished (by rintro result ⟨⟩) false false
  | escaped => exact finish_tracks ⟨hnew.partly, fun hdone => absurd hdone hnew.unfinished⟩ .raised
  | entered =>
    have hentered : Unwatched (s'.enter (r.newTurn request)) (r.newTurn request) := { hnew with }
    exact setup_tracks hentered host answers

/-! ## Runs -/

/-- What matters about the names is the same. -/
theorem Tracks.of_same (h : Tracks r)
    (hseen : s.lastTurnToolObservations = r.lastTurnToolObservations) (hturn : s.turn = r.turn)
    (hfinished : s.finished = r.finished) : Tracks s := by
  refine ⟨fun t ht => ?_, fun hnone f hf => ?_⟩
  · rw [hseen]
    exact h.turn t (hturn ▸ ht)
  · rw [hseen]
    exact h.last (hturn ▸ hnone) f (hfinished ▸ hf)

theorem observations_report (ran : Option RuntimeSession) (ending : Ending) :
    (r.report ran ending).lastTurnToolObservations = r.lastTurnToolObservations := by
  unfold report
  repeat' split
  all_goals rfl

/-- **Step.** -/
theorem Tracks.next (h : Tracks r) {context : RuntimeContext db} {label : Label db}
    (hnext : r.next context label = some s) : Tracks s := by
  cases label with
  | preflight request answers =>
    cases hnext
    exact h.of_same rfl rfl rfl
  | start request host answers =>
    simp only [ClaudeAgentSDKRuntime.next] at hnext
    split at hnext
    · cases hnext
    · cases hnext
      exact startTurn_tracks context request host answers
  | generator signal poll =>
    obtain ⟨t, hturn, hresume⟩ := Option.bind_eq_some_iff.mp hnext
    exact resume_tracks (h.turn t hturn) hresume
  | produce projection =>
    simp only [ClaudeAgentSDKRuntime.next] at hnext
    split at hnext
    next t hturn =>
      split at hnext
      next htask =>
        cases hnext
        exact suspend_tracks ((h.turn t hturn).produce htask projection)
      next => cases hnext
    next => cases hnext
  | taskEnds ending =>
    simp only [ClaudeAgentSDKRuntime.next] at hnext
    split at hnext
    next t hturn =>
      split at hnext
      next htask =>
        cases hnext
        refine suspend_tracks ?_
        rw [observations_report]
        exact (h.turn t hturn).taskEnds ending
      next => cases hnext
    next => cases hnext
  | sessionCloses =>
    obtain ⟨-, ⟨⟩⟩ := Option.ite_none_right_eq_some.mp hnext
    exact h.of_same rfl rfl rfl
  | tool turn =>
    obtain ⟨-, hexecutes⟩ := Option.ite_none_right_eq_some.mp hnext
    obtain ⟨bridge, -, rfl⟩ := Option.map_eq_some_iff.mp hexecutes
    refine ⟨fun t ht => ?_, fun hnone f hf => ?_⟩
    · obtain ⟨before, hbefore, rfl⟩ := Option.map_eq_some_iff.mp ht
      have hturn := h.turn before hbefore
      exact ⟨hturn.watched, hturn.unfinished⟩
    · exact h.last (Option.map_eq_none_iff.mp hnone) f hf
  | orphanEnds turn ending =>
    obtain ⟨-, ⟨⟩⟩ := Option.ite_none_right_eq_some.mp hnext
    obtain ⟨-, hhistory, -, hturn⟩ := report_same r (r.ranOn turn) ending
    exact h.of_same (observations_report _ _) hturn hhistory.finished
  | close =>
    simp only [ClaudeAgentSDKRuntime.next] at hnext
    split_ifs at hnext
    · cases hnext
      exact h
    · cases hnext
      exact h.of_same rfl rfl rfl

theorem tracks_of_reachable {context : RuntimeContext db}
    (hr : (runtimeSystem context).Reachable r) : Tracks r := by
  refine System.Reachable.invariant (S := runtimeSystem context) ?_ ?_ hr
  · exact ⟨fun t ht => (by cases ht), fun _ f hf => (by cases hf)⟩
  · intro r s label _ h hnext
    exact h.next hnext

/-- The turn that the names are about: the one in progress, or the last one. -/
def observedTurn (r : ClaudeAgentSDKRuntime db) : Option (Turn db) :=
  match r.turn with
  | some t => some t
  | none => r.finished.getLast?.map (·.turn)

end ClaudeAgentSDKRuntime

end HermesClaude.Runtime
