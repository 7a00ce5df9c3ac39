/-
# Turns that overlap

Nothing keeps a host from starting a turn while the generator of an earlier one is still
suspended.  `SDKSession.run_turn` takes a lock, so the tasks of the two turns run one
after the other; but `run_turn` of the runtime has set up the second turn by then, on
the same bridge and the same projector.

Here any number of generators is in progress.  A step puts one of them in focus and is
otherwise the step of a runtime that runs one turn at a time.  Projections come from
the projector of the session, which all turns on that session share.

The history fields say which messages were projected and which tools executed for which
turn.  No step reads them.
-/

import HermesClaude.Content.Provenance
import HermesClaude.Runtime.Invariants
import Mathlib.Logic.Function.Basic

namespace HermesClaude.Runtime

open HermesClaude.Python HermesClaude.Bridge HermesClaude.Content HermesClaude.Session
  HermesClaude.Library

/-! ## The projector -/

/-- `ClaudeSdkEventProjector`, as `run_turn` builds it. -/
structure ClaudeSdkEventProjector where
  selectedModel : Option PyStr := none
  correlationId : PyValue := .none
  session : SessionEvidence := {}
  turn : TurnEvidence := {}

namespace ClaudeSdkEventProjector

section

variable (texts : TextLibrary)

/-- `new_projector()`. -/
def create (model : PyStr) (correlationId : PyValue) : ClaudeSdkEventProjector where
  selectedModel := safeModelIdentifier texts (.str model)
  correlationId

/-- `begin_turn`. -/
def beginTurn (projector : ClaudeSdkEventProjector) (correlationId : PyValue) :
    ClaudeSdkEventProjector :=
  { projector with correlationId, turn := {} }

/-- Whether the message carries evidence about the model of its turn. -/
def isTurnEvidence (message : PyValue) : Bool :=
  message.typeName = "AssistantMessage" || message.typeName = "ResultMessage"

/-- The turn's evidence after a message. -/
def turnAfter (turn : TurnEvidence) (message : PyValue) : TurnEvidence :=
  if isTurnEvidence message then turn.observe texts message else turn

/-- The session's evidence after a message. -/
def sessionAfter (session : SessionEvidence) (message : PyValue) : SessionEvidence :=
  if message.typeName = "SystemMessage" then session.observe texts message else session

/-- What `project` observes before it builds the projection. -/
def observe (projector : ClaudeSdkEventProjector) (message : PyValue) : ClaudeSdkEventProjector :=
  { projector with
    session := sessionAfter texts projector.session message
    turn := turnAfter texts projector.turn message }

/-- The projection of a message that was observed, or `none` where `project` raises. -/
def projection (projector : ClaudeSdkEventProjector) (message : PyValue) : Option ProjectionResult :=
  let model := modelProvenance texts projector.selectedModel projector.session projector.turn
  if message.typeName = "AssistantMessage" then
    (assistantEvents message).map fun events => {
      events
      effectiveModel := model.effective
      canonicalModel := model.canonical
      modelResolution := model.resolution }
  else if message.typeName = "ResultMessage" then
    some {
      events := resultEvents texts projector.correlationId message
      isResult := true
      effectiveModel := model.effective
      canonicalModel := model.canonical
      modelResolution := model.resolution }
  else some {}

end

end ClaudeSdkEventProjector

/-! ## The state -/

/-- What overlapping turns are run with. -/
structure SharedContext (db : UnicodeDatabase) where
  runtime : RuntimeContext db
  texts : TextLibrary

/-- A runtime with any number of turns in progress. -/
structure SharedRuntime (db : UnicodeDatabase) where
  /-- What the turns share, with no turn in focus. -/
  runtime : ClaudeAgentSDKRuntime db := {}
  /-- The turns whose generator is suspended, in the order in which they began. -/
  inProgress : List (Turn db) := []
  /-- The turns whose task has not ended. -/
  tasks : List Nat := []
  /-- The turn that holds the turn lock of a session, sessions by their number. -/
  holder : Nat → Option Nat := fun _ => none
  /-- The projector of a session. -/
  projector : Nat → ClaudeSdkEventProjector := fun _ => {}
  /-- The messages that were projected, each with its turn. -/
  messages : List (Nat × PyValue) := []
  /-- The turns for which host tools were executed, each with the correlation of the
  request id. -/
  requests : List (Nat × Option PyStr) := []

/-- One step of a runtime whose turns overlap. -/
inductive SharedLabel (db : UnicodeDatabase)
  | preflight (request : RuntimeTurnRequest db) (answers : PreflightAnswers)
  | start (request : RuntimeTurnRequest db) (host : RuntimeHost) (answers : StartAnswers)
  | generator (turn : Nat) (signal : Signal) (poll : Option Poll)
  | /-- The task of a turn takes the turn lock of its session. -/
    acquires (turn : Nat)
  | /-- The session projects an SDK message of a turn. -/
    message (turn : Nat) (message : PyValue)
  | /-- A compaction callback of a turn. -/
    compaction (turn : Nat) (phase : Content.CompactionPhase)
  | taskEnds (turn : Nat) (ending : Ending)
  | /-- The SDK has a host tool executed for a turn. -/
    tool (turn : Nat)
  | sessionCloses
  | close

namespace SharedRuntime

variable {db : UnicodeDatabase}

/-- All turns that have begun: the ones that are over, and the ones in progress. -/
def turns (c : SharedRuntime db) : List (Turn db) :=
  c.runtime.finished.map (·.turn) ++ c.inProgress

/-- The number of the session that the task of a turn runs on. -/
def sessionOf (c : SharedRuntime db) (turn : Nat) : Option Nat :=
  ((c.turns.find? fun t => t.number = turn).bind (·.boundTo)).map (·.number)

/-- The messages of a turn. -/
def messagesOf (c : SharedRuntime db) (turn : Nat) : List PyValue :=
  (c.messages.filter (·.1 = turn)).map Prod.snd

/-- The turn in progress with the given number. -/
def focus (c : SharedRuntime db) (turn : Nat) : Option (Turn db) :=
  c.inProgress.find? fun t => t.number = turn

/-- Whether the task of a turn runs and holds the lock of its session. -/
def holds (c : SharedRuntime db) (turn : Nat) : Bool :=
  turn ∈ c.tasks && (c.sessionOf turn).any fun session => c.holder session = some turn

/-! ## Steps -/

/-- The runtime with no turn in focus. -/
def idle (c : SharedRuntime db) : ClaudeAgentSDKRuntime db := { c.runtime with turn := none }

/-- A turn that was in focus is put back. -/
def store (c : SharedRuntime db) (turn : Nat) (r : ClaudeAgentSDKRuntime db) : SharedRuntime db :=
  { c with
    runtime := { r with turn := none }
    inProgress := c.inProgress.flatMap fun t => if t.number = turn then r.turn.toList else [t] }

/-- A step of one turn. -/
def advance (context : SharedContext db) (c : SharedRuntime db) (turn : Nat) (label : Label db) :
    Option (SharedRuntime db) :=
  (c.focus turn).bind fun t =>
    (ClaudeAgentSDKRuntime.next context.runtime { c.runtime with turn := some t } label).map
      (c.store turn)

/-- A step of no turn. -/
def outside (context : SharedContext db) (c : SharedRuntime db) (label : Label db) :
    Option (SharedRuntime db) :=
  (c.idle.next context.runtime label).map fun r => { c with runtime := { r with turn := none } }

/-- The projectors when a turn has begun: a session that was created gets one, and
`begin_turn` is called on the one of the turn's session. -/
def projectorsAfter (context : SharedContext db) (c : SharedRuntime db)
    (request : RuntimeTurnRequest db) (r : ClaudeAgentSDKRuntime db) :
    Nat → ClaudeSdkEventProjector :=
  let created := match r.session with
    | some session =>
      if session.number = c.runtime.turns + 1 then
        Function.update c.projector session.number
          (.create context.texts request.model request.correlationId)
      else c.projector
    | none => c.projector
  match r.turn.bind (·.boundTo) with
  | some session =>
    Function.update created session.number
      ((created session.number).beginTurn request.correlationId)
  | none => created

/-- A turn begins. -/
def begin (context : SharedContext db) (c : SharedRuntime db) (request : RuntimeTurnRequest db)
    (host : RuntimeHost) (answers : StartAnswers) : SharedRuntime db :=
  let r := c.idle.startTurn context.runtime request host answers
  { c with
    runtime := { r with turn := none }
    inProgress := c.inProgress ++ r.turn.toList
    tasks := if (r.turn.bind (·.task)).isSome then c.tasks ++ [c.runtime.turns] else c.tasks
    projector := c.projectorsAfter context request r }

/-- A projection is put into the queue of a turn, if its generator still has one. -/
def deliver (context : SharedContext db) (c : SharedRuntime db) (turn : Nat)
    (projection : ProjectionResult) : Option (SharedRuntime db) :=
  if (c.focus turn).isSome then c.advance context turn (.produce projection) else some c

/-- The projector of a session observes a message. -/
def observe (context : SharedContext db) (c : SharedRuntime db) (turn session : Nat)
    (message : PyValue) : SharedRuntime db :=
  { c with
    projector := Function.update c.projector session
      ((c.projector session).observe context.texts message)
    messages := c.messages ++ [(turn, message)] }

/-- The effect of one step, or `none` where it is not enabled. -/
def next (context : SharedContext db) (c : SharedRuntime db) :
    SharedLabel db → Option (SharedRuntime db)
  | .preflight request answers => c.outside context (.preflight request answers)
  | .start request host answers => some (c.begin context request host answers)
  | .generator turn signal poll => c.advance context turn (.generator signal poll)
  | .acquires turn =>
    (c.sessionOf turn).bind fun session =>
      if turn ∈ c.tasks ∧ c.holder session = none then
        some { c with holder := Function.update c.holder session (some turn) }
      else none
  | .message turn message =>
    (c.sessionOf turn).bind fun session =>
      if c.holds turn then
        let observed := c.observe context turn session message
        match (observed.projector session).projection context.texts message with
        | some projection => observed.deliver context turn projection
        | none => some observed
      else none
  | .compaction turn phase =>
    if c.holds turn then c.deliver context turn { events := [.compaction phase] } else none
  | .taskEnds turn ending =>
    if turn ∈ c.tasks then
      let released := { c with
        tasks := c.tasks.filter (· ≠ turn)
        holder := fun session => (c.holder session).filter (· ≠ turn) }
      if (c.focus turn).isSome then released.advance context turn (.taskEnds ending)
      else if turn ∈ c.runtime.orphans then released.outside context (.orphanEnds turn ending)
      else some released
    else none
  | .tool turn =>
    if (c.sessionOf turn).isSome then
      c.runtime.bridge.bind fun bridge =>
        let requested := { c with requests := c.requests ++ [(turn, bridge.correlationId)] }
        if (c.focus turn).isSome then requested.advance context turn (.tool turn)
        else requested.outside context (.tool turn)
    else none
  | .sessionCloses => c.outside context .sessionCloses
  | .close => c.outside context .close

/-- The system of one runtime whose turns may overlap. -/
def sharedSystem (context : SharedContext db) : System (SharedRuntime db) (SharedLabel db) where
  init := {}
  next := SharedRuntime.next context

/-! ## What every turn keeps -/

variable {context : SharedContext db} {c d : SharedRuntime db}

/-- A step of one turn, taken apart. -/
theorem advance_eq_some {turn : Nat} {label : Label db}
    (h : c.advance context turn label = some d) :
    ∃ t r, c.focus turn = some t ∧
      ClaudeAgentSDKRuntime.next context.runtime { c.runtime with turn := some t } label = some r ∧
      d = c.store turn r := by
  obtain ⟨t, hfocus, hnext⟩ := Option.bind_eq_some_iff.mp h
  obtain ⟨r, hr, rfl⟩ := Option.map_eq_some_iff.mp hnext
  exact ⟨t, r, hfocus, hr, rfl⟩

section Shared

variable {P : ClaudeAgentSDKRuntime db → Prop}
  (hfocus : ∀ {r} (t : Option (Turn db)), P r → P { r with turn := t })
  (hstep : ∀ {r s label}, P r → ClaudeAgentSDKRuntime.next context.runtime r label = some s → P s)

include hfocus hstep

theorem advance_runtime {turn : Nat} {label : Label db}
    (h : c.advance context turn label = some d) (hc : P c.runtime) : P d.runtime := by
  obtain ⟨t, r, -, hnext, rfl⟩ := advance_eq_some h
  exact hfocus none (hstep (hfocus (some t) hc) hnext)

theorem outside_runtime {label : Label db} (h : c.outside context label = some d)
    (hc : P c.runtime) : P d.runtime := by
  obtain ⟨r, hnext, rfl⟩ := Option.map_eq_some_iff.mp h
  exact hfocus none (hstep (hfocus none hc) hnext)

theorem deliver_runtime {turn : Nat} {projection : ProjectionResult}
    (h : c.deliver context turn projection = some d) (hc : P c.runtime) : P d.runtime := by
  unfold deliver at h
  split_ifs at h
  · exact advance_runtime hfocus hstep h hc
  · exact Option.some.inj h ▸ hc

/-- What the steps of a runtime keep of what its turns share, the steps of overlapping
turns keep. -/
theorem next_runtime {label : SharedLabel db} (h : c.next context label = some d)
    (hc : P c.runtime) : P d.runtime := by
  cases label with
  | preflight | sessionCloses | close => exact outside_runtime hfocus hstep h hc
  | start request host answers =>
    cases h
    have hstart : c.idle.next context.runtime (.start request host answers) =
        some (c.idle.startTurn context.runtime request host answers) := rfl
    exact hfocus none (hstep (hfocus none hc) hstart)
  | generator turn signal poll => exact advance_runtime hfocus hstep h hc
  | acquires turn =>
    obtain ⟨session, -, hholder⟩ := Option.bind_eq_some_iff.mp h
    obtain ⟨-, ⟨⟩⟩ := Option.ite_none_right_eq_some.mp hholder
    exact hc
  | message turn message =>
    obtain ⟨session, -, hholds⟩ := Option.bind_eq_some_iff.mp h
    obtain ⟨-, hdelivers⟩ := Option.ite_none_right_eq_some.mp hholds
    dsimp only at hdelivers
    split at hdelivers
    · exact deliver_runtime (c := c.observe context turn session message) hfocus hstep hdelivers hc
    · cases hdelivers
      exact hc
  | compaction turn phase =>
    obtain ⟨-, hdelivers⟩ := Option.ite_none_right_eq_some.mp h
    exact deliver_runtime hfocus hstep hdelivers hc
  | taskEnds turn ending =>
    obtain ⟨-, hends⟩ := Option.ite_none_right_eq_some.mp h
    split_ifs at hends
    · exact advance_runtime hfocus hstep hends hc
    · exact outside_runtime hfocus hstep hends hc
    · cases hends
      exact hc
  | tool turn =>
    obtain ⟨-, hexecutes⟩ := Option.ite_none_right_eq_some.mp h
    obtain ⟨bridge, -, hruns⟩ := Option.bind_eq_some_iff.mp hexecutes
    dsimp only at hruns
    split_ifs at hruns
    · exact advance_runtime hfocus hstep hruns hc
    · exact outside_runtime hfocus hstep hruns hc

theorem reachable_runtime (hinit : P {}) (hr : (sharedSystem context).Reachable c) :
    P c.runtime :=
  System.Reachable.invariant (S := sharedSystem context) (P := fun c => P c.runtime) hinit
    (fun _ hc hnext => next_runtime hfocus hstep hnext hc) hr

end Shared

/-- The small runtime, with text that is ASCII only. -/
def textOnlyShared : SharedContext asciiDatabase where
  runtime := ClaudeAgentSDKRuntime.textOnlyContext
  texts := { casefold := fun s => s.map CodePoint.asciiLower, decimal := fun _ => none }

end SharedRuntime

end HermesClaude.Runtime
