/-
# The moves of a generator

Between two suspensions `run_turn` does several things in a row: it takes a projection
from the queue, passes events on or keeps them, looks at the task, asks the host.  Cut
into moves, each of which changes one thing about the turn, a step of the generator is a
chain of moves, and a property of turns that every move keeps is kept by every step.

While events of a projection are still to be passed on, the turn counts as suspended at
the `yield` with those events ahead of it; most of these places it only passes through.
-/

import HermesClaude.Runtime.Invariants
import Mathlib.Logic.Relation

namespace HermesClaude.Runtime

open HermesClaude.Python HermesClaude.Bridge HermesClaude.Content HermesClaude.Session
  HermesClaude.Library

variable {db : UnicodeDatabase}

/-- An event of a projection that the runtime keeps to itself. -/
def isInternal : RuntimeEvent → Bool
  | .completed | .toolRequest _ _ => true
  | .content _ | .usage _ | .compaction _ => false

/-- An event as the runtime passes it on. -/
def passedEvent (t : Turn db) : RuntimeEvent → RuntimeEvent
  | .usage receipt => .usage (ClaudeAgentSDKRuntime.vouchedReceipt t receipt)
  | event => event

/-- Two stages of a turn that differ in where it is suspended and in its flags only. -/
structure SameTrace (t t' : Turn db) : Prop where
  number : t'.number = t.number
  request : t'.request = t.request
  boundTo : t'.boundTo = t.boundTo
  bridge : t'.bridge = t.bridge
  allowedToolNames : t'.allowedToolNames = t.allowedToolNames
  provenance : t'.provenance = t.provenance
  task : t'.task = t.task
  queue : t'.queue = t.queue
  produced : t'.produced = t.produced
  yielded : t'.yielded = t.yielded

/-- Where the pump looks at its loop condition. -/
def GeneratorPc.isAtHead : GeneratorPc → Prop
  | .receiving | .yielding [] => True
  | _ => False

/-- Where a turn may fail: before its task is created, or after the pump. -/
def Turn.Failing (t : Turn db) : Prop :=
  t.task = none ∨ t.pc = .awaitingTask ∨ (∃ phase, t.pc = .awaitingNativeTask phase) ∨
    (∃ result, t.pc = .yieldedState result) ∨ t.pc = .cancelling .errorHandler

theorem Turn.Failing.of_same {t t' : Turn db} (h : t.Failing) (hsame : SameTrace t t')
    (hpc : t'.pc = t.pc) : t'.Failing := by
  unfold Turn.Failing at h ⊢
  rw [hsame.task, hpc]
  exact h

/-- One move of a generator. -/
inductive Move : Turn db → Turn db → Prop
  | flags {t t' : Turn db} (same : SameTrace t t') (pc : t'.pc = t.pc) : Move t t'
  | /-- A projection is taken from the queue. -/
    take {t : Turn db} {projection : ProjectionResult} {rest : List ProjectionResult}
      (pc : t.pc = .receiving) (queue : t.queue = projection :: rest) :
      Move t { t with
        queue := rest
        provenance := ClaudeAgentSDKRuntime.provenanceAfter t.provenance projection
        pc := .yielding projection.events }
  | /-- An event is kept. -/
    keep {t : Turn db} {event : RuntimeEvent} {rest : List RuntimeEvent}
      (pc : t.pc = .yielding (event :: rest)) (internal : isInternal event = true) :
      Move t { t with pc := .yielding rest }
  | /-- An event is passed on. -/
    pass {t : Turn db} {event : RuntimeEvent} {rest : List RuntimeEvent} (visible : Bool)
      (pc : t.pc = .yielding (event :: rest)) (outward : isInternal event = false) :
      Move t { t.emit (.projected (passedEvent t event)) true with
        pc := .yielding rest, visible := visible }
  | receive {t : Turn db} (pc : t.pc.isAtHead ∨ t.pc = .cancelling .pump) :
      Move t { t with pc := .receiving }
  | /-- The task is over and the queue is empty. -/
    drain {t : Turn db} (pc : t.pc.isAtHead) (task : t.task.any SessionTask.isRunning = false)
      (queue : t.queue = []) : Move t { t with pc := .awaitingTask }
  | cancelPump {t : Turn db} (pc : t.pc.isAtHead) : Move t { t with pc := .cancelling .pump }
  | /-- A tool request outside the allowed names is met. -/
    cancelNative {t : Turn db} {events : List RuntimeEvent} (phase : RuntimeFailurePhase)
      (pc : t.pc = .yielding events)
      (unexpected : events.any (ClaudeAgentSDKRuntime.isUnexpected t.allowedToolNames) = true) :
      Move t { t with pc := .cancelling (.native phase) }
  | awaitNative {t : Turn db} {phase : RuntimeFailurePhase}
      (pc : t.pc = .cancelling (.native phase)) : Move t { t with pc := .awaitingNativeTask phase }
  | cancelHandler (t : Turn db) : Move t { t with pc := .cancelling .cancelledHandler }
  | errorHandler {t : Turn db} (failing : t.Failing) :
      Move t { t with pc := .cancelling .errorHandler }
  | /-- A failure or a cancellation is yielded. -/
    fail {t : Turn db} {event : TurnEvent} (inSetup terminal : Bool) (failing : t.Failing)
      (ends : event.isTerminal = true) (failed : ∀ result, event ≠ .completed result) :
      Move t { t.emitLast event inSetup with terminal := terminal }
  | /-- The state of a turn that is complete is yielded. -/
    state {t : Turn db} {result : SessionTurnResult} {id : PyStr} (pc : t.pc = .awaitingTask)
      (task : t.task = some (.ended (.returned result))) (outcome : result.outcome = .complete)
      (reported : result.externalSessionId = some id) :
      Move t { t.emit (.state id) true with pc := .yieldedState result }
  | complete {t : Turn db} {result : Completion}
      (pc : t.pc = .awaitingTask ∨ ∃ result, t.pc = .yieldedState result)
      (provenance : result.provenance = t.provenance) : Move t (t.conclude (.completed result))

/-- Where a generator that has gone on leaves its turn.  It returns from its exception
handler or at a `yield`; a turn that raised may be recorded with an earlier place. -/
inductive Leaves (r s : ClaudeAgentSDKRuntime db) (t : Turn db) : Prop
  | suspended (turn : s.turn = some t) (finished : s.finished = r.finished)
  | returned (place : t.Failing ∨ t.pc = .yieldedTerminal ∨ ∃ rest, t.pc = .yielding rest)
      (turn : s.turn = none)
      (finished : s.finished = r.finished ++
        [⟨t, .over, ClaudeAgentSDKRuntime.leavesTask t⟩])
  | raised (p : GeneratorPc) (turn : s.turn = none)
      (finished : s.finished = r.finished ++
        [⟨{ t with pc := p }, .raised, ClaudeAgentSDKRuntime.leavesTask t⟩])

/-- A generator goes from one turn to a runtime by a chain of moves. -/
def Reaches (r : ClaudeAgentSDKRuntime db) (t : Turn db) (s : ClaudeAgentSDKRuntime db) : Prop :=
  ∃ t', Relation.ReflTransGen Move t t' ∧ Leaves r s t'

/-- What every move keeps, a chain of moves keeps. -/
theorem keeps_of_moves {P : Turn db → Prop} (hmove : ∀ {t t'}, Move t t' → P t → P t')
    {t t' : Turn db} (h : Relation.ReflTransGen Move t t') (ht : P t) : P t' := by
  induction h with
  | refl => exact ht
  | tail _ hlast ih => exact hmove hlast ih

theorem Reaches.head {r s : ClaudeAgentSDKRuntime db} {t t' : Turn db} (hmove : Move t t')
    (h : Reaches r t' s) : Reaches r t s := by
  obtain ⟨t'', hmoves, hleaves⟩ := h
  exact ⟨t'', .head hmove hmoves, hleaves⟩

/-- The runtime a generator starts from matters for the turns that are over only. -/
theorem Reaches.of_finished {q r s : ClaudeAgentSDKRuntime db} {t : Turn db}
    (hfinished : r.finished = q.finished) (h : Reaches r t s) : Reaches q t s := by
  obtain ⟨t', hmoves, hleaves⟩ := h
  refine ⟨t', hmoves, ?_⟩
  cases hleaves with
  | suspended turn finished => exact .suspended turn (finished.trans hfinished)
  | returned place turn finished => exact .returned place turn (hfinished ▸ finished)
  | raised p turn finished => exact .raised p turn (hfinished ▸ finished)

namespace ClaudeAgentSDKRuntime

variable {r : ClaudeAgentSDKRuntime db} {t : Turn db}

theorem suspend_reaches {t' : Turn db} (hmove : Move t t') : Reaches r t (r.suspend t') :=
  ⟨t', .single hmove, .suspended rfl rfl⟩

theorem finish_reaches
    (place : t.Failing ∨ t.pc = .yieldedTerminal ∨ ∃ rest, t.pc = .yielding rest) :
    Reaches r t (r.finish t .over) :=
  ⟨t, .refl, .returned place rfl rfl⟩

theorem raise_reaches (p : GeneratorPc) : Reaches r { t with pc := p } (r.finish t .raised) :=
  ⟨_, .refl, .raised t.pc rfl rfl⟩

/-- Asking the session to cancel either comes back at once, with a flag changed, or
suspends the turn there. -/
theorem cancelSession_reaches (site : CancelSite) {p : GeneratorPc}
    (hafter : ∀ t' : Turn db, SameTrace t t' → t'.pc = t.pc →
      Reaches r { t' with pc := p } (r.afterCancel t' site))
    (hcancelling : Move { t with pc := p } { t with pc := .cancelling site }) :
    Reaches r { t with pc := p } (r.cancelSession t site) := by
  unfold cancelSession
  split
  next => exact hafter t ⟨rfl, rfl, rfl, rfl, rfl, rfl, rfl, rfl, rfl, rfl⟩ rfl
  next session _ =>
    split_ifs
    · have hreturned : Move { t with pc := p } { t with cancelReturned := true, pc := p } :=
        .flags ⟨rfl, rfl, rfl, rfl, rfl, rfl, rfl, rfl, rfl, rfl⟩ rfl
      exact (hafter { t with cancelReturned := true } ⟨rfl, rfl, rfl, rfl, rfl, rfl, rfl, rfl, rfl, rfl⟩
        rfl).head hreturned
    · exact ⟨_, .single hcancelling, .suspended rfl rfl⟩

theorem cancelledHandler_reaches (p : GeneratorPc) :
    Reaches r { t with pc := p } (r.cancelSession t .cancelledHandler) :=
  cancelSession_reaches .cancelledHandler (fun _ _ _ => raise_reaches p)
    (.cancelHandler { t with pc := p })

theorem pump_reaches {p : GeneratorPc} (hp : p.isAtHead) :
    Reaches r { t with pc := p } (r.cancelSession t .pump) :=
  cancelSession_reaches .pump
    (fun t' _ _ => suspend_reaches (t := { t' with pc := p }) (.receive (.inl hp)))
    (.cancelPump (t := { t with pc := p }) hp)

/-- The exception handler of a turn that fails. -/
theorem errorHandler_reaches (hfailing : t.Failing) :
    Reaches r t (r.cancelSession t .errorHandler) := by
  refine cancelSession_reaches (t := t) (p := t.pc) .errorHandler (fun t' hsame hpc => ?_)
    (.errorHandler hfailing)
  rw [← hpc]
  show Reaches r t' (r.afterCancel t' .errorHandler)
  rw [afterCancel]
  have hfailing' : t'.Failing := hfailing.of_same hsame hpc
  split_ifs
  · exact finish_reaches (.inl hfailing')
  · exact suspend_reaches (.fail true t'.terminal hfailing' rfl fun result => by rintro ⟨⟩)

theorem afterCancel_reaches {site : CancelSite} (hpc : t.pc = .cancelling site) :
    Reaches r t (r.afterCancel t site) := by
  cases site with
  | pump => exact suspend_reaches (.receive (.inr hpc))
  | native phase => exact suspend_reaches (.awaitNative hpc)
  | cancelledHandler => exact raise_reaches (t := t) t.pc
  | errorHandler =>
    have hfailing : t.Failing := .inr (.inr (.inr (.inr hpc)))
    rw [afterCancel]
    split_ifs
    · exact finish_reaches (.inl hfailing)
    · exact suspend_reaches (.fail true t.terminal hfailing rfl fun result => by rintro ⟨⟩)

theorem pumpHead_reaches {p : GeneratorPc} (hp : p.isAtHead) (poll : Option Poll) :
    Reaches r { t with pc := p } (r.pumpHead t poll) := by
  have hreceiving : Reaches r { t with pc := p } (r.suspend { t with pc := .receiving }) :=
    suspend_reaches (t := { t with pc := p }) (.receive (.inl hp))
  have hcancel : ∀ unavailable, Reaches r { t with pc := p } (r.cancelSession
      { t with cancelSent := true, cancellationUnavailable := unavailable } .pump) := by
    intro unavailable
    have hsent : Move { t with pc := p } { t with
        cancelSent := true, cancellationUnavailable := unavailable, pc := p } :=
      .flags ⟨rfl, rfl, rfl, rfl, rfl, rfl, rfl, rfl, rfl, rfl⟩ rfl
    exact (pump_reaches
      (t := { t with cancelSent := true, cancellationUnavailable := unavailable }) hp).head hsent
  unfold pumpHead
  split_ifs with hover
  · obtain ⟨htask, hqueue⟩ := Bool.and_eq_true_iff.mp hover
    exact suspend_reaches (t := { t with pc := p })
      (.drain hp (by simpa using htask) (by simpa using hqueue))
  · exact hreceiving
  · split
    · exact hreceiving
    · exact cancelledHandler_reaches p
    · exact raise_reaches p
    · exact hreceiving
    · exact hcancel t.cancellationUnavailable
    · exact hcancel true
    · exact hcancel true

theorem observe_finished (r : ClaudeAgentSDKRuntime db) (name : PyStr) :
    (r.observe name).finished = r.finished := by
  unfold observe
  repeat' split
  all_goals rfl

theorem passOn_reaches (poll : Option Poll) (events : List RuntimeEvent) :
    Reaches r { t with pc := .yielding events } (r.passOn t poll events) := by
  induction events generalizing r with
  | nil =>
    have hhead : GeneratorPc.isAtHead (.yielding []) := trivial
    exact pumpHead_reaches hhead poll
  | cons event rest ih =>
    -- The turn as it stands before it passes the event on.
    have hpass : ∀ (outward : isInternal event = false) (visible : Bool),
        Move { t with pc := .yielding (event :: rest) } { t.emit (.projected (passedEvent t event))
          true with pc := .yielding rest, visible := visible } :=
      fun outward visible => @Move.pass db { t with pc := .yielding (event :: rest) } event rest
        visible rfl outward
    cases event with
    | completed => exact ih.head (.keep rfl rfl)
    | toolRequest requestId name =>
      have hrest := (ih (r := r.observe name)).of_finished (observe_finished r name)
      exact hrest.head (.keep rfl rfl)
    | usage receipt => exact suspend_reaches (hpass rfl t.visible)
    | content text => exact suspend_reaches (hpass rfl true)
    | compaction phase => exact suspend_reaches (hpass rfl t.visible)

theorem receive_reaches {projection : ProjectionResult} {rest : List ProjectionResult}
    (hpc : t.pc = .receiving) (hqueue : t.queue = projection :: rest) (poll : Option Poll) :
    Reaches r t (r.receive { t with queue := rest } projection poll) := by
  refine Reaches.head (.take hpc hqueue) ?_
  unfold receive
  dsimp only
  split_ifs with hunexpected
  · exact cancelSession_reaches
      (t := { t with queue := rest, provenance := provenanceAfter t.provenance projection })
      (p := .yielding projection.events) _
      (fun t' hsame _ => ⟨_, .tail (.single (.cancelNative _ rfl (by
        rw [hsame.allowedToolNames]; exact hunexpected))) (.awaitNative rfl), .suspended rfl rfl⟩)
      (.cancelNative _ rfl hunexpected)
  · exact passOn_reaches
      (t := { t with queue := rest, provenance := provenanceAfter t.provenance projection })
      poll projection.events

theorem complete_reaches {result : SessionTurnResult}
    (hpc : t.pc = .awaitingTask ∨ ∃ result, t.pc = .yieldedState result) :
    Reaches r t (r.complete t result) := by
  have hterminal : Move t { t with terminal := true } :=
    .flags ⟨rfl, rfl, rfl, rfl, rfl, rfl, rfl, rfl, rfl, rfl⟩ rfl
  unfold complete
  dsimp only
  split
  next =>
    refine (errorHandler_reaches (t := { t with terminal := true }) ?_).head hterminal
    rcases hpc with hpc | hstate
    · exact .inr (.inl hpc)
    · exact .inr (.inr (.inr (.inl hstate)))
  next => exact suspend_reaches (.complete hpc rfl)

theorem settle_reaches {result : SessionTurnResult} (hpc : t.pc = .awaitingTask)
    (htask : t.task = some (.ended (.returned result))) : Reaches r t (r.settle t result) := by
  have hfailing : t.Failing := .inr (.inl hpc)
  unfold settle
  split_ifs
  · exact suspend_reaches (.fail true true hfailing rfl fun _ => by rintro ⟨⟩)
  · split
    next houtcome =>
      split
      next id hid => exact suspend_reaches (.state hpc htask houtcome hid)
      next => exact complete_reaches (.inl hpc)
    all_goals exact suspend_reaches (.fail true true hfailing rfl fun _ => by rintro ⟨⟩)

/-- **A step of a generator is a chain of moves.** -/
theorem resume_reaches {s : ClaudeAgentSDKRuntime db} {signal : Signal} {poll : Option Poll}
    (hresume : r.resume t signal poll = some s) : Reaches r t s := by
  cases resumed_of_resume hresume with
  | @cancelReturned site hpc =>
    have hreturned : Move t { t with cancelReturned := true } :=
      .flags ⟨rfl, rfl, rfl, rfl, rfl, rfl, rfl, rfl, rfl, rfl⟩ rfl
    have hafter : Reaches r.closeSession { t with cancelReturned := true }
        (r.closeSession.afterCancel { t with cancelReturned := true } site) :=
      afterCancel_reaches hpc
    have hsame : r.closeSession.finished = r.finished := rfl
    exact (Reaches.of_finished hsame hafter).head hreturned
  | handlerCancelled => exact raise_reaches (t := t) t.pc
  | cancelCancelled | receiveCancelled => exact cancelledHandler_reaches (t := t) t.pc
  | received hpc hqueue => exact receive_reaches hpc hqueue poll
  | timedOut hpc =>
    have hhead : t.pc.isAtHead := by rw [hpc]; trivial
    exact pumpHead_reaches (t := t) hhead poll
  | @passedOn rest hpc =>
    have hpassed := passOn_reaches (r := r) (t := t) poll rest
    rw [← hpc] at hpassed
    exact hpassed
  | settled hpc htask => exact settle_reaches hpc htask
  | @nativeFailed phase result hpc htask =>
    exact suspend_reaches (.fail true true (.inr (.inr (.inl ⟨phase, hpc⟩))) rfl
      fun _ => by rintro ⟨⟩)
  | taskCancelled => exact cancelledHandler_reaches (t := t) t.pc
  | taskRaised hpc =>
    refine errorHandler_reaches ?_
    rcases hpc with hpc | hnative
    · exact .inr (.inl hpc)
    · exact .inr (.inr (.inl hnative))
  | stateTaken hpc => exact complete_reaches (.inr ⟨_, hpc⟩)
  | exhausted hpc => exact finish_reaches (.inr (.inl hpc))
  | closed hpc =>
    refine finish_reaches ?_
    rcases hpc with hyielding | hstate | hterminal
    · exact .inr (.inr hyielding)
    · exact .inl (.inr (.inr (.inr (.inl hstate))))
    · exact .inr (.inl hterminal)

/-! ## The beginning of a turn -/

/-- A turn whose task has just been created. -/
structure StartsTask (t : Turn db) : Prop where
  pc : t.pc = .receiving
  task : t.task = some .running
  queue : t.queue = []
  produced : t.produced = []
  yielded : t.yielded = []
  provenance : t.provenance = {}

/-- A turn that begins either has its task created, or sets its local bridge, if any, and
goes through moves without a task. -/
inductive Starts (r : ClaudeAgentSDKRuntime db) (t : Turn db) (s : ClaudeAgentSDKRuntime db) :
    Prop
  | ends (bridge : LocalBridge) (reaches : Reaches r { t with bridge } s)
  | runs (t' : Turn db) (turn : s.turn = some t') (finished : s.finished = r.finished)
      (number : t'.number = t.number) (request : t'.request = t.request) (starts : StartsTask t')

theorem Starts.of_finished {q s : ClaudeAgentSDKRuntime db} (hfinished : r.finished = q.finished)
    (h : Starts r t s) : Starts q t s := by
  cases h with
  | ends bridge reaches => exact .ends bridge (reaches.of_finished hfinished)
  | runs t' turn finished number request starts =>
    exact .runs t' turn (finished.trans hfinished) number request starts

theorem bindTurn_starts (htask : t.task = none) (hqueue : t.queue = [])
    (hproduced : t.produced = []) (hyielded : t.yielded = []) (hprovenance : t.provenance = {}) :
    Starts r t (r.bindTurn t) := by
  unfold bindTurn
  dsimp only
  split
  · exact .ends .absent (errorHandler_reaches (t := { t with bridge := .absent }) (.inl htask))
  · split
    · exact .ends .bound (errorHandler_reaches (t := { t with bridge := .bound }) (.inl htask))
    · exact .runs _ rfl rfl rfl rfl ⟨rfl, rfl, hqueue, hproduced, hyielded, hprovenance⟩

/-- **The beginning of a turn.** -/
theorem startTurn_starts (context : RuntimeContext db) (r : ClaudeAgentSDKRuntime db)
    (request : RuntimeTurnRequest db) (host : RuntimeHost) (answers : StartAnswers) :
    Starts r (r.newTurn request) (r.startTurn context request host answers) := by
  have hfailing : (r.newTurn request).Failing := .inl rfl
  obtain ⟨authorized, result, hauthorized, hbegun⟩ := begun_of_startTurn context r request host answers
  obtain ⟨log, rfl⟩ := hauthorized.eq
  generalize r.startTurn context request host answers = s at hbegun ⊢
  generalize hs : { r.prepare with preflightRequest := none, authorizations := log } = s' at hbegun
  have hkept : s'.finished = r.finished := by rw [← hs]; rfl
  refine Starts.of_finished hkept ?_
  cases hbegun with
  | refused failure =>
    exact .ends .absent (suspend_reaches (.fail false false hfailing rfl fun _ => by rintro ⟨⟩))
  | cancelled =>
    exact .ends .absent (suspend_reaches (.fail false false hfailing rfl fun _ => by rintro ⟨⟩))
  | escaped => exact .ends .absent (raise_reaches (t := r.newTurn request) .receiving)
  | entered =>
    have hentered : (s'.enter (r.newTurn request)).finished = s'.finished := rfl
    refine Starts.of_finished hentered ?_
    have hsetup := setUp_of_setup (s'.enter (r.newTurn request)) (r.newTurn request) host answers
    generalize (s'.enter (r.newTurn request)).setup (r.newTurn request) host answers = s
      at hsetup ⊢
    cases hsetup with
    | @failed kept bridge hsame hauthorization hsession hunbound =>
      refine Starts.of_finished hsame.finished (.ends bridge ?_)
      exact suspend_reaches (.fail true false (.inl rfl) rfl fun _ => by rintro ⟨⟩)
    | changed =>
      exact .ends .absent (suspend_reaches (.fail true false hfailing rfl fun _ => by rintro ⟨⟩))
    | bound hsame =>
      exact Starts.of_finished hsame.finished (bindTurn_starts rfl rfl rfl rfl rfl)

end ClaudeAgentSDKRuntime

end HermesClaude.Runtime
