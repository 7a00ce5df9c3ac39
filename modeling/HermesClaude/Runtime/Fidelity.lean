/-
# Events pass in order

The session task puts projections into an unbounded queue, and the generator takes them
out, one at a time, between polls of the host and timed waits.  It leaves the pump only
when the task is over and the queue is empty; and whatever the task produced it had put
there before it was over.  So what a turn yields before its state or its terminal event
is what its projections contained, in order, less what the runtime keeps to itself.

At every moment the events of a turn fall into those that were dealt with, those of the
projection being passed on, and those in the queue.
-/

import HermesClaude.Runtime.Moves

namespace HermesClaude.Runtime

open HermesClaude.Python HermesClaude.Bridge HermesClaude.Content HermesClaude.Session
  HermesClaude.Library

variable {db : UnicodeDatabase}

/-- What passing on some events yields: all but completions and tool requests, usage
with the identity fields of its receipt rewritten. -/
def passedOn (t : Turn db) (events : List RuntimeEvent) : List TurnEvent :=
  (events.filter fun event => !isInternal event).map fun event => .projected (passedEvent t event)

/-- The events of all projections and compaction callbacks of the turn were passed on, in
order, and then only the state and the terminal event. -/
def Faithful (t : Turn db) : Prop :=
  ∃ last : List TurnEvent, t.yielded.map (·.event) = passedOn t t.produced ++ last ∧
    ∀ e ∈ last, ∀ event, e ≠ .projected event

/-- No projection of the turn has asked for a tool outside the allowed names. -/
def OnlyAllowed (t : Turn db) : Prop :=
  t.produced.any (ClaudeAgentSDKRuntime.isUnexpected t.allowedToolNames) = false

/-- Whether the turn is suspended at its state or at its terminal event. -/
def Turn.AtItsEnd (t : Turn db) : Prop :=
  t.pc = .yieldedTerminal ∨ ∃ result, t.pc = .yieldedState result

/-- The events ahead are the ones of the turn that have not been dealt with. -/
def Passing (t : Turn db) (ahead : List RuntimeEvent) : Prop :=
  ∃ done, done ++ ahead = t.produced ∧ t.yielded.map (·.event) = passedOn t done

/-- The events in the queue. -/
def Turn.queued (t : Turn db) : List RuntimeEvent := t.queue.flatMap (·.events)

/-- What is settled when the pump is over: the turn was faithful and produces no more, or
it met a tool outside the allowed names. -/
def Settled (t : Turn db) : Prop :=
  Faithful t ∧ t.task ≠ some .running ∨ ¬ OnlyAllowed t

/-- The state of the events of a turn, by where it is suspended. -/
def InOrder (t : Turn db) : Prop :=
  match t.pc with
  | .receiving | .cancelling .pump => Passing t t.queued
  | .yielding rest => Passing t (rest ++ t.queued)
  | .awaitingTask => Passing t [] ∧ t.task ≠ some .running
  | .yieldedState _ | .yieldedTerminal | .cancelling .errorHandler => Settled t
  | .cancelling (.native _) | .awaitingNativeTask _ => ¬ OnlyAllowed t
  | .cancelling .cancelledHandler => True

/-- The invariant of a turn: before its task is created there is nothing to pass on. -/
structure Ordered (t : Turn db) : Prop where
  early : t.task = none → t.produced = [] ∧ ∀ y ∈ t.yielded, ∀ event, y.event ≠ .projected event
  inOrder : InOrder t

/-- A turn whose generator returned: it is in order, and either past its pump or closed at
an event it had passed on. -/
structure Returned (t : Turn db) : Prop where
  ordered : Ordered t
  place : t.Failing ∨ t.pc = .yieldedTerminal ∨ ∃ rest, t.pc = .yielding rest

variable {t t' : Turn db}

/-! ## Passing on -/

theorem passedOn_append (t : Turn db) (first second : List RuntimeEvent) :
    passedOn t (first ++ second) = passedOn t first ++ passedOn t second := by
  simp [passedOn]

theorem passedOn_internal {event : RuntimeEvent} (h : isInternal event = true) :
    passedOn t [event] = [] := by
  simp [passedOn, h]

theorem passedOn_outward {event : RuntimeEvent} (h : isInternal event = false) :
    passedOn t [event] = [.projected (passedEvent t event)] := by
  simp [passedOn, h]

theorem passedEvent_congr (h : t'.request = t.request) : passedEvent t' = passedEvent t := by
  funext event
  cases event with
  | usage receipt => simp only [passedEvent, ClaudeAgentSDKRuntime.vouchedReceipt, h]
  | content | toolRequest | completed | compaction => rfl

theorem passedOn_congr (h : t'.request = t.request) : passedOn t' = passedOn t := by
  funext events
  simp only [passedOn, passedEvent_congr h]

/-- Only the request, the events and the yields matter. -/
theorem Passing.transfer {ahead : List RuntimeEvent} (h : Passing t ahead)
    (hrequest : t'.request = t.request) (hproduced : t'.produced = t.produced)
    (hyielded : t'.yielded = t.yielded) : Passing t' ahead := by
  obtain ⟨done, hdone, hpassed⟩ := h
  refine ⟨done, hproduced ▸ hdone, ?_⟩
  rw [passedOn_congr hrequest, hyielded]
  exact hpassed

theorem Settled.transfer (h : Settled t) (hrequest : t'.request = t.request)
    (hproduced : t'.produced = t.produced) (hyielded : t'.yielded = t.yielded)
    (hnames : t'.allowedToolNames = t.allowedToolNames)
    (htask : t.task ≠ some .running → t'.task ≠ some .running) : Settled t' := by
  rcases h with ⟨⟨last, hlast, hother⟩, hover⟩ | hnative
  · refine .inl ⟨⟨last, ?_, hother⟩, htask hover⟩
    rw [passedOn_congr hrequest, hproduced, hyielded]
    exact hlast
  · refine .inr ?_
    rw [OnlyAllowed, hproduced, hnames]
    exact hnative

/-- A pump that is over has been faithful. -/
theorem Passing.faithful (h : Passing t []) : Faithful t := by
  obtain ⟨done, hdone, hpassed⟩ := h
  rw [List.append_nil] at hdone
  subst hdone
  exact ⟨[], by rw [List.append_nil]; exact hpassed, fun e he => (by cases he)⟩

/-- What is settled stays settled when another event follows. -/
theorem Settled.emit (h : Settled t) {e : TurnEvent} (he : ∀ event, e ≠ .projected event)
    (inSetup : Bool) : Settled (t.emit e inSetup) := by
  rcases h with ⟨⟨last, hlast, hother⟩, hover⟩ | hnative
  · refine .inl ⟨⟨last ++ [e], ?_, fun e' he' => ?_⟩, hover⟩
    · rw [← List.append_assoc]
      show (t.yielded ++ [_]).map Yielded.event = passedOn t t.produced ++ last ++ [e]
      rw [List.map_append, hlast]
      rfl
    · rcases List.mem_append.mp he' with he' | he'
      · exact hother e' he'
      · rw [List.mem_singleton.mp he']
        exact he
  · exact .inr hnative

/-- A turn that can fail is settled. -/
theorem Ordered.settled (h : Ordered t) (hfailing : t.Failing) : Settled t := by
  have horder := h.inOrder
  unfold InOrder at horder
  rcases hfailing with htask | hpc | ⟨phase, hpc⟩ | ⟨result, hpc⟩ | hpc
  · obtain ⟨hproduced, hyielded⟩ := h.early htask
    refine .inl ⟨⟨t.yielded.map (·.event), by rw [hproduced]; rfl, fun e he => ?_⟩,
      by rw [htask]; rintro ⟨⟩⟩
    obtain ⟨y, hy, rfl⟩ := List.mem_map.mp he
    exact hyielded y hy
  · rw [hpc] at horder
    exact .inl ⟨horder.1.faithful, horder.2⟩
  · rw [hpc] at horder
    exact .inr horder
  · rw [hpc] at horder
    exact horder
  · rw [hpc] at horder
    exact horder

/-! ## Moves -/

/-- At the head of the pump only the queue is ahead. -/
theorem Ordered.atHead (h : Ordered t) (hpc : t.pc.isAtHead ∨ t.pc = .cancelling .pump) :
    Passing t t.queued := by
  have horder := h.inOrder
  unfold InOrder at horder
  rcases hpc with hhead | hpc
  · cases hcase : t.pc with
    | receiving =>
      rw [hcase] at horder
      exact horder
    | yielding rest =>
      rw [hcase] at horder hhead
      cases rest with
      | nil => exact horder
      | cons event rest => exact hhead.elim
    | cancelling | awaitingTask | awaitingNativeTask | yieldedState | yieldedTerminal =>
      rw [hcase] at hhead
      exact hhead.elim
  · rw [hpc] at horder
    exact horder

/-- While events are passed on they come before the queue. -/
theorem Ordered.yielding (h : Ordered t) {rest : List RuntimeEvent} (hpc : t.pc = .yielding rest) :
    Passing t (rest ++ t.queued) := by
  have horder := h.inOrder
  unfold InOrder at horder
  rw [hpc] at horder
  exact horder

/-- Every move keeps the events in order. -/
theorem Ordered.move (hmove : Move t t') (h : Ordered t) : Ordered t' := by
  cases hmove with
  | flags hsame hpc =>
    refine ⟨?_, ?_⟩
    · rw [hsame.task, hsame.produced, hsame.yielded]
      exact h.early
    · have horder := h.inOrder
      have hpassing : ∀ ahead, Passing t ahead → Passing t' ahead :=
        fun _ hahead => hahead.transfer hsame.request hsame.produced hsame.yielded
      have hsettled : Settled t → Settled t' := fun hsettled =>
        hsettled.transfer hsame.request hsame.produced hsame.yielded hsame.allowedToolNames
          (by rw [hsame.task]; exact id)
      have hallowed : ¬ OnlyAllowed t → ¬ OnlyAllowed t' := by
        rw [OnlyAllowed, OnlyAllowed, hsame.produced, hsame.allowedToolNames]
        exact id
      have hqueued : t'.queued = t.queued := by rw [Turn.queued, hsame.queue]; rfl
      unfold InOrder at horder ⊢
      rw [hpc, hsame.task, hqueued]
      split at horder
      · exact hpassing _ horder
      · exact hpassing _ horder
      · exact hpassing _ horder
      · exact ⟨hpassing _ horder.1, horder.2⟩
      · exact hsettled horder
      · exact hsettled horder
      · exact hsettled horder
      · exact hallowed horder
      · exact hallowed horder
      · trivial
  | @take projection rest hpc hqueue =>
    have hahead := h.atHead (.inl (by rw [hpc]; trivial))
    have hqueued : t.queued = projection.events ++ rest.flatMap (·.events) := by
      rw [Turn.queued, hqueue, List.flatMap_cons]
    rw [hqueued] at hahead
    exact ⟨h.early, hahead⟩
  | @keep event rest hpc hinternal =>
    refine ⟨h.early, ?_⟩
    obtain ⟨done, hdone, hpassed⟩ := h.yielding hpc
    refine ⟨done ++ [event], by rw [List.append_assoc]; exact hdone, ?_⟩
    show t.yielded.map (·.event) = passedOn t (done ++ [event])
    rw [passedOn_append, passedOn_internal hinternal, List.append_nil]
    exact hpassed
  | @pass event rest visible hpc houtward =>
    obtain ⟨done, hdone, hpassed⟩ := h.yielding hpc
    refine ⟨fun htask => ?_, ⟨done ++ [event], by rw [List.append_assoc]; exact hdone, ?_⟩⟩
    · have hnone := (h.early htask).1
      rw [hnone] at hdone
      simp at hdone
    · show (t.yielded ++ [_]).map Yielded.event = passedOn t (done ++ [event])
      rw [passedOn_append, passedOn_outward houtward, List.map_append, hpassed]
      rfl
  | receive hpc => exact ⟨h.early, h.atHead hpc⟩
  | drain hpc htask hqueue =>
    refine ⟨h.early, ?_, fun hrunning => ?_⟩
    · have hahead := h.atHead (.inl hpc)
      have hempty : t.queued = [] := by rw [Turn.queued, hqueue]; rfl
      rw [hempty] at hahead
      exact hahead
    · have hstill : t.task = some .running := hrunning
      rw [hstill] at htask
      cases htask
  | cancelPump hpc => exact ⟨h.early, h.atHead (.inl hpc)⟩
  | @cancelNative events phase hpc hunexpected =>
    refine ⟨h.early, fun hallowed => ?_⟩
    obtain ⟨done, hdone, -⟩ := h.yielding hpc
    have hnone : t.produced.any (ClaudeAgentSDKRuntime.isUnexpected t.allowedToolNames) = false :=
      hallowed
    rw [← hdone, List.any_append, List.any_append, hunexpected] at hnone
    simp at hnone
  | awaitNative hpc =>
    have horder := h.inOrder
    unfold InOrder at horder
    rw [hpc] at horder
    exact ⟨h.early, horder⟩
  | cancelHandler => exact ⟨h.early, trivial⟩
  | errorHandler hfailing => exact ⟨h.early, h.settled hfailing⟩
  | @fail event inSetup terminal hfailing hends hfailed =>
    have hother : ∀ e, event ≠ .projected e := by
      rintro e rfl
      cases hends
    refine ⟨fun htask => ?_, (h.settled hfailing).emit hother inSetup⟩
    obtain ⟨hproduced, hyielded⟩ := h.early htask
    refine ⟨hproduced, fun y hy => ?_⟩
    rcases List.mem_append.mp hy with hy | hy
    · exact hyielded y hy
    · rw [List.mem_singleton.mp hy]
      exact hother
  | @state result id hpc htask houtcome hreported =>
    refine ⟨fun hnone => ?_, (h.settled (.inr (.inl hpc))).emit (by rintro event ⟨⟩) true⟩
    rw [show t.task = none from hnone] at htask
    cases htask
  | @complete result hpc hprovenance =>
    have hfailing : t.Failing := by
      rcases hpc with hpc | hstate
      · exact .inr (.inl hpc)
      · exact .inr (.inr (.inr (.inl hstate)))
    refine ⟨fun htask => ?_, (h.settled hfailing).emit (by rintro event ⟨⟩) true⟩
    obtain ⟨hproduced, hyielded⟩ := h.early htask
    refine ⟨hproduced, fun y hy => ?_⟩
    rcases List.mem_append.mp hy with hy | hy
    · exact hyielded y hy
    · rw [List.mem_singleton.mp hy]
      rintro event ⟨⟩

/-- The session puts another projection into the queue. -/
theorem Ordered.produce (h : Ordered t) (htask : t.task = some .running)
    (projection : ProjectionResult) : Ordered { t with
      queue := t.queue ++ [projection]
      produced := t.produced ++ projection.events } := by
  have hpassing : ∀ ahead, Passing t (ahead ++ t.queued) → Passing { t with
      queue := t.queue ++ [projection]
      produced := t.produced ++ projection.events } (ahead ++ (t.queue ++ [projection]).flatMap
        (·.events)) := by
    rintro ahead ⟨done, hdone, hpassed⟩
    refine ⟨done, ?_, hpassed⟩
    show _ = t.produced ++ projection.events
    rw [← hdone, List.flatMap_append, List.flatMap_singleton, Turn.queued]
    simp only [List.append_assoc]
  have hallowed : ¬ OnlyAllowed t → ¬ OnlyAllowed { t with
      queue := t.queue ++ [projection]
      produced := t.produced ++ projection.events } := by
    intro hnative hallowed
    have hnone : (t.produced ++ projection.events).any (ClaudeAgentSDKRuntime.isUnexpected
      t.allowedToolNames) = false :=
      hallowed
    rw [List.any_append, Bool.or_eq_false_iff] at hnone
    exact hnative hnone.1
  have hsettled : Settled t → Settled { t with
      queue := t.queue ++ [projection]
      produced := t.produced ++ projection.events } := by
    rintro (⟨-, hover⟩ | hnative)
    · exact absurd htask hover
    · exact .inr (hallowed hnative)
  have horder := h.inOrder
  refine ⟨fun hnone => ?_, ?_⟩
  · rw [show t.task = none from hnone] at htask
    cases htask
  · unfold InOrder at horder ⊢
    dsimp only
    split at horder
    · exact hpassing [] horder
    · exact hpassing [] horder
    · exact hpassing _ horder
    · exact absurd htask horder.2
    · exact hsettled horder
    · exact hsettled horder
    · exact hsettled horder
    · exact hallowed horder
    · exact hallowed horder
    · trivial

/-- The task of a turn ends. -/
theorem Ordered.taskEnds (h : Ordered t) (ending : Ending) :
    Ordered { t with task := some (.ended ending) } := by
  have hpassing : ∀ ahead, Passing t ahead →
      Passing { t with task := some (.ended ending) } ahead :=
    fun _ hahead => hahead.transfer rfl rfl rfl
  have hsettled : Settled t → Settled { t with task := some (.ended ending) } := fun hsettled =>
    hsettled.transfer rfl rfl rfl rfl fun _ => by rintro ⟨⟩
  have horder := h.inOrder
  refine ⟨by rintro ⟨⟩, ?_⟩
  unfold InOrder at horder ⊢
  dsimp only
  split at horder
  · exact hpassing _ horder
  · exact hpassing _ horder
  · exact hpassing _ horder
  · exact ⟨hpassing _ horder.1, by rintro ⟨⟩⟩
  · exact hsettled horder
  · exact hsettled horder
  · exact hsettled horder
  · exact horder
  · exact horder
  · trivial

/-- A turn that has gone through moves is in order wherever the generator left it. -/
theorem Reaches.ordered {r s : ClaudeAgentSDKRuntime db} (h : Reaches r t s) (ht : Ordered t)
    (hfinished : ∀ f ∈ r.finished, f.ending = .over → Returned f.turn) :
    ClaudeAgentSDKRuntime.Invariant (fun _ t => Ordered t) 
      (fun r => ∀ f ∈ r.finished, f.ending = .over → Returned f.turn) s := by
  obtain ⟨t', hmoves, hleaves⟩ := h
  have hordered : Ordered t' := keeps_of_moves (fun hmove h => h.move hmove) hmoves ht
  cases hleaves with
  | suspended turn finished =>
    refine ⟨fun t'' ht'' => ?_, finished ▸ hfinished⟩
    rw [turn, Option.some.injEq] at ht''
    exact ht'' ▸ hordered
  | returned place turn finished =>
    refine ⟨fun t'' ht'' => (by rw [turn] at ht''; cases ht''), fun f hf hover => ?_⟩
    rw [finished] at hf
    rcases List.mem_append.mp hf with hf | hf
    · exact hfinished f hf hover
    · rw [List.mem_singleton.mp hf]
      exact ⟨hordered, place⟩
  | raised p turn finished =>
    refine ⟨fun t'' ht'' => (by rw [turn] at ht''; cases ht''), fun f hf hover => ?_⟩
    rw [finished] at hf
    rcases List.mem_append.mp hf with hf | hf
    · exact hfinished f hf hover
    · rw [List.mem_singleton.mp hf] at hover
      cases hover

namespace ClaudeAgentSDKRuntime

/-- Every turn is in order, whatever the host and the session do. -/
theorem ordered_inductive (context : RuntimeContext db) :
    Inductive context (fun _ _ => True) (fun _ t => Ordered t)
      (fun r => ∀ f ∈ r.finished, f.ending = .over → Returned f.turn) where
  init := fun f hf => by cases hf
  history := fun hsame hfinished => hsame.finished ▸ hfinished
  execute := id
  orphanEnds := id
  frame := fun _ ht => ht
  produce := fun htask ht => ht.produce htask _
  taskEnds := fun _ _ ht => ht.taskEnds _
  tool := fun _ _ _ ht => ⟨ht.early, ht.inOrder⟩
  start := fun {r request host answers} _ _ hfinished => by
    cases startTurn_starts context r request host answers with
    | ends bridge reaches =>
      have hnew : Ordered { r.newTurn request with bridge } :=
        ⟨fun _ => ⟨rfl, fun y hy => (by cases hy)⟩, [], rfl, rfl⟩
      exact Reaches.ordered reaches hnew hfinished
    | runs t turn finished number request starts =>
      refine ⟨fun t' ht' => ?_, finished ▸ hfinished⟩
      rw [turn, Option.some.injEq] at ht'
      subst ht'
      refine ⟨fun hnone => ?_, ?_⟩
      · rw [starts.task] at hnone
        cases hnone
      · unfold InOrder
        rw [starts.pc]
        refine ⟨[], ?_, by rw [starts.yielded]; rfl⟩
        rw [starts.produced, Turn.queued, starts.queue]
        rfl
  resume := fun _ _ ht hfinished hresume => Reaches.ordered (resume_reaches hresume) ht hfinished

/-- **Event fidelity.** In every run, a turn that is suspended at its state or its terminal
event, or whose generator returned without being closed at an event it passed on, has
yielded before that exactly the events that its projections and compaction callbacks
contained, in order, less completions and tool requests, unless one of them asked for a
tool outside the allowed names. -/
theorem events_faithful (context : RuntimeContext db) {r : ClaudeAgentSDKRuntime db}
    (hr : (runtimeSystem context).Reachable r) :
    (∀ t, r.turn = some t → t.AtItsEnd → OnlyAllowed t → Faithful t) ∧
      ∀ f ∈ r.finished, f.ending = .over → (∀ rest, f.turn.pc ≠ .yielding rest) →
        OnlyAllowed f.turn → Faithful f.turn := by
  have hordered := (ordered_inductive context).reachable hr
  have hfaithful : ∀ t : Turn db, OnlyAllowed t → Settled t → Faithful t := by
    rintro t hallowed (⟨hfaithful, -⟩ | hnative)
    · exact hfaithful
    · exact absurd hallowed hnative
  have hterminal : ∀ t : Turn db, Ordered t → t.pc = .yieldedTerminal → Settled t := by
    intro t ht hpc
    have horder := ht.inOrder
    unfold InOrder at horder
    rw [hpc] at horder
    exact horder
  refine ⟨fun t hturn hend hallowed => hfaithful t hallowed ?_,
    fun f hf hover hpc hallowed => hfaithful f.turn hallowed ?_⟩
  · have ht := hordered.turn t hturn
    rcases hend with hpc | hstate
    · exact hterminal t ht hpc
    · exact ht.settled (.inr (.inr (.inr (.inl hstate))))
  · have hreturned := hordered.history f hf hover
    rcases hreturned.place with hfailing | hend | ⟨rest, hyielding⟩
    · exact hreturned.ordered.settled hfailing
    · exact hterminal f.turn hreturned.ordered hend
    · exact absurd hyielding (hpc rest)

/-- A turn that passes on two events, the second behind a tool request, and completes. -/
theorem events_faithful_completed : ∃ r, (runtimeSystem textOnlyContext).Reachable r ∧
    (∃ f ∈ r.finished, f.turn.yielded.length = 3 ∧ f.turn.produced.length = 4) ∧
    (∀ t, r.turn = some t → t.AtItsEnd → OnlyAllowed t → Faithful t) ∧
      ∀ f ∈ r.finished, f.ending = .over → (∀ rest, f.turn.pc ≠ .yielding rest) →
        OnlyAllowed f.turn → Faithful f.turn := by
  obtain ⟨r, hr, hyielded⟩ := System.exists_reachable_of_run
    (S := runtimeSystem textOnlyContext)
    (P := fun r => ∃ f ∈ r.finished, f.turn.yielded.length = 3 ∧ f.turn.produced.length = 4)
    [.start deployRequest plainHost plainAnswers,
      .produce { events := [.compaction .started] },
      .produce { events := [.toolRequest (lit "t-1") (lit "mcp__hermes-tools__deploy"),
        .content (lit "done"), .completed] },
      .taskEnds (.returned { outcome := .complete }), .generator .returned none,
      .generator .next none, .generator .returned none, .generator .next none,
      .generator .returned none, .generator .next none]
    ⟨_, rfl, _, List.mem_singleton_self _, rfl, rfl⟩
  exact ⟨r, hr, hyielded, events_faithful textOnlyContext hr⟩

end ClaudeAgentSDKRuntime

end HermesClaude.Runtime
