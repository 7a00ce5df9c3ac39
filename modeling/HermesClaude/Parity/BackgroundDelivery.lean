/-
# Background delivery

A receipt waits for the completion of a batch on a queue that others go on filling.  Events of
other parents are held and put back when the waiting ends, however it ends; the first event of
its own parent is taken.  To replay a completion that was released, it is put back and the queue
is asked again.

Whatever is put meanwhile, no event is lost or doubled while a receipt waits.  A replay gives the
completion back exactly where nothing else was ever put before it; otherwise it takes another
event for good.  Nobody else takes events, and times are the choice of the environment.
-/

import HermesClaude.Library.System
import HermesClaude.Parity.GatewayEvents

namespace HermesClaude.Parity.BackgroundDelivery

open HermesClaude.Python HermesClaude.Library

/-- A dictionary on the queue, as an object of its own. -/
structure CompletionEvent where
  identity : Nat
  items : Frame

/-- What a receipt waits for. -/
structure Awaited where
  parentId : PyStr
  count : Nat
  model : PyStr

/-- How waiting ends. -/
inductive AwaitOutcome
  /-- The event is returned. -/
  | found (event : CompletionEvent)
  /-- `V4BackgroundDeliveryViolation(message)` for the event. -/
  | refused (event : CompletionEvent) (message : String)
  /-- The violation that there was no completion. -/
  | unobserved

/-- Where a receipt stands. -/
inductive Phase
  /-- In the loop of `_await_event`, with the events that it holds. -/
  | waiting (held : List CompletionEvent)
  /-- In its `finally`, with the events that are still to be put back. -/
  | restoring (held : List CompletionEvent) (outcome : AwaitOutcome)
  /-- `_await_event` is left. -/
  | ended (outcome : AwaitOutcome)
  /-- `_requeue` has put the event, behind what was queued. -/
  | requeued (event : CompletionEvent) (queued : List CompletionEvent)
  /-- `_requeue` is left: what it took from the queue, and whether it returns it. -/
  | replayed (event : CompletionEvent) (queued : List CompletionEvent)
      (taken : Option CompletionEvent) (result : Except String CompletionEvent)

/-- The queue and the receipt. -/
structure Delivery where
  /-- `registry.completion_queue`. -/
  queue : List CompletionEvent := []
  /-- The events that others have put, in order. -/
  put : List CompletionEvent := []
  phase : Phase := .waiting []

/-- One step of a producer, or of the receipt. -/
inductive Label
  | /-- A producer puts a dictionary. -/
    put (items : Frame)
  | /-- `completion_queue.get(timeout=0.25)` and what follows it. -/
    poll
  | /-- The deadline passes. -/
    expire
  | /-- One turn of the loop in `finally`, or its end. -/
    putBack
  | /-- The `put` of `_requeue`. -/
    requeue
  | /-- The `get` of `_requeue` and what follows it. -/
    replay

section Model

variable (awaited : Awaited)

/-- `event.get("parent_session_id") == parent_id`. -/
def isOfParent (event : CompletionEvent) : Bool :=
  (getItem event.items "parent_session_id").isText awaited.parentId

/-- The events that are not held. -/
def isOwn (event : CompletionEvent) : Bool :=
  (getItem event.items "type").isText (lit "async_delegation") && isOfParent awaited event

/-- `value == 0`. -/
def isZero : PyValue → Bool
  | .int i => i = 0
  | .bool b => !b
  | .float f => f = .finite 0
  | _ => false

/-- A child that has completed without the provider. -/
def isCompletedChild (item : PyValue) : Bool :=
  match item.mapping? with
  | some item =>
    (getItem item "status").isText (lit "completed") && isZero (getItem item "api_calls") &&
      (getItem item "model").isText awaited.model &&
      (getItem item "summary").isText (lit "v4 fixture child completed")
  | none => false

/-- The checks of an event of the parent. -/
def admitEvent (event : CompletionEvent) : Except String Unit :=
  match getItem event.items "status", getItem event.items "is_batch", getItem event.items "results" with
  | status, .bool true, .list results =>
    if !status.isText (lit "completed") || results.length != awaited.count then
      .error "observed completion is not the admitted batch"
    else if results.all (isCompletedChild awaited) then .ok ()
    else .error "provider-free child completion is incomplete"
  | _, _, _ => .error "observed completion is not the admitted batch"

/-- The outcome for an event of the parent. -/
def outcomeOf (event : CompletionEvent) : AwaitOutcome :=
  match admitEvent awaited event with
  | .ok () => .found event
  | .error message => .refused event message

/-- What `_requeue` makes of what it takes. -/
def replayResult (event taken : CompletionEvent) : Except String CompletionEvent :=
  if taken.identity = event.identity && isOfParent awaited taken then .ok taken
  else .error "requeue changed completion identity"

/-- The system of a receipt and its producers. -/
def next (s : Delivery) : Label → Option Delivery
  | .put items =>
    let event : CompletionEvent := ⟨s.put.length, items⟩
    some { s with queue := s.queue ++ [event], put := s.put ++ [event] }
  | .poll =>
    match s.phase, s.queue with
    | .waiting _, [] => some s
    | .waiting held, event :: rest =>
      if isOwn awaited event then
        some { s with queue := rest, phase := .restoring held (outcomeOf awaited event) }
      else some { s with queue := rest, phase := .waiting (held ++ [event]) }
    | _, _ => none
  | .expire =>
    match s.phase with
    | .waiting held => some { s with phase := .restoring held .unobserved }
    | _ => none
  | .putBack =>
    match s.phase with
    | .restoring [] outcome => some { s with phase := .ended outcome }
    | .restoring (event :: held) outcome =>
      some { s with queue := s.queue ++ [event], phase := .restoring held outcome }
    | _ => none
  | .requeue =>
    match s.phase with
    | .ended (.found event) =>
      some { s with queue := s.queue ++ [event], phase := .requeued event s.queue }
    | _ => none
  | .replay =>
    match s.phase, s.queue with
    | .requeued event queued, [] =>
      some { s with
        phase := .replayed event queued none (.error "released completion was not requeued") }
    | .requeued event queued, taken :: rest =>
      some { s with
        queue := rest
        phase := .replayed event queued (some taken) (replayResult awaited event taken) }
    | _, _ => none

/-- A receipt and its producers, from an empty queue on. -/
def deliverySystem : System Delivery Label where
  init := {}
  next := next awaited

end Model

/-! ## What waiting keeps -/

section Waiting

variable {awaited : Awaited} {s t : Delivery}

/-- How an outcome divides the events that were put: those that were passed over, the one that was
taken, and those behind it. -/
def Divides (awaited : Awaited) (put before after : List CompletionEvent) : AwaitOutcome → Prop
  | .found event =>
    put = before ++ event :: after ∧ isOwn awaited event = true ∧ admitEvent awaited event = .ok ()
  | .refused event message =>
    put = before ++ event :: after ∧ isOwn awaited event = true ∧
      admitEvent awaited event = .error message
  | .unobserved => put = before ++ after

/-- A queue in which these two lists of events stand, each in its order, and no others. -/
structure Shuffles (queue before after : List CompletionEvent) : Prop where
  perm : queue.Perm (before ++ after)
  before : before.Sublist queue
  after : after.Sublist queue

/-- Where the events are that were put. -/
def Accounted (awaited : Awaited) (s : Delivery) : Prop :=
  match s.phase with
  | .waiting held => s.put = held ++ s.queue ∧ ∀ event ∈ held, isOwn awaited event = false
  | .restoring held outcome => ∃ back after, Divides awaited s.put (back ++ held) after outcome ∧
      (∀ event ∈ back ++ held, isOwn awaited event = false) ∧ Shuffles s.queue back after
  | .ended outcome => ∃ before after, Divides awaited s.put before after outcome ∧
      (∀ event ∈ before, isOwn awaited event = false) ∧ Shuffles s.queue before after
  | .requeued event queued => isOwn awaited event = true ∧ ∃ before after later,
      s.put = before ++ event :: (after ++ later) ∧ Shuffles queued before after ∧
      s.queue = queued ++ event :: later
  | .replayed event queued taken result => isOwn awaited event = true ∧ ∃ before after later,
      s.put = before ++ event :: (after ++ later) ∧ Shuffles queued before after ∧
      ∃ first, taken = some first ∧ first :: s.queue = queued ++ event :: later ∧
        result = replayResult awaited event first

/-- One more event behind those that came later. -/
theorem Divides.put {put before after : List CompletionEvent} {outcome : AwaitOutcome}
    (h : Divides awaited put before after outcome) (event : CompletionEvent) :
    Divides awaited (put ++ [event]) before (after ++ [event]) outcome := by
  cases outcome with
  | found _ => exact ⟨by rw [h.1, List.append_assoc, List.cons_append], h.2⟩
  | refused _ _ => exact ⟨by rw [h.1, List.append_assoc, List.cons_append], h.2⟩
  | unobserved =>
    have hput : put = before ++ after := h
    exact (congrArg (· ++ [event]) hput).trans (List.append_assoc _ _ _)

theorem Shuffles.put {queue before after : List CompletionEvent} (h : Shuffles queue before after)
    (event : CompletionEvent) : Shuffles (queue ++ [event]) before (after ++ [event]) where
  perm := by
    rw [← List.append_assoc]
    exact h.perm.append_right [event]
  before := h.before.trans (List.sublist_append_left _ _)
  after := h.after.append (.refl _)

/-- An event that was passed over is put back. -/
theorem Shuffles.back {queue back after : List CompletionEvent} (h : Shuffles queue back after)
    (event : CompletionEvent) : Shuffles (queue ++ [event]) (back ++ [event]) after where
  perm := by
    have hmoved : (back ++ after ++ [event]).Perm (back ++ [event] ++ after) := by
      rw [List.append_assoc, List.append_assoc]
      exact List.perm_append_comm.append_left back
    exact (h.perm.append_right [event]).trans hmoved
  before := h.before.append (.refl _)
  after := h.after.trans (List.sublist_append_left _ _)

theorem outcomeOf_divides {put before after : List CompletionEvent} {event : CompletionEvent}
    (hput : put = before ++ event :: after) (hown : isOwn awaited event = true) :
    Divides awaited put before after (outcomeOf awaited event) := by
  rw [outcomeOf]
  cases hadmit : admitEvent awaited event with
  | ok _ => exact ⟨hput, hown, hadmit⟩
  | error message => exact ⟨hput, hown, hadmit⟩

/-- A producer only adds to what comes later. -/
theorem Accounted.put {items : Frame} (h : Accounted awaited s) (hnext : next awaited s (.put items) = some t) :
    Accounted awaited t := by
  obtain ⟨queue, put, phase⟩ := s
  cases hnext
  cases phase with
  | waiting held =>
    obtain ⟨hput, hforeign⟩ := h
    refine ⟨?_, hforeign⟩
    dsimp only at hput ⊢
    rw [hput, List.append_assoc]
  | restoring held outcome =>
    obtain ⟨back, after, hdivides, hforeign, hqueue⟩ := h
    exact ⟨back, after ++ [_], hdivides.put _, hforeign, hqueue.put _⟩
  | ended outcome =>
    obtain ⟨before, after, hdivides, hforeign, hqueue⟩ := h
    exact ⟨before, after ++ [_], hdivides.put _, hforeign, hqueue.put _⟩
  | requeued event queued =>
    obtain ⟨hown, before, after, later, hput, hqueued, hqueue⟩ := h
    refine ⟨hown, before, after, later ++ [⟨put.length, items⟩], ?_, hqueued, ?_⟩
    · dsimp only at hput ⊢
      simp only [hput, List.append_assoc, List.cons_append]
    · dsimp only at hqueue ⊢
      simp only [hqueue, List.append_assoc, List.cons_append]
  | replayed event queued taken result =>
    obtain ⟨hown, before, after, later, hput, hqueued, first, htaken, hqueue, hresult⟩ := h
    refine ⟨hown, before, after, later ++ [⟨put.length, items⟩], ?_, hqueued, first, htaken, ?_, hresult⟩
    · dsimp only at hput ⊢
      simp only [hput, List.append_assoc, List.cons_append]
    · dsimp only at hqueue ⊢
      rw [← List.cons_append, hqueue]
      simp only [List.append_assoc, List.cons_append]

/-- Polling holds what is foreign, and stops at what is not. -/
theorem Accounted.poll (h : Accounted awaited s) (hnext : next awaited s .poll = some t) :
    Accounted awaited t := by
  obtain ⟨queue, put, phase⟩ := s
  cases phase with
  | waiting held =>
    obtain ⟨hput, hforeign⟩ := h
    cases queue with
    | nil =>
      cases hnext
      exact ⟨hput, hforeign⟩
    | cons event rest =>
      dsimp only at hput
      simp only [next] at hnext
      split_ifs at hnext with hown
      · cases hnext
        refine ⟨[], rest, outcomeOf_divides hput hown, hforeign, ?_⟩
        exact ⟨.refl _, List.nil_sublist _, .refl _⟩
      · cases hnext
        refine ⟨?_, ?_⟩
        · dsimp only
          rw [hput, List.append_assoc, List.singleton_append]
        · rw [List.forall_mem_append, List.forall_mem_singleton]
          exact ⟨hforeign, Bool.eq_false_iff.mpr hown⟩
  | _ => cases hnext

theorem Accounted.expire (h : Accounted awaited s) (hnext : next awaited s .expire = some t) :
    Accounted awaited t := by
  obtain ⟨queue, put, phase⟩ := s
  cases phase with
  | waiting held =>
    obtain ⟨hput, hforeign⟩ := h
    cases hnext
    exact ⟨[], queue, hput, hforeign, ⟨.refl _, List.nil_sublist _, .refl _⟩⟩
  | _ => cases hnext

theorem Accounted.putBack (h : Accounted awaited s) (hnext : next awaited s .putBack = some t) :
    Accounted awaited t := by
  obtain ⟨queue, put, phase⟩ := s
  cases phase with
  | restoring held outcome =>
    obtain ⟨back, after, hdivides, hforeign, hqueue⟩ := h
    cases held with
    | nil =>
      cases hnext
      rw [List.append_nil] at hdivides hforeign
      exact ⟨back, after, hdivides, hforeign, hqueue⟩
    | cons event held =>
      cases hnext
      have hmoved : back ++ event :: held = back ++ [event] ++ held := by
        rw [List.append_assoc, List.singleton_append]
      rw [hmoved] at hdivides hforeign
      exact ⟨back ++ [event], after, hdivides, hforeign, hqueue.back event⟩
  | _ => cases hnext

theorem Accounted.requeue (h : Accounted awaited s) (hnext : next awaited s .requeue = some t) :
    Accounted awaited t := by
  obtain ⟨queue, put, phase⟩ := s
  cases phase with
  | ended outcome =>
    cases outcome with
    | found event =>
      obtain ⟨before, after, hdivides, -, hqueue⟩ := h
      cases hnext
      refine ⟨hdivides.2.1, before, after, [], ?_, hqueue, rfl⟩
      rw [List.append_nil]
      exact hdivides.1
    | _ => cases hnext
  | _ => cases hnext

theorem Accounted.replay (h : Accounted awaited s) (hnext : next awaited s .replay = some t) :
    Accounted awaited t := by
  obtain ⟨queue, put, phase⟩ := s
  cases phase with
  | requeued event queued =>
    obtain ⟨hown, before, after, later, hput, hqueued, hqueue⟩ := h
    cases queue with
    | nil =>
      have hlength := congrArg List.length hqueue
      simp at hlength
    | cons first rest =>
      cases hnext
      exact ⟨hown, before, after, later, hput, hqueued, first, rfl, hqueue, rfl⟩
  | _ => cases hnext

theorem accounted_of_reachable (h : (deliverySystem awaited).Reachable s) : Accounted awaited s := by
  apply System.Reachable.invariant _ _ h
  · exact ⟨rfl, List.forall_mem_nil _⟩
  · intro s t label _ hs hnext
    cases label with
    | put items => exact hs.put hnext
    | poll => exact hs.poll hnext
    | expire => exact hs.expire hnext
    | putBack => exact hs.putBack hnext
    | requeue => exact hs.requeue hnext
    | replay => exact hs.replay hnext

/-- Only a producer puts events that were not put before. -/
theorem put_of_next {label : Label} (hnext : next awaited s label = some t) :
    t.put = s.put ∨ ∃ items, t.put = s.put ++ [⟨s.put.length, items⟩] := by
  cases label with
  | put items =>
    cases hnext
    exact .inr ⟨items, rfl⟩
  | poll =>
    simp only [next] at hnext
    split at hnext
    · cases hnext
      exact .inl rfl
    · split_ifs at hnext <;> cases hnext <;> exact .inl rfl
    · cases hnext
  | expire | putBack | requeue | replay =>
    simp only [next] at hnext
    split at hnext <;> cases hnext <;> exact .inl rfl

/-- Events are numbered in the order in which they were put. -/
theorem identities_of_reachable (h : (deliverySystem awaited).Reachable s) :
    s.put.map CompletionEvent.identity = List.range s.put.length := by
  apply System.Reachable.invariant _ _ h
  · rfl
  · intro s t label _ hs hnext
    rcases put_of_next hnext with hput | ⟨items, hput⟩
    · rw [hput]
      exact hs
    · rw [hput, List.map_append, hs, List.length_append, List.length_singleton, List.range_succ]
      rfl

end Waiting

section Results

variable {awaited : Awaited} {s : Delivery}

/-- **Waiting loses nothing.** Whatever producers put while a receipt waits, when it has ended every
event is still queued once, but for the one that decided; those that were put before that one are
foreign, and neither they nor those behind it have changed their order. -/
theorem waiting_loses_nothing (h : (deliverySystem awaited).Reachable s) {outcome : AwaitOutcome}
    (hphase : s.phase = .ended outcome) :
    ∃ before after, Divides awaited s.put before after outcome ∧
      (∀ event ∈ before, isOwn awaited event = false) ∧ Shuffles s.queue before after := by
  have haccounted := accounted_of_reachable h
  rw [Accounted, hphase] at haccounted
  exact haccounted

/-- An admitted completion without children. -/
def emptyBatch : Frame :=
  [(.str (lit "type"), .str (lit "async_delegation")), (.str (lit "parent_session_id"), .str []),
    (.str (lit "status"), .str (lit "completed")), (.str (lit "is_batch"), .bool true),
    (.str (lit "results"), .list [])]

/-- What is awaited of it. -/
def emptyAwaited : Awaited := ⟨[], 0, []⟩

/-- A foreign event is put first, and put back when the completion is found. -/
def foreignFirst : List Label := [.put [], .put emptyBatch, .poll, .poll, .putBack, .putBack]

theorem waiting_loses_nothing_found : ∃ s outcome, (deliverySystem emptyAwaited).Reachable s ∧
    s.phase = .ended outcome ∧ ∃ before after, Divides emptyAwaited s.put before after outcome ∧
      (∀ event ∈ before, isOwn emptyAwaited event = false) ∧ Shuffles s.queue before after := by
  obtain ⟨s, hreached, hphase⟩ : ∃ s, (deliverySystem emptyAwaited).Reachable s ∧
      s.phase = .ended (.found ⟨1, emptyBatch⟩) :=
    System.exists_reachable_of_run foreignFirst ⟨_, rfl, rfl⟩
  exact ⟨s, _, hreached, hphase, waiting_loses_nothing hreached hphase⟩

end Results

end HermesClaude.Parity.BackgroundDelivery
