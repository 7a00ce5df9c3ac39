/-
# The event queue of a gateway

The reader puts event frames into a bounded queue.  `next_event` takes the first frame there
is; `wait_event` takes frames until one matches, and puts the others back in front, into a
deque that silently drops what exceeds its limit.

No frame is dropped there: what a call has put aside and what is still in the deque never
exceed the limit together.  So every frame is taken for good by one call at most, and the
frames that are left stand in the order in which they arrived.
-/

import HermesClaude.Library.System
import HermesClaude.Parity.GatewayEvents

namespace HermesClaude.Parity

open HermesClaude.Python HermesClaude.Library

/-- `MAX_QUEUE`. -/
def maxQueue : Nat := 1024

/-- What a gateway is built with. -/
structure GatewayConfig where
  library : GatewayLibrary
  hosts : List PyStr := hostTools
  mcps : List PyStr := mcpTools
  maxBacklog : Nat := maxQueue
  bounded : 1 ≤ maxBacklog ∧ maxBacklog ≤ maxQueue := by decide

/-- A queued event frame, with its place in the order of arrival. -/
structure QueuedFrame where
  number : Nat
  frame : Frame

/-- What a projector does with the frame it is given. -/
inductive Projected
  | /-- There is no projector, or it returns `None`. -/
    absent
  | handle (handle : OpaqueHandle)
  | /-- It returns anything else. -/
    invalid
  | raises
  deriving DecidableEq

/-- The local variables of a `wait_event`. -/
structure Waiting where
  expected : PyStr
  sessionId : Option PyStr
  deferred : List QueuedFrame := []

/-- How a call ended. -/
structure CallEnd where
  /-- The frame that the call took and did not put back. -/
  taken : Option QueuedFrame
  /-- What the projector did, if it was run. -/
  projected : Option Projected
  result : Except GatewayError EventProjection

/-- `Gateway`, as far as events go. -/
structure GatewayState where
  backlog : List QueuedFrame := []
  /-- The queue of event frames; `none` is `_STOP`. -/
  events : List (Option QueuedFrame) := []
  /-- `_reader_error`. -/
  readerError : Option GatewayError := none
  /-- The `wait_event` in progress. -/
  call : Option Waiting := none
  /-- The frames that were accepted into the queue, in order. -/
  arrived : List QueuedFrame := []
  /-- The calls that have ended, in order. -/
  ended : List CallEnd := []

/-- One step of the reader, or of the thread that waits for events. -/
inductive GatewayLabel
  | /-- The reader enqueues an event frame. -/
    enqueue (frame : Frame)
  | /-- `_signal_closed`. -/
    signalClosed
  | /-- `next_event`; where there is nothing to take it times out. -/
    nextEvent (projected : Projected)
  | /-- `wait_event`, up to its loop. -/
    waitEvent (eventType : PyStr) (sessionId : Option PyStr)
  | /-- The loop of `wait_event` takes a frame; `projected` is for the one that matches. -/
    poll (projected : Projected)
  | /-- The deadline of `wait_event` passes, while it waits for a frame or between two. -/
    expire (waits : Bool)

/-- `deque.appendleft` of a deque with a limit. -/
def appendLeft (maxlen : Nat) (frame : QueuedFrame) (deque : List QueuedFrame) : List QueuedFrame :=
  (frame :: deque).take maxlen

section Gateway

variable (config : GatewayConfig)

/-- `_load` of a frame that is an object already. -/
def load (frame : Frame) : Except GatewayError Bytes :=
  match config.library.dumps (.dict frame) with
  | none => .error (.protocol "frame is not bounded JSON")
  | some encoded =>
    if encoded.length > maxFrameBytes then .error (.protocol "frame exceeds the bounded size")
    else .ok encoded

/-- `_load` and `_event_projection` of a queued frame. -/
def projectFrame (frame : Frame) : Except GatewayError EventProjection := do
  let encoded ← load config frame
  eventProjection config.library config.hosts config.mcps frame encoded

/-- `_run_projector`, and the projection with what it yields. -/
def runProjector (projection : EventProjection) : Projected → Except GatewayError EventProjection
  | .absent => .ok projection
  | .handle handle => .ok { projection with projection := some handle }
  | .invalid => .error (.protocol "projector returned an invalid handle")
  | .raises => .error (.protocol "projector failed")

/-- A frame is not the one a `wait_event` waits for. -/
def Waiting.skips (waiting : Waiting) (frame : Frame) : Bool :=
  !(getItem (params frame) "type").isText waiting.expected ||
    waiting.sessionId.any fun id => !(getItem (params frame) "session_id").isText id

namespace GatewayState

/-- `backlog.popleft() if backlog else events.get()`: what is taken, `none` where nothing is
there. -/
def pop (s : GatewayState) : Option (Option QueuedFrame × GatewayState) :=
  match s.backlog with
  | first :: rest => some (some first, { s with backlog := rest })
  | [] =>
    match s.events with
    | [] => none
    | first :: rest => some (first, { s with events := rest })

/-- A call is over. -/
def endCall (s : GatewayState) (ended : CallEnd) : GatewayState :=
  { s with ended := s.ended ++ [ended] }

/-- The `finally` of `wait_event`. -/
def restore (s : GatewayState) (deferred : List QueuedFrame) : GatewayState :=
  { s with
    backlog := deferred.foldr (appendLeft config.maxBacklog) s.backlog
    call := none }

/-- What reading `_STOP` raises. -/
def stopError (s : GatewayState) : GatewayError :=
  s.readerError.getD (.closed "gateway exited before the requested frame")

/-- `next_event`. -/
def nextEvent (s : GatewayState) (projected : Projected) : GatewayState :=
  match s.pop with
  | none => s.endCall ⟨none, none, .error (.timeout "gateway response or event timed out")⟩
  | some (none, s) => s.endCall ⟨none, none, .error s.stopError⟩
  | some (some taken, s) =>
    match projectFrame config taken.frame with
    | .error failure => s.endCall ⟨some taken, none, .error failure⟩
    | .ok projection => s.endCall ⟨some taken, some projected, runProjector projection projected⟩

/-- The loop of `wait_event`, from one `get` to the next. -/
def poll (s : GatewayState) (waiting : Waiting) (projected : Projected) : Option GatewayState :=
  match s.pop with
  | none => none
  | some (none, s) =>
    some ((s.restore config waiting.deferred).endCall ⟨none, none, .error s.stopError⟩)
  | some (some taken, s) =>
    match projectFrame config taken.frame with
    | .error failure =>
      some ((s.restore config waiting.deferred).endCall ⟨some taken, none, .error failure⟩)
    | .ok projection =>
      if waiting.skips taken.frame then
        let deferred := waiting.deferred ++ [taken]
        if deferred.length ≥ config.maxBacklog then
          some ((s.restore config deferred).endCall ⟨none, none,
            .error (.protocol "event backlog exceeds the bounded count")⟩)
        else some { s with call := some { waiting with deferred } }
      else
        some ((s.restore config waiting.deferred).endCall
          ⟨some taken, some projected, runProjector projection projected⟩)

/-- The effect of one step, or `none` where it is not enabled. -/
def next (s : GatewayState) : GatewayLabel → Option GatewayState
  | .enqueue frame =>
    if s.events.length < config.maxBacklog then
      let queued : QueuedFrame := ⟨s.arrived.length, frame⟩
      some { s with events := s.events ++ [some queued], arrived := s.arrived ++ [queued] }
    else
      some { s with
        readerError := some (.protocol "gateway emitted an invalid or excessive frame") }
  | .signalClosed =>
    some (if s.events.length < config.maxBacklog then { s with events := s.events ++ [none] } else s)
  | .nextEvent projected =>
    match s.call with
    | some _ => none
    | none => some (s.nextEvent config projected)
  | .waitEvent eventType sessionId =>
    match s.call, kind (.str eventType) with
    | some _, _ => none
    | none, .error failure => some (s.endCall ⟨none, none, .error failure⟩)
    | none, .ok expected =>
      if sessionId = some [] then
        some (s.endCall ⟨none, none, .error (.value "session_id is invalid")⟩)
      else some { s with call := some { expected, sessionId } }
  | .poll projected => s.call.bind fun waiting => s.poll config waiting projected
  | .expire waits => s.call.bind fun waiting =>
    if waits && s.pop.isSome then none
    else
      some ((s.restore config waiting.deferred).endCall ⟨none, none, .error (.timeout
        (if waits then "gateway response or event timed out" else "gateway event timed out"))⟩)

end GatewayState

/-- The system of one gateway, from its start. -/
def gatewaySystem : System GatewayState GatewayLabel where
  init := {}
  next := GatewayState.next config

end Gateway

/-! ## What is left -/

namespace GatewayState

/-- The frames that have been put aside by the call in progress. -/
def deferred (s : GatewayState) : List QueuedFrame := s.call.elim [] Waiting.deferred

/-- The frames in the deque and in the queue. -/
def waiting (s : GatewayState) : List QueuedFrame := s.backlog ++ s.events.filterMap id

/-- All frames that are left, in the order in which they will be taken. -/
def pending (s : GatewayState) : List QueuedFrame := s.deferred ++ s.waiting

/-- The frames that calls took for good. -/
def taken (s : GatewayState) : List QueuedFrame := s.ended.filterMap CallEnd.taken

/-- The frames that calls returned, with what they returned. -/
def returned (s : GatewayState) : List (QueuedFrame × EventProjection) :=
  s.ended.filterMap fun c => c.taken.bind fun frame =>
    c.result.toOption.map fun projection => (frame, projection)

/-- Taking a frame takes the first of the frames that are left in the deque and the queue. -/
theorem pop_some {s t : GatewayState} {frame : QueuedFrame} (h : s.pop = some (some frame, t)) :
    s.waiting = frame :: t.waiting ∧ t.call = s.call ∧ t.arrived = s.arrived ∧
      t.ended = s.ended ∧
      (s.backlog.length = t.backlog.length + 1 ∨ (s.backlog = [] ∧ t.backlog = [])) := by
  unfold pop at h
  split at h
  next first rest hbacklog =>
    cases h
    refine ⟨?_, rfl, rfl, rfl, .inl (by rw [hbacklog]; rfl)⟩
    simp [waiting, hbacklog]
  next hbacklog =>
    split at h
    next => cases h
    next first rest hevents =>
      cases h
      exact ⟨by simp [waiting, hbacklog, hevents], rfl, rfl, rfl, .inr ⟨hbacklog, hbacklog⟩⟩

/-- Taking `_STOP` takes no frame. -/
theorem pop_stop {s t : GatewayState} (h : s.pop = some (none, t)) :
    s.waiting = t.waiting ∧ t.call = s.call ∧ t.arrived = s.arrived ∧ t.ended = s.ended ∧
      t.backlog = s.backlog := by
  unfold pop at h
  split at h
  next first rest hbacklog => cases h
  next hbacklog =>
    split at h
    next => cases h
    next first rest hevents =>
      cases h
      exact ⟨by simp [waiting, hbacklog, hevents], rfl, rfl, rfl, rfl⟩

end GatewayState

/-- Putting frames back in front drops none, where there is room for all of them. -/
theorem foldr_appendLeft {maxlen : Nat} {frames deque : List QueuedFrame}
    (h : frames.length + deque.length ≤ maxlen) :
    frames.foldr (appendLeft maxlen) deque = frames ++ deque := by
  induction frames with
  | nil => rfl
  | cons frame rest ih =>
    rw [List.length_cons] at h
    rw [List.foldr_cons, ih (by omega), appendLeft, ← List.cons_append]
    apply List.take_of_length_le
    rw [List.length_append, List.length_cons]
    exact h

/-! ## The books -/

section Books

variable (config : GatewayConfig)

/-- What became of a frame that a call took: it was returned as what it projects to, or the
projector failed, or it projects to nothing. -/
def CallEnd.Accounts (c : CallEnd) : Prop :=
  ∀ frame, c.taken = some frame →
    (∃ failure, projectFrame config frame.frame = .error failure) ∨
    (∃ projection handle, projectFrame config frame.frame = .ok projection ∧
      c.result = .ok { projection with projection := handle }) ∨
    c.projected = some .invalid ∨ c.projected = some .raises

/-- The invariant of a gateway's queue. -/
structure Books (s : GatewayState) : Prop where
  /-- Every accepted frame is left, or was taken by one call. -/
  balance : (s.pending ++ s.taken).Perm s.arrived
  /-- What is left stands in the order of arrival. -/
  order : s.pending.Sublist s.arrived
  /-- Frames are told apart. -/
  numbers : s.arrived.map QueuedFrame.number = List.range s.arrived.length
  accounts : ∀ c ∈ s.ended, c.Accounts config
  /-- There is room for what was put aside. -/
  room : s.deferred.length + s.backlog.length ≤ config.maxBacklog
  below : s.call.isSome = true → s.deferred.length < config.maxBacklog

variable {config} {s t : GatewayState} {c : CallEnd} {frame : QueuedFrame}

theorem accounts_of_not_taken (h : c.taken = none) : c.Accounts config := by
  intro frame htaken
  rw [h] at htaken
  cases htaken

theorem accounts_of_refused {failure : GatewayError}
    (h : projectFrame config frame.frame = .error failure) :
    CallEnd.Accounts config ⟨some frame, none, .error failure⟩ := by
  intro taken htaken
  cases htaken
  exact .inl ⟨failure, h⟩

theorem accounts_of_projected {projection : EventProjection} (projected : Projected)
    (h : projectFrame config frame.frame = .ok projection) :
    CallEnd.Accounts config ⟨some frame, some projected, runProjector projection projected⟩ := by
  intro taken htaken
  cases htaken
  cases projected with
  | absent => exact .inr (.inl ⟨projection, projection.projection, h, rfl⟩)
  | handle handle => exact .inr (.inl ⟨projection, some handle, h, rfl⟩)
  | invalid => exact .inr (.inr (.inl rfl))
  | raises => exact .inr (.inr (.inr rfl))

/-- A step that takes no frame keeps the books. -/
theorem Books.keep (h : Books config s) (hpending : t.pending = s.pending)
    (harrived : t.arrived = s.arrived)
    (hended : t.ended = s.ended ∨ ∃ c, c.taken = none ∧ t.ended = s.ended ++ [c])
    (hroom : t.deferred.length + t.backlog.length ≤ config.maxBacklog)
    (hbelow : t.call.isSome = true → t.deferred.length < config.maxBacklog) : Books config t := by
  have htaken : t.taken = s.taken := by
    rcases hended with hended | ⟨c, hc, hended⟩
    · rw [GatewayState.taken, hended, GatewayState.taken]
    · rw [GatewayState.taken, hended, GatewayState.taken, List.filterMap_append]
      simp [hc]
  refine ⟨?_, ?_, ?_, ?_, hroom, hbelow⟩
  · rw [hpending, htaken, harrived]
    exact h.balance
  · rw [hpending, harrived]
    exact h.order
  · rw [harrived]
    exact h.numbers
  · intro c hc
    rcases hended with hended | ⟨last, hlast, hended⟩
    · exact h.accounts c (hended ▸ hc)
    · rw [hended] at hc
      rcases List.mem_append.mp hc with hc | hc
      · exact h.accounts c hc
      · rw [List.mem_singleton.mp hc]
        exact accounts_of_not_taken hlast

/-- A call that ends with a frame takes it off the pending ones. -/
theorem Books.take (h : Books config s) {front rest : List QueuedFrame}
    (hbefore : s.pending = front ++ frame :: rest) (hafter : t.pending = front ++ rest)
    (harrived : t.arrived = s.arrived) (hended : t.ended = s.ended ++ [c])
    (htaken : c.taken = some frame) (haccounts : c.Accounts config)
    (hroom : t.deferred.length + t.backlog.length ≤ config.maxBacklog)
    (hcall : t.call = none) : Books config t := by
  have hall : t.taken = s.taken ++ [frame] := by
    rw [GatewayState.taken, hended, List.filterMap_append, ← GatewayState.taken]
    simp [htaken]
  refine ⟨?_, ?_, ?_, ?_, hroom, ?_⟩
  · have hbalance := h.balance
    rw [hbefore, List.append_assoc, List.cons_append] at hbalance
    rw [hafter, hall, harrived, List.append_assoc]
    refine List.Perm.trans ?_ hbalance
    apply List.Perm.append_left
    rw [← List.append_assoc]
    exact List.perm_append_singleton frame (rest ++ s.taken)
  · rw [hafter, harrived]
    have horder := h.order
    rw [hbefore] at horder
    refine List.Sublist.trans ?_ horder
    exact List.Sublist.append_left (List.sublist_cons_self frame rest) front
  · rw [harrived]
    exact h.numbers
  · intro other hother
    rw [hended] at hother
    rcases List.mem_append.mp hother with hother | hother
    · exact h.accounts other hother
    · rw [List.mem_singleton.mp hother]
      exact haccounts
  · intro hsome
    rw [hcall] at hsome
    cases hsome

/-- The `finally` of `wait_event` puts back all that was put aside. -/
theorem restore_pending {deferred : List QueuedFrame}
    (hroom : deferred.length + s.backlog.length ≤ config.maxBacklog) :
    (s.restore config deferred).pending = deferred ++ s.waiting ∧
      (s.restore config deferred).backlog = deferred ++ s.backlog := by
  have hbacklog : (s.restore config deferred).backlog = deferred ++ s.backlog :=
    foldr_appendLeft hroom
  refine ⟨?_, hbacklog⟩
  have hwaiting : (s.restore config deferred).waiting =
      (s.restore config deferred).backlog ++ s.events.filterMap id := rfl
  have hdeferred : (s.restore config deferred).deferred = [] := rfl
  rw [GatewayState.pending, hdeferred, hwaiting, hbacklog, List.nil_append, List.append_assoc]
  rfl

theorem deferred_of_none (hcall : s.call = none) : s.deferred = [] := by
  rw [GatewayState.deferred, hcall]
  rfl

theorem deferred_of_some {waiting : Waiting} (hcall : s.call = some waiting) :
    s.deferred = waiting.deferred := by
  rw [GatewayState.deferred, hcall]
  rfl

theorem pending_of_none (hcall : s.call = none) : s.pending = s.waiting := by
  rw [GatewayState.pending, deferred_of_none hcall, List.nil_append]

/-- `next_event` keeps the books. -/
theorem Books.nextEvent (h : Books config s) (hcall : s.call = none) (projected : Projected) :
    Books config (s.nextEvent config projected) := by
  have hroom := h.room
  rw [deferred_of_none hcall, List.length_nil, Nat.zero_add] at hroom
  unfold GatewayState.nextEvent
  split
  next => exact h.keep rfl rfl (.inr ⟨_, rfl, rfl⟩) h.room h.below
  next popped hpop =>
    obtain ⟨hwaiting, hsame, harrived, hended, hbacklog⟩ := GatewayState.pop_stop hpop
    have hidle : popped.call = none := hsame.trans hcall
    refine h.keep (t := popped.endCall _) ?_ harrived (.inr ⟨_, ?_, congrArg (· ++ [_]) hended⟩) ?_ ?_
    · show popped.pending = s.pending
      rw [pending_of_none hidle, pending_of_none hcall, hwaiting]
    · rfl
    · show popped.deferred.length + popped.backlog.length ≤ config.maxBacklog
      rw [deferred_of_none hidle, hbacklog, List.length_nil, Nat.zero_add]
      exact hroom
    · intro hsome
      have hsome' : popped.call.isSome = true := hsome
      rw [hidle] at hsome'
      cases hsome'
  next frame popped hpop =>
    obtain ⟨hwaiting, hsame, harrived, hended, hbacklog⟩ := GatewayState.pop_some hpop
    have hidle : popped.call = none := hsame.trans hcall
    have hshrinks : popped.backlog.length ≤ s.backlog.length := by
      rcases hbacklog with hlength | ⟨hnil, hnil'⟩
      · omega
      · rw [hnil, hnil']
    have hbefore : s.pending = [] ++ frame :: popped.waiting := by
      rw [pending_of_none hcall, hwaiting, List.nil_append]
    have hafter : popped.pending = [] ++ popped.waiting := pending_of_none hidle
    have hfits : popped.deferred.length + popped.backlog.length ≤ config.maxBacklog := by
      rw [deferred_of_none hidle, List.length_nil, Nat.zero_add]
      exact hshrinks.trans hroom
    have htakes : ∀ c : CallEnd, c.taken = some frame → c.Accounts config →
        Books config (popped.endCall c) := by
      intro c htaken haccounts
      have hends : (popped.endCall c).ended = s.ended ++ [c] := by
        rw [GatewayState.endCall, hended]
      exact h.take hbefore hafter harrived hends htaken haccounts hfits hidle
    split
    next failure hrefused => exact htakes _ rfl (accounts_of_refused hrefused)
    next projection hprojection => exact htakes _ rfl (accounts_of_projected projected hprojection)

/-- One round of the loop of `wait_event` keeps the books. -/
theorem Books.poll (h : Books config s) {waiting : Waiting} (hcall : s.call = some waiting)
    {projected : Projected} (hpoll : s.poll config waiting projected = some t) :
    Books config t := by
  have hroom := h.room
  have hbelow := h.below (by rw [hcall]; rfl)
  rw [deferred_of_some hcall] at hroom hbelow
  have hpending : s.pending = waiting.deferred ++ s.waiting := by
    rw [GatewayState.pending, deferred_of_some hcall]
  unfold GatewayState.poll at hpoll
  split at hpoll
  next => cases hpoll
  next popped hpop =>
    obtain ⟨hwaiting, -, harrived, hended, hbacklog⟩ := GatewayState.pop_stop hpop
    rw [← hbacklog] at hroom
    obtain ⟨hrestored, hback⟩ := restore_pending hroom
    cases hpoll
    refine h.keep (t := (popped.restore config waiting.deferred).endCall _) ?_ harrived
      (.inr ⟨_, ?_, congrArg (· ++ [_]) hended⟩) ?_ ?_
    · rw [hpending, hwaiting]
      exact hrestored
    · rfl
    · show 0 + (popped.restore config waiting.deferred).backlog.length ≤ config.maxBacklog
      rw [hback, List.length_append]
      omega
    · intro hsome
      cases hsome
  next frame popped hpop =>
    obtain ⟨hwaiting, hsame, harrived, hended, hbacklog⟩ := GatewayState.pop_some hpop
    rw [hwaiting] at hpending
    have hfits : waiting.deferred.length + popped.backlog.length ≤ config.maxBacklog := by
      rcases hbacklog with hlength | ⟨hnil, hnil'⟩
      · omega
      · rw [hnil', List.length_nil]
        omega
    -- a call that ends with the frame puts the others back
    have htakes : ∀ c : CallEnd, c.taken = some frame → c.Accounts config →
        Books config ((popped.restore config waiting.deferred).endCall c) := by
      intro c htaken haccounts
      obtain ⟨hrestored, hback⟩ := restore_pending hfits
      refine h.take hpending hrestored harrived ?_ htaken haccounts ?_ rfl
      · rw [← hended]
        rfl
      · show 0 + (popped.restore config waiting.deferred).backlog.length ≤ config.maxBacklog
        rw [hback, List.length_append]
        omega
    split at hpoll
    next failure hrefused =>
      cases hpoll
      exact htakes _ rfl (accounts_of_refused hrefused)
    next projection hprojection =>
      dsimp only at hpoll
      split_ifs at hpoll with hskips hfull
      · -- the deque has room for one frame more, as this one came out of it or it is empty
        have hfits' : (waiting.deferred ++ [frame]).length + popped.backlog.length ≤
            config.maxBacklog := by
          rw [List.length_append, List.length_singleton]
          rcases hbacklog with hlength | ⟨hnil, hnil'⟩
          · omega
          · rw [hnil', List.length_nil]
            omega
        obtain ⟨hrestored, hback⟩ := restore_pending hfits'
        cases hpoll
        refine h.keep (t := (popped.restore config (waiting.deferred ++ [frame])).endCall _) ?_
          harrived (.inr ⟨_, ?_, congrArg (· ++ [_]) hended⟩) ?_ ?_
        · have hsame : waiting.deferred ++ [frame] ++ popped.waiting = s.pending := by
            rw [hpending, List.append_assoc, List.singleton_append]
          exact hrestored.trans hsame
        · rfl
        · show 0 + (popped.restore config (waiting.deferred ++ [frame])).backlog.length ≤ _
          rw [hback, List.length_append]
          omega
        · intro hsome
          cases hsome
      · cases hpoll
        refine h.keep (t := { popped with call := some _ }) ?_ harrived (.inl hended) ?_ ?_
        · rw [hpending]
          show (waiting.deferred ++ [frame]) ++ popped.waiting = _
          rw [List.append_assoc]
          rfl
        · show (waiting.deferred ++ [frame]).length + popped.backlog.length ≤ config.maxBacklog
          rw [List.length_append, List.length_singleton]
          rcases hbacklog with hlength | ⟨hnil, hnil'⟩
          · omega
          · rw [hnil', List.length_nil]
            omega
        · intro _
          show (waiting.deferred ++ [frame]).length < config.maxBacklog
          exact Nat.lt_of_not_le hfull
      · cases hpoll
        exact htakes _ rfl (accounts_of_projected projected hprojection)

/-- A frame that arrives is the last of the pending ones. -/
theorem Books.enqueue (h : Books config s) (frame : Frame) :
    Books config { s with
      events := s.events ++ [some ⟨s.arrived.length, frame⟩]
      arrived := s.arrived ++ [⟨s.arrived.length, frame⟩] } := by
  have hpending : ∀ queued, s.deferred ++ (s.backlog ++ (s.events ++ [some queued]).filterMap id) =
      s.pending ++ [queued] := by
    intro queued
    rw [GatewayState.pending, GatewayState.waiting]
    simp
  refine ⟨?_, ?_, ?_, h.accounts, h.room, h.below⟩
  · show ((s.deferred ++ (s.backlog ++ List.filterMap id _)) ++ s.taken).Perm _
    rw [hpending, List.append_assoc]
    refine List.Perm.trans ?_ (h.balance.append_right _)
    rw [List.append_assoc]
    exact List.Perm.append_left _ List.perm_append_comm
  · show (s.deferred ++ (s.backlog ++ List.filterMap id _)).Sublist _
    rw [hpending]
    exact h.order.append (List.Sublist.refl _)
  · rw [List.map_append, h.numbers, List.length_append, List.length_singleton, List.range_succ]
    rfl

/-- **Step.** Every step keeps the books. -/
theorem Books.next (h : Books config s) {label : GatewayLabel} (hnext : s.next config label = some t) :
    Books config t := by
  cases label with
  | enqueue frame =>
    rw [GatewayState.next] at hnext
    split_ifs at hnext
    · cases hnext
      exact h.enqueue frame
    · cases hnext
      exact h.keep rfl rfl (.inl rfl) h.room h.below
  | signalClosed =>
    rw [GatewayState.next, Option.some.injEq] at hnext
    split_ifs at hnext
    · subst hnext
      refine h.keep ?_ rfl (.inl rfl) h.room h.below
      show s.deferred ++ (s.backlog ++ (s.events ++ [none]).filterMap id) = s.pending
      rw [GatewayState.pending, GatewayState.waiting]
      simp
    · exact hnext ▸ h
  | nextEvent projected =>
    rw [GatewayState.next] at hnext
    split at hnext
    next => cases hnext
    next hcall =>
      cases hnext
      exact h.nextEvent hcall projected
  | waitEvent eventType sessionId =>
    rw [GatewayState.next] at hnext
    split at hnext
    next => cases hnext
    next failure hcall hkind =>
      cases hnext
      exact h.keep rfl rfl (.inr ⟨_, rfl, rfl⟩) h.room h.below
    next expected hcall hkind =>
      split_ifs at hnext
      · cases hnext
        exact h.keep rfl rfl (.inr ⟨_, rfl, rfl⟩) h.room h.below
      · cases hnext
        have hroom := h.room
        rw [deferred_of_none hcall] at hroom
        refine h.keep ?_ rfl (.inl rfl) hroom ?_
        · rw [pending_of_none hcall]
          rfl
        · intro _
          exact config.bounded.1
  | poll projected =>
    obtain ⟨waiting, hcall, hpoll⟩ := Option.bind_eq_some_iff.mp hnext
    exact h.poll hcall hpoll
  | expire waits =>
    obtain ⟨waiting, hcall, hnext⟩ := Option.bind_eq_some_iff.mp hnext
    split at hnext
    next => cases hnext
    cases hnext
    have hroom := h.room
    rw [deferred_of_some hcall] at hroom
    obtain ⟨hrestored, hback⟩ := restore_pending hroom
    refine h.keep ?_ rfl (.inr ⟨_, rfl, rfl⟩) ?_ ?_
    · have hpending : s.pending = waiting.deferred ++ s.waiting := by
        rw [GatewayState.pending, deferred_of_some hcall]
      exact hrestored.trans hpending.symm
    · show 0 + (s.restore config waiting.deferred).backlog.length ≤ config.maxBacklog
      rw [hback, List.length_append]
      omega
    · intro hsome
      cases hsome

/-- **Run.** Every reachable gateway has its books in order. -/
theorem books_of_reachable (h : (gatewaySystem config).Reachable s) : Books config s := by
  have hinit : Books config (gatewaySystem config).init := by
    refine ⟨List.Perm.refl _, List.Sublist.refl _, rfl, ?_, Nat.zero_le _, ?_⟩
    · intro c hc
      cases hc
    · intro hsome
      cases hsome
  exact h.invariant hinit fun _ hbooks hnext => hbooks.next hnext

/-! ## Draining -/

/-- How many items there are to take. -/
def GatewayState.items (s : GatewayState) : Nat := s.backlog.length + s.events.length

/-- What `next_event` returns of a frame, without a projector. -/
def delivery (config : GatewayConfig) (frame : QueuedFrame) : Option (QueuedFrame × EventProjection) :=
  (projectFrame config frame.frame).toOption.map fun projection => (frame, projection)

theorem pop_items {item : Option QueuedFrame} (h : s.pop = some (item, t)) :
    s.items = t.items + 1 ∧ s.waiting = item.toList ++ t.waiting ∧ t.call = s.call ∧
      t.ended = s.ended := by
  unfold GatewayState.pop at h
  split at h
  next first rest hbacklog =>
    cases h
    refine ⟨?_, ?_, rfl, rfl⟩
    · simp only [GatewayState.items, hbacklog, List.length_cons]
      omega
    · simp [GatewayState.waiting, hbacklog]
  next hbacklog =>
    split at h
    next => cases h
    next first rest hevents =>
      cases h
      refine ⟨?_, ?_, rfl, rfl⟩
      · simp only [GatewayState.items, hevents, List.length_cons]
        omega
      · cases item <;> simp [GatewayState.waiting, hbacklog, hevents]

theorem pop_ne_none (h : s.items ≠ 0) : ∃ item t, s.pop = some (item, t) := by
  unfold GatewayState.pop
  cases hbacklog : s.backlog with
  | cons first rest => exact ⟨_, _, rfl⟩
  | nil =>
    cases hevents : s.events with
    | cons first rest => exact ⟨_, _, rfl⟩
    | nil => simp [GatewayState.items, hbacklog, hevents] at h

/-- A `next_event` without a projector returns the first frame that is left, if it projects to
anything, and takes it off the others. -/
theorem nextEvent_absent (hcall : s.call = none) (h : s.items ≠ 0) :
    let t := s.nextEvent config .absent
    t.call = none ∧ s.items = t.items + 1 ∧
      ∃ first, s.pending = first ++ t.pending ∧
        t.returned = s.returned ++ first.filterMap (delivery config) := by
  obtain ⟨item, popped, hpop⟩ := pop_ne_none h
  obtain ⟨hitems, hwaiting, hsame, hended⟩ := pop_items hpop
  have hidle : popped.call = none := hsame.trans hcall
  have hpending : s.pending = item.toList ++ popped.pending := by
    rw [pending_of_none hcall, pending_of_none hidle, hwaiting]
  have hends : ∀ c : CallEnd, (popped.endCall c).returned = s.returned ++
      (c.taken.bind fun frame => c.result.toOption.map fun projection => (frame, projection)).toList := by
    intro c
    rw [GatewayState.returned, GatewayState.endCall, hended, List.filterMap_append,
      ← GatewayState.returned]
    cases hreturned : (c.taken.bind fun frame =>
      c.result.toOption.map fun projection => (frame, projection)) <;> simp [hreturned]
  unfold GatewayState.nextEvent
  rw [hpop]
  cases item with
  | none => exact ⟨hidle, hitems, [], hpending, hends _⟩
  | some frame =>
    dsimp only
    cases hprojection : projectFrame config frame.frame with
    | error failure =>
      refine ⟨hidle, hitems, [frame], hpending, ?_⟩
      rw [hends]
      simp [delivery, hprojection, Except.toOption]
    | ok projection =>
      refine ⟨hidle, hitems, [frame], hpending, ?_⟩
      rw [hends]
      simp [delivery, hprojection, Except.toOption, runProjector]

/-- As many `next_event`s as there are items deliver what is left, in order. -/
theorem drain (hcall : s.call = none) :
    ∃ t, (gatewaySystem config).run s (List.replicate s.items (.nextEvent .absent)) = some t ∧
      t.pending = [] ∧
      t.returned = s.returned ++ s.pending.filterMap (delivery config) := by
  generalize hn : s.items = n
  induction n generalizing s with
  | zero =>
    have hpending : s.pending = [] := by
      rw [GatewayState.items, Nat.add_eq_zero_iff, List.length_eq_zero_iff,
        List.length_eq_zero_iff] at hn
      rw [pending_of_none hcall, GatewayState.waiting, hn.1, hn.2]
      rfl
    exact ⟨s, rfl, hpending, by rw [hpending, List.filterMap_nil, List.append_nil]⟩
  | succ n ih =>
    obtain ⟨hidle, hitems, first, hpending, hreturned⟩ :=
      nextEvent_absent hcall (by omega : s.items ≠ 0)
    obtain ⟨t, hrun, hdone, hall⟩ := ih hidle (by omega)
    refine ⟨t, ?_, hdone, ?_⟩
    · rw [List.replicate_succ, System.run_cons]
      have hnext : (gatewaySystem config).next s (.nextEvent .absent) =
          some (s.nextEvent config .absent) := by
        simp [gatewaySystem, GatewayState.next, hcall]
      rw [hnext]
      exact hrun
    · rw [hall, hreturned, hpending, List.filterMap_append, List.append_assoc]

end Books

/-- In every reachable state of a gateway, every frame accepted into the queue is pending or
was taken by one call, and never both or twice; the frames that are pending stand in the
order of arrival.  A call that took a frame returned it, unless the frame projects to
nothing, or the projector raised or returned something that is no handle.  Whenever no call is
in progress, `next_event`s deliver all pending frames that project to something, in that
order. -/
theorem events_accounted_for (config : GatewayConfig) {s : GatewayState}
    (h : (gatewaySystem config).Reachable s) :
    (s.arrived.map QueuedFrame.number).Nodup ∧
      (s.pending ++ s.taken).Perm s.arrived ∧
      s.pending.Sublist s.arrived ∧
      (∀ c ∈ s.ended, c.Accounts config) ∧
      (s.call = none → ∃ t,
        (gatewaySystem config).run s (List.replicate s.items (.nextEvent .absent)) = some t ∧
          t.pending = [] ∧ t.returned = s.returned ++ s.pending.filterMap (delivery config)) := by
  have hbooks : Books config s := books_of_reachable h
  refine ⟨?_, hbooks.balance, hbooks.order, hbooks.accounts, drain⟩
  rw [hbooks.numbers]
  exact List.nodup_range

/-- A gateway with a library for ASCII frames. -/
def asciiGateway : GatewayConfig where
  library := asciiGatewayLibrary

/-- Two frames arrive; a `wait_event` puts the first one aside, and takes the second. -/
def selectSecond : List GatewayLabel :=
  [.enqueue (eventFrame "message.delta" "text" "hello"),
    .enqueue (eventFrame "message.complete" "status" "complete"),
    .waitEvent (lit "message.complete") none, .poll .absent, .poll .absent]

theorem events_accounted_for_select : ∃ s, (gatewaySystem asciiGateway).Reachable s ∧
    (s.pending.map QueuedFrame.number = [0] ∧ s.taken.map QueuedFrame.number = [1]) ∧
    s.pending.Sublist s.arrived ∧ (∀ c ∈ s.ended, c.Accounts asciiGateway) := by
  obtain ⟨s, hreached, hnumbers⟩ : ∃ s, (gatewaySystem asciiGateway).Reachable s ∧
      (s.pending.map QueuedFrame.number = [0] ∧ s.taken.map QueuedFrame.number = [1]) := by
    apply System.exists_reachable_of_run selectSecond
    decide +kernel
  obtain ⟨-, -, horder, haccounts, -⟩ := events_accounted_for asciiGateway hreached
  exact ⟨s, hreached, hnumbers, horder, haccounts⟩

/-- A frame that projects to something is lost although no projector raised: the projector
returned something that is no handle. -/
theorem frame_lost_to_invalid_handle : ∃ s, (gatewaySystem asciiGateway).Reachable s ∧
    (s.arrived.map fun queued => (projectFrame asciiGateway queued.frame).toOption.isSome) = [true] ∧
    s.pending.map QueuedFrame.number = [] ∧ s.returned.map (fun r => r.1.number) = [] ∧
    s.ended.map CallEnd.projected = [some .invalid] := by
  apply System.exists_reachable_of_run
    [.enqueue (eventFrame "message.delta" "text" "hello"), .nextEvent .invalid]
  decide +kernel

end HermesClaude.Parity
