/-
# The mailbox of a session

An abstract model of what a session does with its message stream, and nothing
else: turns are entered one after another, at most one inbox is active, and a
message is delivered to the active inbox, marked there as a violation, or only
recorded.  The turn takes items from its inbox one at a time and may project the
message it holds.

Suspensions, the client, the reader task and closing are absent.  The steps below
are weak enough that every step of the session is a few of them, and strong
enough that stream order, projection at most once and the role of the result
message follow from them alone.
-/

import HermesClaude.Session.State

namespace HermesClaude.Session

open HermesClaude.Python HermesClaude.Library

/-- The messages among some inbox items, with their positions. -/
def messages (items : List Item) : List (Nat × PyValue) := items.filterMap Item.message?

@[simp]
theorem messages_append (first second : List Item) :
    messages (first ++ second) = messages first ++ messages second := by
  simp [messages]

@[simp]
theorem messages_nil : messages [] = [] := rfl

theorem messages_cons (item : Item) (rest : List Item) :
    messages (item :: rest) = messages [item] ++ messages rest :=
  messages_append [item] rest

@[simp]
theorem messages_singleton_message (position : Nat) (message : PyValue) :
    messages [.message position message] = [(position, message)] := rfl

theorem mem_messages {items : List Item} {position : Nat} {message : PyValue} :
    (position, message) ∈ messages items ↔ .message position message ∈ items := by
  simp only [messages, List.mem_filterMap]
  constructor
  · rintro ⟨item, hmem, hitem⟩
    cases item with
    | message p m =>
      simp only [Item.message?, Option.some.injEq, Prod.mk.injEq] at hitem
      rwa [← hitem.1, ← hitem.2]
    | cancelled | nativeToolViolation | postTerminalOutput | compactionWatchdogExpired
    | streamEnded => cases hitem
  · exact fun hmem => ⟨_, hmem, rfl⟩

/-- Two members of a list are equal or related in one order or the other. -/
theorem pairwise_cases {α : Type*} {R : α → α → Prop} {l : List α} (h : l.Pairwise R) {a b : α}
    (ha : a ∈ l) (hb : b ∈ l) : a = b ∨ R a b ∨ R b a := by
  induction l with
  | nil => cases ha
  | cons head rest ih =>
    rw [List.pairwise_cons] at h
    rcases List.mem_cons.mp ha with rfl | ha' <;> rcases List.mem_cons.mp hb with rfl | hb'
    · exact .inl rfl
    · exact .inr (.inl (h.1 b hb'))
    · exact .inr (.inr (h.1 a ha'))
    · exact ih h.2 ha' hb'

/-! ## What a turn was delivered -/

/-- The entry of a delivery list for a reception, if it was one for the turn. -/
def deliveryOf (turn : Nat) (r : Reception × Nat) : Option (Nat × PyValue) :=
  if r.1.inbox = some turn ∧ r.1.fate = .delivered then some (r.2, r.1.message) else none

/-- The messages delivered to a turn's inbox, with their positions in the stream. -/
def deliveredTo (turn : Nat) (stream : List Reception) : List (Nat × PyValue) :=
  stream.zipIdx.filterMap (deliveryOf turn)

@[simp]
theorem deliveredTo_nil (turn : Nat) : deliveredTo turn [] = [] := rfl

/-- One more reception adds at most its own message, at the end. -/
theorem deliveredTo_append_singleton (turn : Nat) (stream : List Reception) (r : Reception) :
    deliveredTo turn (stream ++ [r]) =
      deliveredTo turn stream ++ (deliveryOf turn (r, stream.length)).toList := by
  simp only [deliveredTo, List.zipIdx_append, List.filterMap_append, Nat.zero_add,
    List.zipIdx_singleton]
  cases h : deliveryOf turn (r, stream.length) <;> simp [h]

theorem mem_deliveredTo {turn position : Nat} {message : PyValue} {stream : List Reception} :
    (position, message) ∈ deliveredTo turn stream ↔
      ∃ r, stream[position]? = some r ∧ r.inbox = some turn ∧ r.fate = .delivered ∧
        r.message = message := by
  simp only [deliveredTo, List.mem_filterMap, deliveryOf, Prod.exists, List.mem_zipIdx_iff_getElem?]
  constructor
  · rintro ⟨r, i, hget, hentry⟩
    split_ifs at hentry with h
    simp only [Option.some.injEq, Prod.mk.injEq] at hentry
    exact ⟨r, hentry.1 ▸ hget, h.1, h.2, hentry.2⟩
  · rintro ⟨r, hget, hinbox, hfate, rfl⟩
    exact ⟨r, position, hget, by simp [hinbox, hfate]⟩

theorem lt_length_of_mem_deliveredTo {turn : Nat} {entry : Nat × PyValue}
    {stream : List Reception} (h : entry ∈ deliveredTo turn stream) :
    entry.1 < stream.length := by
  obtain ⟨r, hget, -⟩ := mem_deliveredTo.mp h
  exact (List.getElem?_eq_some_iff.mp hget).1

/-- Deliveries keep the order of the stream. -/
theorem deliveredTo_ascending (turn : Nat) (stream : List Reception) :
    (deliveredTo turn stream).Pairwise fun a b => a.1 < b.1 := by
  induction stream using List.reverseRecOn with
  | nil => exact List.Pairwise.nil
  | append_singleton stream r ih =>
    rw [deliveredTo_append_singleton, List.pairwise_append]
    refine ⟨ih, ?_, fun a ha b hb => ?_⟩
    · cases deliveryOf turn (r, stream.length) <;> simp
    · have hb' : b.1 = stream.length := by
        simp only [deliveryOf, Option.mem_toList] at hb
        split_ifs at hb
        · cases hb
          rfl
      rw [hb']
      exact lt_length_of_mem_deliveredTo ha

/-- A turn no reception belongs to was delivered nothing. -/
theorem deliveredTo_eq_nil {turn : Nat} {stream : List Reception}
    (h : ∀ r ∈ stream, r.inbox ≠ some turn) : deliveredTo turn stream = [] := by
  rw [List.eq_nil_iff_forall_not_mem]
  rintro ⟨position, message⟩ hmem
  obtain ⟨r, hget, hinbox, -⟩ := mem_deliveredTo.mp hmem
  exact h r (List.mem_of_getElem? hget) hinbox

/-! ## The model -/

/-- Where the turn is with its inbox. -/
inductive MailboxPhase
  | /-- The turn has not published its inbox yet. -/
    entered
  | /-- It holds a message it has taken and not projected. -/
    holding (position : Nat) (message : PyValue)
  | idle

/-- The mailbox. -/
structure Mailbox where
  stream : List Reception
  /-- The latest turn. -/
  turnId : Nat
  /-- The turn whose inbox is active. -/
  active : Option Nat
  /-- Whether the active inbox has been given a result. -/
  terminal : Bool
  /-- The inbox of the latest turn. -/
  inbox : Channel Item
  phase : MailboxPhase
  projected : List ProjectedMessage

namespace Mailbox

/-- A message is recorded as received. -/
def record (b : Mailbox) (message : PyValue) (fate : Fate) : Mailbox :=
  { b with stream := b.stream ++ [⟨message, b.active, fate, b.turnId⟩] }

/-- An item is put into the active inbox, if it is the latest turn's. -/
def send (b : Mailbox) (item : Item) : Mailbox :=
  { b with inbox := if b.active = some b.turnId then b.inbox.send item else b.inbox }

/-- The marker of a message's fate, if it has one. -/
def mark (b : Mailbox) (fate : Fate) : Mailbox :=
  match fate.marker with
  | none => b
  | some item => b.send item

/-- The phase after an item was taken. -/
def phaseOf (item : Item) : MailboxPhase :=
  match item.message? with
  | some (position, message) => .holding position message
  | none => .idle

/-- One step of the mailbox. -/
inductive Step : Mailbox → Mailbox → Prop
  | /-- The next turn begins, with an inbox of its own. -/
    enter (b : Mailbox) :
      Step b { b with turnId := b.turnId + 1, inbox := Channel.empty, phase := .entered }
  | /-- Its inbox becomes the active one. -/
    publish (b : Mailbox) (unpublished : b.phase = .entered) :
      Step b { b with active := some b.turnId, terminal := false, phase := .idle }
  | /-- A message reaches the active inbox, which has no result yet. -/
    deliver (b : Mailbox) (message : PyValue) (isOpen : b.terminal = false)
      (hasInbox : b.active.isSome) :
      Step b { (b.record message .delivered).send (.message b.stream.length message) with
        terminal := isResult message }
  | /-- A message is not delivered. -/
    reject (b : Mailbox) (message : PyValue) (fate : Fate) (undelivered : fate ≠ .delivered) :
      Step b ((b.record message fate).mark fate)
  | /-- A control item other than a violation is put into the inbox. -/
    control (b : Mailbox) (item : Item) (noMessage : item.message? = none)
      (noViolation : item.isViolation = false) :
      Step b { b with inbox := b.inbox.send item }
  | take (b : Mailbox) (item : Item) (inbox : Channel Item)
      (taken : b.inbox.receive = some (item, inbox)) :
      Step b { b with inbox := inbox, phase := phaseOf item }
  | /-- Waiting items are thrown away. -/
    drain (b : Mailbox) (n : Nat) : Step b { b with inbox := b.inbox.drain n, phase := .idle }
  | project (b : Mailbox) (position : Nat) (message : PyValue)
      (held : b.phase = .holding position message) :
      Step b { b with
        phase := .idle
        projected := b.projected ++ [⟨b.turnId, position⟩] }
  | /-- The turn drops what it holds. -/
    release (b : Mailbox) : Step b { b with phase := .idle }
  | /-- The turn retires its inbox. -/
    retire (b : Mailbox) :
      Step b { b with
        active := if b.active = some b.turnId then none else b.active
        terminal := false
        phase := .idle }

/-- Any number of steps. -/
abbrev Steps : Mailbox → Mailbox → Prop := Relation.ReflTransGen Step

/-! ## The invariant -/

/-- The messages the turn may still project. -/
def pending (b : Mailbox) : List (Nat × PyValue) :=
  (match b.phase with
    | .holding position message => [(position, message)]
    | .entered | .idle => []) ++ messages b.inbox.queue

/-- What a projection must look like: it was delivered to the turn that projected
it, and no result was delivered to that turn before it. -/
structure Owned (stream : List Reception) (x : ProjectedMessage) : Prop where
  delivered : ∃ message, (x.position, message) ∈ deliveredTo x.turn stream
  beforeResult : ∀ entry ∈ deliveredTo x.turn stream,
    isResult entry.2 = true → x.position ≤ entry.1

/-- The invariant of the mailbox. -/
structure Consistent (b : Mailbox) : Prop where
  /-- Receptions belong to turns that have entered. -/
  past : ∀ r ∈ b.stream, ∀ turn, r.inbox = some turn → turn ≤ b.turnId
  active_le : ∀ turn, b.active = some turn → turn ≤ b.turnId
  entered : b.phase = .entered →
    b.active ≠ some b.turnId ∧ ∀ r ∈ b.stream, r.inbox ≠ some b.turnId
  /-- The inbox has been sent what was delivered to its turn. -/
  delivered : messages b.inbox.sent = deliveredTo b.turnId b.stream
  terminal : b.active = some b.turnId →
    (∃ entry ∈ deliveredTo b.turnId b.stream, isResult entry.2 = true) → b.terminal = true
  /-- A result is the last message a turn is delivered. -/
  final : (deliveredTo b.turnId b.stream).Pairwise fun entry _ => isResult entry.2 = false
  holding : ∀ position message, b.phase = .holding position message →
    .message position message ∈ b.inbox.taken
  owned : ∀ x ∈ b.projected, x.turn ≤ b.turnId ∧ Owned b.stream x
  ascending : b.projected.Pairwise fun x y => x.position < y.position
  /-- What is pending lies ahead of every projection. -/
  ahead : ∀ x ∈ b.projected, ∀ entry ∈ b.pending, x.position < entry.1
  marked : ∀ r ∈ b.stream, r.inbox = some b.turnId →
    ∀ item, r.fate.marker = some item → item ∈ b.inbox.sent

theorem Owned.lt_length {stream : List Reception} {x : ProjectedMessage} (h : Owned stream x) :
    x.position < stream.length := by
  obtain ⟨message, hmem⟩ := h.delivered
  exact lt_length_of_mem_deliveredTo hmem

/-- Further receptions come later and take nothing away from a projection. -/
theorem Owned.append {stream : List Reception} {x : ProjectedMessage} (h : Owned stream x)
    (r : Reception) : Owned (stream ++ [r]) x where
  delivered := by
    obtain ⟨message, hmem⟩ := h.delivered
    exact ⟨message, by
      rw [deliveredTo_append_singleton]
      exact List.mem_append_left _ hmem⟩
  beforeResult := by
    intro entry hentry hresult
    rw [deliveredTo_append_singleton, List.mem_append] at hentry
    rcases hentry with hold | hnew
    · exact h.beforeResult entry hold hresult
    · simp only [deliveryOf, Option.mem_toList] at hnew
      split_ifs at hnew
      cases hnew
      exact h.lt_length.le

/-- What is pending was delivered to the turn. -/
theorem Consistent.pending_subset {b : Mailbox} (h : b.Consistent) {entry : Nat × PyValue}
    (hentry : entry ∈ b.pending) : entry ∈ deliveredTo b.turnId b.stream := by
  rw [← h.delivered]
  simp only [pending, List.mem_append] at hentry
  rcases hentry with hheld | hwaiting
  · cases hphase : b.phase with
    | holding position message =>
      rw [hphase, List.mem_singleton] at hheld
      subst hheld
      exact mem_messages.mpr (Channel.mem_sent_of_mem_taken (h.holding _ _ hphase))
    | entered | idle => simp [hphase] at hheld
  · obtain ⟨position, message⟩ := entry
    exact mem_messages.mpr (Channel.mem_sent_of_mem_queue (mem_messages.mp hwaiting))

section Preservation

variable {b : Mailbox}

theorem Consistent.enter (h : b.Consistent) :
    Consistent { b with turnId := b.turnId + 1, inbox := Channel.empty, phase := .entered } := by
  have hfresh : ∀ r ∈ b.stream, r.inbox ≠ some (b.turnId + 1) := by
    intro r hr hinbox
    exact absurd (h.past r hr _ hinbox) (Nat.not_succ_le_self _)
  have hinactive : b.active ≠ some (b.turnId + 1) := by
    intro hactive
    exact absurd (h.active_le _ hactive) (Nat.not_succ_le_self _)
  have hnothing := deliveredTo_eq_nil hfresh
  exact {
    past := fun r hr turn hturn => Nat.le_succ_of_le (h.past r hr turn hturn)
    active_le := fun turn hturn => Nat.le_succ_of_le (h.active_le turn hturn)
    entered := fun _ => ⟨hinactive, hfresh⟩
    delivered := by simp [hnothing]
    terminal := fun hactive => absurd hactive hinactive
    final := by simp [hnothing]
    holding := fun _ _ hphase => by cases hphase
    owned := fun x hx => ⟨Nat.le_succ_of_le (h.owned x hx).1, (h.owned x hx).2⟩
    ascending := h.ascending
    ahead := by simp [pending]
    marked := fun r hr hinbox => absurd hinbox (hfresh r hr) }

theorem Consistent.publish (h : b.Consistent) (unpublished : b.phase = .entered) :
    Consistent { b with active := some b.turnId, terminal := false, phase := .idle } := by
  obtain ⟨-, hfresh⟩ := h.entered unpublished
  have hnothing := deliveredTo_eq_nil hfresh
  exact { h with
    active_le := by
      rintro turn hturn
      cases hturn
      exact le_rfl
    entered := fun hphase => by cases hphase
    terminal := by simp [hnothing]
    holding := fun _ _ hphase => by cases hphase
    ahead := by simpa [pending, unpublished] using h.ahead }

/-- Recording a message that is not delivered changes no delivery. -/
theorem Consistent.record (h : b.Consistent) (message : PyValue) {fate : Fate}
    (undelivered : fate ≠ .delivered) (hmarked : b.active = some b.turnId →
      ∀ item, fate.marker = some item → item ∈ b.inbox.sent) :
    (b.record message fate).Consistent := by
  have hsame : ∀ turn, deliveredTo turn (b.record message fate).stream =
      deliveredTo turn b.stream := by
    intro turn
    simp [Mailbox.record, deliveredTo_append_singleton, deliveryOf, undelivered]
  have hnew : ∀ r ∈ (b.record message fate).stream,
      r ∈ b.stream ∨ r = ⟨message, b.active, fate, b.turnId⟩ := by
    simp [Mailbox.record]
  exact {
    past := by
      intro r hr turn hturn
      rcases hnew r hr with hold | rfl
      · exact h.past r hold turn hturn
      · exact h.active_le turn hturn
    active_le := h.active_le
    entered := by
      intro hphase
      obtain ⟨hactive, hfresh⟩ := h.entered hphase
      refine ⟨hactive, fun r hr => ?_⟩
      rcases hnew r hr with hold | rfl
      · exact hfresh r hold
      · exact hactive
    delivered := h.delivered.trans (hsame _).symm
    terminal := by
      intro hactive hresult
      rw [hsame] at hresult
      exact h.terminal hactive hresult
    final := by
      rw [hsame]
      exact h.final
    holding := h.holding
    owned := fun x hx => ⟨(h.owned x hx).1, (h.owned x hx).2.append _⟩
    ascending := h.ascending
    ahead := h.ahead
    marked := by
      intro r hr hinbox item hitem
      rcases hnew r hr with hold | rfl
      · exact h.marked r hold hinbox item hitem
      · exact hmarked hinbox item hitem }

/-- An item without a message may be put into the inbox at any time. -/
theorem Consistent.control (h : b.Consistent) {item : Item} (noMessage : item.message? = none) :
    Consistent { b with inbox := b.inbox.send item } := by
  have hnothing : messages [item] = [] := by simp [messages, noMessage]
  exact { h with
    delivered := by simp [hnothing, h.delivered]
    ahead := by simpa [pending, hnothing] using h.ahead
    marked := by
      intro r hr hinbox marker hmarker
      rw [Channel.sent_send]
      exact List.mem_append_left _ (h.marked r hr hinbox marker hmarker) }

theorem Consistent.reject (h : b.Consistent) (message : PyValue) {fate : Fate}
    (undelivered : fate ≠ .delivered) :
    ((b.record message fate).mark fate).Consistent := by
  -- the marker is sent first, so that the recorded reception finds it in the inbox
  have hcommutes : (b.record message fate).mark fate = (b.mark fate).record message fate := by
    unfold mark
    cases fate.marker with
    | none => rfl
    | some item =>
      rfl
  rw [hcommutes]
  cases hmarker : fate.marker with
  | none =>
    have hmark : b.mark fate = b := by simp [mark, hmarker]
    rw [hmark]
    exact h.record message undelivered (fun _ item hitem => by simp [hmarker] at hitem)
  | some item =>
    have hmark : b.mark fate = b.send item := by simp [mark, hmarker]
    rw [hmark]
    unfold send
    split_ifs with hactive
    · have hcontrol : item.message? = none := by
        cases fate <;> cases hmarker <;> rfl
      refine (h.control hcontrol).record message undelivered fun _ other hother => ?_
      rw [hmarker, Option.some.injEq] at hother
      simp [hother]
    · exact h.record message undelivered (fun hactive' => absurd hactive' hactive)

theorem Consistent.deliver (h : b.Consistent) (message : PyValue) (isOpen : b.terminal = false)
    (hasInbox : b.active.isSome) :
    Consistent { (b.record message .delivered).send (.message b.stream.length message) with
      terminal := isResult message } := by
  obtain ⟨turn, hactive⟩ := Option.isSome_iff_exists.mp hasInbox
  have hpast : ∀ r ∈ b.stream ++ [⟨message, b.active, .delivered, b.turnId⟩], ∀ turn,
      r.inbox = some turn → turn ≤ b.turnId := by
    intro r hr owner howner
    rcases List.mem_append.mp hr with hold | hnew
    · exact h.past r hold owner howner
    · rw [List.mem_singleton] at hnew
      subst hnew
      exact h.active_le owner howner
  have howned : ∀ x ∈ b.projected, x.turn ≤ b.turnId ∧
      Owned (b.stream ++ [⟨message, b.active, .delivered, b.turnId⟩]) x :=
    fun x hx => ⟨(h.owned x hx).1, (h.owned x hx).2.append _⟩
  by_cases hlatest : b.active = some b.turnId
  · have hdelivered : deliveredTo b.turnId
        (b.stream ++ [⟨message, b.active, .delivered, b.turnId⟩]) =
        deliveredTo b.turnId b.stream ++ [(b.stream.length, message)] := by
      simp [deliveredTo_append_singleton, deliveryOf, hlatest]
    have hopen : ∀ entry ∈ deliveredTo b.turnId b.stream, isResult entry.2 = false := by
      intro entry hentry
      rw [← Bool.not_eq_true]
      intro hresult
      have hterminal := h.terminal hlatest ⟨entry, hentry, hresult⟩
      rw [isOpen] at hterminal
      cases hterminal
    simp only [Mailbox.record, send, hlatest, if_true]
    rw [hlatest] at hpast howned hdelivered
    exact {
      past := hpast
      active_le := by
        rintro owner howner
        cases howner
        exact le_rfl
      entered := fun hphase => absurd hlatest (h.entered hphase).1
      delivered := by simp [hdelivered, h.delivered]
      terminal := by
        rintro - ⟨entry, hentry, hresult⟩
        rw [hdelivered, List.mem_append, List.mem_singleton] at hentry
        rcases hentry with hold | rfl
        · simp [hopen entry hold] at hresult
        · exact hresult
      final := by
        rw [hdelivered, List.pairwise_append]
        exact ⟨h.final, List.pairwise_singleton _ _, fun entry hentry _ _ => hopen entry hentry⟩
      holding := h.holding
      owned := howned
      ascending := h.ascending
      ahead := by
        intro x hx entry hentry
        simp only [pending, Channel.queue_send, messages_append, messages_singleton_message,
          ← List.append_assoc, List.mem_append, List.mem_singleton] at hentry
        rcases hentry with hold | rfl
        · exact h.ahead x hx entry (List.mem_append.mpr hold)
        · exact (h.owned x hx).2.lt_length
      marked := by
        intro r hr hinbox item hitem
        rw [Channel.sent_send]
        rcases List.mem_append.mp hr with hold | hnew
        · exact List.mem_append_left _ (h.marked r hold hinbox item hitem)
        · rw [List.mem_singleton] at hnew
          subst hnew
          cases hitem }
  · -- a retired turn left its inbox active; the latest turn is not concerned
    have hdelivered : deliveredTo b.turnId
        (b.stream ++ [⟨message, b.active, .delivered, b.turnId⟩]) =
        deliveredTo b.turnId b.stream := by
      simp [deliveredTo_append_singleton, deliveryOf, hlatest]
    have hothers : ∀ r ∈ b.stream ++ [⟨message, b.active, .delivered, b.turnId⟩],
        r.inbox = some b.turnId → r ∈ b.stream := by
      intro r hr hinbox
      rcases List.mem_append.mp hr with hold | hnew
      · exact hold
      · rw [List.mem_singleton] at hnew
        subst hnew
        exact absurd hinbox hlatest
    simp only [Mailbox.record, send, hlatest, if_false]
    exact {
      past := hpast
      active_le := h.active_le
      entered := fun hphase => ⟨hlatest, fun r hr hinbox =>
        (h.entered hphase).2 r (hothers r hr hinbox) hinbox⟩
      delivered := h.delivered.trans hdelivered.symm
      terminal := fun hactive => absurd hactive hlatest
      final := by
        rw [hdelivered]
        exact h.final
      holding := h.holding
      owned := howned
      ascending := h.ascending
      ahead := h.ahead
      marked := fun r hr hinbox item hitem =>
        h.marked r (hothers r hr hinbox) hinbox item hitem }

theorem Consistent.take (h : b.Consistent) {item : Item} {inbox : Channel Item}
    (taken : b.inbox.receive = some (item, inbox)) :
    Consistent { b with inbox := inbox, phase := phaseOf item } := by
  obtain ⟨hqueue, htaken, hsent⟩ := Channel.receive_eq_some taken
  exact { h with
    entered := by
      intro hphase
      cases item <;> cases hphase
    delivered := by
      rw [hsent]
      exact h.delivered
    holding := by
      intro position message hphase
      cases item <;> cases hphase
      rw [htaken]
      exact List.mem_append_right _ (List.mem_singleton_self _)
    ahead := by
      intro x hx entry hentry
      have hwaiting : entry ∈ messages b.inbox.queue := by
        rw [hqueue, messages_cons, List.mem_append]
        simp only [pending, List.mem_append] at hentry
        refine hentry.imp_left fun hheld => ?_
        cases item <;> simp_all [phaseOf, Item.message?]
      exact h.ahead x hx entry (List.mem_append_right _ hwaiting)
    marked := by
      rw [hsent]
      exact h.marked }

theorem Consistent.drain (h : b.Consistent) (n : Nat) :
    Consistent { b with inbox := b.inbox.drain n, phase := .idle } := by
  exact { h with
    entered := fun hphase => by cases hphase
    delivered := by
      rw [Channel.sent_drain]
      exact h.delivered
    holding := fun _ _ hphase => by cases hphase
    ahead := by
      rintro x hx ⟨position, message⟩ hentry
      refine h.ahead x hx _ (List.mem_append_right _ ?_)
      exact mem_messages.mpr (List.mem_of_mem_drop (mem_messages.mp hentry))
    marked := by
      rw [Channel.sent_drain]
      exact h.marked }

theorem Consistent.release (h : b.Consistent) : Consistent { b with phase := .idle } := by
  exact { h with
    entered := fun hphase => by cases hphase
    holding := fun _ _ hphase => by cases hphase
    ahead := fun x hx entry hentry => h.ahead x hx entry (List.mem_append_right _ hentry) }

theorem Consistent.retire (h : b.Consistent) :
    Consistent { b with
      active := if b.active = some b.turnId then none else b.active
      terminal := false
      phase := .idle } := by
  exact { h.release with
    active_le := by
      intro turn hturn
      simp only at hturn
      split_ifs at hturn
      exact h.active_le turn hturn
    entered := fun hphase => by cases hphase
    terminal := by
      intro hactive
      simp only at hactive
      split_ifs at hactive with hsame
      exact absurd hactive hsame }

/-- A held message is projected ahead of everything that still waits. -/
theorem Consistent.project (h : b.Consistent) {position : Nat} {message : PyValue}
    (held : b.phase = .holding position message) :
    Consistent { b with
      phase := .idle
      projected := b.projected ++ [⟨b.turnId, position⟩] } := by
  have hpending : b.pending = (position, message) :: messages b.inbox.queue := by
    simp [pending, held]
  have hdelivered : (position, message) ∈ deliveredTo b.turnId b.stream :=
    h.pending_subset (by simp [hpending])
  -- what waits in the queue was sent after what the turn holds
  have hlater : ∀ entry ∈ messages b.inbox.queue, position < entry.1 := by
    have hordered := deliveredTo_ascending b.turnId b.stream
    rw [← h.delivered, Channel.sent, messages_append, List.pairwise_append] at hordered
    exact hordered.2.2 _ (mem_messages.mpr (h.holding _ _ held))
  exact { h.release with
    owned := by
      intro x hx
      rcases List.mem_append.mp hx with hold | hnew
      · exact h.owned x hold
      · rw [List.mem_singleton] at hnew
        subst hnew
        refine ⟨le_rfl, ⟨message, hdelivered⟩, fun entry hentry hresult => ?_⟩
        -- a result delivered before the held message would have ended the inbox
        have hordered := (deliveredTo_ascending b.turnId b.stream).and h.final
        rcases pairwise_cases hordered hentry hdelivered with rfl | hearlier | hlater
        · exact le_rfl
        · simp [hresult] at hearlier
        · exact hlater.1.le
    ascending := by
      rw [List.pairwise_append]
      refine ⟨h.ascending, List.pairwise_singleton _ _, fun x hx y hy => ?_⟩
      rw [List.mem_singleton] at hy
      subst hy
      exact h.ahead x hx (position, message) (by simp [hpending])
    ahead := by
      intro x hx entry hentry
      rcases List.mem_append.mp hx with hold | hnew
      · exact h.ahead x hold entry (List.mem_append_right _ hentry)
      · rw [List.mem_singleton] at hnew
        subst hnew
        exact hlater entry hentry }

end Preservation

/-- The invariant of the mailbox is kept by each of its steps. -/
theorem Consistent.step {b c : Mailbox} (h : b.Consistent) (hstep : Step b c) : c.Consistent := by
  cases hstep with
  | enter => exact h.enter
  | publish unpublished => exact h.publish unpublished
  | deliver message isOpen hasInbox => exact h.deliver message isOpen hasInbox
  | reject message fate undelivered => exact h.reject message undelivered
  | control item noMessage noViolation => exact h.control noMessage
  | take item inbox taken => exact h.take taken
  | drain n => exact h.drain n
  | project position message held => exact h.project held
  | release => exact h.release
  | retire => exact h.retire

theorem Consistent.steps {b c : Mailbox} (h : b.Consistent) (hsteps : Steps b c) :
    c.Consistent := by
  induction hsteps with
  | refl => exact h
  | tail _ hstep ih => exact ih.step hstep

end Mailbox

end HermesClaude.Session
