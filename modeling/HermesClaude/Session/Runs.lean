/-
# Turns that go well

A schedule for every sequence of messages: the session starts, the reader receives
all of them, and the turn takes them one by one, with callbacks that return at
once.  As long as nothing blocks it, such a turn gets to its result, so the schedule
shows which messages a turn cannot be stopped by.
-/

import HermesClaude.Session.Completion

namespace HermesClaude.Session

open HermesClaude.Python HermesClaude.Billing HermesClaude.Content HermesClaude.Library
open SDKSession (observeEvidence blocksAtOnce)

/-- The indexes after the reader has admitted some messages, or `none` if it does
not admit them all. -/
def admitAll (allowed : List PyStr) : StreamToolIndexes → List PyValue → Option StreamToolIndexes
  | indexes, [] => some indexes
  | indexes, message :: rest =>
    match zeroNativeViolation message allowed indexes with
    | some (false, after) => admitAll allowed after rest
    | _ => none

/-- The first turn of a session while it takes messages. -/
def during (stream : List Reception) (terminal : Bool) (indexes : StreamToolIndexes)
    (inbox : Channel Item) (projected : List ProjectedMessage) (pc : TurnPc) : SDKSession where
  client := true
  reader := .running
  readerTask := true
  activeInbox := some 1
  turnTerminalSeen := terminal
  streamToolIndexes := indexes
  compaction := { bound := some 1 }
  turnId := 1
  turn := some pc
  inbox := inbox
  stream := stream
  projected := projected
  queries := [⟨1, .created⟩]

/-- A message delivered to the first turn. -/
def deliveredFirst (message : PyValue) : Reception := ⟨message, some 1, .delivered, 1⟩

/-- The inbox items of some messages, the first of which has the given position. -/
def itemsFrom : Nat → List PyValue → List Item
  | _, [] => []
  | position, message :: rest => .message position message :: itemsFrom (position + 1) rest

/-- Entering the first turn and issuing its query. -/
def opening : List Label :=
  [.runTurn (.text (lit "hello")) true, .turn .completed, .turn .completed, .readerStart]

/-- The turn takes a message, and the callback of its projection returns. -/
def takeOne : List Label := [.turn (.item (.projects none)), .turn .completed]

/-- The turn takes one message after another. -/
def takeEach : List PyValue → List Label
  | [] => []
  | _ :: rest => takeOne ++ takeEach rest

/-- The schedule of a whole turn up to the projection of its result. -/
def schedule (before : List PyValue) (result : PyValue) : List Label :=
  opening ++ (before ++ [result]).map .receive ++ takeEach before ++ takeOne

section

variable (C : SessionContext)

theorem run_opening : (sessionSystem C).run (sessionSystem C).init opening =
    some (during [] false [] Channel.empty [] (.receiving {})) := by
  have hprompt : (Prompt.text (lit "hello")).valid = true := by decide
  simp [opening, System.run_cons, sessionSystem, SDKSession.next, hprompt, SDKSession.enter,
    SDKSession.turnStep, SDKSession.publish, Lifecycle.active, Lifecycle.bind, during]

variable {C} {stream : List Reception} {terminal : Bool} {indexes after : StreamToolIndexes}
  {inbox : Channel Item} {projected : List ProjectedMessage} {pc : TurnPc} {locals : Locals}

theorem next_receive {message : PyValue}
    (hadmitted : zeroNativeViolation message C.allowedTools indexes = some (false, after)) :
    (sessionSystem C).next (during stream false indexes inbox projected pc) (.receive message) =
      some (during (stream ++ [deliveredFirst message]) (isResult message) after
        (inbox.send (.message stream.length message)) projected pc) := by
  simp [sessionSystem, SDKSession.next, SDKSession.receive, during, hadmitted, SDKSession.deliver,
    SDKSession.record, SDKSession.put, deliveredFirst]

/-- The reader receives ordinary messages. -/
theorem run_receive {received : List PyValue}
    (hadmitted : admitAll C.allowedTools indexes received = some after)
    (hordinary : ∀ message ∈ received, isResult message = false) :
    (sessionSystem C).run (during stream false indexes inbox projected pc)
        (received.map .receive) =
      some (during (stream ++ received.map deliveredFirst) false after
        ⟨inbox.taken, inbox.queue ++ itemsFrom stream.length received⟩ projected pc) := by
  induction received generalizing stream indexes inbox with
  | nil =>
    cases hadmitted
    simp [itemsFrom]
  | cons message rest ih =>
    rw [admitAll] at hadmitted
    split at hadmitted
    · rename_i middle hfirst
      rw [List.map_cons, System.run_cons, next_receive hfirst, Option.bind_some,
        hordinary message List.mem_cons_self,
        ih hadmitted fun other hother => hordinary other (List.mem_cons_of_mem _ hother)]
      simp [itemsFrom, Channel.send]
    · cases hadmitted

/-- The turn takes and projects an ordinary message. -/
theorem run_takeOne {taken waiting : List Item} {position : Nat} {message : PyValue}
    (hordinary : isResult message = false) (hblocks : blocksAtOnce C locals message = false) :
    (sessionSystem C).run (during stream terminal indexes
        ⟨taken, .message position message :: waiting⟩ projected (.receiving locals)) takeOne =
      some (during stream terminal indexes ⟨taken ++ [.message position message], waiting⟩
        (projected ++ [⟨1, position⟩]) (.receiving (observeEvidence C locals message))) := by
  simp [takeOne, System.run_cons, sessionSystem, SDKSession.next, during, SDKSession.turnStep,
    Channel.receive, SDKSession.handleItem, SDKSession.isBoundary, Lifecycle.active,
    SDKSession.dispatch, hblocks, hordinary, SDKSession.project, SDKSession.withText]

/-- The turn takes and projects a result that the gate allows. -/
theorem run_takeResult {taken waiting : List Item} {position : Nat} {message : PyValue}
    (hresult : isResult message = true)
    (hallowed : (classifySdkBilling C.unicode locals.evidence).allowed = true) :
    (sessionSystem C).run (during stream terminal indexes
        ⟨taken, .message position message :: waiting⟩ projected (.receiving locals)) takeOne =
      some (during stream terminal indexes ⟨taken ++ [.message position message], waiting⟩
        (projected ++ [⟨1, position⟩]) (.resultProjecting
          (SDKSession.withSessionId locals message) message
          (classifySdkBilling C.unicode locals.evidence) none)) := by
  simp [takeOne, System.run_cons, sessionSystem, SDKSession.next, during, SDKSession.turnStep,
    Channel.receive, SDKSession.handleItem, SDKSession.isBoundary, Lifecycle.active,
    SDKSession.dispatch, blocksAtOnce_of_isResult hresult, hresult,
    observeEvidence_of_isResult hresult, SDKSession.project, hallowed]

/-- A message does not block where the gate blocks on no prefix. -/
theorem not_blocksAtOnce {taken : List Item} {message : PyValue} {rest : List SDKBillingEvidence}
    (hgathered : Gathered C taken locals.evidence)
    (hnever : NeverBlocks C (updatesOf C (messages taken) ++
      ((extractSdkBillingEvidence C.unicode message).toList ++ rest))) :
    blocksAtOnce C locals message = false := by
  cases hupdate : extractSdkBillingEvidence C.unicode message with
  | none => simp [blocksAtOnce, hupdate]
  | some update =>
    rw [hupdate] at hnever
    have hstarts := hnever (updatesOf C (messages taken) ++ [update])
      (by simp [List.prefix_append_right_inj])
    rw [mergedEvidence_append_singleton, ← hgathered.evidence] at hstarts
    simpa [blocksAtOnce, observeEvidence, hupdate] using hstarts

/-- The turn takes all of the messages before its result. -/
theorem run_takeEach {before : List PyValue} {taken waiting : List Item} (position : Nat)
    (projected : List ProjectedMessage) (hordinary : ∀ message ∈ before, isResult message = false)
    (hgathered : Gathered C taken locals.evidence)
    (hnever : NeverBlocks C (updatesOf C (messages taken) ++
      before.filterMap (extractSdkBillingEvidence C.unicode))) :
    ∃ projected' locals',
      (sessionSystem C).run (during stream terminal indexes
          ⟨taken, itemsFrom position before ++ waiting⟩ projected (.receiving locals))
          (takeEach before) =
        some (during stream terminal indexes ⟨taken ++ itemsFrom position before, waiting⟩
          projected' (.receiving locals')) ∧
      Gathered C (taken ++ itemsFrom position before) locals'.evidence := by
  induction before generalizing taken position projected locals with
  | nil => exact ⟨projected, locals, by simp [itemsFrom, takeEach], by simpa [itemsFrom]⟩
  | cons message rest ih =>
    have hfirst : isResult message = false := hordinary message List.mem_cons_self
    have hmore : (message :: rest).filterMap (extractSdkBillingEvidence C.unicode) =
        (extractSdkBillingEvidence C.unicode message).toList ++
          rest.filterMap (extractSdkBillingEvidence C.unicode) := by
      cases h : extractSdkBillingEvidence C.unicode message <;> simp [h]
    rw [hmore] at hnever
    have hblocks := not_blocksAtOnce hgathered hnever
    have hnext : updatesOf C (messages (taken ++ [.message position message])) =
        updatesOf C (messages taken) ++
          (extractSdkBillingEvidence C.unicode message).toList := by
      cases h : extractSdkBillingEvidence C.unicode message <;> simp [updatesOf, h]
    obtain ⟨projected', locals', hrun, hgathered'⟩ :=
      ih (position + 1) (projected ++ [⟨1, position⟩])
        (fun other hother => hordinary other (List.mem_cons_of_mem _ hother))
        (hgathered.observe position hfirst hblocks)
        (by rwa [hnext, List.append_assoc])
    refine ⟨projected', locals', ?_, by simpa [itemsFrom] using hgathered'⟩
    rw [itemsFrom, List.cons_append, takeEach, System.run_append, run_takeOne hfirst hblocks,
      Option.bind_some, hrun]
    simp

theorem deliveredTo_map_deliveredFirst (received : List PyValue) :
    (deliveredTo 1 (received.map deliveredFirst)).map Prod.snd = received := by
  induction received using List.reverseRecOn with
  | nil => rfl
  | append_singleton received message ih =>
    rw [List.map_append, List.map_singleton, deliveredTo_append_singleton, List.map_append, ih]
    simp [deliveryOf, deliveredFirst]

theorem admitAll_append_singleton {before : List PyValue} {result : PyValue}
    (h : (admitAll C.allowedTools indexes (before ++ [result])).isSome) :
    ∃ middle after, admitAll C.allowedTools indexes before = some middle ∧
      zeroNativeViolation result C.allowedTools middle = some (false, after) := by
  induction before generalizing indexes with
  | nil =>
    rw [List.nil_append, admitAll] at h
    split at h
    · rename_i after hresult
      exact ⟨indexes, after, rfl, hresult⟩
    · cases h
  | cons message rest ih =>
    rw [List.cons_append, admitAll] at h
    split at h
    · rename_i next hfirst
      obtain ⟨middle, after, hrest, hresult⟩ := ih h
      exact ⟨middle, after, by rw [admitAll, hfirst]; exact hrest, hresult⟩
    · cases h

theorem updatesOf_itemsFrom (position : Nat) (received : List PyValue) :
    updatesOf C (messages (itemsFrom position received)) =
      received.filterMap (extractSdkBillingEvidence C.unicode) := by
  induction received generalizing position with
  | nil => rfl
  | cons message rest ih =>
    rw [itemsFrom, messages_cons, updatesOf_append, ih, messages_singleton_message]
    cases h : extractSdkBillingEvidence C.unicode message <;> simp [updatesOf, h]

/-- **Nothing stops a cleared turn.**  If the reader admits the messages and the
gate lets them pass, some run delivers exactly them and projects the result. -/
theorem exists_projected_result {before : List PyValue} {result : PyValue}
    (hordinary : ∀ message ∈ before, isResult message = false)
    (hresult : isResult result = true)
    (hadmitted : (admitAll C.allowedTools [] (before ++ [result])).isSome)
    (hnever : NeverBlocks C (before.filterMap (extractSdkBillingEvidence C.unicode)))
    (hallowed : (classifySdkBilling C.unicode (mergedEvidence
      (before.filterMap (extractSdkBillingEvidence C.unicode)))).allowed = true) :
    ∃ s, (sessionSystem C).Reachable s ∧
      (deliveredTo 1 s.stream).map Prod.snd = before ++ [result] ∧
      ⟨1, before.length⟩ ∈ s.projected ∧
      (before.length, result) ∈ deliveredTo 1 s.stream := by
  obtain ⟨middle, after, hbefore, hlast⟩ := admitAll_append_singleton hadmitted
  let stream := (before ++ [result]).map deliveredFirst
  obtain ⟨projected, locals, hrun, hgathered⟩ : ∃ projected locals,
      (sessionSystem C).run (during stream true after
          ⟨[], itemsFrom 0 before ++ [.message before.length result]⟩ [] (.receiving {}))
          (takeEach before) =
        some (during stream true after ⟨[] ++ itemsFrom 0 before, [.message before.length result]⟩
          projected (.receiving locals)) ∧
      Gathered C ([] ++ itemsFrom 0 before) locals.evidence :=
    run_takeEach 0 [] hordinary .nil hnever
  have hevidence : locals.evidence =
      mergedEvidence (before.filterMap (extractSdkBillingEvidence C.unicode)) := by
    rw [hgathered.evidence, List.nil_append, updatesOf_itemsFrom]
  have hreceived : (sessionSystem C).run
      (during [] false [] Channel.empty [] (.receiving {})) ((before ++ [result]).map .receive) =
      some (during stream true after
        ⟨[], itemsFrom 0 before ++ [.message before.length result]⟩ [] (.receiving {})) := by
    rw [List.map_append, System.run_append, run_receive hbefore hordinary, Option.bind_some,
      List.map_singleton, System.run_cons, next_receive hlast, hresult]
    simp [Channel.send, stream]
  have hschedule : (sessionSystem C).run (sessionSystem C).init (schedule before result) =
      some (during stream true after
        ⟨itemsFrom 0 before ++ [.message before.length result], []⟩
        (projected ++ [⟨1, before.length⟩]) (.resultProjecting
          (SDKSession.withSessionId locals result) result
          (classifySdkBilling C.unicode locals.evidence) none)) := by
    rw [schedule, System.run_append, System.run_append, System.run_append, run_opening,
      Option.bind_some, hreceived, Option.bind_some, hrun, Option.bind_some,
      run_takeResult hresult (by rwa [hevidence])]
    simp
  refine ⟨_, System.Reachable.init.run hschedule, deliveredTo_map_deliveredFirst _,
    List.mem_append_right _ (List.mem_singleton_self _), ?_⟩
  rw [mem_deliveredTo]
  exact ⟨deliveredFirst result, by simp [during, stream], rfl, rfl, rfl⟩

end

/-! ## Messages to run with -/

/-- A session over the ASCII database with no host tools. -/
def plainContext : SessionContext := ⟨asciiDatabase, []⟩

/-- An init message that reports the API key source. -/
def initMessage (source : PyValue) : PyValue :=
  .object "SystemMessage" [("subtype", .str (lit "init")),
    ("data", .dict [(.str (lit "apiKeySource"), source)])]

/-- A rate-limit message that reports whether overage is in use. -/
def overageMessage (using? : PyValue) : PyValue :=
  .object "RateLimitEvent" [("rate_limit_info",
    .object "RateLimitInfo" [("is_using_overage", using?)])]

/-- What a subscription reports. -/
def subscriptionMessages : List PyValue :=
  [initMessage (.str (lit "none")), overageMessage (.bool false)]

/-- A result that reports nothing. -/
def plainResult : PyValue := .object "ResultMessage" []

/-- The schedule of a whole turn, with the callbacks and the settling of its
result. -/
def wholeTurn (before : List PyValue) : List Label :=
  schedule before plainResult ++
    [.turn .completed, .turn .completed, .turn .completed]

end HermesClaude.Session
