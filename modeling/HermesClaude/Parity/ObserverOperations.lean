/-
# The operations of an observer

An observer is used through `call`, `next_event`, `wait_event`, `turn_snapshot` and `snapshot`.
Each ends with a result or an exception, and a violation is meant to close the observer, so
that nothing is reported after it.

The code that closes it is a handler around the gateway's part of an operation.  Two checks
stand before that handler: those on the arguments of `call` and on the session of
`wait_event`.  Behind all others an observer stays closed.
-/

import HermesClaude.Parity.Observer

namespace HermesClaude.Parity

open HermesClaude.Python HermesClaude.Library

/-- How an operation ends: with a result, with a violation, or with another exception. -/
inductive Outcome
  | returned
  | violation (violation : ObserverViolation)
  | raised
  deriving DecidableEq

/-- What a failed step raises. -/
def Outcome.ofFailure : ObserverFailure → Outcome
  | .violation found => .violation found
  | .escaped => .raised

/-- How the gateway's part of an operation ends. -/
inductive GatewayEnd
  | returned (value : PyValue)
  | raised
  | violation (violation : ObserverViolation)

/-- The gateway's part of an operation: the value that it gives to its projector, if it gives
any, and how it ends. -/
structure GatewayRun where
  passed : Option PyValue := none
  ended : GatewayEnd

/-- What `fixture_snapshot` finds. -/
structure FixtureState where
  found : Bool
  size : Nat
  sha256 : Option PyStr
  recordCount : Nat
  deriving DecidableEq

/-- Where the current turn begins in each of the records. -/
structure TurnCursors where
  event : Nat := 0
  child : Nat := 0
  start : Nat := 0
  complete : Nat := 0
  request : Nat := 0
  response : Nat := 0

/-- An observer with the fields that only `turn_snapshot` uses. -/
structure LiveObserver where
  state : ObserverState
  cursors : TurnCursors := {}
  fixture : Option FixtureState := none

/-- An observer as it is built. -/
def LiveObserver.start (config : ObserverConfig) : LiveObserver where
  state := { sessionHash := config.sessionHash }

/-! ## Calls and events -/

namespace ObserverState

section Operations

variable (config : ObserverConfig)

/-- A step inside the handler: a violation closes the observer. -/
def attempt (s : ObserverState) : Except ObserverFailure ObserverState → Outcome × ObserverState
  | .ok t => (.returned, t)
  | .error failure => (.ofFailure failure, s.fails failure)

/-- `_call_frame`, inside the handler. -/
def attemptCallFrame (s : ObserverState) (method : PyStr) (decision : Option Decision)
    (value : PyValue) : Outcome × ObserverState :=
  if method = lit "session.create" then s.attempt (s.session value)
  else if method = lit "session.resume" then
    let s := { s with sessionHash := none }
    s.attempt (s.session value)
  else
    match decision with
    | some decision =>
      if method = lit "approval.respond" then s.attempt (s.respond decision value)
      else (.returned, s)
    | none => (.returned, s)

/-- `_event`, inside the handler. -/
def attemptEvent (s : ObserverState) (value : PyValue) : Outcome × ObserverState :=
  s.attempt (s.event config value)

/-- The part of an operation inside the handler: the gateway runs with the composed projector,
and what it returns is observed where nothing was projected. -/
def throughGateway (s : ObserverState) (observe : ObserverState → PyValue → Outcome × ObserverState)
    (observed : PyValue → Bool) (gateway : GatewayRun) : Outcome × ObserverState :=
  let after := match gateway.passed with
    | none => s
    | some value => (observe s value).2
  match gateway.ended with
  | .violation violation => (.violation violation, { after with failed := true })
  | .raised => (.raised, after)
  | .returned result =>
    if gateway.passed.isNone && observed result then observe after result else (.returned, after)

/-- `dict(params or {})`, where `params` is `None` or a mapping. -/
def callValues : PyValue → Option Frame
  | .none => some []
  | .dict items => some items
  | _ => none

/-- The arguments of `call` that pass its first check. -/
def callArguments (method params : PyValue) : Option (PyStr × Frame) :=
  match asText method, callValues params with
  | some name, some values => if matchesSafe name then some (name, values) else none
  | _, _ => none

/-- `call`. -/
def performCall (s : ObserverState) (method params : PyValue) (gateway : GatewayRun) :
    Outcome × ObserverState :=
  match callArguments method params with
  | none => (.violation ⟨"Gateway call is invalid"⟩, s)
  | some (name, values) =>
    match s.callSession values with
    | .error failure => s.attempt (.error failure)
    | .ok s =>
      match s.decision config name values with
      | .error failure => s.attempt (.error failure)
      | .ok decision =>
        s.throughGateway (fun s value => s.attemptCallFrame name decision value) (fun _ => true)
          gateway

/-- `next_event`. -/
def performNextEvent (s : ObserverState) (gateway : GatewayRun) : Outcome × ObserverState :=
  s.throughGateway (fun s value => s.attemptEvent config value) (fun result => result.mapping?.isSome)
    gateway

/-- `wait_event`; the kind it waits for is the gateway's affair. -/
def performWaitEvent (s : ObserverState) (sessionId : PyValue) (gateway : GatewayRun) :
    Outcome × ObserverState :=
  if sessionId.isNone then s.performNextEvent config gateway
  else
    let bound := do
      let text ← identity sessionId "session_id"
      s.session (.dict [(.str (lit "session_id"), .str text)])
    match bound with
    | .error failure => (.ofFailure failure, s)
    | .ok t => t.performNextEvent config gateway

end Operations

end ObserverState

/-! ## Snapshots of a turn -/

/-- What `turn_snapshot` returns. -/
structure TurnSnapshot where
  events : List ObservedEvent
  requests : List (PyStr × Nat × PyStr × PyStr)
  responses : List Decision
  denialToolFree : Bool
  recoverySucceeded : Bool
  started : List PyStr
  completed : List PyStr
  subagents : List TaskEvent
  terminalStatus : PyStr
  fixtureState : Option FixtureState
  deriving DecidableEq

namespace LiveObserver

/-- `turn_snapshot` on the observer's records: what belongs to the turn, if it closes with
exactly one terminal and is complete. -/
def currentTurn (o : LiveObserver) : Except ObserverFailure TurnSnapshot := do
  let events := o.state.events.drop o.cursors.event
  let terminals := events.filterMap ObservedEvent.terminalStatus
  let started := o.state.tools.starts.drop o.cursors.start
  let completed := o.state.tools.completes.drop o.cursors.complete
  let terminal ← orFail (match terminals, events.getLast? with
    | [terminal], some last => if last.terminalStatus = some terminal then some terminal else none
    | _, _ => none) "turn observation does not close with exactly one terminal"
  ensure (o.state.approvals.pendingHash.isNone && started.isPerm completed)
    "turn observation is incomplete"
  return {
    events
    requests := o.state.approvals.requests.drop o.cursors.request
    responses := o.state.approvals.responses.drop o.cursors.response
    denialToolFree := o.state.approvals.denialFree
    recoverySucceeded := o.state.approvals.denied && o.state.approvals.recovery &&
      terminal == lit "completed"
    started
    completed
    subagents := o.state.tasks.children.drop o.cursors.child
    terminalStatus := terminal
    fixtureState := o.fixture }

/-- The cursors at the ends of the records. -/
def closeTurn (o : LiveObserver) : LiveObserver :=
  { o with cursors := {
      event := o.state.events.length
      child := o.state.tasks.children.length
      start := o.state.tools.starts.length
      complete := o.state.tools.completes.length
      request := o.state.approvals.requests.length
      response := o.state.approvals.responses.length } }

/-- `turn_snapshot`, with what `fixture_snapshot` yields where a root is given. -/
def turnSnapshot (o : LiveObserver) (fixture : Option (Except ObserverFailure FixtureState)) :
    Except ObserverFailure TurnSnapshot × LiveObserver :=
  if o.state.failed then (fail "observer is closed after an observation violation", o)
  else
    match fixture with
    | some (.error failure) => (.error failure, o)
    | some (.ok found) =>
      let o := { o with fixture := some found }
      (o.currentTurn, if o.currentTurn.toOption.isSome then o.closeTurn else o)
    | none => (o.currentTurn, if o.currentTurn.toOption.isSome then o.closeTurn else o)

end LiveObserver

/-! ## Operations -/

/-- An operation on an observer, with what happens around it. -/
inductive Operation
  | call (method params : PyValue) (gateway : GatewayRun)
  | nextEvent (gateway : GatewayRun)
  | waitEvent (sessionId : PyValue) (gateway : GatewayRun)
  | turnSnapshot (fixture : Option (Except ObserverFailure FixtureState))
  | snapshot (requireTerminal : Bool)

/-- An operation that observes, in contrast to those that report. -/
def Operation.Observes : Operation → Prop
  | .call .. | .nextEvent .. | .waitEvent .. => True
  | .turnSnapshot .. | .snapshot .. => False

/-- The outcome of a report. -/
def Outcome.ofReport {α : Type} : Except ObserverFailure α → Outcome
  | .ok _ => .returned
  | .error failure => .ofFailure failure

section Runs

variable (config : ObserverConfig)

/-- An operation on an open observer. -/
def performOpen (o : LiveObserver) : Operation → Outcome × LiveObserver
  | .call method params gateway =>
    let (outcome, state) := o.state.performCall config method params gateway
    (outcome, { o with state })
  | .nextEvent gateway =>
    let (outcome, state) := o.state.performNextEvent config gateway
    (outcome, { o with state })
  | .waitEvent sessionId gateway =>
    let (outcome, state) := o.state.performWaitEvent config sessionId gateway
    (outcome, { o with state })
  | .turnSnapshot fixture =>
    let (report, o) := o.turnSnapshot fixture
    (.ofReport report, o)
  | .snapshot requireTerminal => (.ofReport (o.state.snapshot requireTerminal), o)

/-- An operation, behind `_guard`. -/
def perform (o : LiveObserver) (operation : Operation) : Outcome × LiveObserver :=
  if o.state.failed then (.violation ⟨"observer is closed after an observation violation"⟩, o)
  else performOpen config o operation

/-- An observer after some operations. -/
def afterOperations (o : LiveObserver) (operations : List Operation) : LiveObserver :=
  operations.foldl (fun o operation => (perform config o operation).2) o

/-- The operation raises a violation. -/
def RaisesViolation (o : LiveObserver) (operation : Operation) : Prop :=
  ∃ violation, (perform config o operation).1 = .violation violation

/-- The id is one that `wait_event` can be given: that of the observer's session, or any where
the observer has none yet.  An id without an encoding is no violation. -/
def AdmitsSession (s : ObserverState) (sessionId : PyValue) : Prop :=
  match identity sessionId "session_id" with
  | .ok text => s.sessionHash = none ∨ s.sessionHash = (identityHash "session_id" text).toOption
  | .error .escaped => True
  | .error (.violation _) => False

/-- The arguments pass the checks that stand before the handler. -/
def Operation.Admitted (s : ObserverState) : Operation → Prop
  | .call method params _ => (ObserverState.callArguments method params).isSome = true
  | .waitEvent sessionId _ => sessionId = .none ∨ AdmitsSession s sessionId
  | .nextEvent _ | .turnSnapshot _ | .snapshot _ => True

/-! ## What closes an observer -/

variable {config : ObserverConfig}

/-- A step inside the handler closes the observer if it raises a violation. -/
theorem attempt_closes {s : ObserverState} {result : Except ObserverFailure ObserverState}
    {found : ObserverViolation} (h : (s.attempt result).1 = .violation found) :
    (s.attempt result).2.failed = true := by
  cases result with
  | ok t => cases h
  | error failure =>
    cases failure with
    | violation other => rfl
    | escaped => cases h

theorem attemptCallFrame_closes {s : ObserverState} {method : PyStr} {decision : Option Decision}
    {value : PyValue} {found : ObserverViolation}
    (h : (s.attemptCallFrame method decision value).1 = .violation found) :
    (s.attemptCallFrame method decision value).2.failed = true := by
  unfold ObserverState.attemptCallFrame at h ⊢
  by_cases hcreate : method = lit "session.create"
  · rw [if_pos hcreate] at h ⊢
    exact attempt_closes h
  rw [if_neg hcreate] at h ⊢
  by_cases hresume : method = lit "session.resume"
  · rw [if_pos hresume] at h ⊢
    exact attempt_closes h
  rw [if_neg hresume] at h ⊢
  cases decision with
  | none => cases h
  | some decision =>
    dsimp only at h ⊢
    split_ifs at h ⊢ with hrespond
    exact attempt_closes h

/-- What the gateway's part raises is handled. -/
theorem throughGateway_closes {s : ObserverState}
    {observe : ObserverState → PyValue → Outcome × ObserverState} {observed : PyValue → Bool}
    {gateway : GatewayRun} {found : ObserverViolation}
    (hobserve : ∀ t value, (observe t value).1 = .violation found →
      (observe t value).2.failed = true)
    (h : (s.throughGateway observe observed gateway).1 = .violation found) :
    (s.throughGateway observe observed gateway).2.failed = true := by
  unfold ObserverState.throughGateway at h ⊢
  cases hended : gateway.ended with
  | violation other => rfl
  | raised =>
    rw [hended] at h
    cases h
  | returned result =>
    rw [hended] at h
    dsimp only at h ⊢
    split_ifs at h ⊢
    exact hobserve _ _ h

theorem performNextEvent_closes {s : ObserverState} {gateway : GatewayRun}
    {found : ObserverViolation}
    (h : (s.performNextEvent config gateway).1 = .violation found) :
    (s.performNextEvent config gateway).2.failed = true :=
  throughGateway_closes (fun _ _ => attempt_closes) h

/-- `call` closes the observer with a violation exactly if its arguments pass the first check. -/
theorem performCall_closes_iff {s : ObserverState} {method params : PyValue} {gateway : GatewayRun}
    {found : ObserverViolation} (hopen : s.failed = false)
    (h : (s.performCall config method params gateway).1 = .violation found) :
    (s.performCall config method params gateway).2.failed = true ↔
      (ObserverState.callArguments method params).isSome = true := by
  unfold ObserverState.performCall at h ⊢
  cases harguments : ObserverState.callArguments method params with
  | none => simp [hopen]
  | some arguments =>
    obtain ⟨name, values⟩ := arguments
    rw [harguments] at h
    dsimp only at h ⊢
    refine iff_of_true ?_ rfl
    cases hsession : s.callSession values with
    | error failure =>
      rw [hsession] at h
      exact attempt_closes h
    | ok t =>
      rw [hsession] at h
      dsimp only at h ⊢
      cases hdecision : t.decision config name values with
      | error failure =>
        rw [hdecision] at h
        exact attempt_closes h
      | ok decision =>
        rw [hdecision] at h
        exact throughGateway_closes (fun _ _ => attemptCallFrame_closes) h

/-- An identity is a text with an encoding, within its bounds. -/
theorem identity_eq_ok {value : PyValue} {field : String} {text : PyStr} :
    identity value field = .ok text ↔ value = .str text ∧ text ≠ [] ∧
      ∃ raw, encodeUtf8 text = some raw ∧
        ¬ (raw.length > 256 || text.any CodePoint.isAsciiControl) = true := by
  cases value with
  | str found =>
    unfold identity
    rw [PyValue.str.injEq]
    by_cases hempty : found = []
    · dsimp only
      rw [if_pos hempty]
      refine iff_of_false nofun ?_
      intro h
      exact h.2.1 (h.1.symm.trans hempty)
    dsimp only
    rw [if_neg hempty]
    cases hencoded : encodeUtf8 found with
    | none =>
      refine iff_of_false nofun ?_
      intro h
      rcases h with ⟨rfl, -, raw, hraw, -⟩
      rw [hencoded] at hraw
      cases hraw
    | some raw =>
      dsimp only
      by_cases hbound : (raw.length > 256 || found.any CodePoint.isAsciiControl) = true
      · rw [if_pos hbound]
        refine iff_of_false nofun ?_
        intro h
        rcases h with ⟨rfl, -, other, hother, hbounded⟩
        rw [hencoded] at hother
        cases hother
        exact hbounded hbound
      · rw [if_neg hbound]
        constructor
        · intro h
          cases h
          exact ⟨rfl, hempty, raw, hencoded, hbound⟩
        · intro h
          rw [h.1]
  | none | bool | int | float | bytes | list | tuple | set | dict | object =>
    refine iff_of_false ?_ ?_
    · exact nofun
    · exact nofun

/-- A text that is an identity under one name is one under every name. -/
theorem identity_str {value : PyValue} {field : String} {text : PyStr}
    (h : identity value field = .ok text) (other : String) :
    identity (.str text) other = .ok text :=
  identity_eq_ok.mpr ⟨rfl, (identity_eq_ok.mp h).2⟩

/-- An identity has a hash. -/
theorem identityHash_of_identity {value : PyValue} {field : String} {text : PyStr}
    (h : identity value field = .ok text) : ∃ hash, identityHash "session_id" text = .ok hash := by
  have hsafe : matchesSafe (lit "session_id") = true := by decide
  rcases (identity_eq_ok.mp h).2.2 with ⟨raw, hraw, -⟩
  refine ⟨hexdigest (asciiBytes "hermes-claude-agent-sdk:v4:gateway-observer" ++ [0] ++
    asciiBytes "session_id" ++ [0] ++ raw), ?_⟩
  unfold identityHash
  rw [hsafe, identity_str h "session_id"]
  simp only [ensure, if_true, bind, Except.bind, hraw]

/-- `_session` on an identity fails exactly if the observer has another session. -/
theorem session_of_identity {s : ObserverState} {sessionId : PyValue} {text : PyStr}
    (h : identity sessionId "session_id" = .ok text) :
    (s.session (.dict [(.str (lit "session_id"), .str text)])).toOption.isSome = true ↔
      AdmitsSession s sessionId := by
  obtain ⟨hash, hhash⟩ := identityHash_of_identity h
  have hfound : find ["session_id"] (.dict [(.str (lit "session_id"), .str text)]) = .str text := by
    have hkey : PyValue.lookupKey [(.str (lit "session_id"), .str text)] (lit "session_id") =
        some (.str text) := by
      simp [PyValue.lookupKey, PyValue.isText]
    simp [find, findIn, hkey]
  have hhashed : hashedIdentity "session_id" "session_id" (.str text) = .ok hash := by
    unfold hashedIdentity
    rw [identity_str h "session_id"]
    exact hhash
  unfold ObserverState.session AdmitsSession
  simp only [hfound, h, PyValue.isNone, Bool.false_eq_true, if_false, hhashed, hhash]
  cases s.sessionHash with
  | none => exact iff_of_true rfl (.inl rfl)
  | some bound =>
    by_cases hbound : bound = hash
    · subst hbound
      simp [ensure, Except.toOption, bind, Except.bind, pure, Except.pure]
    · simp [ensure, Except.toOption, bind, Except.bind, hbound, fail]

/-- `wait_event` closes the observer with a violation exactly if the session is admitted. -/
theorem performWaitEvent_closes_iff {s : ObserverState} {sessionId : PyValue}
    {gateway : GatewayRun} {found : ObserverViolation} (hopen : s.failed = false)
    (h : (s.performWaitEvent config sessionId gateway).1 = .violation found) :
    (s.performWaitEvent config sessionId gateway).2.failed = true ↔
      sessionId = .none ∨ AdmitsSession s sessionId := by
  unfold ObserverState.performWaitEvent at h ⊢
  by_cases hnone : sessionId.isNone = true
  · rw [if_pos hnone] at h ⊢
    have hsession : sessionId = .none := by
      cases sessionId <;> first | rfl | cases hnone
    exact iff_of_true (performNextEvent_closes h) (.inl hsession)
  rw [if_neg hnone] at h ⊢
  have hsession : sessionId ≠ .none := by
    intro hsession
    exact hnone (by rw [hsession]; rfl)
  rw [or_iff_right hsession]
  cases hidentity : identity sessionId "session_id" with
  | error failure =>
    rw [hidentity] at h
    cases failure with
    | escaped => cases h
    | violation other =>
      unfold AdmitsSession
      rw [hidentity]
      exact iff_of_false (by simp [bind, Except.bind, hopen]) id
  | ok text =>
    rw [hidentity] at h
    rw [← session_of_identity hidentity]
    cases hbound : s.session (.dict [(.str (lit "session_id"), .str text)]) with
    | error failure =>
      exact iff_of_false (by simp [bind, Except.bind, hbound, hopen]) nofun
    | ok t =>
      have hok : (Except.ok text >>= fun text =>
          s.session (.dict [(.str (lit "session_id"), .str text)])) = .ok t := hbound
      rw [hok] at h ⊢
      exact iff_of_true (performNextEvent_closes h) rfl

/-- **One operation.** An operation that raises a violation closes the observer exactly if its
arguments pass the checks before the handler. -/
theorem perform_closes_iff {o : LiveObserver} {operation : Operation}
    (hopen : o.state.failed = false) (hobserves : operation.Observes)
    (h : RaisesViolation config o operation) :
    (perform config o operation).2.state.failed = true ↔ operation.Admitted o.state := by
  rcases h with ⟨found, h⟩
  unfold perform at h ⊢
  rw [hopen] at h ⊢
  cases operation with
  | call method params gateway => exact performCall_closes_iff hopen h
  | nextEvent gateway => exact iff_of_true (performNextEvent_closes h) trivial
  | waitEvent sessionId gateway => exact performWaitEvent_closes_iff hopen h
  | turnSnapshot fixture => exact hobserves.elim
  | snapshot requireTerminal => exact hobserves.elim

/-- A closed observer refuses everything, and stays as it is. -/
theorem perform_of_closed {o : LiveObserver} (hclosed : o.state.failed = true)
    (operation : Operation) :
    perform config o operation =
      (.violation ⟨"observer is closed after an observation violation"⟩, o) :=
  if_pos hclosed

theorem afterOperations_of_closed {o : LiveObserver} (hclosed : o.state.failed = true)
    (operations : List Operation) : afterOperations config o operations = o := by
  induction operations with
  | nil => rfl
  | cons operation rest ih =>
    show afterOperations config (perform config o operation).2 rest = o
    rw [perform_of_closed hclosed]
    exact ih

theorem afterOperations_append (o : LiveObserver) (first second : List Operation) :
    afterOperations config o (first ++ second) =
      afterOperations config (afterOperations config o first) second :=
  List.foldl_append

/-- Every operation of a run passes the checks before the handler. -/
def AdmittedRun (config : ObserverConfig) (o : LiveObserver) (operations : List Operation) : Prop :=
  ∀ before operation after, operations = before ++ operation :: after →
    operation.Admitted (afterOperations config o before).state

/-- **Closed for good.** In a run whose operations all pass the checks before the handler,
everything after a violation is refused. -/
theorem refuses_after_violation (config : ObserverConfig) {before after : List Operation}
    {operation : Operation} (later : Operation) (hobserves : operation.Observes)
    (hadmitted : AdmittedRun config (.start config) (before ++ operation :: after))
    (hraises : RaisesViolation config (afterOperations config (.start config) before) operation) :
    RaisesViolation config
      (afterOperations config (.start config) (before ++ operation :: after)) later := by
  have hclosed : (perform config (afterOperations config (.start config) before)
      operation).2.state.failed = true := by
    cases hopen : (afterOperations config (.start config) before).state.failed with
    | true => rw [perform_of_closed hopen]; exact hopen
    | false =>
      exact (perform_closes_iff hopen hobserves hraises).mpr (hadmitted before operation after rfl)
  rw [afterOperations_append]
  show RaisesViolation config (afterOperations config
    (perform config (afterOperations config (.start config) before) operation).2 after) later
  rw [afterOperations_of_closed hclosed]
  exact ⟨_, congrArg Prod.fst (perform_of_closed hclosed later)⟩

end Runs

/-! ## Two runs -/

/-- An observer for ASCII frames that allows no tool, bound to a session. -/
def boundConfig : ObserverConfig where
  library := asciiGatewayLibrary
  allowed := []
  sessionHash := (identityHash "session_id" (lit "first")).toOption
  bounded := maxEvents_bounded
  phased := terminalCount_phased

/-- A gateway that passes something on that is no event. -/
def brokenGateway : GatewayRun where
  passed := some .none
  ended := .violation ⟨"observed frame is not a Gateway event"⟩

/-- A gateway that passes an ordinary event on. -/
def ordinaryGateway : GatewayRun where
  passed := some (.dict (eventFrame "message.delta" "text" "hello"))
  ended := .returned .none

/-- An observer is given something that is no event, and does not report afterwards. -/
theorem refuses_after_violation_broken :
    RaisesViolation boundConfig (afterOperations boundConfig (.start boundConfig)
      ([] ++ .nextEvent brokenGateway :: [])) (.snapshot false) := by
  refine refuses_after_violation boundConfig _ trivial ?_ ⟨_, rfl⟩
  intro before operation after hrun
  cases before with
  | nil =>
    cases hrun
    exact trivial
  | cons first rest =>
    have hlength := congrArg List.length hrun
    simp at hlength

/-- An observer that is asked for the events of another session raises a violation, and
reports afterwards all the same. -/
theorem reports_after_violation :
    ¬ ∀ before operation after later, Operation.Observes operation →
      RaisesViolation boundConfig (afterOperations boundConfig (.start boundConfig) before)
        operation →
      RaisesViolation boundConfig (afterOperations boundConfig (.start boundConfig)
        (before ++ operation :: after)) later := by
  intro hall
  have hfirst : (perform boundConfig (afterOperations boundConfig (.start boundConfig)
      [.nextEvent ordinaryGateway]) (.waitEvent (.str (lit "second")) ordinaryGateway)).1 =
        .violation ⟨"session identity does not match"⟩ := by
    decide +kernel
  have hsecond : (perform boundConfig (afterOperations boundConfig (.start boundConfig)
      ([.nextEvent ordinaryGateway] ++ .waitEvent (.str (lit "second")) ordinaryGateway :: []))
      (.snapshot false)).1 = .returned := by
    decide +kernel
  rcases hall [.nextEvent ordinaryGateway] (.waitEvent (.str (lit "second")) ordinaryGateway) []
    (.snapshot false) trivial ⟨_, hfirst⟩ with ⟨found, hraised⟩
  rw [hsecond] at hraised
  cases hraised

end HermesClaude.Parity
