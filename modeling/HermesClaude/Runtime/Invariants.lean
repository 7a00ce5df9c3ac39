/-
# Invariants of turns

What is proved of a runtime is mostly a property of the turn in progress, kept by every
step of its generator and stable under what everybody else does meanwhile, together with
a property of the turns that are over.  The rule below splits a run into those parts:
one obligation for the beginning of a turn, one for a step of the generator, and one for
each way the environment can touch a turn.

A property of a turn may look at the bridge and at whether there is a session, at nothing
else of the runtime.  A property that only looks at what is fixed when the task of a turn
is created needs no more than the obligation for the beginning.
-/

import HermesClaude.Runtime.Turn

namespace HermesClaude.Runtime.ClaudeAgentSDKRuntime

open HermesClaude.Python HermesClaude.Bridge HermesClaude.Content HermesClaude.Session
  HermesClaude.Library

variable {db : UnicodeDatabase}

/-! ## What a generator can do -/

/-- The steps of a suspended generator, one constructor for each way to go on. -/
inductive Resumed (r : ClaudeAgentSDKRuntime db) (t : Turn db) (poll : Option Poll) :
    Signal → ClaudeAgentSDKRuntime db → Prop
  | cancelReturned {site : CancelSite} (pc : t.pc = .cancelling site) :
      Resumed r t poll .returned (r.closeSession.afterCancel { t with cancelReturned := true } site)
  | handlerCancelled {site : CancelSite} (pc : t.pc = .cancelling site)
      (handler : site.isHandler = true) : Resumed r t poll .cancelled (r.finish t .raised)
  | cancelCancelled {site : CancelSite} (pc : t.pc = .cancelling site)
      (outside : site.isHandler = false) :
      Resumed r t poll .cancelled (r.cancelSession t .cancelledHandler)
  | received {projection : ProjectionResult} {rest : List ProjectionResult}
      (pc : t.pc = .receiving) (queue : t.queue = projection :: rest) :
      Resumed r t poll .returned (r.receive { t with queue := rest } projection poll)
  | timedOut (pc : t.pc = .receiving) : Resumed r t poll .timedOut (r.pumpHead t poll)
  | receiveCancelled (pc : t.pc = .receiving) :
      Resumed r t poll .cancelled (r.cancelSession t .cancelledHandler)
  | passedOn {rest : List RuntimeEvent} (pc : t.pc = .yielding rest) :
      Resumed r t poll .next (r.passOn t poll rest)
  | settled {result : SessionTurnResult} (pc : t.pc = .awaitingTask)
      (task : t.task = some (.ended (.returned result))) :
      Resumed r t poll .returned (r.settle t result)
  | nativeFailed {phase : RuntimeFailurePhase} {result : SessionTurnResult}
      (pc : t.pc = .awaitingNativeTask phase) (task : t.task = some (.ended (.returned result))) :
      Resumed r t poll .returned (r.suspend (t.conclude (.failed (nativeFailure phase))))
  | taskCancelled (pc : t.pc = .awaitingTask ∨ ∃ phase, t.pc = .awaitingNativeTask phase)
      (task : t.task = some (.ended .raisedCancelled)) :
      Resumed r t poll .returned (r.cancelSession t .cancelledHandler)
  | taskRaised (pc : t.pc = .awaitingTask ∨ ∃ phase, t.pc = .awaitingNativeTask phase)
      (task : t.task = some (.ended .raisedError)) :
      Resumed r t poll .returned (r.cancelSession t .errorHandler)
  | stateTaken {result : SessionTurnResult} (pc : t.pc = .yieldedState result) :
      Resumed r t poll .next (r.complete t result)
  | exhausted (pc : t.pc = .yieldedTerminal) : Resumed r t poll .next (r.finish t .over)
  | closed (pc : (∃ rest, t.pc = .yielding rest) ∨ (∃ result, t.pc = .yieldedState result) ∨
      t.pc = .yieldedTerminal) : Resumed r t poll .close (r.finish t .over)

/-- Every step of a generator is one of these. -/
theorem resumed_of_resume {r s : ClaudeAgentSDKRuntime db} {t : Turn db} {signal : Signal}
    {poll : Option Poll} (h : r.resume t signal poll = some s) : Resumed r t poll signal s := by
  unfold resume at h
  split at h
  next site hpc => exact Option.some.inj h ▸ .cancelReturned hpc
  next site hpc =>
    split_ifs at h with hsite
    · exact Option.some.inj h ▸ .handlerCancelled hpc hsite
    · exact Option.some.inj h ▸ .cancelCancelled hpc (by simpa using hsite)
  next hpc =>
    split at h
    next => cases h
    next projection rest hqueue => exact Option.some.inj h ▸ .received hpc hqueue
  next hpc => exact Option.some.inj h ▸ .timedOut hpc
  next hpc => exact Option.some.inj h ▸ .receiveCancelled hpc
  next rest hpc => exact Option.some.inj h ▸ .passedOn hpc
  next hpc =>
    unfold taskOver at h
    split at h
    next result htask => exact Option.some.inj h ▸ .settled hpc htask
    next htask => exact Option.some.inj h ▸ .taskCancelled (.inl hpc) htask
    next htask => exact Option.some.inj h ▸ .taskRaised (.inl hpc) htask
    all_goals cases h
  next phase hpc =>
    unfold taskOver at h
    split at h
    next result htask => exact Option.some.inj h ▸ .nativeFailed hpc htask
    next htask => exact Option.some.inj h ▸ .taskCancelled (.inr ⟨phase, hpc⟩) htask
    next htask => exact Option.some.inj h ▸ .taskRaised (.inr ⟨phase, hpc⟩) htask
    all_goals cases h
  next result hpc => exact Option.some.inj h ▸ .stateTaken hpc
  next hpc => exact Option.some.inj h ▸ .exhausted hpc
  next rest hpc => exact Option.some.inj h ▸ .closed (.inl ⟨rest, hpc⟩)
  next result hpc => exact Option.some.inj h ▸ .closed (.inr (.inl ⟨result, hpc⟩))
  next hpc => exact Option.some.inj h ▸ .closed (.inr (.inr hpc))
  next => cases h

/-- The authorization of a turn, one constructor for each way it goes. -/
inductive Authorized (r : ClaudeAgentSDKRuntime db) (turn : Nat) (request : RuntimeTurnRequest db)
    (answers : PreflightAnswers) : ClaudeAgentSDKRuntime db → Option RuntimeFailure → Prop
  | /-- A check waited for this request. -/
    waiting (slot : r.preflightRequest = some request.identity) :
      Authorized r turn request answers { r with
        preflightRequest := none
        authorizations := r.authorizations ++ [.consumed turn request.identity] } none
  | /-- `run_turn` checked the request itself, and it failed. -/
    refused {failure : RuntimeFailure} (failed : preflightChecks request answers = some failure) :
      Authorized r turn request answers { r with
        preflightRequest := none
        authorizations := r.authorizations ++
          [.checked request.identity answers (some failure)] } (some failure)
  | /-- `run_turn` checked the request itself, and it passed. -/
    checked (passed : preflightChecks request answers = none) :
      Authorized r turn request answers { r with
        preflightRequest := none
        authorizations := r.authorizations ++ [.checked request.identity answers none] ++
          [.consumed turn request.identity] } none

theorem authorized_of_authorize (r : ClaudeAgentSDKRuntime db) (turn : Nat)
    (request : RuntimeTurnRequest db) (answers : PreflightAnswers) :
    Authorized r turn request answers (r.authorize turn request answers).1
      (r.authorize turn request answers).2 := by
  by_cases hslot : r.preflightRequest = some request.identity
  · simp only [authorize, consumePreflight, hslot, if_true]
    exact .waiting hslot
  · cases hchecks : preflightChecks request answers with
    | some failure =>
      simp only [authorize, consumePreflight, hslot, if_false, preflight, hchecks,
        Option.isSome_some, if_true]
      exact .refused hchecks
    | none =>
      simp only [authorize, consumePreflight, hslot, if_false, preflight, hchecks,
        Option.isSome_none, Bool.false_eq_true, if_true]
      exact .checked hchecks

/-- Authorization changes the slot and its log, nothing else. -/
theorem Authorized.eq {r s : ClaudeAgentSDKRuntime db} {turn : Nat}
    {request : RuntimeTurnRequest db} {answers : PreflightAnswers}
    {failure : Option RuntimeFailure} (h : Authorized r turn request answers s failure) :
    ∃ log, s = { r with preflightRequest := none, authorizations := log } := by
  cases h <;> exact ⟨_, rfl⟩

/-- The first suspension of a turn, one constructor for each way to get there from where
authorization left the runtime. -/
inductive Begun (context : RuntimeContext db) (authorized : ClaudeAgentSDKRuntime db)
    (result : Option RuntimeFailure) (t : Turn db) (host : RuntimeHost) (answers : StartAnswers) :
    ClaudeAgentSDKRuntime db → Prop
  | refused (failure : RuntimeFailure) :
      Begun context authorized result t host answers (authorized.refuse t failure)
  | cancelled : Begun context authorized result t host answers
      (authorized.suspend (t.emitLast (.cancelled "cancelled before runtime start") false))
  | escaped (raises : (∃ cancelled, answers.poll = .escapes cancelled) ∨
      buildSdkTurnInput context.library t.request.messages = .error .escaped) :
      Begun context authorized result t host answers (authorized.finish t .raised)
  | entered (passed : result = none) :
      Begun context authorized result t host answers ((authorized.enter t).setup t host answers)

theorem begun_of_startTurn (context : RuntimeContext db) (r : ClaudeAgentSDKRuntime db)
    (request : RuntimeTurnRequest db) (host : RuntimeHost) (answers : StartAnswers) :
    ∃ authorized result, Authorized r.prepare r.turns request answers.preflight authorized result ∧
      Begun context authorized result (r.newTurn request) host answers
        (r.startTurn context request host answers) := by
  refine ⟨_, _, authorized_of_authorize r.prepare r.turns request answers.preflight, ?_⟩
  unfold startTurn
  split
  next s failure heq =>
    rw [heq]
    exact .refused failure
  next s heq =>
    rw [heq]
    unfold proceed
    by_cases hclosed : s.closed = true
    · rw [if_pos hclosed]
      exact .refused _
    · rw [if_neg hclosed]
      split
      next cancelled hpoll => exact .escaped (.inl ⟨cancelled, hpoll⟩)
      next => exact .cancelled
      next =>
        by_cases hhost : s.host.any (· ≠ host.identity) = true
        · rw [if_pos hhost]
          exact .refused _
        · rw [if_neg hhost]
          split
          next => exact .refused _
          next hprompt => exact .escaped (.inr hprompt)
          next => exact .refused _
          next => exact .entered rfl
      next => exact .refused _
      next => exact .refused _

/-- The history of turns and tools is the same. -/
structure SameHistory (r s : ClaudeAgentSDKRuntime db) : Prop where
  finished : s.finished = r.finished
  orphans : s.orphans = r.orphans
  toolRuns : s.toolRuns = r.toolRuns

/-- The slot of the waiting check and its log are the same. -/
structure SameAuthorization (r s : ClaudeAgentSDKRuntime db) : Prop where
  slot : s.preflightRequest = r.preflightRequest
  log : s.authorizations = r.authorizations

/-- The outcomes of session setup. -/
inductive SetUp (r : ClaudeAgentSDKRuntime db) (t : Turn db) : ClaudeAgentSDKRuntime db → Prop
  | /-- The first setup failed, and there is no session. -/
    failed {kept : ClaudeAgentSDKRuntime db} {bridge : LocalBridge} (same : SameHistory r kept)
      (authorization : SameAuthorization r kept) (session : kept.session = none) (unbound : bridge ≠ .bound) :
      SetUp r t (kept.afterCancel { t with bridge } .errorHandler)
  | changed : SetUp r t (r.suspend (t.emitLast
      (.failed (earlyFailure "claude_runtime_session_contract_changed"
        "Claude runtime session prompt, tools, or selection changed")) true))
  | bound {kept : ClaudeAgentSDKRuntime db} (same : SameHistory r kept)
      (authorization : SameAuthorization r kept) (session : kept.session.isSome = true)
      (count : r.session.isSome = true → kept.executionCount = r.executionCount)
      (first : r.session = none → kept.executionCount = 0) :
      SetUp r t (kept.bindTurn t)

/-- A first setup that fails leaves no session and no bridge in the local variable that
the runtime keeps. -/
theorem firstSetup_failed {r kept : ClaudeAgentSDKRuntime db} {request : RuntimeTurnRequest db}
    {host : RuntimeHost} {answers : StartAnswers} {bridge : LocalBridge}
    (h : r.firstSetup request host answers = (kept, some bridge)) :
    SameHistory r kept ∧ SameAuthorization r kept ∧ kept.session = r.session ∧
      bridge ≠ .bound := by
  unfold firstSetup at h
  dsimp only at h
  split at h
  · cases h
    exact ⟨⟨rfl, rfl, rfl⟩, ⟨rfl, rfl⟩, rfl, by rintro ⟨⟩⟩
  · split_ifs at h
    · cases h
      exact ⟨⟨rfl, rfl, rfl⟩, ⟨rfl, rfl⟩, rfl, by rintro ⟨⟩⟩
    · cases h
      exact ⟨⟨rfl, rfl, rfl⟩, ⟨rfl, rfl⟩, rfl, by rintro ⟨⟩⟩
    · cases h

/-- A first setup that succeeds creates a session and a bridge that has executed
nothing. -/
theorem firstSetup_ready {r kept : ClaudeAgentSDKRuntime db} {request : RuntimeTurnRequest db}
    {host : RuntimeHost} {answers : StartAnswers}
    (h : r.firstSetup request host answers = (kept, none)) :
    SameHistory r kept ∧ SameAuthorization r kept ∧ kept.session.isSome = true ∧
      kept.executionCount = 0 := by
  unfold firstSetup at h
  dsimp only at h
  split at h
  · cases h
  · next bridge hbridge =>
    split_ifs at h
    · cases h
    · cases h
    · cases h
      exact ⟨⟨rfl, rfl, rfl⟩, ⟨rfl, rfl⟩, rfl, HostToolBridge.assemble_count hbridge⟩

theorem setUp_of_setup (r : ClaudeAgentSDKRuntime db) (t : Turn db) (host : RuntimeHost)
    (answers : StartAnswers) : SetUp r t (r.setup t host answers) := by
  unfold setup
  split
  next hsession =>
    split
    next kept bridge hfirst =>
      obtain ⟨hsame, hauthorization, hkept, hbridge⟩ := firstSetup_failed hfirst
      have hnone : kept.session = none := hkept.trans hsession
      unfold cancelSession
      simp only [hnone]
      exact .failed hsame hauthorization hnone hbridge
    next kept hfirst =>
      obtain ⟨hsame, hauthorization, hkept, hcount⟩ := firstSetup_ready hfirst
      exact .bound hsame hauthorization hkept (fun h => by simp [hsession] at h) fun _ => hcount
  next session hsession =>
    split_ifs
    · exact .changed
    · exact .bound ⟨rfl, rfl, rfl⟩ ⟨rfl, rfl⟩ rfl (fun _ => rfl) fun h => by simp [hsession] at h
    · exact .bound ⟨rfl, rfl, rfl⟩ ⟨rfl, rfl⟩ (by simp [hsession]) (fun _ => rfl) fun h => by
        simp [hsession] at h

/-! ## Inductive properties -/

/-- The turn in progress has one property and the history another. -/
structure Invariant (I : ClaudeAgentSDKRuntime db → Turn db → Prop)
    (D : ClaudeAgentSDKRuntime db → Prop) (r : ClaudeAgentSDKRuntime db) : Prop where
  turn : ∀ t, r.turn = some t → I r t
  history : D r

/-- Two runtimes that a property of turns cannot tell apart. -/
structure SameFrame (r s : ClaudeAgentSDKRuntime db) : Prop where
  bridge : s.bridge = r.bridge
  session : s.session.isSome = r.session.isSome

/-- What makes a property of turns, and one of the history, an invariant of guarded
runs. -/
structure Inductive (context : RuntimeContext db)
    (guard : ClaudeAgentSDKRuntime db → Label db → Prop)
    (I : ClaudeAgentSDKRuntime db → Turn db → Prop)
    (D : ClaudeAgentSDKRuntime db → Prop) : Prop where
  init : D {}
  history : ∀ {r s}, SameHistory r s → D r → D s
  execute : ∀ {r bridge turn}, D r → D (r.execute bridge turn)
  orphanEnds : ∀ {r turn}, D r → D { r with orphans := r.orphans.filter (· ≠ turn) }
  frame : ∀ {r s t}, SameFrame r s → I r t → I s t
  produce : ∀ {r t projection}, t.task = some .running → I r t →
    I r { t with
      queue := t.queue ++ [projection]
      produced := t.produced ++ projection.events }
  taskEnds : ∀ {r t ending}, guard r (.taskEnds ending) → t.task = some .running → I r t →
    I r { t with task := some (.ended ending) }
  tool : ∀ {r t bridge turn}, guard r (.tool turn) → r.bridge = some bridge → r.turn = some t →
    I r t → I (r.execute bridge turn) { t with executions := t.executions + 1 }
  start : ∀ {r request host answers}, guard r (.start request host answers) → r.turn = none →
    D r → Invariant I D (r.startTurn context request host answers)
  resume : ∀ {r t s signal poll}, guard r (.generator signal poll) → r.turn = some t → I r t →
    D r → r.resume t signal poll = some s → Invariant I D s

variable {context : RuntimeContext db} {guard : ClaudeAgentSDKRuntime db → Label db → Prop}
  {I : ClaudeAgentSDKRuntime db → Turn db → Prop} {D : ClaudeAgentSDKRuntime db → Prop}

theorem SameFrame.closeSession (r : ClaudeAgentSDKRuntime db) : SameFrame r r.closeSession :=
  ⟨rfl, by simp [ClaudeAgentSDKRuntime.closeSession]⟩

/-- A report changes nothing but what the session reported last. -/
theorem report_same (r : ClaudeAgentSDKRuntime db) (ran : Option RuntimeSession)
    (ending : Ending) :
    SameFrame r (r.report ran ending) ∧ SameHistory r (r.report ran ending) ∧
      SameAuthorization r (r.report ran ending) ∧ (r.report ran ending).turn = r.turn := by
  unfold report
  repeat' split
  all_goals refine ⟨⟨rfl, ?_⟩, ⟨rfl, rfl, rfl⟩, ⟨rfl, rfl⟩, rfl⟩
  · simp
  all_goals rfl

/-- What does not touch the turn keeps the invariant. -/
theorem Invariant.of_frame (h : Inductive context guard I D) {r s : ClaudeAgentSDKRuntime db}
    (hr : Invariant I D r) (hframe : SameFrame r s) (hturn : s.turn = r.turn)
    (hhistory : SameHistory r s) : Invariant I D s :=
  ⟨fun t ht => h.frame hframe (hr.turn t (hturn ▸ ht)), h.history hhistory hr.history⟩

/-- Replacing the turn keeps the invariant when the new turn has the property. -/
theorem Invariant.suspend (h : Inductive context guard I D) {r : ClaudeAgentSDKRuntime db}
    (hhistory : D r) {t : Turn db} (ht : I r t) : Invariant I D (r.suspend t) := by
  refine ⟨fun t' ht' => ?_, h.history (r := r) (s := r.suspend t) ⟨rfl, rfl, rfl⟩ hhistory⟩
  rw [ClaudeAgentSDKRuntime.suspend, Option.some.injEq] at ht'
  subst ht'
  have hframe : SameFrame r (r.suspend t) := ⟨rfl, rfl⟩
  exact h.frame hframe ht

/-- **Step rule.** -/
theorem Inductive.next (h : Inductive context guard I D) {r s : ClaudeAgentSDKRuntime db}
    {label : Label db} (hr : Invariant I D r) (hguard : guard r label)
    (hnext : r.next context label = some s) : Invariant I D s := by
  cases label with
  | preflight request answers =>
    cases hnext
    exact hr.of_frame h ⟨rfl, rfl⟩ rfl ⟨rfl, rfl, rfl⟩
  | start request host answers =>
    simp only [ClaudeAgentSDKRuntime.next] at hnext
    cases hturn : r.turn with
    | some t => simp [hturn] at hnext
    | none =>
      simp only [hturn, Option.some.injEq] at hnext
      exact hnext ▸ h.start hguard hturn hr.history
  | generator signal poll =>
    simp only [ClaudeAgentSDKRuntime.next, Option.bind_eq_some_iff] at hnext
    obtain ⟨t, hturn, hresume⟩ := hnext
    exact h.resume hguard hturn (hr.turn t hturn) hr.history hresume
  | produce projection =>
    simp only [ClaudeAgentSDKRuntime.next] at hnext
    split at hnext
    next t hturn =>
      split at hnext
      next htask =>
        cases hnext
        exact Invariant.suspend h hr.history (h.produce htask (hr.turn t hturn))
      next => cases hnext
    next => cases hnext
  | taskEnds ending =>
    simp only [ClaudeAgentSDKRuntime.next] at hnext
    split at hnext
    next t hturn =>
      split at hnext
      next htask =>
        cases hnext
        obtain ⟨hframe, hhistory, -, -⟩ := report_same r t.boundTo ending
        exact Invariant.suspend h (h.history hhistory hr.history)
          (h.frame hframe (h.taskEnds hguard htask (hr.turn t hturn)))
      next => cases hnext
    next => cases hnext
  | sessionCloses =>
    simp only [ClaudeAgentSDKRuntime.next, Option.ite_none_right_eq_some, Option.some.injEq] at hnext
    obtain ⟨-, rfl⟩ := hnext
    exact hr.of_frame h (SameFrame.closeSession r) rfl ⟨rfl, rfl, rfl⟩
  | tool turn =>
    simp only [ClaudeAgentSDKRuntime.next, Option.ite_none_right_eq_some,
      Option.map_eq_some_iff] at hnext
    obtain ⟨-, bridge, hbridge, rfl⟩ := hnext
    refine ⟨fun t ht => ?_, h.execute hr.history⟩
    obtain ⟨before, hbefore, rfl⟩ := Option.map_eq_some_iff.mp ht
    exact h.tool hguard hbridge hbefore (hr.turn before hbefore)
  | orphanEnds turn ending =>
    simp only [ClaudeAgentSDKRuntime.next, Option.ite_none_right_eq_some, Option.some.injEq] at hnext
    obtain ⟨-, rfl⟩ := hnext
    obtain ⟨hframe, hhistory, -, hturn⟩ := report_same r (r.ranOn turn) ending
    refine ⟨fun t ht => h.frame ⟨hframe.bridge, hframe.session⟩ (hr.turn t (hturn ▸ ht)), ?_⟩
    have hends : D { r.report (r.ranOn turn) ending with
        orphans := (r.report (r.ranOn turn) ending).orphans.filter (· ≠ turn) } :=
      h.orphanEnds (h.history hhistory hr.history)
    rw [hhistory.orphans] at hends
    exact hends
  | close =>
    simp only [ClaudeAgentSDKRuntime.next] at hnext
    split_ifs at hnext
    · cases hnext
      exact hr
    · cases hnext
      have hclosed := SameFrame.closeSession r
      exact hr.of_frame h ⟨hclosed.bridge, hclosed.session⟩ rfl ⟨rfl, rfl, rfl⟩

/-- **Run rule.** An inductive property holds of every state of every guarded run. -/
theorem Inductive.reachable (h : Inductive context guard I D) {r : ClaudeAgentSDKRuntime db}
    (hr : (runtimeSystem context).ReachableUnder guard r) : Invariant I D r := by
  have hinit : Invariant I D (runtimeSystem context).init :=
    ⟨fun t ht => (by cases ht), h.init⟩
  exact System.ReachableUnder.invariant (S := runtimeSystem context) hinit
    (fun _ hs hguard hnext => h.next hs hguard hnext) hr

/-! ## A small runtime -/

/-- A library for turns without images. -/
def textOnlyContext : RuntimeContext asciiDatabase where
  library := { b64decode := fun _ => none, b64encode := fun _ => [], urlsplit := fun _ => none }

/-- A request without tools. -/
def plainRequest (identity : Nat) (messages : List PyValue) : RuntimeTurnRequest asciiDatabase where
  identity
  provider := lit "claude-agent-sdk"
  model := lit "claude-fable-5-1"
  apiMode := lit "agent_runtime"
  toolSchemaHash := []
  promptSnapshot := []
  tools := .ok []
  correlationId := .none
  sessionState := none
  messages := .list messages

/-- `{"role": "user", "content": "hi"}`. -/
def userMessage : PyValue :=
  .dict [(.str (lit "role"), .str (lit "user")), (.str (lit "content"), .str (lit "hi"))]

/-- A request with the tool `deploy`. -/
def deployRequest : RuntimeTurnRequest asciiDatabase :=
  { plainRequest 0 [userMessage] with
    tools := normalizeToolSchemas asciiDatabase Json.view (.list [HostToolBridge.deploySpec]) }

/-- A host with both of its callables. -/
def plainHost : RuntimeHost := ⟨0, true⟩

/-- A compatible model, an authenticated subscription, and no cancellation. -/
def plainAnswers : StartAnswers where
  preflight := {
    compatibility := some (.dict [(.str (lit "compatible"), .bool true)])
    auth := some (.object "AuthResult" [("allowed", .bool true),
      ("category", .str (lit "subscription_oauth"))]) }
  poll := .returns (.bool false)

/-- A turn whose task completes at once, up to its completion. -/
def completedTurn (messages : List PyValue) : List (Label asciiDatabase) :=
  [.start (plainRequest 0 messages) plainHost plainAnswers,
    .taskEnds (.returned { outcome := .complete }), .generator .timedOut none,
    .generator .returned none]

end HermesClaude.Runtime.ClaudeAgentSDKRuntime
