/-
# A setup that fails

Session setup binds the runtime to the host first, and keeps that binding when a later step
fails: the bridge, the server, the configuration or the session.  A later turn is then what
it would be on a fresh runtime only for the same host, or if it ends before the host is
looked at.
-/

import HermesClaude.Runtime.Invariants

namespace HermesClaude.Runtime

open HermesClaude.Python HermesClaude.Bridge HermesClaude.Content HermesClaude.Session
  HermesClaude.Library

namespace ClaudeAgentSDKRuntime

variable {db : UnicodeDatabase}

/-- A runtime that is bound to nothing. -/
def unbind (r : ClaudeAgentSDKRuntime db) : ClaudeAgentSDKRuntime db :=
  { r with host := none, bridge := none, contract := none }

/-- What shows of a runtime: while it has no session, whatever it has kept of earlier setups
is nobody's business. -/
def shown (r : ClaudeAgentSDKRuntime db) : ClaudeAgentSDKRuntime db :=
  if r.session.isNone then r.unbind else r

/-- A turn gets as far as the comparison of hosts. -/
structure ComparesHosts (r : ClaudeAgentSDKRuntime db) (request : RuntimeTurnRequest db)
    (answers : StartAnswers) : Prop where
  authorized : (r.prepare.authorize r.turns request answers.preflight).2 = none
  opened : r.closed = false
  polled : answers.poll = .returns (.bool false)

/-! ## Authorization does not look at bindings -/

section Authorize

variable (r : ClaudeAgentSDKRuntime db) (turn : Nat) (request : RuntimeTurnRequest db)
  (answers : PreflightAnswers)

theorem consumePreflight_unbind :
    r.unbind.consumePreflight turn request =
      ((r.consumePreflight turn request).1.unbind, (r.consumePreflight turn request).2) := by
  have hslot : r.unbind.preflightRequest = r.preflightRequest := rfl
  unfold consumePreflight
  rw [hslot]
  by_cases hwaits : r.preflightRequest = some request.identity
  · rw [if_pos hwaits, if_pos hwaits]
    rfl
  · rw [if_neg hwaits, if_neg hwaits]
    rfl

theorem preflight_unbind :
    r.unbind.preflight request answers =
      ((r.preflight request answers).1.unbind, (r.preflight request answers).2) := rfl

theorem authorize_unbind :
    r.unbind.authorize turn request answers =
      ((r.authorize turn request answers).1.unbind, (r.authorize turn request answers).2) := by
  unfold authorize
  rw [consumePreflight_unbind]
  rcases r.consumePreflight turn request with ⟨s, consumed⟩
  cases consumed with
  | true => rfl
  | false =>
    dsimp only
    rw [preflight_unbind]
    rcases s.preflight request answers with ⟨s, failure⟩
    cases failure with
    | some failure => rfl
    | none =>
      dsimp only
      rw [consumePreflight_unbind]
      rcases s.consumePreflight turn request with ⟨s, consumed⟩
      cases consumed <;> rfl

end Authorize

/-! ## Bindings that do not show -/

section Shown

variable {r s : ClaudeAgentSDKRuntime db} {t : Turn db}

theorem shown_turn (r : ClaudeAgentSDKRuntime db) : r.shown.turn = r.turn := by
  unfold shown
  split_ifs <;> rfl

/-- Two runtimes without a session that differ in their bindings only show the same when the
same turn is suspended. -/
theorem suspend_shown (hr : r.session = none) (hs : s.session = none) (h : r.unbind = s.unbind) :
    (r.suspend t).shown = (s.suspend t).shown := by
  have hr' : (r.suspend t).session = none := hr
  have hs' : (s.suspend t).session = none := hs
  rw [shown, shown, hr', hs', Option.isNone_none, if_pos rfl, if_pos rfl]
  exact congrArg (fun u : ClaudeAgentSDKRuntime db => u.suspend t) h

theorem finish_shown (hr : r.session = none) (hs : s.session = none) (h : r.unbind = s.unbind)
    (ending : GeneratorEnding) : (r.finish t ending).shown = (s.finish t ending).shown := by
  have hr' : (r.finish t ending).session = none := hr
  have hs' : (s.finish t ending).session = none := hs
  rw [shown, shown, hr', hs', Option.isNone_none, if_pos rfl, if_pos rfl]
  exact congrArg (fun u : ClaudeAgentSDKRuntime db => u.finish t ending) h

/-- A first setup that fails shows the same, whatever the runtime was bound to. -/
theorem cancelSession_shown (hr : r.session = none) (hs : s.session = none)
    (h : r.unbind = s.unbind) (hbridge : t.bridge ≠ .bound) :
    (r.cancelSession t .errorHandler).shown = (s.cancelSession t .errorHandler).shown := by
  have hphase : r.handlerPhase t = s.handlerPhase t := by
    unfold handlerPhase
    cases hlocal : t.bridge with
    | absent | fresh => rfl
    | bound => exact absurd hlocal hbridge
  have hfailure : r.handlerFailure t = s.handlerFailure t := by
    unfold handlerFailure
    rw [hr, hs, hphase]
  unfold cancelSession afterCancel
  rw [hr, hs, hfailure]
  dsimp only
  by_cases hterminal : t.terminal = true
  · rw [if_pos hterminal, if_pos hterminal]
    exact finish_shown hr hs h _
  · rw [if_neg hterminal, if_neg hterminal]
    exact suspend_shown hr hs h

/-- Setup shows the same, whatever a runtime without a session was bound to. -/
theorem setup_shown (hr : r.session = none) (t : Turn db) (host : RuntimeHost)
    (answers : StartAnswers) :
    (r.setup t host answers).shown = (r.unbind.setup t host answers).shown := by
  have hunbound : r.unbind.session = none := hr
  unfold setup firstSetup
  rw [hr, hunbound]
  dsimp only
  cases HostToolBridge.assemble host.complete t.request.tools (.tuple [])
      t.request.correlationId with
  | error failure =>
    have habsent : LocalBridge.absent ≠ .bound := by rintro ⟨⟩
    exact cancelSession_shown rfl rfl rfl habsent
  | ok bridge =>
    have hfresh : LocalBridge.fresh ≠ .bound := by rintro ⟨⟩
    dsimp only
    by_cases hbuilds : (!answers.buildsServer || !answers.buildsConfiguration) = true
    · rw [if_pos hbuilds, if_pos hbuilds]
      exact cancelSession_shown rfl rfl rfl hfresh
    · rw [if_neg hbuilds, if_neg hbuilds]
      by_cases hsession : (!answers.buildsSession) = true
      · rw [if_pos hsession, if_pos hsession]
        exact cancelSession_shown rfl rfl rfl hfresh
      · -- everything that was bound before is bound anew
        rw [if_neg hsession, if_neg hsession]
        rfl

end Shown

/-! ## The host stays bound -/

section Host

variable (r : ClaudeAgentSDKRuntime db) (t : Turn db)

@[simp]
theorem suspend_host : (r.suspend t).host = r.host := rfl

@[simp]
theorem finish_host (ending : GeneratorEnding) : (r.finish t ending).host = r.host := rfl

@[simp]
theorem closeSession_host : r.closeSession.host = r.host := rfl

@[simp]
theorem afterCancel_host (site : CancelSite) : (r.afterCancel t site).host = r.host := by
  cases site with
  | pump | native phase | cancelledHandler => rfl
  | errorHandler =>
    rw [afterCancel]
    split_ifs <;> rfl

@[simp]
theorem cancelSession_host (site : CancelSite) : (r.cancelSession t site).host = r.host := by
  unfold cancelSession
  split
  next => exact afterCancel_host r t site
  next =>
    split_ifs
    · exact afterCancel_host r _ site
    · rfl

@[simp]
theorem pumpHead_host (poll : Option Poll) : (r.pumpHead t poll).host = r.host := by
  unfold pumpHead
  split_ifs
  · rfl
  · rfl
  · split <;> simp

@[simp]
theorem observe_host (name : PyStr) : (r.observe name).host = r.host := by
  unfold observe
  repeat' split
  all_goals rfl

@[simp]
theorem passOn_host (poll : Option Poll) (events : List RuntimeEvent) :
    (r.passOn t poll events).host = r.host := by
  induction events generalizing r with
  | nil => exact pumpHead_host r t poll
  | cons event rest ih =>
    cases event with
    | completed => exact ih r
    | toolRequest requestId name => exact (ih (r.observe name)).trans (observe_host r name)
    | usage receipt => rfl
    | content text => rfl
    | compaction phase => rfl

@[simp]
theorem receive_host (projection : ProjectionResult) (poll : Option Poll) :
    (r.receive t projection poll).host = r.host := by
  unfold receive
  dsimp only
  split_ifs <;> simp

@[simp]
theorem complete_host (result : SessionTurnResult) : (r.complete t result).host = r.host := by
  unfold complete
  dsimp only
  split <;> simp

@[simp]
theorem settle_host (result : SessionTurnResult) : (r.settle t result).host = r.host := by
  unfold settle
  split_ifs
  · rfl
  · split
    · split <;> simp
    all_goals rfl

theorem resume_host {r s : ClaudeAgentSDKRuntime db} {t : Turn db} {signal : Signal}
    {poll : Option Poll} (hresume : r.resume t signal poll = some s) : s.host = r.host := by
  cases resumed_of_resume hresume <;> simp

@[simp]
theorem report_host (ran : Option RuntimeSession) (ending : Ending) :
    (r.report ran ending).host = r.host := by
  unfold report
  repeat' split
  all_goals rfl

@[simp]
theorem bindTurn_host : (r.bindTurn t).host = r.host := by
  unfold bindTurn
  dsimp only
  repeat' split
  all_goals simp

variable {r} {t} {host : RuntimeHost}

/-- Setup binds the runtime to the host of the turn, where it binds it. -/
theorem setup_host (answers : StartAnswers) (hhost : r.host = some host.identity ∨ r.session = none) :
    (r.setup t host answers).host = some host.identity := by
  have hbound : r.session ≠ none → r.host = some host.identity := fun h => hhost.resolve_right h
  have hfirst : ∀ request, (r.firstSetup request host answers).1.host = some host.identity := by
    intro request
    unfold firstSetup
    dsimp only
    repeat' split
    all_goals rfl
  unfold setup
  split
  next hsession =>
    have hkept := hfirst t.request
    split
    next kept bridge heq =>
      rw [heq] at hkept
      exact (cancelSession_host kept _ _).trans hkept
    next kept heq =>
      rw [heq] at hkept
      exact (bindTurn_host kept t).trans hkept
  next session hsession =>
    have hsome : r.host = some host.identity := hbound (by simp [hsession])
    split_ifs
    · exact hsome
    · exact (bindTurn_host _ t).trans hsome
    · exact (bindTurn_host r t).trans hsome

/-- A turn of a bound runtime leaves it bound to the same host. -/
theorem startTurn_host {identity : Nat} (context : RuntimeContext db) (hhost : r.host = some identity)
    (request : RuntimeTurnRequest db) (host : RuntimeHost) (answers : StartAnswers) :
    (r.startTurn context request host answers).host = some identity := by
  obtain ⟨log, hauthorized⟩ :=
    (authorized_of_authorize r.prepare r.turns request answers.preflight).eq
  unfold startTurn
  split
  next s failure heq =>
    rw [heq] at hauthorized
    dsimp only at hauthorized
    rw [refuse, suspend_host, hauthorized]
    exact hhost
  next s heq =>
    rw [heq] at hauthorized
    dsimp only at hauthorized
    have hkept : s.host = some identity := by
      rw [hauthorized]
      exact hhost
    unfold proceed
    by_cases hclosed : s.closed = true
    · rw [if_pos hclosed]
      exact hkept
    · rw [if_neg hclosed]
      split
      next => exact hkept
      next => exact hkept
      next =>
        by_cases hother : s.host.any (· ≠ host.identity) = true
        · rw [if_pos hother]
          exact hkept
        · rw [if_neg hother]
          have hsame : identity = host.identity := by
            rw [hkept] at hother
            simpa using hother
          split
          next => exact hkept
          next => exact hkept
          next => exact hkept
          next =>
            rw [hsame]
            refine setup_host answers (.inl ?_)
            rw [← hsame]
            exact hkept
      next => exact hkept
      next => exact hkept

/-- What a runtime is bound to, it stays bound to. -/
theorem host_of_next {context : RuntimeContext db} {s : ClaudeAgentSDKRuntime db} {identity : Nat}
    {label : Label db} (hhost : r.host = some identity) (hnext : r.next context label = some s) :
    s.host = some identity := by
  cases label with
  | preflight request answers =>
    cases hnext
    exact hhost
  | start request host answers =>
    simp only [ClaudeAgentSDKRuntime.next] at hnext
    split at hnext
    next => cases hnext
    next =>
      cases hnext
      exact startTurn_host context hhost request host answers
  | generator signal poll =>
    obtain ⟨t, hturn, hresume⟩ := Option.bind_eq_some_iff.mp hnext
    exact (resume_host hresume).trans hhost
  | produce projection =>
    simp only [ClaudeAgentSDKRuntime.next] at hnext
    repeat' split at hnext
    all_goals cases hnext
    exact hhost
  | taskEnds ending =>
    simp only [ClaudeAgentSDKRuntime.next] at hnext
    repeat' split at hnext
    all_goals cases hnext
    exact (report_host r _ ending).trans hhost
  | sessionCloses =>
    simp only [ClaudeAgentSDKRuntime.next] at hnext
    split_ifs at hnext
    cases hnext
    exact hhost
  | tool turn =>
    simp only [ClaudeAgentSDKRuntime.next, Option.ite_none_right_eq_some,
      Option.map_eq_some_iff] at hnext
    obtain ⟨-, bridge, -, rfl⟩ := hnext
    exact hhost
  | orphanEnds turn ending =>
    simp only [ClaudeAgentSDKRuntime.next] at hnext
    split_ifs at hnext
    cases hnext
    exact (report_host r _ ending).trans hhost
  | close =>
    simp only [ClaudeAgentSDKRuntime.next] at hnext
    split_ifs at hnext
    all_goals cases hnext
    all_goals exact hhost

theorem host_of_run {context : RuntimeContext db} {s : ClaudeAgentSDKRuntime db} {identity : Nat}
    {labels : List (Label db)} (hhost : r.host = some identity)
    (hrun : (runtimeSystem context).run r labels = some s) : s.host = some identity := by
  induction labels generalizing r with
  | nil =>
    cases hrun
    exact hhost
  | cons label rest ih =>
    rw [System.run_cons] at hrun
    obtain ⟨middle, hnext, hrest⟩ := Option.bind_eq_some_iff.mp hrun
    exact ih (host_of_next hhost hnext) hrest

end Host

/-! ## A later turn -/

section LaterTurn

variable {r s : ClaudeAgentSDKRuntime db} {t : Turn db} {context : RuntimeContext db}
  {request : RuntimeTurnRequest db} {host : RuntimeHost} {answers : StartAnswers}

/-- How a turn fails on a runtime that is bound to another host. -/
def hostBindingChanged : RuntimeFailure :=
  earlyFailure "claude_runtime_host_binding_changed" "Claude runtime host binding changed"

/-- The beginning of a turn shows the same on an unbound runtime, unless it is refused for
its host. -/
theorem proceed_shown (hr : r.session = none)
    (hhost : r.closed = false → answers.poll = .returns (.bool false) →
      r.host.any (· ≠ host.identity) = false) :
    (r.proceed context t host answers).shown = (r.unbind.proceed context t host answers).shown := by
  have hunbound : r.unbind.session = none := hr
  have hclosed : r.unbind.closed = r.closed := rfl
  unfold proceed
  rw [hclosed]
  by_cases hopen : r.closed = true
  · rw [if_pos hopen, if_pos hopen]
    exact suspend_shown hr hunbound rfl
  · rw [if_neg hopen, if_neg hopen]
    split
    next => exact finish_shown hr hunbound rfl _
    next => exact suspend_shown hr hunbound rfl
    next hpoll =>
      have hfree : (r.unbind.host.any (· ≠ host.identity)) = false := rfl
      rw [hhost (by simpa using hopen) hpoll, hfree, if_neg Bool.false_ne_true,
        if_neg Bool.false_ne_true]
      split
      next => exact suspend_shown hr hunbound rfl
      next => exact finish_shown hr hunbound rfl _
      next => exact suspend_shown hr hunbound rfl
      next => exact setup_shown (r := r.enter t) hr t host answers
    next => exact suspend_shown hr hunbound rfl
    next => exact suspend_shown hr hunbound rfl

/-- What a turn says of its setup, it says as being in setup. -/
theorem afterCancel_inSetup (hyielded : t.yielded = []) (hterminal : t.terminal = false) :
    ∀ u, (r.afterCancel t .errorHandler).turn = some u → ∀ y ∈ u.yielded, y.inSetup = true := by
  intro u hu y hy
  rw [afterCancel, hterminal, if_neg Bool.false_ne_true] at hu
  cases hu
  have hlast : y ∈ t.yielded ++ _ := hy
  rw [hyielded, List.nil_append, List.mem_singleton] at hlast
  rw [hlast]

theorem cancelSession_inSetup (hyielded : t.yielded = []) (hterminal : t.terminal = false) :
    ∀ u, (r.cancelSession t .errorHandler).turn = some u → ∀ y ∈ u.yielded, y.inSetup = true := by
  unfold cancelSession
  split
  next => exact afterCancel_inSetup hyielded hterminal
  next session hsession =>
    split_ifs
    · exact afterCancel_inSetup hyielded hterminal
    · intro u hu y hy
      cases hu
      have hnone : y ∈ t.yielded := hy
      rw [hyielded] at hnone
      cases hnone

theorem setup_inSetup (hyielded : t.yielded = []) (hterminal : t.terminal = false) :
    ∀ u, (r.setup t host answers).turn = some u → ∀ y ∈ u.yielded, y.inSetup = true := by
  have hsetup := setUp_of_setup r t host answers
  generalize r.setup t host answers = s at hsetup
  cases hsetup with
  | failed same authorization session unbound => exact afterCancel_inSetup hyielded hterminal
  | changed =>
    intro u hu y hy
    cases hu
    have hlast : y ∈ t.yielded ++ _ := hy
    rw [hyielded, List.nil_append, List.mem_singleton] at hlast
    rw [hlast]
  | @bound kept same authorization session count first =>
    unfold bindTurn
    dsimp only
    split
    next => exact cancelSession_inSetup hyielded hterminal
    next bridge hbridge =>
      split
      next => exact cancelSession_inSetup hyielded hterminal
      next =>
        intro u hu y hy
        cases hu
        have hnone : y ∈ t.yielded := hy
        rw [hyielded] at hnone
        cases hnone

/-- An unbound runtime refuses no turn for its host. -/
theorem unbind_not_refused (hyielded : t.yielded = []) (hterminal : t.terminal = false)
    (hopen : r.closed = false) (hpoll : answers.poll = .returns (.bool false)) :
    (r.unbind.proceed context t host answers).turn ≠
      some (t.emitLast (.failed hostBindingChanged) false) := by
  have hclosed : r.unbind.closed = false := hopen
  have hfree : (r.unbind.host.any (· ≠ host.identity)) = false := rfl
  intro heq
  rw [proceed, hclosed, hpoll, hfree] at heq
  dsimp only at heq
  rw [if_neg Bool.false_ne_true, if_neg Bool.false_ne_true] at heq
  split at heq
  next code hprompt =>
    have hlast := congrArg (fun u : Option (Turn db) => u.map (·.yielded)) heq
    simp [refuse, suspend, Turn.emitLast, Turn.emit, hostBindingChanged, earlyFailure] at hlast
  next => cases heq
  next =>
    have hlast := congrArg (fun u : Option (Turn db) => u.map (·.yielded)) heq
    simp [refuse, suspend, Turn.emitLast, Turn.emit, hostBindingChanged, earlyFailure] at hlast
  next =>
    have hlate := setup_inSetup hyielded hterminal _ heq _ (List.mem_append_right _
      (List.mem_singleton_self _))
    cases hlate

/-- Two turns begin the same on a bound runtime and on an unbound one exactly if the host is
the one the runtime is bound to, or the turn is over before hosts are compared. -/
theorem startTurn_shown_iff {identity : Nat} (hr : r.session = none)
    (hbound : r.host = some identity) :
    (r.startTurn context request host answers).shown =
        (r.unbind.startTurn context request host answers).shown ↔
      host.identity = identity ∨ ¬ ComparesHosts r request answers := by
  have hunbound : ∀ authorized failure,
      r.prepare.unbind.authorize r.turns request answers.preflight = (authorized, failure) →
        r.unbind.startTurn context request host answers =
          failure.elim (authorized.proceed context (r.newTurn request) host answers)
            (authorized.refuse (r.newTurn request)) := by
    intro authorized failure hauthorize
    have hprepare : r.unbind.prepare.authorize r.unbind.turns request answers.preflight =
        (authorized, failure) := hauthorize
    rw [startTurn, hprepare]
    cases failure with
    | none => rfl
    | some failure => rfl
  obtain ⟨log, hauthorized⟩ :=
    (authorized_of_authorize r.prepare r.turns request answers.preflight).eq
  rw [hunbound _ _ (authorize_unbind r.prepare r.turns request answers.preflight)]
  unfold startTurn
  have hcompares : ComparesHosts r request answers →
      (r.prepare.authorize r.turns request answers.preflight).2 = none := fun h => h.authorized
  rcases hresult : r.prepare.authorize r.turns request answers.preflight with ⟨s, failure⟩
  rw [hresult] at hauthorized hcompares
  dsimp only at hauthorized hcompares
  have hs : s.session = none := by rw [hauthorized]; exact hr
  have hshost : s.host = some identity := by rw [hauthorized]; exact hbound
  have hsclosed : s.closed = r.closed := by rw [hauthorized]; rfl
  cases failure with
  | some failure =>
    have hsame : (s.refuse (r.newTurn request) failure).shown =
        (s.unbind.refuse (r.newTurn request) failure).shown := suspend_shown hs hs rfl
    have hfailed : ¬ComparesHosts r request answers := by
      intro h
      have hnone := hcompares h
      cases hnone
    exact iff_of_true hsame (.inr hfailed)
  | none =>
    dsimp only
    by_cases hhost : host.identity = identity
    · apply iff_of_true _ (.inl hhost)
      apply proceed_shown hs
      intro _ _
      simp [hshost, hhost]
    · by_cases hreached : ComparesHosts r request answers
      · apply iff_of_false _ (by tauto)
        have hopen : s.closed = false := hsclosed.trans hreached.opened
        have hrefused : s.proceed context (r.newTurn request) host answers =
            s.refuse (r.newTurn request) hostBindingChanged := by
          have hother : s.host.any (· ≠ host.identity) = true := by
            simp [hshost, Ne.symm hhost]
          rw [proceed, hopen, hreached.polled, hother]
          rfl
        intro heq
        have hturn := congrArg turn heq
        rw [hrefused, shown_turn, shown_turn] at hturn
        exact unbind_not_refused rfl rfl hopen hreached.polled hturn.symm
      · apply iff_of_true _ (.inr hreached)
        apply proceed_shown hs
        intro hopen hpoll
        have hauth : (r.prepare.authorize r.turns request answers.preflight).2 = none := by
          rw [hresult]
        exact absurd ⟨hauth, hsclosed.symm.trans hopen, hpoll⟩ hreached

/-- The first turn of a runtime gets to session setup, and setup fails: there is no session
afterwards. -/
structure SetupFails (context : RuntimeContext db) (r : ClaudeAgentSDKRuntime db)
    (request : RuntimeTurnRequest db) (host : RuntimeHost) (answers : StartAnswers) : Prop
    extends ComparesHosts r request answers where
  unbound : r.host = none
  unset : r.session = none
  prompt : ∃ prompt, buildSdkTurnInput context.library request.messages = .ok (some prompt)
  fails : (r.startTurn context request host answers).session = none

/-- The failed setup has bound the runtime to its host. -/
theorem SetupFails.binds (h : SetupFails context r request host answers) :
    (r.startTurn context request host answers).host = some host.identity := by
  obtain ⟨prompt, hprompt⟩ := h.prompt
  obtain ⟨log, hauthorized⟩ :=
    (authorized_of_authorize r.prepare r.turns request answers.preflight).eq
  have hpassed := h.authorized
  unfold startTurn
  rcases hresult : r.prepare.authorize r.turns request answers.preflight with ⟨s, failure⟩
  rw [hresult] at hauthorized hpassed
  dsimp only at hauthorized hpassed
  have hopen : s.closed = false := by rw [hauthorized]; exact h.opened
  have hfree : s.host = none := by rw [hauthorized]; exact h.unbound
  have hunset : s.session = none := by rw [hauthorized]; exact h.unset
  have hsetup : s.proceed context (r.newTurn request) host answers =
      (s.enter (r.newTurn request)).setup (r.newTurn request) host answers := by
    have hmessages : (r.newTurn request).request.messages = request.messages := rfl
    rw [proceed, hopen, h.polled, hfree, hmessages, hprompt]
    rfl
  rw [hpassed]
  dsimp only
  rw [hsetup]
  exact setup_host answers (.inr hunset)

end LaterTurn

/-- After a first turn whose setup failed, as long as there is no session, a turn begins as
it would if nothing were bound exactly if its host is the one of the turn that failed, or
the turn is over before hosts are compared. -/
theorem failed_setup_leaves_host (context : RuntimeContext db) {r s : ClaudeAgentSDKRuntime db}
    {request : RuntimeTurnRequest db} {host : RuntimeHost} {answers : StartAnswers}
    {labels : List (Label db)} (hfails : SetupFails context r request host answers)
    (hrun : (runtimeSystem context).run (r.startTurn context request host answers) labels = some s)
    (hunset : s.session = none) (request' : RuntimeTurnRequest db) (host' : RuntimeHost)
    (answers' : StartAnswers) :
    (s.startTurn context request' host' answers').shown =
        (s.unbind.startTurn context request' host' answers').shown ↔
      host'.identity = host.identity ∨ ¬ ComparesHosts s request' answers' := by
  have hbound : s.host = some host.identity := host_of_run hfails.binds hrun
  exact startTurn_shown_iff hunset hbound

/-- A turn for which the MCP server cannot be built. -/
def brokenAnswers : StartAnswers := { plainAnswers with buildsServer := false }

/-- What a runtime is after a first turn for which the server could not be built. -/
def afterBrokenTurn : ClaudeAgentSDKRuntime asciiDatabase :=
  ({} : ClaudeAgentSDKRuntime asciiDatabase).startTurn textOnlyContext
    (plainRequest 0 [userMessage]) plainHost brokenAnswers

/-- The same host may try again. -/
theorem failed_setup_leaves_host_retry :
    ∃ s, (runtimeSystem textOnlyContext).run afterBrokenTurn [.generator .next none] = some s ∧
      (s.startTurn textOnlyContext (plainRequest 1 [userMessage]) plainHost plainAnswers).shown =
        (s.unbind.startTurn textOnlyContext (plainRequest 1 [userMessage]) plainHost
          plainAnswers).shown := by
  have hfails : SetupFails textOnlyContext {} (plainRequest 0 [userMessage]) plainHost
      brokenAnswers :=
    { authorized := rfl, opened := rfl, polled := rfl, unbound := rfl, unset := rfl
      prompt := ⟨_, rfl⟩, fails := rfl }
  have hrun : (runtimeSystem textOnlyContext).run afterBrokenTurn [.generator .next none] =
    some _ := rfl
  exact ⟨_, hrun, (failed_setup_leaves_host textOnlyContext hfails hrun rfl _ _ _).mpr (.inl rfl)⟩

/-- Another host is refused: the server could not be built for the first one, and the
runtime has no session. -/
theorem failed_setup_refuses_host :
    (afterBrokenTurn.session = none ∧ ∃ s,
      (runtimeSystem textOnlyContext).run afterBrokenTurn
        [.generator .next none, .start (plainRequest 1 [userMessage]) ⟨1, true⟩ plainAnswers] =
          some s ∧
      s.turn.map (fun t => t.yielded.map Yielded.event) =
        some [.failed (earlyFailure "claude_runtime_host_binding_changed"
          "Claude runtime host binding changed")]) ∧
    (({} : ClaudeAgentSDKRuntime asciiDatabase).startTurn textOnlyContext
      (plainRequest 1 [userMessage]) ⟨1, true⟩ plainAnswers).turn.map
        (fun t => t.yielded.map Yielded.event) = some [] :=
  ⟨⟨rfl, _, rfl, rfl⟩, rfl⟩

end ClaudeAgentSDKRuntime

end HermesClaude.Runtime
