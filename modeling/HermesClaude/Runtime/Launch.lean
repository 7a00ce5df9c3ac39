/-
# The beginning of a turn

`run_turn` up to its first suspension is one step, which may fail at many places.  What
matters about it later is little: the turn has the next number, its generator has gone
through moves only, and either it is bound, to the session and with the correlation that
the bridge then has, or nothing that the turns share has changed but for a session that
setup may have created.
-/

import HermesClaude.Runtime.Focus

namespace HermesClaude.Runtime

open HermesClaude.Python HermesClaude.Bridge HermesClaude.Content HermesClaude.Session
  HermesClaude.Library

variable {db : UnicodeDatabase}

/-- A turn in which nothing has happened yet. -/
structure Turn.Blank (t : Turn db) : Prop where
  pc : t.pc = .receiving
  queue : t.queue = []
  provenance : t.provenance = {}
  yielded : t.yielded = []

/-- The session when a turn has begun: the one before, or one the turn has created. -/
inductive Renews (r s : ClaudeAgentSDKRuntime db) (request : RuntimeTurnRequest db) : Prop
  | kept (session : s.session.map RuntimeSession.origin = r.session.map RuntimeSession.origin)
      (contract : r.session.isSome = true → s.contract = r.contract)
  | created (number : s.session.map (·.number) = some (r.turns + 1))
      (contract : s.contract = some request.contract)

/-- Where there was a session there is one. -/
theorem Renews.isSome {r s : ClaudeAgentSDKRuntime db} {request : RuntimeTurnRequest db}
    (h : Renews r s request) (hlive : r.session.isSome = true) : s.session.isSome = true := by
  cases h with
  | kept session =>
    rw [← Option.isSome_map (f := RuntimeSession.origin), session, Option.isSome_map]
    exact hlive
  | created number =>
    rw [← Option.isSome_map (f := RuntimeSession.number), number]
    rfl

/-- How far setup has come before the turn is bound. -/
structure Prepared (r kept : ClaudeAgentSDKRuntime db) (request : RuntimeTurnRequest db) :
    Prop where
  finished : kept.finished = r.finished
  turns : kept.turns = r.turns + 1
  session : Renews r kept request
  bridge : r.session.isSome = true → kept.bridge = r.bridge
  bridged : kept.session.isSome = true → kept.bridge.isSome = true

/-- What the runtime has become when a turn is first suspended or over. -/
structure Launch (r s : ClaudeAgentSDKRuntime db) (request : RuntimeTurnRequest db)
    (v : Turn db) : Prop where
  binding : v.number = r.turns ∧ v.request = request
  goes : ∃ u t : Turn db, u.Blank ∧ Relation.ReflTransGen Move u t ∧ Goes r s t v
  turns : s.turns = r.turns + 1
  session : Renews r s request
  bridged : s.session.isSome = true → s.bridge.isSome = true
  count : r.session.isSome = true → s.executionCount = r.executionCount
  unbound : v.boundTo = none → v.task = none ∧ (r.session.isSome = true → s.bridge = r.bridge)
  bound : ∀ session, v.boundTo = some session → s.turn = some v ∧ v.task = some .running ∧
    s.session = some session ∧ s.contract = some request.contract ∧
    ∃ id, HostToolBridge.bindCorrelation request.correlationId = .ok id ∧
      s.bridge.map (·.correlationId) = some id
  engaged : s.turn = some v → v.pc ≠ .yieldedTerminal →
    v.bridge = .bound ∧ s.session.isSome = true

section Launching

open ClaudeAgentSDKRuntime

variable {r kept s : ClaudeAgentSDKRuntime db} {request : RuntimeTurnRequest db} {t u : Turn db}

/-- A turn that fails before its task is created. -/
theorem Prepared.fails (h : Prepared r kept request) (hu : u.Blank) (hnumber : u.number = r.turns)
    (hrequest : u.request = request) (hbound : u.boundTo = none) (htask : u.task = none)
    (hsame : Untouched (kept.suspend u) s) (hreaches : Reaches kept u s)
    (hengaged : ∀ t, s.turn = some t → t.pc = .yieldedTerminal ∨
      u.bridge = .bound ∧ kept.session.isSome = true) : ∃ v, Launch r s request v := by
  obtain ⟨t, hmoves, hleaves⟩ := hreaches
  obtain ⟨hbinding, htask', hbridge⟩ := fixed_of_moves hmoves
  obtain ⟨v, hgoes⟩ := goes_of_leaves hleaves
  have hturn : v.number = t.number ∧ v.request = t.request ∧ v.boundTo = t.boundTo ∧
      v.task = t.task ∧ v.bridge = t.bridge := by
    cases hgoes with
    | suspended recorded | ends f p recorded =>
      subst recorded
      exact ⟨rfl, rfl, rfl, rfl, rfl⟩
  obtain ⟨hvnumber, hvrequest, hvbound, hvtask, hvbridge⟩ := hturn
  have hsession : s.session.isSome = kept.session.isSome := by
    rw [← Option.isSome_map (f := RuntimeSession.origin), hsame.session, Option.isSome_map]
    rfl
  have hkept : s.bridge = kept.bridge := hsame.bridge
  refine ⟨v, ?_⟩
  exact {
    binding := ⟨hvnumber.trans ((congrArg (·.turn) hbinding).trans hnumber),
      hvrequest.trans ((congrArg (·.request) hbinding).trans hrequest)⟩
    goes := ⟨u, t, hu, hmoves, hgoes.of_finished h.finished⟩
    turns := hsame.turns.trans h.turns
    session := by
      cases h.session with
      | kept hsession hcontract =>
        exact .kept (hsame.session.trans hsession) fun hlive => hsame.contract.trans (hcontract hlive)
      | created hnumber hcontract =>
        refine .created ?_ (hsame.contract.trans hcontract)
        have horigin := congrArg (Option.map Prod.fst) hsame.session
        rw [Option.map_map, Option.map_map] at horigin
        exact horigin.trans hnumber
    bridged := fun hlive => by
      rw [hkept]
      exact h.bridged (hsession ▸ hlive)
    count := fun hlive => by
      rw [executionCount, hkept, h.bridge hlive]
      rfl
    unbound := fun _ => ⟨hvtask.trans (htask'.trans htask), fun hlive => hkept.trans (h.bridge hlive)⟩
    bound := fun session hvsession => by
      have hnone : v.boundTo = none := hvbound.trans ((congrArg (·.session) hbinding).trans hbound)
      rw [hnone] at hvsession
      cases hvsession
    engaged := fun hv hpc => by
      rcases hengaged v hv with hterminal | ⟨hubound, hlive⟩
      · exact absurd hterminal hpc
      · exact ⟨hvbridge.trans (hbridge.trans hubound), hsession ▸ hlive⟩ }

/-- Binding a turn. -/
theorem Prepared.bindTurn (h : Prepared r kept request) (hu : t.Blank) (hnumber : t.number = r.turns)
    (hrequest : t.request = request) (hbound : t.boundTo = none) (htask : t.task = none)
    {session : RuntimeSession} (hsession : kept.session = some session)
    (hcontract : kept.contract = some request.contract) :
    ∃ v, Launch r (kept.bindTurn t) request v := by
  obtain ⟨bridge, hbridge⟩ := Option.isSome_iff_exists.mp (h.bridged (Option.isSome_of_mem hsession))
  unfold ClaudeAgentSDKRuntime.bindTurn
  simp only [hbridge]
  split
  next =>
    refine h.fails (u := { t with bridge := .bound }) { hu with } hnumber hrequest hbound htask
      (cancelSession_untouched .errorHandler) (errorHandler_reaches (.inl htask)) fun t' _ => ?_
    exact .inr ⟨rfl, Option.isSome_of_mem hsession⟩
  next bound hbegin =>
    obtain ⟨id, hid, rfl⟩ : ∃ id, HostToolBridge.bindCorrelation t.request.correlationId = .ok id ∧
        { bridge with correlationId := id } = bound := by
      rw [HostToolBridge.beginTurn] at hbegin
      cases hid : HostToolBridge.bindCorrelation t.request.correlationId with
      | error =>
        rw [hid] at hbegin
        cases hbegin
      | ok id =>
        rw [hid] at hbegin
        exact ⟨id, rfl, Except.ok.inj hbegin⟩
    refine ⟨{ t with
      bridge := .bound
      bridgeExecutionStart := bridge.hostExecutionCount
      allowedToolNames := allowedToolNames { bridge with correlationId := id }
      boundTo := kept.session
      task := some .running
      pc := .receiving }, {
      binding := ⟨hnumber, hrequest⟩
      goes := ⟨_, _, ?_, .refl, .suspended rfl rfl h.finished⟩
      turns := h.turns
      session := ?_
      bridged := fun _ => rfl
      count := fun hlive => ?_
      unbound := fun hnone => ?_
      bound := fun session' hsession' => ⟨rfl, rfl, hsession', hcontract, id, hrequest ▸ hid, rfl⟩
      engaged := fun _ _ => ⟨rfl, ?_⟩ }⟩
    · exact ⟨rfl, hu.queue, hu.provenance, hu.yielded⟩
    · cases h.session with
      | kept hkept hsame => exact .kept hkept hsame
      | created hcreated hnew => exact .created hcreated hnew
    · rw [executionCount, executionCount, ← h.bridge hlive, hbridge]
      rfl
    · rw [show kept.session = none from hnone] at hsession
      cases hsession
    · exact Option.isSome_of_mem hsession

/-- The first setup of a runtime, when it is ready to bind the turn. -/
theorem prepared_of_firstSetup {host : RuntimeHost} {answers : StartAnswers} {bridge : Option LocalBridge}
    (hnone : kept.session = none) (hfirst : kept.firstSetup t.request host answers = (s, bridge))
    (h : Prepared r kept request) (hrequest : t.request = request) (hlive : r.session = none) :
    Prepared r s request ∧
      (bridge = none → s.session.isSome = true ∧ s.contract = some request.contract) ∧
      ∀ b ∈ bridge, b ≠ .bound ∧ s.session = none := by
  have hdead : ∀ {P : Prop}, r.session.isSome = true → P := by simp [hlive]
  have hfails : ∀ {first : ClaudeAgentSDKRuntime db} {b : LocalBridge}, first.finished = r.finished →
      first.turns = r.turns + 1 → first.session = none → b ≠ .bound →
      Prepared r first request ∧
        ((some b : Option LocalBridge) = none →
          first.session.isSome = true ∧ first.contract = some request.contract) ∧
        ∀ b' ∈ some b, b' ≠ .bound ∧ first.session = none := by
    intro first b hfinished hturns hfirst hb
    refine ⟨⟨hfinished, hturns, .kept (by rw [hfirst, hlive]) hdead, hdead, ?_⟩, by rintro ⟨⟩, ?_⟩
    · rw [hfirst]
      rintro ⟨⟩
    · rintro b' ⟨⟩
      exact ⟨hb, hfirst⟩
  unfold firstSetup at hfirst
  dsimp only at hfirst
  split at hfirst
  next =>
    cases hfirst
    exact hfails h.finished h.turns hnone (by rintro ⟨⟩)
  next built _ =>
    split_ifs at hfirst
    · cases hfirst
      exact hfails h.finished h.turns hnone (by rintro ⟨⟩)
    · cases hfirst
      exact hfails h.finished h.turns hnone (by rintro ⟨⟩)
    · cases hfirst
      refine ⟨⟨h.finished, h.turns, .created ?_ ?_, hdead, fun _ => rfl⟩, fun _ => ⟨rfl, ?_⟩,
        by rintro b ⟨⟩⟩
      · rw [← h.turns]
        rfl
      · rw [hrequest]
      · rw [hrequest]

/-- Session setup. -/
theorem Prepared.setup (h : Prepared r kept request) (hu : t.Blank) (hnumber : t.number = r.turns)
    (hrequest : t.request = request) (hbound : t.boundTo = none) (htask : t.task = none)
    (hsession : kept.session = r.session)
    (host : RuntimeHost) (answers : StartAnswers) :
    ∃ v, Launch r (kept.setup t host answers) request v := by
  unfold ClaudeAgentSDKRuntime.setup
  split
  next hnone =>
    split
    next first bridge heq =>
      obtain ⟨hprepared, -, hunbound⟩ :=
        prepared_of_firstSetup hnone heq h hrequest (hsession.symm.trans hnone)
      obtain ⟨-, hdead⟩ := hunbound bridge rfl
      refine hprepared.fails (u := { t with bridge := bridge }) { hu with } hnumber hrequest hbound htask
        (cancelSession_untouched .errorHandler) (errorHandler_reaches (.inl htask)) fun t' ht' => ?_
      -- Without a session the handler has nothing to wait for.
      rw [cancelSession] at ht'
      simp only [hdead, afterCancel] at ht'
      split_ifs at ht'
      · cases ht'
      · exact .inl (Option.some.inj ht' ▸ rfl)
    next first heq =>
      obtain ⟨hprepared, hready, -⟩ :=
        prepared_of_firstSetup hnone heq h hrequest (hsession.symm.trans hnone)
      obtain ⟨hlive, hnew⟩ := hready rfl
      obtain ⟨session, hsome⟩ := Option.isSome_iff_exists.mp hlive
      exact hprepared.bindTurn hu hnumber hrequest hbound htask hsome hnew
  next session hsome =>
    split_ifs with hchanged hrestart
    · exact h.fails hu hnumber hrequest hbound htask (emitLast_untouched _ true)
        (suspend_reaches (.fail true t.terminal (.inl htask) rfl fun _ => by rintro ⟨⟩))
        fun t' ht' => .inl (Option.some.inj ht' ▸ rfl)
    · have hsame : kept.contract = some request.contract :=
        hrequest ▸ (not_not.mp hchanged).symm
      have hrestarted : Prepared r { kept with session := some {
          number := kept.turns, resumeId := (resumeId t.request).1 } } request :=
        { h with
          session := .created (by rw [← h.turns]; rfl) hsame
          bridged := fun _ => h.bridged (Option.isSome_of_mem hsome) }
      exact hrestarted.bindTurn hu hnumber hrequest hbound htask rfl hsame
    · have hsame : kept.contract = some request.contract :=
        hrequest ▸ (not_not.mp hchanged).symm
      exact h.bindTurn hu hnumber hrequest hbound htask hsome hsame

/-- **The beginning of a turn.** -/
theorem launch_of_startTurn (context : RuntimeContext db) (r : ClaudeAgentSDKRuntime db)
    (request : RuntimeTurnRequest db) (host : RuntimeHost) (answers : StartAnswers)
    (hbridged : r.session.isSome = true → r.bridge.isSome = true) :
    ∃ v, Launch r (r.startTurn context request host answers) request v := by
  obtain ⟨authorized, result, hauthorized, hbegun⟩ := begun_of_startTurn context r request host answers
  obtain ⟨log, rfl⟩ := hauthorized.eq
  generalize r.startTurn context request host answers = s at hbegun ⊢
  generalize hs : { r.prepare with preflightRequest := none, authorizations := log } = s' at hbegun
  have hprepared : Prepared r s' request := by
    subst hs
    exact ⟨rfl, rfl, .kept rfl fun _ => rfl, fun _ => rfl, hbridged⟩
  have hblank : (r.newTurn request).Blank := ⟨rfl, rfl, rfl, rfl⟩
  have hfailing : (r.newTurn request).Failing := .inl rfl
  cases hbegun with
  | refused failure =>
    exact hprepared.fails hblank rfl rfl rfl rfl (emitLast_untouched _ false)
      (suspend_reaches (.fail false false hfailing rfl fun _ => by rintro ⟨⟩))
      fun t' ht' => .inl (Option.some.inj ht' ▸ rfl)
  | cancelled =>
    exact hprepared.fails hblank rfl rfl rfl rfl (emitLast_untouched _ false)
      (suspend_reaches (.fail false false hfailing rfl fun _ => by rintro ⟨⟩))
      fun t' ht' => .inl (Option.some.inj ht' ▸ rfl)
  | escaped =>
    exact hprepared.fails hblank rfl rfl rfl rfl (finish_untouched .raised)
      (raise_reaches (t := r.newTurn request) .receiving) fun t' ht' => by cases ht'
  | entered =>
    have hentered : Prepared r (s'.enter (r.newTurn request)) request :=
      { hprepared with
        session := by
          cases hprepared.session with
          | kept hsession hcontract => exact .kept hsession hcontract
          | created hnumber hcontract => exact .created hnumber hcontract }
    have hsession : s'.session = r.session := by rw [← hs]; rfl
    exact hentered.setup hblank rfl rfl rfl rfl hsession host answers

end Launching

end HermesClaude.Runtime
