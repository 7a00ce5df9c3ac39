/-
# The conversation of a turn

A request may name the conversation to go on with.  `run_turn` reads the name when it
creates a session, or replaces one after a cancellation, and resumes exactly the
conversation named.  On a session that is already there the name is not looked at: the
contract of the request is compared, its conversation is not.

So the query of a turn reaches the conversation that the request which created the
session named, and a request that names another one is not told.
-/

import HermesClaude.Runtime.Frame

namespace HermesClaude.Runtime

open HermesClaude.Python HermesClaude.Bridge HermesClaude.Content HermesClaude.Session
  HermesClaude.Library

variable {db : UnicodeDatabase}

/-- Whether the session the task of a turn runs on is in the conversation its request
names: the one it was resumed with, or the one its most recent completed turn reported. -/
def Binding.NamesItsConversation (b : Binding db) : Prop :=
  ∀ id, (resumeId b.request).1 = some id → ∀ session, b.session = some session →
    session.closed = false → session.resumeId = some id ∨ session.reportedId = some id

/-- The session that the setup of a turn created: it resumes the conversation which the
request of that turn names, or none. -/
structure Created (b : Binding db) (session : RuntimeSession) : Prop where
  number : session.number = b.turn + 1
  resumed : session.resumeId = (resumeId b.request).1

/-- The conversation of a turn: its own setup created the session, or the setup of an
earlier turn with the same contract did. -/
def RunsIn (before : List (Binding db)) (b : Binding db) (session : RuntimeSession) : Prop :=
  Created b session ∨ ∃ c ∈ before, Created c session ∧ c.turn < b.turn ∧
    c.request.contract = b.request.contract

namespace ClaudeAgentSDKRuntime

/-- Every session is accounted for by the turn that created it. -/
structure Accounted (r : ClaudeAgentSDKRuntime db) : Prop where
  numbers : ∀ b ∈ r.bindings, b.turn < r.turns
  current : ∀ session, r.session = some session → ∃ c ∈ r.bindings, Created c session ∧
    r.contract = some c.request.contract
  runs : ∀ b ∈ r.bindings, ∀ session, b.session = some session → RunsIn r.bindings b session

variable {r s kept : ClaudeAgentSDKRuntime db} {t : Turn db}

/-- Whose session it is depends on its origin. -/
theorem created_of_origin {b : Binding db} {session session' : RuntimeSession}
    (h : Created b session) (horigin : session'.origin = session.origin) : Created b session' := by
  obtain ⟨hnumber, hresume⟩ := Prod.mk.inj horigin
  exact ⟨hnumber.trans h.number, hresume.trans h.resumed⟩

theorem Accounted.of_sameBindings (hr : Accounted r) (h : SameBindings r s) : Accounted s := by
  refine ⟨?_, fun session hsession => ?_, ?_⟩
  · rw [h.bindings, h.turns]
    exact hr.numbers
  · have horigin : r.session.map RuntimeSession.origin = some session.origin := by
      rw [← h.session, hsession, Option.map_some]
    obtain ⟨before, hbefore, heq⟩ := Option.map_eq_some_iff.mp horigin
    obtain ⟨c, hc, hcreated, hcontract⟩ := hr.current before hbefore
    rw [h.bindings, h.contract]
    exact ⟨c, hc, created_of_origin hcreated heq.symm, hcontract⟩
  · rw [h.bindings]
    exact hr.runs

/-! ## The beginning of a turn -/

/-- What the runtime has become when a turn is first suspended: the turn is the next one,
and nothing has happened to the turns before it. -/
structure Begins (r kept : ClaudeAgentSDKRuntime db) (t : Turn db) : Prop where
  idle : r.turn = none
  finished : kept.finished = r.finished
  turns : kept.turns = r.turns + 1
  number : t.number = r.turns

theorem Begins.bindings (h : Begins r kept t) :
    (kept.suspend t).bindings = r.bindings ++ [t.binding] := by
  simp [ClaudeAgentSDKRuntime.bindings, suspend, h.finished, h.idle]

/-- A turn that begins keeps the account when the session is accounted for and the turn
is bound to that session, if to any. -/
theorem Begins.accounted (h : Begins r kept t) (hr : Accounted r)
    (hcurrent : ∀ session, kept.session = some session →
      (Created t.binding session ∨ ∃ c ∈ r.bindings, Created c session ∧
        kept.contract = some c.request.contract) ∧
      (Created t.binding session → kept.contract = some t.request.contract))
    (hbound : ∀ session, t.boundTo = some session → kept.session = some session ∧
      kept.contract = some t.request.contract) : Accounted (kept.suspend t) := by
  have hturn : t.binding.turn = r.turns := h.number
  refine ⟨fun b hb => ?_, fun session hsession => ?_, fun b hb session hsession => ?_⟩
  · rw [h.bindings, List.mem_append, List.mem_singleton] at hb
    show b.turn < kept.turns
    rw [h.turns]
    rcases hb with hb | rfl
    · exact Nat.lt_succ_of_lt (hr.numbers b hb)
    · omega
  · rw [h.bindings]
    obtain ⟨hwhose, hown⟩ := hcurrent session hsession
    rcases hwhose with hcreated | ⟨c, hc, hcreated, hcontract⟩
    · exact ⟨_, List.mem_append_right _ (List.mem_singleton_self _), hcreated, hown hcreated⟩
    · exact ⟨c, List.mem_append_left _ hc, hcreated, hcontract⟩
  · rw [h.bindings] at hb ⊢
    rcases List.mem_append.mp hb with hb | hb
    · rcases hr.runs b hb session hsession with hcreated | ⟨c, hc, hcreated⟩
      · exact .inl hcreated
      · exact .inr ⟨c, List.mem_append_left _ hc, hcreated⟩
    · rw [List.mem_singleton] at hb
      subst hb
      obtain ⟨hkept, hcontract⟩ := hbound session hsession
      rcases (hcurrent session hkept).1 with hcreated | ⟨c, hc, hcreated, hsame⟩
      · exact .inl hcreated
      · refine .inr ⟨c, List.mem_append_left _ hc, hcreated, ?_, ?_⟩
        · rw [hturn]
          exact hr.numbers c hc
        · exact Option.some.inj (hsame.symm.trans hcontract)

/-- A turn that is bound to nothing changes the account by its number only. -/
theorem Begins.accounted_unbound (h : Begins r kept t) (hr : Accounted r)
    (hunbound : t.boundTo = none)
    (hsession : kept.session = r.session ∧ kept.contract = r.contract ∨ kept.session = none) :
    Accounted (kept.suspend t) := by
  refine h.accounted hr (fun session hkept => ?_) fun session hbound => ?_
  · rcases hsession with ⟨hsame, hcontract⟩ | hnone
    · obtain ⟨c, hc, hcreated, hc'⟩ := hr.current session (hsame ▸ hkept)
      refine ⟨.inr ⟨c, hc, hcreated, hcontract.trans hc'⟩, fun hown => ?_⟩
      have hturn : t.binding.turn = r.turns := h.number
      have hless := hr.numbers c hc
      have heq := hown.number.symm.trans hcreated.number
      omega
    · rw [hnone] at hkept
      cases hkept
  · rw [hunbound] at hbound
    cases hbound

/-- Binding a turn either fails, and leaves the turn unbound, or binds it to the session
of the runtime. -/
theorem bindTurn_sameBindings (kept : ClaudeAgentSDKRuntime db) (t : Turn db) :
    SameBindings (kept.suspend t) (kept.bindTurn t) ∨
      SameBindings (kept.suspend { t with boundTo := kept.session }) (kept.bindTurn t) := by
  unfold bindTurn
  dsimp only
  split
  next =>
    have hlocal : Untouched (kept.suspend t) (kept.suspend { t with bridge := .absent }) :=
      suspend_untouched rfl
    exact .inl (hlocal.trans (cancelSession_untouched .errorHandler)).toSameBindings
  next bridge _ =>
    split
    next =>
      have hlocal : Untouched (kept.suspend t) (kept.suspend { t with bridge := .bound }) :=
        suspend_untouched rfl
      exact .inl (hlocal.trans (cancelSession_untouched .errorHandler)).toSameBindings
    next bound _ => exact .inr ⟨rfl, rfl, rfl, rfl⟩

/-- Session setup binds the turn to a session that is accounted for. -/
theorem Begins.bindTurn_accounted (h : Begins r kept t) (hr : Accounted r)
    (hunbound : t.boundTo = none) {session : RuntimeSession} (hkept : kept.session = some session)
    (hcontract : kept.contract = some t.request.contract)
    (hwhose : Created t.binding session ∨ ∃ c ∈ r.bindings, Created c session ∧
      kept.contract = some c.request.contract) : Accounted (kept.bindTurn t) := by
  have hcurrent : ∀ session', kept.session = some session' →
      (Created t.binding session' ∨ ∃ c ∈ r.bindings, Created c session' ∧
        kept.contract = some c.request.contract) ∧
      (Created t.binding session' → kept.contract = some t.request.contract) := by
    intro session' hsession'
    have heq : session = session' := Option.some.inj (hkept.symm.trans hsession')
    subst heq
    exact ⟨hwhose, fun _ => hcontract⟩
  rcases bindTurn_sameBindings kept t with hsame | hsame
  · refine Accounted.of_sameBindings (h.accounted hr hcurrent fun session' hbound => ?_) hsame
    rw [hunbound] at hbound
    cases hbound
  · have hbegins : Begins r kept { t with boundTo := kept.session } := { h with }
    refine Accounted.of_sameBindings (hbegins.accounted hr (fun session' hsession' => ?_)
      fun session' hbound => ⟨hbound, hcontract⟩) hsame
    obtain ⟨hwhose', -⟩ := hcurrent session' hsession'
    refine ⟨hwhose'.imp (fun hcreated => ⟨hcreated.number, hcreated.resumed⟩) id, fun _ => hcontract⟩

/-- What the first setup keeps of the runtime, and the session it creates. -/
theorem firstSetup_session (r : ClaudeAgentSDKRuntime db) (request : RuntimeTurnRequest db)
    (host : RuntimeHost) (answers : StartAnswers) :
    (r.firstSetup request host answers).1.finished = r.finished ∧
      (r.firstSetup request host answers).1.turns = r.turns ∧
      ((r.firstSetup request host answers).2 ≠ none ∧
          (r.firstSetup request host answers).1.session = r.session ∨
        (r.firstSetup request host answers).2 = none ∧
          (r.firstSetup request host answers).1.session =
            some { number := r.turns, resumeId := (resumeId request).1 } ∧
          (r.firstSetup request host answers).1.contract = some request.contract) := by
  unfold firstSetup
  dsimp only
  split
  · exact ⟨rfl, rfl, .inl ⟨by simp, rfl⟩⟩
  · split_ifs
    · exact ⟨rfl, rfl, .inl ⟨by simp, rfl⟩⟩
    · exact ⟨rfl, rfl, .inl ⟨by simp, rfl⟩⟩
    · exact ⟨rfl, rfl, .inr ⟨rfl, rfl, rfl⟩⟩

/-- Session setup keeps the account. -/
theorem Begins.setup_accounted (h : Begins r kept t) (hr : Accounted r)
    (hunbound : t.boundTo = none) (hsession : kept.session = r.session)
    (hcontract : kept.contract = r.contract) (host : RuntimeHost) (answers : StartAnswers) :
    Accounted (kept.setup t host answers) := by
  unfold setup
  split
  next hnone =>
    obtain ⟨hfinished, hturns, hready⟩ := firstSetup_session kept t.request host answers
    split
    next first bridge heq =>
      rw [heq] at hfinished hturns hready
      have hfirst : first.session = none := by
        rcases hready with ⟨-, hsame⟩ | ⟨hready, -⟩
        · exact hsame.trans hnone
        · cases hready
      have hbegins : Begins r first { t with bridge } :=
        ⟨h.idle, hfinished.trans h.finished, hturns.trans h.turns, h.number⟩
      exact Accounted.of_sameBindings (hbegins.accounted_unbound hr hunbound (.inr hfirst))
        (cancelSession_untouched .errorHandler).toSameBindings
    next first heq =>
      rw [heq] at hfinished hturns hready
      rcases hready with ⟨hfailed, -⟩ | ⟨-, hcreated, hnew⟩
      · exact absurd rfl hfailed
      · have hbegins : Begins r first t :=
          ⟨h.idle, hfinished.trans h.finished, hturns.trans h.turns, h.number⟩
        refine hbegins.bindTurn_accounted hr hunbound hcreated hnew (.inl ⟨?_, rfl⟩)
        show kept.turns = t.number + 1
        rw [h.turns, h.number]
  next session hsome =>
    split_ifs with hchanged hrestart
    · exact Accounted.of_sameBindings
        (h.accounted_unbound hr hunbound (.inl ⟨hsession, hcontract⟩))
        (emitLast_untouched _ true).toSameBindings
    · have hsame : kept.contract = some t.request.contract := (not_not.mp hchanged).symm
      have hbegins : Begins r { kept with session := some {
          number := kept.turns, resumeId := (resumeId t.request).1 } } t := { h with }
      refine hbegins.bindTurn_accounted hr hunbound rfl hsame (.inl ⟨?_, rfl⟩)
      show kept.turns = t.number + 1
      rw [h.turns, h.number]
    · have hsame : kept.contract = some t.request.contract := (not_not.mp hchanged).symm
      obtain ⟨c, hc, hcreated, hc'⟩ := hr.current session (hsession.symm.trans hsome)
      exact h.bindTurn_accounted hr hunbound hsome hsame
        (.inr ⟨c, hc, hcreated, hcontract.trans hc'⟩)

theorem startTurn_accounted (context : RuntimeContext db) (hr : Accounted r) (hidle : r.turn = none)
    (request : RuntimeTurnRequest db) (host : RuntimeHost) (answers : StartAnswers) :
    Accounted (r.startTurn context request host answers) := by
  obtain ⟨authorized, result, hauthorized, hbegun⟩ := begun_of_startTurn context r request host answers
  obtain ⟨log, rfl⟩ := hauthorized.eq
  generalize r.startTurn context request host answers = s at hbegun ⊢
  generalize hs : { r.prepare with preflightRequest := none, authorizations := log } = s' at hbegun
  have hbegins : ∀ t : Turn db, t.number = r.turns → Begins r s' t := by
    intro t hnumber
    subst hs
    exact ⟨hidle, rfl, rfl, hnumber⟩
  have hsession : s'.session = r.session := by rw [← hs]; rfl
  have hcontract : s'.contract = r.contract := by rw [← hs]; rfl
  have hbound : Accounted (s'.suspend (r.newTurn request)) :=
    (hbegins _ rfl).accounted_unbound hr rfl (.inl ⟨hsession, hcontract⟩)
  cases hbegun with
  | refused failure => exact hbound.of_sameBindings (emitLast_untouched _ false).toSameBindings
  | cancelled => exact hbound.of_sameBindings (emitLast_untouched _ false).toSameBindings
  | escaped => exact hbound.of_sameBindings (finish_untouched .raised).toSameBindings
  | entered =>
    have hentered : Begins r (s'.enter (r.newTurn request)) (r.newTurn request) :=
      { hbegins _ rfl with }
    exact hentered.setup_accounted hr rfl hsession hcontract host answers

/-- Every step keeps the account. -/
theorem next_accounted {context : RuntimeContext db} {label : Label db} (hr : Accounted r)
    (hnext : r.next context label = some s) : Accounted s := by
  cases hbegins : label.beginsTurn with
  | false => exact hr.of_sameBindings (sameBindings_of_next hbegins hnext)
  | true =>
    cases label with
    | start request host answers =>
      simp only [ClaudeAgentSDKRuntime.next] at hnext
      split at hnext
      next => cases hnext
      next hidle =>
        cases hnext
        exact startTurn_accounted context hr hidle request host answers
    | preflight | generator | produce | taskEnds | sessionCloses | tool | orphanEnds | close =>
      cases hbegins

theorem accounted_of_reachable {context : RuntimeContext db} {r : ClaudeAgentSDKRuntime db}
    (hr : (runtimeSystem context).Reachable r) : Accounted r := by
  have hinit : Accounted (runtimeSystem context).init :=
    ⟨fun _ hb => (by cases hb), fun _ h => (by cases h), fun _ hb => (by cases hb)⟩
  exact System.Reachable.invariant (S := runtimeSystem context) hinit
    (fun _ hs hnext => next_accounted hs hnext) hr

/-- **The conversation of a turn.** In every run, a turn whose setup created the session
runs in the conversation its request names, and every other turn in the one named by the
request of the earlier turn, with the same contract, whose setup did. -/
theorem runs_in_conversation (context : RuntimeContext db) {r : ClaudeAgentSDKRuntime db}
    (hr : (runtimeSystem context).Reachable r) :
    ∀ b ∈ r.bindings, ∀ session, b.session = some session → RunsIn r.bindings b session :=
  (accounted_of_reachable hr).runs

/-- A request that goes on with a conversation. -/
def resumingRequest (identity : Nat) (id : String) : RuntimeTurnRequest asciiDatabase :=
  { plainRequest identity [userMessage] with
    sessionState := some {
      runtimeId := .str (lit "hermes-claude-agent-sdk")
      schemaVersion := .int 1
      state := .dict [(.str (lit "external_session_id"), .str (lit id))] } }

/-- A conversation is resumed, cancelled, and resumed again in a new session. -/
theorem runs_in_conversation_restarted : ∃ r, (runtimeSystem textOnlyContext).Reachable r ∧
    (∃ b ∈ r.bindings, ∃ session ∈ b.session, session.number = 2) ∧
    ∀ b ∈ r.bindings, ∀ session, b.session = some session → RunsIn r.bindings b session := by
  obtain ⟨r, hr, hrestarted⟩ := System.exists_reachable_of_run
    (S := runtimeSystem textOnlyContext)
    (P := fun r => ∃ b ∈ r.bindings, ∃ session ∈ b.session, session.number = 2)
    [.start (resumingRequest 0 "a") plainHost plainAnswers, .generator .cancelled none,
      .generator .returned none, .start (resumingRequest 1 "a") plainHost plainAnswers] (by decide)
  exact ⟨r, hr, hrestarted, runs_in_conversation textOnlyContext hr⟩

/-- The first turn completes in the conversation `a`.  The request of the second names
`b`, and its task completes on the session of the first. -/
theorem other_conversation : ∃ r, (runtimeSystem textOnlyContext).Reachable r ∧
    ¬ ∀ b ∈ r.bindings, b.NamesItsConversation := by
  obtain ⟨r, hr, b, hb, session, hsession, hopen, hnamed, hresumed, hreported⟩ :=
    System.exists_reachable_of_run (S := runtimeSystem textOnlyContext)
      (P := fun r => ∃ b ∈ r.bindings, ∃ session ∈ b.session, session.closed = false ∧
        (resumeId b.request).1 = some (lit "b") ∧ session.resumeId = none ∧
        session.reportedId = some (lit "a"))
      [.start (plainRequest 0 [userMessage]) plainHost plainAnswers,
        .taskEnds (.returned { outcome := .complete, externalSessionId := some (lit "a") }),
        .generator .timedOut none, .generator .returned none, .generator .next none,
        .generator .next none, .start (resumingRequest 1 "b") plainHost plainAnswers,
        .taskEnds (.returned { outcome := .complete })] (by decide)
  refine ⟨r, hr, fun hnames => ?_⟩
  rcases hnames b hb _ hnamed session hsession hopen with hsame | hsame
  · rw [hresumed] at hsame
    cases hsame
  · rw [hreported] at hsame
    revert hsame
    decide

end ClaudeAgentSDKRuntime

end HermesClaude.Runtime
