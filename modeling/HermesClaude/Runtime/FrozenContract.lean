/-
# One contract for all turns

A runtime opens its session for the selection, the tool schemas and the prompt of one
request, and keeps a copy of them, the contract.  Later requests are compared with the
copy; of the tools only a hash that the host supplies is compared, while the bridge goes
on with the definitions it was built from.  So what a turn may do is settled when the
session is opened: the turns that get a task all have the contract of the first one, and
all allow the same tool names, also where turns overlap and where a cancelled session
was replaced.
-/

import HermesClaude.Runtime.Bookkeeping

namespace HermesClaude.Runtime

open HermesClaude.Python HermesClaude.Bridge HermesClaude.Content HermesClaude.Session
  HermesClaude.Library

variable {db : UnicodeDatabase}

namespace ClaudeAgentSDKRuntime

variable {r s : ClaudeAgentSDKRuntime db} {t v : Turn db}

/-- The names of the tools that the bridge offers. -/
def offeredNames (r : ClaudeAgentSDKRuntime db) : Option (List PyStr) :=
  r.bridge.map allowedToolNames

/-- What a session was opened for is the same, and it is there if it was. -/
structure SameTerms (r s : ClaudeAgentSDKRuntime db) : Prop where
  contract : s.contract = r.contract
  names : s.offeredNames = r.offeredNames
  session : s.session.isSome = r.session.isSome

theorem SameTerms.trans {q : ClaudeAgentSDKRuntime db} (h : SameTerms q r) (h' : SameTerms r s) :
    SameTerms q s :=
  ⟨h'.contract.trans h.contract, h'.names.trans h.names, h'.session.trans h.session⟩

theorem isSome_of_sameOrigin
    (h : s.session.map RuntimeSession.origin = r.session.map RuntimeSession.origin) :
    s.session.isSome = r.session.isSome := by
  rw [← Option.isSome_map (f := RuntimeSession.origin), h, Option.isSome_map]

theorem Untouched.sameTerms (h : Untouched (r.suspend t) s) : SameTerms r s :=
  ⟨h.contract, congrArg (Option.map allowedToolNames) h.bridge, isSome_of_sameOrigin h.session⟩

/-- The correlation of a turn is no name of a tool. -/
theorem allowedToolNames_beginTurn {bridge bound : HostToolBridge db} {correlationId : PyValue}
    (h : bridge.beginTurn correlationId = .ok bound) :
    allowedToolNames bound = allowedToolNames bridge := by
  unfold HostToolBridge.beginTurn at h
  cases hid : HostToolBridge.bindCorrelation correlationId with
  | error =>
    rw [hid] at h
    cases h
  | ok id =>
    rw [hid] at h
    cases h
    rfl

/-! ## Steps that begin no turn -/

theorem sameTerms_of_next {context : RuntimeContext db} {label : Label db}
    (hbegins : label.beginsTurn = false) (hnext : r.next context label = some s) :
    SameTerms r s := by
  have hsame := sameBindings_of_next hbegins hnext
  refine ⟨hsame.contract, ?_, isSome_of_sameOrigin hsame.session⟩
  by_cases htool : ∃ turn, label = .tool turn
  · obtain ⟨turn, rfl⟩ := htool
    obtain ⟨-, hexecutes⟩ := Option.ite_none_right_eq_some.mp hnext
    obtain ⟨bridge, hbridge, rfl⟩ := Option.map_eq_some_iff.mp hexecutes
    unfold offeredNames
    rw [hbridge]
    rfl
  · unfold offeredNames
    rw [bridge_of_next hbegins (fun turn h => htool ⟨turn, h⟩) hnext]

/-! ## The beginning of a turn -/

theorem bindTurn_sameTerms : SameTerms r (r.bindTurn t) := by
  unfold bindTurn
  dsimp only
  split
  · exact (cancelSession_untouched .errorHandler).sameTerms
  next bridge hbridge =>
    split
    · exact (cancelSession_untouched .errorHandler).sameTerms
    next bound hbegin =>
      refine ⟨rfl, ?_, rfl⟩
      unfold offeredNames
      rw [hbridge]
      exact congrArg some (allowedToolNames_beginTurn hbegin)

/-- A turn that finds a session leaves its terms alone. -/
theorem setup_sameTerms (hlive : r.session.isSome = true) (host : RuntimeHost)
    (answers : StartAnswers) : SameTerms r (r.setup t host answers) := by
  obtain ⟨session, hsession⟩ := Option.isSome_iff_exists.mp hlive
  unfold setup
  rw [hsession]
  dsimp only
  split_ifs
  · exact ⟨rfl, rfl, rfl⟩
  · -- A cancelled session is replaced, and the contract is not.
    have hreplaced : SameTerms r { r with session := some {
        number := r.turns, resumeId := (resumeId t.request).1 } } :=
      ⟨rfl, rfl, hlive.symm⟩
    exact hreplaced.trans bindTurn_sameTerms
  · exact bindTurn_sameTerms

theorem startTurn_sameTerms (hlive : r.session.isSome = true) (context : RuntimeContext db)
    (request : RuntimeTurnRequest db) (host : RuntimeHost) (answers : StartAnswers) :
    SameTerms r (r.startTurn context request host answers) := by
  obtain ⟨authorized, result, hauthorized, hbegun⟩ :=
    begun_of_startTurn context r request host answers
  obtain ⟨log, rfl⟩ := hauthorized.eq
  generalize r.startTurn context request host answers = s at hbegun ⊢
  cases hbegun with
  | refused failure => exact ⟨rfl, rfl, rfl⟩
  | cancelled => exact ⟨rfl, rfl, rfl⟩
  | escaped => exact ⟨rfl, rfl, rfl⟩
  | entered =>
    generalize hentered : enter
      { r.prepare with preflightRequest := none, authorizations := log } (r.newTurn request) = entered
    have hsame : SameTerms r entered := by
      rw [← hentered]
      exact ⟨rfl, rfl, rfl⟩
    exact hsame.trans (setup_sameTerms (hsame.session.trans hlive) host answers)

/-- **The terms stay.** A runtime that has a session keeps it, its contract and the names of its
tools, whatever happens next. -/
theorem terms_of_next {context : RuntimeContext db} {label : Label db}
    (hlive : r.session.isSome = true) (hnext : r.next context label = some s) : SameTerms r s := by
  cases hbegins : label.beginsTurn with
  | false => exact sameTerms_of_next hbegins hnext
  | true =>
    cases label with
    | start request host answers =>
      simp only [ClaudeAgentSDKRuntime.next] at hnext
      split at hnext
      · cases hnext
      · cases hnext
        exact startTurn_sameTerms hlive context request host answers
    | preflight | generator | produce | taskEnds | sessionCloses | tool | orphanEnds | close =>
      cases hbegins

/-- A turn that has gone through moves only is bound where it was. -/
theorem unbound_of_reaches (h : Reaches r t s) (hunbound : t.boundTo = none) (hv : s.turn = some v) :
    v.boundTo = none := by
  obtain ⟨t', hmoves, hleaves⟩ := h
  cases hleaves with
  | suspended turn =>
    rw [turn, Option.some.injEq] at hv
    subst hv
    exact (congrArg (·.session) (fixed_of_moves hmoves).1).trans hunbound
  | returned _ turn | raised _ turn =>
    rw [turn] at hv
    cases hv

/-- A turn that is bound allows the names of its bridge. -/
theorem names_of_bindTurn (htask : t.task = none) (hunbound : t.boundTo = none)
    (hv : (r.bindTurn t).turn = some v) (hbound : v.boundTo.isSome = true) :
    (r.bindTurn t).offeredNames = some v.allowedToolNames := by
  have hnever : v.boundTo ≠ none := Option.isSome_iff_ne_none.mp hbound
  unfold bindTurn at hv ⊢
  dsimp only at hv ⊢
  split at hv
  · exact absurd (unbound_of_reaches (t := { t with bridge := .absent })
      (errorHandler_reaches (.inl htask)) hunbound hv) hnever
  next bridge hbridge =>
    split at hv
    · exact absurd (unbound_of_reaches (t := { t with bridge := .bound })
        (errorHandler_reaches (.inl htask)) hunbound hv) hnever
    next bound hbegin =>
      cases hv
      rfl

theorem names_of_startTurn (context : RuntimeContext db) (request : RuntimeTurnRequest db)
    (host : RuntimeHost) (answers : StartAnswers)
    (hv : (r.startTurn context request host answers).turn = some v)
    (hbound : v.boundTo.isSome = true) :
    (r.startTurn context request host answers).offeredNames = some v.allowedToolNames := by
  obtain ⟨authorized, result, -, hbegun⟩ := begun_of_startTurn context r request host answers
  generalize r.startTurn context request host answers = s at hbegun hv ⊢
  cases hbegun with
  | refused failure | cancelled =>
    cases hv
    cases hbound
  | escaped => cases hv
  | entered =>
    have hsetup := setUp_of_setup (authorized.enter (r.newTurn request)) (r.newTurn request) host
      answers
    generalize (authorized.enter (r.newTurn request)).setup (r.newTurn request) host answers = s
      at hsetup hv ⊢
    cases hsetup with
    | failed =>
      cases hv
      cases hbound
    | changed =>
      cases hv
      cases hbound
    | bound => exact names_of_bindTurn rfl rfl hv hbound

end ClaudeAgentSDKRuntime

open ClaudeAgentSDKRuntime

/-- A turn that goes on allows the same names. -/
theorem TurnStep.allowedToolNames {label : Label db} {t t' : Turn db} (h : TurnStep label t t') :
    t'.allowedToolNames = t.allowedToolNames := by
  cases h with
  | moved moves =>
    induction moves with
    | refl => rfl
    | tail _ hlast ih =>
      refine Eq.trans ?_ ih
      cases hlast with
      | flags same => exact same.allowedToolNames
      | take | keep | pass | receive | drain | cancelPump | cancelNative | awaitNative
        | cancelHandler | errorHandler | fail | state | complete => rfl
  | produced | ended | executed => rfl

namespace SharedRuntime

variable {context : SharedContext db} {c d : SharedRuntime db} {t u v : Turn db}

/-- The bound turns have the terms of the session. -/
def Frozen (c : SharedRuntime db) : Prop :=
  ∀ t ∈ c.turns, t.boundTo.isSome = true →
    c.runtime.contract = some t.request.contract ∧
      c.runtime.offeredNames = some t.allowedToolNames

/-- The terms of a live session are the same after any step. -/
theorem sameTerms_of_shared {label : SharedLabel db} (hlive : c.runtime.session.isSome = true)
    (hnext : c.next context label = some d) : SameTerms c.runtime d.runtime := by
  refine next_runtime (P := fun r => SameTerms c.runtime r) ?_ ?_ hnext ⟨rfl, rfl, rfl⟩
  · intro r t hr
    exact ⟨hr.contract, hr.names, hr.session⟩
  · intro r s label hr hnext
    exact hr.trans (terms_of_next (hr.session.trans hlive) hnext)

theorem Proceeds.allowedToolNames (h : Proceeds c d) (hnumbered : Numbered c) (hu : u ∈ d.turns) :
    ∃ t ∈ c.turns, u.binding = t.binding ∧ u.allowedToolNames = t.allowedToolNames := by
  cases h with
  | rests hin hfinished =>
    rw [turns, hin, hfinished] at hu
    exact ⟨u, hu, rfl, rfl⟩
  | @goes label w w' v hmem hstep hbecomes =>
    rcases (hbecomes.mem_turns hnumbered hmem).mp hu with ⟨hu, -⟩ | rfl
    · exact ⟨u, hu, rfl, rfl⟩
    · refine ⟨w, List.mem_append_right _ hmem, hbecomes.binding hstep, ?_⟩
      obtain ⟨p, rfl⟩ := hbecomes.recorded
      exact hstep.allowedToolNames

/-- A turn that is bound keeps the terms that it was bound with. -/
theorem Frozen.kept (h : Frozen c) (hnumbered : Numbered c) {label : SharedLabel db}
    (hnext : c.next context label = some d) (ht : t ∈ c.turns) (hbound : t.boundTo.isSome = true) :
    d.runtime.contract = some t.request.contract ∧
      d.runtime.offeredNames = some t.allowedToolNames := by
  obtain ⟨session, hsession⟩ := Option.isSome_iff_exists.mp hbound
  obtain ⟨-, hlive⟩ := hnumbered.sessions t ht session hsession
  obtain ⟨hcontract, hnames⟩ := h t ht hbound
  have hterms := sameTerms_of_shared hlive hnext
  exact ⟨hterms.contract.trans hcontract, hterms.names.trans hnames⟩

theorem Frozen.next (h : Frozen c) (hnumbered : Numbered c) {label : SharedLabel db}
    (hnext : c.next context label = some d) : Frozen d := by
  cases hbegins : beginsTurn label with
  | false =>
    intro u hu hbound
    obtain ⟨hproceeds, -⟩ := proceeds_of_next hbegins hnext
    obtain ⟨t, ht, hbinding, hnames⟩ := hproceeds.allowedToolNames hnumbered hu
    have hsession : u.boundTo = t.boundTo := congrArg Binding.session hbinding
    have hrequest : u.request = t.request := congrArg Binding.request hbinding
    rw [hrequest, hnames]
    exact h.kept hnumbered hnext ht (hsession ▸ hbound)
  | true =>
    cases label with
    | start request host answers =>
      cases hnext
      obtain ⟨v, hlaunch, hjoins⟩ := begin_joins hnumbered context request host answers
      intro u hu hbound
      rcases (hjoins.turns u).mp hu with hu | rfl
      · have hstart : c.next context (.start request host answers) =
            some (c.begin context request host answers) := rfl
        exact h.kept hnumbered hstart hu hbound
      · obtain ⟨session, hsession⟩ := Option.isSome_iff_exists.mp hbound
        obtain ⟨hturn, -, -, hcontract, -⟩ := hlaunch.bound session hsession
        rw [hlaunch.binding.2]
        exact ⟨hcontract, names_of_startTurn context.runtime request host answers hturn hbound⟩
    | preflight | generator | acquires | message | compaction | taskEnds | tool | sessionCloses
      | close => cases hbegins

theorem frozen_of_reachable (hc : (sharedSystem context).Reachable c) : Numbered c ∧ Frozen c := by
  refine System.Reachable.invariant (S := sharedSystem context)
    (P := fun c => Numbered c ∧ Frozen c) ⟨numbered_init, fun t ht => (by cases ht)⟩ ?_ hc
  intro c d label _ h hnext
  refine ⟨?_, h.2.next h.1 hnext⟩
  cases hbegins : beginsTurn label with
  | false => exact h.1.next hbegins hnext
  | true =>
    cases label with
    | start request host answers =>
      cases hnext
      exact h.1.begin context request host answers
    | preflight | generator | acquires | message | compaction | taskEnds | tool | sessionCloses
      | close => cases hbegins

/-- **One contract.** In every run, overlapping turns and replaced sessions included, any two
turns that were given a task have the same provider, model, API mode, tool schema hash and
prompt, and admit the same tool names. -/
theorem one_contract (context : SharedContext db) {c : SharedRuntime db}
    (hc : (sharedSystem context).Reachable c) (ht : t ∈ c.turns) (hu : u ∈ c.turns)
    (htask : t.boundTo.isSome = true) (htask' : u.boundTo.isSome = true) :
    t.request.contract = u.request.contract ∧ t.allowedToolNames = u.allowedToolNames := by
  obtain ⟨-, hfrozen⟩ := frozen_of_reachable hc
  obtain ⟨hcontract, hnames⟩ := hfrozen t ht htask
  obtain ⟨hcontract', hnames'⟩ := hfrozen u hu htask'
  exact ⟨Option.some.inj (hcontract.symm.trans hcontract'),
    Option.some.inj (hnames.symm.trans hnames')⟩

/-- The second turn begins while the first one runs, with tool schemas that the bridge has not
seen under the hash that it has. -/
theorem one_contract_overlapping : ∃ c, (sharedSystem textOnlyShared).Reachable c ∧
    ∃ t ∈ c.turns, ∃ u ∈ c.turns, t.number = 0 ∧ u.number = 1 ∧
      t.allowedToolNames = [lit "mcp__hermes-tools__deploy"] ∧
      u.allowedToolNames = t.allowedToolNames := by
  obtain ⟨c, hc, t, ht, u, hu, hnumber, hnumber', hnames, htask, htask'⟩ :=
    System.exists_reachable_of_run (S := sharedSystem textOnlyShared)
      (P := fun c => ∃ t ∈ c.turns, ∃ u ∈ c.turns, t.number = 0 ∧ u.number = 1 ∧
        t.allowedToolNames = [lit "mcp__hermes-tools__deploy"] ∧ t.boundTo.isSome = true ∧
        u.boundTo.isSome = true)
      [.start deployRequest plainHost plainAnswers, .acquires 0,
        .start (plainRequest 1 [userMessage]) plainHost plainAnswers]
      ⟨_, rfl, _, List.mem_cons_self, _, List.mem_cons_of_mem _ (List.mem_singleton_self _), rfl, rfl,
        rfl, rfl, rfl⟩
  exact ⟨c, hc, t, ht, u, hu, hnumber, hnumber', hnames,
    (one_contract textOnlyShared hc hu ht htask' htask).2⟩

end SharedRuntime

end HermesClaude.Runtime
