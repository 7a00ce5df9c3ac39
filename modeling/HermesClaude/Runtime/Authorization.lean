/-
# One preflight, one turn

A successful `preflight` leaves the request object it checked in a slot, and `run_turn`
empties the slot before it looks whether the object is its own; where it is not, the turn
checks its request itself.  A failed check and `close` empty the slot as well.

So between the check in the slot and the turn that consumes it nothing else happens to
authorizations, whatever else the turns of the runtime do meanwhile.
-/

import HermesClaude.Runtime.Frame
import HermesClaude.Runtime.Overlap

namespace HermesClaude.Runtime

open HermesClaude.Python HermesClaude.Bridge HermesClaude.Content HermesClaude.Session
  HermesClaude.Library

variable {db : UnicodeDatabase}

/-- The turn was authorized by a check of its own: a successful preflight of the identical
request, in which the auth probe allowed a subscription, right before it was consumed. -/
def OwnCheck (before : List AuthorizationEvent) (turn request : Nat) : Prop :=
  ∃ earlier answers, checkAuth answers.auth = true ∧
    before = earlier ++ [.checked request answers none, .consumed turn request]

/-- The number of a turn that enters session setup. -/
def AuthorizationEvent.entering : AuthorizationEvent → Option Nat
  | .entered turn _ => some turn
  | .checked _ _ _ | .consumed _ _ | .dropped => none

/-- The steps that touch authorizations: `preflight`, `close` and the beginning of a turn. -/
def Label.authorizes : Label db → Bool
  | .preflight _ _ | .start _ _ _ | .close => true
  | _ => false

theorem Label.beginsTurn_of_authorizes {label : Label db} (h : label.authorizes = false) :
    label.beginsTurn = false := by
  cases label with
  | preflight | start | close => cases h
  | generator | produce | taskEnds | sessionCloses | tool | orphanEnds => rfl

/-- The checks that passed have found a subscription. -/
theorem checkAuth_of_preflightChecks {request : RuntimeTurnRequest db} {answers : PreflightAnswers}
    (h : preflightChecks request answers = none) : checkAuth answers.auth = true := by
  unfold preflightChecks at h
  split_ifs at h with hselection hstate hcompatible hauth
  simpa using hauth

namespace ClaudeAgentSDKRuntime

/-- What the log says about the slot and about the turns that entered session setup. -/
structure OneShot (r : ClaudeAgentSDKRuntime db) : Prop where
  slot : ∀ request, r.preflightRequest = some request → ∃ earlier answers,
    checkAuth answers.auth = true ∧ r.authorizations = earlier ++ [.checked request answers none]
  entered : ∀ before turn request after,
    r.authorizations = before ++ .entered turn request :: after → OwnCheck before turn request
  numbers : ∀ turn ∈ r.authorizations.filterMap (·.entering), turn < r.turns
  once : (r.authorizations.filterMap (·.entering)).Nodup

variable {r s : ClaudeAgentSDKRuntime db}

/-- A log that is continued by an event in which no turn enters session setup. -/
theorem OneShot.extend (h : OneShot r) {event : AuthorizationEvent} (hevent : event.entering = none)
    (hlog : s.authorizations = r.authorizations ++ [event]) (hturns : s.turns = r.turns)
    (hslot : ∀ request, s.preflightRequest = some request → ∃ answers,
      checkAuth answers.auth = true ∧ event = .checked request answers none) : OneShot s := by
  have hsame : s.authorizations.filterMap (·.entering) =
      r.authorizations.filterMap (·.entering) := by
    rw [hlog, List.filterMap_append, List.filterMap_cons_none hevent, List.filterMap_nil,
      List.append_nil]
  refine ⟨fun request hrequest => ?_, fun before turn request after hsplit => ?_, ?_, ?_⟩
  · obtain ⟨answers, hauth, rfl⟩ := hslot request hrequest
    exact ⟨r.authorizations, answers, hauth, hlog⟩
  · rw [hlog] at hsplit
    rcases List.eq_nil_or_concat after with rfl | ⟨after, last, rfl⟩
    · obtain ⟨-, hlast⟩ := List.append_inj' hsplit rfl
      rw [List.cons.injEq] at hlast
      rw [hlast.1] at hevent
      cases hevent
    · rw [List.concat_eq_append, ← List.cons_append, ← List.append_assoc] at hsplit
      exact h.entered before turn request after (List.append_inj' hsplit rfl).1
  · rw [hsame, hturns]
    exact h.numbers
  · rw [hsame]
    exact h.once

/-- What leaves the slot and the log alone keeps the property. -/
theorem OneShot.of_same (h : OneShot r) (hsame : SameAuthorization r s) (hturns : s.turns = r.turns) :
    OneShot s := by
  refine ⟨?_, ?_, ?_, ?_⟩
  · rw [hsame.slot, hsame.log]
    exact h.slot
  · rw [hsame.log]
    exact h.entered
  · rw [hsame.log, hturns]
    exact h.numbers
  · rw [hsame.log]
    exact h.once

/-! ## Steps -/

theorem preflight_oneShot (h : OneShot r) (request : RuntimeTurnRequest db)
    (answers : PreflightAnswers) : OneShot (r.preflight request answers).1 := by
  have hentering : AuthorizationEvent.entering
      (.checked request.identity answers (preflightChecks request answers)) = none := rfl
  refine h.extend hentering rfl rfl fun id hid => ?_
  have hslot : (if (preflightChecks request answers).isSome then none else some request.identity) =
      some id := hid
  cases hchecks : preflightChecks request answers with
  | some failure => simp [hchecks] at hslot
  | none =>
    have heq : request.identity = id := by simpa [hchecks] using hslot
    exact ⟨answers, checkAuth_of_preflightChecks hchecks, by rw [heq]⟩

/-- The state right after a turn has consumed its own check. -/
structure Consumed (r : ClaudeAgentSDKRuntime db) (turn request : Nat) : Prop where
  oneShot : OneShot r
  slot : r.preflightRequest = none
  check : OwnCheck r.authorizations turn request

/-- A check in the slot is consumed. -/
theorem OneShot.consume (h : OneShot r) {turn : Nat} {request : RuntimeTurnRequest db}
    (hslot : r.preflightRequest = some request.identity) :
    Consumed { r with
      preflightRequest := none
      authorizations := r.authorizations ++ [.consumed turn request.identity] } turn
      request.identity := by
  obtain ⟨earlier, answers, hauth, hlog⟩ := h.slot _ hslot
  refine ⟨h.extend rfl rfl rfl (by rintro id ⟨⟩), rfl, earlier, answers, hauth, ?_⟩
  show r.authorizations ++ _ = _
  rw [hlog, List.append_assoc]
  rfl

/-- Authorization leaves the slot empty, and lets a turn pass only with a check of its
own. -/
theorem Authorized.oneShot (h : OneShot r) {turn : Nat} {request : RuntimeTurnRequest db}
    {answers : PreflightAnswers} {failure : Option RuntimeFailure}
    (hauthorized : Authorized r turn request answers s failure) :
    OneShot s ∧ s.preflightRequest = none ∧
      s.authorizations.filterMap (·.entering) = r.authorizations.filterMap (·.entering) ∧
      (failure = none → OwnCheck s.authorizations turn request.identity) := by
  cases hauthorized with
  | waiting slot =>
    have hconsumed : Consumed _ turn request.identity := h.consume slot
    exact ⟨hconsumed.oneShot, rfl, by simp [AuthorizationEvent.entering],
      fun _ => hconsumed.check⟩
  | refused failed =>
    exact ⟨h.extend rfl rfl rfl (by rintro id ⟨⟩), rfl, by simp [AuthorizationEvent.entering],
      by rintro ⟨⟩⟩
  | checked passed =>
    have hchecked : OneShot { r with
        preflightRequest := some request.identity
        authorizations := r.authorizations ++ [.checked request.identity answers none] } :=
      h.extend rfl rfl rfl fun id hid => by
        cases hid
        exact ⟨answers, checkAuth_of_preflightChecks passed, rfl⟩
    have hconsumed : Consumed _ turn request.identity := hchecked.consume rfl
    exact ⟨{ hconsumed.oneShot with }, rfl, by simp [AuthorizationEvent.entering],
      fun _ => hconsumed.check⟩

/-- A turn with a check of its own enters session setup. -/
theorem OneShot.enter (h : OneShot s) (hslot : s.preflightRequest = none) {t : Turn db}
    (hturns : s.turns = t.number + 1)
    (hnumbers : ∀ turn ∈ s.authorizations.filterMap (·.entering), turn < t.number)
    (hcheck : OwnCheck s.authorizations t.number t.request.identity) : OneShot (s.enter t) := by
  have hnew : (s.enter t).authorizations.filterMap (·.entering) =
      s.authorizations.filterMap (·.entering) ++ [t.number] := by
    show (s.authorizations ++ _).filterMap _ = _
    rw [List.filterMap_append]
    rfl
  refine ⟨fun request hrequest => ?_, fun before turn request after hsplit => ?_, ?_, ?_⟩
  · have hsome : s.preflightRequest = some request := hrequest
    rw [hslot] at hsome
    cases hsome
  · have hlog : s.authorizations ++ [.entered t.number t.request.identity] =
        before ++ .entered turn request :: after := hsplit
    rcases List.eq_nil_or_concat after with rfl | ⟨after, last, rfl⟩
    · obtain ⟨hbefore, hlast⟩ := List.append_inj' hlog rfl
      cases hlast
      exact hbefore ▸ hcheck
    · rw [List.concat_eq_append, ← List.cons_append, ← List.append_assoc] at hlog
      exact h.entered before turn request after (List.append_inj' hlog rfl).1
  · rw [hnew]
    show ∀ turn ∈ _, turn < s.turns
    intro turn hturn
    rw [List.mem_append, List.mem_singleton] at hturn
    rcases hturn with hturn | rfl
    · exact h.numbers turn hturn
    · omega
  · rw [hnew, List.nodup_append]
    refine ⟨h.once, List.nodup_singleton _, fun turn hturn other hother => ?_⟩
    rw [List.mem_singleton.mp hother]
    exact Nat.ne_of_lt (hnumbers turn hturn)

/-- Binding a turn does not touch the slot or the log. -/
theorem bindTurn_sameAuthorization (r : ClaudeAgentSDKRuntime db) (t : Turn db) :
    SameAuthorization r (r.bindTurn t) ∧ (r.bindTurn t).turns = r.turns := by
  have hcancel : ∀ t' : Turn db, SameAuthorization r (r.cancelSession t' .errorHandler) ∧
      (r.cancelSession t' .errorHandler).turns = r.turns := by
    intro t'
    have huntouched := cancelSession_untouched (r := r) (t := t') .errorHandler
    exact ⟨⟨huntouched.authorization.slot, huntouched.authorization.log⟩, huntouched.turns⟩
  unfold bindTurn
  dsimp only
  split
  · exact hcancel _
  · split
    · exact hcancel _
    · exact ⟨⟨rfl, rfl⟩, rfl⟩

/-- Session setup does not either. -/
theorem setup_sameAuthorization (r : ClaudeAgentSDKRuntime db) (t : Turn db) (host : RuntimeHost)
    (answers : StartAnswers) :
    SameAuthorization r (r.setup t host answers) ∧ (r.setup t host answers).turns = r.turns := by
  have hfirst : SameAuthorization r (r.firstSetup t.request host answers).1 ∧
      (r.firstSetup t.request host answers).1.turns = r.turns := by
    unfold firstSetup
    dsimp only
    split
    · exact ⟨⟨rfl, rfl⟩, rfl⟩
    · split_ifs <;> exact ⟨⟨rfl, rfl⟩, rfl⟩
  unfold setup
  split
  · split
    next kept bridge heq =>
      rw [heq] at hfirst
      have huntouched := cancelSession_untouched (r := kept) (t := { t with bridge }) .errorHandler
      exact ⟨hfirst.1.trans ⟨huntouched.authorization.slot, huntouched.authorization.log⟩,
        huntouched.turns.trans hfirst.2⟩
    next kept heq =>
      rw [heq] at hfirst
      obtain ⟨hbound, hturns⟩ := bindTurn_sameAuthorization kept t
      exact ⟨hfirst.1.trans hbound, hturns.trans hfirst.2⟩
  · split_ifs
    · exact ⟨⟨rfl, rfl⟩, rfl⟩
    · obtain ⟨hsame, hturns⟩ := bindTurn_sameAuthorization
        { r with session := some { number := r.turns, resumeId := (resumeId t.request).1 } } t
      exact ⟨⟨hsame.slot, hsame.log⟩, hturns⟩
    · exact bindTurn_sameAuthorization r t

theorem startTurn_oneShot (context : RuntimeContext db) (h : OneShot r)
    (request : RuntimeTurnRequest db) (host : RuntimeHost) (answers : StartAnswers) :
    OneShot (r.startTurn context request host answers) := by
  have hprepared : OneShot r.prepare :=
    { h with numbers := fun turn hturn => Nat.lt_succ_of_lt (h.numbers turn hturn) }
  obtain ⟨authorized, result, hauthorized, hbegun⟩ := begun_of_startTurn context r request host answers
  generalize r.startTurn context request host answers = s at hbegun ⊢
  obtain ⟨hone, hslot, hentering, hcheck⟩ := hauthorized.oneShot hprepared
  obtain ⟨log, hauthorized⟩ := hauthorized.eq
  have hkept : ∀ t, SameAuthorization authorized (authorized.suspend t) := fun t => ⟨rfl, rfl⟩
  cases hbegun with
  | refused failure => exact hone.of_same (hkept _) rfl
  | cancelled => exact hone.of_same (hkept _) rfl
  | escaped => exact hone.of_same ⟨rfl, rfl⟩ rfl
  | entered passed =>
    have hturns : authorized.turns = r.turns + 1 := by rw [hauthorized]; rfl
    have hentered : OneShot (authorized.enter (r.newTurn request)) := by
      refine hone.enter hslot hturns ?_ (hcheck passed)
      rw [hentering]
      exact h.numbers
    obtain ⟨hsame, hsetup⟩ := setup_sameAuthorization (authorized.enter (r.newTurn request))
      (r.newTurn request) host answers
    exact hentered.of_same hsame hsetup

/-- A step that calls neither `preflight` nor `close` and begins no turn leaves the slot
and the log alone. -/
theorem sameAuthorization_of_next {context : RuntimeContext db} {label : Label db}
    (hlabel : label.authorizes = false) (hnext : r.next context label = some s) :
    SameAuthorization r s := by
  cases label with
  | preflight | start | close => cases hlabel
  | generator signal poll =>
    obtain ⟨t, hturn, hresume⟩ := Option.bind_eq_some_iff.mp hnext
    have huntouched := resume_untouched hresume
    exact ⟨huntouched.authorization.slot, huntouched.authorization.log⟩
  | produce projection =>
    simp only [ClaudeAgentSDKRuntime.next] at hnext
    split at hnext
    · split at hnext
      · cases hnext
        exact ⟨rfl, rfl⟩
      · cases hnext
    · cases hnext
  | taskEnds ending =>
    simp only [ClaudeAgentSDKRuntime.next] at hnext
    split at hnext
    next t _ =>
      split at hnext
      · cases hnext
        have hreported := (report_untouched (r := r) t.boundTo ending).authorization
        exact ⟨hreported.slot, hreported.log⟩
      · cases hnext
    next => cases hnext
  | sessionCloses =>
    obtain ⟨-, ⟨⟩⟩ := Option.ite_none_right_eq_some.mp hnext
    exact ⟨rfl, rfl⟩
  | tool turn =>
    obtain ⟨-, hexecutes⟩ := Option.ite_none_right_eq_some.mp hnext
    obtain ⟨bridge, -, rfl⟩ := Option.map_eq_some_iff.mp hexecutes
    exact ⟨rfl, rfl⟩
  | orphanEnds turn ending =>
    obtain ⟨-, ⟨⟩⟩ := Option.ite_none_right_eq_some.mp hnext
    have hreported := (report_untouched (r := r) (r.ranOn turn) ending).authorization
    exact ⟨hreported.slot, hreported.log⟩

/-- Every step of a runtime keeps the property, whichever turn is in focus. -/
theorem next_oneShot {context : RuntimeContext db} {label : Label db} (h : OneShot r)
    (hnext : r.next context label = some s) : OneShot s := by
  have hother : label.authorizes = false → OneShot s := fun hlabel =>
    h.of_same (sameAuthorization_of_next hlabel hnext)
      (sameBindings_of_next (Label.beginsTurn_of_authorizes hlabel) hnext).turns
  cases label with
  | preflight request answers =>
    cases hnext
    exact preflight_oneShot h request answers
  | start request host answers =>
    simp only [ClaudeAgentSDKRuntime.next] at hnext
    split at hnext
    · cases hnext
    · cases hnext
      exact startTurn_oneShot context h request host answers
  | close =>
    simp only [ClaudeAgentSDKRuntime.next] at hnext
    split_ifs at hnext
    · cases hnext
      exact h
    · cases hnext
      have hentering : AuthorizationEvent.dropped.entering = none := rfl
      exact h.extend hentering rfl rfl (by rintro id ⟨⟩)
  | generator | produce | taskEnds | sessionCloses | tool | orphanEnds => exact hother rfl

end ClaudeAgentSDKRuntime

namespace SharedRuntime

open ClaudeAgentSDKRuntime

/-- **Authorization is one-shot.** Whatever calls of `preflight` and `run_turn` are made on
a runtime and however its turns overlap: a turn that entered session setup has consumed a
successful preflight of the identical request, in which the auth probe allowed a
subscription.  Check and consumption are adjacent, so no other turn consumed that check
and no later preflight superseded it; and no turn enters twice. -/
theorem authorized_once (context : SharedContext db) {c : SharedRuntime db}
    (hr : (sharedSystem context).Reachable c) :
    (∀ before turn request after,
      c.runtime.authorizations = before ++ .entered turn request :: after →
        OwnCheck before turn request) ∧
      (c.runtime.authorizations.filterMap (·.entering)).Nodup := by
  have hinit : OneShot ({} : ClaudeAgentSDKRuntime db) := by
    refine ⟨by rintro request ⟨⟩, fun before turn request after hsplit => ?_,
      fun turn hturn => (by cases hturn), List.nodup_nil⟩
    cases before <;> cases hsplit
  have hone : OneShot c.runtime :=
    reachable_runtime (fun _ h => { h with })
      (fun h hnext => next_oneShot h hnext) hinit hr
  exact ⟨hone.entered, hone.once⟩

/-- A check is superseded by one for another request, whose turn consumes it; the turn of
the first request overlaps with it and checks again. -/
theorem authorized_once_superseded : ∃ c, (sharedSystem textOnlyShared).Reachable c ∧
    c.runtime.authorizations.filterMap (·.entering) = [0, 1] ∧
    (∀ before turn request after,
      c.runtime.authorizations = before ++ .entered turn request :: after →
        OwnCheck before turn request) ∧
      (c.runtime.authorizations.filterMap (·.entering)).Nodup := by
  obtain ⟨c, hc, hentered⟩ := System.exists_reachable_of_run (S := sharedSystem textOnlyShared)
    (P := fun c => c.runtime.authorizations.filterMap (·.entering) = [0, 1])
    [.preflight (plainRequest 0 [userMessage])
        plainAnswers.preflight,
      .preflight (plainRequest 1 [userMessage])
        plainAnswers.preflight,
      .start (plainRequest 1 [userMessage])
        plainHost plainAnswers,
      .start (plainRequest 0 [userMessage])
        plainHost plainAnswers] (by decide)
  exact ⟨c, hc, hentered, authorized_once textOnlyShared hc⟩

end SharedRuntime

end HermesClaude.Runtime
