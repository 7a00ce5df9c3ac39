/-
# What a generator leaves alone

A generator that goes on moves its turn along, may close or cancel the session, and may
be over.  It creates no session, binds nothing to the bridge, checks no request and
begins no turn: all of that happens in the one step with which a turn begins.

So what a run has bound, turn by turn, only ever grows at its end, and the session keeps
its origin until a turn begins that replaces it.
-/

import HermesClaude.Runtime.Invariants

namespace HermesClaude.Runtime

open HermesClaude.Python HermesClaude.Bridge HermesClaude.Content HermesClaude.Session
  HermesClaude.Library

variable {db : UnicodeDatabase}

/-- What is fixed about a turn from the creation of its task on. -/
structure Binding (db : UnicodeDatabase) where
  turn : Nat
  request : RuntimeTurnRequest db
  /-- The session the task runs on, as it was when the task was created. -/
  session : Option RuntimeSession

/-- A label with which a turn begins. -/
def Label.beginsTurn : Label db → Bool
  | .start _ _ _ => true
  | _ => false

/-- What is fixed about a turn. -/
def Turn.binding (t : Turn db) : Binding db := ⟨t.number, t.request, t.boundTo⟩

/-- Where a session comes from: when it was created and what it was resumed with. -/
def RuntimeSession.origin (session : RuntimeSession) : Nat × Option PyStr :=
  (session.number, session.resumeId)

namespace ClaudeAgentSDKRuntime

/-- The turns of a run, in the order in which they began. -/
def bindings (r : ClaudeAgentSDKRuntime db) : List (Binding db) :=
  r.finished.map (fun f => f.turn.binding) ++ (r.turn.map Turn.binding).toList

/-- The same turns are bound, and the session has the same origin. -/
structure SameBindings (r s : ClaudeAgentSDKRuntime db) : Prop where
  bindings : s.bindings = r.bindings
  turns : s.turns = r.turns
  contract : s.contract = r.contract
  session : s.session.map RuntimeSession.origin = r.session.map RuntimeSession.origin

/-- What stays as it is while a generator goes on. -/
structure Untouched (r s : ClaudeAgentSDKRuntime db) : Prop extends SameBindings r s where
  bridge : s.bridge = r.bridge
  authorization : SameAuthorization r s

variable {r s : ClaudeAgentSDKRuntime db} {t : Turn db}

theorem SameAuthorization.trans {q : ClaudeAgentSDKRuntime db} (h : SameAuthorization q r)
    (h' : SameAuthorization r s) : SameAuthorization q s :=
  ⟨h'.slot.trans h.slot, h'.log.trans h.log⟩

theorem Untouched.trans {q : ClaudeAgentSDKRuntime db} (h : Untouched q r) (h' : Untouched r s) :
    Untouched q s where
  bindings := h'.bindings.trans h.bindings
  turns := h'.turns.trans h.turns
  contract := h'.contract.trans h.contract
  session := h'.session.trans h.session
  bridge := h'.bridge.trans h.bridge
  authorization := h.authorization.trans h'.authorization

/-! ## The segments of a generator -/

theorem suspend_untouched {t' : Turn db} (h : t'.binding = t.binding) :
    Untouched (r.suspend t) (r.suspend t') := by
  refine ⟨⟨?_, rfl, rfl, rfl⟩, rfl, rfl, rfl⟩
  simp [bindings, suspend, h]

theorem emitLast_untouched (event : TurnEvent) (inSetup : Bool) :
    Untouched (r.suspend t) (r.suspend (t.emitLast event inSetup)) := suspend_untouched rfl

theorem finish_untouched (ending : GeneratorEnding) : Untouched (r.suspend t) (r.finish t ending) := by
  refine ⟨⟨?_, rfl, rfl, rfl⟩, rfl, rfl, rfl⟩
  simp [bindings, suspend, finish]

theorem closeSession_sameBindings : SameBindings r r.closeSession := by
  refine ⟨rfl, rfl, rfl, ?_⟩
  show (r.session.map _).map RuntimeSession.origin = r.session.map RuntimeSession.origin
  rw [Option.map_map]
  rfl

theorem closeSession_untouched : Untouched (r.suspend t) (r.closeSession.suspend t) :=
  ⟨{ closeSession_sameBindings (r := r.suspend t) with }, rfl, rfl, rfl⟩

theorem observe_untouched (name : PyStr) :
    Untouched (r.suspend t) ((r.observe name).suspend t) := by
  unfold observe
  repeat' split
  all_goals exact ⟨⟨rfl, rfl, rfl, rfl⟩, rfl, rfl, rfl⟩

theorem afterCancel_untouched (site : CancelSite) :
    Untouched (r.suspend t) (r.afterCancel t site) := by
  cases site with
  | pump => exact suspend_untouched rfl
  | native phase => exact suspend_untouched rfl
  | cancelledHandler => exact finish_untouched .raised
  | errorHandler =>
    rw [afterCancel]
    split_ifs
    · exact finish_untouched .over
    · exact suspend_untouched rfl

theorem cancelSession_untouched (site : CancelSite) :
    Untouched (r.suspend t) (r.cancelSession t site) := by
  unfold cancelSession
  split
  next => exact afterCancel_untouched site
  next session hsession =>
    split_ifs
    · have hreturned : Untouched (r.suspend t) (r.suspend { t with cancelReturned := true }) :=
        suspend_untouched rfl
      exact hreturned.trans (afterCancel_untouched site)
    · refine ⟨⟨rfl, rfl, rfl, ?_⟩, rfl, rfl, rfl⟩
      show (some _ : Option RuntimeSession).map _ = r.session.map _
      rw [hsession]
      rfl

theorem pumpHead_untouched (poll : Option Poll) :
    Untouched (r.suspend t) (r.pumpHead t poll) := by
  have hcancel : ∀ unavailable, Untouched (r.suspend t) (r.cancelSession
      { t with cancelSent := true, cancellationUnavailable := unavailable } .pump) := by
    intro unavailable
    have hsent : Untouched (r.suspend t) (r.suspend
        { t with cancelSent := true, cancellationUnavailable := unavailable }) :=
      suspend_untouched rfl
    exact hsent.trans (cancelSession_untouched .pump)
  unfold pumpHead
  split_ifs
  · exact suspend_untouched rfl
  · exact suspend_untouched rfl
  · split
    · exact suspend_untouched rfl
    · exact cancelSession_untouched .cancelledHandler
    · exact finish_untouched .raised
    · exact suspend_untouched rfl
    · exact hcancel t.cancellationUnavailable
    · exact hcancel true
    · exact hcancel true

theorem passOn_untouched (poll : Option Poll) (events : List RuntimeEvent) :
    Untouched (r.suspend t) (r.passOn t poll events) := by
  induction events generalizing r with
  | nil => exact pumpHead_untouched poll
  | cons event rest ih =>
    cases event with
    | completed => exact ih
    | toolRequest requestId name => exact (observe_untouched name).trans ih
    | usage receipt => exact suspend_untouched rfl
    | content text => exact suspend_untouched rfl
    | compaction phase => exact suspend_untouched rfl

theorem receive_untouched (projection : ProjectionResult) (poll : Option Poll) :
    Untouched (r.suspend t) (r.receive t projection poll) := by
  have hprovenance : Untouched (r.suspend t)
      (r.suspend { t with provenance := provenanceAfter t.provenance projection }) :=
    suspend_untouched rfl
  unfold receive
  dsimp only
  split_ifs
  · exact hprovenance.trans (cancelSession_untouched _)
  · exact hprovenance.trans (passOn_untouched poll projection.events)

theorem complete_untouched (result : SessionTurnResult) :
    Untouched (r.suspend t) (r.complete t result) := by
  have hterminal : Untouched (r.suspend t) (r.suspend { t with terminal := true }) :=
    suspend_untouched rfl
  unfold complete
  dsimp only
  split
  · exact hterminal.trans (cancelSession_untouched .errorHandler)
  · exact suspend_untouched rfl

theorem settle_untouched (result : SessionTurnResult) :
    Untouched (r.suspend t) (r.settle t result) := by
  unfold settle
  split_ifs
  · exact suspend_untouched rfl
  · split
    · split
      · exact suspend_untouched rfl
      · exact complete_untouched result
    all_goals exact suspend_untouched rfl

/-- A generator that goes on leaves all of this alone. -/
theorem resume_untouched {signal : Signal} {poll : Option Poll}
    (hresume : r.resume t signal poll = some s) : Untouched (r.suspend t) s := by
  cases resumed_of_resume hresume with
  | @cancelReturned site hpc =>
    have hreturned : Untouched (r.closeSession.suspend t)
        (r.closeSession.suspend { t with cancelReturned := true }) := suspend_untouched rfl
    exact closeSession_untouched.trans (hreturned.trans (afterCancel_untouched site))
  | handlerCancelled => exact finish_untouched .raised
  | cancelCancelled | receiveCancelled => exact cancelSession_untouched .cancelledHandler
  | @received projection rest =>
    have htaken : Untouched (r.suspend t) (r.suspend { t with queue := rest }) :=
      suspend_untouched rfl
    exact htaken.trans (receive_untouched projection poll)
  | timedOut => exact pumpHead_untouched poll
  | passedOn => exact passOn_untouched poll _
  | settled => exact settle_untouched _
  | nativeFailed => exact suspend_untouched rfl
  | taskCancelled => exact cancelSession_untouched .cancelledHandler
  | taskRaised => exact cancelSession_untouched .errorHandler
  | stateTaken => exact complete_untouched _
  | exhausted | closed => exact finish_untouched .over

theorem suspend_eq_self (hturn : r.turn = some t) : r.suspend t = r := by
  unfold suspend
  rw [← hturn]

/-! ## The other steps -/

theorem report_untouched (ran : Option RuntimeSession) (ending : Ending) :
    Untouched r (r.report ran ending) := by
  unfold report
  repeat' split
  all_goals refine ⟨⟨rfl, rfl, rfl, ?_⟩, rfl, rfl, rfl⟩
  · show (r.session.map _).map RuntimeSession.origin = r.session.map RuntimeSession.origin
    rw [Option.map_map]
    congr 1
    funext session
    show RuntimeSession.origin (ite _ _ _) = session.origin
    split_ifs <;> rfl
  all_goals rfl

/-- Until the next turn begins, the same turns stay bound. -/
theorem sameBindings_of_next {context : RuntimeContext db} {label : Label db}
    (hbegins : label.beginsTurn = false) (hnext : r.next context label = some s) :
    SameBindings r s := by
  cases label with
  | preflight request answers =>
    cases hnext
    exact ⟨rfl, rfl, rfl, rfl⟩
  | start request host answers => cases hbegins
  | generator signal poll =>
    obtain ⟨t, hturn, hresume⟩ := Option.bind_eq_some_iff.mp hnext
    have huntouched := resume_untouched hresume
    rw [suspend_eq_self hturn] at huntouched
    exact huntouched.toSameBindings
  | produce projection =>
    simp only [ClaudeAgentSDKRuntime.next] at hnext
    split at hnext
    next t hturn =>
      split at hnext
      next =>
        cases hnext
        have hproduced : Untouched (r.suspend t) (r.suspend { t with
            queue := t.queue ++ [projection]
            produced := t.produced ++ projection.events }) := suspend_untouched rfl
        rw [suspend_eq_self hturn] at hproduced
        exact hproduced.toSameBindings
      next => cases hnext
    next => cases hnext
  | taskEnds ending =>
    simp only [ClaudeAgentSDKRuntime.next] at hnext
    split at hnext
    next t hturn =>
      split at hnext
      next =>
        cases hnext
        have hreported := report_untouched (r := r) t.boundTo ending
        have hreportedTurn : (r.report t.boundTo ending).turn = some t :=
          (report_same r t.boundTo ending).2.2.2.trans hturn
        have hended : Untouched ((r.report t.boundTo ending).suspend t)
            ((r.report t.boundTo ending).suspend { t with task := some (.ended ending) }) :=
          suspend_untouched rfl
        rw [suspend_eq_self hreportedTurn] at hended
        exact (hreported.trans hended).toSameBindings
      next => cases hnext
    next => cases hnext
  | sessionCloses =>
    obtain ⟨-, ⟨⟩⟩ := Option.ite_none_right_eq_some.mp hnext
    exact closeSession_sameBindings
  | tool turn =>
    obtain ⟨-, hexecutes⟩ := Option.ite_none_right_eq_some.mp hnext
    obtain ⟨bridge, -, rfl⟩ := Option.map_eq_some_iff.mp hexecutes
    refine ⟨?_, rfl, rfl, rfl⟩
    show _ ++ ((r.turn.map _).map _).toList = _
    rw [Option.map_map]
    rfl
  | orphanEnds turn ending =>
    obtain ⟨-, ⟨⟩⟩ := Option.ite_none_right_eq_some.mp hnext
    exact { (report_untouched (r := r) (r.ranOn turn) ending).toSameBindings with }
  | close =>
    simp only [ClaudeAgentSDKRuntime.next] at hnext
    split_ifs at hnext
    · cases hnext
      exact ⟨rfl, rfl, rfl, rfl⟩
    · cases hnext
      exact { closeSession_sameBindings (r := r) with }

end ClaudeAgentSDKRuntime

end HermesClaude.Runtime
