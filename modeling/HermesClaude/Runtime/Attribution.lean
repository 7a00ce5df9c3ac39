/-
# What belongs to which turn

All turns on a session share its projector, and all turns of a runtime its tool bridge.
Both are reset when a turn begins, before the turn lock of the session is taken: so what
a turn is told about its model, and the correlation of its tool requests, are its own as
long as no later turn has begun to share them.

The account kept here: the projector of a session has seen the messages of the turn that
was bound to it last, and the bridge has the correlation of the turn that was bound last.
-/

import HermesClaude.Runtime.Numbering

namespace HermesClaude.Runtime

open HermesClaude.Python HermesClaude.Bridge HermesClaude.Content HermesClaude.Session
  HermesClaude.Library

variable {db : UnicodeDatabase}

/-! ## What the messages of a turn say by themselves -/

namespace ClaudeSdkEventProjector

/-- The projections of messages by a projector that sees no others. -/
def projections (texts : TextLibrary) :
    ClaudeSdkEventProjector → List PyValue → List ProjectionResult
  | _, [] => []
  | projector, message :: rest =>
    ((projector.observe texts message).projection texts message).toList ++
      projections texts (projector.observe texts message) rest

variable {texts : TextLibrary} {projector other : ClaudeSdkEventProjector}

theorem projections_append (projector : ClaudeSdkEventProjector) (messages : List PyValue)
    (message : PyValue) : projector.projections texts (messages ++ [message]) =
      projector.projections texts messages ++
        ((messages.foldl (observe texts) projector).observe texts message |>.projection texts
          message).toList := by
  induction messages generalizing projector with
  | nil => simp [projections]
  | cons first rest ih =>
    rw [List.cons_append, projections, ih, projections, List.append_assoc]
    rfl

/-- What observing messages does to each part of a projector. -/
theorem foldl_observe (projector : ClaudeSdkEventProjector) (messages : List PyValue) :
    messages.foldl (observe texts) projector = { projector with
      session := messages.foldl (sessionAfter texts) projector.session
      turn := messages.foldl (turnAfter texts) projector.turn } := by
  induction messages generalizing projector with
  | nil => rfl
  | cons first rest ih =>
    rw [List.foldl_cons, ih]
    rfl

/-- What a projection says about the model depends on the evidence of the turn and the
session; only that of a result counts. -/
theorem provenanceAfter_projection (message : PyValue)
    (hselected : projector.selectedModel = other.selectedModel)
    (hevidence : message.typeName = "ResultMessage" →
      projector.turn = other.turn ∧ projector.session = other.session)
    (before : ModelProvenance) :
    (projector.projection texts message).toList.foldl ClaudeAgentSDKRuntime.provenanceAfter before =
      (other.projection texts message).toList.foldl ClaudeAgentSDKRuntime.provenanceAfter before := by
  unfold projection
  dsimp only
  split_ifs with hassistant hresult
  · cases assistantEvents message with
    | none => rfl
    | some events => rfl
  · obtain ⟨hturn, hsession⟩ := hevidence hresult
    rw [hselected, hturn, hsession]
    rfl
  · rfl

end ClaudeSdkEventProjector

/-- The model provenance of a turn whose projector sees the messages of no other turn. -/
def ownProvenance (texts : TextLibrary) (request : RuntimeTurnRequest db)
    (messages : List PyValue) : ModelProvenance :=
  ((ClaudeSdkEventProjector.create texts request.model request.correlationId).projections texts
    messages).foldl ClaudeAgentSDKRuntime.provenanceAfter {}

/-- What the init messages of a turn say about its session. -/
def ownSession (texts : TextLibrary) (messages : List PyValue) : SessionEvidence :=
  messages.foldl (ClaudeSdkEventProjector.sessionAfter texts) {}

/-- What the messages of a turn say about its model. -/
def ownEvidence (texts : TextLibrary) (messages : List PyValue) : TurnEvidence :=
  messages.foldl (ClaudeSdkEventProjector.turnAfter texts) {}

/-- The correlation that the bridge is bound to for a request, if it accepts it. -/
def RuntimeTurnRequest.correlation (request : RuntimeTurnRequest db) : Option (Option PyStr) :=
  (HostToolBridge.bindCorrelation request.correlationId).toOption

/-- A message that a projector with the selection of the turn observes adds to the
provenance what it would add by itself, if the evidence behind a result is the turn's. -/
theorem ownProvenance_append {texts : TextLibrary} (request : RuntimeTurnRequest db)
    (messages : List PyValue) (message : PyValue) (projector : ClaudeSdkEventProjector)
    (hselected : projector.selectedModel = safeModelIdentifier texts (.str request.model))
    (hevidence : message.typeName = "ResultMessage" →
      projector.turn = ownEvidence texts messages ∧
        projector.session = ownSession texts messages) :
    ((projector.observe texts message).projection texts message).toList.foldl
        ClaudeAgentSDKRuntime.provenanceAfter (ownProvenance texts request messages) =
      ownProvenance texts request (messages ++ [message]) := by
  rw [ownProvenance, ownProvenance, ClaudeSdkEventProjector.projections_append, List.foldl_append,
    ClaudeSdkEventProjector.foldl_observe]
  refine ClaudeSdkEventProjector.provenanceAfter_projection message hselected
    (fun hresult => ?_) _
  obtain ⟨hturn, hsession⟩ := hevidence hresult
  constructor
  · show ClaudeSdkEventProjector.turnAfter texts projector.turn message = _
    rw [hturn]
    rfl
  · show ClaudeSdkEventProjector.sessionAfter texts projector.session message = _
    rw [hsession]
    rfl

namespace SharedRuntime

variable {context : SharedContext db} {c d : SharedRuntime db} {t u v : Turn db}

/-! ## The correlation of the bridge -/

/-- A turn that was bound, and none after it. -/
structure LastBound (c : SharedRuntime db) (t : Turn db) : Prop where
  mem : t ∈ c.turns
  bound : t.boundTo.isSome = true
  last : ∀ u ∈ c.turns, u.boundTo.isSome = true → u.number ≤ t.number

/-- The bridge has the correlation of the turn that was bound last. -/
structure Correlated (c : SharedRuntime db) : Prop where
  bridge : (∃ t ∈ c.turns, t.boundTo.isSome = true) → ∃ t, LastBound c t ∧ ∃ id,
    HostToolBridge.bindCorrelation t.request.correlationId = .ok id ∧
      c.runtime.bridge.map (·.correlationId) = some id
  requests : ∀ x ∈ c.requests, ∀ t ∈ c.turns, t.number = x.1 →
    HostToolBridge.bindCorrelation t.request.correlationId = .ok x.2

/-- No turn with another correlation was bound after the turn of the given number. -/
def KeepsCorrelation (c : SharedRuntime db) (turn : Nat) : Prop :=
  ∀ t ∈ c.turns, t.number = turn → ∀ u ∈ c.turns, turn < u.number → u.boundTo.isSome = true →
    u.request.correlation = t.request.correlation

theorem LastBound.proceed (h : LastBound c t) (hproceeds : Proceeds c d) (hnumbered : Numbered c) :
    ∃ u, LastBound d u ∧ u.request = t.request := by
  obtain ⟨u, hu, hbinding⟩ := hproceeds.kept hnumbered h.mem
  have hnumber : u.number = t.number := congrArg Binding.turn hbinding
  have hsession : u.boundTo = t.boundTo := congrArg Binding.session hbinding
  refine ⟨u, ⟨hu, hsession ▸ h.bound, fun w hw hbound => ?_⟩, congrArg Binding.request hbinding⟩
  obtain ⟨w', hw', hsame⟩ := hproceeds.binding hnumbered hw
  have hwnumber : w.number = w'.number := congrArg Binding.turn hsame
  have hwsession : w.boundTo = w'.boundTo := congrArg Binding.session hsame
  rw [hnumber, hwnumber]
  exact h.last w' hw' (hwsession ▸ hbound)

/-- Every step but the beginning of a turn keeps the account of correlations, if a tool
that runs is of a turn after which no other correlation was bound. -/
theorem Correlated.next (h : Correlated c) (hnumbered : Numbered c) {label : SharedLabel db}
    (hlabel : beginsTurn label = false)
    (hguard : ∀ turn, label = .tool turn → KeepsCorrelation c turn)
    (hnext : c.next context label = some d) : Correlated d := by
  obtain ⟨hproceeds, hshared⟩ := proceeds_of_next hlabel hnext
  obtain ⟨hbooks, -⟩ := books_of_next hlabel hnext
  have hold : ∀ x ∈ c.requests, ∀ t ∈ d.turns, t.number = x.1 →
      HostToolBridge.bindCorrelation t.request.correlationId = .ok x.2 := by
    intro x hx t ht hnumber
    obtain ⟨t', ht', hbinding⟩ := hproceeds.binding hnumbered ht
    have hrequest : t.request = t'.request := congrArg Binding.request hbinding
    have hsame : t.number = t'.number := congrArg Binding.turn hbinding
    rw [hrequest]
    exact h.requests x hx t' ht' (hsame.symm.trans hnumber)
  refine ⟨fun ⟨t, ht, hbound⟩ => ?_, ?_⟩
  · obtain ⟨t', ht', hbinding⟩ := hproceeds.binding hnumbered ht
    have hsession : t.boundTo = t'.boundTo := congrArg Binding.session hbinding
    obtain ⟨w, hlast, id, hid, hbridge⟩ := h.bridge ⟨t', ht', hsession ▸ hbound⟩
    obtain ⟨w', hlast', hrequest⟩ := hlast.proceed hproceeds hnumbered
    exact ⟨w', hlast', id, hrequest ▸ hid, hshared.correlation.trans hbridge⟩
  · cases hbooks with
    | message running bound projector messages requests | nothing projector messages requests =>
      rw [requests]
      exact hold
    | @tool turn session id bound bridge projector messages requests =>
      rw [requests]
      intro x hx t ht hnumber
      rcases List.mem_append.mp hx with hx | hx
      · exact hold x hx t ht hnumber
      · rw [List.mem_singleton] at hx
        subst hx
        obtain ⟨own, hown, hownNumber, bound, hbound, -⟩ := sessionOf_eq_some bound
        obtain ⟨w, hlast, id', hid', hbridge⟩ := h.bridge ⟨own, hown, Option.isSome_of_mem hbound⟩
        obtain rfl : id' = id := by
          rw [hbridge] at bridge
          exact Option.some.inj bridge
        obtain ⟨t', ht', hbinding⟩ := hproceeds.binding hnumbered ht
        have hrequest : t.request = t'.request := congrArg Binding.request hbinding
        have hsame : t.number = t'.number := congrArg Binding.turn hbinding
        have heq : t' = own :=
          hnumbered.unique t' ht' own hown ((hsame.symm.trans hnumber).trans hownNumber.symm)
        rw [hrequest, heq]
        -- The last turn that was bound is this one, or has the same correlation.
        rcases Nat.lt_or_ge own.number w.number with hlater | hsameTurn
        · have hcorrelation := hguard turn rfl own hown hownNumber w hlast.mem
            (hownNumber ▸ hlater) hlast.bound
          rw [RuntimeTurnRequest.correlation, RuntimeTurnRequest.correlation, hid'] at hcorrelation
          cases hbind : HostToolBridge.bindCorrelation own.request.correlationId with
          | error e =>
            rw [hbind] at hcorrelation
            cases hcorrelation
          | ok id =>
            rw [hbind] at hcorrelation
            exact congrArg Except.ok (Option.some.inj hcorrelation).symm
        · have hle := hlast.last own hown (Option.isSome_of_mem hbound)
          have hw : w = own := hnumbered.unique w hlast.mem own hown (Nat.le_antisymm hsameTurn hle)
          rw [← hw]
          exact hid'

/-- The beginning of a turn keeps it. -/
theorem Correlated.begin (h : Correlated c) (hnumbered : Numbered c) (context : SharedContext db)
    (request : RuntimeTurnRequest db) (host : RuntimeHost) (answers : StartAnswers) :
    Correlated (c.begin context request host answers) := by
  obtain ⟨v, hlaunch, hjoins⟩ := begin_joins hnumbered context request host answers
  have hnumber : v.number = c.runtime.turns := hlaunch.binding.1
  refine ⟨fun ⟨t, ht, hbound⟩ => ?_, fun x hx t ht hsame => ?_⟩
  · cases hv : v.boundTo with
    | some session =>
      obtain ⟨-, -, -, -, id, hid, hbridge⟩ := hlaunch.bound session hv
      refine ⟨v, ⟨(hjoins.turns v).mpr (.inr rfl), Option.isSome_of_mem hv, fun u hu _ => ?_⟩, id, ?_,
        hbridge⟩
      · rcases (hjoins.turns u).mp hu with hu | rfl
        · exact hnumber ▸ (hnumbered.below u hu).le
        · exact le_rfl
      · rw [hlaunch.binding.2]
        exact hid
    | none =>
      have hold : t ∈ c.turns := by
        rcases (hjoins.turns t).mp ht with ht | rfl
        · exact ht
        · rw [hv] at hbound
          cases hbound
      obtain ⟨w, hlast, id, hid, hbridge⟩ := h.bridge ⟨t, hold, hbound⟩
      refine ⟨w, ⟨(hjoins.turns w).mpr (.inl hlast.mem), hlast.bound, fun u hu hubound => ?_⟩, id, hid,
        ?_⟩
      · rcases (hjoins.turns u).mp hu with hu | rfl
        · exact hlast.last u hu hubound
        · rw [hv] at hubound
          cases hubound
      · obtain ⟨session, hsession⟩ := Option.isSome_iff_exists.mp hlast.bound
        have hlive := (hnumbered.sessions w hlast.mem session hsession).2
        have hsame : (c.begin context request host answers).runtime.bridge = c.runtime.bridge :=
          (hlaunch.unbound hv).2 hlive
        rw [hsame]
        exact hbridge
  · rcases (hjoins.turns t).mp ht with ht | rfl
    · exact h.requests x hx t ht hsame
    · have hless := hnumbered.requests x hx
      omega

/-! ## The evidence of the projectors -/

/-- The projector of a session reports the selection of the turns bound to it, and has the
evidence of the last of them. -/
structure Evident (texts : TextLibrary) (c : SharedRuntime db) : Prop where
  selected : ∀ t ∈ c.turns, ∀ session ∈ t.boundTo,
    (c.projector session.number).selectedModel = safeModelIdentifier texts (.str t.request.model)
  current : ∀ session ∈ c.runtime.session, ∃ contract, c.runtime.contract = some contract ∧
    (c.projector session.number).selectedModel = safeModelIdentifier texts (.str contract.model)
  evidence : ∀ t ∈ c.turns, ∀ session ∈ t.boundTo,
    (∀ u ∈ c.turns, ∀ other ∈ u.boundTo, other.number = session.number → u.number ≤ t.number) →
    (c.projector session.number).turn = ownEvidence texts (c.messagesOf t.number)

/-- No later turn shares the projector that is to observe evidence for this one. -/
def KeepsEvidence (c : SharedRuntime db) (turn : Nat) (message : PyValue) : Prop :=
  ClaudeSdkEventProjector.isTurnEvidence message = true →
    ∀ u ∈ c.turns, turn < u.number → u.boundTo.map (·.number) ≠ c.sessionOf turn

theorem messagesOf_append {turn : Nat} {message : PyValue}
    (hmessages : d.messages = c.messages ++ [(turn, message)]) (n : Nat) :
    d.messagesOf n = if turn = n then c.messagesOf n ++ [message] else c.messagesOf n := by
  unfold messagesOf
  rw [hmessages, List.filter_append, List.map_append]
  split_ifs with hsame
  · simp [hsame]
  · simp [hsame]

theorem messagesOf_congr (hmessages : d.messages = c.messages) (n : Nat) :
    d.messagesOf n = c.messagesOf n := by
  rw [messagesOf, messagesOf, hmessages]

/-- A turn that has not begun has no messages. -/
theorem Numbered.messagesOf_new (h : Numbered c) {turn : Nat} (hnew : c.runtime.turns ≤ turn) :
    c.messagesOf turn = [] := by
  unfold messagesOf
  rw [List.map_eq_nil_iff, List.filter_eq_nil_iff]
  intro x hx hsame
  have hless := h.messages x hx
  have heq : x.1 = turn := of_decide_eq_true hsame
  omega

/-- The session of a turn is the one it was bound to. -/
theorem Numbered.sessionOf (h : Numbered c) (ht : t ∈ c.turns) :
    c.sessionOf t.number = t.boundTo.map (·.number) := by
  have hfound : c.turns.find? (fun u => u.number = t.number) = some t := by
    cases hfind : c.turns.find? (fun u => u.number = t.number) with
    | none =>
      have hnone := List.find?_eq_none.mp hfind t ht
      simp at hnone
    | some u =>
      have hnumber : u.number = t.number := by simpa using List.find?_some hfind
      rw [h.unique u (List.mem_of_find?_eq_some hfind) t ht hnumber]
  rw [SharedRuntime.sessionOf, hfound, Option.bind_some]

/-- Every step but the beginning of a turn keeps the evidence, if no later turn shares
the projector that observes some. -/
theorem Evident.next {texts : TextLibrary} (h : Evident texts c) (htexts : texts = context.texts)
    (hnumbered : Numbered c) {label : SharedLabel db} (hlabel : beginsTurn label = false)
    (hguard : ∀ turn message, label = .message turn message → KeepsEvidence c turn message)
    (hnext : c.next context label = some d) : Evident texts d := by
  subst htexts
  obtain ⟨hproceeds, hshared⟩ := proceeds_of_next hlabel hnext
  obtain ⟨hbooks, -⟩ := books_of_next hlabel hnext
  have hselected : ∀ n, (d.projector n).selectedModel = (c.projector n).selectedModel := by
    intro n
    cases hbooks with
    | @message turn session message running bound projector =>
      rw [projector]
      by_cases hn : n = session
      · subst hn
        rw [Function.update_self]
        rfl
      · rw [Function.update_of_ne hn]
    | tool bound bridge projector | nothing projector => rw [projector]
  refine ⟨fun t ht session hbound => ?_, fun session hsession => ?_,
    fun t ht session hbound hlast => ?_⟩
  · obtain ⟨t', ht', hbinding⟩ := hproceeds.binding hnumbered ht
    have hrequest : t.request = t'.request := congrArg Binding.request hbinding
    have hsame : t.boundTo = t'.boundTo := congrArg Binding.session hbinding
    rw [hselected, hrequest]
    exact h.selected t' ht' session (hsame ▸ hbound)
  · have horigin : c.runtime.session.map RuntimeSession.origin = some session.origin := by
      rw [← hshared.session, hsession, Option.map_some]
    obtain ⟨before, hbefore, heq⟩ := Option.map_eq_some_iff.mp horigin
    have hnumber : before.number = session.number := congrArg Prod.fst heq
    rw [hselected, hshared.contract, ← hnumber]
    exact h.current before hbefore
  · obtain ⟨t', ht', hbinding⟩ := hproceeds.binding hnumbered ht
    have hnumber : t.number = t'.number := congrArg Binding.turn hbinding
    have hsame : t.boundTo = t'.boundTo := congrArg Binding.session hbinding
    have hlast' : ∀ u ∈ c.turns, ∀ other ∈ u.boundTo, other.number = session.number →
        u.number ≤ t'.number := by
      intro u hu other hother heq
      obtain ⟨u', hu', hbinding'⟩ := hproceeds.kept hnumbered hu
      have hunumber : u'.number = u.number := congrArg Binding.turn hbinding'
      have husession : u'.boundTo = u.boundTo := congrArg Binding.session hbinding'
      have hle := hlast u' hu' other (husession ▸ hother) heq
      omega
    have hbefore := h.evidence t' ht' session (hsame ▸ hbound) hlast'
    rw [hnumber]
    cases hbooks with
    | @message turn bound message running hsession projector messages =>
      rw [projector, messagesOf_append messages]
      by_cases hshares : session.number = bound
      · subst hshares
        rw [Function.update_self]
        show ClaudeSdkEventProjector.turnAfter _ _ _ = _
        rw [hbefore]
        by_cases hown : turn = t'.number
        · rw [if_pos hown, ownEvidence, ownEvidence, List.foldl_append]
          rfl
        · -- The message is of an earlier turn on the session, so it carries no evidence.
          rw [if_neg hown]
          obtain ⟨w, hw, hwnumber, wsession, hwbound, hwsession⟩ := sessionOf_eq_some hsession
          have hearlier : turn < t'.number := by
            have hle := hlast' w hw wsession hwbound hwsession
            omega
          have hnone : ClaudeSdkEventProjector.isTurnEvidence message = false := by
            by_contra hevidence
            refine hguard turn message rfl (by simpa using hevidence) t' ht' hearlier ?_
            rw [hsession, ← hsame, hbound, Option.map_some]
          rw [ClaudeSdkEventProjector.turnAfter, hnone]
          rfl
      · rw [Function.update_of_ne hshares, hbefore]
        have hother : turn ≠ t'.number := by
          rintro rfl
          rw [hnumbered.sessionOf ht', ← hsame, hbound, Option.map_some] at hsession
          exact hshares (Option.some.inj hsession)
        rw [if_neg hother]
    | tool bound bridge projector messages | nothing projector messages =>
      rw [projector, messagesOf_congr messages]
      exact hbefore

section Projectors

variable {request : RuntimeTurnRequest db} {r : ClaudeAgentSDKRuntime db}

/-- `begin_turn` of the projector of the session that the turn is bound to. -/
def beginBound (request : RuntimeTurnRequest db) (r : ClaudeAgentSDKRuntime db)
    (created : Nat → ClaudeSdkEventProjector) : Nat → ClaudeSdkEventProjector :=
  match r.turn.bind (·.boundTo) with
  | some session =>
    Function.update created session.number ((created session.number).beginTurn request.correlationId)
  | none => created

theorem beginBound_apply (created : Nat → ClaudeSdkEventProjector) (n : Nat) :
    beginBound request r created n =
      if (r.turn.bind (·.boundTo)).any (·.number = n) then
        (created n).beginTurn request.correlationId
      else created n := by
  rw [beginBound]
  cases r.turn.bind (·.boundTo) with
  | none => rfl
  | some session =>
    by_cases hn : session.number = n
    · subst hn
      simp
    · simp [hn, Function.update_of_ne (Ne.symm hn)]

/-- A new session gets a projector of its own, and `begin_turn` resets the one of the
session that the turn is bound to. -/
theorem projectorsAfter_eq (context : SharedContext db) (c : SharedRuntime db)
    (request : RuntimeTurnRequest db) (r : ClaudeAgentSDKRuntime db) :
    ∃ created : Nat → ClaudeSdkEventProjector,
      (∀ n ≤ c.runtime.turns, created n = c.projector n) ∧
      (∀ session ∈ r.session, session.number = c.runtime.turns + 1 →
        created session.number = .create context.texts request.model request.correlationId) ∧
      ∀ n, c.projectorsAfter context request r n =
        if (r.turn.bind (·.boundTo)).any (·.number = n) then
          (created n).beginTurn request.correlationId
        else created n := by
  cases hsession : r.session with
  | none =>
    refine ⟨c.projector, fun _ _ => rfl, by rintro session ⟨⟩, fun n => ?_⟩
    unfold projectorsAfter
    rw [hsession]
    exact beginBound_apply c.projector n
  | some session =>
    by_cases hnew : session.number = c.runtime.turns + 1
    · refine ⟨Function.update c.projector session.number
        (.create context.texts request.model request.correlationId), fun n hn => ?_, ?_, fun n => ?_⟩
      · exact Function.update_of_ne (by omega) _ _
      · rintro session ⟨⟩ -
        exact Function.update_self ..
      · unfold projectorsAfter
        rw [hsession]
        dsimp only
        rw [if_pos hnew]
        exact beginBound_apply _ n
    · refine ⟨c.projector, fun _ _ => rfl, ?_, fun n => ?_⟩
      · rintro session ⟨⟩ hnumber
        exact absurd hnumber hnew
      · unfold projectorsAfter
        rw [hsession]
        dsimp only
        rw [if_neg hnew]
        exact beginBound_apply _ n

/-- A projector that is neither created nor bound when a turn begins stays as it is. -/
theorem projectorsAfter_other {n : Nat} (hold : n ≤ c.runtime.turns)
    (hunbound : ∀ session ∈ r.turn.bind (·.boundTo), session.number ≠ n) :
    c.projectorsAfter context request r n = c.projector n := by
  obtain ⟨created, hkept, -, hafter⟩ := projectorsAfter_eq context c request r
  have hnone : (r.turn.bind (·.boundTo)).any (·.number = n) = false := by
    cases hbound : r.turn.bind (·.boundTo) with
    | none => rfl
    | some session => simpa using hunbound session hbound
  rw [hafter, hnone, hkept n hold]
  rfl

/-- `begin_turn` changes no selection. -/
theorem projectorsAfter_selected {n : Nat} (hold : n ≤ c.runtime.turns) :
    (c.projectorsAfter context request r n).selectedModel = (c.projector n).selectedModel := by
  obtain ⟨created, hkept, -, hafter⟩ := projectorsAfter_eq context c request r
  rw [hafter, ← hkept n hold]
  split_ifs <;> rfl

/-- A session that setup has created gets a projector with the selection of the request. -/
theorem projectorsAfter_created {session : RuntimeSession} (hsession : r.session = some session)
    (hnew : session.number = c.runtime.turns + 1) :
    (c.projectorsAfter context request r session.number).selectedModel =
      safeModelIdentifier context.texts (.str request.model) := by
  obtain ⟨created, -, hcreated, hafter⟩ := projectorsAfter_eq context c request r
  rw [hafter, hcreated session hsession hnew]
  split_ifs <;> rfl

/-- The projector of the session a turn is bound to has no evidence. -/
theorem projectorsAfter_bound {session : RuntimeSession}
    (hbound : r.turn.bind (·.boundTo) = some session) :
    (c.projectorsAfter context request r session.number).turn = {} := by
  obtain ⟨created, -, -, hafter⟩ := projectorsAfter_eq context c request r
  have hany : (r.turn.bind (·.boundTo)).any (·.number = session.number) = true := by
    rw [hbound]
    simp
  rw [hafter, hany]
  rfl

end Projectors

/-- The beginning of a turn keeps the evidence. -/
theorem Evident.begin {texts : TextLibrary} (h : Evident texts c) (htexts : texts = context.texts)
    (hnumbered : Numbered c) (request : RuntimeTurnRequest db) (host : RuntimeHost)
    (answers : StartAnswers) : Evident texts (c.begin context request host answers) := by
  subst htexts
  obtain ⟨v, hlaunch, hjoins⟩ := begin_joins hnumbered context request host answers
  have hnumber : v.number = c.runtime.turns := hlaunch.binding.1
  have hcurrent : ∀ session ∈ (c.begin context request host answers).runtime.session,
      ∃ contract, (c.begin context request host answers).runtime.contract = some contract ∧
        ((c.begin context request host answers).projector session.number).selectedModel =
          safeModelIdentifier context.texts (.str contract.model) := by
    intro session hsession
    have hlive : (c.idle.startTurn context.runtime request host answers).session = some session :=
      hsession
    cases hlaunch.session with
    | kept hkept hcontract =>
      rw [hlive] at hkept
      obtain ⟨before, hbefore, heq⟩ := Option.map_eq_some_iff.mp hkept.symm
      have hsame : before.number = session.number := congrArg Prod.fst heq
      obtain ⟨contract, hcontract', hselected⟩ := h.current before hbefore
      refine ⟨contract, (hcontract (Option.isSome_of_mem hbefore)).trans hcontract', ?_⟩
      rw [← hselected, ← hsame]
      exact projectorsAfter_selected (hnumbered.current before hbefore)
    | created hcreated hcontract =>
      rw [hlive, Option.map_some, Option.some.injEq] at hcreated
      exact ⟨_, hcontract, projectorsAfter_created hlive hcreated⟩
  have hbind : ∀ session, v.boundTo = some session →
      (c.idle.startTurn context.runtime request host answers).turn.bind (·.boundTo) =
        some session := by
    intro session hbound
    rw [(hlaunch.bound session hbound).1, Option.bind_some, hbound]
  have hbound : ∀ session ∈
      (c.idle.startTurn context.runtime request host answers).turn.bind (·.boundTo),
      v.boundTo = some session := by
    intro session hsession
    obtain ⟨u, hu, husession⟩ := Option.bind_eq_some_iff.mp hsession
    obtain ⟨_, _, -, -, hgoes⟩ := hlaunch.goes
    cases hgoes with
    | suspended _ hturn =>
      rw [hturn, Option.some.injEq] at hu
      rw [hu]
      exact husession
    | ends f p _ _ hturn =>
      rw [hturn] at hu
      cases hu
  refine ⟨fun t ht session hsession => ?_, hcurrent, fun t ht session hsession hlast => ?_⟩
  · rcases (hjoins.turns t).mp ht with ht | rfl
    · rw [← h.selected t ht session hsession]
      exact projectorsAfter_selected (hnumbered.sessions t ht session hsession).1
    · obtain ⟨-, -, hlive, hcontract, -⟩ := hlaunch.bound session hsession
      obtain ⟨contract, hcontract', hselected⟩ := hcurrent session hlive
      have hsame : request.contract = contract :=
        Option.some.inj (hcontract.symm.trans hcontract')
      rw [hselected, ← hsame, hlaunch.binding.2]
      rfl
  · rcases (hjoins.turns t).mp ht with ht | rfl
    · have hother : ∀ other ∈
          (c.idle.startTurn context.runtime request host answers).turn.bind (·.boundTo),
          other.number ≠ session.number := by
        intro other hother hsame
        have hle := hlast v ((hjoins.turns v).mpr (.inr rfl)) other (hbound other hother) hsame
        have hless := hnumbered.below t ht
        omega
      have hkept : (c.begin context request host answers).projector session.number =
          c.projector session.number :=
        projectorsAfter_other (hnumbered.sessions t ht session hsession).1 hother
      rw [hkept]
      exact h.evidence t ht session hsession fun u hu => hlast u ((hjoins.turns u).mpr (.inl hu))
    · have hnone : c.messagesOf t.number = [] := hnumbered.messagesOf_new hnumber.ge
      show (c.projectorsAfter context request _ session.number).turn =
        ownEvidence context.texts (c.messagesOf t.number)
      rw [hnone]
      exact projectorsAfter_bound (hbind session hsession)

end SharedRuntime

end HermesClaude.Runtime
