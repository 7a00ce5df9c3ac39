/-
# The provenance that a projector reports

A host calls `begin_turn` and `project` in any order.  At every moment the evidence that
the projector holds is that of the facts in the messages it was given: the announcements
of all of them, and the reports and usage of those since the last `begin_turn`.
-/

import HermesClaude.Content.ModelResolution
import HermesClaude.Runtime.Overlap

namespace HermesClaude.Runtime

open HermesClaude.Python HermesClaude.Content

/-- A call of a projector. -/
inductive ProjectorCall
  | beginTurn (correlationId : PyValue)
  | project (message : PyValue)

namespace ProjectorCall

/-- All messages that were projected. -/
def messages (calls : List ProjectorCall) : List PyValue :=
  calls.filterMap fun
    | .beginTurn _ => none
    | .project message => some message

/-- The messages of a turn, as a call leaves them. -/
def turnMessagesAfter (messages : List PyValue) : ProjectorCall → List PyValue
  | .beginTurn _ => []
  | .project message => messages ++ [message]

/-- The messages that were projected since the last `begin_turn`. -/
def turnMessages (calls : List ProjectorCall) : List PyValue :=
  calls.foldl turnMessagesAfter []

end ProjectorCall

namespace ClaudeSdkEventProjector

section

variable (texts : TextLibrary)

/-- What a call does to a projector. -/
def perform (projector : ClaudeSdkEventProjector) : ProjectorCall → ClaudeSdkEventProjector
  | .beginTurn correlationId => projector.beginTurn correlationId
  | .project message => projector.observe texts message

/-- `_model_provenance`, for a request that selects the given model. -/
def provenanceFor (projector : ClaudeSdkEventProjector) (selectedModel : Option PyStr) :
    ModelResolution :=
  modelProvenance texts selectedModel projector.session projector.turn

/-- `_model_provenance`. -/
def provenance (projector : ClaudeSdkEventProjector) : ModelResolution :=
  projector.provenanceFor texts projector.selectedModel

/-- The facts about a turn's model in some messages. -/
def turnFactsOf (messages : List PyValue) : Set TurnFact :=
  { fact | ∃ message ∈ messages, isTurnEvidence message = true ∧ fact ∈ turnFacts texts message }

/-- The facts about a session's model in some messages. -/
def sessionFactsOf (messages : List PyValue) : Set SessionFact :=
  { fact | ∃ message ∈ messages, message.typeName = "SystemMessage" ∧
    fact ∈ sessionFacts texts message }

end

variable {texts : TextLibrary} {projector : ClaudeSdkEventProjector} {earlier : SessionEvidence}
  {messages turnMessages : List PyValue}

theorem turnAfter_describes {turn : TurnEvidence}
    (h : turn.Describes (turnFactsOf texts messages)) (message : PyValue) :
    (turnAfter texts turn message).Describes (turnFactsOf texts (messages ++ [message])) := by
  unfold turnAfter
  by_cases hevidence : isTurnEvidence message = true
  · have hset : turnFactsOf texts messages ∪ { fact | fact ∈ turnFacts texts message } =
        turnFactsOf texts (messages ++ [message]) := by
      ext fact
      simp [turnFactsOf, or_and_right, exists_or, hevidence]
    rw [if_pos hevidence, TurnEvidence.observe_eq_foldl, ← hset]
    exact h.foldl _
  · have hset : turnFactsOf texts messages = turnFactsOf texts (messages ++ [message]) := by
      ext fact
      simp [turnFactsOf, or_and_right, exists_or, hevidence]
    rw [if_neg hevidence, ← hset]
    exact h

theorem sessionAfter_describes {session : SessionEvidence}
    (h : session.Describes earlier (sessionFactsOf texts messages)) (message : PyValue) :
    (sessionAfter texts session message).Describes earlier
      (sessionFactsOf texts (messages ++ [message])) := by
  unfold sessionAfter
  by_cases hsystem : message.typeName = "SystemMessage"
  · have hset : sessionFactsOf texts messages ∪ { fact | fact ∈ sessionFacts texts message } =
        sessionFactsOf texts (messages ++ [message]) := by
      ext fact
      simp [sessionFactsOf, or_and_right, exists_or, hsystem]
    rw [if_pos hsystem, SessionEvidence.observe_eq_foldl, ← hset]
    exact h.foldl _
  · have hset : sessionFactsOf texts messages = sessionFactsOf texts (messages ++ [message]) := by
      ext fact
      simp [sessionFactsOf, or_and_right, exists_or, hsystem]
    rw [if_neg hsystem, ← hset]
    exact h

/-- The evidence of a projector is that of the messages it was given. -/
structure Describes (texts : TextLibrary) (projector : ClaudeSdkEventProjector)
    (earlier : SessionEvidence) (messages turnMessages : List PyValue) : Prop where
  session : projector.session.Describes earlier (sessionFactsOf texts messages)
  turn : projector.turn.Describes (turnFactsOf texts turnMessages)

theorem turnFactsOf_nil : turnFactsOf texts [] = ∅ := by
  ext fact
  simp [turnFactsOf]

theorem sessionFactsOf_nil : sessionFactsOf texts [] = ∅ := by
  ext fact
  simp [sessionFactsOf]

theorem describes_start (hturn : projector.turn = {}) :
    Describes texts projector projector.session [] [] := by
  constructor
  · rw [sessionFactsOf_nil]
    exact SessionEvidence.describes_empty
  · rw [turnFactsOf_nil, hturn]
    exact TurnEvidence.describes_empty

theorem Describes.project (h : Describes texts projector earlier messages turnMessages)
    (message : PyValue) :
    Describes texts (projector.observe texts message) earlier (messages ++ [message])
      (turnMessages ++ [message]) := by
  constructor
  · exact sessionAfter_describes h.session message
  · exact turnAfter_describes h.turn message

theorem Describes.beginTurn (h : Describes texts projector earlier messages turnMessages)
    (correlationId : PyValue) :
    Describes texts (projector.beginTurn correlationId) earlier messages [] := by
  constructor
  · exact h.session
  · rw [turnFactsOf_nil]
    exact TurnEvidence.describes_empty

theorem Describes.observes (h : Describes texts projector earlier messages turnMessages)
    (more : List PyValue) :
    Describes texts (more.foldl (observe texts) projector) earlier (messages ++ more)
      (turnMessages ++ more) := by
  induction more generalizing projector messages turnMessages with
  | nil => simpa using h
  | cons message more ih => simpa using ih (h.project message)

theorem Describes.performs (h : Describes texts projector earlier messages turnMessages)
    (calls : List ProjectorCall) :
    Describes texts (calls.foldl (perform texts) projector) earlier
      (messages ++ ProjectorCall.messages calls)
      (calls.foldl ProjectorCall.turnMessagesAfter turnMessages) := by
  induction calls generalizing projector messages turnMessages with
  | nil => simpa [ProjectorCall.messages] using h
  | cons call calls ih =>
    cases call with
    | beginTurn correlationId => exact ih (h.beginTurn correlationId)
    | project message =>
      have hrest := ih (h.project message)
      rw [List.append_assoc] at hrest
      exact hrest

theorem observes_selectedModel (projector : ClaudeSdkEventProjector) (messages : List PyValue) :
    (messages.foldl (observe texts) projector).selectedModel = projector.selectedModel := by
  induction messages generalizing projector with
  | nil => rfl
  | cons message messages ih => rw [List.foldl_cons, ih]; rfl

/-- Messages that arrive in another order within one turn have the same provenance. -/
theorem provenance_perm (projector : ClaudeSdkEventProjector) (correlationId : PyValue)
    {messages messages' : List PyValue} (h : messages.Perm messages') :
    (messages.foldl (observe texts) (projector.beginTurn correlationId)).provenance texts =
      (messages'.foldl (observe texts) (projector.beginTurn correlationId)).provenance texts := by
  have hstart : Describes texts (projector.beginTurn correlationId) projector.session [] [] :=
    describes_start rfl
  have hmessages := hstart.observes messages
  have hmessages' := hstart.observes messages'
  have hturn : turnFactsOf texts messages' = turnFactsOf texts messages := by
    ext fact
    simp only [turnFactsOf, Set.mem_ofPred_eq, h.mem_iff]
  have hsession : sessionFactsOf texts messages' = sessionFactsOf texts messages := by
    ext fact
    simp only [sessionFactsOf, Set.mem_ofPred_eq, h.mem_iff]
  simp only [List.nil_append] at hmessages hmessages'
  rw [provenance, provenance, observes_selectedModel, observes_selectedModel]
  apply modelProvenance_congr _ hmessages.session _ hmessages.turn
  · rw [← hturn]
    exact hmessages'.turn
  · rw [← hsession]
    exact hmessages'.session

/-- An answer that comes before or after the usage it is billed for. -/
theorem provenance_perm_swapped :
    let answer := PyValue.object "AssistantMessage" [("model", .str (lit "opus"))]
    let result := PyValue.object "ResultMessage"
      [("model_usage", .dict [(.str (lit "opus"), .dict [])])]
    [answer, result].Perm [result, answer] ∧
      ([answer, result].foldl (observe ⟨id, fun _ => none⟩)
          (beginTurn {} .none)).provenance ⟨id, fun _ => none⟩ =
        ([result, answer].foldl (observe ⟨id, fun _ => none⟩)
          (beginTurn {} .none)).provenance ⟨id, fun _ => none⟩ :=
  ⟨List.Perm.swap _ _ _, provenance_perm {} .none (List.Perm.swap _ _ _)⟩

/-- What is reported about the model does not depend on the request, is nothing where the
evidence is malformed or disagrees, and is otherwise what the evidence supports. -/
theorem provenance_sound (texts : TextLibrary) (model : PyStr) (correlationId : PyValue)
    (calls : List ProjectorCall) :
    let projector := calls.foldl (perform texts) (create texts model correlationId)
    let announced := sessionFactsOf texts (ProjectorCall.messages calls)
    let observed := turnFactsOf texts (ProjectorCall.turnMessages calls)
    (∀ selected selected', (projector.provenanceFor texts selected).effective =
        (projector.provenanceFor texts selected').effective ∧
      (projector.provenanceFor texts selected).canonical =
        (projector.provenanceFor texts selected').canonical) ∧
    (Tainted {} announced observed →
      ∀ selected, projector.provenanceFor texts selected = .ambiguous) ∧
    ∀ selected effective, (projector.provenanceFor texts selected).effective = some effective →
      Supports texts {} announced observed effective
        (projector.provenanceFor texts selected).canonical := by
  intro projector announced observed
  have hstart : Describes texts (create texts model correlationId) {} [] [] := describes_start rfl
  have hdescribes := hstart.performs calls
  rw [List.nil_append] at hdescribes
  refine ⟨?_, ?_, ?_⟩
  · intro selected selected'
    have hmodels : ((projector.provenanceFor texts selected).effective,
        (projector.provenanceFor texts selected).canonical) = _ :=
      (modelProvenance_models selected projector.session projector.turn).trans
        (modelProvenance_models selected' projector.session projector.turn).symm
    exact ⟨congrArg Prod.fst hmodels, congrArg Prod.snd hmodels⟩
  · intro htainted selected
    exact modelProvenance_ambiguous selected hdescribes.session hdescribes.turn htainted
  · intro selected effective heffective
    exact supports_of_effective selected hdescribes.session hdescribes.turn heffective

/-- A model that an answer and the usage of a result agree on is reported, and supported. -/
theorem provenance_sound_reported :
    let texts : TextLibrary := ⟨id, fun _ => none⟩
    let calls : List ProjectorCall :=
      [.project (.object "AssistantMessage" [("model", .str (lit "opus"))]),
        .project (.object "ResultMessage" [("model_usage", .dict [(.str (lit "opus"), .dict [])])])]
    Supports texts {} (sessionFactsOf texts (ProjectorCall.messages calls))
      (turnFactsOf texts (ProjectorCall.turnMessages calls)) (lit "opus") none :=
  (provenance_sound ⟨id, fun _ => none⟩ [] .none _).2.2 none (lit "opus") rfl

end ClaudeSdkEventProjector

end HermesClaude.Runtime
