/-
# State that is carried from turn to turn

A turn that completes hands its host the name of its conversation, in a state envelope,
and the host may give the envelope back with a later request.  The name passes four
places that look at it: the session that takes it from a result, `_resume_id` that takes
it from an envelope, `create` that configures a session with it, and `replace` that
configures another one without looking.  All four mean the same ids.

The task of a turn is a call of `SDKSession.run_turn`, so it ends as some call of it does.
The runtime model does not say so by itself; here its runs are those whose tasks do.
-/

import HermesClaude.Runtime.Conversation
import HermesClaude.Runtime.Numbering
import HermesClaude.Session.Configuration
import HermesClaude.Session.Naming
import HermesClaude.Session.Runs

namespace HermesClaude.Runtime

open HermesClaude.Python HermesClaude.Bridge HermesClaude.Content HermesClaude.Session
  HermesClaude.Billing HermesClaude.Library

variable {db : UnicodeDatabase} {id : PyStr}

/-! ## Envelopes -/

/-- The envelope that a turn yields. -/
def stateEnvelope (id : PyStr) : SessionEnvelope where
  runtimeId := .str (lit "hermes-claude-agent-sdk")
  schemaVersion := .int 1
  state := .dict [(.str (lit "external_session_id"), .str id)]

theorem isSessionId_of_reported {message : PyValue} (h : reportedSessionId message = some id) :
    IsSessionId id ∧ message.safeAttr "session_id" = .str id := by
  unfold reportedSessionId at h
  split at h
  next named hnamed =>
    obtain ⟨⟨hpositive, hlength, hcontrol⟩, ⟨⟩⟩ := Option.ite_none_right_eq_some.mp h
    refine ⟨⟨List.length_pos_iff.mp hpositive, hlength, ?_⟩, hnamed⟩
    intro c hc
    simpa using List.all_eq_true.mp hcontrol c hc
  next => cases h

/-- An envelope with an id that names a conversation is accepted, and names it. -/
theorem resumeId_stateEnvelope (h : IsSessionId id) {request : RuntimeTurnRequest db}
    (hstate : request.sessionState = some (stateEnvelope id)) :
    resumeId request = (some id, true) := by
  obtain ⟨hne, hlength, hcontrol⟩ := h
  have hempty : id.isEmpty = false := by simpa using hne
  have hlong : ¬ id.length > 512 := by omega
  have hany : id.any CodePoint.isAsciiControl = false := by
    rw [List.any_eq_false]
    intro c hc
    simp [hcontrol c hc]
  have hkey : PyValue.isText (.str (lit "external_session_id")) (lit "external_session_id") = true := by
    decide
  have hruntime : PyValue.isText (.str (lit "hermes-claude-agent-sdk"))
      (lit "hermes-claude-agent-sdk") = true := by decide
  simp [resumeId, hstate, stateEnvelope, hruntime, PyValue.mapping?, getItem, PyValue.lookupKey, hkey,
    hempty, hlong, hany]

/-- An id that is taken from an envelope names a conversation. -/
theorem isSessionId_of_resumeId {request : RuntimeTurnRequest db}
    (h : (resumeId request).1 = some id) : IsSessionId id := by
  unfold resumeId at h
  split at h
  next => cases h
  next envelope _ =>
    dsimp only at h
    split_ifs at h
    split at h
    next => cases h
    next items _ =>
      split_ifs at h
      split at h
      next => cases h
      next named _ =>
        split_ifs at h with hbad
        cases h
        rw [Bool.not_eq_true, Bool.or_eq_false_iff, Bool.or_eq_false_iff] at hbad
        obtain ⟨⟨hempty, hlong⟩, hcontrol⟩ := hbad
        refine ⟨by simpa using hempty, by simpa using hlong, ?_⟩
        intro c hc
        simpa using List.any_eq_false.mp hcontrol c hc
      next => cases h

/-- Every way in which a session gets a conversation to resume hands its name over
unchanged: `create` succeeds with it where it succeeds without, and the options carry it,
then and after a replacement. -/
structure HandsOver (id : PyStr) : Prop where
  accepted : ∀ a : SDKSessionConfiguration.CreateArguments,
    SDKSessionConfiguration.create { a with resumeExternalSessionId := .str id } =
      (·.replace (some id)) <$>
        SDKSessionConfiguration.create { a with resumeExternalSessionId := .none }
  created : ∀ (a : SDKSessionConfiguration.CreateArguments) configuration,
    SDKSessionConfiguration.create { a with resumeExternalSessionId := .str id } =
      .ok configuration →
    configuration.optionFields.lookup "resume" = some (.str id)
  replaced : ∀ configuration : SDKSessionConfiguration,
    (configuration.replace (some id)).optionFields.lookup "resume" = some (.str id)

theorem HandsOver.of_isSessionId (h : IsSessionId id) : HandsOver id where
  accepted := SDKSessionConfiguration.create_resuming h
  created := by
    intro a configuration hcreated
    rw [SDKSessionConfiguration.create_resuming h] at hcreated
    cases hplain : SDKSessionConfiguration.create { a with resumeExternalSessionId := .none } with
    | error e =>
      rw [hplain] at hcreated
      cases hcreated
    | ok plain =>
      rw [hplain] at hcreated
      cases hcreated
      exact SDKSessionConfiguration.lookup_resume _
  replaced := fun configuration => SDKSessionConfiguration.lookup_resume _

/-! ## Envelopes that turns yield -/

/-- A way in which a call of `SDKSession.run_turn` ends. -/
def EndsAsSession (ending : Ending) : Prop :=
  ∃ C s, (sessionSystem C).Reachable s ∧ ∃ f ∈ s.finished, f.ending = ending

/-- The id is the one that the only result of a session's turn reports. -/
def ReportedByResult (id : PyStr) : Prop :=
  ∃ C s, (sessionSystem C).Reachable s ∧ ∃ f ∈ s.finished, ∃ position message,
    (messages f.inbox.taken).filter (fun entry => isResult entry.2) = [(position, message)] ∧
      reportedSessionId message = some id

theorem reportedByResult_of_ends {result : SessionTurnResult} (h : EndsAsSession (.returned result))
    (hcomplete : result.outcome = .complete) (hid : result.externalSessionId = some id) :
    ReportedByResult id := by
  obtain ⟨C, s, hs, f, hf, hending⟩ := h
  obtain ⟨position, message, honly, hreports⟩ := completed_reports_result hs hf hending hcomplete
  exact ⟨C, s, hs, f, hf, position, message, honly, hreports.symm.trans hid⟩

/-- What a turn has yielded as its state was reported by a result, and what its task has
returned a session has. -/
structure Vouched (t : Turn db) : Prop where
  task : ∀ ending, t.task = some (.ended ending) → EndsAsSession ending
  states : ∀ y ∈ t.yielded, ∀ id, y.event = .state id → ReportedByResult id

namespace Vouched

variable {t t' : Turn db}

theorem emit (h : Vouched t) {event : TurnEvent}
    (hevent : ∀ id, event = .state id → ReportedByResult id) (inSetup : Bool) :
    ∀ y ∈ (t.emit event inSetup).yielded, ∀ id, y.event = .state id → ReportedByResult id := by
  intro y hy id hid
  rcases List.mem_append.mp hy with hold | hnew
  · exact h.states y hold id hid
  · rw [List.mem_singleton.mp hnew] at hid
    exact hevent id hid

theorem move (hmove : Move t t') (h : Vouched t) : Vouched t' := by
  cases hmove with
  | flags hsame hpc =>
    constructor
    · rw [hsame.task]
      exact h.task
    · rw [hsame.yielded]
      exact h.states
  | take | keep | receive | drain | cancelPump | cancelNative | awaitNative | cancelHandler
  | errorHandler => exact ⟨h.task, h.states⟩
  | pass | complete => exact ⟨h.task, h.emit (by rintro id ⟨⟩) true⟩
  | fail inSetup terminal hfailing hends =>
    refine ⟨h.task, h.emit (fun id hid => ?_) inSetup⟩
    subst hid
    cases hends
  | state hpc htask hcomplete hreported =>
    refine ⟨h.task, h.emit (fun id hid => ?_) true⟩
    cases hid
    exact reportedByResult_of_ends (h.task _ htask) hcomplete hreported

theorem place (h : Vouched t) (p : GeneratorPc) : Vouched { t with pc := p } := ⟨h.task, h.states⟩

end Vouched

namespace SharedRuntime

open ClaudeAgentSDKRuntime (plainRequest userMessage plainHost plainAnswers)

variable {context : SharedContext db} {c d : SharedRuntime db}

/-- The step is one of a runtime whose tasks run sessions. -/
def RunsSessions (_ : SharedRuntime db) : SharedLabel db → Prop
  | .taskEnds _ ending => EndsAsSession ending
  | _ => True

/-- What every turn yields and returns is vouched for. -/
def AllVouched (c : SharedRuntime db) : Prop := ∀ t ∈ c.turns, Vouched t

theorem AllVouched.next (h : AllVouched c) (hnumbered : Numbered c) {label : SharedLabel db}
    (hlabel : beginsTurn label = false) (hruns : RunsSessions c label)
    (hnext : c.next context label = some d) : AllVouched d := by
  intro u hu
  obtain ⟨hadvances, -⟩ := advances_of_next hlabel hnext
  cases hadvances with
  | rests hin hfinished =>
    rw [turns, hin, hfinished] at hu
    exact h u hu
  | goes hmem hstep hbecomes hretired =>
    rcases (hbecomes.mem_turns hnumbered hmem).mp hu with ⟨hold, -⟩ | rfl
    · exact h u hold
    · have hbefore := h _ (List.mem_append_right _ hmem)
      obtain ⟨p, rfl⟩ := hbecomes.recorded
      apply Vouched.place
      cases hstep with
      | moved hmoves => exact keeps_of_moves Vouched.move hmoves hbefore
      | produced | executed => exact ⟨hbefore.task, hbefore.states⟩
      | @ended ending =>
        refine ⟨?_, hbefore.states⟩
        intro other hother
        cases hother
        obtain ⟨rfl, -⟩ := hretired ending rfl
        exact hruns

theorem AllVouched.begin (h : AllVouched c) (hnumbered : Numbered c) (context : SharedContext db)
    (request : RuntimeTurnRequest db) (host : RuntimeHost) (answers : StartAnswers) :
    AllVouched (c.begin context request host answers) := by
  intro w hw
  obtain ⟨v, hlaunch, hjoins⟩ := begin_joins hnumbered context request host answers
  rcases (hjoins.turns w).mp hw with hold | rfl
  · exact h w hold
  · obtain ⟨u, t, hblank, hmoves, hgoes⟩ := hlaunch.goes
    have htask : ∀ ending, w.task ≠ some (.ended ending) := by
      intro ending hending
      cases hbound : w.boundTo with
      | none =>
        rw [(hlaunch.unbound hbound).1] at hending
        cases hending
      | some session =>
        rw [(hlaunch.bound session hbound).2.1] at hending
        cases hending
    have hstates : ∀ y ∈ w.yielded, ∀ id, y.event = .state id → ReportedByResult id := by
      -- The task is what it is from the beginning, so nothing was ever returned.
      have hsame : t.task = w.task ∧ t.yielded = w.yielded := by
        cases hgoes with
        | suspended recorded | ends f p recorded =>
          subst recorded
          exact ⟨rfl, rfl⟩
      have hblanked : Vouched u := by
        constructor
        · intro ending hending
          rw [← (fixed_of_moves hmoves).2.1, hsame.1] at hending
          exact absurd hending (htask ending)
        · rw [hblank.yielded]
          intro y hy
          cases hy
      rw [← hsame.2]
      exact (keeps_of_moves Vouched.move hmoves hblanked).states
    exact ⟨fun ending hending => absurd hending (htask ending), hstates⟩

theorem allVouched_of_reachable (hc : (sharedSystem context).ReachableUnder RunsSessions c) :
    Numbered c ∧ AllVouched c := by
  apply System.ReachableUnder.invariant (S := sharedSystem context) _ _ hc
  · refine ⟨numbered_init, ?_⟩
    intro t ht
    cases ht
  · intro u v label hu hinv hguard hnext
    obtain ⟨hnumbered, hvouched⟩ := hinv
    by_cases hbegins : beginsTurn label = false
    · exact ⟨hnumbered.next hbegins hnext, hvouched.next hnumbered hbegins hguard hnext⟩
    · cases label with
      | start request host answers =>
        cases hnext
        exact ⟨hnumbered.begin context request host answers,
          hvouched.begin hnumbered context request host answers⟩
      | preflight | generator | acquires | message | compaction | taskEnds | tool | sessionCloses
      | close => exact absurd rfl hbegins

/-- A result that names its conversation. -/
def namingResult : PyValue := .object "ResultMessage" [("session_id", .str (lit "s1"))]

/-- How a turn ends that takes a subscription's messages and then that result. -/
def namedEnding : Ending :=
  .returned {
    outcome := .complete
    externalSessionId := some (lit "s1")
    billingDecision := some (classifySdkBilling asciiDatabase
      (mergedEvidence (updatesOf plainContext
        (Session.messages (itemsFrom 0 (subscriptionMessages ++ [namingResult])))))) }

theorem namedEnding_endsAsSession : EndsAsSession namedEnding := by
  obtain ⟨s, hs, f, hf, hending⟩ := System.exists_reachable_of_run (S := sessionSystem plainContext)
    (P := fun s => ∃ f ∈ s.finished, f.ending = namedEnding)
    (schedule subscriptionMessages namingResult ++
      [.turn .completed, .turn .completed, .turn .completed])
    ⟨_, rfl, _, List.mem_singleton_self _, rfl⟩
  exact ⟨plainContext, s, hs, f, hf, hending⟩

end SharedRuntime

end HermesClaude.Runtime
