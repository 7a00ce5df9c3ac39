/-
# One turn in focus

A step of a runtime whose turns overlap is about one turn, or about none, or it begins
one.  The turn it is about goes on to be another, which is still in progress or over;
every other turn is as it was, and so is what the turns share, but for the execution
counter of the bridge.
-/

import HermesClaude.Runtime.Frame
import HermesClaude.Runtime.Moves
import HermesClaude.Runtime.Overlap

namespace HermesClaude.Runtime

open HermesClaude.Python HermesClaude.Bridge HermesClaude.Content HermesClaude.Session
  HermesClaude.Library

variable {db : UnicodeDatabase}

/-! ## The turn in focus -/

/-- How a step changes the turn it is about. -/
inductive TurnStep : Label db → Turn db → Turn db → Prop
  | moved {signal : Signal} {poll : Option Poll} {t t' : Turn db}
      (moves : Relation.ReflTransGen Move t t') : TurnStep (.generator signal poll) t t'
  | produced {projection : ProjectionResult} {t : Turn db} (task : t.task = some .running) :
      TurnStep (.produce projection) t { t with
        queue := t.queue ++ [projection]
        produced := t.produced ++ projection.events }
  | ended {ending : Ending} {t : Turn db} :
      TurnStep (.taskEnds ending) t { t with task := some (.ended ending) }
  | executed {turn : Nat} {t : Turn db} :
      TurnStep (.tool turn) t { t with executions := t.executions + 1 }

/-- A move leaves alone what is fixed about a turn when its task is created, and the
task. -/
theorem Move.fixed {t t' : Turn db} (h : Move t t') :
    t'.binding = t.binding ∧ t'.task = t.task ∧ t'.bridge = t.bridge := by
  cases h with
  | flags same pc =>
    refine ⟨?_, same.task, same.bridge⟩
    rw [Turn.binding, same.number, same.request, same.boundTo]
    rfl
  | take | keep | pass | receive | drain | cancelPump | cancelNative | awaitNative
    | cancelHandler | errorHandler | fail | state | complete => exact ⟨rfl, rfl, rfl⟩

theorem fixed_of_moves {t t' : Turn db} (h : Relation.ReflTransGen Move t t') :
    t'.binding = t.binding ∧ t'.task = t.task ∧ t'.bridge = t.bridge := by
  induction h with
  | refl => exact ⟨rfl, rfl, rfl⟩
  | tail _ hlast ih =>
    obtain ⟨hbinding, htask, hbridge⟩ := hlast.fixed
    exact ⟨hbinding.trans ih.1, htask.trans ih.2.1, hbridge.trans ih.2.2⟩

theorem TurnStep.binding {label : Label db} {t t' : Turn db} (h : TurnStep label t t') :
    t'.binding = t.binding := by
  cases h with
  | moved moves => exact (fixed_of_moves moves).1
  | produced | ended | executed => rfl

/-- The task of a turn that has gone on is over if it was, or if the step said so. -/
theorem TurnStep.task {label : Label db} {t t' : Turn db} (h : TurnStep label t t') :
    t'.task = t.task ∨ ∃ ending, label = .taskEnds ending := by
  cases h with
  | moved moves => exact .inl (fixed_of_moves moves).2.1
  | produced | executed => exact .inl rfl
  | @ended ending => exact .inr ⟨ending, rfl⟩

/-- The labels that are about the turn in focus. -/
def Label.isFocused : Label db → Bool
  | .generator _ _ | .produce _ | .taskEnds _ | .tool _ => true
  | _ => false

theorem Label.beginsTurn_of_isFocused {label : Label db} (h : label.isFocused = true) :
    label.beginsTurn = false := by
  cases label with
  | generator | produce | taskEnds | tool => rfl
  | preflight | start | sessionCloses | orphanEnds | close => cases h

/-- Where a step leaves the turn it is about, and how the turn is recorded: one that raised
may be recorded with an earlier place. -/
inductive Goes (r s : ClaudeAgentSDKRuntime db) (t v : Turn db) : Prop
  | suspended (recorded : v = t) (turn : s.turn = some v) (finished : s.finished = r.finished)
  | ends (f : FinishedTurn db) (p : GeneratorPc) (recorded : v = { t with pc := p })
      (of : f.turn = v) (turn : s.turn = none) (finished : s.finished = r.finished ++ [f])

theorem Goes.of_finished {q r s : ClaudeAgentSDKRuntime db} {t v : Turn db}
    (hfinished : r.finished = q.finished) (h : Goes r s t v) : Goes q s t v := by
  cases h with
  | suspended recorded turn finished => exact .suspended recorded turn (finished.trans hfinished)
  | ends f p recorded of turn finished => exact .ends f p recorded of turn (hfinished ▸ finished)

/-- The turn that a generator leaves. -/
theorem goes_of_leaves {r s : ClaudeAgentSDKRuntime db} {t : Turn db} (h : Leaves r s t) :
    ∃ v, Goes r s t v := by
  cases h with
  | suspended turn finished => exact ⟨t, .suspended rfl turn finished⟩
  | returned place turn finished => exact ⟨t, .ends _ t.pc rfl rfl turn finished⟩
  | raised p turn finished => exact ⟨_, .ends _ p rfl rfl turn finished⟩

/-- A step about the turn in focus. -/
theorem goes_of_next {context : RuntimeContext db} {r s : ClaudeAgentSDKRuntime db} {t : Turn db}
    {label : Label db} (hturn : r.turn = some t) (hlabel : label.isFocused = true)
    (hnext : ClaudeAgentSDKRuntime.next context r label = some s) :
    ∃ t' v, TurnStep label t t' ∧ Goes r s t' v := by
  cases label with
  | preflight | start | sessionCloses | orphanEnds | close => cases hlabel
  | generator signal poll =>
    simp only [ClaudeAgentSDKRuntime.next, hturn, Option.bind_some] at hnext
    obtain ⟨t', hmoves, hleaves⟩ := ClaudeAgentSDKRuntime.resume_reaches hnext
    obtain ⟨v, hgoes⟩ := goes_of_leaves hleaves
    exact ⟨t', v, .moved hmoves, hgoes⟩
  | produce projection =>
    simp only [ClaudeAgentSDKRuntime.next, hturn] at hnext
    split at hnext
    next htask =>
      cases hnext
      exact ⟨_, _, .produced htask, .suspended rfl rfl rfl⟩
    next => cases hnext
  | taskEnds ending =>
    simp only [ClaudeAgentSDKRuntime.next, hturn] at hnext
    split at hnext
    next htask =>
      cases hnext
      obtain ⟨-, hhistory, -, -⟩ := ClaudeAgentSDKRuntime.report_same r t.boundTo ending
      exact ⟨_, _, .ended, .suspended rfl rfl hhistory.finished⟩
    next => cases hnext
  | tool turn =>
    obtain ⟨-, hexecutes⟩ := Option.ite_none_right_eq_some.mp hnext
    obtain ⟨bridge, -, rfl⟩ := Option.map_eq_some_iff.mp hexecutes
    refine ⟨_, _, .executed, .suspended rfl ?_ rfl⟩
    simp [ClaudeAgentSDKRuntime.execute, hturn]

/-! ## What the turns share -/

/-- What the turns share is the same, but for counters and flags. -/
structure SameShared (r s : ClaudeAgentSDKRuntime db) : Prop where
  turns : s.turns = r.turns
  contract : s.contract = r.contract
  session : s.session.map RuntimeSession.origin = r.session.map RuntimeSession.origin
  correlation : s.bridge.map (·.correlationId) = r.bridge.map (·.correlationId)

theorem SameShared.refl (r : ClaudeAgentSDKRuntime db) : SameShared r r := ⟨rfl, rfl, rfl, rfl⟩

theorem SameShared.trans {q r s : ClaudeAgentSDKRuntime db} (h : SameShared q r)
    (h' : SameShared r s) : SameShared q s :=
  ⟨h'.turns.trans h.turns, h'.contract.trans h.contract, h'.session.trans h.session,
    h'.correlation.trans h.correlation⟩

theorem SameShared.session_isSome {r s : ClaudeAgentSDKRuntime db} (h : SameShared r s) :
    s.session.isSome = r.session.isSome := by
  rw [← Option.isSome_map (f := RuntimeSession.origin), h.session, Option.isSome_map]

theorem SameShared.bridge_isSome {r s : ClaudeAgentSDKRuntime db} (h : SameShared r s) :
    s.bridge.isSome = r.bridge.isSome := by
  rw [← Option.isSome_map (f := HostToolBridge.correlationId), h.correlation, Option.isSome_map]

/-- Only a tool touches the bridge, and only its counter. -/
theorem bridge_of_next {context : RuntimeContext db} {r s : ClaudeAgentSDKRuntime db}
    {label : Label db} (hlabel : label.beginsTurn = false) (htool : ∀ turn, label ≠ .tool turn)
    (hnext : ClaudeAgentSDKRuntime.next context r label = some s) : s.bridge = r.bridge := by
  cases label with
  | start => cases hlabel
  | tool turn => exact absurd rfl (htool turn)
  | preflight request answers =>
    cases hnext
    rfl
  | generator signal poll =>
    obtain ⟨t, -, hresume⟩ := Option.bind_eq_some_iff.mp hnext
    exact (ClaudeAgentSDKRuntime.resume_untouched hresume).bridge
  | produce projection =>
    simp only [ClaudeAgentSDKRuntime.next] at hnext
    split at hnext
    · split at hnext
      · cases hnext
        rfl
      · cases hnext
    · cases hnext
  | taskEnds ending =>
    simp only [ClaudeAgentSDKRuntime.next] at hnext
    split at hnext
    next t _ =>
      split at hnext
      · cases hnext
        exact (ClaudeAgentSDKRuntime.report_untouched (r := r) t.boundTo ending).bridge
      · cases hnext
    next => cases hnext
  | sessionCloses =>
    obtain ⟨-, ⟨⟩⟩ := Option.ite_none_right_eq_some.mp hnext
    rfl
  | orphanEnds turn ending =>
    obtain ⟨-, ⟨⟩⟩ := Option.ite_none_right_eq_some.mp hnext
    exact (ClaudeAgentSDKRuntime.report_untouched (r := r) (r.ranOn turn) ending).bridge
  | close =>
    simp only [ClaudeAgentSDKRuntime.next] at hnext
    split_ifs at hnext
    · cases hnext
      rfl
    · cases hnext
      rfl

theorem sameShared_of_next {context : RuntimeContext db} {r s : ClaudeAgentSDKRuntime db}
    {label : Label db} (hlabel : label.beginsTurn = false)
    (hnext : ClaudeAgentSDKRuntime.next context r label = some s) : SameShared r s := by
  have hsame := ClaudeAgentSDKRuntime.sameBindings_of_next hlabel hnext
  refine ⟨hsame.turns, hsame.contract, hsame.session, ?_⟩
  by_cases htool : ∃ turn, label = .tool turn
  · obtain ⟨turn, rfl⟩ := htool
    obtain ⟨-, hexecutes⟩ := Option.ite_none_right_eq_some.mp hnext
    obtain ⟨bridge, hbridge, rfl⟩ := Option.map_eq_some_iff.mp hexecutes
    rw [hbridge]
    rfl
  · rw [bridge_of_next hlabel (fun turn h => htool ⟨turn, h⟩) hnext]

namespace SharedRuntime

variable {context : SharedContext db} {c d : SharedRuntime db} {t t' : Turn db}

/-! ## Turns and their numbers -/

/-- One turn has gone on and is recorded as another; the others are as they were. -/
inductive Becomes (c d : SharedRuntime db) (t t' v : Turn db) : Prop
  | suspended (recorded : v = t') (finished : d.runtime.finished = c.runtime.finished)
      (inProgress : ∀ u, u ∈ d.inProgress ↔ u ∈ c.inProgress ∧ u.number ≠ t.number ∨ u = v)
  | ends (f : FinishedTurn db) (p : GeneratorPc) (recorded : v = { t' with pc := p })
      (of : f.turn = v) (finished : d.runtime.finished = c.runtime.finished ++ [f])
      (inProgress : ∀ u, u ∈ d.inProgress ↔ u ∈ c.inProgress ∧ u.number ≠ t.number)

/-- The turns in progress when one of them is put back. -/
theorem mem_store {turn : Nat} (ht : t ∈ c.inProgress) (hnumber : t.number = turn)
    (r : ClaudeAgentSDKRuntime db) (u : Turn db) :
    u ∈ (c.store turn r).inProgress ↔ u ∈ c.inProgress ∧ u.number ≠ turn ∨ r.turn = some u := by
  simp only [store, List.mem_flatMap]
  constructor
  · rintro ⟨w, hw, hu⟩
    split_ifs at hu with hsame
    · exact .inr (Option.mem_toList.mp hu)
    · rw [List.mem_singleton] at hu
      subst hu
      exact .inl ⟨hw, hsame⟩
  · rintro (⟨hu, hother⟩ | hu)
    · exact ⟨u, hu, by simp [hother]⟩
    · exact ⟨t, ht, by simp [hnumber, hu]⟩

/-- A step about one turn. -/
theorem advance_becomes {turn : Nat} {label : Label db} (hlabel : label.isFocused = true)
    (h : c.advance context turn label = some d) :
    ∃ t t' v, t ∈ c.inProgress ∧ t.number = turn ∧ TurnStep label t t' ∧ Becomes c d t t' v := by
  obtain ⟨t, r, hfocus, hnext, rfl⟩ := advance_eq_some h
  have hmem : t ∈ c.inProgress := List.mem_of_find?_eq_some hfocus
  have hnumber : t.number = turn := by simpa using List.find?_some hfocus
  obtain ⟨t', v, hstep, hgoes⟩ := goes_of_next rfl hlabel hnext
  refine ⟨t, t', v, hmem, hnumber, hstep, ?_⟩
  cases hgoes with
  | suspended hrecorded hturn hfinished =>
    refine .suspended hrecorded hfinished fun u => ?_
    rw [mem_store hmem hnumber, hturn, Option.some.injEq, eq_comm (a := v), hnumber]
  | ends f p hrecorded hof hturn hfinished =>
    refine .ends f p hrecorded hof hfinished fun u => ?_
    rw [mem_store hmem hnumber, hturn, hnumber]
    simp

theorem mem_turns {u : Turn db} :
    u ∈ c.turns ↔ (∃ f ∈ c.runtime.finished, f.turn = u) ∨ u ∈ c.inProgress := by
  simp [turns]

end SharedRuntime

end HermesClaude.Runtime
