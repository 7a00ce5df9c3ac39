/-
# Turns and their numbers

Turns are told apart by their numbers, which are given out once.  A step other than the
beginning of a turn leaves what is fixed about the turns alone: which turns there are,
what each was asked for, and the session each is bound to.
-/

import HermesClaude.Runtime.Launch

namespace HermesClaude.Runtime

open HermesClaude.Python HermesClaude.Bridge HermesClaude.Content HermesClaude.Session
  HermesClaude.Library

variable {db : UnicodeDatabase}

namespace SharedRuntime

variable {context : SharedContext db} {c d : SharedRuntime db} {t t' u v : Turn db}

/-- Turn numbers are given out once; messages, tasks and tool requests belong to turns
that have begun, and no session is newer than the last turn. -/
structure Numbered (c : SharedRuntime db) : Prop where
  below : ∀ t ∈ c.turns, t.number < c.runtime.turns
  unique : ∀ t ∈ c.turns, ∀ u ∈ c.turns, t.number = u.number → t = u
  apart : ∀ f ∈ c.runtime.finished, ∀ t ∈ c.inProgress, f.turn.number ≠ t.number
  tasks : ∀ turn ∈ c.tasks, turn < c.runtime.turns
  running : ∀ t ∈ c.turns, t.task ≠ some .running → t.number ∉ c.tasks
  messages : ∀ x ∈ c.messages, x.1 < c.runtime.turns
  requests : ∀ x ∈ c.requests, x.1 < c.runtime.turns
  sessions : ∀ t ∈ c.turns, ∀ session ∈ t.boundTo, session.number ≤ c.runtime.turns ∧
    c.runtime.session.isSome = true
  current : ∀ session ∈ c.runtime.session, session.number ≤ c.runtime.turns
  bridged : c.runtime.session.isSome = true → c.runtime.bridge.isSome = true

/-- Before any turn has begun. -/
theorem numbered_init : Numbered ({} : SharedRuntime db) := by
  have hnone : ∀ t : Turn db, t ∉ ({} : SharedRuntime db).turns := fun t ht => (by cases ht)
  exact {
    below := fun t ht => absurd ht (hnone t)
    unique := fun t ht => absurd ht (hnone t)
    apart := fun f hf => (by cases hf)
    tasks := fun turn hturn => (by cases hturn)
    running := fun t ht => absurd ht (hnone t)
    messages := fun x hx => (by cases hx)
    requests := fun x hx => (by cases hx)
    sessions := fun t ht => absurd ht (hnone t)
    current := fun session hsession => (by cases hsession)
    bridged := fun hlive => (by cases hlive) }

/-! ## Steps that begin no turn -/

/-- What a step that begins no turn does to the turns: nothing, or one of them goes on. -/
inductive Proceeds (c d : SharedRuntime db) : Prop
  | rests (inProgress : d.inProgress = c.inProgress)
      (finished : d.runtime.finished = c.runtime.finished)
  | goes {label : Label db} {t t' v : Turn db} (mem : t ∈ c.inProgress)
      (step : TurnStep label t t') (becomes : Becomes c d t t' v)
      (retired : ∀ ending, label = .taskEnds ending → t.number ∉ d.tasks)

theorem Becomes.recorded (h : Becomes c d t t' v) : ∃ p, v = { t' with pc := p } := by
  cases h with
  | suspended recorded => exact ⟨t'.pc, recorded⟩
  | ends f p recorded => exact ⟨p, recorded⟩

/-- The turns after one of them has gone on. -/
theorem Becomes.mem_turns (h : Becomes c d t t' v) (hnumbered : Numbered c)
    (ht : t ∈ c.inProgress) : u ∈ d.turns ↔ u ∈ c.turns ∧ u.number ≠ t.number ∨ u = v := by
  have hapart : ∀ f ∈ c.runtime.finished, f.turn = u → u.number ≠ t.number := by
    rintro f hf rfl
    exact hnumbered.apart f hf t ht
  rw [SharedRuntime.mem_turns, SharedRuntime.mem_turns]
  cases h with
  | suspended _ hfinished hin =>
    rw [hfinished, hin]
    constructor
    · rintro (⟨f, hf, hu⟩ | ⟨hu, hother⟩ | hu)
      · exact .inl ⟨.inl ⟨f, hf, hu⟩, hapart f hf hu⟩
      · exact .inl ⟨.inr hu, hother⟩
      · exact .inr hu
    · rintro (⟨⟨f, hf, hu⟩ | hu, hother⟩ | hu)
      · exact .inl ⟨f, hf, hu⟩
      · exact .inr (.inl ⟨hu, hother⟩)
      · exact .inr (.inr hu)
  | ends f p _ hof hfinished hin =>
    rw [hfinished, hin]
    constructor
    · rintro (⟨g, hg, hu⟩ | ⟨hu, hother⟩)
      · rcases List.mem_append.mp hg with hg | hg
        · exact .inl ⟨.inl ⟨g, hg, hu⟩, hapart g hg hu⟩
        · rw [List.mem_singleton.mp hg, hof] at hu
          exact .inr hu.symm
      · exact .inl ⟨.inr hu, hother⟩
    · rintro (⟨⟨g, hg, hu⟩ | hu, hother⟩ | hu)
      · exact .inl ⟨g, List.mem_append_left _ hg, hu⟩
      · exact .inr ⟨hu, hother⟩
      · exact .inl ⟨f, List.mem_append_right _ (List.mem_singleton_self _), hof.trans hu.symm⟩

theorem Becomes.binding {label : Label db} (h : Becomes c d t t' v) (hstep : TurnStep label t t') :
    v.binding = t.binding := by
  obtain ⟨p, rfl⟩ := h.recorded
  exact hstep.binding

/-- The turns after a step are the ones before it, with the same bindings. -/
theorem Proceeds.binding (h : Proceeds c d) (hnumbered : Numbered c) (hu : u ∈ d.turns) :
    ∃ t ∈ c.turns, u.binding = t.binding := by
  cases h with
  | rests hin hfinished =>
    rw [turns, hin, hfinished] at hu
    exact ⟨u, hu, rfl⟩
  | goes hmem hstep hbecomes =>
    rcases (hbecomes.mem_turns hnumbered hmem).mp hu with ⟨hu, -⟩ | rfl
    · exact ⟨u, hu, rfl⟩
    · exact ⟨_, List.mem_append_right _ hmem, hbecomes.binding hstep⟩

/-- And the other way around. -/
theorem Proceeds.kept (h : Proceeds c d) (hnumbered : Numbered c) (ht : t ∈ c.turns) :
    ∃ u ∈ d.turns, u.binding = t.binding := by
  cases h with
  | rests hin hfinished =>
    refine ⟨t, ?_, rfl⟩
    rw [turns, hin, hfinished]
    exact ht
  | @goes label w w' v hmem hstep hbecomes =>
    by_cases hsame : t.number = w.number
    · have heq : t = w := hnumbered.unique t ht w (List.mem_append_right _ hmem) hsame
      subst heq
      exact ⟨v, (hbecomes.mem_turns hnumbered hmem).mpr (.inr rfl), hbecomes.binding hstep⟩
    · exact ⟨t, (hbecomes.mem_turns hnumbered hmem).mpr (.inl ⟨ht, hsame⟩), rfl⟩

/-- A step that begins no turn keeps the numbers. -/
theorem Proceeds.numbered (h : Proceeds c d) (hnumbered : Numbered c)
    (hshared : SameShared c.runtime d.runtime) (htasks : ∀ turn ∈ d.tasks, turn ∈ c.tasks)
    (hmessages : ∀ x ∈ d.messages, x.1 < c.runtime.turns)
    (hrequests : ∀ x ∈ d.requests, x.1 < c.runtime.turns) : Numbered d := by
  have hsession := hshared.session_isSome
  have hbridge := hshared.bridge_isSome
  have hunique : ∀ t ∈ d.turns, ∀ u ∈ d.turns, t.number = u.number → t = u := by
    cases h with
    | rests hin hfinished =>
      rw [turns, hin, hfinished]
      exact hnumbered.unique
    | @goes label w w' v hmem hstep hbecomes =>
      have hv : v.number = w.number := congrArg Binding.turn (hbecomes.binding hstep)
      intro t ht u hu heq
      rcases (hbecomes.mem_turns hnumbered hmem).mp ht with ⟨ht, htw⟩ | rfl
      · rcases (hbecomes.mem_turns hnumbered hmem).mp hu with ⟨hu, -⟩ | rfl
        · exact hnumbered.unique t ht u hu heq
        · exact absurd (heq.trans hv) htw
      · rcases (hbecomes.mem_turns hnumbered hmem).mp hu with ⟨hu, huw⟩ | rfl
        · exact absurd (heq.symm.trans hv) huw
        · rfl
  have hapart : ∀ f ∈ d.runtime.finished, ∀ t ∈ d.inProgress, f.turn.number ≠ t.number := by
    cases h with
    | rests hin hfinished =>
      rw [hin, hfinished]
      exact hnumbered.apart
    | @goes label w w' v hmem hstep hbecomes =>
      have hv : v.number = w.number := congrArg Binding.turn (hbecomes.binding hstep)
      cases hbecomes with
      | suspended hrecorded hfinished hin =>
        intro f hf t ht
        rw [hfinished] at hf
        rcases (hin t).mp ht with ⟨ht, -⟩ | rfl
        · exact hnumbered.apart f hf t ht
        · rw [hv]
          exact hnumbered.apart f hf w hmem
      | ends g p hrecorded hof hfinished hin =>
        intro f hf t ht
        obtain ⟨ht, htw⟩ := (hin t).mp ht
        rw [hfinished] at hf
        rcases List.mem_append.mp hf with hf | hf
        · exact hnumbered.apart f hf t ht
        · rw [List.mem_singleton.mp hf, hof, hv]
          exact fun heq => htw heq.symm
  have hrunning : ∀ t ∈ d.turns, t.task ≠ some .running → t.number ∉ d.tasks := by
    intro u hu hover hin
    cases h with
    | rests hsame hfinished =>
      rw [turns, hsame, hfinished] at hu
      exact hnumbered.running u hu hover (htasks _ hin)
    | @goes label w w' v hmem hstep hbecomes hretired =>
      rcases (hbecomes.mem_turns hnumbered hmem).mp hu with ⟨hu, -⟩ | rfl
      · exact hnumbered.running u hu hover (htasks _ hin)
      · have hw : w ∈ c.turns := List.mem_append_right _ hmem
        have hnumber : u.number = w.number := congrArg Binding.turn (hbecomes.binding hstep)
        obtain ⟨p, rfl⟩ := hbecomes.recorded
        rcases hstep.task with hsame | ⟨ending, hends⟩
        · have hover' : w.task ≠ some .running := hsame ▸ hover
          exact hnumbered.running w hw hover' (hnumber ▸ htasks _ hin)
        · exact hretired ending hends (hnumber ▸ hin)
  refine ⟨fun u hu => ?_, hunique, hapart, fun turn hturn => ?_, hrunning, ?_, ?_,
    fun u hu session hbound => ?_, fun session hlive => ?_, fun hlive => ?_⟩
  · obtain ⟨t, ht, hbinding⟩ := h.binding hnumbered hu
    have hnumber : u.number = t.number := congrArg Binding.turn hbinding
    rw [hshared.turns, hnumber]
    exact hnumbered.below t ht
  · rw [hshared.turns]
    exact hnumbered.tasks turn (htasks turn hturn)
  · rw [hshared.turns]
    exact hmessages
  · rw [hshared.turns]
    exact hrequests
  · obtain ⟨t, ht, hbinding⟩ := h.binding hnumbered hu
    have hsame : u.boundTo = t.boundTo := congrArg Binding.session hbinding
    rw [hshared.turns, hsession]
    exact hnumbered.sessions t ht session (hsame ▸ hbound)
  · have horigin : c.runtime.session.map RuntimeSession.origin = some session.origin := by
      rw [← hshared.session, hlive, Option.map_some]
    obtain ⟨before, hbefore, heq⟩ := Option.map_eq_some_iff.mp horigin
    have hnumber : before.number = session.number := congrArg Prod.fst heq
    rw [hshared.turns, ← hnumber]
    exact hnumbered.current before hbefore
  · rw [hbridge]
    exact hnumbered.bridged (hsession ▸ hlive)

/-- Steps of no turn that begin none. -/
def isOutside : Label db → Bool
  | .preflight _ _ | .sessionCloses | .tool _ | .orphanEnds _ _ | .close => true
  | _ => false

/-- A step of no turn leaves all turns as they were. -/
theorem outside_rests {label : Label db} (hlabel : isOutside label = true)
    (h : c.outside context label = some d) :
    d.inProgress = c.inProgress ∧ d.runtime.finished = c.runtime.finished ∧
      SameShared c.runtime d.runtime := by
  obtain ⟨r, hnext, rfl⟩ := Option.map_eq_some_iff.mp h
  have hbegins : label.beginsTurn = false := by
    cases label with
    | preflight | generator | produce | taskEnds | sessionCloses | tool | orphanEnds | close => rfl
    | start => cases hlabel
  obtain ⟨hturns, hcontract, hsession, hcorrelation⟩ := sameShared_of_next hbegins hnext
  refine ⟨rfl, ?_, hturns, hcontract, hsession, hcorrelation⟩
  show r.finished = c.idle.finished
  cases label with
  | generator | produce | taskEnds | start => cases hlabel
  | preflight request answers =>
    cases hnext
    rfl
  | sessionCloses =>
    obtain ⟨-, ⟨⟩⟩ := Option.ite_none_right_eq_some.mp hnext
    rfl
  | tool turn =>
    obtain ⟨-, hexecutes⟩ := Option.ite_none_right_eq_some.mp hnext
    obtain ⟨bridge, -, rfl⟩ := Option.map_eq_some_iff.mp hexecutes
    rfl
  | orphanEnds turn ending =>
    obtain ⟨-, ⟨⟩⟩ := Option.ite_none_right_eq_some.mp hnext
    obtain ⟨-, hhistory, -, -⟩ :=
      ClaudeAgentSDKRuntime.report_same c.idle (c.idle.ranOn turn) ending
    exact hhistory.finished
  | close =>
    simp only [ClaudeAgentSDKRuntime.next] at hnext
    split_ifs at hnext
    · cases hnext
      rfl
    · cases hnext
      rfl

/-- A step of one turn leaves what the turns share as it was. -/
theorem advance_shared {turn : Nat} {label : Label db} (hlabel : label.isFocused = true)
    (h : c.advance context turn label = some d) : SameShared c.runtime d.runtime := by
  obtain ⟨t, r, -, hnext, rfl⟩ := advance_eq_some h
  obtain ⟨hturns, hcontract, hsession, hcorrelation⟩ :=
    sameShared_of_next (Label.beginsTurn_of_isFocused hlabel) hnext
  exact ⟨hturns, hcontract, hsession, hcorrelation⟩

/-- What a step of the turns does to the books: nothing. -/
structure SameBooks (c d : SharedRuntime db) : Prop where
  tasks : d.tasks = c.tasks
  projector : d.projector = c.projector
  messages : d.messages = c.messages
  requests : d.requests = c.requests

theorem SameBooks.refl (c : SharedRuntime db) : SameBooks c c := ⟨rfl, rfl, rfl, rfl⟩

theorem advance_books {turn : Nat} {label : Label db} (h : c.advance context turn label = some d) :
    SameBooks c d := by
  obtain ⟨t, r, -, -, rfl⟩ := advance_eq_some h
  exact ⟨rfl, rfl, rfl, rfl⟩

theorem outside_books {label : Label db} (h : c.outside context label = some d) : SameBooks c d := by
  obtain ⟨r, -, rfl⟩ := Option.map_eq_some_iff.mp h
  exact ⟨rfl, rfl, rfl, rfl⟩

theorem Becomes.of_same {before : SharedRuntime db} (h : Becomes before d t t' v)
    (hin : before.inProgress = c.inProgress)
    (hfinished : before.runtime.finished = c.runtime.finished) : Becomes c d t t' v := by
  cases h with
  | suspended recorded finished inProgress =>
    exact .suspended recorded (finished.trans hfinished) (hin ▸ inProgress)
  | ends f p recorded of finished inProgress =>
    exact .ends f p recorded of (hfinished ▸ finished) (hin ▸ inProgress)

/-- The label begins a turn. -/
def beginsTurn : SharedLabel db → Bool
  | .start _ _ _ => true
  | _ => false

/-- The turn with a session is one of those that have begun. -/
theorem sessionOf_eq_some {turn session : Nat} (h : c.sessionOf turn = some session) :
    ∃ t ∈ c.turns, t.number = turn ∧ ∃ bound ∈ t.boundTo, bound.number = session := by
  obtain ⟨bound, hfound, rfl⟩ := Option.map_eq_some_iff.mp h
  obtain ⟨t, ht, hbound⟩ := Option.bind_eq_some_iff.mp hfound
  exact ⟨t, List.mem_of_find?_eq_some ht, by simpa using List.find?_some ht, bound, hbound, rfl⟩

/-- What a step that begins no turn does to the turns, seen from its label: a task ends as
the label says. -/
inductive Advances (label : SharedLabel db) (c d : SharedRuntime db) : Prop
  | rests (inProgress : d.inProgress = c.inProgress)
      (finished : d.runtime.finished = c.runtime.finished)
  | goes {inner : Label db} {t t' v : Turn db} (mem : t ∈ c.inProgress)
      (step : TurnStep inner t t') (becomes : Becomes c d t t' v)
      (retired : ∀ ending, inner = .taskEnds ending →
        label = .taskEnds t.number ending ∧ t.number ∉ d.tasks)

theorem Advances.proceeds {label : SharedLabel db} (h : Advances label c d) : Proceeds c d := by
  cases h with
  | rests hin hfinished => exact .rests hin hfinished
  | goes hmem hstep hbecomes hretired =>
    exact .goes hmem hstep hbecomes fun ending hends => (hretired ending hends).2

theorem Advances.of_advance {outer : SharedLabel db} {b : SharedRuntime db} {turn : Nat}
    {label : Label db} (hin : b.inProgress = c.inProgress)
    (hfinished : b.runtime.finished = c.runtime.finished) (hlabel : label.isFocused = true)
    (hretired : ∀ ending, label = .taskEnds ending →
      outer = .taskEnds turn ending ∧ turn ∉ b.tasks)
    (h : b.advance context turn label = some d) : Advances outer c d := by
  obtain ⟨t, t', v, hmem, hnumber, hstep, hbecomes⟩ := advance_becomes hlabel h
  refine .goes (hin ▸ hmem) hstep (hbecomes.of_same hin hfinished) fun ending hends => ?_
  rw [hnumber, (advance_books h).tasks]
  exact hretired ending hends

/-- What every step but the beginning of a turn does. -/
theorem advances_of_next {label : SharedLabel db} (hlabel : beginsTurn label = false)
    (h : c.next context label = some d) : Advances label c d ∧ SameShared c.runtime d.runtime := by
  have hfocused : ∀ {b : SharedRuntime db} {turn : Nat} {inner : Label db},
      b.inProgress = c.inProgress → b.runtime = c.runtime → inner.isFocused = true →
      (∀ ending, inner = .taskEnds ending → label = .taskEnds turn ending ∧ turn ∉ b.tasks) →
      b.advance context turn inner = some d →
      Advances label c d ∧ SameShared c.runtime d.runtime := by
    intro b turn inner hin hruntime hinner hretired hadvance
    refine ⟨.of_advance hin (congrArg (·.finished) hruntime) hinner hretired hadvance, ?_⟩
    rw [← hruntime]
    exact advance_shared hinner hadvance
  have houtside : ∀ {b : SharedRuntime db} {inner : Label db},
      b.inProgress = c.inProgress → b.runtime = c.runtime → isOutside inner = true →
      b.outside context inner = some d → Advances label c d ∧ SameShared c.runtime d.runtime := by
    intro b inner hin hruntime hinner hout
    obtain ⟨hsame, hfinished, hshared⟩ := outside_rests hinner hout
    rw [← hruntime]
    exact ⟨.rests (hsame.trans hin) (hfinished.trans (congrArg (·.finished) hruntime)), hshared⟩
  have hdelivers : ∀ {b : SharedRuntime db} {turn : Nat} {projection : ProjectionResult},
      b.inProgress = c.inProgress → b.runtime = c.runtime →
      b.deliver context turn projection = some d →
      Advances label c d ∧ SameShared c.runtime d.runtime := by
    intro b turn projection hin hruntime hdeliver
    unfold deliver at hdeliver
    split_ifs at hdeliver
    · exact hfocused hin hruntime rfl (by rintro ending ⟨⟩) hdeliver
    · cases hdeliver
      rw [← hruntime]
      exact ⟨.rests hin (congrArg (·.finished) hruntime), .refl _⟩
  cases label with
  | start => cases hlabel
  | preflight | sessionCloses | close => exact houtside rfl rfl rfl h
  | generator turn signal poll => exact hfocused rfl rfl rfl (by rintro ending ⟨⟩) h
  | acquires turn =>
    obtain ⟨session, -, hholder⟩ := Option.bind_eq_some_iff.mp h
    obtain ⟨-, ⟨⟩⟩ := Option.ite_none_right_eq_some.mp hholder
    exact ⟨.rests rfl rfl, .refl _⟩
  | message turn message =>
    obtain ⟨session, -, hholds⟩ := Option.bind_eq_some_iff.mp h
    obtain ⟨-, hobserved⟩ := Option.ite_none_right_eq_some.mp hholds
    dsimp only at hobserved
    split at hobserved
    · exact hdelivers (b := c.observe context turn session message) rfl rfl hobserved
    · cases hobserved
      exact ⟨.rests rfl rfl, .refl _⟩
  | compaction turn phase =>
    obtain ⟨-, hobserved⟩ := Option.ite_none_right_eq_some.mp h
    exact hdelivers rfl rfl hobserved
  | taskEnds turn ending =>
    obtain ⟨-, hends⟩ := Option.ite_none_right_eq_some.mp h
    split_ifs at hends
    · refine hfocused (b := { c with
        tasks := c.tasks.filter (· ≠ turn)
        holder := fun session => (c.holder session).filter (· ≠ turn) }) rfl rfl rfl
        (fun other hother => ?_) hends
      cases hother
      exact ⟨rfl, by simp⟩
    · exact houtside (b := { c with
        tasks := c.tasks.filter (· ≠ turn)
        holder := fun session => (c.holder session).filter (· ≠ turn) }) rfl rfl rfl hends
    · cases hends
      exact ⟨.rests rfl rfl, .refl _⟩
  | tool turn =>
    obtain ⟨-, hexecutes⟩ := Option.ite_none_right_eq_some.mp h
    obtain ⟨bridge, -, hruns⟩ := Option.bind_eq_some_iff.mp hexecutes
    dsimp only at hruns
    split_ifs at hruns
    · exact hfocused (b := { c with
        requests := c.requests ++ [(turn, bridge.correlationId)] }) rfl rfl rfl
        (by rintro ending ⟨⟩) hruns
    · exact houtside (b := { c with
        requests := c.requests ++ [(turn, bridge.correlationId)] }) rfl rfl rfl hruns

theorem proceeds_of_next {label : SharedLabel db} (hlabel : beginsTurn label = false)
    (h : c.next context label = some d) : Proceeds c d ∧ SameShared c.runtime d.runtime := by
  obtain ⟨hadvances, hshared⟩ := advances_of_next hlabel h
  exact ⟨hadvances.proceeds, hshared⟩

/-! ## The books -/

/-- What a step that begins no turn writes down: the message that the projector of the
session has observed, or the correlation of a tool request. -/
inductive Books (context : SharedContext db) (c d : SharedRuntime db) : SharedLabel db → Prop
  | message {turn session : Nat} {message : PyValue} (running : turn ∈ c.tasks)
      (bound : c.sessionOf turn = some session)
      (projector : d.projector = Function.update c.projector session
        ((c.projector session).observe context.texts message))
      (messages : d.messages = c.messages ++ [(turn, message)])
      (requests : d.requests = c.requests) : Books context c d (.message turn message)
  | tool {turn session : Nat} {id : Option PyStr} (bound : c.sessionOf turn = some session)
      (bridge : c.runtime.bridge.map (·.correlationId) = some id)
      (projector : d.projector = c.projector) (messages : d.messages = c.messages)
      (requests : d.requests = c.requests ++ [(turn, id)]) : Books context c d (.tool turn)
  | nothing {label : SharedLabel db} (projector : d.projector = c.projector)
      (messages : d.messages = c.messages) (requests : d.requests = c.requests) :
      Books context c d label

theorem deliver_books {turn : Nat} {projection : ProjectionResult}
    (h : c.deliver context turn projection = some d) : SameBooks c d := by
  unfold deliver at h
  split_ifs at h
  · exact advance_books h
  · exact Option.some.inj h ▸ .refl c

theorem books_of_next {label : SharedLabel db} (hlabel : beginsTurn label = false)
    (h : c.next context label = some d) :
    Books context c d label ∧ ∀ turn ∈ d.tasks, turn ∈ c.tasks := by
  have hsame : SameBooks c d → Books context c d label ∧ ∀ turn ∈ d.tasks, turn ∈ c.tasks :=
    fun hbooks => ⟨.nothing hbooks.projector hbooks.messages hbooks.requests, hbooks.tasks ▸ fun _ => id⟩
  cases label with
  | start => cases hlabel
  | preflight | sessionCloses | close => exact hsame (outside_books h)
  | generator turn signal poll => exact hsame (advance_books h)
  | acquires turn =>
    obtain ⟨session, -, hholder⟩ := Option.bind_eq_some_iff.mp h
    obtain ⟨-, ⟨⟩⟩ := Option.ite_none_right_eq_some.mp hholder
    exact hsame ⟨rfl, rfl, rfl, rfl⟩
  | message turn message =>
    obtain ⟨session, hsession, hholds⟩ := Option.bind_eq_some_iff.mp h
    obtain ⟨hheld, hobserved⟩ := Option.ite_none_right_eq_some.mp hholds
    have hrunning : turn ∈ c.tasks := of_decide_eq_true (Bool.and_eq_true_iff.mp hheld).1
    have hdelivered : SameBooks (c.observe context turn session message) d := by
      dsimp only at hobserved
      split at hobserved
      · exact deliver_books hobserved
      · exact Option.some.inj hobserved ▸ .refl _
    exact ⟨.message hrunning hsession hdelivered.projector hdelivered.messages hdelivered.requests,
      hdelivered.tasks ▸ fun _ => id⟩
  | compaction turn phase =>
    obtain ⟨-, hdelivers⟩ := Option.ite_none_right_eq_some.mp h
    exact hsame (deliver_books hdelivers)
  | taskEnds turn ending =>
    obtain ⟨-, hends⟩ := Option.ite_none_right_eq_some.mp h
    have hreleased : SameBooks { c with
        tasks := c.tasks.filter (· ≠ turn)
        holder := fun session => (c.holder session).filter (· ≠ turn) } d := by
      split_ifs at hends
      · exact advance_books hends
      · exact outside_books hends
      · exact Option.some.inj hends ▸ .refl _
    refine ⟨.nothing hreleased.projector hreleased.messages hreleased.requests, fun n hn => ?_⟩
    rw [hreleased.tasks] at hn
    exact (List.mem_filter.mp hn).1
  | tool turn =>
    obtain ⟨hbound, hexecutes⟩ := Option.ite_none_right_eq_some.mp h
    obtain ⟨session, hsession⟩ := Option.isSome_iff_exists.mp hbound
    obtain ⟨bridge, hbridge, hruns⟩ := Option.bind_eq_some_iff.mp hexecutes
    have hrequested : SameBooks { c with
        requests := c.requests ++ [(turn, bridge.correlationId)] } d := by
      dsimp only at hruns
      split_ifs at hruns
      · exact advance_books hruns
      · exact outside_books hruns
    have hcorrelation : c.runtime.bridge.map (·.correlationId) = some bridge.correlationId := by
      rw [hbridge, Option.map_some]
    exact ⟨.tool hsession hcorrelation hrequested.projector hrequested.messages hrequested.requests,
      hrequested.tasks ▸ fun _ => id⟩

/-- Every step but the beginning of a turn keeps the numbers. -/
theorem Numbered.next (hnumbered : Numbered c) {label : SharedLabel db}
    (hlabel : beginsTurn label = false) (h : c.next context label = some d) : Numbered d := by
  obtain ⟨hproceeds, hshared⟩ := proceeds_of_next hlabel h
  obtain ⟨hbooks, htasks⟩ := books_of_next hlabel h
  have hbelow : ∀ {turn session : Nat}, c.sessionOf turn = some session → turn < c.runtime.turns := by
    intro turn session hbound
    obtain ⟨t, ht, rfl, -⟩ := sessionOf_eq_some hbound
    exact hnumbered.below t ht
  refine hproceeds.numbered hnumbered hshared htasks ?_ ?_
  · cases hbooks with
    | message running bound projector messages =>
      rw [messages]
      intro x hx
      rcases List.mem_append.mp hx with hx | hx
      · exact hnumbered.messages x hx
      · rw [List.mem_singleton.mp hx]
        exact hbelow bound
    | tool bound bridge projector messages | nothing projector messages =>
      rw [messages]
      exact hnumbered.messages
  · cases hbooks with
    | tool bound bridge projector messages requests =>
      rw [requests]
      intro x hx
      rcases List.mem_append.mp hx with hx | hx
      · exact hnumbered.requests x hx
      · rw [List.mem_singleton.mp hx]
        exact hbelow bound
    | message running bound projector messages requests | nothing projector messages requests =>
      rw [requests]
      exact hnumbered.requests

/-! ## The beginning of a turn -/

section Begin

variable {request : RuntimeTurnRequest db} {host : RuntimeHost} {answers : StartAnswers}

/-- What the beginning of a turn does to the turns, and to the tasks; the runtime is the
one in which the turn is first suspended. -/
structure Joins (c d : SharedRuntime db) (r : ClaudeAgentSDKRuntime db) (v : Turn db) : Prop where
  turns : ∀ u, u ∈ d.turns ↔ u ∈ c.turns ∨ u = v
  finished : ∀ f ∈ d.runtime.finished, f ∈ c.runtime.finished ∨ f.turn = v ∧ v ∉ d.inProgress
  inProgress : ∀ u ∈ d.inProgress, u ∈ c.inProgress ∨ u = v ∧ r.turn = some v
  tasks : ∀ turn ∈ d.tasks, turn ∈ c.tasks ∨ turn = v.number ∧ v.boundTo.isSome = true

theorem begin_joins (hnumbered : Numbered c) (context : SharedContext db)
    (request : RuntimeTurnRequest db) (host : RuntimeHost) (answers : StartAnswers) :
    ∃ v, Launch c.idle (c.idle.startTurn context.runtime request host answers) request v ∧
      Joins c (c.begin context request host answers)
        (c.idle.startTurn context.runtime request host answers) v := by
  obtain ⟨v, hlaunch⟩ := launch_of_startTurn context.runtime c.idle request host answers
    hnumbered.bridged
  refine ⟨v, hlaunch, ?_⟩
  obtain ⟨u, t, -, -, hgoes⟩ := hlaunch.goes
  have hnumber : v.number = c.runtime.turns := hlaunch.binding.1
  have hnew : v ∉ c.inProgress := fun hin => by
    have hbelow := hnumbered.below v (List.mem_append_right _ hin)
    omega
  have htasks : ∀ turn ∈ (c.begin context request host answers).tasks,
      turn ∈ c.tasks ∨ turn = v.number ∧ v.boundTo.isSome = true := by
    intro turn hturn
    have hbegun : turn ∈ if ((c.idle.startTurn context.runtime request host answers).turn.bind
        (·.task)).isSome then c.tasks ++ [c.runtime.turns] else c.tasks := hturn
    split_ifs at hbegun with htask
    · rcases List.mem_append.mp hbegun with hold | hnew
      · exact .inl hold
      · refine .inr ⟨(List.mem_singleton.mp hnew).trans hnumber.symm, ?_⟩
        cases hbound : v.boundTo with
        | some session => rfl
        | none =>
          have hidle := (hlaunch.unbound hbound).1
          cases hgoes with
          | suspended _ hturn =>
            rw [hturn, Option.bind_some, hidle] at htask
            cases htask
          | ends f p _ _ hturn =>
            rw [hturn] at htask
            cases htask
    · exact .inl hbegun
  cases hgoes with
  | suspended _ hturn hfinished =>
    have hin : (c.begin context request host answers).inProgress = c.inProgress ++ [v] := by
      show c.inProgress ++ Option.toList _ = _
      rw [hturn]
      rfl
    have hover : (c.begin context request host answers).runtime.finished = c.runtime.finished :=
      hfinished
    refine ⟨fun u => ?_, fun f hf => .inl (hover ▸ hf), fun u hu => ?_, htasks⟩
    · rw [mem_turns, mem_turns, hin, hover, List.mem_append, List.mem_singleton, or_assoc]
    · rw [hin, List.mem_append, List.mem_singleton] at hu
      exact hu.imp id fun hv => ⟨hv, hturn⟩
  | ends f p _ hof hturn hfinished =>
    have hin : (c.begin context request host answers).inProgress = c.inProgress := by
      show c.inProgress ++ Option.toList _ = _
      rw [hturn]
      exact List.append_nil _
    have hover : (c.begin context request host answers).runtime.finished =
        c.runtime.finished ++ [f] := hfinished
    refine ⟨fun u => ?_, fun g hg => ?_, fun u hu => .inl (hin ▸ hu), htasks⟩
    · rw [mem_turns, mem_turns, hin, hover]
      constructor
      · rintro (⟨g, hg, hu⟩ | hu)
        · rcases List.mem_append.mp hg with hg | hg
          · exact .inl (.inl ⟨g, hg, hu⟩)
          · rw [List.mem_singleton.mp hg, hof] at hu
            exact .inr hu.symm
        · exact .inl (.inr hu)
      · rintro ((⟨g, hg, hu⟩ | hu) | rfl)
        · exact .inl ⟨g, List.mem_append_left _ hg, hu⟩
        · exact .inr hu
        · exact .inl ⟨f, List.mem_append_right _ (List.mem_singleton_self _), hof⟩
    · rw [hover] at hg
      rcases List.mem_append.mp hg with hg | hg
      · exact .inl hg
      · rw [List.mem_singleton.mp hg, hin]
        exact .inr ⟨hof, hnew⟩

/-- The beginning of a turn keeps the numbers. -/
theorem Numbered.begin (hnumbered : Numbered c) (context : SharedContext db)
    (request : RuntimeTurnRequest db) (host : RuntimeHost) (answers : StartAnswers) :
    Numbered (c.begin context request host answers) := by
  obtain ⟨v, hlaunch, hjoins⟩ := begin_joins hnumbered context request host answers
  have hnumber : v.number = c.runtime.turns := hlaunch.binding.1
  have hturns : (c.begin context request host answers).runtime.turns = c.runtime.turns + 1 :=
    hlaunch.turns
  have hfresh : ∀ t ∈ c.turns, t.number ≠ v.number := fun t ht =>
    Nat.ne_of_lt (hnumber ▸ hnumbered.below t ht)
  have hcurrent : ∀ session ∈ (c.begin context request host answers).runtime.session,
      session.number ≤ c.runtime.turns + 1 := by
    intro session hsession
    have hlive : (c.idle.startTurn context.runtime request host answers).session = some session :=
      hsession
    cases hlaunch.session with
    | kept hkept =>
      rw [hlive] at hkept
      obtain ⟨before, hbefore, heq⟩ := Option.map_eq_some_iff.mp hkept.symm
      have hsame : before.number = session.number := congrArg Prod.fst heq
      exact Nat.le_succ_of_le (hsame ▸ hnumbered.current before hbefore)
    | created hcreated =>
      rw [hlive, Option.map_some, Option.some.injEq] at hcreated
      exact Nat.le_of_eq hcreated
  refine ⟨fun t ht => ?_, fun t ht u hu heq => ?_, fun f hf t ht => ?_, fun turn hturn => ?_,
    fun t ht hover hin => ?_, fun x hx => ?_, fun x hx => ?_, fun t ht session hbound => ?_,
    fun session hsession => ?_, hlaunch.bridged⟩
  · rw [hturns]
    rcases (hjoins.turns t).mp ht with ht | rfl
    · exact Nat.lt_succ_of_lt (hnumbered.below t ht)
    · omega
  · rcases (hjoins.turns t).mp ht with ht | rfl
    · rcases (hjoins.turns u).mp hu with hu | rfl
      · exact hnumbered.unique t ht u hu heq
      · exact absurd heq (hfresh t ht)
    · rcases (hjoins.turns u).mp hu with hu | rfl
      · exact absurd heq.symm (hfresh u hu)
      · rfl
  · rcases hjoins.finished f hf with hold | ⟨rfl, hover⟩
    · rcases hjoins.inProgress t ht with hin | ⟨rfl, -⟩
      · exact hnumbered.apart f hold t hin
      · exact hfresh f.turn (mem_turns.mpr (.inl ⟨f, hold, rfl⟩))
    · rcases hjoins.inProgress t ht with hin | ⟨rfl, -⟩
      · exact (hfresh t (List.mem_append_right _ hin)).symm
      · exact absurd ht hover
  · rw [hturns]
    rcases hjoins.tasks turn hturn with hold | ⟨rfl, -⟩
    · exact Nat.lt_succ_of_lt (hnumbered.tasks turn hold)
    · omega
  · rcases hjoins.tasks t.number hin with hold | ⟨heq, hbound⟩
    · rcases (hjoins.turns t).mp ht with ht | rfl
      · exact hnumbered.running t ht hover hold
      · have hless := hnumbered.tasks _ hold
        omega
    · rcases (hjoins.turns t).mp ht with ht | rfl
      · exact hfresh t ht heq
      · obtain ⟨session, hsession⟩ := Option.isSome_iff_exists.mp hbound
        exact hover (hlaunch.bound session hsession).2.1
  · rw [hturns]
    exact Nat.lt_succ_of_lt (hnumbered.messages x hx)
  · rw [hturns]
    exact Nat.lt_succ_of_lt (hnumbered.requests x hx)
  · rw [hturns]
    rcases (hjoins.turns t).mp ht with ht | rfl
    · obtain ⟨hle, hlive⟩ := hnumbered.sessions t ht session hbound
      exact ⟨Nat.le_succ_of_le hle, hlaunch.session.isSome hlive⟩
    · have hsession := (hlaunch.bound session hbound).2.2.1
      exact ⟨hcurrent session hsession, Option.isSome_of_mem hsession⟩
  · rw [hturns]
    exact hcurrent session hsession

end Begin

end SharedRuntime

end HermesClaude.Runtime
