/-
# The model a turn reports

The generator of a turn keeps the provenance of the last result it took from its queue,
and reports it when the turn completes.  Projections that are still in the queue count as
well, for a turn completes only when its queue is empty; and it completes only when its
task is over, so no message of the turn comes later.

So what a turn reports is what its own messages say, if the projector had the evidence of
that turn, and of no other, when it saw the result.
-/

import HermesClaude.Runtime.Attribution

namespace HermesClaude.Runtime

open HermesClaude.Python HermesClaude.Bridge HermesClaude.Content HermesClaude.Session
  HermesClaude.Library

variable {db : UnicodeDatabase}

/-- What a turn has reported about its model is what the given provenance says, and it has
reported nothing while its task still runs. -/
def Completes (own : ModelProvenance) (t : Turn db) : Prop :=
  ∀ y ∈ t.yielded, ∀ result, y.event = .completed result →
    result.provenance = own ∧ t.task ≠ some .running

/-- Where the pump of a turn is over because everything was passed on. -/
def GeneratorPc.isDrained : GeneratorPc → Prop
  | .awaitingTask | .yieldedState _ => True
  | _ => False

/-- The provenance of a turn and the projections in its queue add up to the given one. -/
structure Attributes (own : ModelProvenance) (t : Turn db) : Prop where
  queue : t.queue.foldl ClaudeAgentSDKRuntime.provenanceAfter t.provenance = own
  drained : t.pc.isDrained → t.queue = [] ∧ t.task ≠ some .running
  completes : Completes own t

variable {own : ModelProvenance} {t t' : Turn db}

theorem Completes.emit (h : Completes own t) {event : TurnEvent}
    (hevent : ∀ result, event ≠ .completed result) (inSetup : Bool) :
    Completes own (t.emit event inSetup) := by
  intro y hy result hresult
  rcases List.mem_append.mp hy with hy | hy
  · exact h y hy result hresult
  · rw [List.mem_singleton.mp hy] at hresult
    exact absurd hresult (hevent result)

/-- Every move keeps the sum. -/
theorem Attributes.move (hmove : Move t t') (h : Attributes own t) : Attributes own t' := by
  cases hmove with
  | flags hsame hpc =>
    refine ⟨?_, ?_, ?_⟩
    · rw [hsame.queue, hsame.provenance]
      exact h.queue
    · rw [hpc, hsame.queue, hsame.task]
      exact h.drained
    · unfold Completes
      rw [hsame.yielded, hsame.task]
      exact h.completes
  | take hpc hqueue =>
    refine ⟨?_, False.elim, h.completes⟩
    have hsum := h.queue
    rw [hqueue, List.foldl_cons] at hsum
    exact hsum
  | keep | receive | cancelPump | cancelNative | awaitNative | cancelHandler | errorHandler =>
    exact ⟨h.queue, False.elim, h.completes⟩
  | pass visible hpc houtward =>
    exact ⟨h.queue, False.elim, h.completes.emit (by rintro result ⟨⟩) true⟩
  | drain hpc htask hqueue =>
    refine ⟨h.queue, fun _ => ⟨hqueue, fun hrunning => ?_⟩, h.completes⟩
    have hstill : t.task = some .running := hrunning
    rw [hstill] at htask
    cases htask
  | fail inSetup terminal hfailing hends hfailed =>
    exact ⟨h.queue, False.elim, h.completes.emit hfailed inSetup⟩
  | state hpc htask =>
    exact ⟨h.queue, fun _ => h.drained (by rw [hpc]; trivial), h.completes.emit (by rintro result ⟨⟩) true⟩
  | @complete result hpc hprovenance =>
    obtain ⟨hqueue, hover⟩ := h.drained (by
      rcases hpc with hpc | ⟨state, hpc⟩ <;> rw [hpc] <;> trivial)
    refine ⟨h.queue, False.elim, fun y hy result' hresult => ?_⟩
    rcases List.mem_append.mp hy with hy | hy
    · exact h.completes y hy result' hresult
    · rw [List.mem_singleton.mp hy] at hresult
      cases hresult
      have hsum := h.queue
      rw [hqueue] at hsum
      exact ⟨hprovenance.trans hsum, hover⟩

/-- A projection that reaches the queue counts. -/
theorem Attributes.produce (h : Attributes own t) (htask : t.task = some .running)
    (projection : ProjectionResult) :
    Attributes (ClaudeAgentSDKRuntime.provenanceAfter own projection) { t with
      queue := t.queue ++ [projection]
      produced := t.produced ++ projection.events } := by
  refine ⟨?_, fun hdrained => absurd htask (h.drained hdrained).2,
    fun y hy result hresult => absurd htask (h.completes y hy result hresult).2⟩
  rw [List.foldl_append, h.queue]
  rfl

theorem Attributes.taskEnds (h : Attributes own t) (ending : Ending) :
    Attributes own { t with task := some (.ended ending) } :=
  ⟨h.queue, fun hdrained => ⟨(h.drained hdrained).1, by rintro ⟨⟩⟩,
    fun y hy result hresult => ⟨(h.completes y hy result hresult).1, by rintro ⟨⟩⟩⟩

/-- A turn in which nothing has happened has no provenance. -/
theorem Turn.Blank.attributes (h : t.Blank) : Attributes {} t := by
  refine ⟨by rw [h.queue, h.provenance]; rfl, ?_, fun y hy => ?_⟩
  · rw [h.pc]
    exact False.elim
  · rw [h.yielded] at hy
    cases hy

namespace SharedRuntime

variable {context : SharedContext db} {c d : SharedRuntime db} {u v : Turn db}

/-- What the messages of a turn say about its model, when no others are looked at. -/
def ownModel (texts : TextLibrary) (c : SharedRuntime db) (t : Turn db) : ModelProvenance :=
  ownProvenance texts t.request (c.messagesOf t.number)

/-- Every turn reports its own model. -/
structure Attributed (texts : TextLibrary) (c : SharedRuntime db) : Prop where
  inProgress : ∀ t ∈ c.inProgress, Attributes (c.ownModel texts t) t
  completes : ∀ t ∈ c.turns, Completes (c.ownModel texts t) t

/-- The session has announced nothing that the messages of this turn have not. -/
def KeepsSession (texts : TextLibrary) (c : SharedRuntime db) (turn : Nat) (message : PyValue) :
    Prop :=
  message.typeName = "ResultMessage" → ∀ session, c.sessionOf turn = some session →
    (c.projector session).session = ownSession texts (c.messagesOf turn)

theorem ownModel_of_binding {texts : TextLibrary} (h : u.binding = t.binding) :
    d.ownModel texts u = d.ownModel texts t := by
  have hnumber : u.number = t.number := congrArg Binding.turn h
  have hrequest : u.request = t.request := congrArg Binding.request h
  rw [ownModel, ownModel, hnumber, hrequest]

theorem ownModel_congr {texts : TextLibrary} (hmessages : d.messages = c.messages) (t : Turn db) :
    d.ownModel texts t = c.ownModel texts t := by
  rw [ownModel, ownModel, messagesOf_congr hmessages]

/-- While the task of a turn runs, the turn has reported nothing. -/
theorem Attributed.completes_running {texts : TextLibrary} (h : Attributed texts c)
    (hnumbered : Numbered c) (ht : t ∈ c.turns) (hrunning : t.number ∈ c.tasks)
    (own : ModelProvenance) : Completes own t := by
  intro y hy result hresult
  exact absurd hrunning (hnumbered.running t ht (h.completes t ht y hy result hresult).2)

/-- One turn has gone on. -/
theorem Attributed.goes {texts : TextLibrary} (h : Attributed texts c) (hnumbered : Numbered c)
    {label : Label db} (ht : t ∈ c.inProgress) (hstep : TurnStep label t t')
    (hbecomes : Becomes c d t t' v)
    (hothers : ∀ u ∈ c.turns, u.number ≠ t.number → d.ownModel texts u = c.ownModel texts u)
    (hgoes : Attributes (d.ownModel texts t) t') : Attributed texts d := by
  have hown : d.ownModel texts v = d.ownModel texts t := ownModel_of_binding (hbecomes.binding hstep)
  have hcompletes : Completes (d.ownModel texts v) v := by
    obtain ⟨p, rfl⟩ := hbecomes.recorded
    rw [hown]
    exact hgoes.completes
  refine ⟨fun u hu => ?_, fun u hu => ?_⟩
  · have hother : ∀ u ∈ c.inProgress, u.number ≠ t.number → Attributes (d.ownModel texts u) u := by
      intro u hu hne
      rw [hothers u (List.mem_append_right _ hu) hne]
      exact h.inProgress u hu
    cases hbecomes with
    | suspended hrecorded hfinished hin =>
      rcases (hin u).mp hu with ⟨hu, hne⟩ | rfl
      · exact hother u hu hne
      · rw [hown, hrecorded]
        exact hgoes
    | ends f p hrecorded hof hfinished hin =>
      obtain ⟨hu, hne⟩ := (hin u).mp hu
      exact hother u hu hne
  · rcases (hbecomes.mem_turns hnumbered ht).mp hu with ⟨hu, hne⟩ | rfl
    · rw [hothers u hu hne]
      exact h.completes u hu
    · exact hcompletes

/-- No turn has gone on. -/
theorem Attributed.rests {texts : TextLibrary} (hin : d.inProgress = c.inProgress)
    (hfinished : d.runtime.finished = c.runtime.finished)
    (hattributes : ∀ u ∈ c.inProgress, Attributes (d.ownModel texts u) u)
    (hcompletes : ∀ u ∈ c.turns, Completes (d.ownModel texts u) u) : Attributed texts d := by
  refine ⟨hin ▸ hattributes, ?_⟩
  rw [turns, hin, hfinished]
  exact hcompletes

/-- No turn has gone on, and no message was seen. -/
theorem Attributed.same {texts : TextLibrary} (h : Attributed texts c)
    (hin : d.inProgress = c.inProgress) (hfinished : d.runtime.finished = c.runtime.finished)
    (hmessages : d.messages = c.messages) : Attributed texts d := by
  refine .rests hin hfinished (fun u hu => ?_) fun u hu => ?_
  · rw [ownModel_congr hmessages]
    exact h.inProgress u hu
  · rw [ownModel_congr hmessages]
    exact h.completes u hu

/-- A step of one turn that sees no message, and whose projection is of no result. -/
theorem Attributed.advance {texts : TextLibrary} (h : Attributed texts c) (hnumbered : Numbered c)
    {b : SharedRuntime db} (hin : b.inProgress = c.inProgress)
    (hfinished : b.runtime.finished = c.runtime.finished)
    (hmessages : b.messages = c.messages) {turn : Nat} {label : Label db}
    (hlabel : label.isFocused = true)
    (hproduces : ∀ projection, label = .produce projection → projection.isResult = false)
    (hnext : b.advance context turn label = some d) : Attributed texts d := by
  obtain ⟨t, t', v, ht, -, hstep, hbecomes⟩ := advance_becomes hlabel hnext
  have hsame : d.messages = c.messages := (advance_books hnext).messages.trans hmessages
  rw [hin] at ht
  have hattributes := h.inProgress t ht
  refine h.goes hnumbered ht hstep (hbecomes.of_same hin hfinished)
    (fun u _ _ => ownModel_congr hsame u) ?_
  rw [ownModel_congr hsame]
  cases hstep with
  | moved moves => exact keeps_of_moves (fun hmove h => h.move hmove) moves hattributes
  | @produced projection t task =>
    have hsum := hattributes.produce task projection
    rw [ClaudeAgentSDKRuntime.provenanceAfter, hproduces projection rfl] at hsum
    exact hsum
  | ended => exact hattributes.taskEnds _
  | executed => exact { hattributes with }

/-- A message of a turn is projected, and its projection reaches the queue of the turn,
unless its generator is over. -/
theorem Attributed.message {texts : TextLibrary} (h : Attributed texts c)
    (htexts : texts = context.texts) (hnumbered : Numbered c) (hevident : Evident texts c)
    {turn : Nat} {message : PyValue} (hevidence : KeepsEvidence c turn message)
    (hsession : KeepsSession texts c turn message)
    (hnext : c.next context (.message turn message) = some d) : Attributed texts d := by
  subst htexts
  obtain ⟨session, hbound, hholds⟩ := Option.bind_eq_some_iff.mp hnext
  obtain ⟨hheld, hobserved⟩ := Option.ite_none_right_eq_some.mp hholds
  have hrunning : turn ∈ c.tasks := of_decide_eq_true (Bool.and_eq_true_iff.mp hheld).1
  -- What the message adds to the provenance of its own turn.
  have hadds : ∀ t ∈ c.turns, t.number = turn →
      (((c.projector session).observe context.texts message).projection context.texts
          message).toList.foldl ClaudeAgentSDKRuntime.provenanceAfter (c.ownModel context.texts t) =
        ownProvenance context.texts t.request (c.messagesOf turn ++ [message]) := by
    rintro t ht rfl
    rw [hnumbered.sessionOf ht] at hbound
    obtain ⟨bound, hboundTo, rfl⟩ := Option.map_eq_some_iff.mp hbound
    refine ownProvenance_append t.request (c.messagesOf t.number) message _
      (hevident.selected t ht bound hboundTo) fun hresult => ⟨?_, ?_⟩
    · refine hevident.evidence t ht bound hboundTo fun u hu other hother hsame => ?_
      by_contra hlater
      refine hevidence (by simp [ClaudeSdkEventProjector.isTurnEvidence, hresult]) u hu
        (by omega) ?_
      rw [hnumbered.sessionOf ht, hboundTo, hother, Option.map_some, Option.map_some, hsame]
    · refine hsession hresult bound.number ?_
      rw [hnumbered.sessionOf ht, hboundTo, Option.map_some]
  have hmessages : ∀ n, (c.observe context turn session message).messagesOf n =
      if turn = n then c.messagesOf n ++ [message] else c.messagesOf n :=
    messagesOf_append (d := c.observe context turn session message) rfl
  have hother : ∀ u ∈ c.turns, u.number ≠ turn →
      (c.observe context turn session message).ownModel context.texts u =
        c.ownModel context.texts u := by
    intro u _ hne
    rw [ownModel, hmessages, if_neg (Ne.symm hne)]
    rfl
  have hown : ∀ t ∈ c.turns, t.number = turn →
      (c.observe context turn session message).ownModel context.texts t =
        ownProvenance context.texts t.request (c.messagesOf turn ++ [message]) := by
    rintro t ht rfl
    rw [ownModel, hmessages, if_pos rfl]
  have hcompletes : ∀ u ∈ c.turns,
      Completes ((c.observe context turn session message).ownModel context.texts u) u := by
    intro u hu
    by_cases hsame : u.number = turn
    · exact h.completes_running hnumbered hu (hsame ▸ hrunning) _
    · rw [hother u hu hsame]
      exact h.completes u hu
  have hprojector : (c.observe context turn session message).projector session =
      (c.projector session).observe context.texts message := Function.update_self ..
  dsimp only at hobserved
  rw [hprojector] at hobserved
  split at hobserved
  next projection hprojection =>
    rw [hprojection] at hadds
    unfold deliver at hobserved
    split_ifs at hobserved with hfocus
    · have hfocused : (Label.produce projection : Label db).isFocused = true := rfl
      obtain ⟨t, t', v, ht, rfl, hstep, hbecomes⟩ := advance_becomes hfocused hobserved
      have hin : t ∈ c.turns := List.mem_append_right _ ht
      have hbooks := advance_books hobserved
      refine h.goes hnumbered ht hstep (hbecomes.of_same rfl rfl) (fun u hu hne => ?_) ?_
      · rw [ownModel_congr hbooks.messages]
        exact hother u hu hne
      · rw [ownModel_congr hbooks.messages, hown t hin rfl, ← hadds t hin rfl]
        cases hstep with
        | produced task => exact (h.inProgress t ht).produce task projection
    · cases hobserved
      refine .rests rfl rfl (fun u hu => ?_) hcompletes
      by_cases hsame : u.number = turn
      · have hnone := Option.not_isSome_iff_eq_none.mp hfocus
        have hne := List.find?_eq_none.mp hnone u hu
        simp [hsame] at hne
      · rw [hother u (List.mem_append_right _ hu) hsame]
        exact h.inProgress u hu
  next hprojection =>
    rw [hprojection] at hadds
    cases hobserved
    refine .rests rfl rfl (fun u hu => ?_) hcompletes
    have hin : u ∈ c.turns := List.mem_append_right _ hu
    by_cases hsame : u.number = turn
    · rw [hown u hin hsame, ← hadds u hin hsame]
      exact h.inProgress u hu
    · rw [hother u hin hsame]
      exact h.inProgress u hu

/-- Every step but the beginning of a turn keeps the provenance of all turns. -/
theorem Attributed.next {texts : TextLibrary} (h : Attributed texts c)
    (htexts : texts = context.texts) (hnumbered : Numbered c) (hevident : Evident texts c)
    {label : SharedLabel db} (hlabel : beginsTurn label = false)
    (hguard : ∀ turn message, label = .message turn message →
      KeepsEvidence c turn message ∧ KeepsSession texts c turn message)
    (hnext : c.next context label = some d) : Attributed texts d := by
  have houtside : ∀ {b : SharedRuntime db} {inner : Label db},
      b.inProgress = c.inProgress → b.runtime = c.runtime → b.messages = c.messages →
      isOutside inner = true → b.outside context inner = some d → Attributed texts d := by
    intro b inner hin hruntime hmessages hinner hout
    obtain ⟨hsame, hfinished, -⟩ := outside_rests hinner hout
    exact h.same (hsame.trans hin) (hfinished.trans (congrArg (·.finished) hruntime))
      ((outside_books hout).messages.trans hmessages)
  cases label with
  | start => cases hlabel
  | preflight | sessionCloses | close => exact houtside rfl rfl rfl rfl hnext
  | generator turn signal poll =>
    exact h.advance hnumbered rfl rfl rfl rfl (by rintro projection ⟨⟩) hnext
  | acquires turn =>
    obtain ⟨session, -, hholder⟩ := Option.bind_eq_some_iff.mp hnext
    obtain ⟨-, ⟨⟩⟩ := Option.ite_none_right_eq_some.mp hholder
    exact h.same rfl rfl rfl
  | message turn message =>
    obtain ⟨hevidence, hsession⟩ := hguard turn message rfl
    exact h.message htexts hnumbered hevident hevidence hsession hnext
  | compaction turn phase =>
    obtain ⟨-, hdelivers⟩ := Option.ite_none_right_eq_some.mp hnext
    unfold deliver at hdelivers
    split_ifs at hdelivers
    · exact h.advance hnumbered rfl rfl rfl rfl (by rintro projection ⟨⟩; rfl) hdelivers
    · cases hdelivers
      exact h
  | taskEnds turn ending =>
    obtain ⟨-, hends⟩ := Option.ite_none_right_eq_some.mp hnext
    split_ifs at hends
    · exact h.advance (b := { c with
        tasks := c.tasks.filter (· ≠ turn)
        holder := fun session => (c.holder session).filter (· ≠ turn) }) hnumbered rfl rfl rfl rfl
        (by rintro projection ⟨⟩) hends
    · exact houtside (b := { c with
        tasks := c.tasks.filter (· ≠ turn)
        holder := fun session => (c.holder session).filter (· ≠ turn) }) rfl rfl rfl rfl hends
    · cases hends
      exact h.same rfl rfl rfl
  | tool turn =>
    obtain ⟨-, hexecutes⟩ := Option.ite_none_right_eq_some.mp hnext
    obtain ⟨bridge, -, hruns⟩ := Option.bind_eq_some_iff.mp hexecutes
    dsimp only at hruns
    split_ifs at hruns
    · exact h.advance (b := { c with
        requests := c.requests ++ [(turn, bridge.correlationId)] }) hnumbered rfl rfl rfl rfl
        (by rintro projection ⟨⟩) hruns
    · exact houtside (b := { c with
        requests := c.requests ++ [(turn, bridge.correlationId)] }) rfl rfl rfl rfl hruns

/-- The beginning of a turn keeps it. -/
theorem Attributed.begin {texts : TextLibrary} (h : Attributed texts c) (hnumbered : Numbered c)
    (context : SharedContext db) (request : RuntimeTurnRequest db) (host : RuntimeHost)
    (answers : StartAnswers) : Attributed texts (c.begin context request host answers) := by
  obtain ⟨v, hlaunch, hjoins⟩ := begin_joins hnumbered context request host answers
  have hnumber : v.number = c.runtime.turns := hlaunch.binding.1
  have hsame : ∀ t, (c.begin context request host answers).ownModel texts t = c.ownModel texts t :=
    ownModel_congr rfl
  have hnew : c.ownModel texts v = {} := by
    rw [ownModel, hnumbered.messagesOf_new hnumber.ge]
    rfl
  obtain ⟨u, t, hblank, hmoves, hgoes⟩ := hlaunch.goes
  have hattributes : Attributes {} t :=
    keeps_of_moves (fun hmove h => h.move hmove) hmoves hblank.attributes
  refine ⟨fun w hw => ?_, fun w hw => ?_⟩
  · rw [hsame]
    rcases hjoins.inProgress w hw with hin | ⟨rfl, hsuspended⟩
    · exact h.inProgress w hin
    · rw [hnew]
      cases hgoes with
      | suspended hrecorded => exact hrecorded ▸ hattributes
      | ends f p hrecorded hof hturn =>
        rw [hturn] at hsuspended
        cases hsuspended
  · rw [hsame]
    rcases (hjoins.turns w).mp hw with hold | rfl
    · exact h.completes w hold
    · rw [hnew]
      cases hgoes with
      | suspended hrecorded => exact hrecorded ▸ hattributes.completes
      | ends f p hrecorded =>
        subst hrecorded
        exact hattributes.completes

end SharedRuntime

end HermesClaude.Runtime
