/-
# Events of a declared trace

Executors that have no events of their own make them from the trace that the catalog declares:
one event for each kind, in its order, with the digest of the evidence.  A packet of these events
is valid and passes exactly where every kind is known and the trace ends in its only terminal.
-/

import HermesClaude.Parity.ResultFields
import HermesClaude.Parity.TrialGrades

namespace HermesClaude.Parity

open HermesClaude.Python HermesClaude.Library

/-- The kinds of events that name evidence, and where they do. -/
def evidenceFields : List (PyStr × String) :=
  [(lit "approval_requested", "request_hash"), (lit "approval_decision", "metadata_hash"),
    (lit "tool_requested", "request_hash"), (lit "tool_result", "tool_hash"),
    (lit "state", "state_hash"), (lit "usage", "usage_hash"), (lit "compaction", "metadata_hash"),
    (lit "background", "parent_hash"), (lit "restart", "metadata_hash")]

/-- `_event_hash_field`. -/
def eventHashField (kind : PyStr) : Option String := evidenceFields.lookup kind

/-- The outcome of the terminal of a path. -/
def terminalOf : TrialPath → String
  | .denial => "denied"
  | .positive | .recovery => "completed"

/-- The status of any other event. -/
def statusOf (path : TrialPath) (kind : PyStr) : String :=
  if kind = lit "start" then "started"
  else match path with
    | .denial => "expected_negative"
    | .recovery => "recovered"
    | .positive => "observed"

/-- The body of the loop of `normalized_path_events`. -/
def pathEvent (path : TrialPath) (evidenceHash : PyStr) (kind : PyStr) (sequence : Nat) : Entries :=
  if kind = lit "terminal" then
    [(lit "sequence", .int sequence), (lit "kind", .str kind),
      (lit "status", .str (lit (terminalOf path))),
      (lit "terminal_outcome", .str (lit (terminalOf path)))]
  else
    [(lit "sequence", .int sequence), (lit "kind", .str kind),
      (lit "status", .str (lit (statusOf path kind)))] ++
      ((eventHashField kind).map fun field => (lit field, .str evidenceHash)).toList

/-- `normalized_path_events`, from a sequence number on. -/
def pathEventsFrom (path : TrialPath) (evidenceHash : PyStr) : Nat → List PyStr → List Entries
  | _, [] => []
  | sequence, kind :: rest =>
    pathEvent path evidenceHash kind sequence :: pathEventsFrom path evidenceHash (sequence + 1) rest

/-- `normalized_path_events`. -/
def normalizedPathEvents (expectedTrace : List PyStr) (path : TrialPath) (evidenceHash : PyStr) :
    List Entries := pathEventsFrom path evidenceHash 1 expectedTrace

/-- The classification that passes on a path. -/
def passingClassification : TrialPath → ExecutionClassification
  | .denial => .expectedNegative
  | .positive | .recovery => .complete

section Events

variable {path : TrialPath} {evidence : Digest} {kind : PyStr} {sequence index : Nat}

theorem pathEvent_terminal :
    pathEvent path evidence.1 (lit "terminal") sequence =
      [(lit "sequence", .int sequence), (lit "kind", .str (lit "terminal")),
        (lit "status", .str (lit (terminalOf path))),
        (lit "terminal_outcome", .str (lit (terminalOf path)))] := if_pos rfl

theorem pathEvent_other (h : kind ≠ lit "terminal") :
    pathEvent path evidence.1 kind sequence =
      [(lit "sequence", .int sequence), (lit "kind", .str kind),
        (lit "status", .str (lit (statusOf path kind)))] ++
        ((eventHashField kind).map fun field => (lit field, .str evidence.1)).toList := if_neg h

/-- Evidence is named in fields for digests. -/
theorem eventHashField_mem {field : String} (h : eventHashField kind = some field) :
    lit field ∈ eventHashFields := by
  have hall : ∀ item ∈ evidenceFields, lit item.2 ∈ eventHashFields := by decide
  obtain ⟨before, after, hsplit, -⟩ := List.lookup_eq_some_iff.mp h
  apply hall (kind, field)
  rw [hsplit]
  exact List.mem_append_right _ List.mem_cons_self

theorem pathEvent_sequence : (pathEvent path evidence.1 kind sequence).field "sequence" = .int sequence := by
  by_cases hkind : kind = lit "terminal"
  · rw [pathEvent, if_pos hkind]
    rfl
  · rw [pathEvent_other hkind]
    rfl

theorem pathEvent_kind : (pathEvent path evidence.1 kind sequence).field "kind" = .str kind := by
  by_cases hkind : kind = lit "terminal"
  · rw [pathEvent, if_pos hkind]
    rfl
  · rw [pathEvent_other hkind]
    rfl

theorem pathEvent_status : ∃ status : SafeId,
    (pathEvent path evidence.1 kind sequence).field "status" = .str status.1 := by
  by_cases hkind : kind = lit "terminal"
  · have hsafe : isSafeId (lit (terminalOf path)) = true := by cases path <;> decide
    rw [pathEvent, if_pos hkind]
    exact ⟨⟨_, hsafe⟩, rfl⟩
  · have hsafe : isSafeId (lit (statusOf path kind)) = true := by
      unfold statusOf
      split_ifs
      · decide
      · cases path <;> decide
    rw [pathEvent_other hkind]
    exact ⟨⟨_, hsafe⟩, rfl⟩

/-- Only the terminal of a path has an outcome. -/
theorem pathEvent_outcome :
    (pathEvent path evidence.1 kind sequence).field "terminal_outcome" =
      if kind = lit "terminal" then .str (lit (terminalOf path)) else .null := by
  by_cases hkind : kind = lit "terminal"
  · rw [pathEvent, if_pos hkind, if_pos hkind]
    rfl
  · rw [pathEvent_other hkind, if_neg hkind]
    cases hfield : eventHashField kind with
    | none => rfl
    | some field =>
      have hno : lit field ≠ lit "terminal_outcome" := by
        intro hsame
        have hmem := eventHashField_mem hfield
        rw [hsame] at hmem
        revert hmem
        decide
      change (List.lookup (lit "terminal_outcome") [(lit field, Json.str evidence.1)]).getD .null = .null
      rw [List.lookup_cons, beq_false_of_ne hno.symm]
      rfl

/-- An event of a path has only known fields, and evidence is a digest. -/
theorem pathEvent_items : ∀ item ∈ pathEvent path evidence.1 kind sequence,
    item.1 ∈ eventFields ∧ (item.1 ∈ eventHashFields → ∃ digest : Digest, item.2 = .str digest.1) := by
  have hplain : ∀ name ∈ ["sequence", "kind", "status", "terminal_outcome"].map lit,
      name ∈ eventFields ∧ name ∉ eventHashFields := by decide
  have hevidence : ∀ name ∈ eventHashFields, name ∈ eventFields := fun name hname =>
    List.mem_append_right _ hname
  by_cases hkind : kind = lit "terminal"
  · rw [pathEvent, if_pos hkind]
    intro item hitem
    have hname : item.1 ∈ ["sequence", "kind", "status", "terminal_outcome"].map lit := by
      simp only [List.mem_cons, List.not_mem_nil, or_false] at hitem
      rcases hitem with rfl | rfl | rfl | rfl <;> simp
    exact ⟨(hplain _ hname).1, fun h => absurd h (hplain _ hname).2⟩
  · rw [pathEvent_other hkind]
    intro item hitem
    rcases List.mem_append.mp hitem with hitem | hitem
    · have hname : item.1 ∈ ["sequence", "kind", "status", "terminal_outcome"].map lit := by
        simp only [List.mem_cons, List.not_mem_nil, or_false] at hitem
        rcases hitem with rfl | rfl | rfl <;> simp
      exact ⟨(hplain _ hname).1, fun h => absurd h (hplain _ hname).2⟩
    · rw [Option.mem_toList, Option.map_eq_some_iff] at hitem
      obtain ⟨field, hfield, rfl⟩ := hitem
      have hmem := eventHashField_mem hfield
      exact ⟨hevidence _ hmem, fun _ => ⟨evidence, rfl⟩⟩

/-- An event of a path is valid at its place exactly where its kind is known. -/
theorem pathEvent_fits : EventFits index (pathEvent path evidence.1 kind (index + 1)) ↔ kind ∈ eventKinds := by
  constructor
  · intro h
    have hkind := h.kind
    rw [pathEvent_kind, isOneOf] at hkind
    simpa [Json.str?] using hkind
  · intro hkind
    refine ⟨fun item hitem => (pathEvent_items item hitem).1, ?_, ?_, ?_,
      fun item hitem => (pathEvent_items item hitem).2, ?_⟩
    · rw [pathEvent_sequence]
      exact Json.pyEq_self trivial
    · rw [pathEvent_kind, isOneOf]
      simpa [Json.str?] using hkind
    · obtain ⟨status, hstatus⟩ := @pathEvent_status path evidence kind (index + 1)
      exact ⟨some status, hstatus⟩
    · rw [pathEvent_kind, pathEvent_outcome, Json.str?]
      simp only [Option.some.injEq]
      split_ifs
      · cases path <;> decide
      · rfl

end Events

/-! ## Whole traces -/

section Traces

variable {path : TrialPath} {evidence : Digest} {trace : List PyStr} {sequence index : Nat}

theorem pathEventsFrom_fit :
    EventsFit index (pathEventsFrom path evidence.1 (index + 1) trace) ↔ ∀ kind ∈ trace, kind ∈ eventKinds := by
  induction trace generalizing index with
  | nil => exact iff_of_true trivial (List.forall_mem_nil _)
  | cons kind rest ih =>
    rw [pathEventsFrom, EventsFit, pathEvent_fits, ih, List.forall_mem_cons]

theorem pathEventsFrom_append (rest : List PyStr) :
    pathEventsFrom path evidence.1 sequence (trace ++ rest) =
      pathEventsFrom path evidence.1 sequence trace ++
        pathEventsFrom path evidence.1 (sequence + trace.length) rest := by
  induction trace generalizing sequence with
  | nil => rfl
  | cons kind trace ih =>
    rw [List.cons_append, pathEventsFrom, pathEventsFrom, ih, List.cons_append, List.length_cons,
      Nat.add_right_comm, Nat.add_assoc]

theorem length_pathEventsFrom : (pathEventsFrom path evidence.1 sequence trace).length = trace.length := by
  induction trace generalizing sequence with
  | nil => rfl
  | cons kind rest ih => rw [pathEventsFrom, List.length_cons, List.length_cons, ih]

/-- The kinds of the events are the trace. -/
theorem eventKindsOf_pathEventsFrom :
    eventKindsOf (pathEventsFrom path evidence.1 sequence trace) = trace.map some := by
  induction trace generalizing sequence with
  | nil => rfl
  | cons kind rest ih =>
    unfold eventKindsOf at ih ⊢
    rw [pathEventsFrom, List.map_cons, List.map_cons, ih, pathEvent_kind]
    rfl

/-- The terminals among the events are those of the trace, each with the outcome of the path. -/
theorem terminals_pathEventsFrom :
    ((pathEventsFrom path evidence.1 sequence trace).filter ResultPacket.isTerminal).length =
        trace.count (lit "terminal") ∧
      ∀ event ∈ (pathEventsFrom path evidence.1 sequence trace).filter ResultPacket.isTerminal,
        event.field "terminal_outcome" = .str (lit (terminalOf path)) := by
  induction trace generalizing sequence with
  | nil => exact ⟨rfl, List.forall_mem_nil _⟩
  | cons kind rest ih =>
    have hterminal : ResultPacket.isTerminal (pathEvent path evidence.1 kind sequence) =
        (kind == lit "terminal") := by
      rw [ResultPacket.isTerminal, pathEvent_kind, Bool.eq_iff_iff, decide_eq_true_eq, beq_iff_eq]
      exact Option.some_inj
    rw [pathEventsFrom, List.filter_cons, hterminal, List.count_cons]
    by_cases hkind : kind = lit "terminal"
    · rw [beq_iff_eq.mpr hkind, if_pos rfl, if_pos rfl, List.length_cons, ih.1, List.forall_mem_cons]
      refine ⟨rfl, ?_, ih.2⟩
      rw [pathEvent_outcome, if_pos hkind]
    · rw [beq_false_of_ne hkind]
      exact ih

/-- The terminal is the last of a trace that has no other. -/
def EndsInTerminal (trace : List PyStr) : Prop :=
  ∃ steps, trace = steps ++ [lit "terminal"] ∧ lit "terminal" ∉ steps

/-- What ends in some outcome ends in a terminal. -/
theorem getLast_of_endsIn {outcome : String}
    (h : endsIn outcome (pathEventsFrom path evidence.1 sequence trace) = true) :
    trace.getLast? = some (lit "terminal") := by
  cases hlast : trace.getLast? with
  | none =>
    rw [List.getLast?_eq_none_iff] at hlast
    subst hlast
    cases h
  | some kind =>
    obtain ⟨steps, rfl⟩ := List.getLast?_eq_some_iff.mp hlast
    rw [endsIn, pathEventsFrom_append, pathEventsFrom, pathEventsFrom, List.getLast?_concat,
      Option.any_some, Bool.and_eq_true, ResultPacket.isTerminal, pathEvent_kind] at h
    exact of_decide_eq_true h.1

theorem endsIn_terminalOf {steps : List PyStr} :
    endsIn (terminalOf path) (pathEventsFrom path evidence.1 sequence (steps ++ [lit "terminal"])) =
      true := by
  rw [endsIn, pathEventsFrom_append, pathEventsFrom, pathEventsFrom, List.getLast?_concat,
    Option.any_some, ResultPacket.isTerminal, pathEvent_kind, pathEvent_outcome, if_pos rfl]
  simp [Json.str?]

/-- A path passes by its terminals where there is one. -/
theorem checkTerminal_pathEventsFrom :
    ResultPacket.checkTerminal (passingClassification path)
        ((pathEventsFrom path evidence.1 sequence trace).filter ResultPacket.isTerminal) = .ok () ↔
      trace.count (lit "terminal") = 1 := by
  obtain ⟨hlength, houtcome⟩ :=
    @terminals_pathEventsFrom path evidence trace sequence
  rw [← hlength]
  generalize (pathEventsFrom path evidence.1 sequence trace).filter ResultPacket.isTerminal = terminals
    at houtcome
  constructor
  · intro h
    cases path <;>
    · simp only [ResultPacket.checkTerminal, passingClassification, bind_eq_ok, require_eq_ok,
        decide_eq_true_eq] at h
      exact h.choose_spec.1
  · intro hone
    obtain ⟨event, rfl⟩ := List.length_eq_one_iff.mp hone
    have hevent := houtcome event List.mem_cons_self
    cases path <;>
    · simp only [ResultPacket.checkTerminal, passingClassification, bind_eq_ok, require_eq_ok,
        decide_eq_true_eq, List.head?_cons, Option.any_some, hevent]
      exact ⟨(), rfl, by decide⟩

/-- The trace of a path is the declared one, so only its end decides. -/
theorem traceMatches_pathEventsFrom :
    traceMatches path (pathEventsFrom path evidence.1 sequence trace) trace =
      endsIn (terminalOf path) (pathEventsFrom path evidence.1 sequence trace) := by
  have hstart : (trace.head? != some (lit "start") ||
      decide ((trace.map some).head? = some (some (lit "start")))) = true := by
    rw [Bool.or_eq_true, bne_iff_ne, decide_eq_true_eq, List.head?_map]
    by_cases hhead : trace.head? = some (lit "start")
    · exact .inr (congrArg (Option.map some) hhead)
    · exact .inl hhead
  cases path with
  | denial =>
    rw [traceMatches, eventKindsOf_pathEventsFrom, hstart, Bool.and_true]
    rfl
  | positive | recovery =>
    rw [traceMatches, eventKindsOf_pathEventsFrom]
    simp [terminalOf]

/-- A trace with one terminal ends in it where its events end in the outcome of the path. -/
theorem endsInTerminal_iff : (trace.count (lit "terminal") = 1 ∧
    endsIn (terminalOf path) (pathEventsFrom path evidence.1 sequence trace) = true) ↔
      EndsInTerminal trace := by
  constructor
  · rintro ⟨hone, hends⟩
    obtain ⟨steps, rfl⟩ := List.getLast?_eq_some_iff.mp (getLast_of_endsIn hends)
    rw [List.count_append, List.count_singleton_self] at hone
    exact ⟨steps, rfl, List.count_eq_zero.mp (Nat.succ_injective hone)⟩
  · rintro ⟨steps, rfl, hsteps⟩
    refine ⟨?_, endsIn_terminalOf⟩
    rw [List.count_append, List.count_singleton_self, List.count_eq_zero.mpr hsteps]

/-- **Declared traces pass.** The events of a declared trace are valid and pass on their path exactly
where there are not too many of them, every kind is known, and the trace ends in its only
terminal. -/
theorem path_events_pass_iff (trace : List PyStr) (path : TrialPath) (evidence : Digest) :
    (normalizeEvents (.list ((normalizedPathEvents trace path evidence.1).map .dict)) =
          .ok (normalizedPathEvents trace path evidence.1) ∧
        ResultPacket.checkTerminal (passingClassification path)
          ((normalizedPathEvents trace path evidence.1).filter ResultPacket.isTerminal) = .ok () ∧
        isPass path (passingClassification path) = true ∧
        traceMatches path (normalizedPathEvents trace path evidence.1) trace = true) ↔
      trace.length ≤ maxNormalizedEvents ∧ (∀ kind ∈ trace, kind ∈ eventKinds) ∧
        EndsInTerminal trace := by
  rw [normalizeEvents_eq_ok, normalizedPathEvents, length_pathEventsFrom, checkTerminal_pathEventsFrom]
  have hfit : EventsFit 0 (pathEventsFrom path evidence.1 1 trace) ↔ ∀ kind ∈ trace, kind ∈ eventKinds :=
    pathEventsFrom_fit
  have hpass : isPass path (passingClassification path) = true := by cases path <;> rfl
  rw [hfit, traceMatches_pathEventsFrom, ← endsInTerminal_iff]
  constructor
  · rintro ⟨⟨-, hlength, hkinds⟩, hone, -, hends⟩
    exact ⟨hlength, hkinds, hone, hends⟩
  · rintro ⟨hlength, hkinds, hone, hends⟩
    exact ⟨⟨rfl, hlength, hkinds⟩, hone, hpass, hends⟩

end Traces

end HermesClaude.Parity
