/-
# Where a path begins and ends

The catalog declares the trace of a required path with its begin and its end code in it.  The
validator of results compares what lies between these two codes with what was observed, and
what was observed with the declaration.  The begin code stands once in a trace, so it does not
lie behind itself.
-/

import HermesClaude.Parity.Attempts
import HermesClaude.Parity.Catalog
import HermesClaude.Parity.CanonicalForm

namespace HermesClaude.Parity

open HermesClaude.Python HermesClaude.Library

/-! ## What the validators read -/

theorem Contract.valid_bind_eq_ok {α : Type} {condition : Bool} {field : String}
    {f : Unit → Except ContractFailure α} {a : α} :
    (Contract.valid condition field >>= f) = .ok a ↔ condition = true ∧ f () = .ok a :=
  check_bind_eq_ok

theorem Contract.orBad_eq_ok {α : Type} {value : Option α} {field : String} {a : α} :
    Contract.orBad value field = .ok a ↔ value = some a :=
  required_eq_ok

theorem Packets.valid_bind_eq_ok {α : Type} {condition : Bool} {message : String}
    {f : Unit → Except PacketFailure α} {a : α} :
    (Packets.valid condition message >>= f) = .ok a ↔ condition = true ∧ f () = .ok a :=
  check_bind_eq_ok

theorem Packets.valid_eq_ok {condition : Bool} {message : String} {u : Unit} :
    Packets.valid condition message = .ok u ↔ condition = true := by
  cases condition <;> simp [Packets.valid]

theorem Packets.orFail_eq_ok {α : Type} {value : Option α} {message : String} {a : α} :
    Packets.orFail value message = .ok a ↔ value = some a :=
  required_eq_ok

theorem Contract.obj_eq_ok {value : Json} {keys : List String} {field : String} {items : Entries}
    (h : Contract.obj value keys field = .ok items) : value = .dict items := by
  unfold Contract.obj at h
  split at h
  next =>
    split_ifs at h
    cases h
    rfl
  next => cases h

theorem Packets.obj_eq_ok {value : Json} {keys : List String} {label : String} {items : Entries}
    (h : Packets.obj value keys label = .ok items) : value = .dict items := by
  unfold Packets.obj at h
  split at h
  next =>
    split_ifs at h
    cases h
    rfl
  next => cases h

theorem Contract.list_eq_ok {value : Json} {field : String} {maximum : Nat} {items : List Json}
    (h : Contract.list value field maximum = .ok items) : value = .list items := by
  unfold Contract.list at h
  split at h
  next =>
    split_ifs at h
    cases h
    rfl
  next => cases h

theorem Packets.arr_eq_ok {value : Json} {label : String} {maximum : Nat} {items : List Json}
    (h : Packets.arr value label maximum = .ok items) : value = .list items := by
  unfold Packets.arr at h
  split at h
  next =>
    split_ifs at h
    cases h
    rfl
  next => cases h

/-- A value that is read as a known text is this text. -/
theorem str_of_filter {value : Json} {p : PyStr → Bool} {text : PyStr}
    (h : value.str?.filter p = some text) : value = .str text := by
  obtain ⟨hvalue, -⟩ := Option.filter_eq_some_iff.mp h
  cases value <;> cases hvalue
  rfl

theorem Contract.enum_eq_ok {value : Json} {allowed : List String} {field : String} {text : PyStr}
    (h : Contract.enum value allowed field = .ok text) : value = .str text :=
  str_of_filter (Contract.orBad_eq_ok.mp h)

theorem Packets.enum_eq_ok {value : Json} {allowed : List String} {label : String} {text : PyStr}
    (h : Packets.enum value allowed label = .ok text) : value = .str text :=
  str_of_filter (Packets.orFail_eq_ok.mp h)

theorem Contract.bool_eq_ok {value : Json} {field : String} {b : Bool}
    (h : Contract.bool value field = .ok b) : value = .bool b := by
  cases value <;> cases h
  rfl

theorem Packets.bool_eq_ok {value : Json} {label : String} {b : Bool}
    (h : Packets.bool value label = .ok b) : value = .bool b := by
  cases value <;> cases h
  rfl

/-- A list of values that are read as known texts is a list of texts. -/
theorem texts_of_forall₂ {items : List Json} {texts : List PyStr}
    (h : List.Forall₂ (fun item text => item = .str text) items texts) :
    items = texts.map .str := by
  induction h with
  | nil => rfl
  | cons hhead _ ih => rw [List.map_cons, hhead, ih]

theorem Packets.codes_eq_ok {value : Json} {label : String} {texts : List PyStr}
    (h : Packets.codes value label = .ok texts) : value = .list (texts.map .str) := by
  unfold Packets.codes at h
  obtain ⟨items, hitems, h⟩ := bind_eq_ok.mp h
  rw [Packets.arr_eq_ok hitems, Json.list.injEq]
  apply texts_of_forall₂
  exact (mapM_eq_ok.mp h).imp fun item text hcode => str_of_filter (Packets.orFail_eq_ok.mp hcode)

/-- What an accepted declaration of a path was read from. -/
structure Declares (value : Json) (path : PathDeclaration) : Prop where
  dict : ∃ items, value = .dict items ∧ Entries.field items "required" = .bool path.required ∧
    Entries.field items "expected_outcome" = .str path.expectedOutcome ∧
    Entries.field items "trace_codes" = .list (path.traceCodes.map .str)

theorem Contract.path_eq_ok {library : ContractLibrary} {role : TrialPath} {field : String}
    {value : Json} {path : PathDeclaration}
    (h : Contract.path library role field value = .ok path) :
    Declares value path ∧ (path.required = true → Contract.requiredChecks role path = true) := by
  unfold Contract.path at h
  obtain ⟨items, hitems, h⟩ := bind_eq_ok.mp h
  obtain ⟨required, hrequired, h⟩ := bind_eq_ok.mp h
  obtain ⟨expected, hexpected, h⟩ := bind_eq_ok.mp h
  obtain ⟨traces, htraces, h⟩ := bind_eq_ok.mp h
  obtain ⟨codes, hcodes, h⟩ := bind_eq_ok.mp h
  obtain ⟨terminal, -, h⟩ := bind_eq_ok.mp h
  obtain ⟨kind, -, h⟩ := bind_eq_ok.mp h
  obtain ⟨count, -, h⟩ := bind_eq_ok.mp h
  obtain ⟨calls, -, h⟩ := bind_eq_ok.mp h
  obtain ⟨toolCalls, -, h⟩ := bind_eq_ok.mp h
  obtain ⟨sideEffects, -, h⟩ := bind_eq_ok.mp h
  obtain ⟨events, -, h⟩ := bind_eq_ok.mp h
  obtain ⟨sdkEvents, -, h⟩ := bind_eq_ok.mp h
  obtain ⟨before, -, h⟩ := bind_eq_ok.mp h
  obtain ⟨after, -, h⟩ := bind_eq_ok.mp h
  obtain ⟨-, h⟩ := valid_bind_eq_ok.mp h
  obtain ⟨hchecks, h⟩ := valid_bind_eq_ok.mp h
  cases h
  refine ⟨⟨items, obj_eq_ok hitems, bool_eq_ok hrequired, enum_eq_ok hexpected, ?_⟩, ?_⟩
  · rw [list_eq_ok htraces, Json.list.injEq]
    apply texts_of_forall₂
    exact (mapM_eq_ok.mp hcodes).imp fun item text hcode => str_of_filter (orBad_eq_ok.mp hcode)
  · rintro (rfl : required = true)
    exact hchecks

theorem Packets.path_eq_ok {label : String} {value : Json} {path : PathDeclaration}
    (h : Packets.path value label = .ok path) : Declares value path := by
  unfold Packets.path at h
  obtain ⟨items, hitems, h⟩ := bind_eq_ok.mp h
  obtain ⟨required, hrequired, h⟩ := bind_eq_ok.mp h
  obtain ⟨expected, hexpected, h⟩ := bind_eq_ok.mp h
  obtain ⟨codes, hcodes, h⟩ := bind_eq_ok.mp h
  obtain ⟨terminal, -, h⟩ := bind_eq_ok.mp h
  obtain ⟨calls, -, h⟩ := bind_eq_ok.mp h
  obtain ⟨toolCalls, -, h⟩ := bind_eq_ok.mp h
  obtain ⟨sideEffects, -, h⟩ := bind_eq_ok.mp h
  obtain ⟨events, -, h⟩ := bind_eq_ok.mp h
  obtain ⟨sdkEvents, -, h⟩ := bind_eq_ok.mp h
  obtain ⟨before, -, h⟩ := bind_eq_ok.mp h
  obtain ⟨after, -, h⟩ := bind_eq_ok.mp h
  obtain ⟨-, h⟩ := valid_bind_eq_ok.mp h
  obtain ⟨-, h⟩ := valid_bind_eq_ok.mp h
  obtain ⟨-, h⟩ := valid_bind_eq_ok.mp h
  obtain ⟨-, h⟩ := valid_bind_eq_ok.mp h
  obtain ⟨-, h⟩ := valid_bind_eq_ok.mp h
  cases h
  exact ⟨items, obj_eq_ok hitems, bool_eq_ok hrequired, enum_eq_ok hexpected, codes_eq_ok hcodes⟩

/-- Both validators read the same outcome and the same trace codes off a declaration. -/
theorem Declares.unique {value : Json} {path path' : PathDeclaration} (h : Declares value path)
    (h' : Declares value path') : path'.required = path.required ∧
      path'.expectedOutcome = path.expectedOutcome ∧ path'.traceCodes = path.traceCodes := by
  obtain ⟨items, rfl, hrequired, hexpected, hcodes⟩ := h
  obtain ⟨items', heq, hrequired', hexpected', hcodes'⟩ := h'
  cases heq
  rw [hrequired, Json.bool.injEq] at hrequired'
  rw [hexpected, Json.str.injEq] at hexpected'
  rw [hcodes, Json.list.injEq] at hcodes'
  refine ⟨hrequired'.symm, hexpected'.symm, ?_⟩
  exact (List.map_injective_iff.mpr (fun _ _ => Json.str.inj) hcodes').symm

/-! ## Boundaries -/

theorem ne_of_requiredChecks {role : TrialPath} {path : PathDeclaration}
    (h : Contract.requiredChecks role path = true) :
    path.traceCodes.head? = some (pathCode role "begin") ∧
      (path.expectedOutcome = lit "PASS" ∨ path.expectedOutcome = lit "EXPECTED_NEGATIVE") := by
  simp only [Contract.requiredChecks, Bool.and_eq_true, beq_iff_eq] at h
  obtain ⟨⟨⟨⟨⟨hhead, -⟩, -⟩, -⟩, hrole⟩, -⟩ := h
  refine ⟨hhead, ?_⟩
  split_ifs at hrole
  · simp only [Bool.and_eq_true, beq_iff_eq] at hrole
    exact .inr hrole.1
  · simp only [Bool.and_eq_true, beq_iff_eq] at hrole
    exact .inl hrole.1

/-- What stands once in a list does not stand behind itself. -/
theorem notMem_drop_of_count {α : Type} [BEq α] [LawfulBEq α] {items : List α} {a : α}
    (h : items.count a = 1) : a ∉ items.drop (items.idxOf a + 1) := by
  have hmem : a ∈ items := List.count_pos_iff.mp (by omega)
  have hlt : items.idxOf a < items.length := List.idxOf_lt_length_of_mem hmem
  have hsplit : items = items.take (items.idxOf a) ++ a :: items.drop (items.idxOf a + 1) := by
    have hcons : items.drop (items.idxOf a) = a :: items.drop (items.idxOf a + 1) := by
      rw [List.drop_eq_getElem_cons hlt, List.getElem_idxOf]
    rw [← hcons, List.take_append_drop]
  intro hbehind
  have hcount : 1 ≤ (items.drop (items.idxOf a + 1)).count a := List.count_pos_iff.mpr hbehind
  rw [hsplit, List.count_append, List.count_cons_self] at h
  omega

/-- The begin code of a path is not among the codes that lie within its boundaries. -/
theorem begin_notMem_of_boundaries {trace observed : List PyStr} {role : TrialPath} {label : String}
    {u : Unit} (h : Packets.boundaries trace role observed label = .ok u) :
    pathCode role "begin" ∉ observed := by
  unfold Packets.boundaries at h
  obtain ⟨hcounts, h⟩ := Packets.valid_bind_eq_ok.mp h
  have hslice := Packets.valid_eq_ok.mp h
  simp only [Bool.and_eq_true, beq_iff_eq] at hcounts hslice
  rw [← hslice.2]
  intro hmem
  apply notMem_drop_of_count hcounts.1
  rw [List.drop_take] at hmem
  exact List.mem_of_mem_take hmem

/-- No trace has boundaries for the codes that a required path declares. -/
theorem not_boundaries_of_declared {role : TrialPath} {path : PathDeclaration}
    (h : Contract.requiredChecks role path = true) (trace : List PyStr) (label : String) :
    ∀ u, Packets.boundaries trace role path.traceCodes label ≠ .ok u := by
  intro u hok
  apply begin_notMem_of_boundaries hok
  exact List.mem_of_mem_head? (ne_of_requiredChecks h).1

/-! ## Attempts -/

section Attempts

variable {library : ContractLibrary} {value : Json} {expectedPaths : TrialPath → Json}
  {label : String} {expectedTrace : Option (List PyStr)} {a : Packets.Attempt}

/-- What an accepted path status says. -/
theorem Packets.validatePathStatus_eq_ok {expected : PyStr} {label : String}
    {status : Packets.PathStatus} (h : Packets.validatePathStatus value expected label = .ok status) :
    ∃ items, value = .dict items ∧ Entries.field items "status" = .str status.status ∧
      Entries.field items "observed_trace_codes" = .list (status.observed.map .str) ∧
      status.qualification = Packets.derivePathQualification expected status.status := by
  unfold Packets.validatePathStatus at h
  obtain ⟨items, hitems, h⟩ := bind_eq_ok.mp h
  obtain ⟨text, hstatus, h⟩ := bind_eq_ok.mp h
  obtain ⟨observed, hobserved, h⟩ := bind_eq_ok.mp h
  obtain ⟨⟨kind, count⟩, -, h⟩ := bind_eq_ok.mp h
  obtain ⟨-, h⟩ := valid_bind_eq_ok.mp h
  obtain ⟨-, h⟩ := valid_bind_eq_ok.mp h
  obtain ⟨-, h⟩ := valid_bind_eq_ok.mp h
  obtain ⟨-, h⟩ := valid_bind_eq_ok.mp h
  cases h
  exact ⟨items, obj_eq_ok hitems, enum_eq_ok hstatus, codes_eq_ok hobserved, rfl⟩

/-- What an accepted path of an attempt says, next to its declaration. -/
structure PathAccepted (trace : List PyStr) (declaration : PathDeclaration) (role : TrialPath)
    (status : Packets.PathStatus) : Prop where
  qualification : status.qualification =
    Packets.derivePathQualification declaration.expectedOutcome status.status
  declared : status.status = lit "PASS" ∨ status.status = lit "EXPECTED_NEGATIVE" →
    status.observed = declaration.traceCodes
  boundaries : Packets.isExecuted status.status = true →
    ∃ label u, Packets.boundaries trace role status.observed label = .ok u

theorem Packets.pathStatus_eq_ok {trace : List PyStr} {paths statuses : Entries} {role : TrialPath}
    {status : Packets.PathStatus}
    (h : Packets.pathStatus trace paths statuses (some expectedPaths) label role = .ok status) :
    ∃ declaration, Declares (expectedPaths role) declaration ∧
      PathAccepted trace declaration role status ∧
      ∃ items, statuses.field (roleName role) = .dict items ∧
        Entries.field items "status" = .str status.status ∧
        Entries.field items "observed_trace_codes" = .list (status.observed.map .str) := by
  unfold Packets.pathStatus at h
  obtain ⟨actual, -, h⟩ := bind_eq_ok.mp h
  obtain ⟨declaration, hdeclaration, h⟩ := bind_eq_ok.mp h
  obtain ⟨-, h⟩ := valid_bind_eq_ok.mp h
  obtain ⟨checked, hchecked, h⟩ := bind_eq_ok.mp h
  obtain ⟨-, h⟩ := valid_bind_eq_ok.mp h
  obtain ⟨-, h⟩ := valid_bind_eq_ok.mp h
  obtain ⟨hdeclared, h⟩ := valid_bind_eq_ok.mp h
  obtain ⟨items, hitems, hstatus, hobserved, hqualification⟩ := validatePathStatus_eq_ok hchecked
  have hsame : checked = status ∧ (isExecuted checked.status = true →
      ∃ label u, boundaries trace role checked.observed label = .ok u) := by
    split_ifs at h with hexecuted
    · obtain ⟨u, hboundaries, h⟩ := bind_eq_ok.mp h
      cases h
      exact ⟨rfl, fun _ => ⟨_, u, hboundaries⟩⟩
    · cases h
      exact ⟨rfl, fun hexecuted' => absurd hexecuted' hexecuted⟩
  obtain ⟨rfl, hboundaries⟩ := hsame
  refine ⟨declaration, path_eq_ok hdeclaration, ⟨hqualification, ?_, hboundaries⟩, items, hitems,
    hstatus, hobserved⟩
  intro houtcome
  have hcases : (¬ checked.status = lit "PASS" ∧ ¬ checked.status = lit "EXPECTED_NEGATIVE") ∨
      checked.observed = declaration.traceCodes := by
    simpa using hdeclared
  exact hcases.resolve_left fun hneither => houtcome.elim hneither.1 hneither.2

/-- What an accepted attempt says of each path. -/
theorem Packets.attempt_eq_ok
    (h : Packets.attempt value (some expectedPaths) label expectedTrace = .ok a) :
    ∃ items statuses, value = .dict items ∧ Entries.field items "path_status" = .dict statuses ∧
      ∃ paths, List.Forall₂ (fun role status =>
        Packets.pathStatus a.trace paths statuses (some expectedPaths) label role = .ok status)
        trialPaths a.statuses := by
  unfold Packets.attempt at h
  obtain ⟨items, hitems, h⟩ := bind_eq_ok.mp h
  obtain ⟨ordinal, -, h⟩ := bind_eq_ok.mp h
  obtain ⟨fresh, -, h⟩ := bind_eq_ok.mp h
  obtain ⟨candidate, -, h⟩ := bind_eq_ok.mp h
  obtain ⟨execution, -, h⟩ := bind_eq_ok.mp h
  obtain ⟨boundary, -, h⟩ := bind_eq_ok.mp h
  obtain ⟨entries, -, h⟩ := bind_eq_ok.mp h
  obtain ⟨trace, -, h⟩ := bind_eq_ok.mp h
  obtain ⟨paths, -, h⟩ := bind_eq_ok.mp h
  obtain ⟨statuses, hstatuses, h⟩ := bind_eq_ok.mp h
  obtain ⟨differs, -, h⟩ := bind_eq_ok.mp h
  obtain ⟨-, h⟩ := valid_bind_eq_ok.mp h
  obtain ⟨checked, hchecked, h⟩ := bind_eq_ok.mp h
  obtain ⟨-, h⟩ := valid_bind_eq_ok.mp h
  obtain ⟨resume, -, h⟩ := bind_eq_ok.mp h
  obtain ⟨billingSafe, -, h⟩ := bind_eq_ok.mp h
  cases h
  exact ⟨items, statuses, obj_eq_ok hitems, obj_eq_ok hstatuses, paths, mapM_eq_ok.mp hchecked⟩

/-- A path whose status is the one that was declared has no boundaries. -/
theorem not_declared_of_accepted {trace : List PyStr} {role : TrialPath}
    {declaration path : PathDeclaration} {status : Packets.PathStatus}
    (haccepted : PathAccepted trace declaration role status)
    (hchecks : Contract.requiredChecks role path = true)
    (hcodes : declaration.traceCodes = path.traceCodes) :
    ¬ (status.status = lit "PASS" ∨ status.status = lit "EXPECTED_NEGATIVE") := by
  intro houtcome
  have hexecuted : Packets.isExecuted status.status = true := by
    rcases houtcome with hpass | hnegative
    · rw [hpass]
      decide
    · rw [hnegative]
      decide
  obtain ⟨label, u, hboundaries⟩ := haccepted.boundaries hexecuted
  rw [haccepted.declared houtcome, hcodes] at hboundaries
  exact not_boundaries_of_declared hchecks trace label u hboundaries

/-- The attempt records the declared outcome of a path, and the declared codes. -/
def Records (value : Json) (role : TrialPath) (path : PathDeclaration) : Prop :=
  ∃ items statuses status, value = .dict items ∧ Entries.field items "path_status" = .dict statuses ∧
    Entries.field statuses (Packets.roleName role) = .dict status ∧
    Entries.field status "status" = .str path.expectedOutcome ∧
    Entries.field status "observed_trace_codes" = .list (path.traceCodes.map .str)

/-- What an accepted attempt says of one path. -/
theorem Packets.exists_pathStatus (role : TrialPath)
    (h : Packets.attempt value (some expectedPaths) label expectedTrace = .ok a) :
    ∃ items statuses status declaration, value = .dict items ∧
      Entries.field items "path_status" = .dict statuses ∧ status ∈ a.statuses ∧
      Declares (expectedPaths role) declaration ∧ PathAccepted a.trace declaration role status ∧
      ∃ fields, Entries.field statuses (roleName role) = .dict fields ∧
        Entries.field fields "status" = .str status.status := by
  obtain ⟨items, statuses, hitems, hstatuses, paths, hall⟩ := attempt_eq_ok h
  obtain ⟨index, hindex, hrole⟩ := List.getElem_of_mem (mem_trialPaths role)
  have hlt : index < a.statuses.length := hall.length_eq ▸ hindex
  have hstatus := List.forall₂_iff_get.mp hall
  have hone := hstatus.2 index hindex hlt
  rw [List.get_eq_getElem, List.get_eq_getElem, hrole] at hone
  obtain ⟨declaration, hdeclares, haccepted, fields, hfields, htext, -⟩ := pathStatus_eq_ok hone
  exact ⟨items, statuses, a.statuses[index], declaration, hitems, hstatuses,
    List.getElem_mem hlt, hdeclares, haccepted, fields, hfields, htext⟩

/-- An attempt that records the declared outcome and codes of a required path is refused. -/
theorem attempt_refused {role : TrialPath} {field : String} {declared : Json} {path : PathDeclaration}
    (hdeclared : Contract.path library role field declared = .ok path) (hrequired : path.required = true)
    (hrecords : Records value role path) (hexpected : expectedPaths role = declared) :
    ∀ a, Packets.attempt value (some expectedPaths) label expectedTrace ≠ .ok a := by
  obtain ⟨hdeclares, hchecks⟩ := Contract.path_eq_ok hdeclared
  intro a haccepted
  obtain ⟨items, statuses, status, rfl, hstatuses, hstatus, houtcome, -⟩ := hrecords
  obtain ⟨items', statuses', status', declaration, heq, hstatuses', -, hdeclares', haccepted',
    fields, hfields, htext⟩ := Packets.exists_pathStatus role haccepted
  cases heq
  rw [hstatuses, Json.dict.injEq] at hstatuses'
  subst hstatuses'
  rw [hstatus, Json.dict.injEq] at hfields
  subst hfields
  rw [houtcome, Json.str.injEq] at htext
  rw [hexpected] at hdeclares'
  apply not_declared_of_accepted haccepted' (hchecks hrequired) (hdeclares.unique hdeclares').2.2
  rw [← htext]
  exact (ne_of_requiredChecks (hchecks hrequired)).2

/-- An accepted attempt of a capability with a required path does not pass. -/
theorem attempt_does_not_pass {role : TrialPath} {field : String} {path : PathDeclaration}
    (hdeclared : Contract.path library role field (expectedPaths role) = .ok path)
    (hrequired : path.required = true)
    (haccepted : Packets.attempt value (some expectedPaths) label expectedTrace = .ok a) :
    a.passes = false := by
  obtain ⟨hdeclares, hchecks⟩ := Contract.path_eq_ok hdeclared
  obtain ⟨-, -, status, declaration, -, -, hmem, hdeclares', haccepted', -⟩ :=
    Packets.exists_pathStatus role haccepted
  obtain ⟨-, hsame, hcodes⟩ := hdeclares.unique hdeclares'
  have hnot := not_declared_of_accepted haccepted' (hchecks hrequired) hcodes
  obtain ⟨-, houtcome⟩ := ne_of_requiredChecks (hchecks hrequired)
  rw [← hsame] at houtcome
  rw [← Bool.not_eq_true]
  intro hpasses
  have hqualified := of_decide_eq_true (List.all_eq_true.mp hpasses status hmem)
  rw [haccepted'.qualification] at hqualified
  -- a status other than the declared outcome makes the path blocked, pending or failed
  have hfailed : Packets.derivePathQualification declaration.expectedOutcome status.status ∈
      ["BLOCKED", "PENDING", "FAIL"].map lit := by
    unfold Packets.derivePathQualification
    split_ifs with hblocked hpending hnotApplicable hsame' hdone
    · decide
    · decide
    · rw [hsame', hnotApplicable] at houtcome
      revert houtcome
      decide
    · decide
    · rw [← hdone] at houtcome
      exact absurd houtcome hnot
    · decide
  revert hqualified
  simp only [List.map_cons, List.map_nil, List.mem_cons, List.not_mem_nil, or_false] at hfailed
  rcases hfailed with h | h | h
  all_goals
    rw [h]
    decide

end Attempts

/-! ## Catalogs -/

section Catalogs

variable {library : ContractLibrary} {sourceKeys : List RowKey}
  {tools : List Contract.InventoryEntry} {ledger : List Contract.LedgerRow}

/-- The declaration of a path in a capability. -/
def Contract.Capability.declaration (capability : Contract.Capability) (role : TrialPath) : Json :=
  capability.items.field role.key

/-- A capability with a row of another pack than the SDK's has a required path. -/
theorem Contract.exists_required {value : Json} {capability : Contract.Capability}
    (h : Contract.capability library sourceKeys tools ledger value = .ok capability) {row : PyStr}
    (hrow : (lit "v2_non_soak", row) ∈ capability.sourceRows) :
    ∃ (role : TrialPath) (path : PathDeclaration),
      Contract.path library role role.key (capability.declaration role) = .ok path ∧
        path.required = true := by
  unfold Contract.capability at h
  obtain ⟨result, -, h⟩ := bind_eq_ok.mp h
  obtain ⟨id, -, h⟩ := bind_eq_ok.mp h
  obtain ⟨rows, -, h⟩ := bind_eq_ok.mp h
  obtain ⟨mapped, -, h⟩ := bind_eq_ok.mp h
  obtain ⟨-, h⟩ := valid_bind_eq_ok.mp h
  obtain ⟨-, h⟩ := valid_bind_eq_ok.mp h
  obtain ⟨scenarioId, -, h⟩ := bind_eq_ok.mp h
  obtain ⟨hlanes, h⟩ := valid_bind_eq_ok.mp h
  obtain ⟨surface, -, h⟩ := bind_eq_ok.mp h
  obtain ⟨owner, -, h⟩ := bind_eq_ok.mp h
  obtain ⟨-, h⟩ := valid_bind_eq_ok.mp h
  obtain ⟨positive, hpositive, h⟩ := bind_eq_ok.mp h
  obtain ⟨denial, hdenial, h⟩ := bind_eq_ok.mp h
  obtain ⟨recovery, hrecovery, h⟩ := bind_eq_ok.mp h
  obtain ⟨before, -, h⟩ := bind_eq_ok.mp h
  obtain ⟨after, -, h⟩ := bind_eq_ok.mp h
  obtain ⟨traces, -, h⟩ := bind_eq_ok.mp h
  obtain ⟨trace, -, h⟩ := bind_eq_ok.mp h
  obtain ⟨proof, -, h⟩ := bind_eq_ok.mp h
  obtain ⟨secondary, -, h⟩ := bind_eq_ok.mp h
  obtain ⟨proofs, -, h⟩ := bind_eq_ok.mp h
  obtain ⟨policy, -, h⟩ := bind_eq_ok.mp h
  obtain ⟨mode, -, h⟩ := bind_eq_ok.mp h
  obtain ⟨reason, -, h⟩ := bind_eq_ok.mp h
  obtain ⟨-, h⟩ := valid_bind_eq_ok.mp h
  obtain ⟨scope, -, h⟩ := bind_eq_ok.mp h
  obtain ⟨classification, -, h⟩ := bind_eq_ok.mp h
  obtain ⟨-, h⟩ := valid_bind_eq_ok.mp h
  obtain ⟨hrequired, h⟩ := valid_bind_eq_ok.mp h
  obtain ⟨-, h⟩ := valid_bind_eq_ok.mp h
  cases h
  -- all rows have the lane of the given one, which is not the SDK's
  have hnone : mapped.filter (fun row => row.1 = lit "sdk_boundary") = [] := by
    rw [Bool.and_eq_true] at hlanes
    have hsame : ∀ other ∈ mapped, laneByPack.lookup other.1 =
        (mapped.map fun row => laneByPack.lookup row.1).head?.join := by
      intro other hother
      exact eq_of_beq (List.all_eq_true.mp hlanes.1 _ (List.mem_map_of_mem hother))
    rw [List.filter_eq_nil_iff]
    intro other hother hsdk
    have hlane := (hsame other hother).trans (hsame _ hrow).symm
    rw [of_decide_eq_true hsdk] at hlane
    change laneByPack.lookup (lit "sdk_boundary") = laneByPack.lookup (lit "v2_non_soak") at hlane
    revert hlane
    decide
  rw [hnone] at hrequired
  simp only [Bool.and_eq_true, List.isEmpty_nil, Bool.not_true, Bool.false_and, Bool.false_or,
    List.any_cons, List.any_nil, Bool.or_false, Bool.or_eq_true] at hrequired
  rcases hrequired.2 with hpath | hpath | hpath
  · exact ⟨.positive, positive, hpositive, hpath⟩
  · exact ⟨.denial, denial, hdenial, hpath⟩
  · exact ⟨.recovery, recovery, hrecovery, hpath⟩

/-- Every capability of a list that is accepted is accepted by itself. -/
theorem Contract.mem_capabilities {ids scenarios : List PyStr} {mapped : List RowKey}
    {values : List Json} {checked : List Contract.Capability}
    (h : Contract.capabilities library sourceKeys tools ledger ids scenarios mapped values = .ok checked)
    {capability : Contract.Capability} (hmem : capability ∈ checked) :
    ∃ value, Contract.capability library sourceKeys tools ledger value = .ok capability := by
  induction values generalizing ids scenarios mapped checked with
  | nil =>
    cases h
    cases hmem
  | cons value rest ih =>
    rw [Contract.capabilities] at h
    obtain ⟨first, hfirst, h⟩ := bind_eq_ok.mp h
    obtain ⟨-, h⟩ := valid_bind_eq_ok.mp h
    obtain ⟨others, hothers, h⟩ := bind_eq_ok.mp h
    cases h
    rcases List.mem_cons.mp hmem with rfl | hmem
    · exact ⟨value, hfirst⟩
    · exact ih hothers hmem

/-- The first pack of a catalog has as many rows as it should. -/
theorem Contract.pack_eq_ok {expected : PyStr × Nat} {value : Json} {pack : Entries × List PyStr}
    (h : Contract.pack library expected value = .ok pack) : pack.2.length = expected.2 := by
  unfold Contract.pack at h
  obtain ⟨result, -, h⟩ := bind_eq_ok.mp h
  obtain ⟨-, h⟩ := valid_bind_eq_ok.mp h
  obtain ⟨items, -, h⟩ := bind_eq_ok.mp h
  obtain ⟨rows, hrows, h⟩ := bind_eq_ok.mp h
  obtain ⟨hlength, h⟩ := valid_bind_eq_ok.mp h
  rw [Bool.and_eq_true, beq_iff_eq] at hlength
  obtain ⟨source, -, h⟩ := bind_eq_ok.mp h
  obtain ⟨kind, -, h⟩ := bind_eq_ok.mp h
  obtain ⟨repo, -, h⟩ := bind_eq_ok.mp h
  obtain ⟨commit, -, h⟩ := bind_eq_ok.mp h
  obtain ⟨sourceRef, -, h⟩ := bind_eq_ok.mp h
  obtain ⟨artifact, -, h⟩ := bind_eq_ok.mp h
  obtain ⟨provenance, -, h⟩ := bind_eq_ok.mp h
  obtain ⟨origin, -, h⟩ := bind_eq_ok.mp h
  obtain ⟨license, -, h⟩ := bind_eq_ok.mp h
  obtain ⟨attribution, -, h⟩ := bind_eq_ok.mp h
  obtain ⟨digest, -, h⟩ := bind_eq_ok.mp h
  obtain ⟨hash, -, h⟩ := bind_eq_ok.mp h
  obtain ⟨u, -, h⟩ := bind_eq_ok.mp h
  cases h
  exact hlength.2

/-- What an accepted catalog says of its packs and its capabilities. -/
theorem Contract.validateCatalog_eq_ok {value : PyValue} {catalog : Contract.Catalog}
    (h : Contract.validateCatalog library value = .ok catalog) :
    (∀ rows, (lit "v2_non_soak", rows) ∈ catalog.packs → ∀ row ∈ rows,
        ∃ capability ∈ catalog.capabilities, (lit "v2_non_soak", row) ∈ capability.sourceRows) ∧
      (∃ rows, (lit "v2_non_soak", rows) ∈ catalog.packs ∧ rows.length = 53) ∧
      ∀ capability ∈ catalog.capabilities, ∃ sourceKeys tools ledger value,
        Contract.capability library sourceKeys tools ledger value = .ok capability := by
  unfold Contract.validateCatalog at h
  obtain ⟨canonical, -, h⟩ := bind_eq_ok.mp h
  obtain ⟨items, -, h⟩ := bind_eq_ok.mp h
  obtain ⟨-, h⟩ := valid_bind_eq_ok.mp h
  obtain ⟨envelopeHash, -, h⟩ := bind_eq_ok.mp h
  obtain ⟨-, -, h⟩ := bind_eq_ok.mp h
  obtain ⟨-, -, h⟩ := bind_eq_ok.mp h
  obtain ⟨-, -, h⟩ := bind_eq_ok.mp h
  obtain ⟨-, -, h⟩ := bind_eq_ok.mp h
  obtain ⟨values, -, h⟩ := bind_eq_ok.mp h
  obtain ⟨hlength, h⟩ := valid_bind_eq_ok.mp h
  obtain ⟨packs, hpacks, h⟩ := bind_eq_ok.mp h
  obtain ⟨-, h⟩ := valid_bind_eq_ok.mp h
  obtain ⟨mapHash, -, h⟩ := bind_eq_ok.mp h
  obtain ⟨-, -, h⟩ := bind_eq_ok.mp h
  obtain ⟨tools, -, h⟩ := bind_eq_ok.mp h
  obtain ⟨ledger, -, h⟩ := bind_eq_ok.mp h
  obtain ⟨caps, -, h⟩ := bind_eq_ok.mp h
  obtain ⟨ids, -, h⟩ := bind_eq_ok.mp h
  obtain ⟨-, h⟩ := valid_bind_eq_ok.mp h
  obtain ⟨checked, hchecked, h⟩ := bind_eq_ok.mp h
  obtain ⟨hmapped, h⟩ := valid_bind_eq_ok.mp h
  obtain ⟨partitionValues, -, h⟩ := bind_eq_ok.mp h
  obtain ⟨parts, -, h⟩ := bind_eq_ok.mp h
  obtain ⟨-, h⟩ := valid_bind_eq_ok.mp h
  obtain ⟨hash, -, h⟩ := bind_eq_ok.mp h
  obtain ⟨-, -, h⟩ := bind_eq_ok.mp h
  cases h
  rw [Bool.and_eq_true] at hmapped
  refine ⟨?_, ?_, ?_⟩
  · intro rows hrows row hrow
    have hkey := List.all_eq_true.mp hmapped.1 (lit "v2_non_soak", row)
      (List.mem_flatMap.mpr ⟨_, hrows, List.mem_map_of_mem hrow⟩)
    obtain ⟨capability, hcapability, hmem⟩ := List.mem_flatMap.mp (of_decide_eq_true hkey)
    exact ⟨capability, hcapability, hmem⟩
  · have hall := mapM_eq_ok.mp hpacks
    have hfour : values.length = 4 := by simpa [expectedPackCounts] using hlength
    obtain ⟨first, others, rfl⟩ : ∃ first others, values = first :: others := by
      cases values with
      | nil => cases hfour
      | cons first others => exact ⟨first, others, rfl⟩
    cases hall with
    | cons hfirst _ =>
      refine ⟨_, ?_, Contract.pack_eq_ok hfirst⟩
      exact List.mem_cons_self
  · intro capability hcapability
    obtain ⟨value, hvalue⟩ := Contract.mem_capabilities hchecked hcapability
    exact ⟨_, tools, ledger, value, hvalue⟩

/-- Of every catalog that is accepted, some capability has a required path. -/
theorem Contract.exists_capability {value : PyValue} {catalog : Contract.Catalog}
    (h : Contract.validateCatalog library value = .ok catalog) :
    ∃ capability ∈ catalog.capabilities, ∃ (role : TrialPath) (path : PathDeclaration),
      Contract.path library role role.key (capability.declaration role) = .ok path ∧
        path.required = true := by
  obtain ⟨hmapped, ⟨rows, hrows, hlength⟩, haccepted⟩ := Contract.validateCatalog_eq_ok h
  obtain ⟨row, hrow⟩ := List.exists_mem_of_length_pos (by omega : 0 < rows.length)
  obtain ⟨capability, hcapability, hsource⟩ := hmapped rows hrows row hrow
  obtain ⟨sourceKeys, tools, ledger, raw, hraw⟩ := haccepted capability hcapability
  exact ⟨capability, hcapability, Contract.exists_required hraw hsource⟩

end Catalogs

/-- The two validators agree on no required path.  For every path that the catalog validator
accepts as required, no trace has boundaries for the declared codes, and every attempt that
records the declared outcome and codes is refused.  Of every catalog that is accepted, some
capability has no passing attempt. -/
theorem path_traces_disagree (library : ContractLibrary) :
    (∀ (role : TrialPath) (field : String) (declared : Json) (path : PathDeclaration),
      Contract.path library role field declared = .ok path → path.required = true →
        (∀ trace label u, Packets.boundaries trace role path.traceCodes label ≠ .ok u) ∧
        ∀ value expectedPaths label expectedTrace, Records value role path →
          expectedPaths role = declared →
          ∀ a, Packets.attempt value (some expectedPaths) label expectedTrace ≠ .ok a) ∧
      ∀ value catalog, Contract.validateCatalog library value = .ok catalog →
        ∃ capability ∈ catalog.capabilities, ∀ value label expectedTrace a,
          Packets.attempt value (some capability.declaration) label expectedTrace = .ok a →
            a.passes = false := by
  constructor
  · intro role field declared path hdeclared hrequired
    refine ⟨?_, ?_⟩
    · intro trace label
      exact not_boundaries_of_declared ((Contract.path_eq_ok hdeclared).2 hrequired) trace label
    · intro value expectedPaths label expectedTrace hrecords hexpected
      exact attempt_refused hdeclared hrequired hrecords hexpected
  · intro value catalog hcatalog
    obtain ⟨capability, hcapability, role, path, hdeclared, hrequired⟩ :=
      Contract.exists_capability hcatalog
    refine ⟨capability, hcapability, ?_⟩
    intro value label expectedTrace a haccepted
    exact attempt_does_not_pass hdeclared hrequired haccepted

/-! ## A small attempt -/

/-- A library for ASCII documents. -/
def asciiContractLibrary : ContractLibrary where
  toCanonicalLibrary := sampleLibrary
  casefold text := text.map CodePoint.asciiLower

/-- A document with the given fields. -/
def jsonOf (fields : List (String × Json)) : Json :=
  .dict (fields.map fun field => (lit field.1, field.2))

/-- A text in a document. -/
def jsonText (text : String) : Json := .str (lit text)

/-- A state with nothing but a lifecycle. -/
def stateJson (lifecycle : String) : Json :=
  jsonOf [("lifecycle", jsonText lifecycle), ("approval", jsonText "not_required"),
    ("tool", jsonText "none"), ("resume", jsonText "absent"), ("billing", jsonText "not_applicable"),
    ("side_effect_count", .int 0), ("boundary_sha256", .null)]

/-- A path without calls and events. -/
def pathJson (required : Bool) (outcome kind lifecycle : String) (count : Int) (codes : List String) :
    Json :=
  jsonOf [("required", .bool required), ("expected_outcome", jsonText outcome),
    ("trace_codes", .list (codes.map jsonText)),
    ("terminal", jsonOf [("kind", jsonText kind), ("count", .int count)]), ("tool_calls", .list []),
    ("side_effect_count", .int 0), ("sdk_events", .list []), ("state_before", stateJson "fresh"),
    ("state_after", stateJson lifecycle)]

/-- The trace of a positive path that does nothing but end. -/
def positiveTrace : List String := ["path.positive.begin", "terminal.complete", "path.positive.end"]

/-- The declarations of a capability with one required path. -/
def declarations : TrialPath → Json
  | .positive => pathJson true "PASS" "complete" "completed" 1 positiveTrace
  | _ => pathJson false "NOT_APPLICABLE" "not_applicable" "fresh" 0 []

/-- The status of a path. -/
def statusJson (status kind : String) (count : Int) (codes : List String) : Json :=
  jsonOf [("status", jsonText status), ("observed_trace_codes", .list (codes.map jsonText)),
    ("terminal", jsonOf [("kind", jsonText kind), ("count", .int count)]),
    ("qualification", jsonText status)]

/-- A digest. -/
def digestJson : Json := .str (List.replicate 64 0x61)

/-- The attempt that does what is declared. -/
def attemptJson : Json :=
  jsonOf [("ordinal", .int 1), ("candidate_sha256", digestJson), ("execution_ref_sha256", digestJson),
    ("boundary_sha256", digestJson), ("fresh_boundary", .bool true),
    ("trace", .list ((ordinals positiveTrace).map fun (seq, code) =>
      jsonOf [("seq", .int seq), ("code", jsonText code),
        ("actor", jsonText (if code = "terminal.complete" then "plugin" else "runner")),
        ("phase", jsonText (if code = "terminal.complete" then "terminal" else "lifecycle")),
        ("correlation_sha256", .null)])),
    ("paths", jsonOf [("positive", declarations .positive), ("denial", declarations .denial),
      ("recovery", declarations .recovery)]),
    ("path_status", jsonOf [("positive", statusJson "PASS" "complete" 1 positiveTrace),
      ("denial", statusJson "NOT_APPLICABLE" "not_applicable" 0 []),
      ("recovery", statusJson "NOT_APPLICABLE" "not_applicable" 0 [])]),
    ("resume", jsonOf [("present", .bool false), ("runtime_id", jsonText "hermes-claude-agent-sdk"),
      ("runtime_schema_version", .int 1), ("state_length", .int 0), ("prior_state_sha256", .null),
      ("supplied_state_sha256", .null), ("produced_state_sha256", .null), ("accepted", .bool false),
      ("fixture_ref", jsonText "fixture:none")]),
    ("billing", jsonOf [("mode", jsonText "not_applicable"), ("status", jsonText "not_applicable"),
      ("safe", .bool true)])]

/-- What the catalog validator reads of the positive path. -/
def positiveDeclaration : PathDeclaration where
  required := true
  expectedOutcome := lit "PASS"
  traceCodes := positiveTrace.map lit
  terminalKind := lit "complete"
  terminalCount := 1
  toolCalls := []
  sideEffectCount := 0
  sdkEvents := []
  stateBefore := emptyState
  stateAfter := { emptyState with lifecycle := lit "completed" }

theorem path_positiveDeclaration : Contract.path asciiContractLibrary .positive "positive_path"
    (declarations .positive) = .ok positiveDeclaration := by
  decide +kernel

theorem path_traces_disagree_positive : Records attemptJson .positive positiveDeclaration ∧
    ∀ a, Packets.attempt attemptJson (some declarations) "attempt" ≠ .ok a := by
  have hrecords : Records attemptJson .positive positiveDeclaration :=
    ⟨_, _, _, rfl, rfl, rfl, rfl, rfl⟩
  refine ⟨hrecords, ?_⟩
  exact ((path_traces_disagree asciiContractLibrary).1 .positive "positive_path" _ _
    path_positiveDeclaration rfl).2 attemptJson declarations "attempt" none hrecords rfl

/-- The attempt is refused because its trace is not contiguous. -/
theorem declared_trace_not_contiguous : positiveDeclaration.required = true ∧
    Contract.path asciiContractLibrary .positive "positive_path" (declarations .positive) =
      .ok positiveDeclaration ∧
    Records attemptJson .positive positiveDeclaration ∧
    Packets.attempt attemptJson (some declarations) "attempt" =
      .error (.invalid "attempt.positive trace is not contiguous") := by
  refine ⟨rfl, path_positiveDeclaration, ⟨_, _, _, rfl, rfl, rfl, rfl, rfl⟩, ?_⟩
  decide +kernel

end HermesClaude.Parity
