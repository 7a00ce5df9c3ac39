/-
# Results that pass

The status of a result is read off the last attempt of each cell.  So a result that passes
says nothing about the attempts before the last one, nor about their number: the catalog may
ask for three passes in a row, and one is enough.
-/

import HermesClaude.Parity.PathTraces
import HermesClaude.Parity.ResultPackets

namespace HermesClaude.Parity.Packets

open HermesClaude.Python HermesClaude.Library

/-! ## What a result is meant to satisfy -/

/-- The catalog asks for three passes in a row of a capability. -/
def Repeated (result : Result) (id : PyStr) : Prop :=
  ∃ entry ∈ result.capabilities, entry.1 = .str id ∧
    repeatMode entry.2 = .ok (.str (lit "consecutive_3"))

/-- Every capability of the partition that asks for three passes has three attempts, and each of
them passes. -/
def RepeatPolicyMet (result : Result) : Prop :=
  ∀ id, .str id ∈ result.partition → Repeated result id →
    ∃ record ∈ result.records, record.capabilityId = id ∧ record.attempts.length = 3 ∧
      ∀ attempt ∈ record.attempts, attempt.2.passes = true

/-- Every cell is marked qualified, and passed three times where the catalog asks for it. -/
def MarkedQualified (result : Result) : Prop :=
  ∀ grade ∈ result.grades, grade.qualified = true ∧
    (Repeated result grade.capabilityId → grade.caret = true)

/-- The status that an attempt records for a path. -/
def recordedStatus (attempt : Json) (role : TrialPath) : Json :=
  lookIn attempt ["path_status", roleName role, "status"]

/-- The outcome that a capability declares for a path. -/
def declaredOutcome (capability : Entries) (role : TrialPath) : Json :=
  lookIn (capability.field role.key) ["expected_outcome"]

/-- Every path of an attempt ended as its capability declares. -/
def AsDeclared (capability : Entries) (attempt : Json) : Prop :=
  ∀ role, recordedStatus attempt role = declaredOutcome capability role

/-- Where the catalog asks for three passes, there are three attempts, and the first two of them
ended as declared. -/
def EarlierAttemptsDeclared (result : Result) : Prop :=
  ∀ record ∈ result.records, Repeated result record.capabilityId →
    record.attempts.length = 3 ∧
      ∀ attempt ∈ record.attempts.dropLast, AsDeclared record.capability attempt.1

/-! ## Qualifications -/

/-- A declared outcome. -/
abbrev IsOutcome (text : PyStr) : Prop := text ∈ expectedOutcomes.map lit

/-- A path qualifies as passed exactly where its status is the declared outcome, and as failed,
blocked or pending elsewhere. -/
theorem derivePathQualification_cases {expected : PyStr} (status : PyStr)
    (h : IsOutcome expected) :
    (status = expected ∧ IsOutcome (derivePathQualification expected status)) ∨
      (status ≠ expected ∧
        derivePathQualification expected status ∈ ["BLOCKED", "PENDING", "FAIL"].map lit) := by
  have hblocked : ¬ IsOutcome (lit "ENVIRONMENT_BLOCKED") := by decide
  have hpending : ¬ IsOutcome (lit "PENDING") := by decide
  by_cases hsame : status = expected
  · left
    subst hsame
    refine ⟨rfl, ?_⟩
    unfold derivePathQualification
    rw [if_pos rfl, if_pos rfl]
    split_ifs with h₁ h₂ h₃
    · exact absurd (h₁ ▸ h) hblocked
    · exact absurd (h₂ ▸ h) hpending
    · exact h₃ ▸ h
    · exact h
  · right
    refine ⟨hsame, ?_⟩
    unfold derivePathQualification
    split_ifs with h₁ h₂ h₃ h₄
    · decide
    · decide
    · exact absurd h₄.symm hsame
    · decide
    · decide

theorem not_isOutcome_of_failed {text : PyStr}
    (h : text ∈ ["BLOCKED", "PENDING", "FAIL"].map lit) : ¬ IsOutcome text := by
  simp only [List.map_cons, List.map_nil, List.mem_cons, List.not_mem_nil, or_false] at h
  rcases h with rfl | rfl | rfl
  all_goals decide

theorem enum_mem {value : Json} {allowed : List String} {label : String} {text : PyStr}
    (h : enum value allowed label = .ok text) : text ∈ allowed.map lit := by
  obtain ⟨-, hmem⟩ := Option.filter_eq_some_iff.mp (orFail_eq_ok.mp h)
  exact of_decide_eq_true hmem

theorem path_isOutcome {value : Json} {label : String} {path : PathDeclaration}
    (h : Packets.path value label = .ok path) : IsOutcome path.expectedOutcome := by
  unfold Packets.path at h
  obtain ⟨items, -, h⟩ := bind_eq_ok.mp h
  obtain ⟨required, -, h⟩ := bind_eq_ok.mp h
  obtain ⟨expected, hexpected, h⟩ := bind_eq_ok.mp h
  obtain ⟨codes, -, h⟩ := bind_eq_ok.mp h
  obtain ⟨terminal, -, h⟩ := bind_eq_ok.mp h
  obtain ⟨calls, -, h⟩ := bind_eq_ok.mp h
  obtain ⟨toolCalls, -, h⟩ := bind_eq_ok.mp h
  obtain ⟨sideEffects, -, h⟩ := bind_eq_ok.mp h
  obtain ⟨events, -, h⟩ := bind_eq_ok.mp h
  obtain ⟨sdkEvents, -, h⟩ := bind_eq_ok.mp h
  obtain ⟨before, -, h⟩ := bind_eq_ok.mp h
  obtain ⟨after, -, h⟩ := bind_eq_ok.mp h
  obtain ⟨-, h⟩ := valid_bind_eq_ok.mp h
  obtain ⟨-, h⟩ := valid_bind_eq_ok.mp h
  obtain ⟨-, h⟩ := valid_bind_eq_ok.mp h
  obtain ⟨-, h⟩ := valid_bind_eq_ok.mp h
  obtain ⟨-, h⟩ := valid_bind_eq_ok.mp h
  cases h
  exact enum_mem hexpected

/-! ## Attempts -/

section Attempts

variable {value : Json} {expectedPaths : TrialPath → Json} {label : String}
  {expectedTrace : Option (List PyStr)} {a : Attempt}

/-- What is read of a path: its status, the declared outcome, and what follows from the two. -/
structure PathRead (value declared : Json) (role : TrialPath) (status : PathStatus) : Prop where
  read : ∃ expected, IsOutcome expected ∧ lookIn declared ["expected_outcome"] = .str expected ∧
    recordedStatus value role = .str status.status ∧
    status.qualification = derivePathQualification expected status.status

theorem pathStatus_isOutcome {trace : List PyStr} {paths statuses : Entries} {role : TrialPath}
    {status : PathStatus}
    (h : pathStatus trace paths statuses (some expectedPaths) label role = .ok status) :
    ∃ declaration, Declares (expectedPaths role) declaration ∧
      IsOutcome declaration.expectedOutcome := by
  unfold pathStatus at h
  obtain ⟨actual, -, h⟩ := bind_eq_ok.mp h
  obtain ⟨declaration, hdeclaration, h⟩ := bind_eq_ok.mp h
  exact ⟨declaration, path_eq_ok hdeclaration, path_isOutcome hdeclaration⟩

theorem lookIn_of_declares {declared : Json} {path : PathDeclaration} (h : Declares declared path) :
    lookIn declared ["expected_outcome"] = .str path.expectedOutcome := by
  obtain ⟨items, rfl, -, hexpected, -⟩ := h
  exact hexpected

/-- What an accepted attempt says of its paths. -/
theorem attempt_paths (h : attempt value (some expectedPaths) label expectedTrace = .ok a) :
    List.Forall₂ (fun role status => PathRead value (expectedPaths role) role status) trialPaths
      a.statuses := by
  obtain ⟨items, statuses, rfl, hstatuses, paths, hall⟩ := attempt_eq_ok h
  refine hall.imp ?_
  intro role status hstatus
  obtain ⟨declaration, hdeclares, haccepted, fields, hfields, htext, -⟩ := pathStatus_eq_ok hstatus
  obtain ⟨declaration', hdeclares', houtcome⟩ := pathStatus_isOutcome hstatus
  obtain ⟨-, hsame, -⟩ := hdeclares.unique hdeclares'
  refine ⟨declaration.expectedOutcome, hsame ▸ houtcome, lookIn_of_declares hdeclares, ?_,
    haccepted.qualification⟩
  change lookIn (Entries.field items "path_status") [roleName role, "status"] = _
  rw [hstatuses]
  change lookIn (Entries.field statuses (roleName role)) ["status"] = _
  rw [hfields]
  exact htext

/-- An accepted attempt passes exactly where every path ended as declared. -/
theorem passes_iff {capability : Entries}
    (h : attempt value (some fun role => capability.field role.key) label expectedTrace = .ok a) :
    a.passes = true ↔ AsDeclared capability value := by
  have hpaths := attempt_paths h
  have hone : ∀ {role : TrialPath} {status : PathStatus},
      PathRead value (capability.field role.key) role status →
        (IsOutcome status.qualification ↔ recordedStatus value role = declaredOutcome capability role) := by
    intro role status hread
    obtain ⟨expected, houtcome, hdeclared, hrecorded, hqualification⟩ := hread
    rw [hrecorded, declaredOutcome, hdeclared, Json.str.injEq, hqualification]
    rcases derivePathQualification_cases status.status houtcome with hcase | hcase
    · exact iff_of_true hcase.2 hcase.1
    · exact iff_of_false (not_isOutcome_of_failed hcase.2) hcase.1
  rw [Attempt.passes, List.all_eq_true]
  constructor
  · intro hall role
    obtain ⟨status, hstatus, hread⟩ := exists_right_of_mem hpaths (mem_trialPaths role)
    exact (hone hread).mp (of_decide_eq_true (hall status hstatus))
  · intro hall status hstatus
    obtain ⟨role, -, hread⟩ := exists_left_of_mem hpaths hstatus
    exact decide_eq_true ((hone hread).mpr (hall role))

/-- An accepted attempt passes where no path is failed, blocked or pending. -/
theorem passes_of_notMem (h : attempt value (some expectedPaths) label expectedTrace = .ok a)
    (hnone : ∀ text ∈ ["BLOCKED", "PENDING", "FAIL"].map lit,
      text ∉ a.statuses.map PathStatus.qualification) : a.passes = true := by
  rw [Attempt.passes, List.all_eq_true]
  intro status hstatus
  obtain ⟨role, -, expected, houtcome, -, -, hqualification⟩ :=
    exists_left_of_mem (attempt_paths h) hstatus
  rw [hqualification]
  rcases derivePathQualification_cases status.status houtcome with hcase | hcase
  · exact decide_eq_true hcase.2
  · rw [← hqualification] at hcase
    exact absurd (List.mem_map_of_mem hstatus) (hnone _ hcase.2)

end Attempts

/-! ## The two loops -/

/-- The attempt is accepted as it was read. -/
def Checked (capability : Entries) (attempt : CheckedAttempt) : Prop :=
  ∃ label trace, Packets.attempt attempt.1 (some fun role => capability.field role.key) label trace =
    .ok attempt.2

theorem attemptStep_checked {candidate : PyStr} {isolated : Bool} {capability : Entries}
    {label : String} {walk next : Walk} {entry : Nat × Json}
    (h : attemptStep candidate isolated capability label walk entry = .ok next)
    (hwalk : ∀ attempt ∈ walk.attempts, Checked capability attempt) :
    ∀ attempt ∈ next.attempts, Checked capability attempt := by
  unfold attemptStep at h
  obtain ⟨items, -, h⟩ := bind_eq_ok.mp h
  obtain ⟨-, h⟩ := valid_bind_eq_ok.mp h
  obtain ⟨trace, -, h⟩ := bind_eq_ok.mp h
  obtain ⟨checked, hchecked, h⟩ := bind_eq_ok.mp h
  obtain ⟨-, h⟩ := valid_bind_eq_ok.mp h
  obtain ⟨-, h⟩ := valid_bind_eq_ok.mp h
  obtain ⟨-, h⟩ := valid_bind_eq_ok.mp h
  cases h
  intro attempt hattempt
  rcases List.mem_append.mp hattempt with hbefore | hnew
  · exact hwalk attempt hbefore
  · rw [List.mem_singleton.mp hnew]
    exact ⟨_, trace, hchecked⟩

/-- What the loop over the cells has read: accepted attempts, and no capability twice. -/
structure RecordsOk (records : List CellRecord) : Prop where
  checked : ∀ record ∈ records, ∀ attempt ∈ record.attempts, Checked record.capability attempt
  nodup : (records.map CellRecord.capabilityId).Nodup

theorem cellStep_recordsOk {capabilities : List (Json × Entries)} {candidate runScope : PyStr}
    {progress next : Progress} {entry : Nat × Json}
    (h : cellStep capabilities candidate runScope progress entry = .ok next)
    (hrecords : RecordsOk progress.records) : RecordsOk next.records := by
  unfold cellStep at h
  obtain ⟨cell, -, h⟩ := bind_eq_ok.mp h
  obtain ⟨id, -, h⟩ := bind_eq_ok.mp h
  obtain ⟨hnew, h⟩ := valid_bind_eq_ok.mp h
  obtain ⟨-, -, h⟩ := bind_eq_ok.mp h
  obtain ⟨-, -, h⟩ := bind_eq_ok.mp h
  obtain ⟨rows, -, h⟩ := bind_eq_ok.mp h
  obtain ⟨scope, -, h⟩ := bind_eq_ok.mp h
  obtain ⟨required, -, h⟩ := bind_eq_ok.mp h
  obtain ⟨-, h⟩ := valid_bind_eq_ok.mp h
  obtain ⟨attempts, -, h⟩ := bind_eq_ok.mp h
  obtain ⟨capability, -, h⟩ := bind_eq_ok.mp h
  obtain ⟨mode, -, h⟩ := bind_eq_ok.mp h
  obtain ⟨-, -, h⟩ := bind_eq_ok.mp h
  obtain ⟨walk, hwalk, h⟩ := bind_eq_ok.mp h
  cases h
  have hchecked : ∀ attempt ∈ walk.attempts, Checked capability attempt :=
    foldlM_preserves (fun _ _ _ hstep => attemptStep_checked hstep) hwalk (List.forall_mem_nil _)
  constructor
  · intro record hrecord
    rcases List.mem_append.mp hrecord with hbefore | hadded
    · exact hrecords.checked record hbefore
    · rw [List.mem_singleton.mp hadded]
      exact hchecked
  · rw [List.map_append, List.nodup_append]
    refine ⟨hrecords.nodup, List.nodup_singleton _, ?_⟩
    intro other hother added hadded heq
    rw [List.map_singleton, List.mem_singleton] at hadded
    rw [heq, hadded] at hother
    exact of_decide_eq_true hnew hother

/-! ## What is known of an accepted result -/

/-- The grade of a cell, as it was read. -/
structure Graded (result : Result) (record : CellRecord) (grade : CellGrade) : Prop where
  capabilityId : grade.capabilityId = record.capabilityId
  caret : grade.caret = record.caret
  qualified : ∃ mode, repeatMode (firstWith result.capabilities (.str record.capabilityId)) = .ok mode ∧
    grade.qualified = record.at mode
  last : ∃ last, record.attempts.getLast? = some last ∧
    grade.last = last.2.statuses.map PathStatus.qualification

/-- What an accepted result was read as. -/
structure ResultRead (result : Result) : Prop where
  records : RecordsOk result.records
  partition : ∀ id, Json.str id ∈ result.partition ↔
    ∃ record ∈ result.records, record.capabilityId = id
  grades : List.Forall₂ (Graded result) result.records result.grades
  status : ∃ sdk clean, result.grade.field "status" =
    .str (finalStatus sdk (gradeStatus result.grades clean))

theorem pyEq_str_iff {value : Json} {text : PyStr} :
    value.pyEq (.str text) = true ↔ value = .str text := by
  cases value with
  | str other =>
    change (some text == some other) = true ↔ _
    rw [beq_iff_eq, Option.some.injEq, Json.str.injEq]
    exact eq_comm
  | null | bool | int | float | list | dict =>
    apply iff_of_false
    · exact Bool.false_ne_true
    · intro h
      cases h

theorem orEscape_eq_ok {α : Type} {value : Option α} {a : α} :
    orEscape value = .ok a ↔ value = some a :=
  required_eq_ok

theorem bijection_eq_ok {capabilities : List (Json × Entries)} {partition : Entries} {run : Run}
    {records : List CellRecord} {ids : List Json}
    (h : bijection capabilities partition run records = .ok ids) (id : PyStr) :
    Json.str id ∈ ids ↔ ∃ record ∈ records, record.capabilityId = id := by
  unfold bijection at h
  obtain ⟨value, -, h⟩ := bind_eq_ok.mp h
  obtain ⟨found, -, h⟩ := bind_eq_ok.mp h
  obtain ⟨rows, -, h⟩ := bind_eq_ok.mp h
  obtain ⟨hsame, h⟩ := valid_bind_eq_ok.mp h
  obtain ⟨scope, -, h⟩ := bind_eq_ok.mp h
  obtain ⟨-, h⟩ := valid_bind_eq_ok.mp h
  obtain ⟨-, h⟩ := valid_bind_eq_ok.mp h
  cases h
  rw [Bool.and_eq_true, List.all_eq_true, List.all_eq_true] at hsame
  constructor
  · intro hid
    obtain ⟨record, hrecord, heq⟩ := List.any_eq_true.mp (hsame.2 _ hid)
    have hid' : Json.str id = .str record.capabilityId := pyEq_str_iff.mp heq
    exact ⟨record, hrecord, (Json.str.inj hid').symm⟩
  · rintro ⟨record, hrecord, rfl⟩
    obtain ⟨other, hother, heq⟩ := List.any_eq_true.mp (hsame.1 record hrecord)
    rw [← pyEq_str_iff.mp heq]
    exact hother

theorem CellRecord.grade_eq_ok {capabilities : List (Json × Entries)} {record : CellRecord}
    {grade : CellGrade} {result : Result} (hcapabilities : result.capabilities = capabilities)
    (h : record.grade capabilities = .ok grade) : Graded result record grade := by
  unfold CellRecord.grade at h
  obtain ⟨last, hlast, h⟩ := bind_eq_ok.mp h
  obtain ⟨mode, hmode, h⟩ := bind_eq_ok.mp h
  cases h
  exact ⟨rfl, rfl, ⟨mode, hcapabilities ▸ hmode, rfl⟩, last, orEscape_eq_ok.mp hlast, rfl⟩

section Library

variable {library : ContractLibrary}

theorem readCells_eq_ok {catalog : Entries} {candidate : PyStr} {run : Run} {value : Json}
    {cells : Cells} (h : readCells catalog candidate run value = .ok cells) :
    RecordsOk cells.records ∧
      ∀ id, Json.str id ∈ cells.partition ↔ ∃ record ∈ cells.records, record.capabilityId = id := by
  unfold readCells at h
  obtain ⟨values, -, h⟩ := bind_eq_ok.mp h
  obtain ⟨capabilities, -, h⟩ := bind_eq_ok.mp h
  obtain ⟨partitions, -, h⟩ := bind_eq_ok.mp h
  obtain ⟨partition, -, h⟩ := bind_eq_ok.mp h
  obtain ⟨progress, hprogress, h⟩ := bind_eq_ok.mp h
  obtain ⟨ids, hids, h⟩ := bind_eq_ok.mp h
  obtain ⟨-, h⟩ := valid_bind_eq_ok.mp h
  cases h
  have hrecords : RecordsOk progress.records := by
    apply foldlM_preserves (fun _ _ _ hstep => cellStep_recordsOk hstep) hprogress
    exact ⟨List.forall_mem_nil _, List.nodup_nil⟩
  exact ⟨hrecords, bijection_eq_ok hids⟩

theorem gradeCells_eq_ok {value : Json} {cells : Cells} {graded : Entries × List CellGrade}
    (h : gradeCells value cells = .ok graded) :
    List.Forall₂ (fun record grade => record.grade cells.capabilities = .ok grade) cells.records
      graded.2 := by
  unfold gradeCells at h
  obtain ⟨items, -, h⟩ := bind_eq_ok.mp h
  obtain ⟨grades, hgrades, h⟩ := bind_eq_ok.mp h
  obtain ⟨-, -, h⟩ := bind_eq_ok.mp h
  obtain ⟨-, h⟩ := valid_bind_eq_ok.mp h
  obtain ⟨-, -, h⟩ := bind_eq_ok.mp h
  cases h
  exact mapM_eq_ok.mp hgrades

theorem grade_eq_ok {value : Json} {catalog : Entries} {cells : Cells} {findings : Findings}
    {graded : Entries × List CellGrade} (h : grade library value catalog cells findings = .ok graded) :
    List.Forall₂ (fun record grade => record.grade cells.capabilities = .ok grade) cells.records
        graded.2 ∧
      ∃ sdk, graded.1.field "status" =
        .str (finalStatus sdk (gradeStatus graded.2 findings.clean)) := by
  unfold grade at h
  obtain ⟨⟨items, grades⟩, hgrades, h⟩ := bind_eq_ok.mp h
  obtain ⟨sdk, -, h⟩ := bind_eq_ok.mp h
  obtain ⟨-, -, h⟩ := bind_eq_ok.mp h
  obtain ⟨hstatus, h⟩ := valid_bind_eq_ok.mp h
  obtain ⟨-, h⟩ := valid_bind_eq_ok.mp h
  cases h
  exact ⟨gradeCells_eq_ok hgrades, sdk, pyEq_str_iff.mp hstatus⟩

theorem validateResult_eq_ok {value freeze catalog : Json} {result : Result}
    (h : validateResult library value freeze catalog = .ok result) : ResultRead result := by
  unfold validateResult at h
  obtain ⟨items, -, h⟩ := bind_eq_ok.mp h
  obtain ⟨-, h⟩ := valid_bind_eq_ok.mp h
  obtain ⟨-, -, h⟩ := bind_eq_ok.mp h
  obtain ⟨catalogItems, -, h⟩ := bind_eq_ok.mp h
  obtain ⟨-, h⟩ := valid_bind_eq_ok.mp h
  obtain ⟨candidate, -, h⟩ := bind_eq_ok.mp h
  obtain ⟨inventory, -, h⟩ := bind_eq_ok.mp h
  obtain ⟨-, h⟩ := valid_bind_eq_ok.mp h
  obtain ⟨run, -, h⟩ := bind_eq_ok.mp h
  obtain ⟨cells, hcells, h⟩ := bind_eq_ok.mp h
  obtain ⟨-, h⟩ := valid_bind_eq_ok.mp h
  obtain ⟨⟨graded, grades⟩, hgraded, h⟩ := bind_eq_ok.mp h
  obtain ⟨-, -, h⟩ := bind_eq_ok.mp h
  obtain ⟨-, -, h⟩ := bind_eq_ok.mp h
  obtain ⟨frozen, -, h⟩ := bind_eq_ok.mp h
  obtain ⟨-, -, h⟩ := bind_eq_ok.mp h
  cases h
  obtain ⟨hrecords, hpartition⟩ := readCells_eq_ok hcells
  obtain ⟨hgrades, sdk, hstatus⟩ := grade_eq_ok hgraded
  refine ⟨hrecords, hpartition, ?_, sdk, _, hstatus⟩
  exact hgrades.imp fun record grade hgrade => CellRecord.grade_eq_ok rfl hgrade

end Library

/-! ## The last attempt and the earlier ones -/

theorem eq_pass_of_finalStatus {sdk status : PyStr} (h : finalStatus sdk status = lit "PASS") :
    status = lit "PASS" := by
  unfold finalStatus at h
  split_ifs at h
  · exact absurd h (by decide)
  · exact h

/-- Where the cells grade as passed, no last attempt has a path that is blocked, pending or failed. -/
theorem notMem_of_gradeStatus {grades : List CellGrade} {clean : Bool}
    (h : gradeStatus grades clean = lit "PASS") {grade : CellGrade} (hgrade : grade ∈ grades) :
    ∀ text ∈ ["BLOCKED", "PENDING", "FAIL"].map lit, text ∉ grade.last := by
  have hblocked : lit "BLOCKED" ≠ lit "PASS" := by decide
  have hpending : lit "PENDING" ≠ lit "PASS" := by decide
  have hfail : lit "FAIL" ≠ lit "PASS" := by decide
  unfold gradeStatus at h
  split_ifs at h with h₁ h₂ h₃
  · exact absurd h hblocked
  · exact absurd h hpending
  · exact absurd h hfail
  · rw [Bool.or_eq_true, not_or] at h₁ h₃
    have hnone : ∀ {text : PyStr}, (grades.any fun grade => text ∈ grade.last) ≠ true →
        text ∉ grade.last := by
      intro text hnone hmem
      exact hnone (List.any_eq_true.mpr ⟨grade, hgrade, decide_eq_true hmem⟩)
    simp only [List.map_cons, List.map_nil, List.forall_mem_cons]
    exact ⟨hnone h₁.2, hnone h₂, hnone h₃.1, List.forall_mem_nil _⟩

/-- The first capability with an id asks for three passes only where the catalog does. -/
theorem repeated_of_first {result : Result} {id : PyStr}
    (h : repeatMode (firstWith result.capabilities (.str id)) = .ok (.str (lit "consecutive_3"))) :
    Repeated result id := by
  unfold firstWith at h
  cases hfound : result.capabilities.find? fun value => value.1.pyEq (.str id) with
  | none =>
    rw [hfound] at h
    cases h
  | some entry =>
    rw [hfound] at h
    have hid := List.find?_some hfound
    exact ⟨entry, List.mem_of_find?_eq_some hfound, pyEq_str_iff.mp hid, h⟩

section Read

variable {result : Result} (hread : ResultRead result)
include hread

/-- The repeat policy is met where every cell that asks for it has passed three times. -/
theorem repeatPolicyMet_iff : RepeatPolicyMet result ↔
    ∀ record ∈ result.records, Repeated result record.capabilityId → record.caret = true := by
  constructor
  · intro hmet record hrecord hrepeated
    have hid := (hread.partition record.capabilityId).mpr ⟨record, hrecord, rfl⟩
    obtain ⟨other, hother, hsame, hlength, hall⟩ := hmet _ hid hrepeated
    obtain rfl : other = record := List.inj_on_of_nodup_map hread.records.nodup hother hrecord hsame
    rw [CellRecord.caret, Bool.and_eq_true, beq_iff_eq, List.all_eq_true]
    exact ⟨hlength, hall⟩
  · intro hall id hid hrepeated
    obtain ⟨record, hrecord, rfl⟩ := (hread.partition id).mp hid
    have hcaret := hall record hrecord hrepeated
    rw [CellRecord.caret, Bool.and_eq_true, beq_iff_eq, List.all_eq_true] at hcaret
    exact ⟨record, hrecord, rfl, hcaret.1, hcaret.2⟩

variable (hpass : result.grade.field "status" = .str (lit "PASS"))
include hpass

/-- In a result that passes, the last attempt of every cell passes. -/
theorem last_passes {record : CellRecord} (hrecord : record ∈ result.records) :
    ∃ last, record.attempts.getLast? = some last ∧ last.2.passes = true := by
  obtain ⟨grade, hgrade, hgraded⟩ := exists_right_of_mem hread.grades hrecord
  obtain ⟨last, hlast, hqualifications⟩ := hgraded.last
  refine ⟨last, hlast, ?_⟩
  obtain ⟨sdk, clean, hstatus⟩ := hread.status
  rw [hpass, Json.str.injEq] at hstatus
  have hnone := notMem_of_gradeStatus (eq_pass_of_finalStatus hstatus.symm) hgrade
  rw [hqualifications] at hnone
  obtain ⟨label, trace, hchecked⟩ :=
    hread.records.checked record hrecord last (List.mem_of_getLast? hlast)
  exact passes_of_notMem hchecked hnone

/-- In a result that passes, all attempts of a cell pass where the earlier ones ended as declared. -/
theorem attempts_pass_iff {record : CellRecord} (hrecord : record ∈ result.records) :
    (∀ attempt ∈ record.attempts, attempt.2.passes = true) ↔
      ∀ attempt ∈ record.attempts.dropLast, AsDeclared record.capability attempt.1 := by
  constructor
  · intro hall attempt hattempt
    have hmem := List.mem_of_mem_dropLast hattempt
    obtain ⟨label, trace, hchecked⟩ := hread.records.checked record hrecord attempt hmem
    exact (passes_iff hchecked).mp (hall attempt hmem)
  · intro hall attempt hattempt
    obtain ⟨last, hlast, hlastPasses⟩ := last_passes hread hpass hrecord
    rw [← List.dropLast_append_getLast? last hlast, List.mem_append, List.mem_singleton] at hattempt
    rcases hattempt with hearlier | rfl
    · have hmem := List.mem_of_mem_dropLast hearlier
      obtain ⟨label, trace, hchecked⟩ := hread.records.checked record hrecord attempt hmem
      exact (passes_iff hchecked).mpr (hall attempt hearlier)
    · exact hlastPasses

theorem earlierAttemptsDeclared_iff : EarlierAttemptsDeclared result ↔
    ∀ record ∈ result.records, Repeated result record.capabilityId → record.caret = true := by
  unfold EarlierAttemptsDeclared
  apply forall₂_congr
  intro record hrecord
  rw [CellRecord.caret, Bool.and_eq_true, beq_iff_eq, List.all_eq_true,
    attempts_pass_iff hread hpass hrecord]

/-- The marks of the cells say the same. -/
theorem markedQualified_iff : MarkedQualified result ↔
    ∀ record ∈ result.records, Repeated result record.capabilityId → record.caret = true := by
  constructor
  · intro hmarked record hrecord hrepeated
    obtain ⟨grade, hgrade, hgraded⟩ := exists_right_of_mem hread.grades hrecord
    rw [← hgraded.caret]
    exact (hmarked grade hgrade).2 (hgraded.capabilityId ▸ hrepeated)
  · intro hall grade hgrade
    obtain ⟨record, hrecord, hgraded⟩ := exists_left_of_mem hread.grades hgrade
    refine ⟨?_, ?_⟩
    · obtain ⟨mode, hmode, hqualified⟩ := hgraded.qualified
      obtain ⟨last, hlast, hlastPasses⟩ := last_passes hread hpass hrecord
      rw [hqualified, CellRecord.at, Bool.and_eq_true, Bool.or_eq_true, List.any_eq_true]
      refine ⟨?_, last, List.mem_of_getLast? hlast, hlastPasses⟩
      by_cases hthree : mode.pyEq (.str (lit "consecutive_3")) = true
      · rw [pyEq_str_iff.mp hthree] at hmode
        have hcaret := hall record hrecord (repeated_of_first hmode)
        rw [CellRecord.caret, Bool.and_eq_true] at hcaret
        exact .inr hcaret.1
      · rw [Bool.not_eq_true] at hthree
        exact .inl (by rw [hthree]; rfl)
    · rw [hgraded.capabilityId, hgraded.caret]
      exact hall record hrecord

end Read

/-- **A result that passes satisfies the repeat policy exactly where its earlier attempts do.**
Its cells are all marked as qualified under the same condition. -/
theorem passed_result_repeats (library : ContractLibrary) {value freeze catalog : Json}
    {result : Result} (h : validateResult library value freeze catalog = .ok result)
    (hpass : result.grade.field "status" = .str (lit "PASS")) :
    (RepeatPolicyMet result ↔ EarlierAttemptsDeclared result) ∧
      (MarkedQualified result ↔ EarlierAttemptsDeclared result) := by
  have hread := validateResult_eq_ok h
  rw [earlierAttemptsDeclared_iff hread hpass]
  exact ⟨repeatPolicyMet_iff hread, markedQualified_iff hread hpass⟩

/-! ## A result of one attempt -/

/-- The digest with the given digits. -/
def hexText (digits : Nat) : PyStr :=
  (List.range' 1 64).map fun place => .ofHexDigit (digits / 16 ^ (64 - place) % 16)

/-- The fields of a document. -/
def entriesOf (value : Json) : Entries := value.dict?.getD []

/-- The declarations of a capability that only asks for its positive path. -/
def onePath : TrialPath → Json
  | .positive => pathJson true "PASS" "complete" "completed" 1 ["terminal.complete"]
  | .denial | .recovery => pathJson false "NOT_APPLICABLE" "not_applicable" "fresh" 0 []

/-- The paths of such a capability. -/
def onePaths : Json :=
  jsonOf [("positive", onePath .positive), ("denial", onePath .denial), ("recovery", onePath .recovery)]

/-- The source rows of the capability. -/
def oneRow : Json := .list [jsonOf [("pack_id", jsonText "v2_non_soak"), ("row_id", jsonText "row")]]

/-- A capability that asks for three passes in a row. -/
def repeatedCapability : Json :=
  jsonOf [("id", jsonText "CAP-one"), ("scenario_id", jsonText "SCN-one"), ("source_rows", oneRow),
    ("required", .bool true), ("positive_path", onePath .positive), ("denial_path", onePath .denial),
    ("recovery_path", onePath .recovery),
    ("repeat_policy", jsonOf [("mode", jsonText "consecutive_3"),
      ("reason", jsonText "consequential")])]

/-- The id of a row. -/
def rowText (ordinal : Nat) : PyStr := lit "row" ++ decimal ordinal

/-- A row of the SDK's ledger. -/
def coveredRow (ordinal : Nat) : Json :=
  jsonOf [("pack_id", jsonText "sdk_boundary"), ("row_id", .str (rowText ordinal)),
    ("ordinal", .int ordinal), ("executable", .bool true),
    ("classification", jsonText "covered_current"),
    ("proof", jsonOf [("ref", jsonText "proof"), ("sha256", digestJson)])]

/-- The ordinals of the 23 rows. -/
def rowOrdinals : List Nat := List.range' 1 23

/-- The fields of the ledger that its hash is of. -/
def ledgerFields : List (String × Json) :=
  [("schema_version", .int 1), ("rows", .list (rowOrdinals.map coveredRow))]

/-- The hash of a document. -/
def hashOf (value : Json) : PyStr := (canonicalSha256 asciiContractLibrary value).toOption.getD []

/-- The hash of the ledger. -/
def ledgerText : PyStr := hexText 0x21cbb7805b76c70837f19e2bbb3ed63348dbb15a3afdfebbb1033dd7534f7fcd

/-- The SDK's ledger. -/
def coveredLedger : Json :=
  jsonOf (ledgerFields ++ [("rows_sha256", .str (hashOf (.list (sortRows (rowOrdinals.map coveredRow))))),
    ("ledger_sha256", .str ledgerText)])

/-- A catalog of one capability. -/
def oneCatalog : Json :=
  jsonOf [("catalog_sha256", digestJson), ("contract_sha256", digestJson),
    ("source_map_sha256", digestJson), ("capabilities", .list [repeatedCapability]),
    ("scope_partitions", .list [jsonOf [("id", jsonText "PART-one"),
      ("session_scope", jsonText "isolated_cell"), ("capability_ids", .list [jsonText "CAP-one"])]]),
    ("source_packs", .list [jsonOf [("id", jsonText "sdk_boundary"),
      ("row_ids", .list (rowOrdinals.map fun ordinal => .str (rowText ordinal)))]]),
    ("sdk_ledger", coveredLedger)]

/-- The fields of a candidate that its hash is of. -/
def candidateFields : List (String × Json) :=
  let commit := Json.str (List.replicate 40 0x62)
  [("plugin_sha", commit), ("host_sha", commit), ("wheel_sha256", digestJson),
    ("sdk_distribution", jsonText "claude-agent-sdk"), ("sdk_version", jsonText "0.2.144"),
    ("profile_sha256", digestJson), ("runner_id", jsonText "hermes-parity-v3"),
    ("runner_version", jsonText "1.0.0")]

/-- The hashes of the candidate and of the inventory, declared and observed. -/
def candidateText : PyStr := hexText 0x083e3ef1f6f8474474cf3ad740f6030ef341b2b5c46572141c6ba611f0632e12
def declaredText : PyStr := hexText 0x1e2f683afe023537b0d75eca7740997a6b6dd7c0aaf32156d7ffea617eef232c
def observedText : PyStr := hexText 0x15d4c208ee84a33207e631be1977e7992189ebfa045b5943a42b416f0cd907cc

/-- The candidate. -/
def oneCandidate : Json :=
  jsonOf (("candidate_schema_version", .int 1) :: ("candidate_sha256", .str candidateText) :: candidateFields)

/-- An inventory of nothing. -/
def emptyInventory : Json :=
  jsonOf [("candidate_sha256", .str candidateText), ("tools", .list []), ("mcp_servers", .list []),
    ("unknown_names", .list []), ("missing_names", .list []), ("schema_drift_names", .list []),
    ("declared_inventory_sha256", .str declaredText), ("observed_inventory_sha256", .str observedText)]

/-- An attempt that does what is declared. -/
def oneAttempt : Json :=
  jsonOf [("ordinal", .int 1), ("candidate_sha256", .str candidateText), ("execution_ref_sha256", digestJson),
    ("boundary_sha256", digestJson), ("fresh_boundary", .bool true),
    ("trace", .list ((ordinals positiveTrace).map fun (seq, code) =>
      jsonOf [("seq", .int seq), ("code", jsonText code),
        ("actor", jsonText (if code = "terminal.complete" then "plugin" else "runner")),
        ("phase", jsonText (if code = "terminal.complete" then "terminal" else "lifecycle")),
        ("correlation_sha256", .null)])),
    ("paths", onePaths),
    ("path_status", jsonOf [("positive", statusJson "PASS" "complete" 1 ["terminal.complete"]),
      ("denial", statusJson "NOT_APPLICABLE" "not_applicable" 0 []),
      ("recovery", statusJson "NOT_APPLICABLE" "not_applicable" 0 [])]),
    ("resume", jsonOf [("present", .bool false), ("runtime_id", jsonText "hermes-claude-agent-sdk"),
      ("runtime_schema_version", .int 1), ("state_length", .int 0), ("prior_state_sha256", .null),
      ("supplied_state_sha256", .null), ("produced_state_sha256", .null), ("accepted", .bool false),
      ("fixture_ref", jsonText "fixture:none")]),
    ("billing", jsonOf [("mode", jsonText "not_applicable"), ("status", jsonText "not_applicable"),
      ("safe", .bool true)])]

/-- The cells: one, of one attempt. -/
def oneCell : Json :=
  .list [jsonOf [("capability_id", jsonText "CAP-one"), ("scenario_id", jsonText "SCN-one"),
    ("source_rows", oneRow), ("session_scope", jsonText "isolated_cell"),
    ("attempts", .list [oneAttempt]), ("required", .bool true)]]

/-- The grade: the result passes, and its cell is not qualified. -/
def passedGrade : Json :=
  jsonOf [("status", jsonText "PASS"),
    ("cell_qualifications", jsonOf [("CAP-one", jsonOf [("positive", jsonText "PASS"),
      ("denial", jsonText "NOT_APPLICABLE"), ("recovery", jsonText "NOT_APPLICABLE"),
      ("qualified", .bool false),
      ("not_required_paths", .list [jsonText "denial", jsonText "recovery"]),
      ("attempts", .int 1)])]),
    ("required_cell_count", .int 1), ("observed_cell_count", .int 1),
    ("required_pass_count", .int 1), ("observed_pass_count", .int 1),
    ("expected_negative_count", .int 0), ("verified_failure_count", .int 0),
    ("environment_blocked_count", .int 0), ("pending_count", .int 0),
    ("pass_caret_3", jsonOf [("CAP-one", .bool false)]),
    ("pass_at_3", jsonOf [("CAP-one", .bool false)]), ("candidate_consistent", .bool true),
    ("terminal_events_exact", .bool true), ("inventory_exact", .bool true),
    ("billing_safe", .bool true), ("resume_safe", .bool true), ("isolation_safe", .bool true),
    ("sdk_ledger", jsonOf [("ledger_sha256", .str ledgerText), ("row_count", .int 23),
      ("requires_0_3_239_rows", .list []), ("upgrade_issue_ref", .null),
      ("status", jsonText "CLEAR")]),
    ("result_bijection", .bool true)]

/-- The run. -/
def oneRun : Json :=
  jsonOf [("run_id_sha256", digestJson), ("scenario_sha256", digestJson),
    ("mode", jsonText "deterministic"), ("scope_partition_id", jsonText "PART-one"),
    ("session_scope", jsonText "isolated_cell"), ("candidate_unchanged", .bool true),
    ("cell_count", .int 1), ("required_cell_count", .int 1), ("terminal_event_count", .int 1),
    ("resume_boundary", .null)]

/-- The fields of the freeze that its hash is of. -/
def freezeFields : List (String × Json) :=
  [("freeze_schema_version", .int 1), ("contract_id", jsonText "hermes-agent-sdk-feature-parity"),
    ("contract_sha256", digestJson), ("catalog_sha256", digestJson),
    ("source_map_sha256", digestJson), ("receipt_artifact_sha256", digestJson),
    ("replacement_receipt_sha256", digestJson), ("fixture_manifest_sha256", digestJson),
    ("candidate_sha256", .str candidateText), ("declared_inventory_sha256", .str declaredText),
    ("observed_inventory_sha256", .str observedText), ("sdk_ledger_sha256", .str ledgerText),
    ("scenario_sha256", digestJson), ("scope_partition_id", jsonText "PART-one"),
    ("session_scope", jsonText "isolated_cell"), ("capability_set_sha256", .str (hexText 0x26ec1bb6724c6364f41a2425b1c25dd084a7f168fabf0dbe4c800af2bcd774e0)),
    ("frozen", .bool true)]

/-- The hash of the freeze. -/
def freezeText : PyStr := hexText 0xb36dcfab95efcf340079e3c359554198aecc0bc4a40d71992aafab1134c360ea

/-- The freeze. -/
def oneFreeze : Json := jsonOf (freezeFields ++ [("freeze_sha256", .str freezeText)])

/-- The fields of the result that its hash is of. -/
def resultFields : List (String × Json) :=
  [("result_schema_version", jsonText "3.0.0"), ("freeze_sha256", .str freezeText),
    ("contract_sha256", digestJson), ("catalog_sha256", digestJson),
    ("source_map_sha256", digestJson), ("fixture_manifest_sha256", digestJson),
    ("candidate", oneCandidate), ("inventory", emptyInventory), ("run", oneRun), ("cells", oneCell),
    ("grade", passedGrade),
    ("redaction", jsonOf [("profile", jsonText "v3-safe"), ("forbidden_field_count", .int 0),
      ("omitted_categories", .list [jsonText "auth"]), ("secret_scan", jsonText "PASS")])]

/-- The result. -/
def oneResult : Json := jsonOf (("result_sha256", .str (hashOf (jsonOf resultFields))) :: resultFields)

/-! What the validator reads of it. -/

/-- The run, once it is checked. -/
def checkedRun : Run where
  scenario := List.replicate 64 0x61
  partitionId := lit "PART-one"
  sessionScope := lit "isolated_cell"
  cellCount := 1
  requiredCellCount := 1
  terminalEventCount := 1

/-- The attempt, once it is checked. -/
def checkedAttempt : Attempt where
  candidate := candidateText
  boundary := List.replicate 64 0x61
  freshBoundary := true
  trace := positiveTrace.map lit
  statuses :=
    [⟨lit "PASS", [lit "terminal.complete"], lit "complete", 1, lit "PASS"⟩,
      ⟨lit "NOT_APPLICABLE", [], lit "not_applicable", 0, lit "NOT_APPLICABLE"⟩,
      ⟨lit "NOT_APPLICABLE", [], lit "not_applicable", 0, lit "NOT_APPLICABLE"⟩]
  resume := ⟨none, none⟩
  billingSafe := true

/-- The cells, once they are checked. -/
def checkedCells : Cells where
  capabilities := [(jsonText "CAP-one", entriesOf repeatedCapability)]
  partition := [jsonText "CAP-one"]
  records := [{ capabilityId := lit "CAP-one", required := true
                sourceRows := oneRow.list?.getD []
                capability := entriesOf repeatedCapability
                attempts := [(oneAttempt, checkedAttempt)] }]
  billingSafe := true

/-- The grade of the cell. -/
def checkedGrade : CellGrade where
  capabilityId := lit "CAP-one"
  last := [lit "PASS", lit "NOT_APPLICABLE", lit "NOT_APPLICABLE"]
  caret := false
  qualified := false
  notRequired := [lit "denial", lit "recovery"]
  attempts := 1

/-- The row of the ledger, once it is checked. -/
def checkedRow (ordinal : Nat) : LedgerRecord where
  rowId := rowText ordinal
  classification := lit "covered_current"
  items := entriesOf (coveredRow ordinal)

/-- The inventory, once it is checked. -/
def checkedInventory : InventoryRecord where
  candidate := candidateText
  declared := declaredText
  observed := observedText
  exact := true

/-- The bytes that the hash of the ledger is of. -/
def ledgerBytes : List UInt8 :=
  (canonicalJsonBytes asciiContractLibrary.toCanonicalLibrary
    (jsonOf ledgerFields).toValue).toOption.getD []

/-- The words that the hash of the ledger is of: 76 blocks. -/
def ledgerWords : List Nat := Sha256.toWords (Sha256.pad ledgerBytes)

/-- The state of the hash after so many quarters of the blocks. -/
def ledgerState : Nat → Sha256.State
  | 0 => Sha256.initial
  | 1 => ⟨0x74757f8c, 0x3ac5f48e, 0x9d677f33, 0xa3872765,
      0xda3032dd, 0x215dc9c0, 0x1f881cf1, 0xb6688667⟩
  | 2 => ⟨0xa2c55054, 0x0fa48fa6, 0x088e2f99, 0x2626590d,
      0x02aac85f, 0x314e9612, 0xa7abb91c, 0x1839799f⟩
  | 3 => ⟨0x383520b8, 0x3d41ff1e, 0xda752076, 0x4084c3d4,
      0x5de2cbb5, 0xc5a7e097, 0x05ce8a09, 0xe8468c89⟩
  | _ => ⟨0x21cbb780, 0x5b76c708, 0x37f19e2b, 0xbb3ed633,
      0x48dbb15a, 0x3afdfebb, 0xb1033dd7, 0x534f7fcd⟩

/-- The result, once it is checked. -/
def checkedResult : Result :=
  { checkedCells with
    items := entriesOf oneResult
    grade := entriesOf passedGrade
    grades := [checkedGrade] }

/-- The value has a hash. -/
def Hashed (value : Json) : Prop :=
  (canonicalSha256 asciiContractLibrary value).toOption.isSome = true

instance (value : Json) : Decidable (Hashed value) :=
  inferInstanceAs (Decidable ((canonicalSha256 asciiContractLibrary value).toOption.isSome = true))

/-- What is evaluated of the ledger. -/
structure LedgerEvaluated : Prop where
  rows : sorted ((rowOrdinals.map checkedRow).map LedgerRecord.rowId) =
    sorted (rowOrdinals.map rowText)
  rowsHashed : Hashed (.list (sortRows (rowOrdinals.map coveredRow)))
  ledgerHashed : Hashed (jsonOf ledgerFields)
  digits : ((ledgerState 4).words.flatMap Sha256.hexDigits).map CodePoint.ofHexDigit = ledgerText

/-- What is evaluated of the hash of the ledger. -/
structure BlocksEvaluated : Prop where
  blocks : ledgerWords.length / 16 = 19 + (19 + (19 + 19))
  firstQuarter : Sha256.compressBlocks 19 ledgerWords Sha256.initial = ledgerState 1
  secondQuarter : Sha256.compressBlocks 19 (ledgerWords.drop (16 * 19)) (ledgerState 1) =
    ledgerState 2
  thirdQuarter : Sha256.compressBlocks 19 ((ledgerWords.drop (16 * 19)).drop (16 * 19))
    (ledgerState 2) = ledgerState 3
  lastQuarter : Sha256.compressBlocks 19
    (((ledgerWords.drop (16 * 19)).drop (16 * 19)).drop (16 * 19)) (ledgerState 3) = ledgerState 4

/-- What is evaluated of the result: its hashes, and the checks that compare them. -/
structure ResultEvaluated : Prop where
  candidate : candidate asciiContractLibrary oneCandidate = .ok candidateText
  inventory : inventory asciiContractLibrary emptyInventory = .ok checkedInventory
  freezeHash : hashIs asciiContractLibrary (.str freezeText) (jsonOf freezeFields)
    "freeze hash is invalid" = .ok freezeText
  resultHashed : Hashed (jsonOf resultFields)
  bindings : bindings asciiContractLibrary (entriesOf oneResult) (entriesOf oneFreeze)
    (entriesOf oneCatalog) candidateText checkedInventory checkedRun checkedCells.records = .ok ()
  safeCatalog : safe oneCatalog = true

theorem ledgerEvaluated : LedgerEvaluated := by
  constructor
  all_goals decide +kernel

theorem blocksEvaluated : BlocksEvaluated := by
  constructor
  all_goals decide +kernel

theorem resultEvaluated : ResultEvaluated := by
  constructor
  all_goals decide +kernel

theorem canonicalSha256_hashOf {value : Json} (h : Hashed value) :
    canonicalSha256 asciiContractLibrary value = .ok (hashOf value) := by
  unfold hashOf
  cases hvalue : canonicalSha256 asciiContractLibrary value with
  | ok hash => rfl
  | error failure =>
    rw [Hashed, hvalue] at h
    cases h

theorem hashIs_of_hashed {value : Json} {hash : PyStr} {message : String} (h : Hashed value)
    (hhash : hash = hashOf value) :
    hashIs asciiContractLibrary (.str hash) value message = .ok hash := by
  subst hhash
  refine bind_eq_ok.mpr ⟨_, canonicalSha256_hashOf h, ?_⟩
  exact valid_bind_eq_ok.mpr ⟨pyEq_str_iff.mpr rfl, rfl⟩

theorem ledgerText_eq : ledgerText = hashOf (jsonOf ledgerFields) := by
  have hstate : Sha256.compressBlocks (ledgerWords.length / 16) ledgerWords Sha256.initial =
      ledgerState 4 := by
    rw [blocksEvaluated.blocks, Sha256.compressBlocks_add, blocksEvaluated.firstQuarter,
      Sha256.compressBlocks_add, blocksEvaluated.secondQuarter, Sha256.compressBlocks_add,
      blocksEvaluated.thirdQuarter, blocksEvaluated.lastQuarter]
  have hdigest : hexdigest ledgerBytes = ledgerText := by
    rw [hexdigest, Sha256.hexDigest, Sha256.digest_eq, ← ledgerWords, hstate, ledgerEvaluated.digits]
  have hhashed := ledgerEvaluated.ledgerHashed
  rw [← hdigest, hashOf, canonicalSha256, ledgerBytes]
  rw [Hashed, canonicalSha256] at hhashed
  cases hbytes : canonicalJsonBytes asciiContractLibrary.toCanonicalLibrary
      (jsonOf ledgerFields).toValue with
  | ok data => rfl
  | error failure =>
    rw [hbytes] at hhashed
    cases hhashed

theorem ledgerRows_one : ledgerRows asciiContractLibrary [] 1 (rowOrdinals.map coveredRow) =
    .ok (rowOrdinals.map checkedRow) := by
  rfl

theorem validateSdkLedger_one : validateSdkLedger asciiContractLibrary coveredLedger
    (rowOrdinals.map fun ordinal => .str (rowText ordinal)) =
      .ok (ledgerText, rowOrdinals.map checkedRow) := by
  unfold validateSdkLedger
  refine bind_eq_ok.mpr ⟨entriesOf coveredLedger, rfl, ?_⟩
  refine valid_bind_eq_ok.mpr ⟨rfl, ?_⟩
  refine bind_eq_ok.mpr ⟨rowOrdinals.map coveredRow, rfl, ?_⟩
  refine bind_eq_ok.mpr ⟨_, ledgerRows_one, ?_⟩
  refine valid_bind_eq_ok.mpr ⟨rfl, ?_⟩
  refine bind_eq_ok.mpr ⟨rowOrdinals.map rowText, rfl, ?_⟩
  refine valid_bind_eq_ok.mpr ⟨beq_iff_eq.mpr ledgerEvaluated.rows, ?_⟩
  refine bind_eq_ok.mpr ⟨hashOf (.list (sortRows (rowOrdinals.map coveredRow))), ?_, ?_⟩
  · exact hashIs_of_hashed ledgerEvaluated.rowsHashed rfl
  · exact bind_eq_ok.mpr
      ⟨ledgerText, hashIs_of_hashed ledgerEvaluated.ledgerHashed ledgerText_eq, rfl⟩

theorem readCells_one :
    readCells (entriesOf oneCatalog) candidateText checkedRun oneCell = .ok checkedCells := by
  rfl

theorem gradeCells_one :
    gradeCells passedGrade checkedCells = .ok (entriesOf passedGrade, [checkedGrade]) := by
  rfl

theorem grade_one (findings : Findings) (hclean : findings = ⟨true, true, true, true, true, true⟩) :
    grade asciiContractLibrary passedGrade (entriesOf oneCatalog) checkedCells findings =
      .ok (entriesOf passedGrade, [checkedGrade]) := by
  subst hclean
  have hsdk : sdkGrade asciiContractLibrary (Entries.field (entriesOf passedGrade) "sdk_ledger")
      (entriesOf oneCatalog) = .ok (lit "CLEAR") := by
    refine bind_eq_ok.mpr ⟨_, rfl, ?_⟩
    refine bind_eq_ok.mpr ⟨_, rfl, ?_⟩
    refine bind_eq_ok.mpr ⟨_, validateSdkLedger_one, ?_⟩
    exact valid_bind_eq_ok.mpr ⟨by decide +kernel, rfl⟩
  refine bind_eq_ok.mpr ⟨_, gradeCells_one, ?_⟩
  refine bind_eq_ok.mpr ⟨_, hsdk, ?_⟩
  refine bind_eq_ok.mpr ⟨(), rfl, ?_⟩
  refine valid_bind_eq_ok.mpr ⟨by decide +kernel, ?_⟩
  exact valid_bind_eq_ok.mpr ⟨by decide +kernel, rfl⟩

theorem validateFreeze_one :
    validateFreeze asciiContractLibrary oneFreeze = .ok (entriesOf oneFreeze) := by
  refine bind_eq_ok.mpr ⟨entriesOf oneFreeze, rfl, ?_⟩
  refine valid_bind_eq_ok.mpr ⟨rfl, ?_⟩
  refine bind_eq_ok.mpr ⟨(), rfl, ?_⟩
  refine bind_eq_ok.mpr ⟨_, rfl, ?_⟩
  refine bind_eq_ok.mpr ⟨_, rfl, ?_⟩
  refine bind_eq_ok.mpr ⟨true, rfl, ?_⟩
  refine valid_bind_eq_ok.mpr ⟨rfl, ?_⟩
  exact bind_eq_ok.mpr ⟨freezeText, resultEvaluated.freezeHash, rfl⟩

/-- The result of one attempt is accepted. -/
theorem validateResult_one :
    validateResult asciiContractLibrary oneResult oneFreeze oneCatalog = .ok checkedResult := by
  refine bind_eq_ok.mpr ⟨entriesOf oneResult, rfl, ?_⟩
  refine valid_bind_eq_ok.mpr ⟨rfl, ?_⟩
  refine bind_eq_ok.mpr ⟨(), rfl, ?_⟩
  refine bind_eq_ok.mpr ⟨entriesOf oneCatalog, rfl, ?_⟩
  refine valid_bind_eq_ok.mpr ⟨resultEvaluated.safeCatalog, ?_⟩
  refine bind_eq_ok.mpr ⟨_, resultEvaluated.candidate, ?_⟩
  refine bind_eq_ok.mpr ⟨_, resultEvaluated.inventory, ?_⟩
  refine valid_bind_eq_ok.mpr ⟨beq_self_eq_true candidateText, ?_⟩
  refine bind_eq_ok.mpr ⟨checkedRun, rfl, ?_⟩
  refine bind_eq_ok.mpr ⟨_, readCells_one, ?_⟩
  refine valid_bind_eq_ok.mpr ⟨rfl, ?_⟩
  refine bind_eq_ok.mpr ⟨_, grade_one _ rfl, ?_⟩
  refine bind_eq_ok.mpr ⟨(), rfl, ?_⟩
  refine bind_eq_ok.mpr ⟨_, hashIs_of_hashed resultEvaluated.resultHashed rfl, ?_⟩
  refine bind_eq_ok.mpr ⟨_, validateFreeze_one, ?_⟩
  exact bind_eq_ok.mpr ⟨(), resultEvaluated.bindings, rfl⟩

theorem passed_result_repeats_one :
    validateResult asciiContractLibrary oneResult oneFreeze oneCatalog = .ok checkedResult ∧
      checkedResult.grade.field "status" = .str (lit "PASS") ∧
      (RepeatPolicyMet checkedResult ↔ EarlierAttemptsDeclared checkedResult) ∧
      (MarkedQualified checkedResult ↔ EarlierAttemptsDeclared checkedResult) :=
  ⟨validateResult_one, rfl, passed_result_repeats asciiContractLibrary validateResult_one rfl⟩

/-- The result passes with one attempt of a capability that asks for three. -/
theorem passed_result_not_repeated :
    validateResult asciiContractLibrary oneResult oneFreeze oneCatalog = .ok checkedResult ∧
      checkedResult.grade.field "status" = .str (lit "PASS") ∧ ¬ RepeatPolicyMet checkedResult ∧
      ¬ MarkedQualified checkedResult := by
  refine ⟨validateResult_one, rfl, ?_, ?_⟩
  · intro hmet
    have hrepeated : Repeated checkedResult (lit "CAP-one") :=
      ⟨_, List.mem_singleton_self _, rfl, rfl⟩
    obtain ⟨record, hrecord, -, hlength, -⟩ :=
      hmet (lit "CAP-one") (List.mem_singleton_self _) hrepeated
    rw [List.mem_singleton.mp hrecord] at hlength
    cases hlength
  · intro hmarked
    cases (hmarked checkedGrade (List.mem_singleton_self _)).1

end HermesClaude.Parity.Packets
