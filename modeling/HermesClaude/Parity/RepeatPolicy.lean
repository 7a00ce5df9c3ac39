/-
# Repeat policies

How often a row of the catalog is to pass.  A policy may ask for any positive number of
passes; its triggers are checked without the space around them, and are kept with it.
-/

import HermesClaude.Parity.ResultFields
import Mathlib.Data.List.Dedup

namespace HermesClaude.Parity

open HermesClaude.Python HermesClaude.Library

/-- Why a catalog is refused. -/
inductive CatalogViolation
  /-- `CatalogViolation(message)`. -/
  | violation (message : PyStr)
  /-- A message that ends in a list of texts. -/
  | listing (message : PyStr) (texts : List PyStr)

/-- `if not condition: raise`. -/
def orViolate (condition : Bool) (violation : CatalogViolation) : Except CatalogViolation Unit :=
  if condition then .ok () else .error violation

/-- `_REPEAT_TRIGGERS`. -/
def repeatTriggers : List PyStr := ["consequential", "initially_failing", "unstable"].map lit

/-- The fields of a policy. -/
def repeatPolicyFields : List PyStr :=
  ["minimum_passes", "consecutive_passes", "triggers"].map lit

/-- What is read of a policy once it is accepted. -/
structure RepeatPolicy where
  consecutivePasses : Nat
  /-- The texts as the policy has them, or `none` where it lacks the field. -/
  triggers : Option (List PyStr)

/-- `_nonempty_string`. -/
def nonemptyString (field : PyStr) (value : Json) : Except CatalogViolation PyStr :=
  match value with
  | .str text =>
    if strip text = [] then .error (.violation (field ++ lit " must be a non-empty string"))
    else .ok (strip text)
  | _ => .error (.violation (field ++ lit " must be a non-empty string"))

/-- `_string_list` where the list may be empty. -/
def stringList (field : PyStr) (value : Json) : Except CatalogViolation (List PyStr) :=
  match value with
  | .list items => items.mapM (nonemptyString field)
  | _ => .error (.violation (field ++ lit " must be a list of strings"))

/-- A positive integer. -/
def positiveInteger (field : PyStr) (value : Json) : Except CatalogViolation Nat :=
  match value with
  | .int i =>
    if 1 ≤ i then .ok i.toNat
    else .error (.violation (field ++ lit " must be a positive integer"))
  | _ => .error (.violation (field ++ lit " must be a positive integer"))

/-- `_validate_repeat_policy`. -/
def validateRepeatPolicy (field : PyStr) (value : Json) : Except CatalogViolation RepeatPolicy :=
  match value with
  | .dict policy => do
    let unknown := (policy.map Prod.fst).filter (· ∉ repeatPolicyFields)
    orViolate unknown.isEmpty (.listing (field ++ lit " has unknown fields: ") (sorted unknown))
    let minimum ← positiveInteger (field ++ lit ".minimum_passes")
      (Entries.field policy "minimum_passes")
    let consecutive ← positiveInteger (field ++ lit ".consecutive_passes")
      (Entries.field policy "consecutive_passes")
    orViolate (minimum ≤ consecutive)
      (.violation (field ++ lit ".consecutive_passes cannot be below minimum_passes"))
    let given := Json.key? policy (lit "triggers")
    let triggers ← stringList (field ++ lit ".triggers") (given.getD (.list []))
    let unsupported := (triggers.filter (· ∉ repeatTriggers)).dedup
    orViolate unsupported.isEmpty
      (.listing (field ++ lit ".triggers contains unsupported values: ") (sorted unsupported))
    -- the texts are checked without the space around them and are kept with it
    .ok {
      consecutivePasses := consecutive
      triggers := given.map fun value => (value.list?.getD []).filterMap Json.str? }
  | _ => .error (.violation (field ++ lit " must be a mapping"))

/-- The policy is one that a catalog may have. -/
def RepeatPolicy.Accepted (policy : RepeatPolicy) : Prop :=
  ∃ field value, validateRepeatPolicy field value = .ok policy

/-! ## What is accepted -/

theorem orViolate_eq_ok {condition : Bool} {violation : CatalogViolation} {u : Unit} :
    orViolate condition violation = .ok u ↔ condition = true := by
  cases condition with
  | false => exact iff_of_false nofun nofun
  | true => exact iff_of_true rfl rfl

theorem positiveInteger_eq_ok {field : PyStr} {value : Json} {n : Nat} :
    positiveInteger field value = .ok n ↔ value = .int n ∧ 1 ≤ n := by
  cases value with
  | int i =>
    rw [positiveInteger]
    by_cases hi : 1 ≤ i
    · rw [if_pos hi, Except.ok.injEq, Json.int.injEq]
      omega
    · rw [if_neg hi, Json.int.injEq]
      apply iff_of_false
      · exact nofun
      · omega
  | null | bool _ | float _ | str _ | list _ | dict _ => simp [positiveInteger]

theorem nonemptyString_eq_ok {field : PyStr} {value : Json} {text : PyStr} :
    nonemptyString field value = .ok text ↔
      ∃ given, value = .str given ∧ strip given = text ∧ text ≠ [] := by
  cases value with
  | str given =>
    rw [nonemptyString]
    by_cases hempty : strip given = []
    · rw [if_pos hempty]
      apply iff_of_false
      · intro h
        cases h
      · intro h
        rcases h with ⟨other, hother, htext, hne⟩
        cases hother
        exact hne (htext ▸ hempty)
    · rw [if_neg hempty, Except.ok.injEq]
      constructor
      · intro h
        exact ⟨given, rfl, h, h ▸ hempty⟩
      · intro h
        rcases h with ⟨other, hother, htext, -⟩
        cases hother
        exact htext
  | null | bool _ | int _ | float _ | list _ | dict _ => simp [nonemptyString]

/-- The texts of an accepted list are those that were given, without the space around them. -/
theorem stringList_eq_ok {field : PyStr} {items : List Json} {texts : List PyStr}
    (h : stringList field (.list items) = .ok texts) :
    texts = (items.filterMap Json.str?).map strip := by
  have hall : List.Forall₂ (fun item text => nonemptyString field item = .ok text) items texts :=
    mapM_eq_ok.mp h
  induction hall with
  | nil => rfl
  | @cons item text items texts hitem hrest ih =>
    rcases nonemptyString_eq_ok.mp hitem with ⟨given, rfl, hgiven, -⟩
    have hnext : texts = (items.filterMap Json.str?).map strip := ih (mapM_eq_ok.mpr hrest)
    have hfirst : (Json.str given :: items).filterMap Json.str? = given :: items.filterMap Json.str? :=
      List.filterMap_cons_some rfl
    rw [hfirst, List.map_cons, hgiven, ← hnext]

/-- The triggers of an accepted policy are known, but for the space around them. -/
def RepeatPolicy.Supported (policy : RepeatPolicy) : Prop :=
  ∀ text ∈ policy.triggers.getD [], strip text ∈ repeatTriggers

theorem RepeatPolicy.Accepted.supported {policy : RepeatPolicy} (h : policy.Accepted) :
    1 ≤ policy.consecutivePasses ∧ policy.Supported := by
  rcases h with ⟨field, value, h⟩
  cases value with
  | null | bool _ | int _ | float _ | str _ | list _ => cases h
  | dict entries =>
    simp only [validateRepeatPolicy, bind_eq_ok, orViolate_eq_ok, positiveInteger_eq_ok] at h
    rcases h with ⟨⟨⟩, -, minimum, -, consecutive, hconsecutive, ⟨⟩, -, texts, htexts, ⟨⟩, hknown, h⟩
    cases h
    refine ⟨hconsecutive.2, ?_⟩
    rw [List.isEmpty_iff, List.dedup_eq_nil, List.filter_eq_nil_iff] at hknown
    intro text htext
    cases hgiven : Json.key? entries (lit "triggers") with
    | none =>
      rw [hgiven] at htext
      cases htext
    | some value =>
      rw [hgiven] at htexts htext
      cases value with
      | null | bool _ | int _ | float _ | str _ | dict _ => cases htexts
      | list items =>
        rw [Option.getD_some] at htexts
        have hmem : strip text ∈ texts := by
          rw [stringList_eq_ok htexts]
          exact List.mem_map_of_mem htext
        simpa using hknown (strip text) hmem

/-- A text without its space is not empty if it is a trigger. -/
theorem ne_nil_of_mem_repeatTriggers {text : PyStr} (h : text ∈ repeatTriggers) : text ≠ [] := by
  intro hnil
  rw [hnil] at h
  revert h
  decide

/-- A policy as a document has it. -/
def RepeatPolicy.toEntries (policy : RepeatPolicy) : Entries :=
  [(lit "minimum_passes", .int 1), (lit "consecutive_passes", .int policy.consecutivePasses)] ++
    (policy.triggers.map fun texts => (lit "triggers", .list (texts.map .str))).toList

theorem RepeatPolicy.toEntries_known (policy : RepeatPolicy) :
    ((policy.toEntries.map Prod.fst).filter (· ∉ repeatPolicyFields)).isEmpty = true := by
  rcases policy with ⟨consecutive, _ | texts⟩
  · simp [toEntries, repeatPolicyFields]
  · simp [toEntries, repeatPolicyFields]

theorem RepeatPolicy.toEntries_nodup (policy : RepeatPolicy) :
    (policy.toEntries.map Prod.fst).Nodup := by
  have hfields : repeatPolicyFields.Nodup := by decide
  rcases policy with ⟨consecutive, _ | texts⟩
  · exact List.Nodup.sublist (List.sublist_append_left _ [lit "triggers"]) hfields
  · exact hfields

/-- The triggers that a document has. -/
theorem RepeatPolicy.key?_triggers (policy : RepeatPolicy) :
    Json.key? policy.toEntries (lit "triggers") =
      policy.triggers.map fun texts => .list (texts.map .str) := by
  rcases policy with ⟨consecutive, _ | texts⟩
  · have hminimum : (lit "triggers" == lit "minimum_passes") = false := by decide
    have hconsecutive : (lit "triggers" == lit "consecutive_passes") = false := by decide
    simp [Json.key?, toEntries, List.lookup_cons, hminimum, hconsecutive]
  · apply (Json.key?_eq_some_iff (toEntries_nodup _)).mpr
    simp [toEntries]

/-- Triggers that are known texts are read as they are given. -/
theorem stringList_texts {field : PyStr} {texts : List PyStr}
    (h : ∀ text ∈ texts, strip text ∈ repeatTriggers) :
    stringList field (.list (texts.map .str)) = .ok (texts.map strip) := by
  apply mapM_eq_ok.mpr
  rw [List.forall₂_map_left_iff, List.forall₂_map_right_iff, List.forall₂_same]
  intro text htext
  exact nonemptyString_eq_ok.mpr ⟨text, rfl, rfl, ne_nil_of_mem_repeatTriggers (h text htext)⟩

/-- **Policies.** A catalog may ask for any positive number of passes. -/
theorem RepeatPolicy.accepted_iff {policy : RepeatPolicy} :
    policy.Accepted ↔ 1 ≤ policy.consecutivePasses ∧ policy.Supported := by
  constructor
  · exact RepeatPolicy.Accepted.supported
  · intro h
    rcases h with ⟨hpasses, hsupported⟩
    refine ⟨[], .dict policy.toEntries, ?_⟩
    have hone : positiveInteger ([] ++ lit ".minimum_passes") (.int 1) = .ok 1 := rfl
    have hcount : positiveInteger ([] ++ lit ".consecutive_passes") (.int policy.consecutivePasses) =
        .ok policy.consecutivePasses := positiveInteger_eq_ok.mpr ⟨rfl, hpasses⟩
    have hminimum : Entries.field policy.toEntries "minimum_passes" = .int 1 := by
      apply field_eq_of_mem policy.toEntries_nodup
      simp [toEntries]
    have hconsecutive : Entries.field policy.toEntries "consecutive_passes" =
        .int policy.consecutivePasses := by
      apply field_eq_of_mem policy.toEntries_nodup
      simp [toEntries]
    simp only [validateRepeatPolicy, bind_eq_ok, orViolate_eq_ok, hminimum, hconsecutive,
      policy.key?_triggers]
    refine ⟨(), policy.toEntries_known, 1, hone, policy.consecutivePasses, hcount, (),
      decide_eq_true hpasses, (policy.triggers.getD []).map strip, ?_, (), ?_, ?_⟩
    · cases htriggers : policy.triggers with
      | none => rfl
      | some texts =>
        rw [Supported, htriggers] at hsupported
        exact stringList_texts hsupported
    · rw [List.isEmpty_iff, List.dedup_eq_nil, List.filter_eq_nil_iff, List.forall_mem_map]
      intro text htext
      simpa using hsupported text htext
    · rcases policy with ⟨consecutive, _ | texts⟩
      · rfl
      · have hraw : (texts.map Json.str).filterMap Json.str? = texts := by
          rw [List.filterMap_map]
          exact List.filterMap_some
        change Except.ok (RepeatPolicy.mk consecutive
          (some ((texts.map Json.str).filterMap Json.str?))) = _
        rw [hraw]

end HermesClaude.Parity
