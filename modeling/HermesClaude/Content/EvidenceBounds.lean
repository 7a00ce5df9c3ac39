/-
# Short model names

A model name is kept only if it is at most as long as an identifier.  So every name that the
evidence of a turn and of a session holds is, and so is every model that is resolved from them.
-/

import HermesClaude.Content.Provenance

namespace HermesClaude.Content

open HermesClaude.Python

/-- A name within `_MAX_IDENTIFIER_CHARS`. -/
def Short (name : PyStr) : Prop := name.length ≤ maxIdentifierChars

instance (name : PyStr) : Decidable (Short name) :=
  inferInstanceAs (Decidable (name.length ≤ maxIdentifierChars))

/-- A canonical name, if there is one, is short. -/
def ShortName (name : Option PyStr) : Prop := ∀ text ∈ name, Short text

/-- The evidence of a turn holds short names. -/
structure TurnEvidence.Short (turn : TurnEvidence) : Prop where
  reported : ∀ model ∈ turn.reportedModels, Content.Short model
  usage : ∀ model ∈ turn.usageModels, Content.Short model
  canonical : ∀ entry ∈ turn.usageCanonicalModels, ShortName entry.2

/-- The evidence of a session holds a short name. -/
def SessionEvidence.Short (session : SessionEvidence) : Prop := ShortName session.model

variable {library : TextLibrary} {turn : TurnEvidence} {session : SessionEvidence} {message : PyValue}

theorem shortName_none : ShortName none := by
  intro text htext
  cases htext

theorem shortName_some {name : PyStr} (h : Short name) : ShortName (some name) := by
  intro text htext
  cases htext
  exact h

theorem shortName_safeModelIdentifier (value : PyValue) :
    ShortName (safeModelIdentifier library value) := by
  cases value with
  | str s =>
    rw [safeModelIdentifier]
    split
    · exact shortName_none
    · next hguard =>
      split
      · exact shortName_none
      · simp only [Bool.or_eq_true, not_or, decide_eq_true_eq, Nat.not_lt] at hguard
        exact shortName_some hguard.1.2
  | none | bool | int | float | bytes | list | tuple | set | dict | object => exact shortName_none

theorem shortName_canonicalName {usage : PyValue} {canonical : Option PyStr}
    (h : canonicalName library usage = some canonical) : ShortName canonical := by
  rw [canonicalName] at h
  split at h
  · cases h
    exact shortName_none
  · next s _ =>
    split at h
    · cases h
      exact shortName_none
    · rcases Option.map_eq_some_iff.mp h with ⟨name, hname, rfl⟩
      exact shortName_some (shortName_safeModelIdentifier (.str s) name hname)
  · cases h

theorem short_addModel {models : List PyStr} {model : PyStr} (h : ∀ name ∈ models, Short name)
    (hmodel : Short model) : ∀ name ∈ addModel models model, Short name := by
  intro name hname
  rw [addModel] at hname
  split at hname
  · exact h name hname
  · rcases List.mem_append.mp hname with hname | hname
    · exact h name hname
    · rw [List.mem_singleton.mp hname]
      exact hmodel

theorem short_setCanonical {entries : List (PyStr × Option PyStr)} {model : PyStr}
    {canonical : Option PyStr} (h : ∀ entry ∈ entries, ShortName entry.2)
    (hcanonical : ShortName canonical) :
    ∀ entry ∈ setCanonical entries model canonical, ShortName entry.2 := by
  intro entry hentry
  rw [setCanonical] at hentry
  split at hentry
  · rcases List.mem_map.mp hentry with ⟨old, hold, rfl⟩
    split
    · exact hcanonical
    · exact h old hold
  · rcases List.mem_append.mp hentry with hentry | hentry
    · exact h entry hentry
    · rw [List.mem_singleton.mp hentry]
      exact hcanonical

theorem short_defaultCanonical {entries : List (PyStr × Option PyStr)} {model : PyStr}
    (h : ∀ entry ∈ entries, ShortName entry.2) :
    ∀ entry ∈ defaultCanonical entries model, ShortName entry.2 := by
  intro entry hentry
  rw [defaultCanonical] at hentry
  split at hentry
  · exact h entry hentry
  · rcases List.mem_append.mp hentry with hentry | hentry
    · exact h entry hentry
    · rw [List.mem_singleton.mp hentry]
      exact shortName_none

theorem TurnEvidence.Short.malformed (h : turn.Short) :
    TurnEvidence.Short { turn with usageMalformed := true } := ⟨h.reported, h.usage, h.canonical⟩

/-- One entry of the usage. -/
theorem TurnEvidence.Short.observeUsage (h : turn.Short) (entry : PyValue × PyValue) :
    (turn.observeUsage library entry).Short := by
  rw [TurnEvidence.observeUsage]
  split
  · next model _ hmodel _ =>
    split
    · exact h.malformed
    · next canonical hcanonical =>
      dsimp only
      split
      · exact h.malformed
      · refine ⟨h.reported, short_addModel h.usage ?_, ?_⟩
        · exact shortName_safeModelIdentifier entry.1 model hmodel
        · dsimp only
          split
          · exact short_setCanonical h.canonical (shortName_canonicalName hcanonical)
          · exact short_defaultCanonical h.canonical
  · exact h.malformed

/-- `_observe_model_evidence`, up to the usage. -/
def TurnEvidence.observeReported (library : TextLibrary) (turn : TurnEvidence) (message : PyValue) :
    TurnEvidence :=
  match safeModelIdentifier library (message.safeAttr "model") with
  | some reported =>
    if (message.safeAttr "parent_tool_use_id").isNone ||
        (message.safeAttr "parent_tool_use_id").isText [] then
      { turn with reportedModels := addModel turn.reportedModels reported }
    else turn
  | none => turn

theorem TurnEvidence.Short.observeReported (h : turn.Short) (message : PyValue) :
    (turn.observeReported library message).Short := by
  rw [TurnEvidence.observeReported]
  cases hmodel : safeModelIdentifier library (message.safeAttr "model") with
  | none => exact h
  | some model =>
    dsimp only
    split_ifs
    · exact ⟨short_addModel h.reported (shortName_safeModelIdentifier _ model hmodel), h.usage,
        h.canonical⟩
    · exact h

/-- **Observing keeps names short.** -/
theorem TurnEvidence.Short.observe (h : turn.Short) (message : PyValue) :
    (turn.observe library message).Short := by
  have husage : ∀ (entries : List (PyValue × PyValue)) (turn : TurnEvidence), turn.Short →
      (entries.foldl (TurnEvidence.observeUsage library) turn).Short := by
    intro entries
    induction entries with
    | nil => exact fun turn h => h
    | cons entry rest ih => exact fun turn h => ih _ (h.observeUsage entry)
  have hreported : (turn.observeReported library message).Short := h.observeReported message
  rw [TurnEvidence.observe]
  cases message.safeAttr "model_usage" with
  | none => exact hreported
  | dict entries =>
    dsimp only
    by_cases hcount : entries.length > maxArgumentItems
    · rw [if_pos hcount]
      exact hreported.malformed
    · rw [if_neg hcount]
      exact husage entries _ hreported
  | _ => exact hreported.malformed

theorem SessionEvidence.Short.observe (h : session.Short) (message : PyValue) :
    (session.observe library message).Short := by
  unfold SessionEvidence.observe
  split
  · exact h
  · split
    · exact h
    · split
      · exact h
      · next model _ =>
        split
        · exact h
        · next safeModel hmodel _ =>
          exact shortName_some (shortName_safeModelIdentifier model safeModel hmodel)
        · split
          · exact h
          · exact h

/-! ## The resolved model -/

/-- A resolution of short names. -/
structure ModelResolution.Short (model : ModelResolution) : Prop where
  effective : ShortName model.effective
  canonical : ShortName model.canonical
  resolution : Content.Short model.resolution

theorem shortName_canonicalOf {entries : List (PyStr × Option PyStr)}
    (h : ∀ entry ∈ entries, ShortName entry.2) (model : PyStr) :
    ShortName (canonicalOf entries model) := by
  intro name hname
  rcases Option.bind_eq_some_iff.mp hname with ⟨entry, hentry, hcanonical⟩
  exact h entry (List.mem_of_find?_eq_some hentry) name hcanonical

theorem short_countedReports (hturn : turn.Short) {reports : List PyStr}
    (h : countedReports library session turn = some reports) : ∀ model ∈ reports, Short model := by
  intro model hmodel
  rw [countedReports] at h
  split at h
  · cases h
    exact hturn.reported model hmodel
  · split at h
    · cases h
    · cases h
      exact hturn.reported model (List.mem_of_mem_filter hmodel)

theorem short_amongUsageModels (hsession : session.Short) (hturn : turn.Short) {reports : List PyStr}
    (hreports : ∀ model ∈ reports, Short model) {found : Option PyStr × Option PyStr}
    (h : amongUsageModels session turn reports = some found) : ShortName found.1 ∧ ShortName found.2 := by
  rcases Option.bind_eq_some_iff.mp h with ⟨reported, hreported, hfound⟩
  have hshort : Short reported := by
    split at hreported
    · next model hmodel =>
      cases hreported
      exact hsession reported hmodel
    · cases hreported
      exact hreports reported List.mem_cons_self
    · cases hreported
  split at hfound
  · cases hfound
    exact ⟨shortName_some hshort, shortName_canonicalOf hturn.canonical reported⟩
  · split at hfound
    · cases hfound
      exact ⟨shortName_some hshort, shortName_some hshort⟩
    · cases hfound

theorem short_bySingleUsage (hsession : session.Short) (hturn : turn.Short) {reports : List PyStr}
    (hreports : ∀ model ∈ reports, Short model) {found : Option PyStr × Option PyStr}
    (h : bySingleUsage session turn reports = some found) : ShortName found.1 ∧ ShortName found.2 := by
  unfold bySingleUsage at h
  split at h
  · next usageModel husage =>
    have hcanonical := shortName_canonicalOf hturn.canonical usageModel
    have husageModel := hturn.usage usageModel (List.mem_of_head? husage)
    dsimp only at h
    split at h
    · next model hmodel =>
      have hshort := hsession model hmodel
      split at h
      · cases h
        exact ⟨shortName_some hshort, hcanonical⟩
      · split at h
        · cases h
          exact ⟨shortName_some hshort, shortName_some hshort⟩
        · cases h
    · split at h
      · cases h
        exact ⟨shortName_some husageModel, hcanonical⟩
      · cases h
  · split at h
    · next model hmodel =>
      cases h
      exact ⟨shortName_some (hsession model hmodel), shortName_none⟩
    · cases h
      exact ⟨shortName_none, shortName_none⟩
    · cases h
      exact ⟨shortName_some (hreports _ List.mem_cons_self), shortName_none⟩
    · cases h

/-- **Short evidence resolves to short names.** -/
theorem short_modelProvenance (hsession : session.Short) (hturn : turn.Short)
    (selectedModel : Option PyStr) : (modelProvenance library selectedModel session turn).Short := by
  have hliteral (resolution : String)
      (hmem : resolution ∈ ["ambiguous", "unknown", "canonicalized", "mismatch", "exact", "reported"]) :
      Content.Short (lit resolution) := by
    have hall : ["ambiguous", "unknown", "canonicalized", "mismatch", "exact", "reported"].all
        (fun text => decide (Content.Short (lit text))) = true := by decide
    exact of_decide_eq_true (List.all_eq_true.mp hall resolution hmem)
  have hambiguous : ModelResolution.ambiguous.Short :=
    ⟨shortName_none, shortName_none, hliteral "ambiguous" (by simp)⟩
  unfold modelProvenance
  split
  · exact hambiguous
  · dsimp only
    generalize hfound : ((countedReports library session turn).bind _) = found
    have hshort : ∀ models ∈ found, ShortName models.1 ∧ ShortName models.2 := by
      intro models hmodels
      rw [← hfound] at hmodels
      rcases Option.bind_eq_some_iff.mp hmodels with ⟨reports, hreports, hmodels⟩
      have hshortReports := short_countedReports hturn hreports
      split at hmodels
      · exact short_amongUsageModels hsession hturn hshortReports hmodels
      · exact short_bySingleUsage hsession hturn hshortReports hmodels
    match found, hshort with
    | none, _ => exact hambiguous
    | some (none, canonical), hshort =>
      exact ⟨shortName_none, (hshort _ rfl).2, hliteral "unknown" (by simp)⟩
    | some (some effective, canonical), hshort =>
      have hmodels := hshort _ rfl
      dsimp only
      split
      · exact ⟨hmodels.1, hmodels.2, hliteral "canonicalized" (by simp)⟩
      · split
        · exact ⟨hmodels.1, hmodels.2, hliteral "mismatch" (by simp)⟩
        · refine ⟨hmodels.1, hmodels.2, ?_⟩
          dsimp only
          split
          · exact hliteral "exact" (by simp)
          · exact hliteral "reported" (by simp)

end HermesClaude.Content
