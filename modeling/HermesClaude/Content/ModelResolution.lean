/-
# The model that a set of facts resolves to

The resolution of a turn's model reads the evidence only through the facts that the
evidence describes, so messages may come in any order.  And it does not guess: a model it
reports as effective is one that the facts name, and none of them speaks against it.
-/

import HermesClaude.Content.ModelEvidence
import Mathlib.Data.List.Nodup
import Mathlib.Data.List.Perm.Basic

namespace HermesClaude.Content

open HermesClaude.Python

/-! ## One set of facts -/

variable {library : TextLibrary} {session session' earlier : SessionEvidence}
  {turn turn' : TurnEvidence} {sessionFacts : Set SessionFact} {turnFacts : Set TurnFact}
  {reports reports' : List PyStr}

/-- Evidence that tells a resolution nothing different. -/
structure TurnEvidence.Same (turn turn' : TurnEvidence) : Prop where
  reported : turn.reportedModels.Perm turn'.reportedModels
  models : turn.usageModels.Perm turn'.usageModels
  entries : turn.usageCanonicalModels.Perm turn'.usageCanonicalModels
  canonical : ∀ model, canonicalOf turn.usageCanonicalModels model =
    canonicalOf turn'.usageCanonicalModels model

/-- The facts leave nothing else open. -/
theorem TurnEvidence.Describes.same (h : turn.Describes turnFacts) (h' : turn'.Describes turnFacts)
    (hagree : ¬ TurnFact.Disagree turnFacts) : turn.Same turn' := by
  have ht := h.tallies hagree
  have ht' := h'.tallies hagree
  have hcanonical : ∀ model, canonicalOf turn.usageCanonicalModels model =
      canonicalOf turn'.usageCanonicalModels model := by
    intro model
    apply Option.ext
    intro name
    rw [ht.canonical, ht'.canonical]
  constructor
  · apply (List.perm_ext_iff_of_nodup h.reported_nodup h'.reported_nodup).mpr
    intro model
    rw [h.mem_reported, h'.mem_reported]
  · apply (List.perm_ext_iff_of_nodup ht.models_nodup ht'.models_nodup).mpr
    intro model
    rw [ht.mem_models, ht'.mem_models]
  · apply (List.perm_ext_iff_of_nodup (List.Nodup.of_map Prod.fst ht.keys_nodup)
      (List.Nodup.of_map Prod.fst ht'.keys_nodup)).mpr
    rintro ⟨model, name⟩
    rw [mem_entries_iff ht.keys_nodup, mem_entries_iff ht'.keys_nodup, ht.mem_keys, ht'.mem_keys,
      hcanonical]
  · exact hcanonical

/-- An unconflicted session knows one model, whichever message announced it. -/
theorem SessionEvidence.Describes.model_eq (h : session.Describes earlier sessionFacts)
    (h' : session'.Describes earlier sessionFacts) (hconflict : session.conflict = false) :
    session.model = session'.model := by
  have honly : ∀ model other, SessionFact.Announces earlier sessionFacts model →
      SessionFact.Announces earlier sessionFacts other → model = other := by
    intro model other hmodel hother
    by_contra hne
    rw [h.conflict.mpr (Or.inr ⟨model, other, hne, hmodel, hother⟩)] at hconflict
    cases hconflict
  cases hmodel : session.model with
  | none =>
    cases hmodel' : session'.model with
    | none => rfl
    | some model' => exact absurd (h'.model model' hmodel') (h.silent hmodel model')
  | some model =>
    cases hmodel' : session'.model with
    | none => exact absurd (h.model model hmodel) (h'.silent hmodel' model)
    | some model' =>
      rw [honly model model' (h.model model hmodel) (h'.model model' hmodel')]

/-- The single element of a list, if it has just one. -/
def single? : List PyStr → Option PyStr
  | [model] => some model
  | _ => none

theorem single?_perm (h : reports.Perm reports') : single? reports = single? reports' := by
  match reports, h with
  | [], h => rw [List.nil_perm.mp h]
  | [model], h => rw [List.singleton_perm.mp h]
  | a :: b :: rest, h =>
    match reports', h.length_eq with
    | _ :: _ :: _, _ => rfl

theorem amongUsageModels_eq (session : SessionEvidence) (turn : TurnEvidence) (reports : List PyStr) :
    amongUsageModels session turn reports =
      (session.model.or (single? reports)).bind fun reported =>
        if reported ∈ turn.usageModels then
          some (some reported, canonicalOf turn.usageCanonicalModels reported)
        else if (turn.usageCanonicalModels.filter (·.2 = some reported)).length = 1 then
          some (some reported, some reported)
        else none := by
  unfold amongUsageModels
  cases session.model with
  | some model => rfl
  | none =>
    match reports with
    | [] => rfl
    | [model] => rfl
    | _ :: _ :: _ => rfl

theorem amongUsageModels_congr (hmodel : session.model = session'.model) (hsame : turn.Same turn')
    (hreports : reports.Perm reports') :
    amongUsageModels session turn reports = amongUsageModels session' turn' reports' := by
  rw [amongUsageModels_eq, amongUsageModels_eq, hmodel, single?_perm hreports]
  congr 1
  funext reported
  rw [hsame.canonical, (hsame.entries.filter _).length_eq]
  simp only [hsame.models.mem_iff]

theorem bySingleUsage_congr (hmodel : session.model = session'.model) (hsame : turn.Same turn')
    (hreports : reports.Perm reports') (hsingle : ¬ turn.usageModels.length > 1) :
    bySingleUsage session turn reports = bySingleUsage session' turn' reports' := by
  have hmodels : turn.usageModels = turn'.usageModels := by
    match hlist : turn.usageModels, hsame.models with
    | [], h => exact (List.nil_perm.mp h).symm
    | [model], h => exact List.singleton_perm.mp h
    | _ :: _ :: _, _ => simp [hlist] at hsingle
  unfold bySingleUsage
  rw [hmodel, hmodels]
  cases turn'.usageModels.head? with
  | some usageModel =>
    dsimp only
    rw [hsame.canonical, hreports.all_eq]
  | none =>
    cases session'.model with
    | some model => rfl
    | none =>
      have hsingle := single?_perm hreports
      match reports, reports', hreports.length_eq with
      | [], [], _ => rfl
      | [model], [model'], _ => exact congrArg (fun m => some (m, none)) hsingle
      | _ :: _ :: _, _ :: _ :: _, _ => rfl

/-- What a resolution is computed from. -/
def foundModel (library : TextLibrary) (session : SessionEvidence) (turn : TurnEvidence) :
    Option (Option PyStr × Option PyStr) :=
  (countedReports library session turn).bind fun reportedModels =>
    if turn.usageModels.length > 1 then amongUsageModels session turn reportedModels
    else bySingleUsage session turn reportedModels

theorem foundModel_congr (hmodel : session.model = session'.model) (hsame : turn.Same turn') :
    foundModel library session turn = foundModel library session' turn' := by
  have hrest : ∀ reports reports' : List PyStr, reports.Perm reports' →
      (if turn.usageModels.length > 1 then amongUsageModels session turn reports
        else bySingleUsage session turn reports) =
      if turn'.usageModels.length > 1 then amongUsageModels session' turn' reports'
        else bySingleUsage session' turn' reports' := by
    intro reports reports' hreports
    by_cases hmany : turn.usageModels.length > 1
    · rw [if_pos hmany, if_pos (hsame.models.length_eq ▸ hmany)]
      exact amongUsageModels_congr hmodel hsame hreports
    · rw [if_neg hmany, if_neg (hsame.models.length_eq ▸ hmany)]
      exact bySingleUsage_congr hmodel hsame hreports hmany
  unfold foundModel countedReports
  rw [← hmodel]
  cases session.model with
  | none => exact hrest _ _ hsame.reported
  | some model =>
    dsimp only
    rw [hsame.reported.any_eq]
    split
    · rfl
    · exact hrest _ _ (hsame.reported.filter _)

/-- A set of facts has one resolution. -/
theorem modelProvenance_congr (selectedModel : Option PyStr)
    (hsession : session.Describes earlier sessionFacts)
    (hsession' : session'.Describes earlier sessionFacts)
    (hturn : turn.Describes turnFacts) (hturn' : turn'.Describes turnFacts) :
    modelProvenance library selectedModel session turn =
      modelProvenance library selectedModel session' turn' := by
  have husage : turn.usageMalformed = turn'.usageMalformed := by
    rw [Bool.eq_iff_iff, hturn.malformed, hturn'.malformed]
  have hmalformed : session.malformed = session'.malformed := by
    rw [Bool.eq_iff_iff, hsession.malformed, hsession'.malformed]
  have hconflict : session.conflict = session'.conflict := by
    rw [Bool.eq_iff_iff, hsession.conflict, hsession'.conflict]
  unfold modelProvenance
  rw [← husage, ← hmalformed, ← hconflict]
  by_cases htainted : (turn.usageMalformed || session.malformed || session.conflict) = true
  · rw [if_pos htainted, if_pos htainted]
  · rw [if_neg htainted, if_neg htainted]
    simp only [Bool.or_eq_true, not_or, Bool.not_eq_true] at htainted
    have hagree : ¬ TurnFact.Disagree turnFacts := by
      intro hdisagree
      rw [hturn.malformed.mpr hdisagree] at htainted
      cases htainted.1.1
    have hfound : foundModel library session turn = foundModel library session' turn' :=
      foundModel_congr (hsession.model_eq hsession' htainted.2) (hturn.same hturn' hagree)
    unfold foundModel at hfound
    rw [hfound]

/-! ## Soundness -/

/-- The evidence of a turn and its session is malformed or disagrees. -/
def Tainted (earlier : SessionEvidence) (sessionFacts : Set SessionFact)
    (turnFacts : Set TurnFact) : Prop :=
  TurnFact.Disagree turnFacts ∨ earlier.malformed = true ∨ .malformed ∈ sessionFacts ∨
    earlier.conflict = true ∨ ∃ model other, model ≠ other ∧
      SessionFact.Announces earlier sessionFacts model ∧
      SessionFact.Announces earlier sessionFacts other

theorem flags_iff_tainted (hsession : session.Describes earlier sessionFacts)
    (hturn : turn.Describes turnFacts) :
    (turn.usageMalformed || session.malformed || session.conflict) = true ↔
      Tainted earlier sessionFacts turnFacts := by
  rw [Bool.or_eq_true, Bool.or_eq_true, hturn.malformed, hsession.malformed, hsession.conflict]
  unfold Tainted
  tauto

theorem modelProvenance_ambiguous (selectedModel : Option PyStr)
    (hsession : session.Describes earlier sessionFacts) (hturn : turn.Describes turnFacts)
    (h : Tainted earlier sessionFacts turnFacts) :
    modelProvenance library selectedModel session turn = .ambiguous :=
  if_pos ((flags_iff_tainted hsession hturn).mpr h)

/-- The request plays no part in which model is reported. -/
theorem modelProvenance_models (selectedModel : Option PyStr) (session : SessionEvidence)
    (turn : TurnEvidence) :
    ((modelProvenance library selectedModel session turn).effective,
        (modelProvenance library selectedModel session turn).canonical) =
      if turn.usageMalformed || session.malformed || session.conflict then (none, none)
      else (foundModel library session turn).getD (none, none) := by
  unfold modelProvenance
  split
  · rfl
  · generalize hfound : ((countedReports library session turn).bind _) = found
    have hfound' : foundModel library session turn = found := hfound
    rw [hfound']
    match found with
    | none => rfl
    | some (none, canonical) => rfl
    | some (some effective, canonical) =>
      dsimp only
      split
      · rfl
      · split <;> rfl

/-- What the facts must say where they resolve to a model. -/
structure Supports (library : TextLibrary) (earlier : SessionEvidence)
    (sessionFacts : Set SessionFact) (turnFacts : Set TurnFact) (effective : PyStr)
    (canonical : Option PyStr) : Prop where
  occurs : SessionFact.Announces earlier sessionFacts effective ∨ .reported effective ∈ turnFacts ∨
    ∃ name, .usage effective name ∈ turnFacts
  announced : ∀ model, SessionFact.Announces earlier sessionFacts model → model = effective
  reported : ∀ model, .reported model ∈ turnFacts →
    library.casefold model ∉ syntheticModelIdentifiers →
    model = effective ∨ canonical = some model
  usage : (∃ model name, .usage model name ∈ turnFacts) →
    (∃ name, .usage effective name ∈ turnFacts) ∨ ∃ model, .usage model (some effective) ∈ turnFacts

theorem single?_eq_some {model : PyStr} (h : single? reports = some model) : reports = [model] := by
  match reports, h with
  | [_], h => rw [Option.some.inj h]

/-- A model that usage is reported for, or the one canonical name of such a model. -/
theorem usage_of_amongUsageModels (htallies : turn.Tallies turnFacts) {effective : PyStr}
    {canonical : Option PyStr} (h : amongUsageModels session turn reports = some (some effective, canonical)) :
    session.model.or (single? reports) = some effective ∧
      ((∃ name, .usage effective name ∈ turnFacts) ∨
        ∃ model, .usage model (some effective) ∈ turnFacts) := by
  rw [amongUsageModels_eq, Option.bind_eq_some_iff] at h
  obtain ⟨reported, hreported, h⟩ := h
  split at h
  · next hmem =>
    cases h
    exact ⟨hreported, Or.inl ((htallies.mem_models _).mp hmem)⟩
  · split at h
    · next hunique =>
      cases h
      obtain ⟨entry, hentry⟩ := List.length_eq_one_iff.mp hunique
      have hmem : entry ∈ turn.usageCanonicalModels.filter (·.2 = some effective) := by
        rw [hentry]
        exact List.mem_singleton_self entry
      obtain ⟨hmem, hname⟩ := List.mem_filter.mp hmem
      have hname : entry.2 = some effective := by simpa using hname
      obtain ⟨-, hcanonical⟩ := (mem_entries_iff htallies.keys_nodup entry.1 entry.2).mp hmem
      rw [hname] at hcanonical
      exact ⟨hreported, Or.inr ⟨entry.1, (htallies.canonical _ _).mp hcanonical⟩⟩
    · cases h

/-- Without usage entries there are no usage facts. -/
theorem no_usage (htallies : turn.Tallies turnFacts) (h : turn.usageModels.head? = none) :
    ¬ ∃ model name, .usage model name ∈ turnFacts := by
  rintro ⟨model, hname⟩
  have hmem := (htallies.mem_models model).mpr hname
  rw [List.head?_eq_none_iff.mp h] at hmem
  cases hmem

/-- With a session model, that one is effective, and usage bears it out. -/
theorem foundModel_of_session (htallies : turn.Tallies turnFacts) {model effective : PyStr}
    {canonical : Option PyStr} (hmodel : session.model = some model)
    (h : foundModel library session turn = some (some effective, canonical)) :
    effective = model ∧
      (∀ reported ∈ turn.reportedModels,
        library.casefold reported ∉ syntheticModelIdentifiers → reported = model) ∧
      ((∃ other name, .usage other name ∈ turnFacts) →
        (∃ name, .usage model name ∈ turnFacts) ∨ ∃ other, .usage other (some model) ∈ turnFacts) := by
  obtain ⟨reports, hreports, h⟩ := Option.bind_eq_some_iff.mp h
  have hreal : ∀ reported ∈ turn.reportedModels,
      library.casefold reported ∉ syntheticModelIdentifiers → reported = model := by
    intro reported hmem hsynthetic
    by_contra hne
    have hany : (turn.reportedModels.any fun reported =>
        reported ≠ model && library.casefold reported ∉ syntheticModelIdentifiers) = true := by
      rw [List.any_eq_true]
      exact ⟨reported, hmem, by simp [hne, hsynthetic]⟩
    unfold countedReports at hreports
    rw [hmodel] at hreports
    dsimp only at hreports
    rw [if_pos hany] at hreports
    cases hreports
  by_cases hmany : turn.usageModels.length > 1
  · rw [if_pos hmany] at h
    obtain ⟨hsingle, husage⟩ := usage_of_amongUsageModels htallies h
    rw [hmodel] at hsingle
    cases hsingle
    exact ⟨rfl, hreal, fun _ => husage⟩
  · rw [if_neg hmany] at h
    unfold bySingleUsage at h
    rw [hmodel] at h
    cases hhead : turn.usageModels.head? with
    | none =>
      rw [hhead] at h
      cases h
      exact ⟨rfl, hreal, fun husage => absurd husage (no_usage htallies hhead)⟩
    | some usageModel =>
      rw [hhead] at h
      have hmem := (htallies.mem_models usageModel).mp (List.mem_of_mem_head? hhead)
      dsimp only at h
      split at h
      · next heq =>
        cases h
        exact ⟨rfl, hreal, fun _ => Or.inl (heq ▸ hmem)⟩
      · split at h
        · next hcanonical =>
          cases h
          exact ⟨rfl, hreal, fun _ => Or.inr ⟨usageModel, (htallies.canonical _ _).mp hcanonical⟩⟩
        · cases h

/-- Without a session model, the reported models decide, and usage bears them out. -/
theorem foundModel_of_reports (htallies : turn.Tallies turnFacts) {effective : PyStr}
    {canonical : Option PyStr} (hmodel : session.model = none)
    (h : foundModel library session turn = some (some effective, canonical)) :
    (effective ∈ turn.reportedModels ∨ ∃ name, .usage effective name ∈ turnFacts) ∧
      (∀ reported ∈ turn.reportedModels, reported = effective ∨ canonical = some reported) ∧
      ((∃ other name, .usage other name ∈ turnFacts) →
        (∃ name, .usage effective name ∈ turnFacts) ∨
          ∃ other, .usage other (some effective) ∈ turnFacts) := by
  have hreports : countedReports library session turn = some turn.reportedModels := by
    unfold countedReports
    rw [hmodel]
  unfold foundModel at h
  rw [hreports, Option.bind_some] at h
  by_cases hmany : turn.usageModels.length > 1
  · rw [if_pos hmany] at h
    obtain ⟨hsingle, husage⟩ := usage_of_amongUsageModels htallies h
    rw [hmodel, Option.none_or] at hsingle
    have hlist := single?_eq_some hsingle
    rw [hlist]
    refine ⟨Or.inl (List.mem_singleton_self _), ?_, fun _ => husage⟩
    intro reported hmem
    exact Or.inl (List.mem_singleton.mp hmem)
  · rw [if_neg hmany] at h
    unfold bySingleUsage at h
    rw [hmodel] at h
    cases hhead : turn.usageModels.head? with
    | none =>
      rw [hhead] at h
      match hlist : turn.reportedModels with
      | [] => simp [hlist] at h
      | [model] =>
        rw [hlist] at h
        cases h
        refine ⟨Or.inl (List.mem_singleton_self _), ?_,
          fun husage => absurd husage (no_usage htallies hhead)⟩
        intro reported hmem
        exact Or.inl (List.mem_singleton.mp hmem)
      | _ :: _ :: _ => simp [hlist] at h
    | some usageModel =>
      rw [hhead] at h
      have hmem := (htallies.mem_models usageModel).mp (List.mem_of_mem_head? hhead)
      dsimp only at h
      split at h
      · next hall =>
        cases h
        refine ⟨Or.inr hmem, ?_, fun _ => Or.inl hmem⟩
        intro reported hreported
        simpa using List.all_eq_true.mp hall reported hreported
      · cases h

/-- A model is reported as effective only if the facts support it. -/
theorem supports_of_effective (selectedModel : Option PyStr)
    (hsession : session.Describes earlier sessionFacts) (hturn : turn.Describes turnFacts)
    {effective : PyStr}
    (h : (modelProvenance library selectedModel session turn).effective = some effective) :
    Supports library earlier sessionFacts turnFacts effective
      (modelProvenance library selectedModel session turn).canonical := by
  have hmodels : ((modelProvenance library selectedModel session turn).effective,
      (modelProvenance library selectedModel session turn).canonical) = _ :=
    modelProvenance_models selectedModel session turn
  generalize (modelProvenance library selectedModel session turn).canonical = canonical at hmodels ⊢
  rw [h] at hmodels
  by_cases htainted : (turn.usageMalformed || session.malformed || session.conflict) = true
  · rw [if_pos htainted] at hmodels
    cases hmodels
  · rw [if_neg htainted] at hmodels
    rw [flags_iff_tainted hsession hturn] at htainted
    have htallies := hturn.tallies (fun hdisagree => htainted (Or.inl hdisagree))
    have hfound : foundModel library session turn = some (some effective, canonical) := by
      cases hfound : foundModel library session turn with
      | none =>
        rw [hfound] at hmodels
        cases hmodels
      | some found =>
        rw [hfound] at hmodels
        exact congrArg some hmodels.symm
    cases hmodel : session.model with
    | some model =>
      obtain ⟨rfl, hreal, husage⟩ := foundModel_of_session htallies hmodel hfound
      constructor
      · exact Or.inl (hsession.model _ hmodel)
      · intro other hother
        by_contra hne
        exact htainted (Or.inr (Or.inr (Or.inr (Or.inr
          ⟨other, effective, hne, hother, hsession.model _ hmodel⟩))))
      · intro other hother hsynthetic
        exact Or.inl (hreal other ((hturn.mem_reported other).mpr hother) hsynthetic)
      · exact husage
    | none =>
      obtain ⟨hoccurs, hreported, husage⟩ := foundModel_of_reports htallies hmodel hfound
      constructor
      · apply Or.inr
        exact hoccurs.imp_left (hturn.mem_reported effective).mp
      · intro other hother
        exact absurd hother (hsession.silent hmodel other)
      · intro other hother _
        exact hreported other ((hturn.mem_reported other).mpr hother)
      · exact husage

end HermesClaude.Content
