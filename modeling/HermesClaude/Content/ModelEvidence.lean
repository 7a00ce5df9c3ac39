/-
# Model evidence as a set of facts

A projector folds what messages say about the model into sets, a dictionary and flags,
with rules for the first value, the last value and values that disagree.  Here a message
is read as a list of facts instead, and the evidence is described by the set of facts that
were recorded: which of them came first, and how often, leaves no trace in what the
provenance of the model is computed from.
-/

import HermesClaude.Content.Provenance
import Mathlib.Data.Set.Insert

namespace HermesClaude.Content

open HermesClaude.Python

/-! ## Facts -/

/-- One thing a message says about the model of its turn. -/
inductive TurnFact
  | reported (model : PyStr)
  | usage (model : PyStr) (canonical : Option PyStr)
  | malformed
  deriving DecidableEq

/-- One thing a message says about the model of its session. -/
inductive SessionFact
  | announced (model : PyStr)
  | malformed
  deriving DecidableEq

/-- The turn's evidence after one more fact. -/
def TurnEvidence.record (evidence : TurnEvidence) : TurnFact → TurnEvidence
  | .reported model =>
    { evidence with reportedModels := addModel evidence.reportedModels model }
  | .usage model canonical =>
    let previous := canonicalOf evidence.usageCanonicalModels model
    if previous.isSome && canonical.isSome && previous ≠ canonical then
      { evidence with usageMalformed := true }
    else { evidence with
      usageModels := addModel evidence.usageModels model
      usageCanonicalModels :=
        if canonical.isSome then setCanonical evidence.usageCanonicalModels model canonical
        else defaultCanonical evidence.usageCanonicalModels model }
  | .malformed => { evidence with usageMalformed := true }

/-- The session's evidence after one more fact. -/
def SessionEvidence.record (evidence : SessionEvidence) : SessionFact → SessionEvidence
  | .announced model =>
    match evidence.model with
    | none => { evidence with model := some model }
    | some sessionModel =>
      if sessionModel = model then evidence else { evidence with conflict := true }
  | .malformed => { evidence with malformed := true }

section Reading

variable (library : TextLibrary)

/-- The model that a root message names. -/
def reportFacts (message : PyValue) : List TurnFact :=
  let parent := message.safeAttr "parent_tool_use_id"
  match safeModelIdentifier library (message.safeAttr "model") with
  | some reported => if parent.isNone || parent.isText [] then [.reported reported] else []
  | none => []

/-- What an entry of `model_usage` says. -/
def usageFact (entry : PyValue × PyValue) : TurnFact :=
  match safeModelIdentifier library entry.1, entry.2.mapping? with
  | some model, some _ =>
    match canonicalName library entry.2 with
    | none => .malformed
    | some canonical => .usage model canonical
  | _, _ => .malformed

/-- What the `model_usage` of a message says. -/
def usageFacts (message : PyValue) : List TurnFact :=
  match message.safeAttr "model_usage" with
  | .none => []
  | .dict entries =>
    if entries.length > maxArgumentItems then [.malformed] else entries.map (usageFact library)
  | _ => [.malformed]

/-- What an assistant or result message says about the model. -/
def turnFacts (message : PyValue) : List TurnFact :=
  reportFacts library message ++ usageFacts library message

/-- What a system message says about the model. -/
def sessionFacts (message : PyValue) : List SessionFact :=
  if !(message.safeAttr "subtype").isText (lit "init") then []
  else
    match (message.safeAttr "data").mapping? with
    | none => [.malformed]
    | some items =>
      match PyValue.lookupKey items (lit "model") with
      | none => []
      | some model =>
        match safeModelIdentifier library model with
        | none => [.malformed]
        | some safeModel => [.announced safeModel]

variable {library}

theorem TurnEvidence.observeUsage_eq_record (evidence : TurnEvidence) (entry : PyValue × PyValue) :
    evidence.observeUsage library entry = evidence.record (usageFact library entry) := by
  unfold TurnEvidence.observeUsage usageFact
  cases safeModelIdentifier library entry.1 with
  | none => rfl
  | some model =>
    cases entry.2.mapping? with
    | none => rfl
    | some items => cases canonicalName library entry.2 <;> rfl

/-- Observing a message records its facts, one after the other. -/
theorem TurnEvidence.observe_eq_foldl (evidence : TurnEvidence) (message : PyValue) :
    evidence.observe library message = (turnFacts library message).foldl .record evidence := by
  have hreport : (reportFacts library message).foldl .record evidence =
      match safeModelIdentifier library (message.safeAttr "model") with
      | some reported =>
        if (message.safeAttr "parent_tool_use_id").isNone ||
            (message.safeAttr "parent_tool_use_id").isText [] then
          { evidence with reportedModels := addModel evidence.reportedModels reported }
        else evidence
      | none => evidence := by
    unfold reportFacts
    cases safeModelIdentifier library (message.safeAttr "model") with
    | none => rfl
    | some reported => dsimp only; split <;> rfl
  rw [turnFacts, List.foldl_append, hreport]
  unfold TurnEvidence.observe usageFacts
  cases message.safeAttr "model_usage" with
  | dict entries =>
    dsimp only
    split
    · rfl
    · rw [List.foldl_map]
      congr 1
      funext evidence entry
      exact evidence.observeUsage_eq_record entry
  | none | bool | int | float | str | bytes | list | tuple | set | object => rfl

theorem SessionEvidence.observe_eq_foldl (evidence : SessionEvidence) (message : PyValue) :
    evidence.observe library message = (sessionFacts library message).foldl .record evidence := by
  unfold SessionEvidence.observe sessionFacts
  split
  · rfl
  · cases (message.safeAttr "data").mapping? with
    | none => rfl
    | some items =>
      dsimp only
      cases PyValue.lookupKey items (lit "model") with
      | none => rfl
      | some model =>
        dsimp only
        cases safeModelIdentifier library model with
        | none => rfl
        | some safeModel => cases hmodel : evidence.model <;> simp [record, hmodel]

end Reading

/-! ## Tables -/

variable {models : List PyStr} {entries : List (PyStr × Option PyStr)}

@[simp]
theorem mem_addModel {model other : PyStr} :
    other ∈ addModel models model ↔ other ∈ models ∨ other = model := by
  unfold addModel
  split
  · next hmem =>
    constructor
    · exact Or.inl
    · rintro (h | rfl)
      · exact h
      · exact hmem
  · simp

theorem nodup_addModel (h : models.Nodup) (model : PyStr) : (addModel models model).Nodup := by
  unfold addModel
  split
  · exact h
  · next hmem => simpa [List.nodup_append] using ⟨h, fun a ha heq => hmem (heq ▸ ha)⟩

/-- The keys of a dictionary of canonical names. -/
def keysOf (entries : List (PyStr × Option PyStr)) : List PyStr :=
  entries.map Prod.fst

@[simp]
theorem keysOf_nil : keysOf [] = [] := rfl

@[simp]
theorem keysOf_cons (entry : PyStr × Option PyStr) :
    keysOf (entry :: entries) = entry.1 :: keysOf entries := rfl

theorem mem_keysOf_iff {model : PyStr} :
    model ∈ keysOf entries ↔ entries.any (·.1 = model) = true := by
  simp [keysOf, List.any_eq_true]

theorem keysOf_setCanonical (model : PyStr) (canonical : Option PyStr) :
    keysOf (setCanonical entries model canonical) = addModel (keysOf entries) model := by
  unfold setCanonical addModel
  by_cases hmem : model ∈ keysOf entries
  · rw [if_pos (mem_keysOf_iff.mp hmem), if_pos hmem, keysOf, keysOf, List.map_map]
    apply List.map_congr_left
    intro entry _
    by_cases hkey : entry.1 = model <;> simp [hkey]
  · rw [if_neg (mt mem_keysOf_iff.mpr hmem), if_neg hmem]
    simp [keysOf]

theorem keysOf_defaultCanonical (model : PyStr) :
    keysOf (defaultCanonical entries model) = addModel (keysOf entries) model := by
  unfold defaultCanonical addModel
  by_cases hmem : model ∈ keysOf entries
  · rw [if_pos (mem_keysOf_iff.mp hmem), if_pos hmem]
  · rw [if_neg (mt mem_keysOf_iff.mpr hmem), if_neg hmem]
    simp [keysOf]

theorem canonicalOf_eq_none_of_notMem {model : PyStr} (h : model ∉ keysOf entries) :
    canonicalOf entries model = none := by
  have hfind : entries.find? (fun entry => entry.1 = model) = none := by
    rw [List.find?_eq_none]
    intro entry hentry hkey
    exact h (List.mem_map.mpr ⟨entry, hentry, by simpa using hkey⟩)
  rw [canonicalOf, hfind, Option.bind_none]

theorem canonicalOf_cons (entry : PyStr × Option PyStr) (model : PyStr) :
    canonicalOf (entry :: entries) model =
      if entry.1 = model then entry.2 else canonicalOf entries model := by
  unfold canonicalOf
  by_cases hkey : entry.1 = model <;> simp [hkey]

theorem canonicalOf_append (more : List (PyStr × Option PyStr)) (model : PyStr) :
    canonicalOf (entries ++ more) model =
      if model ∈ keysOf entries then canonicalOf entries model else canonicalOf more model := by
  induction entries with
  | nil => simp
  | cons entry entries ih =>
    rw [List.cons_append, canonicalOf_cons, canonicalOf_cons, ih]
    by_cases hkey : entry.1 = model
    · simp [hkey]
    · simp [hkey, Ne.symm hkey]

theorem canonicalOf_replace (model other : PyStr) (canonical : Option PyStr) :
    canonicalOf (entries.map fun entry => if entry.1 = model then (model, canonical) else entry)
        other =
      if other = model ∧ model ∈ keysOf entries then canonical else canonicalOf entries other := by
  induction entries with
  | nil => simp
  | cons entry entries ih =>
    rw [List.map_cons, canonicalOf_cons, canonicalOf_cons, ih]
    by_cases hkey : entry.1 = model
    · by_cases hother : other = model
      · simp [hkey, hother]
      · simp [hkey, hother, Ne.symm hother]
    · by_cases hother : other = model
      · simp [hkey, hother, Ne.symm hkey]
      · simp [hkey, hother]

theorem canonicalOf_setCanonical (model other : PyStr) (canonical : Option PyStr) :
    canonicalOf (setCanonical entries model canonical) other =
      if other = model then canonical else canonicalOf entries other := by
  unfold setCanonical
  by_cases hmem : model ∈ keysOf entries
  · rw [if_pos (mem_keysOf_iff.mp hmem), canonicalOf_replace]
    simp [hmem]
  · rw [if_neg (mt mem_keysOf_iff.mpr hmem), canonicalOf_append]
    by_cases hother : other = model
    · rw [hother, if_neg hmem, if_pos rfl, canonicalOf_cons, if_pos rfl]
    · rw [if_neg hother, canonicalOf_cons, if_neg (Ne.symm hother)]
      split
      · rfl
      · next hnot => exact (canonicalOf_eq_none_of_notMem hnot).symm

theorem canonicalOf_defaultCanonical (model other : PyStr) :
    canonicalOf (defaultCanonical entries model) other = canonicalOf entries other := by
  unfold defaultCanonical
  split
  · rfl
  · rw [canonicalOf_append]
    split
    · rfl
    · next hnot =>
      rw [canonicalOf_eq_none_of_notMem hnot, canonicalOf_cons]
      split <;> rfl

/-- With no key twice, an entry is a key with its canonical name. -/
theorem mem_entries_iff (h : (keysOf entries).Nodup) (model : PyStr) (canonical : Option PyStr) :
    (model, canonical) ∈ entries ↔ model ∈ keysOf entries ∧ canonicalOf entries model = canonical := by
  induction entries with
  | nil => simp
  | cons entry entries ih =>
    obtain ⟨hfresh, hrest⟩ := List.nodup_cons.mp h
    obtain ⟨key, name⟩ := entry
    rw [canonicalOf_cons, List.mem_cons, keysOf_cons, List.mem_cons, ih hrest]
    by_cases hkey : key = model
    · subst hkey
      rw [if_pos rfl]
      constructor
      · rintro (h | ⟨hmem, -⟩)
        · cases h
          exact ⟨Or.inl rfl, rfl⟩
        · exact absurd hmem hfresh
      · rintro ⟨-, rfl⟩
        exact Or.inl rfl
    · rw [if_neg hkey]
      simp [Ne.symm hkey]

/-! ## What the evidence describes -/

/-- The facts disagree, or one of them is that a message could not be read. -/
def TurnFact.Disagree (facts : Set TurnFact) : Prop :=
  .malformed ∈ facts ∨ ∃ model canonical other, canonical ≠ other ∧
    .usage model (some canonical) ∈ facts ∧ .usage model (some other) ∈ facts

/-- The usage tables hold what usage facts say. -/
structure TurnEvidence.Tallies (evidence : TurnEvidence) (facts : Set TurnFact) : Prop where
  models_nodup : evidence.usageModels.Nodup
  mem_models : ∀ model, model ∈ evidence.usageModels ↔ ∃ canonical, .usage model canonical ∈ facts
  keys_nodup : (keysOf evidence.usageCanonicalModels).Nodup
  mem_keys : ∀ model, model ∈ keysOf evidence.usageCanonicalModels ↔
    ∃ canonical, .usage model canonical ∈ facts
  canonical : ∀ model canonical, canonicalOf evidence.usageCanonicalModels model = some canonical ↔
    .usage model (some canonical) ∈ facts

/-- The evidence of a turn is that of a set of facts.  Once they disagree, the usage
tables do not matter. -/
structure TurnEvidence.Describes (evidence : TurnEvidence) (facts : Set TurnFact) : Prop where
  malformed : evidence.usageMalformed = true ↔ TurnFact.Disagree facts
  reported_nodup : evidence.reportedModels.Nodup
  mem_reported : ∀ model, model ∈ evidence.reportedModels ↔ .reported model ∈ facts
  tallies : ¬ TurnFact.Disagree facts → evidence.Tallies facts

namespace TurnEvidence

variable {evidence : TurnEvidence} {facts : Set TurnFact}

theorem disagree_mono {facts more : Set TurnFact} (hsub : facts ⊆ more)
    (h : TurnFact.Disagree facts) : TurnFact.Disagree more := by
  rcases h with h | ⟨model, canonical, other, hne, h, h'⟩
  · exact Or.inl (hsub h)
  · exact Or.inr ⟨model, canonical, other, hne, hsub h, hsub h'⟩

theorem describes_empty : Describes {} ∅ := by
  constructor <;> simp [TurnFact.Disagree]
  constructor <;> simp [canonicalOf]

/-- A fact that is not about usage leaves the tables as they are. -/
theorem Tallies.of_usage_iff {facts more : Set TurnFact} {other : TurnEvidence}
    (h : evidence.Tallies facts)
    (hmodels : other.usageModels = evidence.usageModels)
    (hentries : other.usageCanonicalModels = evidence.usageCanonicalModels)
    (hsame : ∀ model canonical,
      TurnFact.usage model canonical ∈ more ↔ .usage model canonical ∈ facts) :
    other.Tallies more := by
  constructor
  · rw [hmodels]
    exact h.models_nodup
  · simp only [hmodels, hsame]
    exact h.mem_models
  · rw [hentries]
    exact h.keys_nodup
  · simp only [hentries, hsame]
    exact h.mem_keys
  · simp only [hentries, hsame]
    exact h.canonical

theorem Describes.reported (h : evidence.Describes facts) (model : PyStr) :
    (evidence.record (.reported model)).Describes (insert (.reported model) facts) := by
  have hdisagree : TurnFact.Disagree (insert (.reported model) facts) ↔ TurnFact.Disagree facts := by
    simp [TurnFact.Disagree]
  constructor
  · rw [hdisagree]
    exact h.malformed
  · exact nodup_addModel h.reported_nodup model
  · intro other
    simp only [record, mem_addModel, h.mem_reported, Set.mem_insert_iff, TurnFact.reported.injEq]
    exact or_comm
  · intro hagree
    apply Tallies.of_usage_iff (h.tallies (mt hdisagree.mpr hagree))
    · rfl
    · rfl
    · simp

theorem Describes.malformedFact (h : evidence.Describes facts) :
    (evidence.record .malformed).Describes (insert .malformed facts) := by
  have hdisagree : TurnFact.Disagree (insert .malformed facts) := Or.inl (Set.mem_insert _ _)
  constructor
  · simp [record, hdisagree]
  · exact h.reported_nodup
  · simp [record, h.mem_reported]
  · intro hagree
    exact absurd hdisagree hagree

/-- Tables that agree with a usage fact hold it afterwards. -/
theorem Tallies.usage (h : evidence.Tallies facts) {model : PyStr} {canonical : Option PyStr}
    (hagree : ∀ name, canonical = some name → ∀ other, .usage model (some other) ∈ facts → other = name) :
    Tallies { evidence with
      usageModels := addModel evidence.usageModels model
      usageCanonicalModels :=
        if canonical.isSome then setCanonical evidence.usageCanonicalModels model canonical
        else defaultCanonical evidence.usageCanonicalModels model }
      (insert (.usage model canonical) facts) := by
  have hkeys : keysOf (if canonical.isSome then
      setCanonical evidence.usageCanonicalModels model canonical
      else defaultCanonical evidence.usageCanonicalModels model) =
      addModel (keysOf evidence.usageCanonicalModels) model := by
    split
    · exact keysOf_setCanonical model canonical
    · exact keysOf_defaultCanonical model
  have hmem : ∀ other, (∃ name, TurnFact.usage other name ∈ insert (.usage model canonical) facts) ↔
      (∃ name, .usage other name ∈ facts) ∨ other = model := by
    intro other
    simp only [Set.mem_insert_iff, TurnFact.usage.injEq]
    constructor
    · rintro ⟨name, ⟨rfl, rfl⟩ | hname⟩
      · exact Or.inr rfl
      · exact Or.inl ⟨name, hname⟩
    · rintro (⟨name, hname⟩ | rfl)
      · exact ⟨name, Or.inr hname⟩
      · exact ⟨canonical, Or.inl ⟨rfl, rfl⟩⟩
  constructor
  · exact nodup_addModel h.models_nodup model
  · intro other
    rw [mem_addModel, h.mem_models, hmem]
  · rw [hkeys]
    exact nodup_addModel h.keys_nodup model
  · intro other
    rw [hkeys, mem_addModel, h.mem_keys, hmem]
  · intro other name
    simp only [Set.mem_insert_iff, TurnFact.usage.injEq]
    cases canonical with
    | none => simpa [canonicalOf_defaultCanonical] using h.canonical other name
    | some given =>
      rw [if_pos Option.isSome_some, canonicalOf_setCanonical]
      by_cases hother : other = model
      · subst hother
        rw [if_pos rfl]
        constructor
        · intro hname
          exact Or.inl ⟨rfl, hname.symm⟩
        · rintro (⟨-, hname⟩ | hname)
          · exact hname.symm
          · rw [hagree given rfl name hname]
      · simpa [hother] using h.canonical other name

theorem Describes.usage (h : evidence.Describes facts) (model : PyStr) (canonical : Option PyStr) :
    (evidence.record (.usage model canonical)).Describes (insert (.usage model canonical) facts) := by
  have hreported : ∀ other, TurnFact.reported other ∈ insert (.usage model canonical) facts ↔
      .reported other ∈ facts := by simp
  have hgrown : TurnFact.Disagree facts → TurnFact.Disagree (insert (.usage model canonical) facts) :=
    disagree_mono (Set.subset_insert _ _)
  by_cases hclash : ((canonicalOf evidence.usageCanonicalModels model).isSome && canonical.isSome &&
      canonicalOf evidence.usageCanonicalModels model ≠ canonical) = true
  · -- The name differs from the one in the table, which a fact has put there unless the
    -- facts disagreed already.
    have hrecord : evidence.record (.usage model canonical) = { evidence with usageMalformed := true } :=
      if_pos hclash
    have hdisagree : TurnFact.Disagree (insert (.usage model canonical) facts) := by
      by_cases hearlier : TurnFact.Disagree facts
      · exact hgrown hearlier
      · simp only [Bool.and_eq_true, decide_eq_true_eq, Option.isSome_iff_exists] at hclash
        obtain ⟨⟨⟨previous, hprevious⟩, name, rfl⟩, hne⟩ := hclash
        have hfact := ((h.tallies hearlier).canonical model previous).mp hprevious
        rw [hprevious] at hne
        exact Or.inr ⟨model, previous, name, fun heq => hne (congrArg some heq),
          Set.mem_insert_of_mem _ hfact, Set.mem_insert _ _⟩
    rw [hrecord]
    constructor
    · simp [hdisagree]
    · exact h.reported_nodup
    · intro other
      rw [hreported]
      exact h.mem_reported other
    · intro hagree
      exact absurd hdisagree hagree
  · have hrecord : evidence.record (.usage model canonical) = { evidence with
        usageModels := addModel evidence.usageModels model
        usageCanonicalModels :=
          if canonical.isSome then setCanonical evidence.usageCanonicalModels model canonical
          else defaultCanonical evidence.usageCanonicalModels model } := if_neg hclash
    -- The table holds the name that every earlier fact gives, so none disagrees now.
    have hagree : ¬ TurnFact.Disagree facts → ∀ name, canonical = some name →
        ∀ other, .usage model (some other) ∈ facts → other = name := by
      rintro hearlier name rfl other hother
      have hentry := ((h.tallies hearlier).canonical model other).mpr hother
      by_contra hne
      apply hclash
      simp [hentry, hne]
    have hdisagree : TurnFact.Disagree (insert (.usage model canonical) facts) ↔
        TurnFact.Disagree facts := by
      refine ⟨fun hdisagree => ?_, hgrown⟩
      by_contra hearlier
      rcases hdisagree with hdisagree | ⟨subject, first, second, hne, hfirst, hsecond⟩
      · exact hearlier (Or.inl (by simpa using hdisagree))
      · simp only [Set.mem_insert_iff, TurnFact.usage.injEq] at hfirst hsecond
        rcases hfirst with ⟨rfl, hfirst⟩ | hfirst
        · rcases hsecond with ⟨-, hsecond⟩ | hsecond
          · exact hne (Option.some.inj (hfirst.trans hsecond.symm))
          · exact hne (hagree hearlier first hfirst.symm second hsecond).symm
        · rcases hsecond with ⟨rfl, hsecond⟩ | hsecond
          · exact hne (hagree hearlier second hsecond.symm first hfirst)
          · exact hearlier (Or.inr ⟨subject, first, second, hne, hfirst, hsecond⟩)
    rw [hrecord]
    constructor
    · rw [hdisagree]
      exact h.malformed
    · exact h.reported_nodup
    · intro other
      rw [hreported]
      exact h.mem_reported other
    · intro hstill
      have hearlier := mt hdisagree.mpr hstill
      exact (h.tallies hearlier).usage (hagree hearlier)

/-- Recording a fact adds it to those that the evidence describes. -/
theorem Describes.record (h : evidence.Describes facts) (fact : TurnFact) :
    (evidence.record fact).Describes (insert fact facts) := by
  cases fact with
  | reported model => exact h.reported model
  | usage model canonical => exact h.usage model canonical
  | malformed => exact h.malformedFact

theorem Describes.foldl (h : evidence.Describes facts) (more : List TurnFact) :
    (more.foldl TurnEvidence.record evidence).Describes (facts ∪ { fact | fact ∈ more }) := by
  induction more generalizing evidence facts with
  | nil => simpa using h
  | cons fact more ih =>
    have hrest := ih (h.record fact)
    have hset : insert fact facts ∪ { fact | fact ∈ more } =
        facts ∪ { other | other ∈ fact :: more } := by
      ext other
      simp only [Set.mem_union, Set.mem_insert_iff, Set.mem_ofPred_eq, List.mem_cons]
      tauto
    rw [← hset]
    exact hrest

end TurnEvidence

/-- A model that the session had before or that a fact announces. -/
def SessionFact.Announces (earlier : SessionEvidence) (facts : Set SessionFact) (model : PyStr) :
    Prop :=
  earlier.model = some model ∨ .announced model ∈ facts

/-- The session's evidence is that of a set of facts on top of what was known earlier. -/
structure SessionEvidence.Describes (evidence earlier : SessionEvidence) (facts : Set SessionFact) :
    Prop where
  malformed : evidence.malformed = true ↔ earlier.malformed = true ∨ .malformed ∈ facts
  conflict : evidence.conflict = true ↔ earlier.conflict = true ∨ ∃ model other, model ≠ other ∧
    SessionFact.Announces earlier facts model ∧ SessionFact.Announces earlier facts other
  model : ∀ model, evidence.model = some model → SessionFact.Announces earlier facts model
  silent : evidence.model = none → ∀ model, ¬ SessionFact.Announces earlier facts model

namespace SessionEvidence

variable {evidence earlier : SessionEvidence} {facts : Set SessionFact}

theorem announces_insert (model other : PyStr) :
    SessionFact.Announces earlier (insert (.announced model) facts) other ↔
      SessionFact.Announces earlier facts other ∨ other = model := by
  simp only [SessionFact.Announces, Set.mem_insert_iff, SessionFact.announced.injEq]
  tauto

theorem describes_empty : earlier.Describes earlier ∅ := by
  constructor
  · simp
  · simp only [SessionFact.Announces, Set.mem_empty_iff_false, or_false]
    constructor
    · exact Or.inl
    · rintro (h | ⟨model, other, hne, hmodel, hother⟩)
      · exact h
      · exact absurd (Option.some.inj (hmodel.symm.trans hother)) hne
  · intro model hmodel
    exact Or.inl hmodel
  · rintro hmodel model (h | h)
    · rw [hmodel] at h
      cases h
    · exact h

theorem Describes.malformedFact (h : evidence.Describes earlier facts) :
    (evidence.record .malformed).Describes earlier (insert .malformed facts) := by
  have hsame : ∀ model, SessionFact.Announces earlier (insert .malformed facts) model ↔
      SessionFact.Announces earlier facts model := by
    simp [SessionFact.Announces]
  constructor
  · simp [record]
  · simp only [hsame]
    exact h.conflict
  · simp only [hsame]
    exact h.model
  · simp only [hsame]
    exact h.silent

theorem Describes.announced (h : evidence.Describes earlier facts) (model : PyStr) :
    (evidence.record (.announced model)).Describes earlier (insert (.announced model) facts) := by
  have hmalformed : SessionFact.malformed ∈ insert (.announced model) facts ↔ .malformed ∈ facts := by
    simp
  have hnew : SessionFact.Announces earlier (insert (.announced model) facts) model :=
    (announces_insert model model).mpr (Or.inr rfl)
  have hold : ∀ {other}, SessionFact.Announces earlier facts other →
      SessionFact.Announces earlier (insert (.announced model) facts) other :=
    fun hother => (announces_insert model _).mpr (Or.inl hother)
  have hconflict : evidence.conflict = true → earlier.conflict = true ∨ ∃ first second,
      first ≠ second ∧ SessionFact.Announces earlier (insert (.announced model) facts) first ∧
        SessionFact.Announces earlier (insert (.announced model) facts) second := by
    intro hconflict
    rcases h.conflict.mp hconflict with hearlier | ⟨first, second, hne, hfirst, hsecond⟩
    · exact Or.inl hearlier
    · exact Or.inr ⟨first, second, hne, hold hfirst, hold hsecond⟩
  -- Where nothing but the new model is announced, or the same one again, no conflict arises.
  have hquiet : (∀ other, SessionFact.Announces earlier facts other → other = model ∨
        evidence.conflict = true) →
      (earlier.conflict = true ∨ ∃ first second, first ≠ second ∧
        SessionFact.Announces earlier (insert (.announced model) facts) first ∧
        SessionFact.Announces earlier (insert (.announced model) facts) second) →
      evidence.conflict = true := by
    intro honly hconflict
    rcases hconflict with hearlier | ⟨first, second, hne, hfirst, hsecond⟩
    · exact h.conflict.mpr (Or.inl hearlier)
    · have heach : ∀ other, SessionFact.Announces earlier (insert (.announced model) facts) other →
          other = model ∨ evidence.conflict = true := by
        intro other hother
        rcases (announces_insert model other).mp hother with hother | rfl
        · exact honly other hother
        · exact Or.inl rfl
      rcases heach first hfirst with rfl | hdone
      · rcases heach second hsecond with rfl | hdone
        · exact absurd rfl hne
        · exact hdone
      · exact hdone
  cases hmodel : evidence.model with
  | none =>
    have hrecord : evidence.record (.announced model) = { evidence with model := some model } := by
      simp only [record, hmodel]
    rw [hrecord]
    constructor
    · rw [hmalformed]
      exact h.malformed
    · constructor
      · exact hconflict
      · apply hquiet
        intro other hother
        exact absurd hother (h.silent hmodel other)
    · rintro other ⟨⟩
      exact hnew
    · rintro ⟨⟩
  | some known =>
    by_cases hknown : known = model
    · have hrecord : evidence.record (.announced model) = evidence := by
        simp only [record, hmodel, if_pos hknown]
      rw [hrecord]
      constructor
      · rw [hmalformed]
        exact h.malformed
      · constructor
        · exact hconflict
        · apply hquiet
          intro other hother
          by_cases hother' : other = model
          · exact Or.inl hother'
          · exact Or.inr (h.conflict.mpr (Or.inr ⟨other, known, by rw [hknown]; exact hother', hother,
              h.model known hmodel⟩))
      · intro other hother
        exact hold (h.model other hother)
      · rw [hmodel]
        rintro ⟨⟩
    · have hrecord : evidence.record (.announced model) = { evidence with conflict := true } := by
        simp only [record, hmodel, if_neg hknown]
      rw [hrecord]
      constructor
      · rw [hmalformed]
        exact h.malformed
      · refine iff_of_true rfl (Or.inr ⟨known, model, hknown, hold (h.model known hmodel), hnew⟩)
      · intro other hother
        exact hold (h.model other hother)
      · intro hnone
        exact absurd (hmodel.symm.trans hnone) (by simp)

/-- Recording a fact adds it to those that the evidence describes. -/
theorem Describes.record (h : evidence.Describes earlier facts) (fact : SessionFact) :
    (evidence.record fact).Describes earlier (insert fact facts) := by
  cases fact with
  | announced model => exact h.announced model
  | malformed => exact h.malformedFact

theorem Describes.foldl (h : evidence.Describes earlier facts) (more : List SessionFact) :
    (more.foldl SessionEvidence.record evidence).Describes earlier
      (facts ∪ { fact | fact ∈ more }) := by
  induction more generalizing evidence facts with
  | nil => simpa using h
  | cons fact more ih =>
    have hrest := ih (h.record fact)
    have hset : insert fact facts ∪ { fact | fact ∈ more } =
        facts ∪ { other | other ∈ fact :: more } := by
      ext other
      simp only [Set.mem_union, Set.mem_insert_iff, Set.mem_ofPred_eq, List.mem_cons]
      tauto
    rw [← hset]
    exact hrest

end SessionEvidence

end HermesClaude.Content
