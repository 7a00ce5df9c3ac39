/-
# Prompt snapshots

The prompt of a turn is a snapshot of texts: sanitised fields, a project, and memory and skill
fragments.  The fragments are sorted and no fragment is there twice, so a snapshot does not tell the
order in which they came.
-/

import HermesClaude.Prompt.ProjectFiles
import Mathlib.Data.List.Dedup
import Mathlib.Data.List.Perm.Lattice

namespace HermesClaude.Prompt

open HermesClaude.Library HermesClaude.Python HermesClaude.Python.Pattern

/-- `[^.!?\n]*\bskill_manage\b[^.!?\n]*[.!?]?\s*` -/
def skillManageSentence : Pattern :=
  .seq (.repeated (noneOf ".!?\n") 0) (.seq .boundary (.seq (word "skill_manage") (.seq .boundary
    (.seq (.repeated (noneOf ".!?\n") 0) (.seq (optional (.one (anyOf ".!?")))
      (.repeated CodePoint.isSpace 0))))))

/-- The fields of a snapshot as they are given. -/
structure SnapshotInput where
  basePrompt : Field
  identity : Field
  sessionMetadata : Field
  platformHint : Field
  provider : Field
  model : Field
  project : RawProject
  /-- `none` where the fragments are no sequence, or one text. -/
  memoryFragments : Option (List Field)
  skillFragments : Option (List Field)

/-- The same fields, with the files and the fragments in another order. -/
structure SnapshotInput.Reordered (input input' : SnapshotInput) : Prop where
  fields : input' = { input with
    project := input'.project
    memoryFragments := input'.memoryFragments
    skillFragments := input'.skillFragments }
  project : input.project.Reordered input'.project
  memory : Option.Rel List.Perm input.memoryFragments input'.memoryFragments
  skills : Option.Rel List.Perm input.skillFragments input'.skillFragments

section Sanitising

variable (unicode : WordDatabase)

/-- `_strip_uncallable_skill_guidance`. -/
def stripUncallableSkillGuidance (text : PyStr) : PyStr :=
  Regex.sub unicode.isWord skillManageSentence [] text

/-- `sorted({...})` of the fragments that are not empty, without those that become empty. -/
def sortedFragments (clean : PyStr → PyStr) (values : Option (List Field)) : List PyStr :=
  let texts := ((values.getD []).map (safeField unicode · defaultFragmentMaxChars)).filter (· ≠ [])
  (sortByKey id (texts.map clean).dedup).filter (· ≠ [])

end Sanitising

/-- `PromptContextSnapshot`. -/
structure PromptContextSnapshot where
  basePrompt : PyStr
  identity : PyStr
  sessionMetadata : PyStr
  platformHint : PyStr
  provider : PyStr
  model : PyStr
  project : ProjectMetadata
  memoryFragments : List PyStr
  skillFragments : List PyStr
  memory_inOrder : InKeyOrder id memoryFragments
  skills_inOrder : InKeyOrder id skillFragments

variable {unicode : WordDatabase} {clean : PyStr → PyStr}

theorem inOrder_sortedFragments (values : Option (List Field)) :
    InKeyOrder id (sortedFragments unicode clean values) := by
  apply List.Pairwise.filter
  apply inKeyOrder_sortByKey
  rw [List.map_id]
  exact List.nodup_dedup _

/-- **The order of the fragments does not matter.** -/
theorem sortedFragments_perm (unicode : WordDatabase) (clean : PyStr → PyStr)
    {values values' : Option (List Field)} (h : Option.Rel List.Perm values values') :
    sortedFragments unicode clean values = sortedFragments unicode clean values' := by
  have hperm : (values.getD []).Perm (values'.getD []) := by
    cases h with
    | some hperm => exact hperm
    | none => exact List.Perm.refl _
  have htexts := ((hperm.map (safeField unicode · defaultFragmentMaxChars)).filter (· ≠ [])).map clean
  rw [sortedFragments, sortedFragments, sortByKey_eq_of_perm _ htexts.dedup]
  rw [List.map_id]
  exact List.nodup_dedup _

/-- `PromptContextSnapshot.__post_init__`. -/
def promptContextSnapshot (unicode : WordDatabase) (input : SnapshotInput) : PromptContextSnapshot where
  basePrompt := safeField unicode input.basePrompt defaultFragmentMaxChars
  identity := safeField unicode input.identity defaultFragmentMaxChars
  sessionMetadata := safeField unicode input.sessionMetadata defaultFragmentMaxChars
  platformHint := safeField unicode input.platformHint defaultFragmentMaxChars
  provider := safeField unicode input.provider defaultFragmentMaxChars
  model := safeField unicode input.model defaultFragmentMaxChars
  project := input.project.resolve unicode
  memoryFragments := sortedFragments unicode id input.memoryFragments
  skillFragments := sortedFragments unicode (stripUncallableSkillGuidance unicode) input.skillFragments
  memory_inOrder := inOrder_sortedFragments _
  skills_inOrder := inOrder_sortedFragments _

/-- **A snapshot does not tell the order of what it was made of.** -/
theorem SnapshotInput.Reordered.snapshot_eq (unicode : WordDatabase) {input input' : SnapshotInput}
    (h : input.Reordered input') :
    promptContextSnapshot unicode input = promptContextSnapshot unicode input' := by
  have hproject := h.project.resolve unicode
  have hmemory := sortedFragments_perm unicode id h.memory
  have hskills := sortedFragments_perm unicode (stripUncallableSkillGuidance unicode) h.skills
  rw [h.fields]
  simp only [promptContextSnapshot, hproject, hmemory, hskills]

/-- `PromptContextLimits`. -/
structure PromptContextLimits where
  fragmentMaxChars : Nat
  totalMaxChars : Nat
  fragment_pos : 1 ≤ fragmentMaxChars
  total_pos : 1 ≤ totalMaxChars

/-- `PromptContextLimits()`. -/
def PromptContextLimits.default : PromptContextLimits where
  fragmentMaxChars := defaultFragmentMaxChars
  totalMaxChars := defaultTotalMaxChars
  fragment_pos := by decide
  total_pos := by decide

/-- `_selection_metadata`. -/
def selectionMetadata (snapshot : PromptContextSnapshot) (limits : PromptContextLimits) : PyStr :=
  if snapshot.sessionMetadata ≠ [] then snapshot.sessionMetadata.take limits.fragmentMaxChars
  else
    let parts :=
      (if snapshot.model = [] then [] else [lit "Model: " ++ snapshot.model]) ++
      (if snapshot.provider = [] then [] else [lit "Provider: " ++ snapshot.provider])
    ((lit "\n").intercalate parts).take limits.fragmentMaxChars

end HermesClaude.Prompt
