/-
# The appended prompt

The blocks of the prompt come in a fixed order.  Each is taken as a whole or left out, and what is
taken stays within the budget with the blank lines between.

The text depends on the snapshot and on the references only, and neither of them on the order of
what it was made of.
-/

import HermesClaude.Library.Budget
import HermesClaude.Prompt.References
import HermesClaude.Prompt.Snapshot

namespace HermesClaude.Prompt

open HermesClaude.Library HermesClaude.Python

section Render

variable (unicode : WordDatabase) (snapshot : PromptContextSnapshot)
  (memorySkills : Option MemorySkillReferences) (limits : Option PromptContextLimits)

/-- `limits or PromptContextLimits()`. -/
def limitsOrDefault : PromptContextLimits := limits.getD .default

/-- The sanitised texts that are not empty. -/
def textBlocks (values : List PyStr) : List PyStr :=
  (values.map (safeText unicode · (limitsOrDefault limits).fragmentMaxChars)).filter (· ≠ [])

/-- The guidance block. -/
def guidanceBlocks : List PyStr :=
  let guidance := (memorySkills.map MemorySkillReferences.promptGuidance).getD []
  if guidance = [] then [] else [safeText unicode guidance (limitsOrDefault limits).fragmentMaxChars]

/-- The blocks of `render_prompt_append`, in their order. -/
def promptBlocks : List PyStr :=
  textBlocks unicode limits
      ([snapshot.identity, selectionMetadata snapshot (limitsOrDefault limits), snapshot.platformHint,
        snapshot.project.render (limitsOrDefault limits).fragmentMaxChars] ++ snapshot.memoryFragments) ++
    guidanceBlocks unicode memorySkills limits ++ textBlocks unicode limits snapshot.skillFragments

/-- The blocks with blank lines between. -/
def joinBlocks (blocks : List PyStr) : PyStr := (lit "\n\n").intercalate blocks

/-- `render_prompt_append`. -/
def renderPromptAppend : Option PyStr :=
  let output := keepWithin List.length 2 (limitsOrDefault limits).totalMaxChars
    (promptBlocks unicode snapshot memorySkills limits)
  if joinBlocks output = [] then none else some (joinBlocks output)

end Render

variable {unicode : WordDatabase} {floats : FloatText} {snapshot : PromptContextSnapshot}
  {memorySkills : Option MemorySkillReferences} {limits : Option PromptContextLimits}

/-- Every block is a sanitised text. -/
theorem exists_safeText_of_mem_promptBlocks {block : PyStr}
    (h : block ∈ promptBlocks unicode snapshot memorySkills limits) :
    ∃ value, block = safeText unicode value (limitsOrDefault limits).fragmentMaxChars := by
  have htexts : ∀ values, block ∈ textBlocks unicode limits values →
      ∃ value, block = safeText unicode value (limitsOrDefault limits).fragmentMaxChars := by
    intro values hmem
    rcases List.mem_map.mp (List.mem_of_mem_filter hmem) with ⟨value, -, rfl⟩
    exact ⟨value, rfl⟩
  rw [promptBlocks, List.mem_append, List.mem_append] at h
  rcases h with (h | h) | h
  · exact htexts _ h
  · rw [guidanceBlocks] at h
    split at h
    · cases h
    · exact ⟨_, List.mem_singleton.mp h⟩
  · exact htexts _ h

/-- **The budget.**  The text is what is chosen of the blocks, and the choice fills the budget. -/
theorem renderPromptAppend_spec (unicode : WordDatabase) (snapshot : PromptContextSnapshot)
    (memorySkills : Option MemorySkillReferences) (limits : Option PromptContextLimits) :
    ∃ choices, choices.map Prod.fst = promptBlocks unicode snapshot memorySkills limits ∧
      (renderPromptAppend unicode snapshot memorySkills limits).getD [] = joinBlocks (chosen choices) ∧
      FillsBudget List.length 2 (limitsOrDefault limits).totalMaxChars choices := by
  rcases exists_fillsBudget (promptBlocks unicode snapshot memorySkills limits) with
    ⟨choices, hblocks, hchosen, hfills⟩
  refine ⟨choices, hblocks, ?_, hfills⟩
  rw [renderPromptAppend, hchosen]
  split
  · next hempty => exact hempty.symm
  · rfl

theorem length_joinBlocks (blocks : List PyStr) :
    (joinBlocks blocks).length = joinedSize List.length 2 blocks :=
  length_intercalate (lit "\n\n") blocks

/-- **The prompt context.**  The appended prompt is made of whole blocks in their order, it stays
within the budget, and a block is left out only where it does not fit behind the blocks kept before
it; and files, fragments and schemas in another order give the same snapshot, the same references
and the same text. -/
theorem prompt_context_bounded_and_unordered (floats : FloatText) (unicode : WordDatabase) :
    (∀ snapshot memorySkills limits, ∃ choices,
      choices.map Prod.fst = promptBlocks unicode snapshot memorySkills limits ∧
      (∀ block ∈ promptBlocks unicode snapshot memorySkills limits,
        ∃ value, block = safeText unicode value (limitsOrDefault limits).fragmentMaxChars) ∧
      (renderPromptAppend unicode snapshot memorySkills limits).getD [] = joinBlocks (chosen choices) ∧
      (joinBlocks (chosen choices)).length ≤ (limitsOrDefault limits).totalMaxChars ∧
      ∀ before block after, choices = before ++ (block, false) :: after →
        (limitsOrDefault limits).totalMaxChars < (joinBlocks (chosen before ++ [block])).length) ∧
    ∀ input input' schemas schemas', SnapshotInput.Reordered input input' →
      ToolSchemas.Reordered schemas schemas' →
      promptContextSnapshot unicode input = promptContextSnapshot unicode input' ∧
      buildMemorySkillReferences floats unicode schemas =
        buildMemorySkillReferences floats unicode schemas' ∧
      ∀ limits, (buildMemorySkillReferences floats unicode schemas).map
          (fun refs => renderPromptAppend unicode (promptContextSnapshot unicode input) (some refs) limits) =
        (buildMemorySkillReferences floats unicode schemas').map
          (fun refs => renderPromptAppend unicode (promptContextSnapshot unicode input') (some refs) limits) := by
  constructor
  · intro snapshot memorySkills limits
    rcases renderPromptAppend_spec unicode snapshot memorySkills limits with
      ⟨choices, hblocks, htext, hfills⟩
    refine ⟨choices, hblocks, fun block => exists_safeText_of_mem_promptBlocks, htext, ?_, ?_⟩
    · rw [length_joinBlocks]
      exact hfills.fits
    · intro before block after hsplit
      rw [length_joinBlocks]
      exact hfills.full before block after hsplit
  · intro input input' schemas schemas' hinput hschemas
    have hsnapshot := hinput.snapshot_eq unicode
    have hreferences := hschemas.build_eq floats unicode
    refine ⟨hsnapshot, hreferences, fun limits => ?_⟩
    rw [hsnapshot, hreferences]

/-- A snapshot of two fragments. -/
def twoFragments (first second : String) : SnapshotInput where
  basePrompt := none
  identity := some (lit "Hermes")
  sessionMetadata := none
  platformHint := none
  provider := none
  model := none
  project := .other
  memoryFragments := some [some (lit first), some (lit second)]
  skillFragments := none

theorem prompt_context_two_fragments :
    promptContextSnapshot asciiWordDatabase (twoFragments "likes tea" "lives in Ulm") =
      promptContextSnapshot asciiWordDatabase (twoFragments "lives in Ulm" "likes tea") := by
  have hreordered : SnapshotInput.Reordered (twoFragments "likes tea" "lives in Ulm")
      (twoFragments "lives in Ulm" "likes tea") :=
    ⟨rfl, .refl _, .some (List.Perm.swap _ _ _), .none⟩
  exact ((prompt_context_bounded_and_unordered exactFloatText asciiWordDatabase).2 _ _ _ _ hreordered
    (.refl .absent)).1

end HermesClaude.Prompt
