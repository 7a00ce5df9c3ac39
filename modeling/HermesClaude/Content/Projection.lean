/-
# Projecting assistant messages

`ClaudeSdkEventProjector` turns an SDK message into the public events of a turn.
Names and identifiers that come from the provider are bounded and spelled with
identifier characters only before they reach an event; a spelling that is already
canonical is left alone, every other one is changed.

Only what the events of an assistant message say about text and tool names is
modelled here; tool arguments are bounded separately and nothing below reads them.
-/

import HermesClaude.Python.Value

namespace HermesClaude.Content

open HermesClaude.Python

/-- `_MAX_TEXT_CHARS`. -/
def maxTextChars : Nat := 4000

/-- `_MAX_IDENTIFIER_CHARS`. -/
def maxIdentifierChars : Nat := 128

/-- `_safe_text`. -/
def safeText (value : PyValue) (limit : Nat) : PyStr :=
  match value with
  | .str s => s.take limit
  | _ => []

/-- `_SAFE_IDENTIFIER.sub("_", text)`: every run of characters outside the class
becomes one underscore.  The flag says whether the run has its underscore already. -/
def substituteRuns : Bool → PyStr → PyStr
  | _, [] => []
  | inRun, c :: rest =>
    if c.isIdentifier then c :: substituteRuns false rest
    else if inRun then substituteRuns true rest
    else 0x5F :: substituteRuns true rest

/-- `_safe_identifier`. -/
def safeIdentifier (value : PyValue) (default : PyStr) : PyStr :=
  let text := strip (safeText value maxIdentifierChars)
  if text.isEmpty then default else substituteRuns false text

/-- `RuntimeCompactionPhase`. -/
inductive CompactionPhase
  | started
  | completed
  | failed
  | watchdog
  deriving DecidableEq

/-- `RuntimeUsageReceipt`, less the models it names. -/
structure UsageReceipt where
  runtimeId : PyStr
  provider : PyStr
  billingMode : PyStr
  costStatus : PyStr
  replaySafe : Bool
  correlationId : PyValue
  /-- Input, output, cache read, cache write and reasoning tokens. -/
  tokens : List Nat

/-- The events a session hands to the runtime. -/
inductive RuntimeEvent
  | content (text : PyStr)
  | /-- `RuntimeToolRequestEvent`. -/
    toolRequest (requestId name : PyStr)
  | usage (receipt : UsageReceipt)
  | /-- The projector's own `RuntimeCompletedEvent`. -/
    completed
  | compaction (phase : CompactionPhase)

/-- The event of a `ToolUseBlock`. -/
def toolRequestEvent (block : PyValue) : RuntimeEvent :=
  .toolRequest (safeIdentifier (block.safeAttr "id") (lit "unknown-tool-request"))
    (safeIdentifier (block.safeAttr "name") (lit "unknown"))

/-- The blocks `_project_assistant` looks at, or `none` where its loop raises. -/
def contentBlocks (message : PyValue) : Option (List PyValue) :=
  let content := message.safeAttr "content"
  if content.truthy then content.iterate else some []

/-- The `ToolUseBlock`s among some blocks. -/
def toolUses (blocks : List PyValue) : List PyValue :=
  blocks.filter fun block => block.typeName == "ToolUseBlock"

/-- The text of the `TextBlock`s. -/
def blockTexts (blocks : List PyValue) : List PyStr :=
  ((blocks.filter fun block => block.typeName == "TextBlock").map
    fun block => safeText (block.safeAttr "text") maxTextChars).filter (· ≠ [])

/-- The events of `_project_assistant`. -/
def assistantEvents (message : PyValue) : Option (List RuntimeEvent) :=
  (contentBlocks message).map fun blocks =>
    let text := ((lit "\n").intercalate (blockTexts blocks)).take maxTextChars
    (if text.isEmpty then [] else [.content text]) ++ (toolUses blocks).map toolRequestEvent

/-! ## Canonical spellings -/

/-- A name that is spelled as an identifier: at most 128 characters, at least one, all
of them from the class. -/
def Canonical (name : PyStr) : Prop :=
  name ≠ [] ∧ name.length ≤ maxIdentifierChars ∧ name.all CodePoint.isIdentifier = true

instance (name : PyStr) : Decidable (Canonical name) :=
  inferInstanceAs (Decidable (_ ∧ _ ∧ _))

theorem Canonical.isIdentifier {name : PyStr} (h : Canonical name) :
    ∀ c ∈ name, c.isIdentifier = true := List.all_eq_true.mp h.2.2

theorem Canonical.isSpace {name : PyStr} (h : Canonical name) : ∀ c ∈ name, c.isSpace = false :=
  fun c hc => CodePoint.isSpace_eq_false_of_isIdentifier (h.isIdentifier c hc)

/-- How the projector spells a tool name. -/
def spelling (name : PyStr) : PyStr := safeIdentifier (.str name) (lit "unknown")

theorem isIdentifier_of_mem_substituteRuns {inRun : Bool} {s : PyStr} {c : CodePoint}
    (h : c ∈ substituteRuns inRun s) : c.isIdentifier = true := by
  induction s generalizing inRun with
  | nil => cases h
  | cons first rest ih =>
    rw [substituteRuns] at h
    split_ifs at h with hfirst hrun
    · rcases List.mem_cons.mp h with rfl | hrest
      · exact hfirst
      · exact ih hrest
    · exact ih h
    · rcases List.mem_cons.mp h with rfl | hrest
      · decide
      · exact ih hrest

theorem length_substituteRuns_le (inRun : Bool) (s : PyStr) :
    (substituteRuns inRun s).length ≤ s.length := by
  induction s generalizing inRun with
  | nil => exact Nat.le_refl _
  | cons first rest ih =>
    have hfalse := ih false
    have htrue := ih true
    rw [substituteRuns]
    split_ifs <;> simp only [List.length_cons] <;> omega

theorem substituteRuns_ne_nil {s : PyStr} (h : s ≠ []) : substituteRuns false s ≠ [] := by
  cases s with
  | nil => exact absurd rfl h
  | cons first rest =>
    cases hfirst : first.isIdentifier <;> simp [substituteRuns, hfirst]

/-- Identifier characters are not replaced. -/
theorem substituteRuns_eq_self {s : PyStr} (h : ∀ c ∈ s, c.isIdentifier = true) :
    substituteRuns false s = s := by
  induction s with
  | nil => rfl
  | cons first rest ih =>
    rw [substituteRuns, if_pos (h first List.mem_cons_self),
      ih fun c hc => h c (List.mem_cons_of_mem _ hc)]

theorem length_strip_le (s : PyStr) : (strip s).length ≤ s.length := by
  have hleft : (lstrip s).length ≤ s.length := (List.dropWhile_sublist _).length_le
  have hright : (rstrip (lstrip s)).length ≤ (lstrip s).length := by
    calc (rstrip (lstrip s)).length
        = ((lstrip s).reverse.dropWhile CodePoint.isSpace).length := List.length_reverse
      _ ≤ (lstrip s).reverse.length := (List.dropWhile_sublist _).length_le
      _ = (lstrip s).length := List.length_reverse
  exact Nat.le_trans hright hleft

/-- A spelling is canonical. -/
theorem canonical_spelling (name : PyStr) : Canonical (spelling name) := by
  rw [spelling, safeIdentifier]
  split_ifs with hempty
  · decide
  · have hne : strip (safeText (.str name) maxIdentifierChars) ≠ [] := by
      simpa using hempty
    refine ⟨substituteRuns_ne_nil hne, ?_,
      List.all_eq_true.mpr fun c => isIdentifier_of_mem_substituteRuns⟩
    calc (substituteRuns false (strip (safeText (.str name) maxIdentifierChars))).length
        ≤ (strip (safeText (.str name) maxIdentifierChars)).length :=
          length_substituteRuns_le _ _
      _ ≤ (safeText (.str name) maxIdentifierChars).length := length_strip_le _
      _ ≤ maxIdentifierChars := by
        rw [safeText, List.length_take]
        exact Nat.min_le_left _ _

theorem strip_of_canonical {name : PyStr} (h : Canonical name) : strip name = name :=
  strip_eq_self h.isSpace

/-- A canonical name is spelled as it is. -/
theorem spelling_eq_self {name : PyStr} (h : Canonical name) : spelling name = name := by
  have htake : name.take maxIdentifierChars = name := List.take_of_length_le h.2.1
  rw [spelling, safeIdentifier]
  simp only [safeText, htake, strip_of_canonical h, List.isEmpty_iff, h.1, if_false]
  exact substituteRuns_eq_self h.isIdentifier

/-- The names that are spelled as they are, are the canonical ones. -/
theorem spelling_eq_self_iff {name : PyStr} : spelling name = name ↔ Canonical name :=
  ⟨fun h => h ▸ canonical_spelling name, spelling_eq_self⟩

/-- A trailing blank does not show in the spelling. -/
theorem spelling_append_space {name : PyStr} (h : Canonical name) :
    spelling (name ++ lit " ") = name := by
  have hstrip : strip ((name ++ lit " ").take maxIdentifierChars) = name := by
    by_cases hlength : name.length < maxIdentifierChars
    · rw [List.take_of_length_le, strip_append_space h.isSpace]
      rw [List.length_append, show (lit " ").length = 1 from by decide]
      omega
    · have heq : name.length = maxIdentifierChars := Nat.le_antisymm h.2.1 (Nat.not_lt.mp hlength)
      rw [← heq, List.take_left, strip_eq_self h.isSpace]
  rw [spelling, safeIdentifier]
  simp only [safeText, hstrip, List.isEmpty_iff, h.1, if_false]
  exact substituteRuns_eq_self h.isIdentifier

end HermesClaude.Content
