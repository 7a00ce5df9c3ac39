/-
# Tool input in partial streams

A partial tool input carries no tool name.  It is accepted where the block at its index is
known to be a call of an allowed tool: the last block that started there named one, and the
block has not been stopped since.  This is a law about the whole history of a stream, and
the index map is what the check remembers of that history.

The check looks at a block before it looks at a delta, at a delta before it looks at the
kind of the event, and at one spelling of `content_block` before the other, and it stops at
the first thing it recognises.  The law holds of every stream in which nothing that matters
stands behind something recognised first.
-/

import HermesClaude.Content.ZeroNative
import HermesClaude.Library.History

namespace HermesClaude.Content

open HermesClaude.Python HermesClaude.Library

/-- A raw stream event, by its items. -/
abbrev RawEvent := List (PyValue × PyValue)

/-- The raw event of a message; anything but a mapping is like an empty one. -/
def rawEvent (message : PyValue) : RawEvent := (message.safeAttr "event").mapping?.getD []

/-- The types that make a delta a tool call. -/
def deltaToolTypes : List String := ["tool_use", "tool_use_delta"]

/-- The type of a block or a delta. -/
def partType (part : List (PyValue × PyValue)) : Option PyValue :=
  mappingValue (some part) ["type"]

/-- The check recognises the type of a block or a delta: a tool type, or one that cannot be
looked up. -/
def Recognised (toolTypes : List String) (part : List (PyValue × PyValue)) : Prop :=
  memStreamTypes (partType part) nativeStreamTypes ≠ some false ∨
    toolTypes.any (isStreamType (partType part)) = true

instance (toolTypes : List String) (part : List (PyValue × PyValue)) :
    Decidable (Recognised toolTypes part) := instDecidableOr

/-- The allowed tool that a block or a delta calls. -/
def calledTool (allowed : List PyStr) (toolTypes : List String)
    (part : List (PyValue × PyValue)) : Option PyStr :=
  if toolTypes.any (isStreamType (partType part)) then
    allowedName? allowed (mappingValue (some part) ["name"])
  else none

/-- A block or a delta that may not pass: a server tool, a tool result, or a call of a tool
that is not allowed. -/
def Forbidden (allowed : List PyStr) (toolTypes : List String)
    (part : List (PyValue × PyValue)) : Prop :=
  memStreamTypes (partType part) nativeStreamTypes = some true ∨
    (toolTypes.any (isStreamType (partType part)) = true ∧
      allowedName? allowed (mappingValue (some part) ["name"]) = none)

namespace RawEvent

/-- The block of an event, under the spelling that is looked at first. -/
def block (event : RawEvent) : Option (List (PyValue × PyValue)) :=
  (mappingValue (some event) ["content_block", "contentBlock"]).bind PyValue.mapping?

/-- The delta of an event. -/
def delta (event : RawEvent) : Option (List (PyValue × PyValue)) :=
  (mappingValue (some event) ["delta"]).bind PyValue.mapping?

/-- The blocks of an event, under either spelling. -/
def blocks (event : RawEvent) : List (List (PyValue × PyValue)) :=
  ["content_block", "contentBlock"].filterMap fun key =>
    (PyValue.lookupKey event (lit key)).bind PyValue.mapping?

/-- The event is of the given kind, in either spelling. -/
def isKind (event : RawEvent) (snake camel : String) : Bool :=
  isStreamType (mappingValue (some event) ["type"]) snake ||
    isStreamType (mappingValue (some event) ["type"]) camel

def isStop (event : RawEvent) : Bool := event.isKind "content_block_stop" "contentBlockStop"

def isStart (event : RawEvent) : Bool := event.isKind "content_block_start" "contentBlockStart"

/-- The event carries a part of a tool call's input. -/
def IsToolInput (event : RawEvent) : Prop :=
  ∃ delta, event.delta = some delta ∧ isStreamType (partType delta) "input_json_delta" = true

/-- The check is over when it has looked at the block. -/
def BlockDecides (event : RawEvent) : Prop :=
  ∃ block, event.block = some block ∧ Recognised ["tool_use"] block

/-- The check is over when it has looked at the block and the delta. -/
def PartsDecide (event : RawEvent) : Prop :=
  event.BlockDecides ∨
    ∃ delta, event.delta = some delta ∧ Recognised ("input_json_delta" :: deltaToolTypes) delta

/-- The check is over when it has looked at the block, or at a delta that is a tool call. -/
def CallDecides (event : RawEvent) : Prop :=
  event.BlockDecides ∨ ∃ delta, event.delta = some delta ∧ Recognised deltaToolTypes delta

/-- The allowed tool an event says its block calls: by its block, or else by its delta. -/
def calls (allowed : List PyStr) (event : RawEvent) : Option PyStr :=
  match event.block with
  | none => event.delta.bind (calledTool allowed deltaToolTypes)
  | some block =>
    if Recognised ["tool_use"] block then calledTool allowed ["tool_use"] block
    else event.delta.bind (calledTool allowed deltaToolTypes)

/-- The event is at the given index and says that its block calls an allowed tool. -/
def Opens (allowed : List PyStr) (i : Nat) (event : RawEvent) : Prop :=
  streamIndex event = some i ∧ (event.calls allowed).isSome = true

/-- The event names a tool, whichever. -/
def NamesTool (event : RawEvent) : Prop :=
  (∃ block, event.block = some block ∧ isStreamType (partType block) "tool_use" = true) ∨
    ∃ delta, event.delta = some delta ∧ deltaToolTypes.any (isStreamType (partType delta)) = true

/-- The event is at the given index and calls no allowed tool, and it stops the block there
or starts one, or names another tool. -/
def Closes (allowed : List PyStr) (i : Nat) (event : RawEvent) : Prop :=
  streamIndex event = some i ∧ event.calls allowed = none ∧
    (event.isStop = true ∨ event.isStart = true ∨ event.NamesTool)

/-- No part of the event may not pass: neither a block, under either spelling, nor the
delta. -/
def Innocent (allowed : List PyStr) (event : RawEvent) : Prop :=
  (∀ block ∈ event.blocks, ¬ Forbidden allowed ["tool_use"] block) ∧
    ∀ delta, event.delta = some delta → ¬ Forbidden allowed deltaToolTypes delta

end RawEvent

/-! ## Streams -/

/-- The index map after one more message; a check that raises leaves it alone. -/
def track (allowed : List PyStr) (indexes : StreamToolIndexes) (message : PyValue) :
    StreamToolIndexes :=
  ((streamToolViolation message allowed indexes).map Prod.snd).getD indexes

/-- The index map after a stream that began with an empty one. -/
def tracked (allowed : List PyStr) (messages : List PyValue) : StreamToolIndexes :=
  messages.foldl (track allowed) []

/-- The message passes the check, after the given ones. -/
def Accepted (allowed : List PyStr) (before : List PyValue) (message : PyValue) : Prop :=
  ∃ after, streamToolViolation message allowed (tracked allowed before) = some (false, after)

/-- The last block seen at the index called an allowed tool, and nothing closed it since. -/
def ToolOpen (allowed : List PyStr) (i : Nat) (messages : List PyValue) : Prop :=
  Since (fun message => (rawEvent message).Opens allowed i)
    (fun message => ¬ (rawEvent message).Closes allowed i) messages

/-- Nothing that matters about a message stands behind something the check recognises
first. -/
structure Plain (allowed : List PyStr) (before : List PyValue) (message : PyValue) : Prop where
  /-- What closes a tool's block is a stop, with nothing in it that is looked at before. -/
  closes : ∀ i, ToolOpen allowed i before → (rawEvent message).Closes allowed i →
    (rawEvent message).isStop = true ∧ ¬ (rawEvent message).PartsDecide
  /-- Tool input does not come with a block that decides. -/
  input : (rawEvent message).IsToolInput → ¬ (rawEvent message).BlockDecides
  /-- What the other spelling of `content_block` hides may pass. -/
  spelling : ∀ block ∈ (rawEvent message).blocks, some block ≠ (rawEvent message).block →
    ¬ Forbidden allowed ["tool_use"] block
  /-- So may a delta behind a block that calls an allowed tool. -/
  delta : ∀ block delta, (rawEvent message).block = some block →
    (calledTool allowed ["tool_use"] block).isSome = true →
    (rawEvent message).delta = some delta → ¬ Forbidden allowed deltaToolTypes delta

/-- The law of partial streams: tool input is accepted exactly where an allowed tool is
open, and what is accepted has no part that may not pass. -/
structure Lawful (allowed : List PyStr) (before : List PyValue) (message : PyValue) : Prop where
  input : (rawEvent message).IsToolInput →
    (Accepted allowed before message ↔
      ∃ i, streamIndex (rawEvent message) = some i ∧ ToolOpen allowed i before)
  innocent : Accepted allowed before message → (rawEvent message).Innocent allowed

/-! ## One part -/

section Part

variable {allowed : List PyStr} {indexes : StreamToolIndexes} {index : Option Nat}
  {part : List (PyValue × PyValue)} {toolTypes : List String}

/-- A text is looked up among texts as such. -/
theorem memStreamTypes_of_isStreamType {value : Option PyValue} {text : String}
    {texts : List PyStr} (h : isStreamType value text = true) :
    memStreamTypes value texts = some (texts.any fun other => lit text == other) := by
  cases value with
  | none => cases h
  | some v =>
    have hv : v = .str (lit text) := PyValue.isText_iff.mp h
    subst hv
    rfl

/-- A tool type is none of the types that may not pass at all. -/
theorem notNative_of_toolType (htypes : ∀ text ∈ toolTypes, lit text ∉ nativeStreamTypes)
    (h : toolTypes.any (isStreamType (partType part)) = true) :
    memStreamTypes (partType part) nativeStreamTypes = some false := by
  obtain ⟨text, htext, hpart⟩ := List.any_eq_true.mp h
  rw [memStreamTypes_of_isStreamType hpart, Option.some.injEq, List.any_eq_false]
  intro other hother heq
  rw [beq_iff_eq] at heq
  exact htypes text htext (heq ▸ hother)

theorem tool_use_notNative : ∀ text ∈ ["tool_use"], lit text ∉ nativeStreamTypes := by decide

theorem deltaToolTypes_notNative : ∀ text ∈ deltaToolTypes, lit text ∉ nativeStreamTypes := by
  decide

theorem recognised_of_calledTool {name : PyStr} (h : calledTool allowed toolTypes part = some name) :
    Recognised toolTypes part := by
  unfold calledTool at h
  split_ifs at h with htool
  exact .inr htool

/-- A part that is not recognised is left to the next check. -/
theorem streamPartVerdict_eq_none (h : ¬ Recognised toolTypes part) :
    streamPartVerdict allowed indexes index part toolTypes = none := by
  have hnative : memStreamTypes (partType part) nativeStreamTypes = some false := by
    by_contra hnative
    exact h (.inl hnative)
  have htool : ¬ toolTypes.any (isStreamType (partType part)) = true := fun htool => h (.inr htool)
  unfold partType at hnative htool
  unfold streamPartVerdict
  dsimp only
  rw [hnative]
  dsimp only
  rw [if_neg htool]

/-- A call of an allowed tool passes, and is remembered. -/
theorem streamPartVerdict_called (htypes : ∀ text ∈ toolTypes, lit text ∉ nativeStreamTypes)
    {name : PyStr} (h : calledTool allowed toolTypes part = some name) :
    streamPartVerdict allowed indexes index part toolTypes =
      some (some (false, indexes.record index name)) := by
  unfold calledTool at h
  split_ifs at h with htool
  have hnative := notNative_of_toolType htypes htool
  unfold partType at hnative htool
  unfold streamPartVerdict
  dsimp only
  rw [hnative]
  dsimp only
  rw [if_pos htool, h]

/-- Anything else that is recognised is refused, or cannot be looked up. -/
theorem streamPartVerdict_refused (hrecognised : Recognised toolTypes part)
    (hcalled : calledTool allowed toolTypes part = none) :
    streamPartVerdict allowed indexes index part toolTypes = some none ∨
      streamPartVerdict allowed indexes index part toolTypes = some (some (true, indexes)) := by
  unfold Recognised partType at hrecognised
  unfold calledTool partType at hcalled
  unfold streamPartVerdict
  dsimp only
  cases hmem : memStreamTypes (mappingValue (some part) ["type"]) nativeStreamTypes with
  | none => exact .inl rfl
  | some native =>
    cases native with
    | true => exact .inr rfl
    | false =>
      have htool := hrecognised.resolve_left (fun h => h hmem)
      rw [if_pos htool] at hcalled
      dsimp only
      rw [if_pos htool, hcalled]
      exact .inr rfl

/-- What is recognised and may pass is a call of an allowed tool, or cannot be looked up. -/
theorem not_forbidden_of_calledTool (htypes : ∀ text ∈ toolTypes, lit text ∉ nativeStreamTypes)
    {name : PyStr} (h : calledTool allowed toolTypes part = some name) :
    ¬ Forbidden allowed toolTypes part := by
  unfold calledTool at h
  split_ifs at h with htool
  rintro (hnative | ⟨-, hname⟩)
  · rw [notNative_of_toolType htypes htool] at hnative
    cases hnative
  · rw [hname] at h
    cases h

theorem recognised_of_forbidden (h : Forbidden allowed toolTypes part) :
    Recognised toolTypes part := by
  rcases h with hnative | ⟨htool, -⟩
  · refine .inl ?_
    rw [hnative]
    decide
  · exact .inr htool

end Part

/-! ## One event -/

section Event

variable {allowed : List PyStr} {indexes : StreamToolIndexes} {event : RawEvent}

/-- What the check makes of an event, one constructor for each place where it stops. -/
inductive Checked (allowed : List PyStr) (indexes : StreamToolIndexes) (event : RawEvent) :
    Verdict → Prop
  | /-- A part calls an allowed tool. -/
    called {name : PyStr} (calls : event.calls allowed = some name) :
      Checked allowed indexes event (some (false, indexes.record (streamIndex event) name))
  | /-- A part is recognised and calls no allowed tool; it may not even be looked up. -/
    refused {verdict : Verdict} (parts : event.CallDecides) (calls : event.calls allowed = none)
      (refuses : verdict = none ∨ verdict = some (true, indexes)) :
      Checked allowed indexes event verdict
  | /-- The delta is tool input. -/
    input (block : ¬ event.BlockDecides) (input : event.IsToolInput) :
      Checked allowed indexes event (some (match streamIndex event with
        | none => true
        | some i => !indexes.any fun entry => entry.1 == i, indexes))
  | stopped (parts : ¬ event.PartsDecide) (stop : event.isStop = true) :
      Checked allowed indexes event (some (false, indexes.forget (streamIndex event)))
  | /-- Nothing is remembered or forgotten. -/
    passed {verdict : Bool} (parts : ¬ event.PartsDecide) (stop : event.isStop = false) :
      Checked allowed indexes event (some (verdict, indexes))

theorem calls_of_block {block : List (PyValue × PyValue)} (hblock : event.block = some block)
    (h : Recognised ["tool_use"] block) :
    event.calls allowed = calledTool allowed ["tool_use"] block := by
  unfold RawEvent.calls
  rw [hblock]
  exact if_pos h

theorem calls_of_delta (h : ¬ event.BlockDecides) :
    event.calls allowed = event.delta.bind (calledTool allowed deltaToolTypes) := by
  unfold RawEvent.calls
  cases hblock : event.block with
  | none => rfl
  | some block => exact if_neg fun hblock' => h ⟨block, hblock, hblock'⟩

/-- A delta that is tool input is not a tool call, nor of a type that may not pass. -/
theorem not_recognised_of_input {part : List (PyValue × PyValue)}
    (h : isStreamType (partType part) "input_json_delta" = true) :
    ¬ Recognised deltaToolTypes part := by
  rintro (hnative | htool)
  · rw [memStreamTypes_of_isStreamType h] at hnative
    exact hnative (by decide)
  · obtain ⟨text, htext, hpart⟩ := List.any_eq_true.mp htool
    cases hvalue : partType part with
    | none =>
      rw [hvalue] at h
      cases h
    | some value =>
      rw [hvalue] at h hpart
      have hinput : value = .str (lit "input_json_delta") := PyValue.isText_iff.mp h
      have hother : value = .str (lit text) := PyValue.isText_iff.mp hpart
      rw [hinput, PyValue.str.injEq] at hother
      have hdiffers : ∀ text ∈ deltaToolTypes, lit "input_json_delta" ≠ lit text := by decide
      exact hdiffers text htext hother

theorem partsDecide_of_call (h : event.CallDecides) : event.PartsDecide := by
  rcases h with hblock | ⟨delta, heq, hrecognised⟩
  · exact .inl hblock
  · exact .inr ⟨delta, heq, hrecognised.imp_right fun htool => by simp [htool]⟩

/-- A recognised part decides. -/
theorem checked_of_recognised {toolTypes : List String} {part : List (PyValue × PyValue)}
    (htypes : ∀ text ∈ toolTypes, lit text ∉ nativeStreamTypes)
    (hrecognised : Recognised toolTypes part) (hparts : event.CallDecides)
    (hcalls : event.calls allowed = calledTool allowed toolTypes part) :
    ∃ verdict,
      streamPartVerdict allowed indexes (streamIndex event) part toolTypes = some verdict ∧
        Checked allowed indexes event verdict := by
  cases hcalled : calledTool allowed toolTypes part with
  | some name =>
    exact ⟨_, streamPartVerdict_called htypes hcalled, .called (hcalls.trans hcalled)⟩
  | none =>
    rcases streamPartVerdict_refused hrecognised hcalled with hverdict | hverdict
    · exact ⟨_, hverdict, .refused hparts (hcalls.trans hcalled) (.inl rfl)⟩
    · exact ⟨_, hverdict, .refused hparts (hcalls.trans hcalled) (.inr rfl)⟩

/-- Where no part decides, the kind of the event does. -/
theorem checked_of_kind (hparts : ¬ event.PartsDecide) :
    Checked allowed indexes event
      (if event.isStop = true then some (false, indexes.forget (streamIndex event))
      else if event.isStart = true then
        match event.block with
        | none => some (false, indexes)
        | some part =>
          some (!(isStreamType (partType part) "text" || isStreamType (partType part) "thinking"),
            indexes)
      else some (false, indexes)) := by
  split_ifs with hstop hstart
  · exact .stopped hparts hstop
  · split
    next => exact .passed hparts (Bool.eq_false_iff.mpr hstop)
    next => exact .passed hparts (Bool.eq_false_iff.mpr hstop)
  · exact .passed hparts (Bool.eq_false_iff.mpr hstop)

/-- The check of the parts of an event, and of its kind where they do not decide. -/
theorem streamToolViolation_event (message : PyValue)
    (hevent : (message.safeAttr "event").mapping? = some event) :
    Checked allowed indexes event (streamToolViolation message allowed indexes) := by
  unfold streamToolViolation
  rw [hevent]
  dsimp only
  have hblockOf : (mappingValue (some event) ["content_block", "contentBlock"]).bind PyValue.mapping? =
      event.block := rfl
  have hdeltaOf : (mappingValue (some event) ["delta"]).bind PyValue.mapping? = event.delta := rfl
  rw [hblockOf, hdeltaOf]
  by_cases hblock : event.BlockDecides
  · obtain ⟨block, heq, hrecognised⟩ := hblock
    obtain ⟨verdict, hverdict, hchecked⟩ := checked_of_recognised tool_use_notNative hrecognised
      (.inl ⟨block, heq, hrecognised⟩) (calls_of_block heq hrecognised)
    rw [heq, Option.bind_some, hverdict]
    exact hchecked
  · have hnoBlock : (event.block.bind fun part =>
        streamPartVerdict allowed indexes (streamIndex event) part ["tool_use"]) = none := by
      cases heq : event.block with
      | none => rfl
      | some block => exact streamPartVerdict_eq_none fun h => hblock ⟨block, heq, h⟩
    rw [hnoBlock, Option.none_or]
    cases heq : event.delta with
    | none =>
      apply checked_of_kind
      rintro (hparts | ⟨delta, hdelta, -⟩)
      · exact hblock hparts
      · rw [heq] at hdelta
        cases hdelta
    | some delta =>
      rw [Option.bind_some]
      by_cases hrecognised : Recognised deltaToolTypes delta
      · have hcalls : event.calls allowed = calledTool allowed deltaToolTypes delta := by
          rw [calls_of_delta hblock, heq, Option.bind_some]
        have hparts : event.CallDecides := .inr ⟨delta, heq, hrecognised⟩
        obtain ⟨verdict, hverdict, hchecked⟩ :=
          checked_of_recognised deltaToolTypes_notNative hrecognised hparts hcalls
        rw [deltaToolTypes] at hverdict
        rw [hverdict]
        exact hchecked
      · have hverdict : streamPartVerdict allowed indexes (streamIndex event) delta
            ["tool_use", "tool_use_delta"] = none := streamPartVerdict_eq_none hrecognised
        rw [hverdict, Option.none_or]
        by_cases hinput : isStreamType (mappingValue (some delta) ["type"]) "input_json_delta" = true
        · rw [if_pos hinput]
          exact .input hblock ⟨delta, heq, hinput⟩
        · rw [if_neg hinput]
          apply checked_of_kind
          rintro (hparts | ⟨other, hother, hnative | htool⟩)
          · exact hblock hparts
          · rw [heq, Option.some.injEq] at hother
            exact hrecognised (.inl (hother ▸ hnative))
          · rw [heq, Option.some.injEq] at hother
            rw [← hother, List.any_cons, Bool.or_eq_true] at htool
            exact htool.elim hinput fun h => hrecognised (.inr h)

/-- The check of a message, as a check of its raw event. -/
theorem streamToolViolation_checked (message : PyValue) :
    Checked allowed indexes (rawEvent message) (streamToolViolation message allowed indexes) := by
  unfold rawEvent
  cases hevent : (message.safeAttr "event").mapping? with
  | some event => exact streamToolViolation_event message hevent
  | none =>
    unfold streamToolViolation
    rw [hevent]
    refine .passed ?_ rfl
    rintro (⟨block, hblock, -⟩ | ⟨delta, hdelta, -⟩)
    · cases hblock
    · cases hdelta

end Event

/-! ## The index map -/

section Stream

variable {allowed : List PyStr} {indexes : StreamToolIndexes} {before : List PyValue}
  {message : PyValue}

/-- The index map has an entry for the index. -/
def StreamToolIndexes.has (indexes : StreamToolIndexes) (i : Nat) : Bool :=
  indexes.any fun entry => entry.1 == i

/-- The index map says which indexes are open. -/
def Reflects (allowed : List PyStr) (messages : List PyValue) (indexes : StreamToolIndexes) :
    Prop :=
  ∀ i, indexes.has i = true ↔ ToolOpen allowed i messages

theorem StreamToolIndexes.has_record {index : Option Nat} {name : PyStr} {i : Nat} :
    (indexes.record index name).has i = true ↔ index = some i ∨ indexes.has i = true := by
  cases index with
  | none => simp [record]
  | some j =>
    simp only [record, has, List.any_cons, List.any_filter, Bool.or_eq_true, beq_iff_eq,
      Option.some.injEq, List.any_eq_true, Bool.and_eq_true, decide_eq_true_eq, ne_eq]
    constructor
    · rintro (hij | ⟨entry, hentry, -, hi⟩)
      · exact .inl hij
      · exact .inr ⟨entry, hentry, hi⟩
    · rintro (hij | ⟨entry, hentry, hi⟩)
      · exact .inl hij
      · by_cases hij : j = i
        · exact .inl hij
        · exact .inr ⟨entry, hentry, fun h => hij (h.symm.trans hi), hi⟩

theorem StreamToolIndexes.has_forget {index : Option Nat} {i : Nat} :
    (indexes.forget index).has i = true ↔ indexes.has i = true ∧ index ≠ some i := by
  cases index with
  | none => simp [forget]
  | some j =>
    simp only [forget, has, List.any_filter, List.any_eq_true, Bool.and_eq_true,
      decide_eq_true_eq, beq_iff_eq, ne_eq, Option.some.injEq]
    constructor
    · rintro ⟨entry, hentry, hj, hi⟩
      exact ⟨⟨entry, hentry, hi⟩, fun h => hj (hi.trans h.symm)⟩
    · rintro ⟨⟨entry, hentry, hi⟩, hj⟩
      exact ⟨entry, hentry, fun h => hj (h.symm.trans hi), hi⟩

theorem toolOpen_snoc {i : Nat} :
    ToolOpen allowed i (before ++ [message]) ↔
      (rawEvent message).Opens allowed i ∨
        (ToolOpen allowed i before ∧ ¬ (rawEvent message).Closes allowed i) :=
  since_snoc

/-- A message that neither opens nor closes an open index leaves open what is open. -/
theorem toolOpen_kept {i : Nat} (hcalls : (rawEvent message).calls allowed = none)
    (hcloses : ToolOpen allowed i before → ¬ (rawEvent message).Closes allowed i) :
    ToolOpen allowed i (before ++ [message]) ↔ ToolOpen allowed i before := by
  rw [toolOpen_snoc]
  constructor
  · rintro (⟨-, hopens⟩ | ⟨hopen, -⟩)
    · rw [hcalls] at hopens
      cases hopens
    · exact hopen
  · intro hopen
    exact .inr ⟨hopen, hcloses hopen⟩

theorem calls_eq_none {event : RawEvent} (h : ¬ event.CallDecides) :
    event.calls allowed = none := by
  have hblock : ¬ event.BlockDecides := fun hblock => h (.inl hblock)
  rw [calls_of_delta hblock]
  cases hdelta : event.delta with
  | none => rfl
  | some delta =>
    by_contra hcalled
    obtain ⟨name, hname⟩ := Option.ne_none_iff_exists'.mp hcalled
    exact h (.inr ⟨delta, hdelta, recognised_of_calledTool hname⟩)

/-- Tool input decides nothing as a call. -/
theorem not_callDecides_of_input {event : RawEvent} (hblock : ¬ event.BlockDecides)
    (hinput : event.IsToolInput) : ¬ event.CallDecides := by
  obtain ⟨delta, hdelta, htype⟩ := hinput
  rintro (h | ⟨other, hother, hrecognised⟩)
  · exact hblock h
  · rw [hdelta, Option.some.injEq] at hother
    exact not_recognised_of_input htype (hother ▸ hrecognised)

/-- **Step.** The index map goes on saying which indexes are open. -/
theorem track_reflects (h : Reflects allowed before indexes)
    (hplain : Plain allowed before message) :
    Reflects allowed (before ++ [message]) (track allowed indexes message) := by
  intro i
  have hchecked : Checked allowed indexes (rawEvent message)
      (streamToolViolation message allowed indexes) := streamToolViolation_checked message
  -- a message after which the map is the same closes nothing that is open
  have hsame : (rawEvent message).calls allowed = none →
      (¬ (rawEvent message).isStop = true ∨ (rawEvent message).PartsDecide) →
      (indexes.has i = true ↔ ToolOpen allowed i (before ++ [message])) := by
    intro hcalls hother
    rw [h i, toolOpen_kept hcalls]
    intro hopen hcloses
    obtain ⟨hstop, hparts⟩ := hplain.closes i hopen hcloses
    exact hother.elim (fun h => h hstop) hparts
  unfold track
  generalize streamToolViolation message allowed indexes = verdict at hchecked
  cases hchecked with
  | @called name hcalls =>
    have hcloses : ¬ (rawEvent message).Closes allowed i := by
      rintro ⟨-, hnone, -⟩
      rw [hcalls] at hnone
      cases hnone
    have hopens : (rawEvent message).Opens allowed i ↔ streamIndex (rawEvent message) = some i := by
      unfold RawEvent.Opens
      simp [hcalls]
    show (indexes.record _ name).has i = true ↔ _
    rw [StreamToolIndexes.has_record, toolOpen_snoc, hopens, h i]
    simp [hcloses]
  | refused hparts hcalls hverdict =>
    rcases hverdict with rfl | rfl
    · exact hsame hcalls (.inr (partsDecide_of_call hparts))
    · exact hsame hcalls (.inr (partsDecide_of_call hparts))
  | input hblock hinput =>
    have hcalls : (rawEvent message).calls allowed = none := 
      calls_eq_none (not_callDecides_of_input hblock hinput)
    obtain ⟨delta, hdelta, htype⟩ := hinput
    have hparts : (rawEvent message).PartsDecide :=
      .inr ⟨delta, hdelta, .inr (by simp [htype])⟩
    exact hsame hcalls (.inr hparts)
  | stopped hparts hstop =>
    have hcalls : (rawEvent message).calls allowed = none :=
      calls_eq_none fun hcall => hparts (partsDecide_of_call hcall)
    have hopens : ¬ (rawEvent message).Opens allowed i := by
      rintro ⟨-, hopens⟩
      rw [hcalls] at hopens
      cases hopens
    have hcloses : (rawEvent message).Closes allowed i ↔
        streamIndex (rawEvent message) = some i := by
      unfold RawEvent.Closes
      simp [hcalls, hstop]
    show (indexes.forget _).has i = true ↔ _
    rw [StreamToolIndexes.has_forget, toolOpen_snoc, hcloses, h i]
    simp [hopens]
  | passed hparts hstop =>
    have hcalls : (rawEvent message).calls allowed = none :=
      calls_eq_none fun hcall => hparts (partsDecide_of_call hcall)
    exact hsame hcalls (.inl (by simp [hstop]))

/-- **Run.** After a plain stream the index map says which indexes are open. -/
theorem tracked_reflects (hplain : Along (Plain allowed) before) :
    Reflects allowed before (tracked allowed before) := by
  have hstart : Reflects allowed [] [] := fun i => iff_of_false Bool.false_ne_true not_since_nil
  exact reflects_foldl hstart track_reflects hplain

/-! ## The law -/

/-- A block that may pass, under the spelling that is looked at, and a delta that may pass:
then so may the event. -/
theorem innocent_of_parts (hplain : Plain allowed before message)
    (hblock : ∀ block, (rawEvent message).block = some block →
      ¬ Forbidden allowed ["tool_use"] block)
    (hdelta : ∀ delta, (rawEvent message).delta = some delta →
      ¬ Forbidden allowed deltaToolTypes delta) :
    (rawEvent message).Innocent allowed := by
  refine ⟨?_, hdelta⟩
  intro block hmem
  by_cases hsame : some block = (rawEvent message).block
  · exact hblock block hsame.symm
  · exact hplain.spelling block hmem hsame

/-- What calls an allowed tool may pass. -/
theorem innocent_of_calls (hplain : Plain allowed before message) {name : PyStr}
    (hcalls : (rawEvent message).calls allowed = some name) :
    (rawEvent message).Innocent allowed := by
  by_cases hblock : (rawEvent message).BlockDecides
  · obtain ⟨block, heq, hrecognised⟩ := hblock
    rw [calls_of_block heq hrecognised] at hcalls
    apply innocent_of_parts hplain
    · intro other hother
      rw [heq, Option.some.injEq] at hother
      rw [← hother]
      exact not_forbidden_of_calledTool tool_use_notNative hcalls
    · intro delta hdelta
      exact hplain.delta block delta heq (by simp [hcalls]) hdelta
  · rw [calls_of_delta hblock] at hcalls
    apply innocent_of_parts hplain
    · intro block heq hforbidden
      exact hblock ⟨block, heq, recognised_of_forbidden hforbidden⟩
    · intro delta heq
      rw [heq, Option.bind_some] at hcalls
      exact not_forbidden_of_calledTool deltaToolTypes_notNative hcalls

/-- What no part decides may pass. -/
theorem innocent_of_not_partsDecide (hplain : Plain allowed before message)
    (hparts : ¬ (rawEvent message).PartsDecide) : (rawEvent message).Innocent allowed := by
  apply innocent_of_parts hplain
  · intro block heq hforbidden
    exact hparts (.inl ⟨block, heq, recognised_of_forbidden hforbidden⟩)
  · intro delta heq hforbidden
    exact hparts (partsDecide_of_call (.inr ⟨delta, heq, recognised_of_forbidden hforbidden⟩))

/-- Tool input may pass, where no block decides. -/
theorem innocent_of_input (hplain : Plain allowed before message)
    (hblock : ¬ (rawEvent message).BlockDecides) (hinput : (rawEvent message).IsToolInput) :
    (rawEvent message).Innocent allowed := by
  obtain ⟨delta, hdelta, htype⟩ := hinput
  apply innocent_of_parts hplain
  · intro block heq hforbidden
    exact hblock ⟨block, heq, recognised_of_forbidden hforbidden⟩
  · intro other hother hforbidden
    rw [hdelta, Option.some.injEq] at hother
    rw [← hother] at hforbidden
    exact not_recognised_of_input htype (recognised_of_forbidden hforbidden)

/-- What the check makes of tool input that does not come with a block that decides. -/
theorem accepted_input_iff (hplain : Plain allowed before message)
    (hinput : (rawEvent message).IsToolInput) :
    Accepted allowed before message ↔ ∃ i, streamIndex (rawEvent message) = some i ∧
      (tracked allowed before).has i = true := by
  have hblock := hplain.input hinput
  have hnoCall := not_callDecides_of_input hblock hinput
  have hchecked : Checked allowed (tracked allowed before) (rawEvent message)
      (streamToolViolation message allowed (tracked allowed before)) :=
    streamToolViolation_checked message
  have hparts : (rawEvent message).PartsDecide := by
    obtain ⟨delta, hdelta, htype⟩ := hinput
    exact .inr ⟨delta, hdelta, .inr (by simp [htype])⟩
  unfold Accepted
  generalize streamToolViolation message allowed (tracked allowed before) = verdict at hchecked ⊢
  cases hchecked with
  | called hcalls =>
    rw [calls_eq_none hnoCall] at hcalls
    cases hcalls
  | refused hcall => exact absurd hcall hnoCall
  | input =>
    cases streamIndex (rawEvent message) with
    | none => simp
    | some i => simp [StreamToolIndexes.has]
  | stopped hnone => exact absurd hparts hnone
  | passed hnone => exact absurd hparts hnone

end Stream

/-- In a stream in which nothing that matters stands behind something recognised first,
tool input is accepted exactly where an allowed tool is open, and what is accepted has no
part that may not pass. -/
theorem partial_streams_lawful {allowed : List PyStr} {messages : List PyValue}
    (hplain : Along (Plain allowed) messages) : Along (Lawful allowed) messages := by
  intro before message after heq
  have hmessage : Plain allowed before message := hplain before message after heq
  have hreflects : Reflects allowed before (tracked allowed before) := by
    rw [heq] at hplain
    exact tracked_reflects hplain.before
  constructor
  · intro hinput
    rw [accepted_input_iff hmessage hinput]
    simp only [hreflects _]
  · rintro ⟨indexes, hverdict⟩
    have hchecked : Checked allowed (tracked allowed before) (rawEvent message)
        (streamToolViolation message allowed (tracked allowed before)) :=
      streamToolViolation_checked message
    generalize streamToolViolation message allowed (tracked allowed before) = verdict
      at hchecked hverdict
    cases hchecked with
    | called hcalls => exact innocent_of_calls hmessage hcalls
    | refused hparts hcalls hrefuses =>
      rcases hrefuses with hrefuses | hrefuses
      · rw [hrefuses] at hverdict
        cases hverdict
      · rw [hrefuses] at hverdict
        cases hverdict
    | input hblock hinput => exact innocent_of_input hmessage hblock hinput
    | stopped hparts => exact innocent_of_not_partsDecide hmessage hparts
    | passed hparts => exact innocent_of_not_partsDecide hmessage hparts

/-! ## Small streams -/

/-- A message with a raw event at index 0. -/
def streamEvent (kind : String) (parts : List (String × List (String × String))) : PyValue :=
  let part := fun (items : List (String × String)) =>
    PyValue.dict (items.map fun item => (.str (lit item.1), .str (lit item.2)))
  .object "StreamEvent" [("event", .dict (
    (.str (lit "type"), .str (lit kind)) :: (.str (lit "index"), .int 0) ::
      parts.map fun item => (.str (lit item.1), part item.2)))]

/-- A call of the tool `t` starts. -/
def toolStart : PyValue :=
  streamEvent "content_block_start" [("content_block", [("type", "tool_use"), ("name", "t")])]

/-- A text starts. -/
def textStart : PyValue := streamEvent "content_block_start" [("content_block", [("type", "text")])]

/-- A part of a tool's input. -/
def toolInput : PyValue := streamEvent "content_block_delta" [("delta", [("type", "input_json_delta")])]

/-- A call of the tool `t` starts, and a server tool with it. -/
def serverToolBehindStart : PyValue :=
  streamEvent "content_block_start" [("content_block", [("type", "tool_use"), ("name", "t")]),
    ("delta", [("type", "server_tool_use")])]

theorem partial_streams_lawful_call : Along (Lawful [lit "t"]) [toolStart, toolInput] := by
  have hstart : Plain [lit "t"] [] toolStart := by
    refine ⟨fun i hopen => absurd hopen not_since_nil, ?_, ?_, ?_⟩
    · rintro ⟨delta, hdelta, -⟩
      cases hdelta
    · intro block hblock hother
      cases List.mem_singleton.mp hblock
      exact absurd rfl hother
    · intro block delta hblock hcalled hdelta
      cases hdelta
  have hinput : Plain [lit "t"] [toolStart] toolInput := by
    refine ⟨?_, ?_, ?_, ?_⟩
    · rintro i - ⟨-, -, hstop | hstart | ⟨block, hblock, -⟩ | ⟨delta, hdelta, hnames⟩⟩
      · cases hstop
      · cases hstart
      · cases hblock
      · cases hdelta
        cases hnames
    · rintro - ⟨block, hblock, -⟩
      cases hblock
    · intro block hblock
      cases hblock
    · intro block delta hblock
      cases hblock
  exact partial_streams_lawful (along_snoc.mpr ⟨along_snoc.mpr ⟨along_nil, hstart⟩, hinput⟩)

/-- After a text has started where a tool was open, tool input is still accepted; and so is a
server tool that comes in the delta of a call. -/
theorem streams_not_lawful :
    ¬ Lawful [lit "t"] [toolStart, textStart] toolInput ∧
      ¬ Lawful [lit "t"] [] serverToolBehindStart := by
  constructor
  · intro hlaw
    have haccepted : Accepted [lit "t"] [toolStart, textStart] toolInput := ⟨_, rfl⟩
    obtain ⟨i, hi, hopen⟩ := (hlaw.input ⟨_, rfl, rfl⟩).mp haccepted
    cases hi
    have hlast : ToolOpen [lit "t"] 0 ([toolStart] ++ [textStart]) := hopen
    rcases toolOpen_snoc.mp hlast with ⟨-, hopens⟩ | ⟨-, hkeeps⟩
    · cases hopens
    · exact hkeeps ⟨rfl, rfl, .inr (.inl rfl)⟩
  · intro hlaw
    have haccepted : Accepted [lit "t"] [] serverToolBehindStart := ⟨_, rfl⟩
    have hforbidden := (hlaw.innocent haccepted).2 _ rfl
    exact hforbidden (.inl rfl)

end HermesClaude.Content
