/-
# The length of a turn's text

The text of a turn is put together from the text blocks of the last user message.  The loop
over the blocks counts their characters against the bound, and the separators are put between
them afterwards, so that the text may be longer than the bound by their number.
-/

import HermesClaude.Python.Stripping
import HermesClaude.Runtime.TurnInputErrors

namespace HermesClaude.Runtime

open HermesClaude.Python

/-- The text of a prompt. -/
def TurnPrompt.body : TurnPrompt → PyStr
  | .text s => s
  | .rich s _ => s

/-- The number of blocks that begin within so many characters, separators left out. -/
def beginWithin (limit : Nat) (blocks : List PyStr) : Nat :=
  (List.range blocks.length).countP fun i => (blocks.take i).flatten.length < limit

/-- The separators fit: the blocks fit with one separator between each two of them, or they
are cut, and the cut leaves as much white space before it as there are separators. -/
def SeparatorsFit (blocks : List PyStr) : Prop :=
  blocks.flatten.length + (blocks.length - 1) ≤ maxTurnText ∨
    maxTurnText ≤ blocks.flatten.length ∧
      beginWithin maxTurnText blocks - 1 ≤ trailing (blocks.flatten.take maxTurnText)

/-! ## The loop over the blocks -/

section Parts

variable {blocks : List PyStr}

/-- The parts are the blocks up to the bound. -/
theorem flatten_boundedParts (used : Nat) (blocks : List PyStr) :
    (boundedParts used blocks).flatten = blocks.flatten.take (maxTurnText - used) := by
  induction blocks generalizing used with
  | nil => simp [boundedParts]
  | cons value rest ih =>
    rw [boundedParts]
    by_cases hfull : maxTurnText ≤ used
    · rw [if_pos hfull, Nat.sub_eq_zero_of_le hfull]
      rfl
    · rw [if_neg hfull]
      dsimp only
      rw [List.flatten_cons, ih, List.flatten_cons, List.take_append, List.length_take]
      congr 2
      omega

/-- There is a part for every block that begins before the bound. -/
theorem length_boundedParts (used : Nat) (blocks : List PyStr) :
    (boundedParts used blocks).length = beginWithin (maxTurnText - used) blocks := by
  induction blocks generalizing used with
  | nil => rfl
  | cons value rest ih =>
    have hshift : beginWithin (maxTurnText - used) (value :: rest) =
        (if 0 < maxTurnText - used then 1 else 0) +
          beginWithin (maxTurnText - used - value.length) rest := by
      rw [beginWithin, List.length_cons, List.range_succ_eq_map, List.countP_cons, List.countP_map,
        beginWithin, Nat.add_comm]
      congr 1
      · rw [List.take_zero, List.flatten_nil, List.length_nil]
        simp only [decide_eq_true_eq]
      · congr 1
        funext i
        rw [Function.comp_apply, Nat.succ_eq_add_one, List.take_succ_cons, List.flatten_cons,
          List.length_append, decide_eq_decide]
        omega
    rw [boundedParts, hshift]
    by_cases hfull : maxTurnText ≤ used
    · have hnone : beginWithin 0 rest = 0 := by
        rw [beginWithin]
        simp
      rw [if_pos hfull, Nat.sub_eq_zero_of_le hfull, Nat.zero_sub, hnone]
      rfl
    · rw [if_neg hfull, if_pos (by omega)]
      dsimp only
      rw [List.length_cons, ih, List.length_take, Nat.add_comm]
      congr 2
      omega

/-- Blocks that all fit begin within the bound. -/
theorem beginWithin_eq_length {limit : Nat} (hnonempty : ∀ block ∈ blocks, block ≠ [])
    (hfits : blocks.flatten.length ≤ limit) : beginWithin limit blocks = blocks.length := by
  have hall : ∀ i ∈ List.range blocks.length, (blocks.take i).flatten.length < limit := by
    intro i hi
    have hlt : i < blocks.length := List.mem_range.mp hi
    have hsplit : blocks.flatten = (blocks.take i).flatten ++ (blocks.drop i).flatten := by
      rw [← List.flatten_append, List.take_append_drop]
    have hnext : 0 < (blocks.drop i).flatten.length := by
      rw [List.drop_eq_getElem_cons hlt, List.flatten_cons, List.length_append]
      have hblock : 0 < blocks[i].length :=
        List.length_pos_iff.mpr (hnonempty _ (List.getElem_mem hlt))
      omega
    rw [hsplit, List.length_append] at hfits
    omega
  rw [beginWithin, List.countP_eq_length.mpr, List.length_range]
  intro i hi
  exact decide_eq_true (hall i hi)

end Parts

/-! ## Joining the parts -/

section Joined

variable {parts : List PyStr}

/-- A text that begins with a character that is no white space. -/
def Begins (s : PyStr) : Prop := ∃ c rest, s = c :: rest ∧ c.isSpace = false

theorem length_intercalate_newline (parts : List PyStr) :
    ((lit "\n").intercalate parts).length = parts.flatten.length + (parts.length - 1) := by
  induction parts with
  | nil => rfl
  | cons part rest ih =>
    cases rest with
    | nil => simp
    | cons next rest =>
      have hnewline : (lit "\n").length = 1 := by decide
      have hflat : (part :: next :: rest).flatten.length =
          part.length + (next :: rest).flatten.length := by
        rw [List.flatten_cons, List.length_append]
      rw [List.intercalate_cons_cons, List.length_append, List.length_append, ih, hnewline, hflat]
      simp only [List.length_cons]
      omega

/-- What the parts end in is not changed by the separators. -/
theorem trailing_intercalate_newline (hparts : ∀ part ∈ parts, Begins part) :
    trailing ((lit "\n").intercalate parts) = trailing parts.flatten := by
  induction parts with
  | nil => rfl
  | cons part rest ih =>
    cases rest with
    | nil => simp
    | cons next rest =>
      rw [List.forall_mem_cons] at hparts
      rcases hparts.2 next List.mem_cons_self with ⟨c, tail, rfl, hc⟩
      have hjoined : c ∈ (lit "\n").intercalate ((c :: tail) :: rest) := by
        cases rest with
        | nil => simp
        | cons other rest => simp [List.intercalate_cons_cons]
      have hflat : c ∈ ((c :: tail) :: rest).flatten := by simp
      calc trailing ((lit "\n").intercalate (part :: (c :: tail) :: rest))
          = trailing ((lit "\n").intercalate ((c :: tail) :: rest)) := by
            rw [List.intercalate_cons_cons, trailing_append hjoined hc]
        _ = trailing ((c :: tail) :: rest).flatten := ih hparts.2
        _ = trailing (part :: (c :: tail) :: rest).flatten := (trailing_append hflat hc).symm

/-- Joined and stripped, parts lose the white space behind the last one. -/
theorem length_strip_joined (hparts : ∀ part ∈ parts, Begins part) :
    (strip ((lit "\n").intercalate parts)).length + trailing parts.flatten =
      parts.flatten.length + (parts.length - 1) := by
  have hleft : lstrip ((lit "\n").intercalate parts) = (lit "\n").intercalate parts := by
    apply lstrip_eq_self
    intro c hc
    cases parts with
    | nil => cases hc
    | cons part rest =>
      rcases hparts part List.mem_cons_self with ⟨first, tail, rfl, hfirst⟩
      have hhead : ((lit "\n").intercalate ((first :: tail) :: rest)).head? = some first := by
        cases rest with
        | nil => simp
        | cons next rest => simp [List.intercalate_cons_cons]
      rw [hhead] at hc
      cases hc
      exact hfirst
  rw [strip, hleft, ← trailing_intercalate_newline hparts, length_rstrip_add_trailing,
    length_intercalate_newline]

end Joined

/-! ## The bound -/

section Bound

variable {content : List PyValue}

/-- Every text block that counts is stripped, and something is left of it. -/
theorem trimmed_textBlocks {block : PyStr} (h : block ∈ textBlocks content) :
    Trimmed block ∧ block ≠ [] := by
  rcases List.mem_filterMap.mp h with ⟨value, -, hvalue⟩
  split at hvalue
  · cases hvalue
  · split at hvalue
    · split at hvalue
      · next text _ =>
        rcases Option.ite_none_left_eq_some.mp hvalue with ⟨hne, heq⟩
        cases heq
        exact ⟨trimmed_strip text, by simpa using hne⟩
      · cases hvalue
    · cases hvalue

theorem begins_of_trimmed {s : PyStr} (h : Trimmed s) (hne : s ≠ []) : Begins s := by
  cases s with
  | nil => exact absurd rfl hne
  | cons c rest => exact ⟨c, rest, rfl, h.head c rfl⟩

/-- A part begins like the block that it is the beginning of. -/
theorem begins_boundedParts {blocks : List PyStr} (hblocks : ∀ block ∈ blocks, Begins block)
    (used : Nat) : ∀ part ∈ boundedParts used blocks, Begins part := by
  induction blocks generalizing used with
  | nil =>
    intro part hpart
    cases hpart
  | cons value rest ih =>
    rw [List.forall_mem_cons] at hblocks
    rw [boundedParts]
    by_cases hfull : maxTurnText ≤ used
    · rw [if_pos hfull]
      intro part hpart
      cases hpart
    · rw [if_neg hfull]
      dsimp only
      rw [List.forall_mem_cons]
      constructor
      · rcases hblocks.1 with ⟨c, tail, rfl, hc⟩
        obtain ⟨n, hn⟩ : ∃ n, maxTurnText - used = n + 1 := ⟨maxTurnText - used - 1, by omega⟩
        exact ⟨c, tail.take n, by rw [hn, List.take_succ_cons], hc⟩
      · exact ih hblocks.2 _

/-- **The joined text.** It is within the bound exactly if the separators fit. -/
theorem length_joined_le_iff {blocks : List PyStr}
    (hblocks : ∀ block ∈ blocks, Trimmed block ∧ block ≠ []) :
    (strip ((lit "\n").intercalate (boundedParts 0 blocks))).length ≤ maxTurnText ↔
      SeparatorsFit blocks := by
  have hbegins : ∀ block ∈ blocks, Begins block := by
    intro block hblock
    exact begins_of_trimmed (hblocks block hblock).1 (hblocks block hblock).2
  have hlength := length_strip_joined (begins_boundedParts hbegins 0)
  rw [flatten_boundedParts, length_boundedParts, Nat.sub_zero] at hlength
  have htrailing : trailing (blocks.flatten.take maxTurnText) ≤
      (blocks.flatten.take maxTurnText).length := trailing_le_length _
  rw [SeparatorsFit]
  by_cases hcut : maxTurnText ≤ blocks.flatten.length
  · -- a single block that is full has no separator
    have hone : blocks.length ≤ 1 → beginWithin maxTurnText blocks ≤ 1 := by
      intro h
      have hcount : beginWithin maxTurnText blocks ≤ (List.range blocks.length).length :=
        List.countP_le_length
      rw [List.length_range] at hcount
      omega
    rw [List.length_take, Nat.min_eq_left hcut] at hlength htrailing
    omega
  · have hfits : blocks.flatten.length ≤ maxTurnText := by omega
    have hlast : trailing blocks.flatten = 0 := by
      apply trailing_eq_zero
      cases blocks using List.reverseRecOn with
      | nil =>
        intro c hc
        cases hc
      | append_singleton init last =>
        have htrimmed := hblocks last (by simp)
        rw [List.flatten_append, List.flatten_singleton, List.getLast?_append_of_ne_nil _ htrimmed.2]
        exact htrimmed.1.last
    rw [List.take_of_length_le hfits, hlast,
      beginWithin_eq_length (fun block hblock => (hblocks block hblock).2) hfits] at hlength
    omega

/-- The text of a message in blocks. -/
theorem length_boundedTurnText_le_iff {content : PyValue} {blocks : List PyValue}
    (hblocks : content.sequence? = some blocks) :
    (∀ text, boundedTurnText content = some text → text.length ≤ maxTurnText) ↔
      SeparatorsFit (textBlocks blocks) := by
  rw [← length_joined_le_iff fun block => trimmed_textBlocks]
  have htext : boundedTurnText content =
      if (strip ((lit "\n").intercalate (boundedParts 0 (textBlocks blocks)))).isEmpty then none
      else some (strip ((lit "\n").intercalate (boundedParts 0 (textBlocks blocks)))) := by
    cases content with
    | list _ | tuple _ =>
      cases hblocks
      rfl
    | none | bool _ | int _ | float _ | str _ | bytes _ | set _ | dict _ | object _ _ => cases hblocks
  rw [htext]
  by_cases hempty : (strip ((lit "\n").intercalate (boundedParts 0 (textBlocks blocks)))).isEmpty
  · rw [if_pos hempty, List.isEmpty_iff.mp hempty]
    exact iff_of_true nofun (Nat.zero_le _)
  · rw [if_neg hempty]
    simp

end Bound

/-- The prompt of a message in blocks. -/
theorem blocks_body_le_iff (library : ImageLibrary) (content : PyValue) {blocks : List PyValue}
    {prompt : TurnPrompt} (hblocks : content.sequence? = some blocks)
    (h : (collectImages library [] 0 blocks).map (fun images =>
      if images.isEmpty then (boundedTurnText content).map .text
      else some (.rich ((boundedTurnText content).getD (lit "What do you see in this image?")) images)) =
      .ok (some prompt)) :
    prompt.body.length ≤ maxTurnText ↔ SeparatorsFit (textBlocks blocks) := by
  rw [← length_boundedTurnText_le_iff hblocks]
  cases himages : collectImages library [] 0 blocks with
  | error failure =>
    rw [himages] at h
    cases h
  | ok images =>
    rw [himages] at h
    have hsome := Except.ok.inj h
    dsimp only at hsome
    by_cases hnone : images.isEmpty = true
    · rw [if_pos hnone] at hsome
      rcases Option.map_eq_some_iff.mp hsome with ⟨text, htext, rfl⟩
      simp [htext, TurnPrompt.body]
    · rw [if_neg hnone] at hsome
      cases hsome
      cases htext : boundedTurnText content with
      | none =>
        have hdefault : (lit "What do you see in this image?").length ≤ maxTurnText := by decide
        exact iff_of_true hdefault nofun
      | some text => simp [TurnPrompt.body]

/-- The prompt that a message gives. -/
theorem promptOf_body_le_iff {library : ImageLibrary} {message : List (PyValue × PyValue)}
    {prompt : TurnPrompt} (h : promptOf library message = .ok (some prompt)) :
    prompt.body.length ≤ maxTurnText ↔
      ∀ blocks, contentBlocks message = some blocks → SeparatorsFit (textBlocks blocks) := by
  unfold promptOf at h
  unfold contentBlocks
  cases hcontent : getItem message "content" with
  | str s =>
    rw [hcontent] at h
    have hsome := Except.ok.inj h
    rcases Option.map_eq_some_iff.mp hsome with ⟨text, htext, rfl⟩
    apply iff_of_true
    · rcases Option.ite_none_left_eq_some.mp htext with ⟨-, heq⟩
      cases heq
      exact List.length_take_le _ _
    · intro blocks hnone
      cases hnone
  | list blocks | tuple blocks =>
    rw [hcontent] at h
    simpa [PyValue.sequence?] using blocks_body_le_iff _ _ rfl h
  | none | bool _ | int _ | float _ | bytes _ | set _ | dict _ | object _ _ =>
    rw [hcontent] at h
    cases h

/-- **Turn text.** The text of a prompt, plain or with images, is within the bound exactly if the
separators of the last user message's text blocks fit. -/
theorem turn_text_bounded_iff (library : ImageLibrary) (messages : PyValue) {prompt : TurnPrompt}
    (h : buildSdkTurnInput library messages = .ok (some prompt)) :
    prompt.body.length ≤ maxTurnText ↔
      ∀ blocks, lastBlocks messages = some blocks → SeparatorsFit (textBlocks blocks) := by
  unfold buildSdkTurnInput at h
  unfold lastBlocks
  cases hitems : messages.sequence? with
  | none =>
    rw [hitems] at h
    cases h
  | some items =>
    rw [hitems] at h
    dsimp only at h
    rw [Option.bind_some]
    cases hmessage : items.reverse.findSome? userMessage? with
    | none =>
      rw [hmessage] at h
      cases h
    | some message =>
      rw [hmessage] at h
      exact promptOf_body_le_iff h

/-! ## A text that is too long -/

/-- A text block. -/
def textBlock (text : PyStr) : PyValue :=
  .dict [(.str (lit "type"), .str (lit "text")), (.str (lit "text"), .str text)]

/-- A user message with text blocks. -/
def textMessage (texts : List PyStr) : PyValue :=
  .dict [(.str (lit "role"), .str (lit "user")), (.str (lit "content"), .list (texts.map textBlock))]

section TextMessage

variable {library : ImageLibrary} {texts : List PyStr}

/-- The blocks of the message are its texts. -/
theorem textBlocks_map_textBlock (htexts : ∀ text ∈ texts, strip text = text ∧ text ≠ []) :
    textBlocks (texts.map textBlock) = texts := by
  induction texts with
  | nil => rfl
  | cons text rest ih =>
    rw [List.forall_mem_cons] at htexts
    have htype : ∀ value, PyValue.lookupKey [(.str (lit "type"), .str (lit "text")),
        (.str (lit "text"), value)] (lit "type") = some (.str (lit "text")) := fun _ => rfl
    have htext : ∀ value, PyValue.lookupKey [(.str (lit "type"), .str (lit "text")),
        (.str (lit "text"), value)] (lit "text") = some value := fun _ => rfl
    rw [List.map_cons, textBlocks, List.filterMap_cons_some (b := text), ← textBlocks, ih htexts.2]
    simp [textBlock, PyValue.mapping?, htype, htext, PyValue.isText, htexts.1.1, htexts.1.2]

/-- Text blocks have no images. -/
theorem collectImages_map_textBlock (texts : List PyStr) :
    collectImages library [] 0 (texts.map textBlock) = .ok [] := by
  induction texts with
  | nil => rfl
  | cons text rest ih =>
    rw [List.map_cons, collectImages]
    exact ih

/-- The message is prompted with, where it has a text. -/
theorem exists_prompt_textMessage (htexts : ∀ text ∈ texts, strip text = text ∧ text ≠ [])
    (hsome : texts ≠ []) : ∃ prompt,
      buildSdkTurnInput library (.list [textMessage texts]) = .ok (some prompt) := by
  have hprompt : buildSdkTurnInput library (.list [textMessage texts]) =
      (collectImages library [] 0 (texts.map textBlock)).map (fun images =>
        if images.isEmpty then (boundedTurnText (.list (texts.map textBlock))).map .text
        else some (.rich ((boundedTurnText (.list (texts.map textBlock))).getD
          (lit "What do you see in this image?")) images)) := rfl
  have hblocks : ∀ block ∈ texts, Begins block := by
    intro block hblock
    apply begins_of_trimmed
    · rw [← (htexts block hblock).1]
      exact trimmed_strip block
    · exact (htexts block hblock).2
  have hne : strip ((lit "\n").intercalate (boundedParts 0 texts)) ≠ [] := by
    intro hempty
    have hlength := length_strip_joined (begins_boundedParts hblocks 0)
    rw [hempty, flatten_boundedParts, length_boundedParts] at hlength
    cases texts with
    | nil => exact hsome rfl
    | cons text rest =>
      rcases hblocks text List.mem_cons_self with ⟨c, tail, rfl, hc⟩
      have hmem : c ∈ ((c :: tail) :: rest).flatten.take (maxTurnText - 0) := by
        rw [List.flatten_cons, List.cons_append, maxTurnText, List.take_succ_cons]
        exact List.mem_cons_self
      have hlt := trailing_lt_length hmem hc
      rw [List.length_nil] at hlength
      omega
  have htext : boundedTurnText (.list (texts.map textBlock)) =
      some (strip ((lit "\n").intercalate (boundedParts 0 texts))) := by
    rw [boundedTurnText.eq_def]
    simp only [PyValue.sequence?, textBlocks_map_textBlock htexts]
    rw [if_neg (by simpa using hne)]
  rw [hprompt, collectImages_map_textBlock, htext]
  exact ⟨_, rfl⟩

end TextMessage

open ClaudeAgentSDKRuntime

/-- A short text is prompted with, and is within the bound. -/
theorem turn_text_bounded_iff_short : ∃ prompt,
    buildSdkTurnInput textOnlyContext.library (.list [textMessage [lit "hi"]]) = .ok (some prompt) ∧
    (prompt.body.length ≤ maxTurnText ↔
      ∀ blocks, lastBlocks (.list [textMessage [lit "hi"]]) = some blocks →
        SeparatorsFit (textBlocks blocks)) := by
  have htexts : ∀ text ∈ [lit "hi"], strip text = text ∧ text ≠ [] := by decide
  rcases exists_prompt_textMessage htexts (by simp) with
    ⟨prompt, hprompt⟩
  exact ⟨prompt, hprompt, turn_text_bounded_iff _ _ hprompt⟩

/-- A text of one letter. -/
def letters (n : Nat) : PyStr := List.replicate n 0x61

theorem isSpace_of_mem_letters {n : Nat} {c : CodePoint} (h : c ∈ letters n) : c.isSpace = false := by
  rw [List.eq_of_mem_replicate h]
  decide

/-- Two blocks of which each fills half of the bound. -/
theorem stripped_letters {n : Nat} (hn : n ≠ 0) :
    ∀ text ∈ [letters n, letters n], strip text = text ∧ text ≠ [] := by
  have hletters : strip (letters n) = letters n ∧ letters n ≠ [] :=
    ⟨strip_eq_self fun _ => isSpace_of_mem_letters, by simpa [letters] using hn⟩
  rw [List.forall_mem_cons, List.forall_mem_singleton]
  exact ⟨hletters, hletters⟩

/-- The separator does not fit between two blocks that fill the bound. -/
theorem not_separatorsFit_letters {n : Nat} (hn : n + n = maxTurnText) :
    ¬ SeparatorsFit [letters n, letters n] := by
  have hflat : [letters n, letters n].flatten = letters (n + n) := by
    simp [letters, List.replicate_append_replicate]
  have hlength : (letters (n + n)).length = n + n := List.length_replicate
  have hlast : trailing (letters (n + n)) = 0 := by
    apply trailing_eq_zero
    intro c hc
    exact isSpace_of_mem_letters (List.mem_of_getLast? hc)
  have hpositive : n ≠ 0 := by
    rw [maxTurnText] at hn
    omega
  have hbegin : beginWithin maxTurnText [letters n, letters n] = 2 := by
    apply beginWithin_eq_length
    · intro block hblock
      exact (stripped_letters hpositive block hblock).2
    · rw [hflat, hlength, hn]
  rw [SeparatorsFit, hbegin, hflat, List.take_of_length_le (by omega), hlast, hlength]
  simp only [List.length_cons, List.length_nil]
  omega

/-- The separator between two blocks that fill the bound is one character too many. -/
theorem turn_text_too_long : ∃ prompt,
    buildSdkTurnInput textOnlyContext.library
      (.list [textMessage [letters 16000, letters 16000]]) = .ok (some prompt) ∧
    maxTurnText < prompt.body.length := by
  have hstripped := stripped_letters (n := 16000) (by omega)
  rcases exists_prompt_textMessage hstripped (by simp) with
    ⟨prompt, hprompt⟩
  refine ⟨prompt, hprompt, ?_⟩
  have hbody := blocks_body_le_iff textOnlyContext.library
    (.list ([letters 16000, letters 16000].map textBlock)) rfl hprompt
  rw [textBlocks_map_textBlock hstripped] at hbody
  have hnot : ¬ SeparatorsFit [letters 16000, letters 16000] := not_separatorsFit_letters rfl
  exact not_le.mp fun hle => hnot (hbody.mp hle)

end HermesClaude.Runtime
