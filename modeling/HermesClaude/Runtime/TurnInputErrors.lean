/-
# Errors of turn input

Building a prompt raises its own validation error, or an exception that nobody expects: a
membership test of a value without a hash, or a URL that the parser of the standard library
refuses.  The caller catches the first kind only, so that the second one ends the turn
without an event.
-/

import HermesClaude.Runtime.Invariants

namespace HermesClaude.Runtime

open HermesClaude.Python

section Sources

variable {library : ImageLibrary}

/-- `urlsplit` does not raise, where it is called. -/
def urlParses (library : ImageLibrary) : PyValue → Bool
  | .str url =>
    url.isEmpty || url.length > maxImageUrlLength || (library.urlsplit url).isSome
  | _ => true

/-- The URL of an image block: the field itself, or the `url` in it. -/
def blockUrl (block : List (PyValue × PyValue)) : PyValue :=
  match (getItem block "image_url").mapping? with
  | some items => getItem items "url"
  | none => getItem block "image_url"

/-- An image URL that is no data URL can be parsed. -/
def imageUrlParses (library : ImageLibrary) : PyValue → Bool
  | .str url => (dataUrl url).isSome || urlParses library (.str url)
  | _ => true

/-- The source of an image can be looked at: its media type has a hash, its URL is parsed. -/
def sourceParses (library : ImageLibrary) (source : List (PyValue × PyValue)) : Bool :=
  if (getItem source "type").isText (lit "base64") then (getItem source "media_type").hashable
  else if (getItem source "type").isText (lit "url") then urlParses library (getItem source "url")
  else true

/-- A block can be looked at without an unexpected exception. -/
def blockParses (library : ImageLibrary) (block : List (PyValue × PyValue)) : Bool :=
  match (getItem block "type").memTexts [lit "image_url", lit "input_image"] with
  | none => false
  | some true => imageUrlParses library (blockUrl block)
  | some false =>
    !(getItem block "type").isText (lit "image") ||
      (getItem block "source").mapping?.all (sourceParses library)

theorem memTexts_eq_none {value : PyValue} (texts : List PyStr) :
    value.memTexts texts = none ↔ value.hashable = false := by
  unfold PyValue.memTexts
  split_ifs with h
  · simp [h]
  · simpa using h

theorem base64Source_escaped_iff (mediaType value : PyValue) :
    base64Source library mediaType value = .error .escaped ↔ mediaType.hashable = false := by
  rw [← memTexts_eq_none allowedMediaTypes]
  unfold base64Source
  split
  next hnone => simp [hnone]
  next media encoded hsome =>
    simp only [hsome]
    split_ifs <;> try simp [invalid]
    split <;> try simp
    split_ifs <;> simp
  next hsome => simp [hsome, invalid]

theorem urlSource_escaped_iff (value : PyValue) :
    urlSource library value = .error .escaped ↔ urlParses library value = false := by
  cases value with
  | str url =>
    rw [urlSource, urlParses]
    by_cases hbounds : (url.isEmpty || decide (url.length > maxImageUrlLength)) = true
    · rw [if_pos hbounds, hbounds]
      simp [invalid]
    · rw [if_neg hbounds, Bool.not_eq_true _ |>.mp hbounds]
      cases library.urlsplit url with
      | none => simp
      | some parsed =>
        dsimp only
        split_ifs <;> simp [invalid]
  | _ => simp [urlSource, urlParses, invalid]

theorem map_some_escaped_iff {source : Except TurnInputFailure SDKImageSource} :
    source.map some = .error .escaped ↔ source = .error .escaped := by
  cases source <;> simp [Except.map]

theorem imageUrl_escaped_iff (block : List (PyValue × PyValue)) :
    (match blockUrl block with
      | .str url =>
        match dataUrl url with
        | some (media, payload) => (base64Source library (.str media) (.str payload)).map some
        | none => (urlSource library (.str url)).map some
      | _ => invalid "claude_runtime_image_invalid") = .error .escaped ↔
      imageUrlParses library (blockUrl block) = false := by
  cases blockUrl block with
  | str url =>
    rw [imageUrlParses]
    dsimp only
    cases dataUrl url with
    | none =>
      dsimp only
      rw [map_some_escaped_iff, urlSource_escaped_iff, Option.isSome_none, Bool.false_or]
    | some data =>
      dsimp only
      rw [map_some_escaped_iff, base64Source_escaped_iff]
      simp [PyValue.hashable]
  | _ => simp [imageUrlParses, invalid]

/-- An image block raises an unexpected exception exactly if it cannot be looked at. -/
theorem imageSource_escaped_iff (block : List (PyValue × PyValue)) :
    imageSource library block = .error .escaped ↔ blockParses library block = false := by
  unfold imageSource blockParses
  cases (getItem block "type").memTexts [lit "image_url", lit "input_image"] with
  | none => simp
  | some isUrl =>
    cases isUrl with
    | true => exact imageUrl_escaped_iff block
    | false =>
      dsimp only
      by_cases himage : (getItem block "type").isText (lit "image") = true
      · rw [himage, Bool.not_true, if_neg Bool.false_ne_true, Bool.false_or]
        cases (getItem block "source").mapping? with
        | none => simp [invalid]
        | some source =>
          dsimp only
          rw [Option.all_some, sourceParses]
          split_ifs
          · rw [map_some_escaped_iff, base64Source_escaped_iff]
          · rw [map_some_escaped_iff, urlSource_escaped_iff]
          · simp [invalid]
      · rw [Bool.not_eq_true _ |>.mp himage]
        simp

end Sources

/-! ## The loop over the blocks -/

section Blocks

variable {library : ImageLibrary}

/-- The images of blocks that have been accepted. -/
def imagesOf (library : ImageLibrary) (blocks : List PyValue) : List SDKImageSource :=
  blocks.filterMap fun block => block.mapping?.bind fun items =>
    match imageSource library items with
    | .ok image => image
    | .error _ => none

/-- The bytes of several images. -/
def totalBytes (images : List SDKImageSource) : Nat := (images.map SDKImageSource.decodedBytes).sum

theorem totalBytes_append (images images' : List SDKImageSource) :
    totalBytes (images ++ images') = totalBytes images + totalBytes images' := by
  rw [totalBytes, List.map_append, List.sum_append, totalBytes, totalBytes]

theorem imagesOf_cons (block : PyValue) (blocks : List PyValue) :
    imagesOf library (block :: blocks) = imagesOf library [block] ++ imagesOf library blocks := by
  rw [imagesOf, imagesOf, imagesOf, ← List.filterMap_append, List.singleton_append]

/-- Every image block among these is accepted. -/
def AllAccepted (library : ImageLibrary) (blocks : List PyValue) : Prop :=
  ∀ block ∈ blocks, ∀ items, block.mapping? = some items → ∃ image, imageSource library items = .ok image

/-- Images within the limits of a turn. -/
def WithinLimits (images : List SDKImageSource) : Prop :=
  images.length ≤ maxImagesPerTurn ∧ totalBytes images ≤ maxTotalImageBytes

theorem WithinLimits.of_append {images images' : List SDKImageSource}
    (h : WithinLimits (images ++ images')) : WithinLimits images := by
  obtain ⟨hcount, hbytes⟩ := h
  rw [List.length_append] at hcount
  rw [totalBytes_append] at hbytes
  constructor
  · omega
  · omega

/-- A block that cannot be looked at stands behind blocks that are accepted, with images
within the limits. -/
def MeetsUnparsable (library : ImageLibrary) (images : List SDKImageSource) (blocks : List PyValue) :
    Prop :=
  ∃ before block items after, blocks = before ++ block :: after ∧ block.mapping? = some items ∧
    blockParses library items = false ∧ AllAccepted library before ∧
    WithinLimits (images ++ imagesOf library before)

theorem MeetsUnparsable.limits {images : List SDKImageSource} {blocks : List PyValue}
    (h : MeetsUnparsable library images blocks) : WithinLimits images := by
  obtain ⟨before, block, items, after, -, -, -, -, hlimits⟩ := h
  exact hlimits.of_append

theorem meetsUnparsable_cons (images : List SDKImageSource) (block : PyValue) (blocks : List PyValue) :
    MeetsUnparsable library images (block :: blocks) ↔
      (∃ items, block.mapping? = some items ∧ blockParses library items = false ∧
        WithinLimits images) ∨
      AllAccepted library [block] ∧
        MeetsUnparsable library (images ++ imagesOf library [block]) blocks := by
  constructor
  · rintro ⟨before, stop, items, after, hblocks, hitems, hparses, haccepted, hlimits⟩
    cases before with
    | nil =>
      rw [List.nil_append, List.cons.injEq] at hblocks
      obtain ⟨rfl, -⟩ := hblocks
      exact .inl ⟨items, hitems, hparses, hlimits.of_append⟩
    | cons first before =>
      rw [List.cons_append, List.cons.injEq] at hblocks
      obtain ⟨rfl, rfl⟩ := hblocks
      obtain ⟨hfirst, hrest⟩ := List.forall_mem_cons.mp haccepted
      rw [imagesOf_cons, ← List.append_assoc] at hlimits
      refine .inr ⟨?_, before, stop, items, after, rfl, hitems, hparses, hrest, hlimits⟩
      intro other hother
      rw [List.mem_singleton.mp hother]
      exact hfirst
  · rintro (⟨items, hitems, hparses, hlimits⟩ | ⟨hfirst, before, stop, items, after, rfl, hitems, hparses, hrest, hlimits⟩)
    · refine ⟨[], block, items, blocks, rfl, hitems, hparses, ?_, ?_⟩
      · intro other hother
        cases hother
      · simpa [imagesOf] using hlimits
    · refine ⟨block :: before, stop, items, after, rfl, hitems, hparses, ?_, ?_⟩
      · exact List.forall_mem_cons.mpr ⟨hfirst block List.mem_cons_self, hrest⟩
      · rw [imagesOf_cons, ← List.append_assoc]
        exact hlimits

theorem imagesOf_singleton {block : PyValue} {items : List (PyValue × PyValue)}
    (hitems : block.mapping? = some items) {image : Option SDKImageSource}
    (himage : imageSource library items = .ok image) : imagesOf library [block] = image.toList := by
  have hbind : (block.mapping?.bind fun items =>
      match imageSource library items with
      | .ok image => image
      | .error _ => none) = image := by
    rw [hitems, Option.bind_some, himage]
  rw [imagesOf, List.filterMap_cons, hbind, List.filterMap_nil]
  cases image <;> rfl

theorem allAccepted_singleton {block : PyValue} {items : List (PyValue × PyValue)}
    (hitems : block.mapping? = some items) :
    AllAccepted library [block] ↔ ∃ image, imageSource library items = .ok image := by
  constructor
  · intro h
    exact h block List.mem_cons_self items hitems
  · intro h other hother items' hitems'
    rw [List.mem_singleton.mp hother, hitems, Option.some.injEq] at hitems'
    exact hitems' ▸ h

/-- The loop over the blocks ends with an unexpected exception exactly at such a block. -/
theorem collectImages_escaped_iff {images : List SDKImageSource} (blocks : List PyValue)
    (hlimits : WithinLimits images) :
    collectImages library images (totalBytes images) blocks = .error .escaped ↔
      MeetsUnparsable library images blocks := by
  induction blocks generalizing images with
  | nil =>
    rw [collectImages]
    constructor
    · intro h
      cases h
    · rintro ⟨before, block, items, after, hblocks, -⟩
      simp at hblocks
  | cons block blocks ih =>
    rw [collectImages, meetsUnparsable_cons]
    cases hitems : block.mapping? with
    | none =>
      have haccepted : AllAccepted library [block] := by
        intro other hother items hother'
        rw [List.mem_singleton.mp hother, hitems] at hother'
        cases hother'
      have hnone : imagesOf library [block] = [] := by simp [imagesOf, hitems]
      rw [hnone, List.append_nil, ih hlimits]
      simp [haccepted]
    | some items =>
      have hparses : imageSource library items = .error .escaped ↔ blockParses library items = false :=
        imageSource_escaped_iff items
      have hstops : (∃ items', some items = some items' ∧ blockParses library items' = false ∧
          WithinLimits images) ↔ imageSource library items = .error .escaped := by
        rw [hparses]
        constructor
        · rintro ⟨items', hsame, hfalse, -⟩
          cases hsame
          exact hfalse
        · intro hfalse
          exact ⟨items, rfl, hfalse, hlimits⟩
      rw [hstops, allAccepted_singleton hitems]
      dsimp only
      cases himage : imageSource library items with
      | error failure => simp
      | ok image =>
        rw [imagesOf_singleton hitems himage]
        cases image with
        | none =>
          dsimp only [Option.toList_none]
          rw [List.append_nil, ih hlimits]
          simp
        | some image =>
          have htotal : totalBytes images + image.decodedBytes = totalBytes (images ++ [image]) := by
            rw [totalBytes_append]
            simp [totalBytes]
          dsimp only [Option.toList_some]
          rw [htotal]
          by_cases hnext : WithinLimits (images ++ [image])
          · rw [if_neg (not_lt.mpr hnext.1), if_neg (not_lt.mpr hnext.2), ih hnext]
            simp
          · have hnever : ¬ MeetsUnparsable library (images ++ [image]) blocks := fun h => hnext h.limits
            split_ifs with hcount hbytes
            · simp [invalid, hnever]
            · simp [invalid, hnever]
            · exact absurd ⟨not_lt.mp hcount, not_lt.mp hbytes⟩ hnext

end Blocks

/-! ## The prompt -/

section Prompt

variable {library : ImageLibrary}

/-- The blocks of a message, where its content is not a string. -/
def contentBlocks (message : List (PyValue × PyValue)) : Option (List PyValue) :=
  match getItem message "content" with
  | .str _ => none
  | content => content.sequence?

/-- The blocks of the last user message. -/
def lastBlocks (messages : PyValue) : Option (List PyValue) :=
  (messages.sequence?.bind fun items => items.reverse.findSome? userMessage?).bind contentBlocks

/-- Every image block of the last user message that is reached can be looked at: those before
it are accepted, with images within the limits. -/
def ImagesParse (library : ImageLibrary) (messages : PyValue) : Prop :=
  ∀ blocks, lastBlocks messages = some blocks → ∀ before block items after,
    blocks = before ++ block :: after → block.mapping? = some items →
    AllAccepted library before → WithinLimits (imagesOf library before) →
    blockParses library items = true

theorem imagesParse_iff {messages : PyValue} : ImagesParse library messages ↔
    ∀ blocks, lastBlocks messages = some blocks → ¬ MeetsUnparsable library [] blocks := by
  constructor
  · rintro h blocks hblocks ⟨before, block, items, after, hsplit, hitems, hfalse, haccepted, hlimits⟩
    rw [List.nil_append] at hlimits
    rw [h blocks hblocks before block items after hsplit hitems haccepted hlimits] at hfalse
    cases hfalse
  · intro h blocks hblocks before block items after hsplit hitems haccepted hlimits
    by_contra hparses
    apply h blocks hblocks
    refine ⟨before, block, items, after, hsplit, hitems, by simpa using hparses, haccepted, ?_⟩
    rw [List.nil_append]
    exact hlimits

/-- The loop starts without images. -/
theorem collectImages_start_iff (blocks : List PyValue) (f : List SDKImageSource → Option TurnPrompt) :
    (collectImages library [] 0 blocks).map f = .error .escaped ↔ MeetsUnparsable library [] blocks := by
  have hempty : WithinLimits [] := ⟨Nat.zero_le _, Nat.zero_le _⟩
  rw [← collectImages_escaped_iff blocks hempty]
  change _ ↔ collectImages library [] 0 blocks = .error .escaped
  cases collectImages library [] 0 blocks <;> simp [Except.map]

theorem promptOf_escaped_iff (message : List (PyValue × PyValue)) :
    promptOf library message = .error .escaped ↔ ∃ blocks,
      contentBlocks message = some blocks ∧ MeetsUnparsable library [] blocks := by
  unfold promptOf contentBlocks
  cases getItem message "content" with
  | str s => simp
  | list blocks | tuple blocks =>
    dsimp only [PyValue.sequence?]
    rw [collectImages_start_iff]
    simp
  | none | bool _ | int _ | float _ | bytes _ | set _ | dict _ | object _ _ => simp [PyValue.sequence?]

/-- Building a prompt raises nothing but its own error exactly if every image that is
reached can be looked at. -/
theorem buildSdkTurnInput_escaped_iff (messages : PyValue) :
    buildSdkTurnInput library messages = .error .escaped ↔ ¬ ImagesParse library messages := by
  rw [imagesParse_iff]
  unfold buildSdkTurnInput lastBlocks
  cases messages.sequence? with
  | none => simp
  | some items =>
    dsimp only
    rw [Option.bind_some]
    cases items.reverse.findSome? userMessage? with
    | none => simp
    | some message =>
      dsimp only
      rw [Option.bind_some, promptOf_escaped_iff]
      simp

end Prompt

/-! ## The turn -/

section Turns

open ClaudeAgentSDKRuntime

variable {db : UnicodeDatabase}

theorem afterCancel_turn (r : ClaudeAgentSDKRuntime db) {t : Turn db} (ht : t.terminal = false) :
    (r.afterCancel t .errorHandler).turn.isSome = true := by
  rw [afterCancel, ht]
  rfl

theorem cancelSession_turn (r : ClaudeAgentSDKRuntime db) {t : Turn db} (ht : t.terminal = false) :
    (r.cancelSession t .errorHandler).turn.isSome = true := by
  unfold cancelSession
  split
  next => exact afterCancel_turn r ht
  next session hsession =>
    split_ifs
    · exact afterCancel_turn r ht
    · rfl

theorem bindTurn_turn (r : ClaudeAgentSDKRuntime db) {t : Turn db} (ht : t.terminal = false) :
    (r.bindTurn t).turn.isSome = true := by
  unfold bindTurn
  dsimp only
  split
  next => exact cancelSession_turn r ht
  next bridge hbridge =>
    split
    next => exact cancelSession_turn r ht
    next => rfl

/-- Setup never ends the generator: there is always a turn that is suspended. -/
theorem setup_turn (r : ClaudeAgentSDKRuntime db) {t : Turn db} (ht : t.terminal = false)
    (host : RuntimeHost) (answers : StartAnswers) : (r.setup t host answers).turn.isSome = true := by
  have hsetup := setUp_of_setup r t host answers
  generalize r.setup t host answers = s at hsetup ⊢
  cases hsetup with
  | failed same authorization session unbound => exact afterCancel_turn _ ht
  | changed => rfl
  | bound same authorization session count first => exact bindTurn_turn _ ht

/-- A turn whose messages are looked at raises exactly if building its prompt does. -/
theorem proceed_raises_iff (context : RuntimeContext db) {r : ClaudeAgentSDKRuntime db}
    {t : Turn db} (ht : t.terminal = false) {host : RuntimeHost} {answers : StartAnswers}
    (hopen : r.closed = false) (hpoll : answers.poll = .returns (.bool false))
    (hhost : ∀ identity, r.host = some identity → identity = host.identity) :
    (r.proceed context t host answers).turn = none ↔
      buildSdkTurnInput context.library t.request.messages = .error .escaped := by
  have hsame : (r.host.any fun identity => decide (identity ≠ host.identity)) = false := by
    cases hidentity : r.host with
    | none => rfl
    | some identity => simp [hhost identity hidentity]
  rw [proceed, hopen, hpoll, hsame]
  dsimp only
  rw [if_neg Bool.false_ne_true, if_neg Bool.false_ne_true]
  split
  next code hprompt => simp [refuse, suspend, hprompt]
  next hprompt => simp [finish, hprompt]
  next hprompt => simp [refuse, suspend, hprompt]
  next prompt hprompt =>
    have hsome := setup_turn (r.enter t) ht host answers
    simp [Option.isSome_iff_ne_none.mp hsome, hprompt]

end Turns

/-- Building the prompt of any messages raises nothing but a `TurnInputValidationError`
exactly if, in the last user message, every image block behind accepted ones has a type and
a media type with a hash, and a URL that `urlsplit` parses.  The same condition decides
whether a turn of an open runtime is suspended with an event, or ends with an exception. -/
theorem turn_input_errors {db : UnicodeDatabase} (context : RuntimeContext db) :
    (∀ messages, buildSdkTurnInput context.library messages ≠ .error .escaped ↔
      ImagesParse context.library messages) ∧
    ∀ (r : ClaudeAgentSDKRuntime db) request host answers, r.closed = false →
      answers.poll = .returns (.bool false) →
      (∀ identity, r.host = some identity → identity = host.identity) →
      ((r.proceed context (r.newTurn request) host answers).turn ≠ none ↔
        ImagesParse context.library request.messages) := by
  constructor
  · intro messages
    rw [ne_eq, buildSdkTurnInput_escaped_iff, not_not]
  · intro r request host answers hopen hpoll hhost
    have hraises : (r.proceed context (r.newTurn request) host answers).turn = none ↔
        buildSdkTurnInput context.library request.messages = .error .escaped :=
      proceed_raises_iff context rfl hopen hpoll hhost
    rw [ne_eq, hraises, buildSdkTurnInput_escaped_iff, not_not]

open ClaudeAgentSDKRuntime

/-- The turn of a fresh runtime that is asked to say `hi` is not ended by an exception. -/
theorem turn_input_errors_plain :
    (({} : ClaudeAgentSDKRuntime asciiDatabase).proceed textOnlyContext
      (({} : ClaudeAgentSDKRuntime asciiDatabase).newTurn (plainRequest 0 [userMessage])) plainHost
      plainAnswers).turn ≠ none := by
  apply ((turn_input_errors textOnlyContext).2 {} _ _ _ rfl rfl _).mpr
  · intro blocks hblocks
    cases hblocks
  · intro identity hidentity
    cases hidentity

/-- A user message whose only block has a list for its type. -/
def listTypeMessage : PyValue :=
  .dict [(.str (lit "role"), .str (lit "user")),
    (.str (lit "content"), .list [.dict [(.str (lit "type"), .list [])]])]

/-- The type of the block is looked up in a set, which raises: no validation error comes out
of the prompt, and the turn ends with an exception. -/
theorem list_type_escapes :
    buildSdkTurnInput textOnlyContext.library (.list [listTypeMessage]) = .error .escaped ∧
    (({} : ClaudeAgentSDKRuntime asciiDatabase).proceed textOnlyContext
      (({} : ClaudeAgentSDKRuntime asciiDatabase).newTurn (plainRequest 0 [listTypeMessage])) plainHost
      plainAnswers).turn = none :=
  ⟨rfl, rfl⟩

end HermesClaude.Runtime
