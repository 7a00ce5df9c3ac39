/-
# The images of a turn

An image that comes as base 64 is measured before it is decoded and again afterwards, and is
handed on in the encoding that the standard encoder writes.  The images of a turn are counted
and measured while its blocks are looked at.
-/

import HermesClaude.Library.Base64
import HermesClaude.Runtime.TurnInputErrors

namespace HermesClaude.Runtime

open HermesClaude.Python HermesClaude.Library

/-! ## The standard codec -/

/-- The digits of base 64, less the two that are not letters and digits. -/
def base64Code (n : Nat) : Nat :=
  if n < 26 then 0x41 + n else if n < 52 then 0x61 + (n - 26) else if n < 62 then 0x30 + (n - 52)
  else if n = 62 then 0x2B else 0x2F

/-- The standard alphabet. -/
def standardBase64 : Base64Alphabet CodePoint where
  digit i := Fin.ofNat 0x110000 (base64Code i.val)
  pad := 0x3D
  digit_injective := by
    have hinjective : ∀ i j : Fin 64, base64Code i.val = base64Code j.val → i = j := by decide
    have hlt : ∀ i : Fin 64, base64Code i.val < 0x110000 := by decide
    intro i j h
    apply hinjective
    have hval := congrArg Fin.val h
    simp only [Fin.val_ofNat] at hval
    rwa [Nat.mod_eq_of_lt (hlt i), Nat.mod_eq_of_lt (hlt j)] at hval
  digit_ne_pad := by decide

/-- The codec of the standard library: it writes the standard encoding, and reads it back. -/
structure CorrectCodec (library : ImageLibrary) : Prop where
  encodes : ∀ data, library.b64encode data = standardBase64.encode data
  decodes : ∀ data, library.b64decode (library.b64encode data) = some data

theorem isBase64_digit (i : Fin 64) : isBase64 (standardBase64.digit i) = true := by
  revert i
  decide

section Sources

variable {library : ImageLibrary} {media : PyStr} {data : List UInt8}

/-- What a data URL begins with. -/
def dataUrlStart (media : PyStr) : PyStr := lit "data:" ++ media ++ lit ";base64,"

/-- No beginning of a data URL is the beginning of another one. -/
theorem prefix_dataUrlStart : ∀ media ∈ allowedMediaTypes, ∀ other ∈ allowedMediaTypes,
    (dataUrlStart other).isPrefixOf (dataUrlStart media) = true → other = media := by
  decide

/-- A data URL begins with its own media type only. -/
theorem isPrefixOf_dataUrlStart {other : PyStr} (hmedia : media ∈ allowedMediaTypes)
    (hother : other ∈ allowedMediaTypes) (payload : PyStr) :
    (dataUrlStart other).isPrefixOf (dataUrlStart media ++ payload) = decide (other = media) := by
  have hown : dataUrlStart media <+: dataUrlStart media ++ payload := List.prefix_append _ _
  rw [Bool.eq_iff_iff, decide_eq_true_iff, List.isPrefixOf_iff_prefix]
  constructor
  · intro hstarts
    rcases le_total (dataUrlStart other).length (dataUrlStart media).length with hle | hle
    · have hshort := List.prefix_of_prefix_length_le hstarts hown hle
      exact prefix_dataUrlStart media hmedia other hother (List.isPrefixOf_iff_prefix.mpr hshort)
    · have hshort := List.prefix_of_prefix_length_le hown hstarts hle
      exact (prefix_dataUrlStart other hother media hmedia (List.isPrefixOf_iff_prefix.mpr hshort)).symm
  · intro hsame
    rw [hsame]
    exact hown

/-- A payload that ends in padding is found. -/
theorem dataUrl_append {payload : PyStr} (hmedia : media ∈ allowedMediaTypes)
    (hpads : (payload.dropWhile isBase64).all (· == 0x3D) = true)
    (hlength : (payload.dropWhile isBase64).length ≤ 2) :
    dataUrl (dataUrlStart media ++ payload) = some (media, payload) := by
  rcases List.eq_append_cons_of_mem hmedia with ⟨before, after, hsplit, hfresh⟩
  have hdrop : (dataUrlStart media ++ payload).drop (dataUrlStart media).length = payload :=
    List.drop_left
  refine List.findSome?_eq_some_iff.mpr ⟨before, media, after, hsplit, ?_, ?_⟩
  · change (if (dataUrlStart media).isPrefixOf (dataUrlStart media ++ payload) &&
      (((dataUrlStart media ++ payload).drop (dataUrlStart media).length).dropWhile isBase64).all
        (· == 0x3D) &&
      (((dataUrlStart media ++ payload).drop (dataUrlStart media).length).dropWhile isBase64).length ≤ 2
      then some (media, (dataUrlStart media ++ payload).drop (dataUrlStart media).length) else none) = _
    rw [hdrop, isPrefixOf_dataUrlStart hmedia hmedia, hpads]
    simp [hlength]
  · intro other hother
    have hknown : other ∈ allowedMediaTypes := by
      rw [hsplit]
      exact List.mem_append_left _ hother
    have hne : other ≠ media := fun hsame => hfresh (hsame ▸ hother)
    have hstarts : (lit "data:" ++ other ++ lit ";base64,").isPrefixOf (dataUrlStart media ++ payload) =
        false := by
      have hstart := isPrefixOf_dataUrlStart hmedia hknown payload
      rw [decide_eq_false hne] at hstart
      exact hstart
    dsimp only
    rw [hstarts]
    simp

/-- An encoding fits the pattern of a data URL. -/
theorem dataUrl_encode (hmedia : media ∈ allowedMediaTypes) (data : List UInt8) :
    dataUrl (dataUrlStart media ++ standardBase64.encode data) =
      some (media, standardBase64.encode data) := by
  rcases Base64Alphabet.dropWhile_encode isBase64_digit (by decide) data with ⟨count, hcount, hpadding⟩
  apply dataUrl_append hmedia
  · rw [hpadding, List.all_eq_true]
    intro c hc
    rw [List.eq_of_mem_replicate hc]
    rfl
  · rw [hpadding, List.length_replicate]
    exact hcount

/-- The media type is looked up without an exception. -/
theorem memTexts_of_allowed (hmedia : media ∈ allowedMediaTypes) :
    (PyValue.str media).memTexts allowedMediaTypes = some true := by
  have hany : (allowedMediaTypes.any fun text => (PyValue.str media).isText text) = true :=
    List.any_eq_true.mpr ⟨media, hmedia, PyValue.isText_iff.mpr rfl⟩
  rw [PyValue.memTexts, hany]
  rfl

/-- **Acceptance.** The standard encoding of bytes within the limit is accepted as it is. -/
theorem base64Source_encode (hcodec : CorrectCodec library) (hmedia : media ∈ allowedMediaTypes)
    (hne : data ≠ []) (hle : data.length ≤ maxImageBytes) :
    base64Source library (.str media) (.str (standardBase64.encode data)) = .ok {
      sourceType := lit "base64"
      mediaType := some media
      value := standardBase64.encode data
      decodedBytes := data.length } := by
  have hdecodes : library.b64decode (standardBase64.encode data) = some data := by
    rw [← hcodec.encodes]
    exact hcodec.decodes data
  have hencoded : standardBase64.encode data ≠ [] := Base64Alphabet.encode_ne_nil hne
  have hlength : ¬ (standardBase64.encode data).length > (maxImageBytes + 2) / 3 * 4 := by
    rw [Base64Alphabet.length_encode, not_lt]
    exact Nat.mul_le_mul_right 4 (Nat.div_le_div_right (Nat.add_le_add_right hle 2))
  unfold base64Source
  simp only [memTexts_of_allowed hmedia, hdecodes, hcodec.encodes]
  rw [if_neg (by simpa using hencoded), if_neg hlength, if_neg (by simpa using hne), if_neg (by omega)]

/-- What an accepted base-64 source says. -/
theorem base64Source_eq_ok {mediaType value : PyValue} {image : SDKImageSource}
    (h : base64Source library mediaType value = .ok image) :
    image.sourceType = lit "base64" ∧ ∃ media encoded data, mediaType = .str media ∧
      value = .str encoded ∧ media ∈ allowedMediaTypes ∧ image.mediaType = some media ∧
      library.b64decode encoded = some data ∧ image.value = library.b64encode data ∧
      image.decodedBytes = data.length ∧ data ≠ [] ∧ data.length ≤ maxImageBytes := by
  unfold base64Source at h
  split at h
  · cases h
  · next media encoded hmem =>
    have hallowed : media ∈ allowedMediaTypes := by
      rcases List.any_eq_true.mp (Option.some.inj hmem) with ⟨text, htext, hsame⟩
      rw [PyValue.isText_iff, PyValue.str.injEq] at hsame
      exact hsame ▸ htext
    split_ifs at h
    · cases h
    · cases h
    · split at h
      · cases h
      · next data hdata =>
        split_ifs at h with hempty hlarge
        · cases h
        · cases h
        · cases h
          exact ⟨rfl, media, encoded, data, rfl, rfl, hallowed, rfl, hdata, rfl, rfl,
            by simpa using hempty, by omega⟩
  · cases h

/-- A URL has no bytes. -/
theorem urlSource_eq_ok {value : PyValue} {image : SDKImageSource}
    (h : urlSource library value = .ok image) :
    image.sourceType = lit "url" ∧ image.decodedBytes = 0 := by
  cases value with
  | str url =>
    rw [urlSource] at h
    split_ifs at h
    · cases h
    · split at h
      · cases h
      · split_ifs at h
        · cases h
        · cases h
          exact ⟨rfl, rfl⟩
  | none | bool _ | int _ | float _ | bytes _ | list _ | tuple _ | set _ | dict _ | object _ _ =>
    cases h

end Sources

/-! ## Image blocks -/

section Blocks

variable {library : ImageLibrary} {block : List (PyValue × PyValue)} {media encoded : PyStr}

/-- The base-64 text that an image block carries, as a data URL or as a source. -/
inductive Carries (block : List (PyValue × PyValue)) (media encoded : PyStr) : Prop
  | url (htype : getItem block "type" = .str (lit "image_url") ∨
        getItem block "type" = .str (lit "input_image"))
      (hurl : blockUrl block = .str (dataUrlStart media ++ encoded))
  | source {source : List (PyValue × PyValue)} (htype : getItem block "type" = .str (lit "image"))
      (hsource : (getItem block "source").mapping? = some source)
      (hkind : getItem source "type" = .str (lit "base64"))
      (hmedia : getItem source "media_type" = .str media)
      (hdata : getItem source "data" = .str encoded)

/-- An image that was accepted from base 64: it is the standard encoding of the bytes that the
block's text decodes to, of which there are some, and not too many. -/
def FromBase64 (library : ImageLibrary) (block : List (PyValue × PyValue)) (image : SDKImageSource) :
    Prop :=
  ∃ media encoded data, Carries block media encoded ∧ media ∈ allowedMediaTypes ∧
    image.mediaType = some media ∧ library.b64decode encoded = some data ∧
    image.value = standardBase64.encode data ∧ library.b64decode image.value = some data ∧
    image.decodedBytes = data.length ∧ data ≠ [] ∧ data.length ≤ maxImageBytes

/-- The image that the bytes of a media type are accepted as. -/
def base64Image (media : PyStr) (data : List UInt8) : SDKImageSource where
  sourceType := lit "base64"
  mediaType := some media
  value := standardBase64.encode data
  decodedBytes := data.length

/-- What a block of one of the two types with a URL is read as. -/
theorem imageSource_of_url
    (hmem : (getItem block "type").memTexts [lit "image_url", lit "input_image"] = some true) :
    imageSource library block =
      match blockUrl block with
      | .str url =>
        match dataUrl url with
        | some (media, payload) => (base64Source library (.str media) (.str payload)).map some
        | none => (urlSource library (.str url)).map some
      | _ => invalid "claude_runtime_image_invalid" := by
  unfold imageSource
  rw [hmem]
  rfl

/-- What a block of the type with a source is read as. -/
theorem imageSource_of_source {source : List (PyValue × PyValue)}
    (htype : getItem block "type" = .str (lit "image"))
    (hsource : (getItem block "source").mapping? = some source) :
    imageSource library block =
      if (getItem source "type").isText (lit "base64") then
        (base64Source library (getItem source "media_type") (getItem source "data")).map some
      else if (getItem source "type").isText (lit "url") then
        (urlSource library (getItem source "url")).map some
      else invalid "claude_runtime_image_invalid" := by
  have hmem : (getItem block "type").memTexts [lit "image_url", lit "input_image"] = some false := by
    rw [htype]
    decide
  have himage : (getItem block "type").isText (lit "image") = true := PyValue.isText_iff.mpr htype
  unfold imageSource
  rw [hmem]
  simp only [himage, hsource]
  rfl

theorem imageSource_encode (hcodec : CorrectCodec library) {data : List UInt8}
    (hmedia : media ∈ allowedMediaTypes) (hne : data ≠ []) (hle : data.length ≤ maxImageBytes)
    (hcarries : Carries block media (standardBase64.encode data)) :
    imageSource library block = .ok (some (base64Image media data)) := by
  have hsource := base64Source_encode hcodec hmedia hne hle
  cases hcarries with
  | url htype hurl =>
    have hmem : (getItem block "type").memTexts [lit "image_url", lit "input_image"] = some true := by
      rcases htype with htype | htype
      · rw [htype]
        decide
      · rw [htype]
        decide
    rw [imageSource_of_url hmem]
    simp only [hurl, dataUrl_encode hmedia, hsource]
    rfl
  | source htype hsourceItem hkind hmediaItem hdata =>
    have hbase64 := PyValue.isText_iff.mpr hkind
    rw [imageSource_of_source htype hsourceItem]
    simp only [hbase64, hmediaItem, hdata, hsource]
    rfl

theorem dataUrl_eq_some {url payload : PyStr} (h : dataUrl url = some (media, payload)) :
    url = dataUrlStart media ++ payload := by
  rcases List.exists_of_findSome?_eq_some h with ⟨other, -, hother⟩
  dsimp only at hother
  split_ifs at hother with hmatches
  cases hother
  simp only [Bool.and_eq_true, List.isPrefixOf_iff_prefix] at hmatches
  rcases hmatches.1.1 with ⟨rest, hrest⟩
  rw [← hrest, List.drop_left]
  rfl

theorem eq_ok_of_map_some {result : Except TurnInputFailure SDKImageSource} {image : SDKImageSource}
    (h : result.map some = .ok (some image)) : result = .ok image := by
  cases result with
  | error failure => cases h
  | ok accepted =>
    cases h
    rfl

/-- What is accepted from a text that the block carries comes from base 64. -/
theorem fromBase64_of_carries (hcodec : CorrectCodec library) {mediaType value : PyValue}
    {image : SDKImageSource} (h : base64Source library mediaType value = .ok image)
    (hcarries : ∀ media encoded, mediaType = .str media → value = .str encoded →
      Carries block media encoded) :
    image.sourceType = lit "base64" ∧ FromBase64 library block image := by
  rcases base64Source_eq_ok h with
    ⟨htype, media, encoded, data, hmedia, hvalue, hallowed, hown, hdecoded, himage, hbytes⟩
  have hencoded : image.value = standardBase64.encode data := himage.trans (hcodec.encodes data)
  have hreads : library.b64decode image.value = some data := by
    rw [himage, hcodec.decodes]
  exact ⟨htype, media, encoded, data, hcarries media encoded hmedia hvalue, hallowed, hown, hdecoded,
    hencoded, hreads, hbytes⟩

/-- Every image that is accepted comes from base 64, or has no bytes. -/
theorem imageSource_eq_ok (hcodec : CorrectCodec library) {image : SDKImageSource}
    (h : imageSource library block = .ok (some image)) :
    image.sourceType = lit "base64" ∧ FromBase64 library block image ∨
      image.sourceType = lit "url" ∧ image.decodedBytes = 0 := by
  cases hmem : (getItem block "type").memTexts [lit "image_url", lit "input_image"] with
  | none =>
    unfold imageSource at h
    rw [hmem] at h
    cases h
  | some isUrl =>
    cases isUrl with
    | true =>
      have htype : getItem block "type" = .str (lit "image_url") ∨
          getItem block "type" = .str (lit "input_image") := by
        unfold PyValue.memTexts at hmem
        split_ifs at hmem
        have hany := Option.some.inj hmem
        simpa [PyValue.isText_iff] using hany
      rw [imageSource_of_url hmem] at h
      split at h
      · next url hurl =>
        split at h
        · next media payload hdata =>
          refine .inl (fromBase64_of_carries hcodec (eq_ok_of_map_some h) ?_)
          intro media' encoded hmedia hencoded
          cases hmedia
          cases hencoded
          exact .url htype (by rw [hurl, dataUrl_eq_some hdata])
        · exact .inr (urlSource_eq_ok (eq_ok_of_map_some h))
      · cases h
    | false =>
      by_cases himage : (getItem block "type").isText (lit "image") = true
      · have htype := PyValue.isText_iff.mp himage
        cases hsource : (getItem block "source").mapping? with
        | none =>
          unfold imageSource at h
          rw [hmem] at h
          simp only [himage, hsource] at h
          cases h
        | some source =>
          rw [imageSource_of_source htype hsource] at h
          split_ifs at h with hbase64 hurl
          · refine .inl (fromBase64_of_carries hcodec (eq_ok_of_map_some h) ?_)
            intro media encoded hmedia hencoded
            exact .source htype hsource (PyValue.isText_iff.mp hbase64) hmedia hencoded
          · exact .inr (urlSource_eq_ok (eq_ok_of_map_some h))
          · cases h
      · unfold imageSource at h
        rw [hmem] at h
        simp only [Bool.not_eq_true _ |>.mp himage] at h
        cases h

end Blocks

/-! ## The images of a message -/

section Turn

variable {library : ImageLibrary}

/-- The loop over the blocks accepts exactly images that are each accepted and together within the
limits, and keeps their order. -/
theorem collectImages_eq_ok (library : ImageLibrary) {images : List SDKImageSource}
    (result : List SDKImageSource) (blocks : List PyValue)
    (hlimits : WithinLimits images) :
    collectImages library images (totalBytes images) blocks = .ok result ↔
      AllAccepted library blocks ∧ WithinLimits (images ++ imagesOf library blocks) ∧
        result = images ++ imagesOf library blocks := by
  induction blocks generalizing images with
  | nil =>
    have hnone : imagesOf library [] = [] := rfl
    rw [collectImages, hnone, List.append_nil, Except.ok.injEq]
    constructor
    · intro h
      exact ⟨List.forall_mem_nil _, hlimits, h.symm⟩
    · intro h
      exact h.2.2.symm
  | cons block blocks ih =>
    have haccepted : AllAccepted library (block :: blocks) ↔
        AllAccepted library [block] ∧ AllAccepted library blocks := by
      rw [AllAccepted, List.forall_mem_cons, AllAccepted, AllAccepted, List.forall_mem_singleton]
    rw [collectImages, haccepted, imagesOf_cons, ← List.append_assoc]
    cases hitems : block.mapping? with
    | none =>
      have hskipped : AllAccepted library [block] := by
        intro other hother items hother'
        rw [List.mem_singleton.mp hother, hitems] at hother'
        cases hother'
      have hnone : imagesOf library [block] = [] := by simp [imagesOf, hitems]
      rw [hnone, List.append_nil]
      simp only [hskipped, true_and]
      exact ih hlimits
    | some items =>
      rw [allAccepted_singleton hitems]
      dsimp only
      cases himage : imageSource library items with
      | error failure => simp
      | ok image =>
        rw [imagesOf_singleton hitems himage]
        have hsome : ∃ accepted, Except.ok (ε := TurnInputFailure) image = .ok accepted := ⟨image, rfl⟩
        simp only [hsome, true_and]
        cases image with
        | none =>
          dsimp only [Option.toList_none]
          rw [List.append_nil]
          exact ih hlimits
        | some image =>
          have htotal : totalBytes images + image.decodedBytes = totalBytes (images ++ [image]) := by
            rw [totalBytes_append]
            simp [totalBytes]
          dsimp only [Option.toList_some]
          rw [htotal]
          by_cases hnext : WithinLimits (images ++ [image])
          · rw [if_neg (not_lt.mpr hnext.1), if_neg (not_lt.mpr hnext.2)]
            exact ih hnext
          · have hnever : ¬ WithinLimits (images ++ [image] ++ imagesOf library blocks) :=
              fun h => hnext h.of_append
            have hrefused : ∀ failure : TurnInputFailure, Except.error failure ≠ .ok result := by
              intro failure h
              cases h
            split_ifs with hcount hbytes
            · exact iff_of_false (hrefused _) fun h => hnever h.2.1
            · exact iff_of_false (hrefused _) fun h => hnever h.2.1
            · exact absurd ⟨not_lt.mp hcount, not_lt.mp hbytes⟩ hnext

/-- The images that the loop collects from the start on. -/
theorem collectImages_start_eq_ok (result : List SDKImageSource) (blocks : List PyValue) :
    collectImages library [] 0 blocks = .ok result ↔
      AllAccepted library blocks ∧ WithinLimits (imagesOf library blocks) ∧
        result = imagesOf library blocks :=
  have hempty : WithinLimits [] := ⟨Nat.zero_le _, Nat.zero_le _⟩
  collectImages_eq_ok library result blocks hempty

/-- Blocks give a prompt with images exactly if they have some, each is accepted and all are within
the limits; the text may be any. -/
theorem collected_rich_iff {images : List SDKImageSource} (blocks : List PyValue) (text : Option PyStr) :
    (∃ body, (collectImages library [] 0 blocks).map (fun images =>
      if images.isEmpty then text.map TurnPrompt.text
      else some (TurnPrompt.rich (text.getD (lit "What do you see in this image?")) images)) =
      .ok (some (TurnPrompt.rich body images))) ↔
    AllAccepted library blocks ∧ WithinLimits (imagesOf library blocks) ∧
      images = imagesOf library blocks ∧ images ≠ [] := by
  constructor
  · intro h
    rcases h with ⟨body, hbody⟩
    cases hresult : collectImages library [] 0 blocks with
    | error failure =>
      rw [hresult] at hbody
      cases hbody
    | ok found =>
      rw [hresult] at hbody
      rcases (collectImages_start_eq_ok found blocks).mp hresult with ⟨haccepted, hlimits, hfound⟩
      have hsome := Except.ok.inj hbody
      dsimp only at hsome
      split_ifs at hsome with hnone
      · rcases Option.map_eq_some_iff.mp hsome with ⟨_, -, hrich⟩
        cases hrich
      · cases hsome
        exact ⟨haccepted, hlimits, hfound, by simpa using hnone⟩
  · intro h
    rcases h with ⟨haccepted, hlimits, rfl, hne⟩
    rw [(collectImages_start_eq_ok _ blocks).mpr ⟨haccepted, hlimits, rfl⟩]
    refine ⟨text.getD (lit "What do you see in this image?"), ?_⟩
    have hnone : (imagesOf library blocks).isEmpty = false := by simpa using hne
    simp [Except.map, hnone]

/-- The message is prompted with images exactly if its blocks are. -/
theorem promptOf_rich_iff {message : List (PyValue × PyValue)} {images : List SDKImageSource} :
    (∃ text, promptOf library message = .ok (some (.rich text images))) ↔
      ∃ blocks, contentBlocks message = some blocks ∧ AllAccepted library blocks ∧
        WithinLimits (imagesOf library blocks) ∧ images = imagesOf library blocks ∧ images ≠ [] := by
  unfold promptOf contentBlocks
  cases getItem message "content" with
  | str s =>
    cases hbody : boundedTurnText (.str s) <;> simp
  | list blocks | tuple blocks =>
    dsimp only [PyValue.sequence?]
    rw [collected_rich_iff]
    simp
  | none | bool _ | int _ | float _ | bytes _ | set _ | dict _ | object _ _ => simp [PyValue.sequence?]

/-- A turn is prompted with images exactly if its last user message is. -/
theorem buildSdkTurnInput_rich_iff {messages : PyValue} {images : List SDKImageSource} :
    (∃ text, buildSdkTurnInput library messages = .ok (some (.rich text images))) ↔
      ∃ blocks, lastBlocks messages = some blocks ∧ AllAccepted library blocks ∧
        WithinLimits (imagesOf library blocks) ∧ images = imagesOf library blocks ∧ images ≠ [] := by
  unfold buildSdkTurnInput lastBlocks
  cases messages.sequence? with
  | none => simp
  | some items =>
    dsimp only
    rw [Option.bind_some]
    cases items.reverse.findSome? userMessage? with
    | none => simp
    | some message =>
      dsimp only
      rw [Option.bind_some, promptOf_rich_iff]

end Turn

/-- **Images.** With a correct codec: the standard encoding of some bytes within the limit is
accepted as it is, alone in a turn too; every accepted image has no bytes or is the standard
encoding of bytes within the limit; and a turn has exactly the images of its blocks, in their order,
where each is accepted and together they are within the limits of a turn. -/
theorem images_accepted_exactly {library : ImageLibrary} (hcodec : CorrectCodec library) :
    (∀ block media data, media ∈ allowedMediaTypes → data ≠ [] → data.length ≤ maxImageBytes →
      Carries block media (standardBase64.encode data) →
      imageSource library block = .ok (some (base64Image media data)) ∧
      ∀ messages, lastBlocks messages = some [.dict block] → ∃ text,
        buildSdkTurnInput library messages = .ok (some (.rich text [base64Image media data]))) ∧
    (∀ block image, imageSource library block = .ok (some image) →
      image.sourceType = lit "base64" ∧ FromBase64 library block image ∨
        image.sourceType = lit "url" ∧ image.decodedBytes = 0) ∧
    ∀ messages images,
      (∃ text, buildSdkTurnInput library messages = .ok (some (.rich text images))) ↔
        ∃ blocks, lastBlocks messages = some blocks ∧ AllAccepted library blocks ∧
          (imagesOf library blocks).length ≤ maxImagesPerTurn ∧
          totalBytes (imagesOf library blocks) ≤ maxTotalImageBytes ∧
          images = imagesOf library blocks ∧ images ≠ [] := by
  refine ⟨?_, ?_, ?_⟩
  · intro block media data hmedia hne hle hcarries
    have himage := imageSource_encode hcodec hmedia hne hle hcarries
    have hitems : (PyValue.dict block).mapping? = some block := rfl
    refine ⟨himage, fun messages hblocks => ?_⟩
    have hone : imagesOf library [.dict block] = [base64Image media data] := imagesOf_singleton hitems himage
    have hbytes : totalBytes [base64Image media data] = data.length := Nat.add_zero _
    have hlimits : WithinLimits [base64Image media data] := by
      refine ⟨(by decide : 1 ≤ 4), ?_⟩
      rw [hbytes]
      exact hle.trans (by decide)
    apply buildSdkTurnInput_rich_iff.mpr
    refine ⟨_, hblocks, (allAccepted_singleton hitems).mpr ⟨_, himage⟩, ?_, hone.symm, List.cons_ne_nil _ _⟩
    rw [hone]
    exact hlimits
  · intro block image himage
    exact imageSource_eq_ok hcodec himage
  · intro messages images
    rw [buildSdkTurnInput_rich_iff]
    simp only [WithinLimits, and_assoc]

/-! ## An accepted image -/

/-- The standard codec, for turns without URLs. -/
def base64Library : ImageLibrary where
  b64decode := standardBase64.decode
  b64encode := standardBase64.encode
  urlsplit := fun _ => none

theorem correctCodec_base64Library : CorrectCodec base64Library where
  encodes _ := rfl
  decodes := Base64Alphabet.decode_encode

/-- An image of four bytes, as hosts send it. -/
def pngBlock : List (PyValue × PyValue) :=
  [(.str (lit "type"), .str (lit "image_url")),
    (.str (lit "image_url"), .dict [(.str (lit "url"), .str (lit "data:image/png;base64,iVBORw=="))])]

theorem images_accepted_exactly_png :
    standardBase64.encode [0x89, 0x50, 0x4E, 0x47] = lit "iVBORw==" ∧
    imageSource base64Library pngBlock =
      .ok (some (base64Image (lit "image/png") [0x89, 0x50, 0x4E, 0x47])) := by
  have hurl : lit "data:image/png;base64,iVBORw==" =
      dataUrlStart (lit "image/png") ++ standardBase64.encode [0x89, 0x50, 0x4E, 0x47] := by decide
  refine ⟨by decide, ?_⟩
  exact ((images_accepted_exactly correctCodec_base64Library).1 pngBlock (lit "image/png")
    [0x89, 0x50, 0x4E, 0x47] (by decide) (by simp) (by decide)
    (.url (.inl rfl) (congrArg PyValue.str hurl))).1

end HermesClaude.Runtime
