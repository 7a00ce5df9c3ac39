/-
# The prompt of a turn

Hermes hands the runtime a conversation, and the prompt of the turn is its last user
message: bounded text, or text with images in one of the shapes hosts use.  A message
that is malformed in a way the module knows is a validation error with a code; the
module also has ways to fail that it does not know, which are kept apart here because
they leave the runtime as they are.

Base64 and URL parsing belong to the standard library.
-/

import HermesClaude.Python.Value

namespace HermesClaude.Runtime

open HermesClaude.Python

/-- `MAX_TURN_TEXT`. -/
def maxTurnText : Nat := 32000

/-- `MAX_IMAGES_PER_TURN`. -/
def maxImagesPerTurn : Nat := 4

/-- `MAX_IMAGE_BYTES`. -/
def maxImageBytes : Nat := 5 * 1024 * 1024

/-- `MAX_TOTAL_IMAGE_BYTES`. -/
def maxTotalImageBytes : Nat := 8 * 1024 * 1024

/-- `MAX_IMAGE_URL_LENGTH`. -/
def maxImageUrlLength : Nat := 2048

/-- What `urlsplit` finds in a URL, as far as it is looked at. -/
structure SplitUrl where
  scheme : PyStr
  netloc : PyStr
  hasUsername : Bool
  hasPassword : Bool

/-- The parts of the standard library that image sources rest on. -/
structure ImageLibrary where
  /-- `base64.b64decode(value, validate=True)`, or `none` where it raises. -/
  b64decode : PyStr → Option (List UInt8)
  /-- `base64.b64encode(decoded)`. -/
  b64encode : List UInt8 → PyStr
  /-- `urlsplit(value)`, or `none` where it raises. -/
  urlsplit : PyStr → Option SplitUrl

/-- How building a prompt fails. -/
inductive TurnInputFailure
  | /-- `TurnInputValidationError(code)`. -/
    validation (code : String)
  | /-- Any other exception. -/
    escaped
  deriving DecidableEq

/-- `SDKImageSource`. -/
structure SDKImageSource where
  sourceType : PyStr
  mediaType : Option PyStr := none
  value : PyStr
  decodedBytes : Nat := 0

/-- What a turn is prompted with: text, or an `SDKTurnInput`. -/
inductive TurnPrompt
  | text (s : PyStr)
  | rich (s : PyStr) (images : List SDKImageSource)

/-- `_ALLOWED_MEDIA_TYPES`. -/
def allowedMediaTypes : List PyStr := ["image/gif", "image/jpeg", "image/png", "image/webp"].map lit

/-- The text blocks of a message that count, stripped. -/
def textBlocks (content : List PyValue) : List PyStr :=
  content.filterMap fun block =>
    match block.mapping? with
    | none => none
    | some items =>
      if (PyValue.lookupKey items (lit "type")).any fun v => v.isText (lit "text") then
        match PyValue.lookupKey items (lit "text") with
        | some (.str s) => if (strip s).isEmpty then none else some (strip s)
        | _ => none
      else none

/-- The loop of `_bounded_text`, with the number of characters used so far. -/
def boundedParts : Nat → List PyStr → List PyStr
  | _, [] => []
  | used, value :: rest =>
    if maxTurnText ≤ used then []
    else
      let part := value.take (maxTurnText - used)
      part :: boundedParts (used + part.length) rest

/-- `_bounded_text`. -/
def boundedTurnText (content : PyValue) : Option PyStr :=
  match content with
  | .str s => if (strip s).isEmpty then none else some ((strip s).take maxTurnText)
  | _ =>
    match content.sequence? with
    | none => none
    | some blocks =>
      let text := strip ((lit "\n").intercalate (boundedParts 0 (textBlocks blocks)))
      if text.isEmpty then none else some text

/-- A validation error with its code. -/
def invalid {β : Type} (code : String) : Except TurnInputFailure β := .error (.validation code)

/-- `_base64_source`. -/
def base64Source (library : ImageLibrary) (mediaType value : PyValue) :
    Except TurnInputFailure SDKImageSource :=
  match mediaType.memTexts allowedMediaTypes, mediaType, value with
  | none, _, _ => .error .escaped
  | some true, .str media, .str encoded =>
    if encoded.isEmpty then invalid "claude_runtime_image_invalid"
    else if encoded.length > (maxImageBytes + 2) / 3 * 4 then
      invalid "claude_runtime_image_too_large"
    else
      match library.b64decode encoded with
      | none => invalid "claude_runtime_image_invalid"
      | some decoded =>
        if decoded.isEmpty then invalid "claude_runtime_image_invalid"
        else if decoded.length > maxImageBytes then invalid "claude_runtime_image_too_large"
        else .ok {
          sourceType := lit "base64"
          mediaType := some media
          value := library.b64encode decoded
          decodedBytes := decoded.length }
  | some _, _, _ => invalid "claude_runtime_image_invalid"

/-- `_url_source`. -/
def urlSource (library : ImageLibrary) (value : PyValue) :
    Except TurnInputFailure SDKImageSource :=
  match value with
  | .str url =>
    if url.isEmpty || url.length > maxImageUrlLength then invalid "claude_runtime_image_invalid"
    else
      match library.urlsplit url with
      | none => .error .escaped
      | some parsed =>
        if parsed.scheme ≠ lit "https" || parsed.netloc.isEmpty || parsed.hasUsername ||
            parsed.hasPassword then invalid "claude_runtime_image_invalid"
        else .ok { sourceType := lit "url", value := url }
  | _ => invalid "claude_runtime_image_invalid"

/-- A character of base64 text. -/
def isBase64 (c : CodePoint) : Bool :=
  let n := c.val
  (0x41 ≤ n && n ≤ 0x5A) || (0x61 ≤ n && n ≤ 0x7A) || (0x30 ≤ n && n ≤ 0x39) || n == 0x2B ||
    n == 0x2F

/-- `_DATA_URL.fullmatch`, with the media type and the payload. -/
def dataUrl (url : PyStr) : Option (PyStr × PyStr) :=
  allowedMediaTypes.findSome? fun media =>
    let start := lit "data:" ++ media ++ lit ";base64,"
    let payload := url.drop start.length
    let padding := payload.dropWhile isBase64
    if start.isPrefixOf url && padding.all (· == 0x3D) && padding.length ≤ 2 then
      some (media, payload)
    else none

/-- `block.get(key)`. -/
def getItem (items : List (PyValue × PyValue)) (key : String) : PyValue :=
  (PyValue.lookupKey items (lit key)).getD .none

/-- `_image_source`. -/
def imageSource (library : ImageLibrary) (block : List (PyValue × PyValue)) :
    Except TurnInputFailure (Option SDKImageSource) :=
  match (getItem block "type").memTexts [lit "image_url", lit "input_image"] with
  | none => .error .escaped
  | some true =>
    let imageUrl := match (getItem block "image_url").mapping? with
      | some items => getItem items "url"
      | none => getItem block "image_url"
    match imageUrl with
    | .str url =>
      match dataUrl url with
      | some (media, payload) => (base64Source library (.str media) (.str payload)).map some
      | none => (urlSource library (.str url)).map some
    | _ => invalid "claude_runtime_image_invalid"
  | some false =>
    if !(getItem block "type").isText (lit "image") then .ok none
    else
      match (getItem block "source").mapping? with
      | none => invalid "claude_runtime_image_invalid"
      | some source =>
        if (getItem source "type").isText (lit "base64") then
          (base64Source library (getItem source "media_type") (getItem source "data")).map some
        else if (getItem source "type").isText (lit "url") then
          (urlSource library (getItem source "url")).map some
        else invalid "claude_runtime_image_invalid"

/-- The image loop of `build_sdk_turn_input`, with what was collected so far. -/
def collectImages (library : ImageLibrary) :
    List SDKImageSource → Nat → List PyValue → Except TurnInputFailure (List SDKImageSource)
  | images, _, [] => .ok images
  | images, total, block :: rest =>
    match block.mapping? with
    | none => collectImages library images total rest
    | some items =>
      match imageSource library items with
      | .error failure => .error failure
      | .ok none => collectImages library images total rest
      | .ok (some image) =>
        let images := images ++ [image]
        let total := total + image.decodedBytes
        if images.length > maxImagesPerTurn then invalid "claude_runtime_too_many_images"
        else if total > maxTotalImageBytes then invalid "claude_runtime_images_too_large"
        else collectImages library images total rest

/-- The prompt of the last user message. -/
def promptOf (library : ImageLibrary) (message : List (PyValue × PyValue)) :
    Except TurnInputFailure (Option TurnPrompt) :=
  let content := getItem message "content"
  let text := boundedTurnText content
  match content with
  | .str _ => .ok (text.map .text)
  | _ =>
    match content.sequence? with
    | none => .ok none
    | some blocks =>
      (collectImages library [] 0 blocks).map fun images =>
        if images.isEmpty then text.map .text
        else some (.rich (text.getD (lit "What do you see in this image?")) images)

/-- A message of the user, with its items. -/
def userMessage? (message : PyValue) : Option (List (PyValue × PyValue)) :=
  message.mapping?.filter fun items => (getItem items "role").isText (lit "user")

/-- `build_sdk_turn_input`, of the messages of a request. -/
def buildSdkTurnInput (library : ImageLibrary) (messages : PyValue) :
    Except TurnInputFailure (Option TurnPrompt) :=
  match messages.sequence? with
  | none => .ok none
  | some items =>
    match items.reverse.findSome? userMessage? with
    | none => .ok none
    | some message => promptOf library message

/-! ## Copying the conversation -/

/-- An element of an iterable that `dict` takes for one item: two elements, the first
of them hashable. -/
def itemPair? (value : PyValue) : Option (PyValue × PyValue) :=
  match value.iterate with
  | some [key, item] => if key.hashable then some (key, item) else none
  | _ => none

/-- The items `dict(message)` assigns, or `none` where it raises. -/
def dictItems (message : PyValue) : Option (List (PyValue × PyValue)) :=
  match message with
  | .dict items => some items
  | _ => message.iterate.bind fun elements => elements.mapM itemPair?

/-- `[dict(message) for message in request.messages]`, or `none` where it raises. -/
def copyMessages (messages : PyValue) : Option (List (List (PyValue × PyValue))) :=
  messages.iterate.bind fun items => items.mapM dictItems

end HermesClaude.Runtime
