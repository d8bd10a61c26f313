import Solvela.Ledger.Pubkey

/-!
# Message content

A message's content is a text or a list of text and image parts (`vision.rs`). Most readers flatten
it to a text; the image parts are parsed into a remote URL or an inline payload.
-/

namespace Solvela.Protocol

open Solvela.ChannelLedger (textBytes)

/-! ## Text -/

/-- `char::is_whitespace`: the characters with the Unicode property White_Space. -/
def isWhitespace (c : Char) : Bool :=
  let n := c.toNat
  (9 ≤ n && n ≤ 13) || n = 0x20 || n = 0x85 || n = 0xA0 || n = 0x1680 ||
    (0x2000 ≤ n && n ≤ 0x200A) || n = 0x2028 || n = 0x2029 || n = 0x202F || n = 0x205F ||
    n = 0x3000

/-- `str::trim`. -/
def trim (text : List Char) : List Char :=
  ((text.dropWhile isWhitespace).reverse.dropWhile isWhitespace).reverse

/-- `str::strip_prefix`. -/
def stripPrefix? (start text : List Char) : Option (List Char) :=
  if start.isPrefixOf text then some (text.drop start.length) else none

/-- `str::strip_suffix`. -/
def stripSuffix? (ending text : List Char) : Option (List Char) :=
  if ending.isSuffixOf text then some (text.take (text.length - ending.length)) else none

/-- `str::split_once` at a character. -/
def splitOnce (c : Char) (text : List Char) : Option (List Char × List Char) :=
  match text.dropWhile (· ≠ c) with
  | [] => none
  | _ :: rest => some (text.takeWhile (· ≠ c), rest)

/-! ## Images -/

/-- `ImageUrl`. -/
structure ImageUrl where
  url : String
  detail : Option String
deriving DecidableEq

/-- What `UnsupportedScheme` complains of: a media type, or a URL that begins in another way. -/
inductive Unsupported
  | mediaType (mediaType : String)
  | scheme (start : String)
deriving DecidableEq

/-- `ParseImageError`. -/
inductive ParseImageError
  | empty
  | missingComma
  | notBase64
  | emptyPayload
  | tooLarge (len limit : ℕ)
  | unsupportedScheme (offending : Unsupported)
deriving DecidableEq

/-- The text of a `ParseImageError`. The start of a URL is written as `Debug` writes a `str`. -/
def ParseImageError.text (debug : String → String) : ParseImageError → String
  | .empty => "image_url.url is empty"
  | .missingComma => "malformed data URI: missing ',' separator"
  | .notBase64 =>
    "unsupported data URI: only base64-encoded image data URIs are supported " ++
      "(expected ';base64' before the comma)"
  | .emptyPayload => "malformed data URI: empty base64 payload"
  | .tooLarge len limit => s!"image_url.url too large: {len} bytes exceeds the {limit}-byte limit"
  | .unsupportedScheme (.mediaType mediaType) => "unsupported image_url: " ++ mediaType
  | .unsupportedScheme (.scheme start) =>
    "unsupported image_url: expected a 'data:' URI or an http(s) URL, got " ++ debug start

/-- `ParsedImage`. -/
inductive ParsedImage
  | base64 (mediaType data : String)
  | url (url : String)
deriving DecidableEq

/-- `MAX_DATA_URI_BYTES`. -/
def maxDataUriBytes : ℕ := 10 * 1024 * 1024

/-- `SUPPORTED_MEDIA_TYPES`. -/
def supportedMediaTypes : List String := ["image/png", "image/jpeg", "image/webp"]

/-- The part of `ImageUrl::parse` after `data:`. -/
def parseDataUri (rest : List Char) : Except ParseImageError ParsedImage :=
  match splitOnce ',' rest with
  | none => .error .missingComma
  | some (meta', data) =>
    match stripSuffix? ";base64".toList meta' with
    | none => .error .notBase64
    | some base64Meta =>
      let mediaType := if base64Meta.isEmpty then "image/jpeg" else String.ofList base64Meta
      if mediaType ∉ supportedMediaTypes then .error (.unsupportedScheme (.mediaType mediaType))
      else if data.isEmpty then .error .emptyPayload
      else .ok (.base64 mediaType (String.ofList data))

/-- `ImageUrl::parse`. -/
def ImageUrl.parse (image : ImageUrl) : Except ParseImageError ParsedImage :=
  let len := (textBytes image.url).length
  if len > maxDataUriBytes then .error (.tooLarge len maxDataUriBytes)
  else
    let url := trim image.url.toList
    if url.isEmpty then .error .empty
    else
      match stripPrefix? "data:".toList url with
      | some rest => parseDataUri rest
      | none =>
        if "http://".toList.isPrefixOf url || "https://".toList.isPrefixOf url then
          .ok (.url (String.ofList url))
        else .error (.unsupportedScheme (.scheme (String.ofList (url.take 16))))

/-! ## Content -/

/-- `ContentPart`. -/
inductive ContentPart
  | text (value : String)
  | imageUrl (value : ImageUrl)
deriving DecidableEq

/-- `MessageContent`. -/
inductive MessageContent
  | text (value : String)
  | parts (values : List ContentPart)
deriving DecidableEq

/-- The text of a text part. -/
def ContentPart.text? : ContentPart → Option String
  | .text value => some value
  | .imageUrl _ => none

/-- The URL of an image part. -/
def ContentPart.image? : ContentPart → Option ImageUrl
  | .text _ => none
  | .imageUrl value => some value

/-- `MessageContent::as_text`: the text parts, with a space between them. -/
def MessageContent.asText : MessageContent → String
  | .text value => value
  | .parts values => " ".intercalate (values.filterMap ContentPart.text?)

/-- `MessageContent::has_image_parts`. -/
def MessageContent.hasImageParts : MessageContent → Bool
  | .text _ => false
  | .parts values => values.any fun part => part.image?.isSome

/-- `MessageContent::image_urls`. -/
def MessageContent.imageUrls : MessageContent → List ImageUrl
  | .text _ => []
  | .parts values => values.filterMap ContentPart.image?

end Solvela.Protocol
