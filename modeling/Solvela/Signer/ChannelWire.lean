import Solvela.Client.Accepts
import Solvela.Signer.Encoding

/-!
# The voucher on the wire, in TypeScript and in Rust

`channel.ts` of signer-core writes what the gateway reads: the bytes a voucher signs, and the
`PAYMENT-SIGNATURE` header that carries it. The TypeScript side fills a fixed buffer through a
`DataView` and glues its JSON together by hand; the Rust side concatenates slices and derives its
JSON with serde, the payload being an untagged union of three kinds.

`JSON.parse`'s counterpart `serde_json::from_str` is the parameter `parseJson`, base58 encoding is
`bs58Encode`, and `numberText` is what `JSON.stringify` makes of a number.
-/

namespace Solvela.Signer

open Solvela.ChannelLedger Solvela.Channel
open Solvela.Client (PaymentAccept isDigits digitsValue)

/-! ## JSON -/

/-- A JSON value as a text has it: a number is its token. -/
inductive JsonValue
  | null
  | bool (b : Bool)
  | num (token : String)
  | str (s : String)
  | arr (values : List JsonValue)
  | obj (fields : List (String × JsonValue))

/-- The two lower hexadecimal digits of a control character. -/
def hexDigits (n : ℕ) : String := String.ofList [Nat.digitChar (n / 16), Nat.digitChar (n % 16)]

/-- One character of a quoted string. -/
def quoteChar (c : Char) : String :=
  if c = '"' then "\\\""
  else if c = '\\' then "\\\\"
  else if c.toNat = 8 then "\\b"
  else if c.toNat = 9 then "\\t"
  else if c.toNat = 10 then "\\n"
  else if c.toNat = 12 then "\\f"
  else if c.toNat = 13 then "\\r"
  else if c.toNat < 32 then "\\u00" ++ hexDigits c.toNat
  else c.toString

/-- `JSON.stringify` of a string. -/
def quoteJson (s : String) : String := "\"" ++ String.join (s.toList.map quoteChar) ++ "\""

mutual

/-- `JSON.stringify`. -/
def jsonText : JsonValue → String
  | .null => "null"
  | .bool b => if b then "true" else "false"
  | .num token => token
  | .str s => quoteJson s
  | .arr values => "[" ++ elementsText values ++ "]"
  | .obj fields => "\x7b" ++ fieldsText fields ++ "\x7d"

/-- The elements of an array, with commas. -/
def elementsText : List JsonValue → String
  | [] => ""
  | [value] => jsonText value
  | value :: values => jsonText value ++ "," ++ elementsText values

/-- The members of an object, with commas. -/
def fieldsText : List (String × JsonValue) → String
  | [] => ""
  | [(key, value)] => quoteJson key ++ ":" ++ jsonText value
  | (key, value) :: fields => quoteJson key ++ ":" ++ jsonText value ++ "," ++ fieldsText fields

end

/-! ## TypeScript -/

namespace Ts

/-- `assertLen`. -/
def assertLen (bytes : List UInt8) (len : ℕ) (field : String) : Except String Unit :=
  if bytes.length ≠ len then
    .error s!"{field} must be exactly {len} bytes, got {bytes.length}"
  else .ok ()

/-- `assertU64`. -/
def assertU64 (v : ℤ) (field : String) : Except String ℤ :=
  if v < 0 ∨ u64Max < v then .error s!"{field} out of u64 range [0, 2^64-1]: {v}" else .ok v

/-- `TypedArray.prototype.set`. -/
def setBytes (msg : List UInt8) (offset : ℕ) (bytes : List UInt8) : Except String (List UInt8) :=
  if offset + bytes.length ≤ msg.length then
    .ok (msg.take offset ++ bytes ++ msg.drop (offset + bytes.length))
  else .error "offset is out of bounds"

/-- The eight bytes `setBigUint64` writes, lowest first: the value modulo `2 ^ 64`. -/
def bigUint64Bytes (v : ℤ) : List UInt8 :=
  (List.range 8).map fun i => UInt8.ofNat ((v % 2 ^ 64).toNat / 2 ^ (8 * i) % 256)

/-- `DataView.prototype.setBigUint64`, little-endian. -/
def setBigUint64 (msg : List UInt8) (offset : ℕ) (v : ℤ) : Except String (List UInt8) :=
  setBytes msg offset (bigUint64Bytes v)

/-- `VOUCHER_DOMAIN_SEP`, the `DOMAIN_SEP` of `channel.rs`. -/
def voucherDomainSep : List UInt8 := domainSep

/-- `CLOSE_DOMAIN_SEP`. -/
def closeDomainSep : List UInt8 := textBytes "solvela-channel-close-v1"

/-- `VOUCHER_MESSAGE_LEN`. -/
def voucherMessageLen : ℕ := 26 + 32 + 8 + 8 + 8 + 32

/-- `CLOSE_MESSAGE_LEN`. -/
def closeMessageLen : ℕ := 24 + 32

/-- `buildVoucherMessage`. -/
def buildVoucherMessage (channelId32 : List UInt8) (cumulative expirySlot nonce : ℤ)
    (requestDigest32 : List UInt8) : Except String (List UInt8) := do
  assertLen channelId32 32 "channel_id"
  assertLen requestDigest32 32 "request_digest"
  let _ ← assertU64 cumulative "cumulative"
  let _ ← assertU64 expirySlot "expiry_slot"
  let _ ← assertU64 nonce "nonce"
  let msg ← setBytes (List.replicate voucherMessageLen 0) 0 voucherDomainSep
  let msg ← setBytes msg voucherDomainSep.length channelId32
  let msg ← setBigUint64 msg (voucherDomainSep.length + 32) cumulative
  let msg ← setBigUint64 msg (voucherDomainSep.length + 32 + 8) expirySlot
  let msg ← setBigUint64 msg (voucherDomainSep.length + 32 + 8 + 8) nonce
  setBytes msg (voucherDomainSep.length + 32 + 8 + 8 + 8) requestDigest32

/-- `buildCloseMessage`. -/
def buildCloseMessage (channelId32 : List UInt8) : Except String (List UInt8) := do
  assertLen channelId32 32 "channel_id"
  let msg ← setBytes (List.replicate closeMessageLen 0) 0 closeDomainSep
  setBytes msg closeDomainSep.length channelId32

/-- `ChannelVoucherPayloadFields`. -/
structure ChannelVoucherPayloadFields where
  channelIdB58 : String
  cumulativeAtomic : ℤ
  expirySlot : ℤ
  nonce : ℤ
  requestDigestB64 : String
  signatureB64 : String

/-- `channelVoucherPayloadJson`. -/
def channelVoucherPayloadJson (f : ChannelVoucherPayloadFields) : Except String String := do
  let cumulative ← assertU64 f.cumulativeAtomic "cumulative_atomic"
  let expiry ← assertU64 f.expirySlot "expiry_slot"
  let nonce ← assertU64 f.nonce "nonce"
  .ok ("\x7b\"channel_id\":" ++ quoteJson f.channelIdB58 ++ ",\"cumulative_atomic\":" ++
    toString cumulative ++ ",\"expiry_slot\":" ++ toString expiry ++ ",\"nonce\":" ++
    toString nonce ++ ",\"request_digest\":" ++ quoteJson f.requestDigestB64 ++
    ",\"signature\":" ++ quoteJson f.signatureB64 ++ "\x7d")

/-- `ChannelPaymentHeaderParams`. -/
structure ChannelPaymentHeaderParams where
  accept : PaymentAccept
  resourceUrl : String
  channelId32 : List UInt8
  cumulative : ℤ
  expirySlot : ℤ
  nonce : ℤ
  requestDigest32 : List UInt8
  signature64 : List UInt8

/-- `X402_VERSION_CLIENT`. -/
def x402VersionClient : ℕ := 2

section
variable (bs58Encode : List UInt8 → String) (numberText : ℚ → String)

/-- The `accepted` object: the scheme is forced, and `escrow_program_id` left out. -/
def acceptedValue (accept : PaymentAccept) : JsonValue :=
  .obj [("scheme", .str "channel"), ("network", .str accept.network),
    ("amount", .str accept.amount), ("asset", .str accept.asset), ("pay_to", .str accept.payTo),
    ("max_timeout_seconds", .num (numberText accept.maxTimeoutSeconds))]

/-- The `resource` object. -/
def resourceValue (url : String) : JsonValue :=
  .obj [("url", .str url), ("method", .str "POST")]

/-- The JSON text of the header. -/
def headerJson (params : ChannelPaymentHeaderParams) (payloadJson : String) : String :=
  "\x7b\"x402_version\":" ++ toString x402VersionClient ++ ",\"resource\":" ++
    jsonText (resourceValue params.resourceUrl) ++ ",\"accepted\":" ++
    jsonText (acceptedValue numberText params.accept) ++ ",\"payload\":" ++ payloadJson ++ "\x7d"

/-- `buildChannelPaymentHeader`. -/
def buildChannelPaymentHeader (params : ChannelPaymentHeaderParams) : Except String String := do
  assertLen params.channelId32 32 "channel_id"
  assertLen params.requestDigest32 32 "request_digest"
  assertLen params.signature64 64 "signature"
  let payloadJson ← channelVoucherPayloadJson
    { channelIdB58 := bs58Encode params.channelId32, cumulativeAtomic := params.cumulative
      expirySlot := params.expirySlot, nonce := params.nonce
      requestDigestB64 := base64Encode params.requestDigest32
      signatureB64 := base64Encode params.signature64 }
  .ok (base64Encode (textBytes (headerJson numberText params payloadJson)))

end

end Ts

/-! ## Rust -/

/-- `CLOSE_DOMAIN_SEP`. -/
def closeDomainSep : List UInt8 := textBytes "solvela-channel-close-v1"

/-- `build_close_message`. -/
def buildCloseMessage (channelId : Pubkey) : List UInt8 := closeDomainSep ++ channelId.toList

/-- `Resource`. -/
structure Resource where
  url : String
  method : String

/-- `PaymentAccept` of the protocol crate. -/
structure Accepted where
  scheme : String
  network : String
  amount : String
  asset : String
  payTo : String
  maxTimeoutSeconds : ℕ
  escrowProgramId : Option String

/-- `PayloadData`. -/
inductive PayloadData
  | escrow (depositTx serviceId agentPubkey : String)
  | channel (voucher : ChannelVoucherPayload)
  | direct (transaction : String)

/-- `PaymentPayload`. -/
structure PaymentPayload where
  x402Version : ℕ
  resource : Resource
  accepted : Accepted
  payload : PayloadData

/-- The value of a member. -/
def fieldOf : List (String × JsonValue) → String → Option JsonValue
  | [], _ => none
  | (name, value) :: fields, key => if name = key then some value else fieldOf fields key

/-- None of the struct's fields stands twice, and where unknown ones are denied there are none. -/
def keysOk (denyUnknown : Bool) (known keys : List String) : Bool :=
  (known.all fun key => keys.count key ≤ 1) &&
    (!denyUnknown || keys.all fun key => known.contains key)

/-- The fields of a struct: by their names in an object, by their places in an array. -/
def structFields (denyUnknown : Bool) (known : List String) :
    JsonValue → Option (String → Option JsonValue)
  | .obj fields =>
    if keysOk denyUnknown known (fields.map Prod.fst) then some (fieldOf fields) else none
  | .arr values => if values.length ≤ known.length then some (fieldOf (known.zip values)) else none
  | _ => none

/-- A required `String`. -/
def stringField : Option JsonValue → Option String
  | some (.str s) => some s
  | _ => none

/-- A required unsigned integer up to `max`: an integer token in range. -/
def unsignedField (max : ℕ) : Option JsonValue → Option ℕ
  | some (.num token) =>
    if isDigits token.toList = true ∧ digitsValue token.toList ≤ max then
      some (digitsValue token.toList)
    else none
  | _ => none

/-- An `Option<String>` with a default. -/
def optionStringField : Option JsonValue → Option (Option String)
  | none | some .null => some none
  | some (.str s) => some (some s)
  | _ => none

/-- `Resource`, read. -/
def resourceOfJson (j : JsonValue) : Option Resource := do
  let get ← structFields true ["url", "method"] j
  let url ← stringField (get "url")
  let method ← stringField (get "method")
  some ⟨url, method⟩

/-- `PaymentAccept`, read. -/
def acceptedOfJson (j : JsonValue) : Option Accepted := do
  let get ← structFields true ["scheme", "network", "amount", "asset", "pay_to",
    "max_timeout_seconds", "escrow_program_id"] j
  let scheme ← stringField (get "scheme")
  let network ← stringField (get "network")
  let amount ← stringField (get "amount")
  let asset ← stringField (get "asset")
  let payTo ← stringField (get "pay_to")
  let maxTimeoutSeconds ← unsignedField u64Max (get "max_timeout_seconds")
  let escrowProgramId ← optionStringField (get "escrow_program_id")
  some ⟨scheme, network, amount, asset, payTo, maxTimeoutSeconds, escrowProgramId⟩

/-- `EscrowPayload`, read. -/
def escrowOfJson (j : JsonValue) : Option PayloadData := do
  let get ← structFields true ["deposit_tx", "service_id", "agent_pubkey"] j
  let depositTx ← stringField (get "deposit_tx")
  let serviceId ← stringField (get "service_id")
  let agentPubkey ← stringField (get "agent_pubkey")
  some (.escrow depositTx serviceId agentPubkey)

/-- `ChannelVoucherPayload`, read. -/
def channelOfJson (j : JsonValue) : Option PayloadData := do
  let get ← structFields true ["channel_id", "cumulative_atomic", "expiry_slot", "nonce",
    "request_digest", "signature"] j
  let channelId ← stringField (get "channel_id")
  let cumulativeAtomic ← unsignedField u64Max (get "cumulative_atomic")
  let expirySlot ← unsignedField u64Max (get "expiry_slot")
  let nonce ← unsignedField u64Max (get "nonce")
  let requestDigest ← stringField (get "request_digest")
  let signature ← stringField (get "signature")
  some (.channel ⟨channelId, cumulativeAtomic, expirySlot, nonce, requestDigest, signature⟩)

/-- `SolanaPayload`, read. -/
def directOfJson (j : JsonValue) : Option PayloadData := do
  let get ← structFields true ["transaction"] j
  let transaction ← stringField (get "transaction")
  some (.direct transaction)

/-- `PayloadData`, read: untagged, the first variant that fits. -/
def payloadOfJson (j : JsonValue) : Option PayloadData :=
  escrowOfJson j <|> channelOfJson j <|> directOfJson j

/-- `PaymentPayload`, read. -/
def paymentPayloadOfJson (j : JsonValue) : Option PaymentPayload := do
  let get ← structFields true ["x402_version", "resource", "accepted", "payload"] j
  let x402Version ← unsignedField 255 (get "x402_version")
  let resource ← resourceOfJson (← get "resource")
  let accepted ← acceptedOfJson (← get "accepted")
  let payload ← payloadOfJson (← get "payload")
  some ⟨x402Version, resource, accepted, payload⟩

/-! ### The canonical envelope -/

/-- `CanonicalAccept`, as far as the mapping reads it. -/
def canonicalAcceptOfJson (j : JsonValue) : Option Accepted := do
  let get ← structFields false ["scheme", "network", "amount", "asset", "payTo",
    "maxTimeoutSeconds", "extra"] j
  let scheme ← stringField (get "scheme")
  let network ← stringField (get "network")
  let amount ← stringField (get "amount")
  let asset ← stringField (get "asset")
  let payTo ← stringField (get "payTo")
  let maxTimeoutSeconds ← unsignedField u64Max (get "maxTimeoutSeconds")
  some ⟨scheme, network, amount, asset, payTo, maxTimeoutSeconds, none⟩

/-- `CanonicalResource`: its url. -/
def canonicalResourceOfJson (j : JsonValue) : Option String := do
  let get ← structFields false ["url", "description", "mimeType"] j
  let url ← stringField (get "url")
  let _ ← optionStringField (get "description")
  let _ ← optionStringField (get "mimeType")
  some url

/-- `CanonicalProof`: a transaction, or the signature of one the client sent itself. -/
def canonicalProofOfJson (j : JsonValue) : Option (Option String) :=
  (do
    let get ← structFields true ["transaction"] j
    let transaction ← stringField (get "transaction")
    some (some transaction)) <|>
  (do
    let get ← structFields true ["signature"] j
    let _ ← stringField (get "signature")
    some none)

/-- An `Option` field with a default. -/
def optionField {α : Type} (read : JsonValue → Option α) : Option JsonValue → Option (Option α)
  | none | some .null => some none
  | some j => (read j).map some

/-- `CanonicalPaymentEnvelope`. -/
structure CanonicalPaymentEnvelope where
  x402Version : ℕ
  accepted : Option Accepted
  resource : Option String
  proof : Option String

/-- `CanonicalPaymentEnvelope`, read. -/
def canonicalEnvelopeOfJson (j : JsonValue) : Option CanonicalPaymentEnvelope := do
  let get ← structFields false ["scheme", "network", "x402Version", "accepted", "resource",
    "payload", "extensions"] j
  let _ ← optionStringField (get "scheme")
  let _ ← optionStringField (get "network")
  let x402Version ← unsignedField u64Max (get "x402Version")
  let accepted ← optionField canonicalAcceptOfJson (get "accepted")
  let resource ← optionField canonicalResourceOfJson (get "resource")
  let proof ← canonicalProofOfJson (← get "payload")
  some ⟨x402Version, accepted, resource, proof⟩

/-- `into_payment_payload`. -/
def CanonicalPaymentEnvelope.intoPaymentPayload (e : CanonicalPaymentEnvelope) :
    Except String PaymentPayload :=
  if e.x402Version ≠ 2 then
    .error (s!"unsupported x402Version {e.x402Version}; this gateway accepts canonical x402 " ++
      "version 2")
  else
    match e.accepted with
    | none => .error "canonical payment envelope is missing the `accepted` object"
    | some accepted =>
      if accepted.scheme ≠ "exact" then
        .error ("unsupported scheme '" ++ String.ofList (accepted.scheme.toList.take 32) ++
          "' on the canonical x402 surface; only 'exact' is accepted")
      else
        match e.resource with
        | none =>
          .error ("canonical payment envelope is missing the `resource` object; echo the " ++
            "resource from the PAYMENT-REQUIRED challenge")
        | some url =>
          match e.proof with
          | none =>
            .error ("unsupported payment proof: only a signed `transaction` is accepted (the " ++
              "gateway broadcasts after delivery; client-broadcast `signature` proofs are not " ++
              "supported)")
          | some transaction => .ok ⟨2, ⟨url, "POST"⟩, accepted, .direct transaction⟩

/-! ### The header -/

/-- The URL-safe alphabet, read as the standard one. -/
def base64UrlDecode (text : List UInt8) : Option (List UInt8) :=
  if text.any fun b => b.toNat = '+'.toNat || b.toNat = '/'.toNat then none
  else
    base64Decode (text.map fun b =>
      if b.toNat = '-'.toNat then UInt8.ofNat '+'.toNat
      else if b.toNat = '_'.toNat then UInt8.ofNat '/'.toNat
      else b)

section
variable (parseJson : String → Option JsonValue)

/-- `parse_payment_json`. -/
def parsePaymentJson (text : String) : Option (Except String PaymentPayload) :=
  match (parseJson text).bind paymentPayloadOfJson with
  | some payload => some (.ok payload)
  | none =>
    ((parseJson text).bind canonicalEnvelopeOfJson).map fun envelope =>
      envelope.intoPaymentPayload.mapError ("canonical x402 payment rejected: " ++ ·)

/-- `decode_payment_header`: standard base64, URL-safe base64, or raw JSON. -/
def decodePaymentHeader (header : String) : Except String PaymentPayload :=
  match ((base64Decode (textBytes header)).bind fromUtf8).bind (parsePaymentJson parseJson) with
  | some result => result
  | none =>
    match ((base64UrlDecode (textBytes header)).bind fromUtf8).bind
        (parsePaymentJson parseJson) with
    | some result => result
    | none =>
      match parsePaymentJson parseJson header with
      | some result => result
      | none => .error "unable to decode payment header: not valid base64 or JSON"

end

end Solvela.Signer
