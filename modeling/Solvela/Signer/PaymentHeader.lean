import Solvela.Protocol.JsonText
import Solvela.Signer.ChannelParity

/-!
# The payment header, in both dialects

`decode_payment_header` tries three encodings, and in each the legacy payload before the canonical
envelope, whose proof is again a choice of shapes. No JSON value is two of them: the structs deny
unknown members, and where serde takes a struct from an array, the numbers of elements or the first
elements differ.

`serde_json::from_str` stays the parameter `parseJson`. All that is asked of it is that an object
has a brace in its text, and an array a bracket.

* `payload_unambiguous` and `dialects_disjoint`, no value is a payment in two ways;
* `decodePaymentHeader_encodes`, the encodings do not matter;
* `decodePaymentHeader_echo`, `decodePaymentHeader_refused` and `decodePaymentHeader_rejected`, what
  becomes of an envelope.
-/

namespace Solvela.Signer

open Solvela.ChannelLedger Solvela.Channel
open Solvela.Protocol (optField)

/-! ## Writing -/

/-- `Resource`, written. -/
def resourceJson (resource : Resource) : JsonValue :=
  .obj [("url", .str resource.url), ("method", .str resource.method)]

/-- `PaymentAccept`, written. -/
def acceptedJson (accepted : Accepted) : JsonValue :=
  .obj ([("scheme", .str accepted.scheme), ("network", .str accepted.network),
    ("amount", .str accepted.amount), ("asset", .str accepted.asset),
    ("pay_to", .str accepted.payTo),
    ("max_timeout_seconds", .num (toString accepted.maxTimeoutSeconds))] ++
      optField "escrow_program_id" JsonValue.str accepted.escrowProgramId)

/-- `PayloadData`, written: untagged. -/
def payloadJson : PayloadData → JsonValue
  | .escrow depositTx serviceId agentPubkey =>
    .obj [("deposit_tx", .str depositTx), ("service_id", .str serviceId),
      ("agent_pubkey", .str agentPubkey)]
  | .channel voucher => payloadValue voucher
  | .direct transaction => .obj [("transaction", .str transaction)]

/-- `PaymentPayload`, written. -/
def paymentPayloadJson (p : PaymentPayload) : JsonValue :=
  .obj [("x402_version", .num (toString p.x402Version)), ("resource", resourceJson p.resource),
    ("accepted", acceptedJson p.accepted), ("payload", payloadJson p.payload)]

/-- The URL-safe alphabet. -/
def base64UrlEncode (bytes : List UInt8) : String :=
  asciiText <| (base64Chars bytes).map fun b =>
    if b.toNat = '+'.toNat then UInt8.ofNat '-'.toNat
    else if b.toNat = '/'.toNat then UInt8.ofNat '_'.toNat
    else b

/-- The headers that carry a JSON text. -/
inductive Encodes (text : String) : String → Prop
  | standard : Encodes text (base64Encode (textBytes text))
  | urlSafe : Encodes text (base64UrlEncode (textBytes text))
  | raw : Encodes text text

/-- The numbers of a payload are in the ranges of their types. -/
def PayloadData.InRange : PayloadData → Prop
  | .channel voucher =>
    voucher.cumulativeAtomic ≤ u64Max ∧ voucher.expirySlot ≤ u64Max ∧ voucher.nonce ≤ u64Max
  | _ => True

/-- The numbers of a payment are in the ranges of their types. -/
structure PaymentPayload.InRange (p : PaymentPayload) : Prop where
  version : p.x402Version ≤ 255
  timeout : p.accepted.maxTimeoutSeconds ≤ u64Max
  payload : p.payload.InRange

/-! ## The canonical challenge -/

/-- `PaymentRequired`, as far as the canonical challenge is made of it. -/
structure PaymentRequired where
  resource : Resource
  accepts : List Accepted

/-- `CanonicalAccept`. -/
structure CanonicalAccept where
  scheme : String
  network : String
  amount : String
  asset : String
  payTo : String
  maxTimeoutSeconds : ℕ
  extra : Option JsonValue

/-- `CanonicalResource`. -/
structure CanonicalResource where
  url : String
  description : Option String
  mimeType : Option String

/-- `CanonicalPaymentRequired`. -/
structure CanonicalPaymentRequired where
  x402Version : ℕ
  resource : CanonicalResource
  accepts : List CanonicalAccept
  error : Option String

/-- `CANONICAL_X402_VERSION`. -/
def canonicalX402Version : ℕ := 2

/-- An entry on the canonical surface. -/
def canonicalAccept (accept : Accepted) : CanonicalAccept where
  scheme := accept.scheme
  network := accept.network
  amount := accept.amount
  asset := accept.asset
  payTo := accept.payTo
  maxTimeoutSeconds := accept.maxTimeoutSeconds
  extra := some (.obj [("decimals", .num "6")])

/-- `CanonicalPaymentRequired::from_payment_required`: only `exact` entries cross. -/
def CanonicalPaymentRequired.fromPaymentRequired (legacy : PaymentRequired) :
    Option CanonicalPaymentRequired :=
  let accepts := (legacy.accepts.filter fun accept => accept.scheme = "exact").map canonicalAccept
  if accepts.isEmpty then none
  else some ⟨canonicalX402Version, ⟨legacy.resource.url, none, none⟩, accepts, none⟩

/-- `CanonicalAccept`, written: its members. -/
def canonicalAcceptFields (accept : CanonicalAccept) : List (String × JsonValue) :=
  [("scheme", .str accept.scheme), ("network", .str accept.network),
    ("amount", .str accept.amount), ("asset", .str accept.asset), ("payTo", .str accept.payTo),
    ("maxTimeoutSeconds", .num (toString accept.maxTimeoutSeconds))] ++
    optField "extra" id accept.extra

/-- The members that are read of the envelope. -/
def envelopeKeys : List String :=
  ["scheme", "network", "x402Version", "accepted", "resource", "payload", "extensions"]

/-- The members that are read of its `accepted` object. -/
def canonicalAcceptKeys : List String :=
  ["scheme", "network", "amount", "asset", "payTo", "maxTimeoutSeconds", "extra"]

/-- An object that echoes an entry, in any order and with any other members. The entry's own
`extra` may be changed or missing. -/
structure EchoesAccept (accept : CanonicalAccept) (members : List (String × JsonValue)) :
    Prop where
  keys : keysOk false canonicalAcceptKeys (members.map Prod.fst) = true
  echoed : ∀ field ∈ canonicalAcceptFields accept, field.1 ≠ "extra" →
    fieldOf members field.1 = some field.2

/-- A canonical envelope that pays an entry, in any order and with any other members. -/
structure EchoEnvelope (accept : CanonicalAccept) (url transaction : String)
    (fields : List (String × JsonValue)) : Prop where
  keys : keysOk false envelopeKeys (fields.map Prod.fst) = true
  scheme : (optionStringField (fieldOf fields "scheme")).isSome = true
  network : (optionStringField (fieldOf fields "network")).isSome = true
  version : fieldOf fields "x402Version" = some (.num (toString canonicalX402Version))
  accepted : ∃ members, fieldOf fields "accepted" = some (.obj members) ∧
    EchoesAccept accept members
  resource : ∃ value, fieldOf fields "resource" = some value ∧
    canonicalResourceOfJson value = some url
  payload : fieldOf fields "payload" = some (.obj [("transaction", .str transaction)])

/-- An object in the canonical dialect that must not pay: a version other than 2, a scheme other
than `exact`, or a proof with a signature, alone or beside a transaction. -/
def MustReject (fields : List (String × JsonValue)) : Prop :=
  unsignedField u64Max (fieldOf fields "x402Version") ≠ some canonicalX402Version ∨
    (∃ members, fieldOf fields "accepted" = some (.obj members) ∧
      fieldOf members "scheme" ≠ some (.str "exact")) ∨
    ∃ members, fieldOf fields "payload" = some (.obj members) ∧
      "signature" ∈ members.map Prod.fst

/-- What the texts of objects and arrays have. -/
structure Brackets (parseJson : String → Option JsonValue) : Prop where
  object : ∀ text fields, parseJson text = some (.obj fields) → '\x7b' ∈ text.toList
  array : ∀ text values, parseJson text = some (.arr values) → '[' ∈ text.toList

/-! ## One shape at most -/

section Shapes

theorem structFields_some {denyUnknown : Bool} {known : List String} {j : JsonValue}
    {get : String → Option JsonValue} (h : structFields denyUnknown known j = some get) :
    (∃ fields, j = .obj fields ∧ keysOk denyUnknown known (fields.map Prod.fst) = true ∧
      get = fieldOf fields) ∨
    ∃ values, j = .arr values ∧ values.length ≤ known.length ∧
      get = fieldOf (known.zip values) := by
  cases j with
  | obj fields =>
    rw [structFields] at h
    split at h
    · rename_i hok
      exact Or.inl ⟨fields, rfl, hok, (Option.some.inj h).symm⟩
    · cases h
  | arr values =>
    rw [structFields] at h
    split at h
    · rename_i hlen
      exact Or.inr ⟨values, rfl, hlen, (Option.some.inj h).symm⟩
    · cases h
  | null => cases h
  | bool b => cases h
  | num token => cases h
  | str s => cases h

theorem fieldOf_mem {fields : List (String × JsonValue)} {key : String} {value : JsonValue}
    (h : fieldOf fields key = some value) : key ∈ fields.map Prod.fst := by
  by_contra hnot
  rw [fieldOf_none hnot] at h
  cases h

theorem keysOk_mem {known keys : List String} {key : String} (h : keysOk true known keys = true)
    (hkey : key ∈ keys) : key ∈ known := by
  rw [keysOk, Bool.and_eq_true] at h
  have hall : ∀ name ∈ keys, name ∈ known := by simpa using h.2
  exact hall key hkey

/-- A member of an array stands at its place. -/
theorem fieldOf_zip : ∀ {known : List String} {values : List JsonValue} {key : String}
    {value : JsonValue}, fieldOf (known.zip values) key = some value →
      known.idxOf key < values.length := by
  intro known
  induction known with
  | nil =>
    intro values key value h
    cases h
  | cons name known ih =>
    intro values key value h
    cases values with
    | nil => cases h
    | cons first values =>
      rw [List.zip_cons_cons, fieldOf] at h
      by_cases hname : name = key
      · rw [hname, List.idxOf_cons_self]
        exact Nat.succ_pos _
      · rw [if_neg hname] at h
        rw [List.idxOf_cons_ne _ hname, List.length_cons]
        have hrest := ih h
        omega

/-- A value is not two structs, if one denies a member that the other has beyond its length. -/
theorem structFields_conflict {denyUnknown : Bool} {known known' : List String} {j : JsonValue}
    {get get' : String → Option JsonValue} {key : String} {value : JsonValue}
    (h : structFields true known j = some get)
    (h' : structFields denyUnknown known' j = some get') (hvalue : get' key = some value)
    (hkey : key ∉ known) (hplace : known.length ≤ known'.idxOf key) : False := by
  rcases structFields_some h with ⟨fields, rfl, hok, rfl⟩ | ⟨values, rfl, hlen, rfl⟩
  · rcases structFields_some h' with ⟨fields', hfields, -, rfl⟩ | ⟨values, hvalues, -, -⟩
    · rw [← JsonValue.obj.inj hfields] at hvalue
      exact hkey (keysOk_mem hok (fieldOf_mem hvalue))
    · cases hvalues
  · rcases structFields_some h' with ⟨fields', hfields, -, -⟩ | ⟨values', hvalues, -, rfl⟩
    · cases hfields
    · rw [← JsonValue.arr.inj hvalues] at hvalue
      have hlt := fieldOf_zip hvalue
      omega

theorem stringField_some {value : Option JsonValue} {s : String}
    (h : stringField value = some s) : value = some (.str s) := by
  unfold stringField at h
  split at h
  · rw [← Option.some.inj h]
  · cases h

theorem unsignedField_some {max n : ℕ} {value : Option JsonValue}
    (h : unsignedField max value = some n) : ∃ token, value = some (.num token) := by
  unfold unsignedField at h
  split at h
  · exact ⟨_, rfl⟩
  · cases h

/-- What is read as an escrow payload. -/
theorem escrowOfJson_some {j : JsonValue} {p : PayloadData} (h : escrowOfJson j = some p) :
    ∃ get value, structFields true ["deposit_tx", "service_id", "agent_pubkey"] j = some get ∧
      get "service_id" = some value := by
  obtain ⟨get, hget, h⟩ := Option.bind_eq_some_iff.mp h
  obtain ⟨depositTx, -, h⟩ := Option.bind_eq_some_iff.mp h
  obtain ⟨serviceId, hservice, -⟩ := Option.bind_eq_some_iff.mp h
  exact ⟨get, _, hget, stringField_some hservice⟩

/-- What is read as a voucher. -/
theorem channelOfJson_some {j : JsonValue} {p : PayloadData} (h : channelOfJson j = some p) :
    ∃ get cumulative nonce, structFields true ["channel_id", "cumulative_atomic", "expiry_slot",
        "nonce", "request_digest", "signature"] j = some get ∧
      get "cumulative_atomic" = some cumulative ∧ get "nonce" = some nonce := by
  obtain ⟨get, hget, h⟩ := Option.bind_eq_some_iff.mp h
  obtain ⟨channelId, -, h⟩ := Option.bind_eq_some_iff.mp h
  obtain ⟨cumulativeAtomic, hcumulative, h⟩ := Option.bind_eq_some_iff.mp h
  obtain ⟨expirySlot, -, h⟩ := Option.bind_eq_some_iff.mp h
  obtain ⟨nonce, hnonce, -⟩ := Option.bind_eq_some_iff.mp h
  obtain ⟨token, htoken⟩ := unsignedField_some hcumulative
  obtain ⟨token', htoken'⟩ := unsignedField_some hnonce
  exact ⟨get, _, _, hget, htoken, htoken'⟩

/-- What is read as a direct payload. -/
theorem directOfJson_some {j : JsonValue} {p : PayloadData} (h : directOfJson j = some p) :
    ∃ get, structFields true ["transaction"] j = some get := by
  obtain ⟨get, hget, -⟩ := Option.bind_eq_some_iff.mp h
  exact ⟨get, hget⟩

/-- At most one variant of the payload fits. -/
theorem payload_unambiguous (j : JsonValue) :
    ¬ ((escrowOfJson j).isSome = true ∧ (channelOfJson j).isSome = true) ∧
      ¬ ((escrowOfJson j).isSome = true ∧ (directOfJson j).isSome = true) ∧
      ¬ ((channelOfJson j).isSome = true ∧ (directOfJson j).isSome = true) := by
  refine ⟨?_, ?_, ?_⟩
  · rintro ⟨hescrow, hchannel⟩
    obtain ⟨p, hp⟩ := Option.isSome_iff_exists.mp hescrow
    obtain ⟨q, hq⟩ := Option.isSome_iff_exists.mp hchannel
    obtain ⟨get, -, hget, -⟩ := escrowOfJson_some hp
    obtain ⟨get', -, nonce, hget', -, hnonce⟩ := channelOfJson_some hq
    exact structFields_conflict hget hget' hnonce (by decide) (by decide)
  · rintro ⟨hescrow, hdirect⟩
    obtain ⟨p, hp⟩ := Option.isSome_iff_exists.mp hescrow
    obtain ⟨q, hq⟩ := Option.isSome_iff_exists.mp hdirect
    obtain ⟨get, service, hget, hservice⟩ := escrowOfJson_some hp
    obtain ⟨get', hget'⟩ := directOfJson_some hq
    exact structFields_conflict hget' hget hservice (by decide) (by decide)
  · rintro ⟨hchannel, hdirect⟩
    obtain ⟨p, hp⟩ := Option.isSome_iff_exists.mp hchannel
    obtain ⟨q, hq⟩ := Option.isSome_iff_exists.mp hdirect
    obtain ⟨get, cumulative, -, hget, hcumulative, -⟩ := channelOfJson_some hp
    obtain ⟨get', hget'⟩ := directOfJson_some hq
    exact structFields_conflict hget' hget hcumulative (by decide) (by decide)

/-- What is read as a payment. -/
theorem paymentPayloadOfJson_some {j : JsonValue} {p : PaymentPayload}
    (h : paymentPayloadOfJson j = some p) :
    ∃ get token, structFields true ["x402_version", "resource", "accepted", "payload"] j =
      some get ∧ get "x402_version" = some (.num token) := by
  obtain ⟨get, hget, h⟩ := Option.bind_eq_some_iff.mp h
  obtain ⟨version, hversion, -⟩ := Option.bind_eq_some_iff.mp h
  obtain ⟨token, htoken⟩ := unsignedField_some hversion
  exact ⟨get, token, hget, htoken⟩

/-- What is read as a canonical envelope. -/
theorem canonicalEnvelopeOfJson_some {j : JsonValue} {e : CanonicalPaymentEnvelope}
    (h : canonicalEnvelopeOfJson j = some e) :
    ∃ get, structFields false envelopeKeys j = some get ∧
      (∃ scheme, optionStringField (get "scheme") = some scheme) ∧
      unsignedField u64Max (get "x402Version") = some e.x402Version ∧
      optionField canonicalAcceptOfJson (get "accepted") = some e.accepted ∧
      ∃ value, get "payload" = some value ∧ canonicalProofOfJson value = some e.proof := by
  obtain ⟨get, hget, h⟩ := Option.bind_eq_some_iff.mp h
  obtain ⟨scheme, hscheme, h⟩ := Option.bind_eq_some_iff.mp h
  obtain ⟨network, -, h⟩ := Option.bind_eq_some_iff.mp h
  obtain ⟨version, hversion, h⟩ := Option.bind_eq_some_iff.mp h
  obtain ⟨accepted, haccepted, h⟩ := Option.bind_eq_some_iff.mp h
  obtain ⟨resource, -, h⟩ := Option.bind_eq_some_iff.mp h
  obtain ⟨value, hvalue, h⟩ := Option.bind_eq_some_iff.mp h
  obtain ⟨proof, hproof, h⟩ := Option.bind_eq_some_iff.mp h
  rw [← Option.some.inj h]
  exact ⟨get, hget, ⟨scheme, hscheme⟩, hversion, haccepted, value, hvalue, hproof⟩

/-- No value is a payment in both dialects: in an object one has `x402Version` and the other
denies it, in an array one begins with a number and the other with a text. -/
theorem dialects_disjoint (j : JsonValue) :
    ¬ ((paymentPayloadOfJson j).isSome = true ∧ (canonicalEnvelopeOfJson j).isSome = true) := by
  rintro ⟨hpayment, hcanonical⟩
  obtain ⟨p, hp⟩ := Option.isSome_iff_exists.mp hpayment
  obtain ⟨e, he⟩ := Option.isSome_iff_exists.mp hcanonical
  obtain ⟨get, token, hget, hversion⟩ := paymentPayloadOfJson_some hp
  obtain ⟨get', hget', ⟨scheme, hscheme⟩, hversion', -⟩ := canonicalEnvelopeOfJson_some he
  rcases structFields_some hget with ⟨fields, rfl, hok, rfl⟩ | ⟨values, rfl, -, rfl⟩
  · rcases structFields_some hget' with ⟨fields', hfields, -, rfl⟩ | ⟨values, hvalues, -, -⟩
    · obtain ⟨token', htoken'⟩ := unsignedField_some hversion'
      rw [← JsonValue.obj.inj hfields] at htoken'
      have hknown := keysOk_mem hok (fieldOf_mem htoken')
      exact absurd hknown (by decide)
    · cases hvalues
  · rcases structFields_some hget' with ⟨fields', hfields, -, -⟩ | ⟨values', hvalues, -, rfl⟩
    · cases hfields
    · rw [← JsonValue.arr.inj hvalues] at hscheme
      cases values with
      | nil => cases hversion
      | cons first values =>
        have hfirst : first = .num token := Option.some.inj hversion
        rw [hfirst] at hscheme
        cases hscheme

end Shapes

/-! ## Three encodings -/

section Encodings
variable {parseJson : String → Option JsonValue}

/-- A character outside the alphabet. -/
theorem base64Decode_none {b : UInt8} (hdigit : base64Digit b = none)
    (hpad : b.toNat ≠ base64Pad) :
    ∀ {bytes : List UInt8}, b ∈ bytes → base64Decode bytes = none := by
  intro bytes
  induction bytes using base64Decode.induct with
  | case1 => simp
  -- the last four: the padding is no digit, and `b` is not the padding
  | case2 x y z w =>
    intro hb
    rw [base64Decode, base64Last]
    cases hx : base64Digit x with
    | none => rfl
    | some n =>
      cases hy : base64Digit y with
      | none => rfl
      | some m =>
        have hzw : b = z ∨ b = w := by
          rcases (by simpa using hb : b = x ∨ b = y ∨ b = z ∨ b = w) with rfl | rfl | hzw
          · rw [hdigit] at hx
            cases hx
          · rw [hdigit] at hy
            cases hy
          · exact hzw
        rcases hzw with rfl | rfl
        · simp only [Option.bind_eq_bind, Option.bind_some, hdigit, Option.bind_none, if_neg hpad,
            ite_self]
        · simp only [Option.bind_eq_bind, Option.bind_some, if_neg hpad, hdigit, Option.bind_none]
          cases base64Digit z <;> rfl
  -- four digits, and `b` among the rest
  | case3 x y z w rest hrest ih =>
    intro hb
    rw [base64Decode]
    · cases hx : base64Digit x with
      | none => rfl
      | some n₁ =>
        cases hy : base64Digit y with
        | none => rfl
        | some n₂ =>
          cases hz : base64Digit z with
          | none => rfl
          | some n₃ =>
            cases hw : base64Digit w with
            | none => rfl
            | some n₄ =>
              have hin : b ∈ rest := by
                simp only [List.mem_cons] at hb
                rcases hb with rfl | rfl | rfl | rfl | hb
                · rw [hdigit] at hx
                  cases hx
                · rw [hdigit] at hy
                  cases hy
                · rw [hdigit] at hz
                  cases hz
                · rw [hdigit] at hw
                  cases hw
                · exact hb
              rw [ih hin]
              rfl
    · exact hrest
  | case4 bytes h₁ h₂ h₃ =>
    intro _
    rw [base64Decode]
    · exact h₁
    · exact h₂
    · exact h₃

/-- A bracket of either kind. -/
def Bracketed (text : String) : Prop := '\x7b' ∈ text.toList ∨ '[' ∈ text.toList

theorem bracketed_bytes {text : String} (h : Bracketed text) :
    ∃ b ∈ textBytes text, b = UInt8.ofNat '\x7b'.toNat ∨ b = UInt8.ofNat '['.toNat := by
  have hbytes : String.utf8EncodeChar '\x7b' = [UInt8.ofNat '\x7b'.toNat] ∧
      String.utf8EncodeChar '[' = [UInt8.ofNat '['.toNat] := by decide
  rw [textBytes_eq_flatMap]
  rcases h with hbrace | hbracket
  · refine ⟨_, List.mem_flatMap.mpr ⟨_, hbrace, ?_⟩, Or.inl rfl⟩
    rw [hbytes.1]
    exact List.mem_singleton_self _
  · refine ⟨_, List.mem_flatMap.mpr ⟨_, hbracket, ?_⟩, Or.inr rfl⟩
    rw [hbytes.2]
    exact List.mem_singleton_self _

/-- Raw JSON is not base64. -/
theorem base64Decode_raw {text : String} (h : Bracketed text) :
    base64Decode (textBytes text) = none ∧ base64UrlDecode (textBytes text) = none := by
  obtain ⟨b, hb, hvalue⟩ := bracketed_bytes h
  have hdigit : base64Digit b = none ∧ b.toNat ≠ base64Pad ∧ b.toNat ≠ '-'.toNat ∧
      b.toNat ≠ '_'.toNat := by
    rcases hvalue with rfl | rfl
    · decide
    · decide
  refine ⟨base64Decode_none hdigit.1 hdigit.2.1 hb, ?_⟩
  rw [base64UrlDecode]
  split_ifs with hany
  · rfl
  · apply base64Decode_none hdigit.1 hdigit.2.1
    refine List.mem_map.mpr ⟨b, hb, ?_⟩
    rw [if_neg hdigit.2.2.1, if_neg hdigit.2.2.2]

/-- A character of the URL-safe alphabet. -/
def urlSafeChar (b : UInt8) : UInt8 :=
  if b.toNat = '+'.toNat then UInt8.ofNat '-'.toNat
  else if b.toNat = '/'.toNat then UInt8.ofNat '_'.toNat
  else b

theorem textBytes_base64UrlEncode (bytes : List UInt8) :
    textBytes (base64UrlEncode bytes) = (base64Chars bytes).map urlSafeChar := by
  apply textBytes_asciiText
  intro b hb
  obtain ⟨c, hc, rfl⟩ := List.mem_map.mp hb
  have hlt := base64Chars_lt bytes c hc
  split_ifs
  · decide
  · decide
  · exact hlt

/-- The URL-safe decoder reads URL-safe base64 back. -/
theorem base64UrlDecode_urlEncode (bytes : List UInt8) :
    base64UrlDecode (textBytes (base64UrlEncode bytes)) = some bytes := by
  have hplain : ∀ b : UInt8, (urlSafeChar b).toNat ≠ '+'.toNat ∧
      (urlSafeChar b).toNat ≠ '/'.toNat := by
    intro b
    rw [urlSafeChar]
    split_ifs with hplus hslash
    · decide
    · decide
    · exact ⟨hplus, hslash⟩
  -- the two characters of the other alphabet go there and back
  have hback : ∀ b : UInt8, b.toNat ≠ '-'.toNat → b.toNat ≠ '_'.toNat →
      (if (urlSafeChar b).toNat = '-'.toNat then UInt8.ofNat '+'.toNat
        else if (urlSafeChar b).toNat = '_'.toNat then UInt8.ofNat '/'.toNat
        else urlSafeChar b) = b := by
    intro b hdash hunderscore
    by_cases hplus : b.toNat = '+'.toNat
    · rw [urlSafeChar, if_pos hplus, if_pos (by decide)]
      exact ofNat_eq hplus.symm
    · by_cases hslash : b.toNat = '/'.toNat
      · rw [urlSafeChar, if_neg hplus, if_pos hslash, if_neg (by decide), if_pos (by decide)]
        exact ofNat_eq hslash.symm
      · rw [urlSafeChar, if_neg hplus, if_neg hslash, if_neg hdash, if_neg hunderscore]
  -- so the text is taken for the URL-safe alphabet
  have hany : ((base64Chars bytes).map urlSafeChar).any
      (fun b => b.toNat = '+'.toNat || b.toNat = '/'.toNat) = false := by
    rw [List.any_eq_false]
    intro b hb
    obtain ⟨c, -, rfl⟩ := List.mem_map.mp hb
    simpa using hplain c
  rw [textBytes_base64UrlEncode, base64UrlDecode, hany, if_neg (by decide), List.map_map]
  have hmap : (base64Chars bytes).map ((fun b => if b.toNat = '-'.toNat then UInt8.ofNat '+'.toNat
      else if b.toNat = '_'.toNat then UInt8.ofNat '/'.toNat else b) ∘ urlSafeChar) =
        base64Chars bytes := by
    rw [List.map_congr_left (g := id), List.map_id]
    intro b hb
    obtain ⟨-, hdash, hunderscore⟩ := base64Chars_alphabet bytes b hb
    exact hback b hdash hunderscore
  rw [hmap, base64Decode_chars]

/-- The standard decoder reads URL-safe base64 back, or nothing. -/
theorem base64Decode_urlEncode (bytes : List UInt8) :
    base64Decode (textBytes (base64UrlEncode bytes)) = none ∨
      base64Decode (textBytes (base64UrlEncode bytes)) = some bytes := by
  rw [textBytes_base64UrlEncode]
  by_cases hall : ∀ b ∈ base64Chars bytes, urlSafeChar b = b
  · right
    rw [List.map_congr_left (g := id) hall, List.map_id, base64Decode_chars]
  · left
    push Not at hall
    obtain ⟨b, hb, hne⟩ := hall
    have hdash : urlSafeChar b = UInt8.ofNat '-'.toNat ∨ urlSafeChar b = UInt8.ofNat '_'.toNat := by
      rw [urlSafeChar] at hne ⊢
      split_ifs at hne ⊢
      · exact Or.inl rfl
      · exact Or.inr rfl
      · exact absurd rfl hne
    have hmem : urlSafeChar b ∈ (base64Chars bytes).map urlSafeChar := List.mem_map_of_mem hb
    rcases hdash with heq | heq
    · rw [heq] at hmem
      exact base64Decode_none (by decide) (by decide) hmem
    · rw [heq] at hmem
      exact base64Decode_none (by decide) (by decide) hmem

/-- What is read from the text is the answer, whichever way the text is encoded. -/
theorem decodePaymentHeader_encodes {text header : String} {result : Except String PaymentPayload}
    (hencodes : Encodes text header) (hbracket : Bracketed text)
    (h : parsePaymentJson parseJson text = some result) :
    decodePaymentHeader parseJson header = result := by
  cases hencodes with
  | standard =>
    rw [decodePaymentHeader, base64Decode_encode, Option.bind_some, fromUtf8_textBytes,
      Option.bind_some, h]
  | urlSafe =>
    rw [decodePaymentHeader, base64UrlDecode_urlEncode]
    rcases base64Decode_urlEncode (textBytes text) with hnone | hsome
    · rw [hnone, Option.bind_none, Option.bind_none, Option.bind_some, fromUtf8_textBytes,
        Option.bind_some, h]
    · rw [hsome, Option.bind_some, fromUtf8_textBytes, Option.bind_some, h]
  | raw =>
    obtain ⟨hstandard, hurl⟩ := base64Decode_raw hbracket
    rw [decodePaymentHeader, hstandard, hurl, Option.bind_none, Option.bind_none, h]

/-- Payments are objects or arrays. -/
theorem parsePaymentJson_none (hreader : Brackets parseJson) {text : String}
    (h : ¬ Bracketed text) : parsePaymentJson parseJson text = none := by
  have hstruct : ∀ {denyUnknown : Bool} {known : List String} {j : JsonValue}
      {get : String → Option JsonValue}, parseJson text = some j →
        structFields denyUnknown known j = some get → False := by
    intro denyUnknown known j get hparse hget
    rcases structFields_some hget with ⟨fields, rfl, -⟩ | ⟨values, rfl, -⟩
    · exact h (Or.inl (hreader.object text fields hparse))
    · exact h (Or.inr (hreader.array text values hparse))
  rw [parsePaymentJson]
  cases hparse : parseJson text with
  | none => rfl
  | some j =>
    cases hpayment : paymentPayloadOfJson j with
    | some p =>
      obtain ⟨get, -, hget, -⟩ := paymentPayloadOfJson_some hpayment
      exact absurd hget fun hget => hstruct hparse hget
    | none =>
      cases hcanonical : canonicalEnvelopeOfJson j with
      | some e =>
        obtain ⟨get, hget, -⟩ := canonicalEnvelopeOfJson_some hcanonical
        exact absurd hget fun hget => hstruct hparse hget
      | none =>
        rw [Option.bind_some, hpayment, Option.bind_some, hcanonical]
        rfl

/-- Base64 has no brackets. -/
theorem not_bracketed_base64 {bytes : List UInt8} {header : String}
    (h : textBytes header = base64Chars bytes ∨
      textBytes header = (base64Chars bytes).map urlSafeChar) : ¬ Bracketed header := by
  intro hbracket
  obtain ⟨b, hb, hvalue⟩ := bracketed_bytes hbracket
  have hall : ∀ b ∈ base64Chars bytes, (b ≠ UInt8.ofNat '\x7b'.toNat ∧
      b ≠ UInt8.ofNat '['.toNat) ∧ urlSafeChar b ≠ UInt8.ofNat '\x7b'.toNat ∧
        urlSafeChar b ≠ UInt8.ofNat '['.toNat := by
    apply base64Chars_forall
    · decide
    · decide
  rcases h with h | h
  · rw [h] at hb
    rcases hvalue with rfl | rfl
    · exact (hall _ hb).1.1 rfl
    · exact (hall _ hb).1.2 rfl
  · rw [h] at hb
    obtain ⟨c, hc, rfl⟩ := List.mem_map.mp hb
    rcases hvalue with heq | heq
    · exact (hall c hc).2.1 heq
    · exact (hall c hc).2.2 heq

/-- What neither dialect reads is an error, whichever way the text is encoded. -/
theorem decodePaymentHeader_none (hreader : Brackets parseJson) {text header : String}
    (hencodes : Encodes text header) (hbracket : Bracketed text)
    (h : parsePaymentJson parseJson text = none) :
    decodePaymentHeader parseJson header =
      .error "unable to decode payment header: not valid base64 or JSON" := by
  cases hencodes with
  -- no encoding of the text is read as JSON itself
  | standard =>
    have hraw : parsePaymentJson parseJson (base64Encode (textBytes text)) = none := by
      apply parsePaymentJson_none hreader
      apply not_bracketed_base64
      left
      rw [base64Encode, textBytes_asciiText (base64Chars_lt _)]
    rw [decodePaymentHeader, base64Decode_encode, Option.bind_some, fromUtf8_textBytes,
      Option.bind_some, h, hraw]
    rcases base64UrlDecode_encode (textBytes text) with hnone | hsome
    · rw [hnone]
      rfl
    · rw [hsome, Option.bind_some, fromUtf8_textBytes, Option.bind_some, h]
  | urlSafe =>
    have hraw : parsePaymentJson parseJson (base64UrlEncode (textBytes text)) = none := by
      apply parsePaymentJson_none hreader
      apply not_bracketed_base64
      right
      exact textBytes_base64UrlEncode _
    rw [decodePaymentHeader, base64UrlDecode_urlEncode, Option.bind_some, fromUtf8_textBytes,
      Option.bind_some, h, hraw]
    rcases base64Decode_urlEncode (textBytes text) with hnone | hsome
    · rw [hnone]
      rfl
    · rw [hsome, Option.bind_some, fromUtf8_textBytes, Option.bind_some, h]
  | raw =>
    obtain ⟨hstandard, hurl⟩ := base64Decode_raw hbracket
    rw [decodePaymentHeader, hstandard, hurl, h]
    rfl

end Encodings

/-! ## Round trips -/

section RoundTrips

theorem resourceOfJson_json (resource : Resource) :
    resourceOfJson (resourceJson resource) = some resource := by
  apply (bind_of_some (@structFields_ok _ _ ["url", "method"] _ rfl (by decide))).trans
  simp [fieldOf, stringField]

theorem acceptedOfJson_json {accepted : Accepted} (h : accepted.maxTimeoutSeconds ≤ u64Max) :
    acceptedOfJson (acceptedJson accepted) = some accepted := by
  obtain ⟨scheme, network, amount, asset, payTo, timeout, programId⟩ := accepted
  have htimeout : unsignedField u64Max (some (.num timeout.repr)) = some timeout :=
    unsignedField_toString h
  cases programId with
  | none =>
    apply (bind_of_some (@structFields_ok _ _ ["scheme", "network", "amount", "asset", "pay_to",
      "max_timeout_seconds"] _ rfl (by decide))).trans
    simp [fieldOf, stringField, optField, optionStringField, htimeout]
  | some programId =>
    apply (bind_of_some (@structFields_ok _ _ ["scheme", "network", "amount", "asset", "pay_to",
      "max_timeout_seconds", "escrow_program_id"] _ rfl (by decide))).trans
    simp [fieldOf, stringField, optField, optionStringField, htimeout]

/-- Every payload is read back as the variant that it is. -/
theorem payloadOfJson_json {payload : PayloadData} (h : payload.InRange) :
    payloadOfJson (payloadJson payload) = some payload := by
  cases payload with
  | escrow depositTx serviceId agentPubkey =>
    have hescrow : escrowOfJson (payloadJson (.escrow depositTx serviceId agentPubkey)) =
        some (.escrow depositTx serviceId agentPubkey) := by
      apply (bind_of_some (@structFields_ok _ _ ["deposit_tx", "service_id", "agent_pubkey"] _ rfl
        (by decide))).trans
      simp [fieldOf, stringField]
    rw [payloadOfJson, hescrow]
    rfl
  | channel voucher => exact payloadOfJson_payloadValue voucher h.1 h.2.1 h.2.2
  | direct transaction =>
    have hdirect : directOfJson (payloadJson (.direct transaction)) =
        some (.direct transaction) := by
      apply (bind_of_some (@structFields_ok _ _ ["transaction"] _ rfl (by decide))).trans
      simp [fieldOf, stringField]
    have hsome : (directOfJson (payloadJson (.direct transaction))).isSome = true := by
      rw [hdirect]
      rfl
    obtain ⟨-, hescrow, hchannel⟩ := payload_unambiguous (payloadJson (.direct transaction))
    have hescrow' := Option.not_isSome_iff_eq_none.mp fun h => hescrow ⟨h, hsome⟩
    have hchannel' := Option.not_isSome_iff_eq_none.mp fun h => hchannel ⟨h, hsome⟩
    rw [payloadOfJson, hescrow', hchannel', hdirect]
    rfl

/-- Every payment is read back from its JSON. -/
theorem paymentPayloadOfJson_json {p : PaymentPayload} (h : p.InRange) :
    paymentPayloadOfJson (paymentPayloadJson p) = some p := by
  apply (bind_of_some (@structFields_ok _ _ ["x402_version", "resource", "accepted", "payload"] _
    rfl (by decide))).trans
  have hversion : unsignedField 255 (some (.num p.x402Version.repr)) = some p.x402Version :=
    unsignedField_toString h.version
  simp [fieldOf, hversion, resourceOfJson_json, acceptedOfJson_json h.timeout,
    payloadOfJson_json h.payload]

theorem brace_mem_json (p : PaymentPayload) :
    '\x7b' ∈ (jsonText (paymentPayloadJson p)).toList := by
  rw [paymentPayloadJson, jsonText, String.toList_append, String.toList_append]
  apply List.mem_append_left
  apply List.mem_append_left
  decide

theorem bracketed_json (p : PaymentPayload) : Bracketed (jsonText (paymentPayloadJson p)) :=
  Or.inl (brace_mem_json p)

end RoundTrips

/-! ## The canonical envelope -/

section Canonical

/-- The entries of the legacy challenge that cross to the canonical one, in order. -/
def exactAccepts (legacy : PaymentRequired) : List Accepted :=
  legacy.accepts.filter fun accept => accept.scheme = "exact"

/-- The canonical entries are the exact ones, one for one. -/
theorem fromPaymentRequired_accepts {legacy : PaymentRequired}
    {challenge : CanonicalPaymentRequired}
    (h : CanonicalPaymentRequired.fromPaymentRequired legacy = some challenge) :
    challenge.accepts = (exactAccepts legacy).map canonicalAccept := by
  rw [CanonicalPaymentRequired.fromPaymentRequired] at h
  split at h
  · cases h
  · rw [← Option.some.inj h]
    rfl

theorem mem_exactAccepts {legacy : PaymentRequired} {entry : Accepted} {i : ℕ}
    (h : (exactAccepts legacy)[i]? = some entry) :
    entry ∈ legacy.accepts ∧ entry.scheme = "exact" := by
  obtain ⟨hmem, hscheme⟩ := List.mem_filter.mp (List.mem_of_getElem? h)
  exact ⟨hmem, of_decide_eq_true hscheme⟩

/-- An echoed entry is read as the entry, without its program. -/
theorem canonicalAcceptOfJson_echo {entry : Accepted} (h : entry.maxTimeoutSeconds ≤ u64Max)
    {members : List (String × JsonValue)} (hecho : EchoesAccept (canonicalAccept entry) members) :
    canonicalAcceptOfJson (.obj members) = some { entry with escrowProgramId := none } := by
  obtain ⟨hkeys, hechoed⟩ := hecho
  apply (bind_of_some (structFields_ok rfl hkeys)).trans
  have hread : ∀ {key : String} {value : JsonValue}, key ≠ "extra" →
      (key, value) ∈ canonicalAcceptFields (canonicalAccept entry) →
        fieldOf members key = some value :=
    fun hne hin => hechoed _ hin hne
  have hscheme := @hread "scheme" (.str entry.scheme) (by decide)
    (by simp [canonicalAcceptFields, canonicalAccept])
  have hnetwork := @hread "network" (.str entry.network) (by decide)
    (by simp [canonicalAcceptFields, canonicalAccept])
  have hamount := @hread "amount" (.str entry.amount) (by decide)
    (by simp [canonicalAcceptFields, canonicalAccept])
  have hasset := @hread "asset" (.str entry.asset) (by decide)
    (by simp [canonicalAcceptFields, canonicalAccept])
  have hpayTo := @hread "payTo" (.str entry.payTo) (by decide)
    (by simp [canonicalAcceptFields, canonicalAccept])
  have htimeout := @hread "maxTimeoutSeconds" (.num (toString entry.maxTimeoutSeconds)) (by decide)
    (by simp [canonicalAcceptFields, canonicalAccept])
  rw [hscheme, hnetwork, hamount, hasset, hpayTo, htimeout, unsignedField_toString h]
  rfl

/-- An envelope that echoes an entry is read with the entry, its resource and its transaction. -/
theorem canonicalEnvelopeOfJson_echo {entry : Accepted} (h : entry.maxTimeoutSeconds ≤ u64Max)
    {url transaction : String} {fields : List (String × JsonValue)}
    (hecho : EchoEnvelope (canonicalAccept entry) url transaction fields) :
    canonicalEnvelopeOfJson (.obj fields) =
      some ⟨canonicalX402Version, some { entry with escrowProgramId := none }, some url,
        some transaction⟩ := by
  obtain ⟨scheme, hscheme⟩ := Option.isSome_iff_exists.mp hecho.scheme
  obtain ⟨network, hnetwork⟩ := Option.isSome_iff_exists.mp hecho.network
  obtain ⟨members, hmembers, haccept⟩ := hecho.accepted
  obtain ⟨value, hvalue, hresource⟩ := hecho.resource
  have hversion : unsignedField u64Max (some (.num (toString canonicalX402Version))) =
      some canonicalX402Version := unsignedField_toString (by decide)
  have hproof : canonicalProofOfJson (.obj [("transaction", .str transaction)]) =
      some (some transaction) := by
    rw [canonicalProofOfJson, @structFields_ok _ _ ["transaction"] _ rfl (by decide)]
    simp [fieldOf, stringField]
  -- the entry is read back without the program of the escrow
  have haccepted : optionField canonicalAcceptOfJson (some (.obj members)) =
      some (some { entry with escrowProgramId := none }) := by
    rw [optionField, canonicalAcceptOfJson_echo h haccept]
    · rfl
    · exact fun hnull => by cases hnull
  have hresource' : optionField canonicalResourceOfJson (some value) = some (some url) := by
    cases value with
    | null => cases hresource
    | bool b => cases hresource
    | num token => cases hresource
    | str s => cases hresource
    | arr values => exact congrArg (Option.map some) hresource
    | obj members => exact congrArg (Option.map some) hresource
  apply (bind_of_some (structFields_ok rfl hecho.keys)).trans
  rw [hscheme, hnetwork, hecho.version, hmembers, hvalue, hecho.payload, hversion, haccepted,
    hresource']
  simp [hproof]

/-- A proof object with a signature is read as a signature or not at all. -/
theorem canonicalProofOfJson_signature {members : List (String × JsonValue)}
    (h : "signature" ∈ members.map Prod.fst) (transaction : String) :
    canonicalProofOfJson (.obj members) ≠ some (some transaction) := by
  intro hproof
  have hfirst : structFields true ["transaction"] (.obj members) = none := by
    rw [structFields, if_neg]
    intro hok
    exact absurd (keysOk_mem hok h) (by decide)
  rw [canonicalProofOfJson, hfirst] at hproof
  obtain ⟨get, -, hproof⟩ := Option.bind_eq_some_iff.mp hproof
  obtain ⟨s, -, hproof⟩ := Option.bind_eq_some_iff.mp hproof
  cases Option.some.inj hproof

/-- The mapping accepts version 2, the exact scheme, and a transaction only. -/
theorem intoPaymentPayload_error {e : CanonicalPaymentEnvelope}
    (h : e.x402Version ≠ canonicalX402Version ∨
      (∀ accepted, e.accepted = some accepted → accepted.scheme ≠ "exact") ∨ e.proof = none) :
    ∃ message, e.intoPaymentPayload = .error message := by
  rw [CanonicalPaymentEnvelope.intoPaymentPayload]
  by_cases hversion : e.x402Version ≠ 2
  · exact ⟨_, if_pos hversion⟩
  · rw [if_neg hversion]
    cases haccepted : e.accepted with
    | none => exact ⟨_, rfl⟩
    | some accepted =>
      dsimp only
      by_cases hscheme : accepted.scheme ≠ "exact"
      · exact ⟨_, if_pos hscheme⟩
      · rw [if_neg hscheme]
        cases e.resource with
        | none => exact ⟨_, rfl⟩
        | some url =>
          have hproof : e.proof = none := by
            rcases h with hbad | hbad | hbad
            · exact absurd hbad hversion
            · exact absurd (hbad accepted haccepted) hscheme
            · exact hbad
          rw [hproof]
          exact ⟨_, rfl⟩

theorem canonicalAcceptOfJson_scheme {members : List (String × JsonValue)} {accepted : Accepted}
    (h : canonicalAcceptOfJson (.obj members) = some accepted) :
    fieldOf members "scheme" = some (.str accepted.scheme) := by
  obtain ⟨get, hget, h⟩ := Option.bind_eq_some_iff.mp h
  obtain ⟨scheme, hscheme, h⟩ := Option.bind_eq_some_iff.mp h
  obtain ⟨network, -, h⟩ := Option.bind_eq_some_iff.mp h
  obtain ⟨amount, -, h⟩ := Option.bind_eq_some_iff.mp h
  obtain ⟨asset, -, h⟩ := Option.bind_eq_some_iff.mp h
  obtain ⟨payTo, -, h⟩ := Option.bind_eq_some_iff.mp h
  obtain ⟨timeout, -, hread⟩ := Option.bind_eq_some_iff.mp h
  rcases structFields_some hget with ⟨fields, hfields, -, rfl⟩ | ⟨values, hvalues, -, -⟩
  · rw [← Option.some.inj hread, JsonValue.obj.inj hfields]
    exact stringField_some hscheme
  · cases hvalues

variable {parseJson : String → Option JsonValue}

/-- An envelope that the mapping refuses is an error, whichever way its text is encoded. -/
theorem decodePaymentHeader_refused (hreader : Brackets parseJson) {j : JsonValue}
    {e : CanonicalPaymentEnvelope} (he : canonicalEnvelopeOfJson j = some e)
    (h : e.x402Version ≠ canonicalX402Version ∨
      (∀ accepted, e.accepted = some accepted → accepted.scheme ≠ "exact") ∨ e.proof = none)
    {text header : String} (hparse : parseJson text = some j) (hencodes : Encodes text header) :
    ∃ message, decodePaymentHeader parseJson header = .error message := by
  have hpayment : paymentPayloadOfJson j = none := by
    apply Option.not_isSome_iff_eq_none.mp
    intro hsome
    exact dialects_disjoint j ⟨hsome, by rw [he]; rfl⟩
  have hbracket : Bracketed text := by
    obtain ⟨get, hget, -⟩ := canonicalEnvelopeOfJson_some he
    rcases structFields_some hget with ⟨fields, rfl, -⟩ | ⟨values, rfl, -⟩
    · exact Or.inl (hreader.object text fields hparse)
    · exact Or.inr (hreader.array text values hparse)
  obtain ⟨message, hmessage⟩ := intoPaymentPayload_error h
  refine ⟨"canonical x402 payment rejected: " ++ message, ?_⟩
  apply decodePaymentHeader_encodes hencodes hbracket
  rw [parsePaymentJson, hparse, Option.bind_some, hpayment, Option.bind_some, he, Option.map_some,
    hmessage]
  rfl

/-- An object in the canonical dialect that must not pay does not. -/
theorem decodePaymentHeader_rejected (hreader : Brackets parseJson)
    {fields : List (String × JsonValue)} (hcanonical : "x402Version" ∈ fields.map Prod.fst)
    (h : MustReject fields) {text header : String} (hparse : parseJson text = some (.obj fields))
    (hencodes : Encodes text header) :
    ∃ message, decodePaymentHeader parseJson header = .error message := by
  cases he : canonicalEnvelopeOfJson (.obj fields) with
  -- it is no envelope, and for a legacy payload it has a member too many
  | none =>
    have hpayment : paymentPayloadOfJson (.obj fields) = none := by
      cases hp : paymentPayloadOfJson (.obj fields) with
      | none => rfl
      | some p =>
        obtain ⟨get, token, hget, -⟩ := paymentPayloadOfJson_some hp
        rcases structFields_some hget with ⟨fields', hfields, hok, -⟩ | ⟨values, hvalues, -⟩
        · rw [← JsonValue.obj.inj hfields] at hok
          exact absurd (keysOk_mem hok hcanonical) (by decide)
        · cases hvalues
    refine ⟨_, decodePaymentHeader_none hreader hencodes
      (Or.inl (hreader.object text fields hparse)) ?_⟩
    rw [parsePaymentJson, hparse, Option.bind_some, hpayment, Option.bind_some, he]
    rfl
  | some e =>
    obtain ⟨get, hget, -, hversion, haccepted, value, hvalue, hproof⟩ :=
      canonicalEnvelopeOfJson_some he
    -- an envelope that is read is an object, and its members are read by name
    have hfieldOf : get = fieldOf fields := by
      rcases structFields_some hget with ⟨fields', hfields, -, rfl⟩ | ⟨values, hvalues, -⟩
      · rw [JsonValue.obj.inj hfields]
      · cases hvalues
    rw [hfieldOf] at hversion haccepted hvalue
    apply decodePaymentHeader_refused hreader he _ hparse hencodes
    rcases h with hbad | ⟨members, hmembers, hscheme⟩ | ⟨members, hmembers, hsignature⟩
    · left
      intro heq
      rw [heq] at hversion
      exact hbad hversion
    · right
      left
      intro accepted heq hexact
      rw [hmembers, heq] at haccepted
      obtain ⟨accepted', hread, hsome⟩ := Option.map_eq_some_iff.mp haccepted
      cases hsome
      apply hscheme
      rw [canonicalAcceptOfJson_scheme hread, hexact]
    · right
      right
      rw [hmembers] at hvalue
      rw [← Option.some.inj hvalue] at hproof
      cases hnone : e.proof with
      | none => rfl
      | some transaction =>
        rw [hnone] at hproof
        exact absurd hproof (canonicalProofOfJson_signature hsignature transaction)

/-- An echoed entry pays, whichever way the envelope's text is encoded. -/
theorem decodePaymentHeader_echo (hreader : Brackets parseJson) {entry : Accepted}
    (h : entry.maxTimeoutSeconds ≤ u64Max) (hexact : entry.scheme = "exact")
    {url transaction : String} {fields : List (String × JsonValue)}
    (hecho : EchoEnvelope (canonicalAccept entry) url transaction fields) {text header : String}
    (hparse : parseJson text = some (.obj fields)) (hencodes : Encodes text header) :
    decodePaymentHeader parseJson header =
      .ok ⟨2, ⟨url, "POST"⟩, { entry with escrowProgramId := none }, .direct transaction⟩ := by
  have he := canonicalEnvelopeOfJson_echo h hecho
  have hpayment : paymentPayloadOfJson (.obj fields) = none := by
    apply Option.not_isSome_iff_eq_none.mp
    intro hsome
    exact dialects_disjoint (.obj fields) ⟨hsome, by rw [he]; rfl⟩
  apply decodePaymentHeader_encodes hencodes (Or.inl (hreader.object text fields hparse))
  rw [parsePaymentJson, hparse, Option.bind_some, hpayment, Option.bind_some, he, Option.map_some,
    CanonicalPaymentEnvelope.intoPaymentPayload, if_neg (by simp [canonicalX402Version])]
  dsimp only
  rw [if_neg (by simp [hexact])]
  rfl

end Canonical

/-! ## Headers -/

/-- No value is read in two shapes; every payment is read back from each of its encodings; every
exact entry of a challenge has its canonical entry in the same place, and an envelope that echoes
that one is read back as the entry, without its program; and what the canonical surface does not
take is an error. -/
theorem payment_headers_unambiguous (parseJson : String → Option JsonValue)
    (hreader : Brackets parseJson) :
    (∀ j, ¬ ((paymentPayloadOfJson j).isSome = true ∧
      (canonicalEnvelopeOfJson j).isSome = true)) ∧
    (∀ j, ¬ ((escrowOfJson j).isSome = true ∧ (channelOfJson j).isSome = true) ∧
      ¬ ((escrowOfJson j).isSome = true ∧ (directOfJson j).isSome = true) ∧
      ¬ ((channelOfJson j).isSome = true ∧ (directOfJson j).isSome = true)) ∧
    (∀ p : PaymentPayload, p.InRange →
      parseJson (jsonText (paymentPayloadJson p)) = some (paymentPayloadJson p) →
      ∀ header, Encodes (jsonText (paymentPayloadJson p)) header →
        decodePaymentHeader parseJson header = .ok p) ∧
    (∀ legacy challenge, CanonicalPaymentRequired.fromPaymentRequired legacy = some challenge →
      (∀ entry ∈ legacy.accepts, entry.maxTimeoutSeconds ≤ u64Max) →
      challenge.accepts.length = (exactAccepts legacy).length ∧
      ∀ (i : ℕ) (accept : CanonicalAccept), challenge.accepts[i]? = some accept →
        ∃ entry : Accepted, (exactAccepts legacy)[i]? = some entry ∧ entry.scheme = "exact" ∧
          ⟨accept.scheme, accept.network, accept.amount, accept.asset, accept.payTo,
            accept.maxTimeoutSeconds, none⟩ = { entry with escrowProgramId := none } ∧
          ∀ url transaction fields, EchoEnvelope accept url transaction fields →
          ∀ text header, parseJson text = some (.obj fields) → Encodes text header →
            decodePaymentHeader parseJson header =
              .ok ⟨2, ⟨url, "POST"⟩, { entry with escrowProgramId := none },
                .direct transaction⟩) ∧
    (∀ fields, "x402Version" ∈ fields.map Prod.fst → MustReject fields →
      ∀ text header, parseJson text = some (.obj fields) → Encodes text header →
        ∃ message, decodePaymentHeader parseJson header = .error message) ∧
    ∀ j e, canonicalEnvelopeOfJson j = some e →
      (e.x402Version ≠ canonicalX402Version ∨
        (∀ accepted, e.accepted = some accepted → accepted.scheme ≠ "exact") ∨ e.proof = none) →
      ∀ text header, parseJson text = some j → Encodes text header →
        ∃ message, decodePaymentHeader parseJson header = .error message := by
  refine ⟨dialects_disjoint, payload_unambiguous, ?_, ?_, ?_, ?_⟩
  -- a payload that is written is read back
  · intro p hrange hread header hencodes
    apply decodePaymentHeader_encodes hencodes (bracketed_json p)
    rw [parsePaymentJson, hread, Option.bind_some, paymentPayloadOfJson_json hrange]
  -- an echo of a canonical entry pays the legacy entry it was made of
  · intro legacy challenge hchallenge hrange
    rw [fromPaymentRequired_accepts hchallenge]
    refine ⟨List.length_map _, ?_⟩
    intro i accept haccept
    rw [List.getElem?_map] at haccept
    obtain ⟨entry, hentry, rfl⟩ := Option.map_eq_some_iff.mp haccept
    obtain ⟨hmem, hexact⟩ := mem_exactAccepts hentry
    refine ⟨entry, hentry, hexact, rfl, ?_⟩
    intro url transaction fields hecho text header hparse hencodes
    exact decodePaymentHeader_echo hreader (hrange entry hmem) hexact hecho hparse hencodes
  · intro fields hcanonical hreject text header hparse hencodes
    exact decodePaymentHeader_rejected hreader hcanonical hreject hparse hencodes
  · intro j e he hbad text header hparse hencodes
    exact decodePaymentHeader_refused hreader he hbad hparse hencodes

/-- A payment by transfer. -/
def samplePayment : PaymentPayload :=
  ⟨2, ⟨"/v1/chat/completions", "POST"⟩, ⟨"exact", "solana:5eykt4UsFv8P8NJdTREpY1vzqKqZKvdp", "2625",
    "EPjFWdd5AufqSSqeM2qN1xzybapC8G4wEGGkZwyTDt1v", "recipient", 300, none⟩, .direct "dGVzdA=="⟩

/-- `serde_json::from_str` on one text. -/
def sampleParse (text : String) : Option JsonValue :=
  if text = jsonText (paymentPayloadJson samplePayment) then
    some (paymentPayloadJson samplePayment)
  else none

/-- The payment, URL-safe. -/
theorem samplePayment_decoded : decodePaymentHeader sampleParse (base64UrlEncode (textBytes
    (jsonText (paymentPayloadJson samplePayment)))) = .ok samplePayment := by
  have hreader : Brackets sampleParse := by
    constructor
    · intro text fields hparse
      rw [sampleParse] at hparse
      split at hparse
      · rename_i htext
        rw [htext]
        exact brace_mem_json samplePayment
      · cases hparse
    · intro text values hparse
      rw [sampleParse] at hparse
      split at hparse
      · cases hparse
      · cases hparse
  obtain ⟨-, -, hround, -⟩ := payment_headers_unambiguous sampleParse hreader
  apply hround samplePayment ⟨by decide, by decide, trivial⟩ _ _ Encodes.urlSafe
  rw [sampleParse, if_pos rfl]

end Solvela.Signer
