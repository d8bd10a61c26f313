import Solvela.Channel.TrackerTheorems
import Solvela.Signer.ChannelWire

/-!
# The two voucher formats agree

Writing the fields one after another into a buffer that is exactly long enough leaves their
concatenation, and the hand-made JSON is the text of a value, so the gateway reads that value. What
it makes of it is the voucher that was signed, or a range error: `storable` of the tracker's model.
-/

namespace Solvela.Signer

open Solvela.Lib.Txn
open Solvela.ChannelLedger Solvela.Channel
open Solvela.Client (PaymentAccept isDigits digitsValue)
open Solvela.Tracker (storable digitsValue_toString isDigits_toString)

/-! ## The signed bytes -/

theorem assertLen_ok {bytes : List UInt8} {len : ℕ} (h : bytes.length = len) (field : String) :
    Ts.assertLen bytes len field = .ok () := by
  rw [Ts.assertLen, if_neg (not_not.2 h)]

theorem assertU64_ok {n : ℕ} (h : n ≤ u64Max) (field : String) :
    Ts.assertU64 n field = .ok (n : ℤ) := by
  have hrange : ¬ ((n : ℤ) < 0 ∨ (u64Max : ℤ) < n) := by omega
  rw [Ts.assertU64, if_neg hrange]

/-- Writing into the zeros behind what is already there. -/
theorem setBytes_zeros (pre : List UInt8) {bytes : List UInt8} {offset m : ℕ} (k : ℕ)
    (hoffset : pre.length = offset) (hbytes : bytes.length = m) :
    Ts.setBytes (pre ++ List.replicate (m + k) 0) offset bytes =
      .ok (pre ++ bytes ++ List.replicate k 0) := by
  subst hoffset hbytes
  have hroom : pre.length + bytes.length ≤
      (pre ++ List.replicate (bytes.length + k) (0 : UInt8)).length := by
    rw [List.length_append, List.length_replicate]
    omega
  rw [Ts.setBytes, if_pos hroom, List.take_left', List.drop_append]
  · rw [List.drop_eq_nil_of_le (by omega), List.nil_append, Nat.add_sub_cancel_left,
      List.drop_replicate, Nat.add_sub_cancel_left]
  · rfl

theorem bigUint64Bytes_eq {n : ℕ} (h : n ≤ u64Max) : Ts.bigUint64Bytes n = leBytes n := by
  have hmod : (((n : ℕ) : ℤ) % 2 ^ 64).toNat = n := by
    have hlt : n < 2 ^ 64 := by
      rw [u64Max] at h
      omega
    omega
  rw [Ts.bigUint64Bytes, leBytes, hmod]
  apply List.map_congr_left
  intro i _
  rw [Nat.pow_mul]

theorem leBytes_length (n : ℕ) : (leBytes n).length = 8 := by
  rw [leBytes, List.length_map, List.length_range]

theorem buildVoucherMessage_eq (channelId : Pubkey) (requestDigest : Vector UInt8 32)
    {cumulative expirySlot nonce : ℕ} (hc : cumulative ≤ u64Max) (he : expirySlot ≤ u64Max)
    (hn : nonce ≤ u64Max) :
    Ts.buildVoucherMessage channelId.toList cumulative expirySlot nonce requestDigest.toList =
      .ok (Channel.buildVoucherMessage channelId cumulative expirySlot nonce requestDigest) := by
  have hid : channelId.toList.length = 32 := by simp
  have hdigest : requestDigest.toList.length = 32 := by simp
  have hsep : Ts.voucherDomainSep.length = 26 := by decide
  have hpre₁ : (Ts.voucherDomainSep ++ channelId.toList).length = 26 + 32 := by
    rw [List.length_append, hsep, hid]
  have hpre₂ : (Ts.voucherDomainSep ++ channelId.toList ++ leBytes cumulative).length =
      26 + 32 + 8 := by
    rw [List.length_append, hpre₁, leBytes_length]
  have hpre₃ : (Ts.voucherDomainSep ++ channelId.toList ++ leBytes cumulative ++
      leBytes expirySlot).length = 26 + 32 + 8 + 8 := by
    rw [List.length_append, hpre₂, leBytes_length]
  have hpre₄ : (Ts.voucherDomainSep ++ channelId.toList ++ leBytes cumulative ++
      leBytes expirySlot ++ leBytes nonce).length = 26 + 32 + 8 + 8 + 8 := by
    rw [List.length_append, hpre₃, leBytes_length]
  unfold Ts.buildVoucherMessage
  apply except_bind_ok.2 ⟨(), assertLen_ok hid _, ?_⟩
  apply except_bind_ok.2 ⟨(), assertLen_ok hdigest _, ?_⟩
  apply except_bind_ok.2 ⟨_, assertU64_ok hc _, ?_⟩
  apply except_bind_ok.2 ⟨_, assertU64_ok he _, ?_⟩
  apply except_bind_ok.2 ⟨_, assertU64_ok hn _, ?_⟩
  -- one write after another, each into what is left of the zeros
  rw [hsep]
  apply except_bind_ok.2 ⟨_, setBytes_zeros [] 88 rfl hsep, ?_⟩
  apply except_bind_ok.2 ⟨_, setBytes_zeros _ 56 hsep hid, ?_⟩
  rw [Ts.setBigUint64, bigUint64Bytes_eq hc]
  apply except_bind_ok.2 ⟨_, setBytes_zeros _ 48 hpre₁ (leBytes_length _), ?_⟩
  rw [Ts.setBigUint64, bigUint64Bytes_eq he]
  apply except_bind_ok.2 ⟨_, setBytes_zeros _ 40 hpre₂ (leBytes_length _), ?_⟩
  rw [Ts.setBigUint64, bigUint64Bytes_eq hn]
  apply except_bind_ok.2 ⟨_, setBytes_zeros _ 32 hpre₃ (leBytes_length _), ?_⟩
  rw [setBytes_zeros _ 0 hpre₄ hdigest, List.replicate_zero, List.append_nil]
  rfl

theorem buildCloseMessage_eq (channelId : Pubkey) :
    Ts.buildCloseMessage channelId.toList = .ok (buildCloseMessage channelId) := by
  have hid : channelId.toList.length = 32 := by simp
  have hsep : Ts.closeDomainSep.length = 24 := by decide
  unfold Ts.buildCloseMessage
  apply except_bind_ok.2 ⟨(), assertLen_ok hid _, ?_⟩
  rw [hsep]
  apply except_bind_ok.2 ⟨_, setBytes_zeros [] 32 rfl hsep, ?_⟩
  rw [List.nil_append, setBytes_zeros _ 0 hsep hid, List.replicate_zero, List.append_nil]
  rfl

/-! ## The header's JSON -/

/-- The payload as a value. -/
def payloadValue (v : ChannelVoucherPayload) : JsonValue :=
  .obj [("channel_id", .str v.channelId),
    ("cumulative_atomic", .num (toString v.cumulativeAtomic)),
    ("expiry_slot", .num (toString v.expirySlot)), ("nonce", .num (toString v.nonce)),
    ("request_digest", .str v.requestDigest), ("signature", .str v.signature)]

/-- The header as a value. -/
def headerValue (numberText : ℚ → String) (accept : PaymentAccept) (resourceUrl : String)
    (v : ChannelVoucherPayload) : JsonValue :=
  .obj [("x402_version", .num (toString Ts.x402VersionClient)),
    ("resource", Ts.resourceValue resourceUrl),
    ("accepted", Ts.acceptedValue numberText accept), ("payload", payloadValue v)]

theorem quoteJson_keys :
    quoteJson "channel_id" = "\"channel_id\"" ∧
    quoteJson "cumulative_atomic" = "\"cumulative_atomic\"" ∧
    quoteJson "expiry_slot" = "\"expiry_slot\"" ∧ quoteJson "nonce" = "\"nonce\"" ∧
    quoteJson "request_digest" = "\"request_digest\"" ∧
    quoteJson "signature" = "\"signature\"" ∧
    quoteJson "x402_version" = "\"x402_version\"" ∧ quoteJson "resource" = "\"resource\"" ∧
    quoteJson "accepted" = "\"accepted\"" ∧ quoteJson "payload" = "\"payload\"" := by
  decide

theorem toString_natCast (n : ℕ) : toString (n : ℤ) = toString n := rfl

/-- The hand-made payload is the text of its value. -/
theorem channelVoucherPayloadJson_eq (v : ChannelVoucherPayload)
    (hc : v.cumulativeAtomic ≤ u64Max) (he : v.expirySlot ≤ u64Max) (hn : v.nonce ≤ u64Max) :
    Ts.channelVoucherPayloadJson
      ⟨v.channelId, v.cumulativeAtomic, v.expirySlot, v.nonce, v.requestDigest, v.signature⟩ =
        .ok (jsonText (payloadValue v)) := by
  obtain ⟨k₁, k₂, k₃, k₄, k₅, k₆, -⟩ := quoteJson_keys
  unfold Ts.channelVoucherPayloadJson
  apply except_bind_ok.2 ⟨_, assertU64_ok hc _, ?_⟩
  apply except_bind_ok.2 ⟨_, assertU64_ok he _, ?_⟩
  apply except_bind_ok.2 ⟨_, assertU64_ok hn _, ?_⟩
  simp only [payloadValue, jsonText, fieldsText, k₁, k₂, k₃, k₄, k₅, k₆, toString_natCast]
  apply congrArg Except.ok
  apply String.toList_inj.1
  simp

theorem headerText (version : String) (resource accepted payload : JsonValue) :
    "\x7b\"x402_version\":" ++ version ++ ",\"resource\":" ++ jsonText resource ++
        ",\"accepted\":" ++ jsonText accepted ++ ",\"payload\":" ++ jsonText payload ++
        "\x7d" =
      jsonText (.obj [("x402_version", .num version), ("resource", resource),
        ("accepted", accepted), ("payload", payload)]) := by
  obtain ⟨-, -, -, -, -, -, k₁, k₂, k₃, k₄⟩ := quoteJson_keys
  simp only [jsonText, fieldsText, k₁, k₂, k₃, k₄]
  apply String.toList_inj.1
  simp

/-- And so is the hand-made header. -/
theorem headerJson_eq (numberText : ℚ → String) (params : Ts.ChannelPaymentHeaderParams)
    (v : ChannelVoucherPayload) :
    Ts.headerJson numberText params (jsonText (payloadValue v)) =
      jsonText (headerValue numberText params.accept params.resourceUrl v) := by
  unfold Ts.headerJson headerValue
  apply headerText

/-! ## Reading it back -/

theorem unsignedField_toString {n max : ℕ} (h : n ≤ max) :
    unsignedField max (some (.num (toString n))) = some n := by
  show (if isDigits (toString n).toList = true ∧ digitsValue (toString n).toList ≤ max then
      some (digitsValue (toString n).toList) else none) = some n
  rw [digitsValue_toString, isDigits_toString, if_pos ⟨rfl, h⟩]

theorem structFields_ok {denyUnknown : Bool} {known keys : List String}
    {fields : List (String × JsonValue)} (hkeys : fields.map Prod.fst = keys)
    (hok : keysOk denyUnknown known keys = true) :
    structFields denyUnknown known (.obj fields) = some (fieldOf fields) := by
  rw [structFields, hkeys, if_pos hok]

theorem structFields_none {denyUnknown : Bool} {known keys : List String}
    {fields : List (String × JsonValue)} (hkeys : fields.map Prod.fst = keys)
    (hbad : keysOk denyUnknown known keys = false) :
    structFields denyUnknown known (.obj fields) = none := by
  rw [structFields, hkeys, if_neg (by simp [hbad])]

theorem bind_of_some {α β : Type} {x : Option α} {f : α → Option β} {a : α} (h : x = some a) :
    (x >>= f) = f a := by
  rw [h]
  rfl

/-- With no key twice, a member is found by its key wherever it stands. -/
theorem fieldOf_getElem {fields : List (String × JsonValue)} {key : String} {value : JsonValue}
    (hnodup : (fields.map Prod.fst).Nodup) (i : ℕ) (h : fields[i]? = some (key, value)) :
    fieldOf fields key = some value := by
  induction fields generalizing i with
  | nil => simp at h
  | cons field fields ih =>
    obtain ⟨name, value'⟩ := field
    rw [List.map_cons, List.nodup_cons] at hnodup
    cases i with
    | zero =>
      have heq : name = key ∧ value' = value := by simpa using h
      rw [fieldOf, if_pos heq.1, heq.2]
    | succ i =>
      have hmem : (key, value) ∈ fields := List.mem_of_getElem? h
      have hne : name ≠ key := by
        intro heq
        apply hnodup.1
        rw [heq]
        apply List.mem_map_of_mem (f := Prod.fst) hmem
      rw [fieldOf, if_neg hne]
      apply ih hnodup.2 i h

theorem fieldOf_none {fields : List (String × JsonValue)} {key : String}
    (h : key ∉ fields.map Prod.fst) : fieldOf fields key = none := by
  induction fields with
  | nil => rfl
  | cons field fields ih =>
    rw [List.map_cons, List.mem_cons, not_or] at h
    rw [fieldOf, if_neg fun heq => h.1 heq.symm]
    apply ih h.2

/-- The payload is read as the channel variant, with its three numbers unchanged. -/
theorem payloadOfJson_payloadValue (v : ChannelVoucherPayload)
    (hc : v.cumulativeAtomic ≤ u64Max) (he : v.expirySlot ≤ u64Max) (hn : v.nonce ≤ u64Max) :
    payloadOfJson (payloadValue v) = some (.channel v) := by
  obtain ⟨fields, hfields⟩ : ∃ fields, payloadValue v = .obj fields := ⟨_, rfl⟩
  have hget (i : ℕ) : fields[i]? = [("channel_id", JsonValue.str v.channelId),
      ("cumulative_atomic", .num (toString v.cumulativeAtomic)),
      ("expiry_slot", .num (toString v.expirySlot)), ("nonce", .num (toString v.nonce)),
      ("request_digest", .str v.requestDigest), ("signature", .str v.signature)][i]? := by
    cases hfields
    rfl
  have hkeys : fields.map Prod.fst = ["channel_id", "cumulative_atomic", "expiry_slot", "nonce",
      "request_digest", "signature"] := by
    cases hfields
    rfl
  have hnodup : (fields.map Prod.fst).Nodup := by
    rw [hkeys]
    decide
  -- an escrow payload has other members, and is tried first
  have hescrow : escrowOfJson (payloadValue v) = none := by
    rw [escrowOfJson, hfields, structFields_none hkeys (by decide)]
    rfl
  have hchannel : channelOfJson (payloadValue v) = some (.channel v) := by
    rw [channelOfJson, hfields]
    apply (bind_of_some (structFields_ok hkeys (by decide))).trans
    rw [fieldOf_getElem hnodup 0 (hget 0), fieldOf_getElem hnodup 1 (hget 1),
      fieldOf_getElem hnodup 2 (hget 2), fieldOf_getElem hnodup 3 (hget 3),
      fieldOf_getElem hnodup 4 (hget 4), fieldOf_getElem hnodup 5 (hget 5),
      unsignedField_toString hc, unsignedField_toString he, unsignedField_toString hn]
    rfl
  rw [payloadOfJson, hescrow, hchannel]
  rfl

theorem resourceOfJson_resourceValue (url : String) :
    resourceOfJson (Ts.resourceValue url) = some ⟨url, "POST"⟩ := by
  obtain ⟨fields, hfields⟩ : ∃ fields, Ts.resourceValue url = .obj fields := ⟨_, rfl⟩
  have hget (i : ℕ) : fields[i]? = [("url", JsonValue.str url), ("method", .str "POST")][i]? := by
    cases hfields
    rfl
  have hkeys : fields.map Prod.fst = ["url", "method"] := by
    cases hfields
    rfl
  have hnodup : (fields.map Prod.fst).Nodup := by
    rw [hkeys]
    decide
  rw [resourceOfJson, hfields]
  apply (bind_of_some (structFields_ok hkeys (by decide))).trans
  rw [fieldOf_getElem hnodup 0 (hget 0), fieldOf_getElem hnodup 1 (hget 1)]
  rfl

/-- What the gateway makes of the accept a client chose. -/
def acceptedOf (accept : PaymentAccept) (maxTimeoutSeconds : ℕ) : Accepted where
  scheme := "channel"
  network := accept.network
  amount := accept.amount
  asset := accept.asset
  payTo := accept.payTo
  maxTimeoutSeconds := maxTimeoutSeconds
  escrowProgramId := none

theorem acceptedOfJson_acceptedValue (numberText : ℚ → String) (accept : PaymentAccept) :
    acceptedOfJson (Ts.acceptedValue numberText accept) =
      (unsignedField u64Max (some (.num (numberText accept.maxTimeoutSeconds)))).map
        (acceptedOf accept) := by
  obtain ⟨fields, hfields⟩ : ∃ fields, Ts.acceptedValue numberText accept = .obj fields :=
    ⟨_, rfl⟩
  have hget (i : ℕ) : fields[i]? = [("scheme", JsonValue.str "channel"),
      ("network", .str accept.network), ("amount", .str accept.amount),
      ("asset", .str accept.asset), ("pay_to", .str accept.payTo),
      ("max_timeout_seconds", .num (numberText accept.maxTimeoutSeconds))][i]? := by
    cases hfields
    rfl
  have hkeys : fields.map Prod.fst =
      ["scheme", "network", "amount", "asset", "pay_to", "max_timeout_seconds"] := by
    cases hfields
    rfl
  have hnodup : (fields.map Prod.fst).Nodup := by
    rw [hkeys]
    decide
  have habsent : fieldOf fields "escrow_program_id" = none := by
    apply fieldOf_none
    rw [hkeys]
    decide
  rw [acceptedOfJson, hfields]
  apply (bind_of_some (structFields_ok hkeys (by decide))).trans
  rw [fieldOf_getElem hnodup 0 (hget 0), fieldOf_getElem hnodup 1 (hget 1),
    fieldOf_getElem hnodup 2 (hget 2), fieldOf_getElem hnodup 3 (hget 3),
    fieldOf_getElem hnodup 4 (hget 4), fieldOf_getElem hnodup 5 (hget 5), habsent]
  cases unsignedField u64Max (some (.num (numberText accept.maxTimeoutSeconds))) <;> rfl

/-- What the gateway makes of the header's JSON: the timeout is the one number that the client
does not bound. -/
theorem paymentPayloadOfJson_headerValue (numberText : ℚ → String) (accept : PaymentAccept)
    (resourceUrl : String) (v : ChannelVoucherPayload) (hc : v.cumulativeAtomic ≤ u64Max)
    (he : v.expirySlot ≤ u64Max) (hn : v.nonce ≤ u64Max) :
    paymentPayloadOfJson (headerValue numberText accept resourceUrl v) =
      (unsignedField u64Max (some (.num (numberText accept.maxTimeoutSeconds)))).map fun n =>
        ⟨2, ⟨resourceUrl, "POST"⟩, acceptedOf accept n, .channel v⟩ := by
  obtain ⟨fields, hfields⟩ : ∃ fields,
    headerValue numberText accept resourceUrl v = .obj fields := ⟨_, rfl⟩
  -- the four members in their order, each under its own name
  have hget (i : ℕ) : fields[i]? = [("x402_version", .num (toString Ts.x402VersionClient)),
      ("resource", Ts.resourceValue resourceUrl),
      ("accepted", Ts.acceptedValue numberText accept), ("payload", payloadValue v)][i]? := by
    cases hfields
    rfl
  have hkeys : fields.map Prod.fst = ["x402_version", "resource", "accepted", "payload"] := by
    cases hfields
    rfl
  have hnodup : (fields.map Prod.fst).Nodup := by
    rw [hkeys]
    decide
  have hversion : Ts.x402VersionClient ≤ 255 := by decide
  rw [paymentPayloadOfJson, hfields]
  apply (bind_of_some (structFields_ok hkeys (by decide))).trans
  rw [fieldOf_getElem hnodup 0 (hget 0), fieldOf_getElem hnodup 1 (hget 1),
    fieldOf_getElem hnodup 2 (hget 2), fieldOf_getElem hnodup 3 (hget 3),
    unsignedField_toString hversion]
  show (do
    let resource ← resourceOfJson (Ts.resourceValue resourceUrl)
    let accepted ← acceptedOfJson (Ts.acceptedValue numberText accept)
    let payload ← payloadOfJson (payloadValue v)
    some (⟨Ts.x402VersionClient, resource, accepted, payload⟩ : PaymentPayload)) = _
  rw [resourceOfJson_resourceValue, acceptedOfJson_acceptedValue,
    payloadOfJson_payloadValue v hc he hn]
  -- the timeout is the only member that may not be read
  cases unsignedField u64Max (some (.num (numberText accept.maxTimeoutSeconds))) <;> rfl

/-! ## The header -/

/-- The URL-safe decoder reads standard base64 back, or nothing. -/
theorem base64UrlDecode_encode (bytes : List UInt8) :
    base64UrlDecode (textBytes (base64Encode bytes)) = none ∨
      base64UrlDecode (textBytes (base64Encode bytes)) = some bytes := by
  rw [base64Encode, textBytes_asciiText (base64Chars_lt bytes), base64UrlDecode]
  split_ifs with hany
  · exact .inl rfl
  · have hmap : (base64Chars bytes).map (fun b =>
        if b.toNat = '-'.toNat then UInt8.ofNat '+'.toNat
        else if b.toNat = '_'.toNat then UInt8.ofNat '/'.toNat
        else b) = base64Chars bytes := by
      rw [List.map_congr_left (g := id), List.map_id]
      intro b hb
      obtain ⟨-, hdash, hunderscore⟩ := base64Chars_alphabet bytes b hb
      rw [if_neg hdash, if_neg hunderscore, id]
    rw [hmap, base64Decode_chars]
    exact .inr rfl

section Header
variable (bs58Encode : List UInt8 → String) (numberText : ℚ → String) (voucher : Voucher)

/-- The voucher's payload as the client writes it. -/
def payloadOf : ChannelVoucherPayload where
  channelId := bs58Encode voucher.channelId.toList
  cumulativeAtomic := voucher.cumulativeAtomic
  expirySlot := voucher.expirySlot
  nonce := voucher.nonce
  requestDigest := base64Encode voucher.requestDigest.toList
  signature := base64Encode voucher.signature.toList

/-- The parameters of the header that carries a voucher. -/
def headerParams (accept : PaymentAccept) (resourceUrl : String) :
    Ts.ChannelPaymentHeaderParams where
  accept := accept
  resourceUrl := resourceUrl
  channelId32 := voucher.channelId.toList
  cumulative := voucher.cumulativeAtomic
  expirySlot := voucher.expirySlot
  nonce := voucher.nonce
  requestDigest32 := voucher.requestDigest.toList
  signature64 := voucher.signature.toList

/-- Every number of the voucher is a `u64`. -/
def InU64 : Prop :=
  voucher.cumulativeAtomic ≤ u64Max ∧ voucher.expirySlot ≤ u64Max ∧ voucher.nonce ≤ u64Max

theorem buildChannelPaymentHeader_eq (accept : PaymentAccept) (resourceUrl : String)
    (hrange : InU64 voucher) :
    Ts.buildChannelPaymentHeader bs58Encode numberText
        (headerParams voucher accept resourceUrl) =
      .ok (base64Encode (textBytes (jsonText
        (headerValue numberText accept resourceUrl (payloadOf bs58Encode voucher))))) := by
  obtain ⟨hc, he, hn⟩ := hrange
  have hid : voucher.channelId.toList.length = 32 := by simp
  have hdigest : voucher.requestDigest.toList.length = 32 := by simp
  have hsignature : voucher.signature.toList.length = 64 := by simp
  unfold Ts.buildChannelPaymentHeader
  apply except_bind_ok.2 ⟨(), assertLen_ok hid _, ?_⟩
  apply except_bind_ok.2 ⟨(), assertLen_ok hdigest _, ?_⟩
  apply except_bind_ok.2 ⟨(), assertLen_ok hsignature _, ?_⟩
  apply except_bind_ok.2
    ⟨_, channelVoucherPayloadJson_eq (payloadOf bs58Encode voucher) hc he hn, ?_⟩
  rw [headerJson_eq]
  rfl

/-- The voucher is read back from its payload, or refused for what cannot be stored. -/
theorem voucherFromPayload_payloadOf
    (hid : decodeBs58Pubkey (bs58Encode voucher.channelId.toList) = some voucher.channelId) :
    voucherFromPayload (payloadOf bs58Encode voucher) = storable voucher := by
  have hdigest : (base64Decode (textBytes (base64Encode voucher.requestDigest.toList))).bind
      (exactBytes 32) = some voucher.requestDigest := by
    rw [base64Decode_encode, Option.bind_some, exactBytes_toList]
  have hsignature : (base64Decode (textBytes (base64Encode voucher.signature.toList))).bind
      (exactBytes 64) = some voucher.signature := by
    rw [base64Decode_encode, Option.bind_some, exactBytes_toList]
  simp only [voucherFromPayload, payloadOf, hid, hdigest, hsignature]
  rfl

variable (parseJson : String → Option JsonValue) {accept : PaymentAccept} {resourceUrl : String}

theorem parsePaymentJson_headerValue (hrange : InU64 voucher) {n : ℕ}
    (hparse : parseJson (jsonText (headerValue numberText accept resourceUrl
        (payloadOf bs58Encode voucher))) =
      some (headerValue numberText accept resourceUrl (payloadOf bs58Encode voucher)))
    (htimeout : unsignedField u64Max (some (.num (numberText accept.maxTimeoutSeconds))) =
      some n) :
    parsePaymentJson parseJson (jsonText (headerValue numberText accept resourceUrl
        (payloadOf bs58Encode voucher))) =
      some (.ok ⟨2, ⟨resourceUrl, "POST"⟩, acceptedOf accept n,
        .channel (payloadOf bs58Encode voucher)⟩) := by
  have hpayload := paymentPayloadOfJson_headerValue numberText accept resourceUrl
    (payloadOf bs58Encode voucher) hrange.1 hrange.2.1 hrange.2.2
  rw [htimeout, Option.map_some] at hpayload
  rw [parsePaymentJson, hparse, Option.bind_some, hpayload]

/-- The header decodes to the payload it was built for. -/
theorem decodePaymentHeader_header (hrange : InU64 voucher) {n : ℕ}
    (hparse : parseJson (jsonText (headerValue numberText accept resourceUrl
        (payloadOf bs58Encode voucher))) =
      some (headerValue numberText accept resourceUrl (payloadOf bs58Encode voucher)))
    (htimeout : unsignedField u64Max (some (.num (numberText accept.maxTimeoutSeconds))) =
      some n) :
    decodePaymentHeader parseJson (base64Encode (textBytes (jsonText
        (headerValue numberText accept resourceUrl (payloadOf bs58Encode voucher))))) =
      .ok ⟨2, ⟨resourceUrl, "POST"⟩, acceptedOf accept n,
        .channel (payloadOf bs58Encode voucher)⟩ := by
  rw [decodePaymentHeader, base64Decode_encode, Option.bind_some, fromUtf8_textBytes,
    Option.bind_some, parsePaymentJson_headerValue _ _ _ _ hrange hparse htimeout]

/-- The canonical envelope spells its version differently. -/
theorem canonicalEnvelopeOfJson_headerValue (v : ChannelVoucherPayload) :
    canonicalEnvelopeOfJson (headerValue numberText accept resourceUrl v) = none := by
  obtain ⟨fields, hfields⟩ : ∃ fields,
    headerValue numberText accept resourceUrl v = .obj fields := ⟨_, rfl⟩
  have hkeys : fields.map Prod.fst = ["x402_version", "resource", "accepted", "payload"] := by
    cases hfields
    rfl
  have habsent : fieldOf fields "scheme" = none ∧ fieldOf fields "network" = none ∧
      fieldOf fields "x402Version" = none := by
    refine ⟨fieldOf_none ?_, fieldOf_none ?_, fieldOf_none ?_⟩
    all_goals
      rw [hkeys]
      decide
  rw [canonicalEnvelopeOfJson, hfields]
  apply (bind_of_some (structFields_ok hkeys (by decide))).trans
  rw [habsent.1, habsent.2.1, habsent.2.2]
  rfl

/-- A header whose timeout does not print as a `u64` is read under neither alphabet. -/
theorem decodePaymentHeader_timeout (hrange : InU64 voucher)
    (hparse : parseJson (jsonText (headerValue numberText accept resourceUrl
        (payloadOf bs58Encode voucher))) =
      some (headerValue numberText accept resourceUrl (payloadOf bs58Encode voucher)))
    (htimeout : unsignedField u64Max (some (.num (numberText accept.maxTimeoutSeconds))) = none)
    (hraw : parseJson (base64Encode (textBytes (jsonText
      (headerValue numberText accept resourceUrl (payloadOf bs58Encode voucher))))) = none) :
    decodePaymentHeader parseJson (base64Encode (textBytes (jsonText
        (headerValue numberText accept resourceUrl (payloadOf bs58Encode voucher))))) =
      .error "unable to decode payment header: not valid base64 or JSON" := by
  have hpayload := paymentPayloadOfJson_headerValue numberText accept resourceUrl
    (payloadOf bs58Encode voucher) hrange.1 hrange.2.1 hrange.2.2
  rw [htimeout, Option.map_none] at hpayload
  -- neither shape of the payload has a place for such a timeout
  have hjson : parsePaymentJson parseJson (jsonText (headerValue numberText accept resourceUrl
      (payloadOf bs58Encode voucher))) = none := by
    rw [parsePaymentJson, hparse, Option.bind_some, hpayload, Option.bind_some,
      canonicalEnvelopeOfJson_headerValue]
    rfl
  have hrawJson : parsePaymentJson parseJson (base64Encode (textBytes (jsonText
      (headerValue numberText accept resourceUrl (payloadOf bs58Encode voucher))))) = none := by
    rw [parsePaymentJson, hraw]
    rfl
  -- the other alphabet reads the same bytes, if it reads any
  have hurl : ((base64UrlDecode (textBytes (base64Encode (textBytes (jsonText
      (headerValue numberText accept resourceUrl (payloadOf bs58Encode voucher))))))).bind
        fromUtf8).bind (parsePaymentJson parseJson) = none := by
    rcases base64UrlDecode_encode (textBytes (jsonText (headerValue numberText accept
      resourceUrl (payloadOf bs58Encode voucher)))) with h | h
    · rw [h]
      rfl
    · rw [h, Option.bind_some, fromUtf8_textBytes, Option.bind_some, hjson]
  rw [decodePaymentHeader, base64Decode_encode, Option.bind_some, fromUtf8_textBytes,
    Option.bind_some, hjson]
  dsimp only
  rw [hurl]
  dsimp only
  rw [hrawJson]

end Header

end Solvela.Signer
