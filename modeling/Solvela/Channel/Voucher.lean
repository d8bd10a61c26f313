import Solvela.Ledger.Channels

/-!
# Vouchers

The wire voucher, its decoding (`voucher_from_payload`) and its verification against a channel
snapshot (`verify_voucher`). The ed25519 check is the parameter `verifySignature`: the session
key, the message and the signature, as the signature library decides them.
-/

namespace Solvela.Channel

open Solvela.ChannelLedger

/-! ## Base64 -/

/-- The six bits a character of the standard base64 alphabet denotes. -/
def base64Digit (b : UInt8) : Option ℕ :=
  alphabetPiece 'A' 'Z' 0 b <|> alphabetPiece 'a' 'z' 26 b <|> alphabetPiece '0' '9' 52 b <|>
    alphabetPiece '+' '+' 62 b <|> alphabetPiece '/' '/' 63 b

/-- The padding character of base64. -/
def base64Pad : ℕ := '='.toNat

/-- The bytes of the last group of four: only it may be padded, and the unused bits of its last
character are zero. -/
def base64Last (a b c d : UInt8) : Option (List UInt8) := do
  let x ← base64Digit a
  let y ← base64Digit b
  if d.toNat = base64Pad then
    if c.toNat = base64Pad then
      if y % 16 = 0 then some [UInt8.ofNat (x * 4 + y / 16)] else none
    else do
      let z ← base64Digit c
      if z % 4 = 0 then
        some [UInt8.ofNat (x * 4 + y / 16), UInt8.ofNat (y % 16 * 16 + z / 4)]
      else none
  else do
    let z ← base64Digit c
    let w ← base64Digit d
    some [UInt8.ofNat (x * 4 + y / 16), UInt8.ofNat (y % 16 * 16 + z / 4),
      UInt8.ofNat (z % 4 * 64 + w)]

/-- Standard base64 with canonical padding. -/
def base64Decode : List UInt8 → Option (List UInt8)
  | [] => some []
  | [a, b, c, d] => base64Last a b c d
  | a :: b :: c :: d :: rest => do
    let x ← base64Digit a
    let y ← base64Digit b
    let z ← base64Digit c
    let w ← base64Digit d
    let tail ← base64Decode rest
    some (UInt8.ofNat (x * 4 + y / 16) :: UInt8.ofNat (y % 16 * 16 + z / 4) ::
      UInt8.ofNat (z % 4 * 64 + w) :: tail)
  | _ => none

/-- A byte list of exactly `n` bytes. -/
def exactBytes (n : ℕ) (bytes : List UInt8) : Option (Vector UInt8 n) :=
  if h : bytes.length = n then some ⟨bytes.toArray, by simpa using h⟩ else none

/-! ## Decoding -/

/-- `ChannelVoucherPayload`, as it comes off the wire. -/
structure ChannelVoucherPayload where
  channelId : String
  cumulativeAtomic : ℕ
  expirySlot : ℕ
  nonce : ℕ
  requestDigest : String
  signature : String

/-- `Voucher`. -/
structure Voucher where
  channelId : Pubkey
  cumulativeAtomic : ℕ
  expirySlot : ℕ
  nonce : ℕ
  requestDigest : Vector UInt8 32
  signature : Vector UInt8 64
deriving DecidableEq

/-- `ChannelDrawError`. -/
inductive ChannelDrawError
  | malformedChannelId
  | malformedRequestDigest
  | malformedSignature
  | malformedNonce
  | malformedExpirySlot
deriving DecidableEq

/-- `voucher_from_payload`. -/
def voucherFromPayload (v : ChannelVoucherPayload) : Except ChannelDrawError Voucher :=
  match decodeBs58Pubkey v.channelId with
  | none => .error .malformedChannelId
  | some channelId =>
    -- the two numbers that no verification rule bounds must be storable before any serve
    if i64Max < v.nonce then .error .malformedNonce
    else if i64Max < v.expirySlot then .error .malformedExpirySlot
    else
      match (base64Decode (textBytes v.requestDigest)).bind (exactBytes 32) with
      | none => .error .malformedRequestDigest
      | some requestDigest =>
        match (base64Decode (textBytes v.signature)).bind (exactBytes 64) with
        | none => .error .malformedSignature
        | some signature =>
          .ok
            { channelId := channelId, cumulativeAtomic := v.cumulativeAtomic
              expirySlot := v.expirySlot, nonce := v.nonce, requestDigest := requestDigest
              signature := signature }

/-! ## Verification -/

/-- `MIN_EXPIRY_BUFFER_SLOTS`. -/
def minExpiryBufferSlots : ℕ := 50

/-- `DOMAIN_SEP`. -/
def domainSep : List UInt8 :=
  textBytes "solvela-channel-voucher-v1"

/-- The eight little-endian bytes of a `u64`. -/
def leBytes (n : ℕ) : List UInt8 := (List.range 8).map fun i => UInt8.ofNat (n / 256 ^ i % 256)

/-- `build_voucher_message`. -/
def buildVoucherMessage (channelId : Pubkey) (cumulativeAmount expirySlot nonce : ℕ)
    (requestDigest : Vector UInt8 32) : List UInt8 :=
  domainSep ++ channelId.toList ++ leBytes cumulativeAmount ++ leBytes expirySlot ++
    leBytes nonce ++ requestDigest.toList

/-- `ChannelVoucherError`. -/
inductive ChannelVoucherError
  | channelMismatch
  | invalidSignature
  | requestDigestMismatch
  | expired (expirySlot currentSlot buffer : ℕ)
  | nonMonotonicCumulative (cumulative lastCumulative : ℕ)
  | deltaMismatch (expectedBilled actualDelta : ℕ)
  | belowSettled (cumulative settled : ℕ)
  | overDraw (cumulative deposited : ℕ)
deriving DecidableEq

section
variable (verifySignature : Pubkey → List UInt8 → Vector UInt8 64 → Bool)

/-- `verify_voucher`: seven rules, in this order. -/
def verifyVoucher (state : ChannelState) (voucher : Voucher) (billedAtomic currentSlot : ℕ) :
    Except ChannelVoucherError Unit :=
  if voucher.channelId ≠ state.channelId then .error .channelMismatch
  else if verifySignature state.sessionKey
      (buildVoucherMessage voucher.channelId voucher.cumulativeAtomic voucher.expirySlot
        voucher.nonce voucher.requestDigest) voucher.signature = false then
    .error .invalidSignature
  else if voucher.requestDigest ≠ state.expectedRequestDigest then
    .error .requestDigestMismatch
  else if voucher.expirySlot - currentSlot < minExpiryBufferSlots then
    .error (.expired voucher.expirySlot currentSlot (voucher.expirySlot - currentSlot))
  else if voucher.cumulativeAtomic < state.lastCumulativeAtomic then
    .error (.nonMonotonicCumulative voucher.cumulativeAtomic state.lastCumulativeAtomic)
  else if voucher.cumulativeAtomic - state.lastCumulativeAtomic ≠ billedAtomic then
    .error (.deltaMismatch billedAtomic (voucher.cumulativeAtomic - state.lastCumulativeAtomic))
  else if voucher.cumulativeAtomic < state.settledAtomic then
    .error (.belowSettled voucher.cumulativeAtomic state.settledAtomic)
  else if state.depositedAtomic < voucher.cumulativeAtomic then
    .error (.overDraw voucher.cumulativeAtomic state.depositedAtomic)
  else .ok ()

variable {verifySignature}

/-- An accepted voucher advances the snapshot by exactly the billed cost, within the
deposit. -/
theorem verifyVoucher_ok {state : ChannelState} {voucher : Voucher} {billed slot : ℕ}
    (h : verifyVoucher verifySignature state voucher billed slot = .ok ()) :
    voucher.channelId = state.channelId ∧
      voucher.cumulativeAtomic = state.lastCumulativeAtomic + billed ∧
      voucher.cumulativeAtomic ≤ state.depositedAtomic := by
  unfold verifyVoucher at h
  split_ifs at h with h₁ h₂ h₃ h₄ h₅ h₆ h₇ h₈
  refine ⟨not_not.1 h₁, ?_, ?_⟩
  · omega
  · omega

end

/-- A decoded voucher is for the channel the payload names, carries the payload's numbers, and
the two that no later rule bounds fit a `BIGINT`. -/
theorem voucherFromPayload_ok {v : ChannelVoucherPayload} {voucher : Voucher}
    (h : voucherFromPayload v = .ok voucher) :
    decodeBs58Pubkey v.channelId = some voucher.channelId ∧
      voucher.cumulativeAtomic = v.cumulativeAtomic ∧ voucher.expirySlot = v.expirySlot ∧
      voucher.nonce = v.nonce ∧ v.expirySlot ≤ i64Max ∧ v.nonce ≤ i64Max := by
  unfold voucherFromPayload at h
  split at h
  · exact absurd h (by simp)
  · rename_i channelId hid
    split_ifs at h with hnonce hexpiry
    split at h
    · exact absurd h (by simp)
    · split at h
      · exact absurd h (by simp)
      · obtain rfl := Except.ok.inj h
        exact ⟨hid, rfl, rfl, rfl, not_lt.1 hexpiry, not_lt.1 hnonce⟩

end Solvela.Channel
