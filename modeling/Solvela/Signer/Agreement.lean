import Solvela.Signer.DepositParity

/-!
# The two signers agree

The messages, the header and the deposit, together. The vector that both builders pin,
`GOLDEN_VECTOR_B64`, is an instance.
-/

namespace Solvela.Signer

open Solvela.ChannelLedger Solvela.Channel
open Solvela.Client (PaymentAccept)

/-- The voucher is stored exactly when its nonce and its expiry fit an `i64`. -/
theorem storable_cases (voucher : Voucher) :
    (voucher.nonce ≤ i64Max → voucher.expirySlot ≤ i64Max →
      Tracker.storable voucher = .ok voucher) ∧
    (i64Max < voucher.nonce ∨ i64Max < voucher.expirySlot →
      ∃ e, Tracker.storable voucher = .error e) := by
  constructor
  · intro hnonce hexpiry
    rw [Tracker.storable, if_neg (not_lt.2 hnonce), if_neg (not_lt.2 hexpiry)]
  · intro hover
    rw [Tracker.storable]
    by_cases hnonce : i64Max < voucher.nonce
    · exact ⟨_, if_pos hnonce⟩
    · have hexpiry := hover.resolve_left hnonce
      exact ⟨_, by rw [if_neg hnonce, if_pos hexpiry]⟩

/-- TypeScript and Rust sign the same bytes, the gateway reads the voucher back from the header
unless its nonce or expiry cannot be stored, and every deposit that TypeScript builds Rust builds
too. The header's timeout has to print as a `u64`, and the key pair to be one. -/
theorem typescript_signers_match_rust (prims : Primitives) (bs58Error : String → String)
    (findProgramAddressSync : List (List UInt8) → Pubkey → Except String (Pubkey × ℕ))
    (hfind : ∀ seeds programId found, findProgramAddressSync seeds programId = .ok found →
      Rs.findProgramAddress prims seeds programId = some found)
    (bs58Encode : List UInt8 → String) (numberText : ℚ → String)
    (parseJson : String → Option JsonValue) :
    (∀ (channelId : Pubkey) (requestDigest : Vector UInt8 32) (cumulative expirySlot nonce : ℕ),
      cumulative ≤ u64Max → expirySlot ≤ u64Max → nonce ≤ u64Max →
        Ts.buildVoucherMessage channelId.toList cumulative expirySlot nonce
            requestDigest.toList =
          .ok (Channel.buildVoucherMessage channelId cumulative expirySlot nonce
            requestDigest)) ∧
    (∀ channelId : Pubkey,
      Ts.buildCloseMessage channelId.toList = .ok (buildCloseMessage channelId)) ∧
    (∀ (voucher : Voucher) (accept : PaymentAccept) (resourceUrl : String)
        (maxTimeoutSeconds : ℕ), InU64 voucher →
      decodeBs58Pubkey (bs58Encode voucher.channelId.toList) = some voucher.channelId →
      unsignedField u64Max (some (.num (numberText accept.maxTimeoutSeconds))) =
        some maxTimeoutSeconds →
      parseJson (jsonText (headerValue numberText accept resourceUrl
          (payloadOf bs58Encode voucher))) =
        some (headerValue numberText accept resourceUrl (payloadOf bs58Encode voucher)) →
      ∃ header payload,
        Ts.buildChannelPaymentHeader bs58Encode numberText
          (headerParams voucher accept resourceUrl) = .ok header ∧
        decodePaymentHeader parseJson header =
          .ok ⟨2, ⟨resourceUrl, "POST"⟩, acceptedOf accept maxTimeoutSeconds,
            .channel payload⟩ ∧
        (voucher.nonce ≤ i64Max → voucher.expirySlot ≤ i64Max →
          voucherFromPayload payload = .ok voucher) ∧
        (i64Max < voucher.nonce ∨ i64Max < voucher.expirySlot →
          ∃ e, voucherFromPayload payload = .error e)) ∧
    (∀ (params : Ts.EscrowDepositParams) (tx keypairB58 : String),
      params.keypair.Valid prims →
      bs58Decode keypairB58 = some params.keypair.secretKey.toList →
      Ts.buildEscrowDepositTx prims findProgramAddressSync params = .ok tx →
      ∃ params', params'.agentKeypairB58 = keypairB58 ∧ SameInputs params params' ∧
        params'.amount ≤ u64Max ∧ params'.expirySlot ≤ u64Max ∧
        Rs.buildDepositTx prims bs58Error params' = .ok tx) := by
  refine ⟨?_, ?_, ?_, ?_⟩
  · intro channelId requestDigest cumulative expirySlot nonce hc he hn
    exact buildVoucherMessage_eq channelId requestDigest hc he hn
  · exact buildCloseMessage_eq
  · intro voucher accept resourceUrl maxTimeoutSeconds hrange hid htimeout hparse
    refine ⟨_, _, buildChannelPaymentHeader_eq bs58Encode numberText voucher accept resourceUrl
      hrange, decodePaymentHeader_header bs58Encode numberText voucher parseJson hrange hparse
      htimeout, ?_⟩
    -- the columns of the store are signed, the texts of the header are not
    rw [voucherFromPayload_payloadOf bs58Encode voucher hid]
    exact storable_cases voucher
  · intro params tx keypairB58 hvalid hkeypair h
    obtain ⟨params', hb58, hsame, hpos, hmax, hexpiryMax⟩ := sameInputs_of_ts h hkeypair
    exact ⟨params', hb58, hsame, hmax, hexpiryMax,
      buildDepositTx_of_ts bs58Error hfind hsame hvalid hpos hmax hexpiryMax h⟩

/-! ## The golden vector -/

/-- `GOLDEN_VECTOR_B64`. -/
def goldenVectorB64 : String :=
  "Ad449R7ht12UKokgbDUYh29Ey/wDEwPioT/QtJOPKwSO4RHIaFRqS0DH+bPpEo2vCK78jbRLpP/6FV/5TY+q" ++
  "Lw8BAAYKGX9rI+FshTLGq8g4+s1ep4m+DHaykgM0A5v6iz02jWFyvMLyv5o/k5XBGVxL9QMaEsQP6v01aK7n" ++
  "Xazb0N/wMBS12eVticTdq8DzgM47jC/J8D1uNnFG6ZNqwpSU6GOelSnAbR4dY/56biCP6roeTxLQ8Q4TL7a2" ++
  "ArnBn2RW9HJ+jAiHYL/eHd3PMsF/IJuCQu5SqvEx+s2I0OosbQsG8sb6evO+2606PWXzaqvJdDGxu+TC0vbg" ++
  "5HymAgNFL11hBt324ddloZPZy+FGzut5rBy0he1fWzeROoz1hX7/AKmMlyWPTiSJ8bs9ECkUjg2DC1oTmdr/" ++
  "EIQEjnvY2+n4WQAAAAAAAAAAAAAAAAAAAAAAAAAAAAAAAAAAAAAAAAAAgo61GtoIM8r3akxjdsa2N5CEHZ8Q" ++
  "BYuAbfwPDOL78eGrq6urq6urq6urq6urq6urq6urq6urq6urq6urq6urqwEJCQAEBQECAwYHCDjyI8aJUuHy" ++
  "tkEKAAAAAAAABwcHBwcHBwcHBwcHBwcHBwcHBwcHBwcHBwcHBwcHBwcuRQ8AAAAAAA=="

/-- The public key of the seed of forty-twos. -/
def goldenAgent : Pubkey := #v[
  25, 127, 107, 35, 225, 108, 133, 50, 198, 171, 200, 56, 250, 205, 94, 167, 137, 190, 12, 118,
  178, 146, 3, 52, 3, 155, 250, 139, 61, 54, 141, 97]

/-- Its escrow address. -/
def goldenEscrowPda : Pubkey := #v[
  114, 188, 194, 242, 191, 154, 63, 147, 149, 193, 25, 92, 75, 245, 3, 26, 18, 196, 15, 234, 253,
  53, 104, 174, 231, 93, 172, 219, 208, 223, 240, 48]

/-- Its token account. -/
def goldenAgentAta : Pubkey := #v[
  20, 181, 217, 229, 109, 137, 196, 221, 171, 192, 243, 128, 206, 59, 140, 47, 201, 240, 61, 110,
  54, 113, 70, 233, 147, 106, 194, 148, 148, 232, 99, 158]

/-- The token account of the escrow. -/
def goldenVaultAta : Pubkey := #v[
  149, 41, 192, 109, 30, 29, 99, 254, 122, 110, 32, 143, 234, 186, 30, 79, 18, 208, 241, 14, 19,
  47, 182, 182, 2, 185, 193, 159, 100, 86, 244, 114]

/-- The signature of the deposit. -/
def goldenSignature : Vector UInt8 64 := #v[
  222, 56, 245, 30, 225, 183, 93, 148, 42, 137, 32, 108, 53, 24, 135, 111, 68, 203, 252, 3, 19, 3,
  226, 161, 63, 208, 180, 147, 143, 43, 4, 142, 225, 17, 200, 104, 84, 106, 75, 64, 199, 249, 179,
  233, 18, 141, 175, 8, 174, 252, 141, 180, 75, 164, 255, 250, 21, 95, 249, 77, 143, 170, 47, 15]

/-- The SHA-256 of `global:deposit`. -/
def depositHash : Vector UInt8 32 := #v[
  242, 35, 198, 137, 82, 225, 242, 182, 79, 127, 223, 141, 180, 103, 99, 254, 210, 245, 57, 135,
  53, 110, 103, 148, 136, 216, 44, 10, 166, 66, 128, 159]

/-- The hash that the vault gets with bump 255, a point of the curve. -/
def vaultHash255 : Pubkey := #v[
  176, 125, 115, 221, 144, 54, 27, 135, 42, 143, 84, 98, 34, 44, 36, 53, 157, 174, 195, 130, 95,
  184, 121, 119, 28, 148, 91, 162, 22, 75, 119, 192]

/-- The hash that the vault gets with bump 254, a point of the curve. -/
def vaultHash254 : Pubkey := #v[
  167, 60, 251, 176, 37, 107, 116, 3, 23, 107, 170, 167, 240, 117, 10, 74, 30, 119, 130, 4, 42,
  136, 158, 140, 132, 222, 100, 212, 146, 55, 252, 91]

/-- The hash that the vault gets with bump 253, a point of the curve. -/
def vaultHash253 : Pubkey := #v[
  39, 109, 17, 148, 55, 134, 126, 242, 187, 33, 197, 115, 243, 173, 135, 200, 194, 119, 82, 151,
  157, 14, 39, 98, 246, 54, 90, 194, 146, 187, 51, 217]

/-- The hash that the vault gets with bump 252, a point of the curve. -/
def vaultHash252 : Pubkey := #v[
  189, 222, 90, 196, 121, 151, 29, 21, 216, 255, 79, 22, 237, 141, 54, 85, 43, 112, 13, 61, 95,
  128, 15, 0, 172, 104, 11, 254, 137, 108, 81, 197]

/-- The public key of another seed. -/
def otherAgent : Pubkey := #v[
  30, 42, 19, 124, 127, 226, 39, 159, 157, 127, 6, 68, 3, 10, 14, 156, 11, 69, 247, 129, 220, 231,
  26, 228, 81, 156, 15, 67, 132, 3, 22, 84]

/-- Its escrow address. -/
def otherEscrowPda : Pubkey := #v[
  223, 227, 122, 164, 6, 167, 130, 16, 180, 124, 3, 176, 68, 239, 187, 220, 30, 58, 197, 130, 233,
  53, 60, 115, 232, 198, 76, 227, 163, 191, 129, 205]

/-- Its token account. -/
def otherAgentAta : Pubkey := #v[
  70, 129, 225, 142, 75, 116, 51, 127, 118, 169, 107, 225, 192, 248, 107, 87, 251, 38, 173, 44,
  79, 111, 118, 26, 180, 244, 19, 50, 131, 162, 156, 239]

/-- The token account of that escrow. -/
def otherVaultAta : Pubkey := #v[
  157, 213, 101, 119, 41, 79, 32, 160, 28, 157, 232, 164, 125, 126, 207, 54, 118, 160, 107, 218,
  231, 250, 29, 126, 131, 41, 185, 141, 22, 213, 184, 244]

/-- The deposit of the other key, signed by the seed of forty-twos. -/
def otherSignature : Vector UInt8 64 := #v[
  0, 156, 128, 209, 203, 210, 79, 45, 19, 138, 31, 108, 170, 134, 22, 79, 85, 51, 39, 31, 48, 152,
  177, 178, 204, 98, 63, 135, 163, 142, 173, 127, 25, 57, 69, 30, 163, 138, 228, 102, 28, 34, 73,
  159, 14, 67, 203, 70, 108, 77, 241, 123, 61, 31, 33, 74, 70, 9, 180, 182, 232, 93, 183, 9]

/-- The primitives on the inputs of the golden vector, and of the same deposit under the other
key. -/
def goldenPrims : Primitives where
  sha256 bytes :=
    if bytes = textBytes "global:deposit" then depositHash
    else if bytes.take 6 = textBytes "escrow" then
      if (bytes.drop 6).take 32 = goldenAgent.toList then goldenEscrowPda else otherEscrowPda
    else if bytes.take 32 = goldenAgent.toList then goldenAgentAta
    else if bytes.take 32 = otherAgent.toList then otherAgentAta
    else if bytes.take 32 = otherEscrowPda.toList then otherVaultAta
    else
      -- four bumps give a point of the curve
      match bytes.getD 96 0 with
      | 255 => vaultHash255
      | 254 => vaultHash254
      | 253 => vaultHash253
      | 252 => vaultHash252
      | _ => goldenVaultAta
  isOnCurve key :=
    !(List.contains [goldenEscrowPda, goldenAgentAta, goldenVaultAta, otherEscrowPda, otherAgentAta,
      otherVaultAta] key)
  publicKey _ := goldenAgent
  sign _ message :=
    if (message.drop 4).take 32 = goldenAgent.toList then goldenSignature else otherSignature

/-- `findProgramAddressSync` of web3.js, which finds what Rust finds. -/
def syncOf (prims : Primitives) (seeds : List (List UInt8)) (programId : Pubkey) :
    Except String (Pubkey × ℕ) :=
  match Rs.findProgramAddress prims seeds programId with
  | some found => .ok found
  | none => .error "Unable to find a viable program address nonce"

theorem syncOf_ok {prims : Primitives} {seeds : List (List UInt8)} {programId : Pubkey}
    {found : Pubkey × ℕ} (h : syncOf prims seeds programId = .ok found) :
    Rs.findProgramAddress prims seeds programId = some found := by
  rw [syncOf] at h
  split at h
  · rename_i found' hfound
    cases h
    exact hfound
  · cases h

/-- The seed of forty-twos with a public key. -/
def goldenSecretKey (publicKey : Pubkey) : Vector UInt8 64 :=
  Vector.replicate 32 (42 : UInt8) ++ publicKey

/-- The parameters of the golden vector, with the key pair that carries a public key. -/
def goldenDeposit (publicKey : Pubkey) : Ts.EscrowDepositParams where
  keypair := ⟨publicKey, goldenSecretKey publicKey⟩
  providerWalletB58 := "9WzDXwBbmkg8ZTbNMqUxvQRAyrZzDsGYdLVL9zYtAWWM"
  usdcMintB58 := "EPjFWdd5AufqSSqeM2qN1xzybapC8G4wEGGkZwyTDt1v"
  escrowProgramIdB58 := "9neDHouXgEgHZDde5SpmqqEZ9Uv35hFcjtFEPxomtHLU"
  amount := .finite 2625
  serviceId := List.replicate 32 7
  expirySlot := .finite 1000750
  recentBlockhash := List.replicate 32 0xAB

/-- The key pair in base58. -/
def goldenKeypairB58 : String :=
  "qtstFmGTeYMvMzbdkCymFj2xvXsZV7jqa6guP2sgP9E5TrUVQpJAf5DRdD84mBwWAqYhKAvcaw6gTfCgXsyDVDS"

theorem goldenDeposit_built :
    Ts.buildEscrowDepositTx goldenPrims (syncOf goldenPrims) (goldenDeposit goldenAgent) =
      .ok goldenVectorB64 := by
  have hwire : (Ts.depositWire goldenPrims (syncOf goldenPrims) (goldenDeposit goldenAgent)).map
      base64Chars = .ok (textBytes goldenVectorB64) := by
    decide +kernel
  obtain ⟨wire, hwire, hchars⟩ := map_ok.1 hwire
  rw [Ts.buildEscrowDepositTx, hwire]
  exact congrArg Except.ok (base64Encode_eq hchars)

/-- The key that names the golden channel. -/
def goldenAgentB58 : String := "2iXtA8oeZqUU5pofxK971TCEvFGfems2AcDRaZHKD2pQ"

/-- A voucher whose cumulative no double holds. -/
def goldenVoucher : Voucher where
  channelId := goldenAgent
  cumulativeAtomic := 2 ^ 53 + 1
  expirySlot := 1000750
  nonce := i64Max
  requestDigest := Vector.replicate 32 7
  signature := goldenSignature

/-- An accept with a timeout. -/
def goldenAccept (maxTimeoutSeconds : ℚ) : PaymentAccept where
  scheme := "channel"
  network := "solana:5eykt4UsFv8P8NJdTREpY1vzqKqZKvdp"
  amount := "2625"
  asset := "EPjFWdd5AufqSSqeM2qN1xzybapC8G4wEGGkZwyTDt1v"
  payTo := "9WzDXwBbmkg8ZTbNMqUxvQRAyrZzDsGYdLVL9zYtAWWM"
  maxTimeoutSeconds := maxTimeoutSeconds
  escrowProgramId := none

/-- `JSON.stringify` of the two timeouts. -/
def goldenNumberText (value : ℚ) : String :=
  if value = 2 ^ 64 then "18446744073709552000" else "300"

/-- The golden header's JSON value. -/
def goldenHeaderValue (maxTimeoutSeconds : ℚ) : JsonValue :=
  headerValue goldenNumberText (goldenAccept maxTimeoutSeconds) "/v1/chat/completions"
    (payloadOf (fun _ => goldenAgentB58) goldenVoucher)

/-- `serde_json::from_str` on the header: the JSON text is an object, its base64 is no JSON. -/
def goldenParseJson (maxTimeoutSeconds : ℚ) (text : String) : Option JsonValue :=
  if (textBytes text).head? = some (UInt8.ofNat 123) then
    some (goldenHeaderValue maxTimeoutSeconds)
  else none

theorem textBytes_append (s t : String) : textBytes (s ++ t) = textBytes s ++ textBytes t := by
  show (s ++ t).toByteArray.data.toList = _
  rw [String.toByteArray_append, ByteArray.data_append, Array.toList_append]
  rfl

theorem goldenVoucher_inU64 : InU64 goldenVoucher := by
  refine ⟨?_, ?_, ?_⟩
  all_goals
    decide

theorem goldenParseJson_text (maxTimeoutSeconds : ℚ) :
    goldenParseJson maxTimeoutSeconds (jsonText (goldenHeaderValue maxTimeoutSeconds)) =
      some (goldenHeaderValue maxTimeoutSeconds) := by
  have hhead : (textBytes (jsonText (goldenHeaderValue maxTimeoutSeconds))).head? =
      some (UInt8.ofNat 123) := by
    rw [goldenHeaderValue, headerValue, jsonText, textBytes_append, textBytes_append]
    rfl
  rw [goldenParseJson, if_pos hhead]

theorem goldenParseJson_base64 (maxTimeoutSeconds : ℚ) (bytes : List UInt8) :
    goldenParseJson maxTimeoutSeconds (base64Encode bytes) = none := by
  have hhead : (textBytes (base64Encode bytes)).head? ≠ some (UInt8.ofNat 123) := by
    rw [base64Encode, textBytes_asciiText (base64Chars_lt bytes)]
    intro hhead
    have hmem := (base64Chars_alphabet bytes _ (List.mem_of_head? hhead)).1
    exact absurd hmem (by decide)
  rw [goldenParseJson, if_neg hhead]

/-- Three hundred seconds, and the golden vector. -/
theorem golden_signers_match_rust :
    (∃ header payload,
      Ts.buildChannelPaymentHeader (fun _ => goldenAgentB58) goldenNumberText
        (headerParams goldenVoucher (goldenAccept 300) "/v1/chat/completions") = .ok header ∧
      decodePaymentHeader (goldenParseJson 300) header =
        .ok ⟨2, ⟨"/v1/chat/completions", "POST"⟩, acceptedOf (goldenAccept 300) 300,
          .channel payload⟩ ∧
      voucherFromPayload payload = .ok goldenVoucher) ∧
    ∃ params', params'.agentKeypairB58 = goldenKeypairB58 ∧
      SameInputs (goldenDeposit goldenAgent) params' ∧
      Rs.buildDepositTx goldenPrims (fun _ => "") params' = .ok goldenVectorB64 := by
  obtain ⟨-, -, hheader, hdeposit⟩ := typescript_signers_match_rust goldenPrims (fun _ => "")
    (syncOf goldenPrims) (fun _ _ _ h => syncOf_ok h) (fun _ => goldenAgentB58) goldenNumberText
    (goldenParseJson 300)
  constructor
  · obtain ⟨header, payload, hbuilt, hdecoded, hvoucher, -⟩ := hheader goldenVoucher
      (goldenAccept 300) "/v1/chat/completions" 300 goldenVoucher_inU64 (by decide +kernel)
      (by decide +kernel) (goldenParseJson_text 300)
    exact ⟨header, payload, hbuilt, hdecoded, hvoucher (by decide) (by decide)⟩
  · obtain ⟨params', hb58, hsame, -, -, htx⟩ := hdeposit (goldenDeposit goldenAgent)
      goldenVectorB64 goldenKeypairB58 ⟨by decide +kernel, by decide +kernel⟩ (by decide +kernel)
      goldenDeposit_built
    exact ⟨params', hb58, hsame, htx⟩

/-- The same 64 bytes for Rust. -/
def otherKeypairB58 : String :=
  "qtstFmGTeYMvMzbdkCymFj2xvXsZV7jqa6guP2sgP9E5n533RPhmcxyCHWd8iYQbRutJE7e2rDzxwLbpwPKrt3m"

/-- The other key's deposit for Rust. -/
def otherDeposit : Rs.DepositParams where
  agentKeypairB58 := otherKeypairB58
  providerWalletB58 := (goldenDeposit otherAgent).providerWalletB58
  usdcMintB58 := (goldenDeposit otherAgent).usdcMintB58
  escrowProgramIdB58 := (goldenDeposit otherAgent).escrowProgramIdB58
  amount := 2625
  serviceId := Vector.replicate 32 7
  expirySlot := 1000750
  recentBlockhash := Vector.replicate 32 0xAB

/-- A timeout of `2 ^ 64` seconds, which the client takes, makes a header that does not decode;
and a key pair whose halves do not belong together, which web3.js makes when told to skip its
check, makes a deposit that Rust refuses. -/
theorem huge_timeout_and_mismatched_keypair_differ :
    (∃ header,
      Ts.buildChannelPaymentHeader (fun _ => goldenAgentB58) goldenNumberText
        (headerParams goldenVoucher (goldenAccept (2 ^ 64)) "/v1/chat/completions") =
          .ok header ∧
      decodePaymentHeader (goldenParseJson (2 ^ 64)) header =
        .error "unable to decode payment header: not valid base64 or JSON") ∧
    (∃ tx, Ts.buildEscrowDepositTx goldenPrims (syncOf goldenPrims) (goldenDeposit otherAgent) =
      .ok tx) ∧
    SameInputs (goldenDeposit otherAgent) otherDeposit ∧
    Rs.buildDepositTx goldenPrims (fun _ => "") otherDeposit =
      .error (.invalidKeypair
        "ed25519 error: signature error: Mismatched Keypair detected") := by
  refine ⟨⟨_, buildChannelPaymentHeader_eq _ _ goldenVoucher _ _ goldenVoucher_inU64, ?_⟩, ?_,
    ?_, ?_⟩
  · apply decodePaymentHeader_timeout _ _ _ _ goldenVoucher_inU64 (goldenParseJson_text _)
    · decide +kernel
    · apply goldenParseJson_base64
  · have hwire : (Ts.depositWire goldenPrims (syncOf goldenPrims) (goldenDeposit
        otherAgent)).isOk = true := by
      decide +kernel
    cases hresult : Ts.depositWire goldenPrims (syncOf goldenPrims) (goldenDeposit
        otherAgent) with
    | error e =>
      rw [hresult] at hwire
      cases hwire
    | ok wire => exact ⟨_, map_ok.2 ⟨wire, hresult, rfl⟩⟩
  · exact ⟨by decide +kernel, rfl, rfl, rfl, rfl, rfl, rfl, rfl⟩
  · decide +kernel

end Solvela.Signer
