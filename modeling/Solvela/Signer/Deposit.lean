import Solvela.Signer.ChannelWire

/-!
# The escrow deposit transaction, in TypeScript and in Rust

`escrow.ts` of signer-core builds the signed deposit by hand, as `deposit.rs` and `pda.rs` of the
escrow-tx crate do: a legacy message whose accounts are sorted by writability, one instruction,
one signature, all in base64.

SHA-256, the curve test and ed25519 are the fields of `Primitives`, the same in both languages.
`findProgramAddressSync` is the loop of web3.js, and `bs58Error` the text of the bs58 crate's
error.
-/

namespace Solvela.Signer

open Solvela.ChannelLedger Solvela.Channel

/-- The primitives under both builders. -/
structure Primitives where
  sha256 : List UInt8 → Vector UInt8 32
  /-- The bytes are a compressed point of the ed25519 curve. -/
  isOnCurve : Pubkey → Bool
  /-- The public key of a seed. -/
  publicKey : Vector UInt8 32 → Pubkey
  /-- The signature of a message under a seed. -/
  sign : Vector UInt8 32 → List UInt8 → Vector UInt8 64

/-- Base58: each leading `1` is a zero byte, the rest is the big-endian number. -/
def bs58Decode (s : String) : Option (List UInt8) := do
  let n ← bs58Value (textBytes s)
  let zeros := ((textBytes s).takeWhile fun b => b.toNat == '1'.toNat).length
  some (List.replicate zeros 0 ++
    (List.range (byteLength n)).map fun i => UInt8.ofNat (n / 256 ^ (byteLength n - 1 - i) % 256))

/-- The first 32 of 64 bytes. -/
def seedHalf (secretKey : Vector UInt8 64) : Vector UInt8 32 :=
  Vector.ofFn fun i => secretKey[i.val]

/-- The last 32 of 64 bytes. -/
def publicHalf (secretKey : Vector UInt8 64) : Vector UInt8 32 :=
  Vector.ofFn fun i => secretKey[32 + i.val]

/-- `TOKEN_PROGRAM_ID`. -/
def tokenProgramIdB58 : String := "TokenkegQfeZyiNwAJbNbGKPFXCWuBvf9Ss623VQ5DA"

/-- `ATA_PROGRAM_ID`. -/
def ataProgramIdB58 : String := "ATokenGPvbdGVxr1b2hvZbsiqW5xWH25efTNsLJA8knL"

/-- `SYSTEM_PROGRAM_ID`. -/
def systemProgramIdB58 : String := "11111111111111111111111111111111"

/-! ## Rust -/

namespace Rs

/-- `DepositError`. -/
inductive DepositError
  | zeroAmount
  | invalidKeypair (reason : String)
  | invalidAddress (field reason : String)
  | derivationFailed (what : String)
  | messageTooLong (field : String) (len : ℕ)
deriving DecidableEq

/-- `DepositParams`. -/
structure DepositParams where
  agentKeypairB58 : String
  providerWalletB58 : String
  usdcMintB58 : String
  escrowProgramIdB58 : String
  amount : ℕ
  serviceId : Vector UInt8 32
  expirySlot : ℕ
  recentBlockhash : Vector UInt8 32

/-- `UnsignedDepositParams`. -/
structure UnsignedDepositParams where
  agentPubkey : Pubkey
  providerWalletB58 : String
  usdcMintB58 : String
  escrowProgramIdB58 : String
  amount : ℕ
  serviceId : Vector UInt8 32
  expirySlot : ℕ
  recentBlockhash : Vector UInt8 32

section
variable (prims : Primitives) (bs58Error : String → String)

/-- `decode_bs58_pubkey`. -/
def decodeBs58Pubkey (s : String) : Except String Pubkey :=
  match bs58Decode s with
  | none => .error ("invalid base58: " ++ bs58Error s)
  | some bytes =>
    match exactBytes 32 bytes with
    | none => .error s!"expected 32 bytes, got {bytes.length}"
    | some key => .ok key

/-- The address that a bump gives, if it is off the curve. -/
def programAddress (seeds : List (List UInt8)) (programId : Pubkey) (nonce : ℕ) :
    Option Pubkey :=
  let bytes := prims.sha256 (seeds.flatten ++ [UInt8.ofNat nonce] ++ programId.toList ++
    textBytes "ProgramDerivedAddress")
  if prims.isOnCurve bytes then none else some bytes

/-- `find_program_address`: the highest bump whose address is off the curve. -/
def findProgramAddress (seeds : List (List UInt8)) (programId : Pubkey) : Option (Pubkey × ℕ) :=
  (List.range 256).reverse.findSome? fun nonce =>
    (programAddress prims seeds programId nonce).map (·, nonce)

/-- `derive_ata_address`. -/
def deriveAtaAddress (wallet mint : Pubkey) : Option Pubkey := do
  let tokenProgram ← (decodeBs58Pubkey bs58Error tokenProgramIdB58).toOption
  let ataProgram ← (decodeBs58Pubkey bs58Error ataProgramIdB58).toOption
  (findProgramAddress prims [wallet.toList, tokenProgram.toList, mint.toList] ataProgram).map
    Prod.fst

/-- `anchor_discriminator`. -/
def anchorDiscriminator (name : String) : List UInt8 :=
  (prims.sha256 (textBytes ("global:" ++ name))).toList.take 8

/-- `build_legacy_message`. -/
def buildLegacyMessage (header : List UInt8) (accounts : List Pubkey)
    (programId recentBlockhash : Pubkey) (programIdIndex : UInt8)
    (ixAccountIndices ixData : List UInt8) : Except DepositError (List UInt8) :=
  let totalAccounts := accounts.length + 1
  if 127 < totalAccounts then .error (.messageTooLong "account count" totalAccounts)
  else if 127 < ixAccountIndices.length then
    .error (.messageTooLong "instruction account count" ixAccountIndices.length)
  else if 127 < ixData.length then
    .error (.messageTooLong "instruction data length" ixData.length)
  else
    let msg := header ++ [UInt8.ofNat totalAccounts]
    let msg := accounts.foldl (fun msg acc => msg ++ acc.toList) msg
    let msg := msg ++ programId.toList ++ recentBlockhash.toList ++ [1] ++ [programIdIndex]
    let msg := msg ++ [UInt8.ofNat ixAccountIndices.length] ++ ixAccountIndices
    .ok (msg ++ [UInt8.ofNat ixData.length] ++ ixData)

/-- An address of the parameters, with the name of its field. -/
def addressField (field b58 : String) : Except DepositError Pubkey :=
  (decodeBs58Pubkey bs58Error b58).mapError (.invalidAddress field)

/-- `ok_or(DerivationFailed)`. -/
def derived {α : Type} (what : String) : Option α → Except DepositError α
  | none => .error (.derivationFailed what)
  | some address => .ok address

/-- `build_deposit_message`. -/
def buildDepositMessage (params : UnsignedDepositParams) : Except DepositError (List UInt8) :=
  if params.amount = 0 then .error .zeroAmount
  else do
    let provider ← addressField bs58Error "provider_wallet" params.providerWalletB58
    let usdcMint ← addressField bs58Error "usdc_mint" params.usdcMintB58
    let escrowProgramId ← addressField bs58Error "escrow_program_id" params.escrowProgramIdB58
    let tokenProgram ← addressField bs58Error "token_program" tokenProgramIdB58
    let ataProgram ← addressField bs58Error "ata_program" ataProgramIdB58
    let systemProgram ← addressField bs58Error "system_program" systemProgramIdB58
    let (escrowPda, _) ← derived "escrow PDA" (findProgramAddress prims
      [textBytes "escrow", params.agentPubkey.toList, params.serviceId.toList] escrowProgramId)
    let agentAta ← derived "agent ATA"
      (deriveAtaAddress prims bs58Error params.agentPubkey usdcMint)
    let vaultAta ← derived "vault ATA" (deriveAtaAddress prims bs58Error escrowPda usdcMint)
    let ixData := anchorDiscriminator prims "deposit" ++ leBytes params.amount ++
      params.serviceId.toList ++ leBytes params.expirySlot
    -- the accounts the program expects, by their place in the sorted list
    let ixAccountIndices := [0, 4, 5, 1, 2, 3, 6, 7, 8]
    buildLegacyMessage [1, 0, 6]
      [params.agentPubkey, escrowPda, agentAta, vaultAta, provider, usdcMint, tokenProgram,
        ataProgram, systemProgram]
      escrowProgramId params.recentBlockhash 9 ixAccountIndices ixData

/-- `SigningKey::from_keypair_bytes`: the seed, when the public half is its public key. -/
def fromKeypairBytes (bytes : Vector UInt8 64) : Except String (Vector UInt8 32) :=
  if prims.isOnCurve (publicHalf bytes) = false then
    .error "signature error: Cannot decompress Edwards point"
  else if prims.publicKey (seedHalf bytes) ≠ publicHalf bytes then
    .error "signature error: Mismatched Keypair detected"
  else .ok (seedHalf bytes)

/-- The keypair of the parameters: its 64 bytes. -/
def keypairBytes (b58 : String) : Except DepositError (Vector UInt8 64) :=
  match bs58Decode b58 with
  | none => .error (.invalidKeypair ("invalid base58: " ++ bs58Error b58))
  | some bytes =>
    match exactBytes 64 bytes with
    | none => .error (.invalidKeypair s!"must be 64 bytes, got {bytes.length}")
    | some keypair => .ok keypair

/-- `build_deposit_tx`. -/
def buildDepositTx (params : DepositParams) : Except DepositError String :=
  if params.amount = 0 then .error .zeroAmount
  else do
    let keypair ← keypairBytes bs58Error params.agentKeypairB58
    let signingKey ← (fromKeypairBytes prims keypair).mapError fun e =>
      DepositError.invalidKeypair ("ed25519 error: " ++ e)
    let agentPubkey := prims.publicKey signingKey
    if publicHalf keypair ≠ agentPubkey then
      .error (.invalidKeypair "derived pubkey does not match stored pubkey")
    else do
      let msg ← buildDepositMessage prims bs58Error
        { agentPubkey := agentPubkey, providerWalletB58 := params.providerWalletB58
          usdcMintB58 := params.usdcMintB58, escrowProgramIdB58 := params.escrowProgramIdB58
          amount := params.amount, serviceId := params.serviceId
          expirySlot := params.expirySlot, recentBlockhash := params.recentBlockhash }
      .ok (base64Encode ([1] ++ (prims.sign signingKey msg).toList ++ msg))

end

end Rs

/-! ## TypeScript -/

namespace Ts

/-- A JavaScript number. -/
inductive Number
  | finite (value : ℚ)
  | notFinite

/-- `Number.isInteger`: the integer, when it is one. -/
def Number.integer? : Number → Option ℤ
  | finite value => if value.den = 1 then some value.num else none
  | notFinite => none

/-- `Number.MAX_SAFE_INTEGER`. -/
def maxSafeInteger : ℤ := 2 ^ 53 - 1

/-- A web3.js `Keypair`. -/
structure Keypair where
  publicKey : Pubkey
  secretKey : Vector UInt8 64

/-- `EscrowDepositParams`. -/
structure EscrowDepositParams where
  keypair : Keypair
  providerWalletB58 : String
  usdcMintB58 : String
  escrowProgramIdB58 : String
  amount : Number
  serviceId : List UInt8
  expirySlot : Number
  recentBlockhash : List UInt8

/-- `assertValidAmount`. -/
def assertValidAmount (amount : Number) : Except String Unit :=
  match amount.integer? with
  | none => .error "deposit amount must be an integer number of atomic USDC units"
  | some n =>
    if n ≤ 0 then .error "deposit amount must be greater than zero"
    else if maxSafeInteger < n then
      .error "deposit amount exceeds the safe-integer range (cannot encode as u64)"
    else .ok ()

/-- `Number.isSafeInteger`: the integer, when it is one. -/
def Number.safeInteger? (v : Number) : Option ℤ :=
  v.integer?.filter fun n => |n| ≤ maxSafeInteger

/-- `assertValidExpirySlot`. -/
def assertValidExpirySlot (expirySlot : Number) : Except String Unit :=
  match expirySlot.safeInteger? with
  | none => .error "expiry_slot must be a positive safe integer (<= Number.MAX_SAFE_INTEGER)"
  | some n => if n ≤ 0 then .error "expiry_slot must be a positive integer" else .ok ()

/-- `u64LE`: `BigInt` throws on a fraction and `writeBigUInt64LE` on what is out of range. -/
def u64LE (value : Number) : Except String (List UInt8) :=
  match value.integer? with
  | none => .error "The number cannot be converted to a BigInt because it is not an integer"
  | some n =>
    if n < 0 ∨ u64Max < n then .error "The value of \"value\" is out of range"
    else .ok (bigUint64Bytes n)

/-- `decodeBs58Pubkey`, with the constructor of `PublicKey` it goes through. -/
def decodeBs58Pubkey (field b58 : String) : Except String Pubkey :=
  match bs58Decode b58 with
  | none => .error s!"invalid address for {field}: Non-base58 character"
  | some bytes =>
    match exactBytes 32 bytes with
    | none => .error s!"invalid address for {field}: Invalid public key input"
    | some key => .ok key

/-- `buildLegacyMessage`: the parts, concatenated. -/
def buildLegacyMessage (header : List ℕ) (accounts : List (List UInt8))
    (programId recentBlockhash : List UInt8) (programIdIndex : ℕ)
    (ixAccountIndices ixData : List UInt8) : Except String (List UInt8) :=
  let totalAccounts := accounts.length + 1
  if 127 < totalAccounts then
    .error s!"account count {totalAccounts} exceeds the 127-byte compact-u16 single-byte limit"
  else if 127 < ixAccountIndices.length then
    .error (s!"instruction account count {ixAccountIndices.length} exceeds the 127-byte " ++
      "compact-u16 single-byte limit")
  else if 127 < ixData.length then
    .error (s!"instruction data length {ixData.length} exceeds the 127-byte compact-u16 " ++
      "single-byte limit")
  else
    .ok ([header.map UInt8.ofNat, [UInt8.ofNat totalAccounts]] ++ accounts ++
      [programId, recentBlockhash, [1], [UInt8.ofNat programIdIndex],
        [UInt8.ofNat ixAccountIndices.length], ixAccountIndices, [UInt8.ofNat ixData.length],
        ixData]).flatten

section
variable (prims : Primitives)
  (findProgramAddressSync : List (List UInt8) → Pubkey → Except String (Pubkey × ℕ))

/-- `anchorDiscriminator`. -/
def anchorDiscriminator (name : String) : List UInt8 :=
  (prims.sha256 (textBytes ("global:" ++ name))).toList.take 8

/-- `getAssociatedTokenAddressSync` of spl-token; its `TokenOwnerOffCurveError` has no text. -/
def getAssociatedTokenAddressSync (mint owner : Pubkey) (allowOwnerOffCurve : Bool)
    (programId associatedTokenProgramId : Pubkey) : Except String Pubkey :=
  if allowOwnerOffCurve = false ∧ prims.isOnCurve owner = false then
    .error ""
  else
    (findProgramAddressSync [owner.toList, programId.toList, mint.toList]
      associatedTokenProgramId).map Prod.fst

/-- `signMessage`: the seed is the first half of the secret key. -/
def signMessage (keypair : Keypair) (message : List UInt8) : List UInt8 :=
  (prims.sign (seedHalf keypair.secretKey) message).toList

/-- A length check of `buildEscrowDepositTx`. -/
def assertBytes (field : String) (bytes : List UInt8) (len : ℕ) : Except String Unit :=
  if bytes.length ≠ len then .error s!"{field} must be {len} bytes, got {bytes.length}"
  else .ok ()

/-- `buildEscrowDepositTx` up to the bytes of the transaction. -/
def depositWire (params : EscrowDepositParams) : Except String (List UInt8) := do
  assertValidAmount params.amount
  assertValidExpirySlot params.expirySlot
  assertBytes "service_id" params.serviceId 32
  assertBytes "recent_blockhash" params.recentBlockhash 32
  let agentPubkey := params.keypair.publicKey
  let provider ← decodeBs58Pubkey "provider_wallet" params.providerWalletB58
  let usdcMint ← decodeBs58Pubkey "usdc_mint" params.usdcMintB58
  let escrowProgram ← decodeBs58Pubkey "escrow_program_id" params.escrowProgramIdB58
  let tokenProgram ← decodeBs58Pubkey "token_program" tokenProgramIdB58
  let ataProgram ← decodeBs58Pubkey "ata_program" ataProgramIdB58
  let systemProgram ← decodeBs58Pubkey "system_program" systemProgramIdB58
  let (escrowPda, _) ← (findProgramAddressSync
    [textBytes "escrow", agentPubkey.toList, params.serviceId] escrowProgram).mapError
      ("failed to derive escrow PDA: " ++ ·)
  -- spl-token's own constants
  let agentAta ← (getAssociatedTokenAddressSync prims findProgramAddressSync usdcMint agentPubkey
    false tokenProgramId associatedTokenProgramId).mapError ("failed to derive ATA: " ++ ·)
  let vaultAta ← (getAssociatedTokenAddressSync prims findProgramAddressSync usdcMint escrowPda
    true tokenProgramId associatedTokenProgramId).mapError ("failed to derive ATA: " ++ ·)
  let amount ← u64LE params.amount
  let expirySlot ← u64LE params.expirySlot
  let ixData := anchorDiscriminator prims "deposit" ++ amount ++ params.serviceId ++ expirySlot
  assertBytes "deposit ix_data" ixData 56
  let ixAccountIndices := [0, 4, 5, 1, 2, 3, 6, 7, 8]
  let msg ← buildLegacyMessage [1, 0, 6]
    [agentPubkey.toList, escrowPda.toList, agentAta.toList, vaultAta.toList, provider.toList,
      usdcMint.toList, tokenProgram.toList, ataProgram.toList, systemProgram.toList]
    escrowProgram.toList params.recentBlockhash 9 ixAccountIndices ixData
  let signature := signMessage prims params.keypair msg
  if signature.length ≠ 64 then
    .error s!"unexpected ed25519 signature length {signature.length} (want 64)"
  else .ok ([1] ++ signature ++ msg)

/-- `buildEscrowDepositTx`. -/
def buildEscrowDepositTx (params : EscrowDepositParams) : Except String String :=
  (depositWire prims findProgramAddressSync params).map base64Encode

end

end Ts

end Solvela.Signer
