import Solvela.Faucet.Drip
import Solvela.Payment.ExactVerifier

/-!
# The escrow verifier

`EscrowVerifier::verify_payment` checks the first instruction of the message that calls the escrow
program; `settle_payment` reads the amount again, from the first one that is a `deposit`, and
submits the transaction. An RPC call is its answer: the JSON of the reply, or what went wrong on
the way.
-/

namespace Solvela.EscrowPayment

open Solvela.Lib (leValue)
open Solvela.Lib.Txn (except_bind_ok)
open Solvela.Faucet (isAlreadyProcessedError)
open Solvela.ChannelLedger
open Solvela.Channel (base64Decode exactBytes VerificationResult)
open Solvela.Client (digitsValue isDigits)
open Solvela.Payment hiding Externals verifyPayment
open Solvela.Signer

/-- `EscrowVerifier`'s configuration, in base58. -/
structure EscrowVerifier where
  recipientWallet : String
  usdcMint : String
  escrowProgramId : String

/-- The libraries that the verifier calls, with the texts of their errors. -/
structure Externals where
  prims : Primitives
  ed : Ed25519
  bs58Encode : List UInt8 → String
  bs58Error : String → String
  base64Error : String → String

/-- `MIN_EXPIRY_BUFFER_SLOTS`. -/
def minExpiryBufferSlots : ℕ := 50

/-- `Error::InvalidSignature`. -/
def invalidSignature (message : String) : VerifierError := .payment (.invalidSignature message)

/-- Fail with `e` if there is no value. -/
def orFail {α : Type} (e : VerifierError) : Option α → Except VerifierError α
  | none => .error e
  | some a => .ok a

/-- Fail with `e` unless `p` holds. -/
def ensure (p : Prop) [Decidable p] (e : VerifierError) : Except VerifierError Unit :=
  if p then .ok () else .error e

/-! ## The parts of the payload -/

/-- The deposit transaction, the service id and the agent, if the payload is an escrow one. -/
def escrowPayload : PayloadData → Except VerifierError (String × String × String)
  | .escrow depositTx serviceId agentPubkey => .ok (depositTx, serviceId, agentPubkey)
  | .direct _ =>
    .error (.payloadMismatch "EscrowVerifier received direct payload; expected escrow")
  | .channel _ =>
    .error (.payloadMismatch "EscrowVerifier received channel payload; expected escrow")

section
variable (ext : Externals)

/-- The service id behind its base64. -/
def decodeServiceId (text : String) : Except VerifierError (Vector UInt8 32) := do
  let bytes ← orFail (.invalidEncoding ("service_id base64: " ++ ext.base64Error text))
    (base64Decode (textBytes text))
  orFail (.invalidTransaction s!"service_id must be 32 bytes, got {bytes.length}")
    (exactBytes 32 bytes)

/-- `decode_bs58_pubkey`, with the verifier's error. -/
def decodeKey (what text : String) : Except VerifierError Pubkey :=
  (Rs.decodeBs58Pubkey ext.bs58Error text).mapError fun e =>
    .invalidTransaction (what ++ ": " ++ e)

/-- The deposit transaction behind its base64, with its first signature. -/
def decodeDepositTx (text : String) :
    Except VerifierError (VersionedTransaction × Signature) := do
  let bytes ← orFail (.invalidEncoding ("deposit_tx base64: " ++ ext.base64Error text))
    (base64Decode (textBytes text))
  let tx ← (VersionedTransaction.fromBytes bytes).mapError fun e =>
    .invalidTransaction ("failed to deserialize deposit tx: " ++ e.display)
  let signature ← orFail (invalidSignature "deposit transaction has no signatures")
    tx.signatures.head?
  .ok (tx, signature)

/-- The fee payer signed the message, and is the agent. -/
def checkSigner (tx : VersionedTransaction) (signature : Signature) (message : ParsedMessage)
    (agent : Pubkey) : Except VerifierError Unit := do
  let signer ← orFail (invalidSignature "transaction message has no account keys")
    message.accountKeys.head?
  (ext.ed.verifyingKey signer).mapError fun e =>
    invalidSignature ("invalid signer public key: " ++ e)
  (ext.ed.verify signer tx.messageBytes signature).mapError fun e =>
    invalidSignature ("ed25519 signature verification failed: " ++ e)
  ensure (signer = agent) (invalidSignature "signer does not match agent_pubkey")

/-! ## The instruction -/

/-- The arguments of `deposit`. -/
structure DepositArgs where
  amount : ℕ
  serviceId : Vector UInt8 32
  expirySlot : ℕ
deriving DecidableEq

/-- They stand behind the discriminator: `amount`, `service_id` and `expiry_slot`. -/
def depositArgs (data : List UInt8) : DepositArgs where
  amount := leValue ((data.drop 8).take 8)
  serviceId := bytesAt 32 data 16
  expirySlot := leValue ((data.drop 48).take 8)

/-- The instruction calls the program. -/
def callsProgram (message : ParsedMessage) (programId : Pubkey) (ix : CompiledInstruction) : Bool :=
  message.accountKeys[ix.programIdIndex.toNat]? == some programId

/-- The data starts with the discriminator of `deposit`. -/
def startsDeposit (ix : CompiledInstruction) : Bool :=
  decide (8 ≤ ix.data.length) && ix.data.take 8 == Rs.anchorDiscriminator ext.prims "deposit"

/-- `extract_deposit_amount`. -/
def extractDepositAmount (message : ParsedMessage) (programId : Pubkey) : Option ℕ := do
  let depositIx ← message.instructions.find? fun ix =>
    callsProgram message programId ix && startsDeposit ext ix
  if depositIx.data.length < 16 then none else some (depositArgs depositIx.data).amount

/-- The data of the instruction: a deposit for the service id, of the required amount or more. -/
def checkData (ix : CompiledInstruction) (requiredAmount : ℕ) (serviceId : Vector UInt8 32) :
    Except VerifierError DepositArgs := do
  ensure (56 ≤ ix.data.length) (.invalidTransaction
    s!"deposit instruction data too short: {ix.data.length} bytes (expected 56)")
  ensure (ix.data.take 8 = Rs.anchorDiscriminator ext.prims "deposit")
    (.invalidTransaction "instruction is not an Anchor deposit call")
  let args := depositArgs ix.data
  ensure (requiredAmount ≤ args.amount) (.insufficientPayment requiredAmount args.amount)
  ensure (args.serviceId = serviceId)
    (.invalidTransaction "instruction service_id does not match payload service_id")
  .ok args

/-- `get_key`: the account at a position of the instruction. -/
def getKey (message : ParsedMessage) (ix : CompiledInstruction) (pos : ℕ) :
    Except VerifierError Pubkey :=
  let idx := (ix.accounts.getD pos 0).toNat
  orFail (.invalidTransaction s!"account index {idx} out of range") message.accountKeys[idx]?

variable (verifier : EscrowVerifier)

/-- The accounts of the instruction: the agent, the gateway's wallet, the mint, the escrow address
and its vault. -/
def checkAccounts (message : ParsedMessage) (ix : CompiledInstruction) (agent escrow : Pubkey) :
    Except VerifierError Unit := do
  ensure (6 ≤ ix.accounts.length) (.invalidTransaction
    s!"deposit instruction has {ix.accounts.length} accounts, expected at least 6")
  let ixAgent ← getKey message ix 0
  ensure (ixAgent = agent) (invalidSignature
    "deposit instruction agent account does not match payload agent_pubkey")
  let recipient ← decodeKey ext "recipient_wallet config" verifier.recipientWallet
  let ixProvider ← getKey message ix 1
  ensure (ixProvider = recipient)
    (.wrongRecipient verifier.recipientWallet (ext.bs58Encode ixProvider.toList))
  let usdcMint ← decodeKey ext "usdc_mint config" verifier.usdcMint
  let ixMint ← getKey message ix 2
  ensure (ixMint = usdcMint) (.wrongAsset verifier.usdcMint (ext.bs58Encode ixMint.toList))
  let ixEscrow ← getKey message ix 3
  ensure (ixEscrow = escrow) (.invalidTransaction
    "deposit instruction escrow PDA does not match derived PDA")
  -- position 4, the agent's token account, is left to the program
  let vaultAta ← orFail (.invalidTransaction "failed to derive vault ATA for verification")
    (Rs.deriveAtaAddress ext.prims ext.bs58Error escrow usdcMint)
  let ixVault ← getKey message ix 5
  ensure (ixVault = vaultAta)
    (.wrongRecipient (ext.bs58Encode vaultAta.toList) (ext.bs58Encode ixVault.toList))

/-! ## Verification -/

/-- `Value::as_u64`. -/
def asU64 : JsonValue → Option ℕ
  | .num token =>
    if isDigits token.toList = true ∧ digitsValue token.toList ≤ u64Max then
      some (digitsValue token.toList)
    else none
  | _ => none

/-- `get_current_slot`, from the answer on. -/
def getCurrentSlot (answer : Except String JsonValue) : Except VerifierError ℕ := do
  let reply ← rpcRequest answer
  orFail (.rpc "getSlot did not return a u64 result")
    ((JsonValue.member reply "result").bind asU64)

/-- The last check: the deposit expires late enough for the gateway's claim. -/
def checkExpiry (expirySlot currentSlot : ℕ) : Except VerifierError Unit :=
  let buffer := expirySlot - currentSlot
  ensure (minExpiryBufferSlots ≤ buffer) (.invalidTransaction
    (s!"deposit expiry_slot {expirySlot} is too close to current slot {currentSlot} " ++
      s!"(buffer {buffer} < required {minExpiryBufferSlots})"))

/-- `verify_payment`, with the answer to `getSlot`. -/
def verifyPayment (payload : PaymentPayload) (slotAnswer : Except String JsonValue) :
    Except VerifierError VerificationResult := do
  let (depositTx, serviceIdText, agentText) ← escrowPayload payload.payload
  let serviceId ← decodeServiceId ext serviceIdText
  let agent ← decodeKey ext "agent_pubkey" agentText
  let programId ← decodeKey ext "escrow_program_id" verifier.escrowProgramId
  let (escrowPda, _) ← orFail (.invalidTransaction "failed to derive escrow PDA")
    (Rs.findProgramAddress ext.prims
      [textBytes "escrow", agent.toList, serviceId.toList] programId)
  let (tx, signature) ← decodeDepositTx ext depositTx
  let message ← parseMessage tx
  checkSigner ext tx signature message agent
  let requiredAmount ← orFail (.invalidTransaction "invalid amount format")
    (parseU64 payload.accepted.amount)
  let depositIx ← orFail
    (.invalidTransaction "no escrow program instruction found in deposit tx")
    (message.instructions.find? (callsProgram message programId))
  -- the transfer itself is made by the program: only the top-level call can be checked
  let args ← checkData ext depositIx requiredAmount serviceId
  checkAccounts ext verifier message depositIx agent escrowPda
  let currentSlot ← getCurrentSlot slotAnswer
  checkExpiry args.expirySlot currentSlot
  .ok ⟨true, none, some args.amount⟩

/-! ## Settlement -/

/-- `SettlementResult` of the escrow scheme, without the class of its failure. -/
structure EscrowSettlement extends Channel.SettlementResult where
  verifiedAmount : Option ℕ

/-- The `Display` of the errors. The encoding error of the accept path has lost its text. -/
def display : VerifierError → String
  | .payment .invalidEncoding => "invalid transaction encoding"
  | .payment (.invalidTransaction message) => "invalid transaction: " ++ message
  | .payment (.invalidSignature message) => "invalid signature: " ++ message
  | .invalidEncoding message => "invalid transaction encoding: " ++ message
  | .insufficientPayment expected actual =>
    s!"insufficient payment: expected {expected} atomic units, got {actual}"
  | .wrongRecipient expected actual => s!"wrong recipient: expected {expected}, got {actual}"
  | .wrongAsset expected actual => s!"wrong asset: expected {expected}, got {actual}"
  | .simulationFailed message => "transaction simulation failed: " ++ message
  | .settlementFailed message => "settlement failed: " ++ message
  | .rpc message => "rpc error: " ++ message
  | .payloadMismatch message => "payload type mismatch: " ++ message

/-- `Value::as_str`. -/
def asStr : JsonValue → Option String
  | .str text => some text
  | _ => none

/-- `send_transaction`, from the answer on. -/
def sendTransaction (answer : Except String JsonValue) : Except VerifierError String := do
  let reply ← rpcRequest answer
  orFail (.rpc "sendTransaction did not return a signature")
    ((JsonValue.member reply "result").bind asStr)

/-- The first entry of `result.value`, if the reply has one. -/
def firstStatus (reply : JsonValue) : Option JsonValue :=
  match (JsonValue.member reply "result").bind (JsonValue.member · "value") with
  | some (.arr (status :: _)) => some status
  | _ => none

/-- What one answer to `getSignatureStatuses` decides; `none` if the loop goes on. -/
def statusVerdict : Except String JsonValue → Option (Except VerifierError Unit)
  | .error _ => none
  | .ok reply =>
    match JsonValue.member reply "error", firstStatus reply with
    | none, some status =>
      -- an error decides before the status does; `processed` goes on
      match JsonValue.member status "err", JsonValue.member status "confirmationStatus" with
      | none, some (.str confirmation) | some .null, some (.str confirmation) =>
        if confirmation = "confirmed" ∨ confirmation = "finalized" then some (.ok ()) else none
      | none, _ | some .null, _ => none
      | some err, _ =>
        some (.error (.settlementFailed ("transaction failed on-chain: " ++ jsonText err)))
    | _, _ => none

/-- `poll_for_confirmation`, on the answers that come before its 30 seconds are over. -/
def pollForConfirmation : List (Except String JsonValue) → Except VerifierError Unit
  | [] => .error (.settlementFailed "transaction not confirmed within 30s")
  | answer :: answers =>
    match statusVerdict answer with
    | some verdict => verdict
    | none => pollForConfirmation answers

/-- The confirmation that follows a transaction that is sent, or was before. -/
def confirmDeposit (signature : String) (verifiedAmount : Option ℕ)
    (statuses : List (Except String JsonValue)) : EscrowSettlement :=
  match pollForConfirmation statuses with
  | .ok () => ⟨⟨true, some signature, Channel.solanaNetwork, none⟩, verifiedAmount⟩
  | .error e => ⟨⟨false, some signature, Channel.solanaNetwork, some (display e)⟩, verifiedAmount⟩

/-- `settle_payment`, with the answers to `sendTransaction` and to `getSignatureStatuses`. -/
def settlePayment (payload : PaymentPayload) (sendAnswer : Except String JsonValue)
    (statuses : List (Except String JsonValue)) : Except VerifierError EscrowSettlement := do
  let (depositTx, _, _) ← escrowPayload payload.payload
  let (tx, signature) ← decodeDepositTx ext depositTx
  let programId ← decodeKey ext "escrow_program_id" verifier.escrowProgramId
  let verifiedAmount := (ParsedMessage.fromBytes tx.messageBytes).toOption.bind fun message =>
    extractDepositAmount ext message programId
  let sigB58 := ext.bs58Encode signature.toList
  match sendTransaction sendAnswer with
  | .ok _ => .ok (confirmDeposit sigB58 verifiedAmount statuses)
  | .error e =>
    -- a double submission is settled by its first confirmation
    if isAlreadyProcessedError (display e) then
      .ok (confirmDeposit sigB58 verifiedAmount statuses)
    else
      .ok ⟨⟨false, some sigB58, Channel.solanaNetwork, some ("submission failed: " ++ display e)⟩,
        verifiedAmount⟩

end

end Solvela.EscrowPayment
