import Solvela.Channel.Voucher

/-!
# Solana transactions on the wire

`decode_compact_u16`, `VersionedTransaction::from_bytes`, `ParsedMessage::from_bytes` and the
accept path of the exact verifier, `decode_and_validate_transaction`. A position in the bytes is
the list of the bytes from there on. The ed25519 library is the parameter `Ed25519`.
-/

namespace Solvela.Payment

open Solvela.ChannelLedger Solvela.Channel

/-- A Solana transaction signature. -/
abbrev Signature := Vector UInt8 64

/-- `TransactionError`. -/
inductive TransactionError
  | tooShort
  | invalidFormat (message : String)
deriving DecidableEq

/-- Its `Display`. -/
def TransactionError.display : TransactionError → String
  | .tooShort => "transaction data too short"
  | .invalidFormat message => "invalid transaction format: " ++ message

/-! ## Compact-u16 -/

/-- The loop of `decode_compact_u16` from its iteration `i` on, with `left` iterations left. -/
def compactU16Loop (i value : ℕ) : ℕ → List UInt8 → Except TransactionError (ℕ × ℕ)
  | 0, _ => .error (.invalidFormat "compact-u16 overflow: more than 3 bytes")
  | _ + 1, [] => .error .tooShort
  | left + 1, byte :: rest =>
    let value := value ||| (byte.toNat &&& 0x7F) <<< (i * 7)
    if byte.toNat &&& 0x80 = 0 then .ok (value, i + 1)
    else compactU16Loop (i + 1) value left rest

/-- `decode_compact_u16`: the value, and how many bytes it takes. -/
def decodeCompactU16 (data : List UInt8) : Except TransactionError (ℕ × ℕ) :=
  compactU16Loop 0 0 3 data

/-! ## Transactions -/

/-- `VersionedTransaction`. -/
structure VersionedTransaction where
  signatures : List Signature
  messageBytes : List UInt8
deriving DecidableEq

/-- The `n` bytes at an offset. -/
def bytesAt (n : ℕ) (data : List UInt8) (offset : ℕ) : Vector UInt8 n :=
  Vector.ofFn fun j => data.getD (offset + j.val) 0

/-- `VersionedTransaction::from_bytes`. -/
def VersionedTransaction.fromBytes (data : List UInt8) :
    Except TransactionError VersionedTransaction := do
  let (sigCount, sigCountLen) ← decodeCompactU16 data
  if sigCount > 127 then
    .error (.invalidFormat s!"too many signatures: {sigCount}")
  else
    let sigsEnd := sigCountLen + sigCount * 64
    if data.length < sigsEnd then .error .tooShort
    else
      .ok ⟨(List.range sigCount).map fun i => bytesAt 64 data (sigCountLen + i * 64),
        data.drop sigsEnd⟩

/-! ## Messages -/

/-- `MessageHeader`. -/
structure MessageHeader where
  numRequiredSignatures : UInt8
  numReadonlySignedAccounts : UInt8
  numReadonlyUnsignedAccounts : UInt8

/-- `CompiledInstruction`. -/
structure CompiledInstruction where
  programIdIndex : UInt8
  accounts : List UInt8
  data : List UInt8

/-- `ParsedMessage`. -/
structure ParsedMessage where
  header : MessageHeader
  accountKeys : List Pubkey
  recentBlockhash : Vector UInt8 32
  instructions : List CompiledInstruction
  isV0 : Bool

/-- The header, and the bytes after it. -/
def parseHeader : List UInt8 → Except TransactionError (MessageHeader × List UInt8)
  | a :: b :: c :: rest => .ok (⟨a, b, c⟩, rest)
  | _ => .error .tooShort

/-- The account keys behind their count, and the bytes after them. -/
def parseAccountKeys (rest : List UInt8) :
    Except TransactionError (List Pubkey × List UInt8) := do
  let (numKeys, consumed) ← decodeCompactU16 rest
  let rest := rest.drop consumed
  if numKeys * 32 > rest.length then .error .tooShort
  else .ok ((List.range numKeys).map fun i => bytesAt 32 rest (i * 32), rest.drop (numKeys * 32))

/-- The blockhash, and the bytes after it. -/
def parseBlockhash (rest : List UInt8) :
    Except TransactionError (Vector UInt8 32 × List UInt8) :=
  if 32 > rest.length then .error .tooShort else .ok (bytesAt 32 rest 0, rest.drop 32)

/-- A byte string behind its length, and the bytes after it. -/
def parseBytes (rest : List UInt8) : Except TransactionError (List UInt8 × List UInt8) := do
  let (len, consumed) ← decodeCompactU16 rest
  let rest := rest.drop consumed
  if len > rest.length then .error .tooShort else .ok (rest.take len, rest.drop len)

/-- One instruction, and the bytes after it. -/
def parseInstruction : List UInt8 → Except TransactionError (CompiledInstruction × List UInt8)
  | [] => .error .tooShort
  | programIdIndex :: rest => do
    let (accounts, rest) ← parseBytes rest
    let (data, rest) ← parseBytes rest
    .ok (⟨programIdIndex, accounts, data⟩, rest)

/-- The loop over the instructions. What is behind the last one is not looked at. -/
def parseInstructions : ℕ → List UInt8 → Except TransactionError (List CompiledInstruction)
  | 0, _ => .ok []
  | n + 1, rest => do
    let (instruction, rest) ← parseInstruction rest
    let instructions ← parseInstructions n rest
    .ok (instruction :: instructions)

/-- `ParsedMessage::from_bytes`. -/
def ParsedMessage.fromBytes : List UInt8 → Except TransactionError ParsedMessage
  | [] => .error .tooShort
  | first :: tail => do
    let isV0 := first == 0x80
    let (header, rest) ← parseHeader (if isV0 then tail else first :: tail)
    let (accountKeys, rest) ← parseAccountKeys rest
    let (recentBlockhash, rest) ← parseBlockhash rest
    let (numInstructions, consumed) ← decodeCompactU16 rest
    let instructions ← parseInstructions numInstructions (rest.drop consumed)
    .ok ⟨header, accountKeys, recentBlockhash, instructions, isV0⟩

/-! ## The accept path -/

/-- The errors of the verifier that the accept path returns. -/
inductive PaymentError
  | invalidEncoding
  | invalidTransaction (message : String)
  | invalidSignature (message : String)
deriving DecidableEq

/-- The signature library: which bytes are a key, and which signature of a message verifies. -/
structure Ed25519 where
  verifyingKey : Pubkey → Except String Unit
  verify : Pubkey → List UInt8 → Signature → Except String Unit

/-- `decode_and_validate_transaction`. -/
def decodeAndValidateTransaction (ed : Ed25519) (base64Tx : String) :
    Except PaymentError VersionedTransaction :=
  match base64Decode (textBytes base64Tx) with
  | none => .error .invalidEncoding
  | some bytes =>
    match VersionedTransaction.fromBytes bytes with
    | .error e =>
      .error (.invalidTransaction ("failed to deserialize transaction: " ++ e.display))
    | .ok tx =>
      match tx.signatures with
      | [] => .error (.invalidSignature "transaction has no signatures")
      | signature :: _ =>
        match ParsedMessage.fromBytes tx.messageBytes with
        | .error e => .error (.invalidTransaction ("failed to parse message: " ++ e.display))
        | .ok message =>
          match message.accountKeys with
          | [] => .error (.invalidSignature "transaction message has no account keys")
          -- the first account key is the fee payer
          | signer :: _ =>
            match ed.verifyingKey signer with
            | .error e => .error (.invalidSignature ("invalid signer public key: " ++ e))
            | .ok () =>
              match ed.verify signer tx.messageBytes signature with
              | .error e =>
                .error (.invalidSignature ("ed25519 signature verification failed: " ++ e))
              | .ok () => .ok tx

end Solvela.Payment
