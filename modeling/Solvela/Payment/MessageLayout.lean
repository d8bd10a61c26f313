import Solvela.Lib.Bytes
import Solvela.Payment.WireEncoding

/-!
# What the builders write

The builders of this repository write legacy messages with every length in one byte. The parser
reads such a message back as it was, and so a transaction of one signature over it. Which accounts
of a message are signers and which are writable, the runtime decides from the header alone.
-/

namespace Solvela.Payment

open Solvela.ChannelLedger Solvela.Channel

/-! ## Writing -/

/-- An instruction, with its lengths in one byte each. -/
def CompiledInstruction.bytes (ix : CompiledInstruction) : List UInt8 :=
  [ix.programIdIndex] ++ ([UInt8.ofNat ix.accounts.length] ++ ix.accounts ++
    ([UInt8.ofNat ix.data.length] ++ ix.data))

/-- A legacy message, with its lengths in one byte each. -/
def ParsedMessage.bytes (m : ParsedMessage) : List UInt8 :=
  [m.header.numRequiredSignatures, m.header.numReadonlySignedAccounts,
    m.header.numReadonlyUnsignedAccounts] ++
    ([UInt8.ofNat m.accountKeys.length] ++ m.accountKeys.flatMap (·.toList) ++
      (m.recentBlockhash.toList ++
        ([UInt8.ofNat m.instructions.length] ++ m.instructions.flatMap (·.bytes))))

/-- A transaction with one signature. -/
def wireBytes (signature : Signature) (message : List UInt8) : List UInt8 :=
  [1] ++ signature.toList ++ message

/-- The lengths of an instruction fit one byte of a compact-u16. -/
structure CompiledInstruction.Short (ix : CompiledInstruction) : Prop where
  accounts : ix.accounts.length < 128
  data : ix.data.length < 128

/-- A legacy message whose lengths fit one byte of a compact-u16. -/
structure ParsedMessage.Short (m : ParsedMessage) : Prop where
  legacy : m.isV0 = false
  version : m.header.numRequiredSignatures ≠ 0x80
  keys : m.accountKeys.length < 128
  count : m.instructions.length < 128
  instructions : ∀ ix ∈ m.instructions, ix.Short

/-! ## Reading back -/

/-- An amount is read back from its eight bytes. -/
theorem leValue_leBytes (n : UInt64) : Lib.leValue (leBytes n.toNat) = n.toNat := by
  have hfits : n.toNat < 256 ^ 8 := n.toNat_lt
  exact (Lib.leValue_leDigits 8 _).trans (Nat.mod_eq_of_lt hfits)

theorem CompiledInstruction.Short.wellFormed {ix : CompiledInstruction} (h : ix.Short) :
    ix.WellFormed where
  accounts := by
    have haccounts := h.accounts
    omega
  data := by
    have hdata := h.data
    omega

/-- With lengths of one byte the bytes are the canonical ones. -/
theorem CompiledInstruction.Short.bytes_eq {ix : CompiledInstruction} (h : ix.Short) :
    ix.bytes = ix.encode := by
  unfold CompiledInstruction.bytes CompiledInstruction.encode encodeBytes
  rw [encodeCompactU16_of_lt h.accounts, encodeCompactU16_of_lt h.data]
  rfl

theorem ParsedMessage.Short.wellFormed {m : ParsedMessage} (h : m.Short) : m.WellFormed where
  legacy := h.legacy
  version := h.version
  keys := by
    have hkeys := h.keys
    omega
  count := by
    have hcount := h.count
    omega
  instructions ix hix := (h.instructions ix hix).wellFormed

theorem ParsedMessage.Short.bytes_eq {m : ParsedMessage} (h : m.Short) : m.bytes = m.encode := by
  have hinstructions : m.instructions.flatMap (·.bytes) = m.instructions.flatMap (·.encode) := by
    apply List.flatMap_congr
    intro ix hix
    exact (h.instructions ix hix).bytes_eq
  unfold ParsedMessage.bytes ParsedMessage.encode buildMessage
  rw [encodeCompactU16_of_lt h.keys, encodeCompactU16_of_lt h.count, hinstructions]

/-- A short message is read back as it was. -/
theorem ParsedMessage.fromBytes_bytes {m : ParsedMessage} (h : m.Short) :
    ParsedMessage.fromBytes m.bytes = .ok m := by
  have hread := ParsedMessage.fromBytes_encode h.wellFormed []
  rw [List.append_nil] at hread
  rw [h.bytes_eq]
  exact hread

/-- A transaction of one signature is read back as it was. -/
theorem VersionedTransaction.fromBytes_wireBytes (signature : Signature) (message : List UInt8) :
    VersionedTransaction.fromBytes (wireBytes signature message) =
      .ok ⟨[signature], message⟩ := by
  have hbytes : wireBytes signature message =
      VersionedTransaction.encode ⟨[signature], message⟩ := by
    unfold wireBytes VersionedTransaction.encode
    rw [List.length_singleton, encodeCompactU16_of_lt (by norm_num), List.flatMap_singleton]
    rfl
  have hone : (VersionedTransaction.mk [signature] message).signatures.length ≤ 127 := by
    show 1 ≤ 127
    norm_num
  rw [hbytes, VersionedTransaction.fromBytes_encode hone]

/-! ## The header rule -/

/-- The account signs: it is among the first `num_required_signatures`. -/
def ParsedMessage.isSigner (m : ParsedMessage) (i : ℕ) : Bool :=
  decide (i < m.header.numRequiredSignatures.toNat)

/-- The account may be written: the last signers and the last of the others are read-only. -/
def ParsedMessage.isWritable (m : ParsedMessage) (i : ℕ) : Bool :=
  if i < m.header.numRequiredSignatures.toNat then
    decide (i < m.header.numRequiredSignatures.toNat - m.header.numReadonlySignedAccounts.toNat)
  else decide (i < m.accountKeys.length - m.header.numReadonlyUnsignedAccounts.toNat)

/-- What a program is to be called with for an account. -/
structure AccountMeta where
  key : Pubkey
  isSigner : Bool
  isWritable : Bool
deriving DecidableEq

/-- An instruction as it is meant. -/
structure Instruction where
  programId : Pubkey
  accounts : List AccountMeta
  data : List UInt8
deriving DecidableEq

/-- The account of a message at an index is the one meant. -/
def ParsedMessage.Names (m : ParsedMessage) (index : UInt8) (account : AccountMeta) : Prop :=
  m.accountKeys[index.toNat]? = some account.key

/-- The message gives the account at an index at least the privileges that are meant. -/
def ParsedMessage.Grants (m : ParsedMessage) (index : UInt8) (account : AccountMeta) : Prop :=
  (account.isSigner = true → m.isSigner index.toNat = true) ∧
    (account.isWritable = true → m.isWritable index.toNat = true)

/-- The compiled instruction is the one meant, its accounts in their order. -/
structure ParsedMessage.Compiles (m : ParsedMessage) (ix : CompiledInstruction)
    (intended : Instruction) : Prop where
  program : m.accountKeys[ix.programIdIndex.toNat]? = some intended.programId
  accounts : List.Forall₂ m.Names ix.accounts intended.accounts
  data : ix.data = intended.data

end Solvela.Payment
