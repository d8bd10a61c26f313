import Solvela.Escrow.DepositAgreement

/-!
# The refund transaction

`build_refund_tx` derives the escrow address again, compares it with the one it was given, and
signs a message of nine account keys and one instruction. `buildRefundTx_ok_iff` says when it
builds something and what. Read back and handed to the program, it is the refund of that escrow,
signed by its agent: `refundOf_built`.
-/

namespace Solvela.EscrowRefund

open Solvela.Lib.Txn (except_bind_ok)
open Solvela.ChannelLedger
open Solvela.Channel (base64Decode exactBytes leBytes)
open Solvela.EscrowClaimer (anchorDiscriminator_length bs58Decode_systemProgram)
open Solvela.EscrowPayment
open Solvela.EscrowProgram (Refund)
open Solvela.Payment hiding Externals verifyPayment
open Solvela.Signer

/-! ## Building -/

/-- `RefundError`. -/
inductive RefundError
  | invalidKeypair (reason : String)
  | invalidAddress (field reason : String)
  | derivationFailed (what : String)
  | pdaMismatch (derived expected : String)
  | messageBuild (e : Rs.DepositError)
deriving DecidableEq

/-- The steps that `refund.rs` repeats from `deposit.rs` fail with the variant of the same name. -/
def RefundError.ofShared : Rs.DepositError → RefundError
  | .invalidKeypair reason => .invalidKeypair reason
  | .invalidAddress field reason => .invalidAddress field reason
  | .derivationFailed what => .derivationFailed what
  | e => .messageBuild e

/-- `RefundParams`. -/
structure RefundParams where
  agentKeypairB58 : String
  escrowPdaB58 : String
  usdcMintB58 : String
  escrowProgramIdB58 : String
  serviceId : Vector UInt8 32
  recentBlockhash : Vector UInt8 32

section
variable (prims : Primitives) (bs58Error : String → String) (bs58Encode : List UInt8 → String)

/-- An address of the parameters, with the name of its field. -/
def refundAddress (field b58 : String) : Except RefundError Pubkey :=
  (Rs.addressField bs58Error field b58).mapError .ofShared

/-- `ok_or(DerivationFailed)`. -/
def refundDerived {α : Type} (what : String) (o : Option α) : Except RefundError α :=
  (Rs.derived what o).mapError .ofShared

/-- `build_refund_tx`. -/
def buildRefundTx (params : RefundParams) : Except RefundError String := do
  let keypair ← (Rs.keypairBytes bs58Error params.agentKeypairB58).mapError .ofShared
  let signingKey ← (Rs.fromKeypairBytes prims keypair).mapError fun e =>
    RefundError.invalidKeypair ("ed25519 error: " ++ e)
  let agentPubkey := prims.publicKey signingKey
  if publicHalf keypair ≠ agentPubkey then
    .error (.invalidKeypair "derived pubkey does not match stored pubkey")
  else do
    let expectedEscrowPda ← refundAddress bs58Error "escrow_pda" params.escrowPdaB58
    let usdcMint ← refundAddress bs58Error "usdc_mint" params.usdcMintB58
    let escrowProgramId ← refundAddress bs58Error "escrow_program_id" params.escrowProgramIdB58
    let tokenProgram ← refundAddress bs58Error "token_program" tokenProgramIdB58
    let ataProgram ← refundAddress bs58Error "ata_program" ataProgramIdB58
    let systemProgram ← refundAddress bs58Error "system_program" systemProgramIdB58
    let (derivedEscrowPda, _) ← refundDerived "escrow PDA" (Rs.findProgramAddress prims
      [textBytes "escrow", agentPubkey.toList, params.serviceId.toList] escrowProgramId)
    if derivedEscrowPda ≠ expectedEscrowPda then
      .error (.pdaMismatch (bs58Encode derivedEscrowPda.toList) params.escrowPdaB58)
    else do
      let agentTokenAccount ← refundDerived "agent ATA"
        (Rs.deriveAtaAddress prims bs58Error agentPubkey usdcMint)
      let vaultAta ← refundDerived "vault ATA"
        (Rs.deriveAtaAddress prims bs58Error derivedEscrowPda usdcMint)
      let ixData := Rs.anchorDiscriminator prims "refund"
      -- the accounts the program expects, by their place in the sorted list
      let ixAccountIndices := [1, 0, 4, 2, 3, 5, 6, 7]
      let msg ← (Rs.buildLegacyMessage [1, 0, 5]
        [agentPubkey, derivedEscrowPda, vaultAta, agentTokenAccount, usdcMint, tokenProgram,
          ataProgram, systemProgram]
        escrowProgramId params.recentBlockhash 8 ixAccountIndices ixData).mapError .messageBuild
      .ok (base64Encode ([1] ++ (prims.sign signingKey msg).toList ++ msg))

end

/-! ## What is meant -/

/-- The keys of a refund message, the fixed programs left out. -/
structure RefundKeys where
  agent : Pubkey
  escrow : Pubkey
  vault : Pubkey
  agentAta : Pubkey
  mint : Pubkey
  programId : Pubkey

/-- All keys, in the order of the message. -/
def RefundKeys.all (keys : RefundKeys) : List Pubkey :=
  [keys.agent, keys.escrow, keys.vault, keys.agentAta, keys.mint, tokenProgramId,
    associatedTokenProgramId, systemProgram, keys.programId]

/-- The seed and the keys that the parameters name. The escrow address is the one that is given,
and it is the one that is derived. -/
structure RefundNames (prims : Primitives) (bs58Error : String → String) (params : RefundParams)
    (seed : Vector UInt8 32) (keys : RefundKeys) : Prop where
  keypair : ∃ bytes, bs58Decode params.agentKeypairB58 = some bytes.toList ∧
    Rs.fromKeypairBytes prims bytes = .ok seed
  agent : prims.publicKey seed = keys.agent
  given : Rs.decodeBs58Pubkey bs58Error params.escrowPdaB58 = .ok keys.escrow
  mint : Rs.decodeBs58Pubkey bs58Error params.usdcMintB58 = .ok keys.mint
  programId : Rs.decodeBs58Pubkey bs58Error params.escrowProgramIdB58 = .ok keys.programId
  escrow : ∃ bump, Rs.findProgramAddress prims
    [textBytes "escrow", keys.agent.toList, params.serviceId.toList] keys.programId =
      some (keys.escrow, bump)
  agentAta : Rs.deriveAtaAddress prims bs58Error keys.agent keys.mint = some keys.agentAta
  vault : Rs.deriveAtaAddress prims bs58Error keys.escrow keys.mint = some keys.vault

/-- The `Refund` accounts of the program, in their order. -/
def refundAccounts (keys : RefundKeys) : List AccountMeta :=
  [⟨keys.escrow, false, true⟩, ⟨keys.agent, true, true⟩, ⟨keys.mint, false, false⟩,
    ⟨keys.vault, false, true⟩, ⟨keys.agentAta, false, true⟩, ⟨tokenProgramId, false, false⟩,
    ⟨associatedTokenProgramId, false, false⟩, ⟨systemProgram, false, false⟩]

/-- The `refund` instruction: it has no arguments. -/
def refundInstruction (prims : Primitives) (keys : RefundKeys) : Instruction where
  programId := keys.programId
  accounts := refundAccounts keys
  data := Rs.anchorDiscriminator prims "refund"

/-- What a refund message is read back as. -/
def refundParsed (prims : Primitives) (params : RefundParams) (keys : RefundKeys) :
    ParsedMessage where
  header := ⟨1, 0, 5⟩
  accountKeys := keys.all
  recentBlockhash := params.recentBlockhash
  instructions := [⟨8, [1, 0, 4, 2, 3, 5, 6, 7], Rs.anchorDiscriminator prims "refund"⟩]
  isV0 := false

/-- The bytes that are signed for a refund. -/
def refundMessage (prims : Primitives) (params : RefundParams) (keys : RefundKeys) : List UInt8 :=
  (refundParsed prims params keys).bytes

/-- The refund that is built. -/
def refundTx (prims : Primitives) (params : RefundParams) (seed : Vector UInt8 32)
    (keys : RefundKeys) : String :=
  base64Encode (wireBytes (prims.sign seed (refundMessage prims params keys))
    (refundMessage prims params keys))

/-! ## What is built -/

/-- A message of one instruction, when its lengths fit one byte. -/
theorem buildLegacyMessage_eq (header : MessageHeader) (accounts : List Pubkey)
    (programId blockhash : Pubkey) {ix : CompiledInstruction} (haccounts : accounts.length < 127)
    (hix : ix.Short) :
    Rs.buildLegacyMessage [header.numRequiredSignatures, header.numReadonlySignedAccounts,
        header.numReadonlyUnsignedAccounts] accounts programId blockhash ix.programIdIndex
        ix.accounts ix.data =
      .ok (ParsedMessage.bytes ⟨header, accounts ++ [programId], blockhash, [ix], false⟩) := by
  have hindices : ¬ 127 < ix.accounts.length := by
    have hshort := hix.accounts
    omega
  have hdata : ¬ 127 < ix.data.length := by
    have hshort := hix.data
    omega
  unfold Rs.buildLegacyMessage
  dsimp only
  rw [if_neg (by omega), if_neg hindices, if_neg hdata, foldl_append_toList]
  simp only [ParsedMessage.bytes, CompiledInstruction.bytes, List.flatMap_append,
    List.flatMap_singleton, List.length_append, List.length_singleton, List.append_assoc,
    List.cons_append, List.nil_append, ← List.flatMap_def]
  rfl

section
variable {prims : Primitives} {bs58Error : String → String} {bs58Encode : List UInt8 → String}
  {params : RefundParams}

theorem refundIx_short : CompiledInstruction.Short
    ⟨8, [1, 0, 4, 2, 3, 5, 6, 7], Rs.anchorDiscriminator prims "refund"⟩ where
  accounts := by
    show 8 < 128
    omega
  data := by
    show (Rs.anchorDiscriminator prims "refund").length < 128
    rw [anchorDiscriminator_length]
    omega

/-- The refund's message, byte by byte. -/
theorem buildLegacyMessage_refund (keys : RefundKeys) :
    Rs.buildLegacyMessage [1, 0, 5]
      [keys.agent, keys.escrow, keys.vault, keys.agentAta, keys.mint, tokenProgramId,
        associatedTokenProgramId, systemProgram]
      keys.programId params.recentBlockhash 8 [1, 0, 4, 2, 3, 5, 6, 7]
      (Rs.anchorDiscriminator prims "refund") = .ok (refundMessage prims params keys) := by
  have haccounts : [keys.agent, keys.escrow, keys.vault, keys.agentAta, keys.mint, tokenProgramId,
      associatedTokenProgramId, systemProgram].length < 127 := by
    show 8 < 127
    omega
  exact buildLegacyMessage_eq ⟨1, 0, 5⟩ _ keys.programId params.recentBlockhash haccounts
    (@refundIx_short prims)

theorem refundAddress_ok {field b58 : String} {key : Pubkey} :
    refundAddress bs58Error field b58 = .ok key ↔ Rs.decodeBs58Pubkey bs58Error b58 = .ok key :=
  mapError_ok.trans mapError_ok

theorem refundDerived_ok {α : Type} {what : String} {o : Option α} {a : α} :
    refundDerived what o = .ok a ↔ o = some a :=
  mapError_ok.trans derived_ok

/-- The addresses of the programs are those of the ledger. -/
theorem refundAddress_program {field b58 : String} {key program : Pubkey}
    (hdecode : bs58Decode b58 = some program.toList)
    (h : refundAddress bs58Error field b58 = .ok key) : key = program :=
  Except.ok.inj
    ((refundAddress_ok.1 h).symm.trans (decodeBs58Pubkey_of_bs58Decode bs58Error hdecode))

/-- Something is built exactly when the parameters name keys, and it is the signed refund over
them. -/
theorem buildRefundTx_ok_iff {tx : String} :
    buildRefundTx prims bs58Error bs58Encode params = .ok tx ↔
      ∃ seed keys, RefundNames prims bs58Error params seed keys ∧
        tx = refundTx prims params seed keys := by
  constructor
  · intro h
    -- what the builder decodes and derives, one after the other
    unfold buildRefundTx at h
    obtain ⟨keypair, hkeypair, h⟩ := except_bind_ok.1 h
    obtain ⟨seed, hseed, h⟩ := except_bind_ok.1 h
    have hseed := mapError_ok.1 hseed
    have hpublic := (fromKeypairBytes_ok hseed).1
    rw [if_neg (not_ne_iff.2 hpublic.symm)] at h
    obtain ⟨given, hgiven, h⟩ := except_bind_ok.1 h
    obtain ⟨mint, hmint, h⟩ := except_bind_ok.1 h
    obtain ⟨programId, hprogramId, h⟩ := except_bind_ok.1 h
    obtain ⟨tokenProgram, htoken, h⟩ := except_bind_ok.1 h
    obtain ⟨ataProgram, hata, h⟩ := except_bind_ok.1 h
    obtain ⟨system, hsystem, h⟩ := except_bind_ok.1 h
    obtain ⟨⟨escrow, bump⟩, hescrow, h⟩ := except_bind_ok.1 h
    dsimp only at h
    -- the address that was given has to be the derived one
    by_cases hmismatch : escrow ≠ given
    · rw [if_pos hmismatch] at h
      exact absurd h (by simp)
    rw [if_neg hmismatch] at h
    obtain ⟨agentAta, hagentAta, h⟩ := except_bind_ok.1 h
    obtain ⟨vault, hvault, h⟩ := except_bind_ok.1 h
    obtain ⟨msg, hmsg, h⟩ := except_bind_ok.1 h
    rw [refundAddress_program bs58Decode_tokenProgram htoken,
      refundAddress_program bs58Decode_ataProgram hata,
      refundAddress_program bs58Decode_systemProgram hsystem] at hmsg
    -- the names of the accounts are those that were derived
    let keys : RefundKeys := ⟨prims.publicKey seed, escrow, vault, agentAta, mint, programId⟩
    refine ⟨seed, keys, ?_, ?_⟩
    · rw [← not_ne_iff.1 hmismatch] at hgiven
      exact ⟨⟨keypair, bytes_of_keypairBytes (mapError_ok.1 hkeypair), hseed⟩, rfl,
        refundAddress_ok.1 hgiven, refundAddress_ok.1 hmint, refundAddress_ok.1 hprogramId,
        ⟨bump, refundDerived_ok.1 hescrow⟩, refundDerived_ok.1 hagentAta,
        refundDerived_ok.1 hvault⟩
    · have hbuilt := @buildLegacyMessage_refund prims params keys
      have hsame : refundMessage prims params keys = msg :=
        Except.ok.inj (hbuilt.symm.trans (mapError_ok.1 hmsg))
      rw [← hsame] at h
      exact (Except.ok.inj h).symm
  · rintro ⟨seed, keys, hnames, rfl⟩
    obtain ⟨keypair, hkeypair, hseed⟩ := hnames.keypair
    obtain ⟨bump, hescrow⟩ := hnames.escrow
    have hagent := hnames.agent
    have hpublic := (fromKeypairBytes_ok hseed).1
    have hprogram {what b58 : String} {key : Pubkey} (h : bs58Decode b58 = some key.toList) :
        refundAddress bs58Error what b58 = .ok key :=
      refundAddress_ok.2 (decodeBs58Pubkey_of_bs58Decode bs58Error h)
    have hescrow' := (@refundDerived_ok _ "escrow PDA" _ _).2 hescrow
    have hagentAta := (@refundDerived_ok _ "agent ATA" _ _).2 hnames.agentAta
    rw [← hagent] at hescrow' hagentAta
    have hbuilt := @buildLegacyMessage_refund prims params keys
    rw [← hagent] at hbuilt
    -- and back: no decoding and no derivation fails
    unfold buildRefundTx
    refine except_bind_ok.2 ⟨keypair, mapError_ok.2 (keypairBytes_ok hkeypair), ?_⟩
    refine except_bind_ok.2 ⟨seed, mapError_ok.2 hseed, ?_⟩
    dsimp only
    rw [if_neg (not_ne_iff.2 hpublic.symm)]
    refine except_bind_ok.2 ⟨_, refundAddress_ok.2 hnames.given, ?_⟩
    refine except_bind_ok.2 ⟨_, refundAddress_ok.2 hnames.mint, ?_⟩
    refine except_bind_ok.2 ⟨_, refundAddress_ok.2 hnames.programId, ?_⟩
    refine except_bind_ok.2 ⟨_, hprogram bs58Decode_tokenProgram, ?_⟩
    refine except_bind_ok.2 ⟨_, hprogram bs58Decode_ataProgram, ?_⟩
    refine except_bind_ok.2 ⟨_, hprogram bs58Decode_systemProgram, ?_⟩
    refine except_bind_ok.2 ⟨_, hescrow', ?_⟩
    dsimp only
    rw [if_neg (not_ne_iff.2 rfl)]
    refine except_bind_ok.2 ⟨_, hagentAta, ?_⟩
    refine except_bind_ok.2 ⟨_, refundDerived_ok.2 hnames.vault, ?_⟩
    exact except_bind_ok.2 ⟨_, mapError_ok.2 hbuilt, rfl⟩

end

/-! ## On chain -/

section
variable {Key : Type} (prims : Primitives) (read : Pubkey → Key)

/-- What Anchor asks of the accounts before it reads them: the three programs, the accounts that are
`mut` or `init_if_needed` marked as written, and the agent as signer. -/
def checksRefund (m : ParsedMessage) (ix : CompiledInstruction) : Bool :=
  let index (pos : ℕ) := (ix.accounts.getD pos 0).toNat
  decide (accountAt m.accountKeys ix 5 = some tokenProgramId) &&
    decide (accountAt m.accountKeys ix 6 = some associatedTokenProgramId) &&
    decide (accountAt m.accountKeys ix 7 = some systemProgram) &&
    ([0, 1, 3, 4].all fun pos => m.isWritable (index pos)) && m.isSigner (index 1)

/-- The instruction as Anchor reads it. -/
def onChainRefund (m : ParsedMessage) (ix : CompiledInstruction) : Option (Refund Key) :=
  if ix.data.take 8 = Rs.anchorDiscriminator prims "refund" ∧ checksRefund m ix = true then do
    let escrow ← accountAt m.accountKeys ix 0
    let agent ← accountAt m.accountKeys ix 1
    let mint ← accountAt m.accountKeys ix 2
    let vault ← accountAt m.accountKeys ix 3
    let agentTokenAccount ← accountAt m.accountKeys ix 4
    some ⟨read escrow, read agent, read mint, read vault, read agentTokenAccount⟩
  else none

/-- The transaction as the cluster runs it at a slot: it loads no key twice, and its first call of
the program is a refund. -/
def refundOf (programId : Pubkey) (slot : ℕ) (tx : String) :
    Option (EscrowProgram.Transaction Key) := do
  let bytes ← base64Decode (textBytes tx)
  let transaction ← (VersionedTransaction.fromBytes bytes).toOption
  let message ← (ParsedMessage.fromBytes transaction.messageBytes).toOption
  let ix ← message.instructions.find? (callsProgram message programId)
  let ctx ← onChainRefund prims read message ix
  let signers := message.accountKeys.take message.header.numRequiredSignatures.toNat
  if message.accountKeys.Nodup then some ⟨slot, signers.map read, .refund ctx⟩ else none

variable {prims read} {params : RefundParams}

/-- The message is parsed as it was built. -/
theorem fromBytes_refundMessage (keys : RefundKeys) :
    ParsedMessage.fromBytes (refundMessage prims params keys) =
      .ok (refundParsed prims params keys) := by
  apply ParsedMessage.fromBytes_bytes
  refine ⟨rfl, (by decide : (1 : UInt8) ≠ 0x80), ?_, ?_, ?_⟩
  · show 9 < 128
    omega
  · show 1 < 128
    omega
  · intro ix hix
    rw [List.mem_singleton.1 hix]
    exact refundIx_short

/-- The accounts of a refund, as the agent names them to the program. -/
def RefundKeys.context (keys : RefundKeys) (read : Pubkey → Key) : Refund Key :=
  ⟨read keys.escrow, read keys.agent, read keys.mint, read keys.vault, read keys.agentAta⟩

/-- The program reads the accounts that the builder wrote. -/
theorem onChainRefund_refundParsed (keys : RefundKeys) :
    onChainRefund prims read (refundParsed prims params keys)
      ⟨8, [1, 0, 4, 2, 3, 5, 6, 7], Rs.anchorDiscriminator prims "refund"⟩ =
        some (keys.context read) := by
  have hdiscriminator : (Rs.anchorDiscriminator prims "refund").take 8 =
      Rs.anchorDiscriminator prims "refund" :=
    List.take_of_length_le (anchorDiscriminator_length "refund").le
  have hchecks : checksRefund (refundParsed prims params keys)
      ⟨8, [1, 0, 4, 2, 3, 5, 6, 7], Rs.anchorDiscriminator prims "refund"⟩ = true := by
    unfold checksRefund
    simp only [Bool.and_eq_true, decide_eq_true_eq]
    exact ⟨⟨⟨⟨rfl, rfl⟩, rfl⟩, rfl⟩, rfl⟩
  unfold onChainRefund
  rw [if_pos ⟨hdiscriminator, hchecks⟩]
  rfl

/-- The refund that is built is the agent's refund of the escrow. -/
theorem refundOf_refundTx {seed : Vector UInt8 32} {keys : RefundKeys} (hnodup : keys.all.Nodup)
    (slot : ℕ) :
    refundOf prims read keys.programId slot (refundTx prims params seed keys) =
      some ⟨slot, [read keys.agent], .refund (keys.context read)⟩ := by
  have hcalls : callsProgram (refundParsed prims params keys) keys.programId
      ⟨8, [1, 0, 4, 2, 3, 5, 6, 7], Rs.anchorDiscriminator prims "refund"⟩ = true :=
    beq_self_eq_true (some keys.programId)
  have hfind : (refundParsed prims params keys).instructions.find?
      (callsProgram (refundParsed prims params keys) keys.programId) =
        some ⟨8, [1, 0, 4, 2, 3, 5, 6, 7], Rs.anchorDiscriminator prims "refund"⟩ :=
    List.find?_cons_of_pos hcalls
  unfold refundOf refundTx
  rw [base64Decode_encode]
  simp only [Option.bind_eq_bind, Option.bind_some, VersionedTransaction.fromBytes_wireBytes,
    Except.toOption, fromBytes_refundMessage, hfind, onChainRefund_refundParsed]
  exact if_pos hnodup

end

/-! ## The layout -/

/-- The transaction has one signature, of the agent's seed over the message. The message holds the
refund that is meant, over the blockhash, and gives every account the privileges that `Refund`
declares for it and no others. Handed to the program, it is the agent's refund of the escrow. -/
structure CarriesRefund (prims : Primitives) (params : RefundParams) (seed : Vector UInt8 32)
    (keys : RefundKeys) (tx : String) (m : ParsedMessage) : Prop where
  transaction : ∃ bytes message, base64Decode (textBytes tx) = some bytes ∧
    VersionedTransaction.fromBytes bytes = .ok ⟨[prims.sign seed message], message⟩ ∧
    ParsedMessage.fromBytes message = .ok m
  blockhash : m.recentBlockhash = params.recentBlockhash
  accountKeys : m.accountKeys = keys.all
  instruction : ∃ ix, m.instructions = [ix] ∧ m.Compiles ix (refundInstruction prims keys) ∧
    List.Forall₂ (GrantsExactly m) ix.accounts (refundAccounts keys) ∧
    m.isWritable ix.programIdIndex.toNat = false
  onChain : m.accountKeys.Nodup → ∀ {Key : Type} (read : Pubkey → Key) (slot : ℕ),
    refundOf prims read keys.programId slot tx =
      some ⟨slot, [read keys.agent], .refund (keys.context read)⟩

/-- The transaction that is built carries the refund. -/
theorem carriesRefund_refundTx {prims : Primitives} {params : RefundParams}
    (seed : Vector UInt8 32) (keys : RefundKeys) :
    CarriesRefund prims params seed keys (refundTx prims params seed keys)
      (refundParsed prims params keys) where
  transaction := ⟨_, refundMessage prims params keys, base64Decode_encode _,
    VersionedTransaction.fromBytes_wireBytes _ _, fromBytes_refundMessage keys⟩
  blockhash := rfl
  accountKeys := rfl
  instruction := by
    refine ⟨_, rfl, ⟨rfl, ?_, rfl⟩, ?_, rfl⟩
    · repeat' constructor
    · repeat' constructor
  onChain hnodup _ _ slot := refundOf_refundTx hnodup slot

/-- `build_refund_tx` builds something exactly when the parameters name a key pair, readable
addresses and the escrow that is derived from them, and what it builds carries their refund. -/
theorem buildRefundTx_carries {prims : Primitives} {bs58Error : String → String}
    {bs58Encode : List UInt8 → String} {params : RefundParams} :
    (∀ tx, buildRefundTx prims bs58Error bs58Encode params = .ok tx →
      ∃ seed keys m, RefundNames prims bs58Error params seed keys ∧
        CarriesRefund prims params seed keys tx m) ∧
    ∀ seed keys, RefundNames prims bs58Error params seed keys →
      ∃ tx, buildRefundTx prims bs58Error bs58Encode params = .ok tx := by
  constructor
  · intro tx htx
    obtain ⟨seed, keys, hnames, rfl⟩ := buildRefundTx_ok_iff.1 htx
    exact ⟨seed, keys, _, hnames, carriesRefund_refundTx seed keys⟩
  · intro seed keys hnames
    exact ⟨_, buildRefundTx_ok_iff.2 ⟨seed, keys, hnames, rfl⟩⟩

end Solvela.EscrowRefund
