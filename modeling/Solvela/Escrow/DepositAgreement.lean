import Solvela.Escrow.ClaimMessage
import Solvela.Escrow.DepositOnChain

/-!
# The built deposit, parsed and verified

`build_deposit_tx` puts ten account keys and one instruction into a message and signs it. The
parser reads the message back, its header gives every account what `Deposit` declares, and the
verifier accepts it on the terms that it was built for and on no others.

The runtime loads every key of a message once. The builder compares none of them, so the keys it
is given have to differ from each other and from the addresses that it derives.

* `fromBytes_depositMessage` and `recovered_depositMessage`, the message is read back;
* `acceptedExactly_depositMessage`, the verifier accepts it on its terms only;
* `accountKeys_nodup_iff`, when the runtime loads no key twice.
-/

namespace Solvela.EscrowPayment

open Solvela.Lib (leValue)
open Solvela.Lib.Txn (except_bind_ok)
open Solvela.ChannelLedger
open Solvela.Channel (base64Decode exactBytes leBytes VerificationResult)
open Solvela.EscrowClaimer (anchorDiscriminator_length bs58Decode_systemProgram)
open Solvela.EscrowProgram (Deposit)
open Solvela.Payment hiding Externals verifyPayment
open Solvela.Signer

/-! ## The keys -/

/-- The keys of a deposit message, the fixed programs left out. -/
@[ext] structure DepositKeys where
  agent : Pubkey
  escrow : Pubkey
  agentAta : Pubkey
  vault : Pubkey
  provider : Pubkey
  mint : Pubkey
  programId : Pubkey

/-- The seed and the keys that the parameters name. -/
structure DepositNames (prims : Primitives) (bs58Error : String → String)
    (params : Rs.DepositParams) (seed : Vector UInt8 32) (keys : DepositKeys) : Prop where
  keypair : ∃ bytes, bs58Decode params.agentKeypairB58 = some bytes.toList ∧
    Rs.fromKeypairBytes prims bytes = .ok seed
  agent : prims.publicKey seed = keys.agent
  provider : Rs.decodeBs58Pubkey bs58Error params.providerWalletB58 = .ok keys.provider
  mint : Rs.decodeBs58Pubkey bs58Error params.usdcMintB58 = .ok keys.mint
  programId : Rs.decodeBs58Pubkey bs58Error params.escrowProgramIdB58 = .ok keys.programId
  escrow : ∃ bump, Rs.findProgramAddress prims
    [textBytes "escrow", keys.agent.toList, params.serviceId.toList] keys.programId =
      some (keys.escrow, bump)
  agentAta : Rs.deriveAtaAddress prims bs58Error keys.agent keys.mint = some keys.agentAta
  vault : Rs.deriveAtaAddress prims bs58Error keys.escrow keys.mint = some keys.vault

/-- The addresses that are derived. -/
def DepositKeys.derived (keys : DepositKeys) : List Pubkey :=
  [keys.escrow, keys.agentAta, keys.vault]

/-- The keys that no instruction of the message writes, in their order. -/
def DepositKeys.readOnly (keys : DepositKeys) : List Pubkey :=
  [keys.provider, keys.mint, tokenProgramId, associatedTokenProgramId, systemProgram,
    keys.programId]

/-- The keys that are given differ from each other, and from those derived. -/
structure DepositKeys.Apart (keys : DepositKeys) : Prop where
  given : (keys.agent :: keys.readOnly).Nodup
  derived : keys.derived.Disjoint keys.readOnly

/-! ## What is meant -/

/-- The `Deposit` accounts of the program, in their order. `init` and `init_if_needed` write the
account as `mut` does. -/
def depositAccounts (keys : DepositKeys) : List AccountMeta :=
  [⟨keys.agent, true, true⟩, ⟨keys.provider, false, false⟩, ⟨keys.mint, false, false⟩,
    ⟨keys.escrow, false, true⟩, ⟨keys.agentAta, false, true⟩, ⟨keys.vault, false, true⟩,
    ⟨tokenProgramId, false, false⟩, ⟨associatedTokenProgramId, false, false⟩,
    ⟨systemProgram, false, false⟩]

/-- The data of `deposit`: Anchor's discriminator and the arguments. -/
def depositData (prims : Primitives) (params : Rs.DepositParams) : List UInt8 :=
  Rs.anchorDiscriminator prims "deposit" ++ leBytes params.amount ++ params.serviceId.toList ++
    leBytes params.expirySlot

/-- The `deposit` instruction. -/
def depositInstruction (prims : Primitives) (params : Rs.DepositParams) (keys : DepositKeys) :
    Instruction where
  programId := keys.programId
  accounts := depositAccounts keys
  data := depositData prims params

/-- The message gives the account at an index the privileges that are meant, and no others. -/
def GrantsExactly (m : ParsedMessage) (index : UInt8) (account : AccountMeta) : Prop :=
  m.isSigner index.toNat = account.isSigner ∧ m.isWritable index.toNat = account.isWritable

/-- The transaction has one signature, and its message one instruction: the deposit that is meant,
with the privileges that its accounts declare. The program reads its accounts and arguments. -/
structure Recovered (ext : Externals) (params : Rs.DepositParams) (keys : DepositKeys)
    (tx : String) (m : ParsedMessage) : Prop where
  transaction : ∃ bytes signature message, base64Decode (textBytes tx) = some bytes ∧
    VersionedTransaction.fromBytes bytes = .ok ⟨[signature], message⟩ ∧
    ParsedMessage.fromBytes message = .ok m
  blockhash : m.recentBlockhash = params.recentBlockhash
  instruction : ∃ ix, m.instructions = [ix] ∧
    m.Compiles ix (depositInstruction ext.prims params keys) ∧
    List.Forall₂ (GrantsExactly m) ix.accounts (depositAccounts keys) ∧
    m.isWritable ix.programIdIndex.toNat = false ∧
    onChainDeposit ext id m.accountKeys ix =
      some (⟨keys.agent, keys.provider, keys.mint, keys.escrow, keys.agentAta, keys.vault⟩,
        ⟨params.amount, params.serviceId, params.expirySlot⟩)

/-- The gateway, the payload and the slot fit the deposit. -/
structure FitsDeposit (ext : Externals) (params : Rs.DepositParams) (keys : DepositKeys)
    (verifier : EscrowVerifier) (payload : PaymentPayload) (serviceId agent : String)
    (slotAnswer : Except String JsonValue) : Prop where
  recipient : Rs.decodeBs58Pubkey ext.bs58Error verifier.recipientWallet = .ok keys.provider
  mint : Rs.decodeBs58Pubkey ext.bs58Error verifier.usdcMint = .ok keys.mint
  programId : Rs.decodeBs58Pubkey ext.bs58Error verifier.escrowProgramId = .ok keys.programId
  serviceId : base64Decode (textBytes serviceId) = some params.serviceId.toList
  agent : Rs.decodeBs58Pubkey ext.bs58Error agent = .ok keys.agent
  amount : ∃ required, parseU64 payload.accepted.amount = some required ∧ required ≤ params.amount
  slot : ∃ slot, getCurrentSlot slotAnswer = .ok slot ∧
    slot + minExpiryBufferSlots ≤ params.expirySlot

/-- Of the payloads with the transaction, the verifier accepts exactly those that fit it, and
reports its amount. -/
def AcceptedExactly (ext : Externals) (params : Rs.DepositParams) (keys : DepositKeys)
    (tx : String) : Prop :=
  ∀ verifier payload serviceId agent slotAnswer result,
    payload.payload = .escrow tx serviceId agent →
    (verifyPayment ext verifier payload slotAnswer = .ok result ↔
      result = ⟨true, none, some params.amount⟩ ∧
        FitsDeposit ext params keys verifier payload serviceId agent slotAnswer)

/-- Builder, parser, runtime, program and verifier agree on the transaction. -/
def DepositAgrees (ext : Externals) (params : Rs.DepositParams) (keys : DepositKeys)
    (tx : String) : Prop :=
  (∃ m, Recovered ext params keys tx m ∧ m.accountKeys.Nodup) ∧ AcceptedExactly ext params keys tx

/-! ## The primitives -/

/-- The seeds and the program of each derivation of a deposit. -/
def depositDerivations (params : Rs.DepositParams) (keys : DepositKeys) :
    List (List (List UInt8) × Pubkey) :=
  [([textBytes "escrow", keys.agent.toList, params.serviceId.toList], keys.programId),
    ([keys.agent.toList, tokenProgramId.toList, keys.mint.toList], associatedTokenProgramId),
    ([keys.escrow.toList, tokenProgramId.toList, keys.mint.toList], associatedTokenProgramId)]

/-- Among the derivations, the same address is derived from the same seeds only. -/
def DistinctOutputs (prims : Primitives) (derivations : List (List (List UInt8) × Pubkey)) :
    Prop :=
  ∀ d ∈ derivations, ∀ d' ∈ derivations, ∀ address bump bump',
    Rs.findProgramAddress prims d.1 d.2 = some (address, bump) →
    Rs.findProgramAddress prims d'.1 d'.2 = some (address, bump') →
    d.1.flatten = d'.1.flatten ∧ d.2 = d'.2

/-! ## What is built -/

/-- The instruction of a deposit, by the places of its accounts. -/
def depositIx (prims : Primitives) (params : Rs.DepositParams) : CompiledInstruction :=
  ⟨9, [0, 4, 5, 1, 2, 3, 6, 7, 8], depositData prims params⟩

/-- What a deposit message is read back as. -/
def depositParsed (prims : Primitives) (params : Rs.DepositParams) (keys : DepositKeys) :
    ParsedMessage where
  header := ⟨1, 0, 6⟩
  accountKeys := keys.agent :: (keys.derived ++ keys.readOnly)
  recentBlockhash := params.recentBlockhash
  instructions := [depositIx prims params]
  isV0 := false

/-- The bytes that are signed for a deposit. -/
def depositMessage (prims : Primitives) (params : Rs.DepositParams) (keys : DepositKeys) :
    List UInt8 :=
  (depositParsed prims params keys).bytes

section
variable {prims : Primitives} {bs58Error : String → String} {params : Rs.DepositParams}

/-- A keypair is the bytes that its text spells. -/
theorem bytes_of_keypairBytes {b58 : String} {bytes : Vector UInt8 64}
    (h : Rs.keypairBytes bs58Error b58 = .ok bytes) : bs58Decode b58 = some bytes.toList := by
  unfold Rs.keypairBytes at h
  split at h
  · exact absurd h (by simp)
  · rename_i decoded hdecoded
    split at h
    · exact absurd h (by simp)
    · rename_i keypair hkeypair
      rw [hdecoded, toList_of_exactBytes hkeypair, Except.ok.inj h]

/-- The public key of an accepted key pair is a point of the curve, and the seed's. -/
theorem fromKeypairBytes_ok {bytes : Vector UInt8 64} {seed : Vector UInt8 32}
    (h : Rs.fromKeypairBytes prims bytes = .ok seed) :
    prims.publicKey seed = publicHalf bytes ∧ prims.isOnCurve (publicHalf bytes) = true := by
  unfold Rs.fromKeypairBytes at h
  split_ifs at h with hcurve hpublic
  rw [← Except.ok.inj h]
  exact ⟨not_ne_iff.1 hpublic, by simpa using hcurve⟩

/-- A derivation that succeeds is the one that is asked for. -/
theorem derived_ok {α : Type} {what : String} {o : Option α} {a : α} :
    Rs.derived what o = .ok a ↔ o = some a := by
  unfold Rs.derived
  split
  · simp
  · simp

/-- A discriminator, two words and a service id. -/
theorem depositData_length : (depositData prims params).length = 56 := by
  unfold depositData
  rw [List.length_append, List.length_append, List.length_append, anchorDiscriminator_length,
    leBytes_length, leBytes_length, Vector.length_toList]

/-- The deposit's message, byte by byte. -/
theorem buildLegacyMessage_deposit (keys : DepositKeys) :
    Rs.buildLegacyMessage [1, 0, 6]
      [keys.agent, keys.escrow, keys.agentAta, keys.vault, keys.provider, keys.mint,
        tokenProgramId, associatedTokenProgramId, systemProgram]
      keys.programId params.recentBlockhash 9 [0, 4, 5, 1, 2, 3, 6, 7, 8]
      (depositData prims params) = .ok (depositMessage prims params keys) := by
  have hdata : ¬ 127 < (depositData prims params).length := by
    rw [depositData_length]
    omega
  unfold Rs.buildLegacyMessage
  simp only [List.length_cons, List.length_nil]
  rw [if_neg (by omega), if_neg (by omega), if_neg hdata, foldl_append_toList]
  simp only [depositMessage, depositParsed, depositIx, ParsedMessage.bytes,
    CompiledInstruction.bytes, DepositKeys.derived, DepositKeys.readOnly, List.flatMap_cons,
    List.flatMap_nil, List.map_cons, List.map_nil, List.flatten_cons, List.flatten_nil,
    List.append_assoc, List.cons_append, List.nil_append, List.append_nil, List.length_cons,
    List.length_nil]
  rfl

/-- What is built names its keys, and is the signed message. -/
theorem names_of_buildDepositTx {tx : String}
    (h : Rs.buildDepositTx prims bs58Error params = .ok tx) :
    ∃ seed keys, DepositNames prims bs58Error params seed keys ∧
      tx = base64Encode (wireBytes (prims.sign seed (depositMessage prims params keys))
        (depositMessage prims params keys)) := by
  unfold Rs.buildDepositTx at h
  by_cases hzero : params.amount = 0
  · rw [if_pos hzero] at h
    exact absurd h (by simp)
  rw [if_neg hzero] at h
  obtain ⟨keypair, hkeypair, h⟩ := except_bind_ok.1 h
  obtain ⟨seed, hseed, h⟩ := except_bind_ok.1 h
  have hseed := mapError_ok.1 hseed
  have hpublic := (fromKeypairBytes_ok hseed).1
  rw [if_neg (not_ne_iff.2 hpublic.symm)] at h
  obtain ⟨msg, hmsg, h⟩ := except_bind_ok.1 h
  unfold Rs.buildDepositMessage at hmsg
  dsimp only at hmsg
  rw [if_neg hzero] at hmsg
  obtain ⟨provider, hprovider, hmsg⟩ := except_bind_ok.1 hmsg
  obtain ⟨mint, hmint, hmsg⟩ := except_bind_ok.1 hmsg
  obtain ⟨programId, hprogramId, hmsg⟩ := except_bind_ok.1 hmsg
  obtain ⟨tokenProgram, htoken, hmsg⟩ := except_bind_ok.1 hmsg
  obtain ⟨ataProgram, hata, hmsg⟩ := except_bind_ok.1 hmsg
  obtain ⟨system, hsystem, hmsg⟩ := except_bind_ok.1 hmsg
  obtain ⟨⟨escrow, bump⟩, hescrow, hmsg⟩ := except_bind_ok.1 hmsg
  obtain ⟨agentAta, hagentAta, hmsg⟩ := except_bind_ok.1 hmsg
  obtain ⟨vault, hvault, hmsg⟩ := except_bind_ok.1 hmsg
  -- the addresses of the programs are those of the ledger
  have htoken := (addressField_ok bs58Error bs58Decode_tokenProgram).symm.trans htoken
  have hata := (addressField_ok bs58Error bs58Decode_ataProgram).symm.trans hata
  have hsystem := (addressField_ok bs58Error bs58Decode_systemProgram).symm.trans hsystem
  rw [← Except.ok.inj htoken, ← Except.ok.inj hata, ← Except.ok.inj hsystem] at hmsg
  refine ⟨seed, ⟨prims.publicKey seed, escrow, agentAta, vault, provider, mint, programId⟩,
    ?_, ?_⟩
  · exact ⟨⟨keypair, bytes_of_keypairBytes hkeypair, hseed⟩, rfl, mapError_ok.1 hprovider,
      mapError_ok.1 hmint, mapError_ok.1 hprogramId, ⟨bump, derived_ok.1 hescrow⟩,
      derived_ok.1 hagentAta, derived_ok.1 hvault⟩
  · have hbuilt := @buildLegacyMessage_deposit prims params
      ⟨prims.publicKey seed, escrow, agentAta, vault, provider, mint, programId⟩
    have hsame := Except.ok.inj (hbuilt.symm.trans hmsg)
    rw [hsame]
    exact (Except.ok.inj h).symm

/-- A public key is the bytes that its text spells. -/
theorem bs58Decode_of_decodeBs58Pubkey {b58 : String} {key : Pubkey}
    (h : Rs.decodeBs58Pubkey bs58Error b58 = .ok key) : bs58Decode b58 = some key.toList := by
  unfold Rs.decodeBs58Pubkey at h
  split at h
  · exact absurd h (by simp)
  · rename_i decoded hdecoded
    split at h
    · exact absurd h (by simp)
    · rename_i key' hkey
      rw [hdecoded, toList_of_exactBytes hkey, Except.ok.inj h]

/-- A positive amount under the keys that are named is built. -/
theorem buildDepositTx_of_names {seed : Vector UInt8 32} {keys : DepositKeys}
    (hpos : params.amount ≠ 0) (h : DepositNames prims bs58Error params seed keys) :
    Rs.buildDepositTx prims bs58Error params =
      .ok (base64Encode (wireBytes (prims.sign seed (depositMessage prims params keys))
        (depositMessage prims params keys))) := by
  obtain ⟨bytes, hbytes, hseed⟩ := h.keypair
  have hpublic := (fromKeypairBytes_ok hseed).1
  obtain ⟨bump, hescrow⟩ := h.escrow
  have hescrow' := hescrow
  have hagentAta := h.agentAta
  rw [← h.agent] at hescrow' hagentAta
  have hbuilt := @buildLegacyMessage_deposit prims params keys
  rw [← h.agent] at hbuilt
  have hmessage : Rs.buildDepositMessage prims bs58Error
      ⟨prims.publicKey seed, params.providerWalletB58, params.usdcMintB58,
        params.escrowProgramIdB58, params.amount, params.serviceId, params.expirySlot,
        params.recentBlockhash⟩ = .ok (depositMessage prims params keys) :=
    buildDepositMessage_ok _ hpos (bs58Decode_of_decodeBs58Pubkey h.provider)
      (bs58Decode_of_decodeBs58Pubkey h.mint) (bs58Decode_of_decodeBs58Pubkey h.programId)
      bs58Decode_tokenProgram bs58Decode_ataProgram bs58Decode_systemProgram hescrow' hagentAta
      h.vault hbuilt
  unfold Rs.buildDepositTx
  rw [if_neg hpos]
  apply except_bind_ok.2 ⟨_, keypairBytes_ok hbytes, ?_⟩
  apply except_bind_ok.2 ⟨_, mapError_ok.2 hseed, ?_⟩
  dsimp only
  rw [if_neg (not_ne_iff.2 hpublic.symm)]
  exact except_bind_ok.2 ⟨_, hmessage, rfl⟩

/-! ## What is read back -/

/-- All lengths of the message take one byte. -/
theorem depositParsed_short (keys : DepositKeys) : (depositParsed prims params keys).Short := by
  refine ⟨rfl, (by decide : (1 : UInt8) ≠ 0x80), ?_, ?_, ?_⟩
  · show 10 < 128
    omega
  · show 1 < 128
    omega
  · intro ix hix
    rw [List.mem_singleton.1 hix]
    refine ⟨(by decide : 9 < 128), ?_⟩
    show (depositData prims params).length < 128
    rw [depositData_length]
    omega

/-- The verifier parses the message that was built. -/
theorem fromBytes_depositMessage (keys : DepositKeys) :
    ParsedMessage.fromBytes (depositMessage prims params keys) =
      .ok (depositParsed prims params keys) :=
  ParsedMessage.fromBytes_bytes (depositParsed_short keys)

theorem leValue_leBytes_of_le {n : ℕ} (h : n ≤ u64Max) : leValue (leBytes n) = n := by
  have hfits : n < 256 ^ 8 := by
    unfold u64Max at h
    omega
  exact (Lib.leValue_leDigits 8 n).trans (Nat.mod_eq_of_lt hfits)

/-- The arguments are read back from where they were written. -/
theorem depositArgs_depositData (hamount : params.amount ≤ u64Max)
    (hexpiry : params.expirySlot ≤ u64Max) :
    depositArgs (depositData prims params) =
      ⟨params.amount, params.serviceId, params.expirySlot⟩ := by
  have hdiscriminator := @anchorDiscriminator_length prims "deposit"
  have hservice : params.serviceId.toList.length = 32 := Vector.length_toList
  have hdrop8 : (depositData prims params).drop 8 =
      leBytes params.amount ++ (params.serviceId.toList ++ leBytes params.expirySlot) := by
    unfold depositData
    rw [List.append_assoc, List.append_assoc]
    exact List.drop_left' hdiscriminator
  have hdrop16 : (depositData prims params).drop 16 =
      params.serviceId.toList ++ leBytes params.expirySlot := by
    rw [show 16 = 8 + 8 by omega, ← List.drop_drop, hdrop8]
    exact List.drop_left' (leBytes_length _)
  have hdrop48 : (depositData prims params).drop 48 = leBytes params.expirySlot := by
    rw [show 48 = 16 + 32 by omega, ← List.drop_drop, hdrop16]
    exact List.drop_left' hservice
  have hread : bytesAt 32 (depositData prims params) 16 = params.serviceId := by
    rw [show 16 = 16 + 0 by omega, bytesAt_drop, hdrop16]
    exact bytesAt_append _ _
  have hlast : (leBytes params.expirySlot).take 8 = leBytes params.expirySlot :=
    List.take_of_length_le (leBytes_length _).le
  unfold depositArgs
  rw [hdrop8, hread, hdrop48, List.take_left' (leBytes_length _), hlast,
    leValue_leBytes_of_le hamount, leValue_leBytes_of_le hexpiry]

end

section
variable {ext : Externals} {params : Rs.DepositParams}

/-- Whatever its keys are, a deposit is recovered. -/
theorem recovered_depositMessage (keys : DepositKeys) (signature : Signature)
    (hamount : params.amount ≤ u64Max) (hexpiry : params.expirySlot ≤ u64Max) :
    Recovered ext params keys
      (base64Encode (wireBytes signature (depositMessage ext.prims params keys)))
      (depositParsed ext.prims params keys) where
  transaction := ⟨_, signature, depositMessage ext.prims params keys, base64Decode_encode _,
    VersionedTransaction.fromBytes_wireBytes _ _, fromBytes_depositMessage keys⟩
  blockhash := rfl
  instruction := by
    refine ⟨depositIx ext.prims params, rfl, ⟨rfl, ?_, rfl⟩, ?_, rfl, ?_⟩
    · repeat' constructor
    · repeat' constructor
    · have hlong : 56 ≤ (depositData ext.prims params).length := depositData_length.ge
      have hstart : (depositData ext.prims params).take 8 =
          Rs.anchorDiscriminator ext.prims "deposit" := by
        unfold depositData
        rw [List.append_assoc, List.append_assoc]
        exact List.take_left' (anchorDiscriminator_length "deposit")
      have hargs := @depositArgs_depositData ext.prims params hamount hexpiry
      unfold onChainDeposit
      rw [if_pos ⟨(by decide : 9 ≤ 9), hlong, hstart⟩]
      show some (_, depositArgs (depositData ext.prims params)) = _
      rw [hargs]
      rfl

/-! ## What is accepted -/

/-- The terms of a deposit, for what is required of it. -/
def depositTerms (params : Rs.DepositParams) (keys : DepositKeys) (requiredAmount : ℕ) :
    DepositTerms :=
  ⟨keys.programId, keys.agent, keys.provider, keys.mint, keys.escrow, keys.vault,
    params.serviceId, requiredAmount⟩

/-- The parsed deposit meets the terms it was built for. -/
theorem depositParsed_meets {requiredAmount : ℕ} (keys : DepositKeys)
    (hamount : params.amount ≤ u64Max) (hexpiry : params.expirySlot ≤ u64Max)
    (hrequired : requiredAmount ≤ params.amount) :
    Meets ext (depositTerms params keys requiredAmount) (depositParsed ext.prims params keys)
      (depositIx ext.prims params) := by
  have hargs := @depositArgs_depositData ext.prims params hamount hexpiry
  have hcalls : callsProgram (depositParsed ext.prims params keys) keys.programId
      (depositIx ext.prims params) = true := beq_self_eq_true (some keys.programId)
  have hstart : (depositData ext.prims params).take 8 =
      Rs.anchorDiscriminator ext.prims "deposit" := by
    unfold depositData
    rw [List.append_assoc, List.append_assoc]
    exact List.take_left' (anchorDiscriminator_length "deposit")
  refine ⟨List.find?_cons_of_pos hcalls, depositData_length.ge, hstart, ?_, ?_, rfl, rfl, rfl,
    rfl, rfl, rfl⟩
  · show requiredAmount ≤ (depositArgs (depositData ext.prims params)).amount
    rw [hargs]
    exact hrequired
  · show (depositArgs (depositData ext.prims params)).serviceId = params.serviceId
    rw [hargs]

/-- On any terms that a built deposit meets, its keys are those of the terms. -/
theorem terms_of_meets {terms : DepositTerms} {ix : CompiledInstruction} (keys : DepositKeys)
    (hamount : params.amount ≤ u64Max) (hexpiry : params.expirySlot ≤ u64Max)
    (h : Meets ext terms (depositParsed ext.prims params keys) ix) :
    terms.programId = keys.programId ∧ terms.agent = keys.agent ∧
      terms.provider = keys.provider ∧ terms.mint = keys.mint ∧
      terms.serviceId = params.serviceId ∧ terms.requiredAmount ≤ params.amount ∧
      depositArgs ix.data = ⟨params.amount, params.serviceId, params.expirySlot⟩ := by
  have hfirst := h.first
  -- the message has one instruction, so it is the one that was found
  have hix : depositIx ext.prims params = ix := by
    have hmem : ix ∈ [depositIx ext.prims params] := List.mem_of_find?_eq_some hfirst
    exact (List.mem_singleton.1 hmem).symm
  have hargs : depositArgs ix.data = ⟨params.amount, params.serviceId, params.expirySlot⟩ := by
    rw [← hix]
    exact depositArgs_depositData hamount hexpiry
  have hcalls : callsProgram (depositParsed ext.prims params keys) terms.programId ix = true :=
    List.find?_some hfirst
  have hprogram : (some keys.programId == some terms.programId) = true := by
    rw [← hix] at hcalls
    exact hcalls
  have hprovider : some keys.provider = some terms.provider := by
    have hread := h.provider
    rw [← hix] at hread
    exact hread
  have hmint : some keys.mint = some terms.mint := by
    have hread := h.mint
    rw [← hix] at hread
    exact hread
  have hagent : some keys.agent = some terms.agent := h.signer
  have hservice := h.serviceId
  have hrequired := h.amount
  rw [hargs] at hservice hrequired
  exact ⟨(Option.some.inj (eq_of_beq hprogram)).symm, (Option.some.inj hagent).symm,
    (Option.some.inj hprovider).symm, (Option.some.inj hmint).symm, hservice.symm, hrequired,
    hargs⟩

/-- Whatever its keys are, a deposit that is built and signed is accepted on its terms only. -/
theorem acceptedExactly_depositMessage {seed : Vector UInt8 32} {keys : DepositKeys}
    (hsigns : VerifiesOwn ext.prims ext.ed) (hamount : params.amount ≤ u64Max)
    (hexpiry : params.expirySlot ≤ u64Max)
    (hnames : DepositNames ext.prims ext.bs58Error params seed keys) :
    AcceptedExactly ext params keys (base64Encode (wireBytes
      (ext.prims.sign seed (depositMessage ext.prims params keys))
      (depositMessage ext.prims params keys))) := by
  intro verifier payload serviceIdText agentText slotAnswer result hpayload
  have htransaction : transactionIn payload =
      some ⟨[ext.prims.sign seed (depositMessage ext.prims params keys)],
        depositMessage ext.prims params keys⟩ := by
    unfold transactionIn
    rw [hpayload]
    dsimp only
    rw [base64Decode_encode, Option.bind_some, VersionedTransaction.fromBytes_wireBytes]
    rfl
  constructor
  · intro hok
    obtain ⟨slot, terms, message, ix, hslot, hverified, hresult⟩ := verifyPayment_ok hok
    obtain ⟨tx, htx, hparsed, -⟩ := hverified.carries
    rw [← Option.some.inj (htransaction.symm.trans htx)] at hparsed
    have hmessage : depositParsed ext.prims params keys = message :=
      Except.ok.inj ((fromBytes_depositMessage keys).symm.trans hparsed)
    have hmeets := hverified.meets
    rw [← hmessage] at hmeets
    obtain ⟨hprogramId, hagent, hprovider, hmint, hservice, hrequired, hargs⟩ :=
      terms_of_meets keys hamount hexpiry hmeets
    obtain ⟨depositTx, serviceId, agent, hpayload', hserviceId, hagentText⟩ := hverified.asks.ids
    -- the texts that the verifier read are those of the payload
    obtain ⟨-, hsameService, hsameAgent⟩ := PayloadData.escrow.inj (hpayload.symm.trans hpayload')
    have hlate := hverified.expiry
    rw [hargs] at hlate hresult
    refine ⟨hresult, ?_, ?_, ?_, ?_, ?_, ⟨_, hverified.asks.requiredAmount, hrequired⟩,
      ⟨slot, hslot, hlate⟩⟩
    · rw [← hprovider]
      exact hverified.asks.provider
    · rw [← hmint]
      exact hverified.asks.mint
    · rw [← hprogramId]
      exact hverified.asks.programId
    · rw [hsameService, ← hservice]
      exact hserviceId
    · rw [hsameAgent, ← hagent]
      exact hagentText
  · rintro ⟨hresult, hfits⟩
    obtain ⟨required, hrequired, hcovered⟩ := hfits.amount
    obtain ⟨slot, hslot, hlate⟩ := hfits.slot
    have hkey : ext.ed.verifyingKey keys.agent = .ok () := by
      rw [← hnames.agent]
      exact hsigns.key seed
    have hsigned : ext.ed.verify keys.agent (depositMessage ext.prims params keys)
        (ext.prims.sign seed (depositMessage ext.prims params keys)) = .ok () := by
      rw [← hnames.agent]
      exact hsigns.signature seed _
    have hargs := @depositArgs_depositData ext.prims params hamount hexpiry
    have hverified : Verified ext verifier payload slot (depositTerms params keys required)
        (depositParsed ext.prims params keys) (depositIx ext.prims params) := by
      refine ⟨?_, ?_, depositParsed_meets keys hamount hexpiry hcovered, ?_⟩
      · exact ⟨⟨_, serviceIdText, agentText, hpayload, hfits.serviceId, hfits.agent⟩,
          hfits.programId, hfits.recipient, hfits.mint, hnames.escrow, hnames.vault, hrequired⟩
      · exact ⟨_, htransaction, fromBytes_depositMessage keys, keys.agent, _, rfl, rfl, hsigned⟩
      · show slot + minExpiryBufferSlots ≤ (depositArgs (depositData ext.prims params)).expirySlot
        rw [hargs]
        exact hlate
    have haccepted := verifyPayment_of_verified hslot hkey hverified
    have hreported : (depositArgs (depositIx ext.prims params).data).amount = params.amount :=
      congrArg DepositArgs.amount hargs
    rw [hreported] at haccepted
    rw [haccepted, hresult]

/-! ## The keys apart -/

section
variable {prims : Primitives} {bs58Error : String → String} {params : Rs.DepositParams}

/-- A derived address is no point of the curve. -/
theorem isOnCurve_of_findProgramAddress {seeds : List (List UInt8)} {programId address : Pubkey}
    {bump : ℕ} (h : Rs.findProgramAddress prims seeds programId = some (address, bump)) :
    prims.isOnCurve address = false := by
  unfold Rs.findProgramAddress at h
  obtain ⟨nonce, -, hnonce⟩ := List.exists_of_findSome?_eq_some h
  obtain ⟨found, hfound, hpair⟩ := Option.map_eq_some_iff.1 hnonce
  unfold Rs.programAddress at hfound
  dsimp only at hfound
  split_ifs at hfound with hcurve
  rw [← (Prod.mk.inj hpair).1, ← Option.some.inj hfound]
  simpa using hcurve

/-- A token account is the derivation of its three seeds. -/
theorem deriveAtaAddress_eq_some {wallet mint address : Pubkey} :
    Rs.deriveAtaAddress prims bs58Error wallet mint = some address ↔
      ∃ bump, Rs.findProgramAddress prims [wallet.toList, tokenProgramId.toList, mint.toList]
        associatedTokenProgramId = some (address, bump) := by
  unfold Rs.deriveAtaAddress
  rw [decodeBs58Pubkey_of_bs58Decode bs58Error bs58Decode_tokenProgram,
    decodeBs58Pubkey_of_bs58Decode bs58Error bs58Decode_ataProgram]
  show (Rs.findProgramAddress prims _ _).map Prod.fst = some address ↔ _
  rw [Option.map_eq_some_iff]
  constructor
  · rintro ⟨⟨found, bump⟩, hfound, hsame⟩
    have hsame : found = address := hsame
    exact ⟨bump, by rw [hfound, hsame]⟩
  · rintro ⟨bump, hfound⟩
    exact ⟨_, hfound, rfl⟩

namespace DepositNames
variable {seed : Vector UInt8 32} {keys : DepositKeys}

/-- The agent's key is a point of the curve, so none of the derived addresses. -/
theorem agent_not_mem (h : DepositNames prims bs58Error params seed keys) :
    keys.agent ∉ keys.derived := by
  obtain ⟨bytes, -, hseed⟩ := h.keypair
  obtain ⟨hpublic, hcurve⟩ := fromKeypairBytes_ok hseed
  have hon : prims.isOnCurve keys.agent = true := by
    rw [← h.agent, hpublic]
    exact hcurve
  obtain ⟨_, hescrow⟩ := h.escrow
  obtain ⟨_, hagentAta⟩ := deriveAtaAddress_eq_some.1 h.agentAta
  obtain ⟨_, hvault⟩ := deriveAtaAddress_eq_some.1 h.vault
  have hoff : ∀ address ∈ keys.derived, prims.isOnCurve address = false := by
    intro address hmem
    simp only [DepositKeys.derived, List.mem_cons, List.not_mem_nil, or_false] at hmem
    rcases hmem with hsame | hsame | hsame
    · rw [hsame]
      exact isOnCurve_of_findProgramAddress hescrow
    · rw [hsame]
      exact isOnCurve_of_findProgramAddress hagentAta
    · rw [hsame]
      exact isOnCurve_of_findProgramAddress hvault
  intro hmem
  rw [hoff _ hmem] at hon
  exact Bool.false_ne_true hon

/-- The three derivations are from different seeds, so their addresses differ. -/
theorem derived_nodup (h : DepositNames prims bs58Error params seed keys)
    (hdistinct : DistinctOutputs prims (depositDerivations params keys)) : keys.derived.Nodup := by
  obtain ⟨bump, hescrow⟩ := h.escrow
  obtain ⟨bumpA, hagentAta⟩ := deriveAtaAddress_eq_some.1 h.agentAta
  obtain ⟨bumpV, hvault⟩ := deriveAtaAddress_eq_some.1 h.vault
  -- the seeds of the escrow are 70 bytes, those of a token account 96
  have hlen : ∀ wallet : Pubkey,
      [textBytes "escrow", keys.agent.toList, params.serviceId.toList].flatten ≠
        [wallet.toList, tokenProgramId.toList, keys.mint.toList].flatten := by
    intro wallet hsame
    have hlength := congrArg List.length hsame
    have hescrowText : (textBytes "escrow").length = 6 := by decide +kernel
    simp only [List.flatten_cons, List.flatten_nil, List.append_nil, List.length_append,
      Vector.length_toList, hescrowText] at hlength
    omega
  have hescrowAgent : keys.escrow ≠ keys.agentAta := by
    intro hsame
    rw [hsame] at hescrow
    exact hlen keys.agent
      (hdistinct _ List.mem_cons_self _ (.tail _ List.mem_cons_self) _ _ _ hescrow hagentAta).1
  have hescrowVault : keys.escrow ≠ keys.vault := by
    intro hsame
    rw [hsame] at hescrow
    exact hlen keys.escrow (hdistinct _ List.mem_cons_self _
      (.tail _ (.tail _ List.mem_cons_self)) _ _ _ hescrow hvault).1
  have hatas : keys.agentAta ≠ keys.vault := by
    intro hsame
    rw [hsame] at hagentAta
    have hseeds := (hdistinct _ (.tail _ List.mem_cons_self) _
      (.tail _ (.tail _ List.mem_cons_self)) _ _ _ hagentAta hvault).1
    have hlength : keys.agent.toList.length = keys.escrow.toList.length := by
      rw [Vector.length_toList, Vector.length_toList]
    have hagent : keys.agent = keys.escrow :=
      Vector.toList_inj.1 (List.append_inj hseeds hlength).1
    apply h.agent_not_mem
    rw [hagent]
    exact List.mem_cons_self
  simp only [DepositKeys.derived, List.nodup_cons, List.mem_cons, List.not_mem_nil, or_false,
    not_or, not_false_eq_true, List.nodup_nil, and_true]
  exact ⟨⟨hescrowAgent, hescrowVault⟩, hatas⟩

/-- The message loads no key twice exactly when its keys are apart. -/
theorem accountKeys_nodup_iff (h : DepositNames prims bs58Error params seed keys)
    (hdistinct : DistinctOutputs prims (depositDerivations params keys)) :
    (depositParsed prims params keys).accountKeys.Nodup ↔ keys.Apart := by
  have hderived := h.derived_nodup hdistinct
  have hagent := h.agent_not_mem
  show (keys.agent :: (keys.derived ++ keys.readOnly)).Nodup ↔ _
  rw [List.nodup_cons, List.mem_append, not_or, List.nodup_append']
  constructor
  · rintro ⟨⟨-, hnot⟩, -, hreadOnly, hdisjoint⟩
    exact ⟨List.nodup_cons.2 ⟨hnot, hreadOnly⟩, hdisjoint⟩
  · rintro ⟨hgiven, hdisjoint⟩
    obtain ⟨hnot, hreadOnly⟩ := List.nodup_cons.1 hgiven
    exact ⟨⟨hagent, hnot⟩, hderived, hreadOnly, hdisjoint⟩

/-- The parameters name one set of keys. -/
theorem keys_eq {seed' : Vector UInt8 32} {keys' : DepositKeys}
    (h : DepositNames prims bs58Error params seed keys)
    (h' : DepositNames prims bs58Error params seed' keys') : keys = keys' := by
  obtain ⟨bytes, hbytes, hseed⟩ := h.keypair
  obtain ⟨bytes', hbytes', hseed'⟩ := h'.keypair
  rw [Vector.toList_inj.1 (Option.some.inj (hbytes.symm.trans hbytes'))] at hseed
  have hagent : keys.agent = keys'.agent := by
    rw [← h.agent, ← h'.agent, Except.ok.inj (hseed.symm.trans hseed')]
  have hprovider : keys.provider = keys'.provider :=
    Except.ok.inj (h.provider.symm.trans h'.provider)
  have hmint : keys.mint = keys'.mint := Except.ok.inj (h.mint.symm.trans h'.mint)
  have hprogramId : keys.programId = keys'.programId :=
    Except.ok.inj (h.programId.symm.trans h'.programId)
  have hescrow : keys.escrow = keys'.escrow := by
    obtain ⟨_, hfound⟩ := h.escrow
    obtain ⟨_, hfound'⟩ := h'.escrow
    rw [hagent, hprogramId, hfound'] at hfound
    exact (Prod.mk.inj (Option.some.inj hfound)).1.symm
  have hagentAta : keys.agentAta = keys'.agentAta := by
    have hfound := h.agentAta
    rw [hagent, hmint, h'.agentAta] at hfound
    exact (Option.some.inj hfound).symm
  have hvault : keys.vault = keys'.vault := by
    have hfound := h.vault
    rw [hescrow, hmint, h'.vault] at hfound
    exact (Option.some.inj hfound).symm
  exact DepositKeys.ext hagent hescrow hagentAta hvault hprovider hmint hprogramId

end DepositNames

/-- Derivations of different addresses have distinct outputs. -/
theorem distinctOutputs_of_nodup {derivations : List (List (List UInt8) × Pubkey)}
    {addresses : List Pubkey}
    (hfound : List.Forall₂ (fun d address => ∃ bump,
      Rs.findProgramAddress prims d.1 d.2 = some (address, bump)) derivations addresses)
    (hnodup : addresses.Nodup) : DistinctOutputs prims derivations := by
  intro d hd d' hd' address bump bump' h h'
  obtain ⟨i, hi, hdi⟩ := List.getElem_of_mem hd
  obtain ⟨j, hj, hdj⟩ := List.getElem_of_mem hd'
  have hlen := hfound.length_eq
  obtain ⟨_, hi'⟩ := hfound.get hi (hlen ▸ hi)
  obtain ⟨_, hj'⟩ := hfound.get hj (hlen ▸ hj)
  rw [List.get_eq_getElem, hdi, h] at hi'
  rw [List.get_eq_getElem, hdj, h'] at hj'
  have hsame : i = j := by
    apply (List.Nodup.getElem_inj_iff hnodup).1
    exact (Prod.mk.inj (Option.some.inj hi')).1.symm.trans (Prod.mk.inj (Option.some.inj hj')).1
  have hsame' : d = d' := by
    rw [← hdi, ← hdj]
    congr
  rw [hsame']
  exact ⟨rfl, rfl⟩

/-- Different addresses are different outputs of the derivation. -/
theorem DepositNames.distinctOutputs {seed : Vector UInt8 32} {keys : DepositKeys}
    (h : DepositNames prims bs58Error params seed keys) (hnodup : keys.derived.Nodup) :
    DistinctOutputs prims (depositDerivations params keys) := by
  apply distinctOutputs_of_nodup _ hnodup
  exact .cons h.escrow (.cons (deriveAtaAddress_eq_some.1 h.agentAta)
    (.cons (deriveAtaAddress_eq_some.1 h.vault) .nil))

end

/-- A built deposit is recovered as one message only. -/
theorem eq_of_recovered {keys keys' : DepositKeys} {signature : Signature} {m : ParsedMessage}
    (h : Recovered ext params keys'
      (base64Encode (wireBytes signature (depositMessage ext.prims params keys))) m) :
    m = depositParsed ext.prims params keys := by
  obtain ⟨bytes, signature', message, hbytes, htx, hmessage⟩ := h.transaction
  rw [base64Decode_encode] at hbytes
  rw [← Option.some.inj hbytes, VersionedTransaction.fromBytes_wireBytes] at htx
  have hsame := (VersionedTransaction.mk.inj (Except.ok.inj htx)).2
  rw [← hsame, fromBytes_depositMessage] at hmessage
  exact (Except.ok.inj hmessage).symm

/-- Parser, program and verifier take every deposit as it was built. Its keys are loaded once each
exactly when those given are apart. -/
theorem deposit_agrees_iff {tx : String} (hsigns : VerifiesOwn ext.prims ext.ed)
    (hdistinct : ∀ seed keys, DepositNames ext.prims ext.bs58Error params seed keys →
      DistinctOutputs ext.prims (depositDerivations params keys))
    (hamount : params.amount ≤ u64Max) (hexpiry : params.expirySlot ≤ u64Max)
    (hbuilt : Rs.buildDepositTx ext.prims ext.bs58Error params = .ok tx) :
    ∃ seed keys, DepositNames ext.prims ext.bs58Error params seed keys ∧
      (DepositAgrees ext params keys tx ↔ keys.Apart) := by
  obtain ⟨seed, keys, hnames, htx⟩ := names_of_buildDepositTx hbuilt
  have hnodup := hnames.accountKeys_nodup_iff (hdistinct seed keys hnames)
  refine ⟨seed, keys, hnames, ?_⟩
  rw [htx]
  constructor
  · rintro ⟨⟨m, hrecovered, hm⟩, -⟩
    rw [eq_of_recovered hrecovered] at hm
    exact hnodup.1 hm
  · intro hapart
    exact ⟨⟨_, recovered_depositMessage keys _ hamount hexpiry, hnodup.2 hapart⟩,
      acceptedExactly_depositMessage hsigns hamount hexpiry hnames⟩

end

/-! ## The golden deposit, and one to oneself -/

/-- The parameters of the golden vector, for a provider. -/
def depositTo (providerWalletB58 : String) : Rs.DepositParams where
  agentKeypairB58 := goldenKeypairB58
  providerWalletB58 := providerWalletB58
  usdcMintB58 := "EPjFWdd5AufqSSqeM2qN1xzybapC8G4wEGGkZwyTDt1v"
  escrowProgramIdB58 := "9neDHouXgEgHZDde5SpmqqEZ9Uv35hFcjtFEPxomtHLU"
  amount := 2625
  serviceId := goldenServiceId
  expirySlot := 1000750
  recentBlockhash := Vector.replicate 32 0xAB

/-- Its keys. -/
def goldenKeys (provider : Pubkey) : DepositKeys where
  agent := goldenAgent
  escrow := goldenEscrowPda
  agentAta := goldenAgentAta
  vault := goldenVaultAta
  provider := provider
  mint := sampleMint
  programId := goldenProgram

/-- The signature of the deposit whose provider is the agent. -/
def selfDepositSignature : Signature := #v[
  33, 219, 216, 72, 204, 43, 100, 22, 212, 151, 98, 12, 171, 35, 203, 30, 208, 73, 108, 51, 96, 60,
  157, 163, 117, 6, 39, 29, 176, 49, 161, 47, 77, 142, 26, 51, 49, 95, 186, 76, 116, 228, 233, 238,
  195, 26, 66, 41, 63, 59, 113, 96, 95, 28, 39, 177, 194, 239, 51, 220, 92, 23, 234, 7]

/-- The primitives of the golden vector, and the signature of the deposit to oneself. -/
def depositPrims : Primitives :=
  { goldenPrims with
    sign := fun seed message =>
      if (message.drop 132).take 32 = goldenAgent.toList then selfDepositSignature
      else goldenPrims.sign seed message }

/-- The libraries on the key of the golden vector. -/
def depositExternals : Externals where
  prims := depositPrims
  ed :=
    { verifyingKey := fun key => if key = goldenAgent then .ok () else .error "signature error"
      verify := fun key message signature =>
        if key = goldenAgent ∧ signature = depositPrims.sign (Vector.replicate 32 42) message then
          .ok ()
        else .error "signature error" }
  bs58Encode _ := ""
  bs58Error _ := ""
  base64Error _ := ""

theorem depositExternals_verifiesOwn : VerifiesOwn depositExternals.prims depositExternals.ed := by
  constructor
  · intro seed
    show (if goldenAgent = goldenAgent then Except.ok () else Except.error "signature error") = _
    exact if_pos rfl
  · intro seed message
    exact if_pos (⟨rfl, rfl⟩ : goldenAgent = goldenAgent ∧
      depositPrims.sign seed message = depositPrims.sign (Vector.replicate 32 42) message)

/-- What the builder finds, whoever the provider is. -/
theorem depositTo_parts :
    bs58Decode goldenKeypairB58 = some (goldenSecretKey goldenAgent).toList ∧
      Rs.fromKeypairBytes depositPrims (goldenSecretKey goldenAgent) =
        .ok (Vector.replicate 32 42) ∧
      Rs.decodeBs58Pubkey depositExternals.bs58Error
        "EPjFWdd5AufqSSqeM2qN1xzybapC8G4wEGGkZwyTDt1v" = .ok sampleMint ∧
      Rs.decodeBs58Pubkey depositExternals.bs58Error
        "9neDHouXgEgHZDde5SpmqqEZ9Uv35hFcjtFEPxomtHLU" = .ok goldenProgram ∧
      Rs.findProgramAddress depositPrims
        [textBytes "escrow", goldenAgent.toList, goldenServiceId.toList] goldenProgram =
          some (goldenEscrowPda, 255) ∧
      Rs.deriveAtaAddress depositPrims depositExternals.bs58Error goldenAgent sampleMint =
        some goldenAgentAta ∧
      Rs.deriveAtaAddress depositPrims depositExternals.bs58Error goldenEscrowPda sampleMint =
        some goldenVaultAta := by
  decide +kernel

/-- The sample deposits, to whichever provider. -/
theorem depositTo_names {text : String} {provider : Pubkey}
    (h : Rs.decodeBs58Pubkey depositExternals.bs58Error text = .ok provider) :
    DepositNames depositExternals.prims depositExternals.bs58Error (depositTo text)
      (Vector.replicate 32 42) (goldenKeys provider) := by
  obtain ⟨hkeypair, hseed, hmint, hprogramId, hescrow, hagentAta, hvault⟩ := depositTo_parts
  exact ⟨⟨_, hkeypair, hseed⟩, rfl, h, hmint, hprogramId, ⟨255, hescrow⟩, hagentAta, hvault⟩

/-- The derivations of these deposits have distinct outputs. -/
theorem depositTo_distinct {text : String} {provider : Pubkey}
    (h : Rs.decodeBs58Pubkey depositExternals.bs58Error text = .ok provider)
    {seed : Vector UInt8 32} {keys : DepositKeys}
    (hnames : DepositNames depositExternals.prims depositExternals.bs58Error (depositTo text) seed
      keys) :
    DistinctOutputs depositExternals.prims (depositDerivations (depositTo text) keys) := by
  have hkeys := (depositTo_names h).keys_eq hnames
  rw [← hkeys]
  have hderived : (goldenKeys provider).derived.Nodup := by
    show [goldenEscrowPda, goldenAgentAta, goldenVaultAta].Nodup
    decide +kernel
  exact (depositTo_names h).distinctOutputs hderived

/-- The golden vector's deposit agrees. -/
theorem deposit_agrees_golden :
    ∃ tx, Rs.buildDepositTx depositExternals.prims depositExternals.bs58Error
        (depositTo "9WzDXwBbmkg8ZTbNMqUxvQRAyrZzDsGYdLVL9zYtAWWM") = .ok tx ∧
      DepositAgrees depositExternals (depositTo "9WzDXwBbmkg8ZTbNMqUxvQRAyrZzDsGYdLVL9zYtAWWM")
        (goldenKeys goldenProvider) tx := by
  have hprovider : Rs.decodeBs58Pubkey depositExternals.bs58Error
      "9WzDXwBbmkg8ZTbNMqUxvQRAyrZzDsGYdLVL9zYtAWWM" = .ok goldenProvider := by
    decide +kernel
  have hgolden := depositTo_names hprovider
  have hbuilt := buildDepositTx_of_names (by decide) hgolden
  obtain ⟨seed, keys, hnames, hagrees⟩ := deposit_agrees_iff depositExternals_verifiesOwn
    (fun _ _ hnames => depositTo_distinct hprovider hnames) (by decide) (by decide) hbuilt
  have hapart : (goldenKeys goldenProvider).Apart :=
    ⟨by decide +kernel, List.disjoint_left.2 (by decide +kernel)⟩
  rw [← hgolden.keys_eq hnames] at hagrees
  exact ⟨_, hbuilt, hagrees.2 hapart⟩

/-- A deposit to the agent's own wallet is built, with a key that would be loaded twice. -/
theorem self_deposit_disagrees :
    VerifiesOwn depositExternals.prims depositExternals.ed ∧
      (∀ seed keys, DepositNames depositExternals.prims depositExternals.bs58Error
          (depositTo goldenAgentB58) seed keys →
        DistinctOutputs depositExternals.prims
          (depositDerivations (depositTo goldenAgentB58) keys)) ∧
      ∃ tx, Rs.buildDepositTx depositExternals.prims depositExternals.bs58Error
          (depositTo goldenAgentB58) = .ok tx ∧
        ∀ seed keys, DepositNames depositExternals.prims depositExternals.bs58Error
            (depositTo goldenAgentB58) seed keys →
          ¬ DepositAgrees depositExternals (depositTo goldenAgentB58) keys tx := by
  have hprovider : Rs.decodeBs58Pubkey depositExternals.bs58Error goldenAgentB58 =
      .ok goldenAgent := by
    decide +kernel
  have hself := depositTo_names hprovider
  refine ⟨depositExternals_verifiesOwn, fun _ _ hnames => depositTo_distinct hprovider hnames, _,
    buildDepositTx_of_names (by decide) hself, ?_⟩
  intro seed keys hnames hagrees
  obtain ⟨⟨m, hrecovered, hnodup⟩, -⟩ := hagrees
  rw [eq_of_recovered hrecovered] at hnodup
  -- the provider stands among the keys behind the agent
  have hmem : goldenAgent ∈ (goldenKeys goldenAgent).derived ++ (goldenKeys goldenAgent).readOnly :=
    List.mem_append_right _ List.mem_cons_self
  exact (List.nodup_cons.1 hnodup).1 hmem

end Solvela.EscrowPayment
