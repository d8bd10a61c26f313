import Solvela.Lib.Bytes
import Solvela.Payment.MessageLayout
import Solvela.Signer.Agreement

/-!
# The claim transaction

`do_claim` writes the message of an escrow claim by hand: ten accounts, two more with a durable
nonce, and the program last. The header counts the accounts at the end that are read-only. Without
a nonce the count fits; with one, the nonce account stands behind the system program and among
them, although `AdvanceNonceAccount` writes it.
-/

namespace Solvela.EscrowClaimer

open Solvela.Lib (leValue)
open Solvela.Lib.Txn (except_bind_ok)
open Solvela.ChannelLedger Solvela.Channel Solvela.Payment Solvela.Signer

/-! ## Building -/

/-- The fields of `ClaimParams` that the message is made of. -/
structure ClaimParams where
  feePayerKeypair : Vector UInt8 64
  escrowProgramId : Pubkey
  recipientWallet : Pubkey
  usdcMint : Pubkey
  serviceId : Vector UInt8 32
  agentPubkey : Pubkey
  actualAmount : UInt64

/-- `NonceAdvanceInfo`. -/
structure NonceAdvanceInfo where
  nonceAccount : Pubkey
  sysvarRecentBlockhashes : Pubkey

/-- `SYSVAR_RENT_ID`. -/
def sysvarRentIdB58 : String := "SysvarRent111111111111111111111111111111111"

/-- The addresses of step 2. -/
structure ClaimAddresses where
  escrowPda : Pubkey
  vaultAta : Pubkey
  providerAta : Pubkey
  agentAta : Pubkey
deriving DecidableEq

/-- `ok_or_else(EscrowClaimFailed)`. -/
def orFailed {α : Type} (message : String) : Option α → Except String α
  | none => .error message
  | some a => .ok a

section
variable (prims : Primitives) (bs58Error : String → String)

/-- The derivations of step 2: the PDA of the agent and the service id, and three token accounts. -/
def deriveAddresses (params : ClaimParams) : Except String ClaimAddresses := do
  let (escrowPda, _) ← orFailed "failed to derive escrow PDA"
    (Rs.findProgramAddress prims
      [textBytes "escrow", params.agentPubkey.toList, params.serviceId.toList]
      params.escrowProgramId)
  let vaultAta ← orFailed "failed to derive vault ATA"
    (Rs.deriveAtaAddress prims bs58Error escrowPda params.usdcMint)
  let providerAta ← orFailed "failed to derive provider ATA"
    (Rs.deriveAtaAddress prims bs58Error params.recipientWallet params.usdcMint)
  let agentAta ← orFailed "failed to derive agent ATA"
    (Rs.deriveAtaAddress prims bs58Error params.agentPubkey params.usdcMint)
  .ok ⟨escrowPda, vaultAta, providerAta, agentAta⟩

/-- A program address among the constants. -/
def constantAddress (what b58 : String) : Except String Pubkey :=
  (Rs.decodeBs58Pubkey bs58Error b58).mapError fun e => what ++ ": " ++ e

/-- Step 5 of `do_claim`: the message, from the accounts on. -/
def claimMessage (accounts : List Pubkey) (escrowProgramId : Pubkey) (blockhash : Vector UInt8 32)
    (nonce : Option NonceAdvanceInfo) (ixData : List UInt8) : List UInt8 :=
  let accounts := match nonce with
    | some info => accounts ++ [info.nonceAccount, info.sysvarRecentBlockhashes]
    | none => accounts
  let nonceAdvanceAccounts := nonce.map fun _ => (accounts.length - 2, accounts.length - 1)
  let numReadonlyUnsigned := if nonceAdvanceAccounts.isSome then 4 else 3
  let ixAccounts := [1, 2, 0, 3, 4, 5, 6, 7, 8, 9]
  let msg := [1] ++ [0] ++ [numReadonlyUnsigned]
  let msg := msg ++ [UInt8.ofNat (accounts.length + 1)]
  let msg := msg ++ accounts.flatMap (·.toList) ++ escrowProgramId.toList
  let msg := msg ++ blockhash.toList
  let msg := msg ++ [if nonceAdvanceAccounts.isSome then 2 else 1]
  let msg := match nonceAdvanceAccounts with
    | some (nonceAcctIdx, sysvarIdx) =>
      msg ++ [9] ++ [3] ++ [UInt8.ofNat nonceAcctIdx] ++ [UInt8.ofNat sysvarIdx] ++ [0] ++ [4] ++
        [4, 0, 0, 0]
    | none => msg
  let msg := msg ++ [UInt8.ofNat accounts.length]
  let msg := msg ++ [UInt8.ofNat ixAccounts.length] ++ ixAccounts
  msg ++ [UInt8.ofNat ixData.length] ++ ixData

/-- `do_claim` up to the message, once the blockhash or the nonce is there. -/
def buildClaim (params : ClaimParams) (blockhash : Vector UInt8 32)
    (nonce : Option NonceAdvanceInfo) : Except String (List UInt8) := do
  let addresses ← deriveAddresses prims bs58Error params
  let tokenProgram ← constantAddress bs58Error "token program" tokenProgramIdB58
  let ataProgram ← constantAddress bs58Error "ata program" ataProgramIdB58
  let systemProgram ← constantAddress bs58Error "system program" systemProgramIdB58
  let _ ← constantAddress bs58Error "sysvar rent" sysvarRentIdB58
  let ixData := Rs.anchorDiscriminator prims "claim" ++ leBytes params.actualAmount.toNat
  let signingKey ← (Rs.fromKeypairBytes prims params.feePayerKeypair).mapError
    ("invalid fee_payer keypair: " ++ ·)
  let feePayerPubkey := prims.publicKey signingKey
  if feePayerPubkey ≠ params.recipientWallet then
    .error ("fee_payer_key must belong to the recipient_wallet; " ++
      "separate fee payer and provider keys are not supported " ++
      "because only the fee_payer_key is available for signing")
  else
    .ok (claimMessage
      [feePayerPubkey, addresses.escrowPda, params.agentPubkey, params.usdcMint,
        addresses.vaultAta, addresses.providerAta, addresses.agentAta, tokenProgram, ataProgram,
        systemProgram]
      params.escrowProgramId blockhash nonce ixData)

end

/-! ## What is meant -/

/-- The `Claim` accounts of the program, in their order. The two token accounts that are
`init_if_needed` are written like those that are `mut`. -/
def claimAccounts (params : ClaimParams) (a : ClaimAddresses) : List AccountMeta :=
  [⟨a.escrowPda, false, true⟩, ⟨params.agentPubkey, false, true⟩,
    ⟨params.recipientWallet, true, true⟩, ⟨params.usdcMint, false, false⟩,
    ⟨a.vaultAta, false, true⟩, ⟨a.providerAta, false, true⟩, ⟨a.agentAta, false, true⟩,
    ⟨tokenProgramId, false, false⟩, ⟨associatedTokenProgramId, false, false⟩,
    ⟨systemProgram, false, false⟩]

/-- The `claim` instruction: Anchor's discriminator and the amount. -/
def claimInstruction (prims : Primitives) (params : ClaimParams) (a : ClaimAddresses) :
    Instruction where
  programId := params.escrowProgramId
  accounts := claimAccounts params a
  data := Rs.anchorDiscriminator prims "claim" ++ leBytes params.actualAmount.toNat

/-- `AdvanceNonceAccount`: it writes the nonce account and takes the authority's signature. -/
def advanceNonceAccount (info : NonceAdvanceInfo) (authority : Pubkey) : Instruction where
  programId := systemProgram
  accounts := [⟨info.nonceAccount, false, true⟩, ⟨info.sysvarRecentBlockhashes, false, false⟩,
    ⟨authority, true, false⟩]
  data := [4, 0, 0, 0]

/-- The instructions of a claim, in their order. -/
def intendedInstructions (prims : Primitives) (params : ClaimParams) (a : ClaimAddresses)
    (nonce : Option NonceAdvanceInfo) : List Instruction :=
  (nonce.map fun info => advanceNonceAccount info params.recipientWallet).toList ++
    [claimInstruction prims params a]

/-- The message parses into the instructions meant, over the blockhash. -/
def Carries (prims : Primitives) (params : ClaimParams) (a : ClaimAddresses)
    (blockhash : Vector UInt8 32) (nonce : Option NonceAdvanceInfo) (m : ParsedMessage) : Prop :=
  m.recentBlockhash = blockhash ∧
    List.Forall₂ m.Compiles m.instructions (intendedInstructions prims params a nonce) ∧
    ∀ ix ∈ m.instructions.getLast?, leValue (ix.data.drop 8) = params.actualAmount.toNat

/-- The header gives every account of the instructions meant what it needs. -/
def Privileged (prims : Primitives) (params : ClaimParams) (a : ClaimAddresses)
    (nonce : Option NonceAdvanceInfo) (m : ParsedMessage) : Prop :=
  List.Forall₂ (fun ix intended => List.Forall₂ m.Grants ix.accounts intended.accounts)
    m.instructions (intendedInstructions prims params a nonce)

/-- The layout of a claim message. -/
def ClaimLayout (prims : Primitives) (params : ClaimParams) (a : ClaimAddresses)
    (blockhash : Vector UInt8 32) (nonce : Option NonceAdvanceInfo) (msg : List UInt8) : Prop :=
  ∃ m, ParsedMessage.fromBytes msg = .ok m ∧ Carries prims params a blockhash nonce m ∧
    Privileged prims params a nonce m

/-! ## Reading back -/

/-- The instruction of the nonce, by the places of its accounts. -/
def nonceIx : CompiledInstruction := ⟨9, [10, 11, 0], [4, 0, 0, 0]⟩

/-- What a claim message is read back as. -/
def claimParsed (keys : List Pubkey) (escrowProgramId : Pubkey) (blockhash : Vector UInt8 32)
    (nonce : Option NonceAdvanceInfo) (ixData : List UInt8) : ParsedMessage :=
  match nonce with
  | none =>
    { header := ⟨1, 0, 3⟩, accountKeys := keys ++ [escrowProgramId]
      recentBlockhash := blockhash
      instructions := [⟨10, [1, 2, 0, 3, 4, 5, 6, 7, 8, 9], ixData⟩], isV0 := false }
  | some info =>
    { header := ⟨1, 0, 4⟩
      accountKeys := keys ++ [info.nonceAccount, info.sysvarRecentBlockhashes, escrowProgramId]
      recentBlockhash := blockhash
      instructions := [nonceIx, ⟨12, [1, 2, 0, 3, 4, 5, 6, 7, 8, 9], ixData⟩], isV0 := false }

/-- The message that is written by hand is the one of its accounts and instructions. -/
theorem claimMessage_eq {keys : List Pubkey} (hkeys : keys.length = 10)
    (escrowProgramId : Pubkey) (blockhash : Vector UInt8 32) (nonce : Option NonceAdvanceInfo)
    (ixData : List UInt8) :
    claimMessage keys escrowProgramId blockhash nonce ixData =
      (claimParsed keys escrowProgramId blockhash nonce ixData).bytes := by
  unfold claimMessage
  cases nonce with
  | none =>
    dsimp only [Option.map_none, Option.isSome_none]
    simp only [claimParsed, ParsedMessage.bytes, CompiledInstruction.bytes, Bool.false_eq_true,
      if_false, List.length_append, List.length_cons, List.length_nil, hkeys, List.flatMap_append,
      List.flatMap_singleton, List.append_assoc, List.cons_append, List.nil_append]
    rfl
  | some info =>
    dsimp only [Option.map_some, Option.isSome_some]
    simp only [claimParsed, ParsedMessage.bytes, CompiledInstruction.bytes, nonceIx, if_true,
      List.length_append, List.length_cons, List.length_nil, hkeys, List.flatMap_append,
      List.flatMap_cons, List.flatMap_nil, List.append_assoc, List.cons_append, List.nil_append,
      List.append_nil]
    rfl

/-- All its lengths take one byte. -/
theorem claimParsed_short {keys : List Pubkey} (hkeys : keys.length = 10)
    (escrowProgramId : Pubkey) (blockhash : Vector UInt8 32) (nonce : Option NonceAdvanceInfo)
    {ixData : List UInt8} (hdata : ixData.length < 128) :
    (claimParsed keys escrowProgramId blockhash nonce ixData).Short := by
  have hversion : (1 : UInt8) ≠ 0x80 := by decide
  have hclaim : ∀ index, CompiledInstruction.Short
      ⟨index, [1, 2, 0, 3, 4, 5, 6, 7, 8, 9], ixData⟩ := by
    intro index
    exact ⟨by norm_num, hdata⟩
  cases nonce with
  | none =>
    refine ⟨rfl, hversion, ?_, by norm_num [claimParsed], ?_⟩
    · norm_num [claimParsed, hkeys]
    · intro ix hix
      rw [List.mem_singleton.mp hix]
      exact hclaim 10
  | some info =>
    refine ⟨rfl, hversion, ?_, by norm_num [claimParsed], ?_⟩
    · norm_num [claimParsed, hkeys]
    · intro ix hix
      rcases List.mem_cons.mp hix with hnonce | hlast
      · rw [hnonce]
        exact ⟨by norm_num [nonceIx], by norm_num [nonceIx]⟩
      · rw [List.mem_singleton.mp hlast]
        exact hclaim 12

theorem bs58Decode_systemProgram : bs58Decode systemProgramIdB58 = some systemProgram.toList := by
  decide +kernel

/-- The key of the rent sysvar. -/
def sysvarRent : Pubkey := #v[
  6, 167, 213, 23, 25, 44, 92, 81, 33, 140, 201, 76, 61, 74, 241, 127, 88, 218, 238, 8, 155, 161,
  253, 68, 227, 219, 217, 138, 0, 0, 0, 0]

theorem bs58Decode_sysvarRent : bs58Decode sysvarRentIdB58 = some sysvarRent.toList := by
  decide +kernel

section
variable {prims : Primitives} {bs58Error : String → String}

/-- A constant address is the key it spells. -/
theorem constantAddress_ok {what b58 : String} {key : Pubkey}
    (h : bs58Decode b58 = some key.toList) : constantAddress bs58Error what b58 = .ok key := by
  unfold constantAddress
  rw [decodeBs58Pubkey_of_bs58Decode bs58Error h]
  rfl

/-- The accounts of a claim, in the order of the message. -/
def claimKeys (params : ClaimParams) (a : ClaimAddresses) : List Pubkey :=
  [params.recipientWallet, a.escrowPda, params.agentPubkey, params.usdcMint, a.vaultAta,
    a.providerAta, a.agentAta, tokenProgramId, associatedTokenProgramId, systemProgram]

/-- The data of a claim. -/
def claimData (prims : Primitives) (params : ClaimParams) : List UInt8 :=
  Rs.anchorDiscriminator prims "claim" ++ leBytes params.actualAmount.toNat

theorem anchorDiscriminator_length (name : String) :
    (Rs.anchorDiscriminator prims name).length = 8 := by
  unfold Rs.anchorDiscriminator
  rw [List.length_take, Vector.length_toList]
  rfl

theorem claimData_length (params : ClaimParams) : (claimData prims params).length = 16 := by
  unfold claimData
  rw [List.length_append, anchorDiscriminator_length, leBytes_length]

/-- The amount stands behind the discriminator. -/
theorem claimData_amount (params : ClaimParams) :
    leValue ((claimData prims params).drop 8) = params.actualAmount.toNat := by
  have hdrop : (claimData prims params).drop 8 = leBytes params.actualAmount.toNat := by
    unfold claimData
    rw [← @anchorDiscriminator_length prims "claim", List.drop_left]
  rw [hdrop]
  exact leValue_leBytes params.actualAmount

/-- What is built, when something is built. -/
theorem buildClaim_ok {params : ClaimParams} {blockhash : Vector UInt8 32}
    {nonce : Option NonceAdvanceInfo} {msg : List UInt8}
    (h : buildClaim prims bs58Error params blockhash nonce = .ok msg) :
    ∃ a, deriveAddresses prims bs58Error params = .ok a ∧
      ParsedMessage.fromBytes msg = .ok (claimParsed (claimKeys params a) params.escrowProgramId
        blockhash nonce (claimData prims params)) := by
  unfold buildClaim at h
  obtain ⟨a, ha, h⟩ := except_bind_ok.1 h
  rw [constantAddress_ok bs58Decode_tokenProgram, constantAddress_ok bs58Decode_ataProgram,
    constantAddress_ok bs58Decode_systemProgram, constantAddress_ok bs58Decode_sysvarRent] at h
  obtain ⟨signingKey, -, h⟩ : ∃ signingKey, (Rs.fromKeypairBytes prims
      params.feePayerKeypair).mapError ("invalid fee_payer keypair: " ++ ·) = .ok signingKey ∧ _ :=
    except_bind_ok.1 h
  refine ⟨a, ha, ?_⟩
  dsimp only at h
  by_cases hpayer : prims.publicKey signingKey ≠ params.recipientWallet
  · rw [if_pos hpayer] at h
    cases h
  · rw [if_neg hpayer, not_ne_iff.mp hpayer] at h
    have hmsg : claimMessage (claimKeys params a) params.escrowProgramId blockhash nonce
        (claimData prims params) = msg := Except.ok.inj h
    have hdata : (claimData prims params).length < 128 := by
      rw [claimData_length]
      norm_num
    have hkeys : (claimKeys params a).length = 10 := rfl
    rw [← hmsg, claimMessage_eq hkeys]
    exact ParsedMessage.fromBytes_bytes
      (claimParsed_short hkeys params.escrowProgramId blockhash nonce hdata)

/-! ## The layout -/

variable (prims) in
/-- With and without a nonce, the message carries the instructions meant. -/
theorem claimParsed_carries (params : ClaimParams) (a : ClaimAddresses)
    (blockhash : Vector UInt8 32) (nonce : Option NonceAdvanceInfo) :
    Carries prims params a blockhash nonce (claimParsed (claimKeys params a)
      params.escrowProgramId blockhash nonce (claimData prims params)) := by
  cases nonce with
  | none =>
    refine ⟨rfl, ?_, ?_⟩
    · refine List.Forall₂.cons ⟨rfl, ?_, rfl⟩ .nil
      repeat' constructor
    · intro ix hix
      cases hix
      exact claimData_amount params
  | some info =>
    refine ⟨rfl, ?_, ?_⟩
    · refine List.Forall₂.cons ⟨rfl, ?_, rfl⟩ (List.Forall₂.cons ⟨rfl, ?_, rfl⟩ .nil)
      all_goals
        repeat' constructor
    · intro ix hix
      cases hix
      exact claimData_amount params

variable (prims) in
/-- Without a nonce, eight of the eleven accounts are writable, and the claim writes no other. -/
theorem claimParsed_privileged (params : ClaimParams) (a : ClaimAddresses)
    (blockhash : Vector UInt8 32) (ixData : List UInt8) :
    Privileged prims params a none
      (claimParsed (claimKeys params a) params.escrowProgramId blockhash none ixData) := by
  apply List.Forall₂.cons _ .nil
  repeat' constructor
  all_goals
    intro hneeded
    first
    | rfl
    | exact absurd hneeded Bool.false_ne_true

variable (prims) in
/-- With a nonce, the last four of the thirteen accounts are read-only, and the nonce account is
the eleventh. -/
theorem claimParsed_not_privileged (params : ClaimParams) (a : ClaimAddresses)
    (blockhash : Vector UInt8 32) (info : NonceAdvanceInfo) (ixData : List UInt8) :
    ¬ Privileged prims params a (some info)
      (claimParsed (claimKeys params a) params.escrowProgramId blockhash (some info) ixData) := by
  intro h
  have hnonce := (List.forall₂_cons.mp h).1
  have hwritable : (claimParsed (claimKeys params a) params.escrowProgramId blockhash (some info)
      ixData).isWritable 10 = true := (List.forall₂_cons.mp hnonce).1.2 rfl
  have hreadOnly : (claimParsed (claimKeys params a) params.escrowProgramId blockhash (some info)
      ixData).isWritable 10 = false := rfl
  rw [hreadOnly] at hwritable
  exact Bool.false_ne_true hwritable

/-- Every message that is built carries the claim that is meant. Its header fits exactly when
there is no nonce. -/
theorem buildClaim_layout_iff {params : ClaimParams} {blockhash : Vector UInt8 32}
    {nonce : Option NonceAdvanceInfo} {msg : List UInt8}
    (h : buildClaim prims bs58Error params blockhash nonce = .ok msg) :
    ∃ a, deriveAddresses prims bs58Error params = .ok a ∧
      (∃ m, ParsedMessage.fromBytes msg = .ok m ∧
        Carries prims params a blockhash nonce m) ∧
      (ClaimLayout prims params a blockhash nonce msg ↔ nonce = none) := by
  obtain ⟨a, ha, hmsg⟩ := buildClaim_ok h
  have hcarries := claimParsed_carries prims params a blockhash nonce
  refine ⟨a, ha, ⟨_, hmsg, hcarries⟩, ?_, ?_⟩
  · rintro ⟨m, hm, -, hprivileged⟩
    have hm : claimParsed (claimKeys params a) params.escrowProgramId blockhash nonce
        (claimData prims params) = m := Except.ok.inj (hmsg.symm.trans hm)
    rw [← hm] at hprivileged
    cases nonce with
    | none => rfl
    | some info =>
      exact absurd hprivileged (claimParsed_not_privileged prims params a blockhash info _)
  · intro hnonce
    rw [hnonce] at hmsg hcarries ⊢
    exact ⟨_, hmsg, hcarries, claimParsed_privileged prims params a blockhash _⟩

end

/-! ## A claim -/

/-- The SHA-256 of `global:claim`. -/
def claimHash : Vector UInt8 32 := #v[
  62, 198, 214, 193, 213, 159, 108, 210, 52, 89, 69, 131, 140, 173, 3, 121, 204, 233, 117, 164, 27,
  231, 90, 149, 254, 136, 103, 167, 215, 62, 2, 176]

/-- The primitives of the golden vector, and the hash of the claim. -/
def claimPrims : Primitives :=
  { goldenPrims with
    sha256 := fun bytes =>
      if bytes = textBytes "global:claim" then claimHash else goldenPrims.sha256 bytes }

/-- The key of the sysvar `SysvarRecentB1ockHashes11111111111111111111`. -/
def sysvarRecentBlockhashes : Pubkey := #v[
  6, 167, 213, 23, 25, 44, 86, 142, 224, 138, 132, 95, 115, 210, 151, 136, 207, 3, 92, 49, 69, 178,
  26, 179, 68, 216, 6, 46, 169, 64, 0, 0]

/-- A nonce account of the gateway. -/
def sampleNonce : NonceAdvanceInfo := ⟨Vector.replicate 32 11, sysvarRecentBlockhashes⟩

/-- The key of the golden vector claims 2625 from the escrow of the other key. -/
def sampleClaim : ClaimParams where
  feePayerKeypair := goldenSecretKey goldenAgent
  escrowProgramId := #[
    130, 142, 181, 26, 218, 8, 51, 202, 247, 106, 76, 99, 118, 198, 182, 55, 144, 132, 29, 159, 16,
    5, 139, 128, 109, 252, 15, 12, 226, 251, 241, 225].toVector
  recipientWallet := goldenAgent
  usdcMint := #[
    198, 250, 122, 243, 190, 219, 173, 58, 61, 101, 243, 106, 171, 201, 116, 49, 177, 187, 228, 194,
    210, 246, 224, 228, 124, 166, 2, 3, 69, 47, 93, 97].toVector
  serviceId := Vector.replicate 32 7
  agentPubkey := otherAgent
  actualAmount := 2625

/-- The sample claim is built, with and without a nonce. -/
theorem buildClaim_sample (nonce : Option NonceAdvanceInfo) :
    ∃ msg, buildClaim claimPrims (fun _ => "") sampleClaim (Vector.replicate 32 0xAB) nonce =
      .ok msg := by
  have haddresses : ∃ a, deriveAddresses claimPrims (fun _ => "") sampleClaim = .ok a := by
    refine ⟨⟨otherEscrowPda, otherVaultAta, goldenAgentAta, otherAgentAta⟩, ?_⟩
    decide +kernel
  obtain ⟨a, ha⟩ := haddresses
  have hkey : Rs.fromKeypairBytes claimPrims sampleClaim.feePayerKeypair =
      .ok (Vector.replicate 32 42) := by
    decide +kernel
  unfold buildClaim
  rw [ha, constantAddress_ok bs58Decode_tokenProgram, constantAddress_ok bs58Decode_ataProgram,
    constantAddress_ok bs58Decode_systemProgram, constantAddress_ok bs58Decode_sysvarRent, hkey]
  exact ⟨_, rfl⟩

/-- A claim over a blockhash. -/
theorem buildClaim_layout_iff_sample :
    ∃ msg a, buildClaim claimPrims (fun _ => "") sampleClaim (Vector.replicate 32 0xAB) none =
        .ok msg ∧
      (ClaimLayout claimPrims sampleClaim a (Vector.replicate 32 0xAB) none msg ↔
        (none : Option NonceAdvanceInfo) = none) := by
  obtain ⟨msg, hmsg⟩ := buildClaim_sample none
  obtain ⟨a, -, -, hlayout⟩ := buildClaim_layout_iff hmsg
  exact ⟨msg, a, hmsg, hlayout⟩

/-- With a nonce, the layout fails on a claim that is built. -/
theorem claim_layout_fails_with_nonce :
    ¬ ∀ params blockhash nonce msg a,
      buildClaim claimPrims (fun _ => "") params blockhash nonce = .ok msg →
      deriveAddresses claimPrims (fun _ => "") params = .ok a →
      ClaimLayout claimPrims params a blockhash nonce msg := by
  intro hclaim
  obtain ⟨msg, hmsg⟩ := buildClaim_sample (some sampleNonce)
  obtain ⟨a, ha, hparsed⟩ := buildClaim_ok hmsg
  obtain ⟨m, hm, -, hprivileged⟩ := hclaim _ _ _ _ a hmsg ha
  rw [hparsed] at hm
  rw [← Except.ok.inj hm] at hprivileged
  exact claimParsed_not_privileged claimPrims sampleClaim a _ sampleNonce _ hprivileged

end Solvela.EscrowClaimer
