import Solvela.Channel.SignedMessages
import Solvela.Payment.ExactVerifier
import Solvela.Payment.MessageLayout
import Solvela.Refund.Worker

/-!
# The transfer of a refund

`build_transfer_message` writes `CreateIdempotent`, `TransferChecked` and, with a memo, `Memo`
into one legacy message, `sign_transfer_message` signs it, and `verify_signed_usdc_transfer` is the
gate before a refund is confirmed. The bytes are read back as one message, and what the gate asks
of it is what the builder was given. Without a memo the gate lets nothing through: it wants one.

* `transferParsed_compiles` and `transferParsed_grants`, the accounts of the instructions;
* `extract_transferParsed` and `memos_transferParsed`, what the verifier finds in them;
* `verifySigned_signed_iff`, the gate on what the signer leaves.
-/

namespace Solvela.Payment

open Solvela.Lib.Txn (except_bind_ok)
open Solvela.ChannelLedger
open Solvela.Channel (leBytes prefixFree_u64)
open Solvela.RefundWorker (ExpectedUsdcTransfer)
open Solvela.Signer

/-- `UsdcTransferError`. -/
inductive UsdcTransferError
  | zeroAmount
  | invalidKeypair (reason : String)
  | keypairMismatch
  | ataDerivation (which : String)
  | emptyMemo
  | memoTooLong (len : ℕ)
deriving DecidableEq

/-- `SignedUsdcTransfer`. -/
structure SignedUsdcTransfer where
  wireBytes : List UInt8
  base64Tx : String
  signatureB58 : String
deriving DecidableEq

/-- The arguments of `build_transfer_message`. -/
@[ext] structure TransferArgs where
  owner : Pubkey
  destinationWallet : Pubkey
  mint : Pubkey
  amount : UInt64
  recentBlockhash : Vector UInt8 32
  memo : Option String

/-- `MEMO_PROGRAM_ID`. -/
def memoProgramId : Pubkey := #v[
  5, 74, 83, 90, 153, 41, 33, 6, 77, 36, 232, 113, 96, 218, 56, 124, 124, 53, 181, 221, 188, 146,
  187, 129, 228, 31, 168, 64, 65, 5, 68, 141]

/-- `USDC_DECIMALS`. -/
def usdcDecimals : UInt8 := 6

/-- `TRANSFER_CHECKED_DISCRIMINATOR`. -/
def transferCheckedDiscriminator : UInt8 := 12

/-- `CREATE_IDEMPOTENT_DISCRIMINATOR`. -/
def createIdempotentDiscriminator : UInt8 := 1

/-- `MAX_MEMO_LEN`. -/
def maxMemoLen : ℕ := 127

/-! ## Building and signing -/

/-- The checks of the memo. -/
def checkMemo : Option String → Except UsdcTransferError Unit
  | none => .ok ()
  | some m =>
    if (textBytes m).length = 0 then .error .emptyMemo
    else if maxMemoLen < (textBytes m).length then .error (.memoTooLong (textBytes m).length)
    else .ok ()

/-- `derive_ata` with `ok_or(AtaDerivation)`. -/
def transferAta (prims : Primitives) (which : String) (wallet mint : Pubkey) :
    Except UsdcTransferError Pubkey :=
  match deriveAta prims wallet mint tokenProgramId with
  | none => .error (.ataDerivation which)
  | some ata => .ok ata

/-- The bytes of `build_transfer_message`, once the two token accounts are there. -/
def transferBytes (args : TransferArgs) (sourceAta destinationAta : Pubkey) : List UInt8 :=
  let memo := args.memo
  let msg := [1, 0, if memo.isSome then 6 else 5]
  let msg := msg ++ [if memo.isSome then 9 else 8]
  let msg := msg ++ args.owner.toList ++ sourceAta.toList ++ destinationAta.toList
  let msg := msg ++ args.destinationWallet.toList ++ args.mint.toList
  let msg := msg ++ systemProgram.toList ++ tokenProgramId.toList
  let msg := msg ++ associatedTokenProgramId.toList
  let msg := msg ++ if memo.isSome then memoProgramId.toList else []
  let msg := msg ++ args.recentBlockhash.toList
  let msg := msg ++ [if memo.isSome then 3 else 2]
  let msg := msg ++ [7] ++ [6] ++ [0, 2, 3, 4, 5, 6] ++ [1] ++ [createIdempotentDiscriminator]
  let ixData := [transferCheckedDiscriminator] ++ leBytes args.amount.toNat ++ [usdcDecimals]
  let msg := msg ++ [6] ++ [4] ++ [1, 4, 2, 0] ++ [UInt8.ofNat ixData.length] ++ ixData
  match memo with
  | some m => msg ++ [8] ++ [0] ++ [UInt8.ofNat (textBytes m).length] ++ textBytes m
  | none => msg

section
variable (prims : Primitives)

/-- `build_transfer_message`. -/
def buildTransferMessage (args : TransferArgs) : Except UsdcTransferError (List UInt8) :=
  if args.amount = 0 then .error .zeroAmount
  else do
    checkMemo args.memo
    let sourceAta ← transferAta prims "source" args.owner args.mint
    let destinationAta ← transferAta prims "destination" args.destinationWallet args.mint
    .ok (transferBytes args sourceAta destinationAta)

/-- `sign_transfer_message`; `bs58Encode` is the bs58 crate's encoder. -/
def signTransferMessage (bs58Encode : List UInt8 → String) (args : TransferArgs)
    (ownerKeypair : Vector UInt8 64) : Except UsdcTransferError SignedUsdcTransfer := do
  let signingKey ← (Rs.fromKeypairBytes prims ownerKeypair).mapError .invalidKeypair
  if prims.publicKey signingKey ≠ args.owner then .error .keypairMismatch
  else do
    let msg ← buildTransferMessage prims args
    let signature := prims.sign signingKey msg
    .ok ⟨wireBytes signature msg, base64Encode (wireBytes signature msg),
      bs58Encode signature.toList⟩

end

/-! ## Verifying -/

/-- `UsdcTransferVerifyError`. -/
inductive UsdcTransferVerifyError
  | unparsable (e : TransactionError)
  | signatureCount (found : ℕ)
  | signatureMismatch
  | invalidOwnerKey
  | signatureInvalid
  | missingTransfer (e : PaymentError)
  | amountMismatch (expected found : ℕ)
  | ataDerivation
  | destinationMismatch
  | mintMismatch
  | memoMismatch
deriving DecidableEq

/-- The instructions of the memo program. -/
def ParsedMessage.memos (msg : ParsedMessage) : List CompiledInstruction :=
  msg.instructions.filter fun ix =>
    msg.accountKeys[ix.programIdIndex.toNat]? == some memoProgramId

/-- The end of the check: exactly one memo, with the bytes that are expected. -/
def verifyMemo (msg : ParsedMessage) (memo : String) : Except UsdcTransferVerifyError Unit :=
  match msg.memos with
  | [memoIx] => if memoIx.data = textBytes memo then .ok () else .error .memoMismatch
  | _ => .error .memoMismatch

/-- The transfer of the message against the one that is expected. -/
def verifyTransfer (prims : Primitives) (msg : ParsedMessage) (expected : ExpectedUsdcTransfer) :
    Except UsdcTransferVerifyError Unit := do
  let transfer ← (extractSplTransfer msg).mapError .missingTransfer
  if transfer.amount ≠ expected.amount then
    .error (.amountMismatch expected.amount transfer.amount)
  else
    match deriveAta prims expected.destinationWallet expected.mint tokenProgramId with
    | none => .error .ataDerivation
    | some destinationAta =>
      if transfer.destination ≠ destinationAta then .error .destinationMismatch
      else if transfer.mint ≠ some expected.mint then .error .mintMismatch
      else verifyMemo msg expected.memo

/-- `verify_signed_usdc_transfer`. -/
def verifySignedUsdcTransfer (prims : Primitives) (ed : Ed25519) (bs58Encode : List UInt8 → String)
    (wireBytes : List UInt8) (expected : ExpectedUsdcTransfer) :
    Except UsdcTransferVerifyError Unit := do
  let tx ← (VersionedTransaction.fromBytes wireBytes).mapError .unparsable
  match tx.signatures with
  | [signature] =>
    if bs58Encode signature.toList ≠ expected.signatureB58 then .error .signatureMismatch
    else do
      (ed.verifyingKey expected.sourceOwner).mapError fun _ =>
        UsdcTransferVerifyError.invalidOwnerKey
      (ed.verify expected.sourceOwner tx.messageBytes signature).mapError fun _ =>
        UsdcTransferVerifyError.signatureInvalid
      let msg ← (ParsedMessage.fromBytes tx.messageBytes).mapError .unparsable
      verifyTransfer prims msg expected
  | signatures => .error (.signatureCount signatures.length)

/-! ## What is meant -/

/-- The accounts of a transfer. -/
def transferKeys (args : TransferArgs) (sourceAta destinationAta : Pubkey) : List Pubkey :=
  [args.owner, sourceAta, destinationAta, args.destinationWallet, args.mint, systemProgram,
    tokenProgramId, associatedTokenProgramId] ++ (args.memo.map fun _ => memoProgramId).toList

/-- `CreateIdempotent` of the destination's token account, funded by the owner. -/
def createIdempotent (args : TransferArgs) (destinationAta : Pubkey) : Instruction where
  programId := associatedTokenProgramId
  accounts := [⟨args.owner, true, true⟩, ⟨destinationAta, false, true⟩,
    ⟨args.destinationWallet, false, false⟩, ⟨args.mint, false, false⟩,
    ⟨systemProgram, false, false⟩, ⟨tokenProgramId, false, false⟩]
  data := [createIdempotentDiscriminator]

/-- `TransferChecked` of the amount, by the owner. -/
def transferChecked (args : TransferArgs) (sourceAta destinationAta : Pubkey) : Instruction where
  programId := tokenProgramId
  accounts := [⟨sourceAta, false, true⟩, ⟨args.mint, false, false⟩, ⟨destinationAta, false, true⟩,
    ⟨args.owner, true, false⟩]
  data := [transferCheckedDiscriminator] ++ leBytes args.amount.toNat ++ [usdcDecimals]

/-- `Memo`. -/
def memoInstruction (m : String) : Instruction where
  programId := memoProgramId
  accounts := []
  data := textBytes m

/-- The instructions of a transfer. -/
def transferInstructions (args : TransferArgs) (sourceAta destinationAta : Pubkey) :
    List Instruction :=
  [createIdempotent args destinationAta, transferChecked args sourceAta destinationAta] ++
    (args.memo.map memoInstruction).toList

/-- What the message of a transfer is read back as. -/
def transferParsed (args : TransferArgs) (sourceAta destinationAta : Pubkey) : ParsedMessage where
  header := ⟨1, 0, if args.memo.isSome then 6 else 5⟩
  accountKeys := transferKeys args sourceAta destinationAta
  recentBlockhash := args.recentBlockhash
  instructions :=
    [⟨7, [0, 2, 3, 4, 5, 6], [createIdempotentDiscriminator]⟩,
      ⟨6, [1, 4, 2, 0], [transferCheckedDiscriminator] ++ leBytes args.amount.toNat ++
        [usdcDecimals]⟩] ++
    (args.memo.map fun m => ⟨8, [], textBytes m⟩).toList
  isV0 := false

/-- The message is the transfer that is meant: its accounts, its instructions in their order, and
the privileges they need. -/
structure ReadsAsTransfer (args : TransferArgs) (sourceAta destinationAta : Pubkey)
    (m : ParsedMessage) : Prop where
  keys : m.accountKeys = transferKeys args sourceAta destinationAta
  blockhash : m.recentBlockhash = args.recentBlockhash
  compiles : List.Forall₂ m.Compiles m.instructions
    (transferInstructions args sourceAta destinationAta)
  grants : List.Forall₂ (fun ix intended => List.Forall₂ m.Grants ix.accounts intended.accounts)
    m.instructions (transferInstructions args sourceAta destinationAta)

/-- The memo, if any, is admitted. -/
def MemoAdmitted (memo : Option String) : Prop :=
  ∀ m ∈ memo, 0 < (textBytes m).length ∧ (textBytes m).length ≤ maxMemoLen

/-- No other wallet has the token account of this one: SHA-256 has no collision there. -/
def OwnAta (prims : Primitives) (wallet mint : Pubkey) : Prop :=
  ∀ wallet' ata, deriveAta prims wallet mint tokenProgramId = some ata →
    deriveAta prims wallet' mint tokenProgramId = some ata → wallet' = wallet

/-! ## The message -/

section
variable (args : TransferArgs) (sourceAta destinationAta : Pubkey)

theorem transferBytes_eq :
    transferBytes args sourceAta destinationAta =
      (transferParsed args sourceAta destinationAta).bytes := by
  unfold transferBytes transferParsed transferKeys
  cases args.memo with
  | none =>
    simp only [ParsedMessage.bytes, CompiledInstruction.bytes, Option.isSome_none,
      Bool.false_eq_true, if_false, Option.map_none, Option.toList_none, List.flatMap_cons,
      List.flatMap_nil, List.append_assoc, List.cons_append, List.nil_append, List.append_nil]
    rfl
  | some m =>
    simp only [ParsedMessage.bytes, CompiledInstruction.bytes, Option.isSome_some, if_true,
      Option.map_some, Option.toList_some, List.flatMap_cons, List.flatMap_nil, List.append_assoc,
      List.cons_append, List.nil_append, List.append_nil]
    rfl

theorem transferParsed_short (hmemo : MemoAdmitted args.memo) :
    (transferParsed args sourceAta destinationAta).Short := by
  have hversion : (1 : UInt8) ≠ 0x80 := by decide
  have hdata : ([transferCheckedDiscriminator] ++ leBytes args.amount.toNat ++
      [usdcDecimals]).length < 128 := by
    rw [List.length_append, List.length_append, leBytes_length]
    norm_num
  have hcreate : CompiledInstruction.Short
      ⟨7, [0, 2, 3, 4, 5, 6], [createIdempotentDiscriminator]⟩ :=
    ⟨by norm_num, by norm_num⟩
  have htransfer : CompiledInstruction.Short ⟨6, [1, 4, 2, 0],
      [transferCheckedDiscriminator] ++ leBytes args.amount.toNat ++ [usdcDecimals]⟩ :=
    ⟨by norm_num, hdata⟩
  unfold transferParsed transferKeys
  cases hm : args.memo with
  | none =>
    refine ⟨rfl, hversion, by norm_num, by norm_num, ?_⟩
    intro ix hix
    simp only [Option.map_none, Option.toList_none, List.append_nil, List.mem_cons,
      List.not_mem_nil, or_false] at hix
    rcases hix with hix | hix
    · rw [hix]
      exact hcreate
    · rw [hix]
      exact htransfer
  | some m =>
    -- only the memo has a length of its own, and it is bounded
    have hlen : (textBytes m).length ≤ maxMemoLen := (hmemo m hm).2
    refine ⟨rfl, hversion, by norm_num, by norm_num, ?_⟩
    intro ix hix
    simp only [Option.map_some, Option.toList_some, List.cons_append, List.nil_append,
      List.mem_cons, List.not_mem_nil, or_false] at hix
    rcases hix with hix | hix | hix
    · rw [hix]
      exact hcreate
    · rw [hix]
      exact htransfer
    · rw [hix]
      refine ⟨by norm_num, ?_⟩
      unfold maxMemoLen at hlen
      show (textBytes m).length < 128
      omega

/-- The instructions are the ones that are meant, by their programs, accounts and data. -/
theorem transferParsed_compiles :
    List.Forall₂ (transferParsed args sourceAta destinationAta).Compiles
      (transferParsed args sourceAta destinationAta).instructions
      (transferInstructions args sourceAta destinationAta) := by
  unfold transferParsed transferKeys transferInstructions
  cases args.memo with
  | none =>
    refine List.Forall₂.cons ⟨rfl, ?_, rfl⟩ (List.Forall₂.cons ⟨rfl, ?_, rfl⟩ .nil)
    all_goals
      repeat' constructor
  | some m =>
    refine List.Forall₂.cons ⟨rfl, ?_, rfl⟩ (List.Forall₂.cons ⟨rfl, ?_, rfl⟩
      (List.Forall₂.cons ⟨rfl, .nil, rfl⟩ .nil))
    all_goals
      repeat' constructor

/-- The owner signs, and the accounts that are written are writable. -/
theorem transferParsed_grants :
    List.Forall₂ (fun ix intended => List.Forall₂
        (transferParsed args sourceAta destinationAta).Grants ix.accounts intended.accounts)
      (transferParsed args sourceAta destinationAta).instructions
      (transferInstructions args sourceAta destinationAta) := by
  unfold transferParsed transferKeys transferInstructions
  cases args.memo with
  | none =>
    refine List.Forall₂.cons ?_ (List.Forall₂.cons ?_ .nil)
    all_goals
      repeat' constructor
    all_goals
      intro hneeded
      first
      | rfl
      | exact absurd hneeded Bool.false_ne_true
  | some m =>
    refine List.Forall₂.cons ?_ (List.Forall₂.cons ?_ (List.Forall₂.cons .nil .nil))
    all_goals
      repeat' constructor
    all_goals
      intro hneeded
      first
      | rfl
      | exact absurd hneeded Bool.false_ne_true

theorem transferAmount_data (n : UInt64) :
    transferAmount ([transferCheckedDiscriminator] ++ leBytes n.toNat ++ [usdcDecimals]) =
      n.toNat := by
  have hlen : (leBytes n.toNat).length = 8 := leBytes_length n.toNat
  have hdrop : ([transferCheckedDiscriminator] ++ leBytes n.toNat ++ [usdcDecimals]).drop 1 =
      leBytes n.toNat ++ [usdcDecimals] := rfl
  unfold transferAmount
  rw [hdrop, List.take_append_of_le_length (by rw [hlen]), List.take_of_length_le (by rw [hlen])]
  exact leValue_leBytes n

/-- The first token instruction is the `TransferChecked`. -/
theorem extract_transferParsed :
    extractSplTransfer (transferParsed args sourceAta destinationAta) =
      .ok ⟨destinationAta, args.amount.toNat, some args.mint⟩ := by
  have hcreate : isTokenProgram associatedTokenProgramId = false := by decide
  have htoken : isTokenProgram tokenProgramId = true := by decide
  have hdata : ¬ ([transferCheckedDiscriminator] ++ leBytes args.amount.toNat ++
      [usdcDecimals]).length < 9 := by
    rw [List.length_append, List.length_append, leBytes_length]
    norm_num
  have hchecked : extractTransferChecked (transferParsed args sourceAta destinationAta)
      ⟨6, [1, 4, 2, 0], [transferCheckedDiscriminator] ++ leBytes args.amount.toNat ++
        [usdcDecimals]⟩ = .ok ⟨destinationAta, args.amount.toNat, some args.mint⟩ := by
    unfold extractTransferChecked
    rw [if_neg hdata]
    show Except.ok (SplTransferInfo.mk destinationAta (transferAmount
      ([transferCheckedDiscriminator] ++ leBytes args.amount.toNat ++ [usdcDecimals]))
      (some args.mint)) = _
    rw [transferAmount_data]
  exact (extractFrom_skip rfl hcreate _).trans ((extractFrom_take rfl htoken rfl _).trans hchecked)

/-- The instructions of the memo program are the memo, if there is one. -/
theorem memos_transferParsed :
    (transferParsed args sourceAta destinationAta).memos =
      (args.memo.map fun m => ⟨8, [], textBytes m⟩).toList := by
  unfold ParsedMessage.memos transferParsed transferKeys
  cases args.memo with
  | none => rfl
  | some m => rfl

variable {args sourceAta destinationAta}

/-- The message determines the arguments. -/
theorem transferParsed_injective {args' : TransferArgs} {sourceAta' destinationAta' : Pubkey}
    (h : transferParsed args sourceAta destinationAta =
      transferParsed args' sourceAta' destinationAta') : args = args' := by
  have hkeys := congrArg ParsedMessage.accountKeys h
  have howner : args.owner = args'.owner := by
    have hget := congrArg (·[0]?) hkeys
    exact Option.some.inj hget
  have hwallet : args.destinationWallet = args'.destinationWallet := by
    have hget := congrArg (·[3]?) hkeys
    exact Option.some.inj hget
  have hmint : args.mint = args'.mint := by
    have hget := congrArg (·[4]?) hkeys
    exact Option.some.inj hget
  have hhash : args.recentBlockhash = args'.recentBlockhash :=
    congrArg ParsedMessage.recentBlockhash h
  have hixs := congrArg ParsedMessage.instructions h
  -- the amount is between the discriminator and the decimals
  have hamount : args.amount = args'.amount := by
    have hdata : (transferParsed args sourceAta destinationAta).instructions[1]?.map (·.data) =
        (transferParsed args' sourceAta' destinationAta').instructions[1]?.map (·.data) := by
      rw [hixs]
    have hbytes := Option.some.inj hdata
    rw [List.append_cancel_right_eq, List.append_cancel_left_eq] at hbytes
    exact prefixFree_u64.injective hbytes
  -- the memos are read back, and a text by its bytes
  have hmemo : args.memo = args'.memo := by
    have hmemos := congrArg ParsedMessage.memos h
    rw [memos_transferParsed, memos_transferParsed] at hmemos
    cases hm : args.memo with
    | none =>
      cases hm' : args'.memo with
      | none => rfl
      | some m' =>
        rw [hm, hm'] at hmemos
        exact absurd hmemos (by simp)
    | some m =>
      cases hm' : args'.memo with
      | none =>
        rw [hm, hm'] at hmemos
        exact absurd hmemos (by simp)
      | some m' =>
        rw [hm, hm'] at hmemos
        have htext : textBytes m = textBytes m' := by
          simpa using hmemos
        rw [textBytes_injective htext]
  exact TransferArgs.ext howner hwallet hmint hamount hhash hmemo

end

/-! ## Building and signing succeed -/

section
variable {prims : Primitives} {args : TransferArgs} {sourceAta destinationAta : Pubkey}

theorem checkMemo_ok_iff {memo : Option String} : checkMemo memo = .ok () ↔ MemoAdmitted memo := by
  unfold checkMemo MemoAdmitted
  cases memo with
  | none => simp
  | some m =>
    simp only [Option.mem_def, Option.some.injEq, forall_eq']
    by_cases hempty : (textBytes m).length = 0
    · rw [if_pos hempty]
      simp only [reduceCtorEq, false_iff]
      omega
    · rw [if_neg hempty]
      by_cases hlong : maxMemoLen < (textBytes m).length
      · rw [if_pos hlong]
        simp only [reduceCtorEq, false_iff]
        omega
      · rw [if_neg hlong]
        simp only [true_iff]
        omega

theorem transferAta_ok_iff {which : String} {wallet mint ata : Pubkey} :
    transferAta prims which wallet mint = .ok ata ↔
      deriveAta prims wallet mint tokenProgramId = some ata := by
  unfold transferAta
  cases deriveAta prims wallet mint tokenProgramId with
  | none => simp
  | some ata' => simp

/-- A message is built exactly when the amount is positive, the memo admitted and both token
accounts exist. -/
theorem buildTransferMessage_ok_iff {msg : List UInt8} :
    buildTransferMessage prims args = .ok msg ↔
      args.amount ≠ 0 ∧ MemoAdmitted args.memo ∧
        ∃ sourceAta destinationAta,
          deriveAta prims args.owner args.mint tokenProgramId = some sourceAta ∧
          deriveAta prims args.destinationWallet args.mint tokenProgramId =
            some destinationAta ∧
          msg = (transferParsed args sourceAta destinationAta).bytes := by
  unfold buildTransferMessage
  by_cases hamount : args.amount = 0
  · rw [if_pos hamount]
    simp [hamount]
  · rw [if_neg hamount]
    constructor
    · intro h
      obtain ⟨_, hmemo, h⟩ := except_bind_ok.1 h
      obtain ⟨sourceAta, hsource, h⟩ := except_bind_ok.1 h
      obtain ⟨destinationAta, hdestination, h⟩ := except_bind_ok.1 h
      refine ⟨hamount, checkMemo_ok_iff.1 hmemo, sourceAta, destinationAta,
        transferAta_ok_iff.1 hsource, transferAta_ok_iff.1 hdestination, ?_⟩
      rw [← transferBytes_eq]
      exact (Except.ok.inj h).symm
    · rintro ⟨-, hmemo, sourceAta, destinationAta, hsource, hdestination, hmsg⟩
      rw [hmsg, ← transferBytes_eq]
      exact except_bind_ok.2 ⟨(), checkMemo_ok_iff.2 hmemo, except_bind_ok.2
        ⟨sourceAta, transferAta_ok_iff.2 hsource, except_bind_ok.2
          ⟨destinationAta, transferAta_ok_iff.2 hdestination, rfl⟩⟩⟩

/-- What is signed is the message that is built, with the owner's key. -/
theorem signTransferMessage_ok {bs58Encode : List UInt8 → String} {ownerKeypair : Vector UInt8 64}
    {signed : SignedUsdcTransfer}
    (h : signTransferMessage prims bs58Encode args ownerKeypair = .ok signed) :
    ∃ seed msg, prims.publicKey seed = args.owner ∧ buildTransferMessage prims args = .ok msg ∧
      signed.wireBytes = wireBytes (prims.sign seed msg) msg ∧
      signed.signatureB58 = bs58Encode (prims.sign seed msg).toList := by
  unfold signTransferMessage at h
  obtain ⟨seed, -, h⟩ := except_bind_ok.1 h
  by_cases howner : prims.publicKey seed ≠ args.owner
  · rw [if_pos howner] at h
    exact absurd h (by simp)
  · rw [if_neg howner] at h
    obtain ⟨msg, hmsg, h⟩ := except_bind_ok.1 h
    refine ⟨seed, msg, not_ne_iff.1 howner, hmsg, ?_, ?_⟩
    · rw [← Except.ok.inj h]
    · rw [← Except.ok.inj h]

/-! ## The gate -/

theorem verifyMemo_ok_iff {memo : String} :
    verifyMemo (transferParsed args sourceAta destinationAta) memo = .ok () ↔
      args.memo = some memo := by
  unfold verifyMemo
  rw [memos_transferParsed]
  cases args.memo with
  | none => simp
  | some m =>
    simp only [Option.map_some, Option.toList_some, Option.some.injEq]
    by_cases hsame : textBytes m = textBytes memo
    · rw [if_pos hsame]
      simp [textBytes_injective hsame]
    · rw [if_neg hsame]
      simp only [reduceCtorEq, false_iff]
      intro heq
      rw [heq] at hsame
      exact hsame rfl

/-- The gate reads the amount, the token account, the mint and the memo that were built in. -/
theorem verifyTransfer_ok_iff {expected : ExpectedUsdcTransfer} :
    verifyTransfer prims (transferParsed args sourceAta destinationAta) expected = .ok () ↔
      args.amount.toNat = expected.amount ∧
        deriveAta prims expected.destinationWallet expected.mint tokenProgramId =
          some destinationAta ∧
        args.mint = expected.mint ∧ args.memo = some expected.memo := by
  unfold verifyTransfer
  rw [extract_transferParsed]
  show (if args.amount.toNat ≠ expected.amount then _ else _) = _ ↔ _
  by_cases hamount : args.amount.toNat = expected.amount
  · rw [if_neg (not_not.2 hamount)]
    cases deriveAta prims expected.destinationWallet expected.mint tokenProgramId with
    | none => simp
    | some ata =>
      dsimp only
      by_cases hata : destinationAta = ata
      · rw [if_neg (not_not.2 hata)]
        by_cases hmint : args.mint = expected.mint
        · rw [if_neg (by rw [hmint]; exact not_not.2 rfl), verifyMemo_ok_iff]
          simp [hamount, hata, hmint]
        · rw [if_pos (by simpa using hmint)]
          simp [hmint]
      · rw [if_pos hata]
        simp only [reduceCtorEq, Option.some.injEq, false_iff]
        exact fun h => hata h.2.1.symm
  · rw [if_pos hamount]
    simp [hamount]

/-- The gate on a transaction of one signature over a message that is read back. -/
theorem verifySigned_ok_iff {ed : Ed25519} {bs58Encode : List UInt8 → String}
    {signature : Signature} {m : ParsedMessage} (hm : m.Short) {expected : ExpectedUsdcTransfer} :
    verifySignedUsdcTransfer prims ed bs58Encode (wireBytes signature m.bytes) expected = .ok () ↔
      bs58Encode signature.toList = expected.signatureB58 ∧
        ed.verifyingKey expected.sourceOwner = .ok () ∧
        ed.verify expected.sourceOwner m.bytes signature = .ok () ∧
        verifyTransfer prims m expected = .ok () := by
  unfold verifySignedUsdcTransfer
  rw [VersionedTransaction.fromBytes_wireBytes]
  show (if bs58Encode signature.toList ≠ expected.signatureB58 then _ else _) = _ ↔ _
  by_cases htext : bs58Encode signature.toList = expected.signatureB58
  · rw [if_neg (not_not.2 htext)]
    constructor
    · intro h
      obtain ⟨_, hkey, h⟩ := except_bind_ok.1 h
      obtain ⟨_, hverify, h⟩ := except_bind_ok.1 h
      obtain ⟨msg, hmsg, h⟩ := except_bind_ok.1 h
      have hsame : m = msg :=
        Except.ok.inj ((ParsedMessage.fromBytes_bytes hm).symm.trans (mapError_ok.1 hmsg))
      rw [← hsame] at h
      exact ⟨htext, mapError_ok.1 hkey, mapError_ok.1 hverify, h⟩
    · rintro ⟨-, hkey, hverify, htransfer⟩
      exact except_bind_ok.2 ⟨(), mapError_ok.2 hkey, except_bind_ok.2 ⟨(), mapError_ok.2 hverify,
        except_bind_ok.2 ⟨m, mapError_ok.2 (ParsedMessage.fromBytes_bytes hm), htransfer⟩⟩⟩
  · rw [if_pos htext]
    simp [htext]

theorem signTransferMessage_of {bs58Encode : List UInt8 → String} {ownerKeypair : Vector UInt8 64}
    {seed : Vector UInt8 32} {msg : List UInt8}
    (hkeypair : Rs.fromKeypairBytes prims ownerKeypair = .ok seed)
    (howner : prims.publicKey seed = args.owner)
    (hmsg : buildTransferMessage prims args = .ok msg) :
    ∃ signed, signTransferMessage prims bs58Encode args ownerKeypair = .ok signed := by
  unfold signTransferMessage
  rw [hkeypair, hmsg]
  show ∃ signed, (if prims.publicKey seed ≠ args.owner then _ else _) = _
  rw [if_neg (not_not.2 howner)]
  exact ⟨_, rfl⟩

/-- The gate on what the signer leaves. -/
theorem verifySigned_signed_iff {ed : Ed25519} (hlib : VerifiesOwn prims ed)
    {bs58Encode : List UInt8 → String} {ownerKeypair : Vector UInt8 64}
    {signed : SignedUsdcTransfer}
    (h : signTransferMessage prims bs58Encode args ownerKeypair = .ok signed) :
    ∃ destinationAta,
      deriveAta prims args.destinationWallet args.mint tokenProgramId = some destinationAta ∧
      ∀ expected : ExpectedUsdcTransfer, expected.signatureB58 = signed.signatureB58 →
        expected.sourceOwner = args.owner →
        (verifySignedUsdcTransfer prims ed bs58Encode signed.wireBytes expected = .ok () ↔
          args.amount.toNat = expected.amount ∧
            deriveAta prims expected.destinationWallet expected.mint tokenProgramId =
              some destinationAta ∧
            args.mint = expected.mint ∧ args.memo = some expected.memo) := by
  obtain ⟨seed, msg, howner, hbuilt, hwire, htext⟩ := signTransferMessage_ok h
  obtain ⟨-, hmemo, sourceAta, destinationAta, -, hdestination, hmsg⟩ :=
    buildTransferMessage_ok_iff.1 hbuilt
  refine ⟨destinationAta, hdestination, ?_⟩
  intro expected hsignature hsource
  have hshort := transferParsed_short args sourceAta destinationAta hmemo
  rw [hwire, hmsg, verifySigned_ok_iff hshort, verifyTransfer_ok_iff]
  constructor
  · rintro ⟨-, -, -, htransfer⟩
    exact htransfer
  · intro htransfer
    refine ⟨?_, ?_, ?_, htransfer⟩
    · rw [hsignature, htext, hmsg]
    -- the key of the seed is the owner, and its signature verifies
    · rw [hsource, ← howner]
      exact hlib.key seed
    · rw [hsource, ← howner]
      exact hlib.signature seed _

end

/-- The gate wants a memo. -/
theorem verifySigned_memoless {prims : Primitives} {args : TransferArgs} (hnone : args.memo = none)
    {ed : Ed25519} {bs58Encode : List UInt8 → String} {ownerKeypair : Vector UInt8 64}
    {signed : SignedUsdcTransfer}
    (h : signTransferMessage prims bs58Encode args ownerKeypair = .ok signed)
    (expected : ExpectedUsdcTransfer) :
    verifySignedUsdcTransfer prims ed bs58Encode signed.wireBytes expected ≠ .ok () := by
  obtain ⟨seed, msg, -, hbuilt, hwire, -⟩ := signTransferMessage_ok h
  obtain ⟨-, hmemo, sourceAta, destinationAta, -, -, hmsg⟩ := buildTransferMessage_ok_iff.1 hbuilt
  have hshort := transferParsed_short args sourceAta destinationAta hmemo
  intro haccepted
  rw [hwire, hmsg, verifySigned_ok_iff hshort, verifyTransfer_ok_iff, hnone] at haccepted
  exact absurd haccepted.2.2.2.2.2.2 (by simp)

/-- Builder, signer and gate agree. An admitted transfer is built, signed and read back as it was
meant; with a memo the gate accepts it for its own destination, mint, amount and memo and for no
other, and without one for none; and no two transfers have one message. -/
theorem transfer_build_verify_agree {prims : Primitives} {ed : Ed25519}
    (hlib : VerifiesOwn prims ed) (bs58Encode : List UInt8 → String) :
    (∀ (args : TransferArgs) (sourceAta destinationAta : Pubkey), args.amount ≠ 0 →
      MemoAdmitted args.memo →
      deriveAta prims args.owner args.mint tokenProgramId = some sourceAta →
      deriveAta prims args.destinationWallet args.mint tokenProgramId = some destinationAta →
      ∃ msg m, buildTransferMessage prims args = .ok msg ∧
        ParsedMessage.fromBytes msg = .ok m ∧ ReadsAsTransfer args sourceAta destinationAta m ∧
        ∀ ownerKeypair seed, Rs.fromKeypairBytes prims ownerKeypair = .ok seed →
          prims.publicKey seed = args.owner →
          ∃ signed, signTransferMessage prims bs58Encode args ownerKeypair = .ok signed) ∧
    (∀ (args : TransferArgs) (ownerKeypair : Vector UInt8 64) (signed : SignedUsdcTransfer)
        (expected : ExpectedUsdcTransfer),
      OwnAta prims args.destinationWallet args.mint →
      signTransferMessage prims bs58Encode args ownerKeypair = .ok signed →
      expected.signatureB58 = signed.signatureB58 → expected.sourceOwner = args.owner →
      (verifySignedUsdcTransfer prims ed bs58Encode signed.wireBytes expected = .ok () ↔
        expected.destinationWallet = args.destinationWallet ∧ expected.mint = args.mint ∧
          expected.amount = args.amount.toNat ∧ some expected.memo = args.memo)) ∧
    (∀ (args : TransferArgs) (ownerKeypair : Vector UInt8 64) (signed : SignedUsdcTransfer)
        (expected : ExpectedUsdcTransfer), args.memo = none →
      signTransferMessage prims bs58Encode args ownerKeypair = .ok signed →
      verifySignedUsdcTransfer prims ed bs58Encode signed.wireBytes expected ≠ .ok ()) ∧
    (∀ (args args' : TransferArgs) (msg : List UInt8), buildTransferMessage prims args = .ok msg →
      buildTransferMessage prims args' = .ok msg → args = args') := by
  refine ⟨?_, ?_, ?_, ?_⟩
  -- what is built is parsed, read as the transfer, and can be signed
  · intro args sourceAta destinationAta hamount hmemo hsource hdestination
    have hbuilt : buildTransferMessage prims args =
        .ok (transferParsed args sourceAta destinationAta).bytes :=
      buildTransferMessage_ok_iff.2
        ⟨hamount, hmemo, sourceAta, destinationAta, hsource, hdestination, rfl⟩
    refine ⟨_, _, hbuilt, ParsedMessage.fromBytes_bytes
      (transferParsed_short args sourceAta destinationAta hmemo), ⟨rfl, rfl,
        transferParsed_compiles args sourceAta destinationAta,
        transferParsed_grants args sourceAta destinationAta⟩, ?_⟩
    intro ownerKeypair seed hkeypair howner
    exact signTransferMessage_of hkeypair howner hbuilt
  -- the gate asks for the token account, which is the wallet's own
  · intro args ownerKeypair signed expected hown hsigned hsignature hsource
    obtain ⟨destinationAta, hdestination, hgate⟩ := verifySigned_signed_iff hlib hsigned
    rw [hgate expected hsignature hsource]
    constructor
    · rintro ⟨hamount, hata, hmint, hmemo⟩
      rw [← hmint] at hata
      exact ⟨hown _ _ hdestination hata, hmint.symm, hamount.symm, hmemo.symm⟩
    · rintro ⟨hwallet, hmint, hamount, hmemo⟩
      rw [hwallet, hmint]
      exact ⟨hamount.symm, hdestination, rfl, hmemo.symm⟩
  · intro args ownerKeypair signed expected hnone hsigned
    exact verifySigned_memoless hnone hsigned expected
  -- one message is parsed in one way, and its parts name the arguments
  · intro args args' msg hbuilt hbuilt'
    obtain ⟨-, hmemo, sourceAta, destinationAta, -, -, hmsg⟩ := buildTransferMessage_ok_iff.1 hbuilt
    obtain ⟨-, hmemo', sourceAta', destinationAta', -, -, hmsg'⟩ :=
      buildTransferMessage_ok_iff.1 hbuilt'
    have hparsed := ParsedMessage.fromBytes_bytes
      (transferParsed_short args sourceAta destinationAta hmemo)
    have hparsed' := ParsedMessage.fromBytes_bytes
      (transferParsed_short args' sourceAta' destinationAta' hmemo')
    rw [← hmsg] at hparsed
    rw [← hmsg', hparsed] at hparsed'
    exact transferParsed_injective (Except.ok.inj hparsed')

/-! ### A refund -/

/-- A refund of 2625 units of USDC from the golden key to the other key. -/
def sampleRefund (memo : Option String) : TransferArgs where
  owner := goldenAgent
  destinationWallet := otherAgent
  mint := sampleMint
  amount := 2625
  recentBlockhash := Vector.replicate 32 0xAB
  memo := memo

/-- The memo of the refund of the golden channel. -/
def refundMemo : String := "solvela-refund:2iXtA8oeZqUU5pofxK971TCEvFGfems2AcDRaZHKD2pQ"

/-- The signature of the refund with its memo. -/
def refundSignature : Signature := #v[
  178, 249, 26, 14, 105, 120, 81, 114, 51, 198, 182, 76, 217, 14, 238, 133, 73, 96, 115, 37, 125,
  229, 51, 8, 126, 179, 117, 31, 50, 167, 18, 116, 194, 253, 190, 105, 43, 106, 58, 148, 196, 136,
  231, 154, 255, 231, 187, 72, 59, 42, 247, 219, 56, 38, 125, 106, 26, 94, 63, 237, 144, 240, 144,
  14]

/-- The signature of the refund without a memo. -/
def memolessSignature : Signature := #v[
  164, 29, 94, 14, 146, 79, 1, 185, 200, 59, 130, 189, 15, 69, 205, 212, 67, 248, 181, 107, 62, 9,
  15, 222, 241, 153, 13, 41, 157, 101, 118, 86, 93, 91, 85, 76, 127, 232, 192, 70, 126, 91, 47, 75,
  245, 241, 233, 19, 189, 88, 229, 203, 118, 97, 123, 240, 53, 93, 223, 75, 18, 29, 38, 13]

/-- The primitives on the refund: two token accounts and two signatures of the golden key. -/
def refundPrims : Primitives where
  sha256 bytes :=
    if bytes.take 32 = otherAgent.toList then otherAgentAta else goldenAgentAta
  isOnCurve key := !(List.contains [goldenAgentAta, otherAgentAta] key)
  publicKey _ := goldenAgent
  sign _ message :=
    if message.take 4 = [1, 0, 6, 9] then refundSignature else memolessSignature

/-- The signature library on the golden key. -/
def refundEd25519 : Ed25519 where
  verifyingKey _ := .ok ()
  verify _ message signature :=
    if signature = refundPrims.sign (Vector.replicate 32 42) message then .ok ()
    else .error "signature error"

theorem refundEd25519_verifiesOwn : VerifiesOwn refundPrims refundEd25519 := by
  refine ⟨?_, ?_⟩
  · intro seed
    rfl
  · intro seed message
    exact if_pos rfl

/-- The two signatures in base58. -/
def refundBs58 (bytes : List UInt8) : String :=
  if bytes = refundSignature.toList then
    "4aYDTaipmAFKkNYNzeQrDdgg1wygj2NrMNykyLo341DXUM6sypkw9fhcXK1zXC7udsnySwgMQ7nm7LHUw4CNqiyj"
  else
    "4HJtN9pTX3NNBYbCUXYh9QLcKwzvLSW5zMvFZqvq6LAJcXhxrzDwwixyajhkzrBQb8VvitqXTp8i1q7ngTR5YZVW"

/-- Under these primitives the token account of a wallet is at the highest bump. -/
theorem deriveAta_refundPrims (wallet mint : Pubkey) :
    deriveAta refundPrims wallet mint tokenProgramId =
      some (if wallet = otherAgent then otherAgentAta else goldenAgentAta) := by
  have hrange : (List.range 256).reverse = 255 :: (List.range 255).reverse := by
    rw [List.range_succ, List.reverse_append, List.reverse_singleton, List.singleton_append]
  have hbump : Rs.programAddress refundPrims
      [wallet.toList, tokenProgramId.toList, mint.toList] associatedTokenProgramId 255 =
        some (if wallet = otherAgent then otherAgentAta else goldenAgentAta) := by
    -- the first 32 bytes that are hashed are the wallet
    have hsha : ∀ rest, refundPrims.sha256 (wallet.toList ++ rest) =
        if wallet = otherAgent then otherAgentAta else goldenAgentAta := by
      intro rest
      have hlen : wallet.toList.length = 32 := Vector.length_toList
      show (if (wallet.toList ++ rest).take 32 = otherAgent.toList then _ else _) = _
      rw [List.take_left' hlen]
      congr 1
      rw [Vector.toList_inj]
    -- neither address is on the curve, so the first bump is taken
    have hoff : refundPrims.isOnCurve
        (if wallet = otherAgent then otherAgentAta else goldenAgentAta) = false := by
      by_cases hwallet : wallet = otherAgent
      · rw [if_pos hwallet]
        decide
      · rw [if_neg hwallet]
        decide
    unfold Rs.programAddress
    dsimp only
    rw [List.flatten_cons, List.append_assoc, List.append_assoc, List.append_assoc, hsha, hoff]
    exact if_neg Bool.false_ne_true
  unfold deriveAta Rs.findProgramAddress
  rw [hrange, List.findSome?_cons, hbump]
  rfl

theorem ownAta_refund : OwnAta refundPrims otherAgent sampleMint := by
  intro wallet ata hown hother
  rw [deriveAta_refundPrims, if_pos rfl] at hown
  rw [deriveAta_refundPrims, ← hown] at hother
  by_contra hne
  rw [if_neg hne] at hother
  exact absurd (Option.some.inj hother) (by decide)

theorem sampleRefund_built {memo : Option String} (hmemo : MemoAdmitted memo) :
    ∃ signed, signTransferMessage refundPrims refundBs58 (sampleRefund memo)
      (goldenSecretKey goldenAgent) = .ok signed := by
  have hkeypair : Rs.fromKeypairBytes refundPrims (goldenSecretKey goldenAgent) =
      .ok (Vector.replicate 32 42) := by
    decide +kernel
  have hamount : (sampleRefund memo).amount ≠ 0 := by
    show (2625 : UInt64) ≠ 0
    decide
  exact signTransferMessage_of hkeypair rfl (buildTransferMessage_ok_iff.2
    ⟨hamount, hmemo, _, _, deriveAta_refundPrims _ _, deriveAta_refundPrims _ _, rfl⟩)

theorem refundMemo_admitted : MemoAdmitted (some refundMemo) := by
  intro m hm
  rw [← Option.some.inj hm]
  decide +kernel

/-- The gate on the refund with its memo: its own tuple, and one unit more. -/
theorem transfer_build_verify_agree_refund :
    ∃ signed, signTransferMessage refundPrims refundBs58 (sampleRefund (some refundMemo))
        (goldenSecretKey goldenAgent) = .ok signed ∧
      verifySignedUsdcTransfer refundPrims refundEd25519 refundBs58 signed.wireBytes
        ⟨signed.signatureB58, goldenAgent, otherAgent, sampleMint, 2625, refundMemo⟩ = .ok () ∧
      verifySignedUsdcTransfer refundPrims refundEd25519 refundBs58 signed.wireBytes
        ⟨signed.signatureB58, goldenAgent, otherAgent, sampleMint, 2626, refundMemo⟩ ≠ .ok () := by
  obtain ⟨signed, hsigned⟩ := sampleRefund_built refundMemo_admitted
  have hgate := (transfer_build_verify_agree refundEd25519_verifiesOwn refundBs58).2.1
    (sampleRefund (some refundMemo)) (goldenSecretKey goldenAgent) signed
  refine ⟨signed, hsigned, ?_, ?_⟩
  · exact (hgate _ ownAta_refund hsigned rfl rfl).2 ⟨rfl, rfl, rfl, rfl⟩
  · intro haccepted
    have hamount := ((hgate _ ownAta_refund hsigned rfl rfl).1 haccepted).2.2.1
    have hne : (2626 : ℕ) ≠ 2625 := by norm_num
    exact hne hamount

/-- The gate accepts the refund without a memo for nothing. -/
theorem memoless_refund_never_verifies :
    ∃ signed, signTransferMessage refundPrims refundBs58 (sampleRefund none)
        (goldenSecretKey goldenAgent) = .ok signed ∧
      ∀ expected, verifySignedUsdcTransfer refundPrims refundEd25519 refundBs58 signed.wireBytes
        expected ≠ .ok () := by
  have hmemo : MemoAdmitted none := by
    intro m hm
    exact absurd hm (by simp)
  obtain ⟨signed, hsigned⟩ := sampleRefund_built hmemo
  exact ⟨signed, hsigned, verifySigned_memoless rfl hsigned⟩

end Solvela.Payment
