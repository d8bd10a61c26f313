import Solvela.Lib.Bytes
import Solvela.Payment.Transaction
import Solvela.Signer.Deposit

/-!
# The transfer in a message

`extract_spl_transfer` takes the first `Transfer` or `TransferChecked` of either token program,
`derive_ata` the token account of a wallet. A transfer that names its mint is an instruction of
the message, with all it says read off that instruction.
-/

namespace Solvela.Payment

open Solvela.Lib (leValue)
open Solvela.ChannelLedger
open Solvela.Signer (Primitives Rs.findProgramAddress)

/-- `SplTransferInfo`. -/
structure SplTransferInfo where
  destination : Pubkey
  amount : ℕ
  mint : Option Pubkey
deriving DecidableEq

/-- `Pubkey::TOKEN_2022_PROGRAM_ID`. -/
def token2022ProgramId : Pubkey := #v[
  6, 221, 246, 225, 238, 117, 143, 222, 24, 66, 93, 188, 228, 108, 205, 218, 182, 26, 252, 77, 131,
  185, 13, 39, 254, 189, 249, 40, 216, 161, 139, 252]

/-- The program is an SPL token program. -/
def isTokenProgram (programId : Pubkey) : Bool :=
  programId == tokenProgramId || programId == token2022ProgramId

/-- `derive_ata`: the highest bump whose address is off the curve. -/
def deriveAta (prims : Primitives) (wallet mint tokenProgram : Pubkey) : Option Pubkey :=
  (Rs.findProgramAddress prims [wallet.toList, tokenProgram.toList, mint.toList]
    associatedTokenProgramId).map Prod.fst

/-! ## Extraction -/

/-- The account behind an index of an instruction. -/
def ParsedMessage.accountAt (message : ParsedMessage) (what : String) (index : UInt8) :
    Except PaymentError Pubkey :=
  match message.accountKeys[index.toNat]? with
  | none => .error (.invalidTransaction (what ++ " account index out of bounds"))
  | some key => .ok key

/-- The amount of a transfer, behind its discriminator. -/
def transferAmount (data : List UInt8) : ℕ := leValue ((data.drop 1).take 8)

/-- `Transfer`, with the accounts source, destination and authority. -/
def extractTransfer (message : ParsedMessage) (ix : CompiledInstruction) :
    Except PaymentError SplTransferInfo :=
  if ix.data.length < 9 then
    .error (.invalidTransaction "SPL Transfer instruction data too short")
  else
    match ix.accounts with
    | _ :: dest :: _ => do
      let destination ← message.accountAt "destination" dest
      .ok ⟨destination, transferAmount ix.data, none⟩
    | _ => .error (.invalidTransaction "SPL Transfer instruction missing accounts")

/-- `TransferChecked`, with the accounts source, mint, destination and authority. -/
def extractTransferChecked (message : ParsedMessage) (ix : CompiledInstruction) :
    Except PaymentError SplTransferInfo :=
  if ix.data.length < 9 then
    .error (.invalidTransaction "SPL TransferChecked instruction data too short")
  else
    match ix.accounts with
    | _ :: mint :: dest :: _ => do
      let mint ← message.accountAt "mint" mint
      let destination ← message.accountAt "destination" dest
      .ok ⟨destination, transferAmount ix.data, some mint⟩
    | _ => .error (.invalidTransaction "SPL TransferChecked instruction missing accounts")

/-- The loop over the instructions. -/
def extractFrom (message : ParsedMessage) :
    List CompiledInstruction → Except PaymentError SplTransferInfo
  | [] => .error (.invalidTransaction "no SPL Token transfer instruction found")
  | ix :: rest =>
    match message.accountKeys[ix.programIdIndex.toNat]? with
    | none => extractFrom message rest
    | some programId =>
      if isTokenProgram programId = false then extractFrom message rest
      else
        match ix.data with
        | [] => extractFrom message rest
        | discriminator :: _ =>
          if discriminator = 3 then extractTransfer message ix
          else if discriminator = 12 then extractTransferChecked message ix
          else extractFrom message rest

/-- `extract_spl_transfer`. -/
def extractSplTransfer (message : ParsedMessage) : Except PaymentError SplTransferInfo :=
  extractFrom message message.instructions

/-! ## What is extracted -/

/-- The instruction is a `TransferChecked` of the mint, by a token program. -/
structure TransfersChecked (message : ParsedMessage) (ix : CompiledInstruction)
    (mint destination : Pubkey) (amount : ℕ) : Prop where
  program : ∃ programId, message.accountKeys[ix.programIdIndex.toNat]? = some programId ∧
    (programId = tokenProgramId ∨ programId = token2022ProgramId)
  discriminator : ix.data.head? = some 12
  full : 9 ≤ ix.data.length
  amount : leValue ((ix.data.drop 1).take 8) = amount
  mint : ∃ index, ix.accounts[1]? = some index ∧ message.accountKeys[index.toNat]? = some mint
  destination : ∃ index, ix.accounts[2]? = some index ∧
    message.accountKeys[index.toNat]? = some destination

theorem isTokenProgram_iff {programId : Pubkey} :
    isTokenProgram programId = true ↔
      programId = tokenProgramId ∨ programId = token2022ProgramId := by
  unfold isTokenProgram
  rw [Bool.or_eq_true, beq_iff_eq, beq_iff_eq]

theorem accountAt_ok {message : ParsedMessage} {what : String} {index : UInt8} {key : Pubkey} :
    message.accountAt what index = .ok key ↔ message.accountKeys[index.toNat]? = some key := by
  unfold ParsedMessage.accountAt
  cases message.accountKeys[index.toNat]? with
  | none => simp
  | some key' => simp

/-- A `Transfer` never names a mint. -/
theorem extractTransfer_mint {message : ParsedMessage} {ix : CompiledInstruction}
    {info : SplTransferInfo} (h : extractTransfer message ix = .ok info) : info.mint = none := by
  unfold extractTransfer at h
  split at h
  · cases h
  · split at h
    · rename_i source dest rest haccounts
      cases hdest : message.accountAt "destination" dest with
      | error e =>
        rw [hdest] at h
        cases h
      | ok key =>
        rw [hdest] at h
        rw [← Except.ok.inj h]
    · cases h

theorem extractTransferChecked_ok {message : ParsedMessage} {ix : CompiledInstruction}
    {info : SplTransferInfo} {programId : Pubkey}
    (hprogram : message.accountKeys[ix.programIdIndex.toNat]? = some programId)
    (htoken : isTokenProgram programId = true) (hdata : ix.data.head? = some 12)
    (h : extractTransferChecked message ix = .ok info) :
    ∃ mint, info.mint = some mint ∧
      TransfersChecked message ix mint info.destination info.amount := by
  unfold extractTransferChecked at h
  split at h
  · cases h
  · rename_i hfull
    split at h
    · rename_i source mintIx destIx rest haccounts
      obtain ⟨mint, hmint, h⟩ := Solvela.Lib.Txn.except_bind_ok.1 h
      obtain ⟨destination, hdest, h⟩ := Solvela.Lib.Txn.except_bind_ok.1 h
      rw [← Except.ok.inj h]
      refine ⟨mint, rfl, ⟨programId, hprogram, isTokenProgram_iff.1 htoken⟩, hdata, by omega, rfl,
        ⟨mintIx, ?_, accountAt_ok.1 hmint⟩, ⟨destIx, ?_, accountAt_ok.1 hdest⟩⟩
      · rw [haccounts]
        rfl
      · rw [haccounts]
        rfl
    · cases h

/-- An instruction of another program is passed over. -/
theorem extractFrom_skip {message : ParsedMessage} {ix : CompiledInstruction} {programId : Pubkey}
    (hprogram : message.accountKeys[ix.programIdIndex.toNat]? = some programId)
    (hother : isTokenProgram programId = false) (rest : List CompiledInstruction) :
    extractFrom message (ix :: rest) = extractFrom message rest := by
  rw [extractFrom, hprogram]
  exact if_pos hother

/-- A `TransferChecked` ends the loop. -/
theorem extractFrom_take {message : ParsedMessage} {ix : CompiledInstruction} {programId : Pubkey}
    {data : List UInt8} (hprogram : message.accountKeys[ix.programIdIndex.toNat]? = some programId)
    (htoken : isTokenProgram programId = true) (hdata : ix.data = 12 :: data)
    (rest : List CompiledInstruction) :
    extractFrom message (ix :: rest) = extractTransferChecked message ix := by
  have hplain : (12 : UInt8) ≠ 3 := by decide
  rw [extractFrom, hprogram]
  dsimp only
  rw [htoken, if_neg Bool.true_eq_false_eq_False, hdata]
  dsimp only
  rw [if_neg hplain, if_pos rfl]

/-- By induction on the instructions that are left. -/
theorem extractFrom_checked {message : ParsedMessage} {ixs : List CompiledInstruction}
    {info : SplTransferInfo} {mint : Pubkey} (h : extractFrom message ixs = .ok info)
    (hmint : info.mint = some mint) :
    ∃ ix ∈ ixs, TransfersChecked message ix mint info.destination info.amount := by
  induction ixs with
  | nil => cases h
  | cons ix rest ih =>
    -- an instruction that is skipped leaves the search to the rest
    have hskip : extractFrom message rest = .ok info →
        ∃ ix' ∈ ix :: rest, TransfersChecked message ix' mint info.destination info.amount := by
      intro hrest
      obtain ⟨ix', hmem, hix'⟩ := ih hrest
      exact ⟨ix', List.mem_cons_of_mem ix hmem, hix'⟩
    unfold extractFrom at h
    split at h
    · exact hskip h
    · rename_i programId hprogram
      split at h
      · exact hskip h
      · rename_i htoken
        have htoken : isTokenProgram programId = true := by
          rwa [Bool.not_eq_false] at htoken
        split at h
        · exact hskip h
        · rename_i discriminator data hdata
          split at h
          · -- a `Transfer` has no mint
            rw [extractTransfer_mint h] at hmint
            cases hmint
          · split at h
            · rename_i hdisc
              have hhead : ix.data.head? = some 12 := by
                rw [hdata, hdisc]
                rfl
              obtain ⟨mint', hmint', hix⟩ := extractTransferChecked_ok hprogram htoken hhead h
              rw [Option.some.inj (hmint.symm.trans hmint')]
              exact ⟨ix, List.mem_cons_self, hix⟩
            · exact hskip h

/-- A transfer with a mint is a `TransferChecked` of the message. -/
theorem extractSplTransfer_checked {message : ParsedMessage} {info : SplTransferInfo}
    {mint : Pubkey} (h : extractSplTransfer message = .ok info) (hmint : info.mint = some mint) :
    ∃ ix ∈ message.instructions,
      TransfersChecked message ix mint info.destination info.amount :=
  extractFrom_checked h hmint

end Solvela.Payment
