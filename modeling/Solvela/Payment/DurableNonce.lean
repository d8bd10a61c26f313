import Solvela.Escrow.ClaimMessage
import Solvela.Payment.ExactVerifier

/-!
# The two detectors of a durable nonce

The exact verifier asks `is_nonce_transaction`, which wants the nonce account, the gateway asks
`uses_durable_nonce`, which does not look at the accounts. Of the messages whose first instruction
is an `AdvanceNonceAccount`, they tell those apart that do not give that instruction an account.
-/

namespace Solvela.Payment

open Solvela.ChannelLedger
open Solvela.Channel (base64Decode)
open Solvela.EscrowClaimer (sampleNonce)
open Solvela.Signer

/-- `uses_durable_nonce`. -/
def usesDurableNonce (b64Tx : String) : Bool :=
  match base64Decode (textBytes b64Tx) with
  | none => false
  | some txBytes =>
    match VersionedTransaction.fromBytes txBytes with
    | .error _ => false
    | .ok tx =>
      match ParsedMessage.fromBytes tx.messageBytes with
      | .error _ => false
      | .ok msg =>
        match msg.instructions.head? with
        | none => false
        | some firstIx =>
          let programKey := msg.accountKeys[firstIx.programIdIndex.toNat]?
          let isSystemProgram := programKey == some systemProgram
          let isAdvanceNonce :=
            decide (4 ≤ firstIx.data.length) && firstIx.data.take 4 == [4, 0, 0, 0]
          isSystemProgram && isAdvanceNonce

/-- The first instruction is the system program's `AdvanceNonceAccount`. -/
def AdvancesNonce (message : ParsedMessage) : Prop :=
  ∃ firstIx, message.instructions.head? = some firstIx ∧
    message.accountKeys[firstIx.programIdIndex.toNat]? = some systemProgram ∧
    4 ≤ firstIx.data.length ∧ firstIx.data.take 4 = [4, 0, 0, 0]

/-- The first instruction has a first account, which is an account of the message. -/
def NamesNonceAccount (message : ParsedMessage) : Prop :=
  ∃ firstIx index key, message.instructions.head? = some firstIx ∧
    firstIx.accounts.head? = some index ∧ message.accountKeys[index.toNat]? = some key

/-- The gateway's detector, on a text that parses. -/
theorem usesDurableNonce_iff {b64Tx : String} {bytes : List UInt8} {tx : VersionedTransaction}
    {message : ParsedMessage} (hbytes : base64Decode (textBytes b64Tx) = some bytes)
    (htx : VersionedTransaction.fromBytes bytes = .ok tx)
    (hmessage : ParsedMessage.fromBytes tx.messageBytes = .ok message) :
    usesDurableNonce b64Tx = true ↔ AdvancesNonce message := by
  unfold usesDurableNonce AdvancesNonce
  simp only [hbytes, htx, hmessage]
  cases hfirst : message.instructions.head? with
  | none => simp
  | some firstIx =>
    simp only [Bool.and_eq_true, beq_iff_eq, decide_eq_true_eq, Option.some.injEq,
      exists_eq_left']

/-- The verifier's detector. -/
theorem isNonceTransaction_iff (message : ParsedMessage) :
    (isNonceTransaction message).isSome = true ↔
      AdvancesNonce message ∧ NamesNonceAccount message := by
  unfold isNonceTransaction AdvancesNonce NamesNonceAccount
  cases hfirst : message.instructions.head? with
  | none => simp
  | some firstIx =>
    simp only [Option.some.injEq, exists_eq_left', Option.bind_eq_bind, Option.bind_some]
    cases hprogram : message.accountKeys[firstIx.programIdIndex.toNat]? with
    | none => simp
    | some program =>
      simp only [Option.bind_some, Option.some.injEq]
      -- the program, then the data, then the account
      by_cases hsystem : program = systemProgram
      · rw [if_neg (not_not.2 hsystem)]
        by_cases hdata : firstIx.data.length < 4 ∨ firstIx.data.take 4 ≠ [4, 0, 0, 0]
        · rw [if_pos hdata]
          have hother : ¬ (4 ≤ firstIx.data.length ∧ firstIx.data.take 4 = [4, 0, 0, 0]) := by
            intro hshape
            rcases hdata with hshort | hne
            · omega
            · exact hne hshape.2
          simp only [Option.isSome_none, Bool.false_eq_true, false_iff]
          exact fun h => hother h.1.2
        · rw [if_neg hdata]
          have hshape : 4 ≤ firstIx.data.length ∧ firstIx.data.take 4 = [4, 0, 0, 0] := by
            rw [not_or, not_lt, not_ne_iff] at hdata
            exact hdata
          simp only [hsystem, hshape, Option.isSome_iff_exists, Option.bind_eq_some_iff, true_and]
          constructor
          · rintro ⟨key, index, hindex, hkey⟩
            exact ⟨firstIx, index, key, rfl, hindex, hkey⟩
          · rintro ⟨_, index, key, rfl, hindex, hkey⟩
            exact ⟨key, index, hindex, hkey⟩
      · rw [if_pos hsystem]
        simp [hsystem]

/-- On every text that the verifier decodes, the detectors agree unless the first instruction
advances a nonce and does not name its account. -/
theorem detectors_agree_iff {ed : Ed25519} {b64Tx : String} {tx : VersionedTransaction}
    (h : decodeAndValidateTransaction ed b64Tx = .ok tx) :
    ∃ message, ParsedMessage.fromBytes tx.messageBytes = .ok message ∧
      ((isNonceTransaction message).isSome = usesDurableNonce b64Tx ↔
        (AdvancesNonce message → NamesNonceAccount message)) := by
  obtain ⟨bytes, message, hbytes, htx, hmessage, -⟩ := decodeAndValidate_signed h
  refine ⟨message, hmessage, ?_⟩
  rw [Bool.eq_iff_iff, usesDurableNonce_iff hbytes htx hmessage, isNonceTransaction_iff]
  constructor
  · intro hagree hadvances
    exact (hagree.2 hadvances).2
  · intro hnames
    constructor
    · intro hboth
      exact hboth.1
    · intro hadvances
      exact ⟨hadvances, hnames hadvances⟩

/-! ### A transfer with a nonce -/

/-- The golden key's transfer of USDC, behind the instruction that advances a nonce account. -/
def nonceParsed : ParsedMessage where
  header := ⟨1, 0, 4⟩
  accountKeys := [goldenAgent, goldenAgentAta, otherAgentAta, sampleNonce.nonceAccount,
    sampleNonce.sysvarRecentBlockhashes, sampleMint, tokenProgramId, systemProgram]
  recentBlockhash := Vector.replicate 32 0xAB
  instructions :=
    [⟨7, [3, 4, 0], [4, 0, 0, 0]⟩, ⟨6, [1, 5, 2, 0], [12, 65, 10, 0, 0, 0, 0, 0, 0, 6]⟩]
  isV0 := false

theorem nonceParsed_short : nonceParsed.Short := by
  refine ⟨rfl, by decide, by decide, by decide, ?_⟩
  intro ix hix
  rcases List.mem_cons.1 hix with hnonce | htransfer
  · rw [hnonce]
    exact ⟨by decide, by decide⟩
  · rw [List.mem_singleton.1 htransfer]
    exact ⟨by decide, by decide⟩

/-- Its signature. -/
def nonceSignature : Signature := #v[
  106, 122, 0, 235, 222, 68, 144, 167, 65, 32, 136, 205, 233, 93, 196, 225, 194, 127, 51, 149, 72,
  144, 167, 138, 114, 239, 239, 221, 8, 14, 222, 56, 43, 21, 243, 232, 183, 130, 20, 41, 179, 212,
  59, 27, 113, 52, 239, 120, 164, 202, 114, 51, 28, 255, 98, 48, 136, 233, 53, 183, 254, 207, 145,
  14]

/-- The transaction. -/
def nonceTx : String :=
  "AWp6AOveRJCnQSCIzeldxOHCfzOVSJCninLv790IDt44KxXz6LeCFCmz1DsbcTTveKTKcjMc/2IwiOk1t/7PkQ4BAAQIGX9r" ++
  "I+FshTLGq8g4+s1ep4m+DHaykgM0A5v6iz02jWEUtdnlbYnE3avA84DOO4wvyfA9bjZxRumTasKUlOhjnkaB4Y5LdDN/dqlr" ++
  "4cD4a1f7Jq0sT292GrT0EzKDopzvCwsLCwsLCwsLCwsLCwsLCwsLCwsLCwsLCwsLCwsLCwsGp9UXGSxWjuCKhF9z0peIzwNc" ++
  "MUWyGrNE2AYuqUAAAMb6evO+2606PWXzaqvJdDGxu+TC0vbg5HymAgNFL11hBt324ddloZPZy+FGzut5rBy0he1fWzeROoz1" ++
  "hX7/AKkAAAAAAAAAAAAAAAAAAAAAAAAAAAAAAAAAAAAAAAAAAKurq6urq6urq6urq6urq6urq6urq6urq6urq6urq6urAgcD" ++
  "AwQABAQAAAAGBAEFAgAKDEEKAAAAAAAABg=="

/-- Both detectors see the nonce. -/
theorem detectors_agree_nonceTx :
    isNonceTransaction nonceParsed = some sampleNonce.nonceAccount ∧
      usesDurableNonce nonceTx = true := by
  have htext : base64Decode (textBytes nonceTx) =
      some (wireBytes nonceSignature nonceParsed.bytes) := by decide +kernel
  have hdecoded : decodeAndValidateTransaction (goldenEd25519 nonceParsed.bytes nonceSignature)
      nonceTx = .ok ⟨[nonceSignature], nonceParsed.bytes⟩ :=
    decodeAndValidate_of_wire nonceParsed_short htext rfl (goldenEd25519_key _ _)
      (goldenEd25519_verify _ _)
  have hnonce : isNonceTransaction nonceParsed = some sampleNonce.nonceAccount := by
    decide +kernel
  obtain ⟨message, hmessage, hagree⟩ := detectors_agree_iff hdecoded
  rw [ParsedMessage.fromBytes_bytes nonceParsed_short] at hmessage
  obtain rfl : nonceParsed = message := Except.ok.inj hmessage
  have hnames : NamesNonceAccount nonceParsed := ⟨_, _, _, rfl, rfl, rfl⟩
  refine ⟨hnonce, ?_⟩
  rw [← hagree.mpr fun _ => hnames, hnonce]
  rfl

/-! ### A nonce instruction without accounts -/

/-- The golden key's transfer of USDC, behind a nonce instruction that has no accounts. -/
def accountlessNonceMessage : List UInt8 :=
  [1, 0, 3, 6] ++ goldenAgent.toList ++ goldenAgentAta.toList ++ otherAgentAta.toList ++
    sampleMint.toList ++ tokenProgramId.toList ++ systemProgram.toList ++
    List.replicate 32 0xAB ++
    [2, 5, 0, 4, 4, 0, 0, 0, 4, 4, 1, 3, 2, 0, 10, 12, 65, 10, 0, 0, 0, 0, 0, 0, 6]

/-- The same message, parsed. -/
def accountlessNonceParsed : ParsedMessage where
  header := ⟨1, 0, 3⟩
  accountKeys := [goldenAgent, goldenAgentAta, otherAgentAta, sampleMint, tokenProgramId,
    systemProgram]
  recentBlockhash := Vector.replicate 32 0xAB
  instructions := [⟨5, [], [4, 0, 0, 0]⟩, ⟨4, [1, 3, 2, 0], [12, 65, 10, 0, 0, 0, 0, 0, 0, 6]⟩]
  isV0 := false

theorem fromBytes_accountlessNonceMessage :
    ParsedMessage.fromBytes accountlessNonceMessage = .ok accountlessNonceParsed ∧
      accountlessNonceMessage = accountlessNonceParsed.bytes ∧ accountlessNonceParsed.Short := by
  have hbytes : accountlessNonceMessage = accountlessNonceParsed.bytes := by
    simp [accountlessNonceMessage, accountlessNonceParsed, ParsedMessage.bytes,
      CompiledInstruction.bytes]
  have hshort : accountlessNonceParsed.Short := by
    refine ⟨rfl, by decide, by decide, by decide, ?_⟩
    intro ix hix
    rcases List.mem_cons.1 hix with hnonce | htransfer
    · rw [hnonce]
      exact ⟨by decide, by decide⟩
    · rw [List.mem_singleton.1 htransfer]
      exact ⟨by decide, by decide⟩
  refine ⟨?_, hbytes, hshort⟩
  rw [hbytes]
  exact ParsedMessage.fromBytes_bytes hshort

/-- Its signature. -/
def accountlessNonceSignature : Signature := #v[
  166, 98, 120, 80, 189, 105, 173, 50, 218, 74, 20, 130, 13, 119, 239, 35, 196, 42, 199, 104, 166,
  54, 241, 70, 119, 29, 144, 129, 199, 205, 193, 197, 70, 59, 226, 19, 79, 120, 141, 156, 4, 214,
  145, 70, 68, 3, 89, 96, 210, 30, 173, 46, 193, 95, 166, 47, 174, 58, 162, 86, 64, 64, 120, 1]

/-- The transaction. -/
def accountlessNonceTx : String :=
  "AaZieFC9aa0y2koUgg137yPEKsdopjbxRncdkIHHzcHFRjviE094jZwE1pFGRANZYNIerS7BX6YvrjqiVkBAeAEBAAMGGX9r" ++
  "I+FshTLGq8g4+s1ep4m+DHaykgM0A5v6iz02jWEUtdnlbYnE3avA84DOO4wvyfA9bjZxRumTasKUlOhjnkaB4Y5LdDN/dqlr" ++
  "4cD4a1f7Jq0sT292GrT0EzKDopzvxvp6877brTo9ZfNqq8l0MbG75MLS9uDkfKYCA0UvXWEG3fbh12Whk9nL4UbO63msHLSF" ++
  "7V9bN5E6jPWFfv8AqQAAAAAAAAAAAAAAAAAAAAAAAAAAAAAAAAAAAAAAAAAAq6urq6urq6urq6urq6urq6urq6urq6urq6ur" ++
  "q6urq6sCBQAEBAAAAAQEAQMCAAoMQQoAAAAAAAAG"

theorem base64Decode_accountlessNonceTx :
    base64Decode (textBytes accountlessNonceTx) =
      some (wireBytes accountlessNonceSignature accountlessNonceParsed.bytes) := by
  decide +kernel

theorem checkPayment_accountlessNonceTx :
    checkPayment (failingExternals accountlessNonceMessage accountlessNonceSignature)
        sampleVerifier (directPayment accountlessNonceTx) otherAgent =
      .ok (accountlessNonceTx, ⟨otherAgentAta, 2625, some sampleMint⟩, true) := by
  obtain ⟨hmessage, hbytes, hshort⟩ := fromBytes_accountlessNonceMessage
  have hdecoded : decodeAndValidateTransaction
      (goldenEd25519 accountlessNonceMessage accountlessNonceSignature) accountlessNonceTx =
        .ok ⟨[accountlessNonceSignature], accountlessNonceMessage⟩ := by
    rw [hbytes]
    exact decodeAndValidate_of_wire hshort base64Decode_accountlessNonceTx rfl
      (goldenEd25519_key _ _) (goldenEd25519_verify _ _)
  have hparts : parseU64 (directPayment accountlessNonceTx).accepted.amount = some 2625 ∧
      extractSplTransfer accountlessNonceParsed = .ok ⟨otherAgentAta, 2625, some sampleMint⟩ ∧
      checkDestination (failingExternals accountlessNonceMessage accountlessNonceSignature)
        sampleVerifier otherAgentAta otherAgent = .ok () ∧
      checkMint (failingExternals accountlessNonceMessage accountlessNonceSignature)
        sampleVerifier (some sampleMint) = .ok () ∧
      isNonceTransaction accountlessNonceParsed = none := by
    decide +kernel
  obtain ⟨hrequired, htransfer, hdestination, hmint, hnonce⟩ := hparts
  exact checkPayment_of_parts rfl hdecoded hmessage hrequired htransfer hdestination hmint
    (le_refl 2625) hnonce

/-- The verifier reports the transfer behind the nonce instruction valid, as one without a nonce,
and the gateway takes it for one with a nonce. -/
theorem detectors_disagree :
    verifyPayment (failingExternals accountlessNonceMessage accountlessNonceSignature)
        sampleVerifier (directPayment accountlessNonceTx) = .ok ⟨true, none, some 2625⟩ ∧
      (ParsedMessage.fromBytes accountlessNonceMessage).map isNonceTransaction = .ok none ∧
      usesDurableNonce accountlessNonceTx = true := by
  obtain ⟨hmessage, hbytes, -⟩ := fromBytes_accountlessNonceMessage
  refine ⟨?_, ?_, ?_⟩
  · exact verifyPaymentAgainst_ok_iff.2 ⟨accountlessNonceTx, _, true,
      checkPayment_accountlessNonceTx, simulationReply_not_refused _, rfl⟩
  · rw [hmessage]
    rfl
  · rw [hbytes] at hmessage
    refine (usesDurableNonce_iff base64Decode_accountlessNonceTx
      (VersionedTransaction.fromBytes_wireBytes _ _) hmessage).2 ?_
    exact ⟨_, rfl, rfl, le_refl 4, rfl⟩

end Solvela.Payment
