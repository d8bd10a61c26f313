import Solvela.Escrow.VerifiedDeposit
import Solvela.Payment.MessageLayout

/-!
# The verified deposit on chain

The program reads the accounts and the arguments of the instruction that the verifier checked, so
a verified deposit that succeeds locks the verified amount for the gateway. A settlement is
confirmed by the deposit's first landing, whenever that was: after the claim of it there is
nothing left to claim, and its settlement still succeeds.
-/

namespace Solvela.EscrowPayment

open Solvela.Lib (AllSteps run)
open Solvela.Lib.Txn (except_bind_ok)
open Solvela.ChannelLedger hiding u64Max
open Solvela.Channel (base64Decode VerificationResult)
open Solvela.Faucet (isAlreadyProcessedError)
open Solvela.EscrowProgram
open Solvela.Payment hiding Externals verifyPayment
open Solvela.Signer

/-! ## The instruction that lands -/

section
variable {Key : Type} (ext : Externals) (read : Pubkey → Key)

/-- The instruction as Anchor reads it, over all keys of the transaction: the nine accounts of
`deposit`, the last three of them programs, and the arguments behind the discriminator. -/
def onChainDeposit (keys : List Pubkey) (ix : CompiledInstruction) :
    Option (Deposit Key × DepositArgs) :=
  if 9 ≤ ix.accounts.length ∧ 56 ≤ ix.data.length ∧
      ix.data.take 8 = Rs.anchorDiscriminator ext.prims "deposit" then do
    let agent ← accountAt keys ix 0
    let provider ← accountAt keys ix 1
    let mint ← accountAt keys ix 2
    let escrow ← accountAt keys ix 3
    let agentTokenAccount ← accountAt keys ix 4
    let vault ← accountAt keys ix 5
    let ctx := ⟨read agent, read provider, read mint, read escrow, read agentTokenAccount,
      read vault⟩
    some (ctx, depositArgs ix.data)
  else none

/-- The payload's deposit: the first instruction of its message that calls the program. The keys
that the lookup tables of the message load come after its own. -/
def depositOf (programId : Pubkey) (loaded : List Pubkey) (payload : PaymentPayload) :
    Option (Deposit Key × DepositArgs) := do
  let tx ← transactionIn payload
  let message ← (ParsedMessage.fromBytes tx.messageBytes).toOption
  let ix ← message.instructions.find? (callsProgram message programId)
  onChainDeposit ext read (message.accountKeys ++ loaded) ix

variable {ext read}

/-- An account of the message is one with the loaded addresses too. -/
theorem accountAt_append {keys loaded : List Pubkey} {ix : CompiledInstruction} {pos : ℕ}
    {key : Pubkey} (h : accountAt keys ix pos = some key) :
    accountAt (keys ++ loaded) ix pos = some key := by
  obtain ⟨index, hindex, hkey⟩ := Option.bind_eq_some_iff.1 h
  refine Option.bind_eq_some_iff.2 ⟨index, hindex, ?_⟩
  have hlt : index.toNat < keys.length := (List.getElem?_eq_some_iff.1 hkey).1
  rw [List.getElem?_append_left hlt]
  exact hkey

/-- The program reads the agent, the provider and the arguments that were verified. -/
theorem depositOf_verified {verifier : EscrowVerifier} {payload : PaymentPayload} {slot : ℕ}
    {terms : DepositTerms} {message : ParsedMessage} {ix : CompiledInstruction}
    (h : Verified ext verifier payload slot terms message ix) {loaded : List Pubkey}
    {ctx : Deposit Key} {args : DepositArgs}
    (hdeposit : depositOf ext read terms.programId loaded payload = some (ctx, args)) :
    args = depositArgs ix.data ∧ ctx.agent = read terms.agent ∧
      ctx.provider = read terms.provider ∧ ctx.mint = read terms.mint ∧
      ctx.escrow = read terms.escrow ∧ ctx.vault = read terms.vault := by
  obtain ⟨tx, htx, hmessage, -⟩ := h.carries
  unfold depositOf at hdeposit
  -- the program is handed the transaction, the message and the instruction that were verified
  obtain ⟨tx', htx', hdeposit⟩ := Option.bind_eq_some_iff.1 hdeposit
  have hsame : tx' = tx := Option.some.inj (htx'.symm.trans htx)
  rw [hsame, hmessage] at hdeposit
  obtain ⟨message', hmessage', hdeposit⟩ := Option.bind_eq_some_iff.1 hdeposit
  have hsameMessage : message' = message := (Option.some.inj hmessage').symm
  rw [hsameMessage] at hdeposit
  obtain ⟨ix', hix', hdeposit⟩ := Option.bind_eq_some_iff.1 hdeposit
  have hsameIx : ix' = ix := Option.some.inj (hix'.symm.trans h.meets.first)
  rw [hsameIx] at hdeposit
  unfold onChainDeposit at hdeposit
  split at hdeposit
  · obtain ⟨agent, hagent, hdeposit⟩ := Option.bind_eq_some_iff.1 hdeposit
    obtain ⟨provider, hprovider, hdeposit⟩ := Option.bind_eq_some_iff.1 hdeposit
    obtain ⟨mint, hmint, hdeposit⟩ := Option.bind_eq_some_iff.1 hdeposit
    obtain ⟨escrow, hescrow, hdeposit⟩ := Option.bind_eq_some_iff.1 hdeposit
    obtain ⟨_, -, hdeposit⟩ := Option.bind_eq_some_iff.1 hdeposit
    obtain ⟨vault, hvault, hdeposit⟩ := Option.bind_eq_some_iff.1 hdeposit
    have hpair := Prod.mk.inj (Option.some.inj hdeposit)
    rw [accountAt_append h.meets.agent] at hagent
    rw [accountAt_append h.meets.provider] at hprovider
    rw [accountAt_append h.meets.mint] at hmint
    rw [accountAt_append h.meets.escrow] at hescrow
    rw [accountAt_append h.meets.vault] at hvault
    rw [← hpair.1, Option.some.inj hagent, Option.some.inj hprovider, Option.some.inj hmint,
      Option.some.inj hescrow, Option.some.inj hvault]
    exact ⟨hpair.2.symm, rfl, rfl, rfl, rfl, rfl⟩
  · exact absurd hdeposit (by simp)

end

/-! ## What a landed deposit leaves -/

/-- Wherever the payload's deposit succeeds on chain, it passes every check of its arguments and
locks `amount` for the gateway: before the expiry slot, and until the gateway claims it, it can
claim any part of it. The gateway's wallet signs, the supply of USDC is a `u64`, and the token
accounts of the gateway and of the agent are at two addresses, each missing or still their own. -/
def LocksForGateway (ext : Externals) (terms : DepositTerms) (payload : PaymentPayload)
    (amount : ℕ) : Prop :=
  ∀ (Key : Type) [DecidableEq Key] (D : Addresses Key) (read : Pubkey → Key)
    (loaded : List Pubkey) (tokens : Lib.Table Key (TokenAccount Key))
    (before after : List (Transaction Key)) (tx : Transaction Key) (ctx : Deposit Key)
    (args : DepositArgs),
    let landing := run (exec D) ⟨tokens, ∅⟩ before
    let later := run (exec D) (exec D landing tx) after
    depositOf ext read terms.programId loaded payload = some (ctx, args) →
    tx.instr = .deposit ctx args.amount args.serviceId args.expirySlot →
    Succeeds D landing tx →
    (∀ s, depositGuards D tx.slot ctx args.amount args.expirySlot s = .ok () s) ∧
    args.amount = amount ∧ ctx.provider = read terms.provider ∧
    (D.canSign (read terms.provider) = true → totalOf D.usdcMint ⟨tokens, ∅⟩ ≤ u64Max →
      AllSteps (exec D) (Spared D ctx.escrow args.expirySlot) (exec D landing tx) after →
      D.ata ctx.provider D.usdcMint ≠ D.ata ctx.agent D.usdcMint →
      Usable D later ctx.provider D.usdcMint → Usable D later ctx.agent D.usdcMint →
      Claimable D later ctx.escrow (ctx.record args.amount args.serviceId args.expirySlot))

/-- A verified deposit locks its amount for the gateway where it succeeds. -/
theorem locksForGateway_of_verified {ext : Externals} {verifier : EscrowVerifier}
    {payload : PaymentPayload} {slot : ℕ} {terms : DepositTerms} {message : ParsedMessage}
    {ix : CompiledInstruction} (h : Verified ext verifier payload slot terms message ix) :
    LocksForGateway ext terms payload (depositArgs ix.data).amount := by
  intro Key _ D read loaded tokens before after tx ctx args landing later hdeposit hinstr hok
  obtain ⟨hargs, -, hprovider, -⟩ := depositOf_verified h hdeposit
  refine ⟨depositGuards_of_succeeds hok hinstr, by rw [hargs], hprovider, ?_⟩
  intro hcanSign hsupply hspared happart husableProvider husableAgent
  have hinv : Inv D landing := inv_run (inv_genesis tokens) before
  have hspec := depositSpec_of_succeeds hok hinstr
  obtain ⟨hrecord, hlive⟩ := live_of_deposit hinv hok hinstr hspared
  have hmint : ctx.mint = D.usdcMint := hspec.mint
  -- no transaction changes the supply
  have htotal : totalOf ctx.mint later ≤ u64Max := by
    show totalOf ctx.mint (run (exec D) (exec D landing tx) after) ≤ u64Max
    rw [hmint, totalOf_run, totalOf_exec, totalOf_run]
    exact hsupply
  apply claimable_of_live hrecord hlive
  · show D.canSign ctx.provider = true
    rw [hprovider]
    exact hcanSign
  · show D.ata ctx.provider ctx.mint ≠ D.ata ctx.agent ctx.mint
    rw [hmint]
    exact happart
  · show Usable D later ctx.provider ctx.mint
    rw [hmint]
    exact husableProvider
  · show Usable D later ctx.agent ctx.mint
    rw [hmint]
    exact husableAgent
  · exact htotal

/-! ## Confirmed settlements -/

/-- The loop ends well on an answer that reports the transaction confirmed, without an error. -/
theorem pollForConfirmation_ok {statuses : List (Except String JsonValue)} {u : Unit}
    (h : pollForConfirmation statuses = .ok u) :
    ∃ answer ∈ statuses, statusVerdict answer = some (.ok ()) := by
  induction statuses with
  | nil => exact absurd h (by simp [pollForConfirmation])
  | cons answer answers ih =>
    rw [pollForConfirmation] at h
    split at h
    · rename_i verdict hverdict
      refine ⟨answer, List.mem_cons_self, ?_⟩
      rw [hverdict, h]
    · obtain ⟨later, hmem, hlater⟩ := ih h
      exact ⟨later, List.mem_cons_of_mem _ hmem, hlater⟩

/-- A settlement that succeeds has read a status without an error. -/
theorem confirmDeposit_success {signature : String} {amount : Option ℕ}
    {statuses : List (Except String JsonValue)}
    (h : (confirmDeposit signature amount statuses).success = true) :
    ∃ answer ∈ statuses, statusVerdict answer = some (.ok ()) := by
  unfold confirmDeposit at h
  split at h
  · rename_i hpoll
    exact pollForConfirmation_ok hpoll
  · exact absurd h (by simp)

/-- A settlement succeeds only on such an answer. -/
theorem settlePayment_success {ext : Externals} {verifier : EscrowVerifier}
    {payload : PaymentPayload} {sendAnswer : Except String JsonValue}
    {statuses : List (Except String JsonValue)} {settlement : EscrowSettlement}
    (h : settlePayment ext verifier payload sendAnswer statuses = .ok settlement)
    (hsuccess : settlement.success = true) :
    ∃ answer ∈ statuses, statusVerdict answer = some (.ok ()) := by
  unfold settlePayment at h
  obtain ⟨_, -, h⟩ := except_bind_ok.1 h
  obtain ⟨_, -, h⟩ := except_bind_ok.1 h
  obtain ⟨_, -, h⟩ := except_bind_ok.1 h
  dsimp only at h
  split at h
  · rw [← Except.ok.inj h] at hsuccess
    exact confirmDeposit_success hsuccess
  · split at h
    · rw [← Except.ok.inj h] at hsuccess
      exact confirmDeposit_success hsuccess
    · rw [← Except.ok.inj h] at hsuccess
      exact absurd hsuccess (by simp)

/-! ## The agreement -/

/-- A payment that the escrow verifier accepts is a deposit on the terms asked for; every
settlement of it reports the verified amount, and succeeds only when the cluster confirms the
deposit; and a deposit that succeeds on chain locks that amount for the gateway. -/
theorem verified_deposit_is_claimable {ext : Externals} {verifier : EscrowVerifier}
    {payload : PaymentPayload} {slotAnswer : Except String JsonValue} {result : VerificationResult}
    (h : verifyPayment ext verifier payload slotAnswer = .ok result) :
    ∃ slot terms message ix amount, getCurrentSlot slotAnswer = .ok slot ∧
      Verified ext verifier payload slot terms message ix ∧
      (depositArgs ix.data).amount = amount ∧ result = ⟨true, none, some amount⟩ ∧
      extractDepositAmount ext message terms.programId = some amount ∧
      (∀ sendAnswer statuses, ∃ settlement,
        settlePayment ext verifier payload sendAnswer statuses = .ok settlement ∧
        settlement.verifiedAmount = some amount ∧
        (settlement.success = true →
          ∃ answer ∈ statuses, statusVerdict answer = some (.ok ()))) ∧
      LocksForGateway ext terms payload amount := by
  obtain ⟨slot, terms, message, ix, hslot, hverified, hresult⟩ := verifyPayment_ok h
  refine ⟨slot, terms, message, ix, _, hslot, hverified, rfl, hresult,
    extractDepositAmount_of_meets hverified.meets, ?_, locksForGateway_of_verified hverified⟩
  intro sendAnswer statuses
  obtain ⟨settlement, hsettle, hamount⟩ := settlePayment_of_verified hverified sendAnswer statuses
  exact ⟨settlement, hsettle, hamount, settlePayment_success hsettle⟩


/-! ### A deposit that is claimed and settled again -/

deriving instance DecidableEq for CompiledInstruction
deriving instance DecidableEq for Deposit

/-- The escrow program of the golden vector. -/
def goldenProgram : Pubkey := #v[
  130, 142, 181, 26, 218, 8, 51, 202, 247, 106, 76, 99, 118, 198, 182, 55, 144, 132, 29, 159, 16, 5,
  139, 128, 109, 252, 15, 12, 226, 251, 241, 225]

/-- Its provider. -/
def goldenProvider : Pubkey := #v[
  126, 140, 8, 135, 96, 191, 222, 29, 221, 207, 50, 193, 127, 32, 155, 130, 66, 238, 82, 170, 241,
  49, 250, 205, 136, 208, 234, 44, 109, 11, 6, 242]

/-- Its service id. -/
def goldenServiceId : Vector UInt8 32 := Vector.replicate 32 7

/-- The instruction of its deposit. -/
def goldenDepositIx : CompiledInstruction where
  programIdIndex := 9
  accounts := [0, 4, 5, 1, 2, 3, 6, 7, 8]
  data := depositHash.toList.take 8 ++ [65, 10, 0, 0, 0, 0, 0, 0] ++ goldenServiceId.toList ++
    [46, 69, 15, 0, 0, 0, 0, 0]

/-- Its message. -/
def goldenMessage : ParsedMessage where
  header := ⟨1, 0, 6⟩
  accountKeys := [goldenAgent, goldenEscrowPda, goldenAgentAta, goldenVaultAta, goldenProvider,
    sampleMint, tokenProgramId, associatedTokenProgramId, systemProgram, goldenProgram]
  recentBlockhash := Vector.replicate 32 0xAB
  instructions := [goldenDepositIx]
  isV0 := false

/-- Its transaction. -/
def goldenTx : VersionedTransaction where
  signatures := [goldenSignature]
  messageBytes := goldenMessage.bytes

/-- Its signature in base58. -/
def goldenSignatureB58 : String :=
  "5Sh3nNcUSGF4YjWRhoCqoaoZ6LwY5SvV7FASz4AvTfisaZ2o4ttcheC7skPXNYsJ9rrHv3xBcG6PL86oy42aACtW"

/-- The gateway that the golden vector pays. -/
def goldenGateway : EscrowVerifier where
  recipientWallet := "9WzDXwBbmkg8ZTbNMqUxvQRAyrZzDsGYdLVL9zYtAWWM"
  usdcMint := "EPjFWdd5AufqSSqeM2qN1xzybapC8G4wEGGkZwyTDt1v"
  escrowProgramId := "9neDHouXgEgHZDde5SpmqqEZ9Uv35hFcjtFEPxomtHLU"

/-- The libraries on the golden vector. -/
def goldenExternals : Externals where
  prims := goldenPrims
  ed := goldenEd25519 goldenTx.messageBytes goldenSignature
  bs58Encode _ := goldenSignatureB58
  bs58Error _ := ""
  base64Error _ := ""

/-- The payment of the golden vector. -/
def goldenPayment : PaymentPayload where
  x402Version := 2
  resource := ⟨"/v1/chat/completions", "POST"⟩
  accepted :=
    { scheme := "escrow", network := "solana:5eykt4UsFv8P8NJdTREpY1vzqKqZKvdp", amount := "2625"
      asset := "EPjFWdd5AufqSSqeM2qN1xzybapC8G4wEGGkZwyTDt1v"
      payTo := "9WzDXwBbmkg8ZTbNMqUxvQRAyrZzDsGYdLVL9zYtAWWM", maxTimeoutSeconds := 300
      escrowProgramId := some "9neDHouXgEgHZDde5SpmqqEZ9Uv35hFcjtFEPxomtHLU" }
  payload := .escrow goldenVectorB64 "BwcHBwcHBwcHBwcHBwcHBwcHBwcHBwcHBwcHBwcHBwc=" goldenAgentB58

/-- A reply with a result. -/
def rpcResult (result : JsonValue) : Except String JsonValue :=
  .ok (.obj [("jsonrpc", .str "2.0"), ("result", result), ("id", .num "1")])

/-- The refusal of a deposit that has been processed before. -/
def processedBefore : JsonValue :=
  .obj [("code", .num "-32002"), ("message", .str ("Transaction simulation failed: " ++
    "This transaction has already been processed"))]

/-- The reply that carries it, and the error that the verifier makes of it. -/
def alreadyProcessed : Except String JsonValue :=
  .ok (.obj [("jsonrpc", .str "2.0"), ("error", processedBefore), ("id", .num "1")])

def alreadyProcessedError : VerifierError := .rpc (jsonText processedBefore)

/-- Its status, of the first time. -/
def finalizedStatus : Except String JsonValue :=
  rpcResult (.obj [("context", .obj [("slot", .num "1000200")]),
    ("value", .arr [.obj [("slot", .num "1000010"), ("confirmations", .null), ("err", .null),
      ("confirmationStatus", .str "finalized")]])])

/-- The keys of the golden vector on the free chain, where wallet 1 is the agent and wallet 2 the
gateway. -/
def goldenRead (key : Pubkey) : FreeKey :=
  if key = goldenAgent then .wallet 1
  else if key = goldenProvider then .wallet 2
  else if key = sampleMint then .usdcMint
  else if key = goldenEscrowPda then .escrow (.wallet 1) goldenServiceId
  else if key = goldenAgentAta then .ata (.wallet 1) .usdcMint
  else if key = goldenVaultAta then .ata (.escrow (.wallet 1) goldenServiceId) .usdcMint
  else .wallet 3

/-- The accounts of its deposit. -/
def goldenAccounts : Deposit FreeKey where
  agent := .wallet 1
  provider := .wallet 2
  mint := .usdcMint
  escrow := .escrow (.wallet 1) goldenServiceId
  agentTokenAccount := .ata (.wallet 1) .usdcMint
  vault := .ata (.escrow (.wallet 1) goldenServiceId) .usdcMint

/-- Its record. -/
def goldenRecord : Escrow FreeKey := goldenAccounts.record 2625 goldenServiceId 1000750

/-- The agent has 5000 units. -/
def goldenTokens : Lib.Table FreeKey (TokenAccount FreeKey) :=
  AList.singleton (.ata (.wallet 1) .usdcMint) ⟨.usdcMint, .wallet 1, 5000⟩

/-- The deposit lands. -/
def goldenDepositTx : Transaction FreeKey :=
  { slot := 1000010, signers := [.wallet 1]
    instr := .deposit goldenAccounts 2625 goldenServiceId 1000750 }

/-- The gateway claims all of it. -/
def goldenClaimTx : Transaction FreeKey :=
  goldenRecord.claimTx freeAddresses goldenAccounts.escrow 1000100 2625

/-- What the checks and the program find in the parts of the payment. -/
theorem goldenPayment_parts :
    decodeServiceId goldenExternals "BwcHBwcHBwcHBwcHBwcHBwcHBwcHBwcHBwcHBwcHBwc=" =
        .ok goldenServiceId ∧
      decodeKey goldenExternals "agent_pubkey" goldenAgentB58 = .ok goldenAgent ∧
      decodeKey goldenExternals "escrow_program_id" goldenGateway.escrowProgramId =
        .ok goldenProgram ∧
      Rs.findProgramAddress goldenPrims
        [textBytes "escrow", goldenAgent.toList, goldenServiceId.toList] goldenProgram =
          some (goldenEscrowPda, 255) ∧
      checkSigner goldenExternals goldenTx goldenSignature goldenMessage goldenAgent = .ok () ∧
      parseU64 goldenPayment.accepted.amount = some 2625 ∧
      goldenMessage.instructions.find? (callsProgram goldenMessage goldenProgram) =
        some goldenDepositIx ∧
      checkData goldenExternals goldenDepositIx 2625 goldenServiceId =
        .ok ⟨2625, goldenServiceId, 1000750⟩ ∧
      checkAccounts goldenExternals goldenGateway goldenMessage goldenDepositIx goldenAgent
        goldenEscrowPda = .ok () ∧
      getCurrentSlot (rpcResult (.num "1000000")) = .ok 1000000 ∧
      extractDepositAmount goldenExternals goldenMessage goldenProgram = some 2625 ∧
      onChainDeposit goldenExternals goldenRead goldenMessage.accountKeys goldenDepositIx =
        some (goldenAccounts, ⟨2625, goldenServiceId, 1000750⟩) := by
  decide +kernel

theorem fromBytes_golden : ParsedMessage.fromBytes goldenTx.messageBytes = .ok goldenMessage := by
  have hdata : goldenDepositIx.data.length < 128 := by
    simp [goldenDepositIx, goldenServiceId]
  have hix : goldenDepositIx.Short := ⟨by decide, hdata⟩
  apply ParsedMessage.fromBytes_bytes
  refine ⟨rfl, by decide, by decide, by decide, ?_⟩
  intro ix hmem
  rw [List.mem_singleton.1 hmem]
  exact hix

theorem base64Decode_golden :
    base64Decode (textBytes goldenVectorB64) =
      some (wireBytes goldenSignature goldenMessage.bytes) := by
  decide +kernel

theorem decodeDepositTx_golden :
    decodeDepositTx goldenExternals goldenVectorB64 = .ok (goldenTx, goldenSignature) := by
  have htx := VersionedTransaction.fromBytes_wireBytes goldenSignature goldenMessage.bytes
  unfold decodeDepositTx
  refine except_bind_ok.2 ⟨_, orFail_ok.2 base64Decode_golden, ?_⟩
  exact except_bind_ok.2 ⟨goldenTx, mapError_ok.2 htx, rfl⟩

theorem transactionIn_golden : transactionIn goldenPayment = some goldenTx := by
  unfold transactionIn goldenPayment
  dsimp only
  rw [base64Decode_golden, Option.bind_some, VersionedTransaction.fromBytes_wireBytes]
  rfl

theorem verifyPayment_golden :
    verifyPayment goldenExternals goldenGateway goldenPayment (rpcResult (.num "1000000")) =
      .ok ⟨true, none, some 2625⟩ := by
  obtain ⟨hserviceId, hagent, hprogram, hescrow, hsigner, hamount, hfirst, hdata, haccounts, hslot,
    -⟩ := goldenPayment_parts
  have hmessage : parseMessage goldenTx = .ok goldenMessage := mapError_ok.2 fromBytes_golden
  unfold verifyPayment
  refine except_bind_ok.2 ⟨_, rfl, except_bind_ok.2 ⟨_, hserviceId, ?_⟩⟩
  refine except_bind_ok.2 ⟨_, hagent, except_bind_ok.2 ⟨_, hprogram, ?_⟩⟩
  refine except_bind_ok.2 ⟨_, orFail_ok.2 hescrow, ?_⟩
  refine except_bind_ok.2 ⟨_, decodeDepositTx_golden, except_bind_ok.2 ⟨_, hmessage, ?_⟩⟩
  refine except_bind_ok.2 ⟨_, hsigner, except_bind_ok.2 ⟨_, orFail_ok.2 hamount, ?_⟩⟩
  refine except_bind_ok.2 ⟨_, orFail_ok.2 hfirst, except_bind_ok.2 ⟨_, hdata, ?_⟩⟩
  refine except_bind_ok.2 ⟨_, haccounts, except_bind_ok.2 ⟨_, hslot, ?_⟩⟩
  exact except_bind_ok.2 ⟨(), by decide, rfl⟩

/-- The node's refusal of the deposit, and the status of its first landing. -/
theorem goldenAnswers :
    isAlreadyProcessedError (display alreadyProcessedError) = true ∧
      pollForConfirmation [finalizedStatus] = .ok () := by
  decide +kernel

theorem settlePayment_golden :
    settlePayment goldenExternals goldenGateway goldenPayment alreadyProcessed [finalizedStatus] =
      .ok ⟨⟨true, some goldenSignatureB58, Channel.solanaNetwork, none⟩, some 2625⟩ := by
  obtain ⟨-, -, hprogram, -, -, -, -, -, -, -, hextract, -⟩ := goldenPayment_parts
  obtain ⟨hprocessed, hpoll⟩ := goldenAnswers
  have hamount : ((ParsedMessage.fromBytes goldenTx.messageBytes).toOption.bind fun message =>
      extractDepositAmount goldenExternals message goldenProgram) = some 2625 := by
    rw [fromBytes_golden]
    exact hextract
  have hsend : sendTransaction alreadyProcessed = .error alreadyProcessedError := rfl
  unfold settlePayment
  refine except_bind_ok.2 ⟨_, rfl, except_bind_ok.2 ⟨_, decodeDepositTx_golden, ?_⟩⟩
  refine except_bind_ok.2 ⟨_, hprogram, ?_⟩
  dsimp only
  rw [hamount, hsend]
  dsimp only
  rw [if_pos hprocessed, confirmDeposit, hpoll]
  rfl

theorem depositOf_golden :
    depositOf goldenExternals goldenRead goldenProgram [] goldenPayment =
      some (goldenAccounts, ⟨2625, goldenServiceId, 1000750⟩) := by
  obtain ⟨-, -, -, -, -, -, hfirst, -, -, -, -, hread⟩ := goldenPayment_parts
  unfold depositOf
  rw [transactionIn_golden]
  refine Option.bind_eq_some_iff.2 ⟨goldenTx, rfl, ?_⟩
  rw [fromBytes_golden]
  refine Option.bind_eq_some_iff.2 ⟨goldenMessage, rfl, ?_⟩
  refine Option.bind_eq_some_iff.2 ⟨goldenDepositIx, hfirst, ?_⟩
  rw [List.append_nil]
  exact hread

/-- The agent hands its token account over to wallet 3, as `SetAuthority` of the token program
does. -/
def handedOver (s : Chain FreeKey) : Chain FreeKey :=
  { s with tokens := s.tokens.insert (.ata (.wallet 1) .usdcMint) ⟨.usdcMint, .wallet 3, 2375⟩ }

/-- On the chain the deposit lands, and the gateway has no token account yet; the claim succeeds and
closes the escrow, and fails once the agent has handed its token account over. -/
theorem goldenTxs_land :
    Succeeds freeAddresses ⟨goldenTokens, ∅⟩ goldenDepositTx ∧
      totalOf freeAddresses.usdcMint ⟨goldenTokens, ∅⟩ ≤ u64Max ∧
      (exec freeAddresses ⟨goldenTokens, ∅⟩ goldenDepositTx).tokens.lookup
        (.ata (.wallet 2) .usdcMint) = none ∧
      (exec freeAddresses ⟨goldenTokens, ∅⟩ goldenDepositTx).tokens.lookup
        (.ata (.wallet 1) .usdcMint) = some ⟨.usdcMint, .wallet 1, 2375⟩ ∧
      Succeeds freeAddresses (exec freeAddresses ⟨goldenTokens, ∅⟩ goldenDepositTx)
        goldenClaimTx ∧
      (run (exec freeAddresses) ⟨goldenTokens, ∅⟩
        [goldenDepositTx, goldenClaimTx]).escrows.lookup goldenAccounts.escrow = none ∧
      ¬ Succeeds freeAddresses
        (handedOver (exec freeAddresses ⟨goldenTokens, ∅⟩ goldenDepositTx)) goldenClaimTx := by
  decide +kernel

/-- The golden deposit is verified, lands, and is claimable from then on. -/
theorem verified_deposit_is_claimable_golden :
    verifyPayment goldenExternals goldenGateway goldenPayment (rpcResult (.num "1000000")) =
        .ok ⟨true, none, some 2625⟩ ∧
      Claimable freeAddresses (exec freeAddresses ⟨goldenTokens, ∅⟩ goldenDepositTx)
        goldenAccounts.escrow goldenRecord := by
  obtain ⟨_, terms, _, _, amount, -, hverified, -, -, -, -, hlocks⟩ :=
    verified_deposit_is_claimable verifyPayment_golden
  obtain ⟨-, -, hprogram, -⟩ := goldenPayment_parts
  obtain ⟨hlands, hsupply, hnone, hsome, -⟩ := goldenTxs_land
  have hprogramId : terms.programId = goldenProgram :=
    Except.ok.inj (hverified.asks.programId.symm.trans (mapError_ok.1 hprogram))
  have hdeposit : depositOf goldenExternals goldenRead terms.programId [] goldenPayment =
      some (goldenAccounts, ⟨2625, goldenServiceId, 1000750⟩) := by
    rw [hprogramId]
    exact depositOf_golden
  obtain ⟨-, -, hprovider, hclaimable⟩ := hlocks FreeKey freeAddresses goldenRead [] goldenTokens
    [] [] goldenDepositTx goldenAccounts ⟨2625, goldenServiceId, 1000750⟩ hdeposit rfl hlands
  have hcanSign : freeAddresses.canSign (goldenRead terms.provider) = true := by
    rw [← hprovider]
    rfl
  refine ⟨verifyPayment_golden, hclaimable hcanSign hsupply trivial (by decide) ?_ ?_⟩
  · -- the gateway has no token account yet
    intro a ha
    exact absurd (hnone.symm.trans ha) (by simp)
  · intro a ha
    rw [← Option.some.inj (hsome.symm.trans ha)]
    exact ⟨rfl, rfl⟩

/-- A deposit that landed and was claimed verifies again, and its settlement succeeds again with
the verified amount, but nothing is left to claim. Nor can a deposit be claimed whose agent has
handed its token account over. -/
theorem claimed_deposit_settles_again :
    verifyPayment goldenExternals goldenGateway goldenPayment (rpcResult (.num "1000000")) =
        .ok ⟨true, none, some 2625⟩ ∧
      settlePayment goldenExternals goldenGateway goldenPayment alreadyProcessed
        [finalizedStatus] =
          .ok ⟨⟨true, some goldenSignatureB58, Channel.solanaNetwork, none⟩, some 2625⟩ ∧
      depositOf goldenExternals goldenRead goldenProgram [] goldenPayment =
        some (goldenAccounts, ⟨2625, goldenServiceId, 1000750⟩) ∧
      Succeeds freeAddresses ⟨goldenTokens, ∅⟩ goldenDepositTx ∧
      Succeeds freeAddresses (exec freeAddresses ⟨goldenTokens, ∅⟩ goldenDepositTx)
        goldenClaimTx ∧
      (∀ slot n, ¬ Succeeds freeAddresses
        (run (exec freeAddresses) ⟨goldenTokens, ∅⟩ [goldenDepositTx, goldenClaimTx])
        (goldenRecord.claimTx freeAddresses goldenAccounts.escrow slot n)) ∧
      ¬ Claimable freeAddresses
        (handedOver (exec freeAddresses ⟨goldenTokens, ∅⟩ goldenDepositTx))
        goldenAccounts.escrow goldenRecord := by
  obtain ⟨hlands, -, -, -, hclaims, hgone, hfails⟩ := goldenTxs_land
  refine ⟨verifyPayment_golden, settlePayment_golden, depositOf_golden, hlands, hclaims,
    not_succeeds_claim hgone goldenRecord, ?_⟩
  intro hclaimable
  exact hfails (hclaimable 1000100 2625 (by decide) (by decide) (by decide)).1

end Solvela.EscrowPayment
