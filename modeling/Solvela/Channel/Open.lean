import Solvela.Ledger.Invariant

/-!
# Opening a channel

`POST /v1/channel/open`: validate the request, verify the funding transaction, settle it, and
only then record the channel. The facilitator is a parameter; `settled` collects the funding
transactions it moved money for. What the recording can still refuse after the settlement is a
lost deposit, and `open_credits_iff` says exactly which requests that happens to.
-/

namespace Solvela.Channel

open Solvela.Lib
open Solvela.Lib.Txn
open Solvela.ChannelLedger

/-! ## The facilitator -/

/-- The fields of `PaymentPayload` of a direct Solana payment. -/
structure PaymentPayload where
  x402Version : ℕ
  resourceUrl : String
  resourceMethod : String
  scheme : String
  network : String
  amount : String
  asset : String
  payTo : String
  maxTimeoutSeconds : ℕ
  transaction : String
deriving DecidableEq

/-- `VerificationResult`. -/
structure VerificationResult where
  valid : Bool
  reason : Option String
  verifiedAmount : Option ℕ

/-- `SettlementResult`, without the fields of the escrow scheme. -/
structure SettlementResult where
  success : Bool
  txSignature : Option String
  network : String
  error : Option String
deriving DecidableEq

/-- The facilitator's two calls. -/
structure Facilitator where
  verify : PaymentPayload → Except String VerificationResult
  settle : PaymentPayload → Except String SettlementResult

/-! ## The request -/

/-- `OpenChannelRequest`. -/
structure OpenChannelRequest where
  agentWallet : String
  sessionKey : Option String
  fundingTx : String
  expirySlot : Option ℕ

/-- The configuration `open` reads. -/
structure OpenConfig where
  enabled : Bool
  recipientWallet : String
  usdcMint : String
  maxDepositAtomic : Option ℕ

/-- `SOLANA_NETWORK`. -/
def solanaNetwork : String := "solana:5eykt4UsFv8P8NJdTREpY1vzqKqZKvdp"

/-- The responses other than 200, by status. -/
inductive OpenError
  | channelNotAvailable
  | rateLimited
  | badRequest (message : String)
  | paymentRequired (message : String)
  | serviceUnavailable (message : String)
  | conflict (message : String)
  | internalError (message : String)
deriving DecidableEq

/-- `OpenChannelResponse`. -/
structure OpenChannelResponse where
  channelId : ChannelId
  agentWallet : String
  sessionKey : String
  depositedAtomic : ℕ
  settledAtomic : ℕ
  lastCumulativeAtomic : ℕ
  status : ChannelStatus
  fundingTxSig : Option String
  network : String
deriving DecidableEq

/-- The ledger, and the settlements that went through. -/
structure OpenWorld where
  ledger : Ledger
  settled : List SettlementResult

/-- `ChannelOpenError`. -/
inductive ChannelOpenError
  | unverifiedAmount
  | zeroVerifiedAmount
deriving DecidableEq

/-- `credit_deposit`: only a positive verified amount is credited. -/
def creditDeposit (verifiedAmount : Option ℕ) : Except ChannelOpenError ℕ :=
  match verifiedAmount with
  | some a => if 0 < a then .ok a else .error .zeroVerifiedAmount
  | none => .error .unverifiedAmount

/-- `deposit_within_cap`. -/
def depositWithinCap (verifiedAmount : ℕ) (cap : Option ℕ) : Bool :=
  match cap with
  | some cap => decide (verifiedAmount ≤ cap)
  | none => true

/-! ## The handler -/

section
variable (facilitator : Facilitator) (config : OpenConfig) (rateLimited dbPool : Bool)
  (channelId : ChannelId) (fault : Fault) (req : OpenChannelRequest)

/-- The exact-scheme payload around the client's funding transfer. -/
def openPayload : PaymentPayload :=
  { x402Version := 2, resourceUrl := "/v1/channel/open", resourceMethod := "POST"
    scheme := "exact", network := solanaNetwork, amount := "1", asset := config.usdcMint
    payTo := config.recipientWallet, maxTimeoutSeconds := 300, transaction := req.fundingTx }

/-- The session key, by default the agent's own wallet. -/
def OpenChannelRequest.voucherKey : String := req.sessionKey.getD req.agentWallet

/-- The collision message. -/
def collisionMessage (role : String) : String :=
  "agent_wallet must not be the " ++ role ++ " — the channel's close refund would load that " ++
    "account twice in the fixed transfer account table and could never land"

/-- Everything `open` checks before money moves, with the amount to credit. -/
def validateOpen : Txn OpenError OpenWorld ℕ := do
  require (config.enabled = true) .channelNotAvailable
  require (rateLimited = false) .rateLimited
  require (dbPool = true) .channelNotAvailable
  require ((decodeBs58Pubkey req.agentWallet).isSome = true)
    (.badRequest "agent_wallet must be a base58-encoded 32-byte pubkey")
  match refundAccountCollision req.agentWallet config.recipientWallet config.usdcMint with
  | some role => throw (.badRequest (collisionMessage role))
  | none => do
    require ((decodeBs58Pubkey req.voucherKey).isSome = true)
      (.badRequest "session_key must be a base58-encoded 32-byte ed25519 key")
    require (req.fundingTx ≠ "") (.badRequest "funding_tx must be present")
    let verification ← ofExcept
      (fun _ => .serviceUnavailable "could not verify the funding transaction on-chain")
      (facilitator.verify (openPayload config req))
    require (verification.valid = true)
      (.paymentRequired "funding transaction failed verification")
    let deposited ← ofExcept
      (fun _ => .paymentRequired "funding transaction has no verifiable amount")
      (creditDeposit verification.verifiedAmount)
    require (depositWithinCap deposited config.maxDepositAtomic = true)
      (.badRequest ("deposit exceeds the per-channel maximum of " ++
        toString (config.maxDepositAtomic.getD 0) ++ " atomic USDC"))
    pure deposited

/-- The settlement of the funding transfer. -/
def settleFunding : Txn OpenError OpenWorld SettlementResult := do
  let settlement ← ofExcept
    (fun _ => .serviceUnavailable "could not settle the funding transaction on-chain")
    (facilitator.settle (openPayload config req))
  require (settlement.success = true)
    (.paymentRequired "funding transaction did not confirm on-chain")
  modify fun w => { w with settled := w.settled ++ [settlement] }
  pure settlement

/-- The channel of a settled request. -/
def newChannel (deposited : ℕ) (settlement : SettlementResult) : NewChannel :=
  { channelId := channelId, agentWallet := req.agentWallet, sessionKey := req.voucherKey
    provider := config.recipientWallet, mint := config.usdcMint, depositedAtomic := deposited
    expirySlot := req.expirySlot, fundingTxSig := settlement.txSignature }

/-- The response to a repository error. -/
def recordError : ChannelRepoError → OpenError
  | .fundingAlreadyUsed => .conflict "funding transaction already used to open a channel"
  | _ => .internalError "funding confirmed but the channel could not be recorded"

/-- `create_channel` on the world's ledger. -/
def recordChannel (ch : NewChannel) : Txn OpenError OpenWorld Unit := fun w =>
  match createChannel fault ch w.ledger with
  | .ok () ledger => .ok () { w with ledger := ledger }
  | .error e ledger => .error (recordError e) { w with ledger := ledger }

/-- The 200 response. -/
def openedResponse (deposited : ℕ) (settlement : SettlementResult) : OpenChannelResponse :=
  { channelId := channelId, agentWallet := req.agentWallet, sessionKey := req.voucherKey
    depositedAtomic := deposited, settledAtomic := 0, lastCumulativeAtomic := 0
    status := .open, fundingTxSig := settlement.txSignature, network := solanaNetwork }

/-- `open`. The fresh channel id is drawn by the caller. -/
def openChannel : Txn OpenError OpenWorld OpenChannelResponse := do
  let deposited ← validateOpen facilitator config rateLimited dbPool req
  let settlement ← settleFunding facilitator config req
  recordChannel fault (newChannel config channelId req deposited settlement)
  pure (openedResponse channelId req deposited settlement)

/-! ## What the checks before the settlement establish -/

/-- The amount the verifier extracted, if it extracted one. -/
def verifiedDeposit : Option ℕ :=
  match facilitator.verify (openPayload config req) with
  | .ok v => v.verifiedAmount
  | .error _ => none

variable {facilitator config rateLimited dbPool channelId fault req}

/-- What is credited is the amount that the settlement reports. -/
theorem creditDeposit_ok {o : Option ℕ} {a : ℕ} (h : creditDeposit o = .ok a) : o = some a := by
  cases o with
  | none => exact absurd h (by simp [creditDeposit])
  | some b =>
    unfold creditDeposit at h
    by_cases hb : 0 < b
    · simp only [if_pos hb] at h
      exact congrArg some (Except.ok.inj h)
    · simp only [if_neg hb] at h
      exact absurd h (by simp)

/-- The checks do nothing but check. -/
theorem validateOpen_readOnly :
    ReadOnly (validateOpen facilitator config rateLimited dbPool req) := by
  unfold validateOpen
  refine (readOnly_require _ _).bind fun _ => (readOnly_require _ _).bind fun _ => ?_
  refine (readOnly_require _ _).bind fun _ => (readOnly_require _ _).bind fun _ => ?_
  cases refundAccountCollision req.agentWallet config.recipientWallet config.usdcMint with
  | some role => exact readOnly_throw _
  | none =>
    refine (readOnly_require _ _).bind fun _ => (readOnly_require _ _).bind fun _ => ?_
    refine (readOnly_ofExcept _ _).bind fun _ => (readOnly_require _ _).bind fun _ => ?_
    refine (readOnly_ofExcept _ _).bind fun _ => (readOnly_require _ _).bind fun _ => ?_
    exact readOnly_pure _

/-- A request that passes the checks has no refund collision, and its deposit is the verified
amount. -/
theorem validateOpen_ok {deposited : ℕ} {w w' : OpenWorld}
    (h : validateOpen facilitator config rateLimited dbPool req w = .ok deposited w') :
    refundAccountCollision req.agentWallet config.recipientWallet config.usdcMint = none ∧
      verifiedDeposit facilitator config req = some deposited := by
  unfold validateOpen at h
  obtain ⟨_, _, -, h⟩ := bind_ok.1 h
  obtain ⟨_, _, -, h⟩ := bind_ok.1 h
  obtain ⟨_, _, -, h⟩ := bind_ok.1 h
  obtain ⟨_, _, -, h⟩ := bind_ok.1 h
  cases hc : refundAccountCollision req.agentWallet config.recipientWallet config.usdcMint with
  | some role =>
    simp only [hc] at h
    exact absurd h (by simp)
  | none =>
    simp only [hc] at h
    obtain ⟨_, _, -, h⟩ := bind_ok.1 h
    obtain ⟨_, _, -, h⟩ := bind_ok.1 h
    obtain ⟨v, _, hv, h⟩ := bind_ok.1 h
    have hverify := (ofExcept_ok.1 hv).1
    obtain ⟨_, _, -, h⟩ := bind_ok.1 h
    obtain ⟨a, _, ha, h⟩ := bind_ok.1 h
    have hcredit := (ofExcept_ok.1 ha).1
    obtain ⟨_, _, -, h⟩ := bind_ok.1 h
    obtain ⟨rfl, -⟩ := pure_ok.1 h
    refine ⟨rfl, ?_⟩
    rw [verifiedDeposit, hverify]
    exact creditDeposit_ok hcredit

/-- A settlement is on record when it is answered. -/
theorem settleFunding_ok {st : SettlementResult} {w w' : OpenWorld}
    (h : settleFunding facilitator config req w = .ok st w') :
    { w with settled := w.settled ++ [st] } = w' := by
  unfold settleFunding at h
  obtain ⟨st', _, hst, h⟩ := bind_ok.1 h
  obtain ⟨-, rfl⟩ := ofExcept_ok.1 hst
  obtain ⟨_, _, hr, h⟩ := bind_ok.1 h
  obtain ⟨-, rfl⟩ := require_ok.1 hr
  obtain ⟨_, _, hm, h⟩ := bind_ok.1 h
  obtain rfl := modify_ok.1 hm
  obtain ⟨rfl, rfl⟩ := pure_ok.1 h
  rfl

/-- A settlement that is not answered changes nothing. -/
theorem settleFunding_error {e : OpenError} {w w' : OpenWorld}
    (h : settleFunding facilitator config req w = .error e w') : w = w' := by
  unfold settleFunding at h
  rcases bind_error.1 h with h | ⟨_, _, hst, h⟩
  · exact ofExcept_error h
  obtain ⟨-, rfl⟩ := ofExcept_ok.1 hst
  rcases bind_error.1 h with h | ⟨_, _, -, h⟩
  · exact (require_error h).2
  rcases bind_error.1 h with h | ⟨_, _, -, h⟩
  · exact absurd h (by simp)
  · exact absurd h (by simp)

/-- A recorded channel is a created one. -/
theorem recordChannel_ok {ch : NewChannel} {u : Unit} {w w' : OpenWorld}
    (h : recordChannel fault ch w = .ok u w') :
    ∃ l, createChannel fault ch w.ledger = .ok () l := by
  unfold recordChannel at h
  cases hc : createChannel fault ch w.ledger with
  | ok v l => exact ⟨l, rfl⟩
  | error e l =>
    simp only [hc] at h
    exact absurd h (by simp)

/-- A created channel is recorded. -/
theorem recordChannel_of_ok {ch : NewChannel} {w : OpenWorld} {l : Ledger}
    (h : createChannel fault ch w.ledger = .ok () l) :
    recordChannel fault ch w = .ok () { w with ledger := l } := by
  simp only [recordChannel, h]

/-- Recording settles nothing. -/
theorem recordChannel_settled (fault : Fault) (ch : NewChannel) (w : OpenWorld) :
    (stateOf (recordChannel fault ch w)).settled = w.settled := by
  unfold recordChannel
  cases createChannel fault ch w.ledger with
  | ok u l => rfl
  | error e l => rfl

/-- Recording does not settle anything. -/
theorem bind_pure_settled {ch : NewChannel} {resp : OpenChannelResponse} {w : OpenWorld} :
    (stateOf ((do
      recordChannel fault ch
      pure resp : Txn OpenError OpenWorld OpenChannelResponse) w)).settled = w.settled := by
  have hrecord := recordChannel_settled fault ch w
  cases h : recordChannel fault ch w with
  | ok u w₁ =>
    rw [h] at hrecord
    rw [bind_of_ok h]
    exact hrecord
  | error e w₁ =>
    rw [h] at hrecord
    rw [bind_error.2 (Or.inl h)]
    exact hrecord

/-! ## The deposit -/

/-- The deposit is credited: the channel is there, open, with the whole amount undrawn. -/
def Credited (channelId : ChannelId) (amount : ℕ) (w : OpenWorld) : Prop :=
  ∃ r, w.ledger.channels.lookup channelId = some r ∧ r.1.status = .open ∧
    r.1.depositedAtomic = amount ∧ r.1.lastVoucherCumulativeAtomic = 0 ∧
    r.1.realizedAtomic = 0

/-- A settlement happened, so the checks passed, and what is left to do is to record the
channel in a world where the money has moved. -/
theorem openChannel_of_settled {w : OpenWorld} {st : SettlementResult}
    (h : (stateOf (openChannel facilitator config rateLimited dbPool channelId fault req
      w)).settled = w.settled ++ [st]) :
    ∃ deposited, refundAccountCollision req.agentWallet config.recipientWallet
        config.usdcMint = none ∧
      verifiedDeposit facilitator config req = some deposited ∧
      openChannel facilitator config rateLimited dbPool channelId fault req w =
        (do
          recordChannel fault (newChannel config channelId req deposited st)
          pure (openedResponse channelId req deposited st))
          { w with settled := w.settled ++ [st] } := by
  have hmoved : w.settled ≠ w.settled ++ [st] := by simp
  cases hv : validateOpen facilitator config rateLimited dbPool req w with
  | error e w₁ =>
    have hopen : openChannel facilitator config rateLimited dbPool channelId fault req w =
        .error e w₁ := bind_error.2 (Or.inl hv)
    rw [hopen, ← validateOpen_readOnly.error hv] at h
    exact absurd h hmoved
  | ok deposited w₁ =>
    obtain rfl := validateOpen_readOnly.ok hv
    obtain ⟨hc, hdeposit⟩ := validateOpen_ok hv
    refine ⟨deposited, hc, hdeposit, ?_⟩
    have hopen : openChannel facilitator config rateLimited dbPool channelId fault req w =
        (settleFunding facilitator config req >>= fun settlement => do
          recordChannel fault (newChannel config channelId req deposited settlement)
          pure (openedResponse channelId req deposited settlement)) w := bind_of_ok hv
    cases hs : settleFunding facilitator config req w with
    | error e w₂ =>
      rw [hopen, bind_error.2 (Or.inl hs), ← settleFunding_error hs] at h
      exact absurd h hmoved
    | ok st' w₂ =>
      obtain rfl := settleFunding_ok hs
      rw [hopen, bind_of_ok hs] at h ⊢
      -- the settlement that happened is the one that was appended
      rw [bind_pure_settled] at h
      obtain rfl : st' = st := by simpa using h
      rfl

/-- For every request and configuration: once the funding transaction was settled, and with
the database up, a fresh channel id and an unused signature, the deposit is credited if and
only if the two numbers that only the repository checks fit a `BIGINT`. -/
theorem open_credits_iff (facilitator : Facilitator) (config : OpenConfig)
    (rateLimited dbPool : Bool) (channelId : ChannelId) (req : OpenChannelRequest)
    (w : OpenWorld) (st : SettlementResult)
    (hsettled : (stateOf (openChannel facilitator config rateLimited dbPool channelId none req
      w)).settled = w.settled ++ [st])
    (hfresh : w.ledger.channels.lookup channelId = none)
    (hunused : fundingUsed w.ledger st.txSignature = false) :
    ∃ amount, verifiedDeposit facilitator config req = some amount ∧
      ((∃ resp w', openChannel facilitator config rateLimited dbPool channelId none req w =
          .ok resp w' ∧ Credited channelId amount w') ↔
        amount ≤ i64Max ∧ ∀ e ∈ req.expirySlot, e ≤ i64Max) := by
  obtain ⟨amount, hc, hamount, hopen⟩ := openChannel_of_settled hsettled
  refine ⟨amount, hamount, ?_⟩
  rw [hopen]
  constructor
  · rintro ⟨resp, w', hok, -⟩
    obtain ⟨u, _, hrecord, -⟩ := bind_ok.1 hok
    obtain ⟨l, hcreate⟩ := recordChannel_ok hrecord
    exact (createChannel_ok hcreate).1
  · intro hbounds
    have hfits : (newChannel config channelId req amount st).Fits := hbounds
    have hcreate := createChannel_succeeds hfits hc hfresh hunused
    refine ⟨_, _, bind_ok.2 ⟨(), _, recordChannel_of_ok hcreate, pure_ok.2 ⟨rfl, rfl⟩⟩, ?_⟩
    exact ⟨_, AList.lookup_insert _, rfl, rfl, rfl, rfl⟩

end

/-! ## Two requests -/

/-- The wallets of the two requests. -/
def openConfig : OpenConfig :=
  { enabled := true, recipientWallet := "37MfitXWbZLgandiE2SJH1AT48uctLkZtGrEWuj6PvEa"
    usdcMint := "EPjFWdd5AufqSSqeM2qN1xzybapC8G4wEGGkZwyTDt1v", maxDepositAtomic := some 50000 }

/-- A funding transfer of 1000 units that verifies and confirms. -/
def confirmingFacilitator : Facilitator :=
  { verify := fun _ => .ok { valid := true, reason := none, verifiedAmount := some 1000 }
    settle := fun _ => .ok
      { success := true, txSignature := some "funding", network := solanaNetwork
        error := none } }

/-- A request with the given validity horizon. -/
def openRequest (expirySlot : Option ℕ) : OpenChannelRequest :=
  { agentWallet := "HXqxDbshu9KGXE3WCX48RwPN53haboNyJQHqx5pXBsNX", sessionKey := none
    fundingTx := "AQAB", expirySlot := expirySlot }

/-- The settlement of the funding transfer. -/
def confirmedSettlement : SettlementResult :=
  { success := true, txSignature := some "funding", network := solanaNetwork, error := none }

/-- A channel that is funded by a confirmed transaction. -/
theorem open_credits_iff_sample :
    ∃ resp w', openChannel confirmingFacilitator openConfig false true "channel" none
        (openRequest (some 400000000)) ⟨Ledger.empty, []⟩ = .ok resp w' ∧
      Credited "channel" 1000 w' := by
  have hsettled : (stateOf (openChannel confirmingFacilitator openConfig false true "channel"
      none (openRequest (some 400000000)) ⟨Ledger.empty, []⟩)).settled =
        [] ++ [confirmedSettlement] := by
    decide +kernel
  obtain ⟨amount, hamount, hiff⟩ := open_credits_iff confirmingFacilitator openConfig false true
    "channel" (openRequest (some 400000000)) ⟨Ledger.empty, []⟩ confirmedSettlement hsettled
    rfl rfl
  obtain rfl : 1000 = amount := Option.some.inj hamount
  exact hiff.2 ⟨by decide, by decide⟩

/-- A validity horizon of `2 ^ 63` is a `u64` that no check before the settlement looks at: the
money has moved, and the channel cannot be recorded. -/
theorem open_strands_deposit :
    (stateOf (openChannel confirmingFacilitator openConfig false true "channel" none
      (openRequest (some (2 ^ 63))) ⟨Ledger.empty, []⟩)).settled = [confirmedSettlement] ∧
    fundingUsed Ledger.empty confirmedSettlement.txSignature = false ∧
    isOk (openChannel confirmingFacilitator openConfig false true "channel" none
      (openRequest (some (2 ^ 63))) ⟨Ledger.empty, []⟩) = false ∧
    (stateOf (openChannel confirmingFacilitator openConfig false true "channel" none
      (openRequest (some (2 ^ 63))) ⟨Ledger.empty, []⟩)).ledger.channels.lookup "channel" =
        none := by
  decide +kernel

end Solvela.Channel
