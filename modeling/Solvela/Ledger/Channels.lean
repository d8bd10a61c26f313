import Solvela.Ledger.Schema
import Solvela.Ledger.Pubkey

/-!
# The channel repository

The functions of `channels.rs`. Each takes the number of the statement at which the database
connection drops, if it does, so that an error can strike anywhere inside a transaction; a
dropped connection undoes the statements before it. A connection that breaks after the last
statement took effect, so that its reply is lost, is added around these functions by
`LedgerOp.call`.
-/

namespace Solvela.ChannelLedger

open Solvela.Lib
open Solvela.Lib.Txn

/-- Ledger programs. -/
abbrev Db (ε : Type) := Txn ε Ledger

/-- The statement at which the connection drops. -/
abbrev Fault := Option ℕ

section Statements
variable {ε : Type} (toErr : ChannelRepoError → ε)

/-- Statement number `i` runs only if the connection is still there. -/
def connected (fault : Fault) (i : ℕ) : Db ε Unit :=
  require (fault ≠ some i) (toErr (.db .connection))

/-- `UPDATE channels`, with the number of rows matched. -/
def updateChannels (id : ChannelId) (p : ChannelDbRow → Bool) (f : ChannelDbRow → ChannelDbRow) :
    Db ε ℕ :=
  Sql.updateStmt (·.channels) (fun t s => { s with channels := t })
    (toErr (.db .checkViolation)) id p f

/-- `UPDATE channel_refunds`, with the number of rows matched. -/
def updateRefunds (id : ChannelId) (p : RefundDbRow → Bool) (f : RefundDbRow → RefundDbRow) :
    Db ε ℕ :=
  Sql.updateStmt (·.refunds) (fun t s => { s with refunds := t })
    (toErr (.db .checkViolation)) id p f

end Statements

/-! ## Opening a channel -/

/-- `NewChannel`. -/
structure NewChannel where
  channelId : ChannelId
  agentWallet : String
  sessionKey : String
  provider : String
  mint : String
  depositedAtomic : ℕ
  expirySlot : Option ℕ
  fundingTxSig : Option String

/-- `refund_account_collision`: the role of the account in the refund transfer that the agent
wallet collides with. A wallet that does not decode is left to the caller's own check. -/
def refundAccountCollision (agentWallet recipientWallet mint : String) : Option String :=
  if agentWallet = recipientWallet then
    some "gateway recipient wallet (an unsendable self-transfer refund)"
  else if agentWallet = mint then some "USDC mint"
  else
    match decodeBs58Pubkey agentWallet with
    | none => none
    | some pk =>
      if pk = systemProgram then some "system program"
      else if pk = tokenProgramId then some "SPL token program"
      else if pk = associatedTokenProgramId then some "associated token account program"
      else none

/-- The row `create_channel` inserts. -/
def NewChannel.row (ch : NewChannel) (deposited : ℤ) (expiry : Option ℤ) : ChannelDbRow :=
  { agentWallet := ch.agentWallet, sessionKey := ch.sessionKey, provider := ch.provider
    mint := ch.mint, depositedAtomic := deposited, settledAtomic := 0, realizedAtomic := 0
    lastVoucherCumulativeAtomic := 0, expirySlot := expiry, status := .open
    fundingTxSig := ch.fundingTxSig }

/-- Some channel was funded by this transaction: the partial unique index of migration 016. -/
def fundingUsed (s : Ledger) (sig : Option String) : Bool :=
  sig.isSome && s.channels.entries.any fun e => e.2.1.fundingTxSig == sig

/-- `INSERT INTO channels … ON CONFLICT (funding_tx_sig) DO NOTHING`, with the number of rows
inserted. -/
def insertChannel (id : ChannelId) (row : ChannelDbRow) : Db ChannelRepoError ℕ := do
  let s ← get
  require row.Check (.db .checkViolation)
  if fundingUsed s row.fundingTxSig then
    pure 0
  else do
    let t ← okOr (Sql.insertRow s.channels id row) (.db .uniqueViolation)
    modify fun s => { s with channels := t }
    pure 1

/-- `create_channel`. -/
def createChannel (fault : Fault) (ch : NewChannel) : Db ChannelRepoError Unit := do
  match refundAccountCollision ch.agentWallet ch.provider ch.mint with
  | some role => throw (.refundWouldCollide role)
  | none => do
    let deposited ← ofExcept id (atomicToI64 ch.depositedAtomic)
    let expiry ← ofExcept id (ch.expirySlot.mapM atomicToI64)
    connected id fault 0
    let rows ← insertChannel ch.channelId (ch.row deposited expiry)
    require (rows = 1) .fundingAlreadyUsed

/-! ## Drawing -/

/-- `VoucherRecord`. -/
structure VoucherRecord where
  channelId : ChannelId
  cumulativeAtomic : ℕ
  callCostAtomic : ℕ
  realizedAdvanceAtomic : ℕ
  expirySlot : ℕ
  nonce : ℕ
  requestDigest : Vector UInt8 32
  signature : Vector UInt8 64
deriving DecidableEq

/-- The key of the UNIQUE constraint on `channel_vouchers` is taken. -/
def voucherExists (s : Ledger) (id : ChannelId) (cumulative : ℤ) : Bool :=
  s.vouchers.any fun v => v.channelId == id && v.cumulativeAtomic == cumulative

/-- `INSERT INTO channel_vouchers`. -/
def insertVoucher (v : VoucherDbRow) : Db ChannelRepoError Unit := do
  let s ← get
  require v.Check (.db .checkViolation)
  require (voucherExists s v.channelId v.cumulativeAtomic = false) (.db .uniqueViolation)
  require ((s.channels.lookup v.channelId).isSome = true) (.db .foreignKeyViolation)
  modify fun s => { s with vouchers := s.vouchers ++ [v] }

/-- The channel advance of one draw. -/
def ChannelDbRow.advance (cumulative realizedAdvance : ℤ) (r : ChannelDbRow) : ChannelDbRow :=
  { r with
    lastVoucherCumulativeAtomic := cumulative
    realizedAtomic := r.realizedAtomic + realizedAdvance }

/-- The guard of the channel advance: strictly increasing, and only while open. -/
def ChannelDbRow.canAdvance (cumulative : ℤ) (r : ChannelDbRow) : Bool :=
  decide (r.lastVoucherCumulativeAtomic < cumulative) && decide (r.status = .open)

/-- The row `persist_voucher_and_advance` inserts. -/
def VoucherRecord.row (v : VoucherRecord) (cumulative callCost expiry nonce : ℤ) :
    VoucherDbRow :=
  { channelId := v.channelId, cumulativeAtomic := cumulative, callCostAtomic := callCost
    expirySlot := expiry, nonce := nonce, requestDigest := v.requestDigest
    signature := v.signature }

/-- `persist_voucher_and_advance`: the voucher and the advance commit together or not at
all. -/
def persistVoucherAndAdvance (fault : Fault) (v : VoucherRecord) : Db ChannelRepoError Unit :=
  atomically do
    let cumulative ← ofExcept id (atomicToI64 v.cumulativeAtomic)
    let callCost ← ofExcept id (atomicToI64 v.callCostAtomic)
    let realizedAdvance ← ofExcept id (atomicToI64 v.realizedAdvanceAtomic)
    let expiry ← ofExcept id (atomicToI64 v.expirySlot)
    let nonce ← ofExcept id (atomicToI64 v.nonce)
    connected id fault 0
    insertVoucher (v.row cumulative callCost expiry nonce)
    connected id fault 1
    let rows ← updateChannels id v.channelId (·.canAdvance cumulative)
      (·.advance cumulative realizedAdvance)
    require (rows = 1) .advanceNotApplied
    connected id fault 2

/-! ## Maintenance -/

/-- `update_settled`. -/
def updateSettled (fault : Fault) (channelId : ChannelId) (settledAtomic : ℕ) :
    Db ChannelRepoError Unit := do
  let settled ← ofExcept id (atomicToI64 settledAtomic)
  connected id fault 0
  let rows ← updateChannels id channelId (fun _ => true) ({ · with settledAtomic := settled })
  require (rows = 1) .channelNotFound

/-- `set_status`. -/
def setStatus (fault : Fault) (channelId : ChannelId) (status : ChannelStatus) :
    Db ChannelRepoError Unit := do
  connected id fault 0
  let rows ← updateChannels id channelId (fun _ => true) ({ · with status := status })
  require (rows = 1) .channelNotFound

/-! ## Reading -/

/-- `ChannelState`, the snapshot a voucher is verified against. -/
structure ChannelState where
  channelId : Pubkey
  depositedAtomic : ℕ
  settledAtomic : ℕ
  lastCumulativeAtomic : ℕ
  sessionKey : Pubkey
  expectedRequestDigest : Vector UInt8 32
deriving DecidableEq

/-- `DrawableChannel`. -/
structure DrawableChannel where
  state : ChannelState
  agentWallet : String
deriving DecidableEq

/-- `load_open_channel_state`: only open channels are drawable. -/
def loadOpenChannelState (s : Ledger) (id : ChannelId) (expectedRequestDigest : Vector UInt8 32) :
    Except ChannelRepoError (Option DrawableChannel) :=
  match s.channels.lookup id with
  | none => .ok none
  | some r =>
    if r.1.status = .open then do
      let channelId ← (decodeBs58Pubkey id).elim (.error .badChannelId) .ok
      let sessionKey ← (decodeBs58Pubkey r.1.sessionKey).elim (.error .badSessionKey) .ok
      let deposited ← i64ToAtomic r.1.depositedAtomic
      let settled ← i64ToAtomic r.1.settledAtomic
      let last ← i64ToAtomic r.1.lastVoucherCumulativeAtomic
      .ok (some
        { state :=
            { channelId := channelId, depositedAtomic := deposited, settledAtomic := settled
              lastCumulativeAtomic := last, sessionKey := sessionKey
              expectedRequestDigest := expectedRequestDigest }
          agentWallet := r.1.agentWallet })
    else .ok none

end Solvela.ChannelLedger
