import Solvela.Ledger.Channels

/-!
# The refund repository

The functions of `channel_refunds.rs` that read and write the ledger: the close transaction
that freezes an obligation, and the compare-and-set updates of the refund worker. `now` is the
`NOW()` of the transaction, in microseconds.
-/

namespace Solvela.ChannelLedger

open Solvela.Lib
open Solvela.Lib.Txn

/-- The trailing window of the daily cap, in microseconds. -/
def dailyWindow : ℕ := 24 * 60 * 60 * 1000000

/-- `compute_refundable`: what was deposited and never consumed. -/
def computeRefundable (depositedAtomic realizedAtomic : ℕ) : Except ChannelRefundError ℕ :=
  if realizedAtomic ≤ depositedAtomic then .ok (depositedAtomic - realizedAtomic)
  else .error (.realizedExceedsDeposited depositedAtomic realizedAtomic)

/-- `refund_memo`: what identifies an obligation on chain. -/
def refundMemo (id : ChannelId) : String := "solvela-refund:" ++ id

/-- A fresh reservation of a frozen obligation. -/
def reservation (amount : ℤ) (destinationWallet mint : String) : RefundDbRow :=
  { amountAtomic := amount, destinationWallet := destinationWallet, mint := mint
    status := .reserved, txSignature := none, signedTx := none, lastValidBlockHeight := none
    attempts := 0, firstBroadcastAt := none, broadcastAcceptedAt := none }

/-- `INSERT INTO channel_refunds … ON CONFLICT (channel_id) DO NOTHING`. -/
def insertRefund (id : ChannelId) (row : RefundDbRow) : Db ChannelRefundError Unit := do
  let s ← get
  require row.Check (.repo (.db .checkViolation))
  match s.refunds.lookup id with
  | some _ => pure ()
  | none => do
    require ((s.channels.lookup id).isSome = true) (.repo (.db .foreignKeyViolation))
    let t ← okOr (Sql.insertRow s.refunds id row) (.repo (.db .checkViolation))
    modify fun s => { s with refunds := t }

/-- `CloseOutcome`. -/
structure CloseOutcome where
  channelStatus : ChannelStatus
  depositedAtomic : ℕ
  settledAtomic : ℕ
  refundableAtomic : ℕ
  refundStatus : RefundStatus
  txSignature : Option String
deriving DecidableEq

/-- `close_channel_and_reserve_refund`: flip, read and freeze in one transaction. -/
def closeChannelAndReserveRefund (fault : Fault) (id : ChannelId) :
    Db ChannelRefundError CloseOutcome :=
  atomically do
    connected .repo fault 0
    let _ ← updateChannels .repo id (fun r => decide (r.status = .open))
      ({ · with status := .closing })
    -- the row after the flip, or the row of a channel that was not open
    connected .repo fault 1
    let s ← get
    let ch ← okOr (s.channels.lookup id) (.repo .channelNotFound)
    let deposited ← ofExcept .repo (i64ToAtomic ch.1.depositedAtomic)
    let settled ← ofExcept .repo (i64ToAtomic ch.1.settledAtomic)
    let realized ← ofExcept .repo (i64ToAtomic ch.1.realizedAtomic)
    let refundable ← ofExcept (fun e => e) (computeRefundable deposited realized)
    let amount ← ofExcept .repo (atomicToI64 refundable)
    connected .repo fault 2
    insertRefund id (reservation amount ch.1.agentWallet ch.1.mint)
    connected .repo fault 3
    let s ← get
    let rf ← okOr (s.refunds.lookup id) (.repo (.db .rowNotFound))
    connected .repo fault 4
    pure
      { channelStatus := ch.1.status, depositedAtomic := deposited, settledAtomic := settled
        refundableAtomic := refundable, refundStatus := rf.1.status
        txSignature := rf.1.txSignature }

/-! ## The worker's updates -/

/-- `ClaimOutcome`. -/
inductive ClaimOutcome
  | won
  | lost
  | capExceeded
deriving DecidableEq

/-- `RefundClaim`. -/
structure RefundClaim where
  channelId : ChannelId
  signedTx : List UInt8
  txSignature : String
  lastValidBlockHeight : ℕ
  amountAtomic : ℕ
  dailyCapAtomic : Option ℕ

/-- The row is counted by the daily cap at `now`: first broadcast inside the trailing window,
and not held. -/
def RefundDbRow.counted (now : ℕ) (r : RefundDbRow) : Bool :=
  match r.firstBroadcastAt with
  | none => false
  | some t => decide (now < t + dailyWindow) && decide (r.status ≠ .held)

/-- The sum of the daily-cap query. -/
def broadcast24h (now : ℕ) (s : Ledger) : ℕ :=
  Table.sumBy (fun _ (r : Refund) => if r.1.counted now then r.1.amountAtomic.toNat else 0)
    s.refunds

/-- Does the cap refuse the claim? The sum is cast to `BIGINT`; the addition saturates. -/
def capExceeded (now : ℕ) (s : Ledger) (claim : RefundClaim) : Except ChannelRepoError Bool :=
  match claim.dailyCapAtomic with
  | none => .ok false
  | some cap =>
    if broadcast24h now s ≤ i64Max then
      .ok (decide (cap < min u64Max (broadcast24h now s + claim.amountAtomic)))
    else .error (.db .numericOutOfRange)

/-- The payload-carrying write of the claim. -/
def RefundDbRow.claimed (now : ℕ) (claim : RefundClaim) (height : ℤ) (r : RefundDbRow) :
    RefundDbRow :=
  { r with
    status := .inFlight
    signedTx := some claim.signedTx
    txSignature := some claim.txSignature
    lastValidBlockHeight := some height
    attempts := r.attempts + 1
    firstBroadcastAt := some (r.firstBroadcastAt.getD now)
    broadcastAcceptedAt := none }

/-- `claim_refund_for_broadcast`: cap check and single-winner flip in one transaction. -/
def claimRefundForBroadcast (fault : Fault) (now : ℕ) (claim : RefundClaim) :
    Db ChannelRefundError ClaimOutcome :=
  atomically do
    connected .repo fault 0
    let s ← get
    let refused ← ofExcept .repo (capExceeded now s claim)
    if refused then
      pure .capExceeded
    else do
      connected .repo fault 1
      let height ← ofExcept .repo (atomicToI64 claim.lastValidBlockHeight)
      let rows ← updateRefunds .repo claim.channelId (fun r => decide (r.status = .reserved))
        (·.claimed now claim height)
      connected .repo fault 2
      pure (if rows = 1 then .won else .lost)

/-- `confirm_refund_and_close_channel`: the refund is confirmed and its channel closed in one
transaction. -/
def confirmRefundAndCloseChannel (fault : Fault) (id : ChannelId) (source : RefundStatus) :
    Db ChannelRefundError Bool :=
  atomically do
    connected .repo fault 0
    let rows ← updateRefunds .repo id (fun r => decide (r.status = source))
      ({ · with status := .confirmed })
    if rows = 1 then do
      connected .repo fault 1
      let _ ← updateChannels .repo id (fun r => decide (r.status = .closing))
        ({ · with status := .closed })
      connected .repo fault 2
      pure true
    else
      pure false

/-- The write of a re-sign: new bytes, a new signature and a fresh acceptance life. -/
def RefundDbRow.resigned (signedTx : List UInt8) (txSignature : String) (height : ℤ)
    (r : RefundDbRow) : RefundDbRow :=
  { r with
    signedTx := some signedTx
    txSignature := some txSignature
    lastValidBlockHeight := some height
    attempts := r.attempts + 1
    broadcastAcceptedAt := none }

/-- `resign_refund`: predicated on the superseded signature. -/
def resignRefund (fault : Fault) (id : ChannelId) (oldTxSignature : String)
    (newSignedTx : List UInt8) (newTxSignature : String) (newLastValidBlockHeight : ℕ) :
    Db ChannelRefundError Bool := do
  let height ← ofExcept .repo (atomicToI64 newLastValidBlockHeight)
  connected .repo fault 0
  let rows ← updateRefunds .repo id
    (fun r => decide (r.status = .inFlight) && decide (r.txSignature = some oldTxSignature))
    (·.resigned newSignedTx newTxSignature height)
  pure (decide (rows = 1))

/-- `HoldGuard`. -/
inductive HoldGuard
  | fromReserved
  | fromInFlight (expectedSignature : Option String)
  | fromInFlightNeverAccepted (expectedSignature : String)
deriving DecidableEq

/-- The `WHERE` clause of each guard. -/
def HoldGuard.admits : HoldGuard → RefundDbRow → Bool
  | .fromReserved, r => decide (r.status = .reserved)
  | .fromInFlight sig, r => decide (r.status = .inFlight) && decide (r.txSignature = sig)
  | .fromInFlightNeverAccepted sig, r =>
    decide (r.status = .inFlight) && decide (r.txSignature = some sig) &&
      decide (r.broadcastAcceptedAt = none)

/-- `hold_refund`. -/
def holdRefund (fault : Fault) (id : ChannelId) (guard : HoldGuard) :
    Db ChannelRefundError Bool := do
  connected .repo fault 0
  let rows ← updateRefunds .repo id guard.admits ({ · with status := .held })
  pure (decide (rows = 1))

/-- `mark_broadcast_accepted`. -/
def markBroadcastAccepted (fault : Fault) (now : ℕ) (id : ChannelId) (txSignature : String) :
    Db ChannelRefundError Unit := do
  connected .repo fault 0
  let _ ← updateRefunds .repo id
    (fun r => decide (r.status = .inFlight) && decide (r.txSignature = some txSignature) &&
      decide (r.broadcastAcceptedAt = none))
    ({ · with broadcastAcceptedAt := some now })
  pure ()

end Solvela.ChannelLedger
