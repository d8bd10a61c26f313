import Solvela.Refund.Worker

/-!
# The claim transaction, statement by statement

`claim_refund_for_broadcast` is one transaction of several statements: `BEGIN`, the advisory
lock, the daily-cap sum, the update and `COMMIT`. Here any number of them interleave with each
other and with every other operation on the ledger, on what the database gives at
READ COMMITTED:

* `NOW()` is the clock at `BEGIN`, however long the transaction then waits;
* a statement sees what was committed when it starts;
* a row that was updated is locked until its transaction ends, and its update is not visible
  before;
* the advisory lock has one holder at a time and is released at the end of the transaction.

A transaction can be lost at any point, which rolls it back.
-/

namespace Solvela.RefundWorker

open Solvela.Lib
open Solvela.Lib.Txn
open Solvela.ChannelLedger

/-- Where a claim stands: the snapshot its worker fetched, and then the last statement that
went through. -/
inductive ClaimStage
  | fetched (row : RefundRow)
  | started (now : ℕ) (claim : RefundClaim)
  | locked (now : ℕ) (claim : RefundClaim)
  | admitted (now : ℕ) (claim : RefundClaim)
  | updated (now : ℕ) (claim : RefundClaim) (image : Refund)

/-- The committed ledger, the clock, the holder of the advisory lock and the claims. -/
structure ClaimSystem where
  ledger : Ledger
  clock : ℕ
  lock : Option ℕ
  txns : Table ℕ ClaimStage

def ClaimSystem.init : ClaimSystem := ⟨Ledger.empty, 0, none, ∅⟩

/-- One step of somebody. -/
inductive ClaimLabel
  | fetch (w : ℕ) (id : ChannelId)
  | «begin» (w : ℕ) (tx : SignedUsdcTransfer) (height : ℕ)
  | lock (w : ℕ)
  | sum (w : ℕ)
  | update (w : ℕ)
  | commit (w : ℕ)
  | abort (w : ℕ)
  | tick (d : ℕ)
  | operate (fault : Fault) (op : LedgerOp)

namespace ClaimSystem

def goOn (s : ClaimSystem) (w : ℕ) (st : ClaimStage) : ClaimSystem :=
  { s with txns := s.txns.insert w st }

/-- The transaction ends, and with it its lock. -/
def endTxn (s : ClaimSystem) (w : ℕ) : ClaimSystem :=
  { s with txns := s.txns.erase w, lock := if s.lock = some w then none else s.lock }

/-- The refund row is locked by an update that is not committed yet. -/
def rowLocked (s : ClaimSystem) (id : ChannelId) : Bool :=
  s.txns.entries.any fun e =>
    match e.2 with
    | .updated _ claim _ => claim.channelId == id
    | _ => false

end ClaimSystem

/-- The refund row an operation updates. -/
def updatesRefund : LedgerOp → Option ChannelId
  | .confirmRefundAndCloseChannel id _ => some id
  | .resignRefund id _ _ _ _ => some id
  | .holdRefund id _ => some id
  | .markBroadcastAccepted _ id _ => some id
  | _ => none

/-- Every operation but a claim; a refund is confirmed from one of the two statuses the worker
confirms from. -/
def besideClaims : LedgerOp → Bool
  | .claimRefundForBroadcast _ _ => false
  | .confirmRefundAndCloseChannel _ source => source == .reserved || source == .inFlight
  | _ => true

/-! ## The statements -/

/-- The worker's scan of the reserved rows. -/
def fetchReserved (s : ClaimSystem) (w : ℕ) (id : ChannelId) : ClaimSystem :=
  match s.txns.lookup w, s.ledger.refunds.lookup id with
  | none, some rf =>
    match fetchRow id rf.1, rf.1.status with
    | .ok row, .reserved => s.goOn w (.fetched row)
    | _, _ => s
  | _, _ => s

/-- `BEGIN`, for the row that was fetched. -/
def beginStep (config : WorkerConfig) (s : ClaimSystem) (w : ℕ) (tx : SignedUsdcTransfer)
    (height : ℕ) : ClaimStage → ClaimSystem
  | .fetched row => s.goOn w (.started s.clock (claimOf config row tx height))
  | _ => s

/-- `pg_advisory_xact_lock`: waits while somebody else holds it. -/
def lockStep (s : ClaimSystem) (w : ℕ) : ClaimStage → ClaimSystem
  | .started now claim =>
    if s.lock = none then { s.goOn w (.locked now claim) with lock := some w } else s
  | _ => s

/-- The daily-cap sum; a refused claim is rolled back. -/
def sumStep (s : ClaimSystem) (w : ℕ) : ClaimStage → ClaimSystem
  | .locked now claim =>
    match capExceeded now s.ledger claim with
    | .ok false => s.goOn w (.admitted now claim)
    | .ok true => s.endTxn w
    | .error _ => s.endTxn w
  | _ => s

/-- `UPDATE … WHERE status = 'reserved'`; a claim that matches no row is rolled back. -/
def updateStep (s : ClaimSystem) (w : ℕ) : ClaimStage → ClaimSystem
  | .admitted now claim =>
    match atomicToI64 claim.lastValidBlockHeight, s.ledger.refunds.lookup claim.channelId with
    | .ok height, some rf =>
      if rf.1.status = .reserved then
        if h : (rf.1.claimed now claim height).Check then
          s.goOn w (.updated now claim ⟨rf.1.claimed now claim height, h⟩)
        else s.endTxn w
      else s.endTxn w
    | _, _ => s.endTxn w
  | _ => s

/-- `COMMIT` makes the update visible. -/
def commitStep (s : ClaimSystem) (w : ℕ) : ClaimStage → ClaimSystem
  | .updated _ claim image =>
    { s.endTxn w with
      ledger := { s.ledger with refunds := s.ledger.refunds.insert claim.channelId image } }
  | _ => s

/-- Any other operation, one transaction each; it waits for a locked row. -/
def operate (s : ClaimSystem) (fault : Fault) (op : LedgerOp) : ClaimSystem :=
  if besideClaims op && !(updatesRefund op).any s.rowLocked then
    { s with ledger := ledgerStep s.ledger (fault, op) }
  else s

/-- The step of the claim `w`, if there is one. -/
def ClaimSystem.onTxn (s : ClaimSystem) (w : ℕ) (f : ClaimStage → ClaimSystem) : ClaimSystem :=
  match s.txns.lookup w with
  | none => s
  | some st => f st

/-- The system's step function. -/
def claimTxnStep (config : WorkerConfig) (s : ClaimSystem) : ClaimLabel → ClaimSystem
  | .fetch w id => fetchReserved s w id
  | .begin w tx height => s.onTxn w (beginStep config s w tx height)
  | .lock w => s.onTxn w (lockStep s w)
  | .sum w => s.onTxn w (sumStep s w)
  | .update w => s.onTxn w (updateStep s w)
  | .commit w => s.onTxn w (commitStep s w)
  | .abort w => s.endTxn w
  | .tick d => { s with clock := s.clock + d }
  | .operate fault op => operate s fault op

end Solvela.RefundWorker
