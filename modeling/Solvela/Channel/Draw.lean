import Solvela.Channel.Pricing
import Solvela.Channel.Voucher
import Solvela.Ledger.Invariant

/-!
# Draws as a concurrent system

Any number of draws, from any surface, against one ledger and one Redis lock table. A draw
goes through the same stages on every surface: take the channel's lock, load the channel,
verify the voucher against the snapshot, serve, check that the lock is still its own, persist.
Every stage is a step of its own, so the stages of different draws interleave freely.

* A lock can vanish at any moment (its TTL, or a Redis restart), and a draw can be dropped at
  any moment (a disconnect, a timeout, a failed provider).
* The ownership check aborts on a lock that is confirmed lost and goes on when Redis does not
  answer.
* Closes, refunds and new channels run beside the draws.

`commits` is a history variable: the draws whose persist succeeded, in order.
-/

namespace Solvela.Channel

open Solvela.Lib
open Solvela.Lib.Txn
open Solvela.ChannelLedger

/-- What a draw request brings: its voucher, the digest of the served request, the quote and
the slot its expiry is measured against. -/
structure DrawRequest where
  payload : ChannelVoucherPayload
  requestDigest : Vector UInt8 32
  billedAtomic : ℕ
  currentSlot : ℕ

/-- How far a draw has come. -/
inductive Stage
  | locked
  | loaded (state : ChannelState)
  | verified (state : ChannelState)
  | served (state : ChannelState) (advance : ℕ)
  | cleared (state : ChannelState) (advance : ℕ)
  | done

/-- A draw in progress. -/
structure Draw where
  request : DrawRequest
  voucher : Voucher
  stage : Stage

/-- The base58 channel id of the voucher: the lock key and the ledger key. -/
def Draw.channelId (d : Draw) : ChannelId := d.request.payload.channelId

/-- The record a draw persists. -/
def Draw.record (d : Draw) (advance : ℕ) : VoucherRecord :=
  { channelId := d.channelId, cumulativeAtomic := d.voucher.cumulativeAtomic
    callCostAtomic := d.request.billedAtomic, realizedAdvanceAtomic := advance
    expirySlot := d.voucher.expirySlot, nonce := d.voucher.nonce
    requestDigest := d.voucher.requestDigest, signature := d.voucher.signature }

/-- A persisted draw: its record, the cumulative it was verified against and the cumulative it
found when it committed. -/
structure Commit where
  record : VoucherRecord
  verifiedLast : ℕ
  ledgerLast : ℤ

/-- The commit of a draw that was verified against `state` and found `ledgerLast`. -/
def Draw.commit (d : Draw) (state : ChannelState) (advance : ℕ) (ledgerLast : ℤ) : Commit :=
  { record := d.record advance, verifiedLast := state.lastCumulativeAtomic
    ledgerLast := ledgerLast }

/-- The ledger, the lock table and the draws. -/
structure DrawSystem where
  ledger : Ledger
  locks : Table ChannelId ℕ
  draws : Table ℕ Draw
  commits : List Commit

/-- The empty ledger with nothing going on. -/
def DrawSystem.init : DrawSystem := ⟨Ledger.empty, ∅, ∅, []⟩

/-- Move a draw to a stage. -/
def DrawSystem.setStage (s : DrawSystem) (i : ℕ) (d : Draw) (stage : Stage) : DrawSystem :=
  { s with draws := s.draws.insert i { d with stage := stage } }

/-- The ledger operations that run beside draws and closes. `set_status` is not among them: no
route calls it. -/
def runsBeside : LedgerOp → Bool
  | .persistVoucherAndAdvance _ => false
  | .setStatus _ _ => false
  | .closeChannelAndReserveRefund _ => false
  | _ => true

/-- One step of somebody. -/
inductive DrawLabel
  | begin (i : ℕ) (request : DrawRequest)
  | load (i : ℕ)
  | verify (i : ℕ)
  | serve (i : ℕ) (served : Served)
  | recheck (i : ℕ) (redisAnswers : Bool)
  | persist (i : ℕ) (fault : Fault)
  | release (i : ℕ)
  | drop (i : ℕ)
  | lockExpires (id : ChannelId)
  | close (id : ChannelId) (fault : Fault)
  | beside (fault : Fault) (op : LedgerOp)

section
variable (verifySignature : Pubkey → List UInt8 → Vector UInt8 64 → Bool) (feePercent : ℕ)

/-- The step of draw `i` in its current stage. -/
def DrawSystem.onDraw (s : DrawSystem) (i : ℕ) (f : Draw → DrawSystem) : DrawSystem :=
  match s.draws.lookup i with
  | none => s
  | some d => f d

/-- `acquire_channel_draw_lock` (`SET NX`), once the wire voucher decoded. -/
def begin_ (s : DrawSystem) (i : ℕ) (request : DrawRequest) : DrawSystem :=
  match s.draws.lookup i, voucherFromPayload request.payload,
      s.locks.lookup request.payload.channelId with
  | none, .ok voucher, none =>
    { s with
      locks := s.locks.insert request.payload.channelId i
      draws := s.draws.insert i ⟨request, voucher, .locked⟩ }
  | _, _, _ => s

/-- `load_open_channel_state`. -/
def load (s : DrawSystem) (i : ℕ) (d : Draw) : DrawSystem :=
  match d.stage with
  | .locked =>
    match loadOpenChannelState s.ledger d.channelId d.request.requestDigest with
    | .ok (some ch) => s.setStage i d (.loaded ch.state)
    | _ => s.setStage i d .done
  | _ => s

/-- `verify_voucher` against the loaded snapshot. -/
def verify (s : DrawSystem) (i : ℕ) (d : Draw) : DrawSystem :=
  match d.stage with
  | .loaded state =>
    match verifyVoucher verifySignature state d.voucher d.request.billedAtomic
        d.request.currentSlot with
    | .ok () => s.setStage i d (.verified state)
    | .error _ => s.setStage i d .done
  | _ => s

/-- The provider delivered: the realized advance is known. -/
def serve (s : DrawSystem) (i : ℕ) (d : Draw) (served : Served) : DrawSystem :=
  match d.stage with
  | .verified state =>
    s.setStage i d
      (.served state (realizedAdvance feePercent d.request.billedAtomic served))
  | _ => s

/-- `channel_draw_lock_held` before the persist: a lost lock aborts, silence goes on. -/
def recheck (s : DrawSystem) (i : ℕ) (d : Draw) (redisAnswers : Bool) : DrawSystem :=
  match d.stage with
  | .served state advance =>
    if redisAnswers && s.locks.lookup d.channelId != some i then s.setStage i d .done
    else s.setStage i d (.cleared state advance)
  | _ => s

/-- `persist_voucher_and_advance`. Whatever it returns, the draw is over. -/
def persist (s : DrawSystem) (i : ℕ) (d : Draw) (fault : Fault) : DrawSystem :=
  match d.stage with
  | .cleared state advance =>
    match persistVoucherAndAdvance fault (d.record advance) s.ledger with
    | .ok _ ledger =>
      { s.setStage i d .done with
        ledger := ledger
        commits := s.commits ++
          [d.commit state advance ((lastOf s.ledger d.channelId).getD 0)] }
    | .error _ ledger => { s.setStage i d .done with ledger := ledger }
  | _ => s

/-- `release_channel_draw_lock`: compare and delete. -/
def release (s : DrawSystem) (i : ℕ) (d : Draw) : DrawSystem :=
  if s.locks.lookup d.channelId = some i then { s with locks := s.locks.erase d.channelId }
  else s

/-- The system's step function. -/
def drawStep (s : DrawSystem) : DrawLabel → DrawSystem
  | .begin i request => begin_ s i request
  | .load i => s.onDraw i (load s i)
  | .verify i => s.onDraw i (verify verifySignature s i)
  | .serve i served => s.onDraw i (serve feePercent s i · served)
  | .recheck i redisAnswers => s.onDraw i (recheck s i · redisAnswers)
  | .persist i fault => s.onDraw i (persist s i · fault)
  | .release i => s.onDraw i (release s i)
  | .drop i => s.onDraw i (s.setStage i · .done)
  | .lockExpires id => { s with locks := s.locks.erase id }
  | .close id fault =>
    { s with ledger := ledgerStep s.ledger (fault, .closeChannelAndReserveRefund id) }
  | .beside fault op =>
    if runsBeside op then { s with ledger := ledgerStep s.ledger (fault, op) } else s

end

end Solvela.Channel
