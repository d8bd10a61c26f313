import Solvela.Ledger.Books

/-!
# The refund worker

Any number of worker instances against one ledger and one cluster. A handler
(`handle_reserved`, `handle_in_flight`) works on the snapshot of a row it once fetched; every
RPC call and every database statement of a handler is a step of its own, so handlers of any
number of instances interleave freely, and a crash at any point forgets a handler.

The cluster keeps what the claims rest on: a signature commits to its message, so the channel
in the memo, the last valid block height and the wire bytes are functions of the signature; a
transaction lands at most once, only after it was handed to `sendTransaction` and only up to
its last valid block height; and reads answer truthfully at the moment they are made.

`sent` and `landed` are the cluster's history.
-/

namespace Solvela.RefundWorker

open Solvela.Lib
open Solvela.Lib.Txn
open Solvela.ChannelLedger

/-! ## Snapshots and transactions -/

/-- `RefundRow`: the snapshot a handler works on. -/
structure RefundRow where
  channelId : ChannelId
  amountAtomic : ℕ
  destinationWallet : String
  mint : String
  txSignature : Option String
  signedTx : Option (List UInt8)
  lastValidBlockHeight : Option ℕ
  attempts : ℕ
  broadcastAccepted : Bool

/-- One row of `fetch_refunds`; a negative amount or height is skipped as corrupt. -/
def fetchRow (id : ChannelId) (r : RefundDbRow) : Except ChannelRepoError RefundRow := do
  let amount ← i64ToAtomic r.amountAtomic
  let height ← r.lastValidBlockHeight.mapM i64ToAtomic
  .ok
    { channelId := id, amountAtomic := amount, destinationWallet := r.destinationWallet
      mint := r.mint, txSignature := r.txSignature, signedTx := r.signedTx
      lastValidBlockHeight := height, attempts := r.attempts
      broadcastAccepted := r.broadcastAcceptedAt.isSome }

/-- `SignedUsdcTransfer`. -/
structure SignedUsdcTransfer where
  signatureB58 : String
  wireBytes : List UInt8
deriving DecidableEq

/-- `ExpectedUsdcTransfer`. -/
structure ExpectedUsdcTransfer where
  signatureB58 : String
  sourceOwner : Pubkey
  destinationWallet : Pubkey
  mint : Pubkey
  amount : ℕ
  memo : String

/-- What the cluster reads off a signature, and `verify_signed_usdc_transfer`. -/
structure Cluster where
  channelOf : String → ChannelId
  lastValidOf : String → ℕ
  bytesOf : String → List UInt8
  verifySignedUsdcTransfer : List UInt8 → ExpectedUsdcTransfer → Bool

/-- The transaction with a signature. -/
def Cluster.signed (cluster : Cluster) (sig : String) : SignedUsdcTransfer :=
  ⟨sig, cluster.bytesOf sig⟩

/-- `MAX_CLAIM_ATTEMPTS`. -/
def maxClaimAttempts : ℕ := 10

/-- The worker's configuration. -/
structure WorkerConfig where
  recipientWallet : String
  dailyCapAtomic : Option ℕ

/-! ## Handlers -/

/-- Where a handler stands. -/
inductive Handler
  | reserved (row : RefundRow)
  | funded (row : RefundRow)
  | claiming (row : RefundRow) (tx : SignedUsdcTransfer) (height : ℕ)
  | sending (id : ChannelId) (tx : SignedUsdcTransfer)
  | marking (id : ChannelId) (sig : String)
  | inFlight (row : RefundRow)
  | landed (row : RefundRow) (sig : String) (signedTx : List UInt8)
  | unlanded (row : RefundRow) (sig : String) (signedTx : List UInt8) (height : ℕ)
  | expired (row : RefundRow) (sig : String)
  | resigning (row : RefundRow) (sig : String) (tx : SignedUsdcTransfer) (height : ℕ)
  | confirming (id : ChannelId) (source : RefundStatus)
  | holding (id : ChannelId) (guard : HoldGuard)

/-- How `sendTransaction` can answer. -/
inductive SendAnswer
  | accepted
  | alreadyProcessed
  | rejected
  | transient
deriving DecidableEq

/-- The ledger, the cluster and the handlers. -/
structure WorkerSystem where
  ledger : Ledger
  height : ℕ
  sent : List (ChannelId × SignedUsdcTransfer)
  landed : List (String × Bool)
  handlers : Table ℕ Handler

/-- Before anything happened. -/
def WorkerSystem.init : WorkerSystem := ⟨Ledger.empty, 0, [], [], ∅⟩

/-- One step of somebody. The answers of the environment are part of the label. -/
inductive WorkerLabel
  | fetch (w : ℕ) (id : ChannelId)
  | balance (w : ℕ) (answer : Option ℕ)
  | sign (w : ℕ) (ready : Bool) (sig : Option String)
  | claim (w : ℕ) (now : ℕ) (fault : Fault)
  | send (w : ℕ) (answer : SendAnswer)
  | mark (w : ℕ) (now : ℕ) (fault : Fault)
  | status (w : ℕ) (answers quorum : Bool)
  | verifyLanded (w : ℕ)
  | blockHeight (w : ℕ) (answers : Bool)
  | resign (w : ℕ) (fault : Fault)
  | confirm (w : ℕ) (fault : Fault)
  | hold (w : ℕ) (fault : Fault)
  | crash (w : ℕ)
  | blocks (n : ℕ)
  | land (sig : String) (succeeds : Bool)
  | request (fault : Fault) (op : LedgerOp)

namespace WorkerSystem

/-- The handler goes on. -/
def goOn (s : WorkerSystem) (w : ℕ) (h : Handler) : WorkerSystem :=
  { s with handlers := s.handlers.insert w h }

/-- The handler returns, or is forgotten. -/
def finish (s : WorkerSystem) (w : ℕ) : WorkerSystem := { s with handlers := s.handlers.erase w }

/-- Either of the two. -/
def proceed (s : WorkerSystem) (w : ℕ) : Option Handler → WorkerSystem
  | none => s.finish w
  | some h => s.goOn w h

/-- The transaction with this signature is on chain. -/
def hasLanded (s : WorkerSystem) (sig : String) : Bool := s.landed.any fun e => e.1 == sig

/-- The transaction with this signature was handed to `sendTransaction`. -/
def wasSent (s : WorkerSystem) (sig : String) : Bool :=
  s.sent.any fun e => e.2.signatureB58 == sig

end WorkerSystem

/-- The operations of the request side: opens, draws, settlements and closes. No route forces a
status. -/
def isRequest : LedgerOp → Bool
  | .createChannel _ => true
  | .persistVoucherAndAdvance _ => true
  | .updateSettled _ _ => true
  | .closeChannelAndReserveRefund _ => true
  | _ => false

section
variable (cluster : Cluster) (config : WorkerConfig)

/-- `fetch_refunds`, and the dispatch of the sweep. -/
def fetch (s : WorkerSystem) (w : ℕ) (id : ChannelId) : WorkerSystem :=
  match s.handlers.lookup w, s.ledger.refunds.lookup id with
  | none, some rf =>
    match fetchRow id rf.1, rf.1.status with
    | .ok row, .reserved => s.goOn w (.reserved row)
    | .ok row, .inFlight => s.goOn w (.inFlight row)
    | _, _ => s
  | _, _ => s

/-- The head of `handle_reserved`: a zero amount is confirmed without a transaction, anything
else needs the balance. -/
def balanceStep (s : WorkerSystem) (w : ℕ) (answer : Option ℕ) : Handler → WorkerSystem
  | .reserved row =>
    if row.amountAtomic = 0 then s.goOn w (.confirming row.channelId .reserved)
    else
      match answer with
      | none => s.finish w
      | some balance =>
        if balance < row.amountAtomic then s.finish w else s.goOn w (.funded row)
  | _ => s

/-- The frozen tuple cannot be sent: no retry can fix a destination or mint that does not
decode. -/
def corruptTuple (destinationWallet mint : String) : Bool :=
  (decodeBs58Pubkey destinationWallet).isNone || (decodeBs58Pubkey mint).isNone

/-- `sign_fresh`. Without a signer nothing is looked at; a corrupt tuple is held under the
caller's guard; a signature is one over this row's memo. -/
def signFresh (s : WorkerSystem) (w : ℕ) (ready : Bool) (sig : Option String) (row : RefundRow)
    (guard : HoldGuard) (next : String → Handler) : WorkerSystem :=
  if ready then
    if corruptTuple row.destinationWallet row.mint then
      s.goOn w (.holding row.channelId guard)
    else
      match sig with
      | none => s.finish w
      | some sig =>
        if cluster.channelOf sig = row.channelId then s.goOn w (next sig) else s
  else s.finish w

/-- The two places that sign. -/
def signStep (s : WorkerSystem) (w : ℕ) (ready : Bool) (sig : Option String) :
    Handler → WorkerSystem
  | .funded row =>
    signFresh cluster s w ready sig row .fromReserved fun sig =>
      .claiming row (cluster.signed sig) (cluster.lastValidOf sig)
  | .expired row old =>
    signFresh cluster s w ready sig row (.fromInFlight (some old)) fun sig =>
      .resigning row old (cluster.signed sig) (cluster.lastValidOf sig)
  | _ => s

/-- The claim a handler makes. -/
def claimOf (row : RefundRow) (tx : SignedUsdcTransfer) (height : ℕ) : RefundClaim :=
  { channelId := row.channelId, signedTx := tx.wireBytes, txSignature := tx.signatureB58
    lastValidBlockHeight := height, amountAtomic := row.amountAtomic
    dailyCapAtomic := config.dailyCapAtomic }

/-- `claim_refund_for_broadcast`; only a winner goes on to broadcast. -/
def claimStep (s : WorkerSystem) (w now : ℕ) (fault : Fault) : Handler → WorkerSystem
  | .claiming row tx height =>
    match claimRefundForBroadcast fault now (claimOf config row tx height) s.ledger with
    | .ok .won ledger => { s.goOn w (.sending row.channelId tx) with ledger := ledger }
    | .ok _ ledger => { s.finish w with ledger := ledger }
    | .error _ ledger => { s.finish w with ledger := ledger }
  | _ => s

/-- What `broadcast` does after the answer: an accepted send is marked, a deterministic
rejection holds the row it was sent for, anything else waits for the next sweep. -/
def afterSend (id : ChannelId) (tx : SignedUsdcTransfer) : SendAnswer → Option Handler
  | .accepted => some (.marking id tx.signatureB58)
  | .alreadyProcessed => some (.marking id tx.signatureB58)
  | .rejected => some (.holding id (.fromInFlight (some tx.signatureB58)))
  | .transient => none

/-- `broadcast`. -/
def sendStep (s : WorkerSystem) (w : ℕ) (answer : SendAnswer) : Handler → WorkerSystem
  | .sending id tx =>
    { s with sent := s.sent ++ [(id, tx)] }.proceed w (afterSend id tx answer)
  | _ => s

/-- `mark_accepted`, best effort. -/
def markStep (s : WorkerSystem) (w now : ℕ) (fault : Fault) : Handler → WorkerSystem
  | .marking id sig =>
    { s.finish w with
      ledger := ledgerStep s.ledger (fault, .markBroadcastAccepted now id sig) }
  | _ => s

/-- The head of `handle_in_flight`: a row without its payload is held, any other is looked up
in the full history. -/
def statusStep (s : WorkerSystem) (w : ℕ) (answers quorum : Bool) : Handler → WorkerSystem
  | .inFlight row =>
    match row.txSignature, row.signedTx, row.lastValidBlockHeight with
    | some sig, some signedTx, some height =>
      if answers then
        match s.landed.find? fun e => e.1 == sig with
        | some (_, false) => s.goOn w (.holding row.channelId (.fromInFlight (some sig)))
        | some (_, true) =>
          if quorum then s.goOn w (.landed row sig signedTx) else s.finish w
        | none => s.goOn w (.unlanded row sig signedTx height)
      else s.finish w
    | sig, _, _ => s.goOn w (.holding row.channelId (.fromInFlight sig))
  | _ => s

/-- `verify_landed_refund`: the persisted bytes must be this obligation's transfer. -/
def verifyLandedRefund (s : WorkerSystem) (w : ℕ) : Handler → WorkerSystem
  | .landed row sig signedTx =>
    let guard : HoldGuard := .fromInFlight (some sig)
    match decodeBs58Pubkey row.destinationWallet, decodeBs58Pubkey row.mint with
    | some destination, some mint =>
      match decodeBs58Pubkey config.recipientWallet with
      | none => s.finish w
      | some owner =>
        if cluster.verifySignedUsdcTransfer signedTx
            { signatureB58 := sig, sourceOwner := owner, destinationWallet := destination
              mint := mint, amount := row.amountAtomic, memo := refundMemo row.channelId } then
          s.goOn w (.confirming row.channelId .inFlight)
        else s.goOn w (.holding row.channelId guard)
    | _, _ => s.goOn w (.holding row.channelId guard)
  | _ => s

/-- The death check: alive is rebroadcast, dead is held or signed again. -/
def blockHeightStep (s : WorkerSystem) (w : ℕ) (answers : Bool) : Handler → WorkerSystem
  | .unlanded row sig signedTx height =>
    if answers then
      if s.height ≤ height then s.goOn w (.sending row.channelId ⟨sig, signedTx⟩)
      else if row.broadcastAccepted = false then
        s.goOn w (.holding row.channelId (.fromInFlightNeverAccepted sig))
      else if maxClaimAttempts ≤ row.attempts then
        s.goOn w (.holding row.channelId (.fromInFlight (some sig)))
      else s.goOn w (.expired row sig)
    else s.finish w
  | _ => s

/-- `resign_refund`; only a winner goes on to broadcast. -/
def resignStep (s : WorkerSystem) (w : ℕ) (fault : Fault) : Handler → WorkerSystem
  | .resigning row sig tx height =>
    match resignRefund fault row.channelId sig tx.wireBytes tx.signatureB58 height s.ledger with
    | .ok true ledger => { s.goOn w (.sending row.channelId tx) with ledger := ledger }
    | .ok false ledger => { s.finish w with ledger := ledger }
    | .error _ ledger => { s.finish w with ledger := ledger }
  | _ => s

/-- `confirm_refund_and_close_channel`. -/
def confirmStep (s : WorkerSystem) (w : ℕ) (fault : Fault) : Handler → WorkerSystem
  | .confirming id source =>
    { s.finish w with
      ledger := ledgerStep s.ledger (fault, .confirmRefundAndCloseChannel id source) }
  | _ => s

/-- `hold_with_alert`. -/
def holdStep (s : WorkerSystem) (w : ℕ) (fault : Fault) : Handler → WorkerSystem
  | .holding id guard =>
    { s.finish w with ledger := ledgerStep s.ledger (fault, .holdRefund id guard) }
  | _ => s

/-- A transaction lands: sent, not landed before, not expired. -/
def landStep (s : WorkerSystem) (sig : String) (succeeds : Bool) : WorkerSystem :=
  if s.wasSent sig && !s.hasLanded sig && decide (s.height ≤ cluster.lastValidOf sig) then
    { s with landed := s.landed ++ [(sig, succeeds)] }
  else s

/-- The step of the handler `w`, if there is one. -/
def WorkerSystem.onHandler (s : WorkerSystem) (w : ℕ) (f : Handler → WorkerSystem) :
    WorkerSystem :=
  match s.handlers.lookup w with
  | none => s
  | some h => f h

/-- The system's step function. -/
def workerStep (s : WorkerSystem) : WorkerLabel → WorkerSystem
  | .fetch w id => fetch s w id
  | .balance w answer => s.onHandler w (balanceStep s w answer)
  | .sign w ready sig => s.onHandler w (signStep cluster s w ready sig)
  | .claim w now fault => s.onHandler w (claimStep config s w now fault)
  | .send w answer => s.onHandler w (sendStep s w answer)
  | .mark w now fault => s.onHandler w (markStep s w now fault)
  | .status w answers quorum => s.onHandler w (statusStep s w answers quorum)
  | .verifyLanded w => s.onHandler w (verifyLandedRefund cluster config s w)
  | .blockHeight w answers => s.onHandler w (blockHeightStep s w answers)
  | .resign w fault => s.onHandler w (resignStep s w fault)
  | .confirm w fault => s.onHandler w (confirmStep s w fault)
  | .hold w fault => s.onHandler w (holdStep s w fault)
  | .crash w => s.finish w
  | .blocks n => { s with height := s.height + n }
  | .land sig succeeds => landStep cluster s sig succeeds
  | .request fault op =>
    if isRequest op then { s with ledger := ledgerStep s.ledger (fault, op) } else s

end

end Solvela.RefundWorker
