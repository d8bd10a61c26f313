import Solvela.Lib.Runs
import Solvela.Ledger.Entries
import Solvela.Refund.Worker

/-!
# What a step of the worker system can do

`HandlerStep` lists what a handler does between its writes, `WorkerEffect` the effects of a
label on the whole system, each with what the code had checked. `worker_effect` is the only
place that opens the step function: every invariant of the worker goes by cases on it.

* one effect for each step, from `fetch_effect` to `blockHeight_effect`, and `worker_effect`;
* `claim_won`, `resign_won` and `payload_kept`, who writes the payload of a row.
-/

namespace Solvela.RefundWorker

open Solvela.Lib
open Solvela.Lib.Txn
open Solvela.ChannelLedger

section
variable (cluster : Cluster) (config : WorkerConfig)

/-- A handler reads and goes on. -/
inductive HandlerStep (s : WorkerSystem) (a : WorkerLabel) (w : ℕ) : Handler → Handler → Prop
  | nothingOwed (row : RefundRow) (zero : row.amountAtomic = 0) :
      HandlerStep s a w (.reserved row) (.confirming row.channelId .reserved)
  | funded (row : RefundRow) : HandlerStep s a w (.reserved row) (.funded row)
  | corruptReserved (row : RefundRow)
      (corrupt : corruptTuple row.destinationWallet row.mint = true) :
      HandlerStep s a w (.funded row) (.holding row.channelId .fromReserved)
  | signed (row : RefundRow) (sig : String) (memo : cluster.channelOf sig = row.channelId) :
      HandlerStep s a w (.funded row)
        (.claiming row (cluster.signed sig) (cluster.lastValidOf sig))
  | conclusive (row : RefundRow) :
      HandlerStep s a w (.inFlight row) (.holding row.channelId (.fromInFlight row.txSignature))
  | seen (row : RefundRow) (sig : String) (signedTx : List UInt8)
      (signature : row.txSignature = some sig) :
      HandlerStep s a w (.inFlight row) (.landed row sig signedTx)
  | unseen (row : RefundRow) (sig : String) (signedTx : List UInt8) (height : ℕ)
      (signature : row.txSignature = some sig) (bytes : row.signedTx = some signedTx)
      (lastValid : row.lastValidBlockHeight = some height) :
      HandlerStep s a w (.inFlight row) (.unlanded row sig signedTx height)
  | verified (row : RefundRow) (sig : String) (signedTx : List UInt8) :
      HandlerStep s a w (.landed row sig signedTx) (.confirming row.channelId .inFlight)
  | mismatch (row : RefundRow) (sig : String) (signedTx : List UInt8) :
      HandlerStep s a w (.landed row sig signedTx)
        (.holding row.channelId (.fromInFlight (some sig)))
  | alive (row : RefundRow) (sig : String) (signedTx : List UInt8) (height : ℕ) :
      HandlerStep s a w (.unlanded row sig signedTx height)
        (.sending row.channelId ⟨sig, signedTx⟩)
  | neverAccepted (row : RefundRow) (sig : String) (signedTx : List UInt8) (height : ℕ) :
      HandlerStep s a w (.unlanded row sig signedTx height)
        (.holding row.channelId (.fromInFlightNeverAccepted sig))
  | exhausted (row : RefundRow) (sig : String) (signedTx : List UInt8) (height : ℕ) :
      HandlerStep s a w (.unlanded row sig signedTx height)
        (.holding row.channelId (.fromInFlight (some sig)))
  | dead (row : RefundRow) (sig : String) (signedTx : List UInt8) (height : ℕ)
      (label : a = .blockHeight w true) (past : height < s.height)
      (accepted : row.broadcastAccepted = true) (attempts : row.attempts < maxClaimAttempts) :
      HandlerStep s a w (.unlanded row sig signedTx height) (.expired row sig)
  | corruptExpired (row : RefundRow) (sig : String) :
      HandlerStep s a w (.expired row sig) (.holding row.channelId (.fromInFlight (some sig)))
  | resigned (row : RefundRow) (old sig : String)
      (memo : cluster.channelOf sig = row.channelId) :
      HandlerStep s a w (.expired row old)
        (.resigning row old (cluster.signed sig) (cluster.lastValidOf sig))

/-- The handlers that end in one write, and the operation each of them writes. -/
inductive FinalWrite : Handler → LedgerOp → Prop
  | mark (now : ℕ) (id : ChannelId) (sig : String) :
      FinalWrite (.marking id sig) (.markBroadcastAccepted now id sig)
  | confirm (id : ChannelId) (source : RefundStatus) :
      FinalWrite (.confirming id source) (.confirmRefundAndCloseChannel id source)
  | hold (id : ChannelId) (guard : HoldGuard) :
      FinalWrite (.holding id guard) (.holdRefund id guard)

/-- What a label does to the system. -/
inductive WorkerEffect (s : WorkerSystem) (a : WorkerLabel) : WorkerSystem → Prop
  | idle : WorkerEffect s a s
  | finished (w : ℕ) : WorkerEffect s a (s.finish w)
  | fetched (w : ℕ) (id : ChannelId) (r : RefundDbRow) (row : RefundRow) (h : Handler)
      (found : refundRow s.ledger id = some r) (read : fetchRow id r = .ok row)
      (next : (r.status = .reserved ∧ h = .reserved row) ∨
        (r.status = .inFlight ∧ h = .inFlight row)) :
      WorkerEffect s a (s.goOn w h)
  | moved (w : ℕ) (h h' : Handler) (found : s.handlers.lookup w = some h)
      (step : HandlerStep cluster s a w h h') : WorkerEffect s a (s.goOn w h')
  | claimed (w now : ℕ) (fault : Fault) (row : RefundRow) (tx : SignedUsdcTransfer)
      (height : ℕ) (ledger : Ledger) (label : a = .claim w now fault)
      (found : s.handlers.lookup w = some (.claiming row tx height))
      (won : claimRefundForBroadcast fault now (claimOf config row tx height) s.ledger =
        .ok .won ledger) :
      WorkerEffect s a { s.goOn w (.sending row.channelId tx) with ledger := ledger }
  | resigned (w : ℕ) (fault : Fault) (row : RefundRow) (old : String)
      (tx : SignedUsdcTransfer) (height : ℕ) (ledger : Ledger) (label : a = .resign w fault)
      (found : s.handlers.lookup w = some (.resigning row old tx height))
      (won : resignRefund fault row.channelId old tx.wireBytes tx.signatureB58 height s.ledger =
        .ok true ledger) :
      WorkerEffect s a { s.goOn w (.sending row.channelId tx) with ledger := ledger }
  | sent (w : ℕ) (id : ChannelId) (tx : SignedUsdcTransfer) (answer : SendAnswer)
      (found : s.handlers.lookup w = some (.sending id tx)) :
      WorkerEffect s a
        ({ s with sent := s.sent ++ [(id, tx)] }.proceed w (afterSend id tx answer))
  | wrote (w : ℕ) (fault : Fault) (op : LedgerOp) (h : Handler)
      (found : s.handlers.lookup w = some h) (write : FinalWrite h op) :
      WorkerEffect s a { s.finish w with ledger := ledgerStep s.ledger (fault, op) }
  | requested (fault : Fault) (op : LedgerOp) (request : isRequest op = true) :
      WorkerEffect s a { s with ledger := ledgerStep s.ledger (fault, op) }
  | blocks (n : ℕ) : WorkerEffect s a { s with height := s.height + n }
  | landed (sig : String) (succeeds : Bool) (sent : s.wasSent sig = true)
      (once : s.hasLanded sig = false) (alive : s.height ≤ cluster.lastValidOf sig) :
      WorkerEffect s a { s with landed := s.landed ++ [(sig, succeeds)] }

variable {cluster config}

/-! ## One lemma for each step function -/

/-- A fetch only makes handlers. -/
theorem fetch_effect (s : WorkerSystem) (a : WorkerLabel) (w : ℕ) (id : ChannelId) :
    WorkerEffect cluster config s a (fetch s w id) := by
  unfold fetch
  cases s.handlers.lookup w with
  | some h => exact .idle
  | none =>
    cases hl : s.ledger.refunds.lookup id with
    | none => exact .idle
    | some rf =>
      have hfound := refundRow_of_lookup hl
      simp only
      cases hrow : fetchRow id rf.1 with
      | error e => exact .idle
      | ok row =>
        cases hstatus : rf.1.status with
        | reserved => exact .fetched w id rf.1 row _ hfound hrow (Or.inl ⟨hstatus, rfl⟩)
        | inFlight => exact .fetched w id rf.1 row _ hfound hrow (Or.inr ⟨hstatus, rfl⟩)
        | confirmed => exact .idle
        | held => exact .idle

variable {s : WorkerSystem} {a : WorkerLabel} {w : ℕ} {h : Handler}

/-- The balance read only moves its handler. -/
theorem balance_effect (answer : Option ℕ) (hw : s.handlers.lookup w = some h) :
    WorkerEffect cluster config s a (balanceStep s w answer h) := by
  cases h with
  | reserved row =>
    simp only [balanceStep]
    by_cases hzero : row.amountAtomic = 0
    · rw [if_pos hzero]
      exact .moved w _ _ hw (.nothingOwed row hzero)
    · rw [if_neg hzero]
      cases answer with
      | none => exact .finished w
      | some balance =>
        simp only
        by_cases hlt : balance < row.amountAtomic
        · rw [if_pos hlt]
          exact .finished w
        · rw [if_neg hlt]
          exact .moved w _ _ hw (.funded row)
  | _ => exact .idle

/-- Signing moves the handler to a claim or to a hold. -/
theorem signFresh_effect {ready : Bool} {sig : Option String} {row : RefundRow}
    {guard : HoldGuard} {next : String → Handler} (hw : s.handlers.lookup w = some h)
    (hcorrupt : corruptTuple row.destinationWallet row.mint = true →
      HandlerStep cluster s a w h (.holding row.channelId guard))
    (hnext : ∀ sig, cluster.channelOf sig = row.channelId →
      HandlerStep cluster s a w h (next sig)) :
    WorkerEffect cluster config s a (signFresh cluster s w ready sig row guard next) := by
  unfold signFresh
  cases ready with
  | false => exact .finished w
  | true =>
    rw [if_pos rfl]
    by_cases hc : corruptTuple row.destinationWallet row.mint = true
    · rw [if_pos hc]
      exact .moved w h _ hw (hcorrupt hc)
    · rw [if_neg hc]
      cases sig with
      | none => exact .finished w
      | some sig =>
        show WorkerEffect cluster config s a (if _ then _ else _)
        by_cases hmemo : cluster.channelOf sig = row.channelId
        · rw [if_pos hmemo]
          exact .moved w h _ hw (hnext sig hmemo)
        · rw [if_neg hmemo]
          exact .idle

/-- So does signing anew. -/
theorem sign_effect (ready : Bool) (sig : Option String)
    (hw : s.handlers.lookup w = some h) :
    WorkerEffect cluster config s a (signStep cluster s w ready sig h) := by
  cases h with
  | funded row => exact signFresh_effect hw (.corruptReserved row) (.signed row)
  | expired row old =>
    exact signFresh_effect hw (fun _ => .corruptExpired row old) (.resigned row old)
  | _ => exact .idle

/-- A claim writes the row if it wins. -/
theorem claim_effect (now : ℕ) (fault : Fault) (ha : a = .claim w now fault)
    (hw : s.handlers.lookup w = some h) :
    WorkerEffect cluster config s a (claimStep config s w now fault h) := by
  cases h with
  | claiming row tx height =>
    rw [claimStep]
    cases hres : claimRefundForBroadcast fault now (claimOf config row tx height) s.ledger with
    | error e ledger =>
      obtain rfl := atomically_error hres
      exact .finished w
    | ok out ledger =>
      rcases claimRefundForBroadcast_ok hres with ⟨hlost, rfl⟩ | ⟨rfl, -⟩
      · cases out with
        | won => exact absurd rfl hlost
        | lost => exact .finished w
        | capExceeded => exact .finished w
      · exact .claimed w now fault row tx height ledger ha hw hres
  | _ => exact .idle

/-- So does a second signature. -/
theorem resign_effect (fault : Fault) (ha : a = .resign w fault)
    (hw : s.handlers.lookup w = some h) :
    WorkerEffect cluster config s a (resignStep s w fault h) := by
  cases h with
  | resigning row old tx height =>
    rw [resignStep]
    cases hres : resignRefund fault row.channelId old tx.wireBytes tx.signatureB58 height
        s.ledger with
    | error e ledger =>
      obtain rfl := resignRefund_error hres
      exact .finished w
    | ok b ledger =>
      rcases resignRefund_ok hres with ⟨rfl, rfl⟩ | ⟨rfl, -⟩
      · exact .finished w
      · exact .resigned w fault row old tx height ledger ha hw hres
  | _ => exact .idle

/-- A send puts the handler's transfer on the wire. -/
theorem send_effect (answer : SendAnswer) (hw : s.handlers.lookup w = some h) :
    WorkerEffect cluster config s a (sendStep s w answer h) := by
  cases h with
  | sending id tx => exact .sent w id tx answer hw
  | _ => exact .idle

/-- A status read only moves its handler. -/
theorem status_effect (answers quorum : Bool) (hw : s.handlers.lookup w = some h) :
    WorkerEffect cluster config s a (statusStep s w answers quorum h) := by
  cases h with
  | inFlight row =>
    rw [statusStep]
    have hhold : WorkerEffect cluster config s a
        (s.goOn w (.holding row.channelId (.fromInFlight row.txSignature))) :=
      .moved w _ _ hw (.conclusive row)
    cases hsig : row.txSignature with
    | none =>
      rw [hsig] at hhold
      exact hhold
    | some sig =>
      rw [hsig] at hhold
      cases hbytes : row.signedTx with
      | none => exact hhold
      | some signedTx =>
        cases hheight : row.lastValidBlockHeight with
        | none => exact hhold
        | some height =>
          cases answers with
          | false => exact .finished w
          | true =>
            simp only [if_true]
            -- a status that is not found leads to the block height
            cases hfind : s.landed.find? fun e => e.1 == sig with
            | none =>
              exact .moved w _ _ hw (.unseen row sig signedTx height hsig hbytes hheight)
            | some e =>
              obtain ⟨sig', succeeded⟩ := e
              cases succeeded with
              | false => exact hhold
              | true =>
                -- a success counts once the quorum confirms it
                cases quorum with
                | false => exact .finished w
                | true => exact .moved w _ _ hw (.seen row sig signedTx hsig)
  | _ => exact .idle

/-- The check of a landed transfer only moves its handler. -/
theorem verifyLanded_effect (hw : s.handlers.lookup w = some h) :
    WorkerEffect cluster config s a (verifyLandedRefund cluster config s w h) := by
  cases h with
  | landed row sig signedTx =>
    have hhold : WorkerEffect cluster config s a
        (s.goOn w (.holding row.channelId (.fromInFlight (some sig)))) :=
      .moved w _ _ hw (.mismatch row sig signedTx)
    rw [verifyLandedRefund]
    cases decodeBs58Pubkey row.destinationWallet with
    | none => exact hhold
    | some destination =>
      cases decodeBs58Pubkey row.mint with
      | none => exact hhold
      | some mint =>
        cases decodeBs58Pubkey config.recipientWallet with
        | none => exact .finished w
        | some owner =>
          simp only
          split
          · exact .moved w _ _ hw (.verified row sig signedTx)
          · exact hhold
  | _ => exact .idle

/-- So does the height read. -/
theorem blockHeight_effect (answers : Bool) (ha : a = .blockHeight w answers)
    (hw : s.handlers.lookup w = some h) :
    WorkerEffect cluster config s a (blockHeightStep s w answers h) := by
  cases h with
  | unlanded row sig signedTx height =>
    rw [blockHeightStep]
    cases answers with
    | false => exact .finished w
    | true =>
      rw [if_pos rfl]
      by_cases halive : s.height ≤ height
      · rw [if_pos halive]
        exact .moved w _ _ hw (.alive row sig signedTx height)
      · rw [if_neg halive]
        by_cases hacc : row.broadcastAccepted = false
        · rw [if_pos hacc]
          exact .moved w _ _ hw (.neverAccepted row sig signedTx height)
        · rw [if_neg hacc]
          by_cases hatt : maxClaimAttempts ≤ row.attempts
          · rw [if_pos hatt]
            exact .moved w _ _ hw (.exhausted row sig signedTx height)
          · rw [if_neg hatt]
            exact .moved w _ _ hw (.dead row sig signedTx height ha (by omega)
              (by simpa using hacc) (by omega))
  | _ => exact .idle

/-- A landing is the cluster's step. -/
theorem land_effect (sig : String) (succeeds : Bool) :
    WorkerEffect cluster config s a (landStep cluster s sig succeeds) := by
  unfold landStep
  split
  · rename_i hland
    simp only [Bool.and_eq_true, Bool.not_eq_true', decide_eq_true_eq] at hland
    exact .landed sig succeeds hland.1.1 hland.1.2 hland.2
  · exact .idle

/-- A handler's step that leads to an effect is an effect of the system. -/
theorem onHandler_effect {f : Handler → WorkerSystem}
    (hf : ∀ h, s.handlers.lookup w = some h → WorkerEffect cluster config s a (f h)) :
    WorkerEffect cluster config s a (s.onHandler w f) := by
  unfold WorkerSystem.onHandler
  cases hw : s.handlers.lookup w with
  | none => exact .idle
  | some h => exact hf h hw

variable (cluster config s a) in
/-- Every step has one of the effects. -/
theorem worker_effect : WorkerEffect cluster config s a (workerStep cluster config s a) := by
  cases a with
  | fetch w id => exact fetch_effect s _ w id
  | balance w answer => exact onHandler_effect fun h hw => balance_effect answer hw
  | sign w ready sig => exact onHandler_effect fun h hw => sign_effect ready sig hw
  | claim w now fault => exact onHandler_effect fun h hw => claim_effect now fault rfl hw
  | send w answer => exact onHandler_effect fun h hw => send_effect answer hw
  | mark w now fault =>
    refine onHandler_effect fun h hw => ?_
    cases h with
    | marking id sig => exact .wrote w fault _ _ hw (.mark now id sig)
    | _ => exact .idle
  | status w answers quorum =>
    exact onHandler_effect fun h hw => status_effect answers quorum hw
  | verifyLanded w => exact onHandler_effect fun h hw => verifyLanded_effect hw
  | blockHeight w answers =>
    exact onHandler_effect fun h hw => blockHeight_effect answers rfl hw
  | resign w fault => exact onHandler_effect fun h hw => resign_effect fault rfl hw
  | confirm w fault =>
    refine onHandler_effect fun h hw => ?_
    cases h with
    | confirming id source => exact .wrote w fault _ _ hw (.confirm id source)
    | _ => exact .idle
  | hold w fault =>
    refine onHandler_effect fun h hw => ?_
    cases h with
    | holding id guard => exact .wrote w fault _ _ hw (.hold id guard)
    | _ => exact .idle
  | crash w => exact .finished w
  | blocks n => exact .blocks n
  | land sig succeeds => exact land_effect sig succeeds
  | request fault op =>
    -- a request is one of the ledger's other callers
    show WorkerEffect cluster config s _ (if isRequest op = true then _ else _)
    by_cases hop : isRequest op = true
    · rw [if_pos hop]
      exact .requested fault op hop
    · rw [if_neg hop]
      exact .idle

/-! ## What a step writes -/

/-- The ledger operations of the system's steps. -/
inductive WorkerOp (config : WorkerConfig) (s : WorkerSystem) : LedgerOp → Prop
  | claim (now : ℕ) (row : RefundRow) (tx : SignedUsdcTransfer) (height : ℕ) :
      WorkerOp config s (.claimRefundForBroadcast now (claimOf config row tx height))
  | resign (id : ChannelId) (old : String) (tx : SignedUsdcTransfer) (height : ℕ) :
      WorkerOp config s (.resignRefund id old tx.wireBytes tx.signatureB58 height)
  | final (w : ℕ) (h : Handler) (op : LedgerOp) (found : s.handlers.lookup w = some h)
      (write : FinalWrite h op) : WorkerOp config s op
  | request (op : LedgerOp) (request : isRequest op = true) : WorkerOp config s op

/-- The worker never writes a status by itself. -/
theorem WorkerOp.not_setStatus {op : LedgerOp} (h : WorkerOp config s op) (id : ChannelId)
    (status : ChannelStatus) : op ≠ .setStatus id status := by
  rintro rfl
  cases h with
  | final w h _ _ write => cases write
  | request _ request => exact absurd request (by simp [isRequest])

/-- Every step performs at most one operation on the ledger. -/
theorem WorkerEffect.ledger {s' : WorkerSystem} (heff : WorkerEffect cluster config s a s') :
    s'.ledger = s.ledger ∨
      ∃ fault op, WorkerOp config s op ∧ s'.ledger = ledgerStep s.ledger (fault, op) := by
  cases heff with
  | claimed w now fault row tx height ledger label found won =>
    refine Or.inr ⟨fault, _, .claim now row tx height, ?_⟩
    simp [ledgerStep, LedgerOp.program, effect, won]
  | resigned w fault row old tx height ledger label found won =>
    refine Or.inr ⟨fault, _, .resign row.channelId old tx height, ?_⟩
    simp [ledgerStep, LedgerOp.program, effect, won]
  | wrote w fault op h found write =>
    exact Or.inr ⟨fault, op, .final w h op found write, rfl⟩
  | requested fault op request => exact Or.inr ⟨fault, op, .request op request, rfl⟩
  | sent w id tx answer found =>
    cases answer with
    | _ => exact Or.inl rfl
  | _ => exact Or.inl rfl

/-- One refund row got a new payload, and no other row changed. -/
structure PayloadWritten (id : ChannelId) (tx : SignedUsdcTransfer) (height : ℕ)
    (r : RefundDbRow) (l l' : Ledger) : Prop where
  found : refundRow l id = some r
  written : ∃ r', refundRow l' id = some r' ∧ r'.status = .inFlight ∧
    r'.txSignature = some tx.signatureB58 ∧ r'.signedTx = some tx.wireBytes ∧
    r'.lastValidBlockHeight = some (height : ℤ)
  others : ∀ id', id' ≠ id → refundRow l' id' = refundRow l id'

/-- A written row with a new payload. -/
theorem PayloadWritten.of_refundWritten {id : ChannelId} {tx : SignedUsdcTransfer} {height : ℕ}
    {rf : Refund} {f : RefundDbRow → RefundDbRow} {l l' : Ledger}
    (h : RefundWritten id rf f l l') (hstatus : (f rf.1).status = .inFlight)
    (hsig : (f rf.1).txSignature = some tx.signatureB58)
    (hbytes : (f rf.1).signedTx = some tx.wireBytes)
    (hheight : (f rf.1).lastValidBlockHeight = some (height : ℤ)) :
    PayloadWritten id tx height rf.1 l l' :=
  ⟨congrArg Entry.refund h.entry_self.1,
    ⟨f rf.1, congrArg Entry.refund h.entry_self.2, hstatus, hsig, hbytes, hheight⟩,
    fun _ hid => congrArg Entry.refund (h.entry_of_ne hid)⟩

/-- A compare-and-set that won the row `id` for `tx`: a claim of a reserved row, or a re-sign of
the row that still carries the superseded signature. -/
inductive Won (s : WorkerSystem) (a : WorkerLabel) (l' : Ledger) (id : ChannelId)
    (tx : SignedUsdcTransfer) (height : ℕ) : Prop
  | claim (w now : ℕ) (fault : Fault) (row : RefundRow) (r : RefundDbRow)
      (label : a = .claim w now fault)
      (found : s.handlers.lookup w = some (.claiming row tx height)) (own : row.channelId = id)
      (reserved : r.status = .reserved) (written : PayloadWritten id tx height r s.ledger l')
  | resign (w : ℕ) (fault : Fault) (row : RefundRow) (old : String) (r : RefundDbRow)
      (label : a = .resign w fault)
      (found : s.handlers.lookup w = some (.resigning row old tx height))
      (own : row.channelId = id) (inFlight : r.status = .inFlight)
      (superseded : r.txSignature = some old)
      (written : PayloadWritten id tx height r s.ledger l')

/-- What wins has written its payload. -/
theorem Won.payloadWritten {l' : Ledger} {id : ChannelId} {tx : SignedUsdcTransfer}
    {height : ℕ} (h : Won s a l' id tx height) :
    ∃ r, PayloadWritten id tx height r s.ledger l' := by
  cases h with
  | claim w now fault row r _ _ _ _ written => exact ⟨r, written⟩
  | resign w fault row old r _ _ _ _ _ written => exact ⟨r, written⟩

/-- A claim that is answered `won`. -/
theorem claim_won {now : ℕ} {fault : Fault} {row : RefundRow} {tx : SignedUsdcTransfer}
    {height : ℕ} {l' : Ledger} (label : a = .claim w now fault)
    (found : s.handlers.lookup w = some (.claiming row tx height))
    (h : claimRefundForBroadcast fault now (claimOf config row tx height) s.ledger =
      .ok .won l') : Won s a l' row.channelId tx height := by
  rcases claimRefundForBroadcast_ok h with ⟨hlost, -⟩ | ⟨-, -, -, rf, hstatus, hwritten⟩
  · exact absurd rfl hlost
  · exact .claim w now fault row rf.1 label found rfl hstatus
      (.of_refundWritten hwritten rfl rfl rfl rfl)

/-- A second signature that is answered `true`. -/
theorem resign_won {fault : Fault} {row : RefundRow} {old : String} {tx : SignedUsdcTransfer}
    {height : ℕ} {l' : Ledger} (label : a = .resign w fault)
    (found : s.handlers.lookup w = some (.resigning row old tx height))
    (h : resignRefund fault row.channelId old tx.wireBytes tx.signatureB58 height s.ledger =
      .ok true l') : Won s a l' row.channelId tx height := by
  rcases resignRefund_ok h with ⟨hlost, -⟩ | ⟨-, -, rf, hstatus, hsig, hwritten⟩
  · exact absurd hlost (by simp)
  · exact .resign w fault row old rf.1 label found rfl hstatus hsig
      (.of_refundWritten hwritten hstatus rfl rfl rfl)

/-! ## Where the payload of a row comes from -/

/-- The operations that give a row a payload. -/
def signsPayload : LedgerOp → Bool
  | .claimRefundForBroadcast _ _ => true
  | .resignRefund _ _ _ _ _ => true
  | _ => false

/-- The row is the same, up to a status that moved on and the acceptance marker. -/
structure SamePayload (r r' : RefundDbRow) : Prop where
  txSignature : r'.txSignature = r.txSignature
  signedTx : r'.signedTx = r.signedTx
  lastValid : r'.lastValidBlockHeight = r.lastValidBlockHeight
  reserved : r'.status = .reserved → r.status = .reserved

/-- A row that was not written has its payload. -/
theorem SamePayload.refl (r : RefundDbRow) : SamePayload r r := ⟨rfl, rfl, rfl, fun h => h⟩

/-- Any other operation keeps the payload of a row; a new row has none. -/
theorem payload_kept {id : ChannelId} {op : LedgerOp} {e e' : Entry} {r' : RefundDbRow}
    (hop : signsPayload op = false) (h : EntryMove id op e e') (hr : e'.refund = some r') :
    (e.refund = none ∧ r'.txSignature = none) ∨ ∃ r, e.refund = some r ∧ SamePayload r r' := by
  cases h with
  | kept => exact Or.inr ⟨r', hr, .refl r'⟩
  | created => exact Or.inr ⟨r', hr, .refl r'⟩
  | forced => exact Or.inr ⟨r', hr, .refl r'⟩
  | closed status amount wallet mint =>
    obtain rfl := Option.some.inj hr
    exact Or.inl ⟨rfl, rfl⟩
  | closedAgain => exact Or.inr ⟨r', hr, .refl r'⟩
  | claimed => exact absurd hop (by simp [signsPayload])
  | resigned => exact absurd hop (by simp [signsPayload])
  | held guard channel r =>
    obtain rfl := Option.some.inj hr
    exact Or.inr ⟨r, rfl, rfl, rfl, rfl, fun hs => absurd hs (by simp)⟩
  | marked now sig channel r =>
    obtain rfl := Option.some.inj hr
    exact Or.inr ⟨r, rfl, rfl, rfl, rfl, fun hs => hs⟩
  | confirmed source channel r =>
    obtain rfl := Option.some.inj hr
    exact Or.inr ⟨r, rfl, rfl, rfl, rfl, fun hs => absurd hs (by simp)⟩

/-- A final write signs nothing. -/
theorem FinalWrite.not_signsPayload {h : Handler} {op : LedgerOp} (hw : FinalWrite h op) :
    signsPayload op = false := by
  cases hw with
  | mark => rfl
  | confirm => rfl
  | hold => rfl

/-- Nor does a request. -/
theorem isRequest_not_signsPayload {op : LedgerOp} (h : isRequest op = true) :
    signsPayload op = false := by
  cases op with
  | claimRefundForBroadcast => exact absurd h (by simp [isRequest])
  | resignRefund => exact absurd h (by simp [isRequest])
  | _ => rfl

/-- The payload a row has after a step is none, the one it had, or the one a compare-and-set
just won with. -/
theorem WorkerEffect.payload {s' : WorkerSystem} (heff : WorkerEffect cluster config s a s')
    {id : ChannelId} {r' : RefundDbRow} (hr' : refundRow s'.ledger id = some r') :
    (refundRow s.ledger id = none ∧ r'.txSignature = none) ∨
    (∃ r, refundRow s.ledger id = some r ∧ SamePayload r r') ∨
    ∃ tx height, Won s a s'.ledger id tx height ∧ r'.status = .inFlight ∧
      r'.txSignature = some tx.signatureB58 ∧ r'.signedTx = some tx.wireBytes ∧
      r'.lastValidBlockHeight = some (height : ℤ) := by
  -- a payload that was won is the one its own row has
  have hwon : ∀ {id' tx height}, Won s a s'.ledger id' tx height →
      (∃ r, refundRow s.ledger id = some r ∧ SamePayload r r') ∨
      ∃ tx height, Won s a s'.ledger id tx height ∧ r'.status = .inFlight ∧
        r'.txSignature = some tx.signatureB58 ∧ r'.signedTx = some tx.wireBytes ∧
        r'.lastValidBlockHeight = some (height : ℤ) := by
    intro id' tx height hw
    obtain ⟨r, hwritten⟩ := hw.payloadWritten
    by_cases hid : id = id'
    · subst hid
      obtain ⟨r'', hr'', hstatus, hsig, hbytes, hheight⟩ := hwritten.written
      obtain rfl : r'' = r' := Option.some.inj (hr''.symm.trans hr')
      exact Or.inr ⟨tx, height, hw, hstatus, hsig, hbytes, hheight⟩
    · rw [hwritten.others id hid] at hr'
      exact Or.inl ⟨r', hr', .refl r'⟩
  have hmove : ∀ {fault op}, signsPayload op = false →
      s'.ledger = ledgerStep s.ledger (fault, op) →
      (refundRow s.ledger id = none ∧ r'.txSignature = none) ∨
      ∃ r, refundRow s.ledger id = some r ∧ SamePayload r r' := by
    intro fault op hop hl
    rw [hl] at hr'
    exact payload_kept hop (ledgerStep_entryMove fault op s.ledger id) hr'
  cases heff with
  | claimed w now fault row tx height ledger label found won =>
    exact Or.inr (hwon (claim_won label found won))
  | resigned w fault row old tx height ledger label found won =>
    exact Or.inr (hwon (resign_won label found won))
  | wrote w fault op h found write =>
    exact (hmove write.not_signsPayload rfl).imp_right Or.inl
  | requested fault op request =>
    exact (hmove (isRequest_not_signsPayload request) rfl).imp_right Or.inl
  | sent w id' tx answer found =>
    cases answer with
    | _ => exact Or.inr (Or.inl ⟨r', hr', .refl r'⟩)
  | _ => exact Or.inr (Or.inl ⟨r', hr', .refl r'⟩)

/-- A snapshot copies its row. -/
theorem fetchRow_ok {id : ChannelId} {r : RefundDbRow} {row : RefundRow}
    (h : fetchRow id r = .ok row) :
    row.channelId = id ∧
      frozenTerms r = ((row.amountAtomic : ℤ), (row.destinationWallet, row.mint)) ∧
      row.txSignature = r.txSignature ∧ row.signedTx = r.signedTx ∧
      r.lastValidBlockHeight = row.lastValidBlockHeight.map (↑) := by
  obtain ⟨amount, hamount, h⟩ := except_bind_ok.1 h
  obtain ⟨height, hheight, h⟩ := except_bind_ok.1 h
  obtain rfl := Except.ok.inj h
  refine ⟨rfl, ?_, rfl, rfl, ?_⟩
  · rw [frozenTerms, i64ToAtomic_ok hamount]
  · show r.lastValidBlockHeight = height.map (↑)
    cases hl : r.lastValidBlockHeight with
    | none =>
      rw [hl] at hheight
      obtain rfl := Except.ok.inj hheight
      rfl
    | some v =>
      rw [hl] at hheight
      obtain ⟨n, hn, hheight⟩ := except_bind_ok.1 hheight
      obtain rfl := Except.ok.inj hheight
      exact congrArg some (i64ToAtomic_ok hn)

/-! ## Invariants of the handlers -/

/-- What a step does to the handlers: it forgets one, or puts one in a new place. To carry a
property of the handlers across a step it is enough to say why the others keep it and why the
new place has it. -/
theorem WorkerEffect.allHandlers {s' : WorkerSystem} {P P' : Handler → Prop}
    (heff : WorkerEffect cluster config s a s') (hall : Table.All P s.handlers)
    (hkeep : ∀ h, P h → P' h)
    (hfetch : ∀ id r row, refundRow s.ledger id = some r → fetchRow id r = .ok row →
      P' (.reserved row) ∧ (r.status = .inFlight → P' (.inFlight row)))
    (hmove : ∀ w h h', s.handlers.lookup w = some h → P h → HandlerStep cluster s a w h h' →
      P' h')
    (hwon : ∀ id tx height, Won s a s'.ledger id tx height → P' (.sending id tx))
    (hsent : ∀ id tx answer h, P (.sending id tx) → afterSend id tx answer = some h → P' h) :
    Table.All P' s'.handlers := by
  -- all but the handler of the step stay, and what goes is fewer
  have hrest : Table.All P' s.handlers := hall.imp hkeep
  cases heff with
  | idle => exact hrest
  | finished w => exact hrest.erase w
  | fetched w id r row h found read next =>
    rcases next with ⟨-, rfl⟩ | ⟨hstatus, rfl⟩
    · exact hrest.insert w (hfetch id r row found read).1
    · exact hrest.insert w ((hfetch id r row found read).2 hstatus)
  | moved w h h' found step => exact hrest.insert w (hmove w h h' found (hall w h found) step)
  | claimed w now fault row tx height ledger label found won =>
    exact hrest.insert w (hwon row.channelId tx height (claim_won label found won))
  | resigned w fault row old tx height ledger label found won =>
    exact hrest.insert w (hwon row.channelId tx height (resign_won label found won))
  | sent w id tx answer found =>
    have hsending := hall w _ found
    cases hnext : afterSend id tx answer with
    | none => exact hrest.erase w
    | some h => exact hrest.insert w (hsent id tx answer h hsending hnext)
  | wrote w fault op h found write => exact hrest.erase w
  | requested fault op request => exact hrest
  | blocks n => exact hrest
  | landed sig succeeds sent once alive => exact hrest

end

end Solvela.RefundWorker
