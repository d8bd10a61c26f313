import Solvela.A2a.Legs

/-!
# What `tasks/get` says of a paid task

A paying leg tells the task store how it went in up to three writes: the `Working` marker, the
terminal state or its revert, and the terminal references. Each is best effort. `project_task`
reconstructs the answer from what arrived: a record that is `Working` and carries references is
taken for a settled task whose terminal state was not written.

A leg runs alone here, on a task that waits for its payment. Its writes fail in any combination;
a write that fails leaves the record as it was.
-/

namespace Solvela.A2a

open Solvela.Lib

/-! ## The projection -/

/-- The task as it is stored: `TaskRecord` with the columns that only `tasks/get` and the channel
leg use. -/
structure StoredTask where
  record : TaskRecord
  paymentRequired : String
  deliverFree : Bool
deriving DecidableEq

/-- `x402.payment.status`. -/
inductive PaymentStatus
  | paymentRequired
  | paymentCompleted
  | paymentFailed
deriving DecidableEq

/-- The answer of `tasks/get`, without its generated ids. -/
structure TaskView where
  id : String
  contextId : String
  state : TaskState
  message : Option String
  paymentStatus : Option PaymentStatus
  required : Option String
  txSignature : Option String
  receipt : Option String
  artifact : Option String
deriving DecidableEq

/-- The answer with a status only. -/
def TaskView.bare (t : StoredTask) : TaskView :=
  ⟨t.record.id, t.record.contextId, t.record.state, none, none, none, none, none, none⟩

/-- The answer of a task that is taken for settled and delivered. -/
def projectSettled (t : StoredTask) : TaskView :=
  { TaskView.bare t with
    message := some (t.record.artifactText.getD
      "Task settled; the delivered output is not available on this record.")
    -- a delivery without a debit never reads as paid
    paymentStatus := if t.deliverFree then none else some .paymentCompleted
    txSignature := if t.deliverFree then none else t.record.txSignature
    receipt := if t.deliverFree then none else t.record.receiptPath
    artifact := t.record.artifactText }

/-- `project_task`. -/
def projectTask (t : StoredTask) : TaskView :=
  match t.record.state with
  | .inputRequired =>
    { TaskView.bare t with
      message := some "Payment required to process this request."
      paymentStatus := some .paymentRequired
      required := some t.paymentRequired }
  | .canceled => TaskView.bare t
  | .working =>
    -- references are only written after the settlement
    if t.record.txSignature = none ∧ t.record.receiptPath = none then TaskView.bare t
    else projectSettled t
  | .completed => projectSettled t
  | .failed =>
    { TaskView.bare t with
      message := some ("Provider call failed after settlement; the payment was collected and " ++
        "recorded (see receipts). Do not resubmit a new payment — contact support with this " ++
        "task ID.")
      paymentStatus := some .paymentFailed
      txSignature := t.record.txSignature
      receipt := t.record.receiptPath }

/-- An answer is truthful of a payer who was charged or not, and of what was delivered. -/
structure Truthful (v : TaskView) (charged : Bool) (delivered : Option String) : Prop where
  completed : v.paymentStatus = some .paymentCompleted → charged = true ∧ delivered.isSome = true
  failed : v.paymentStatus = some .paymentFailed → charged = true ∧ delivered = none
  required : v.paymentStatus = some .paymentRequired → charged = false
  artifact : ∀ text, v.artifact = some text → delivered = some text

/-! ## A leg alone -/

/-- What the services answer to one leg. `saves k` is the fate of its task write number `k`, and
`landed` whether a transaction that was sent and not confirmed is on chain all the same. -/
structure LegAnswers where
  saves : ℕ → Bool
  replay : Except String Unit
  settlement : Except String Settlement
  landed : Bool
  provider : Except String (Option String)
  receiptPath : Option String

/-- The store, and what happened to the payer. -/
structure LegState where
  task : StoredTask
  writes : ℕ
  charged : Bool
  delivered : Option String

/-- A write of the task's record. -/
def LegState.save (ans : LegAnswers) (s : LegState) (t : StoredTask) : LegState :=
  { s with task := if ans.saves s.writes then t else s.task, writes := s.writes + 1 }

/-- Whether the submitted transaction moved the funds. What fails verification is not sent, and
what the chain rejected did not land. -/
def LegAnswers.charged (ans : LegAnswers) : Bool :=
  match ans.settlement with
  | .error _ => false
  | .ok settlement =>
    settlement.success ||
      match settlement.failureKind with
      | some (.rejected _) => false
      | _ => ans.landed

/-- The text a provider's answer delivers. -/
def LegAnswers.delivers (ans : LegAnswers) : Option String :=
  ans.provider.toOption.map (·.getD "")

def answer (ans : LegAnswers) (s : LegState) : (c : Command) → Reply c × LegState
  | .acquireSettleLock => (.ok true, s)
  | .releaseSettleLock => ((), s)
  | .getTask => (.ok (some s.task.record), s)
  | .setTask record =>
    (if ans.saves s.writes then .ok () else .error "cache operation failed",
      s.save ans { s.task with record := record })
  | .checkAndRecordTx _ _ => (ans.replay, s)
  | .verifyAndSettle => (ans.settlement, { s with charged := ans.charged })
  | .recordA2aSettlement _ => (ans.receiptPath, s)
  | .chatWithModelFallback => (ans.provider, { s with delivered := ans.delivers })

/-- A task that waits for its payment. -/
def LegState.fresh (taskId contextId paymentRequired : String) : LegState :=
  ⟨⟨⟨taskId, .inputRequired, contextId, none, none, none⟩, paymentRequired, false⟩, 0, false, none⟩

/-! ## The channel leg -/

inductive ChannelCommand
  | task (c : Command)
  | fetchCachedSlotBounded
  | acquireChannelDrawLock
  /-- The channel is loaded, the voucher verified and the tenant checked. -/
  | loadAndVerify
  | channelDrawLockHeld
  | persistVoucherAndAdvance
  /-- A save that also sets the deliver-free marker. -/
  | setDeliverFree (record : TaskRecord)

@[reducible] def ChannelReply : ChannelCommand → Type
  | .task c => Reply c
  | .fetchCachedSlotBounded => Option ℕ
  | .acquireChannelDrawLock => Except String (Option String)
  | .loadAndVerify => Except JsonRpcError Unit
  | .channelDrawLockHeld => Except String Bool
  | .persistVoucherAndAdvance => Except String Unit
  | .setDeliverFree _ => Except String Unit

abbrev ChannelProgram := Prog ChannelCommand ChannelReply

abbrev askChannel (c : ChannelCommand) : ChannelProgram (ChannelReply c) := Prog.ask c

/-- A program of the task store in the channel leg. -/
def onTask {α : Type} (p : Program α) : ChannelProgram α := p.embed .task fun _ r => r

def revertChannel {α : Type} (taskId : String) (e : JsonRpcError) :
    ChannelProgram (Except JsonRpcError α) :=
  onTask (revertAndFail taskId e)

def internalRetryable (message : String) : JsonRpcError := ⟨errInternal, message⟩

/-- `complete_deliver_free`: one save for the state, the marker and the text. -/
def completeDeliverFree (taskId : String) (artifactText : Option String) :
    ChannelProgram (Except String Unit) := do
  match ← onTask loadTask with
  | .error e => pure (.error e)
  | .ok none => pure (.error s!"task not found: {taskId}")
  | .ok (some record) =>
    if record.state.canTransitionTo .completed then
      match ← askChannel (.setDeliverFree
          { record with state := .completed, artifactText := artifactText }) with
      | .error e => pure (.error s!"Redis save failed: {e}")
      | .ok _ => pure (.ok ())
    else
      let before := record.state.debug
      pure (.error s!"invalid state transition: {before} -> Completed")

/-- `deliver_free_completion`; a failed write is only logged. -/
def deliverFreeCompletion (taskId contextId text : String) :
    ChannelProgram (Except JsonRpcError Task) := do
  let _ ← completeDeliverFree taskId (some text)
  pure (.ok ⟨taskId, contextId, .completed, some text, none, none⟩)

/-- The debit and what follows it. -/
def debitChannel (taskId contextId text : String) :
    ChannelProgram (Except JsonRpcError Task) := do
  match ← askChannel .persistVoucherAndAdvance with
  | .error _ => deliverFreeCompletion taskId contextId text
  | .ok _ =>
    let receiptPath ← onTask (ask (.recordA2aSettlement none))
    let _ ← onTask (updateTaskState taskId .completed)
    let _ ← onTask (persistTerminalRefs taskId (some text) none receiptPath)
    pure (.ok ⟨taskId, contextId, .completed, some text, none, receiptPath⟩)

/-- `channel_locked`. A failure before the debit reverts the task once the draw lock is back. -/
def channelLocked (taskId contextId : String) : ChannelProgram (Except JsonRpcError Task) := do
  match ← askChannel .loadAndVerify with
  | .error e => revertChannel taskId e
  | .ok _ =>
    match ← onTask (ask .chatWithModelFallback) with
    | .error _ =>
      revertChannel taskId ⟨errProviderError,
        "Provider unavailable; your channel was NOT drawn. Retry with the same voucher shortly."⟩
    | .ok choice =>
      match ← askChannel .channelDrawLockHeld with
      | .ok false => deliverFreeCompletion taskId contextId (choice.getD "")
      -- held, or not known: the ledger decides
      | _ => debitChannel taskId contextId (choice.getD "")

/-- `settle_channel_task`, after the `Working` marker. `checks` are the quote, the echo of the
accepted terms and the decoding of the voucher. -/
def settleChannelTask (taskId contextId : String) (checks : Except JsonRpcError Unit) :
    ChannelProgram (Except JsonRpcError Task) :=
  match checks with
  | .error e => revertChannel taskId e
  | .ok _ => do
    match ← askChannel .fetchCachedSlotBounded with
    | none =>
      revertChannel taskId (internalRetryable
        "could not reach the Solana cluster to verify the voucher; please retry shortly")
    | some _ =>
      match ← askChannel .acquireChannelDrawLock with
      | .ok none =>
        revertChannel taskId (internalRetryable
          "a draw is already in progress on this channel; please retry shortly")
      | .error _ =>
        revertChannel taskId (internalRetryable
          "payment service is temporarily degraded; please retry shortly")
      | .ok (some _) => channelLocked taskId contextId

/-- `settle_paid_task` of a channel voucher. -/
def settlePaidChannelTask (taskId contextId : String) (checks : Except JsonRpcError Unit) :
    ChannelProgram (Except JsonRpcError Task) :=
  (onTask (acquireLock (rejectForTaskState taskId) (degraded errPaymentFailed))).andThen fun _ =>
    (onTask (recheckUnderLock taskId (rejectForTaskState taskId))).andThen fun _ =>
      (onTask (markWorking taskId)).andThen fun _ => settleChannelTask taskId contextId checks

/-- What the services answer to a channel leg. After an error of the persist, `committed` says
whether its transaction took effect. -/
structure ChannelAnswers extends LegAnswers where
  slot : Option ℕ
  drawLock : Except String (Option String)
  verified : Except JsonRpcError Unit
  lockHeld : Except String Bool
  persist : Except String Unit
  committed : Bool

def answerChannel (ans : ChannelAnswers) (s : LegState) :
    (c : ChannelCommand) → ChannelReply c × LegState
  | .task c => answer ans.toLegAnswers s c
  | .fetchCachedSlotBounded => (ans.slot, s)
  | .acquireChannelDrawLock => (ans.drawLock, s)
  | .loadAndVerify => (ans.verified, s)
  | .channelDrawLockHeld => (ans.lockHeld, s)
  | .persistVoucherAndAdvance =>
    (ans.persist, { s with charged := ans.persist.isOk || ans.committed })
  | .setDeliverFree record =>
    (if ans.saves s.writes then .ok () else .error "cache operation failed",
      s.save ans.toLegAnswers { s.task with record := record, deliverFree := true })

/-! ## Every scheme -/

/-- The paying leg of a task, with everything it meets. No scheme is run when the development
mode takes the payment for made. -/
inductive PayingLeg
  /-- An exact transfer or an escrow deposit. -/
  | onChain (payment : Payment) (ans : LegAnswers)
  | channel (checks : Except JsonRpcError Unit) (ans : ChannelAnswers)

/-- The store after the leg returned. -/
def PayingLeg.run (taskId contextId paymentRequired : String) : PayingLeg → LegState
  | onChain payment ans =>
    ((settlePaidTask false taskId contextId payment).exec (answer ans)
      (.fresh taskId contextId paymentRequired)).2
  | channel checks ans =>
    ((settlePaidChannelTask taskId contextId checks).exec (answerChannel ans)
      (.fresh taskId contextId paymentRequired)).2

end Solvela.A2a
