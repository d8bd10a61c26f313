import Mathlib.Data.Int.Notation
import Solvela.Lib.Prog
import Solvela.Lib.Runs
import Solvela.Protocol.Chat

/-!
# Payment and cancel legs of an A2A task

`settle_paid_task` and `cancel_under_lock` for one task, as programs over the Redis commands they
send and the services they call. A Redis command is atomic; it can fail, or only its reply can be
lost. A leg's payment is by an exact transfer or an escrow deposit; channel vouchers are drawn by
a leg of their own. Redis is configured, since no task can be loaded without it. The answers of
the replay check, of the facilitator, of the provider and of the ledger belong to the environment.
-/

namespace Solvela.A2a

open Solvela.Lib
open Solvela.Protocol (SettlementFailureKind)

/-! ## Tasks -/

inductive TaskState
  | inputRequired
  | working
  | completed
  | failed
  | canceled
deriving DecidableEq

namespace TaskState

def canTransitionTo : TaskState → TaskState → Bool
  | inputRequired, working => true
  | inputRequired, canceled => true
  | working, inputRequired => true
  | working, completed => true
  | working, failed => true
  | _, _ => false

def debug : TaskState → String
  | inputRequired => "InputRequired"
  | working => "Working"
  | completed => "Completed"
  | failed => "Failed"
  | canceled => "Canceled"

end TaskState

/-- `TaskRecord`, with the columns that a leg reads or writes. -/
structure TaskRecord where
  id : String
  state : TaskState
  contextId : String
  artifactText : Option String
  txSignature : Option String
  receiptPath : Option String
deriving DecidableEq

/-- The answer to a request, with what the messages and artifacts carry. -/
structure Task where
  id : String
  contextId : String
  state : TaskState
  text : Option String
  txSignature : Option String
  receipt : Option String

structure JsonRpcError where
  code : ℤ
  message : String

def errInternal : ℤ := -32603
def errTaskNotFound : ℤ := -32001
def errTaskNotCancelable : ℤ := -32002
def errPaymentFailed : ℤ := -32007
def errProviderError : ℤ := -32008

/-- `reject_for_task_state`. -/
def rejectForTaskState (taskId : String) (state : TaskState) : JsonRpcError :=
  ⟨errPaymentFailed,
    match state with
    | .working =>
      s!"A settlement for task {taskId} is already in progress; do not resubmit a new payment " ++
        "for this task — poll tasks/get for the outcome."
    | .completed | .failed =>
      s!"Task {taskId} has already reached a terminal state and cannot accept another payment; " ++
        "retrieve its result with tasks/get — do not resubmit. Contact support with this task " ++
        "ID if you did not receive your result."
    | .canceled =>
      s!"Task {taskId} was canceled and cannot accept a payment; request a new quote with " ++
        "message/send (verify with tasks/get)."
    | .inputRequired =>
      s!"Task {taskId} is awaiting payment; resubmit the payment for this task."⟩

/-- `not_cancelable_for_state`. -/
def notCancelableForState (taskId : String) (state : TaskState) : JsonRpcError :=
  ⟨errTaskNotCancelable,
    match state with
    | .working =>
      s!"A settlement for task {taskId} is in progress; the task can no longer be canceled."
    | .completed | .failed =>
      s!"Task {taskId} has already reached a terminal state and cannot be canceled; retrieve " ++
        "its result with tasks/get."
    | .canceled => s!"Task {taskId} was already canceled."
    | .inputRequired =>
      s!"Task {taskId} is awaiting payment and can be canceled; retry the cancel."⟩

def taskNotFound (taskId : String) : JsonRpcError :=
  ⟨errTaskNotFound, s!"Task not found or expired: {taskId}"⟩

def degraded (code : ℤ) : JsonRpcError :=
  ⟨code, "Payment service is temporarily degraded; please retry shortly."⟩

/-! ## Payments -/

/-- `SettlementResult`. -/
structure Settlement where
  success : Bool
  txSignature : Option String
  failureKind : Option SettlementFailureKind

/-- A submitted payment: its scheme, its transaction (`transaction` or `deposit_tx`), and what
`validate_submitted_against_offer` finds. -/
structure Payment where
  scheme : String
  txRaw : String
  isDurableNonce : Bool
  offer : Except JsonRpcError Unit

/-! ## The programs of the legs -/

inductive Command
  | acquireSettleLock
  | releaseSettleLock
  | getTask
  | setTask (record : TaskRecord)
  | checkAndRecordTx (txRaw : String) (isDurableNonce : Bool)
  | verifyAndSettle
  | recordA2aSettlement (txSignature : Option String)
  | chatWithModelFallback

@[reducible] def Reply : Command → Type
  | .acquireSettleLock => Except String Bool
  | .releaseSettleLock => Unit
  | .getTask => Except String (Option TaskRecord)
  | .setTask _ => Except String Unit
  | .checkAndRecordTx _ _ => Except String Unit
  | .verifyAndSettle => Except String Settlement
  | .recordA2aSettlement _ => Option String
  -- the text of the first choice
  | .chatWithModelFallback => Except String (Option String)

abbrev Program := Prog Command Reply

abbrev ask (c : Command) : Program (Reply c) := Prog.ask c

/-- `save_task`. -/
def saveTask (record : TaskRecord) : Program (Except String Unit) := do
  match ← ask (.setTask record) with
  | .error e => pure (.error s!"Redis save failed: {e}")
  | .ok _ => pure (.ok ())

/-- `load_task`, of a record that can be read. -/
def loadTask : Program (Except String (Option TaskRecord)) := do
  match ← ask .getTask with
  | .error e => pure (.error s!"Redis read error: {e}")
  | .ok record => pure (.ok record)

/-- `update_task_state`. -/
def updateTaskState (taskId : String) (newState : TaskState) : Program (Except String Unit) := do
  match ← loadTask with
  | .error e => pure (.error e)
  | .ok none => pure (.error s!"task not found: {taskId}")
  | .ok (some record) =>
    -- the write does not depend on the task still being the one that was loaded
    if record.state.canTransitionTo newState then saveTask { record with state := newState }
    else
      let before := record.state.debug
      let after := newState.debug
      pure (.error s!"invalid state transition: {before} -> {after}")

/-- `persist_terminal_refs`. -/
def persistTerminalRefs (taskId : String) (artifactText txSignature receiptPath : Option String) :
    Program (Except String Unit) := do
  match ← loadTask with
  | .error e => pure (.error e)
  | .ok none => pure (.error s!"task not found: {taskId}")
  | .ok (some record) =>
    saveTask
      { record with
        artifactText := artifactText, txSignature := txSignature, receiptPath := receiptPath }

/-- `acquire_settle_lock` for a leg. A lock that is held can mean that the task was canceled. -/
def acquireLock (reject : TaskState → JsonRpcError) (unavailable : JsonRpcError) :
    Program (Except JsonRpcError Unit) := do
  match ← ask .acquireSettleLock with
  | .ok true => pure (.ok ())
  -- the load only chooses the error
  | .ok false =>
    match ← loadTask with
    | .ok (some record) =>
      if record.state = .canceled then pure (.error (reject .canceled))
      else pure (.error (reject .working))
    | _ => pure (.error (reject .working))
  | .error _ => pure (.error unavailable)

/-- Releases the lock on a failure. -/
def releaseAndFail {α : Type} (e : JsonRpcError) : Program (Except JsonRpcError α) := do
  ask .releaseSettleLock
  pure (.error e)

/-- The check of the state under the lock. -/
def recheckUnderLock (taskId : String) (reject : TaskState → JsonRpcError) :
    Program (Except JsonRpcError TaskRecord) := do
  match ← loadTask with
  | .ok (some current) =>
    if current.state = .inputRequired then pure (.ok current)
    else releaseAndFail (reject current.state)
  | .ok none => releaseAndFail (taskNotFound taskId)
  | .error e => releaseAndFail ⟨errInternal, s!"Task store error: {e}"⟩

/-- The `Working` marker. -/
def markWorking (taskId : String) : Program (Except JsonRpcError Unit) := do
  match ← updateTaskState taskId .working with
  | .ok _ => pure (.ok ())
  | .error e =>
    if e.startsWith "task not found" then releaseAndFail (taskNotFound taskId)
    else releaseAndFail (degraded errInternal)

/-- `revert_working_and_release`. -/
def revertWorkingAndRelease (taskId : String) : Program Unit := do
  -- if the revert fails the task stays `Working`, and the lock is released all the same
  let _ ← updateTaskState taskId .inputRequired
  ask .releaseSettleLock

def revertAndFail {α : Type} (taskId : String) (e : JsonRpcError) :
    Program (Except JsonRpcError α) := do
  revertWorkingAndRelease taskId
  pure (.error e)

def settlementFailedMessage : Option SettlementFailureKind → String
  | some (.rejected (some code)) =>
    s!"Payment was rejected on-chain (program error {code}); this transaction cannot succeed " ++
      "and should not be retried."
  | some (.rejected none) =>
    "Payment was rejected on-chain; this transaction cannot succeed and should not be retried."
  | _ => "Payment settlement failed. Transaction was not confirmed."

/-- Replay check, offer and settlement; the transaction's signature. -/
def collectPayment (devBypassPayment : Bool) (taskId : String) (payment : Payment) :
    Program (Except JsonRpcError (Option String)) := do
  if devBypassPayment then pure (.ok (some "dev_bypass"))
  else if payment.scheme = "channel" then
    revertAndFail taskId
      ⟨errPaymentFailed, "scheme is 'channel' but the payload is not a channel voucher"⟩
  else
    match ← ask (.checkAndRecordTx payment.txRaw payment.isDurableNonce) with
    | .error _ =>
      revertAndFail taskId
        ⟨errPaymentFailed, "Replay attack detected: transaction already processed"⟩
    | .ok _ =>
      match payment.offer with
      | .error e => revertAndFail taskId e
      | .ok _ =>
        match ← ask .verifyAndSettle with
        | .error _ =>
          revertAndFail taskId
            ⟨errPaymentFailed, "Payment verification failed. Check your transaction and retry."⟩
        | .ok settlement =>
          if settlement.success then pure (.ok settlement.txSignature)
          else
            revertAndFail taskId
              ⟨errPaymentFailed, settlementFailedMessage settlement.failureKind⟩

/-- The provider call and what is recorded of it; failed writes are only logged. -/
def deliver (taskId contextId : String) (txSignature : Option String) :
    Program (Except JsonRpcError Task) := do
  match ← ask .chatWithModelFallback with
  | .error _ =>
    let receiptPath ← ask (.recordA2aSettlement txSignature)
    let _ ← updateTaskState taskId .failed
    let _ ← persistTerminalRefs taskId none txSignature receiptPath
    pure (.error ⟨errProviderError,
      "Provider unavailable after settlement. Your payment was collected and recorded — " ++
        "retrieve the payment evidence with tasks/get; do not resubmit a new payment. Contact " ++
        s!"support with task ID {taskId} if needed."⟩)
  | .ok choice =>
    let text := choice.getD ""
    let receiptPath ← ask (.recordA2aSettlement txSignature)
    let _ ← updateTaskState taskId .completed
    let _ ← persistTerminalRefs taskId (some text) txSignature receiptPath
    pure (.ok ⟨taskId, contextId, .completed, some text, txSignature, receiptPath⟩)

/-- `settle_paid_task`, of a task that was loaded with `contextId`. -/
def settlePaidTask (devBypassPayment : Bool) (taskId contextId : String) (payment : Payment) :
    Program (Except JsonRpcError Task) :=
  (acquireLock (rejectForTaskState taskId) (degraded errPaymentFailed)).andThen fun _ =>
    (recheckUnderLock taskId (rejectForTaskState taskId)).andThen fun _ =>
      (markWorking taskId).andThen fun _ =>
        (collectPayment devBypassPayment taskId payment).andThen (deliver taskId contextId)

/-- `cancel_under_lock`. The lock stays when the task is canceled. -/
def cancelUnderLock (taskId : String) : Program (Except JsonRpcError Task) :=
  (acquireLock (notCancelableForState taskId)
    ⟨errInternal, "Cancel is temporarily unavailable; please retry shortly."⟩).andThen fun _ =>
    (recheckUnderLock taskId (notCancelableForState taskId)).andThen fun record => do
      match ← updateTaskState taskId .canceled with
      | .ok _ => pure (.ok ⟨taskId, record.contextId, .canceled, none, none, none⟩)
      | .error _ => releaseAndFail ⟨errInternal, "Cancel could not be persisted; please retry."⟩

/-! ## Any number of legs -/

inductive Fault
  | none
  | notApplied
  | replyLost
deriving DecidableEq

/-- The environment at one command. -/
structure Env where
  redis : Fault
  replay : Except String Unit
  settlement : Except String Settlement
  receiptPath : Option String
  provider : Except String (Option String)

/-- The lock and the task in Redis, and the legs that have settled. The lock's value is the same
for every leg; which leg set it is a record for the specification. -/
structure World where
  lock : Option ℕ
  task : TaskRecord
  settled : List ℕ

/-- A write to Redis, and whether its reply says so. -/
def World.write {α : Type} (w : World) (fault : Fault) (reply : α) (w' : World) :
    Except String α × World :=
  match fault with
  | .none => (.ok reply, w')
  | .notApplied => (.error "cache operation failed", w)
  | .replyLost => (.error "cache operation failed", w')

def Settlement.succeeded : Except String Settlement → Bool
  | .ok settlement => settlement.success
  | .error _ => false

/-- A command of the leg `i`. -/
def exec (env : Env) (i : ℕ) (w : World) : (c : Command) → Reply c × World
  | .acquireSettleLock =>
    match w.lock with
    | none => w.write env.redis true { w with lock := some i }
    | some _ => w.write env.redis false w
  -- a plain delete: the lock has no owner to compare
  | .releaseSettleLock => ((), (w.write env.redis () { w with lock := none }).2)
  | .getTask => w.write env.redis (some w.task) w
  | .setTask record => w.write env.redis () { w with task := record }
  | .checkAndRecordTx _ _ => (env.replay, w)
  | .verifyAndSettle =>
    (env.settlement,
      if Settlement.succeeded env.settlement then { w with settled := w.settled ++ [i] } else w)
  | .recordA2aSettlement _ => (env.receiptPath, w)
  | .chatWithModelFallback => (env.provider, w)

/-- What a leg knows: the record it loaded last, since it last took the lock or wrote the task;
whether its `Working` marker is written and not reverted; whether it has settled. -/
structure Knows where
  snapshot : Option TaskRecord
  marked : Bool
  settled : Bool
deriving DecidableEq

def Knows.nothing : Knows := ⟨none, false, false⟩

def Knows.record (k : Knows) : (c : Command) → Reply c → Knows
  | .acquireSettleLock, _ => { k with snapshot := none }
  | .getTask, .ok (some record) => { k with snapshot := some record }
  | .setTask record, reply =>
    { k with
      snapshot := none
      marked :=
        match record.state, reply with
        | .working, .ok _ => true
        | .inputRequired, _ => false
        | _, _ => k.marked }
  | .verifyAndSettle, reply => { k with settled := k.settled || Settlement.succeeded reply }
  | _, _ => k

/-- A leg: what is left of it. -/
structure Leg where
  started : Bool
  program : Program (Except JsonRpcError Task)
  knows : Knows

structure System where
  world : World
  legs : ℕ → Leg

def Leg.idle : Leg := ⟨false, .done (.error (degraded errInternal)), .nothing⟩

/-- A new task that waits for its payment. -/
def System.init (taskId contextId : String) : System :=
  ⟨⟨none, ⟨taskId, .inputRequired, contextId, none, none, none⟩, []⟩, fun _ => .idle⟩

inductive Label
  | pay (i : ℕ) (devBypassPayment : Bool) (payment : Payment)
  | cancel (i : ℕ)
  | advance (i : ℕ) (env : Env)
  | crash (i : ℕ)
  /-- The lock's time to live ends. -/
  | expire

def System.setLeg (s : System) (i : ℕ) (leg : Leg) : System :=
  { s with legs := fun j => if j = i then leg else s.legs j }

def System.start (s : System) (i : ℕ) (program : Program (Except JsonRpcError Task)) : System :=
  if (s.legs i).started then s else s.setLeg i ⟨true, program, .nothing⟩

/-- One command of a leg. -/
def System.command (s : System) (i : ℕ) (env : Env) (c : Command)
    (next : Reply c → Program (Except JsonRpcError Task)) : System :=
  let out := exec env i s.world c
  System.setLeg { s with world := out.2 } i
    { s.legs i with program := next out.1, knows := (s.legs i).knows.record c out.1 }

def step (s : System) : Label → System
  | .pay i devBypassPayment payment =>
    s.start i (settlePaidTask devBypassPayment s.world.task.id s.world.task.contextId payment)
  | .cancel i => s.start i (cancelUnderLock s.world.task.id)
  | .advance i env =>
    match (s.legs i).program with
    | .done _ => s
    | .call c next => s.command i env c next
  | .crash i =>
    s.setLeg i { s.legs i with program := .done (.error (degraded errInternal)) }
  | .expire => { s with world.lock := none }

end Solvela.A2a
