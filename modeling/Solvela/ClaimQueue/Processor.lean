import Solvela.ClaimQueue.Queue
import Solvela.Lib.Prog
import Solvela.Lib.Runs

/-!
# Claim processors

Any number of processor instances work on one queue. `process_pending_claims` is a program whose
commands are the database statements, the RPC calls and the operations of the instance's own
circuit breaker; other instances, crashes and the cluster interleave freely between them. The
environment's answers are part of the label: which rows other statements have locked, whether a
statement fails or only its reply is lost, and what the RPC node says.

A transaction that `sendTransaction` accepts is pending on the cluster, where it lands, fails or
is dropped at any later time.
-/

namespace Solvela.ClaimQueue

open Solvela.Lib
open Solvela.ChannelLedger

/-! ## The circuit breaker -/

/-- `ClaimCircuitBreaker`, with the default window and pause. -/
structure Breaker where
  successes : ℕ
  failures : ℕ
  lastReset : ℕ
  trippedUntil : Option ℕ
deriving DecidableEq

namespace Breaker

def new (now : ℕ) : Breaker := ⟨0, 0, now, none⟩

def maybeResetWindow (now : ℕ) (b : Breaker) : Breaker :=
  if b.lastReset + 300 ≤ now then { b with successes := 0, failures := 0, lastReset := now } else b

def recordSuccess (now : ℕ) (b : Breaker) : Breaker :=
  let b := b.maybeResetWindow now
  { b with successes := b.successes + 1 }

/-- More than half of at least four samples have failed. -/
def recordFailure (now : ℕ) (b : Breaker) : Breaker :=
  let b := b.maybeResetWindow now
  let failures := b.failures + 1
  let total := b.successes + failures
  if total ≥ 4 ∧ failures * 2 > total ∧ b.trippedUntil = none then
    { b with failures := failures, trippedUntil := some (now + 60) }
  else { b with failures := failures }

def isOpen (now : ℕ) (b : Breaker) : Bool × Breaker :=
  match b.trippedUntil with
  | none => (false, b)
  | some until_ => if until_ ≤ now then (false, ⟨0, 0, now, none⟩) else (true, b)

end Breaker

/-! ## The program of one cycle -/

inductive Command
  | isOpen
  | recordSuccess
  | recordFailure
  | fetchPendingClaims (limit : ℕ)
  | markCompleted (id : ℕ) (txSignature : ClaimTx)
  | markAttemptFailed (id : ℕ) (error : String) (currentAttempts : ℕ)
  /-- `fee_payer_pool.next()`, with which the submission of an entry starts. -/
  | nextFeePayer (entry : ClaimEntry)
  /-- A durable nonce, or else the latest blockhash; a failure to derive an address counts here. -/
  | blockhash
  | sendTransaction (tx : ClaimTx)

@[reducible] def Reply : Command → Type
  | .isOpen => Bool
  | .recordSuccess => Unit
  | .recordFailure => Unit
  | .fetchPendingClaims _ => Except String (List ClaimEntry)
  | .markCompleted _ _ => Except String Unit
  | .markAttemptFailed _ _ _ => Except String Unit
  | .nextFeePayer _ => Except String Pubkey
  | .blockhash => Except String ℕ
  | .sendTransaction _ => Except String Unit

abbrev Program := Prog Command Reply

abbrev ask (c : Command) : Program (Reply c) := Prog.ask c

/-- `do_claim_with_params` for an entry, its agent decoded. -/
def doClaim (recipientWallet : Pubkey) (entry : ClaimEntry) (agent : Pubkey) :
    Program (Except String ClaimTx) := do
  match ← ask (.nextFeePayer entry) with
  | .error e => pure (.error s!"no healthy fee payer: {e}")
  | .ok feePayer =>
    match ← ask .blockhash with
    | .error e => pure (.error e)
    | .ok blockhash =>
      if feePayer ≠ recipientWallet then
        pure (.error ("fee_payer_key must belong to the recipient_wallet; " ++
          "separate fee payer and provider keys are not supported " ++
          "because only the fee_payer_key is available for signing"))
      else
        let tx : ClaimTx := ⟨entry.serviceId, agent, entry.claimAmount, feePayer, blockhash⟩
        match ← ask (.sendTransaction tx) with
        -- accepted is not landed, and nothing polls for the transaction
        | .error e => pure (.error e)
        | .ok _ => pure (.ok tx)

/-- A failed attempt; a statement that fails is only logged. -/
def failEntry (entry : ClaimEntry) (error : String) : Program Unit := do
  let _ ← ask (.markAttemptFailed entry.id error entry.attempts)
  ask .recordFailure

/-- The decoder's own text, after that of the failed attempt, is left out. -/
def processEntry (recipientWallet : Pubkey) (entry : ClaimEntry) : Program Unit :=
  if entry.attempts > maxClaimAttempts then
    failEntry entry "exceeded maximum retry attempts (10)"
  else
    match decodeBs58Pubkey entry.agentPubkey with
    | none => failEntry entry "invalid agent pubkey"
    | some agent => do
      match ← doClaim recipientWallet entry agent with
      -- a statement that fails here is logged, and the row stays in progress
      | .ok tx =>
        let _ ← ask (.markCompleted entry.id tx)
        ask .recordSuccess
      | .error e => failEntry entry e

def processEntries (recipientWallet : Pubkey) : List ClaimEntry → Program Unit
  | [] => pure ()
  | entry :: rest => do
    processEntry recipientWallet entry
    processEntries recipientWallet rest

/-- `process_pending_claims`. -/
def processPendingClaims (recipientWallet : Pubkey) : Program Unit := do
  if ← ask .isOpen then pure ()
  else
    match ← ask (.fetchPendingClaims 10) with
    | .error _ => pure ()
    | .ok pending => processEntries recipientWallet pending

/-! ## The cluster and the processors -/

/-- What the cluster knows of a transaction. -/
inductive TxState
  | unknown
  | pending
  | landed
  | failed
  | dropped
deriving DecidableEq

/-- A transaction that is accepted again stays as it is, unless it had been dropped. -/
def TxState.accept : TxState → TxState
  | .unknown => .pending
  | .dropped => .pending
  | s => s

inductive Fault
  | none
  | notApplied
  | replyLost
deriving DecidableEq

inductive SendAnswer
  | accepted
  | rejected (error : String)
  | replyLost
deriving DecidableEq

/-- The environment at one command. -/
structure Env where
  locked : ℕ → Bool
  database : Fault
  feePayer : Except String Pubkey
  blockhash : Except String ℕ
  send : SendAnswer

/-- The queue, the cluster and the records of what was fetched and submitted: ids and attempts. -/
structure World where
  clock : ℕ
  rows : Rows
  cluster : ClaimTx → TxState
  fetched : List (ℕ × ℕ)
  submitted : List (ℕ × ℕ)

/-- A statement on the rows, and whether its reply says so. -/
def World.statement (w : World) (fault : Fault) (f : Rows → Rows) : Except String Unit × World :=
  match fault with
  | .none => (.ok (), { w with rows := f w.rows })
  | .notApplied => (.error "database error", w)
  | .replyLost => (.error "database error", { w with rows := f w.rows })

def ClaimEntry.attempt (e : ClaimEntry) : ℕ × ℕ := (e.id, e.attempts)

/-- A command of an instance with its breaker. -/
def exec (env : Env) (w : World) (b : Breaker) : (c : Command) → Reply c × World × Breaker
  | .isOpen => ((b.isOpen w.clock).1, w, (b.isOpen w.clock).2)
  | .recordSuccess => ((), w, b.recordSuccess w.clock)
  | .recordFailure => ((), w, b.recordFailure w.clock)
  | .fetchPendingClaims limit =>
    let out := fetchPendingClaims w.clock env.locked limit w.rows
    let w' := { w with rows := out.2, fetched := w.fetched ++ out.1.map ClaimEntry.attempt }
    match env.database with
    | .none => (.ok out.1, w', b)
    | .notApplied => (.error "failed to fetch pending claims", w, b)
    -- the rows are leased, and no instance knows of it
    | .replyLost => (.error "failed to fetch pending claims", w', b)
  | .markCompleted id tx =>
    let out := w.statement env.database (markCompleted w.clock id tx)
    (out.1, out.2, b)
  | .markAttemptFailed id error attempts =>
    let out := w.statement env.database (markAttemptFailed w.clock id error attempts)
    (out.1, out.2, b)
  | .nextFeePayer entry =>
    -- every submission starts here, so this is where it is recorded
    (env.feePayer, { w with submitted := w.submitted ++ [entry.attempt] }, b)
  | .blockhash => (env.blockhash, w, b)
  | .sendTransaction tx =>
    let accepted :=
      { w with cluster := fun t => if t = tx then (w.cluster tx).accept else w.cluster t }
    match env.send with
    | .accepted => (.ok (), accepted, b)
    | .rejected e => (.error s!"sendTransaction error: {e}", w, b)
    -- the node has got the transaction, and the instance takes it for a failure
    | .replyLost => (.error "rpc error", accepted, b)

/-- What an instance has fetched in this cycle and not yet submitted, and not yet marked, and the
transaction that the node has accepted from it, if that was its last command. -/
structure Holding where
  unsubmitted : List ClaimEntry
  unmarked : List ClaimEntry
  accepted : Option ClaimTx

def Holding.none : Holding := ⟨[], [], .none⟩

def Holding.recordEntries (h : Holding) : (c : Command) → Reply c → Holding
  | .fetchPendingClaims _, .ok pending => { h with unsubmitted := pending, unmarked := pending }
  | .nextFeePayer entry, _ =>
    { h with unsubmitted := h.unsubmitted.filter fun e => e.attempt ≠ entry.attempt }
  | .markCompleted id _, _ => { h with unmarked := h.unmarked.filter fun e => e.id ≠ id }
  | .markAttemptFailed id _ _, _ => { h with unmarked := h.unmarked.filter fun e => e.id ≠ id }
  | _, _ => h

/-- The transaction that the node has accepted with its reply. -/
def acceptedBy : (c : Command) → Reply c → Option ClaimTx
  | .sendTransaction tx, .ok _ => some tx
  | _, _ => none

def Holding.record (h : Holding) (c : Command) (r : Reply c) : Holding :=
  { h.recordEntries c r with accepted := acceptedBy c r }

/-- A processor instance: what is left of its cycle. -/
structure Processor where
  breaker : Breaker
  program : Program Unit
  holding : Holding

structure System where
  world : World
  processors : ℕ → Processor

/-- An empty queue, and instances that have just started. -/
def System.init : System :=
  ⟨⟨0, [], fun _ => .unknown, [], []⟩, fun _ => ⟨.new 0, .done (), .none⟩⟩

inductive Label
  | tick (seconds : ℕ)
  | enqueue (serviceId : Pubkey) (agentPubkey : String) (claimAmount : ℕ)
      (depositedAmount : Option ℕ)
  | start (i : ℕ)
  | advance (i : ℕ) (env : Env)
  | crash (i : ℕ)
  | land (tx : ClaimTx)
  | fail (tx : ClaimTx)
  | drop (tx : ClaimTx)

/-- The fate of a pending transaction. -/
def World.decide (w : World) (tx : ClaimTx) (fate : TxState) : World :=
  if w.cluster tx = .pending then
    { w with cluster := fun t => if t = tx then fate else w.cluster t }
  else w

def System.setProcessor (s : System) (i : ℕ) (p : Processor) : System :=
  { s with processors := fun j => if j = i then p else s.processors j }

/-- One command of an instance. -/
def System.command (s : System) (i : ℕ) (env : Env) (c : Command)
    (next : Reply c → Program Unit) : System :=
  let p := s.processors i
  let out := exec env s.world p.breaker c
  System.setProcessor { s with world := out.2.1 } i
    ⟨out.2.2, next out.1, p.holding.record c out.1⟩

def step (recipientWallet : Pubkey) (s : System) : Label → System
  | .tick seconds => { s with world.clock := s.world.clock + seconds }
  | .enqueue serviceId agentPubkey claimAmount depositedAmount =>
    { s with
      world.rows := enqueueClaim s.world.clock serviceId agentPubkey claimAmount depositedAmount
        s.world.rows }
  | .start i =>
    match (s.processors i).program with
    | .done _ =>
      s.setProcessor i
        { s.processors i with program := processPendingClaims recipientWallet, holding := .none }
    | .call _ _ => s
  | .advance i env =>
    match (s.processors i).program with
    | .done _ => s
    | .call c next => s.command i env c next
  | .crash i => s.setProcessor i ⟨.new s.world.clock, .done (), .none⟩
  | .land tx => { s with world := s.world.decide tx .landed }
  | .fail tx => { s with world := s.world.decide tx .failed }
  | .drop tx => { s with world := s.world.decide tx .dropped }

/-! ## The specification of a cycle -/

/-- The entries of one fetch have different ids. -/
def claimGhost : Prog.Ghost Command Reply Holding where
  move := Holding.record
  can := fun _ c r =>
    match c, r with
    | .fetchPendingClaims _, .ok pending => (pending.map ClaimEntry.id).Nodup
    | _, _ => True

/-- A claim transaction is for the escrow of an entry or a row. -/
def ClaimTx.forEscrow (tx : ClaimTx) (serviceId : Pubkey) (agentPubkey : String) : Prop :=
  tx.serviceId = serviceId ∧ decodeBs58Pubkey agentPubkey = some tx.agent

/-- An instance submits what it holds, up to the maximum of attempts, and marks what it holds. It
completes a row with the transaction that the node has just accepted from it, and sends nothing
else after an acceptance. -/
def ClaimMid (h : Holding) : Command → Prop
  | .nextFeePayer entry =>
    h.accepted = none ∧ entry ∈ h.unsubmitted ∧ entry.attempts ≤ maxClaimAttempts
  | .markCompleted id tx =>
    h.accepted = some tx ∧ ∃ e ∈ h.unmarked, e.id = id ∧ tx.forEscrow e.serviceId e.agentPubkey
  | .markAttemptFailed id _ attempts =>
    h.accepted = none ∧ ∃ e ∈ h.unmarked, e.id = id ∧ e.attempts = attempts
  | _ => h.accepted = none

end Solvela.ClaimQueue
