import Solvela.Ledger.Pubkey
import Solvela.Ledger.Schema
import Solvela.Lib.Prog
import Solvela.Lib.Table

/-!
# The gas faucet

`Faucet::drip` reserves the wallet in the table `gas_drips`, passes its gates and sends a
transfer; where a gate declines, or the send fails, it deletes the reservation again. The calls
run concurrently, one statement or RPC call at a time.

A statement of the database may fail without effect, or its acknowledgement may be lost. A
`sendTransaction` may be refused by the node, or its response may be lost, and then the cluster
may have the transfer. What the cluster has may land at any later time. A call that crashes takes
no further step.
-/

namespace Solvela.Faucet

open Solvela.ChannelLedger Solvela.Lib

/-! ## The pipeline -/

/-- `FaucetParams`. -/
structure FaucetParams where
  dripLamports : ℕ
  usdcFloorAtomic : ℕ
  solLowWaterLamports : ℕ
  dailyCapLamports : ℕ

/-- `FaucetError`. -/
inductive FaucetError
  | rpc (message : String)
  | transfer (message : String)
  | alreadyProcessed

/-- `DripOutcome`, but `Disabled`, which the route decides. -/
inductive DripOutcome
  | funded (txSignature : String) (lamports : ℕ)
  | alreadyFunded (txSignature : Option String)
  | insufficientUsdc
  | alreadyHasSol
  | dailyCap
  | sourceEmpty
  | sendFailed
  | badWallet

/-- `DRIP_TX_FEE_LAMPORTS`. -/
def dripTxFeeLamports : ℕ := 5000

/-- A signed transfer of the gas wallet. The same recipient, amount and blockhash give the same
transaction. -/
structure Transfer where
  recipient : Pubkey
  lamports : ℕ
  blockhash : ℕ
deriving DecidableEq

/-- `sign_system_transfer`, with the key the source was built with. -/
def signSystemTransfer (recipient : Pubkey) (lamports blockhash : ℕ) : Except String Transfer :=
  if lamports = 0 then .error "transfer amount must be greater than zero lamports"
  else .ok ⟨recipient, lamports, blockhash⟩

/-- A text within another one. -/
def hasText (text within : List Char) : Bool := within.tails.any (text.isPrefixOf ·)

/-- `is_already_processed_error`. -/
def isAlreadyProcessedError (error : String) : Bool :=
  let lower := error.toList.map Char.toLower
  hasText "already processed".toList lower || hasText "already been processed".toList lower ||
    hasText "alreadyprocessed".toList lower

/-- What a call does between two points where it can crash. -/
inductive Cmd
  | reserve (wallet : String) (lamports : ℕ)
  | priorSignature (wallet : String)
  | dayTotalLamports
  | usdcBalance (wallet : String)
  | solBalance (wallet : String)
  | sourceSolBalance
  | latestBlockhash
  | sendTransaction (tx : Transfer)
  | deleteReservation (wallet : String)
  | recordSignature (wallet signature : String)

abbrev Reply : Cmd → Type
  | .reserve _ _ => Except String Bool
  | .priorSignature _ => Except String (Option String)
  | .dayTotalLamports => Except String ℕ
  | .usdcBalance _ => Except String ℕ
  | .solBalance _ => Except String ℕ
  | .sourceSolBalance => Except String ℕ
  | .latestBlockhash => Except String ℕ
  | .sendTransaction _ => Except String String
  | .deleteReservation _ => Except String Unit
  | .recordSignature _ _ => Except String Unit

/-- A call of the faucet, by what it does and returns. -/
abbrev Call := Prog Cmd Reply

section Pipeline
variable (p : FaucetParams) (wallet : String) (recipient : Pubkey)

/-- The reply of `sendTransaction`, as `send_drip` returns it. -/
def classifySend : Except String String → Except FaucetError String
  | .ok signature => .ok signature
  | .error e => if isAlreadyProcessedError e then .error .alreadyProcessed else .error (.rpc e)

/-- `RpcGasSource::send_drip`, with the blockhash. -/
def sendWith : Except String ℕ → Call (Except FaucetError String)
  | .error e => pure (.error (.rpc e))
  | .ok blockhash =>
    match signSystemTransfer recipient p.dripLamports blockhash with
    | .error e => pure (.error (.transfer e))
    | .ok tx => Prog.ask (Cmd.sendTransaction tx) >>= fun sent => pure (classifySend sent)

/-- `RpcGasSource::send_drip`. -/
def sendDrip : Call (Except FaucetError String) :=
  Prog.ask Cmd.latestBlockhash >>= sendWith p recipient

/-- `Faucet::rollback`, and the outcome after it. A failed delete is only logged. -/
def rollback (outcome : DripOutcome) : Call DripOutcome :=
  Prog.ask (Cmd.deleteReservation wallet) >>= fun _ => pure outcome

/-- After the send. -/
def afterSend : Except FaucetError String → Call DripOutcome
  | .ok signature =>
    Prog.ask (Cmd.recordSignature wallet signature) >>= fun _ =>
      pure (.funded signature p.dripLamports)
  | .error .alreadyProcessed => pure (.alreadyFunded none)
  | .error (.rpc _) => rollback wallet .sendFailed
  | .error (.transfer _) => rollback wallet .sendFailed

/-- `required_lamports`: a saturating sum. -/
def requiredLamports : ℕ := min (p.dripLamports + dripTxFeeLamports) u64Max

/-- The balance of the gas wallet. The send fails on its own if the source is dry. -/
def sourceGate : Except String ℕ → Call DripOutcome
  | .ok balance =>
    if balance < requiredLamports p then rollback wallet .sourceEmpty
    else sendDrip p recipient >>= afterSend p wallet
  | .error _ => sendDrip p recipient >>= afterSend p wallet

/-- Gate 6, the SOL low-water mark. An error is indeterminate, and the reservation retained. -/
def solGate : Except String ℕ → Call DripOutcome
  | .ok lamports =>
    if lamports < p.solLowWaterLamports then
      Prog.ask Cmd.sourceSolBalance >>= sourceGate p wallet recipient
    else rollback wallet .alreadyHasSol
  | .error _ => pure .sendFailed

/-- Gate 5, the USDC floor. -/
def usdcGate : Except String ℕ → Call DripOutcome
  | .ok atomic =>
    if atomic ≥ p.usdcFloorAtomic then
      Prog.ask (Cmd.solBalance wallet) >>= solGate p wallet recipient
    else rollback wallet .insufficientUsdc
  | .error _ => rollback wallet .sendFailed

/-- Gate 4, the daily cap. -/
def capGate : Except String ℕ → Call DripOutcome
  | .ok total =>
    if total ≥ p.dailyCapLamports then rollback wallet .dailyCap
    else Prog.ask (Cmd.usdcBalance wallet) >>= usdcGate p wallet recipient
  | .error _ => rollback wallet .sendFailed

/-- Gate 3, the reservation. -/
def reserveGate : Except String Bool → Call DripOutcome
  | .ok true => Prog.ask Cmd.dayTotalLamports >>= capGate p wallet recipient
  | .ok false =>
    Prog.ask (Cmd.priorSignature wallet) >>= fun prior : Except String (Option String) =>
      pure (.alreadyFunded (prior.toOption.join))
  | .error _ => pure .sendFailed

/-- `Faucet::drip`. -/
def drip : Call DripOutcome :=
  match decodeBs58Pubkey wallet with
  | none => pure .badWallet
  | some recipient =>
    Prog.ask (Cmd.reserve wallet p.dripLamports) >>= reserveGate p wallet recipient

end Pipeline

/-! ## The system -/

/-- A row of `gas_drips`. `holder` is the call that inserted it; the table has no column for it. -/
structure DripRow where
  lamports : ℕ
  txSignature : Option String
  createdAt : ℕ
  holder : ℕ

/-- How far a call has got with its reservation. -/
inductive Phase
  | start
  /-- The reservation is held, and whether the cap has been passed. -/
  | holding (capped : Bool)
  /-- The transfer is out. -/
  | sent
  | over
deriving DecidableEq

/-- A running call. `reservedAt` is the date of its reservation. -/
structure Task where
  wallet : String
  phase : Phase
  reservedAt : ℕ
  prog : Call DripOutcome

/-- A drip that the node did not refuse: it was broadcast, or may have been. -/
structure Attempt where
  wallet : String
  holder : ℕ
  reservedAt : ℕ
  tx : Transfer
  accepted : Bool

structure System where
  now : ℕ
  rows : Table String DripRow
  tasks : List Task
  attempts : List Attempt
  landed : List Transfer

/-- What becomes of a statement. -/
inductive DbFault
  | none
  | noEffect
  | lostAck

/-- What becomes of a `sendTransaction`. -/
inductive SendOutcome
  | accepted (signature : String)
  | refused (error : String)
  | lost (error : String) (accepted : Bool)

/-- What the environment contributes to a step. -/
structure Env where
  fault : DbFault
  rpc : Except String ℕ
  send : SendOutcome

inductive Label
  | spawn (wallet : String)
  | step (i : ℕ) (env : Env)
  | land (n : ℕ)
  | advance (secs : ℕ)

/-- The UTC day of a time in seconds. -/
def utcDay (t : ℕ) : ℕ := t / 86400

section Statements
variable (s : System)

/-- `PgGasLedger::reserve`. -/
def reserve (holder : ℕ) (wallet : String) (lamports : ℕ) : Except String Bool × System :=
  if lamports > i64Max then (.error s!"lamports {lamports} exceeds BIGINT range", s)
  else
    match s.rows.lookup wallet with
    | some _ => (.ok false, s)
    | none =>
      (.ok true, { s with rows := s.rows.insert wallet ⟨lamports, none, s.now, holder⟩ })

/-- `PgGasLedger::delete_reservation`. -/
def deleteReservation (wallet : String) : System :=
  match s.rows.lookup wallet with
  | some row => if row.txSignature = none then { s with rows := s.rows.erase wallet } else s
  | none => s

/-- The total of a UTC day. -/
def dayTotal (day : ℕ) : ℕ :=
  Table.sumBy (fun _ row => if utcDay row.createdAt = day then row.lamports else 0) s.rows

/-- `PgGasLedger::day_total_lamports`, by the clock of the database. -/
def dayTotalLamports : Except String ℕ :=
  if dayTotal s (utcDay s.now) > i64Max then .error "bigint out of range"
  else .ok (dayTotal s (utcDay s.now))

/-- `PgGasLedger::record_signature`. -/
def recordSignature (wallet signature : String) : System :=
  match s.rows.lookup wallet with
  | some row => { s with rows := s.rows.insert wallet { row with txSignature := some signature } }
  | none => s

/-- A statement with a fault. -/
def DbFault.apply {α : Type} (fault : DbFault) (s : System) (out : Except String α × System) :
    Except String α × System :=
  match fault with
  | .none => out
  | .noEffect => (.error "connection lost", s)
  | .lostAck => (.error "connection lost", out.2)

/-- `sendTransaction`. -/
def sendTransaction (i : ℕ) (t : Task) (tx : Transfer) :
    SendOutcome → Except String String × System
  | .accepted signature =>
    (.ok signature, { s with attempts := s.attempts ++ [⟨t.wallet, i, t.reservedAt, tx, true⟩] })
  | .refused error => (.error error, s)
  | .lost error accepted =>
    (.error error,
      { s with attempts := s.attempts ++ [⟨t.wallet, i, t.reservedAt, tx, accepted⟩] })

/-- One command of call `i`. -/
def execute (i : ℕ) (t : Task) (env : Env) : (c : Cmd) → Reply c × System
  | .reserve wallet lamports => env.fault.apply s (reserve s i wallet lamports)
  | .priorSignature wallet =>
    env.fault.apply s (.ok ((s.rows.lookup wallet).bind (·.txSignature)), s)
  | .dayTotalLamports => env.fault.apply s (dayTotalLamports s, s)
  | .usdcBalance _ => (env.rpc, s)
  | .solBalance _ => (env.rpc, s)
  | .sourceSolBalance => (env.rpc, s)
  | .latestBlockhash => (env.rpc, s)
  | .sendTransaction tx => sendTransaction s i t tx env.send
  | .deleteReservation wallet => env.fault.apply s (.ok (), deleteReservation s wallet)
  | .recordSignature wallet signature =>
    env.fault.apply s (.ok (), recordSignature s wallet signature)

end Statements

/-- How a reply moves the phase of a call. -/
def Phase.move (p : FaucetParams) (phase : Phase) : (c : Cmd) → Reply c → Phase
  | .reserve _ _, reply => match reply with
    | .ok true => .holding false
    | _ => .over
  | .dayTotalLamports, reply => match reply with
    | .ok total => if total ≥ p.dailyCapLamports then phase else .holding true
    | .error _ => phase
  | .sendTransaction _, reply => match classifySend reply with
    | .ok _ => .sent
    | .error .alreadyProcessed => .sent
    | .error _ => phase
  | .deleteReservation _, _ => .over
  | _, _ => phase

/-- The date of the reservation after a command. -/
def reservedAtAfter (now : ℕ) (t : Task) : (c : Cmd) → ℕ
  | .reserve _ _ => now
  | _ => t.reservedAt

def step (p : FaucetParams) (s : System) : Label → System
  | .spawn wallet => { s with tasks := s.tasks ++ [⟨wallet, .start, 0, drip p wallet⟩] }
  | .step i env =>
    match s.tasks[i]? with
    | some ⟨wallet, phase, reservedAt, .call c next⟩ =>
      let t : Task := ⟨wallet, phase, reservedAt, .call c next⟩
      let (reply, s') := execute s i t env c
      { s' with
        tasks := s.tasks.set i
          ⟨wallet, phase.move p c reply, reservedAtAfter s.now t c, next reply⟩ }
    | _ => s
  | .land n =>
    match s.attempts[n]? with
    | some attempt =>
      if attempt.accepted = true ∧ attempt.tx ∉ s.landed then
        { s with landed := attempt.tx :: s.landed }
      else s
    | none => s
  | .advance secs => { s with now := s.now + secs }

/-- An empty table and no call. -/
def start (now : ℕ) : System where
  now := now
  rows := ∅
  tasks := []
  attempts := []
  landed := []

end Solvela.Faucet
