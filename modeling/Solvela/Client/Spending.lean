import Solvela.Client.Reserved
import Solvela.Lib.Prog
import Solvela.Lib.Runs

/-!
# Calls that share a session budget

A call of either client is a program: it fetches, reserves the cost of a 402 answer, has a payment
signed, sends it and waits for the answer, and gives the reservation back when something fails.
Any number of calls run at once; each reservation is one step, under the mutex of the MCP client
and by the single thread of the AI SDK provider.

The gateway collects a payment that was sent when it likes: before the answer, after it, or never.
-/

namespace Solvela.Client

open Solvela.Lib

/-! ## The programs -/

/-- An answer: its status, its body if it can be read, and whether that is JSON. -/
structure Response where
  status : ℕ
  text : Option String
  isJson : Bool

/-- `resp.ok`. -/
def Response.ok (resp : Response) : Bool := 200 ≤ resp.status ∧ resp.status < 300

inductive Command
  /-- The request without a payment. -/
  | fetch
  | reserve (cost : ℕ)
  /-- `refundReservation`, or `release`. -/
  | giveBack (cost : ℕ)
  | finalize
  /-- The key and the RPC node of the MCP client, as it signs. -/
  | signer
  /-- `wallet.signPayment` of a wallet adapter. -/
  | signPayment (paymentRequired : PaymentRequired)
  | aborted
  /-- The retry, with its header. -/
  | send (header : Option PaymentHeader)
  | answer

@[reducible] def Reply : Command → Type
  | .fetch => Except String Response
  | .reserve _ => Except String Unit
  | .giveBack _ => Unit
  | .finalize => Unit
  | .signer => Signer
  | .signPayment _ => Except String PaymentHeader
  | .aborted => Bool
  | .send _ => Unit
  | .answer => Except String Response

abbrev Program := Prog Command Reply

abbrev ask (c : Command) : Program (Reply c) := Prog.ask c

def refundAndThrow (costMicro : ℕ) (e : String) : Program (Except String Response) := do
  ask (.giveBack costMicro)
  pure (.error e)

/-- `parsePaidJson`. -/
def parsePaidJson (costMicroCommitted : Option ℕ) (resp : Response) :
    Program (Except String Response) :=
  if resp.isJson then pure (.ok resp)
  else
    match costMicroCommitted with
    | some costMicro => refundAndThrow costMicro "Gateway returned malformed JSON"
    | none => pure (.error "Gateway returned malformed JSON")

def gatewayError (resp : Response) : String :=
  let status := resp.status
  s!"Gateway error {status}"

/-- The retry of `paidCall`: without a header its reservation stays on an error status. -/
def mcpRetry (costMicro : ℕ) (header : Option PaymentHeader) :
    Program (Except String Response) := do
  ask (.send header)
  match ← ask .answer with
  | .error e => refundAndThrow costMicro e
  | .ok resp =>
    if resp.ok then parsePaidJson (some costMicro) resp
    else
      match header with
      | some _ => refundAndThrow costMicro (gatewayError resp)
      | none => pure (.error (gatewayError resp))

/-- `paidCall`, with the `parsePaidJson` of its caller. -/
def paidCall (js : JsNumber) (jsonParse : String → Option Json) (config : McpConfig)
    (url : String) : Program (Except String Response) := do
  match ← ask .fetch with
  | .error e => pure (.error e)
  | .ok resp =>
    if resp.status = 402 then
      match resp.text with
      | none => pure (.error "body stream failed")
      | some raw =>
        match mcpQuote js jsonParse raw with
        | .error e => pure (.error e)
        | .ok (paymentInfo, costMicro) =>
          match ← ask (.reserve costMicro) with
          | .error e => pure (.error e)
          | .ok _ =>
            let signer ← ask .signer
            match mcpSign config signer paymentInfo costMicro url with
            | .error e => refundAndThrow costMicro e
            | .ok header => mcpRetry costMicro header
    else if resp.ok then parsePaidJson none resp
    else pure (.error (gatewayError resp))

/-- The retry of `solvelaFetch`. -/
def aiSdkRetry (cost : ℕ) (header : PaymentHeader) : Program (Except String Response) := do
  ask (.send (some header))
  match ← ask .answer with
  | .error e => refundAndThrow cost e
  | .ok resp =>
    if resp.ok then
      ask .finalize
      -- the body is not read here
      pure (.ok resp)
    else if resp.status = 402 then refundAndThrow cost "Payment rejected after retry"
    else
      let status := resp.status
      refundAndThrow cost s!"[solvela] upstream request failed after payment (status {status})"

/-- `solvelaFetch`. `callerSig` is a signature of the caller's own, and `body` the check of the
body's type and size. -/
def solvelaFetch (js : JsNumber) (jsonParse : String → Option Json) (callerSig : Bool)
    (body : Except String Unit) : Program (Except String Response) := do
  match ← ask .fetch with
  | .error e => pure (.error e)
  | .ok resp =>
    if resp.status ≠ 402 then pure (.ok resp)
    else if callerSig then
      pure (.error "caller supplied PAYMENT-SIGNATURE; refusing to re-sign")
    else
      match aiSdkQuote js jsonParse resp.text, body with
      | .error e, _ => pure (.error e)
      | .ok _, .error e => pure (.error e)
      | .ok (parsed, _, cost), .ok _ =>
        match ← ask (.reserve cost) with
        | .error e => pure (.error e)
        | .ok _ =>
          match ← ask (.signPayment parsed) with
          | .error _ => refundAndThrow cost "[solvela] wallet adapter failed to sign payment"
          | .ok header =>
            if ← ask .aborted then refundAndThrow cost "The operation was aborted"
            else aiSdkRetry cost header

/-! ## The budgets -/

/-- The counters of a session: of a `GatewayClient` with the figure of its session file, or a
`BudgetState`. -/
inductive Purse
  | mcp (sessionBudget stored : Option ℕ) (sessionSpentMicro : ℕ) (sessionStateLoaded : Bool)
  | aiSdk (available : Option ℤ) (reserved : ℕ → Option ℕ) (totalReserved : ℤ)

/-- An amount of micro-USDC with six decimals. -/
def toFixed6 (micro : ℕ) : String :=
  let whole := micro / 1000000
  let decimals := (Nat.toDigits 10 (1000000 + micro % 1000000)).tail
  s!"{whole}." ++ String.ofList decimals

/-- The reservation of `paidCall`, with `applyPersistedStateOnce`. -/
def mcpReserve (sessionBudget stored : Option ℕ) (sessionSpentMicro : ℕ)
    (sessionStateLoaded : Bool) (costMicro : ℕ) : Except String Unit × Purse :=
  let spent := if sessionStateLoaded then sessionSpentMicro else stored.getD sessionSpentMicro
  match sessionBudget with
  | none => (.ok (), .mcp sessionBudget stored (spent + costMicro) true)
  | some budgetMicro =>
    if budgetMicro < spent + costMicro then
      let budget := toFixed6 budgetMicro
      let spentText := toFixed6 spent
      let cost := toFixed6 costMicro
      (.error s!"Session budget ${budget} USDC exceeded (spent: ${spentText}, request cost: ${cost})",
        .mcp sessionBudget stored spent true)
    else (.ok (), .mcp sessionBudget stored (spent + costMicro) true)

/-- `reserve` of a `BudgetState`, for the request `i`. -/
def aiSdkReserve (i : ℕ) (available : Option ℤ) (reserved : ℕ → Option ℕ) (totalReserved : ℤ)
    (cost : ℕ) : Except String Unit × Purse :=
  match available with
  | none => (.ok (), .aiSdk none reserved totalReserved)
  | some total =>
    let remaining := total - totalReserved
    if remaining < cost then
      (.error (s!"[solvela] session budget exceeded: request cost {cost} exceeds remaining " ++
          s!"{remaining} (total {total})."), .aiSdk available reserved totalReserved)
    else
      (.ok (), .aiSdk available (fun j => if j = i then some cost else reserved j)
        (totalReserved + cost))

namespace Purse

def reserve (i cost : ℕ) : Purse → Except String Unit × Purse
  | mcp sessionBudget stored spent loaded => mcpReserve sessionBudget stored spent loaded cost
  | aiSdk available reserved totalReserved => aiSdkReserve i available reserved totalReserved cost

/-- `refundReservation`, whose subtraction stops at zero, and `release`, which knows the amount. -/
def giveBack (i cost : ℕ) : Purse → Purse
  | mcp sessionBudget stored spent loaded => mcp sessionBudget stored (spent - cost) loaded
  | aiSdk available reserved totalReserved =>
    match reserved i with
    | none => aiSdk available reserved totalReserved
    | some held =>
      aiSdk available (fun j => if j = i then none else reserved j) (totalReserved - held)

/-- `finalize`. -/
def finalize (i : ℕ) : Purse → Purse
  | mcp sessionBudget stored spent loaded => mcp sessionBudget stored spent loaded
  | aiSdk available reserved totalReserved =>
    match reserved i with
    | none => aiSdk available reserved totalReserved
    | some held =>
      aiSdk (available.map (· - held)) (fun j => if j = i then none else reserved j)
        (totalReserved - held)

end Purse

/-! ## Any number of calls -/

/-- A client with its options. `stored` is what the session file says was spent. -/
inductive Session
  | mcp (config : McpConfig) (stored : Option ℕ)
  | aiSdk (sessionBudget : Option ℕ)

namespace Session

def sessionBudget : Session → Option ℕ
  | mcp config _ => config.sessionBudget
  | aiSdk sessionBudget => sessionBudget

def purse : Session → Purse
  | mcp config stored => .mcp config.sessionBudget stored 0 false
  | aiSdk sessionBudget => .aiSdk (sessionBudget.map (↑)) (fun _ => none) 0

/-- The request of a call: its url, whether its caller signed it, and the check of its body. -/
structure Request where
  url : String
  callerSig : Bool
  body : Except String Unit

def program (js : JsNumber) (jsonParse : String → Option Json) (request : Request) :
    Session → Program (Except String Response)
  | mcp config _ => paidCall js jsonParse config request.url
  | aiSdk _ => solvelaFetch js jsonParse request.callerSig request.body

/-- The answers to a retry that a client takes for a failure. -/
def fails : Session → Except String Response → Bool
  | _, .error _ => true
  | mcp _ _, .ok resp => !(resp.ok && resp.isJson)
  | aiSdk _, .ok resp => !resp.ok

end Session

/-- What a call has in the budget. -/
inductive Booking
  | none
  | reserved (cost : ℕ)
  | finalized (cost : ℕ)

def Booking.amount : Booking → ℕ
  | none => 0
  | reserved cost => cost
  | finalized cost => cost

/-- What a call did so far: its booking, the USDC of the payment it sent, and whether it took the
answer for a failure. -/
structure Record where
  booking : Booking
  sent : Option ℕ
  failed : Bool

def Record.empty : Record := ⟨.none, none, false⟩

def Record.next (session : Session) (r : Record) : (c : Command) → Reply c → Record
  | .reserve cost, .ok _ => { r with booking := .reserved cost }
  | .giveBack _, _ => { r with booking := .none }
  | .finalize, _ => { r with booking := .finalized r.booking.amount }
  | .send (some header), _ => { r with sent := some header.payload.moved }
  | .answer, reply => { r with failed := session.fails reply }
  | _, _ => r

structure Call where
  program : Program (Except String Response)
  record : Record
  collected : Bool

structure System where
  purse : Purse
  calls : List Call

/-- The world outside at one command. -/
structure Env where
  fetched : Except String Response
  signer : Signer
  wallet : Except String PaymentHeader
  aborted : Bool
  answer : Except String Response

/-- A command of the call `i`. -/
def exec (env : Env) (i : ℕ) (purse : Purse) : (c : Command) → Reply c × Purse
  | .fetch => (env.fetched, purse)
  | .reserve cost => purse.reserve i cost
  | .giveBack cost => ((), purse.giveBack i cost)
  | .finalize => ((), purse.finalize i)
  | .signer => (env.signer, purse)
  | .signPayment _ => (env.wallet, purse)
  | .aborted => (env.aborted, purse)
  | .send _ => ((), purse)
  | .answer => (env.answer, purse)

inductive Label
  | start (request : Session.Request)
  | advance (i : ℕ) (env : Env)
  /-- The gateway collects the payment of a call. -/
  | collect (i : ℕ)

section
variable (js : JsNumber) (jsonParse : String → Option Json) (session : Session)

def System.init : System := ⟨session.purse, []⟩

def step (s : System) : Label → System
  | .start request =>
    { s with calls := s.calls ++ [⟨session.program js jsonParse request, .empty, false⟩] }
  | .advance i env =>
    match s.calls[i]? with
    | none => s
    | some call =>
      match call.program with
      | .done _ => s
      | .call c next =>
        let out := exec env i s.purse c
        ⟨out.2, s.calls.set i
          { call with program := next out.1, record := call.record.next session c out.1 }⟩
  | .collect i =>
    match s.calls[i]? with
    | none => s
    | some call =>
      if call.record.sent.isSome then
        { s with calls := s.calls.set i { call with collected := true } }
      else s

end

/-- What the gateway collected of a call's payment. -/
def Call.taken (call : Call) : ℕ := if call.collected then call.record.sent.getD 0 else 0

/-- The sum of the payments the gateway collected. -/
def System.collected (s : System) : ℕ := (s.calls.map Call.taken).sum

/-- A payment that is collected is not answered with a failure, and a wallet signs no more than was
reserved. -/
def Call.honest (session : Session) (call : Call) (env : Env) : Bool :=
  match call.program with
  | .call .answer _ => !(session.fails env.answer && call.collected)
  | .call (.signPayment _) _ =>
    match env.wallet with
    | .ok header => header.payload.moved ≤ call.record.booking.amount
    | .error _ => true
  | _ => true

/-- The gateway collects no payment whose answer the client takes for a failure, before or after
that answer, and a wallet signs no more than was reserved. -/
def honest (session : Session) (s : System) : Label → Bool
  | .start _ => true
  | .collect i => (s.calls[i]?).all fun call => !call.record.failed
  | .advance i env => (s.calls[i]?).all fun call => call.honest session env

end Solvela.Client
