import Solvela.Channel.Open
import Solvela.Lib.Runs

/-!
# Requests that settle a transfer

`settle_payment` of the exact and of the escrow scheme and three requests that call it: an exact
chat payment, an A2A payment and the opening of a channel. Any number of them run at once against
one cluster, one step at a time; a step is one call of the environment, or one pass of the
confirmation loop's head. Times are in milliseconds.

A transaction that `sendTransaction` accepts is pending. It lands, or fails, at any later time
while its blockhash is valid; one with a durable nonce stays valid.

* `settleStep_send` and `settleStep_poll`, a settlement;
* `requestStep_effect`, a request, and `step_effect`, the system.
-/

namespace Solvela.Settlement

open Solvela.Lib
open Solvela.ChannelLedger
open Solvela.Channel

/-- The transactions: the signature of the one that a text encodes, and the time until which a
transaction is valid, if its blockhash expires. -/
structure Transactions where
  signatureOf : String → Option String
  validUntil : String → Option ℕ

def Transactions.valid (txs : Transactions) (now : ℕ) (signature : String) : Bool :=
  match txs.validUntil signature with
  | none => true
  | some t => decide (now ≤ t)

inductive TxState
  | unknown
  | pending
  | landed
  | failed
deriving DecidableEq

/-- The answer of `sendTransaction`; a rejection may say that the transaction was already
processed. -/
inductive SendAnswer
  | accepted
  | rejected (error : String) (alreadyProcessed : Bool)
  | replyLost

def SendAnswer.lost : SendAnswer → Bool
  | .replyLost => true
  | _ => false

/-- What `getSignatureStatuses` says: nothing that can be used, or the status of the transaction,
confirmed if it has landed long enough. -/
inductive StatusAnswer
  | transient
  | status (confirmed : Bool) (err : String)

/-- The environment at one step. -/
structure Env where
  budget : Bool
  offer : Bool
  verification : Except String VerificationResult
  provider : Bool
  rateLimited : Bool
  dbPool : Bool
  fault : Fault
  send : SendAnswer
  status : StatusAnswer

inductive Scheme
  | exact
  | escrow
deriving DecidableEq

inductive Payer
  | chat
  | a2a
  | channelOpen
deriving DecidableEq

/-- The cluster, the replay set and the ledger, and the records of what was sent, what
`settle_payment` reported as failed, which status reads did not show a transaction and when, what
was acted on as a failed settlement, and what was accepted as the payment of a served chat
request. -/
structure World where
  clock : ℕ
  cluster : String → TxState
  replay : List String
  ledger : Ledger
  sent : List (Payer × String)
  refused : List (Payer × String)
  unseen : List (String × ℕ)
  failed : List String
  chatPaid : List String

/-! ## `settle_payment` -/

/-- The variables of `poll_for_confirmation`. -/
structure Poll where
  start : ℕ
  interval : ℕ
  attempt : ℕ

inductive Settling
  | send
  /-- The head of the confirmation loop. -/
  | check (p : Poll)
  | sleep (p : Poll) (wake : ℕ)
  | query (p : Poll)
  | verdict (result : SettlementResult)

def sendFailed (signature error : String) : Scheme → SettlementResult
  | .exact => ⟨false, none, solanaNetwork, some s!"send failed: {error}"⟩
  | .escrow => ⟨false, some signature, solanaNetwork, some s!"submission failed: {error}"⟩

def notConfirmed (signature error : String) : SettlementResult :=
  ⟨false, some signature, solanaNetwork, some s!"settlement failed: {error}"⟩

def confirmed (signature : String) : SettlementResult :=
  ⟨true, some signature, solanaNetwork, none⟩

/-- The node accepts a transaction that has not been processed and is valid. -/
def World.accepts (txs : Transactions) (w : World) (signature : String) : Bool :=
  (w.cluster signature = .unknown ∨ w.cluster signature = .pending) ∧
    txs.valid w.clock signature = true

def World.setTx (w : World) (signature : String) (state : TxState) : World :=
  { w with cluster := fun t => if t = signature then state else w.cluster t }

/-- A settlement that is reported as failed. -/
def World.refuse (w : World) (payer : Payer) (signature : String) (result : SettlementResult) :
    World × Settling :=
  ({ w with refused := w.refused ++ [(payer, signature)] }, .verdict result)

/-- The budget of the confirmation, and the longest interval between two polls. -/
def confirmationBudget : ℕ := 30000
def maxInterval : ℕ := 4000

def settleStep (txs : Transactions) (env : Env) (payer : Payer) (scheme : Scheme)
    (signature : String) (w : World) : Settling → World × Settling
  | .send =>
    match env.send with
    | .accepted =>
      if w.accepts txs signature then
        ({ w.setTx signature .pending with sent := w.sent ++ [(payer, signature)] },
          .check ⟨w.clock, 500, 0⟩)
      else w.refuse payer signature (sendFailed signature "rpc error" scheme)
    | .rejected e alreadyProcessed =>
      -- only the escrow scheme goes on to confirm what was processed before
      if scheme = .escrow ∧ alreadyProcessed = true then (w, .check ⟨w.clock, 500, 0⟩)
      else w.refuse payer signature (sendFailed signature e scheme)
    | .replyLost =>
      (if w.accepts txs signature then w.setTx signature .pending else w).refuse payer signature
        (sendFailed signature "rpc error" scheme)
  | .check p =>
    -- the budget is of this loop alone: the transaction may still be valid when it ends
    if w.clock - p.start > confirmationBudget then
      w.refuse payer signature (notConfirmed signature "transaction not confirmed within 30s")
    else if p.attempt > 0 then (w, .sleep p (w.clock + p.interval))
    else (w, .query { p with attempt := p.attempt + 1 })
  | .sleep p wake =>
    if wake ≤ w.clock then
      (w, .query ⟨p.start, min (p.interval * 2) maxInterval, p.attempt + 1⟩)
    else (w, .sleep p wake)
  | .query p =>
    match env.status with
    | .transient => (w, .check p)
    | .status isConfirmed err =>
      match w.cluster signature with
      | .unknown => ({ w with unseen := w.unseen ++ [(signature, w.clock)] }, .check p)
      | .pending => ({ w with unseen := w.unseen ++ [(signature, w.clock)] }, .check p)
      | .failed =>
        w.refuse payer signature (notConfirmed signature s!"transaction failed on-chain: {err}")
      | .landed =>
        if isConfirmed then (w, .verdict (confirmed signature)) else (w, .check p)
  | .verdict result => (w, .verdict result)

/-! ## The requests -/

inductive Request
  | chat (transaction : String)
  | a2a (scheme : Scheme) (transaction : String)
  | channelOpen (config : OpenConfig) (channelId : ChannelId) (req : OpenChannelRequest)

def Request.payer : Request → Payer
  | .chat _ => .chat
  | .a2a _ _ => .a2a
  | .channelOpen _ _ _ => .channelOpen

def Request.scheme : Request → Scheme
  | .chat _ => .exact
  | .a2a scheme _ => scheme
  | .channelOpen _ _ _ => .exact

inductive Stage
  | replay
  | budget
  | verify
  | serve
  | settle (signature : String) (deposited : ℕ) (settling : Settling)
  | deliver
  | record (deposited : ℕ) (settlement : SettlementResult)
  | done

/-- `check_and_record_tx`. -/
def checkAndRecordTx (transaction : String) (w : World) (next : Stage) : World × Stage :=
  if transaction ∈ w.replay then (w, .done)
  else ({ w with replay := transaction :: w.replay }, next)

def isValid : Except String VerificationResult → Bool
  | .ok verification => verification.valid
  | .error _ => false

/-- The exact path of `chat_completions`: the transfer is settled after the provider has answered.
A settlement that fails releases the reservation and records no spend. -/
def chatStep (txs : Transactions) (env : Env) (transaction : String) (w : World) :
    Stage → World × Stage
  | .replay => checkAndRecordTx transaction w .budget
  | .budget => (w, if env.budget then .verify else .done)
  | .verify => (w, if isValid env.verification then .serve else .done)
  | .serve =>
    -- the exact scheme is settled after the provider has answered
    match txs.signatureOf transaction with
    | some signature => (w, if env.provider then .settle signature 0 .send else .done)
    | none => (w, .done)
  | .settle signature _ (.verdict result) =>
    if result.success then ({ w with chatPaid := w.chatPaid ++ [signature] }, .done)
    else ({ w with failed := w.failed ++ [signature] }, .done)
  | .settle signature deposited settling =>
    let out := settleStep txs env .chat .exact signature w settling
    (out.1, .settle signature deposited out.2)
  | .deliver => (w, .done)
  | .record _ _ => (w, .done)
  | .done => (w, .done)

/-- `settle_paid_task`, from the replay check on. A settlement that fails, or a payment that does
not verify, reverts the task and releases the lock. -/
def a2aStep (txs : Transactions) (env : Env) (scheme : Scheme) (transaction : String) (w : World) :
    Stage → World × Stage
  | .replay => checkAndRecordTx transaction w (if env.offer then .verify else .done)
  | .verify =>
    match txs.signatureOf transaction with
    | some signature =>
      if isValid env.verification then (w, .settle signature 0 .send)
      else ({ w with failed := w.failed ++ [signature] }, .done)
    | none => (w, .done)
  | .settle signature _ (.verdict result) =>
    if result.success then (w, .deliver)
    else ({ w with failed := w.failed ++ [signature] }, .done)
  | .settle signature deposited settling =>
    let out := settleStep txs env .a2a scheme signature w settling
    (out.1, .settle signature deposited out.2)
  | .deliver => (w, .done)
  | .budget => (w, .done)
  | .serve => (w, .done)
  | .record _ _ => (w, .done)
  | .done => (w, .done)

/-- `open`: the checks, the settlement of the funding transfer and the row of the channel. -/
def openStep (txs : Transactions) (env : Env) (config : OpenConfig) (channelId : ChannelId)
    (req : OpenChannelRequest) (w : World) : Stage → World × Stage
  -- no replay check comes before this one
  | .verify =>
    match validateOpen ⟨fun _ => env.verification, fun _ => .error "not settled yet"⟩ config
        env.rateLimited env.dbPool req ⟨w.ledger, []⟩, txs.signatureOf req.fundingTx with
    | .ok deposited _, some signature => (w, .settle signature deposited .send)
    | _, _ => (w, .done)
  | .settle _ deposited (.verdict result) =>
    (w, if result.success then .record deposited result else .done)
  | .settle signature deposited settling =>
    let out := settleStep txs env .channelOpen .exact signature w settling
    (out.1, .settle signature deposited out.2)
  | .record deposited settlement =>
    ({ w with
      ledger := Txn.stateOf (createChannel env.fault
        (newChannel config channelId req deposited settlement) w.ledger) }, .done)
  | .replay => (w, .done)
  | .budget => (w, .done)
  | .serve => (w, .done)
  | .deliver => (w, .done)
  | .done => (w, .done)

def requestStep (txs : Transactions) (env : Env) (w : World) :
    Request → Stage → World × Stage
  | .chat transaction => chatStep txs env transaction w
  | .a2a scheme transaction => a2aStep txs env scheme transaction w
  | .channelOpen config channelId req => openStep txs env config channelId req w

def Request.first : Request → Stage
  | .chat _ => .replay
  | .a2a _ _ => .replay
  | .channelOpen _ _ _ => .verify

/-! ## Any number of requests -/

structure Task where
  request : Request
  stage : Stage

structure System where
  world : World
  tasks : ℕ → Task

def System.init : System :=
  ⟨⟨0, fun _ => .unknown, [], .empty, [], [], [], [], []⟩, fun _ => ⟨.chat "", .done⟩⟩

inductive Label
  | tick (milliseconds : ℕ)
  /-- An entry of the replay set expires, or is lost with its store. -/
  | forget (transaction : String)
  | start (i : ℕ) (request : Request)
  | advance (i : ℕ) (env : Env)
  | crash (i : ℕ)
  | land (signature : String)
  | failOnChain (signature : String)

def System.setTask (s : System) (i : ℕ) (task : Task) : System :=
  { s with tasks := fun j => if j = i then task else s.tasks j }

/-- The fate of a pending transaction that is still valid. -/
def World.decide (txs : Transactions) (w : World) (signature : String) (fate : TxState) : World :=
  if w.cluster signature = .pending ∧ txs.valid w.clock signature = true then
    w.setTx signature fate
  else w

def step (txs : Transactions) (s : System) : Label → System
  | .tick milliseconds => { s with world.clock := s.world.clock + milliseconds }
  | .forget transaction =>
    { s with world.replay := s.world.replay.filter fun t => t ≠ transaction }
  | .start i request =>
    match (s.tasks i).stage with
    | .done => s.setTask i ⟨request, request.first⟩
    | _ => s
  | .advance i env =>
    let out := requestStep txs env s.world (s.tasks i).request (s.tasks i).stage
    System.setTask { s with world := out.1 } i ⟨(s.tasks i).request, out.2⟩
  | .crash i => s.setTask i ⟨(s.tasks i).request, .done⟩
  | .land signature => { s with world := s.world.decide txs signature .landed }
  | .failOnChain signature => { s with world := s.world.decide txs signature .failed }

/-- Every text encodes the transaction of the same name, whose blockhash is valid for a minute. -/
def exampleTxs : Transactions := ⟨some, fun _ => some 60000⟩

/-- Every service answers, and the node accepts every valid transaction. -/
def exampleEnv : Env :=
  ⟨true, true, .ok ⟨true, none, some 2500⟩, true, false, true, none, .accepted, .status true ""⟩

/-! ## What a step can do -/

/-- The transaction that a step sends. -/
def System.sends (s : System) : Label → Option String
  | .advance i _ =>
    match (s.tasks i).stage with
    | .settle signature _ .send => some signature
    | _ => none
  | _ => none

/-- The answer to `sendTransaction` with which a settlement goes on to confirm the transaction. -/
def goesOn (txs : Transactions) (env : Env) (scheme : Scheme) (signature : String) (w : World) :
    Bool :=
  match env.send with
  | .accepted => w.accepts txs signature
  | .rejected _ alreadyProcessed => scheme = .escrow && alreadyProcessed
  | .replyLost => false

/-- What `sendTransaction` can do. -/
inductive SendEffect (txs : Transactions) (env : Env) (payer : Payer) (scheme : Scheme)
    (signature : String) (w : World) : World → Prop
  | accepted (haccepts : w.accepts txs signature = true) :
      SendEffect txs env payer scheme signature w
        { w.setTx signature .pending with sent := w.sent ++ [(payer, signature)] }
  | resumed : SendEffect txs env payer scheme signature w w
  | refused (hends : goesOn txs env scheme signature w = false)
      (hnot : env.send = .replyLost → w.accepts txs signature = false) :
      SendEffect txs env payer scheme signature w
        { w with refused := w.refused ++ [(payer, signature)] }
  | replyLost (hlost : env.send = .replyLost) (haccepts : w.accepts txs signature = true) :
      SendEffect txs env payer scheme signature w
        { w.setTx signature .pending with refused := w.refused ++ [(payer, signature)] }

/-- What a send does. -/
theorem settleStep_send (txs : Transactions) (env : Env) (payer : Payer) (scheme : Scheme)
    (signature : String) (w : World) :
    SendEffect txs env payer scheme signature w
      (settleStep txs env payer scheme signature w .send).1 := by
  simp only [settleStep]
  cases hsend : env.send with
  | accepted =>
    dsimp only
    split
    · rename_i haccepts
      exact .accepted haccepts
    · rename_i haccepts
      refine .refused ?_ (by simp [hsend])
      simpa only [goesOn, hsend, Bool.not_eq_true] using haccepts
  -- an escrow deposit that was processed before is resumed
  | rejected e alreadyProcessed =>
    dsimp only
    split
    · exact .resumed
    · rename_i hends
      refine .refused ?_ (by simp [hsend])
      simpa only [goesOn, hsend, Bool.and_eq_false_iff, decide_eq_false_iff_not,
        Bool.not_eq_true, not_and_or] using hends
  | replyLost =>
    dsimp only
    split
    · rename_i haccepts
      exact .replyLost hsend haccepts
    · rename_i haccepts
      refine .refused ?_ fun _ => by simpa using haccepts
      simp only [goesOn, hsend]

/-- What the confirmation can do: a status read does not show the transaction, or the settlement is
reported as failed, at the end of the budget or because the transaction has failed. -/
inductive PollEffect (payer : Payer) (signature : String) (w : World) : Settling → World → Prop
  | same (settling : Settling) : PollEffect payer signature w settling w
  | unseen (p : Poll) (hcluster : w.cluster signature ≠ .landed) :
      PollEffect payer signature w (.query p)
        { w with unseen := w.unseen ++ [(signature, w.clock)] }
  | timeout (p : Poll) (hover : w.clock - p.start > confirmationBudget) :
      PollEffect payer signature w (.check p)
        { w with refused := w.refused ++ [(payer, signature)] }
  | failed (p : Poll) (hcluster : w.cluster signature = .failed) :
      PollEffect payer signature w (.query p)
        { w with refused := w.refused ++ [(payer, signature)] }

/-- What a poll does. -/
theorem settleStep_poll (txs : Transactions) (env : Env) (payer : Payer) (scheme : Scheme)
    (signature : String) (w : World) {settling : Settling} (hsend : settling ≠ .send) :
    PollEffect payer signature w settling
      (settleStep txs env payer scheme signature w settling).1 := by
  cases settling with
  | send => exact absurd rfl hsend
  | check p =>
    simp only [settleStep]
    split
    · rename_i hover
      exact .timeout p hover
    · split <;> exact .same _
  | sleep p wake =>
    simp only [settleStep]
    split <;> exact .same _
  | query p =>
    simp only [settleStep]
    cases env.status with
    | transient => exact .same _
    | status isConfirmed err =>
      cases hcluster : w.cluster signature with
      | unknown => exact .unseen p (by simp [hcluster])
      | pending => exact .unseen p (by simp [hcluster])
      | failed => exact .failed p hcluster
      | landed =>
        dsimp only
        split <;> exact .same _
  | verdict result => exact .same _

/-- The signature of the settlement that a request acts on as a failed one. -/
def actsFailed (txs : Transactions) (env : Env) : Request → Stage → Option String
  | .chat _, .settle signature _ (.verdict result) =>
    if result.success then none else some signature
  | .a2a _ _, .settle signature _ (.verdict result) =>
    if result.success then none else some signature
  | .a2a _ transaction, .verify =>
    if isValid env.verification then none else txs.signatureOf transaction
  | _, _ => none

/-- What a step of a request can do to the world. -/
inductive RequestEffect (txs : Transactions) (env : Env) (w : World) (request : Request)
    (stage : Stage) : World → Prop
  | same : RequestEffect txs env w request stage w
  | replay (transaction : String) :
      RequestEffect txs env w request stage { w with replay := transaction :: w.replay }
  | send {scheme : Scheme} {signature : String} {deposited : ℕ} {w' : World}
      (hscheme : scheme = request.scheme) (hstage : stage = .settle signature deposited .send)
      (heffect : SendEffect txs env request.payer scheme signature w w') :
      RequestEffect txs env w request stage w'
  | poll {signature : String} {deposited : ℕ} {settling : Settling} {w' : World}
      (hstage : stage = .settle signature deposited settling)
      (heffect : PollEffect request.payer signature w settling w') :
      RequestEffect txs env w request stage w'
  | paid {signature : String} {deposited : ℕ} {result : SettlementResult}
      (hpayer : request.payer = .chat)
      (hstage : stage = .settle signature deposited (.verdict result))
      (hsuccess : result.success = true) :
      RequestEffect txs env w request stage { w with chatPaid := w.chatPaid ++ [signature] }
  | failed {signature : String} (hacts : actsFailed txs env request stage = some signature) :
      RequestEffect txs env w request stage { w with failed := w.failed ++ [signature] }
  | record {config : OpenConfig} {channelId : ChannelId} {req : OpenChannelRequest}
      {deposited : ℕ} {settlement : SettlementResult}
      (hrequest : request = .channelOpen config channelId req)
      (hstage : stage = .record deposited settlement) :
      RequestEffect txs env w request stage
        { w with
          ledger := Txn.stateOf (createChannel env.fault
            (newChannel config channelId req deposited settlement) w.ledger) }

/-- The replay check lets a request go on, or ends it. -/
theorem checkAndRecordTx_effect {txs : Transactions} {env : Env} {request : Request}
    {stage : Stage} (transaction : String) (w : World) (next : Stage) :
    RequestEffect txs env w request stage (checkAndRecordTx transaction w next).1 := by
  unfold checkAndRecordTx
  split
  · exact .same
  · exact .replay transaction

/-- A step of the settlement of a request. -/
theorem settle_effect {txs : Transactions} {env : Env} {request : Request}
    {signature : String} {deposited : ℕ} (settling : Settling) (w : World) :
    RequestEffect txs env w request (.settle signature deposited settling)
      (settleStep txs env request.payer request.scheme signature w settling).1 := by
  by_cases hsend : settling = .send
  · subst hsend
    exact .send rfl rfl (settleStep_send txs env request.payer request.scheme signature w)
  · exact .poll rfl (settleStep_poll txs env request.payer request.scheme signature w hsend)

/-- What a step of one request does. -/
theorem requestStep_effect (txs : Transactions) (env : Env) (w : World) (request : Request)
    (stage : Stage) :
    RequestEffect txs env w request stage (requestStep txs env w request stage).1 := by
  cases request with
  | chat transaction =>
    cases stage with
    | replay => exact checkAndRecordTx_effect transaction w .budget
    | serve =>
      simp only [requestStep, chatStep]
      cases txs.signatureOf transaction <;> exact .same
    | settle signature deposited settling =>
      cases settling with
      | verdict result =>
        simp only [requestStep, chatStep]
        -- a settled chat is paid, a refused one has failed
        split
        · rename_i hsuccess
          exact .paid rfl rfl hsuccess
        · rename_i hsuccess
          refine .failed ?_
          simp only [actsFailed, hsuccess, if_false, Bool.false_eq_true]
      | _ => exact settle_effect _ w
    | _ => exact .same
  | a2a scheme transaction =>
    cases stage with
    | replay => exact checkAndRecordTx_effect transaction w _
    -- a transaction without a signature never gets to a settlement
    | verify =>
      simp only [requestStep, a2aStep]
      cases hsignature : txs.signatureOf transaction with
      | none => exact .same
      | some signature =>
        dsimp only
        split
        · exact .same
        · rename_i hvalid
          refine .failed ?_
          simp only [actsFailed, hvalid, hsignature, if_false, Bool.false_eq_true]
    | settle signature deposited settling =>
      cases settling with
      | verdict result =>
        simp only [requestStep, a2aStep]
        split
        · exact .same
        · rename_i hsuccess
          refine .failed ?_
          simp only [actsFailed, hsuccess, if_false, Bool.false_eq_true]
      | _ => exact settle_effect _ w
    | _ => exact .same
  -- an opening credits the channel after its settlement
  | channelOpen config channelId req =>
    cases stage with
    | verify =>
      simp only [requestStep, openStep]
      split <;> exact .same
    | settle signature deposited settling =>
      cases settling with
      | verdict result => exact .same
      | _ => exact settle_effect _ w
    | record deposited settlement => exact .record rfl rfl
    | _ => exact .same

/-- What a step of the system can do to the world. -/
inductive StepEffect (txs : Transactions) (s : System) : Label → World → Prop
  | same (l : Label) : StepEffect txs s l s.world
  | tick (milliseconds : ℕ) : StepEffect txs s (.tick milliseconds)
      { s.world with clock := s.world.clock + milliseconds }
  | forget (transaction : String) : StepEffect txs s (.forget transaction)
      { s.world with replay := s.world.replay.filter fun t => t ≠ transaction }
  | request (i : ℕ) (env : Env) {w' : World}
      (heffect : RequestEffect txs env s.world (s.tasks i).request (s.tasks i).stage w') :
      StepEffect txs s (.advance i env) w'
  | fate (l : Label) {signature : String} (state : TxState)
      (hpending : s.world.cluster signature = .pending)
      (hvalid : txs.valid s.world.clock signature = true) :
      StepEffect txs s l (s.world.setTx signature state)

/-- What every step does. -/
theorem step_effect (txs : Transactions) (s : System) (l : Label) :
    StepEffect txs s l (step txs s l).world := by
  have hdecide : ∀ signature state, StepEffect txs s l (s.world.decide txs signature state) := by
    intro signature state
    unfold World.decide
    split
    · rename_i h
      exact .fate l state h.1 h.2
    · exact .same l
  cases l with
  | tick milliseconds => exact .tick milliseconds
  | forget transaction => exact .forget transaction
  | start i request =>
    simp only [step]
    split <;> exact .same _
  | advance i env => exact .request i env (requestStep_effect txs env s.world _ _)
  | crash i => exact .same _
  | land signature => exact hdecide signature .landed
  | failOnChain signature => exact hdecide signature .failed

end Solvela.Settlement
