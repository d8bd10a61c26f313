import Solvela.Channel.Persistable
import Solvela.Client.Accepts

/-!
# The channel tracker and the draw endpoint

`ChannelTracker` of the TypeScript signer keeps its own count of a channel's last cumulative. It
signs `last + quote`, moves on with a 2xx, retries a 503 with the same cumulative, takes the
figure of a structured rejection as its new count, and gives up on anything else. The endpoint it
talks to verifies the voucher against the ledger and persists it after the serve.

The two counts part in both directions: a 2xx whose persist failed leaves the tracker ahead, a
reply that never arrives leaves it behind. `send` throws when a reply is lost, and the request may
still be under way: it is handled later, once, or never. A 408 of the gateway's timeout layer has
the same effect and is not told apart.

A request goes through the stages of `Solvela.Channel.Draw`, each a step of its own: it takes the
draw lock, loads the channel and verifies its voucher, is served, checks that the lock is still its
own, and persists. The lock can go at any moment, so a request whose reply was lost can be half-way
through while the next draw of the same tracker is.

* `Admission`, `Loading` and `ServeOutcome` are what the endpoint meets on its way, `admitDraw` to
  `System.persist` its stages.
* `ChannelTracker` is the client, one definition for each part of `#drawOnce`.
* `trackerStep` puts the two together with the requests under way.
-/

namespace Solvela.Tracker

open Solvela.Lib
open Solvela.Lib.Txn
open Solvela.ChannelLedger Solvela.Channel
open Solvela.Client (Json isDigits digitsValue)

/-! ## Replies -/

/-- `DrawResponse`. -/
structure DrawResponse where
  status : ℕ
  body : Json

/-- The errors of the draw endpoint. -/
inductive GatewayError
  | notFound (message : String)
  | badRequest (message : String)
  | serviceUnavailable (message : String)
  | upstreamUnavailable (message : String)
  | internal (message : String)
  | forbidden (message : String)
  | invalidPayment (message : String)
  | invalidPaymentWithResync (message : String) (lastCumulative : ℕ)

/-- The plain error body. -/
def errorBody (errorType message : String) : Json :=
  .obj [("error", .obj [("type", .str errorType), ("message", .str message)])]

/-- `into_response`. -/
def GatewayError.intoResponse : GatewayError → DrawResponse
  | notFound message => ⟨404, errorBody "not_found" message⟩
  | badRequest message => ⟨400, errorBody "bad_request" message⟩
  | serviceUnavailable message => ⟨503, errorBody "service_unavailable" message⟩
  | upstreamUnavailable message => ⟨503, errorBody "upstream_unavailable" message⟩
  | internal _ => ⟨500, errorBody "internal_error" "Internal server error"⟩
  | forbidden message => ⟨403, errorBody "forbidden" message⟩
  | invalidPayment message => ⟨402, errorBody "invalid_payment" message⟩
  | invalidPaymentWithResync message lastCumulative =>
    ⟨402, .obj [("error", .obj [("type", .str "invalid_payment"), ("message", .str message),
      ("last_cumulative", .str (toString lastCumulative))])]⟩

/-- `map_voucher_rejection`: only the rules after the signature tell the ledger's figure, and of
these not the one about the request digest. -/
def mapVoucherRejection (err : ChannelVoucherError) (lastCumulative : ℕ) : GatewayError :=
  match err with
  | .channelMismatch | .invalidSignature => .invalidPayment "channel voucher rejected"
  | .requestDigestMismatch =>
    .invalidPayment <| "voucher request_digest does not match this request; re-sign for the " ++
      "body you are sending"
  | .expired .. | .nonMonotonicCumulative .. | .deltaMismatch .. | .belowSettled ..
  | .overDraw .. =>
    .invalidPaymentWithResync
      ("channel voucher rejected; resync from authoritative last_cumulative=" ++
        toString lastCumulative) lastCumulative

/-! ## The draw endpoint -/

/-- A request of the tracker: which `draw()` call sent it and the quote it was signed for, the
`accepted.amount` of its header, and its voucher. -/
structure DrawHttpRequest where
  id : ℕ
  quote : ℕ
  acceptedAmount : String
  voucher : Voucher

inductive LockReply
  | acquired
  | busy
  | redisError

inductive ServeOutcome
  | delivered (served : Served)
  | allProvidersFailed
  | timedOut
  | internal (message : String)

/-- What the endpoint meets up to the lock. -/
structure Admission where
  /-- Channels are enabled, and there is a database and a Redis. -/
  available : Bool
  billedAtomic : ℕ
  /-- The digest of the body that came in. -/
  requestDigest : Vector UInt8 32
  currentSlot : Option ℕ
  lock : LockReply

/-- What it meets under the lock, before the serve. -/
structure Loading where
  /-- The load of the channel gets through to the database. -/
  loads : Bool
  requireTenant : Bool

/-- How far a request has come that took the draw lock. -/
inductive Progress
  | locked
  | verified (drawable : DrawableChannel)
  | served (drawable : DrawableChannel) (advance : ℕ)
  | cleared (drawable : DrawableChannel) (advance : ℕ)

/-- The snapshot the voucher passed against. -/
def Progress.drawable : Progress → Option DrawableChannel
  | locked => none
  | verified drawable => some drawable
  | served drawable _ => some drawable
  | cleared drawable _ => some drawable

/-- A request between the draw lock and its reply: what was computed before the lock, and the
token the lock was taken with. -/
structure Service where
  req : DrawHttpRequest
  billedAtomic : ℕ
  requestDigest : Vector UInt8 32
  currentSlot : ℕ
  token : ℕ
  progress : Progress

/-- What comes of a stage; `stays` when it is not the request's turn for it. -/
inductive StageResult
  | stays
  | goesOn (progress : Progress)
  | replies (resp : DrawResponse)

/-- `voucher_from_payload` on a header that was built for the voucher: its texts decode to it,
and the two range checks are left. -/
def storable (voucher : Voucher) : Except ChannelDrawError Voucher :=
  if i64Max < voucher.nonce then .error .malformedNonce
  else if i64Max < voucher.expirySlot then .error .malformedExpirySlot
  else .ok voucher

/-- The text of a decoding error. -/
def drawErrorText : ChannelDrawError → String
  | .malformedChannelId => "voucher channel_id must be a base58-encoded 32-byte value"
  | .malformedRequestDigest => "voucher request_digest must be base64 of exactly 32 bytes"
  | .malformedSignature => "voucher signature must be base64 of exactly 64 bytes"
  | .malformedNonce => "voucher nonce exceeds the storable range"
  | .malformedExpirySlot => "voucher expiry_slot exceeds the storable range"

section Endpoint
variable (verifySignature : Pubkey → List UInt8 → Vector UInt8 64 → Bool) (feePercent : ℕ)
  (id : ChannelId)

/-- `channel_draw` up to the lock: the slot the voucher's expiry is measured against. -/
def admitDraw (req : DrawHttpRequest) (h : Admission) : Except GatewayError ℕ :=
  if h.available = false then .error (.notFound "channel not available")
  else if req.acceptedAmount ≠ toString h.billedAtomic then
    .error (.badRequest <| "channel voucher accepted.amount must equal the current per-call " ++
      "quote for this endpoint; re-quote via the 402 challenge")
  else
    match h.currentSlot with
    | none =>
      .error (.serviceUnavailable <| "could not reach the Solana cluster to verify the " ++
        "voucher; please retry shortly")
    | some currentSlot =>
      match storable req.voucher with
      | .error e => .error (.badRequest (drawErrorText e))
      | .ok _ =>
        match h.lock with
        | .acquired => .ok currentSlot
        | .busy =>
          .error (.serviceUnavailable <| "a draw is already in progress on this channel; " ++
            "please retry shortly")
        | .redisError =>
          .error (.serviceUnavailable <| "payment service is temporarily degraded; please " ++
            "retry shortly")

/-- `channel_draw_locked` up to the verification. -/
def verifyLocked (l : Ledger) (svc : Service) (h : Loading) :
    Except GatewayError DrawableChannel :=
  if h.loads then
    match loadOpenChannelState l id svc.requestDigest with
    | .ok (some drawable) =>
      if h.requireTenant then
        .error (.forbidden <| "this wallet requires per-tenant budgeting; channel draws are " ++
          "outside the tenant budget matrix — pay per-request instead")
      else
        match verifyVoucher verifySignature drawable.state svc.req.voucher svc.billedAtomic
            svc.currentSlot with
        | .error e => .error (mapVoucherRejection e drawable.state.lastCumulativeAtomic)
        | .ok _ => .ok drawable
    | .ok none => .error (.notFound "channel not found or not open")
    | .error _ => .error (.internal "could not load the channel")
  else .error (.internal "could not load the channel")

/-- The load of the channel, and the verification against what was loaded. -/
def loadStage (l : Ledger) (svc : Service) (h : Loading) : StageResult :=
  match svc.progress with
  | .locked =>
    match verifyLocked verifySignature id l svc h with
    | .error e => .replies e.intoResponse
    | .ok drawable => .goesOn (.verified drawable)
  | _ => .stays

/-- The serve of `channel_draw_locked`: a draw that is not served is not charged. -/
def serveStage (svc : Service) (outcome : ServeOutcome) : StageResult :=
  match svc.progress with
  | .verified drawable =>
    match outcome with
    | .allProvidersFailed =>
      .replies (GatewayError.upstreamUnavailable <| "No provider could serve your request " ++
        "right now and your channel was NOT drawn. Please retry shortly.").intoResponse
    | .timedOut =>
      .replies (GatewayError.upstreamUnavailable <| "No provider could serve your request in " ++
        "time and your channel was NOT drawn. Please retry shortly.").intoResponse
    | .internal message => .replies (GatewayError.internal message).intoResponse
    | .delivered served =>
      .goesOn (.served drawable (realizedAdvance feePercent svc.billedAtomic served))
  | _ => .stays

/-- The served response. -/
def okResponse : DrawResponse := ⟨200, .null⟩

/-- `channel_draw_lock_held` before the persist: a lock that is confirmed lost delivers without a
persist, and silence goes on. -/
def recheckStage (lock : Option ℕ) (svc : Service) (redisAnswers : Bool) : StageResult :=
  match svc.progress with
  | .served drawable advance =>
    if redisAnswers && lock != some svc.token then .replies okResponse
    else .goesOn (.cleared drawable advance)
  | _ => .stays

/-- The record a draw persists. -/
def voucherRecord (voucher : Voucher) (billed realizedAdvance : ℕ) : VoucherRecord :=
  { channelId := id, cumulativeAtomic := voucher.cumulativeAtomic, callCostAtomic := billed
    realizedAdvanceAtomic := realizedAdvance, expirySlot := voucher.expirySlot
    nonce := voucher.nonce, requestDigest := voucher.requestDigest
    signature := voucher.signature }

end Endpoint

/-! ## The tracker -/

/-- `parseResyncCumulative`. -/
def parseResyncCumulative (body : Json) : Option ℕ :=
  match (body.get "error").bind (·.get "last_cumulative") with
  | some (.str raw) =>
    if isDigits raw.toList = true ∧ digitsValue raw.toList ≤ u64Max then
      some (digitsValue raw.toList)
    else none
  | _ => none

/-- `parseAtomicAmount`; `none` is its `ChannelDrawError`. -/
def parseAtomicAmount (amount : String) : Option ℕ :=
  if isDigits amount.toList = false then none
  else if digitsValue amount.toList = 0 then none
  else if u64Max < digitsValue amount.toList then none
  else some (digitsValue amount.toList)

/-- `ChannelDrawParams`: the amount of its accept, the SHA-256 of the body, the expiry and the
key. -/
structure ChannelDrawParams where
  amount : String
  requestDigest : Vector UInt8 32
  expirySlot : ℕ
  signSeed : List UInt8
deriving DecidableEq

/-- `ChannelTrackerOptions` with the channel, after the checks of the constructor; `channelText`
is the base58 text of the channel id that the headers carry. -/
structure TrackerOptions where
  channelId : Pubkey
  channelText : ChannelId
  channelText_decodes : decodeBs58Pubkey channelText = some channelId
  lastCumulative : ℕ
  lastCumulative_le : lastCumulative ≤ u64Max
  startNonce : ℕ
  startNonce_le : startNonce ≤ u64Max
  maxRetries : ℚ
  maxRetries_nonneg : 0 ≤ maxRetries

/-- A `#drawOnce` in its loop. -/
structure ActiveDraw where
  id : ℕ
  params : ChannelDrawParams
  quote : ℕ
  nonce : ℕ
  attempt : ℕ

/-- `ChannelTracker`: the promise chain runs one draw and queues the others. -/
structure ChannelTracker where
  last : ℕ
  nonce : ℕ
  active : Option ActiveDraw
  queue : List (ℕ × ChannelDrawParams)

/-- The end of a draw, one way or the other. -/
def ChannelTracker.finish (t : ChannelTracker) : ChannelTracker := { t with active := none }

/-- The start of `#drawOnce`: the quote is parsed, and a nonce is taken for all attempts. -/
def ChannelTracker.begin (t : ChannelTracker) : ChannelTracker :=
  match t.active, t.queue with
  | none, (id, params) :: queue =>
    match parseAtomicAmount params.amount with
    | none => { t with queue := queue }
    | some quote =>
      { t with
        active := some ⟨id, params, quote, t.nonce, 0⟩
        nonce := t.nonce + 1
        queue := queue }
  | _, _ => t

/-- The next turn of the loop, if there is one left. -/
def ChannelTracker.retry (maxRetries : ℚ) (a : ActiveDraw) (t : ChannelTracker) :
    ChannelTracker :=
  if maxRetries ≤ a.attempt then t.finish
  else { t with active := some { a with attempt := a.attempt + 1 } }

/-- The loop after `send` returned. -/
def ChannelTracker.onResponse (maxRetries : ℚ) (a : ActiveDraw) (cumulative : ℕ)
    (resp : DrawResponse) (t : ChannelTracker) : ChannelTracker :=
  if 200 ≤ resp.status ∧ resp.status < 300 then { t with last := cumulative }.finish
  else if resp.status = 503 then t.retry maxRetries a
  else
    match parseResyncCumulative resp.body with
    | none => t.finish
    | some resync => { t with last := resync }.retry maxRetries a

section Signing
variable (signVoucher : List UInt8 → List UInt8 → Option (Vector UInt8 64))

/-- The loop before `send`: the voucher for `last + quote`, signed; `none` where one of the
checks throws. -/
def ChannelTracker.request (o : TrackerOptions) (a : ActiveDraw) (t : ChannelTracker) :
    Option DrawHttpRequest :=
  if u64Max < t.last + a.quote ∨ u64Max < a.params.expirySlot ∨ u64Max < a.nonce then none
  else
    (signVoucher (buildVoucherMessage o.channelId (t.last + a.quote) a.params.expirySlot a.nonce
      a.params.requestDigest) a.params.signSeed).map fun signature =>
        { id := a.id, quote := a.quote, acceptedAmount := a.params.amount
          voucher :=
            { channelId := o.channelId, cumulativeAtomic := t.last + a.quote
              expirySlot := a.params.expirySlot, nonce := a.nonce
              requestDigest := a.params.requestDigest, signature := signature } }

end Signing

/-! ## The two together -/

/-- What becomes of a request. -/
inductive Fate
  /-- The endpoint handles it, and the loop waits for its reply. -/
  | handled (h : Admission)
  /-- Something before the endpoint answers, and the endpoint never sees the request. -/
  | answered (resp : DrawResponse)
  /-- `send` throws, and the request is under way. -/
  | lost

/-- A voucher that passed the verification, with its advance over the snapshot. -/
structure Acceptance where
  id : ℕ
  quote : ℕ
  delta : ℤ

/-- A movement of the channel's cumulative: the cumulative its request had loaded, the one its
persist found, and by how much it moved. -/
structure Debit where
  id : ℕ
  loaded : ℕ
  found : ℤ
  amount : ℤ
deriving DecidableEq

/-- Who waits for a reply: the loop of the running draw, or nobody any more. -/
inductive Place
  | awaited
  | orphan (k : ℕ)

/-- The tracker, the ledger, the draw lock with the tokens given out, and the requests: the one
the loop waits for, the others at the endpoint, and those on their way to it. `calls` are the
parameters of the `draw()` calls so far, each under its position; `accepted` and `debits` are
history variables. -/
structure System where
  tracker : ChannelTracker
  ledger : Ledger
  lock : Option ℕ
  tokens : ℕ
  awaited : Option Service
  orphans : List Service
  inFlight : List DrawHttpRequest
  calls : List ChannelDrawParams
  accepted : List Acceptance
  debits : List Debit

/-- A new tracker against a ledger. -/
def System.init (o : TrackerOptions) (l : Ledger) : System :=
  { tracker := ⟨o.lastCumulative, o.startNonce, none, []⟩, ledger := l, lock := none, tokens := 0
    awaited := none, orphans := [], inFlight := [], calls := [], accepted := [], debits := [] }

/-- The requests at the endpoint. -/
def System.services (s : System) : List Service := s.awaited.toList ++ s.orphans

/-- One step of somebody. The steps at a place are those of the endpoint. -/
inductive TrackerLabel
  /-- The caller calls `draw()`. -/
  | draw (params : ChannelDrawParams)
  /-- The promise chain starts the next draw. -/
  | begin
  /-- One turn of the running draw's loop. -/
  | attempt (fate : Fate)
  /-- The `send` the loop waits for throws, and the request stays at the endpoint. -/
  | throws
  /-- A request whose reply was lost reaches the endpoint. -/
  | arrive (k : ℕ) (h : Admission)
  | load (p : Place) (h : Loading)
  | serve (p : Place) (outcome : ServeOutcome)
  | recheck (p : Place) (redisAnswers : Bool)
  | persist (p : Place) (fault : Fault)
  /-- The handler is dropped. -/
  | drop (p : Place)
  /-- The lock is released, or runs out. -/
  | unlock
  | resyncTo (last : ℕ)
  /-- Any ledger operation but a draw on this channel. -/
  | beside (fault : Fault) (op : LedgerOp)

/-- The operation is a draw on the channel. -/
def drawsOn (id : ChannelId) : LedgerOp → Bool
  | .persistVoucherAndAdvance v => v.channelId = id
  | _ => false

section System
variable (verifySignature : Pubkey → List UInt8 → Vector UInt8 64 → Bool)
  (signVoucher : List UInt8 → List UInt8 → Option (Vector UInt8 64)) (feePercent : ℕ)
  (o : TrackerOptions)

/-- The voucher of a request that passes the verification. -/
def acceptance (svc : Service) : StageResult → List Acceptance
  | .goesOn (.verified drawable) =>
    [⟨svc.req.id, svc.req.quote,
      (svc.req.voucher.cumulativeAtomic : ℤ) - drawable.state.lastCumulativeAtomic⟩]
  | _ => []

/-- The movement of the channel's cumulative between two ledgers. -/
def debit (id : ChannelId) (call loaded : ℕ) (l l' : Ledger) : List Debit :=
  if lastOf l' id = lastOf l id then []
  else
    [{ id := call, loaded := loaded, found := (lastOf l id).getD 0
       amount := (lastOf l' id).getD 0 - (lastOf l id).getD 0 }]

/-! ### The endpoint's side -/

/-- The request at a place. -/
def System.at (s : System) : Place → Option Service
  | .awaited => s.awaited
  | .orphan k => s.orphans[k]?

/-- `SET NX` on a lock that is taken does not acquire it. -/
def System.lockReply (s : System) (reply : LockReply) : LockReply :=
  match s.lock, reply with
  | some _, .acquired => .busy
  | _, reply => reply

/-- `channel_draw` up to the lock, with the lock as it is. -/
def System.admitted (s : System) (req : DrawHttpRequest) (h : Admission) :
    Except GatewayError Service :=
  match admitDraw req { h with lock := s.lockReply h.lock } with
  | .error e => .error e
  | .ok currentSlot => .ok ⟨req, h.billedAtomic, h.requestDigest, currentSlot, s.tokens, .locked⟩

/-- The lock is taken with the next token. -/
def System.takeLock (s : System) : System :=
  { s with lock := some s.tokens, tokens := s.tokens + 1 }

/-- The request at a place goes on. -/
def System.put (s : System) (p : Place) (svc : Service) : System :=
  match p with
  | .awaited => { s with awaited := some svc }
  | .orphan k => { s with orphans := s.orphans.set k svc }

/-- The request at a place is answered. A reply nobody waits for is lost. -/
def System.answer (s : System) (p : Place) (svc : Service) (resp : DrawResponse) : System :=
  match p, s.tracker.active with
  | .awaited, none => { s with awaited := none }
  | .awaited, some a =>
    { s with
      awaited := none
      tracker := s.tracker.onResponse o.maxRetries a svc.req.voucher.cumulativeAtomic resp }
  | .orphan k, _ => { s with orphans := s.orphans.eraseIdx k }

/-- A stage of the request at a place. -/
def System.stage (s : System) (p : Place) (svc : Service) : StageResult → System
  | .stays => s
  | .goesOn progress => s.put p { svc with progress := progress }
  | .replies resp => s.answer o p svc resp

/-- The vouchers that pass the verification are remembered. -/
def System.accept (s : System) (svc : Service) (result : StageResult) : System :=
  { s with accepted := s.accepted ++ acceptance svc result }

/-- The channel is what a persist made of it. -/
def System.write (s : System) (svc : Service) (drawable : DrawableChannel) (l : Ledger) : System :=
  { s with
    ledger := l
    debits := s.debits ++
      debit o.channelText svc.req.id drawable.state.lastCumulativeAtomic s.ledger l }

/-- `persist_voucher_and_advance`. The response was earned and is delivered, whatever the persist
returns. -/
def System.persist (s : System) (p : Place) (fault : Fault) (svc : Service) : System :=
  match svc.progress with
  | .cleared drawable advance =>
    (s.write o svc drawable (stateOf (persistVoucherAndAdvance fault
      (voucherRecord o.channelText svc.req.voucher svc.billedAtomic advance) s.ledger))).answer
        o p svc okResponse
  | _ => s

/-- The handler of the request at a place is dropped; a `send` that waits for it throws. -/
def System.abandon (s : System) : Place → System
  | .awaited => { s with awaited := none, tracker := s.tracker.finish }
  | .orphan k => { s with orphans := s.orphans.eraseIdx k }

/-- A step of the request at a place, if there is one. -/
def System.onService (s : System) (p : Place) (f : Service → System) : System :=
  match s.at p with
  | none => s
  | some svc => f svc

/-! ### The tracker's side -/

/-- The turn of the loop in which the request went out. -/
def System.sent (s : System) (a : ActiveDraw) (req : DrawHttpRequest) : Fate → System
  | .handled h =>
    match s.admitted req h with
    | .error e =>
      { s with
        tracker := s.tracker.onResponse o.maxRetries a req.voucher.cumulativeAtomic
          e.intoResponse }
    | .ok svc => { s.takeLock with awaited := some svc }
  | .answered resp =>
    { s with
      tracker := s.tracker.onResponse o.maxRetries a req.voucher.cumulativeAtomic resp }
  | .lost => { s with tracker := s.tracker.finish, inFlight := s.inFlight ++ [req] }

/-- A turn of the loop, if it does not wait for a reply. -/
def System.attempt (s : System) (fate : Fate) : System :=
  match s.awaited, s.tracker.active with
  | none, some a =>
    match s.tracker.request signVoucher o a with
    | none => { s with tracker := s.tracker.finish }
    | some req => s.sent o a req fate
  | _, _ => s

/-- The loop no longer waits for its request. -/
def System.throws (s : System) : System :=
  match s.awaited with
  | none => s
  | some svc =>
    { s with tracker := s.tracker.finish, awaited := none, orphans := s.orphans ++ [svc] }

/-- A request under way reaches the endpoint. -/
def System.arrive (s : System) (k : ℕ) (h : Admission) : System :=
  match s.inFlight[k]? with
  | none => s
  | some req =>
    match s.admitted req h with
    | .error _ => { s with inFlight := s.inFlight.eraseIdx k }
    | .ok svc =>
      { s.takeLock with orphans := s.orphans ++ [svc], inFlight := s.inFlight.eraseIdx k }

/-- The system's step function. -/
def trackerStep (s : System) : TrackerLabel → System
  | .draw params =>
    { s with
      calls := s.calls ++ [params]
      tracker :=
        { s.tracker with queue := s.tracker.queue ++ [(s.calls.length, params)] } }
  | .begin => { s with tracker := s.tracker.begin }
  | .attempt fate => s.attempt signVoucher o fate
  | .throws => s.throws
  | .arrive k h => s.arrive k h
  | .load p h =>
    s.onService p fun svc =>
      (s.accept svc (loadStage verifySignature o.channelText s.ledger svc h)).stage o p svc
        (loadStage verifySignature o.channelText s.ledger svc h)
  | .serve p outcome => s.onService p fun svc => s.stage o p svc (serveStage feePercent svc outcome)
  | .recheck p redisAnswers =>
    s.onService p fun svc => s.stage o p svc (recheckStage s.lock svc redisAnswers)
  | .persist p fault => s.onService p (s.persist o p fault)
  | .drop p => s.onService p fun _ => s.abandon p
  | .unlock => { s with lock := none }
  | .resyncTo last =>
    if last ≤ u64Max then { s with tracker := { s.tracker with last := last } } else s
  | .beside fault op =>
    if drawsOn o.channelText op then s
    else { s with ledger := ledgerStep s.ledger (fault, op) }

/-- The system after a run, from a ledger that any operations led to. -/
def trackerRun (ops : List (Fault × LedgerOp)) (as : List TrackerLabel) : System :=
  run (trackerStep verifySignature signVoucher feePercent o)
    (System.init o (run ledgerStep Ledger.empty ops)) as

end System

end Solvela.Tracker
