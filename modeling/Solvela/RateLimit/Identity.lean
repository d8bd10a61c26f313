import Mathlib.Algebra.BigOperators.Finprod
import Solvela.Payment.Transaction
import Solvela.RateLimit.Limiter
import Solvela.Signer.ChannelWire

/-!
# The identity of a rate-limited client

`extract_payment` decodes the payment header of a request and `rate_limit` counts the request in
the bucket that `extract_client_id` names: the payer of the decoded payload, or else the peer's
address. Nothing of the payload has been verified at that point. The payer of an escrow payload
is a text of the client's choice, and the one of a direct payment the first account key of any
transaction that parses.

How many requests of a peer pass in a window is therefore a matter of which buckets their
payloads name. `Names` says which, from the fields of the payload alone; `passed_eq` counts, bucket
by bucket, the requests of the peer that pass, for every interleaving with other clients and with
cleanups.
-/

namespace Solvela.RateLimit

open Solvela.ChannelLedger Solvela.Payment Solvela.Signer Solvela.Lib
open Solvela.Channel (base64Decode)

/-- The libraries that read a payment header. -/
structure Libraries where
  parseJson : String → Option JsonValue
  bs58Encode : List UInt8 → String
  ed : Ed25519

section Identity
variable (lib : Libraries)

/-- `extract_payment`: a header of at most 50,000 bytes that decodes. -/
def extractPayment (header : Option String) : Option PaymentPayload := do
  let raw ← header
  if (textBytes raw).length > 50000 then none
  else (decodePaymentHeader lib.parseJson raw).toOption

/-- `extract_signer_from_base64_tx`. -/
def extractSignerFromBase64Tx (base64Tx : String) : Option String := do
  let bytes ← base64Decode (textBytes base64Tx)
  let tx ← (VersionedTransaction.fromBytes bytes).toOption
  let message ← (ParsedMessage.fromBytes tx.messageBytes).toOption
  let payer ← message.accountKeys.head?
  some (lib.bs58Encode payer.toList)

/-- `extract_payer_wallet`. -/
def extractPayerWallet (payload : PaymentPayload) : String :=
  match payload.payload with
  | .escrow _ _ agentPubkey => agentPubkey
  | .direct transaction => (extractSignerFromBase64Tx lib transaction).getD "unknown"
  | .channel _ => "unknown"

/-- `extract_client_id`. `peer` is the address of the connection, where it is known. -/
def extractClientId (payment : Option PaymentPayload) (peer : Option String) : String :=
  match payment with
  | some payload =>
    let payer := extractPayerWallet lib payload
    if payer ≠ "unknown" then payer else peer.getD "unknown"
  | none => peer.getD "unknown"

/-- The transaction of a payload carries the signature of its first account key. -/
def Verified (payload : PaymentPayload) : Prop :=
  match payload.payload with
  | .escrow depositTx _ _ => (decodeAndValidateTransaction lib.ed depositTx).isOk
  | .direct transaction => (decodeAndValidateTransaction lib.ed transaction).isOk
  | .channel _ => False

instance (payload : PaymentPayload) : Decidable (Verified lib payload) :=
  match payload with
  | ⟨_, _, _, .escrow _ _ _⟩ => inferInstanceAs (Decidable (_ = true))
  | ⟨_, _, _, .direct _⟩ => inferInstanceAs (Decidable (_ = true))
  | ⟨_, _, _, .channel _⟩ => inferInstanceAs (Decidable False)

/-! ## The middleware -/

/-- What the middleware reads of a request. -/
structure Request where
  path : String
  paymentSignature : Option String

/-- `RATE_LIMIT_SKIP_PATHS`. -/
def rateLimitSkipPaths : List String := ["/health", "/v1/models", "/metrics"]

/-- What the middleware does with a request: it hands it on uncounted, or within the limit, or
answers 429. -/
inductive Outcome
  | skipped
  | admitted (remaining : ℕ)
  | limited

/-- `rate_limit`. -/
def rateLimit (cfg : RateLimitConfig) (peer : Option String) (now : ℕ) (entries : Entries)
    (req : Request) : Outcome × Entries :=
  if req.path ∈ rateLimitSkipPaths then (.skipped, entries)
  else
    let clientId := extractClientId lib (extractPayment lib req.paymentSignature) peer
    match check cfg now entries clientId with
    | (some remaining, entries) => (.admitted remaining, entries)
    | (none, entries) => (.limited, entries)

/-- One event at the limiter: a request of the peer, a check of another client, a cleanup. -/
inductive Event
  | request (now : ℕ) (req : Request)
  | other (now : ℕ) (clientId : String)
  | cleanup (now : ℕ)

/-- The time of an event. -/
def Event.now : Event → ℕ
  | .request now _ => now
  | .other now _ => now
  | .cleanup now => now

/-- The limiter, with the number of the peer's requests that it has admitted. -/
structure Admissions where
  entries : Entries
  passed : ℕ

def admitEvent (cfg : RateLimitConfig) (peer : Option String) (s : Admissions) : Event → Admissions
  | .request now req =>
    match rateLimit lib cfg peer now s.entries req with
    | (.admitted _, entries) => ⟨entries, s.passed + 1⟩
    | (_, entries) => ⟨entries, s.passed⟩
  | .other now clientId => { s with entries := (check cfg now s.entries clientId).2 }
  | .cleanup now => { s with entries := cleanup cfg now s.entries }

/-- A limiter in some state, and what happens at it within one window. -/
structure OneWindow (cfg : RateLimitConfig) where
  start : ℕ
  entries : Entries
  events : List Event
  fresh : WindowFrom cfg start entries
  times : ∀ event ∈ events, InWindow cfg start event.now

/-- How many requests of the peer pass in the window. -/
def OneWindow.passed {cfg : RateLimitConfig} (w : OneWindow cfg) (peer : Option String) : ℕ :=
  (run (admitEvent lib cfg peer) ⟨w.entries, 0⟩ w.events).passed

/-- The request carries no transaction whose signature verifies. -/
def Event.Unsigned : Event → Prop
  | .request _ req => ∀ payload ∈ extractPayment lib req.paymentSignature, ¬ Verified lib payload
  | _ => True

instance (event : Event) : Decidable (event.Unsigned lib) :=
  match event with
  | .request _ req =>
    inferInstanceAs (Decidable (∀ payload ∈ extractPayment lib req.paymentSignature, _))
  | .other _ _ => inferInstanceAs (Decidable True)
  | .cleanup _ => inferInstanceAs (Decidable True)

/-- Without a verified signature, no more than `max_requests` requests of the peer pass. -/
def NotMinted {cfg : RateLimitConfig} (w : OneWindow cfg) (peer : Option String) : Prop :=
  (∀ event ∈ w.events, event.Unsigned lib) → w.passed lib peer ≤ cfg.maxRequests

/-! ## What the requests name -/

/-- The first account key of a transaction that decodes and parses, whether or not it is signed. -/
def FirstAccountKey (transaction : String) (payer : Pubkey) : Prop :=
  ∃ bytes tx message, base64Decode (textBytes transaction) = some bytes ∧
    VersionedTransaction.fromBytes bytes = .ok tx ∧
    ParsedMessage.fromBytes tx.messageBytes = .ok message ∧ message.accountKeys.head? = some payer

/-- The bucket of its own that a payload names: the agent key of an escrow payment, which is any
text, or the first account key of a direct payment. A voucher names none, and `unknown` is none. -/
inductive NamesOwn (payload : PaymentPayload) : String → Prop
  | escrow {depositTx serviceId agentPubkey : String}
      (hdata : payload.payload = .escrow depositTx serviceId agentPubkey)
      (hkey : agentPubkey ≠ "unknown") : NamesOwn payload agentPubkey
  | direct {transaction : String} {payer : Pubkey}
      (hdata : payload.payload = .direct transaction) (hpayer : FirstAccountKey transaction payer)
      (hkey : lib.bs58Encode payer.toList ≠ "unknown") :
      NamesOwn payload (lib.bs58Encode payer.toList)

/-- The bucket that an event names. A counted request without a payload that names one of its own
names the peer's. -/
inductive Names (peer : Option String) : Event → String → Prop
  | own {now : ℕ} {req : Request} {payload : PaymentPayload} {key : String}
      (hcounted : req.path ∉ rateLimitSkipPaths)
      (hpayload : extractPayment lib req.paymentSignature = some payload)
      (hown : NamesOwn lib payload key) : Names peer (.request now req) key
  | peer {now : ℕ} {req : Request} (hcounted : req.path ∉ rateLimitSkipPaths)
      (hnone : ∀ payload, extractPayment lib req.paymentSignature = some payload →
        ∀ key, ¬ NamesOwn lib payload key) : Names peer (.request now req) (peer.getD "unknown")
  | other {now : ℕ} {clientId : String} : Names peer (.other now clientId) clientId

/-- The event is a request of the peer. -/
def Event.ofPeer : Event → Bool
  | .request _ _ => true
  | _ => false

open Classical in
/-- The events that name a bucket, in their order. -/
noncomputable def named (peer : Option String) (events : List Event) (key : String) : List Event :=
  events.filter fun event => Names lib peer event key

/-- How many of the events of one bucket are requests of the peer within its limit. The bucket was
counted `earlier` times before, and the count is a `u32`. -/
def peerWithin (limit earlier : ℕ) (bucket : List Event) : ℕ :=
  bucket.zipIdx.countP fun event =>
    event.1.ofPeer && (earlier + event.2 + 1) % 2 ^ 32 ≤ limit

/-- How many requests of the peer come within the limits of the buckets that they name. -/
noncomputable def namedWithin {cfg : RateLimitConfig} (w : OneWindow cfg) (peer : Option String) :
    ℕ :=
  ∑ᶠ key, peerWithin (cfg.limitOf key) (used w.start w.entries key) (named lib peer w.events key)

/-! ## The client id is the bucket that is named -/

theorem extractSigner_eq_some {transaction key : String} :
    extractSignerFromBase64Tx lib transaction = some key ↔
      ∃ payer, FirstAccountKey transaction payer ∧ lib.bs58Encode payer.toList = key := by
  have hok {ε α : Type} (x : Except ε α) (a : α) : x.toOption = some a ↔ x = .ok a := by
    cases x <;> simp [Except.toOption]
  simp only [extractSignerFromBase64Tx, Option.bind_eq_bind, Option.bind_eq_some_iff,
    Option.some.injEq, hok, FirstAccountKey]
  constructor
  · rintro ⟨bytes, hbytes, tx, htx, message, hmessage, payer, hpayer, hkey⟩
    exact ⟨payer, ⟨bytes, tx, message, hbytes, htx, hmessage, hpayer⟩, hkey⟩
  · rintro ⟨payer, ⟨bytes, tx, message, hbytes, htx, hmessage, hpayer⟩, hkey⟩
    exact ⟨bytes, hbytes, tx, htx, message, hmessage, payer, hpayer, hkey⟩

theorem namesOwn_iff {payload : PaymentPayload} {key : String} :
    NamesOwn lib payload key ↔ extractPayerWallet lib payload = key ∧ key ≠ "unknown" := by
  constructor
  · rintro (⟨hdata, hkey⟩ | ⟨hdata, hpayer, hkey⟩)
    · exact ⟨by rw [extractPayerWallet, hdata], hkey⟩
    · refine ⟨?_, hkey⟩
      rw [extractPayerWallet, hdata]
      dsimp only
      rw [(extractSigner_eq_some lib).mpr ⟨_, hpayer, rfl⟩, Option.getD_some]
  · rintro ⟨hpayer, hkey⟩
    unfold extractPayerWallet at hpayer
    cases hdata : payload.payload with
    | escrow depositTx serviceId agentPubkey =>
      simp only [hdata] at hpayer
      subst hpayer
      exact .escrow hdata hkey
    | direct transaction =>
      simp only [hdata] at hpayer
      cases hsigner : extractSignerFromBase64Tx lib transaction with
      | none =>
        rw [hsigner, Option.getD_none] at hpayer
        exact absurd hpayer.symm hkey
      | some signer =>
        rw [hsigner, Option.getD_some] at hpayer
        subst hpayer
        obtain ⟨payer, hfirst, rfl⟩ := (extractSigner_eq_some lib).mp hsigner
        exact .direct hdata hfirst hkey
    | channel voucher =>
      simp only [hdata] at hpayer
      exact absurd hpayer.symm hkey

/-- The bucket that the middleware counts an event in. -/
def Event.key (peer : Option String) : Event → Option String
  | .request _ req =>
    if req.path ∈ rateLimitSkipPaths then none
    else some (extractClientId lib (extractPayment lib req.paymentSignature) peer)
  | .other _ clientId => some clientId
  | .cleanup _ => none

/-- `extract_client_id` finds the bucket that a request names. -/
theorem names_iff {peer : Option String} {event : Event} {key : String} :
    Names lib peer event key ↔ event.key lib peer = some key := by
  cases event with
  | request now req =>
    by_cases hskip : req.path ∈ rateLimitSkipPaths
    · simp only [Event.key, if_pos hskip]
      constructor
      · rintro (⟨hcounted, -, -⟩ | ⟨hcounted, -⟩) <;> exact absurd hskip hcounted
      · exact fun h => absurd h (by simp)
    · simp only [Event.key, if_neg hskip, Option.some.injEq]
      constructor
      -- the payload names the client, or nobody does and the peer counts
      · rintro (⟨-, hpayload, hown⟩ | ⟨-, hnone⟩)
        · obtain ⟨hpayer, hkey⟩ := (namesOwn_iff lib).mp hown
          rw [hpayload, extractClientId, hpayer, if_pos hkey]
        · cases hpayload : extractPayment lib req.paymentSignature with
          | none => rfl
          | some payload =>
            have hunknown : extractPayerWallet lib payload = "unknown" := by
              by_contra hkey
              exact hnone payload hpayload _ ((namesOwn_iff lib).mpr ⟨rfl, hkey⟩)
            rw [extractClientId, hunknown, if_neg (by simp)]
      · intro hid
        cases hpayload : extractPayment lib req.paymentSignature with
        | none =>
          rw [hpayload] at hid
          subst hid
          exact .peer hskip (fun payload h => by rw [hpayload] at h; cases h)
        | some payload =>
          rw [hpayload, extractClientId] at hid
          -- `unknown` is what the payload says when it names nobody
          by_cases hunknown : extractPayerWallet lib payload = "unknown"
          · rw [if_neg (by simp [hunknown])] at hid
            subst hid
            refine .peer hskip ?_
            intro payload' hpayload' key hown
            obtain rfl := Option.some.inj (hpayload.symm.trans hpayload')
            obtain ⟨hpayer, hkey⟩ := (namesOwn_iff lib).mp hown
            exact hkey (hpayer.symm.trans hunknown)
          · rw [if_pos hunknown] at hid
            subst hid
            exact .own hskip hpayload ((namesOwn_iff lib).mpr ⟨rfl, hunknown⟩)
  | other now clientId =>
    constructor
    · rintro ⟨⟩
      rfl
    · intro h
      obtain rfl := Option.some.inj h
      exact .other
  | cleanup now =>
    constructor
    · rintro ⟨⟩
    · exact fun h => absurd h (by simp [Event.key])

/-! ## Runs -/

variable {cfg : RateLimitConfig} (peer : Option String) {start : ℕ}

/-- The event is a request of the peer within the limit of its bucket. `earlier` is how often each
bucket was counted before. -/
def Event.within (cfg : RateLimitConfig) (peer : Option String) (earlier : String → ℕ)
    (event : Event) : Bool :=
  event.ofPeer && ((event.key lib peer).any fun key =>
    (earlier key + 1) % 2 ^ 32 ≤ cfg.limitOf key)

/-- One event: the window goes on, the bucket that it names is counted, and a request of the peer
passes if it is within the limit. -/
theorem admit_spec {s : Admissions} (hwindow : WindowFrom cfg start s.entries) {event : Event}
    (hnow : InWindow cfg start event.now) :
    WindowFrom cfg start (admitEvent lib cfg peer s event).entries ∧
    (∀ key, used start (admitEvent lib cfg peer s event).entries key =
      if event.key lib peer = some key then (used start s.entries key + 1) % 2 ^ 32
      else used start s.entries key) ∧
    (admitEvent lib cfg peer s event).passed =
      s.passed + (event.within lib cfg peer (used start s.entries)).toNat := by
  -- what a check of one bucket does to the counts
  have hcheck (now : ℕ) (clientId : String) (hnow : InWindow cfg start now) (key : String) :
      used start (check cfg now s.entries clientId).2 key =
        if some clientId = some key then (used start s.entries key + 1) % 2 ^ 32
        else used start s.entries key := by
    rw [(check_spec hwindow hnow clientId).2.1]
    by_cases hsame : key = clientId
    · rw [hsame, Function.update_self, if_pos rfl]
    · have hne : ¬ some clientId = some key := fun h => hsame (Option.some.inj h).symm
      rw [Function.update_of_ne hsame, if_neg hne]
  cases event with
  | request now req =>
    change InWindow cfg start now at hnow
    by_cases hskip : req.path ∈ rateLimitSkipPaths
    · have hkey : (Event.request now req).key lib peer = none := by simp [Event.key, hskip]
      have hevent : admitEvent lib cfg peer s (.request now req) = s := by
        simp [admitEvent, rateLimit, hskip]
      rw [hevent, hkey]
      refine ⟨hwindow, fun key => by simp, ?_⟩
      simp [Event.within, hkey]
    · obtain ⟨clientId, hid⟩ : ∃ clientId,
          extractClientId lib (extractPayment lib req.paymentSignature) peer = clientId := ⟨_, rfl⟩
      have hkey : (Event.request now req).key lib peer = some clientId := by
        rw [Event.key, if_neg hskip, hid]
      have hevent : admitEvent lib cfg peer s (.request now req) =
          ⟨(check cfg now s.entries clientId).2,
            s.passed + ((check cfg now s.entries clientId).1.isSome).toNat⟩ := by
        simp only [admitEvent, rateLimit, if_neg hskip, hid]
        rcases check cfg now s.entries clientId with ⟨_ | remaining, entries⟩ <;> rfl
      have hspec := check_spec hwindow hnow clientId
      rw [hevent, hkey]
      refine ⟨hspec.1, hcheck now clientId hnow, ?_⟩
      show s.passed + _ = s.passed + _
      congr 2
      rw [Bool.eq_iff_iff, hspec.2.2]
      simp [Event.within, Event.ofPeer, hkey]
  | other now clientId =>
    exact ⟨(check_spec hwindow hnow clientId).1, hcheck now clientId hnow, rfl⟩
  | cleanup now =>
    change InWindow cfg start now at hnow
    obtain ⟨hkept, hused⟩ := cleanup_spec hwindow hnow
    refine ⟨hkept, ?_, rfl⟩
    intro key
    show used start (cleanup cfg now s.entries) key = _
    rw [hused]
    simp [Event.key]

theorem named_append (events : List Event) (event : Event) (key : String) :
    named lib peer (events ++ [event]) key =
      named lib peer events key ++ if event.key lib peer = some key then [event] else [] := by
  unfold named
  rw [List.filter_append]
  congr 1
  by_cases hkey : event.key lib peer = some key
  · rw [if_pos hkey, List.filter_cons_of_pos (by simpa using (names_iff lib).mpr hkey)]
    rfl
  · rw [if_neg hkey, List.filter_cons_of_neg]
    · rfl
    · simpa using fun h => hkey ((names_iff lib).mp h)

theorem peerWithin_append (limit earlier : ℕ) (bucket : List Event) (event : Event) :
    peerWithin limit earlier (bucket ++ [event]) = peerWithin limit earlier bucket +
      (event.ofPeer && (earlier + bucket.length + 1) % 2 ^ 32 ≤ limit).toNat := by
  unfold peerWithin
  rw [List.zipIdx_append, List.countP_append]
  congr 1
  simp only [List.zipIdx_singleton, List.countP_singleton, Nat.zero_add]
  split
  · rename_i h
    rw [h]
    rfl
  · rename_i h
    rw [Bool.eq_false_of_not_eq_true h]
    rfl

/-- After any events of the window, a bucket has been counted as often as it was named. -/
theorem run_spec {entries : Entries} (hwindow : WindowFrom cfg start entries)
    {events : List Event} (htimes : ∀ event ∈ events, InWindow cfg start event.now) :
    WindowFrom cfg start (run (admitEvent lib cfg peer) ⟨entries, 0⟩ events).entries ∧
    ∀ key,
      (used start (run (admitEvent lib cfg peer) ⟨entries, 0⟩ events).entries key + 1) % 2 ^ 32 =
        (used start entries key + (named lib peer events key).length + 1) % 2 ^ 32 := by
  induction events using List.reverseRecOn with
  | nil => exact ⟨hwindow, fun key => by simp [named]⟩
  | append_singleton events event ih =>
    have hevents : ∀ e ∈ events, InWindow cfg start e.now := fun e he =>
      htimes e (List.mem_append_left _ he)
    have hevent : InWindow cfg start event.now :=
      htimes event (List.mem_append_right _ (List.mem_singleton_self _))
    obtain ⟨hbefore, hcount⟩ := ih hevents
    obtain ⟨hafter, hused, -⟩ := admit_spec lib peer hbefore hevent
    rw [run_append]
    refine ⟨hafter, ?_⟩
    intro key
    have hkey := hcount key
    show (used start (admitEvent lib cfg peer _ event).entries key + 1) % 2 ^ 32 = _
    rw [hused key, named_append, List.length_append]
    split
    · rw [List.length_singleton]
      omega
    · rw [List.length_nil]
      omega

/-- How many requests of the peer pass, over any buckets that include those they name. -/
theorem passed_eq_sum {entries : Entries} (hwindow : WindowFrom cfg start entries)
    {events : List Event} (htimes : ∀ event ∈ events, InWindow cfg start event.now)
    {keys : Finset String}
    (hkeys : ∀ event ∈ events, ∀ key, event.key lib peer = some key → key ∈ keys) :
    (run (admitEvent lib cfg peer) ⟨entries, 0⟩ events).passed =
      ∑ key ∈ keys,
        peerWithin (cfg.limitOf key) (used start entries key) (named lib peer events key) := by
  induction events using List.reverseRecOn with
  | nil => exact (Finset.sum_eq_zero fun key _ => rfl).symm
  | append_singleton events event ih =>
    have hevents : ∀ e ∈ events, InWindow cfg start e.now := fun e he =>
      htimes e (List.mem_append_left _ he)
    have hevent : InWindow cfg start event.now :=
      htimes event (List.mem_append_right _ (List.mem_singleton_self _))
    have hsum := ih hevents fun e he => hkeys e (List.mem_append_left _ he)
    obtain ⟨hbefore, hcount⟩ := run_spec lib peer hwindow hevents
    obtain ⟨-, -, hpassed⟩ := admit_spec lib peer hbefore hevent
    have hnew (key : String) :
        peerWithin (cfg.limitOf key) (used start entries key)
            (named lib peer (events ++ [event]) key) =
          peerWithin (cfg.limitOf key) (used start entries key) (named lib peer events key) +
            if event.key lib peer = some key then
              (event.ofPeer && (used start entries key +
                (named lib peer events key).length + 1) % 2 ^ 32 ≤ cfg.limitOf key).toNat
            else 0 := by
      rw [named_append]
      split
      · rw [peerWithin_append]
      · rw [List.append_nil, Nat.add_zero]
    simp only [hnew]
    rw [run_append, Finset.sum_add_distrib, ← hsum]
    show (admitEvent lib cfg peer _ event).passed = _
    rw [hpassed]
    congr 1
    -- only the bucket of the new event counts one more
    cases hkey : event.key lib peer with
    | none => simp [Event.within, hkey]
    | some named =>
      have hmem : named ∈ keys :=
        hkeys event (List.mem_append_right _ (List.mem_singleton_self _)) named hkey
      simp only [Option.some.injEq]
      rw [Finset.sum_ite_eq, if_pos hmem, ← hcount named]
      simp [Event.within, hkey]

/-- How many requests of the peer pass: those within the limits of the buckets that they name. -/
theorem passed_eq (w : OneWindow cfg) : w.passed lib peer = namedWithin lib w peer := by
  have hkeys : ∀ event ∈ w.events, ∀ key, event.key lib peer = some key →
      key ∈ (w.events.filterMap (Event.key lib peer)).toFinset := by
    intro event hevent key hkey
    rw [List.mem_toFinset, List.mem_filterMap]
    exact ⟨event, hevent, hkey⟩
  unfold OneWindow.passed namedWithin
  rw [passed_eq_sum lib peer w.fresh w.times hkeys]
  symm
  apply finsum_eq_sum_of_support_subset
  intro key hsupport
  by_contra hnot
  -- a bucket that no event names has no events
  have hnone : named lib peer w.events key = [] := by
    unfold named
    rw [List.filter_eq_nil_iff]
    intro event hevent hname
    exact hnot (hkeys event hevent key ((names_iff lib).mp (by simpa using hname)))
  apply hsupport
  simp only [hnone]
  rfl

/-- A bucket whose count does not wrap lets no more through than its limit. -/
theorem peerWithin_le {limit earlier : ℕ} {bucket : List Event}
    (hcount : earlier + bucket.length < 2 ^ 32) : peerWithin limit earlier bucket ≤ limit := by
  have hle : peerWithin limit earlier bucket ≤ limit - earlier ∧
      peerWithin limit earlier bucket ≤ bucket.length := by
    induction bucket using List.reverseRecOn with
    | nil => exact ⟨Nat.zero_le _, Nat.le_refl _⟩
    | append_singleton bucket event ih =>
      rw [List.length_append, List.length_singleton] at hcount ⊢
      obtain ⟨hlimit, hlength⟩ := ih (by omega)
      rw [peerWithin_append, Nat.mod_eq_of_lt (by omega)]
      cases event.ofPeer with
      | false =>
        rw [Bool.false_and, Bool.toNat_false]
        omega
      | true =>
        rw [Bool.true_and]
        by_cases hwithin : earlier + bucket.length + 1 ≤ limit
        · simp only [hwithin, decide_true, Bool.toNat_true]
          omega
        · simp only [hwithin, decide_false, Bool.toNat_false]
          omega
  omega

/-- At most `max_requests` requests of a peer without a verified signature pass in a window
exactly when, summed over the buckets that they name, no more than that come within the buckets'
limits, whatever other clients and cleanups come between them. So it is when they all name one
bucket with no larger limit, and its count does not wrap. -/
theorem not_minted_iff (w : OneWindow cfg) :
    (NotMinted lib w peer ↔
      ((∀ event ∈ w.events, event.Unsigned lib) → namedWithin lib w peer ≤ cfg.maxRequests)) ∧
    ∀ bucket, (∀ event ∈ w.events, event.ofPeer = true →
        ∀ key, Names lib peer event key → key = bucket) →
      cfg.limitOf bucket ≤ cfg.maxRequests →
      used w.start w.entries bucket + w.events.length < 2 ^ 32 → NotMinted lib w peer := by
  unfold NotMinted
  rw [passed_eq lib peer w]
  refine ⟨Iff.rfl, ?_⟩
  intro bucket hbucket hlimit hcount _
  have hsupport : namedWithin lib w peer =
      peerWithin (cfg.limitOf bucket) (used w.start w.entries bucket)
        (named lib peer w.events bucket) := by
    apply finsum_eq_single
    intro key hkey
    unfold peerWithin
    rw [List.countP_eq_zero]
    rintro ⟨event, n⟩ hevent hpeer
    obtain ⟨hpeer, -⟩ := Bool.and_eq_true_iff.mp hpeer
    have hmem := List.fst_mem_of_mem_zipIdx hevent
    obtain ⟨hin, hname⟩ := List.mem_filter.mp hmem
    exact hkey (hbucket event hin hpeer key (by simpa using hname))
  have hlength : (named lib peer w.events bucket).length ≤ w.events.length :=
    List.length_filter_le _ _
  rw [hsupport]
  exact le_trans (peerWithin_le (by omega)) hlimit

end Identity

/-! ## Two identities of one peer -/

/-- An escrow payment without a deposit transaction, under a name of the client's choice. -/
def escrowJson (agentPubkey : String) : JsonValue :=
  .obj
    [ ("x402_version", .num "2"),
      ("resource", .obj [("url", .str "/v1/chat/completions"), ("method", .str "POST")]),
      ("accepted", .obj
        [ ("scheme", .str "escrow"), ("network", .str "solana"), ("amount", .str "1"),
          ("asset", .str "USDC"), ("pay_to", .str "solvela"),
          ("max_timeout_seconds", .num "300") ]),
      ("payload", .obj
        [ ("deposit_tx", .str ""), ("service_id", .str ""),
          ("agent_pubkey", .str agentPubkey) ]) ]

/-- Libraries that read the two headers of the example, and accept no signature. -/
def exampleLibraries : Libraries where
  parseJson := fun text =>
    [escrowJson "alice", escrowJson "bob"].find? fun value => jsonText value = text
  bs58Encode := fun _ => ""
  ed := ⟨fun _ => .error "invalid key", fun _ _ _ => .error "invalid signature"⟩

/-- A chat request with an escrow payment as its header. -/
def escrowRequest (agentPubkey : String) : Request where
  path := "/v1/chat/completions"
  paymentSignature := some (jsonText (escrowJson agentPubkey))

/-- Two requests of one peer to a new limiter. -/
def twoNames : OneWindow (.withMaxRequests 1) where
  start := 0
  entries := fun _ => none
  events := [.request 0 (escrowRequest "alice"), .request 1 (escrowRequest "bob")]
  fresh := by
    intro clientId entry h
    exact absurd h (by simp)
  times := by
    intro event hevent
    rcases List.mem_cons.mp hevent with rfl | hevent
    · exact ⟨by decide, by decide⟩
    · obtain rfl := List.mem_singleton.mp hevent
      exact ⟨by decide, by decide⟩

/-- A limit of one request lets both pass: each payload names a bucket of its own. -/
theorem two_names_pass_limit_of_one :
    ¬ NotMinted exampleLibraries twoNames (some "10.0.0.1") := by
  intro h
  have hunsigned : ∀ event ∈ twoNames.events, event.Unsigned exampleLibraries := by
    decide +kernel
  have hpassed : twoNames.passed exampleLibraries (some "10.0.0.1") = 2 := by decide +kernel
  have hle := h hunsigned
  rw [hpassed] at hle
  exact absurd hle (by decide)

end Solvela.RateLimit
