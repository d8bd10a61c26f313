import Solvela.Channel.Tracker
import Mathlib.Data.Multiset.Count

/-!
# Draws are debited once, by their quote at most

The gateway compares the text of the accepted amount with its own quote before it looks at the
voucher, and the tracker parses that same text for the quote it signs. So whatever cumulative the
tracker believes in, a voucher of it that is accepted is its quote above the snapshot it was
verified against. The channel may have moved on since, never back, and a persist moves it to the
voucher's cumulative: that is the quote, or less where somebody drew in between.

That a call is debited once rests on who still holds its id: a call is queued, or running, or has a
request under way, or has been debited. A reply that follows a debit is a 2xx and ends the call,
and a lost reply ends it too, so an id is never held twice.

* `Service.Sound` is what is known of a request at the endpoint, `Books` of all of them and of the
  ledger, `HeldOnce` of the ids; `TrackerInv` is both.
* Each kind of step has a lemma for each of the two, and `trackerInv_run` is the run lemma.
-/

namespace Solvela.Tracker

open Solvela.Lib
open Solvela.Lib.Txn
open Solvela.ChannelLedger Solvela.Channel
open Solvela.Client (Json isDigits digitsValue)

/-! ## Amounts as texts -/

/-- A written number is read as it was. -/
theorem digitsValue_toString (n : ℕ) : digitsValue (toString n).toList = n := by
  have h : digitsValue (Nat.toDigits 10 n) = Nat.ofDigitChars 10 (Nat.toDigits 10 n) 0 := by
    rw [Nat.ofDigitChars_eq_foldl, digitsValue]
    congr 1
    funext m c
    rw [Nat.mul_comm]
  rw [show (toString n).toList = Nat.toDigits 10 n from Nat.toList_repr, h,
    Nat.ofDigitChars_ten_toDigits]

/-- A written number is a text of digits. -/
theorem isDigits_toString (n : ℕ) : isDigits (toString n).toList = true := by
  rw [show (toString n).toList = Nat.toDigits 10 n from Nat.toList_repr]
  have hall : (Nat.toDigits 10 n).all Char.isDigit = true := by
    rw [List.all_eq_true]
    intro c hc
    exact Nat.isDigit_of_mem_toDigits (by omega) (by omega) hc
  simp [isDigits, hall, Nat.toDigits_ne_nil]

/-- A parsed amount is positive and a word. -/
theorem parseAtomicAmount_some {amount : String} {quote : ℕ}
    (h : parseAtomicAmount amount = some quote) :
    quote = digitsValue amount.toList ∧ 0 < quote ∧ quote ≤ u64Max := by
  unfold parseAtomicAmount at h
  split_ifs at h with h₁ h₂ h₃
  have hq := Option.some.inj h
  omega

/-- The quote is the number the gateway wrote. -/
theorem parseAtomicAmount_eq {n quote : ℕ} (h : parseAtomicAmount (toString n) = some quote) :
    quote = n := by
  have hq := (parseAtomicAmount_some h).1
  rw [digitsValue_toString] at hq
  exact hq

/-- A positive word is parsed as it was written. -/
theorem parseAtomicAmount_toString {n : ℕ} (hpos : 0 < n) (hle : n ≤ u64Max) :
    parseAtomicAmount (toString n) = some n := by
  have hne : ¬ n = 0 := by omega
  have hnot : ¬ u64Max < n := by omega
  rw [parseAtomicAmount, isDigits_toString, digitsValue_toString, if_neg (by simp), if_neg hne,
    if_neg hnot]

/-- The figure of a structured rejection is read back as it was written. -/
theorem parseResyncCumulative_resync (message : String) {n : ℕ} (hn : n ≤ u64Max) :
    parseResyncCumulative (GatewayError.invalidPaymentWithResync message n).intoResponse.body =
      some n := by
  show (if isDigits (toString n).toList = true ∧ digitsValue (toString n).toList ≤ u64Max then
      some (digitsValue (toString n).toList) else none) = some n
  rw [digitsValue_toString, isDigits_toString, if_pos ⟨rfl, hn⟩]

/-! ## The endpoint -/

/-- An admitted draw is for the endpoint's own bill, and has the lock. -/
theorem admitDraw_ok {req : DrawHttpRequest} {h : Admission} {slot : ℕ}
    (hok : admitDraw req h = .ok slot) :
    req.acceptedAmount = toString h.billedAtomic ∧ h.lock = .acquired := by
  unfold admitDraw at hok
  split_ifs at hok with havailable hamount
  split at hok
  · exact absurd hok (by simp)
  · split at hok
    · exact absurd hok (by simp)
    · split at hok
      · rename_i hlock
        exact ⟨not_not.1 hamount, hlock⟩
      · exact absurd hok (by simp)
      · exact absurd hok (by simp)

/-- What is known of a request that just took the lock. -/
structure Entered (s : System) (req : DrawHttpRequest) (svc : Service) : Prop where
  sent : svc.req = req
  amount : req.acceptedAmount = toString svc.billedAtomic
  token : svc.token = s.tokens
  progress : svc.progress = .locked
  free : s.lock = none

/-- An admitted request has become a service. -/
theorem System.admitted_ok {s : System} {req : DrawHttpRequest} {h : Admission} {svc : Service}
    (hok : s.admitted req h = .ok svc) : Entered s req svc := by
  unfold System.admitted at hok
  split at hok
  · exact absurd hok (by simp)
  · rename_i slot hadmitted
    obtain ⟨hamount, hlock⟩ := admitDraw_ok hadmitted
    obtain rfl := Except.ok.inj hok
    refine ⟨rfl, hamount, rfl, rfl, ?_⟩
    cases hfree : s.lock with
    | none => rfl
    | some token =>
      -- a lock that is taken is not acquired
      cases hreply : h.lock with
      | acquired => simp [System.lockReply, hfree, hreply] at hlock
      | busy => simp [System.lockReply, hfree, hreply] at hlock
      | redisError => simp [System.lockReply, hfree, hreply] at hlock

section Endpoint
variable {verifySignature : Pubkey → List UInt8 → Vector UInt8 64 → Bool} {feePercent : ℕ}
  {id : ChannelId} {l : Ledger} {svc : Service} {progress : Progress}

/-- What the endpoint serves under the lock: a loaded channel and an accepted voucher. -/
theorem verifyLocked_ok {h : Loading} {drawable : DrawableChannel}
    (hok : verifyLocked verifySignature id l svc h = .ok drawable) :
    loadOpenChannelState l id svc.requestDigest = .ok (some drawable) ∧
      verifyVoucher verifySignature drawable.state svc.req.voucher svc.billedAtomic
        svc.currentSlot = .ok () := by
  unfold verifyLocked at hok
  by_cases hloads : h.loads = true
  · rw [if_pos hloads] at hok
    split at hok
    · rename_i ch hload
      by_cases htenant : h.requireTenant = true
      · rw [if_pos htenant] at hok
        exact absurd hok (by simp)
      · rw [if_neg htenant] at hok
        split at hok
        · exact absurd hok (by simp)
        · rename_i hverify
          have hch := Except.ok.inj hok
          rw [← hch]
          exact ⟨hload, hverify⟩
    · exact absurd hok (by simp)
    · exact absurd hok (by simp)
  · rw [if_neg hloads] at hok
    exact absurd hok (by simp)

/-- A load that goes on has verified the voucher against what it loaded. -/
theorem loadStage_goesOn {h : Loading}
    (hgo : loadStage verifySignature id l svc h = .goesOn progress) :
    ∃ drawable, progress = .verified drawable ∧
      loadOpenChannelState l id svc.requestDigest = .ok (some drawable) ∧
      verifyVoucher verifySignature drawable.state svc.req.voucher svc.billedAtomic
        svc.currentSlot = .ok () := by
  unfold loadStage at hgo
  split at hgo
  · split at hgo
    · exact absurd hgo (by simp)
    · rename_i drawable hlocked
      obtain rfl := StageResult.goesOn.inj hgo
      exact ⟨drawable, rfl, verifyLocked_ok hlocked⟩
  · exact absurd hgo (by simp)

/-- The serve keeps the snapshot. -/
theorem serveStage_goesOn {outcome : ServeOutcome}
    (hgo : serveStage feePercent svc outcome = .goesOn progress) :
    progress.drawable = svc.progress.drawable := by
  unfold serveStage at hgo
  split at hgo
  · rename_i drawable hprogress
    split at hgo
    · exact absurd hgo (by simp)
    · exact absurd hgo (by simp)
    · exact absurd hgo (by simp)
    · obtain rfl := StageResult.goesOn.inj hgo
      rw [hprogress]
      rfl
  · exact absurd hgo (by simp)

/-- So does the check of the lock. -/
theorem recheckStage_goesOn {lock : Option ℕ} {redisAnswers : Bool}
    (hgo : recheckStage lock svc redisAnswers = .goesOn progress) :
    progress.drawable = svc.progress.drawable := by
  unfold recheckStage at hgo
  split at hgo
  · rename_i drawable advance hprogress
    split_ifs at hgo
    obtain rfl := StageResult.goesOn.inj hgo
    rw [hprogress]
    rfl
  · exact absurd hgo (by simp)

variable (id l) in
/-- A persist does nothing, or moves the channel to the voucher's cumulative. -/
theorem persist_effect (fault : Fault) (voucher : Voucher) (billed advance : ℕ) :
    stateOf (persistVoucherAndAdvance fault (voucherRecord id voucher billed advance) l) = l ∨
    ∃ v r, v.channelId = id ∧ v.cumulativeAtomic = voucher.cumulativeAtomic ∧
      Persisted v r l
        (stateOf (persistVoucherAndAdvance fault (voucherRecord id voucher billed advance) l)) := by
  cases hpersist : persistVoucherAndAdvance fault (voucherRecord id voucher billed advance) l with
  | error e l' => exact Or.inl (atomically_error hpersist)
  | ok u l' =>
    obtain ⟨r, hspec⟩ := persistVoucherAndAdvance_ok hpersist
    exact Or.inr ⟨_, r, rfl, rfl, hspec⟩

end Endpoint

/-! ## The calls and their quotes -/

/-- The quote of a `draw()` call. -/
def quoteOf (calls : List ChannelDrawParams) (id : ℕ) : Option ℕ :=
  (calls[id]?).bind fun params => parseAtomicAmount params.amount

/-- A call keeps its number. -/
theorem getElem?_append_call {calls : List ChannelDrawParams} {id : ℕ} {p : ChannelDrawParams}
    (h : calls[id]? = some p) (q : ChannelDrawParams) : (calls ++ [q])[id]? = some p := by
  have hlt : id < calls.length := by
    apply (List.getElem?_eq_some_iff.1 h).1
  rw [List.getElem?_append_left hlt, h]

/-- A call keeps its quote. -/
theorem quoteOf_append {calls : List ChannelDrawParams} {id quote : ℕ}
    (h : quoteOf calls id = some quote) (p : ChannelDrawParams) :
    quoteOf (calls ++ [p]) id = some quote := by
  obtain ⟨params, hparams, hquote⟩ := Option.bind_eq_some_iff.1 h
  rw [quoteOf, getElem?_append_call hparams]
  exact hquote

/-- The request carries the amount of its call, and the quote that amount denotes. -/
structure DrawHttpRequest.Signed (calls : List ChannelDrawParams) (req : DrawHttpRequest) :
    Prop where
  call : quoteOf calls req.id = some req.quote
  amount : parseAtomicAmount req.acceptedAmount = some req.quote

/-- The tracker works on calls that were made. -/
structure ChannelTracker.Valid (calls : List ChannelDrawParams) (t : ChannelTracker) : Prop where
  queued : ∀ e ∈ t.queue, calls[e.1]? = some e.2
  active : ∀ a ∈ t.active,
    calls[a.id]? = some a.params ∧ parseAtomicAmount a.params.amount = some a.quote

/-- The calls the tracker still works on. -/
def ChannelTracker.ids (t : ChannelTracker) : Multiset ℕ :=
  (t.active.elim 0 fun a => {a.id}) + (t.queue.map (·.1) : List ℕ)

/-- A call that ends is the one that is gone. -/
theorem ChannelTracker.ids_finish {t : ChannelTracker} {a : ActiveDraw} (h : t.active = some a) :
    t.finish.ids + {a.id} = t.ids := by
  rw [ids, ids, finish, h]
  exact (add_comm _ _).trans (congrArg _ (zero_add _))

/-- Ending a call keeps the tracker valid. -/
theorem ChannelTracker.Valid.finish {calls : List ChannelDrawParams} {t : ChannelTracker}
    (h : t.Valid calls) : t.finish.Valid calls := by
  refine ⟨h.queued, ?_⟩
  intro a ha
  exact absurd ha (by simp [ChannelTracker.finish])

/-- So does a new call. -/
theorem ChannelTracker.Valid.append {calls : List ChannelDrawParams} {t : ChannelTracker}
    (h : t.Valid calls) (p : ChannelDrawParams) : t.Valid (calls ++ [p]) := by
  constructor
  · intro e he
    exact getElem?_append_call (h.queued e he) p
  · intro a ha
    have hactive := h.active a ha
    exact ⟨getElem?_append_call hactive.1 p, hactive.2⟩

/-- Starting a draw takes its call from the queue, or drops it. -/
theorem ChannelTracker.Valid.begin {calls : List ChannelDrawParams} {t : ChannelTracker}
    (h : t.Valid calls) : t.begin.Valid calls ∧ t.begin.ids ≤ t.ids := by
  unfold ChannelTracker.begin
  split
  · rename_i id params queue hactive hqueue
    have hcall : calls[id]? = some params := by
      apply h.queued (id, params)
      rw [hqueue]
      exact List.mem_cons_self ..
    have hrest : ∀ e ∈ queue, calls[e.1]? = some e.2 := by
      intro e he
      apply h.queued e
      rw [hqueue]
      exact List.mem_cons_of_mem _ he
    have hids : t.ids = {id} + (queue.map (·.1) : List ℕ) := by
      rw [ids, hactive, hqueue]
      exact zero_add _
    split
    -- a quote that does not parse ends the call
    · refine ⟨⟨hrest, ?_⟩, ?_⟩
      · intro a ha
        exact absurd ha (by simp [hactive])
      · rw [hids, ids, hactive]
        exact add_le_add (Multiset.zero_le _) le_rfl
    · rename_i quote hquote
      refine ⟨⟨hrest, ?_⟩, ?_⟩
      · intro a ha
        obtain rfl := Option.mem_some_iff.1 ha
        exact ⟨hcall, hquote⟩
      · rw [hids]
        exact le_rfl
  · exact ⟨h, le_rfl⟩

/-- What the loop does with a reply: it ends the draw, or goes on with it when the reply is not
a 2xx. -/
theorem ChannelTracker.onResponse_effect (maxRetries : ℚ) (a : ActiveDraw) (cumulative : ℕ)
    (resp : DrawResponse) (t : ChannelTracker) :
    (t.onResponse maxRetries a cumulative resp).queue = t.queue ∧
      ((t.onResponse maxRetries a cumulative resp).active = none ∨
        resp.status ≠ 200 ∧ (t.onResponse maxRetries a cumulative resp).active =
          some { a with attempt := a.attempt + 1 }) := by
  have hretry : ∀ t' : ChannelTracker, (t'.retry maxRetries a).queue = t'.queue ∧
      ((t'.retry maxRetries a).active = none ∨
        (t'.retry maxRetries a).active = some { a with attempt := a.attempt + 1 }) := by
    intro t'
    unfold ChannelTracker.retry
    split_ifs
    · exact ⟨rfl, Or.inl rfl⟩
    · exact ⟨rfl, Or.inr rfl⟩
  unfold ChannelTracker.onResponse
  split_ifs with hok hbusy
  · exact ⟨rfl, Or.inl rfl⟩
  · have hne : resp.status ≠ 200 := by omega
    exact ⟨(hretry t).1, (hretry t).2.imp_right fun h => ⟨hne, h⟩⟩
  · have hne : resp.status ≠ 200 := by omega
    split
    · exact ⟨rfl, Or.inl rfl⟩
    · exact ⟨(hretry _).1, (hretry _).2.imp_right fun h => ⟨hne, h⟩⟩

/-- So does every response. -/
theorem ChannelTracker.Valid.onResponse {calls : List ChannelDrawParams} {t : ChannelTracker}
    (h : t.Valid calls) {a : ActiveDraw} (ha : t.active = some a) (maxRetries : ℚ)
    (cumulative : ℕ) (resp : DrawResponse) :
    (t.onResponse maxRetries a cumulative resp).Valid calls := by
  obtain ⟨hqueue, hactive⟩ := ChannelTracker.onResponse_effect maxRetries a cumulative resp t
  constructor
  · rw [hqueue]
    exact h.queued
  · intro b hb
    rcases hactive with hnone | ⟨-, hsome⟩
    · rw [hnone] at hb
      exact absurd hb (by simp)
    · rw [hsome] at hb
      obtain rfl := Option.mem_some_iff.1 hb
      exact h.active a ha

/-- The loop holds on to its call at most, and lets go of it with a 2xx. -/
theorem ChannelTracker.ids_onResponse {t : ChannelTracker} {a : ActiveDraw}
    (ha : t.active = some a) (maxRetries : ℚ) (cumulative : ℕ) (resp : DrawResponse) :
    (t.onResponse maxRetries a cumulative resp).ids ≤ t.ids ∧
      (resp.status = 200 →
        (t.onResponse maxRetries a cumulative resp).ids + {a.id} = t.ids) := by
  obtain ⟨hqueue, hactive⟩ := ChannelTracker.onResponse_effect maxRetries a cumulative resp t
  have hfinish := ChannelTracker.ids_finish ha
  rcases hactive with hnone | ⟨hne, hsome⟩
  · have hids : (t.onResponse maxRetries a cumulative resp).ids = t.finish.ids := by
      rw [ids, ids, hnone, hqueue]
      rfl
    rw [hids]
    refine ⟨?_, fun _ => hfinish⟩
    rw [← hfinish]
    exact Multiset.le_add_right _ _
  · refine ⟨?_, fun h => absurd h hne⟩
    rw [ids, ids, hsome, hqueue, ha]
    exact le_rfl

/-! ## Requests at the endpoint -/

/-- The channel's cumulative does not go down from `l` to `l'`. -/
def Grows (id : ChannelId) (l l' : Ledger) : Prop :=
  ∀ n, lastOf l id = some n → ∃ n', lastOf l' id = some n' ∧ n ≤ n'

/-- Nothing happens. -/
theorem Grows.refl (id : ChannelId) (l : Ledger) : Grows id l l :=
  fun n hn => ⟨n, hn, le_rfl⟩

/-- A persisted voucher raises the mark of its channel. -/
theorem Grows.persisted {v : VoucherRecord} {r : Channel} {l l' : Ledger}
    (hspec : Persisted v r l l') (id : ChannelId) : Grows id l l' := by
  intro n hn
  rw [lastOf_of_persisted hspec]
  by_cases hid : id = v.channelId
  · rw [if_pos hid]
    rw [hid, lastOf, hspec.found, Option.map_some] at hn
    refine ⟨_, rfl, ?_⟩
    rw [← Option.some.inj hn]
    exact hspec.increases.le
  · rw [if_neg hid]
    exact ⟨n, hn, le_rfl⟩

/-- What is known of a request at the endpoint: it carries the quote of its call, the gateway bills
that quote, and once it is verified its voucher passed against its snapshot, which the channel has
not fallen behind. -/
structure Service.Sound (verifySignature : Pubkey → List UInt8 → Vector UInt8 64 → Bool)
    (id : ChannelId) (calls : List ChannelDrawParams) (l : Ledger) (svc : Service) : Prop where
  signed : svc.req.Signed calls
  amount : svc.req.acceptedAmount = toString svc.billedAtomic
  verified : ∀ d, svc.progress.drawable = some d →
    verifyVoucher verifySignature d.state svc.req.voucher svc.billedAtomic svc.currentSlot = .ok ()
  behind : ∀ d, svc.progress.drawable = some d →
    ∃ n, lastOf l id = some n ∧ (d.state.lastCumulativeAtomic : ℤ) ≤ n

section Sound
variable {verifySignature : Pubkey → List UInt8 → Vector UInt8 64 → Bool} {id : ChannelId}
  {calls : List ChannelDrawParams} {l : Ledger} {svc : Service}

/-- The gateway bills what was signed for. -/
theorem Service.Sound.quote (h : svc.Sound verifySignature id calls l) :
    svc.billedAtomic = svc.req.quote := by
  have hamount := h.signed.amount
  rw [h.amount] at hamount
  exact (parseAtomicAmount_eq hamount).symm

/-- A verified voucher is its quote above its snapshot. -/
theorem Service.Sound.cumulative (h : svc.Sound verifySignature id calls l)
    {d : DrawableChannel} (hd : svc.progress.drawable = some d) :
    svc.req.voucher.cumulativeAtomic = d.state.lastCumulativeAtomic + svc.req.quote := by
  rw [← h.quote]
  exact (verifyVoucher_ok (h.verified d hd)).2.1

/-- A service is sound whatever is called besides. -/
theorem Service.Sound.append (h : svc.Sound verifySignature id calls l) (p : ChannelDrawParams) :
    svc.Sound verifySignature id (calls ++ [p]) l :=
  { h with signed := ⟨quoteOf_append h.signed.call p, h.signed.amount⟩ }

/-- It stays sound while the ledger grows. -/
theorem Service.Sound.grows (h : svc.Sound verifySignature id calls l) {l' : Ledger}
    (hgrows : Grows id l l') : svc.Sound verifySignature id calls l' := by
  refine { h with behind := ?_ }
  intro d hd
  obtain ⟨n, hn, hle⟩ := h.behind d hd
  obtain ⟨n', hn', hle'⟩ := hgrows n hn
  exact ⟨n', hn', hle.trans hle'⟩

/-- A request that just took the lock has no snapshot yet. -/
theorem Service.Sound.entered {s : System} {req : DrawHttpRequest} (h : Entered s req svc)
    (hsigned : req.Signed calls) : svc.Sound verifySignature id calls l := by
  refine ⟨h.sent ▸ hsigned, h.sent ▸ h.amount, ?_, ?_⟩
  · intro d hd
    rw [h.progress] at hd
    exact absurd hd (by simp [Progress.drawable])
  · intro d hd
    rw [h.progress] at hd
    exact absurd hd (by simp [Progress.drawable])

/-- A stage that keeps the snapshot keeps what is known. -/
theorem Service.Sound.goesOn (h : svc.Sound verifySignature id calls l) {progress : Progress}
    (hsame : progress.drawable = svc.progress.drawable) :
    Service.Sound verifySignature id calls l { svc with progress := progress } :=
  ⟨h.signed, h.amount, fun d hd => h.verified d (hsame ▸ hd), fun d hd => h.behind d (hsame ▸ hd)⟩

/-- The load takes the snapshot on. -/
theorem Service.Sound.loaded (h : svc.Sound verifySignature id calls l) {e : Loading}
    {progress : Progress} (hgo : loadStage verifySignature id l svc e = .goesOn progress) :
    Service.Sound verifySignature id calls l { svc with progress := progress } := by
  obtain ⟨drawable, rfl, hload, hverify⟩ := loadStage_goesOn hgo
  refine ⟨h.signed, h.amount, ?_, ?_⟩
  · rintro d ⟨⟩
    exact hverify
  · rintro d ⟨⟩
    obtain ⟨r, hr, -, -, hlast⟩ := loadOpenChannelState_ok hload
    refine ⟨r.1.lastVoucherCumulativeAtomic, ?_, hlast.ge⟩
    rw [lastOf, hr, Option.map_some]

end Sound

/-! ## The books -/

/-- A debit is of a call of the run, and is the call's quote less what was drawn between the load
and the persist of its request. -/
structure Debit.Right (calls : List ChannelDrawParams) (d : Debit) : Prop where
  quoted : ∃ quote, quoteOf calls d.id = some quote ∧ d.amount = d.loaded + quote - d.found
  behind : (d.loaded : ℤ) ≤ d.found
  positive : 0 < d.amount

/-- A debit is right whatever is called besides. -/
theorem Debit.Right.append {calls : List ChannelDrawParams} {d : Debit} (h : d.Right calls)
    (p : ChannelDrawParams) : d.Right (calls ++ [p]) := by
  obtain ⟨quote, hquote, hamount⟩ := h.quoted
  exact { h with quoted := ⟨quote, quoteOf_append hquote p, hamount⟩ }

/-- What holds of the calls, the requests, the vouchers and the ledger in every run. `start` is
the channel's cumulative before the run. -/
structure Books (verifySignature : Pubkey → List UInt8 → Vector UInt8 64 → Bool) (id : ChannelId)
    (start : ℤ) (s : System) : Prop where
  valid : s.tracker.Valid s.calls
  signed : ∀ req ∈ s.inFlight, req.Signed s.calls
  sound : ∀ svc ∈ s.services, svc.Sound verifySignature id s.calls s.ledger
  waits : ∀ svc, s.awaited = some svc → ∃ a, s.tracker.active = some a ∧ svc.req.id = a.id
  accepted : ∀ a ∈ s.accepted, quoteOf s.calls a.id = some a.quote ∧ a.delta = a.quote
  debits : ∀ d ∈ s.debits, d.Right s.calls
  ledger : LedgerInv s.ledger
  balance : (lastOf s.ledger id).getD 0 = start + (s.debits.map (·.amount)).sum

/-- A place holds one of the services. -/
theorem System.mem_services {s : System} {p : Place} {svc : Service} (h : s.at p = some svc) :
    svc ∈ s.services := by
  cases p with
  | awaited =>
    apply List.mem_append_left
    rw [show s.awaited = some svc from h]
    exact List.mem_singleton_self svc
  | orphan k => exact List.mem_append_right _ (List.mem_of_getElem? h)

/-- A place depends on the services only. -/
theorem System.at_congr {s s' : System} (hawaited : s'.awaited = s.awaited)
    (horphans : s'.orphans = s.orphans) (p : Place) : s'.at p = s.at p := by
  cases p with
  | awaited => exact hawaited
  | orphan k => exact congrArg (·[k]?) horphans

theorem System.accept_at (s : System) (svc : Service) (result : StageResult) (p : Place) :
    (s.accept svc result).at p = s.at p := System.at_congr rfl rfl p

theorem System.write_at (o : TrackerOptions) (s : System) (svc : Service) (d : DrawableChannel)
    (l : Ledger) (p : Place) : (s.write o svc d l).at p = s.at p := System.at_congr rfl rfl p

/-- A service that is put back replaces one. -/
theorem System.mem_services_put {s : System} {p : Place} {svc svc' : Service}
    (h : svc' ∈ (s.put p svc).services) : svc' = svc ∨ svc' ∈ s.services := by
  cases p with
  | awaited =>
    rcases List.mem_append.1 h with hnew | hold
    · exact Or.inl (List.mem_singleton.1 hnew)
    · exact Or.inr (List.mem_append_right _ hold)
  | orphan k =>
    rcases List.mem_append.1 h with hold | hset
    · exact Or.inr (List.mem_append_left _ hold)
    · rcases List.mem_or_eq_of_mem_set hset with hold | hnew
      · exact Or.inr (List.mem_append_right _ hold)
      · exact Or.inl hnew

section Run
variable {verifySignature : Pubkey → List UInt8 → Vector UInt8 64 → Bool}
  {signVoucher : List UInt8 → List UInt8 → Option (Vector UInt8 64)} {feePercent : ℕ}
  {o : TrackerOptions} {id : ChannelId} {start : ℤ} {s : System}

/-- What the tracker sends is signed for its active call. -/
theorem request_signed {s : System} {a : ActiveDraw} {req : DrawHttpRequest}
    (hvalid : s.tracker.Valid s.calls) (ha : s.tracker.active = some a)
    (hreq : s.tracker.request signVoucher o a = some req) :
    req.id = a.id ∧ req.Signed s.calls := by
  have hcall := hvalid.active a ha
  unfold ChannelTracker.request at hreq
  split_ifs at hreq
  obtain ⟨signature, -, rfl⟩ := Option.map_eq_some_iff.1 hreq
  refine ⟨rfl, ?_, hcall.2⟩
  show quoteOf s.calls a.id = some a.quote
  rw [quoteOf, hcall.1]
  exact hcall.2

/-- An awaited answer goes to the active call. -/
theorem System.answer_of_active {a : ActiveDraw} (ha : s.tracker.active = some a) (svc : Service)
    (resp : DrawResponse) :
    s.answer o .awaited svc resp =
      { s with
        awaited := none
        tracker := s.tracker.onResponse o.maxRetries a svc.req.voucher.cumulativeAtomic resp } := by
  simp only [System.answer, ha]

/-- The answer to a call that has failed is dropped. -/
theorem System.answer_orphan (k : ℕ) (svc : Service) (resp : DrawResponse) :
    s.answer o (.orphan k) svc resp = { s with orphans := s.orphans.eraseIdx k } := by
  simp only [System.answer]

/-- A step of the request at a place, when every such step has the property. -/
theorem System.onService_cases {P : System → Prop} {p : Place} {f : Service → System}
    (hnone : P s) (hsome : ∀ svc, s.at p = some svc → P (f svc)) : P (s.onService p f) := by
  unfold System.onService
  cases h : s.at p with
  | none => exact hnone
  | some svc => exact hsome svc h

/-- The request at a place, replaced by one that is as sound and belongs to the same call. -/
theorem Books.put (hs : Books verifySignature id start s) {p : Place} {svc svc' : Service}
    (hat : s.at p = some svc) (hreq : svc'.req = svc.req)
    (hsound : svc'.Sound verifySignature id s.calls s.ledger) :
    Books verifySignature id start (s.put p svc') := by
  have hall : ∀ t ∈ (s.put p svc').services, t.Sound verifySignature id s.calls s.ledger := by
    intro t ht
    rcases System.mem_services_put ht with rfl | hold
    · exact hsound
    · exact hs.sound t hold
  cases p with
  | awaited =>
    refine ⟨hs.valid, hs.signed, hall, ?_, hs.accepted, hs.debits, hs.ledger, hs.balance⟩
    rintro t ⟨⟩
    rw [hreq]
    exact hs.waits svc hat
  | orphan k => exact ⟨hs.valid, hs.signed, hall, hs.waits, hs.accepted, hs.debits, hs.ledger,
      hs.balance⟩

/-- A request that is gone leaves the books as they are, and the tracker a valid one. -/
theorem Books.gone (hs : Books verifySignature id start s) (k : ℕ) :
    Books verifySignature id start { s with orphans := s.orphans.eraseIdx k } := by
  refine { hs with sound := ?_ }
  intro t ht
  apply hs.sound t
  rcases List.mem_append.1 ht with hawaited | horphan
  · exact List.mem_append_left _ hawaited
  · exact List.mem_append_right _ (List.mem_of_mem_eraseIdx horphan)

/-- Nothing awaited is nothing to check. -/
theorem Books.unawaited (hs : Books verifySignature id start s) {t : ChannelTracker}
    (ht : t.Valid s.calls) :
    Books verifySignature id start { s with awaited := none, tracker := t } := by
  refine { hs with valid := ht, sound := ?_, waits := ?_ }
  · intro svc hsvc
    exact hs.sound svc (List.mem_append_right _ hsvc)
  · intro svc hsvc
    exact absurd hsvc (by simp)

/-- An answer ends its service. -/
theorem Books.answer (hs : Books verifySignature id start s) {p : Place} {svc : Service}
    (hat : s.at p = some svc) (resp : DrawResponse) :
    Books verifySignature id start (s.answer o p svc resp) := by
  cases p with
  | awaited =>
    obtain ⟨a, ha, -⟩ := hs.waits svc hat
    rw [System.answer_of_active ha]
    exact hs.unawaited (hs.valid.onResponse ha ..)
  | orphan k =>
    rw [System.answer_orphan]
    exact hs.gone k

/-- So does an error. -/
theorem Books.abandon (hs : Books verifySignature id start s) (p : Place) :
    Books verifySignature id start (s.abandon p) := by
  cases p with
  | awaited => exact hs.unawaited hs.valid.finish
  | orphan k => exact hs.gone k

/-- A stage keeps the books when what goes on is sound. -/
theorem Books.stage (hs : Books verifySignature id start s) {p : Place} {svc : Service}
    (hat : s.at p = some svc) {result : StageResult}
    (hsound : ∀ progress, result = .goesOn progress →
      Service.Sound verifySignature id s.calls s.ledger { svc with progress := progress }) :
    Books verifySignature id start (s.stage o p svc result) := by
  cases result with
  | stays => exact hs
  | goesOn progress => exact hs.put hat rfl (hsound progress rfl)
  | replies resp => exact hs.answer hat resp

/-- A voucher that passes the verification is its quote above the snapshot. -/
theorem acceptance_right {calls : List ChannelDrawParams} {l : Ledger} {svc : Service}
    (hsound : svc.Sound verifySignature id calls l) (h : Loading) :
    ∀ a ∈ acceptance svc (loadStage verifySignature id l svc h),
      quoteOf calls a.id = some a.quote ∧ a.delta = a.quote := by
  intro a ha
  unfold acceptance at ha
  split at ha
  · rename_i drawable hgo
    obtain rfl := List.mem_singleton.1 ha
    have hcum := (hsound.loaded hgo).cumulative rfl
    refine ⟨hsound.signed.call, ?_⟩
    show (svc.req.voucher.cumulativeAtomic : ℤ) - drawable.state.lastCumulativeAtomic =
      svc.req.quote
    have hcum' : svc.req.voucher.cumulativeAtomic =
        drawable.state.lastCumulativeAtomic + svc.req.quote := hcum
    omega
  · exact absurd ha List.not_mem_nil

/-- A service that has loaded its channel. -/
theorem Books.accept (hs : Books verifySignature o.channelText start s) {p : Place}
    {svc : Service} (hat : s.at p = some svc) (h : Loading) :
    Books verifySignature o.channelText start
      (s.accept svc (loadStage verifySignature o.channelText s.ledger svc h)) := by
  refine { hs with accepted := ?_ }
  intro a ha
  rcases List.mem_append.1 ha with hold | hnew
  · exact hs.accepted a hold
  · exact acceptance_right (hs.sound svc (System.mem_services hat)) h a hnew

/-- A service that goes on to serve, or ends. -/
theorem Books.load (hs : Books verifySignature o.channelText start s) {p : Place}
    {svc : Service} (hat : s.at p = some svc) (h : Loading) :
    Books verifySignature o.channelText start
      ((s.accept svc (loadStage verifySignature o.channelText s.ledger svc h)).stage o p svc
        (loadStage verifySignature o.channelText s.ledger svc h)) :=
  (hs.accept hat h).stage ((s.accept_at _ _ p).trans hat) fun _ hgo =>
    (hs.sound svc (System.mem_services hat)).loaded hgo

/-- Writing the ledger back as it was changes nothing. -/
theorem write_self (svc : Service) (d : DrawableChannel) : s.write o svc d s.ledger = s := by
  rw [System.write, debit, if_pos rfl, List.append_nil]

/-- A persist that applies moves the channel to the voucher's cumulative, for one debit. -/
theorem write_debits (svc : Service) {d : DrawableChannel} {v : VoucherRecord} {r : Channel}
    {l' : Ledger} (hvid : v.channelId = o.channelText)
    (hcum : v.cumulativeAtomic = svc.req.voucher.cumulativeAtomic)
    (hspec : Persisted v r s.ledger l') :
    lastOf s.ledger o.channelText = some r.1.lastVoucherCumulativeAtomic ∧
    lastOf l' o.channelText = some (svc.req.voucher.cumulativeAtomic : ℤ) ∧
    (s.write o svc d l').debits = s.debits ++
      [⟨svc.req.id, d.state.lastCumulativeAtomic, r.1.lastVoucherCumulativeAtomic,
        svc.req.voucher.cumulativeAtomic - r.1.lastVoucherCumulativeAtomic⟩] := by
  have hbefore : lastOf s.ledger o.channelText = some r.1.lastVoucherCumulativeAtomic := by
    rw [lastOf, ← hvid, hspec.found, Option.map_some]
  have hafter : lastOf l' o.channelText = some (svc.req.voucher.cumulativeAtomic : ℤ) := by
    rw [lastOf_of_persisted hspec, if_pos hvid.symm, hcum]
  have hlt := hspec.increases
  rw [hcum] at hlt
  refine ⟨hbefore, hafter, ?_⟩
  rw [System.write, debit, hbefore, hafter, if_neg (fun heq => hlt.ne' (Option.some.inj heq))]
  rfl

/-- A debit of a sound service is right. -/
theorem Books.write (hs : Books verifySignature o.channelText start s) {svc : Service}
    {d : DrawableChannel} (hsvc : svc ∈ s.services) (hd : svc.progress.drawable = some d)
    {v : VoucherRecord} {r : Channel} {l' : Ledger} (hvid : v.channelId = o.channelText)
    (hcum : v.cumulativeAtomic = svc.req.voucher.cumulativeAtomic)
    (hspec : Persisted v r s.ledger l') :
    Books verifySignature o.channelText start (s.write o svc d l') := by
  have hsound := hs.sound svc hsvc
  obtain ⟨hbefore, hafter, hdebits⟩ := write_debits (d := d) svc hvid hcum hspec
  have hlt := hspec.increases
  rw [hcum] at hlt
  refine { hs with sound := ?_, debits := ?_, ledger := hs.ledger.persisted hspec, balance := ?_ }
  · intro t ht
    exact (hs.sound t ht).grows (Grows.persisted hspec _)
  · rw [hdebits]
    intro e he
    rcases List.mem_append.1 he with hold | hnew
    · exact hs.debits e hold
    · obtain rfl := List.mem_singleton.1 hnew
      -- the figure that was loaded is not above the one that was written over
      obtain ⟨n, hn, hle⟩ := hsound.behind d hd
      rw [hbefore] at hn
      refine ⟨⟨svc.req.quote, hsound.signed.call, ?_⟩, ?_, sub_pos.2 hlt⟩
      · show (svc.req.voucher.cumulativeAtomic : ℤ) - _ = _
        rw [hsound.cumulative hd, Nat.cast_add]
      · rw [← Option.some.inj hn] at hle
        exact hle
  · have hbalance := hs.balance
    rw [hbefore, Option.getD_some] at hbalance
    rw [hdebits, List.map_append, List.sum_append, List.map_singleton, List.sum_singleton]
    show (lastOf l' o.channelText).getD 0 = start + ((s.debits.map (·.amount)).sum +
      (svc.req.voucher.cumulativeAtomic - r.1.lastVoucherCumulativeAtomic))
    rw [hafter, Option.getD_some]
    omega

/-- A persist, whatever becomes of its statements. -/
theorem Books.persist (hs : Books verifySignature o.channelText start s) {p : Place}
    {svc : Service} (hat : s.at p = some svc) (fault : Fault) :
    Books verifySignature o.channelText start (s.persist o p fault svc) := by
  unfold System.persist
  split
  · rename_i drawable advance hprogress
    refine Books.answer ?_ ((s.write_at o _ _ _ p).trans hat) okResponse
    rcases persist_effect o.channelText s.ledger fault svc.req.voucher svc.billedAtomic advance with
      hkept | ⟨v, r, hvid, hcum, hspec⟩
    · rw [hkept, write_self]
      exact hs
    · have hd : svc.progress.drawable = some drawable := by
        rw [hprogress]
        rfl
      exact hs.write (System.mem_services hat) hd hvid hcum hspec
  · exact hs

/-- A tracker that sends. -/
theorem Books.sent (hs : Books verifySignature id start s) {a : ActiveDraw}
    (ha : s.tracker.active = some a) (hidle : s.awaited = none) {req : DrawHttpRequest}
    (hreq : s.tracker.request signVoucher o a = some req) (fate : Fate) :
    Books verifySignature id start (s.sent o a req fate) := by
  obtain ⟨hid, hsigned⟩ := request_signed hs.valid ha hreq
  have hidleWaits : ∀ t : ChannelTracker, ∀ svc, s.awaited = some svc →
      ∃ b, t.active = some b ∧ svc.req.id = b.id := by
    intro t svc hsvc
    rw [hidle] at hsvc
    exact absurd hsvc (by simp)
  cases fate with
  -- the request is refused at once, or becomes a service
  | handled h =>
    simp only [System.sent]
    split
    · exact { hs with valid := hs.valid.onResponse ha .., waits := hidleWaits _ }
    · rename_i svc hadmitted
      have hentered := System.admitted_ok hadmitted
      refine { hs with sound := ?_, waits := ?_ }
      · intro t ht
        rcases List.mem_append.1 ht with hnew | hold
        · rw [List.mem_singleton.1 hnew]
          exact .entered hentered hsigned
        · exact hs.sound t (List.mem_append_right _ hold)
      · rintro t ⟨⟩
        rw [hentered.sent]
        exact ⟨a, ha, hid⟩
  -- somebody else answers
  | answered resp => exact { hs with valid := hs.valid.onResponse ha .., waits := hidleWaits _ }
  -- the request stays on its way while the call fails
  | lost =>
    refine { hs with valid := hs.valid.finish, signed := ?_, waits := hidleWaits _ }
    intro r hr
    rcases List.mem_append.1 hr with hold | hnew
    · exact hs.signed r hold
    · rw [List.mem_singleton.1 hnew]
      exact hsigned

/-- A call that fails. -/
theorem Books.throws (hs : Books verifySignature id start s) :
    Books verifySignature id start s.throws := by
  unfold System.throws
  split
  · exact hs
  · rename_i svc hsvc
    refine { hs with valid := hs.valid.finish, sound := ?_, waits := ?_ }
    · intro t ht
      apply hs.sound t
      rcases List.mem_append.1 (List.mem_append.1 ht |>.resolve_left List.not_mem_nil) with
        hold | hnew
      · exact List.mem_append_right _ hold
      · rw [List.mem_singleton.1 hnew]
        exact System.mem_services (p := .awaited) hsvc
    · intro t ht
      exact absurd ht (by simp)

/-- A request that arrives. -/
theorem Books.arrive (hs : Books verifySignature id start s) (k : ℕ) (h : Admission) :
    Books verifySignature id start (s.arrive k h) := by
  unfold System.arrive
  split
  · exact hs
  · rename_i req hreq
    have hsigned : req.Signed s.calls := hs.signed req (List.mem_of_getElem? hreq)
    have hrest : ∀ r ∈ s.inFlight.eraseIdx k, r.Signed s.calls :=
      fun r hr => hs.signed r (List.mem_of_mem_eraseIdx hr)
    split
    · exact { hs with signed := hrest }
    · rename_i svc hadmitted
      refine { hs with signed := hrest, sound := ?_ }
      intro t ht
      rcases List.mem_append.1 ht with hawaited | horphan
      · exact hs.sound t (List.mem_append_left _ hawaited)
      · rcases List.mem_append.1 horphan with hold | hnew
        · exact hs.sound t (List.mem_append_right _ hold)
        · rw [List.mem_singleton.1 hnew]
          exact .entered (System.admitted_ok hadmitted) hsigned

end Run

/-! ## Who holds a call -/

/-- The calls somebody still holds: those debited, those with a request under way or at the
endpoint that nobody waits for, and those the tracker works on. -/
def System.held (s : System) : Multiset ℕ :=
  (s.debits.map (·.id) : List ℕ) + (s.inFlight.map (·.id) : List ℕ) +
    (s.orphans.map (·.req.id) : List ℕ) + s.tracker.ids

/-- No call is held twice, and only calls that were made are held. -/
structure HeldOnce (s : System) : Prop where
  nodup : s.held.Nodup
  made : ∀ i ∈ s.held, i < s.calls.length

/-- Fewer holders keep the property. -/
theorem HeldOnce.of_le {s s' : System} (hs : HeldOnce s) (hheld : s'.held ≤ s.held)
    (hcalls : s'.calls = s.calls) : HeldOnce s' := by
  refine ⟨Multiset.nodup_of_le hheld hs.nodup, ?_⟩
  intro i hi
  rw [hcalls]
  exact hs.made i (Multiset.mem_of_le hheld hi)

/-- A call is new. -/
theorem HeldOnce.draw {s s' : System} (hs : HeldOnce s) {p : ChannelDrawParams}
    (hheld : s'.held = s.held + {s.calls.length}) (hcalls : s'.calls = s.calls ++ [p]) :
    HeldOnce s' := by
  have hlength : s'.calls.length = s.calls.length + 1 := by
    rw [hcalls, List.length_append]
    rfl
  constructor
  · rw [hheld, Multiset.nodup_add]
    refine ⟨hs.nodup, Multiset.nodup_singleton _, ?_⟩
    rw [Multiset.disjoint_singleton]
    intro hmem
    have := hs.made _ hmem
    omega
  · intro i hi
    rw [hheld, Multiset.mem_add] at hi
    rw [hlength]
    rcases hi with hold | hnew
    · have := hs.made i hold
      omega
    · have := Multiset.mem_singleton.1 hnew
      omega

/-- The ids without the one at `k`. -/
theorem ids_eraseIdx {α : Type} {xs : List α} {k : ℕ} {x : α} (f : α → ℕ) (h : xs[k]? = some x) :
    (((xs.eraseIdx k).map f : List ℕ) : Multiset ℕ) + {f x} = ((xs.map f : List ℕ) : Multiset ℕ) := by
  obtain ⟨hk, hget⟩ := List.getElem?_eq_some_iff.1 h
  have hperm := (List.getElem_cons_eraseIdx_perm hk).map f
  rw [hget, List.map_cons] at hperm
  rw [← Multiset.coe_eq_coe.2 hperm, add_comm]
  rfl

/-- The ids with the one at `k` replaced by itself. -/
theorem ids_set {α : Type} {xs : List α} {k : ℕ} {x x' : α} (f : α → ℕ) (h : xs[k]? = some x)
    (hf : f x' = f x) : (xs.set k x').map f = xs.map f := by
  obtain ⟨hk, rfl⟩ := List.getElem?_eq_some_iff.1 h
  rw [List.map_set, hf, ← List.getElem_map f (h := by simpa using hk), List.set_getElem_self]

section
variable {verifySignature : Pubkey → List UInt8 → Vector UInt8 64 → Bool}
  {signVoucher : List UInt8 → List UInt8 → Option (Vector UInt8 64)} {feePercent : ℕ}
  {o : TrackerOptions} {id : ChannelId} {start : ℤ} {s : System} {p : Place} {svc : Service}

/-- A service that is put back holds what it held. -/
theorem held_put (hat : s.at p = some svc) {svc' : Service} (hreq : svc'.req = svc.req) :
    (s.put p svc').held = s.held := by
  cases p with
  | awaited => rfl
  | orphan k =>
    show _ + ((((s.orphans.set k svc').map (·.req.id) : List ℕ)) : Multiset ℕ) + _ = _
    rw [ids_set (·.req.id) hat (congrArg DrawHttpRequest.id hreq)]
    rfl

/-- A service that is gone holds nothing. -/
theorem held_gone {k : ℕ} (hat : s.orphans[k]? = some svc) :
    ({ s with orphans := s.orphans.eraseIdx k } : System).held + {svc.req.id} = s.held := by
  rw [System.held, System.held, ← ids_eraseIdx (·.req.id) hat]
  abel

/-- An answer holds on to the call at most, and lets go of it with a 2xx. -/
theorem held_answer (hs : Books verifySignature id start s) (hat : s.at p = some svc)
    (resp : DrawResponse) :
    (s.answer o p svc resp).held ≤ s.held ∧
      (resp.status = 200 → (s.answer o p svc resp).held + {svc.req.id} = s.held) := by
  cases p with
  | awaited =>
    obtain ⟨a, ha, hid⟩ := hs.waits svc hat
    obtain ⟨hle, heq⟩ := ChannelTracker.ids_onResponse ha o.maxRetries
      svc.req.voucher.cumulativeAtomic resp
    rw [System.answer_of_active ha, hid]
    refine ⟨add_le_add le_rfl hle, fun hok => ?_⟩
    rw [System.held, System.held, add_assoc, heq hok]
  | orphan k =>
    rw [System.answer_orphan]
    have hgone := held_gone hat
    refine ⟨?_, fun _ => hgone⟩
    rw [← hgone]
    exact Multiset.le_add_right _ _

/-- An answer calls nothing. -/
theorem answer_calls (p : Place) (svc : Service) (resp : DrawResponse) :
    (s.answer o p svc resp).calls = s.calls := by
  cases p with
  | awaited =>
    simp only [System.answer]
    cases s.tracker.active <;> rfl
  | orphan k => simp only [System.answer]

/-- A stage of a service. -/
theorem HeldOnce.stage (hs : Books verifySignature id start s) (ho : HeldOnce s)
    (hat : s.at p = some svc) (result : StageResult) : HeldOnce (s.stage o p svc result) := by
  cases result with
  | stays => exact ho
  | goesOn progress =>
    have hheld : (s.put p { svc with progress := progress }).held = s.held := held_put hat rfl
    refine ho.of_le hheld.le ?_
    cases p <;> rfl
  | replies resp => exact ho.of_le (held_answer hs hat resp).1 (answer_calls ..)

/-- A persist that applies holds the call of its request once more. -/
theorem held_write {d : DrawableChannel} {v : VoucherRecord} {r : Channel} {l' : Ledger}
    (hvid : v.channelId = o.channelText)
    (hcum : v.cumulativeAtomic = svc.req.voucher.cumulativeAtomic)
    (hspec : Persisted v r s.ledger l') :
    (s.write o svc d l').held = s.held + {svc.req.id} := by
  rw [System.held, (write_debits svc hvid hcum hspec).2.2, List.map_append, ← Multiset.coe_add,
    List.map_singleton, Multiset.coe_singleton, System.held]
  show _ + {svc.req.id} + ((s.inFlight.map (·.id) : List ℕ) : Multiset ℕ) +
    ((s.orphans.map (·.req.id) : List ℕ) : Multiset ℕ) + s.tracker.ids = _
  abel

/-- A debit takes the call over from the request. -/
theorem HeldOnce.persist (hs : Books verifySignature o.channelText start s) (ho : HeldOnce s)
    (hat : s.at p = some svc) (fault : Fault) : HeldOnce (s.persist o p fault svc) := by
  unfold System.persist
  split
  · rename_i drawable advance hprogress
    rcases persist_effect o.channelText s.ledger fault svc.req.voucher svc.billedAtomic advance with
      hkept | ⟨v, r, hvid, hcum, hspec⟩
    · rw [hkept, write_self]
      exact ho.of_le (held_answer hs hat _).1 (answer_calls ..)
    · have hd : svc.progress.drawable = some drawable := by
        rw [hprogress]
        rfl
      have hbooks := hs.write (System.mem_services hat) hd hvid hcum hspec
      have hanswer := (held_answer (o := o) hbooks ((s.write_at o _ _ _ p).trans hat) okResponse).2
        rfl
      rw [held_write hvid hcum hspec] at hanswer
      exact ho.of_le (add_right_cancel hanswer).le (answer_calls ..)
  · exact ho

/-- A service that ends. -/
theorem HeldOnce.abandon (hs : Books verifySignature id start s) (ho : HeldOnce s)
    (hat : s.at p = some svc) : HeldOnce (s.abandon p) := by
  cases p with
  | awaited =>
    obtain ⟨a, ha, -⟩ := hs.waits svc hat
    refine ho.of_le (add_le_add le_rfl ?_) rfl
    rw [← ChannelTracker.ids_finish ha]
    exact Multiset.le_add_right _ _
  | orphan k =>
    refine ho.of_le ?_ rfl
    rw [← held_gone hat]
    exact Multiset.le_add_right _ _

/-- A tracker that sends its call to one service. -/
theorem HeldOnce.sent (hs : Books verifySignature id start s) (ho : HeldOnce s) {a : ActiveDraw}
    (ha : s.tracker.active = some a) {req : DrawHttpRequest}
    (hreq : s.tracker.request signVoucher o a = some req) (fate : Fate) :
    HeldOnce (s.sent o a req fate) := by
  have hresponse : ∀ resp, HeldOnce { s with
      tracker := s.tracker.onResponse o.maxRetries a req.voucher.cumulativeAtomic resp } :=
    fun resp => ho.of_le (add_le_add le_rfl
      (ChannelTracker.ids_onResponse ha o.maxRetries req.voucher.cumulativeAtomic resp).1) rfl
  cases fate with
  | handled h =>
    simp only [System.sent]
    split
    · exact hresponse _
    · exact ho.of_le le_rfl rfl
  | answered resp => exact hresponse resp
  | lost =>
    refine ho.of_le (le_of_eq ?_) rfl
    rw [System.held, System.held, ← ChannelTracker.ids_finish ha,
      ← (request_signed hs.valid ha hreq).1]
    show ((s.debits.map (·.id) : List ℕ) : Multiset ℕ) +
      (((s.inFlight ++ [req]).map (·.id) : List ℕ) : Multiset ℕ) +
      ((s.orphans.map (·.req.id) : List ℕ) : Multiset ℕ) + s.tracker.finish.ids = _
    rw [List.map_append, ← Multiset.coe_add, List.map_singleton, Multiset.coe_singleton]
    abel

/-- A call that fails is held by its service only. -/
theorem HeldOnce.throws (hs : Books verifySignature id start s) (ho : HeldOnce s) :
    HeldOnce s.throws := by
  unfold System.throws
  split
  · exact ho
  · rename_i svc hsvc
    obtain ⟨a, ha, hid⟩ := hs.waits svc hsvc
    refine ho.of_le (le_of_eq ?_) rfl
    rw [System.held, System.held, ← ChannelTracker.ids_finish ha, ← hid]
    show ((s.debits.map (·.id) : List ℕ) : Multiset ℕ) +
      ((s.inFlight.map (·.id) : List ℕ) : Multiset ℕ) +
      (((s.orphans ++ [svc]).map (·.req.id) : List ℕ) : Multiset ℕ) + s.tracker.finish.ids = _
    rw [List.map_append, ← Multiset.coe_add, List.map_singleton, Multiset.coe_singleton]
    abel

/-- A request that arrives. -/
theorem HeldOnce.arrive (ho : HeldOnce s) (k : ℕ) (h : Admission) : HeldOnce (s.arrive k h) := by
  unfold System.arrive
  split
  · exact ho
  · rename_i req hreq
    have hids := ids_eraseIdx (·.id) hreq
    split
    · refine ho.of_le ?_ rfl
      rw [System.held, System.held, ← hids]
      exact add_le_add (add_le_add (add_le_add le_rfl (Multiset.le_add_right _ _)) le_rfl) le_rfl
    · rename_i svc hadmitted
      refine ho.of_le (le_of_eq ?_) rfl
      rw [System.held, System.held, ← hids]
      show ((s.debits.map (·.id) : List ℕ) : Multiset ℕ) +
        (((s.inFlight.eraseIdx k).map (·.id) : List ℕ) : Multiset ℕ) +
        (((s.orphans ++ [svc]).map (·.req.id) : List ℕ) : Multiset ℕ) + s.tracker.ids = _
      rw [List.map_append, ← Multiset.coe_add, List.map_singleton, Multiset.coe_singleton,
        (System.admitted_ok hadmitted).sent]
      abel

/-! ## The steps -/

/-- What every run keeps. -/
structure TrackerInv (verifySignature : Pubkey → List UInt8 → Vector UInt8 64 → Bool)
    (id : ChannelId) (start : ℤ) (s : System) : Prop where
  books : Books verifySignature id start s
  once : HeldOnce s

/-- A new call. -/
theorem trackerInv_draw (hs : TrackerInv verifySignature o.channelText start s)
    (p : ChannelDrawParams) :
    TrackerInv verifySignature o.channelText start
      (trackerStep verifySignature signVoucher feePercent o s (.draw p)) := by
  constructor
  · have hvalid := hs.books.valid.append p
    refine ⟨⟨?_, hvalid.active⟩, ?_, ?_, hs.books.waits, ?_, ?_, hs.books.ledger,
      hs.books.balance⟩
    · intro e he
      rcases List.mem_append.1 he with hold | hnew
      · exact hvalid.queued e hold
      · obtain rfl := List.mem_singleton.1 hnew
        exact List.getElem?_concat_length
    · intro r hr
      have hsigned := hs.books.signed r hr
      exact ⟨quoteOf_append hsigned.call p, hsigned.amount⟩
    · intro t ht
      exact (hs.books.sound t ht).append p
    · intro a ha
      have haccepted := hs.books.accepted a ha
      exact ⟨quoteOf_append haccepted.1 p, haccepted.2⟩
    · intro d hd
      exact (hs.books.debits d hd).append p
  -- the new call waits in the queue, under a number of its own
  · apply hs.once.draw (p := p)
    · show ((s.debits.map (·.id) : List ℕ) : Multiset ℕ) +
        ((s.inFlight.map (·.id) : List ℕ) : Multiset ℕ) +
          ((s.orphans.map (·.req.id) : List ℕ) : Multiset ℕ) +
          ((s.tracker.active.elim 0 fun a => {a.id}) +
            (((s.tracker.queue ++ [(s.calls.length, p)]).map (·.1) : List ℕ) : Multiset ℕ)) = _
      rw [List.map_append, ← Multiset.coe_add, System.held, ChannelTracker.ids,
        List.map_singleton, Multiset.coe_singleton]
      abel
    · rfl

/-- A send. -/
theorem trackerInv_attempt (hs : TrackerInv verifySignature o.channelText start s) (fate : Fate) :
    TrackerInv verifySignature o.channelText start (s.attempt signVoucher o fate) := by
  unfold System.attempt
  split
  · rename_i a hidle ha
    cases hreq : s.tracker.request signVoucher o a with
    | none =>
      refine ⟨{ hs.books with valid := hs.books.valid.finish, waits := ?_ }, hs.once.of_le ?_ rfl⟩
      · intro svc hsvc
        rw [hidle] at hsvc
        exact absurd hsvc (by simp)
      · apply add_le_add le_rfl
        rw [← ChannelTracker.ids_finish ha]
        exact Multiset.le_add_right _ _
    | some req => exact ⟨hs.books.sent ha hidle hreq fate, hs.once.sent hs.books ha hreq fate⟩
  · exact hs

/-- A tracker whose loop waits does not start another draw. -/
theorem trackerInv_begin (hs : TrackerInv verifySignature o.channelText start s) :
    TrackerInv verifySignature o.channelText start { s with tracker := s.tracker.begin } := by
  obtain ⟨hvalid, hids⟩ := hs.books.valid.begin
  refine ⟨{ hs.books with valid := hvalid, waits := ?_ },
    hs.once.of_le (add_le_add le_rfl hids) rfl⟩
  intro svc hsvc
  obtain ⟨a, ha, hid⟩ := hs.books.waits svc hsvc
  refine ⟨a, ?_, hid⟩
  show s.tracker.begin.active = some a
  rw [ChannelTracker.begin, ha]
  exact ha

/-- Operations beside the draws keep the channel's cumulative; a channel they create starts at
zero. -/
theorem lastOf_beside {id : ChannelId} (fault : Fault) {op : LedgerOp}
    (hop : drawsOn id op = false) (l : Ledger) :
    lastOf (ledgerStep l (fault, op)) id = lastOf l id ∨
      lastOf l id = none ∧ lastOf (ledgerStep l (fault, op)) id = some 0 := by
  unfold ledgerStep
  cases hres : op.program fault l with
  | error e l' =>
    obtain rfl := program_error hres
    exact Or.inl rfl
  | ok u l' =>
    rw [stateOf_ok]
    cases money_effect hres with
    | created id' row fresh zero written =>
      subst written
      rw [lastOf_insert_eq]
      by_cases hid : id = id'
      · right
        rw [if_pos hid, zero, hid, lastOf, fresh]
        exact ⟨rfl, rfl⟩
      · left
        rw [if_neg hid]
    | persisted v r isPersist spec =>
      left
      rw [lastOf_of_persisted spec, if_neg]
      rintro rfl
      rw [isPersist] at hop
      simp [drawsOn] at hop
    | kept vouchers last => exact Or.inl (last id)

/-- Operations beside the draws leave the mark. -/
theorem Grows.beside {id : ChannelId} (fault : Fault) {op : LedgerOp}
    (hop : drawsOn id op = false) (l : Ledger) : Grows id l (ledgerStep l (fault, op)) := by
  intro n hn
  rcases lastOf_beside fault hop l with hsame | ⟨hnone, -⟩
  · exact ⟨n, hsame.trans hn, le_rfl⟩
  · rw [hnone] at hn
    exact absurd hn (by simp)

/-- What one step preserves. -/
theorem trackerInv_step (s : System) (a : TrackerLabel)
    (hs : TrackerInv verifySignature o.channelText start s) :
    TrackerInv verifySignature o.channelText start
      (trackerStep verifySignature signVoucher feePercent o s a) := by
  cases a with
  | draw p => exact trackerInv_draw hs p
  | begin => exact trackerInv_begin hs
  | attempt fate => exact trackerInv_attempt hs fate
  | throws => exact ⟨hs.books.throws, hs.once.throws hs.books⟩
  | arrive k h => exact ⟨hs.books.arrive k h, hs.once.arrive k h⟩
  -- a service that has loaded its channel is accepted, and then goes on or ends
  | load p h =>
    refine System.onService_cases hs fun svc hat => ?_
    have haccept : HeldOnce (s.accept svc
        (loadStage verifySignature o.channelText s.ledger svc h)) := hs.once.of_le le_rfl rfl
    exact ⟨hs.books.load hat h, haccept.stage (hs.books.accept hat h)
      ((s.accept_at _ _ p).trans hat) _⟩
  -- what was sound when it was loaded stays sound through the stages
  | serve p outcome =>
    refine System.onService_cases hs fun svc hat => ?_
    have hsound := hs.books.sound svc (System.mem_services hat)
    exact ⟨hs.books.stage hat fun _ hgo => hsound.goesOn (serveStage_goesOn hgo),
      hs.once.stage hs.books hat _⟩
  | recheck p redisAnswers =>
    refine System.onService_cases hs fun svc hat => ?_
    have hsound := hs.books.sound svc (System.mem_services hat)
    exact ⟨hs.books.stage hat fun _ hgo => hsound.goesOn (recheckStage_goesOn hgo),
      hs.once.stage hs.books hat _⟩
  | persist p fault =>
    exact System.onService_cases hs fun svc hat =>
      ⟨hs.books.persist hat fault, hs.once.persist hs.books hat fault⟩
  | drop p =>
    exact System.onService_cases hs fun svc hat =>
      ⟨hs.books.abandon p, hs.once.abandon hs.books hat⟩
  | unlock => exact ⟨{ hs.books with }, hs.once.of_le le_rfl rfl⟩
  -- a resynchronisation moves the tracker only
  | resyncTo last =>
    simp only [trackerStep]
    split_ifs
    · exact ⟨{ hs.books with valid := ⟨hs.books.valid.queued, hs.books.valid.active⟩ },
        hs.once.of_le le_rfl rfl⟩
    · exact hs
  -- other operations leave the mark, or create the channel with none
  | beside fault op =>
    simp only [trackerStep]
    split_ifs with hop
    · exact hs
    · have hop' := Bool.eq_false_iff.2 hop
      have hbalance : (lastOf (ledgerStep s.ledger (fault, op)) o.channelText).getD 0 =
          (lastOf s.ledger o.channelText).getD 0 := by
        rcases lastOf_beside fault hop' s.ledger with hsame | ⟨hnone, hzero⟩
        · rw [hsame]
        · rw [hnone, hzero]
          rfl
      have hbooks : Books verifySignature o.channelText start
          { s with ledger := ledgerStep s.ledger (fault, op) } :=
        { hs.books with
          sound := fun t ht => (hs.books.sound t ht).grows (Grows.beside fault hop' s.ledger)
          ledger := ledgerInv_step _ _ hs.books.ledger
          balance := hbalance.trans hs.books.balance }
      exact ⟨hbooks, hs.once.of_le le_rfl rfl⟩

/-- Before the first call. -/
theorem trackerInv_init {l : Ledger} (hl : LedgerInv l) :
    TrackerInv verifySignature o.channelText ((lastOf l o.channelText).getD 0)
      (System.init o l) := by
  constructor
  · refine ⟨⟨?_, ?_⟩, ?_, ?_, ?_, ?_, ?_, hl, ?_⟩
    · intro e he
      exact absurd he List.not_mem_nil
    · intro a ha
      exact absurd ha (by simp [System.init])
    · intro r hr
      exact absurd hr List.not_mem_nil
    · intro t ht
      exact absurd ht List.not_mem_nil
    · intro t ht
      exact absurd ht (by simp [System.init])
    · intro a ha
      exact absurd ha List.not_mem_nil
    · intro d hd
      exact absurd hd List.not_mem_nil
    · show _ = _ + ([].sum : ℤ)
      rw [List.sum_nil, add_zero]
      rfl
  · constructor
    · exact Multiset.nodup_zero
    · intro i hi
      exact absurd hi (Multiset.notMem_zero i)

variable (verifySignature signVoucher feePercent o) in
/-- What a run preserves. -/
theorem trackerInv_run (ops : List (Fault × LedgerOp)) (as : List TrackerLabel) :
    TrackerInv verifySignature o.channelText
      ((lastOf (run ledgerStep Ledger.empty ops) o.channelText).getD 0)
      (trackerRun verifySignature signVoucher feePercent o ops as) :=
  run_invariant trackerInv_step (trackerInv_init (ledgerInv_run ops)) as

end

end Solvela.Tracker
