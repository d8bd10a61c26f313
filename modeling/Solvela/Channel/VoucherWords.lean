import Solvela.Channel.Billing

/-!
# Vouchers on machine words

`verify_voucher` as it runs: `u64` fields, one saturating and one checked subtraction. It accepts
exactly what its rules say of the exact integers, and it is the verification the draw system uses.
Over a run of that system the accepted vouchers of a channel are distinct. The deltas they were
accepted for stay within the deposit together where no draw commits over a cumulative that it was
not verified against; two draws that overlap accept more.
-/

namespace Solvela.Channel

open Solvela.Lib
open Solvela.ChannelLedger

namespace Words

/-- `ChannelState`. -/
structure ChannelState where
  channelId : Pubkey
  depositedAtomic : UInt64
  settledAtomic : UInt64
  lastCumulativeAtomic : UInt64
  sessionKey : Pubkey
  expectedRequestDigest : Vector UInt8 32

/-- `Voucher`. -/
structure Voucher where
  channelId : Pubkey
  cumulativeAtomic : UInt64
  expirySlot : UInt64
  nonce : UInt64
  requestDigest : Vector UInt8 32
  signature : Vector UInt8 64

/-- `u64::saturating_sub`. -/
def saturatingSub (a b : UInt64) : UInt64 := if b ≤ a then a - b else 0

/-- `u64::checked_sub`. -/
def checkedSub (a b : UInt64) : Option UInt64 := if b ≤ a then some (a - b) else none

/-- `build_voucher_message` of a voucher. -/
def Voucher.message (v : Voucher) : List UInt8 :=
  buildVoucherMessage v.channelId v.cumulativeAtomic.toNat v.expirySlot.toNat v.nonce.toNat
    v.requestDigest

section
variable (verifySignature : Pubkey → List UInt8 → Vector UInt8 64 → Bool)

/-- `verify_voucher`. -/
def verifyVoucher (state : ChannelState) (voucher : Voucher) (billedAtomic currentSlot : UInt64) :
    Except ChannelVoucherError Unit :=
  if voucher.channelId ≠ state.channelId then .error .channelMismatch
  else if verifySignature state.sessionKey voucher.message voucher.signature = false then
    .error .invalidSignature
  else if voucher.requestDigest ≠ state.expectedRequestDigest then
    .error .requestDigestMismatch
  else
    let buffer := saturatingSub voucher.expirySlot currentSlot
    if buffer < UInt64.ofNat minExpiryBufferSlots then
      .error (.expired voucher.expirySlot.toNat currentSlot.toNat buffer.toNat)
    else
      match checkedSub voucher.cumulativeAtomic state.lastCumulativeAtomic with
      | none =>
        .error (.nonMonotonicCumulative voucher.cumulativeAtomic.toNat
          state.lastCumulativeAtomic.toNat)
      | some delta =>
        if delta ≠ billedAtomic then .error (.deltaMismatch billedAtomic.toNat delta.toNat)
        else if voucher.cumulativeAtomic < state.settledAtomic then
          .error (.belowSettled voucher.cumulativeAtomic.toNat state.settledAtomic.toNat)
        else if state.depositedAtomic < voucher.cumulativeAtomic then
          .error (.overDraw voucher.cumulativeAtomic.toNat state.depositedAtomic.toNat)
        else .ok ()

/-- The rules of `verify_voucher` over the integers. -/
structure AcceptRules (state : ChannelState) (voucher : Voucher)
    (billedAtomic currentSlot : UInt64) : Prop where
  channelId : voucher.channelId = state.channelId
  signature : verifySignature state.sessionKey voucher.message voucher.signature = true
  requestDigest : voucher.requestDigest = state.expectedRequestDigest
  expiry : (minExpiryBufferSlots : ℤ) ≤ (voucher.expirySlot.toNat : ℤ) - currentSlot.toNat
  delta : (voucher.cumulativeAtomic.toNat : ℤ) - state.lastCumulativeAtomic.toNat =
    billedAtomic.toNat
  settled : (state.settledAtomic.toNat : ℤ) ≤ voucher.cumulativeAtomic.toNat
  deposited : (voucher.cumulativeAtomic.toNat : ℤ) ≤ state.depositedAtomic.toNat

end

/-! ## The exact verification -/

/-- The snapshot in exact numbers. -/
def ChannelState.exact (s : ChannelState) : ChannelLedger.ChannelState where
  channelId := s.channelId
  depositedAtomic := s.depositedAtomic.toNat
  settledAtomic := s.settledAtomic.toNat
  lastCumulativeAtomic := s.lastCumulativeAtomic.toNat
  sessionKey := s.sessionKey
  expectedRequestDigest := s.expectedRequestDigest

/-- The voucher in exact numbers. -/
def Voucher.exact (v : Voucher) : Channel.Voucher where
  channelId := v.channelId
  cumulativeAtomic := v.cumulativeAtomic.toNat
  expirySlot := v.expirySlot.toNat
  nonce := v.nonce.toNat
  requestDigest := v.requestDigest
  signature := v.signature

/-- A saturating subtraction is the one of numbers. -/
theorem toNat_saturatingSub (a b : UInt64) : (saturatingSub a b).toNat = a.toNat - b.toNat := by
  unfold saturatingSub
  by_cases h : b ≤ a
  · rw [if_pos h, UInt64.toNat_sub_of_le _ _ h]
  · have hlt : a.toNat < b.toNat := by
      rw [UInt64.le_iff_toNat_le] at h
      omega
    rw [if_neg h]
    show 0 = a.toNat - b.toNat
    omega

/-- A checked subtraction fails exactly below zero. -/
theorem checkedSub_none {a b : UInt64} : checkedSub a b = none ↔ a.toNat < b.toNat := by
  unfold checkedSub
  by_cases h : b ≤ a
  · have hle := UInt64.le_iff_toNat_le.mp h
    rw [if_pos h]
    constructor
    · intro hnone
      exact absurd hnone (by simp)
    · intro hlt
      omega
  · rw [if_neg h, ← not_le, ← UInt64.le_iff_toNat_le]
    constructor
    · intro _
      exact h
    · intro _
      rfl

/-- Otherwise it is the one of numbers. -/
theorem checkedSub_some {a b d : UInt64} (h : checkedSub a b = some d) :
    b.toNat ≤ a.toNat ∧ d.toNat = a.toNat - b.toNat := by
  unfold checkedSub at h
  split_ifs at h with hle
  have hd := Option.some.inj h
  rw [← hd, UInt64.toNat_sub_of_le _ _ hle]
  exact ⟨UInt64.le_iff_toNat_le.mp hle, rfl⟩

variable {verifySignature : Pubkey → List UInt8 → Vector UInt8 64 → Bool}

/-- No subtraction wraps: the words decide what the exact numbers decide, errors included. -/
theorem verifyVoucher_exact (state : ChannelState) (voucher : Voucher)
    (billedAtomic currentSlot : UInt64) :
    verifyVoucher verifySignature state voucher billedAtomic currentSlot =
      Channel.verifyVoucher verifySignature state.exact voucher.exact billedAtomic.toNat
        currentSlot.toNat := by
  have hbuffer : (UInt64.ofNat minExpiryBufferSlots).toNat = minExpiryBufferSlots := rfl
  unfold verifyVoucher Channel.verifyVoucher
  simp only [ChannelState.exact, Voucher.exact, Voucher.message, UInt64.lt_iff_toNat_lt,
    toNat_saturatingSub, hbuffer]
  cases hdelta : checkedSub voucher.cumulativeAtomic state.lastCumulativeAtomic with
  | none =>
    have hlt := checkedSub_none.mp hdelta
    simp only [hlt, if_true]
  | some delta =>
    have hsub := checkedSub_some hdelta
    have hne : delta ≠ billedAtomic ↔
        voucher.cumulativeAtomic.toNat - state.lastCumulativeAtomic.toNat ≠ billedAtomic.toNat := by
      rw [← hsub.2, ne_eq, ne_eq, UInt64.toNat_inj]
    simp only [not_lt.mpr hsub.1, if_false, hne, hsub.2]
    congr

/-- `verify_voucher` accepts exactly the vouchers that meet every rule. -/
theorem verifyVoucher_iff (state : ChannelState) (voucher : Voucher)
    (billedAtomic currentSlot : UInt64) :
    verifyVoucher verifySignature state voucher billedAtomic currentSlot = .ok () ↔
      AcceptRules verifySignature state voucher billedAtomic currentSlot := by
  rw [verifyVoucher_exact]
  constructor
  · intro h
    unfold Channel.verifyVoucher at h
    split_ifs at h with hid hsig hdigest hexpiry hmono hdelta hsettled hdeposited
    simp only [ChannelState.exact, Voucher.exact] at *
    have hbuffer : minExpiryBufferSlots = 50 := rfl
    refine ⟨not_not.mp hid, by simpa [Voucher.message] using hsig, not_not.mp hdigest, ?_, ?_, ?_,
      ?_⟩
    -- the two differences are differences of numbers, as the checks before them passed
    · omega
    · omega
    · omega
    · omega
  · intro h
    have hid : voucher.exact.channelId = state.exact.channelId := h.channelId
    have hsig : verifySignature state.exact.sessionKey
        (buildVoucherMessage voucher.exact.channelId voucher.exact.cumulativeAtomic
          voucher.exact.expirySlot voucher.exact.nonce voucher.exact.requestDigest)
        voucher.exact.signature = true := h.signature
    have hdigest : voucher.exact.requestDigest = state.exact.expectedRequestDigest :=
      h.requestDigest
    -- the saturating difference is below the buffer exactly when the slot is too late
    have hexpiry : ¬ voucher.exact.expirySlot - currentSlot.toNat < minExpiryBufferSlots := by
      have hrule := h.expiry
      show ¬ voucher.expirySlot.toNat - currentSlot.toNat < minExpiryBufferSlots
      omega
    have hdelta := h.delta
    have hmono : ¬ voucher.exact.cumulativeAtomic < state.exact.lastCumulativeAtomic := by
      show ¬ voucher.cumulativeAtomic.toNat < state.lastCumulativeAtomic.toNat
      omega
    have hbilled : voucher.exact.cumulativeAtomic - state.exact.lastCumulativeAtomic =
        billedAtomic.toNat := by
      show voucher.cumulativeAtomic.toNat - state.lastCumulativeAtomic.toNat = billedAtomic.toNat
      omega
    have hsettled : ¬ voucher.exact.cumulativeAtomic < state.exact.settledAtomic :=
      not_lt.mpr (Nat.cast_le.mp h.settled)
    have hdeposited : ¬ state.exact.depositedAtomic < voucher.exact.cumulativeAtomic :=
      not_lt.mpr (Nat.cast_le.mp h.deposited)
    rw [Channel.verifyVoucher, if_neg (not_not.mpr hid), hsig, if_neg (by simp),
      if_neg (not_not.mpr hdigest), if_neg hexpiry, if_neg hmono, if_neg (not_not.mpr hbilled),
      if_neg hsettled, if_neg hdeposited]

end Words

/-! ## Runs -/

/-- What the vouchers persisted on a channel were accepted for, together: the deltas that
`verify_voucher` compared with the billed costs. -/
def acceptedTotal (s : DrawSystem) (id : ChannelId) : ℤ :=
  ((s.commits.filter fun c => c.record.channelId = id).map fun c =>
    (c.record.callCostAtomic : ℤ)).sum

/-- The voucher of a commit was accepted by `verify_voucher`. -/
def Commit.Accepted (verifySignature : Pubkey → List UInt8 → Vector UInt8 64 → Bool)
    (c : Commit) : Prop :=
  ∃ (d : Draw) (state : ChannelState) (advance : ℕ), c = d.commit state advance c.ledgerLast ∧
    verifyVoucher verifySignature state d.voucher d.request.billedAtomic d.request.currentSlot =
      .ok ()

/-- What every run keeps: the vouchers of the ledger are the commits, and each was accepted. -/
structure AcceptInv (verifySignature : Pubkey → List UInt8 → Vector UInt8 64 → Bool)
    (s : DrawSystem) : Prop where
  verified : s.Verified verifySignature
  ledger : LedgerInv s.ledger
  accepted : ∀ c ∈ s.commits, c.Accepted verifySignature
  recorded : s.ledger.vouchers = s.commits.map (·.record.stored)

variable {verifySignature : Pubkey → List UInt8 → Vector UInt8 64 → Bool} {feePercent : ℕ}

/-- The accepted total is the one the ledger shows. -/
theorem AcceptInv.total {s : DrawSystem} (h : AcceptInv verifySignature s) (id : ChannelId) :
    acceptedTotal s id = callCostTotal s.ledger id := by
  rw [acceptedTotal, callCostTotal, h.recorded, List.filter_map, List.map_map]
  rfl

/-- Nothing has been accepted. -/
theorem acceptInv_init : AcceptInv verifySignature DrawSystem.init := by
  refine ⟨verified_init, ledgerInv_empty, ?_, rfl⟩
  intro c hc
  exact absurd hc (by simp [DrawSystem.init])

/-- What one step preserves. -/
theorem acceptInv_step (s : DrawSystem) (a : DrawLabel) (h : AcceptInv verifySignature s) :
    AcceptInv verifySignature (drawStep verifySignature feePercent s a) := by
  have hverified : (drawStep verifySignature feePercent s a).Verified verifySignature :=
    verified_step s a h.verified
  have hledger : LedgerInv (drawStep verifySignature feePercent s a).ledger :=
    ledgerInv_drawStep s a h.ledger
  cases draw_effect verifySignature feePercent s a with
  | quiet ledger commits =>
    refine ⟨hverified, hledger, ?_, ?_⟩
    · rw [commits]
      exact h.accepted
    · rw [ledger, commits]
      exact h.recorded
  | operated fault op beside ledger commits =>
    refine ⟨hverified, hledger, ?_, ?_⟩
    · rw [commits]
      exact h.accepted
    · rw [ledger, commits, (beside_money fault beside s.ledger).1]
      exact h.recorded
  | committed i d state advance r _ found stage spec commits =>
    refine ⟨hverified, hledger, ?_, ?_⟩
    · intro c hc
      rw [commits, List.mem_append, List.mem_singleton] at hc
      rcases hc with hold | hnew
      · exact h.accepted c hold
      · rw [hnew]
        exact ⟨d, state, advance, rfl, h.verified i d found state (by rw [stage]; rfl)⟩
    -- the row that is written is the voucher of the commit
    · obtain ⟨hck, hrow⟩ := spec.written
      rw [← hrow, commits, List.map_append, ← h.recorded]
      rfl

/-- Values that are distinct under every key are distinct together with their keys. -/
theorem nodup_pairs {α K V : Type} [DecidableEq K] (f : α → K) (g : α → V) {l : List α}
    (h : ∀ k, ((l.filter fun a => f a = k).map g).Nodup) : (l.map fun a => (f a, g a)).Nodup := by
  induction l with
  | nil => exact List.nodup_nil
  | cons a l ih =>
    rw [List.map_cons, List.nodup_cons]
    constructor
    · intro hmem
      obtain ⟨b, hb, heq⟩ := List.mem_map.mp hmem
      have hkey := (Prod.mk.inj heq).1
      have hvalue := (Prod.mk.inj heq).2
      have hown := h (f a)
      rw [List.filter_cons_of_pos (by simp), List.map_cons, List.nodup_cons] at hown
      apply hown.1
      rw [← hvalue]
      apply List.mem_map_of_mem
      rw [List.mem_filter]
      exact ⟨hb, by simpa using hkey⟩
    · apply ih
      intro k
      have hk := h k
      by_cases hfa : f a = k
      · rw [List.filter_cons_of_pos (by simpa using hfa), List.map_cons, List.nodup_cons] at hk
        exact hk.2
      · rw [List.filter_cons_of_neg (by simpa using hfa)] at hk
        exact hk

/-- No two commits of a channel have the same cumulative. -/
theorem AcceptInv.distinct {s : DrawSystem} (h : AcceptInv verifySignature s) :
    (s.commits.map fun c => (c.record.channelId, c.record.cumulativeAtomic)).Nodup := by
  apply nodup_pairs
  intro id
  have hdistinct := h.ledger.distinct id
  rw [cumulatives, h.recorded, List.filter_map, List.map_map] at hdistinct
  apply List.Nodup.of_map (fun n : ℕ => (n : ℤ))
  rw [List.map_map]
  exact hdistinct

variable (verifySignature feePercent)

/-- What a run preserves. -/
theorem acceptInv_run (as : List DrawLabel) :
    AcceptInv verifySignature (drawRun verifySignature feePercent as) :=
  run_invariant acceptInv_step acceptInv_init as

/-- `verify_voucher` accepts exactly the vouchers that meet all its rules over the integers. And in
every run of the draw system, whatever the interleaving, what was persisted had been accepted and
no voucher is persisted twice on a channel. Where every draw commits on the cumulative it was
verified against, what a channel's vouchers were accepted for is its cumulative, within the
deposit. -/
theorem vouchers_exact_and_once :
    (∀ (state : Words.ChannelState) (voucher : Words.Voucher) (billedAtomic currentSlot : UInt64),
      Words.verifyVoucher verifySignature state voucher billedAtomic currentSlot = .ok () ↔
        Words.AcceptRules verifySignature state voucher billedAtomic currentSlot) ∧
    ∀ as : List DrawLabel,
      (∀ c ∈ (drawRun verifySignature feePercent as).commits, c.Accepted verifySignature) ∧
      ((drawRun verifySignature feePercent as).commits.map fun c =>
        (c.record.channelId, c.record.cumulativeAtomic)).Nodup ∧
      (AllSteps (drawStep verifySignature feePercent) Undisturbed DrawSystem.init as →
        ∀ id r, (drawRun verifySignature feePercent as).ledger.channels.lookup id = some r →
          acceptedTotal (drawRun verifySignature feePercent as) id =
            r.1.lastVoucherCumulativeAtomic ∧
          acceptedTotal (drawRun verifySignature feePercent as) id ≤ r.1.depositedAtomic) := by
  refine ⟨fun state voucher billed slot => Words.verifyVoucher_iff state voucher billed slot, ?_⟩
  intro as
  have hinv := acceptInv_run verifySignature feePercent as
  refine ⟨hinv.accepted, hinv.distinct, ?_⟩
  intro hall id r hr
  have hlast : lastOf (drawRun verifySignature feePercent as).ledger id =
      some r.1.lastVoucherCumulativeAtomic := by
    rw [lastOf, hr]
    rfl
  have htotal := billed_run hall id _ hlast
  rw [hinv.total id, ← htotal]
  exact ⟨rfl, r.2.cumulative_le_deposited⟩

/-- The sample run draws alone on its channel. -/
theorem vouchers_exact_and_once_sample :
    ∀ id r, (drawRun sampleVerify 5 sampleRun).ledger.channels.lookup id = some r →
      acceptedTotal (drawRun sampleVerify 5 sampleRun) id ≤ r.1.depositedAtomic := by
  intro id r hr
  have hrun := (vouchers_exact_and_once sampleVerify 5).2 sampleRun
  exact (hrun.2.2 sampleRun_undisturbed id r hr).2

/-! ## More accepted than deposited -/

/-- The overlapping draws on a channel of 200 units. -/
def overdrawingDraws : List DrawLabel :=
  .beside none (.createChannel { sampleChannel with depositedAtomic := 200 }) ::
    overlappingDraws.tail

/-- Both vouchers persist, for 100 and for 150 units, on a deposit of 200. -/
theorem overdrawingDraws_accepted :
    acceptedTotal (drawRun sampleVerify 5 overdrawingDraws) sampleId = 250 ∧
    ¬ ∀ as id r, (drawRun sampleVerify 5 as).ledger.channels.lookup id = some r →
      acceptedTotal (drawRun sampleVerify 5 as) id ≤ r.1.depositedAtomic := by
  have htotal : acceptedTotal (drawRun sampleVerify 5 overdrawingDraws) sampleId = 250 := by
    decide +kernel
  have hdeposit : ((drawRun sampleVerify 5 overdrawingDraws).ledger.channels.lookup
      sampleId).map (·.1.depositedAtomic) = some 200 := by decide +kernel
  refine ⟨htotal, fun hall => ?_⟩
  obtain ⟨r, hr, hdeposited⟩ := Option.map_eq_some_iff.1 hdeposit
  have hbound := hall overdrawingDraws sampleId r hr
  rw [htotal, hdeposited] at hbound
  exact absurd hbound (by decide)

end Solvela.Channel
