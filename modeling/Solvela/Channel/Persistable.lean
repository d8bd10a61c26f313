import Solvela.Channel.CloseRace

/-!
# From an accepted voucher to its debit

A draw is served between its verification and its persist, so whatever the persist can still
refuse is served for free. This module collects what the earlier checks promise the persist:
the decoder bounds the expiry slot and the nonce, the verifier bounds the cumulative by the
deposit and pins its advance to the billed cost, the clamp bounds the realized advance, and
the CHECK constraints of the loaded row bound the rest. One thing none of them rules out is a
quote of zero, and `served_debited_iff` says that it is the only one.
-/

namespace Solvela.Channel

open Solvela.Lib
open Solvela.Lib.Txn
open Solvela.ChannelLedger

/-- A loaded snapshot is the open row it was read from. -/
structure Loaded (l : Ledger) (id : ChannelId) (digest : Vector UInt8 32) (state : ChannelState)
    (r : Channel) : Prop where
  found : l.channels.lookup id = some r
  isOpen : r.1.status = .open
  channelId : decodeBs58Pubkey id = some state.channelId
  digest : state.expectedRequestDigest = digest
  deposited : r.1.depositedAtomic = state.depositedAtomic
  settled : r.1.settledAtomic = state.settledAtomic
  last : r.1.lastVoucherCumulativeAtomic = state.lastCumulativeAtomic

/-- A channel that is loaded has a row that it was loaded from. -/
theorem loadOpenChannelState_loaded {l : Ledger} {id : ChannelId} {digest : Vector UInt8 32}
    {ch : DrawableChannel} (h : loadOpenChannelState l id digest = .ok (some ch)) :
    ∃ r, Loaded l id digest ch.state r := by
  unfold loadOpenChannelState at h
  cases hl : l.channels.lookup id with
  | none =>
    simp only [hl] at h
    exact absurd h (by simp)
  | some r =>
    simp only [hl] at h
    by_cases hopen : r.1.status = .open
    · rw [if_pos hopen] at h
      obtain ⟨channelId, hid, h⟩ := except_bind_ok.1 h
      obtain ⟨sessionKey, -, h⟩ := except_bind_ok.1 h
      obtain ⟨deposited, hd, h⟩ := except_bind_ok.1 h
      obtain ⟨settled, hs, h⟩ := except_bind_ok.1 h
      obtain ⟨last, hlast, h⟩ := except_bind_ok.1 h
      obtain rfl := Option.some.inj (Except.ok.inj h)
      have hkey : decodeBs58Pubkey id = some channelId := by
        cases hdecode : decodeBs58Pubkey id with
        | none =>
          rw [hdecode] at hid
          exact absurd hid (by simp)
        | some key =>
          rw [hdecode] at hid
          rw [Except.ok.inj hid]
      exact ⟨r, hl, hopen, hkey, rfl, i64ToAtomic_ok hd, i64ToAtomic_ok hs, i64ToAtomic_ok hlast⟩
    · rw [if_neg hopen] at h
      exact absurd h (by simp)

/-- The row is open, and the state repeats its amounts. -/
theorem loadOpenChannelState_ok {l : Ledger} {id : ChannelId} {digest : Vector UInt8 32}
    {ch : DrawableChannel} (h : loadOpenChannelState l id digest = .ok (some ch)) :
    ∃ r, l.channels.lookup id = some r ∧ r.1.status = .open ∧
      r.1.depositedAtomic = ch.state.depositedAtomic ∧
      r.1.lastVoucherCumulativeAtomic = ch.state.lastCumulativeAtomic := by
  obtain ⟨r, hr⟩ := loadOpenChannelState_loaded h
  exact ⟨r, hr.found, hr.isOpen, hr.deposited, hr.last⟩

/-- In a reachable ledger no voucher above the channel's cumulative is persisted. -/
theorem voucherExists_above {l : Ledger} (hinv : LedgerInv l) {id : ChannelId} {r : Channel}
    (hr : l.channels.lookup id = some r) {c : ℤ} (hc : r.1.lastVoucherCumulativeAtomic < c) :
    voucherExists l id c = false := by
  have hlast : r.1.lastVoucherCumulativeAtomic = maxCumulative l id :=
    hinv.last id _ (by rw [lastOf, hr]; rfl)
  rw [Bool.eq_false_iff]
  intro hex
  simp only [voucherExists, List.any_eq_true, Bool.and_eq_true, beq_iff_eq] at hex
  obtain ⟨v, hv, hid, hcum⟩ := hex
  have hmem : c ∈ cumulatives l id := by
    simp only [cumulatives, List.mem_map, List.mem_filter, decide_eq_true_eq]
    exact ⟨v, ⟨hv, hid⟩, hcum⟩
  have hle : c ≤ maxCumulative l id := le_maxCumulative hmem
  omega

section
variable {verifySignature : Pubkey → List UInt8 → Vector UInt8 64 → Bool}

/-- What is known of a draw when it comes to its persist, nobody else having touched its
channel: the wire voucher decoded, the snapshot was loaded from this ledger, and the voucher
was accepted against it. -/
structure Accepted (verifySignature : Pubkey → List UInt8 → Vector UInt8 64 → Bool) (l : Ledger)
    (d : Draw) (ch : DrawableChannel) : Prop where
  decoded : voucherFromPayload d.request.payload = .ok d.voucher
  loaded : loadOpenChannelState l d.channelId d.request.requestDigest = .ok (some ch)
  verified : verifyVoucher verifySignature ch.state d.voucher d.request.billedAtomic
    d.request.currentSlot = .ok ()

/-- The advance of an accepted draw keeps the CHECK constraints of the row it was accepted
against. -/
theorem check_advance {r : Channel} {cumulative billed advance : ℕ}
    (hcum : (cumulative : ℤ) = r.1.lastVoucherCumulativeAtomic + billed)
    (hdep : (cumulative : ℤ) ≤ r.1.depositedAtomic) (hadv : advance ≤ billed) :
    (r.1.advance cumulative advance).Check := by
  have hck := r.2
  have hsettled := hck.settled_le_cumulative
  have hrealized := hck.realized_le_cumulative
  have hsr := hck.settled_le_realized
  refine ⟨hck.deposited, hck.expiry, hck.settled_nonneg, ?_, hdep, ?_, ?_⟩
  · show r.1.settledAtomic ≤ (cumulative : ℤ)
    omega
  · show r.1.settledAtomic ≤ r.1.realizedAtomic + (advance : ℤ)
    omega
  · show r.1.realizedAtomic + (advance : ℤ) ≤ (cumulative : ℤ)
    omega

/-- A voucher that was accepted against the ledger's own snapshot, bills something and fits the
columns is persistable. -/
theorem persistable_of_verified {l : Ledger} (hinv : LedgerInv l) {v : VoucherRecord}
    {digest : Vector UInt8 32} {ch : DrawableChannel} {voucher : Voucher} {slot : ℕ}
    (hload : loadOpenChannelState l v.channelId digest = .ok (some ch))
    (hverify : verifyVoucher verifySignature ch.state voucher v.callCostAtomic slot = .ok ())
    (hvoucher : v.cumulativeAtomic = voucher.cumulativeAtomic)
    (hadv : v.realizedAdvanceAtomic ≤ v.callCostAtomic) (hexpiry : v.expirySlot ≤ i64Max)
    (hnonce : v.nonce ≤ i64Max) (hpos : 0 < v.callCostAtomic) : ∃ r, Persistable v r l := by
  obtain ⟨r, hr, hopen, hdep, hlast⟩ := loadOpenChannelState_ok hload
  obtain ⟨-, hcum, hle⟩ := verifyVoucher_ok hverify
  have hmax : r.1.depositedAtomic ≤ 2 ^ 63 - 1 := r.2.deposited.2
  have hcum' : (v.cumulativeAtomic : ℤ) =
      r.1.lastVoucherCumulativeAtomic + v.callCostAtomic := by
    omega
  have hdep' : (v.cumulativeAtomic : ℤ) ≤ r.1.depositedAtomic := by omega
  have hgrow : r.1.lastVoucherCumulativeAtomic < v.cumulativeAtomic := by omega
  have hfits : v.cumulativeAtomic ≤ i64Max := by
    rw [i64Max]
    omega
  refine ⟨r, ?_⟩
  exact
    { found := hr, isOpen := hopen, increases := hgrow
      unique := voucherExists_above hinv hr hgrow
      cumulative := hfits
      callCost := le_trans (show v.callCostAtomic ≤ v.cumulativeAtomic by omega) hfits
      realized := le_trans (show v.realizedAdvanceAtomic ≤ v.cumulativeAtomic by omega) hfits
      expiry := hexpiry
      nonce := hnonce
      check := check_advance hcum' hdep' hadv }

/-- An accepted draw that bills something is persistable. -/
theorem Accepted.persistable {l : Ledger} {d : Draw} {ch : DrawableChannel}
    (h : Accepted verifySignature l d ch) (hinv : LedgerInv l) {advance : ℕ}
    (hadv : advance ≤ d.request.billedAtomic) (hpos : 0 < d.request.billedAtomic) :
    ∃ r, Persistable (d.record advance) r l := by
  obtain ⟨-, -, hexp, hnonce, hexp', hnonce'⟩ := voucherFromPayload_ok h.decoded
  exact persistable_of_verified hinv h.loaded h.verified rfl hadv (hexp.trans_le hexp')
    (hnonce.trans_le hnonce') hpos

/-- The draw is debited, and its voucher is spent: it is persisted, the channel stands at its
cumulative, and the same voucher is never accepted again at the same cost. -/
structure Debited (verifySignature : Pubkey → List UInt8 → Vector UInt8 64 → Bool) (l : Ledger)
    (d : Draw) (advance : ℕ) (l' : Ledger) : Prop where
  persisted : persistVoucherAndAdvance none (d.record advance) l = .ok () l'
  last : lastOf l' d.channelId = some (d.voucher.cumulativeAtomic : ℤ)
  spent : ∀ digest ch slot, loadOpenChannelState l' d.channelId digest = .ok (some ch) →
    verifyVoucher verifySignature ch.state d.voucher d.request.billedAtomic slot ≠ .ok ()

/-- For every reachable ledger, every accepted draw and every outcome of its serve: the draw
is debited if and only if it bills anything at all. -/
theorem served_debited_iff (verifySignature : Pubkey → List UInt8 → Vector UInt8 64 → Bool)
    (feePercent : ℕ) (ops : List (Fault × LedgerOp)) (d : Draw) (ch : DrawableChannel)
    (served : Served)
    (haccepted : Accepted verifySignature (run ledgerStep Ledger.empty ops) d ch) :
    (∃ l', Debited verifySignature (run ledgerStep Ledger.empty ops) d
      (realizedAdvance feePercent d.request.billedAtomic served) l') ↔
      0 < d.request.billedAtomic := by
  constructor
  · rintro ⟨l', hdebited⟩
    obtain ⟨r', hspec⟩ := persistVoucherAndAdvance_ok hdebited.persisted
    obtain ⟨r, hr, -, -, hlast⟩ := loadOpenChannelState_ok haccepted.loaded
    obtain ⟨-, hcum, -⟩ := verifyVoucher_ok haccepted.verified
    -- the persist insists on growth, and the growth is what was billed
    have hfound := hspec.found
    rw [show (d.record _).channelId = d.channelId from rfl, hr] at hfound
    obtain rfl := Option.some.inj hfound
    have hgrow : r.1.lastVoucherCumulativeAtomic < (d.voucher.cumulativeAtomic : ℤ) :=
      hspec.increases
    omega
  · intro hpos
    obtain ⟨r, hpersist⟩ := haccepted.persistable (ledgerInv_run ops)
      (realizedAdvance_le feePercent _ served) hpos
    have hok := persistVoucherAndAdvance_succeeds hpersist
    obtain ⟨_, hspec⟩ := persistVoucherAndAdvance_ok hok
    have hlast := lastOf_of_persisted hspec d.channelId
    rw [if_pos (show d.channelId = (d.record _).channelId from rfl)] at hlast
    refine ⟨_, hok, hlast, ?_⟩
    intro digest ch' slot hload hverify
    -- the snapshot now stands at the cumulative, so a replay would advance it by nothing
    obtain ⟨r', hr', -, -, hlast'⟩ := loadOpenChannelState_ok hload
    obtain ⟨-, hcum, -⟩ := verifyVoucher_ok hverify
    rw [lastOf, hr', Option.map_some] at hlast
    have hstands : r'.1.lastVoucherCumulativeAtomic = (d.voucher.cumulativeAtomic : ℤ) :=
      Option.some.inj hlast
    omega

end

/-! ## A free search -/

/-- A fresh sample channel. -/
def sampleOpened : List (Fault × LedgerOp) := [(none, .createChannel sampleChannel)]

/-- The sample draw, accepted. -/
def sampleAccepted : Draw :=
  ⟨sampleRequestA,
    { channelId := (decodeBs58Pubkey sampleId).getD systemProgram, cumulativeAtomic := 100
      expirySlot := 1000, nonce := 1, requestDigest := sampleDigestA
      signature := sampleSignatureA }, .locked⟩

/-- The snapshot of the fresh sample channel. -/
def sampleSnapshot : DrawableChannel :=
  { state :=
      { channelId := (decodeBs58Pubkey sampleId).getD systemProgram, depositedAtomic := 1000
        settledAtomic := 0, lastCumulativeAtomic := 0
        sessionKey := (decodeBs58Pubkey sampleChannel.sessionKey).getD systemProgram
        expectedRequestDigest := sampleDigestA }
    agentWallet := sampleChannel.agentWallet }

/-- A voucher of the sample channel. -/
theorem served_debited_iff_sample :
    0 < sampleAccepted.request.billedAtomic ∧
    ∃ l', Debited sampleVerify (run ledgerStep Ledger.empty sampleOpened) sampleAccepted
      (realizedAdvance 5 sampleAccepted.request.billedAtomic .search) l' := by
  have haccepted : Accepted sampleVerify (run ledgerStep Ledger.empty sampleOpened)
      sampleAccepted sampleSnapshot :=
    ⟨by decide +kernel, by decide +kernel, by decide +kernel⟩
  have hpos : 0 < sampleAccepted.request.billedAtomic := by decide
  exact ⟨hpos, (served_debited_iff sampleVerify 5 sampleOpened sampleAccepted sampleSnapshot
    .search haccepted).2 hpos⟩

def freeSignature : Vector UInt8 64 := #v[
    149, 187, 174, 73, 99, 223, 149, 125, 223, 114, 124, 66, 119, 134, 88, 65, 132, 116, 197,
    26, 45, 94, 62, 178, 95, 111, 155, 77, 175, 99, 112, 174, 213, 49, 144, 126, 71, 18, 185,
    129, 86, 16, 181, 46, 87, 250, 121, 198, 88, 76, 33, 241, 97, 138, 102, 139, 101, 217, 166,
    235, 116, 251, 9, 0]

/-- ed25519 verification, on the message and the signature of the free voucher. -/
def freeVerify (_ : Pubkey) (message : List UInt8) (signature : Vector UInt8 64) : Bool :=
  (decodeBs58Pubkey sampleId).elim false fun id =>
    message == buildVoucherMessage id 0 1000 1 sampleDigestA && signature == freeSignature

/-- A search at a configured price of a tenth of an atomic unit, with a voucher that advances
a fresh channel by nothing. -/
def freeRequest : DrawRequest :=
  { payload :=
      { channelId := sampleId, cumulativeAtomic := 0, expirySlot := 1000, nonce := 1
        requestDigest := "bkZ5rQI6N1cy4Xjb7R3qKD3XRJAoSY6XbacI2heDGuw="
        signature := "lbuuSWPflX3fcnxCd4ZYQYR0xRotXj6yX2+bTa9jcK7VMZB+RxK5gVYQtS5X+nnGWEwh8WGKZotl2abrdPsJAA==" }
    requestDigest := sampleDigestA, billedAtomic := 0, currentSlot := 10 }

def freeDraw : Draw :=
  ⟨freeRequest,
    { channelId := (decodeBs58Pubkey sampleId).getD systemProgram, cumulativeAtomic := 0
      expirySlot := 1000, nonce := 1, requestDigest := sampleDigestA
      signature := freeSignature }, .locked⟩

/-- The price is positive, so it passes the price check and the quote rounds to zero; the
voucher is accepted, and the persist after the serve is refused. -/
theorem freeDraw_unpersistable :
    (computeServiceCost 5 (some (1 / 10000000))).toOption.map (·.totalAtomic) =
      some freeDraw.request.billedAtomic ∧
    Accepted freeVerify (run ledgerStep Ledger.empty sampleOpened) freeDraw sampleSnapshot ∧
    isOk (persistVoucherAndAdvance none (freeDraw.record (realizedAdvance 5 0 .search))
      (run ledgerStep Ledger.empty sampleOpened)) = false ∧
    ¬ ∀ ops d ch served, Accepted freeVerify (run ledgerStep Ledger.empty ops) d ch →
      ∃ l', Debited freeVerify (run ledgerStep Ledger.empty ops) d
        (realizedAdvance 5 d.request.billedAtomic served) l' := by
  have haccepted : Accepted freeVerify (run ledgerStep Ledger.empty sampleOpened) freeDraw
      sampleSnapshot :=
    ⟨by decide +kernel, by decide +kernel, by decide +kernel⟩
  have hrefused : isOk (persistVoucherAndAdvance none
      (freeDraw.record (realizedAdvance 5 0 .search))
      (run ledgerStep Ledger.empty sampleOpened)) = false := by
    decide +kernel
  refine ⟨by decide +kernel, haccepted, hrefused, fun hall => ?_⟩
  obtain ⟨l', hdebited⟩ := hall sampleOpened freeDraw sampleSnapshot .search haccepted
  have hok := hdebited.persisted
  rw [show freeDraw.request.billedAtomic = 0 from rfl] at hok
  rw [hok] at hrefused
  exact absurd hrefused (by simp)

end Solvela.Channel
