import Solvela.Channel.CloseRace

/-!
# What a persisted voucher is billed for

`call_cost_atomic` is meant to be the advance of the voucher: `cumulative - prev_cumulative`.
Verification establishes it against the snapshot the draw loaded; the commit compares only
that the cumulative grows. The two agree as long as nobody committed on the channel between
the load and the persist, and that is exactly when the ledger is right: `billed_step_iff`.

* `billedExactly_step` and `billed_step`, one draw;
* `callCostTotal_congr`, what leaves the bill alone.
-/

namespace Solvela.Channel

open Solvela.Lib
open Solvela.Lib.Txn
open Solvela.ChannelLedger

/-- The call costs of a channel's persisted vouchers together. -/
def callCostTotal (l : Ledger) (id : ChannelId) : ℤ :=
  ((l.vouchers.filter fun v => v.channelId = id).map (·.callCostAtomic)).sum

/-- What was billed is read from the vouchers only. -/
theorem callCostTotal_congr {l l' : Ledger} (h : l'.vouchers = l.vouchers) (id : ChannelId) :
    callCostTotal l' id = callCostTotal l id := by
  rw [callCostTotal, callCostTotal, h]

/-- A channel that does not exist has no vouchers. -/
theorem callCostTotal_of_fresh {l : Ledger} (h : LedgerInv l) {id : ChannelId}
    (hnone : lastOf l id = none) : callCostTotal l id = 0 := by
  have hfresh : l.channels.lookup id = none := by
    rw [lastOf] at hnone
    exact Option.map_eq_none_iff.1 hnone
  have hempty := cumulatives_of_fresh h hfresh
  rw [cumulatives, List.map_eq_nil_iff] at hempty
  rw [callCostTotal, hempty]
  rfl

/-- A persisted voucher adds its call cost to its own channel's total. -/
theorem callCostTotal_of_persisted {v : VoucherRecord} {r : Channel} {l l' : Ledger}
    (h : Persisted v r l l') (id : ChannelId) :
    callCostTotal l' id =
      callCostTotal l id + if id = v.channelId then (v.callCostAtomic : ℤ) else 0 := by
  obtain ⟨hck, rfl⟩ := h.written
  unfold callCostTotal
  by_cases hid : id = v.channelId
  · subst hid
    simp
  · have hne : v.channelId ≠ id := fun h => hid h.symm
    simp [hid, hne]

section
variable (verifySignature : Pubkey → List UInt8 → Vector UInt8 64 → Bool) (feePercent : ℕ)

/-- The step moves every channel's cumulative by exactly the call costs it persists there. -/
def BilledExactly (s : DrawSystem) (a : DrawLabel) : Prop :=
  ∀ id n, lastOf s.ledger id = some n →
    lastOf (drawStep verifySignature feePercent s a).ledger id =
      some (n + (callCostTotal (drawStep verifySignature feePercent s a).ledger id -
        callCostTotal s.ledger id))

/-- A draw about to persist on an open channel finds the cumulative it loaded. -/
def Undisturbed (s : DrawSystem) : DrawLabel → Prop
  | .persist i _ => ∀ d state advance r, s.draws.lookup i = some d →
      d.stage = .cleared state advance → s.ledger.channels.lookup d.channelId = some r →
      r.1.status = .open → r.1.lastVoucherCumulativeAtomic = state.lastCumulativeAtomic
  | _ => True

variable {verifySignature feePercent}

/-- An operation beside the draws persists no voucher and moves no cumulative; a channel it
creates starts at zero. -/
theorem beside_money (fault : Fault) {op : LedgerOp} (hop : besideDraws op) (l : Ledger) :
    (ledgerStep l (fault, op)).vouchers = l.vouchers ∧
      ∀ id, lastOf (ledgerStep l (fault, op)) id = lastOf l id ∨
        (lastOf l id = none ∧ lastOf (ledgerStep l (fault, op)) id = some 0) := by
  unfold ledgerStep
  cases hres : op.program fault l with
  | error e l' =>
    obtain rfl := program_error hres
    exact ⟨rfl, fun _ => Or.inl rfl⟩
  | ok u l' =>
    cases money_effect hres with
    | created id row fresh zero written =>
      subst written
      refine ⟨rfl, fun id' => ?_⟩
      rw [stateOf_ok, lastOf_insert_eq]
      by_cases hid : id' = id
      · right
        rw [if_pos hid, zero, hid, lastOf, fresh]
        exact ⟨rfl, rfl⟩
      · left
        rw [if_neg hid]
    | persisted v r isPersist _ =>
      rcases hop with hop | ⟨_, hop⟩
      · exact absurd hop (by simp [isPersist, runsBeside])
      · exact absurd hop (by simp [isPersist])
    | kept vouchers last => exact ⟨vouchers, fun id => Or.inl (last id)⟩

/-- The voucher of a draw about to persist advances its snapshot by the billed cost. -/
theorem cumulative_of_cleared {s : DrawSystem} (h : s.Verified verifySignature) {i : ℕ}
    {d : Draw} {state : ChannelState} {advance : ℕ} (hd : s.draws.lookup i = some d)
    (hstage : d.stage = .cleared state advance) :
    ((d.record advance).cumulativeAtomic : ℤ) =
      state.lastCumulativeAtomic + (d.record advance).callCostAtomic := by
  have hok := h i d hd state (by rw [hstage]; rfl)
  have hcum := (verifyVoucher_ok hok).2.1
  simp only [Draw.record]
  omega

/-- A step without a commit moves no cumulative and persists no voucher. -/
theorem billedExactly_of_kept {s : DrawSystem} {a : DrawLabel}
    (hv : (drawStep verifySignature feePercent s a).ledger.vouchers = s.ledger.vouchers)
    (hl : ∀ id n, lastOf s.ledger id = some n →
      lastOf (drawStep verifySignature feePercent s a).ledger id = some n) :
    BilledExactly verifySignature feePercent s a := by
  intro id n hn
  rw [callCostTotal_congr hv, sub_self, add_zero]
  exact hl id n hn

/-- A commit is billed exactly when it finds the cumulative its draw loaded. -/
theorem billedExactly_of_persisted {s : DrawSystem} {a : DrawLabel} {i : ℕ} {d : Draw}
    {state : ChannelState} {advance : ℕ} {r : Channel} (hver : s.Verified verifySignature)
    (hd : s.draws.lookup i = some d) (hstage : d.stage = .cleared state advance)
    (hspec : Persisted (d.record advance) r s.ledger
      (drawStep verifySignature feePercent s a).ledger) :
    BilledExactly verifySignature feePercent s a ↔
      r.1.lastVoucherCumulativeAtomic = state.lastCumulativeAtomic := by
  have hcum := cumulative_of_cleared hver hd hstage
  have hfound : lastOf s.ledger (d.record advance).channelId =
      some r.1.lastVoucherCumulativeAtomic := by
    rw [lastOf, hspec.found]
    rfl
  constructor
  · intro h
    -- billed exactly, the figure moves by the cost of the call
    have hmoved := h _ _ hfound
    rw [lastOf_of_persisted hspec, callCostTotal_of_persisted hspec, if_pos rfl, if_pos rfl]
      at hmoved
    have := Option.some.inj hmoved
    omega
  · intro hlast id n hn
    rw [lastOf_of_persisted hspec, callCostTotal_of_persisted hspec]
    by_cases hid : id = (d.record advance).channelId
    · rw [if_pos hid, if_pos hid]
      rw [hid, hfound] at hn
      have hn' := Option.some.inj hn
      congr 1
      omega
    · rw [if_neg hid, if_neg hid, hn]
      congr 1
      omega

variable (feePercent) in
/-- An undisturbed draw is billed what the endpoint quoted. -/
theorem billedExactly_step (s : DrawSystem) (a : DrawLabel) (hver : s.Verified verifySignature)
    (h : Undisturbed s a) : BilledExactly verifySignature feePercent s a := by
  cases draw_effect verifySignature feePercent s a with
  | quiet ledger _ =>
    refine billedExactly_of_kept (by rw [ledger]) fun id n hn => ?_
    rw [ledger]
    exact hn
  | operated fault op beside ledger _ =>
    obtain ⟨hv, hl⟩ := beside_money fault beside s.ledger
    refine billedExactly_of_kept (by rw [ledger, hv]) fun id n hn => ?_
    rw [ledger]
    rcases hl id with hsame | ⟨hnone, -⟩
    · rw [hsame]
      exact hn
    · rw [hnone] at hn
      exact absurd hn (by simp)
  | committed i d state advance r isPersist found stage spec _ =>
    obtain ⟨fault, rfl⟩ := isPersist
    rw [billedExactly_of_persisted hver found stage spec]
    exact h d state advance r found stage spec.found spec.isOpen

/-- The running total: every channel's cumulative is the sum of its vouchers' call costs. -/
def Billed (l : Ledger) : Prop := ∀ id n, lastOf l id = some n → n = callCostTotal l id

/-- What an undisturbed step adds to the bill, it adds to the mark. -/
theorem billed_step {s : DrawSystem} {a : DrawLabel} (hver : s.Verified verifySignature)
    (hinv : LedgerInv s.ledger) (hbilled : Billed s.ledger) (h : Undisturbed s a) :
    Billed (drawStep verifySignature feePercent s a).ledger := by
  intro id n hn
  have hexact := billedExactly_step feePercent s a hver h id
  cases hl : lastOf s.ledger id with
  | some m =>
    have hm := hbilled id m hl
    have hmoved := hexact m hl
    rw [hn] at hmoved
    have := Option.some.inj hmoved
    omega
  | none =>
    -- a channel that was not there was created by this step, and starts without vouchers
    cases draw_effect verifySignature feePercent s a with
    | quiet ledger _ =>
      rw [ledger, hl] at hn
      exact absurd hn (by simp)
    | operated fault op beside ledger _ =>
      obtain ⟨hv, hlast⟩ := beside_money fault beside s.ledger
      rw [ledger] at hn ⊢
      rcases hlast id with hsame | ⟨-, hzero⟩
      · rw [hsame, hl] at hn
        exact absurd hn (by simp)
      · rw [hzero] at hn
        rw [callCostTotal_congr hv, callCostTotal_of_fresh hinv hl]
        exact (Option.some.inj hn).symm
    | committed i d state advance r _ _ _ spec _ =>
      rw [lastOf_of_persisted spec] at hn
      by_cases hid : id = (d.record advance).channelId
      · have hfound := spec.found
        rw [← hid] at hfound
        rw [lastOf, hfound] at hl
        exact absurd hl (by simp)
      · rw [if_neg hid, hl] at hn
        exact absurd hn (by simp)

/-- What a run under the condition keeps. -/
structure BillingInv (verifySignature : Pubkey → List UInt8 → Vector UInt8 64 → Bool)
    (s : DrawSystem) : Prop where
  verified : s.Verified verifySignature
  ledger : LedgerInv s.ledger
  billed : Billed s.ledger

/-- Where no draw persists over a cumulative it did not load, the running totals are right. -/
theorem billed_run {as : List DrawLabel}
    (hall : AllSteps (drawStep verifySignature feePercent) Undisturbed DrawSystem.init as) :
    Billed (drawRun verifySignature feePercent as).ledger := by
  have hinv : BillingInv verifySignature (drawRun verifySignature feePercent as) := by
    refine run_invariant_of_allSteps (I := BillingInv verifySignature) ?_ ?_ hall
    · intro s a hs hC
      exact ⟨verified_step s a hs.verified, ledgerInv_drawStep s a hs.ledger,
        billed_step hs.verified hs.ledger hs.billed hC⟩
    · refine ⟨verified_init, ledgerInv_empty, ?_⟩
      intro id n hn
      exact absurd hn (by simp [lastOf, DrawSystem.init, Ledger.empty])
  exact hinv.billed

variable (verifySignature feePercent)

/-- Every run in which no draw persists over a cumulative it did not load bills every voucher
for exactly its advance: each step moves each channel by the call costs it persists, and in
the end the channel's cumulative is their sum. And the condition is the right one: in any
reachable state a commit is exact if and only if it finds the cumulative its draw loaded. -/
theorem draws_billed_exactly (as : List DrawLabel) :
    (AllSteps (drawStep verifySignature feePercent) Undisturbed DrawSystem.init as →
      AllSteps (drawStep verifySignature feePercent)
        (BilledExactly verifySignature feePercent) DrawSystem.init as ∧
      ∀ id r, (drawRun verifySignature feePercent as).ledger.channels.lookup id = some r →
        r.1.lastVoucherCumulativeAtomic =
          callCostTotal (drawRun verifySignature feePercent as).ledger id) ∧
    ∀ i fault d state advance u l,
      (drawRun verifySignature feePercent as).draws.lookup i = some d →
      d.stage = .cleared state advance →
      persistVoucherAndAdvance fault (d.record advance)
        (drawRun verifySignature feePercent as).ledger = .ok u l →
      (BilledExactly verifySignature feePercent (drawRun verifySignature feePercent as)
          (.persist i fault) ↔
        lastOf (drawRun verifySignature feePercent as).ledger d.channelId =
          some (state.lastCumulativeAtomic : ℤ)) := by
  refine ⟨fun hall => ⟨?_, ?_⟩, ?_⟩
  · exact allSteps_imp (I := DrawSystem.Verified verifySignature)
      (fun s a hs _ => verified_step s a hs) (billedExactly_step feePercent) verified_init hall
  · intro id r hr
    exact billed_run hall id _ (by rw [lastOf, hr]; rfl)
  -- one persist that commits: it is billed exactly if it finds what it loaded
  · intro i fault d state advance u l hd hstage hok
    obtain ⟨r, hspec⟩ := persistVoucherAndAdvance_ok hok
    have hledger : (drawStep verifySignature feePercent
        (drawRun verifySignature feePercent as) (.persist i fault)).ledger = l := by
      show (DrawSystem.onDraw _ i _).ledger = l
      rw [DrawSystem.onDraw, hd]
      simp only [persist, hstage, hok]
    rw [← hledger] at hspec
    rw [billedExactly_of_persisted (verified_run verifySignature feePercent as) hd hstage hspec]
    have hfound : (drawRun verifySignature feePercent as).ledger.channels.lookup d.channelId =
        some r := hspec.found
    rw [lastOf, hfound]
    simp

end

/-- The state in which the sample draw is about to persist: it loaded the cumulative 0, and
that is still the channel's. -/
theorem sampleRun_undisturbed :
    AllSteps (drawStep sampleVerify 5) Undisturbed DrawSystem.init sampleRun := by
  have hstate : ((drawRun sampleVerify 5 (sampleRun.take 6)).draws.lookup 0).map (fun d =>
        (d.channelId, d.stage.snapshot.map (·.lastCumulativeAtomic))) =
          some (sampleId, some 0) ∧
      lastOf (drawRun sampleVerify 5 (sampleRun.take 6)).ledger sampleId = some 0 := by
    decide +kernel
  refine ⟨trivial, trivial, trivial, trivial, trivial, trivial, ?_, trivial, trivial, trivial⟩
  intro d state advance r hd hstage hr _
  have hdraw := hstate.1
  rw [show (drawRun sampleVerify 5 (sampleRun.take 6)).draws.lookup 0 = some d from hd,
    Option.map_some, hstage] at hdraw
  obtain ⟨hid, hlast⟩ := Prod.mk.inj (Option.some.inj hdraw)
  have hledger := hstate.2
  rw [← hid, lastOf,
    show (drawRun sampleVerify 5 (sampleRun.take 6)).ledger.channels.lookup d.channelId = some r
      from hr] at hledger
  have hzero : state.lastCumulativeAtomic = 0 := Option.some.inj hlast
  rw [hzero]
  exact Option.some.inj hledger

/-- Two draws of one channel, one after the other. -/
theorem draws_billed_exactly_sample :
    AllSteps (drawStep sampleVerify 5) (BilledExactly sampleVerify 5) DrawSystem.init
      sampleRun ∧
    ∀ id r, (drawRun sampleVerify 5 sampleRun).ledger.channels.lookup id = some r →
      r.1.lastVoucherCumulativeAtomic =
        callCostTotal (drawRun sampleVerify 5 sampleRun).ledger id :=
  (draws_billed_exactly sampleVerify 5 sampleRun).1 sampleRun_undisturbed

/-! ## Overlapping draws -/

/-- A model at 1 USDC for a million tokens, and a call of 20 tokens. -/
def sampleOutcome : ChatOutcome :=
  { usage := some ⟨10, 10, 20⟩, discount := none, reqMaxTokens := none
    model :=
      { inputCostPerMillion := some 1, outputCostPerMillion := some 1, contextWindow := 8192
        maxOutputTokens := none } }

/-- The lock of draw 0 expires while it is served and draw 1 takes it: both loaded the
cumulative 0. Redis does not answer draw 0's ownership check, so both persist. -/
def overlappingDraws : List DrawLabel :=
  [.beside none (.createChannel sampleChannel),
    .begin 0 sampleRequestA, .load 0, .verify 0, .lockExpires sampleId,
    .begin 1 sampleRequestB, .load 1, .verify 1,
    .serve 0 (.chat sampleOutcome), .recheck 0 false, .persist 0 none,
    .serve 1 (.chat sampleOutcome), .recheck 1 true, .persist 1 none]

/-- The channel stands at 150, and its two vouchers are billed 250. -/
theorem overlappingDraws_misbilled :
    lastOf (drawRun sampleVerify 5 overlappingDraws).ledger sampleId = some 150 ∧
    callCostTotal (drawRun sampleVerify 5 overlappingDraws).ledger sampleId = 250 ∧
    ¬ ∀ as id r, (drawRun sampleVerify 5 as).ledger.channels.lookup id = some r →
      r.1.lastVoucherCumulativeAtomic = callCostTotal (drawRun sampleVerify 5 as).ledger id := by
  have hrun : lastOf (drawRun sampleVerify 5 overlappingDraws).ledger sampleId = some 150 ∧
      callCostTotal (drawRun sampleVerify 5 overlappingDraws).ledger sampleId = 250 := by
    decide +kernel
  refine ⟨hrun.1, hrun.2, fun hall => ?_⟩
  obtain ⟨r, hr, hlast⟩ := Option.map_eq_some_iff.1 hrun.1
  have hbilled := hall overlappingDraws sampleId r hr
  rw [hlast, hrun.2] at hbilled
  exact absurd hbilled (by decide)

end Solvela.Channel
