import Solvela.Lib.Runs
import Solvela.Refund.ClaimTxn
import Solvela.Refund.StatusMachine

/-!
# The daily cap

The window of the cap moves with the clock, the sum is taken at the `NOW()` of a transaction
that may have started long before, and holds and confirmations change the summed rows without
the lock. The bound survives all of it for three reasons:

* only the holder of the advisory lock adds to the window, so its sum stays an upper bound
  until it commits;
* every other operation can only take rows out of the window;
* the window at a later clock is part of the window at an earlier one.

The statements are those of `claim_refund_for_broadcast`: run with nobody in between they do to the
ledger what that function does as one transaction (`claimStatements_ledger`).
-/

namespace Solvela.RefundWorker

open Solvela.Lib
open Solvela.Lib.Txn
open Solvela.ChannelLedger

/-! ## The window -/

/-- What a row adds to the sum of the cap at `now`. -/
def weight (now : ℕ) (r : RefundDbRow) : ℕ := if r.counted now then r.amountAtomic.toNat else 0

/-- A row weighs at most its amount. -/
theorem weight_le_amount (now : ℕ) (r : RefundDbRow) : weight now r ≤ r.amountAtomic.toNat := by
  unfold weight
  split
  · exact le_refl _
  · exact Nat.zero_le _

/-- A row that was never broadcast weighs nothing. -/
theorem weight_of_not_broadcast {now : ℕ} {r : RefundDbRow} (h : r.firstBroadcastAt = none) :
    weight now r = 0 := by
  simp [weight, RefundDbRow.counted, h]

/-- The window only moves forward. -/
theorem weight_anti {now now' : ℕ} (h : now ≤ now') (r : RefundDbRow) :
    weight now' r ≤ weight now r := by
  unfold weight
  by_cases hc : r.counted now' = true
  · have hearlier : r.counted now = true := by
      unfold RefundDbRow.counted at hc ⊢
      cases ht : r.firstBroadcastAt with
      | none => simp [ht] at hc
      | some t =>
        simp only [ht, Bool.and_eq_true, decide_eq_true_eq] at hc ⊢
        exact ⟨by omega, hc.2⟩
    rw [if_pos hc, if_pos hearlier]
  · rw [if_neg hc]
    exact Nat.zero_le _

/-- As time passes, rows only leave the window. -/
theorem broadcast24h_anti {now now' : ℕ} (h : now ≤ now') (l : Ledger) :
    broadcast24h now' l ≤ broadcast24h now l :=
  Table.sumBy_le_sumBy fun e _ => weight_anti h e.2.1

/-- An operation beside the claims adds nothing to the window. -/
theorem weight_le_of_move {now : ℕ} {id : ChannelId} {op : LedgerOp} {e e' : Entry}
    (hop : besideClaims op = true) (h : EntryMove id op e e') :
    e'.refund.elim 0 (weight now) ≤ e.refund.elim 0 (weight now) := by
  cases h with
  | kept => exact le_refl _
  | created => exact le_refl _
  | forced => exact le_refl _
  | closed status amount wallet mint =>
    have hzero : weight now (reservation amount wallet mint) = 0 := weight_of_not_broadcast rfl
    exact le_of_eq hzero
  | closedAgain => exact le_refl _
  | claimed => exact absurd hop (by simp [besideClaims])
  | resigned => exact le_refl _
  | held guard channel r =>
    have hzero : weight now ({ r with status := .held } : RefundDbRow) = 0 := by
      unfold weight RefundDbRow.counted
      cases r.firstBroadcastAt with
      | none => rfl
      | some t => simp
    exact le_of_eq_of_le hzero (Nat.zero_le _)
  | marked => exact le_refl _
  | confirmed source channel r hstatus =>
    -- a held row is not confirmed, so the row was counted before if it is now
    have hheld : r.status ≠ .held := by
      rw [hstatus]
      rintro rfl
      exact absurd hop (by simp [besideClaims])
    show weight now _ ≤ weight now r
    unfold weight RefundDbRow.counted
    cases r.firstBroadcastAt with
    | none => exact le_refl _
    | some t => simp [hheld]

/-- The sum's own term for a row is its weight. -/
theorem sum_term_eq_weight (now : ℕ) (l : Ledger) (id : ChannelId) :
    (l.refunds.lookup id).elim 0 (fun r => if r.1.counted now then r.1.amountAtomic.toNat else 0) =
      (refundRow l id).elim 0 (weight now) := by
  rw [refundRow]
  cases l.refunds.lookup id with
  | none => rfl
  | some rf => rfl

/-- Beside the claims, no operation makes a row weigh more. -/
theorem broadcast24h_operate_le {now : ℕ} {fault : Fault} {op : LedgerOp}
    (hop : besideClaims op = true) (l : Ledger) :
    broadcast24h now (ledgerStep l (fault, op)) ≤ broadcast24h now l := by
  refine Table.sumBy_le_of_lookup fun id => ?_
  rw [sum_term_eq_weight, sum_term_eq_weight]
  exact weight_le_of_move hop (ledgerStep_entryMove fault op l id)

/-- Writing a row adds at most its amount. -/
theorem broadcast24h_insert_le {now : ℕ} {l : Ledger} {id : ChannelId} {rf : Refund}
    (image : Refund) (h : l.refunds.lookup id = some rf) :
    broadcast24h now { l with refunds := l.refunds.insert id image } ≤
      broadcast24h now l + image.1.amountAtomic.toNat := by
  have hsum := Table.sumBy_insert_of_lookup
    (fun _ (r : Refund) => if r.1.counted now then r.1.amountAtomic.toNat else 0) image h
  have himage : (if image.1.counted now then image.1.amountAtomic.toNat else 0) ≤
      image.1.amountAtomic.toNat := weight_le_amount now image.1
  show Table.sumBy _ (l.refunds.insert id image) ≤ Table.sumBy _ l.refunds + _
  omega

/-- A claim the cap does not refuse fits under it. -/
theorem sum_le_of_admitted {now cap : ℕ} {l : Ledger} {claim : RefundClaim}
    (h : capExceeded now l claim = .ok false) (hcap : claim.dailyCapAtomic = some cap)
    (hamount : claim.amountAtomic ≤ i64Max) :
    broadcast24h now l + claim.amountAtomic ≤ cap := by
  unfold capExceeded at h
  rw [hcap] at h
  simp only at h
  by_cases hrange : broadcast24h now l ≤ i64Max
  · rw [if_pos hrange] at h
    have hle : ¬ cap < min u64Max (broadcast24h now l + claim.amountAtomic) := by
      simpa using Except.ok.inj h
    -- two amounts of the `i64` range do not saturate a `u64`
    have hsat : broadcast24h now l + claim.amountAtomic ≤ u64Max := by
      unfold i64Max at hrange hamount
      unfold u64Max
      omega
    rw [Nat.min_eq_right hsat] at hle
    omega
  · rw [if_neg hrange] at h
    exact absurd h (by simp)

/-! ## The invariant -/

/-- The claim is one for a row of the ledger, at its amount, under the cap, made in the past. -/
structure Priced (cap : ℕ) (s : ClaimSystem) (now : ℕ) (claim : RefundClaim) : Prop where
  past : now ≤ s.clock
  capped : claim.dailyCapAtomic = some cap
  owed : ∃ terms, obligation s.ledger claim.channelId = some ((claim.amountAtomic : ℤ), terms)

/-- There is room for the claim, by its own `NOW()`. -/
def Room (cap : ℕ) (s : ClaimSystem) (now : ℕ) (claim : RefundClaim) : Prop :=
  broadcast24h now s.ledger + claim.amountAtomic ≤ cap

/-- What a claim knows at each stage. -/
def ClaimStage.Sound (cap : ℕ) (s : ClaimSystem) : ClaimStage → Prop
  | .fetched row => ∃ terms,
      obligation s.ledger row.channelId = some ((row.amountAtomic : ℤ), terms)
  | .started now claim => Priced cap s now claim
  | .locked now claim => Priced cap s now claim
  | .admitted now claim => Priced cap s now claim ∧ Room cap s now claim
  | .updated now claim image => Priced cap s now claim ∧ Room cap s now claim ∧
      ∃ r height, refundRow s.ledger claim.channelId = some r ∧ r.status = .reserved ∧
        image.1 = r.claimed now claim height

/-- The stages between the advisory lock and the end of the transaction. -/
def ClaimStage.holdsLock : ClaimStage → Bool
  | .fetched _ => false
  | .started _ _ => false
  | _ => true

structure CapInv (cap : ℕ) (s : ClaimSystem) : Prop where
  window : broadcast24h s.clock s.ledger ≤ cap
  fresh : ∀ id r, refundRow s.ledger id = some r → r.status = .reserved →
    r.firstBroadcastAt = none
  sound : Table.All (ClaimStage.Sound cap s) s.txns
  exclusive : ∀ w st, s.txns.lookup w = some st → st.holdsLock = true → s.lock = some w

variable {cap : ℕ} {s : ClaimSystem}

/-- A priced claim fits the column. -/
theorem Priced.amount_le {now : ℕ} {claim : RefundClaim} (h : Priced cap s now claim) :
    claim.amountAtomic ≤ i64Max := by
  obtain ⟨terms, ho⟩ := h.owed
  unfold obligation at ho
  obtain ⟨rf, -, hterms⟩ := Option.map_eq_some_iff.1 ho
  have hamount : rf.1.amountAtomic = claim.amountAtomic := congrArg Prod.fst hterms
  have hrange : rf.1.amountAtomic ≤ 2 ^ 63 - 1 := rf.2.2.2
  unfold i64Max
  omega

/-- A stage without the lock only looks at obligations and the clock. -/
theorem ClaimStage.Sound.of_obligations {s' : ClaimSystem} {st : ClaimStage}
    (h : st.Sound cap s) (hst : st.holdsLock = false) (hclock : s.clock ≤ s'.clock)
    (hkept : ∀ id o, obligation s.ledger id = some o → obligation s'.ledger id = some o) :
    st.Sound cap s' := by
  cases st with
  | fetched row =>
    obtain ⟨terms, ho⟩ := h
    exact ⟨terms, hkept _ _ ho⟩
  | started now claim =>
    obtain ⟨terms, ho⟩ := h.owed
    exact ⟨h.past.trans hclock, h.capped, terms, hkept _ _ ho⟩
  | locked => exact absurd hst (by simp [ClaimStage.holdsLock])
  | admitted => exact absurd hst (by simp [ClaimStage.holdsLock])
  | updated => exact absurd hst (by simp [ClaimStage.holdsLock])

/-! ## The steps of a claim -/

/-- Soundness does not look at the claims or at the lock. -/
theorem ClaimStage.Sound.congr {s' : ClaimSystem} {st : ClaimStage} (h : st.Sound cap s)
    (hl : s'.ledger = s.ledger) (hc : s'.clock = s.clock) : st.Sound cap s' := by
  obtain ⟨ledger, clock, lock, txns⟩ := s
  obtain ⟨ledger', clock', lock', txns'⟩ := s'
  obtain rfl : ledger' = ledger := hl
  obtain rfl : clock' = clock := hc
  cases st with
  | fetched row => exact h
  | started now claim => exact ⟨h.1, h.2, h.3⟩
  | locked now claim => exact ⟨h.1, h.2, h.3⟩
  | admitted now claim => exact ⟨⟨h.1.1, h.1.2, h.1.3⟩, h.2⟩
  | updated now claim image => exact ⟨⟨h.1.1, h.1.2, h.1.3⟩, h.2.1, h.2.2⟩

/-- A transaction that ends leaves the rows alone. -/
theorem CapInv.endTxn (hinv : CapInv cap s) (w : ℕ) : CapInv cap (s.endTxn w) := by
  refine ⟨hinv.window, hinv.fresh, ?_, ?_⟩
  · exact (hinv.sound.erase w).imp fun st h => h.congr rfl rfl
  · intro w' st hw' hholds
    rw [show (s.endTxn w).txns = s.txns.erase w from rfl, Table.lookup_erase_eq] at hw'
    by_cases hid : w' = w
    · rw [if_pos hid] at hw'
      exact absurd hw' (by simp)
    · rw [if_neg hid] at hw'
      have hlock := hinv.exclusive w' st hw' hholds
      show (if s.lock = some w then none else s.lock) = some w'
      rw [hlock, if_neg (by simpa using hid)]

/-- A claim that goes on keeps the invariant, if it is sound where it gets to and holds the lock
where it must. -/
theorem CapInv.goOn (hinv : CapInv cap s) {w : ℕ} {st : ClaimStage} (hsound : st.Sound cap s)
    (hlock : st.holdsLock = true → s.lock = some w) : CapInv cap (s.goOn w st) := by
  refine ⟨hinv.window, hinv.fresh, ?_, ?_⟩
  · exact (hinv.sound.insert w hsound).imp fun st h => h.congr rfl rfl
  · intro w' st' hw' hholds
    rw [show (s.goOn w st).txns = s.txns.insert w st from rfl, Table.lookup_insert_eq] at hw'
    by_cases hid : w' = w
    · rw [if_pos hid] at hw'
      obtain rfl := Option.some.inj hw'
      rw [hid]
      exact hlock hholds
    · rw [if_neg hid] at hw'
      exact hinv.exclusive w' st' hw' hholds

/-- A fetch only reads. -/
theorem CapInv.fetchReserved (hinv : CapInv cap s) (w : ℕ) (id : ChannelId) :
    CapInv cap (fetchReserved s w id) := by
  unfold RefundWorker.fetchReserved
  cases s.txns.lookup w with
  | some st => exact hinv
  | none =>
    cases hl : s.ledger.refunds.lookup id with
    | none => exact hinv
    | some rf =>
      simp only
      cases hrow : fetchRow id rf.1 with
      | error e => exact hinv
      | ok row =>
        cases rf.1.status with
        | reserved =>
          obtain ⟨rfl, hterms, -⟩ := fetchRow_ok hrow
          refine hinv.goOn ⟨(row.destinationWallet, row.mint), ?_⟩ (by simp [ClaimStage.holdsLock])
          rw [obligation_of_refundRow (refundRow_of_lookup hl), hterms]
        | _ => exact hinv

variable {config : WorkerConfig}

/-- Nothing is written when the transaction begins. -/
theorem CapInv.beginStep (hinv : CapInv cap s) (hcap : config.dailyCapAtomic = some cap)
    {w : ℕ} {st : ClaimStage} (hw : s.txns.lookup w = some st) (tx : SignedUsdcTransfer)
    (height : ℕ) : CapInv cap (beginStep config s w tx height st) := by
  cases st with
  | fetched row =>
    obtain ⟨terms, ho⟩ := hinv.sound w _ hw
    exact hinv.goOn ⟨le_refl _, hcap, terms, ho⟩ (by simp [ClaimStage.holdsLock])
  | _ => exact hinv

/-- The lock admits one transaction to the sum. -/
theorem CapInv.lockStep (hinv : CapInv cap s) {w : ℕ} {st : ClaimStage}
    (hw : s.txns.lookup w = some st) : CapInv cap (lockStep s w st) := by
  cases st with
  | started now claim =>
    show CapInv cap (if s.lock = none then _ else s)
    by_cases hfree : s.lock = none
    · rw [if_pos hfree]
      have hpriced : Priced cap s now claim := hinv.sound w _ hw
      have hlocked : (ClaimStage.locked now claim).Sound cap s := hpriced
      refine ⟨hinv.window, hinv.fresh, ?_, ?_⟩
      · exact (hinv.sound.insert w hlocked).imp fun st h => h.congr rfl rfl
      · -- nobody else is between the lock and the end, or the lock would not be free
        intro w' st' hw' hholds
        change (s.txns.insert w _).lookup w' = some st' at hw'
        rw [Table.lookup_insert_eq] at hw'
        by_cases hid : w' = w
        · exact congrArg some hid.symm
        · rw [if_neg hid] at hw'
          have hlock := hinv.exclusive w' st' hw' hholds
          rw [hfree] at hlock
          exact absurd hlock (by simp)
    · rw [if_neg hfree]
      exact hinv
  | _ => exact hinv

/-- What passed the sum fits under the cap until the lock is released. -/
theorem CapInv.sumStep (hinv : CapInv cap s) {w : ℕ} {st : ClaimStage}
    (hw : s.txns.lookup w = some st) : CapInv cap (sumStep s w st) := by
  cases st with
  | locked now claim =>
    have hpriced : Priced cap s now claim := hinv.sound w _ hw
    have hlock := hinv.exclusive w _ hw rfl
    simp only [RefundWorker.sumStep]
    cases hres : capExceeded now s.ledger claim with
    | error e => exact hinv.endTxn w
    | ok refused =>
      cases refused with
      | true => exact hinv.endTxn w
      | false =>
        have hroom : Room cap s now claim :=
          sum_le_of_admitted hres hpriced.capped hpriced.amount_le
        exact hinv.goOn ⟨hpriced, hroom⟩ fun _ => hlock
  | _ => exact hinv

/-- The update prepares the row that the sum made room for. -/
theorem CapInv.updateStep (hinv : CapInv cap s) {w : ℕ} {st : ClaimStage}
    (hw : s.txns.lookup w = some st) : CapInv cap (updateStep s w st) := by
  cases st with
  | admitted now claim =>
    have hsound := hinv.sound w _ hw
    have hlock := hinv.exclusive w _ hw rfl
    simp only [RefundWorker.updateStep]
    cases atomicToI64 claim.lastValidBlockHeight with
    | error e => exact hinv.endTxn w
    | ok height =>
      cases hl : s.ledger.refunds.lookup claim.channelId with
      | none => exact hinv.endTxn w
      | some rf =>
        simp only
        by_cases hstatus : rf.1.status = .reserved
        · rw [if_pos hstatus]
          by_cases hck : (rf.1.claimed now claim height).Check
          · rw [dif_pos hck]
            refine hinv.goOn ⟨hsound.1, hsound.2, ?_⟩ fun _ => hlock
            exact ⟨rf.1, height, refundRow_of_lookup hl, hstatus, rfl⟩
          · rw [dif_neg hck]
            exact hinv.endTxn w
        · rw [if_neg hstatus]
          exact hinv.endTxn w
  | _ => exact hinv

/-- An insertion writes one channel's row. -/
theorem refundRow_insert (l : Ledger) (id : ChannelId) (image : Refund) (id' : ChannelId) :
    refundRow { l with refunds := l.refunds.insert id image } id' =
      if id' = id then some image.1 else refundRow l id' := by
  show ((l.refunds.insert id image).lookup id').map _ = _
  rw [Table.lookup_insert_eq]
  by_cases hid : id' = id
  · rw [if_pos hid, if_pos hid]
    rfl
  · rw [if_neg hid, if_neg hid]
    rfl

/-- The commit is the one step that adds to the window, and it adds what its own sum had left
room for. -/
theorem CapInv.commitStep (hinv : CapInv cap s) {w : ℕ} {st : ClaimStage}
    (hw : s.txns.lookup w = some st) : CapInv cap (commitStep s w st) := by
  cases st with
  | updated now claim image =>
    obtain ⟨hpriced, hroom, r, height, hr, hstatus, himage⟩ := hinv.sound w _ hw
    have hlock := hinv.exclusive w _ hw rfl
    obtain ⟨terms, ho⟩ := hpriced.owed
    have hterms : frozenTerms r = ((claim.amountAtomic : ℤ), terms) :=
      Option.some.inj ((obligation_of_refundRow hr).symm.trans ho)
    have hfrozen : frozenTerms image.1 = frozenTerms r := by
      rw [himage]
      rfl
    have hended := hinv.endTxn w
    refine ⟨?_, ?_, ?_, hended.exclusive⟩
    · have hamount : image.1.amountAtomic.toNat = claim.amountAtomic := by
        have hfst : image.1.amountAtomic = claim.amountAtomic :=
          congrArg Prod.fst (hfrozen.trans hterms)
        omega
      obtain ⟨rf, hrf, -⟩ := Option.map_eq_some_iff.1 hr
      calc broadcast24h s.clock _
          ≤ broadcast24h s.clock s.ledger + image.1.amountAtomic.toNat :=
            broadcast24h_insert_le image hrf
        _ ≤ broadcast24h now s.ledger + claim.amountAtomic := by
            rw [hamount]
            exact Nat.add_le_add_right (broadcast24h_anti hpriced.past s.ledger) _
        _ ≤ cap := hroom
    · intro id r' hr' hreserved
      change refundRow { s.ledger with refunds := _ } id = some r' at hr'
      rw [refundRow_insert] at hr'
      by_cases hid : id = claim.channelId
      · rw [if_pos hid] at hr'
        obtain rfl := Option.some.inj hr'
        rw [himage] at hreserved
        exact absurd hreserved (by simp [RefundDbRow.claimed])
      · rw [if_neg hid] at hr'
        exact hinv.fresh id r' hr' hreserved
    · intro w' st' hw'
      have hother : s.txns.lookup w' = some st' ∧ w' ≠ w := by
        change (s.txns.erase w).lookup w' = some st' at hw'
        rw [Table.lookup_erase_eq] at hw'
        by_cases hid : w' = w
        · rw [if_pos hid] at hw'
          exact absurd hw' (by simp)
        · rw [if_neg hid] at hw'
          exact ⟨hw', hid⟩
      -- the lock is this claim's, so no other claim has summed
      have hfree : st'.holdsLock = false := by
        by_contra hholds
        have hlock' := hinv.exclusive w' st' hother.1 (by simpa using hholds)
        rw [hlock] at hlock'
        exact hother.2 (Option.some.inj hlock').symm
      refine (hinv.sound w' st' hother.1).of_obligations hfree (le_refl _) ?_
      intro id o ho
      obtain ⟨r₁, hr₁, rfl⟩ := refundRow_of_obligation ho
      have hrow := refundRow_insert s.ledger claim.channelId image id
      by_cases hid : id = claim.channelId
      · rw [if_pos hid] at hrow
        obtain rfl : r = r₁ := Option.some.inj (hr.symm.trans (hid ▸ hr₁))
        exact (obligation_of_refundRow hrow).trans (congrArg some hfrozen)
      · rw [if_neg hid, hr₁] at hrow
        exact obligation_of_refundRow hrow
  | _ => exact hinv

/-! ## Time and the other operations -/

/-- Time alone lowers what is counted. -/
theorem CapInv.tick (hinv : CapInv cap s) (d : ℕ) :
    CapInv cap { s with clock := s.clock + d } := by
  refine ⟨?_, hinv.fresh, ?_, hinv.exclusive⟩
  · exact (broadcast24h_anti (Nat.le_add_right _ _) s.ledger).trans hinv.window
  · refine hinv.sound.imp fun st h => ?_
    have hlater : ∀ {now claim}, Priced cap s now claim →
        Priced cap { s with clock := s.clock + d } now claim :=
      fun h => ⟨h.past.trans (Nat.le_add_right _ _), h.capped, h.owed⟩
    cases st with
    | fetched row => exact h
    | started now claim => exact hlater h
    | locked now claim => exact hlater h
    | admitted now claim => exact ⟨hlater h.1, h.2⟩
    | updated now claim image => exact ⟨hlater h.1, h.2⟩

/-- A reserved row stays one that was never broadcast. -/
theorem fresh_of_move {id : ChannelId} {op : LedgerOp} {e e' : Entry} {r' : RefundDbRow}
    (hop : besideClaims op = true) (h : EntryMove id op e e') (hr' : e'.refund = some r')
    (hreserved : r'.status = .reserved) :
    r'.firstBroadcastAt = none ∨
      ∃ r, e.refund = some r ∧ r.status = .reserved ∧
        r'.firstBroadcastAt = r.firstBroadcastAt := by
  cases h with
  | kept => exact Or.inr ⟨r', hr', hreserved, rfl⟩
  | created => exact Or.inr ⟨r', hr', hreserved, rfl⟩
  | forced => exact Or.inr ⟨r', hr', hreserved, rfl⟩
  | closed =>
    obtain rfl := Option.some.inj hr'
    exact Or.inl rfl
  | closedAgain => exact Or.inr ⟨r', hr', hreserved, rfl⟩
  | claimed => exact absurd hop (by simp [besideClaims])
  | resigned oldSig newTx newSig height channel r hstatus =>
    obtain rfl := Option.some.inj hr'
    exact Or.inr ⟨r, rfl, hreserved, rfl⟩
  | held =>
    obtain rfl := Option.some.inj hr'
    exact absurd hreserved (by simp)
  | marked now sig channel r =>
    obtain rfl := Option.some.inj hr'
    exact Or.inr ⟨r, rfl, hreserved, rfl⟩
  | confirmed =>
    obtain rfl := Option.some.inj hr'
    exact absurd hreserved (by simp)

/-- A row that an operation does not update stays as it is. -/
theorem refund_kept_of_move {id : ChannelId} {op : LedgerOp} {e e' : Entry} {r : RefundDbRow}
    (hop : besideClaims op = true) (hid : updatesRefund op ≠ some id) (h : EntryMove id op e e')
    (hr : e.refund = some r) : e'.refund = some r := by
  cases h with
  | kept => exact hr
  | created => exact hr
  | forced => exact hr
  | closed => exact absurd hr (by simp)
  | closedAgain => exact hr
  | claimed => exact absurd hop (by simp [besideClaims])
  | _ => exact absurd rfl hid

/-- A transaction that has updated its row holds the lock of the row. -/
theorem rowLocked_of_updated {w now : ℕ} {claim : RefundClaim} {image : Refund}
    (h : s.txns.lookup w = some (.updated now claim image)) :
    s.rowLocked claim.channelId = true := by
  unfold ClaimSystem.rowLocked
  rw [List.any_eq_true]
  exact ⟨⟨w, .updated now claim image⟩, AList.mem_lookup_iff.1 h, by simp⟩

/-- Operations beside the claims keep the invariant. -/
theorem CapInv.operate (hinv : CapInv cap s) (fault : Fault) (op : LedgerOp) :
    CapInv cap (operate s fault op) := by
  unfold RefundWorker.operate
  by_cases hgo : (besideClaims op && !(updatesRefund op).any s.rowLocked) = true
  · rw [if_pos hgo]
    simp only [Bool.and_eq_true, Bool.not_eq_true'] at hgo
    obtain ⟨hop, hunlocked⟩ := hgo
    have hless : ∀ now, broadcast24h now (ledgerStep s.ledger (fault, op)) ≤
        broadcast24h now s.ledger := fun now => broadcast24h_operate_le hop s.ledger
    have hpriced : ∀ {now claim}, Priced cap s now claim →
        Priced cap { s with ledger := ledgerStep s.ledger (fault, op) } now claim := by
      intro now claim h
      obtain ⟨terms, ho⟩ := h.owed
      exact ⟨h.past, h.capped, terms, ledgerStep_obligation ho⟩
    have hroom : ∀ {now claim}, Room cap s now claim →
        Room cap { s with ledger := ledgerStep s.ledger (fault, op) } now claim :=
      fun h => (Nat.add_le_add_right (hless _) _).trans h
    refine ⟨(hless _).trans hinv.window, ?_, ?_, hinv.exclusive⟩
    · intro id r' hr' hreserved
      have hmove := ledgerStep_entryMove fault op s.ledger id
      rcases fresh_of_move hop hmove hr' hreserved with hnone | ⟨r, hr, hres, hsame⟩
      · exact hnone
      · rw [hsame]
        exact hinv.fresh id r hr hres
    · intro w st hw
      have hsound := hinv.sound w st hw
      cases st with
      | fetched row =>
        obtain ⟨terms, ho⟩ := hsound
        exact ⟨terms, ledgerStep_obligation ho⟩
      | started now claim => exact hpriced hsound
      | locked now claim => exact hpriced hsound
      | admitted now claim => exact ⟨hpriced hsound.1, hroom hsound.2⟩
      | updated now claim image =>
        -- the row of an uncommitted update is locked, so the operation is about another one
        obtain ⟨h₁, h₂, r, height, hr, hstatus, himage⟩ := hsound
        have hid : updatesRefund op ≠ some claim.channelId := by
          intro habs
          rw [habs] at hunlocked
          have hlocked : s.rowLocked claim.channelId = true := rowLocked_of_updated hw
          rw [Option.any_some, hlocked] at hunlocked
          exact absurd hunlocked (by decide)
        have hmove := ledgerStep_entryMove fault op s.ledger claim.channelId
        exact ⟨hpriced h₁, hroom h₂, r, height, refund_kept_of_move hop hid hmove hr, hstatus,
          himage⟩
  · rw [if_neg hgo]
    exact hinv

/-- A step of one transaction is the step of its stage. -/
theorem CapInv.onTxn (hinv : CapInv cap s) {w : ℕ} {f : ClaimStage → ClaimSystem}
    (hf : ∀ st, s.txns.lookup w = some st → CapInv cap (f st)) : CapInv cap (s.onTxn w f) := by
  unfold ClaimSystem.onTxn
  cases hw : s.txns.lookup w with
  | none => exact hinv
  | some st => exact hf st hw

/-- What one step preserves, under a configured cap. -/
theorem CapInv.step (hcap : config.dailyCapAtomic = some cap) (hinv : CapInv cap s)
    (a : ClaimLabel) : CapInv cap (claimTxnStep config s a) := by
  cases a with
  | fetch w id => exact hinv.fetchReserved w id
  | «begin» w tx height => exact hinv.onTxn fun st hw => hinv.beginStep hcap hw tx height
  | lock w => exact hinv.onTxn fun st hw => hinv.lockStep hw
  | sum w => exact hinv.onTxn fun st hw => hinv.sumStep hw
  | update w => exact hinv.onTxn fun st hw => hinv.updateStep hw
  | commit w => exact hinv.onTxn fun st hw => hinv.commitStep hw
  | abort w => exact hinv.endTxn w
  | tick d => exact hinv.tick d
  | operate fault op => exact hinv.operate fault op

/-- No row, no transaction. -/
theorem capInv_init : CapInv cap ClaimSystem.init := by
  refine ⟨Nat.zero_le _, ?_, ?_, ?_⟩
  · intro id r hr
    exact absurd hr (by simp [refundRow, ClaimSystem.init, Ledger.empty])
  · intro w st hw
    exact absurd hw (by simp [ClaimSystem.init])
  · intro w st hw
    exact absurd hw (by simp [ClaimSystem.init])

/-! ## The repository's claim -/

/-- A transaction that goes on is found at its new stage. -/
theorem onTxn_goOn (s : ClaimSystem) (w : ℕ) (st : ClaimStage)
    (f : ClaimStage → ClaimSystem) : (s.goOn w st).onTxn w f = f st := by
  unfold ClaimSystem.onTxn ClaimSystem.goOn
  rw [AList.lookup_insert]

/-- A transaction that has ended is not found. -/
theorem onTxn_endTxn (s : ClaimSystem) (w : ℕ) (f : ClaimStage → ClaimSystem) :
    (s.endTxn w).onTxn w f = s.endTxn w := by
  unfold ClaimSystem.onTxn ClaimSystem.endTxn
  rw [AList.lookup_erase]

variable (config) in
/-- The statements of one claim, with nobody in between. -/
def claimStatements (s : ClaimSystem) (w : ℕ) (row : RefundRow) (tx : SignedUsdcTransfer)
    (height : ℕ) : ClaimSystem :=
  run (claimTxnStep config) (s.goOn w (.fetched row))
    [.begin w tx height, .lock w, .sum w, .update w, .commit w]

/-- A claim that does not win leaves the ledger alone. -/
theorem claim_ledger_of_not_won {fault : Fault} {now : ℕ} {claim : RefundClaim} {l : Ledger}
    (h : ∀ l', claimRefundForBroadcast fault now claim l ≠ .ok .won l') :
    stateOf (claimRefundForBroadcast fault now claim l) = l := by
  cases hres : claimRefundForBroadcast fault now claim l with
  | error e l' => exact atomically_error hres
  | ok out l' =>
    rcases claimRefundForBroadcast_ok hres with ⟨-, rfl⟩ | ⟨rfl, -⟩
    · rfl
    · exact absurd hres (h l')

/-- A claim of a reserved row that the cap admits wins. -/
theorem claimRefundForBroadcast_wins {now : ℕ} {claim : RefundClaim} {l : Ledger} {rf : Refund}
    {height : ℤ} (hcap : capExceeded now l claim = .ok false)
    (hheight : atomicToI64 claim.lastValidBlockHeight = .ok height)
    (hfound : l.refunds.lookup claim.channelId = some rf) (hstatus : rf.1.status = .reserved)
    (hck : (rf.1.claimed now claim height).Check) :
    claimRefundForBroadcast none now claim l =
      .ok .won { l with refunds := l.refunds.insert claim.channelId ⟨_, hck⟩ } := by
  refine atomically_ok.2 (bind_ok.2 ⟨(), l, connected_none, ?_⟩)
  refine bind_ok.2 ⟨l, l, get_ok.2 ⟨rfl, rfl⟩, ?_⟩
  refine bind_ok.2 ⟨false, l, ofExcept_ok.2 ⟨hcap, rfl⟩, ?_⟩
  refine bind_ok.2 ⟨(), l, connected_none, ?_⟩
  refine bind_ok.2 ⟨height, l, ofExcept_ok.2 ⟨hheight, rfl⟩, ?_⟩
  have hwrite := updateRefunds_of_match ChannelRefundError.repo hfound
    (p := fun r => decide (r.status = .reserved)) (by simpa using hstatus) hck
  refine bind_ok.2 ⟨1, _, hwrite, ?_⟩
  exact bind_ok.2 ⟨(), _, connected_none, pure_ok.2 ⟨rfl, rfl⟩⟩

/-- What a claim that won had found. -/
theorem claim_won_found {fault : Fault} {now : ℕ} {claim : RefundClaim} {l l' : Ledger}
    (h : claimRefundForBroadcast fault now claim l = .ok .won l') :
    capExceeded now l claim = .ok false ∧
      ∃ rf, atomicToI64 claim.lastValidBlockHeight = .ok (claim.lastValidBlockHeight : ℤ) ∧
        l.refunds.lookup claim.channelId = some rf ∧ rf.1.status = .reserved ∧
        (rf.1.claimed now claim claim.lastValidBlockHeight).Check := by
  rcases claimRefundForBroadcast_ok h with ⟨hlost, -⟩ | ⟨-, hcap, hle, rf, hstatus, hwritten⟩
  · exact absurd rfl hlost
  · obtain ⟨hck, -⟩ := hwritten.written
    exact ⟨hcap, rf, atomicToI64_of_le hle, hwritten.found, hstatus, hck⟩

/-- The statements of a claim end it or write its row, exactly as the repository's function
does. -/
theorem claim_tail_ledger (t : ClaimSystem) (w now : ℕ) (claim : RefundClaim) :
    (claimTxnStep config (claimTxnStep config
      (sumStep (t.goOn w (.locked now claim)) w (.locked now claim)) (.update w))
      (.commit w)).ledger = stateOf (claimRefundForBroadcast none now claim t.ledger) := by
  -- a transaction that has ended takes no further statement
  have hended : ∀ u : ClaimSystem, u.ledger = t.ledger →
      (claimTxnStep config (claimTxnStep config (u.endTxn w) (.update w)) (.commit w)).ledger =
        t.ledger := by
    intro u hu
    have hidle : claimTxnStep config (u.endTxn w) (.update w) = u.endTxn w := onTxn_endTxn u w _
    rw [hidle]
    exact (congrArg ClaimSystem.ledger (onTxn_endTxn u w _)).trans hu
  have hcommitted : ∀ u : ClaimSystem, u.ledger = t.ledger →
      (claimTxnStep config (u.endTxn w) (.commit w)).ledger = t.ledger :=
    fun u hu => (congrArg ClaimSystem.ledger (onTxn_endTxn u w _)).trans hu
  simp only [sumStep]
  have hread : (t.goOn w (.locked now claim)).ledger = t.ledger := rfl
  rw [hread]
  -- the sum is read, then the row is written: each way out is a claim that is not won
  cases hcap : capExceeded now t.ledger claim with
  | error e =>
    rw [hended _ hread, claim_ledger_of_not_won]
    intro l' hwon
    exact absurd (hcap.symm.trans (claim_won_found hwon).1) (by simp)
  | ok refused =>
    cases refused with
    | true =>
      rw [hended _ hread, claim_ledger_of_not_won]
      intro l' hwon
      exact absurd (hcap.symm.trans (claim_won_found hwon).1) (by simp)
    | false =>
      have hupdate : claimTxnStep config ((t.goOn w (.locked now claim)).goOn w
            (.admitted now claim)) (.update w) =
          updateStep ((t.goOn w (.locked now claim)).goOn w (.admitted now claim)) w
            (.admitted now claim) := onTxn_goOn _ w _ _
      simp only [hupdate, updateStep]
      generalize hu : (t.goOn w (.locked now claim)).goOn w (.admitted now claim) = u
      have hsame : u.ledger = t.ledger := by
        rw [← hu]
        rfl
      rw [hsame]
      cases hheight : atomicToI64 claim.lastValidBlockHeight with
      | error e =>
        rw [hcommitted u hsame, claim_ledger_of_not_won]
        intro l' hwon
        obtain ⟨-, rf, hok, -⟩ := claim_won_found hwon
        exact absurd (hheight.symm.trans hok) (by simp)
      | ok height =>
        obtain ⟨-, rfl⟩ := atomicToI64_ok hheight
        cases hfound : t.ledger.refunds.lookup claim.channelId with
        | none =>
          rw [hcommitted u hsame, claim_ledger_of_not_won]
          intro l' hwon
          obtain ⟨-, rf, -, hsome, -⟩ := claim_won_found hwon
          exact absurd (hfound.symm.trans hsome) (by simp)
        | some rf =>
          simp only
          -- the update touches the row only if it is reserved and passes the checks of the table
          have hnot : (¬ rf.1.status = .reserved ∨
              ¬ (rf.1.claimed now claim claim.lastValidBlockHeight).Check) →
              stateOf (claimRefundForBroadcast none now claim t.ledger) = t.ledger := by
            intro hno
            refine claim_ledger_of_not_won fun l' hwon => ?_
            obtain ⟨-, rf', -, hsome, hstatus, hck⟩ := claim_won_found hwon
            obtain rfl : rf = rf' := Option.some.inj (hfound.symm.trans hsome)
            rcases hno with hno | hno
            · exact hno hstatus
            · exact hno hck
          by_cases hstatus : rf.1.status = .reserved
          · rw [if_pos hstatus]
            by_cases hck : (rf.1.claimed now claim claim.lastValidBlockHeight).Check
            · rw [dif_pos hck, claimRefundForBroadcast_wins hcap hheight hfound hstatus hck]
              have hwrite : claimTxnStep config (u.goOn w (.updated now claim ⟨_, hck⟩))
                  (.commit w) = commitStep (u.goOn w (.updated now claim ⟨_, hck⟩)) w
                    (.updated now claim ⟨_, hck⟩) := onTxn_goOn u w _ _
              rw [hwrite, ← hsame]
              rfl
            · rw [dif_neg hck, hcommitted u hsame, hnot (Or.inr hck)]
          · rw [if_neg hstatus, hcommitted u hsame, hnot (Or.inl hstatus)]

/-- A claim that nobody interrupts does to the ledger what `claim_refund_for_broadcast` does. -/
theorem claimStatements_ledger (hfree : s.lock = none) (w : ℕ) (row : RefundRow)
    (tx : SignedUsdcTransfer) (height : ℕ) :
    (claimStatements config s w row tx height).ledger =
      stateOf (claimRefundForBroadcast none s.clock (claimOf config row tx height) s.ledger) := by
  have hbegin : claimTxnStep config (s.goOn w (.fetched row)) (.begin w tx height) =
      (s.goOn w (.fetched row)).goOn w (.started s.clock (claimOf config row tx height)) :=
    onTxn_goOn s w _ _
  generalize claimOf config row tx height = claim at hbegin
  -- begin and lock read nothing
  have hlock : claimTxnStep config ((s.goOn w (.fetched row)).goOn w (.started s.clock claim))
      (.lock w) =
        { (s.goOn w (.fetched row)).goOn w (.started s.clock claim) with lock := some w }.goOn w
          (.locked s.clock claim) :=
    (onTxn_goOn _ w _ _).trans (if_pos hfree)
  unfold claimStatements
  rw [run_cons, run_cons, run_cons, run_cons, run_cons, run_nil, hbegin, hlock]
  rw [show claimTxnStep config _ (.sum w) = _ from onTxn_goOn _ w _ _]
  exact claim_tail_ledger _ w s.clock claim

/-! ## The cap -/

variable (config) in
/-- The system after a run. -/
def claimRun (as : List ClaimLabel) : ClaimSystem :=
  run (claimTxnStep config) ClaimSystem.init as

/-- Under a constant cap, in every state of every interleaving, what is not held and was first
broadcast in the trailing window is within the cap; and a claim that the cap refuses changes no
row: its sum ends it, and the repository's function leaves the whole ledger as it was. -/
theorem refund_daily_cap (recipientWallet : String) (cap : ℕ) (as : List ClaimLabel) :
    broadcast24h (claimRun ⟨recipientWallet, some cap⟩ as).clock
        (claimRun ⟨recipientWallet, some cap⟩ as).ledger ≤ cap ∧
    (∀ w now claim,
      (claimRun ⟨recipientWallet, some cap⟩ as).txns.lookup w = some (.locked now claim) →
      capExceeded now (claimRun ⟨recipientWallet, some cap⟩ as).ledger claim = .ok true →
      (claimRun ⟨recipientWallet, some cap⟩ (as ++ [.sum w])).ledger =
        (claimRun ⟨recipientWallet, some cap⟩ as).ledger ∧
      (claimRun ⟨recipientWallet, some cap⟩ (as ++ [.sum w])).txns.lookup w = none) ∧
    ∀ fault now claim l',
      claimRefundForBroadcast fault now claim (claimRun ⟨recipientWallet, some cap⟩ as).ledger =
        .ok .capExceeded l' →
      l' = (claimRun ⟨recipientWallet, some cap⟩ as).ledger := by
  refine ⟨?_, ?_, ?_⟩
  · have hinv : CapInv cap (claimRun ⟨recipientWallet, some cap⟩ as) :=
      run_invariant (fun s a hinv => hinv.step rfl a) capInv_init as
    exact hinv.window
  · intro w now claim hw hrefused
    rw [show claimRun ⟨recipientWallet, some cap⟩ (as ++ [.sum w]) =
      claimTxnStep _ (claimRun ⟨recipientWallet, some cap⟩ as) (.sum w) from run_append _ _ _ _]
    -- a refused claim ends its transaction and releases the lock
    have hended : claimTxnStep ⟨recipientWallet, some cap⟩
        (claimRun ⟨recipientWallet, some cap⟩ as) (.sum w) =
          (claimRun ⟨recipientWallet, some cap⟩ as).endTxn w := by
      simp only [claimTxnStep, ClaimSystem.onTxn, hw, sumStep, hrefused]
    rw [hended]
    exact ⟨rfl, AList.lookup_erase _ _⟩
  · intro fault now claim l' hres
    rcases claimRefundForBroadcast_ok hres with ⟨-, hsame⟩ | ⟨hwon, -⟩
    · exact hsame.symm
    · exact absurd hwon (by simp)

/-- The refund of 900 units, claimed under a cap of 900 by a transaction that started a minute
before it got the lock. -/
def sampleClaim : List ClaimLabel :=
  [.operate none (.createChannel sampleChannel),
    .operate none (.persistVoucherAndAdvance (sampleDraw 100)),
    .operate none (.closeChannelAndReserveRefund sampleId), .fetch 0 sampleId,
    .begin 0 (sampleCluster.signed sampleSigA) 150, .tick 60000000, .lock 0, .sum 0, .update 0,
    .commit 0]

/-- A claim that fills the cap. -/
theorem refund_daily_cap_reached :
    broadcast24h (claimRun ⟨sampleChannel.provider, some 900⟩ sampleClaim).clock
        (claimRun ⟨sampleChannel.provider, some 900⟩ sampleClaim).ledger ≤ 900 ∧
      broadcast24h (claimRun ⟨sampleChannel.provider, some 900⟩ sampleClaim).clock
        (claimRun ⟨sampleChannel.provider, some 900⟩ sampleClaim).ledger = 900 :=
  ⟨(refund_daily_cap sampleChannel.provider 900 sampleClaim).1, by decide +kernel⟩

end Solvela.RefundWorker
