import Solvela.Ledger.Theorems
import Solvela.Lib.Runs

/-!
# The spend-down invariant of the ledger

Any sequence of repository operations, in any order and with any arguments, each possibly cut
short by a dropped connection or answered by an error although it committed. The run continues
from whatever state an operation leaves, so that an error leaves the ledger unchanged is a
result and not a convention.

Only two operations touch the money columns: a create, which starts a channel at zero, and a
persisted draw, which advances it together with its voucher row. `money_effect` says so once,
and the invariant is preserved by each of the three cases.

`ledgerStep` is one operation and `ledgerInv_step` its step lemma; `callStep` adds the lost
reply, and `ledger_spendDown` is the run theorem.

* `money_effect`, what an operation does to the mark and the vouchers;
* `ledgerInv_step` and `ledgerInv_run`, operations that commit or fail;
* `callStep_eq`, `call_error` and `ledgerInv_calls`, what is left of them by a connection that is
  lost.
-/

namespace Solvela.ChannelLedger

open Solvela.Lib
open Solvela.Lib.Txn

/-- Every operation of the two repositories. -/
inductive LedgerOp
  | createChannel (ch : NewChannel)
  | persistVoucherAndAdvance (v : VoucherRecord)
  | updateSettled (id : ChannelId) (settledAtomic : ℕ)
  | setStatus (id : ChannelId) (status : ChannelStatus)
  | closeChannelAndReserveRefund (id : ChannelId)
  | confirmRefundAndCloseChannel (id : ChannelId) (source : RefundStatus)
  | claimRefundForBroadcast (now : ℕ) (claim : RefundClaim)
  | resignRefund (id : ChannelId) (oldSig : String) (newTx : List UInt8) (newSig : String)
      (height : ℕ)
  | holdRefund (id : ChannelId) (guard : HoldGuard)
  | markBroadcastAccepted (now : ℕ) (id : ChannelId) (sig : String)

/-- The program of an operation. -/
def LedgerOp.program (fault : Fault) : LedgerOp → Db ChannelRefundError Unit
  | .createChannel ch => effect .repo (ChannelLedger.createChannel fault ch)
  | .persistVoucherAndAdvance v =>
    effect .repo (ChannelLedger.persistVoucherAndAdvance fault v)
  | .updateSettled id n => effect .repo (ChannelLedger.updateSettled fault id n)
  | .setStatus id status => effect .repo (ChannelLedger.setStatus fault id status)
  | .closeChannelAndReserveRefund id =>
    effect (fun e => e) (ChannelLedger.closeChannelAndReserveRefund fault id)
  | .confirmRefundAndCloseChannel id source =>
    effect (fun e => e) (ChannelLedger.confirmRefundAndCloseChannel fault id source)
  | .claimRefundForBroadcast now claim =>
    effect (fun e => e) (ChannelLedger.claimRefundForBroadcast fault now claim)
  | .resignRefund id oldSig newTx newSig height =>
    effect (fun e => e) (ChannelLedger.resignRefund fault id oldSig newTx newSig height)
  | .holdRefund id guard => effect (fun e => e) (ChannelLedger.holdRefund fault id guard)
  | .markBroadcastAccepted now id sig =>
    effect (fun e => e) (ChannelLedger.markBroadcastAccepted fault now id sig)

/-- The ledger after an operation, whether or not it succeeded. -/
def ledgerStep (s : Ledger) (c : Fault × LedgerOp) : Ledger := stateOf (c.2.program c.1 s)

/-! ## What an operation can do -/

/-- An operation that fails leaves the ledger exactly as it was. -/
theorem program_error {fault : Fault} {op : LedgerOp} {e : ChannelRefundError} {s s' : Ledger}
    (h : op.program fault s = .error e s') : s = s' := by
  cases op with
  | createChannel ch =>
    obtain ⟨_, h⟩ := effect_error h
    exact createChannel_error h
  -- a transaction rolls back
  | persistVoucherAndAdvance v =>
    obtain ⟨_, h⟩ := effect_error h
    exact (atomically_error h).symm
  -- a single statement either commits or does not
  | updateSettled id n =>
    obtain ⟨_, h⟩ := effect_error h
    exact updateSettled_error h
  | setStatus id status =>
    obtain ⟨_, h⟩ := effect_error h
    exact setStatus_error h
  | closeChannelAndReserveRefund id =>
    obtain ⟨_, h⟩ := effect_error h
    exact (atomically_error h).symm
  | confirmRefundAndCloseChannel id source =>
    obtain ⟨_, h⟩ := effect_error h
    exact (atomically_error h).symm
  | claimRefundForBroadcast now claim =>
    obtain ⟨_, h⟩ := effect_error h
    exact (atomically_error h).symm
  | resignRefund id oldSig newTx newSig height =>
    obtain ⟨_, h⟩ := effect_error h
    exact resignRefund_error h
  | holdRefund id guard =>
    obtain ⟨_, h⟩ := effect_error h
    exact updateRefunds_then_pure_error h
  | markBroadcastAccepted now id sig =>
    obtain ⟨_, h⟩ := effect_error h
    exact updateRefunds_then_pure_error h

/-- The channel's highest accepted cumulative, if the channel exists. -/
def lastOf (s : Ledger) (id : ChannelId) : Option ℤ :=
  (s.channels.lookup id).map fun r => r.1.lastVoucherCumulativeAtomic

/-- What a successful operation does to vouchers and cumulatives. -/
inductive MoneyEffect (op : LedgerOp) (s s' : Ledger) : Prop
  | created (id : ChannelId) (row : Channel) (fresh : s.channels.lookup id = none)
      (zero : row.1.lastVoucherCumulativeAtomic = 0)
      (written : { s with channels := s.channels.insert id row } = s')
  | persisted (v : VoucherRecord) (r : Channel) (isPersist : op = .persistVoucherAndAdvance v)
      (spec : Persisted v r s s')
  | kept (vouchers : s'.vouchers = s.vouchers) (last : ∀ id, lastOf s' id = lastOf s id)

/-- A written channel row is the high-water mark of that channel only. -/
theorem lastOf_insert_eq (s : Ledger) (id : ChannelId) (r : Channel) (id' : ChannelId) :
    lastOf { s with channels := s.channels.insert id r } id' =
      if id' = id then some r.1.lastVoucherCumulativeAtomic else lastOf s id' := by
  simp only [lastOf, Table.lookup_insert_eq]
  by_cases hid : id' = id
  · rw [if_pos hid, if_pos hid]
    rfl
  · rw [if_neg hid, if_neg hid]

/-- Rewriting a row without touching its cumulative. -/
theorem lastOf_insert {s : Ledger} {id : ChannelId} {r r' : Channel}
    (hr : s.channels.lookup id = some r)
    (hlast : r'.1.lastVoucherCumulativeAtomic = r.1.lastVoucherCumulativeAtomic)
    (id' : ChannelId) :
    lastOf { s with channels := s.channels.insert id r' } id' = lastOf s id' := by
  rw [lastOf_insert_eq]
  by_cases hid : id' = id
  · rw [if_pos hid, hid, lastOf, hr, hlast]
    rfl
  · rw [if_neg hid]

/-- A persisted voucher moves its channel to its cumulative. -/
theorem lastOf_of_persisted {v : VoucherRecord} {r : Channel} {s s' : Ledger}
    (h : Persisted v r s s') (id : ChannelId) :
    lastOf s' id = if id = v.channelId then some (v.cumulativeAtomic : ℤ) else lastOf s id := by
  obtain ⟨hck, rfl⟩ := h.written
  exact lastOf_insert_eq s v.channelId ⟨_, hck⟩ id

/-- Writing a refund moves no mark and no voucher. -/
theorem RefundWritten.kept {op : LedgerOp} {id : ChannelId} {rf : Refund}
    {f : RefundDbRow → RefundDbRow} {s s' : Ledger} (h : RefundWritten id rf f s s') :
    MoneyEffect op s s' := by
  obtain ⟨-, -, rfl⟩ := h
  exact .kept rfl fun _ => rfl

/-- What every operation that commits does to the marks and the vouchers. -/
theorem money_effect {fault : Fault} {op : LedgerOp} {u : Unit} {s s' : Ledger}
    (h : op.program fault s = .ok u s') : MoneyEffect op s s' := by
  cases op with
  | createChannel ch =>
    obtain ⟨_, h⟩ := effect_ok h
    obtain ⟨-, hfresh, expiry, hr, rfl⟩ := createChannel_ok h
    exact .created ch.channelId _ hfresh rfl rfl
  | persistVoucherAndAdvance v =>
    obtain ⟨_, h⟩ := effect_ok h
    obtain ⟨r, hspec⟩ := persistVoucherAndAdvance_ok h
    exact .persisted v r rfl hspec
  -- the other updates of a channel keep the mark
  | updateSettled id n =>
    obtain ⟨_, h⟩ := effect_ok h
    obtain ⟨r, hr, hf, rfl⟩ := updateSettled_ok h
    exact .kept rfl (lastOf_insert hr rfl)
  | setStatus id status =>
    obtain ⟨_, h⟩ := effect_ok h
    obtain ⟨r, hr, hf, rfl⟩ := setStatus_ok h
    exact .kept rfl (lastOf_insert hr rfl)
  -- a close writes the status only, and a refund
  | closeChannelAndReserveRefund id =>
    obtain ⟨out, h⟩ := effect_ok h
    obtain ⟨r, rf, hspec⟩ := closeChannelAndReserveRefund_ok h
    refine .kept hspec.vouchers fun id' => ?_
    unfold lastOf
    rw [hspec.channel]
    by_cases hid : id' = id
    · rw [if_pos hid, hid, hspec.found]
      rfl
    · rw [if_neg hid]
  | confirmRefundAndCloseChannel id source =>
    obtain ⟨b, h⟩ := effect_ok h
    rcases confirmRefundAndCloseChannel_ok h with ⟨-, rfl⟩ | ⟨-, rf, hspec⟩
    · exact .kept rfl fun _ => rfl
    · refine .kept hspec.vouchers fun id' => ?_
      unfold lastOf
      rw [hspec.channel]
      by_cases hid : id' = id
      · rw [if_pos hid, hid, Option.map_map]
        rfl
      · rw [if_neg hid]
  -- from here on only refunds are written
  | claimRefundForBroadcast now claim =>
    obtain ⟨out, h⟩ := effect_ok h
    rcases claimRefundForBroadcast_ok h with ⟨-, rfl⟩ | ⟨-, -, -, rf, -, hwritten⟩
    · exact .kept rfl fun _ => rfl
    · exact hwritten.kept
  | resignRefund id oldSig newTx newSig height =>
    obtain ⟨b, h⟩ := effect_ok h
    rcases resignRefund_ok h with ⟨-, rfl⟩ | ⟨-, -, rf, -, -, hwritten⟩
    · exact .kept rfl fun _ => rfl
    · exact hwritten.kept
  | holdRefund id guard =>
    obtain ⟨b, h⟩ := effect_ok h
    rcases holdRefund_ok h with ⟨-, rfl⟩ | ⟨-, rf, -, hwritten⟩
    · exact .kept rfl fun _ => rfl
    · exact hwritten.kept
  | markBroadcastAccepted now id sig =>
    obtain ⟨_, h⟩ := effect_ok h
    rcases markBroadcastAccepted_ok h with rfl | ⟨rf, -, -, hwritten⟩
    · exact .kept rfl fun _ => rfl
    · exact hwritten.kept

/-! ## The invariant -/

/-- The cumulatives of a channel's persisted vouchers, oldest first. -/
def cumulatives (s : Ledger) (id : ChannelId) : List ℤ :=
  (s.vouchers.filter fun v => v.channelId = id).map (·.cumulativeAtomic)

/-- The highest persisted cumulative of a channel, 0 if there is none. -/
def maxCumulative (s : Ledger) (id : ChannelId) : ℤ := (cumulatives s id).foldl max 0

theorem le_foldl_max {c : ℤ} (l : List ℤ) : ∀ a, c ∈ l ∨ c ≤ a → c ≤ l.foldl max a := by
  induction l with
  | nil =>
    rintro a (h | h)
    · exact absurd h (by simp)
    · exact h
  | cons x l ih =>
    rintro a (h | h)
    · rcases List.mem_cons.1 h with rfl | h
      · exact ih _ (Or.inr (le_max_right _ _))
      · exact ih _ (Or.inl h)
    · exact ih _ (Or.inr (h.trans (le_max_left _ _)))

/-- The maximum is an upper bound. -/
theorem le_maxCumulative {s : Ledger} {id : ChannelId} {c : ℤ} (h : c ∈ cumulatives s id) :
    c ≤ maxCumulative s id :=
  le_foldl_max _ 0 (Or.inl h)

/-- The cumulative of a channel is the highest persisted one, no cumulative is persisted
twice, and every voucher belongs to a channel. -/
structure LedgerInv (s : Ledger) : Prop where
  last : ∀ id n, lastOf s id = some n → n = maxCumulative s id
  distinct : ∀ id, (cumulatives s id).Nodup
  owned : ∀ v ∈ s.vouchers, (s.channels.lookup v.channelId).isSome = true

/-- Without rows there is nothing to check. -/
theorem ledgerInv_empty : LedgerInv Ledger.empty := by
  refine ⟨?_, ?_, ?_⟩
  · intro id n h
    simp [lastOf, Ledger.empty] at h
  · intro id
    simp [cumulatives, Ledger.empty]
  · intro v hv
    simp [Ledger.empty] at hv

/-- A channel has a row exactly if it has a mark. -/
theorem lookup_isSome_iff_lastOf {s : Ledger} {id : ChannelId} :
    (s.channels.lookup id).isSome = true ↔ (lastOf s id).isSome = true := by
  simp [lastOf]

/-- The vouchers of a channel are read from the table of vouchers only. -/
theorem cumulatives_congr {s s' : Ledger} (h : s'.vouchers = s.vouchers) (id : ChannelId) :
    cumulatives s' id = cumulatives s id := by
  rw [cumulatives, cumulatives, h]

/-- An operation that touches neither vouchers nor cumulatives. -/
theorem LedgerInv.kept {s s' : Ledger} (h : LedgerInv s) (hv : s'.vouchers = s.vouchers)
    (hl : ∀ id, lastOf s' id = lastOf s id) : LedgerInv s' := by
  refine ⟨?_, ?_, ?_⟩
  · intro id n hn
    rw [hl] at hn
    rw [maxCumulative, cumulatives_congr hv]
    exact h.last id n hn
  · intro id
    rw [cumulatives_congr hv]
    exact h.distinct id
  · intro v hmem
    rw [hv] at hmem
    rw [lookup_isSome_iff_lastOf, hl, ← lookup_isSome_iff_lastOf]
    exact h.owned v hmem

/-- A new channel has no voucher yet. -/
theorem cumulatives_of_fresh {s : Ledger} (h : LedgerInv s) {id : ChannelId}
    (hfresh : s.channels.lookup id = none) : cumulatives s id = [] := by
  unfold cumulatives
  rw [List.map_eq_nil_iff, List.filter_eq_nil_iff]
  intro v hv hid
  have hown := h.owned v hv
  have hvid : v.channelId = id := by simpa using hid
  rw [hvid, hfresh] at hown
  exact absurd hown (by decide)

/-- A new channel starts at zero and without vouchers. -/
theorem LedgerInv.created {s : Ledger} (h : LedgerInv s) {id : ChannelId} {row : Channel}
    (hfresh : s.channels.lookup id = none) (hzero : row.1.lastVoucherCumulativeAtomic = 0) :
    LedgerInv { s with channels := s.channels.insert id row } := by
  refine ⟨?_, h.distinct, ?_⟩
  · intro id' n hn
    simp only [lastOf, Table.lookup_insert_eq] at hn
    show n = maxCumulative s id'
    by_cases hid : id' = id
    · rw [if_pos hid] at hn
      have hn0 : n = 0 := by simpa [hzero] using hn.symm
      rw [hn0, hid, maxCumulative, cumulatives_of_fresh h hfresh]
      rfl
    · rw [if_neg hid] at hn
      exact h.last id' n hn
  · intro v hv
    show ((s.channels.insert id row).lookup v.channelId).isSome = true
    rw [Table.lookup_insert_eq]
    by_cases hid : v.channelId = id
    · rw [if_pos hid]
      rfl
    · rw [if_neg hid]
      exact h.owned v hv

/-- An appended voucher is one of its own channel. -/
theorem cumulatives_append (s : Ledger) (t : Table ChannelId Channel) (v : VoucherDbRow)
    (id : ChannelId) :
    cumulatives { s with channels := t, vouchers := s.vouchers ++ [v] } id =
      cumulatives s id ++ if v.channelId = id then [v.cumulativeAtomic] else [] := by
  by_cases hid : v.channelId = id
  · simp [cumulatives, hid]
  · simp [cumulatives, hid]

/-- A cumulative that the UNIQUE constraint let through is new. -/
theorem not_mem_cumulatives {s : Ledger} {id : ChannelId} {c : ℤ}
    (h : voucherExists s id c = false) : c ∉ cumulatives s id := by
  intro hmem
  simp only [cumulatives, List.mem_map, List.mem_filter, decide_eq_true_eq] at hmem
  obtain ⟨v, ⟨hv, hid⟩, hc⟩ := hmem
  have hexists : voucherExists s id c = true := by
    simp only [voucherExists, List.any_eq_true, Bool.and_eq_true, beq_iff_eq]
    exact ⟨v, hv, hid, hc⟩
  rw [h] at hexists
  exact absurd hexists (by decide)

/-- A persisted voucher is above every earlier one and becomes the mark. -/
theorem LedgerInv.persisted {s s' : Ledger} (h : LedgerInv s) {v : VoucherRecord} {r : Channel}
    (spec : Persisted v r s s') : LedgerInv s' := by
  obtain ⟨hf, rfl⟩ := spec.written
  have hlast : r.1.lastVoucherCumulativeAtomic = maxCumulative s v.channelId :=
    h.last _ _ (by simp [lastOf, spec.found])
  refine ⟨?_, ?_, ?_⟩
  · intro id n hn
    simp only [lastOf, Table.lookup_insert_eq] at hn
    rw [maxCumulative, cumulatives_append, List.foldl_append, v.stored_channelId]
    by_cases hid : id = v.channelId
    · subst hid
      rw [if_pos rfl] at hn
      -- the new cumulative exceeds the old maximum, so it is the new one
      have hn' : (v.cumulativeAtomic : ℤ) = n := by
        simpa [ChannelDbRow.advance] using hn
      have hlt := spec.increases
      rw [hlast, maxCumulative] at hlt
      rw [if_pos rfl, List.foldl_cons, List.foldl_nil]
      rw [v.stored_cumulativeAtomic, max_eq_right hlt.le, hn']
    · rw [if_neg hid] at hn
      rw [if_neg (fun he => hid he.symm), List.foldl_nil]
      exact h.last id n hn
  · intro id
    rw [cumulatives_append, v.stored_channelId]
    by_cases hid : v.channelId = id
    · subst hid
      rw [if_pos rfl]
      refine List.Nodup.append (h.distinct _) (List.nodup_singleton _) ?_
      rw [List.disjoint_singleton]
      exact not_mem_cumulatives spec.unique
    · rw [if_neg hid, List.append_nil]
      exact h.distinct id
  · intro w hw
    show ((s.channels.insert v.channelId _).lookup w.channelId).isSome = true
    rw [Table.lookup_insert_eq]
    by_cases hid : w.channelId = v.channelId
    · rw [if_pos hid]
      rfl
    · rw [if_neg hid]
      rcases List.mem_append.1 hw with hold | hnew
      · exact h.owned w hold
      · rw [List.mem_singleton.1 hnew] at hid
        exact absurd rfl hid

/-- What one committed operation preserves. -/
theorem ledgerInv_step (s : Ledger) (c : Fault × LedgerOp) (h : LedgerInv s) :
    LedgerInv (ledgerStep s c) := by
  unfold ledgerStep
  cases hres : c.2.program c.1 s with
  | error e s' =>
    obtain rfl := program_error hres
    exact h
  | ok u s' =>
    cases money_effect hres with
    | created id row fresh zero written =>
      subst written
      exact h.created fresh zero
    | persisted v r _ spec => exact h.persisted spec
    | kept vouchers last => exact h.kept vouchers last

/-- What a run preserves. -/
theorem ledgerInv_run (ops : List (Fault × LedgerOp)) :
    LedgerInv (run ledgerStep Ledger.empty ops) :=
  run_invariant ledgerInv_step ledgerInv_empty ops

/-! ## Lost replies -/

/-- What the connection does to a call. `cut` is a connection that drops before a statement,
or holds to the end. With `replyLost` the database makes the writes permanent (the COMMIT of
a transaction, the one statement of a function without one) and the connection breaks before
it can say so: `tx.commit().await?` and `execute(pool).await?` then return an error. -/
inductive Connection
  | cut (fault : Fault)
  | replyLost

/-- The statement before which the connection drops. -/
def Connection.fault : Connection → Fault
  | .cut fault => fault
  | .replyLost => none

/-- An operation as its caller sees it. -/
def LedgerOp.call (op : LedgerOp) : Connection → Db ChannelRefundError Unit
  | .cut fault => op.program fault
  | .replyLost => Txn.replyLost (.repo (.db .connection)) (op.program none)

/-- The ledger after a call, whatever the caller was told. -/
def callStep (s : Ledger) (c : Connection × LedgerOp) : Ledger := stateOf (c.2.call c.1 s)

/-- A lost reply reaches no ledger that an acknowledged call would not. -/
theorem callStep_eq (s : Ledger) (c : Connection × LedgerOp) :
    callStep s c = ledgerStep s (c.1.fault, c.2) := by
  obtain ⟨connection, op⟩ := c
  cases connection with
  | cut fault => rfl
  | replyLost => exact stateOf_replyLost _ _ s

/-- A call that returns an error left the ledger as it was, unless its reply was lost: then
the ledger is the one its success leaves. -/
theorem call_error {c : Connection} {op : LedgerOp} {e : ChannelRefundError} {s s' : Ledger}
    (h : op.call c s = .error e s') :
    s' = s ∨ c = .replyLost ∧ op.program none s = .ok () s' := by
  cases c with
  | cut fault => exact Or.inl (program_error h).symm
  | replyLost =>
    rcases replyLost_error h with ⟨u, hok⟩ | herror
    · exact Or.inr ⟨rfl, hok⟩
    · exact Or.inl (program_error herror).symm

/-- A lost connection or reply leaves what a committed operation leaves, or nothing. -/
theorem ledgerInv_call (s : Ledger) (c : Connection × LedgerOp) (h : LedgerInv s) :
    LedgerInv (callStep s c) := by
  rw [callStep_eq]
  exact ledgerInv_step s _ h

/-- What a run of calls preserves. -/
theorem ledgerInv_calls (calls : List (Connection × LedgerOp)) :
    LedgerInv (run callStep Ledger.empty calls) :=
  run_invariant ledgerInv_call ledgerInv_empty calls

/-- In every reachable ledger, for every channel, `0 ≤ realized ≤ last ≤ deposited`, the last
cumulative is the highest persisted one (0 if there is none) and the persisted cumulatives are
distinct. A call that returns an error leaves the whole ledger as it was or, when only the
reply was lost, exactly as the operation's success leaves it; nothing in between. -/
theorem ledger_spendDown (calls : List (Connection × LedgerOp)) :
    (∀ id r, (run callStep Ledger.empty calls).channels.lookup id = some r →
      0 ≤ r.1.realizedAtomic ∧ r.1.realizedAtomic ≤ r.1.lastVoucherCumulativeAtomic ∧
      r.1.lastVoucherCumulativeAtomic ≤ r.1.depositedAtomic ∧
      r.1.lastVoucherCumulativeAtomic =
        maxCumulative (run callStep Ledger.empty calls) id) ∧
    (∀ id, (cumulatives (run callStep Ledger.empty calls) id).Nodup) ∧
    ∀ (c : Connection) (op : LedgerOp) e s',
      op.call c (run callStep Ledger.empty calls) = .error e s' →
        s' = run callStep Ledger.empty calls ∨
        c = .replyLost ∧ op.program none (run callStep Ledger.empty calls) = .ok () s' := by
  have hinv := ledgerInv_calls calls
  refine ⟨?_, hinv.distinct, ?_⟩
  · intro id r hr
    have hck := r.2
    have hnonneg : 0 ≤ r.1.realizedAtomic := hck.settled_nonneg.trans hck.settled_le_realized
    refine ⟨hnonneg, hck.realized_le_cumulative, hck.cumulative_le_deposited, ?_⟩
    exact hinv.last id _ (by simp [lastOf, hr])
  · intro c op e s' herr
    exact call_error herr

/-- A channel of 1000 units. -/
def smallChannel : NewChannel :=
  { channelId := "channel", agentWallet := "agent", sessionKey := "session"
    provider := "gateway", mint := "usdc", depositedAtomic := 1000, expirySlot := none
    fundingTxSig := some "funding" }

/-- A draw on it up to 100 units, of which 40 are realized. -/
def smallDraw (nonce : ℕ) : VoucherRecord :=
  { channelId := "channel", cumulativeAtomic := 100, callCostAtomic := 100
    realizedAdvanceAtomic := 40, expirySlot := 10, nonce := nonce
    requestDigest := Vector.replicate 32 0, signature := Vector.replicate 64 0 }

/-- The channel is opened, though its caller is told of a broken connection; the draw; a draw
that would go back to 100; and a close whose connection drops. -/
def sampleCalls : List (Connection × LedgerOp) :=
  [(.replyLost, .createChannel smallChannel),
    (.cut none, .persistVoucherAndAdvance (smallDraw 1)),
    (.cut none, .persistVoucherAndAdvance (smallDraw 2)),
    (.cut (some 3), .closeChannelAndReserveRefund "channel")]

/-- Two draws, one of them with its reply lost. -/
theorem ledger_spendDown_sample :
    (∃ r, (run callStep Ledger.empty sampleCalls).channels.lookup "channel" = some r ∧
      r.1.status = .open ∧ r.1.realizedAtomic = 40 ∧
      r.1.lastVoucherCumulativeAtomic = 100 ∧
      maxCumulative (run callStep Ledger.empty sampleCalls) "channel" = 100) ∧
    (cumulatives (run callStep Ledger.empty sampleCalls) "channel").Nodup := by
  have hspend := ledger_spendDown sampleCalls
  have hrow : ∃ r, (run callStep Ledger.empty sampleCalls).channels.lookup "channel" = some r ∧
      r.1.status = .open ∧ r.1.realizedAtomic = 40 ∧ r.1.lastVoucherCumulativeAtomic = 100 :=
    ⟨_, rfl, by decide, by decide, by decide⟩
  obtain ⟨r, hr, hopen, hrealized, hlast⟩ := hrow
  have hmax := (hspend.1 "channel" r hr).2.2.2
  exact ⟨⟨r, hr, hopen, hrealized, hlast, by rw [← hmax, hlast]⟩, hspend.2.1 "channel"⟩

/-- The draw commits and its caller gets an error: the channel has moved from 0 to 100 and
holds the voucher. The same on a close: the refund is reserved. -/
theorem error_after_commit :
    let s := run callStep Ledger.empty [(.cut none, .createChannel smallChannel)]
    (∃ e s', (LedgerOp.persistVoucherAndAdvance (smallDraw 1)).call .replyLost s = .error e s' ∧
      lastOf s "channel" = some 0 ∧ lastOf s' "channel" = some 100 ∧
      s.vouchers.length = 0 ∧ s'.vouchers.length = 1) ∧
    ∃ e s', (LedgerOp.closeChannelAndReserveRefund "channel").call .replyLost s = .error e s' ∧
      (s.refunds.lookup "channel").isSome = false ∧
      (s'.refunds.lookup "channel").isSome = true :=
  ⟨⟨_, _, rfl, by decide, by decide, by decide, by decide⟩, _, _, rfl, by decide, by decide⟩

end Solvela.ChannelLedger
