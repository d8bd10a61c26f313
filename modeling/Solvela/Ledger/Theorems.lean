import Solvela.Ledger.Refunds

/-!
# What each ledger operation does

One inversion lemma for each repository function: from a success, the row it found and the
ledger afterwards. The statements touch one table each, so the frame is part of the equation.
-/

namespace Solvela.ChannelLedger

open Solvela.Lib
open Solvela.Lib.Txn

/-! ## Statements -/

section Statements
variable {ε : Type} {toErr : ChannelRepoError → ε}

/-- A connection that holds changes nothing by itself. -/
theorem connected_ok {fault : Fault} {i : ℕ} {u : Unit} {s s' : Ledger}
    (h : connected toErr fault i s = .ok u s') : s = s' :=
  (require_ok.1 h).2

/-- Without a fault every statement is connected. -/
theorem connected_none {i : ℕ} {s : Ledger} : connected toErr none i s = .ok () s := by
  simp [connected, require, pure, EStateM.pure]

/-- An update of a channel touches no row, or the one row that its predicate admits. -/
theorem updateChannels_ok {id : ChannelId} {p : ChannelDbRow → Bool}
    {f : ChannelDbRow → ChannelDbRow} {n : ℕ} {s s' : Ledger}
    (h : updateChannels toErr id p f s = .ok n s') :
    (n = 0 ∧ s = s' ∧ ∀ r, s.channels.lookup id = some r → p r.1 = false) ∨
    (n = 1 ∧ ∃ r, s.channels.lookup id = some r ∧ p r.1 = true ∧
      ∃ hf : (f r.1).Check, { s with channels := s.channels.insert id ⟨f r.1, hf⟩ } = s') :=
  Sql.updateStmt_ok (fun s : Ledger => s.channels) rfl h

variable (toErr) in
/-- It touches a row that is there and admitted. -/
theorem updateChannels_of_match {id : ChannelId} {p : ChannelDbRow → Bool}
    {f : ChannelDbRow → ChannelDbRow} {s : Ledger} {r : Channel}
    (hl : s.channels.lookup id = some r) (hp : p r.1 = true) (hf : (f r.1).Check) :
    updateChannels toErr id p f s =
      .ok 1 { s with channels := s.channels.insert id ⟨f r.1, hf⟩ } := by
  unfold updateChannels Sql.updateStmt
  rw [Sql.updateWhere_of_match hl hp hf]

/-- The same of the refunds. -/
theorem updateRefunds_ok {id : ChannelId} {p : RefundDbRow → Bool}
    {f : RefundDbRow → RefundDbRow} {n : ℕ} {s s' : Ledger}
    (h : updateRefunds toErr id p f s = .ok n s') :
    (n = 0 ∧ s = s' ∧ ∀ r, s.refunds.lookup id = some r → p r.1 = false) ∨
    (n = 1 ∧ ∃ r, s.refunds.lookup id = some r ∧ p r.1 = true ∧
      ∃ hf : (f r.1).Check, { s with refunds := s.refunds.insert id ⟨f r.1, hf⟩ } = s') :=
  Sql.updateStmt_ok (fun s : Ledger => s.refunds) rfl h

variable (toErr) in
/-- The same of the refunds. -/
theorem updateRefunds_of_match {id : ChannelId} {p : RefundDbRow → Bool}
    {f : RefundDbRow → RefundDbRow} {s : Ledger} {r : Refund}
    (hl : s.refunds.lookup id = some r) (hp : p r.1 = true) (hf : (f r.1).Check) :
    updateRefunds toErr id p f s =
      .ok 1 { s with refunds := s.refunds.insert id ⟨f r.1, hf⟩ } := by
  unfold updateRefunds Sql.updateStmt
  rw [Sql.updateWhere_of_match hl hp hf]

end Statements

/-! ## Channels -/

/-- An insertion finds a conflict and writes nothing, or writes a new row. -/
theorem insertChannel_ok {id : ChannelId} {row : ChannelDbRow} {n : ℕ} {s s' : Ledger}
    (h : insertChannel id row s = .ok n s') :
    (n = 0 ∧ s = s') ∨
    (n = 1 ∧ fundingUsed s row.fundingTxSig = false ∧ s.channels.lookup id = none ∧
      ∃ hr : row.Check, { s with channels := s.channels.insert id ⟨row, hr⟩ } = s') := by
  unfold insertChannel at h
  obtain ⟨_, _, hget, h⟩ := bind_ok.1 h
  obtain ⟨rfl, rfl⟩ := get_ok.1 hget
  obtain ⟨_, _, hr, h⟩ := bind_ok.1 h
  obtain ⟨-, rfl⟩ := require_ok.1 hr
  by_cases hused : fundingUsed s row.fundingTxSig = true
  · rw [if_pos hused] at h
    obtain ⟨rfl, rfl⟩ := pure_ok.1 h
    exact Or.inl ⟨rfl, rfl⟩
  · rw [if_neg hused] at h
    obtain ⟨t, _, hopt, h⟩ := bind_ok.1 h
    obtain ⟨hins, rfl⟩ := okOr_ok.1 hopt
    obtain ⟨_, _, hw, h⟩ := bind_ok.1 h
    obtain rfl := modify_ok.1 hw
    obtain ⟨rfl, rfl⟩ := pure_ok.1 h
    obtain ⟨hk, hrow, rfl⟩ := Sql.insertRow_eq_some hins
    exact Or.inr ⟨rfl, Bool.eq_false_iff.2 hused, hk, hrow, rfl⟩

/-- A failed insertion writes nothing. -/
theorem insertChannel_error {id : ChannelId} {row : ChannelDbRow} {e : ChannelRepoError}
    {s s' : Ledger} (h : insertChannel id row s = .error e s') : s = s' := by
  unfold insertChannel at h
  rcases bind_error.1 h with h | ⟨_, _, hget, h⟩
  · exact absurd h (by simp)
  obtain ⟨rfl, rfl⟩ := get_ok.1 hget
  rcases bind_error.1 h with h | ⟨_, _, hr, h⟩
  · exact (require_error h).2
  obtain ⟨-, rfl⟩ := require_ok.1 hr
  by_cases hused : fundingUsed s row.fundingTxSig = true
  · rw [if_pos hused] at h
    exact absurd h (by simp)
  · rw [if_neg hused] at h
    rcases bind_error.1 h with h | ⟨_, _, -, h⟩
    · exact okOr_error h
    rcases bind_error.1 h with h | ⟨_, _, -, h⟩
    · exact absurd h (by simp)
    · exact absurd h (by simp)

/-- The two numbers of a new channel fit their columns. -/
def NewChannel.Fits (ch : NewChannel) : Prop :=
  ch.depositedAtomic ≤ i64Max ∧ ∀ e ∈ ch.expirySlot, e ≤ i64Max

/-- An optional amount that is stored fits the column. -/
theorem mapM_atomicToI64_ok {o : Option ℕ} {x : Option ℤ} (h : o.mapM atomicToI64 = .ok x) :
    ∀ e ∈ o, e ≤ i64Max := by
  cases o with
  | none => simp
  | some n =>
    simp only [Option.mem_def, Option.some.injEq, forall_eq']
    obtain ⟨y, hy, -⟩ := except_bind_ok.1 h
    exact (atomicToI64_ok hy).1

/-- An optional amount that fits is stored. -/
theorem mapM_atomicToI64_of_le {o : Option ℕ} (h : ∀ e ∈ o, e ≤ i64Max) :
    o.mapM atomicToI64 = .ok (o.map (↑)) := by
  cases o with
  | none => rfl
  | some n =>
    have hn : n ≤ i64Max := h n rfl
    refine except_bind_ok.2 ⟨_, atomicToI64_of_le hn, rfl⟩

/-- A channel is created at a fresh id, from an unused funding transaction, with nothing
drawn. -/
theorem createChannel_inserts {fault : Fault} {ch : NewChannel} {u : Unit} {s s' : Ledger}
    (h : createChannel fault ch s = .ok u s') :
    ch.Fits ∧ fundingUsed s ch.fundingTxSig = false ∧ s.channels.lookup ch.channelId = none ∧
      ∃ expiry : Option ℤ, ∃ hr : (ch.row ch.depositedAtomic expiry).Check,
        { s with channels := s.channels.insert ch.channelId ⟨_, hr⟩ } = s' := by
  unfold createChannel at h
  cases hc : refundAccountCollision ch.agentWallet ch.provider ch.mint with
  | some role =>
    simp only [hc] at h
    exact absurd h (by simp)
  | none =>
    simp only [hc] at h
    obtain ⟨deposited, _, hconv, h⟩ := bind_ok.1 h
    obtain ⟨hd, rfl⟩ := ofExcept_ok.1 hconv
    obtain ⟨hfit, rfl⟩ := atomicToI64_ok hd
    obtain ⟨expiry, _, hconv, h⟩ := bind_ok.1 h
    obtain ⟨he, rfl⟩ := ofExcept_ok.1 hconv
    obtain ⟨_, _, hcon, h⟩ := bind_ok.1 h
    obtain rfl := connected_ok hcon
    obtain ⟨rows, _, hins, h⟩ := bind_ok.1 h
    obtain ⟨rfl, rfl⟩ := require_ok.1 h
    rcases insertChannel_ok hins with ⟨habs, -⟩ | ⟨-, hunused, hk, hr, rfl⟩
    · exact absurd habs (by decide)
    · exact ⟨⟨hfit, mapM_atomicToI64_ok he⟩, hunused, hk, expiry, hr, rfl⟩

/-- A created channel has a row that was not there before. -/
theorem createChannel_ok {fault : Fault} {ch : NewChannel} {u : Unit} {s s' : Ledger}
    (h : createChannel fault ch s = .ok u s') :
    ch.Fits ∧ s.channels.lookup ch.channelId = none ∧ ∃ expiry : Option ℤ,
      ∃ hr : (ch.row ch.depositedAtomic expiry).Check,
        { s with channels := s.channels.insert ch.channelId ⟨_, hr⟩ } = s' := by
  obtain ⟨hfits, -, hfresh, hinsert⟩ := createChannel_inserts h
  exact ⟨hfits, hfresh, hinsert⟩

/-- The row of a fitting channel passes the CHECK constraints. -/
theorem NewChannel.Fits.check {ch : NewChannel} (h : ch.Fits) :
    (ch.row ch.depositedAtomic (ch.expirySlot.map (↑))).Check := by
  have hbig : ∀ n : ℕ, n ≤ i64Max → IsBigint (n : ℤ) := by
    intro n hn
    rw [i64Max] at hn
    constructor
    · omega
    · omega
  refine ⟨hbig _ h.1, ?_, le_refl _, le_refl _, Int.natCast_nonneg _, le_refl _, le_refl _⟩
  intro e he
  obtain ⟨n, hn, rfl⟩ := Option.map_eq_some_iff.1 he
  exact hbig n (h.2 n hn)

/-- With the database up, a fitting channel is created at a fresh id from an unused funding
transaction. -/
theorem createChannel_succeeds {ch : NewChannel} {s : Ledger} (hfits : ch.Fits)
    (hc : refundAccountCollision ch.agentWallet ch.provider ch.mint = none)
    (hfresh : s.channels.lookup ch.channelId = none)
    (hunused : fundingUsed s ch.fundingTxSig = false) :
    createChannel none ch s =
      .ok () { s with channels := s.channels.insert ch.channelId ⟨_, hfits.check⟩ } := by
  have hins : insertChannel ch.channelId (ch.row ch.depositedAtomic (ch.expirySlot.map (↑))) s =
      .ok 1 { s with channels := s.channels.insert ch.channelId ⟨_, hfits.check⟩ } := by
    refine bind_ok.2 ⟨_, _, get_ok.2 ⟨rfl, rfl⟩, ?_⟩
    refine bind_ok.2 ⟨(), _, require_ok.2 ⟨hfits.check, rfl⟩, ?_⟩
    rw [show (ch.row _ _).fundingTxSig = ch.fundingTxSig from rfl, hunused,
      if_neg Bool.false_ne_true]
    have hrow := Sql.insertRow_of_check hfits.check hfresh
    refine bind_ok.2 ⟨_, _, okOr_ok.2 ⟨hrow, rfl⟩, ?_⟩
    exact bind_ok.2 ⟨PUnit.unit, _, modify_ok.2 rfl, pure_ok.2 ⟨rfl, rfl⟩⟩
  unfold createChannel
  simp only [hc]
  refine bind_ok.2 ⟨_, _, ofExcept_ok.2 ⟨atomicToI64_of_le hfits.1, rfl⟩, ?_⟩
  refine bind_ok.2 ⟨_, _, ofExcept_ok.2 ⟨mapM_atomicToI64_of_le hfits.2, rfl⟩, ?_⟩
  refine bind_ok.2 ⟨_, _, connected_none, bind_ok.2 ⟨_, _, hins, ?_⟩⟩
  exact require_ok.2 ⟨rfl, rfl⟩

/-- A failed creation writes nothing. -/
theorem createChannel_error {fault : Fault} {ch : NewChannel} {e : ChannelRepoError}
    {s s' : Ledger} (h : createChannel fault ch s = .error e s') : s = s' := by
  unfold createChannel at h
  cases hc : refundAccountCollision ch.agentWallet ch.provider ch.mint with
  | some role =>
    simp only [hc] at h
    exact throw_error h
  | none =>
    simp only [hc] at h
    rcases bind_error.1 h with h | ⟨_, _, hd, h⟩
    · exact ofExcept_error h
    obtain ⟨-, rfl⟩ := ofExcept_ok.1 hd
    rcases bind_error.1 h with h | ⟨_, _, hd, h⟩
    · exact ofExcept_error h
    obtain ⟨-, rfl⟩ := ofExcept_ok.1 hd
    rcases bind_error.1 h with h | ⟨_, _, hcon, h⟩
    · exact (require_error h).2
    obtain rfl := connected_ok hcon
    rcases bind_error.1 h with h | ⟨rows, _, hins, h⟩
    · exact insertChannel_error h
    -- no row was inserted, so the error after the statement finds nothing written
    obtain ⟨hrows, rfl⟩ := require_error h
    rcases insertChannel_ok hins with ⟨-, rfl⟩ | ⟨h1, -⟩
    · rfl
    · exact absurd h1 hrows

/-- A voucher that is inserted is new, and its channel is there. -/
theorem insertVoucher_ok {v : VoucherDbRow} {u : Unit} {s s' : Ledger}
    (h : insertVoucher v s = .ok u s') :
    voucherExists s v.channelId v.cumulativeAtomic = false ∧
      (s.channels.lookup v.channelId).isSome = true ∧
      { s with vouchers := s.vouchers ++ [v] } = s' := by
  unfold insertVoucher at h
  obtain ⟨_, _, hget, h⟩ := bind_ok.1 h
  obtain ⟨rfl, rfl⟩ := get_ok.1 hget
  obtain ⟨_, _, hr, h⟩ := bind_ok.1 h
  obtain ⟨-, rfl⟩ := require_ok.1 hr
  obtain ⟨_, _, hr, h⟩ := bind_ok.1 h
  obtain ⟨hunique, rfl⟩ := require_ok.1 hr
  obtain ⟨_, _, hr, h⟩ := bind_ok.1 h
  obtain ⟨hfk, rfl⟩ := require_ok.1 hr
  exact ⟨hunique, hfk, modify_ok.1 h⟩

/-- The voucher row a record becomes once its five amounts were converted. -/
def VoucherRecord.stored (v : VoucherRecord) : VoucherDbRow :=
  v.row v.cumulativeAtomic v.callCostAtomic v.expirySlot v.nonce

@[simp] theorem VoucherRecord.stored_channelId (v : VoucherRecord) :
    v.stored.channelId = v.channelId := rfl

@[simp] theorem VoucherRecord.stored_cumulativeAtomic (v : VoucherRecord) :
    v.stored.cumulativeAtomic = v.cumulativeAtomic := rfl

@[simp] theorem VoucherRecord.stored_callCostAtomic (v : VoucherRecord) :
    v.stored.callCostAtomic = v.callCostAtomic := rfl

/-- What a committed draw found and wrote. -/
structure Persisted (v : VoucherRecord) (r : Channel) (s s' : Ledger) : Prop where
  found : s.channels.lookup v.channelId = some r
  isOpen : r.1.status = .open
  increases : r.1.lastVoucherCumulativeAtomic < v.cumulativeAtomic
  unique : voucherExists s v.channelId v.cumulativeAtomic = false
  written : ∃ hf : (r.1.advance v.cumulativeAtomic v.realizedAdvanceAtomic).Check,
    { s with
      channels := s.channels.insert v.channelId ⟨_, hf⟩
      vouchers := s.vouchers ++ [v.stored] } = s'

/-- A persist that commits has written what `Persisted` says. -/
theorem persistVoucherAndAdvance_ok {fault : Fault} {v : VoucherRecord} {u : Unit}
    {s s' : Ledger} (h : persistVoucherAndAdvance fault v s = .ok u s') :
    ∃ r, Persisted v r s s' := by
  unfold persistVoucherAndAdvance at h
  -- five conversions that all fit, then two statements on one connection
  obtain ⟨cumulative, _, hconv, h⟩ := bind_ok.1 (atomically_ok.1 h)
  obtain ⟨hv, rfl⟩ := ofExcept_ok.1 hconv
  obtain ⟨-, rfl⟩ := atomicToI64_ok hv
  obtain ⟨callCost, _, hconv, h⟩ := bind_ok.1 h
  obtain ⟨hv, rfl⟩ := ofExcept_ok.1 hconv
  obtain ⟨-, rfl⟩ := atomicToI64_ok hv
  obtain ⟨realizedAdvance, _, hconv, h⟩ := bind_ok.1 h
  obtain ⟨hv, rfl⟩ := ofExcept_ok.1 hconv
  obtain ⟨-, rfl⟩ := atomicToI64_ok hv
  obtain ⟨expiry, _, hconv, h⟩ := bind_ok.1 h
  obtain ⟨hv, rfl⟩ := ofExcept_ok.1 hconv
  obtain ⟨-, rfl⟩ := atomicToI64_ok hv
  obtain ⟨nonce, _, hconv, h⟩ := bind_ok.1 h
  obtain ⟨hv, rfl⟩ := ofExcept_ok.1 hconv
  obtain ⟨-, rfl⟩ := atomicToI64_ok hv
  obtain ⟨_, _, hcon, h⟩ := bind_ok.1 h
  obtain rfl := connected_ok hcon
  obtain ⟨_, _, hins, h⟩ := bind_ok.1 h
  obtain ⟨hunique, -, rfl⟩ := insertVoucher_ok hins
  obtain ⟨_, _, hcon, h⟩ := bind_ok.1 h
  obtain rfl := connected_ok hcon
  obtain ⟨rows, _, hupd, h⟩ := bind_ok.1 h
  obtain ⟨_, _, hr, h⟩ := bind_ok.1 h
  obtain ⟨rfl, rfl⟩ := require_ok.1 hr
  obtain rfl := connected_ok h
  -- the update has to find its row
  rcases updateChannels_ok hupd with ⟨habs, -⟩ | ⟨-, r, hfound, hp, hf, rfl⟩
  · exact absurd habs (by decide)
  · simp only [ChannelDbRow.canAdvance, Bool.and_eq_true, decide_eq_true_eq] at hp
    exact ⟨r, hfound, hp.2, hp.1, hunique, hf, rfl⟩

/-- What a persist needs to go through: an open row below the cumulative, a new voucher key,
five amounts that fit, and an advance that keeps the CHECK constraints. -/
structure Persistable (v : VoucherRecord) (r : Channel) (s : Ledger) : Prop where
  found : s.channels.lookup v.channelId = some r
  isOpen : r.1.status = .open
  increases : r.1.lastVoucherCumulativeAtomic < v.cumulativeAtomic
  unique : voucherExists s v.channelId v.cumulativeAtomic = false
  cumulative : v.cumulativeAtomic ≤ i64Max
  callCost : v.callCostAtomic ≤ i64Max
  realized : v.realizedAdvanceAtomic ≤ i64Max
  expiry : v.expirySlot ≤ i64Max
  nonce : v.nonce ≤ i64Max
  check : (r.1.advance v.cumulativeAtomic v.realizedAdvanceAtomic).Check

/-- A new voucher of a channel that is there is inserted. -/
theorem insertVoucher_succeeds {v : VoucherDbRow} {s : Ledger} (hck : v.Check)
    (hunique : voucherExists s v.channelId v.cumulativeAtomic = false)
    (hfk : (s.channels.lookup v.channelId).isSome = true) :
    insertVoucher v s = .ok () { s with vouchers := s.vouchers ++ [v] } := by
  refine bind_ok.2 ⟨_, _, get_ok.2 ⟨rfl, rfl⟩, ?_⟩
  refine bind_ok.2 ⟨(), _, require_ok.2 ⟨hck, rfl⟩, ?_⟩
  refine bind_ok.2 ⟨(), _, require_ok.2 ⟨hunique, rfl⟩, ?_⟩
  exact bind_ok.2 ⟨(), _, require_ok.2 ⟨hfk, rfl⟩, modify_ok.2 rfl⟩

/-- With the database up, a persistable draw is persisted. -/
theorem persistVoucherAndAdvance_succeeds {v : VoucherRecord} {r : Channel} {s : Ledger}
    (h : Persistable v r s) :
    persistVoucherAndAdvance none v s = .ok ()
      { s with
        channels := s.channels.insert v.channelId ⟨_, h.check⟩
        vouchers := s.vouchers ++ [v.stored] } := by
  have hrow : (v.row v.cumulativeAtomic v.callCostAtomic v.expirySlot v.nonce).Check :=
    ⟨Int.natCast_nonneg _, Int.natCast_nonneg _⟩
  have hfk : (s.channels.lookup v.channelId).isSome = true := by
    rw [h.found]
    rfl
  have hcan : r.1.canAdvance v.cumulativeAtomic = true := by
    simp only [ChannelDbRow.canAdvance, Bool.and_eq_true, decide_eq_true_eq]
    exact ⟨h.increases, h.isOpen⟩
  have hins := insertVoucher_succeeds hrow h.unique hfk
  have hupd := updateChannels_of_match id
    (s := { s with vouchers := s.vouchers ++ [v.stored] }) h.found hcan h.check
  refine atomically_ok.2 ?_
  refine bind_ok.2 ⟨_, _, ofExcept_ok.2 ⟨atomicToI64_of_le h.cumulative, rfl⟩, ?_⟩
  refine bind_ok.2 ⟨_, _, ofExcept_ok.2 ⟨atomicToI64_of_le h.callCost, rfl⟩, ?_⟩
  refine bind_ok.2 ⟨_, _, ofExcept_ok.2 ⟨atomicToI64_of_le h.realized, rfl⟩, ?_⟩
  refine bind_ok.2 ⟨_, _, ofExcept_ok.2 ⟨atomicToI64_of_le h.expiry, rfl⟩, ?_⟩
  refine bind_ok.2 ⟨_, _, ofExcept_ok.2 ⟨atomicToI64_of_le h.nonce, rfl⟩, ?_⟩
  refine bind_ok.2 ⟨_, _, connected_none, bind_ok.2 ⟨_, _, hins, ?_⟩⟩
  refine bind_ok.2 ⟨_, _, connected_none, ?_⟩
  refine bind_ok.2 ⟨_, _, hupd, ?_⟩
  exact bind_ok.2 ⟨(), _, require_ok.2 ⟨rfl, rfl⟩, connected_none⟩

/-- The settled amount is written to a row that is there. -/
theorem updateSettled_ok {fault : Fault} {id : ChannelId} {settled : ℕ} {u : Unit}
    {s s' : Ledger} (h : updateSettled fault id settled s = .ok u s') :
    ∃ r, s.channels.lookup id = some r ∧
      ∃ hf : ({ r.1 with settledAtomic := (settled : ℤ) } : ChannelDbRow).Check,
        { s with channels := s.channels.insert id ⟨_, hf⟩ } = s' := by
  unfold updateSettled at h
  obtain ⟨_, _, hconv, h⟩ := bind_ok.1 h
  obtain ⟨hv, rfl⟩ := ofExcept_ok.1 hconv
  obtain ⟨-, rfl⟩ := atomicToI64_ok hv
  obtain ⟨_, _, hcon, h⟩ := bind_ok.1 h
  obtain rfl := connected_ok hcon
  obtain ⟨rows, _, hupd, h⟩ := bind_ok.1 h
  obtain ⟨rfl, rfl⟩ := require_ok.1 h
  rcases updateChannels_ok hupd with ⟨habs, -⟩ | ⟨-, r, hr, -, hf, rfl⟩
  · exact absurd habs (by decide)
  · exact ⟨r, hr, hf, rfl⟩

/-- So is the status. -/
theorem setStatus_ok {fault : Fault} {id : ChannelId} {status : ChannelStatus} {u : Unit}
    {s s' : Ledger} (h : setStatus fault id status s = .ok u s') :
    ∃ r, s.channels.lookup id = some r ∧
      ∃ hf : ({ r.1 with status := status } : ChannelDbRow).Check,
        { s with channels := s.channels.insert id ⟨_, hf⟩ } = s' := by
  unfold setStatus at h
  obtain ⟨_, _, hcon, h⟩ := bind_ok.1 h
  obtain rfl := connected_ok hcon
  obtain ⟨rows, _, hupd, h⟩ := bind_ok.1 h
  obtain ⟨rfl, rfl⟩ := require_ok.1 h
  rcases updateChannels_ok hupd with ⟨habs, -⟩ | ⟨-, r, hr, -, hf, rfl⟩
  · exact absurd habs (by decide)
  · exact ⟨r, hr, hf, rfl⟩

/-- An update that is refused because it matched no row has written nothing. -/
theorem require_updateChannels_error {id : ChannelId} {p : ChannelDbRow → Bool}
    {f : ChannelDbRow → ChannelDbRow} {e e' : ChannelRepoError} {s s' : Ledger}
    (h : (do
      let rows ← updateChannels (fun e => e) id p f
      require (rows = 1) e' : Db ChannelRepoError Unit) s = .error e s') : s = s' := by
  rcases bind_error.1 h with h | ⟨rows, _, hupd, h⟩
  · exact Sql.updateStmt_error h
  obtain ⟨hrows, rfl⟩ := require_error h
  rcases updateChannels_ok hupd with ⟨-, rfl, -⟩ | ⟨h1, -⟩
  · rfl
  · exact absurd h1 hrows

/-- A failed update writes nothing. -/
theorem updateSettled_error {fault : Fault} {id : ChannelId} {settled : ℕ}
    {e : ChannelRepoError} {s s' : Ledger}
    (h : updateSettled fault id settled s = .error e s') : s = s' := by
  unfold updateSettled at h
  rcases bind_error.1 h with h | ⟨_, _, hconv, h⟩
  · exact ofExcept_error h
  obtain ⟨-, rfl⟩ := ofExcept_ok.1 hconv
  rcases bind_error.1 h with h | ⟨_, _, hcon, h⟩
  · exact (require_error h).2
  obtain rfl := connected_ok hcon
  exact require_updateChannels_error h

/-- A failed update writes nothing. -/
theorem setStatus_error {fault : Fault} {id : ChannelId} {status : ChannelStatus}
    {e : ChannelRepoError} {s s' : Ledger}
    (h : setStatus fault id status s = .error e s') : s = s' := by
  unfold setStatus at h
  rcases bind_error.1 h with h | ⟨_, _, hcon, h⟩
  · exact (require_error h).2
  obtain rfl := connected_ok hcon
  exact require_updateChannels_error h

/-! ## Refunds -/

/-- What is refunded is the deposit without what was realized. -/
theorem computeRefundable_ok {deposited realized n : ℕ}
    (h : computeRefundable deposited realized = .ok n) :
    realized ≤ deposited ∧ n = deposited - realized := by
  unfold computeRefundable at h
  by_cases hle : realized ≤ deposited
  · rw [if_pos hle] at h
    exact ⟨hle, (Except.ok.inj h).symm⟩
  · rw [if_neg hle] at h
    exact absurd h (by simp)

/-- A refund is inserted once: a second insertion finds the row. -/
theorem insertRefund_ok {id : ChannelId} {row : RefundDbRow} {u : Unit} {s s' : Ledger}
    (h : insertRefund id row s = .ok u s') :
    (∃ rf, s.refunds.lookup id = some rf ∧ s = s') ∨
    (s.refunds.lookup id = none ∧
      ∃ hr : row.Check, { s with refunds := s.refunds.insert id ⟨row, hr⟩ } = s') := by
  unfold insertRefund at h
  obtain ⟨_, _, hget, h⟩ := bind_ok.1 h
  obtain ⟨rfl, rfl⟩ := get_ok.1 hget
  obtain ⟨_, _, hr, h⟩ := bind_ok.1 h
  obtain ⟨-, rfl⟩ := require_ok.1 hr
  cases hl : s.refunds.lookup id with
  | some rf =>
    simp only [hl] at h
    obtain ⟨-, rfl⟩ := pure_ok.1 h
    exact Or.inl ⟨rf, rfl, rfl⟩
  | none =>
    simp only [hl] at h
    obtain ⟨_, _, hfk, h⟩ := bind_ok.1 h
    obtain ⟨-, rfl⟩ := require_ok.1 hfk
    obtain ⟨t, _, hopt, h⟩ := bind_ok.1 h
    obtain ⟨hins, rfl⟩ := okOr_ok.1 hopt
    obtain ⟨-, hrow, rfl⟩ := Sql.insertRow_eq_some hins
    exact Or.inr ⟨rfl, hrow, modify_ok.1 h⟩

/-- The status a close leaves behind: an open channel is closing, any other keeps its. -/
def ChannelStatus.afterClose : ChannelStatus → ChannelStatus
  | .open => .closing
  | status => status

/-- The channel row a close leaves behind. -/
def ChannelDbRow.afterClose (r : ChannelDbRow) : ChannelDbRow :=
  { r with status := r.status.afterClose }

/-- A closed row passes the checks of the table. -/
theorem ChannelDbRow.Check.afterClose {r : ChannelDbRow} (h : r.Check) : r.afterClose.Check :=
  ⟨h.1, h.2, h.3, h.4, h.5, h.6, h.7⟩

/-- Only an open row is moved by a close. -/
theorem ChannelDbRow.afterClose_of_not_open {r : ChannelDbRow} (h : r.status ≠ .open) :
    r.afterClose = r := by
  obtain ⟨_, _, _, _, _, _, _, _, _, status, _⟩ := r
  cases status with
  | «open» => exact absurd rfl h
  | closing => rfl
  | closed => rfl

/-- The reservation a close of this row inserts where there is none yet. -/
def ChannelDbRow.reservation (r : ChannelDbRow) : RefundDbRow :=
  ChannelLedger.reservation (r.depositedAtomic - r.realizedAtomic) r.agentWallet r.mint

/-- What a close found and wrote: the flipped channel row, and the reservation unless one was
there. -/
structure Closed (id : ChannelId) (r : Channel) (rf : Refund) (out : CloseOutcome)
    (s s' : Ledger) : Prop where
  found : s.channels.lookup id = some r
  channel : ∀ id', s'.channels.lookup id' =
    if id' = id then some ⟨r.1.afterClose, r.2.afterClose⟩ else s.channels.lookup id'
  vouchers : s'.vouchers = s.vouchers
  refund : (s.refunds.lookup id = some rf ∧ s'.refunds = s.refunds) ∨
    (s.refunds.lookup id = none ∧ rf.1 = r.1.reservation ∧
      s'.refunds = s.refunds.insert id rf)
  refundable : (out.refundableAtomic : ℤ) = r.1.depositedAtomic - r.1.realizedAtomic
  deposited : (out.depositedAtomic : ℤ) = r.1.depositedAtomic
  refundStatus : out.refundStatus = rf.1.status
  txSignature : out.txSignature = rf.1.txSignature

/-- The flip of a close. -/
theorem flip_ok {id : ChannelId} {n : ℕ} {s s' : Ledger} {r : Channel}
    (h : updateChannels .repo id (fun r => decide (r.status = .open))
      ({ · with status := .closing }) s = .ok (ε := ChannelRefundError) n s')
    (hr : s.channels.lookup id = some r) :
    s'.vouchers = s.vouchers ∧ s'.refunds = s.refunds ∧
      ∀ id', s'.channels.lookup id' =
        if id' = id then some ⟨r.1.afterClose, r.2.afterClose⟩ else s.channels.lookup id' := by
  rcases updateChannels_ok h with ⟨-, rfl, hno⟩ | ⟨-, r', hr', hopen, hf, rfl⟩
  · refine ⟨rfl, rfl, ?_⟩
    have hstatus : r.1.status ≠ .open := by simpa using hno r hr
    intro id'
    by_cases hid : id' = id
    · rw [if_pos hid, hid, hr]
      exact congrArg some (Subtype.ext (ChannelDbRow.afterClose_of_not_open hstatus).symm)
    · rw [if_neg hid]
  · obtain rfl : r' = r := Option.some.inj (hr'.symm.trans hr)
    refine ⟨rfl, rfl, ?_⟩
    have hstatus : r'.1.status = .open := by simpa using hopen
    intro id'
    rw [Table.lookup_insert_eq]
    by_cases hid : id' = id
    · rw [if_pos hid, if_pos hid]
      refine congrArg some (Subtype.ext ?_)
      simp [ChannelDbRow.afterClose, ChannelStatus.afterClose, hstatus]
    · rw [if_neg hid, if_neg hid]

/-- A close that commits has written what `Closed` says. -/
theorem closeChannelAndReserveRefund_ok {fault : Fault} {id : ChannelId} {out : CloseOutcome}
    {s s' : Ledger} (h : closeChannelAndReserveRefund fault id s = .ok out s') :
    ∃ r rf, Closed id r rf out s s' := by
  unfold closeChannelAndReserveRefund at h
  obtain ⟨_, _, hcon, h⟩ := bind_ok.1 (atomically_ok.1 h)
  obtain rfl := connected_ok hcon
  obtain ⟨n, s₁, hflip, h⟩ := bind_ok.1 h
  obtain ⟨_, _, hcon, h⟩ := bind_ok.1 h
  obtain rfl := connected_ok hcon
  obtain ⟨_, _, hget, h⟩ := bind_ok.1 h
  obtain ⟨rfl, rfl⟩ := get_ok.1 hget
  obtain ⟨ch, _, hopt, h⟩ := bind_ok.1 h
  obtain ⟨hch, rfl⟩ := okOr_ok.1 hopt
  obtain ⟨deposited, _, hconv, h⟩ := bind_ok.1 h
  obtain ⟨hd, rfl⟩ := ofExcept_ok.1 hconv
  obtain ⟨settled, _, hconv, h⟩ := bind_ok.1 h
  obtain ⟨-, rfl⟩ := ofExcept_ok.1 hconv
  obtain ⟨realized, _, hconv, h⟩ := bind_ok.1 h
  obtain ⟨hrl, rfl⟩ := ofExcept_ok.1 hconv
  obtain ⟨refundable, _, hconv, h⟩ := bind_ok.1 h
  obtain ⟨hrf, rfl⟩ := ofExcept_ok.1 hconv
  obtain ⟨amount, _, hconv, h⟩ := bind_ok.1 h
  obtain ⟨ham, rfl⟩ := ofExcept_ok.1 hconv
  obtain ⟨_, _, hcon, h⟩ := bind_ok.1 h
  obtain rfl := connected_ok hcon
  obtain ⟨_, s₂, hins, h⟩ := bind_ok.1 h
  obtain ⟨_, _, hcon, h⟩ := bind_ok.1 h
  obtain rfl := connected_ok hcon
  obtain ⟨_, _, hget, h⟩ := bind_ok.1 h
  obtain ⟨rfl, rfl⟩ := get_ok.1 hget
  obtain ⟨rf, _, hopt, h⟩ := bind_ok.1 h
  obtain ⟨hrow, rfl⟩ := okOr_ok.1 hopt
  obtain ⟨_, _, hcon, h⟩ := bind_ok.1 h
  obtain rfl := connected_ok hcon
  obtain ⟨rfl, rfl⟩ := pure_ok.1 h
  -- the channel existed before the flip, which keeps every row
  obtain ⟨r, hr⟩ : ∃ r, s.channels.lookup id = some r := by
    rcases updateChannels_ok hflip with ⟨-, rfl, -⟩ | ⟨-, r, hr, -⟩
    · exact ⟨ch, hch⟩
    · exact ⟨r, hr⟩
  obtain ⟨hvou, href, hchan⟩ := flip_ok hflip hr
  obtain rfl : ch = ⟨r.1.afterClose, r.2.afterClose⟩ := by
    rw [hchan id, if_pos rfl] at hch
    exact (Option.some.inj hch).symm
  have hdep := i64ToAtomic_ok hd
  have hreal := i64ToAtomic_ok hrl
  obtain ⟨hle, rfl⟩ := computeRefundable_ok hrf
  obtain ⟨-, rfl⟩ := atomicToI64_ok ham
  have hamount : ((deposited - realized : ℕ) : ℤ) = r.1.depositedAtomic - r.1.realizedAtomic := by
    simp only [ChannelDbRow.afterClose] at hdep hreal
    omega
  refine ⟨r, rf, hr, ?_, ?_, ?_, hamount, ?_, rfl, rfl⟩
  · rcases insertRefund_ok hins with ⟨_, _, rfl⟩ | ⟨_, _, rfl⟩
    · exact hchan
    · exact hchan
  · rcases insertRefund_ok hins with ⟨_, _, rfl⟩ | ⟨_, _, rfl⟩
    · exact hvou
    · exact hvou
  · rcases insertRefund_ok hins with ⟨rf', hrf', rfl⟩ | ⟨hnone, hck, rfl⟩
    · exact Or.inl ⟨href ▸ hrow, href⟩
    · obtain rfl : (⟨_, hck⟩ : Refund) = rf := by
        rw [AList.lookup_insert] at hrow
        exact Option.some.inj hrow
      refine Or.inr ⟨href ▸ hnone, ?_, by rw [← href]⟩
      simp only [ChannelDbRow.reservation, hamount]
      rfl
  · simpa [ChannelDbRow.afterClose] using hdep.symm

/-- The refund of a channel that is there is inserted or found. -/
theorem insertRefund_succeeds {id : ChannelId} {row : RefundDbRow} {s : Ledger}
    (hrow : row.Check) (hch : (s.channels.lookup id).isSome = true) :
    ∃ s' rf, insertRefund id row s = .ok () s' ∧ s'.refunds.lookup id = some rf := by
  cases hl : s.refunds.lookup id with
  | some rf =>
    refine ⟨s, rf, ?_, hl⟩
    refine bind_ok.2 ⟨s, s, get_ok.2 ⟨rfl, rfl⟩, bind_ok.2 ⟨(), s, require_ok.2 ⟨hrow, rfl⟩, ?_⟩⟩
    simp only [hl]
    exact pure_ok.2 ⟨rfl, rfl⟩
  | none =>
    refine ⟨{ s with refunds := s.refunds.insert id ⟨row, hrow⟩ }, ⟨row, hrow⟩, ?_,
      AList.lookup_insert _⟩
    refine bind_ok.2 ⟨s, s, get_ok.2 ⟨rfl, rfl⟩, bind_ok.2 ⟨(), s, require_ok.2 ⟨hrow, rfl⟩, ?_⟩⟩
    simp only [hl]
    refine bind_ok.2 ⟨(), s, require_ok.2 ⟨hch, rfl⟩, ?_⟩
    have hins := Sql.insertRow_of_check hrow hl
    exact bind_ok.2 ⟨_, s, okOr_ok.2 ⟨hins, rfl⟩, modify_ok.2 rfl⟩

/-- With the database up, the close of a channel that exists goes through. -/
theorem closeChannelAndReserveRefund_succeeds {id : ChannelId} {r : Channel} {s : Ledger}
    (hr : s.channels.lookup id = some r) :
    ∃ out s', closeChannelAndReserveRefund none id s = .ok out s' := by
  obtain ⟨n, s₁, hflip⟩ : ∃ n s₁, updateChannels (ε := ChannelRefundError) .repo id
      (fun r => decide (r.status = .open)) ({ · with status := .closing }) s = .ok n s₁ := by
    refine Sql.updateStmt_succeeds fun r' _ _ => ?_
    exact ⟨r'.2.1, r'.2.2, r'.2.3, r'.2.4, r'.2.5, r'.2.6, r'.2.7⟩
  obtain ⟨-, -, hchan⟩ := flip_ok hflip hr
  have hch : s₁.channels.lookup id = some ⟨r.1.afterClose, r.2.afterClose⟩ := by
    rw [hchan id, if_pos rfl]
  -- the CHECK constraints make every conversion of the close succeed
  have hck := r.2
  have hsettled : 0 ≤ r.1.settledAtomic := hck.settled_nonneg
  have hrealized : 0 ≤ r.1.realizedAtomic := hsettled.trans hck.settled_le_realized
  have hle : r.1.realizedAtomic ≤ r.1.depositedAtomic :=
    hck.realized_le_cumulative.trans hck.cumulative_le_deposited
  have hdeposited : r.1.depositedAtomic ≤ 2 ^ 63 - 1 := hck.deposited.2
  have hrefundable : computeRefundable r.1.depositedAtomic.toNat r.1.realizedAtomic.toNat =
      .ok (r.1.depositedAtomic.toNat - r.1.realizedAtomic.toNat) := by
    rw [computeRefundable, if_pos (by omega)]
  have hamount := atomicToI64_of_le
    (v := r.1.depositedAtomic.toNat - r.1.realizedAtomic.toNat) (by rw [i64Max]; omega)
  have hrow : (reservation ((r.1.depositedAtomic.toNat - r.1.realizedAtomic.toNat : ℕ) : ℤ)
      r.1.agentWallet r.1.mint).Check := by
    refine ⟨Int.natCast_nonneg _, ?_, ?_⟩
    · show -(2 ^ 63) ≤ ((r.1.depositedAtomic.toNat - r.1.realizedAtomic.toNat : ℕ) : ℤ)
      omega
    · show ((r.1.depositedAtomic.toNat - r.1.realizedAtomic.toNat : ℕ) : ℤ) ≤ 2 ^ 63 - 1
      omega
  have hsome : (s₁.channels.lookup id).isSome = true := by
    rw [hch]
    rfl
  obtain ⟨s₂, rf, hins, hrf⟩ := insertRefund_succeeds hrow hsome
  let out : CloseOutcome :=
    { channelStatus := r.1.status.afterClose, depositedAtomic := r.1.depositedAtomic.toNat
      settledAtomic := r.1.settledAtomic.toNat
      refundableAtomic := r.1.depositedAtomic.toNat - r.1.realizedAtomic.toNat
      refundStatus := rf.1.status, txSignature := rf.1.txSignature }
  refine ⟨out, s₂, atomically_ok.2 ?_⟩
  refine bind_ok.2 ⟨_, _, connected_none, bind_ok.2 ⟨_, _, hflip, ?_⟩⟩
  refine bind_ok.2 ⟨_, _, connected_none, bind_ok.2 ⟨_, _, get_ok.2 ⟨rfl, rfl⟩, ?_⟩⟩
  refine bind_ok.2 ⟨_, _, okOr_ok.2 ⟨hch, rfl⟩, ?_⟩
  refine bind_ok.2 ⟨_, _, ofExcept_ok.2 ⟨i64ToAtomic_of_nonneg (hrealized.trans hle), rfl⟩, ?_⟩
  refine bind_ok.2 ⟨_, _, ofExcept_ok.2 ⟨i64ToAtomic_of_nonneg hsettled, rfl⟩, ?_⟩
  refine bind_ok.2 ⟨_, _, ofExcept_ok.2 ⟨i64ToAtomic_of_nonneg hrealized, rfl⟩, ?_⟩
  refine bind_ok.2 ⟨_, _, ofExcept_ok.2 ⟨hrefundable, rfl⟩, ?_⟩
  refine bind_ok.2 ⟨_, _, ofExcept_ok.2 ⟨hamount, rfl⟩, ?_⟩
  refine bind_ok.2 ⟨_, _, connected_none, bind_ok.2 ⟨_, _, hins, ?_⟩⟩
  refine bind_ok.2 ⟨_, _, connected_none, bind_ok.2 ⟨_, _, get_ok.2 ⟨rfl, rfl⟩, ?_⟩⟩
  refine bind_ok.2 ⟨_, _, okOr_ok.2 ⟨hrf, rfl⟩, ?_⟩
  exact bind_ok.2 ⟨_, _, connected_none, pure_ok.2 ⟨rfl, rfl⟩⟩

/-- One refund row changed from `rf` by `f`, and nothing else. -/
structure RefundWritten (id : ChannelId) (rf : Refund) (f : RefundDbRow → RefundDbRow)
    (s s' : Ledger) : Prop where
  found : s.refunds.lookup id = some rf
  written : ∃ hf : (f rf.1).Check, { s with refunds := s.refunds.insert id ⟨_, hf⟩ } = s'

/-- The claim wins a reserved row the cap admits, or changes nothing. -/
theorem claimRefundForBroadcast_ok {fault : Fault} {now : ℕ} {claim : RefundClaim}
    {out : ClaimOutcome} {s s' : Ledger}
    (h : claimRefundForBroadcast fault now claim s = .ok out s') :
    (out ≠ .won ∧ s = s') ∨
    (out = .won ∧ capExceeded now s claim = .ok false ∧ claim.lastValidBlockHeight ≤ i64Max ∧
      ∃ rf, rf.1.status = .reserved ∧
        RefundWritten claim.channelId rf (·.claimed now claim claim.lastValidBlockHeight)
          s s') := by
  unfold claimRefundForBroadcast at h
  obtain ⟨_, _, hcon, h⟩ := bind_ok.1 (atomically_ok.1 h)
  obtain rfl := connected_ok hcon
  obtain ⟨_, _, hget, h⟩ := bind_ok.1 h
  obtain ⟨rfl, rfl⟩ := get_ok.1 hget
  obtain ⟨refused, _, hcap, h⟩ := bind_ok.1 h
  obtain ⟨hcapped, rfl⟩ := ofExcept_ok.1 hcap
  cases refused with
  | true =>
    obtain ⟨rfl, rfl⟩ := pure_ok.1 h
    exact Or.inl ⟨by decide, rfl⟩
  | false =>
    obtain ⟨_, _, hcon, h⟩ := bind_ok.1 h
    obtain rfl := connected_ok hcon
    obtain ⟨height, _, hconv, h⟩ := bind_ok.1 h
    obtain ⟨hh, rfl⟩ := ofExcept_ok.1 hconv
    obtain ⟨hle, rfl⟩ := atomicToI64_ok hh
    obtain ⟨rows, _, hupd, h⟩ := bind_ok.1 h
    obtain ⟨_, _, hcon, h⟩ := bind_ok.1 h
    obtain rfl := connected_ok hcon
    obtain ⟨rfl, rfl⟩ := pure_ok.1 h
    -- no row was reserved any more, or this claim has won it
    rcases updateRefunds_ok hupd with ⟨rfl, rfl, -⟩ | ⟨rfl, rf, hfound, hp, hf, rfl⟩
    · exact Or.inl ⟨by decide, rfl⟩
    · exact Or.inr ⟨rfl, hcapped, hle, rf, by simpa using hp, hfound, hf, rfl⟩

/-- The status a confirmation leaves its channel in. -/
def ChannelStatus.afterConfirm : ChannelStatus → ChannelStatus
  | .closing => .closed
  | status => status

/-- The channel row a confirmation leaves behind. -/
def ChannelDbRow.afterConfirm (r : ChannelDbRow) : ChannelDbRow :=
  { r with status := r.status.afterConfirm }

/-- A confirmed row passes the checks of the table. -/
theorem ChannelDbRow.Check.afterConfirm {r : ChannelDbRow} (h : r.Check) :
    r.afterConfirm.Check :=
  ⟨h.1, h.2, h.3, h.4, h.5, h.6, h.7⟩

/-- What a confirmation found and wrote: the refund and its channel together. -/
structure Confirmed (id : ChannelId) (source : RefundStatus) (rf : Refund) (s s' : Ledger) :
    Prop where
  found : s.refunds.lookup id = some rf
  status : rf.1.status = source
  vouchers : s'.vouchers = s.vouchers
  refund : ∃ hf : ({ rf.1 with status := .confirmed } : RefundDbRow).Check,
    s'.refunds = s.refunds.insert id ⟨_, hf⟩
  channel : ∀ id', s'.channels.lookup id' =
    if id' = id then (s.channels.lookup id).map fun r => ⟨r.1.afterConfirm, r.2.afterConfirm⟩
    else s.channels.lookup id'

/-- The channel side of a confirmation. -/
theorem closeConfirmed_ok {id : ChannelId} {n : ℕ} {s s' : Ledger}
    (h : updateChannels .repo id (fun r => decide (r.status = .closing))
      ({ · with status := .closed }) s = .ok (ε := ChannelRefundError) n s') :
    s'.vouchers = s.vouchers ∧ s'.refunds = s.refunds ∧
      ∀ id', s'.channels.lookup id' =
        if id' = id then
          (s.channels.lookup id).map fun r => ⟨r.1.afterConfirm, r.2.afterConfirm⟩
        else s.channels.lookup id' := by
  rcases updateChannels_ok h with ⟨-, rfl, hno⟩ | ⟨-, r, hr, hclosing, hf, rfl⟩
  · refine ⟨rfl, rfl, ?_⟩
    intro id'
    by_cases hid : id' = id
    · subst hid
      rw [if_pos rfl]
      cases hl : s.channels.lookup id' with
      | none => rfl
      | some r =>
        have hstatus : r.1.status ≠ .closing := by simpa using hno r hl
        refine congrArg some (Subtype.ext ?_)
        obtain ⟨⟨_, _, _, _, _, _, _, _, _, status, _⟩, hck⟩ := r
        -- only a closing channel would have been touched
        cases status with
        | «open» => rfl
        | closing => exact absurd rfl hstatus
        | closed => rfl
    · rw [if_neg hid]
  · refine ⟨rfl, rfl, ?_⟩
    have hstatus : r.1.status = .closing := by simpa using hclosing
    intro id'
    rw [Table.lookup_insert_eq]
    by_cases hid : id' = id
    · rw [if_pos hid, if_pos hid, hr]
      refine congrArg some (Subtype.ext ?_)
      simp [ChannelDbRow.afterConfirm, ChannelStatus.afterConfirm, hstatus]
    · rw [if_neg hid, if_neg hid]

/-- A confirmation that commits has written what `Confirmed` says, or nothing. -/
theorem confirmRefundAndCloseChannel_ok {fault : Fault} {id : ChannelId}
    {source : RefundStatus} {b : Bool} {s s' : Ledger}
    (h : confirmRefundAndCloseChannel fault id source s = .ok b s') :
    (b = false ∧ s = s') ∨ (b = true ∧ ∃ rf, Confirmed id source rf s s') := by
  unfold confirmRefundAndCloseChannel at h
  obtain ⟨_, _, hcon, h⟩ := bind_ok.1 (atomically_ok.1 h)
  obtain rfl := connected_ok hcon
  obtain ⟨rows, s₁, hupd, h⟩ := bind_ok.1 h
  rcases updateRefunds_ok hupd with ⟨rfl, rfl, -⟩ | ⟨rfl, rf, hfound, hp, hf, rfl⟩
  · rw [if_neg (by decide)] at h
    obtain ⟨rfl, rfl⟩ := pure_ok.1 h
    exact Or.inl ⟨rfl, rfl⟩
  · rw [if_pos rfl] at h
    obtain ⟨_, _, hcon, h⟩ := bind_ok.1 h
    obtain rfl := connected_ok hcon
    obtain ⟨n, _, hclose, h⟩ := bind_ok.1 h
    obtain ⟨_, _, hcon, h⟩ := bind_ok.1 h
    obtain rfl := connected_ok hcon
    obtain ⟨rfl, rfl⟩ := pure_ok.1 h
    obtain ⟨hvou, href, hchan⟩ := closeConfirmed_ok hclose
    exact Or.inr ⟨rfl, rf, hfound, by simpa using hp, hvou, ⟨hf, href⟩, hchan⟩

/-- A re-sign replaces the payload of the row that still carries the superseded signature. -/
theorem resignRefund_ok {fault : Fault} {id : ChannelId} {oldSig newSig : String}
    {newTx : List UInt8} {height : ℕ} {b : Bool} {s s' : Ledger}
    (h : resignRefund fault id oldSig newTx newSig height s = .ok b s') :
    (b = false ∧ s = s') ∨
    (b = true ∧ height ≤ i64Max ∧ ∃ rf, rf.1.status = .inFlight ∧
      rf.1.txSignature = some oldSig ∧
      RefundWritten id rf (·.resigned newTx newSig height) s s') := by
  unfold resignRefund at h
  obtain ⟨_, _, hconv, h⟩ := bind_ok.1 h
  obtain ⟨hh, rfl⟩ := ofExcept_ok.1 hconv
  obtain ⟨hle, rfl⟩ := atomicToI64_ok hh
  obtain ⟨_, _, hcon, h⟩ := bind_ok.1 h
  obtain rfl := connected_ok hcon
  obtain ⟨rows, _, hupd, h⟩ := bind_ok.1 h
  obtain ⟨rfl, rfl⟩ := pure_ok.1 h
  rcases updateRefunds_ok hupd with ⟨rfl, rfl, -⟩ | ⟨rfl, rf, hfound, hp, hf, rfl⟩
  · exact Or.inl ⟨rfl, rfl⟩
  · simp only [Bool.and_eq_true, decide_eq_true_eq] at hp
    exact Or.inr ⟨rfl, hle, rf, hp.1, hp.2, hfound, hf, rfl⟩

/-- A hold moves exactly a row its guard admits. -/
theorem holdRefund_ok {fault : Fault} {id : ChannelId} {guard : HoldGuard} {b : Bool}
    {s s' : Ledger} (h : holdRefund fault id guard s = .ok b s') :
    (b = false ∧ s = s') ∨
    (b = true ∧ ∃ rf, guard.admits rf.1 = true ∧
      RefundWritten id rf ({ · with status := .held }) s s') := by
  unfold holdRefund at h
  obtain ⟨_, _, hcon, h⟩ := bind_ok.1 h
  obtain rfl := connected_ok hcon
  obtain ⟨rows, _, hupd, h⟩ := bind_ok.1 h
  obtain ⟨rfl, rfl⟩ := pure_ok.1 h
  rcases updateRefunds_ok hupd with ⟨rfl, rfl, -⟩ | ⟨rfl, rf, hfound, hp, hf, rfl⟩
  · exact Or.inl ⟨rfl, rfl⟩
  · exact Or.inr ⟨rfl, rf, hp, hfound, hf, rfl⟩

/-- The stamp is written to the row that carries the signature, or not at all. -/
theorem markBroadcastAccepted_ok {fault : Fault} {now : ℕ} {id : ChannelId} {sig : String}
    {u : Unit} {s s' : Ledger} (h : markBroadcastAccepted fault now id sig s = .ok u s') :
    s = s' ∨ ∃ rf, rf.1.status = .inFlight ∧ rf.1.txSignature = some sig ∧
      RefundWritten id rf ({ · with broadcastAcceptedAt := some now }) s s' := by
  unfold markBroadcastAccepted at h
  obtain ⟨_, _, hcon, h⟩ := bind_ok.1 h
  obtain rfl := connected_ok hcon
  obtain ⟨rows, _, hupd, h⟩ := bind_ok.1 h
  obtain ⟨-, rfl⟩ := pure_ok.1 h
  rcases updateRefunds_ok hupd with ⟨-, rfl, -⟩ | ⟨-, rf, hfound, hp, hf, rfl⟩
  · exact Or.inl rfl
  · simp only [Bool.and_eq_true, decide_eq_true_eq] at hp
    exact Or.inr ⟨rf, hp.1.1, hp.1.2, hfound, hf, rfl⟩

/-- A single guarded statement followed by its verdict fails before it writes. -/
theorem updateRefunds_then_pure_error {α : Type} {fault : Fault} {id : ChannelId}
    {p : RefundDbRow → Bool} {f : RefundDbRow → RefundDbRow} {g : ℕ → α}
    {e : ChannelRefundError} {s s' : Ledger}
    (h : (do
      connected .repo fault 0
      let rows ← updateRefunds .repo id p f
      pure (g rows) : Db ChannelRefundError α) s = .error e s') : s = s' := by
  rcases bind_error.1 h with h | ⟨_, _, hcon, h⟩
  · exact (require_error h).2
  obtain rfl := connected_ok hcon
  rcases bind_error.1 h with h | ⟨_, _, -, h⟩
  · exact Sql.updateStmt_error h
  · exact absurd h (by simp)

/-- A failed second signature writes nothing. -/
theorem resignRefund_error {fault : Fault} {id : ChannelId} {oldSig newSig : String}
    {newTx : List UInt8} {height : ℕ} {e : ChannelRefundError} {s s' : Ledger}
    (h : resignRefund fault id oldSig newTx newSig height s = .error e s') : s = s' := by
  unfold resignRefund at h
  rcases bind_error.1 h with h | ⟨_, _, hconv, h⟩
  · exact ofExcept_error h
  obtain ⟨-, rfl⟩ := ofExcept_ok.1 hconv
  exact updateRefunds_then_pure_error h

end Solvela.ChannelLedger
