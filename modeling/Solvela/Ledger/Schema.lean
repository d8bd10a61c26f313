import Solvela.Lib.Sql
import Solvela.Lib.Txn

/-!
# The channel ledger's tables

The three tables of migrations 015 to 018 and the conversions at their boundary: `channels`,
`channel_vouchers` and `channel_refunds`. A `BIGINT` column is an integer in the `i64` range;
every Rust amount is a `u64`, kept as a natural number.

Columns that no modelled query reads (`created_at`, `updated_at`, `challenge_deadline_slot`,
the voucher's own id) are left out.
-/

namespace Solvela.ChannelLedger

open Solvela.Lib
open Solvela.Lib.Txn

/-- `i64::MAX`. -/
def i64Max : ℕ := 2 ^ 63 - 1

/-- `u64::MAX`. -/
def u64Max : ℕ := 2 ^ 64 - 1

/-- The primary key of a channel: base58 text. -/
abbrev ChannelId := String

/-- The value fits a `BIGINT` column. -/
def IsBigint (v : ℤ) : Prop := -(2 ^ 63) ≤ v ∧ v ≤ 2 ^ 63 - 1

instance (v : ℤ) : Decidable (IsBigint v) := inferInstanceAs (Decidable (_ ∧ _))

/-! ## Channels -/

/-- `ChannelStatus`, the three values of the status CHECK. -/
inductive ChannelStatus
  | open
  | closing
  | closed
deriving DecidableEq

/-- A row of `channels`. -/
structure ChannelDbRow where
  agentWallet : String
  sessionKey : String
  provider : String
  mint : String
  depositedAtomic : ℤ
  settledAtomic : ℤ
  realizedAtomic : ℤ
  lastVoucherCumulativeAtomic : ℤ
  expirySlot : Option ℤ
  status : ChannelStatus
  fundingTxSig : Option String
deriving DecidableEq

/-- The CHECK constraints of `channels` (migrations 015 and 017), with the range of its
`BIGINT` columns: all amounts lie between 0 and `deposited_atomic`, so one bound does for
all of them. -/
structure ChannelDbRow.Check (r : ChannelDbRow) : Prop where
  deposited : IsBigint r.depositedAtomic
  expiry : ∀ e ∈ r.expirySlot, IsBigint e
  settled_nonneg : 0 ≤ r.settledAtomic
  settled_le_cumulative : r.settledAtomic ≤ r.lastVoucherCumulativeAtomic
  cumulative_le_deposited : r.lastVoucherCumulativeAtomic ≤ r.depositedAtomic
  settled_le_realized : r.settledAtomic ≤ r.realizedAtomic
  realized_le_cumulative : r.realizedAtomic ≤ r.lastVoucherCumulativeAtomic

instance (r : ChannelDbRow) : Decidable r.Check :=
  decidable_of_iff
    (IsBigint r.depositedAtomic ∧ (∀ e ∈ r.expirySlot, IsBigint e) ∧ 0 ≤ r.settledAtomic ∧
      r.settledAtomic ≤ r.lastVoucherCumulativeAtomic ∧
      r.lastVoucherCumulativeAtomic ≤ r.depositedAtomic ∧
      r.settledAtomic ≤ r.realizedAtomic ∧ r.realizedAtomic ≤ r.lastVoucherCumulativeAtomic)
    ⟨fun ⟨h₁, h₂, h₃, h₄, h₅, h₆, h₇⟩ => ⟨h₁, h₂, h₃, h₄, h₅, h₆, h₇⟩,
      fun ⟨h₁, h₂, h₃, h₄, h₅, h₆, h₇⟩ => ⟨h₁, h₂, h₃, h₄, h₅, h₆, h₇⟩⟩

/-- A channel row as the table holds it. -/
abbrev Channel := Stored ChannelDbRow.Check

/-! ## Vouchers -/

/-- A row of `channel_vouchers`. -/
structure VoucherDbRow where
  channelId : ChannelId
  cumulativeAtomic : ℤ
  callCostAtomic : ℤ
  expirySlot : ℤ
  nonce : ℤ
  requestDigest : Vector UInt8 32
  signature : Vector UInt8 64
deriving DecidableEq

/-- The CHECK constraints of `channel_vouchers`. -/
def VoucherDbRow.Check (v : VoucherDbRow) : Prop :=
  0 ≤ v.cumulativeAtomic ∧ 0 ≤ v.callCostAtomic

instance (v : VoucherDbRow) : Decidable v.Check := inferInstanceAs (Decidable (_ ∧ _))

/-! ## Refund reservations -/

/-- `RefundStatus`, the four values of the status CHECK. -/
inductive RefundStatus
  | reserved
  | inFlight
  | confirmed
  | held
deriving DecidableEq

/-- A row of `channel_refunds`. The two timestamps are in microseconds. -/
structure RefundDbRow where
  amountAtomic : ℤ
  destinationWallet : String
  mint : String
  status : RefundStatus
  txSignature : Option String
  signedTx : Option (List UInt8)
  lastValidBlockHeight : Option ℤ
  attempts : ℕ
  firstBroadcastAt : Option ℕ
  broadcastAcceptedAt : Option ℕ
deriving DecidableEq

/-- The CHECK constraint of `channel_refunds`, with the range of its `BIGINT` amount. -/
def RefundDbRow.Check (r : RefundDbRow) : Prop := 0 ≤ r.amountAtomic ∧ IsBigint r.amountAtomic

instance (r : RefundDbRow) : Decidable r.Check := inferInstanceAs (Decidable (_ ∧ _))

/-- A refund row as the table holds it. -/
abbrev Refund := Stored RefundDbRow.Check

/-! ## The ledger -/

/-- The whole ledger. -/
structure Ledger where
  channels : Table ChannelId Channel
  vouchers : List VoucherDbRow
  refunds : Table ChannelId Refund

/-- The ledger after the migrations ran on an empty database. -/
def Ledger.empty : Ledger := ⟨∅, [], ∅⟩

/-- What the database itself can refuse. -/
inductive DbError
  | connection
  | checkViolation
  | uniqueViolation
  | foreignKeyViolation
  | numericOutOfRange
  | rowNotFound
deriving DecidableEq

/-- `ChannelRepoError`. -/
inductive ChannelRepoError
  | db (e : DbError)
  | valueTooLargeForBigint (v : ℕ)
  | negativeStoredAmount (v : ℤ)
  | badChannelId
  | badSessionKey
  | fundingAlreadyUsed
  | channelNotFound
  | refundWouldCollide (role : String)
  | advanceNotApplied
deriving DecidableEq

/-- `ChannelRefundError`. -/
inductive ChannelRefundError
  | repo (e : ChannelRepoError)
  | realizedExceedsDeposited (deposited realized : ℕ)
deriving DecidableEq

/-! ## Conversions -/

/-- `atomic_to_i64`: fails above `i64::MAX`. -/
def atomicToI64 (v : ℕ) : Except ChannelRepoError ℤ :=
  if v ≤ i64Max then .ok v else .error (.valueTooLargeForBigint v)

/-- `i64_to_atomic`: fails on a negative stored value. -/
def i64ToAtomic (v : ℤ) : Except ChannelRepoError ℕ :=
  if 0 ≤ v then .ok v.toNat else .error (.negativeStoredAmount v)

/-- An amount that is stored fits the column. -/
theorem atomicToI64_ok {v : ℕ} {x : ℤ} (h : atomicToI64 v = .ok x) : v ≤ i64Max ∧ x = v := by
  unfold atomicToI64 at h
  by_cases hv : v ≤ i64Max
  · rw [if_pos hv] at h
    exact ⟨hv, (Except.ok.inj h).symm⟩
  · rw [if_neg hv] at h
    exact absurd h (by simp)

/-- An amount that fits is stored as it is. -/
theorem atomicToI64_of_le {v : ℕ} (h : v ≤ i64Max) : atomicToI64 v = .ok (v : ℤ) := by
  rw [atomicToI64, if_pos h]

/-- A column that is read as an amount is that amount. -/
theorem i64ToAtomic_ok {v : ℤ} {n : ℕ} (h : i64ToAtomic v = .ok n) : v = n := by
  unfold i64ToAtomic at h
  by_cases hv : 0 ≤ v
  · rw [if_pos hv] at h
    have hn := Except.ok.inj h
    omega
  · rw [if_neg hv] at h
    exact absurd h (by simp)

/-- Every column that is not negative is read. -/
theorem i64ToAtomic_of_nonneg {v : ℤ} (h : 0 ≤ v) : i64ToAtomic v = .ok v.toNat := by
  rw [i64ToAtomic, if_pos h]

end Solvela.ChannelLedger
