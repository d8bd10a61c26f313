import Solvela.Channel.Surfaces

/-!
# The platform fee and its inverse

`apply_platform_fee_atomic` and `split_total_atomic` on machine words: `u64` amounts, a `u8`
percent and `u128` intermediates, which would wrap if they were too large. They never are, so both
compute what `applyPlatformFeeAtomic` and `splitTotalAtomic` say, and the inverse loses at most one
unit.
-/

namespace Solvela.Channel

open Solvela.ChannelLedger

/-! ## Machine words -/

/-- `u128::from` of an amount. -/
def widen (n : UInt64) : BitVec 128 := n.toBitVec.setWidth 128

/-- `u128::from(platform_fee_percent())`. -/
def widenPercent (pct : UInt8) : BitVec 128 := pct.toBitVec.setWidth 128

/-- `as u64`, which drops the high bits. -/
def asU64 (n : BitVec 128) : UInt64 := ⟨n.setWidth 64⟩

/-- `u64::try_from`. -/
def u64TryFrom (n : BitVec 128) : Option UInt64 :=
  if n.toNat ≤ u64Max then some (asU64 n) else none

/-- `apply_platform_fee_atomic`. -/
def applyPlatformFeeU64 (pct : UInt8) (providerAtomic : UInt64) : Option UInt64 :=
  u64TryFrom (widen providerAtomic * (100 + widenPercent pct) / 100)

/-- `split_total_atomic`. -/
def splitTotalU64 (pct : UInt8) (totalAtomic : UInt64) : UInt64 × UInt64 :=
  let providerAtomic := asU64 (widen totalAtomic * 100 / (100 + widenPercent pct))
  (providerAtomic, totalAtomic - providerAtomic)

/-! ## Nothing wraps -/

theorem le_u64Max (n : UInt64) : n.toNat ≤ u64Max := by
  have hlt := n.toNat_lt
  unfold u64Max
  omega

/-- A `u64` keeps its value in a `u128`. -/
theorem toNat_widen (n : UInt64) : (widen n).toNat = n.toNat := by
  have hlt := n.toNat_lt
  simp only [widen, BitVec.toNat_setWidth, UInt64.toNat_toBitVec]
  omega

theorem toNat_widenPercent (pct : UInt8) : (widenPercent pct).toNat = pct.toNat := by
  have hlt := pct.toNat_lt
  simp only [widenPercent, BitVec.toNat_setWidth, UInt8.toNat_toBitVec]
  omega

theorem toNat_percent (pct : UInt8) : (100 + widenPercent pct).toNat = 100 + pct.toNat := by
  have hlt := pct.toNat_lt
  rw [BitVec.toNat_add, toNat_widenPercent]
  show (100 + pct.toNat) % 2 ^ 128 = 100 + pct.toNat
  omega

theorem toNat_asU64 {n : BitVec 128} (h : n.toNat ≤ u64Max) : (asU64 n).toNat = n.toNat := by
  show (n.setWidth 64).toNat = n.toNat
  rw [BitVec.toNat_setWidth]
  unfold u64Max at h
  omega

/-- The product of an amount and a percentage of it. -/
theorem toNat_forward (pct : UInt8) (a : UInt64) :
    (widen a * (100 + widenPercent pct) / 100).toNat = a.toNat * (100 + pct.toNat) / 100 := by
  have ha := a.toNat_lt
  have hpct := pct.toNat_lt
  have hsmall : a.toNat * (100 + pct.toNat) < 2 ^ 64 * 356 := by
    apply Nat.mul_lt_mul''
    · exact ha
    · omega
  rw [BitVec.toNat_udiv, BitVec.toNat_mul, toNat_widen, toNat_percent,
    Nat.mod_eq_of_lt (by omega)]
  rfl

/-- The inverse is computed without a wrap. -/
theorem toNat_inverse (pct : UInt8) (t : UInt64) :
    (widen t * 100 / (100 + widenPercent pct)).toNat = t.toNat * 100 / (100 + pct.toNat) := by
  have ht := t.toNat_lt
  rw [BitVec.toNat_udiv, BitVec.toNat_mul, toNat_widen, toNat_percent]
  show t.toNat * 100 % 2 ^ 128 / (100 + pct.toNat) = _
  rw [Nat.mod_eq_of_lt (by omega)]

/-- The provider's share is at most the total. -/
theorem inverse_le (pct total : ℕ) : total * 100 / (100 + pct) ≤ total := by
  apply Nat.div_le_of_le_mul
  calc total * 100 ≤ total * (100 + pct) := Nat.mul_le_mul_left total (Nat.le_add_right 100 pct)
    _ = (100 + pct) * total := Nat.mul_comm _ _

/-- The machine's forward fee is the exact one. -/
theorem applyPlatformFeeU64_toNat (pct : UInt8) (a : UInt64) :
    (applyPlatformFeeU64 pct a).map UInt64.toNat = applyPlatformFeeAtomic pct.toNat a.toNat := by
  unfold applyPlatformFeeU64 u64TryFrom applyPlatformFeeAtomic
  by_cases h : a.toNat * (100 + pct.toNat) / 100 ≤ u64Max
  · rw [toNat_forward, if_pos h, if_pos h, Option.map_some, toNat_asU64, toNat_forward]
    rw [toNat_forward]
    exact h
  · rw [toNat_forward, if_neg h, if_neg h, Option.map_none]

/-- The machine's split is the exact one. -/
theorem splitTotalU64_toNat (pct : UInt8) (t : UInt64) :
    ((splitTotalU64 pct t).1.toNat, (splitTotalU64 pct t).2.toNat) =
      splitTotalAtomic pct.toNat t.toNat := by
  have hle := inverse_le pct.toNat t.toNat
  have hshare : (splitTotalU64 pct t).1.toNat = t.toNat * 100 / (100 + pct.toNat) := by
    show (asU64 _).toNat = _
    rw [toNat_asU64, toNat_inverse]
    rw [toNat_inverse]
    exact le_trans hle (le_u64Max t)
  have hfee : (splitTotalU64 pct t).2.toNat = t.toNat - t.toNat * 100 / (100 + pct.toNat) := by
    show (t - (splitTotalU64 pct t).1).toNat = _
    rw [UInt64.toNat_sub_of_le, hshare]
    rw [UInt64.le_iff_toNat_le, hshare]
    exact hle
  rw [hshare, hfee]
  rfl

/-! ## Forward and back -/

/-- Adding the fee and taking it off again loses at most one unit. -/
theorem inverse_forward (pct a : ℕ) :
    a * (100 + pct) / 100 * 100 / (100 + pct) ≤ a ∧
      a ≤ a * (100 + pct) / 100 * 100 / (100 + pct) + 1 := by
  have hpos : 0 < 100 + pct := by omega
  have hdown : a * (100 + pct) / 100 * 100 ≤ a * (100 + pct) := Nat.div_mul_le_self _ _
  have hup : a * (100 + pct) < a * (100 + pct) / 100 * 100 + 100 := by omega
  constructor
  · apply Nat.div_le_of_le_mul
    rw [Nat.mul_comm (100 + pct) a]
    exact hdown
  · rw [← Nat.add_div_right _ hpos, Nat.le_div_iff_mul_le hpos]
    omega

/-- The total in exact arithmetic. -/
theorem floor_forward (pct a : ℕ) :
    ⌊(a : ℚ) * (100 + pct) / 100⌋ = ((a * (100 + pct) / 100 : ℕ) : ℤ) := by
  have hcast : (a : ℚ) * (100 + pct) / 100 = ((a * (100 + pct) : ℕ) : ℚ) / ((100 : ℕ) : ℚ) := by
    push_cast
    ring
  rw [hcast, Rat.floor_natCast_div_natCast, Int.natCast_div]

/-- The fee fails exactly if the total does not fit. -/
theorem applyPlatformFeeU64_none (pct : UInt8) (a : UInt64) :
    applyPlatformFeeU64 pct a = none ↔ u64Max < a.toNat * (100 + pct.toNat) / 100 := by
  rw [← Option.map_eq_none_iff (f := UInt64.toNat), applyPlatformFeeU64_toNat]
  unfold applyPlatformFeeAtomic
  dsimp only
  split_ifs with h
  · simpa using h
  · simpa using h

/-- Otherwise it is the total, rounded down. -/
theorem applyPlatformFeeU64_some {pct : UInt8} {a t : UInt64}
    (h : applyPlatformFeeU64 pct a = some t) :
    t.toNat = a.toNat * (100 + pct.toNat) / 100 := by
  have hnat := applyPlatformFeeU64_toNat pct a
  rw [h, Option.map_some] at hnat
  unfold applyPlatformFeeAtomic at hnat
  dsimp only at hnat
  split_ifs at hnat
  exact Option.some.inj hnat

/-- A smaller cost has a smaller total. -/
theorem applyPlatformFeeU64_mono {pct : UInt8} {a b u : UInt64} (hab : a ≤ b)
    (hb : applyPlatformFeeU64 pct b = some u) :
    ∃ t, applyPlatformFeeU64 pct a = some t ∧ t ≤ u := by
  have hle : a.toNat * (100 + pct.toNat) / 100 ≤ b.toNat * (100 + pct.toNat) / 100 := by
    apply Nat.div_le_div_right
    exact Nat.mul_le_mul_right _ (UInt64.le_iff_toNat_le.mp hab)
  have hu := applyPlatformFeeU64_some hb
  cases ha : applyPlatformFeeU64 pct a with
  | none =>
    have hover := (applyPlatformFeeU64_none pct a).mp ha
    have hfits := le_u64Max u
    omega
  | some t =>
    refine ⟨t, rfl, ?_⟩
    rw [UInt64.le_iff_toNat_le, applyPlatformFeeU64_some ha, hu]
    exact hle

/-- For every percent and every amount: the total is the exact one, rounded down, or nothing where
that does not fit; it grows with the amount; and its split adds up and gives back the amount, or
one unit less. -/
theorem platform_fee_forward_inverse (pct : UInt8) (a : UInt64) :
    (applyPlatformFeeU64 pct a = none ↔
      (u64Max : ℤ) < ⌊(a.toNat : ℚ) * (100 + pct.toNat) / 100⌋) ∧
    (∀ t, applyPlatformFeeU64 pct a = some t →
      (t.toNat : ℤ) = ⌊(a.toNat : ℚ) * (100 + pct.toNat) / 100⌋) ∧
    (∀ b u, a ≤ b → applyPlatformFeeU64 pct b = some u →
      ∃ t, applyPlatformFeeU64 pct a = some t ∧ t ≤ u) ∧
    ∀ t, applyPlatformFeeU64 pct a = some t →
      (splitTotalU64 pct t).1.toNat + (splitTotalU64 pct t).2.toNat = t.toNat ∧
        (a.toNat : ℤ) - 1 ≤ (splitTotalU64 pct t).1.toNat ∧
        (splitTotalU64 pct t).1.toNat ≤ a.toNat := by
  rw [floor_forward]
  refine ⟨?_, ?_, ?_, ?_⟩
  · rw [applyPlatformFeeU64_none, Nat.cast_lt]
  · intro t ht
    rw [applyPlatformFeeU64_some ht]
  · intro b u hab hb
    exact applyPlatformFeeU64_mono hab hb
  · intro t ht
    obtain ⟨hshare, hfee⟩ := Prod.mk.inj (splitTotalU64_toNat pct t)
    have hle := inverse_le pct.toNat t.toNat
    have hback := inverse_forward pct.toNat a.toNat
    rw [← applyPlatformFeeU64_some ht] at hback
    rw [hshare, hfee]
    refine ⟨Nat.add_sub_cancel' hle, ?_, hback.1⟩
    omega

/-- At a fee of nothing the provider's share is the total. -/
example : splitTotalU64 0 1234567 = (1234567, 0) := by decide

end Solvela.Channel
