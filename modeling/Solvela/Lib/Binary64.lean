import Mathlib.Data.Int.Log
import Mathlib.Data.Nat.Cast.Order.Field
import Mathlib.Data.Rat.Floor
import Mathlib.Tactic.Linarith
import Mathlib.Tactic.Ring

/-!
# Rounding to binary64

The value of an operation on binary64 numbers is its exact result, rounded once. Here the numbers
are rationals and the rounding is a function on them.

* `roundHalfEven`: the nearest natural number, ties to even. It never falls below the floor, keeps
  the order and is off by a half at most;
* `roundBinary64`: the nearest binary64 number, ties to even, or nothing where the result would be
  infinite. Zero has no sign;
* `roundBinary64_near`: off by one part in `2 ^ 53` at most, in the normal range.
-/

namespace Solvela.Lib

/-! ## To a natural number -/

/-- The nearest integer to a non-negative rational, ties to even. -/
def roundHalfEven (q : ℚ) : ℕ :=
  let n := ⌊q⌋.toNat
  if q - n < 1 / 2 then n
  else if 1 / 2 < q - n then n + 1
  else if n % 2 = 0 then n
  else n + 1

/-- Rounding to the nearest never falls below the floor. -/
theorem le_roundHalfEven {q : ℚ} {n : ℕ} (h : (n : ℚ) ≤ q) : n ≤ roundHalfEven q := by
  have hfloor : (n : ℤ) ≤ ⌊q⌋ := Int.le_floor.mpr (by exact_mod_cast h)
  have hnat : n ≤ ⌊q⌋.toNat := by omega
  unfold roundHalfEven
  dsimp only
  split
  · exact hnat
  · split
    · omega
    · split
      · exact hnat
      · omega

/-- Rounding to the nearest keeps the order. -/
theorem roundHalfEven_mono {q r : ℚ} (hq : 0 ≤ q) (h : q ≤ r) :
    roundHalfEven q ≤ roundHalfEven r := by
  have hfloor : ⌊q⌋ ≤ ⌊r⌋ := Int.floor_le_floor h
  have hnonneg : 0 ≤ ⌊q⌋ := Int.floor_nonneg.mpr hq
  by_cases hsame : ⌊q⌋.toNat = ⌊r⌋.toNat
  · -- the same floor: only the fraction decides, and it grew
    unfold roundHalfEven
    dsimp only
    rw [← hsame]
    have hfrac : q - (⌊q⌋.toNat : ℕ) ≤ r - (⌊q⌋.toNat : ℕ) := sub_le_sub_right h _
    split_ifs <;> first | omega | linarith
  · have hup : roundHalfEven q ≤ ⌊q⌋.toNat + 1 := by
      unfold roundHalfEven
      dsimp only
      split_ifs <;> omega
    have hdown : ⌊r⌋.toNat ≤ roundHalfEven r := by
      unfold roundHalfEven
      dsimp only
      split_ifs <;> omega
    omega

/-- Rounding to the nearest is off by a half at most. -/
theorem abs_roundHalfEven_sub_le {q : ℚ} (hq : 0 ≤ q) : |(roundHalfEven q : ℚ) - q| ≤ 1 / 2 := by
  have hnonneg : 0 ≤ ⌊q⌋ := Int.floor_nonneg.mpr hq
  have hcast : ((⌊q⌋.toNat : ℕ) : ℚ) = (⌊q⌋ : ℤ) := by
    exact_mod_cast Int.toNat_of_nonneg hnonneg
  have hle : ((⌊q⌋.toNat : ℕ) : ℚ) ≤ q := by
    rw [hcast]
    exact Int.floor_le q
  have hlt : q < (⌊q⌋.toNat : ℕ) + 1 := by
    rw [hcast]
    exact Int.lt_floor_add_one q
  unfold roundHalfEven
  dsimp only
  split_ifs <;> rw [abs_le] <;> push_cast <;> constructor <;> linarith

/-! ## To binary64 -/

/-- The distance of the binary64 numbers around `q`: 52 bits below its leading one, and no less
than the smallest subnormal. -/
def ulpBinary64 (q : ℚ) : ℚ := (2 : ℚ) ^ max (Int.log 2 |q| - 52) (-1074)

/-- The binary64 number nearest to `q`, ties to even; `none` is an infinity. -/
def roundBinary64 (q : ℚ) : Option ℚ :=
  let r := roundHalfEven (|q| / ulpBinary64 q) * ulpBinary64 q
  if r < 2 ^ 1024 then some (if q < 0 then -r else r) else none

/-- Numbers of an everyday size are well inside the normal range. -/
theorem normal_of_bounds {q : ℚ} (hlow : 1 / 2 ^ 20 ≤ q) (hhigh : q ≤ 2 ^ 64) :
    (2 : ℚ) ^ (-1022 : ℤ) ≤ q ∧ q < 2 ^ 1023 := by
  constructor
  · calc (2 : ℚ) ^ (-1022 : ℤ) ≤ 2 ^ (-20 : ℤ) := zpow_le_zpow_right₀ one_le_two (by omega)
      _ = 1 / 2 ^ 20 := by rw [zpow_neg, one_div]; rfl
      _ ≤ q := hlow
  · exact lt_of_le_of_lt hhigh (pow_lt_pow_right₀ one_lt_two (by omega))

/-- In the normal range the distance is one part in `2 ^ 52`, at most. -/
theorem ulpBinary64_le {q : ℚ} (hlow : (2 : ℚ) ^ (-1022 : ℤ) ≤ q) :
    ulpBinary64 q ≤ q / 2 ^ 52 := by
  have hpos : 0 < q := lt_of_lt_of_le (zpow_pos two_pos _) hlow
  have hlog : -1022 ≤ Int.log 2 q := (Int.zpow_le_iff_le_log (by norm_num) hpos).mp hlow
  have hpow : (2 : ℚ) ^ Int.log 2 q ≤ q := Int.zpow_log_le_self (by norm_num) hpos
  unfold ulpBinary64
  rw [abs_of_pos hpos, max_eq_left (by omega), zpow_sub₀ (by norm_num)]
  exact div_le_div_of_nonneg_right hpow (by norm_num)

/-- In the normal range rounding is off by one part in `2 ^ 53`, at most. -/
theorem roundBinary64_near {q : ℚ} (hlow : (2 : ℚ) ^ (-1022 : ℤ) ≤ q) (hhigh : q < 2 ^ 1023) :
    ∃ r, roundBinary64 q = some r ∧ |r - q| ≤ q / 2 ^ 53 := by
  have hpos : 0 < q := lt_of_lt_of_le (zpow_pos two_pos _) hlow
  have hulp : 0 < ulpBinary64 q := zpow_pos two_pos _
  have hnear : |(roundHalfEven (q / ulpBinary64 q) * ulpBinary64 q : ℚ) - q| ≤ q / 2 ^ 53 := by
    have hhalf := abs_roundHalfEven_sub_le (div_nonneg hpos.le hulp.le)
    calc |(roundHalfEven (q / ulpBinary64 q) * ulpBinary64 q : ℚ) - q|
        = |((roundHalfEven (q / ulpBinary64 q) : ℚ) - q / ulpBinary64 q) * ulpBinary64 q| := by
          rw [sub_mul, div_mul_cancel₀ _ hulp.ne']
      _ = |(roundHalfEven (q / ulpBinary64 q) : ℚ) - q / ulpBinary64 q| * ulpBinary64 q := by
          rw [abs_mul, abs_of_pos hulp]
      _ ≤ 1 / 2 * (q / 2 ^ 52) := mul_le_mul hhalf (ulpBinary64_le hlow) hulp.le (by norm_num)
      _ = q / 2 ^ 53 := by ring
  refine ⟨_, ?_, hnear⟩
  have hfits : (roundHalfEven (q / ulpBinary64 q) * ulpBinary64 q : ℚ) < 2 ^ 1024 := by
    have hle := (abs_le.mp hnear).2
    have hshare : q / 2 ^ 53 ≤ q := div_le_self hpos.le (by norm_num)
    calc (roundHalfEven (q / ulpBinary64 q) * ulpBinary64 q : ℚ) ≤ q + q := by linarith
      _ < 2 ^ 1023 + 2 ^ 1023 := add_lt_add hhigh hhigh
      _ = 2 ^ 1024 := (mul_two _).symm.trans (pow_succ (2 : ℚ) 1023).symm
  unfold roundBinary64
  dsimp only
  rw [abs_of_pos hpos, if_pos hfits, if_neg (not_lt.mpr hpos.le)]

end Solvela.Lib
