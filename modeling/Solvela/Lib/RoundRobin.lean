import Mathlib.Data.Nat.Periodic

/-!
# Round-robin selection

A slot number picks, among `n` positions in a circle, the first one at or after it that is ok.

* `roundFrom` lists the positions in the order in which a slot tries them, `firstFrom` is its
  pick; `firstFrom_eq_none` says when there is none;
* `firstFrom_eq_some` says which slots pick a position: those between it and the last ok one
  before it;
* `count_firstFrom_bounds` counts the slots of a position.
-/

namespace Solvela.Lib

/-- The positions of a circle of `n`, from `start` on. -/
def roundFrom (n start : ℕ) : List ℕ := (List.range n).map fun offset => (start + offset) % n

/-- The first position from `start` on that is ok. -/
def firstFrom (ok : ℕ → Bool) (n start : ℕ) : Option ℕ := (roundFrom n start).find? ok

/-- A round passes every position. -/
theorem mem_roundFrom {n start i : ℕ} : i ∈ roundFrom n start ↔ i < n := by
  have himage := Nat.image_Ico_mod start n
  have hmem : i ∈ (Finset.Ico start (start + n)).image (· % n) ↔ i < n := by
    rw [himage, Finset.mem_range]
  rw [← hmem, roundFrom, List.mem_map, Finset.mem_image]
  constructor
  · rintro ⟨offset, hoffset, rfl⟩
    have hlt := List.mem_range.1 hoffset
    exact ⟨start + offset, Finset.mem_Ico.2 (by omega), rfl⟩
  · rintro ⟨x, hx, rfl⟩
    have hlt := Finset.mem_Ico.1 hx
    refine ⟨x - start, List.mem_range.2 (by omega), ?_⟩
    show (start + (x - start)) % n = x % n
    rw [show start + (x - start) = x by omega]

theorem firstFrom_eq_none {ok : ℕ → Bool} {n start : ℕ} :
    firstFrom ok n start = none ↔ ∀ i < n, ok i = false := by
  rw [firstFrom, List.find?_eq_none]
  simp [mem_roundFrom]

theorem firstFrom_lt {ok : ℕ → Bool} {n start i : ℕ} (h : firstFrom ok n start = some i) :
    i < n ∧ ok i = true :=
  ⟨mem_roundFrom.1 (List.mem_of_find?_eq_some h), List.find?_some h⟩

/-- A slot picks alike a round later. -/
theorem firstFrom_periodic (ok : ℕ → Bool) (n : ℕ) :
    Function.Periodic (firstFrom ok n) n := by
  intro start
  have hround : roundFrom n (start + n) = roundFrom n start := by
    apply List.map_congr_left
    intro offset _
    rw [show start + n + offset = start + offset + n by omega, Nat.add_mod_right]
  rw [firstFrom, firstFrom, hround]

/-! ## Which slots pick a position -/

/-- The position `back` places before `i`, for at most a round. -/
def before (n i back : ℕ) : ℕ := (i + n - back) % n

/-- How many positions before `i`, without a break, are not ok. -/
def gap (ok : ℕ → Bool) (n i : ℕ) : ℕ :=
  (List.range n).findIdx fun d => ok (before n i (d + 1))

theorem before_eq {n i back : ℕ} (hi : i < n) (hback : back ≤ n) :
    before n i back = if back ≤ i then i - back else i + n - back := by
  rw [before]
  split
  · rw [show i + n - back = i - back + n by omega, Nat.add_mod_right]
    exact Nat.mod_eq_of_lt (by omega)
  · exact Nat.mod_eq_of_lt (by omega)

theorem before_lt {n i back : ℕ} (hn : 0 < n) : before n i back < n := Nat.mod_lt _ hn

/-- Going on from `back` places before `i`. -/
theorem before_add {n i back k : ℕ} (hi : i < n) (hback : back < n) (hk : k ≤ back) :
    (before n i back + k) % n = before n i (back - k) := by
  rw [before_eq hi hback.le, before_eq hi (by omega)]
  split
  · rw [if_pos (by omega), Nat.mod_eq_of_lt (by omega)]
    omega
  · split
    · rw [show i + n - back + k = i - (back - k) + n by omega, Nat.add_mod_right]
      exact Nat.mod_eq_of_lt (by omega)
    · rw [Nat.mod_eq_of_lt (by omega)]
      omega

theorem before_injOn {n i : ℕ} (hi : i < n) :
    Set.InjOn (before n i) {back | back < n} := by
  intro d hd e he h
  have hd' : d < n := hd
  have he' : e < n := he
  rw [before_eq hi hd'.le, before_eq hi he'.le] at h
  split at h <;> split at h <;> omega

/-- The positions before `i` that a prefix of the way back passes. -/
theorem le_gap {ok : ℕ → Bool} {n i back : ℕ} (hback : back ≤ n) :
    back ≤ gap ok n i ↔ ∀ d, 0 < d → d ≤ back → ok (before n i d) = false := by
  constructor
  · intro h d hpos hd
    have hnot := List.not_of_lt_findIdx (show d - 1 < gap ok n i by omega)
    rw [List.getElem_range, show d - 1 + 1 = d by omega] at hnot
    simpa using hnot
  · intro h
    by_contra hlt
    rw [gap] at hlt
    have hlength : ((List.range n).findIdx fun d => ok (before n i (d + 1))) <
        (List.range n).length := by rw [List.length_range]; omega
    have hstop := @List.findIdx_getElem _ _ _ hlength
    rw [List.getElem_range, h _ (Nat.succ_pos _) (by omega)] at hstop
    exact absurd hstop (by decide)

theorem gap_lt {ok : ℕ → Bool} {n i : ℕ} (hi : i < n) (hok : ok i = true) : gap ok n i < n := by
  by_contra hge
  have hround := (le_gap (le_refl n)).1 (by omega : n ≤ gap ok n i) n (by omega) (le_refl n)
  rw [before_eq hi (le_refl n), if_neg (by omega), Nat.add_sub_cancel, hok] at hround
  exact absurd hround (by decide)

/-- A slot picks the ok position `i` when all it passes on the way there are not ok. -/
theorem firstFrom_before {ok : ℕ → Bool} {n i back : ℕ} (hi : i < n) (hok : ok i = true)
    (hback : back < n) : firstFrom ok n (before n i back) = some i ↔ back ≤ gap ok n i := by
  rw [le_gap hback.le, firstFrom, List.find?_eq_some_iff_getElem]
  have hat : ∀ k (h : k < (roundFrom n (before n i back)).length), k ≤ back →
      (roundFrom n (before n i back))[k] = before n i (back - k) := by
    intro k h hk
    simp only [roundFrom, List.getElem_map, List.getElem_range]
    exact before_add hi hback hk
  have hlength : (roundFrom n (before n i back)).length = n := by simp [roundFrom]
  have hself : before n i 0 = i := by rw [before_eq hi (by omega)]; simp
  constructor
  · rintro ⟨-, k, hk, hki, hbefore⟩ d hpos hd
    -- the scan stops at `i` itself, `back` positions on
    have hkback : k = back := by
      by_contra hne
      rcases Nat.lt_or_ge k back with hlt | hge
      · have heq : before n i (back - k) = before n i 0 := by
          rw [← hat k hk hlt.le, hki, hself]
        have := before_injOn hi (show back - k < n by omega) (show 0 < n by omega) heq
        omega
      · -- past `i` the round goes on from the position after it
        simp only [roundFrom, List.getElem_map, List.getElem_range] at hki
        rw [before_eq hi hback.le] at hki
        split at hki
        · rcases Nat.lt_or_ge (i - back + k) n with hlt | hge'
          · rw [Nat.mod_eq_of_lt hlt] at hki
            omega
          · rw [Nat.mod_eq_sub_mod hge', Nat.mod_eq_of_lt (by omega)] at hki
            omega
        · rw [Nat.mod_eq_sub_mod (by omega), Nat.mod_eq_of_lt (by omega)] at hki
          omega
    have hnot := hbefore (back - d) (by omega)
    rw [hat (back - d) (by omega) (by omega), show back - (back - d) = d by omega] at hnot
    simpa using hnot
  · intro h
    refine ⟨hok, back, by omega, ?_, ?_⟩
    · rw [hat back (by omega) (le_refl _), Nat.sub_self, hself]
    · intro k hk
      rw [hat k (by omega) hk.le, h (back - k) (by omega) (by omega)]
      rfl

/-! ## Counting slots -/

/-- In a round an ok position is picked once for itself and once for each position in the gap
before it. -/
theorem count_firstFrom_round {ok : ℕ → Bool} {n i : ℕ} (hi : i < n) (hok : ok i = true) :
    Nat.count (fun slot => firstFrom ok n slot = some i) n = gap ok n i + 1 := by
  have hgap := gap_lt hi hok
  have hslots : (Finset.range n).filter (fun slot => firstFrom ok n slot = some i) =
      (Finset.range (gap ok n i + 1)).image (before n i) := by
    ext slot
    rw [Finset.mem_filter, Finset.mem_range, Finset.mem_image]
    constructor
    · rintro ⟨hslot, hpick⟩
      have hback : before n i (before n i slot) = slot := by
        have hlt : before n i slot < n := before_lt (Nat.zero_lt_of_lt hi)
        rw [before_eq hi hlt.le, before_eq hi hslot.le]
        split <;> split <;> omega
      refine ⟨before n i slot, Finset.mem_range.2 ?_, hback⟩
      rw [← hback] at hpick
      have := (firstFrom_before hi hok (before_lt (by omega))).1 hpick
      omega
    · rintro ⟨back, hback, rfl⟩
      have hle := Finset.mem_range.1 hback
      exact ⟨before_lt (by omega), (firstFrom_before hi hok (by omega)).2 (by omega)⟩
  rw [Nat.count_eq_card_filter_range, hslots, Finset.card_image_of_injOn, Finset.card_range]
  intro d hd e he h
  have hd' := Finset.mem_range.1 hd
  have he' := Finset.mem_range.1 he
  exact before_injOn hi (show d < n by omega) (show e < n by omega) h

/-- Any `n` slots in a row are a round. -/
theorem count_firstFrom_round_from {ok : ℕ → Bool} {n i : ℕ} (hi : i < n) (hok : ok i = true)
    (start : ℕ) :
    Nat.count (fun k => firstFrom ok n (start + k) = some i) n = gap ok n i + 1 := by
  have hend := Nat.count_add (fun slot => firstFrom ok n slot = some i) start n
  have hshift := Nat.count_add (fun slot => firstFrom ok n slot = some i) n start
  have hperiodic : ∀ slot, firstFrom ok n (n + slot) = firstFrom ok n slot := by
    intro slot
    rw [Nat.add_comm]
    exact firstFrom_periodic ok n slot
  simp only [hperiodic] at hshift
  rw [count_firstFrom_round hi hok, Nat.add_comm n start] at hshift
  omega

theorem count_firstFrom_rounds {ok : ℕ → Bool} {n i : ℕ} (hi : i < n) (hok : ok i = true)
    (start rounds : ℕ) :
    Nat.count (fun k => firstFrom ok n (start + k) = some i) (rounds * n) =
      rounds * (gap ok n i + 1) := by
  induction rounds with
  | zero => simp
  | succ rounds ih =>
    have hround := count_firstFrom_round_from hi hok (start + rounds * n)
    rw [Nat.add_mul, Nat.one_mul, Nat.count_add, ih]
    simp only [← Nat.add_assoc]
    rw [hround, Nat.add_mul, Nat.one_mul]

/-- The slots of a position among any slots in a row: its share of each full round, and at most
that of one more for the rest. -/
theorem count_firstFrom_bounds {ok : ℕ → Bool} {n i : ℕ} (hi : i < n) (hok : ok i = true)
    (start slots : ℕ) :
    slots / n * (gap ok n i + 1) ≤
        Nat.count (fun k => firstFrom ok n (start + k) = some i) slots ∧
      Nat.count (fun k => firstFrom ok n (start + k) = some i) slots ≤
        (slots + n - 1) / n * (gap ok n i + 1) := by
  have hfloor : slots / n * n ≤ slots := Nat.div_mul_le_self slots n
  have hceil : slots ≤ (slots + n - 1) / n * n := by
    have hrest := Nat.div_add_mod' (slots + n - 1) n
    have hlt := Nat.mod_lt (slots + n - 1) (Nat.zero_lt_of_lt hi)
    omega
  rw [← count_firstFrom_rounds hi hok start, ← count_firstFrom_rounds hi hok start]
  exact ⟨Nat.count_monotone _ hfloor, Nat.count_monotone _ hceil⟩

/-- A position that is not ok has no slots. -/
theorem count_firstFrom_of_not {ok : ℕ → Bool} {n i : ℕ} (hok : ok i = false) (start slots : ℕ) :
    Nat.count (fun k => firstFrom ok n (start + k) = some i) slots = 0 := by
  rw [Nat.count_eq_card_filter_range, Finset.card_eq_zero, Finset.filter_eq_empty_iff]
  intro k _ h
  have := (firstFrom_lt h).2
  rw [hok] at this
  cases this

/-- There is no gap behind a position that is ok. -/
theorem gap_eq_zero {ok : ℕ → Bool} {n i : ℕ} (hn : 0 < n) (h : ok (before n i 1) = true) :
    gap ok n i = 0 := by
  by_contra hpos
  have := (le_gap hn).1 (Nat.one_le_iff_ne_zero.2 hpos) 1 Nat.one_pos (Nat.le_refl 1)
  rw [h] at this
  cases this

end Solvela.Lib
