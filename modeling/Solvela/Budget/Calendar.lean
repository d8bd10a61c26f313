import Mathlib.Data.Nat.Notation
import Mathlib.Tactic.Linarith

/-!
# Calendar windows

The spend counters are kept for each hour, day and month of UTC. Time is in seconds since
1970-01-01. What the counters rely on is `period_span`: a counter that is given its TTL anew
lives to the end of its window.
-/

namespace Solvela.Budget

/-- A day of the calendar. -/
@[ext] structure Date where
  year : ℕ
  month : ℕ
  day : ℕ
deriving DecidableEq

def isLeapYear (year : ℕ) : Bool :=
  year % 4 == 0 && (year % 100 != 0 || year % 400 == 0)

def daysInMonth (year month : ℕ) : ℕ :=
  match month with
  | 2 => if isLeapYear year then 29 else 28
  | 4 => 30
  | 6 => 30
  | 9 => 30
  | 11 => 30
  | _ => 31

/-- The day after. -/
def Date.next (d : Date) : Date :=
  if d.day < daysInMonth d.year d.month then { d with day := d.day + 1 }
  else if d.month < 12 then ⟨d.year, d.month + 1, 1⟩
  else ⟨d.year + 1, 1, 1⟩

/-- The date, by days since 1970-01-01. -/
def dateOf : ℕ → Date
  | 0 => ⟨1970, 1, 1⟩
  | n + 1 => (dateOf n).next

/-- The three kinds of windows. -/
inductive Window
  | hourly
  | daily
  | monthly
deriving DecidableEq

/-- `%Y-%m-%dT%H`, `%Y-%m-%d` and `%Y-%m` of a time. -/
inductive Period
  | hour (year month day hour : ℕ)
  | day (year month day : ℕ)
  | month (year month : ℕ)
deriving DecidableEq

/-- The window of a time. -/
def Window.period (now : ℕ) : Window → Period
  | .hourly =>
    let d := dateOf (now / 86400)
    .hour d.year d.month d.day (now % 86400 / 3600)
  | .daily =>
    let d := dateOf (now / 86400)
    .day d.year d.month d.day
  | .monthly =>
    let d := dateOf (now / 86400)
    .month d.year d.month

/-- The kind of a window, by its period. -/
def Period.window : Period → Window
  | .hour _ _ _ _ => .hourly
  | .day _ _ _ => .daily
  | .month _ _ => .monthly

/-- A period is one of its window. -/
@[simp] theorem window_period (now : ℕ) (w : Window) : (w.period now).window = w := by
  cases w <;> rfl

/-- The TTL of a counter. -/
def Window.ttl : Window → ℕ
  | .hourly => 7200
  | .daily => 86400
  | .monthly => 86400 * 31

/-- No counter expires at once. -/
theorem Window.ttl_pos (w : Window) : 0 < w.ttl := by
  cases w <;> decide

/-! ## The length of a window -/

/-- No month is longer than 31 days. -/
theorem daysInMonth_le (year month : ℕ) : daysInMonth year month ≤ 31 := by
  unfold daysInMonth
  split
  · split <;> omega
  all_goals omega

/-- The number of a month. -/
def Date.monthIndex (d : Date) : ℕ := d.year * 12 + d.month

/-- The ranges of months and days. -/
structure Date.Valid (d : Date) : Prop where
  month_pos : 1 ≤ d.month
  month_le : d.month ≤ 12
  day_pos : 1 ≤ d.day
  day_le : d.day ≤ 31

/-- The day after a date is a date. -/
theorem Date.Valid.next {d : Date} (h : d.Valid) : d.next.Valid := by
  have hdays := daysInMonth_le d.year d.month
  unfold Date.next
  by_cases hday : d.day < daysInMonth d.year d.month
  · rw [if_pos hday]
    refine ⟨h.month_pos, h.month_le, Nat.le_add_left 1 d.day, ?_⟩
    show d.day + 1 ≤ 31
    omega
  · rw [if_neg hday]
    by_cases hmonth : d.month < 12
    · rw [if_pos hmonth]
      exact ⟨Nat.le_add_left 1 d.month, hmonth, le_refl 1, show (1 : ℕ) ≤ 31 by decide⟩
    · rw [if_neg hmonth]
      exact ⟨le_refl 1, show (1 : ℕ) ≤ 12 by decide, le_refl 1, show (1 : ℕ) ≤ 31 by decide⟩

/-- The next day is in the same month, or it is the first one of a later month. -/
theorem next_cases {d : Date} (h : d.Valid) :
    (d.next.monthIndex = d.monthIndex ∧ d.next.day = d.day + 1) ∨
      d.monthIndex < d.next.monthIndex := by
  have hle := h.month_le
  unfold Date.next Date.monthIndex
  by_cases hday : d.day < daysInMonth d.year d.month
  · rw [if_pos hday]
    exact Or.inl ⟨rfl, rfl⟩
  · rw [if_neg hday]
    right
    by_cases hmonth : d.month < 12
    · rw [if_pos hmonth]
      show d.year * 12 + d.month < d.year * 12 + (d.month + 1)
      omega
    · rw [if_neg hmonth]
      show d.year * 12 + d.month < (d.year + 1) * 12 + 1
      omega

/-- Every day number is a date. -/
theorem dateOf_valid (n : ℕ) : (dateOf n).Valid := by
  induction n with
  | zero => exact ⟨by decide, by decide, by decide, by decide⟩
  | succ n ih => exact ih.next

/-- Later days of a month are numbered on; other days are in later months. -/
theorem dateOf_add (n k : ℕ) :
    ((dateOf (n + k)).monthIndex = (dateOf n).monthIndex ∧
      (dateOf (n + k)).day = (dateOf n).day + k) ∨
      (dateOf n).monthIndex < (dateOf (n + k)).monthIndex := by
  induction k with
  | zero => exact Or.inl ⟨rfl, rfl⟩
  | succ k ih =>
    have hnext := next_cases (dateOf_valid (n + k))
    have hstep : dateOf (n + (k + 1)) = (dateOf (n + k)).next := rfl
    rw [hstep]
    omega

/-- Two days of one month are less than 31 days apart. -/
theorem month_span {n m : ℕ} (hyear : (dateOf n).year = (dateOf m).year)
    (hmonth : (dateOf n).month = (dateOf m).month) : m < n + 31 := by
  by_contra hfar
  obtain ⟨k, rfl⟩ := Nat.exists_eq_add_of_le (show n ≤ m by omega)
  have hadd := dateOf_add n k
  have hfirst := (dateOf_valid n).day_pos
  have hlast := (dateOf_valid (n + k)).day_le
  unfold Date.monthIndex at hadd
  omega

/-- Two equal dates are one day. -/
theorem day_span {n m : ℕ} (h : dateOf n = dateOf m) : m < n + 1 := by
  by_contra hfar
  obtain ⟨k, rfl⟩ := Nat.exists_eq_add_of_le (show n ≤ m by omega)
  have hadd := dateOf_add n k
  rw [← h] at hadd
  omega

/-- Two times of one window are closer than the TTL. -/
theorem period_span {w : Window} {t t' : ℕ} (h : w.period t = w.period t') : t' < t + w.ttl := by
  cases w with
  | hourly =>
    simp only [Window.period, Period.hour.injEq] at h
    obtain ⟨hyear, hmonth, hday, hhour⟩ := h
    have := day_span (Date.ext hyear hmonth hday)
    show t' < t + 7200
    omega
  | daily =>
    simp only [Window.period, Period.day.injEq] at h
    obtain ⟨hyear, hmonth, hday⟩ := h
    have := day_span (Date.ext hyear hmonth hday)
    show t' < t + 86400
    omega
  | monthly =>
    simp only [Window.period, Period.month.injEq] at h
    have := month_span h.1 h.2
    show t' < t + 86400 * 31
    omega

end Solvela.Budget
