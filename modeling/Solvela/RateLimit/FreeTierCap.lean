import Solvela.Lib.Runs

/-!
# The aggregate cap of the free tier

`FreeTierGlobalCap` bounds the free requests of all clients together in each minute of the clock.
Without Redis the count is one in-memory window behind a lock. A call reads its minute before it
takes the lock, so calls of two minutes can enter in any order, and one that finds another minute
in the window starts the window again, also when its own minute is the older one.

A run is a list of steps of any number of concurrent calls and of the clock.
-/

namespace Solvela.RateLimit

open Solvela.Lib

/-- `GlobalWindow`. -/
structure GlobalWindow where
  epochMinute : ℕ
  count : ℕ
deriving DecidableEq

/-- `FreeTierGlobalCap::WINDOW_SECS`. -/
def windowSecs : ℕ := 60

/-- `FreeTierGlobalCap::epoch_minute`, of a clock in seconds: the first minute before the epoch. -/
def epochMinute (clock : ℤ) : ℕ := clock.toNat / windowSecs

/-- `FreeTierGlobalCap::incr_in_memory`: the count after the increment, a `u64`. -/
def incrInMemory (w : GlobalWindow) (minute : ℕ) : GlobalWindow :=
  let w := if w.epochMinute ≠ minute then ⟨minute, 0⟩ else w
  { w with count := (w.count + 1) % 2 ^ 64 }

/-- Where a call of `check` is: it has not begun, has read its minute, or has returned. -/
inductive CapCall
  | idle
  | sampled (minute : ℕ)
  | done (ok : Bool)
deriving DecidableEq

/-- The cap with its window, the calls and the clock. `answered` lists the minutes and the
verdicts of the calls that have returned. -/
structure CapState where
  clock : ℤ
  window : GlobalWindow
  calls : ℕ → CapCall
  answered : List (ℕ × Bool)

/-- A step of the system: the clock moves on, a call reads its minute, a call takes the lock. -/
inductive CapStep
  | tick (secs : ℕ)
  | sample (call : ℕ)
  | enter (call : ℕ)

/-- The second half of `FreeTierGlobalCap::check` without a cache: the count and its verdict. -/
def CapState.answer (cap : ℕ) (s : CapState) (call minute : ℕ) : CapState :=
  let window := incrInMemory s.window minute
  let ok := !decide (window.count > cap)
  { s with
    window := window
    calls := Function.update s.calls call (.done ok)
    answered := s.answered ++ [(minute, ok)] }

/-- One step. The first half of `check` reads the minute. -/
def capStep (cap : ℕ) (s : CapState) : CapStep → CapState
  | .tick secs => { s with clock := s.clock + secs }
  | .sample call =>
    match s.calls call with
    | .idle => { s with calls := Function.update s.calls call (.sampled (epochMinute s.clock)) }
    | _ => s
  | .enter call =>
    match s.calls call with
    | .sampled minute => s.answer cap call minute
    | _ => s

/-- `FreeTierGlobalCap::new`, with no call begun. -/
def CapState.new (clock : ℤ) : CapState where
  clock := clock
  window := ⟨0, 0⟩
  calls := fun _ => .idle
  answered := []

/-- How many calls that read `minute` have returned `Ok`. -/
def okIn (s : CapState) (minute : ℕ) : ℕ := s.answered.count (minute, true)

/-- At most `cap` calls of each minute have returned `Ok`. -/
def WithinCap (cap : ℕ) (s : CapState) : Prop := ∀ minute, okIn s minute ≤ cap

/-- A call that enters has not read an older minute than the window's, and finds room in the
count. -/
def EntersInOrder (s : CapState) : CapStep → Prop
  | .enter call => ∀ minute, s.calls call = .sampled minute →
      s.window.epochMinute ≤ minute ∧ (s.window.epochMinute = minute → s.window.count + 1 < 2 ^ 64)
  | _ => True

/-! ## Calls in order -/

/-- No call of a later minute than the window's has been answered, and the `Ok` answers of the
window's minute are counted in it. -/
structure Counted (cap : ℕ) (s : CapState) : Prop where
  within : WithinCap cap s
  later : ∀ minute, s.window.epochMinute < minute → okIn s minute = 0
  current : okIn s s.window.epochMinute ≤ s.window.count

theorem Counted.new (cap : ℕ) (clock : ℤ) : Counted cap (.new clock) where
  within _ := Nat.zero_le _
  later _ _ := rfl
  current := Nat.zero_le _

theorem count_append_answer (log : List (ℕ × Bool)) (minute other : ℕ) (ok : Bool) :
    (log ++ [(minute, ok)]).count (other, true) =
      log.count (other, true) + if other = minute ∧ ok = true then 1 else 0 := by
  rw [List.count_append]
  by_cases h : other = minute ∧ ok = true
  · rw [if_pos h, h.1, h.2]
    simp
  · rw [if_neg h]
    have hne : (other, true) ∉ [(minute, ok)] := by
      intro hmem
      have heq := List.mem_singleton.mp hmem
      exact h ⟨(Prod.mk.inj heq).1, (Prod.mk.inj heq).2.symm⟩
    rw [List.count_eq_zero_of_not_mem hne]

/-- An answer in order: the window goes on or a later one starts, with this call in its count. -/
theorem Counted.answer {cap : ℕ} {s : CapState} (h : Counted cap s) (call : ℕ) {minute : ℕ}
    (hle : s.window.epochMinute ≤ minute)
    (hroom : s.window.epochMinute = minute → s.window.count + 1 < 2 ^ 64) :
    Counted cap (s.answer cap call minute) := by
  -- what the minute had before, and the window after this call
  obtain ⟨n, hwindow, hok⟩ : ∃ n, incrInMemory s.window minute = ⟨minute, n + 1⟩ ∧
      okIn s minute ≤ n := by
    unfold incrInMemory
    by_cases hsame : s.window.epochMinute = minute
    · have hlt := hroom hsame
      refine ⟨s.window.count, ?_, hsame ▸ h.current⟩
      simp only [hsame, ne_eq, not_true_eq_false, if_false, Nat.mod_eq_of_lt hlt]
    · refine ⟨0, ?_, Nat.le_of_eq (h.later minute (by omega))⟩
      simp only [ne_eq, hsame, not_false_eq_true, if_true, Nat.zero_add]
      rfl
  have hafter (other : ℕ) : okIn (s.answer cap call minute) other =
      okIn s other + if other = minute ∧ n + 1 ≤ cap then 1 else 0 := by
    unfold okIn CapState.answer
    rw [hwindow, count_append_answer]
    simp
  have hnow : (s.answer cap call minute).window = ⟨minute, n + 1⟩ := hwindow
  constructor
  · intro other
    have hold := h.within other
    rw [hafter]
    split
    · rename_i hthis
      rw [hthis.1]
      omega
    · exact hold
  · intro other hlater
    rw [hnow] at hlater
    dsimp only at hlater
    rw [hafter, h.later other (by omega), if_neg (by omega)]
  · rw [hnow]
    dsimp only
    rw [hafter]
    split <;> omega

theorem Counted.step {cap : ℕ} (s : CapState) (step : CapStep) (h : Counted cap s)
    (horder : EntersInOrder s step) : Counted cap (capStep cap s step) := by
  cases step with
  | tick secs => exact ⟨h.within, h.later, h.current⟩
  | sample call =>
    unfold capStep
    dsimp only
    split
    · exact ⟨h.within, h.later, h.current⟩
    · exact h
  | enter call =>
    unfold capStep
    dsimp only
    split
    · rename_i minute hcall
      obtain ⟨hle, hroom⟩ := horder minute hcall
      exact h.answer call hle hroom
    · exact h

/-- If no call takes the lock with an older minute than the window's, at most `cap` calls of each
minute return `Ok`, in every state that the run reaches. -/
theorem withinCap_of_entersInOrder (cap : ℕ) (clock : ℤ) (steps : List CapStep)
    (horder : AllSteps (capStep cap) EntersInOrder (.new clock) steps) (n : ℕ) :
    WithinCap cap (run (capStep cap) (.new clock) (steps.take n)) := by
  rw [← List.take_append_drop n steps, allSteps_append] at horder
  exact (run_invariant_of_allSteps Counted.step (Counted.new cap clock) horder.1).within

/-- Three calls at the end of a minute. The first two read the old minute and the third the new
one, and the third enters between the other two. -/
def minuteBoundary : List CapStep :=
  [.sample 0, .sample 1, .tick 60, .sample 2, .enter 0, .enter 2, .enter 1]

theorem withinCap_in_order :
    WithinCap 1 (run (capStep 1) (.new 0)
      ([.sample 0, .sample 1, .tick 60, .sample 2, .enter 0, .enter 1, .enter 2].take 7)) := by
  apply withinCap_of_entersInOrder
  refine ⟨trivial, trivial, trivial, trivial, ?_, ?_, ?_, trivial⟩
  all_goals
    intro minute hcall
    obtain rfl := CapCall.sampled.inj hcall.symm
    decide

/-- With a cap of one, two calls of the old minute return `Ok`. -/
theorem minute_boundary_over_cap : ¬ WithinCap 1 (run (capStep 1) (.new 0) minuteBoundary) := by
  intro h
  have hle := h 0
  have htwo : okIn (run (capStep 1) (.new 0) minuteBoundary) 0 = 2 := by decide
  omega

end Solvela.RateLimit
