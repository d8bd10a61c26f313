import Mathlib.Data.List.Count
import Mathlib.Logic.Function.Basic
import Solvela.Lib.Runs

/-!
# The rate limiter

`RateLimiter` counts the requests of each client identifier in a fixed window that starts with
the first of them. Its map is behind a lock and every call reads its own clock, so a run of the
limiter is a list of checks and cleanups with their times.

Over an interval in which no bucket starts again, a bucket is no more than the number of checks
that named it, modulo `2^32`: `used` is that number and `check_spec`, `cleanup_spec` say how the
two operations move it.
-/

namespace Solvela.RateLimit

open Solvela.Lib

/-- `RateLimitConfig`, in milliseconds. -/
structure RateLimitConfig where
  maxRequests : ℕ
  window : ℕ
  unknownMaxRequests : ℕ

/-- `RateLimitConfig::with_max_requests`: the rest as in the default. -/
def RateLimitConfig.withMaxRequests (max : ℕ) : RateLimitConfig where
  maxRequests := max
  window := 60000
  unknownMaxRequests := 10

/-- `RateLimitEntry`. -/
structure RateLimitEntry where
  count : ℕ
  windowStart : ℕ

/-- The map of the limiter. -/
abbrev Entries := String → Option RateLimitEntry

/-- The limit of a bucket: the shared one is stricter. -/
def RateLimitConfig.limitOf (cfg : RateLimitConfig) (clientId : String) : ℕ :=
  if clientId = "unknown" then cfg.unknownMaxRequests else cfg.maxRequests

/-- The entry that a check at `now` counts in: a new one, or the old one started again if its
window is over. -/
def currentEntry (cfg : RateLimitConfig) (now : ℕ) (entry : Option RateLimitEntry) :
    RateLimitEntry :=
  let entry := entry.getD ⟨0, now⟩
  if now - entry.windowStart ≥ cfg.window then ⟨0, now⟩ else entry

/-- `RateLimiter::check`: what remains, or `none` for `RateLimited`. The count is a `u32`. -/
def check (cfg : RateLimitConfig) (now : ℕ) (entries : Entries) (clientId : String) :
    Option ℕ × Entries :=
  let entry := currentEntry cfg now (entries clientId)
  let count := (entry.count + 1) % 2 ^ 32
  let entries := Function.update entries clientId (some { entry with count := count })
  if count > cfg.limitOf clientId then (none, entries)
  else (some (cfg.limitOf clientId - count), entries)

/-- `RateLimiter::cleanup`, and what `maybe_emergency_cleanup` does when it is not too soon. -/
def cleanup (cfg : RateLimitConfig) (now : ℕ) (entries : Entries) : Entries :=
  fun clientId => (entries clientId).filter fun entry => now - entry.windowStart < cfg.window * 2

/-! ## One window -/

section Window
variable {cfg : RateLimitConfig} {start now : ℕ} {entries : Entries}

/-- No bucket's window ends within the window from `start` on: it is over at `start`, or it starts
later. -/
def WindowFrom (cfg : RateLimitConfig) (start : ℕ) (entries : Entries) : Prop :=
  ∀ clientId entry, entries clientId = some entry →
    entry.windowStart + cfg.window ≤ start ∨ start ≤ entry.windowStart

/-- How often a bucket has been counted in the window. -/
def used (start : ℕ) (entries : Entries) (clientId : String) : ℕ :=
  match entries clientId with
  | some entry => if start ≤ entry.windowStart then entry.count else 0
  | none => 0

/-- A time of the window. -/
def InWindow (cfg : RateLimitConfig) (start now : ℕ) : Prop :=
  start ≤ now ∧ now < start + cfg.window

theorem currentEntry_spec (hwindow : WindowFrom cfg start entries) (hnow : InWindow cfg start now)
    (clientId : String) :
    (currentEntry cfg now (entries clientId)).count = used start entries clientId ∧
      start ≤ (currentEntry cfg now (entries clientId)).windowStart := by
  obtain ⟨hstart, hend⟩ := hnow
  unfold currentEntry used
  cases hentry : entries clientId with
  | none =>
    have hlive : ¬ now - now ≥ cfg.window := by omega
    simp only [Option.getD_none]
    rw [if_neg hlive]
    exact ⟨rfl, hstart⟩
  | some entry =>
    simp only [Option.getD_some]
    rcases hwindow clientId entry hentry with hover | hlater
    · -- the bucket starts again, with this check
      have hexpired : now - entry.windowStart ≥ cfg.window := by omega
      have hold : ¬ start ≤ entry.windowStart := by omega
      rw [if_pos hexpired, if_neg hold]
      exact ⟨rfl, hstart⟩
    · have hlive : ¬ now - entry.windowStart ≥ cfg.window := by omega
      rw [if_neg hlive, if_pos hlater]
      exact ⟨rfl, hlater⟩

/-- A check counts in its own bucket, and passes if the new count is within the limit. -/
theorem check_spec (hwindow : WindowFrom cfg start entries) (hnow : InWindow cfg start now)
    (clientId : String) :
    WindowFrom cfg start (check cfg now entries clientId).2 ∧
    used start (check cfg now entries clientId).2 =
      Function.update (used start entries) clientId
        ((used start entries clientId + 1) % 2 ^ 32) ∧
    ((check cfg now entries clientId).1.isSome ↔
      (used start entries clientId + 1) % 2 ^ 32 ≤ cfg.limitOf clientId) := by
  obtain ⟨hcount, hstart⟩ := currentEntry_spec hwindow hnow clientId
  -- a check writes the entry of its client, whatever its answer
  have hentries : (check cfg now entries clientId).2 =
      Function.update entries clientId
        (some { currentEntry cfg now (entries clientId) with
          count := (used start entries clientId + 1) % 2 ^ 32 }) := by
    unfold check
    rw [← hcount]
    dsimp only
    split <;> rfl
  refine ⟨?_, ?_, ?_⟩
  · intro other entry hentry
    rw [hentries] at hentry
    by_cases hsame : other = clientId
    · rw [hsame, Function.update_self] at hentry
      right
      rw [← Option.some.inj hentry]
      exact hstart
    · rw [Function.update_of_ne hsame] at hentry
      exact hwindow other entry hentry
  -- only the count of that client grows
  · ext other
    rw [hentries]
    unfold used
    by_cases hsame : other = clientId
    · rw [hsame]
      simp only [Function.update_self]
      rw [if_pos hstart]
    · simp only [Function.update_of_ne hsame]
  -- the verdict compares the count that was written
  · unfold check
    simp only [hcount]
    split
    · rename_i hover
      simpa using hover
    · rename_i hwithin
      simpa using hwithin

/-- A cleanup drops no bucket of the window. -/
theorem cleanup_spec (hwindow : WindowFrom cfg start entries) (hnow : InWindow cfg start now) :
    WindowFrom cfg start (cleanup cfg now entries) ∧
      used start (cleanup cfg now entries) = used start entries := by
  obtain ⟨hstart, hend⟩ := hnow
  constructor
  · intro clientId entry hentry
    exact hwindow clientId entry (Option.filter_eq_some_iff.mp hentry).1
  · ext clientId
    unfold used cleanup
    cases hentry : entries clientId with
    | none => rfl
    | some entry =>
      rw [Option.filter_some]
      by_cases hlater : start ≤ entry.windowStart
      · have hkept : now - entry.windowStart < cfg.window * 2 := by omega
        simp only [decide_eq_true hkept, if_true]
      · split
        · rename_i heq
          split at heq
          · rw [Option.some.inj heq]
          · exact absurd heq (by simp)
        · rw [if_neg hlater]

end Window

end Solvela.RateLimit
