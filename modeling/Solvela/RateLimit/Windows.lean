import Mathlib.Data.List.Induction
import Solvela.RateLimit.Limiter

/-!
# Windows and cleanups

The map of a `RateLimiter` only grows through checks; `cleanup` and the emergency cleanup drop
entries whose window ended at least one window ago. A check of a dropped client counts in a new
entry, one of a kept client starts its entry again: `Pruned` relates a map from which entries have
been dropped to the same map without cleanups, and `check_pruned` says that no check tells them
apart.

Without cleanups the clients are independent, and each is a list of times against one entry
(`clientVerdicts`). A window starts with a check, and no two of a client's windows start within
the window's length of each other.

* `check_pruned` and `verdicts_pruned`, cleanups change no verdict;
* `passed_le_of_live` and `passed_stretch_le`, what passes within one window;
* `exists_two_windows`, how an interval lies across them.
-/

namespace Solvela.RateLimit

/-! ## The limiter and its steps -/

/-- `RateLimiter`: its map, when the emergency cleanup was last claimed, and how many callers have
claimed it without having run it. -/
structure RateLimiter where
  entries : Entries
  lastEmergencyCleanup : Option ℕ
  claimed : ℕ

/-- `RateLimiter::new`. -/
def RateLimiter.new : RateLimiter where
  entries := fun _ => none
  lastEmergencyCleanup := none
  claimed := 0

/-- A critical section of the limiter. The two locks of `maybe_emergency_cleanup` are taken one
after the other. -/
inductive LimiterStep
  | check (now : ℕ) (clientId : String)
  | cleanup (now : ℕ)
  | claimEmergencyCleanup (now : ℕ)
  | emergencyCleanup (now : ℕ)

/-- The clock that a step reads. -/
def LimiterStep.now : LimiterStep → ℕ
  | .check now _ => now
  | .cleanup now => now
  | .claimEmergencyCleanup now => now
  | .emergencyCleanup now => now

def LimiterStep.isCheck : LimiterStep → Bool
  | .check _ _ => true
  | _ => false

/-- What a step leaves behind. -/
def RateLimiter.next (cfg : RateLimitConfig) (s : RateLimiter) : LimiterStep → RateLimiter
  | .check now clientId => { s with entries := (check cfg now s.entries clientId).2 }
  | .cleanup now => { s with entries := cleanup cfg now s.entries }
  | .claimEmergencyCleanup now =>
    if s.lastEmergencyCleanup.any fun last => now - last < 60000 then s
    else { s with lastEmergencyCleanup := some now, claimed := s.claimed + 1 }
  | .emergencyCleanup now =>
    if s.claimed = 0 then s
    else { s with entries := cleanup cfg now s.entries, claimed := s.claimed - 1 }

/-- The answer to a check: what remains, or `none` for `RateLimited`. -/
structure Verdict where
  clientId : String
  now : ℕ
  startsWindow : Bool
  remaining : Option ℕ
deriving DecidableEq

/-- A check at `now` starts a window: there is no entry, or its window is over. -/
def startsWindow (cfg : RateLimitConfig) (now : ℕ) : Option RateLimitEntry → Bool
  | none => true
  | some entry => now - entry.windowStart ≥ cfg.window

def RateLimiter.verdict (cfg : RateLimitConfig) (s : RateLimiter) : LimiterStep → Option Verdict
  | .check now clientId => some
      { clientId, now
        startsWindow := startsWindow cfg now (s.entries clientId)
        remaining := (check cfg now s.entries clientId).1 }
  | _ => none

/-- The verdicts of a run, in order. -/
def verdicts (cfg : RateLimitConfig) : RateLimiter → List LimiterStep → List Verdict
  | _, [] => []
  | s, step :: steps => (s.verdict cfg step).toList ++ verdicts cfg (s.next cfg step) steps

/-- The verdicts of one client. -/
def verdictsOf (clientId : String) (log : List Verdict) : List Verdict :=
  log.filter (·.clientId = clientId)

/-- Consecutive verdicts of a client that were counted in one window: none but the first starts
one. -/
def InOneWindow (stretch : List Verdict) : Prop := ∀ v ∈ stretch.tail, v.startsWindow = false

/-- How many of the verdicts are `Ok`. -/
def passed (log : List Verdict) : ℕ := log.countP (·.remaining.isSome)

/-! ## No check sees a cleanup -/

section Pruned
variable {cfg : RateLimitConfig} {now : ℕ} {full pruned : Entries}

/-- The entries that `pruned` lacks are past their window. -/
structure Pruned (cfg : RateLimitConfig) (now : ℕ) (full pruned : Entries) : Prop where
  past : ∀ clientId entry, full clientId = some entry → entry.windowStart ≤ now
  dropped : ∀ clientId, pruned clientId = full clientId ∨
    pruned clientId = none ∧
      ∀ entry, full clientId = some entry → entry.windowStart + cfg.window ≤ now

theorem Pruned.mono (h : Pruned cfg now full pruned) {later : ℕ} (hle : now ≤ later) :
    Pruned cfg later full pruned where
  past clientId entry hentry := Nat.le_trans (h.past clientId entry hentry) hle
  dropped clientId := (h.dropped clientId).imp id fun ⟨hnone, hover⟩ =>
    ⟨hnone, fun entry hentry => Nat.le_trans (hover entry hentry) hle⟩

/-- A missing entry and one whose window is over come to the same. -/
theorem currentEntry_pruned (h : Pruned cfg now full pruned) (clientId : String) :
    currentEntry cfg now (pruned clientId) = currentEntry cfg now (full clientId) ∧
      startsWindow cfg now (pruned clientId) = startsWindow cfg now (full clientId) := by
  rcases h.dropped clientId with heq | ⟨hnone, hover⟩
  · rw [heq]
    exact ⟨rfl, rfl⟩
  · rw [hnone]
    cases hfull : full clientId with
    | none => exact ⟨rfl, rfl⟩
    | some entry =>
      have hle := hover entry hfull
      have hexpired : now - entry.windowStart ≥ cfg.window := by omega
      constructor
      · simp only [currentEntry, Option.getD_none, Option.getD_some, if_pos hexpired]
        split <;> rfl
      · simp [startsWindow, hexpired]

theorem currentEntry_windowStart_le {old : Option RateLimitEntry}
    (h : ∀ entry, old = some entry → entry.windowStart ≤ now) :
    (currentEntry cfg now old).windowStart ≤ now := by
  unfold currentEntry
  dsimp only
  split
  · exact Nat.le_refl now
  · cases hold : old with
    | none => exact Nat.le_refl now
    | some entry => exact h entry hold

/-- `check` writes the current entry back with one more in its count. -/
theorem check_entries (entries : Entries) (clientId : String) :
    (check cfg now entries clientId).2 = Function.update entries clientId
      (some { currentEntry cfg now (entries clientId) with
        count := ((currentEntry cfg now (entries clientId)).count + 1) % 2 ^ 32 }) := by
  unfold check
  dsimp only
  split <;> rfl

theorem check_pruned (h : Pruned cfg now full pruned) (clientId : String) :
    (check cfg now pruned clientId).1 = (check cfg now full clientId).1 ∧
      Pruned cfg now (check cfg now full clientId).2 (check cfg now pruned clientId).2 := by
  have hentry := (currentEntry_pruned h clientId).1
  constructor
  · unfold check
    rw [hentry]
    dsimp only
    split <;> rfl
  · have hstart := @currentEntry_windowStart_le cfg _ _ (h.past clientId)
    rw [check_entries, check_entries, hentry]
    constructor
    · intro other entry hother
      by_cases hsame : other = clientId
      · rw [hsame, Function.update_self] at hother
        rw [← Option.some.inj hother]
        exact hstart
      · rw [Function.update_of_ne hsame] at hother
        exact h.past other entry hother
    · intro other
      by_cases hsame : other = clientId
      · left
        rw [hsame, Function.update_self, Function.update_self]
      · rw [Function.update_of_ne hsame, Function.update_of_ne hsame]
        exact h.dropped other

theorem cleanup_pruned (h : Pruned cfg now full pruned) :
    Pruned cfg now full (cleanup cfg now pruned) where
  past := h.past
  dropped := by
    intro clientId
    unfold cleanup
    rcases h.dropped clientId with heq | ⟨hnone, hover⟩
    · rw [heq]
      cases hfull : full clientId with
      | none => exact Or.inl rfl
      | some entry =>
        have hpast := h.past clientId entry hfull
        rw [Option.filter_some]
        split
        · exact Or.inl rfl
        · rename_i hdrop
          right
          refine ⟨rfl, ?_⟩
          intro entry' hentry'
          obtain rfl := Option.some.inj hentry'
          have hage : ¬ now - entry.windowStart < cfg.window * 2 := by simpa using hdrop
          omega
    · right
      rw [hnone]
      exact ⟨rfl, hover⟩

end Pruned

/-- Every verdict is the one of the run without cleanups. -/
theorem verdicts_pruned {cfg : RateLimitConfig} {steps : List LimiterStep} {now : ℕ}
    {s full : RateLimiter} (h : Pruned cfg now full.entries s.entries)
    (hlater : ∀ step ∈ steps, now ≤ step.now)
    (hclock : steps.Pairwise fun a b => a.now ≤ b.now) :
    verdicts cfg s steps = verdicts cfg full (steps.filter LimiterStep.isCheck) := by
  induction steps generalizing now s full with
  | nil => rfl
  | cons step steps ih =>
    have hnow : Pruned cfg step.now full.entries s.entries :=
      h.mono (hlater step (List.mem_cons_self ..))
    have hrest := (List.pairwise_cons.mp hclock).2
    have hnext := (List.pairwise_cons.mp hclock).1
    cases step with
    -- a check gives the same verdict on both maps
    | check now clientId =>
      obtain ⟨hanswer, hafter⟩ := check_pruned hnow clientId
      have hstarts := (currentEntry_pruned hnow clientId).2
      rw [List.filter_cons_of_pos rfl]
      have htail : verdicts cfg (s.next cfg (.check now clientId)) steps =
          verdicts cfg (full.next cfg (.check now clientId)) (steps.filter LimiterStep.isCheck) :=
        ih hafter hnext hrest
      have hhead : s.verdict cfg (.check now clientId) =
          full.verdict cfg (.check now clientId) := by
        simp only [LimiterStep.now] at hanswer hstarts
        simp only [RateLimiter.verdict, hanswer, hstarts]
      rw [verdicts, verdicts, hhead, htail]
    -- a cleanup gives none, and prunes the one map only
    | cleanup now =>
      rw [List.filter_cons_of_neg (by simp [LimiterStep.isCheck]), verdicts]
      exact ih (cleanup_pruned hnow) hnext hrest
    | claimEmergencyCleanup now =>
      rw [List.filter_cons_of_neg (by simp [LimiterStep.isCheck]), verdicts]
      refine ih ?_ hnext hrest
      unfold RateLimiter.next
      dsimp only
      split
      · exact hnow
      · exact hnow
    | emergencyCleanup now =>
      rw [List.filter_cons_of_neg (by simp [LimiterStep.isCheck]), verdicts]
      refine ih ?_ hnext hrest
      unfold RateLimiter.next
      dsimp only
      split
      · exact hnow
      · exact cleanup_pruned hnow

/-! ## One client -/

section Client
variable {cfg : RateLimitConfig} {clientId : String}

/-- The entry after a check at `now`. -/
def countedEntry (cfg : RateLimitConfig) (now : ℕ) (old : Option RateLimitEntry) :
    RateLimitEntry :=
  { currentEntry cfg now old with count := ((currentEntry cfg now old).count + 1) % 2 ^ 32 }

/-- The verdict of a check at `now` against a client's entry. -/
def entryVerdict (cfg : RateLimitConfig) (clientId : String) (now : ℕ)
    (old : Option RateLimitEntry) : Verdict where
  clientId := clientId
  now := now
  startsWindow := startsWindow cfg now old
  remaining :=
    if (countedEntry cfg now old).count > cfg.limitOf clientId then none
    else some (cfg.limitOf clientId - (countedEntry cfg now old).count)

/-- The verdicts of a client's checks, one after another against its entry. -/
def clientVerdicts (cfg : RateLimitConfig) (clientId : String) :
    Option RateLimitEntry → List ℕ → List Verdict
  | _, [] => []
  | old, now :: times =>
    entryVerdict cfg clientId now old ::
      clientVerdicts cfg clientId (some (countedEntry cfg now old)) times

/-- The entry after a client's checks. -/
def clientEntry (cfg : RateLimitConfig) : Option RateLimitEntry → List ℕ → Option RateLimitEntry
  | old, [] => old
  | old, now :: times => clientEntry cfg (some (countedEntry cfg now old)) times

/-- The time of a client's check. -/
def LimiterStep.timeOf (clientId : String) : LimiterStep → Option ℕ
  | .check now other => if other = clientId then some now else none
  | _ => none

theorem entryVerdict_eq (entries : Entries) (now : ℕ) :
    (check cfg now entries clientId).1 =
      (entryVerdict cfg clientId now (entries clientId)).remaining := by
  unfold check entryVerdict countedEntry
  dsimp only
  split <;> rfl

/-- Without cleanups, the checks of a client meet only its own entry. -/
theorem verdictsOf_checks {steps : List LimiterStep} (hchecks : ∀ step ∈ steps, step.isCheck)
    (s : RateLimiter) :
    verdictsOf clientId (verdicts cfg s steps) =
      clientVerdicts cfg clientId (s.entries clientId)
        (steps.filterMap (LimiterStep.timeOf clientId)) := by
  induction steps generalizing s with
  | nil => rfl
  | cons step steps ih =>
    have hrest : ∀ step ∈ steps, step.isCheck := fun step hstep =>
      hchecks step (List.mem_cons_of_mem _ hstep)
    cases step with
    | check now other =>
      have htail := ih hrest (s.next cfg (.check now other))
      have hentries : (s.next cfg (.check now other)).entries =
          Function.update s.entries other (some (countedEntry cfg now (s.entries other))) :=
        check_entries s.entries other
      rw [hentries] at htail
      rw [verdicts]
      by_cases hsame : other = clientId
      · rw [hsame] at htail ⊢
        rw [Function.update_self] at htail
        have hhead : s.verdict cfg (.check now clientId) =
            some (entryVerdict cfg clientId now (s.entries clientId)) := by
          simp only [RateLimiter.verdict, entryVerdict_eq]
          rfl
        have htime : LimiterStep.timeOf clientId (.check now clientId) = some now := by
          simp [LimiterStep.timeOf]
        rw [hhead, List.filterMap_cons_some htime, clientVerdicts, ← htail]
        simp [verdictsOf, entryVerdict]
      -- another client's check leaves this one's window alone
      · rw [Function.update_of_ne (fun h => hsame h.symm)] at htail
        rw [List.filterMap_cons_none (by simp [LimiterStep.timeOf, hsame]), ← htail]
        simp [verdictsOf, RateLimiter.verdict, hsame]
    | cleanup now =>
      exact absurd (hchecks _ (List.mem_cons_self ..)) (by simp [LimiterStep.isCheck])
    | claimEmergencyCleanup now =>
      exact absurd (hchecks _ (List.mem_cons_self ..)) (by simp [LimiterStep.isCheck])
    | emergencyCleanup now =>
      exact absurd (hchecks _ (List.mem_cons_self ..)) (by simp [LimiterStep.isCheck])

theorem clientVerdicts_append (old : Option RateLimitEntry) (times later : List ℕ) :
    clientVerdicts cfg clientId old (times ++ later) =
      clientVerdicts cfg clientId old times ++
        clientVerdicts cfg clientId (clientEntry cfg old times) later := by
  induction times generalizing old with
  | nil => rfl
  | cons now times ih =>
    rw [List.cons_append, clientVerdicts, clientVerdicts, ih]
    rfl

theorem clientVerdicts_length (old : Option RateLimitEntry) (times : List ℕ) :
    (clientVerdicts cfg clientId old times).length = times.length := by
  induction times generalizing old with
  | nil => rfl
  | cons now times ih => rw [clientVerdicts, List.length_cons, ih, List.length_cons]

theorem clientVerdicts_now (old : Option RateLimitEntry) (times : List ℕ) :
    (clientVerdicts cfg clientId old times).map (·.now) = times := by
  induction times generalizing old with
  | nil => rfl
  | cons now times ih =>
    rw [clientVerdicts, List.map_cons, ih]
    rfl

/-- A piece of a client's verdicts is what its own times get from the entry before it. -/
theorem clientVerdicts_split {old : Option RateLimitEntry} {times : List ℕ}
    {before after : List Verdict}
    (h : clientVerdicts cfg clientId old times = before ++ after) :
    ∃ first rest, times = first ++ rest ∧ before = clientVerdicts cfg clientId old first ∧
      after = clientVerdicts cfg clientId (clientEntry cfg old first) rest := by
  refine ⟨times.take before.length, times.drop before.length,
    (List.take_append_drop ..).symm, ?_⟩
  rw [← List.take_append_drop before.length times, clientVerdicts_append] at h
  have hlength : before.length ≤ times.length := by
    have := congrArg List.length h
    rw [List.length_append, List.length_append, clientVerdicts_length, clientVerdicts_length,
      List.length_take, List.length_drop] at this
    omega
  have hsplit := List.append_inj h (by rw [clientVerdicts_length, List.length_take]; omega)
  exact ⟨hsplit.1.symm, hsplit.2.symm⟩

/-! ## The limit of a window -/

/-- A check that starts no window counts in the entry as it is. -/
theorem countedEntry_of_live {now : ℕ} {entry : RateLimitEntry}
    (h : startsWindow cfg now (some entry) = false) :
    countedEntry cfg now (some entry) = { entry with count := (entry.count + 1) % 2 ^ 32 } := by
  have hlive : ¬ now - entry.windowStart ≥ cfg.window := by simpa [startsWindow] using h
  simp only [countedEntry, currentEntry, Option.getD_some, if_neg hlive]

/-- A check that starts a window is the first one in its entry. -/
theorem countedEntry_of_starts {now : ℕ} {old : Option RateLimitEntry}
    (h : startsWindow cfg now old = true) : countedEntry cfg now old = ⟨1, now⟩ := by
  cases old with
  | none =>
    simp only [countedEntry, currentEntry, Option.getD_none]
    split <;> rfl
  | some entry =>
    have hover : now - entry.windowStart ≥ cfg.window := by simpa [startsWindow] using h
    simp only [countedEntry, currentEntry, Option.getD_some, if_pos hover]
    rfl

/-- Within a window the `Ok` verdicts use up what the entry has left. -/
theorem passed_le_of_live {times : List ℕ} {entry : RateLimitEntry}
    (hlive : ∀ v ∈ clientVerdicts cfg clientId (some entry) times, v.startsWindow = false)
    (hfew : entry.count + times.length < 2 ^ 32) :
    passed (clientVerdicts cfg clientId (some entry) times) ≤
      cfg.limitOf clientId - entry.count := by
  induction times generalizing entry with
  | nil => exact Nat.zero_le _
  | cons now times ih =>
    rw [clientVerdicts] at hlive ⊢
    rw [List.length_cons] at hfew
    have hcounted := countedEntry_of_live (hlive _ (List.mem_cons_self ..))
    rw [Nat.mod_eq_of_lt (by omega)] at hcounted
    have htail : passed (clientVerdicts cfg clientId (some (countedEntry cfg now (some entry)))
        times) ≤ cfg.limitOf clientId - (entry.count + 1) := by
      rw [hcounted] at hlive ⊢
      apply ih (fun v hv => hlive v (List.mem_cons_of_mem _ hv))
      show entry.count + 1 + times.length < 2 ^ 32
      omega
    unfold passed at htail ⊢
    rw [List.countP_cons]
    split
    · rename_i hok
      -- an `Ok` verdict found the new count within the limit
      have hwithin : ¬ (countedEntry cfg now (some entry)).count > cfg.limitOf clientId := by
        intro hover
        simp [entryVerdict, hover] at hok
      rw [hcounted] at hwithin
      dsimp only at hwithin
      omega
    · omega

theorem passed_append (log later : List Verdict) :
    passed (log ++ later) = passed log + passed later := List.countP_append

/-- A window that starts with the first of its checks has as many `Ok` verdicts as the limit. -/
theorem passed_le_of_starts {now : ℕ} {times : List ℕ} {old : Option RateLimitEntry}
    (hstart : startsWindow cfg now old = true)
    (hlive : ∀ v ∈ clientVerdicts cfg clientId (some (countedEntry cfg now old)) times,
      v.startsWindow = false)
    (hfew : (now :: times).length < 2 ^ 32) :
    passed (clientVerdicts cfg clientId old (now :: times)) ≤ cfg.limitOf clientId := by
  have hcounted := countedEntry_of_starts hstart
  rw [List.length_cons] at hfew
  have htail : passed (clientVerdicts cfg clientId (some (countedEntry cfg now old)) times) ≤
      cfg.limitOf clientId - 1 := by
    rw [hcounted] at hlive ⊢
    apply passed_le_of_live hlive
    show 1 + times.length < 2 ^ 32
    omega
  unfold passed at htail ⊢
  rw [clientVerdicts, List.countP_cons]
  split
  · rename_i hok
    have hwithin : ¬ (countedEntry cfg now old).count > cfg.limitOf clientId := by
      intro hover
      simp [entryVerdict, hover] at hok
    rw [hcounted] at hwithin
    dsimp only at hwithin
    omega
  · omega

theorem clientEntry_append (old : Option RateLimitEntry) (times later : List ℕ) :
    clientEntry cfg old (times ++ later) = clientEntry cfg (clientEntry cfg old times) later := by
  induction times generalizing old with
  | nil => rfl
  | cons now times ih => exact ih _

/-- Verdicts that start no window belong to the window of the stretch before them. -/
theorem InOneWindow.append {stretch more : List Verdict} (h : InOneWindow stretch)
    (hne : stretch ≠ []) (hmore : ∀ v ∈ more, v.startsWindow = false) :
    InOneWindow (stretch ++ more) := by
  intro v hv
  rw [List.tail_append_of_ne_nil hne] at hv
  exact (List.mem_append.mp hv).elim (h v) (hmore v)

/-- The entry of a client that has been checked counts the checks since one that started its
window. -/
theorem exists_window (times : List ℕ) :
    (times = [] ∧ clientEntry cfg none times = none) ∨
      ∃ before first window start, times = before ++ first :: window ∧
        InOneWindow (clientVerdicts cfg clientId (clientEntry cfg none before)
          (first :: window)) ∧
        clientEntry cfg none times = some ⟨(first :: window).length % 2 ^ 32, start⟩ := by
  induction times using List.reverseRecOn with
  | nil => exact Or.inl ⟨rfl, rfl⟩
  | append_singleton times now ih =>
    right
    have hentry : clientEntry cfg none (times ++ [now]) =
        some (countedEntry cfg now (clientEntry cfg none times)) := clientEntry_append ..
    cases hstart : startsWindow cfg now (clientEntry cfg none times) with
    -- a request that starts a window is alone in it
    | true =>
      refine ⟨times, now, [], now, rfl, fun v hv => absurd hv (by simp [clientVerdicts]), ?_⟩
      rw [hentry, countedEntry_of_starts hstart]
      rfl
    -- one that does not joins the window that is there
    | false =>
      rcases ih with ⟨-, hnone⟩ | ⟨before, first, window, start, htimes, hone, hold⟩
      · rw [hnone] at hstart
        exact absurd hstart (by simp [startsWindow])
      · refine ⟨before, first, window ++ [now], start, by rw [htimes]; simp, ?_, ?_⟩
        · rw [← List.cons_append, clientVerdicts_append, ← clientEntry_append, ← htimes]
          apply hone.append (by simp [clientVerdicts])
          intro v hv
          obtain rfl := List.mem_singleton.mp hv
          exact hstart
        · rw [hold] at hstart
          rw [hentry, hold, countedEntry_of_live hstart]
          simp only [List.length_cons, List.length_append, List.length_nil, Nat.mod_add_mod]

/-- A client gets at most its limit in one window. -/
theorem passed_stretch_le {times : List ℕ} {stretch : List Verdict}
    (hfew : ∀ stretch, stretch <:+: clientVerdicts cfg clientId none times →
      InOneWindow stretch → stretch.length < 2 ^ 32)
    (hinterval : stretch <:+: clientVerdicts cfg clientId none times) (hone : InOneWindow stretch) :
    passed stretch ≤ cfg.limitOf clientId := by
  have hlength := hfew stretch hinterval hone
  obtain ⟨a, b, hsplit⟩ := hinterval
  rw [List.append_assoc] at hsplit
  obtain ⟨first, rest, rfl, -, hrest⟩ := clientVerdicts_split hsplit.symm
  obtain ⟨mid, last, rfl, rfl, -⟩ := clientVerdicts_split hrest.symm
  cases mid with
  | nil => exact Nat.zero_le _
  | cons now mid =>
    rw [clientVerdicts_length] at hlength
    have hlive : ∀ v ∈ clientVerdicts cfg clientId
        (some (countedEntry cfg now (clientEntry cfg none first))) mid,
        v.startsWindow = false := hone
    cases hstart : startsWindow cfg now (clientEntry cfg none first) with
    -- a stretch that begins with its window has the whole limit
    | true => exact passed_le_of_starts hstart hlive hlength
    -- otherwise its window has begun before, and some of the limit is used
    | false =>
      rcases @exists_window cfg clientId first with
        ⟨-, hnone⟩ | ⟨before, start, window, at', hfirst, hwindow, hentry⟩
      · rw [hnone] at hstart
        exact absurd hstart (by simp [startsWindow])
      · -- with the checks that the entry already counts, the stretch is still one window
        have hall : ∀ v ∈ clientVerdicts cfg clientId (clientEntry cfg none first) (now :: mid),
            v.startsWindow = false := by
          intro v hv
          rcases List.mem_cons.mp hv with rfl | hv
          · exact hstart
          · exact hlive v hv
        have hjoined := hwindow.append (by simp [clientVerdicts]) hall
        have hpart : clientVerdicts cfg clientId (clientEntry cfg none before) (start :: window) ++
            clientVerdicts cfg clientId (clientEntry cfg none first) (now :: mid) <:+:
            clientVerdicts cfg clientId none (first ++ (now :: mid ++ last)) := by
          refine ⟨clientVerdicts cfg clientId none before, clientVerdicts cfg clientId
            (clientEntry cfg (clientEntry cfg none first) (now :: mid)) last, ?_⟩
          have hbefore : clientVerdicts cfg clientId none first =
              clientVerdicts cfg clientId none before ++
                clientVerdicts cfg clientId (clientEntry cfg none before) (start :: window) := by
            rw [hfirst, clientVerdicts_append]
          rw [clientVerdicts_append, clientVerdicts_append _ (now :: mid), hbefore]
          simp only [List.append_assoc]
        have htotal := hfew _ hpart hjoined
        rw [List.length_append, clientVerdicts_length, clientVerdicts_length] at htotal
        rw [Nat.mod_eq_of_lt (by omega)] at hentry
        rw [hentry] at hall ⊢
        have hle := passed_le_of_live hall htotal
        omega

/-! ## The limit of an interval -/

/-- A client's next window starts no sooner than the window's length after the start of the one
that its entry is in. -/
theorem starts_after {times : List ℕ} {entry : RateLimitEntry}
    (hafter : ∀ now ∈ times, entry.windowStart ≤ now) (hsorted : times.Pairwise (· ≤ ·))
    {v : Verdict} (hv : v ∈ clientVerdicts cfg clientId (some entry) times)
    (hstart : v.startsWindow = true) : entry.windowStart + cfg.window ≤ v.now := by
  induction times generalizing entry with
  | nil => exact absurd hv (by simp [clientVerdicts])
  | cons now times ih =>
    have hnow := hafter now (List.mem_cons_self ..)
    obtain ⟨hlater, hrest⟩ := List.pairwise_cons.mp hsorted
    rw [clientVerdicts] at hv
    rcases List.mem_cons.mp hv with rfl | hv
    · have hover : now - entry.windowStart ≥ cfg.window := by
        simpa [entryVerdict, startsWindow] using hstart
      show entry.windowStart + cfg.window ≤ now
      omega
    · cases hfirst : startsWindow cfg now (some entry) with
      | true =>
        rw [countedEntry_of_starts hfirst] at hv
        have hnext := ih hlater hrest hv
        dsimp only at hnext
        omega
      | false =>
        rw [countedEntry_of_live hfirst] at hv
        have hnext := @ih { entry with count := (entry.count + 1) % 2 ^ 32 }
          (fun t ht => Nat.le_trans hnow (hlater t ht)) hrest hv
        exact hnext

/-- Two windows of a client start at least the window's length apart. -/
theorem starts_apart {times : List ℕ} (hsorted : times.Pairwise (· ≤ ·))
    (old : Option RateLimitEntry) :
    (clientVerdicts cfg clientId old times).Pairwise fun v v' =>
      v.startsWindow = true → v'.startsWindow = true → v.now + cfg.window ≤ v'.now := by
  induction times generalizing old with
  | nil => exact List.Pairwise.nil
  | cons now times ih =>
    obtain ⟨hlater, hrest⟩ := List.pairwise_cons.mp hsorted
    rw [clientVerdicts, List.pairwise_cons]
    refine ⟨?_, ih hrest _⟩
    intro v hv hfirst hstart
    rw [countedEntry_of_starts hfirst] at hv
    exact starts_after hlater hrest hv hstart

/-- A stretch that starts at most one window after its first verdict is part of two windows. -/
theorem exists_two_windows {stretch : List Verdict}
    (h : stretch.tail.Pairwise fun v v' => v.startsWindow = true → v'.startsWindow = false) :
    ∃ first second, stretch = first ++ second ∧ InOneWindow first ∧ InOneWindow second := by
  cases stretch with
  | nil => exact ⟨[], [], rfl, fun v hv => absurd hv (by simp), fun v hv => absurd hv (by simp)⟩
  | cons v stretch =>
    rw [List.tail_cons] at h
    induction stretch generalizing v with
    | nil => exact ⟨[v], [], rfl, fun w hw => absurd hw (by simp), fun w hw => absurd hw (by simp)⟩
    | cons w stretch ih =>
      obtain ⟨hhead, hrest⟩ := List.pairwise_cons.mp h
      cases hstart : w.startsWindow with
      | true => exact ⟨[v], w :: stretch, rfl, fun u hu => absurd hu (by simp), fun u hu =>
          hhead u hu hstart⟩
      | false =>
        obtain ⟨first, second, hsplit, hone, htwo⟩ := ih w hrest
        refine ⟨v :: first, second, by rw [hsplit]; rfl, ?_, htwo⟩
        intro u hu
        rw [List.tail_cons] at hu
        cases first with
        | nil => exact absurd hu (by simp)
        | cons x first =>
          obtain ⟨rfl, -⟩ := List.cons.inj hsplit
          rcases List.mem_cons.mp hu with rfl | hu
          · exact hstart
          · exact hone u hu

/-- What falls into an interval of an ordered list is one piece of it. -/
theorem filter_interval_isInfix {α : Type*} (f : α → ℕ) {l : List α}
    (h : l.Pairwise fun a b => f a ≤ f b) (t u : ℕ) :
    l.filter (fun a => t ≤ f a ∧ f a < u) <:+: l := by
  induction l with
  | nil => exact List.infix_refl _
  | cons a l ih =>
    obtain ⟨hle, hrest⟩ := List.pairwise_cons.mp h
    by_cases ht : t ≤ f a
    · -- from here on nothing is too early, so what is left is a prefix
      have hprefix : ∀ m : List α, (∀ b ∈ m, t ≤ f b) → (m.Pairwise fun a b => f a ≤ f b) →
          m.filter (fun b => t ≤ f b ∧ f b < u) <+: m := by
        intro m
        induction m with
        | nil => exact fun _ _ => List.prefix_refl _
        | cons b m ihm =>
          intro hge hm
          obtain ⟨hble, hmrest⟩ := List.pairwise_cons.mp hm
          have hb := hge b (List.mem_cons_self ..)
          by_cases hu : f b < u
          · rw [List.filter_cons_of_pos (by simp [hb, hu])]
            exact (List.prefix_cons_inj b).mpr
              (ihm (fun c hc => hge c (List.mem_cons_of_mem b hc)) hmrest)
          -- nor does anything come back once one element is too late
          · have hnone : (b :: m).filter (fun b => t ≤ f b ∧ f b < u) = [] := by
              rw [List.filter_eq_nil_iff]
              intro c hc
              have hbc : f b ≤ f c := by
                rcases List.mem_cons.mp hc with rfl | hc
                · exact Nat.le_refl _
                · exact hble c hc
              simp only [decide_eq_true_eq]
              omega
            rw [hnone]
            exact List.nil_prefix
      apply List.IsPrefix.isInfix
      apply hprefix (a :: l) _ h
      intro b hb
      rcases List.mem_cons.mp hb with rfl | hb
      · exact ht
      · exact Nat.le_trans ht (hle b hb)
    -- what is too early is dropped
    · rw [List.filter_cons_of_neg (by simp [ht])]
      exact (ih hrest).trans (List.infix_cons (List.infix_refl l))

/-- A client gets at most twice its limit in an interval no longer than the window. -/
theorem passed_interval_le {times : List ℕ} (hsorted : times.Pairwise (· ≤ ·))
    (hfew : ∀ stretch, stretch <:+: clientVerdicts cfg clientId none times →
      InOneWindow stretch → stretch.length < 2 ^ 32) (t : ℕ) :
    passed ((clientVerdicts cfg clientId none times).filter
      fun v => t ≤ v.now ∧ v.now < t + cfg.window) ≤ 2 * cfg.limitOf clientId := by
  have hordered : (clientVerdicts cfg clientId none times).Pairwise fun v v' => v.now ≤ v'.now := by
    have hmap : ((clientVerdicts cfg clientId none times).map (·.now)).Pairwise (· ≤ ·) := by
      rw [clientVerdicts_now]
      exact hsorted
    exact List.pairwise_map.mp hmap
  have hinterval := filter_interval_isInfix (fun v : Verdict => v.now) hordered t (t + cfg.window)
  have hapart := (@starts_apart cfg clientId _ hsorted none).sublist
    hinterval.sublist
  -- two starts in the interval would be the window's length apart
  have htwo : ((clientVerdicts cfg clientId none times).filter
      fun v => t ≤ v.now ∧ v.now < t + cfg.window).Pairwise
        fun v v' => v.startsWindow = true → v'.startsWindow = false := by
    apply List.Pairwise.imp_of_mem _ hapart
    intro v v' hv hv' himp hstart
    have hin := of_decide_eq_true (List.mem_filter.mp hv).2
    have hin' := of_decide_eq_true (List.mem_filter.mp hv').2
    by_contra hne
    have hle := himp hstart (by simpa using hne)
    omega
  obtain ⟨first, second, hsplit, hone, htwo'⟩ :=
    exists_two_windows (htwo.sublist (List.tail_sublist _))
  rw [hsplit] at hinterval ⊢
  have hle₁ := passed_stretch_le hfew ((List.prefix_append first second).isInfix.trans hinterval) hone
  have hle₂ := passed_stretch_le hfew ((List.suffix_append first second).isInfix.trans hinterval) htwo'
  rw [passed_append]
  omega

end Client

/-! ## The limiter -/

/-- Cleanups change no verdict, a client gets at most its limit in one window, and at most twice
its limit in an interval no longer than the window. -/
theorem limiter_bounds (cfg : RateLimitConfig) (steps : List LimiterStep)
    (hclock : steps.Pairwise fun a b => a.now ≤ b.now)
    (hfew : ∀ clientId stretch, stretch <:+: verdictsOf clientId (verdicts cfg .new steps) →
      InOneWindow stretch → stretch.length < 2 ^ 32) :
    verdicts cfg .new steps = verdicts cfg .new (steps.filter LimiterStep.isCheck) ∧
    (∀ clientId stretch, stretch <:+: verdictsOf clientId (verdicts cfg .new steps) →
      InOneWindow stretch → passed stretch ≤ cfg.limitOf clientId) ∧
    ∀ clientId t, passed ((verdictsOf clientId (verdicts cfg .new steps)).filter
      fun v => t ≤ v.now ∧ v.now < t + cfg.window) ≤ 2 * cfg.limitOf clientId := by
  have hpruned : Pruned cfg 0 RateLimiter.new.entries RateLimiter.new.entries :=
    ⟨fun _ _ h => absurd h (by simp [RateLimiter.new]), fun _ => Or.inl rfl⟩
  have hsame : verdicts cfg .new steps = verdicts cfg .new (steps.filter LimiterStep.isCheck) :=
    verdicts_pruned hpruned (fun _ _ => Nat.zero_le _) hclock
  -- each client's verdicts are its own times against a missing entry
  have hclient (clientId : String) : verdictsOf clientId (verdicts cfg .new steps) =
      clientVerdicts cfg clientId none
        ((steps.filter LimiterStep.isCheck).filterMap (LimiterStep.timeOf clientId)) := by
    rw [hsame]
    exact verdictsOf_checks (fun step hstep => (List.mem_filter.mp hstep).2) .new
  have hsorted (clientId : String) : ((steps.filter LimiterStep.isCheck).filterMap
      (LimiterStep.timeOf clientId)).Pairwise (· ≤ ·) := by
    apply List.Pairwise.filterMap _ _ (hclock.sublist (List.filter_sublist ..))
    intro a b hle now hnow now' hnow'
    cases a with
    | check at' other =>
      cases b with
      | check bt other' =>
        simp only [LimiterStep.timeOf, Option.ite_none_right_eq_some,
          Option.some.injEq] at hnow hnow'
        rw [← hnow.2, ← hnow'.2]
        exact hle
      | _ => exact absurd hnow' (by simp [LimiterStep.timeOf])
    | _ => exact absurd hnow (by simp [LimiterStep.timeOf])
  refine ⟨hsame, ?_, ?_⟩
  · intro clientId stretch hinterval hone
    have hfew' := hfew clientId
    rw [hclient] at hfew' hinterval
    exact passed_stretch_le hfew' hinterval hone
  · intro clientId t
    have hfew' := hfew clientId
    rw [hclient] at hfew' ⊢
    exact passed_interval_le (hsorted clientId) hfew' t

/-- Two checks of one client, a cleanup after both windows, and a third check. -/
def exampleSteps : List LimiterStep :=
  [.check 0 "10.0.0.1", .check 1 "10.0.0.1", .cleanup 120000, .check 120000 "10.0.0.1"]

theorem limiter_bounds_example :
    verdicts (.withMaxRequests 1) .new exampleSteps =
        verdicts (.withMaxRequests 1) .new (exampleSteps.filter LimiterStep.isCheck) ∧
      (verdicts (.withMaxRequests 1) .new exampleSteps).map (·.remaining) =
        [some 0, none, some 0] := by
  refine ⟨(limiter_bounds (.withMaxRequests 1) exampleSteps (by decide) ?_).1, by decide⟩
  intro clientId stretch hinterval _
  have hle : stretch.length ≤ 3 := Nat.le_trans hinterval.length_le (List.length_filter_le ..)
  omega

end Solvela.RateLimit
