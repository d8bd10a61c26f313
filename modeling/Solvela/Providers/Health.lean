import Mathlib.Data.Rat.Defs
import Mathlib.Order.Defs.LinearOrder
import Mathlib.Tactic.Ring

/-!
# Provider health and circuit breakers

The tracker keeps one circuit per provider and one per model of a provider. A circuit opens when
too many of its recent calls failed, lets one probe through after a cooldown, and closes or opens
again with the next outcome that is recorded for it.

A check of a circuit and the record of an outcome each run under the write lock of one map, so
each is one atomic step, at one instant of the clock. The two maps are one map here, whose keys
say which of the two they are in. The latency average is left out: no decision reads it.
-/

namespace Solvela.Providers

/-- `CircuitState`. -/
inductive CircuitState
  | closed
  | «open»
  | halfOpen
deriving DecidableEq, Repr

/-- `CircuitBreakerConfig`, in milliseconds. -/
structure CircuitBreakerConfig where
  failureThreshold : ℚ
  cooldown : ℕ
  window : ℕ
  minRequests : ℕ

/-- The defaults of `CircuitBreakerConfig`. -/
def CircuitBreakerConfig.default : CircuitBreakerConfig where
  failureThreshold := 1 / 2
  cooldown := 30000
  window := 60000
  minRequests := 5

/-- One entry of `outcomes`. -/
structure Outcome where
  time : ℕ
  success : Bool
  latencyMs : ℕ
deriving DecidableEq

/-- `ProviderHealth`. -/
structure ProviderHealth where
  outcomes : List Outcome
  state : CircuitState
  openedAt : Option ℕ
  probeInFlight : Bool
deriving DecidableEq

/-- `ProviderHealth::new`. -/
def ProviderHealth.new : ProviderHealth where
  outcomes := []
  state := .closed
  openedAt := none
  probeInFlight := false

namespace ProviderHealth

variable (cfg : CircuitBreakerConfig) (now : ℕ) (h : ProviderHealth)

/-- `cleanup_old_outcomes`. -/
def cleanupOldOutcomes : ProviderHealth :=
  { h with outcomes := h.outcomes.filter fun o => now ≤ o.time + cfg.window * 2 }

/-- `evaluate_circuit` and `evaluate_model_circuit`, which differ in what they log. -/
def evaluateCircuit : ProviderHealth :=
  let recent := h.outcomes.filter fun o => now ≤ o.time + cfg.window
  if recent.length % 2 ^ 32 < cfg.minRequests then h
  else
    let failures := (recent.filter fun o => !o.success).length
    let failureRate : ℚ := failures / recent.length
    if cfg.failureThreshold ≤ failureRate ∧ h.state = .closed then
      { h with state := .open, openedAt := some now }
    else h

/-- What `record_success` and `record_model_success` do to an entry. -/
def recordSuccess (latencyMs : ℕ) : ProviderHealth :=
  let h := { h with outcomes := h.outcomes ++ [Outcome.mk now true latencyMs] }
  let h := if h.state = .halfOpen then { h with state := .closed, openedAt := none } else h
  let h := { h with probeInFlight := false }
  h.cleanupOldOutcomes cfg now

/-- What `record_failure` and `record_model_failure` do to an entry. -/
def recordFailure (latencyMs : ℕ) : ProviderHealth :=
  let h := { h with outcomes := h.outcomes ++ [Outcome.mk now false latencyMs] }
  if h.state = .halfOpen then
    { h with state := .open, openedAt := some now, probeInFlight := false }
  else
    let h := { h with probeInFlight := false }
    (h.cleanupOldOutcomes cfg now).evaluateCircuit cfg now

/-- An outcome of either kind. -/
def record (success : Bool) (latencyMs : ℕ) : ProviderHealth :=
  if success then h.recordSuccess cfg now latencyMs else h.recordFailure cfg now latencyMs

/-- What `is_available` and `is_model_available` answer for an entry, and leave of it. -/
def check : Bool × ProviderHealth :=
  match h.state with
  | .closed => (true, h)
  | .halfOpen => if h.probeInFlight then (false, h) else (true, { h with probeInFlight := true })
  | .open =>
    match h.openedAt with
    | some openedAt =>
      if cfg.cooldown ≤ now - openedAt then
        (true, { h with state := .halfOpen, probeInFlight := true })
      else (false, h)
    | none => (false, h)

end ProviderHealth

/-! ## The tracker -/

/-- A key of `providers` or of `models`. -/
inductive Circuit
  | provider (name : String)
  | model (key : String)
deriving DecidableEq

/-- `model_key`. -/
def modelKey (provider model : String) : Circuit := .model (provider ++ ":" ++ model)

/-- `ProviderHealthTracker`: its two maps. -/
abbrev Tracker := Circuit → Option ProviderHealth

namespace Tracker

variable (cfg : CircuitBreakerConfig) (now : ℕ) (t : Tracker) (c : Circuit)

/-- `is_available` and `is_model_available`: an unknown entry is available and stays unknown. -/
def isAvailable : Bool × Tracker :=
  match t c with
  | none => (true, t)
  | some h => ((h.check cfg now).1, Function.update t c (some (h.check cfg now).2))

/-- One entry of `record_success` or `record_failure`, or the model part of their model forms:
an unknown entry is made first. -/
def record (success : Bool) (latencyMs : ℕ) : Tracker :=
  Function.update t c (some (((t c).getD .new).record cfg now success latencyMs))

/-- The state of a circuit: `get_state`, `get_model_state`. -/
def stateOf : CircuitState := ((t c).map (·.state)).getD .closed

/-- The probe slot of a circuit is taken. -/
def probing : Bool := ((t c).map (·.probeInFlight)).getD false

end Tracker

/-! ## What a check and a record do to one circuit -/

section Circuits
variable {cfg : CircuitBreakerConfig} {now : ℕ} {h : ProviderHealth}

/-- Evaluating a circuit can open it, and does nothing else to it. -/
theorem ProviderHealth.evaluateCircuit_spec :
    (h.evaluateCircuit cfg now).probeInFlight = h.probeInFlight ∧
      (h.state ≠ .halfOpen → (h.evaluateCircuit cfg now).state ≠ .halfOpen) := by
  unfold ProviderHealth.evaluateCircuit
  dsimp only
  split_ifs with hfew hrate
  · exact ⟨rfl, id⟩
  · exact ⟨rfl, fun _ => by simp⟩
  · exact ⟨rfl, id⟩

/-- An outcome frees the probe slot and leaves no circuit half-open. -/
theorem ProviderHealth.record_spec (success : Bool) (latencyMs : ℕ) :
    (h.record cfg now success latencyMs).probeInFlight = false ∧
      (h.record cfg now success latencyMs).state ≠ .halfOpen := by
  unfold ProviderHealth.record
  cases success with
  | true =>
    simp only [if_true, ProviderHealth.recordSuccess, ProviderHealth.cleanupOldOutcomes]
    by_cases hhalf : h.state = .halfOpen
    · simp [hhalf]
    · simp [hhalf]
  | false =>
    simp only [Bool.false_eq_true, if_false, ProviderHealth.recordFailure]
    by_cases hhalf : h.state = .halfOpen
    · simp [hhalf]
    · simp only [hhalf, if_false]
      exact ⟨evaluateCircuit_spec.1, evaluateCircuit_spec.2 hhalf⟩

/-- A check is refused and changes nothing, passes a closed circuit and changes nothing, or takes
the free probe slot of a circuit that was not closed. -/
theorem ProviderHealth.check_cases (cfg : CircuitBreakerConfig) (now : ℕ) (h : ProviderHealth) :
    (h.check cfg now = (false, h)) ∨
    (h.state = .closed ∧ h.check cfg now = (true, h)) ∨
    (h.state ≠ .closed ∧ (h.state = .halfOpen → h.probeInFlight = false) ∧
      h.check cfg now = (true, { h with state := .halfOpen, probeInFlight := true })) := by
  unfold ProviderHealth.check
  cases hstate : h.state with
  | closed => simp
  | halfOpen =>
    cases hprobe : h.probeInFlight with
    | true => simp
    | false =>
      right
      right
      exact ⟨by simp, by simp, by simp⟩
  | «open» =>
    cases h.openedAt with
    | none => simp
    | some openedAt =>
      by_cases hcool : cfg.cooldown ≤ now - openedAt
      · simp [hcool]
      · simp [hcool]

end Circuits

section Trackers
variable {cfg : CircuitBreakerConfig} {now : ℕ} {t : Tracker} {c : Circuit}

@[simp] theorem Tracker.probing_of_some {h : ProviderHealth} (hc : t c = some h) :
    t.probing c = h.probeInFlight := by
  simp [Tracker.probing, hc]

@[simp] theorem Tracker.stateOf_of_some {h : ProviderHealth} (hc : t c = some h) :
    t.stateOf c = h.state := by
  simp [Tracker.stateOf, hc]

theorem Tracker.stateOf_congr {t' : Tracker} (h : t' c = t c) : t'.stateOf c = t.stateOf c := by
  unfold Tracker.stateOf
  rw [h]

theorem Tracker.probing_congr {t' : Tracker} (h : t' c = t c) : t'.probing c = t.probing c := by
  unfold Tracker.probing
  rw [h]

/-- A record frees the slot of its circuit. -/
theorem Tracker.record_probing (success : Bool) (latencyMs : ℕ) :
    (t.record cfg now c success latencyMs).probing c = false := by
  simp [Tracker.probing, Tracker.record, ProviderHealth.record_spec]

/-- After a record its circuit is not half-open. -/
theorem Tracker.record_stateOf (success : Bool) (latencyMs : ℕ) :
    (t.record cfg now c success latencyMs).stateOf c ≠ .halfOpen := by
  simp [Tracker.stateOf, Tracker.record, ProviderHealth.record_spec]

theorem Tracker.record_other (cfg : CircuitBreakerConfig) (now : ℕ) (t : Tracker)
    (success : Bool) (latencyMs : ℕ) {c' : Circuit} (hne : c' ≠ c) :
    (t.record cfg now c success latencyMs) c' = t c' := by
  simp [Tracker.record, hne]

/-- What a check of one circuit does to the tracker: the three cases of `check_cases`, the unknown
entry among the closed ones. -/
theorem Tracker.isAvailable_cases (cfg : CircuitBreakerConfig) (now : ℕ) (t : Tracker)
    (c : Circuit) :
    t.isAvailable cfg now c = (false, t) ∨
    (t.stateOf c = .closed ∧ t.isAvailable cfg now c = (true, t)) ∨
    (t.stateOf c ≠ .closed ∧ (t.stateOf c = .halfOpen → t.probing c = false) ∧
      (t.isAvailable cfg now c).1 = true ∧
      (t.isAvailable cfg now c).2.stateOf c = .halfOpen ∧
      (t.isAvailable cfg now c).2.probing c = true ∧
      ∀ c', c' ≠ c → (t.isAvailable cfg now c).2 c' = t c') := by
  cases hc : t c with
  -- a circuit that is not known is closed
  | none =>
    right
    left
    exact ⟨by simp [Tracker.stateOf, hc], by simp [Tracker.isAvailable, hc]⟩
  | some h =>
    have hself : Function.update t c (some h) = t := by
      rw [← hc]
      exact Function.update_eq_self c t
    have hrun : t.isAvailable cfg now c
        = ((h.check cfg now).1, Function.update t c (some (h.check cfg now).2)) := by
      simp [Tracker.isAvailable, hc]
    rw [Tracker.stateOf_of_some hc, Tracker.probing_of_some hc, hrun]
    -- a check refuses, passes a closed circuit, or takes the probe
    rcases h.check_cases cfg now with hcheck | ⟨hclosed, hcheck⟩ | ⟨hopen, hfree, hcheck⟩
    · left
      rw [hcheck, hself]
    · right
      left
      rw [hcheck, hself]
      exact ⟨hclosed, rfl⟩
    · right
      right
      rw [hcheck]
      refine ⟨hopen, hfree, rfl, ?_, ?_, ?_⟩
      · simp [Tracker.stateOf]
      · simp [Tracker.probing]
      · intro c' hne
        exact Function.update_of_ne hne _ _

end Trackers

end Solvela.Providers
