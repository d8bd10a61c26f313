import Mathlib.Algebra.BigOperators.Group.List.Basic
import Mathlib.Data.List.Induction

/-!
# Runs of a labelled system

A system is a total step function `step : σ → ι → σ`: the label says which party moves and
with which data, and a label that is not enabled leaves the state as it is. A run is then a
plain list of labels, so "for every interleaving" is "for every list".

* `run` executes a list of labels, `run_append` cuts a run at any point;
* `run_invariant` lifts a one-step fact to whole runs, `run_history` one that also speaks of
  the labels so far;
* `AllSteps` says that a condition holds of the state and the label at every step of a run,
  and `run_invariant_of_allSteps` is the invariant rule under such a condition;
* `SomeStep` says that it holds at some step;
* `forall_set` splits a fact about a family of processes into the one that moves and the others,
  and `sum_map_set` a sum over a list of them;
* `Between` is about any two events of a log and what was logged between them.
-/

namespace Solvela.Lib

section Runs
variable {σ ι : Type*} (step : σ → ι → σ)

/-- The state after the labels of `as`, from `s`. -/
def run (s : σ) (as : List ι) : σ := as.foldl step s

@[simp] theorem run_nil (s : σ) : run step s [] = s := rfl

@[simp] theorem run_cons (s : σ) (a : ι) (as : List ι) :
    run step s (a :: as) = run step (step s a) as := rfl

theorem run_append (s : σ) (as bs : List ι) :
    run step s (as ++ bs) = run step (run step s as) bs :=
  List.foldl_append

variable {step}

/-- An invariant of every step is an invariant of every run. -/
theorem run_invariant {I : σ → Prop} (hstep : ∀ s a, I s → I (step s a)) {s : σ} (hs : I s)
    (as : List ι) : I (run step s as) := by
  induction as generalizing s with
  | nil => exact hs
  | cons a as ih => exact ih (hstep s a hs)

/-- The invariant rule for a property of the state and its history. -/
theorem run_history {H : List ι → σ → Prop} {s : σ} (hinit : H [] s)
    (hstep : ∀ as a, H as (run step s as) → H (as ++ [a]) (step (run step s as) a))
    (as : List ι) : H as (run step s as) := by
  induction as using List.reverseRecOn with
  | nil => exact hinit
  | append_singleton as a ih =>
    rw [run_append]
    exact hstep as a ih

variable (step)

/-- The condition `C` holds of the state and the label at every step of the run. -/
def AllSteps (C : σ → ι → Prop) : σ → List ι → Prop
  | _, [] => True
  | s, a :: as => C s a ∧ AllSteps C (step s a) as

instance instDecidableAllSteps {C : σ → ι → Prop} [∀ s a, Decidable (C s a)] :
    ∀ (s : σ) (as : List ι), Decidable (AllSteps step C s as)
  | _, [] => inferInstanceAs (Decidable True)
  | s, a :: as =>
    have : Decidable (AllSteps step C (step s a) as) := instDecidableAllSteps (step s a) as
    inferInstanceAs (Decidable (_ ∧ _))

variable {step}

theorem allSteps_append {C : σ → ι → Prop} {s : σ} {as bs : List ι} :
    AllSteps step C s (as ++ bs) ↔
      AllSteps step C s as ∧ AllSteps step C (run step s as) bs := by
  induction as generalizing s with
  | nil => simp [AllSteps]
  | cons a as ih => simp [AllSteps, ih, and_assoc]

/-- A condition on the labels alone. -/
theorem allSteps_of_forall {C : ι → Prop} {s : σ} {as : List ι} (h : ∀ a ∈ as, C a) :
    AllSteps step (fun _ a => C a) s as := by
  induction as generalizing s with
  | nil => trivial
  | cons a as ih =>
    exact ⟨h a (List.mem_cons_self ..), ih fun b hb => h b (List.mem_cons_of_mem a hb)⟩

/-- Every step, with the run before it. -/
theorem allSteps_of_split {C : σ → ι → Prop} {s : σ} {as : List ι}
    (h : ∀ bs a cs, as = bs ++ a :: cs → C (run step s bs) a) : AllSteps step C s as := by
  induction as generalizing s with
  | nil => trivial
  | cons a as ih =>
    refine ⟨h [] a as rfl, ih ?_⟩
    intro bs b cs hsplit
    exact h (a :: bs) b cs (congrArg (a :: ·) hsplit)

/-- A condition on every step gives, under an invariant that it keeps, another one on every
step. -/
theorem allSteps_imp {C P : σ → ι → Prop} {I : σ → Prop}
    (hinv : ∀ s a, I s → C s a → I (step s a)) (himp : ∀ s a, I s → C s a → P s a) {s : σ}
    {as : List ι} (hs : I s) (hC : AllSteps step C s as) : AllSteps step P s as := by
  induction as generalizing s with
  | nil => trivial
  | cons a as ih => exact ⟨himp s a hs hC.1, ih (hinv s a hs hC.1) hC.2⟩

/-- The invariant rule for runs all of whose steps meet a condition. -/
theorem run_invariant_of_allSteps {C : σ → ι → Prop} {I : σ → Prop}
    (hstep : ∀ s a, I s → C s a → I (step s a)) {s : σ} {as : List ι} (hs : I s)
    (hC : AllSteps step C s as) : I (run step s as) := by
  induction as generalizing s with
  | nil => exact hs
  | cons a as ih => exact ih (hstep s a hs hC.1) hC.2

variable (step)

/-- Some step of the run starts in a state and takes a label that `P` holds of. -/
def SomeStep (P : σ → ι → Prop) : σ → List ι → Prop
  | _, [] => False
  | s, a :: as => P s a ∨ SomeStep P (step s a) as

variable {step}

theorem someStep_append {P : σ → ι → Prop} {s : σ} {as bs : List ι} :
    SomeStep step P s (as ++ bs) ↔
      SomeStep step P s as ∨ SomeStep step P (run step s as) bs := by
  induction as generalizing s with
  | nil => simp [SomeStep]
  | cons a as ih => simp [SomeStep, ih, or_assoc]

end Runs

/-- What holds of the process that moves, and of the others as they are, holds of all. -/
theorem forall_set {α : Type*} {f : ℕ → α} {i : ℕ} {a : α} {P : ℕ → α → Prop} (hself : P i a)
    (hother : ∀ j, j ≠ i → P j (f j)) (j : ℕ) : P j (if j = i then a else f j) := by
  by_cases hj : j = i
  · rw [if_pos hj, hj]
    exact hself
  · rw [if_neg hj]
    exact hother j hj

/-- What one process contributes to a sum is replaced when it moves. -/
theorem sum_map_set {α M : Type*} [AddCommMonoid M] (f : α → M) {l : List α} {i : ℕ} {a : α}
    (h : l[i]? = some a) (b : α) : ((l.set i b).map f).sum + f a = (l.map f).sum + f b := by
  induction l generalizing i with
  | nil => simp at h
  | cons c l ih =>
    cases i with
    | zero =>
      have hc : c = a := by simpa using h
      rw [hc]
      simp only [List.set_cons_zero, List.map_cons, List.sum_cons]
      rw [add_comm (f b + _), add_comm (f b), add_assoc]
    | succ i =>
      have htail := ih (i := i) (by simpa using h)
      simp only [List.set_cons_succ, List.map_cons, List.sum_cons]
      rw [add_assoc, htail, add_assoc]

/-! ## Pairs of events in a log -/

section Log
variable {α : Type*}

/-- `R` holds of any two events of the log, with what was logged between them. -/
def Between (R : α → List α → α → Prop) (log : List α) : Prop :=
  ∀ l₁ a l₂ b l₃, log = l₁ ++ a :: (l₂ ++ b :: l₃) → R a l₂ b

theorem between_nil (R : α → List α → α → Prop) : Between R [] := by
  intro l₁ a l₂ b l₃ h
  exact absurd h (by simp)

/-- Where an event of a longer log stands: it is the new one, or one of the old ones. -/
theorem split_append_singleton {log l₁ l₂ : List α} {a e : α}
    (h : log ++ [e] = l₁ ++ a :: l₂) :
    (l₂ = [] ∧ a = e ∧ log = l₁) ∨ ∃ l, l₂ = l ++ [e] ∧ log = l₁ ++ a :: l := by
  rcases List.eq_nil_or_concat l₂ with rfl | ⟨l, b, rfl⟩
  · obtain ⟨hlog, he⟩ := List.append_inj' h rfl
    exact Or.inl ⟨rfl, (List.singleton_inj.1 he).symm, hlog⟩
  · rw [List.concat_eq_append, ← List.cons_append, ← List.append_assoc] at h
    obtain ⟨hlog, he⟩ := List.append_inj' h rfl
    obtain rfl := List.singleton_inj.1 he
    exact Or.inr ⟨l, List.concat_eq_append, hlog⟩

theorem Between.append {R : α → List α → α → Prop} {log : List α} (h : Between R log) {e : α}
    (he : ∀ l₁ a l₂, log = l₁ ++ a :: l₂ → R a l₂ e) : Between R (log ++ [e]) := by
  intro l₁ a l₂ b l₃ hsplit
  rw [← List.cons_append, ← List.append_assoc] at hsplit
  rcases split_append_singleton hsplit with ⟨-, rfl, hlog⟩ | ⟨l, -, hlog⟩
  · exact he l₁ a l₂ hlog
  · exact h l₁ a l₂ b l (by rw [hlog, ← List.cons_append, List.append_assoc])

end Log

end Solvela.Lib
