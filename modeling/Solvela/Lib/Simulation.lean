import Mathlib.Data.List.Induction
import Solvela.Lib.Runs

/-!
# Traces and forward simulation

An abstract model is a relation `Step a e b` with an optional observable event. A `Trace` is
its steps one after another with the events in order. A concrete system simulates it when
every concrete step is one abstract step whose event is what the step appends to a log.

* `Trace.rec_step` carries an invariant of states and events along a trace;
* `run_trace` turns a simulation of single steps into a trace for every run.
-/

namespace Solvela.Lib

section Traces
variable {α ε : Type*} (Step : α → Option ε → α → Prop)

/-- Steps one after another, with their events in order. -/
inductive Trace : α → List ε → α → Prop
  | refl (a : α) : Trace a [] a
  | step {a b c : α} {es : List ε} {e : Option ε} :
      Trace a es b → Step b e c → Trace a (es ++ e.toList) c

variable {Step}

/-- What holds before any event and is carried over each step holds of every trace. -/
theorem Trace.rec_step {I : List ε → α → Prop} {a b : α} {es : List ε}
    (h : Trace Step a es b) (ha : I [] a)
    (hstep : ∀ es b e c, I es b → Step b e c → I (es ++ e.toList) c) : I es b := by
  induction h with
  | refl => exact ha
  | step _ hs ih => exact hstep _ _ _ _ ih hs

/-- A concrete run is a trace of the model it simulates, and its log grows by the events. -/
theorem run_trace {σ ι : Type*} {step : σ → ι → σ} {I : σ → Prop} (abs : σ → α)
    (log : σ → List ε) (hinv : ∀ s a, I s → I (step s a))
    (hsim : ∀ s a, I s →
      ∃ e, Step (abs s) e (abs (step s a)) ∧ log (step s a) = log s ++ e.toList)
    {s : σ} (hs : I s) (as : List ι) :
    ∃ es, Trace Step (abs s) es (abs (run step s as)) ∧
      log (run step s as) = log s ++ es := by
  -- from the last step backwards: a trace grows at its end
  induction as using List.reverseRecOn with
  | nil => exact ⟨[], Trace.refl _, by simp⟩
  | append_singleton as a ih =>
    obtain ⟨es, htrace, hlog⟩ := ih
    have hI : I (run step s as) := run_invariant hinv hs as
    obtain ⟨e, hstep, hlog'⟩ := hsim (run step s as) a hI
    rw [run_append]
    refine ⟨es ++ e.toList, htrace.step hstep, ?_⟩
    show log (step (run step s as) a) = _
    rw [hlog', hlog, List.append_assoc]

end Traces

end Solvela.Lib
