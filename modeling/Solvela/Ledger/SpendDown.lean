import Solvela.Lib.Simulation
import Mathlib.Algebra.BigOperators.Group.List.Basic
import Mathlib.Algebra.Order.Ring.Int
import Mathlib.Tactic.Ring

/-!
# The spend-down account

What a payment channel is for, without tables, locks or wire formats. An account takes a
deposit, is spent down by draws while it is open, and is closed. The first close freezes an
obligation: the unspent rest, on the account's own terms.

Two results follow for every trace: what is frozen is the deposit less the draws made so far,
and from then on nothing moves any more.
-/

namespace Solvela.ChannelLedger

open Solvela.Lib

/-- A deposit being spent down. `terms` is what an obligation is owed on (to whom, in which
currency); `refund` is the obligation frozen by the first close. -/
structure Account (τ : Type) where
  deposited : ℤ
  realized : ℤ
  terms : τ
  isOpen : Bool
  refund : Option (ℤ × τ)

namespace Account

section
variable {τ κ : Type}

/-- Nothing drawn yet. -/
def fresh (deposited : ℤ) (terms : τ) : Account τ := ⟨deposited, 0, terms, true, none⟩

/-- After a draw of `n`. -/
def drawn (a : Account τ) (n : ℤ) : Account τ := { a with realized := a.realized + n }

/-- After a close: not open, and an obligation there is. -/
def closed (a : Account τ) : Account τ :=
  { a with isOpen := false, refund := some (a.refund.getD (a.deposited - a.realized, a.terms)) }

/-- The steps of an account that may not exist yet. A draw `d` realizes `advance d`. -/
inductive Step (advance : κ → ℕ) : Option (Account τ) → Option κ → Option (Account τ) → Prop
  | stay (a : Option (Account τ)) : Step advance a none a
  | opened (deposited : ℤ) (terms : τ) :
      Step advance none none (some (fresh deposited terms))
  | draw (a : Account τ) (d : κ) (h : a.isOpen = true) :
      Step advance (some a) (some d) (some (a.drawn (advance d)))
  | close (a : Account τ) : Step advance (some a) none (some a.closed)

/-- The books balance against the draws made: what was realized is their sum, and a frozen
obligation is the rest, on the account's terms, of an account that is no longer open. -/
structure Balanced (spent : ℤ) (a : Account τ) : Prop where
  realized : a.realized = spent
  refund : ∀ f, a.refund = some f → a.isOpen = false ∧ f = (a.deposited - spent, a.terms)

/-- A frozen account balances against nothing but its own draws: closing it again is
nothing. -/
theorem closed_of_frozen {a : Account τ} {f : ℤ × τ} (hf : a.refund = some f)
    (hopen : a.isOpen = false) : a.closed = a := by
  obtain ⟨deposited, realized, terms, isOpen, refund⟩ := a
  simp only at hf hopen
  subst hf hopen
  rfl

variable {advance : κ → ℕ}

/-- One step keeps the account balanced against the draws so far. -/
theorem balanced_step {ds : List κ} {a b : Option (Account τ)} {d : Option κ}
    (ha : a = none → ds = [])
    (h : ∀ x, a = some x → Balanced (ds.map advance).sum x) (hs : Step advance a d b) :
    (b = none → ds ++ d.toList = []) ∧
      ∀ x, b = some x → Balanced ((ds ++ d.toList).map advance).sum x := by
  cases hs with
  | stay =>
    rw [Option.toList_none, List.append_nil]
    exact ⟨ha, h⟩
  | opened deposited terms =>
    refine ⟨fun hb => absurd hb (by simp), ?_⟩
    rintro x ⟨⟩
    rw [ha rfl]
    exact ⟨rfl, fun f hf => absurd hf (by simp [fresh])⟩
  | draw a d hopen =>
    refine ⟨fun hb => absurd hb (by simp), ?_⟩
    rintro x ⟨⟩
    have hbal := h a rfl
    refine ⟨?_, ?_⟩
    · rw [drawn, hbal.realized]
      simp
    · -- an open account has no obligation
      intro f hf
      have := (hbal.refund f hf).1
      rw [hopen] at this
      exact absurd this (by decide)
  | close a =>
    refine ⟨fun hb => absurd hb (by simp), ?_⟩
    rintro x ⟨⟩
    have hbal := h a rfl
    rw [Option.toList_none, List.append_nil]
    refine ⟨hbal.realized, ?_⟩
    intro f hf
    refine ⟨rfl, ?_⟩
    have hf' : a.refund.getD (a.deposited - a.realized, a.terms) = f := by
      simpa [closed] using hf
    cases hr : a.refund with
    | none =>
      rw [hr, Option.getD_none, hbal.realized] at hf'
      exact hf'.symm
    | some g =>
      rw [hr, Option.getD_some] at hf'
      subst hf'
      exact (hbal.refund g hr).2

/-- Along every trace from nothing the books balance. -/
theorem balanced_trace {ds : List κ} {a : Account τ}
    (h : Trace (Step advance) none ds (some a)) : Balanced (ds.map advance).sum a := by
  have hall : (some a = none → ds = []) ∧
      ∀ x, some a = some x → Balanced (ds.map advance).sum x := by
    refine h.rec_step (I := fun ds b => (b = none → ds = []) ∧
      ∀ x, b = some x → Balanced (ds.map advance).sum x) ?_ ?_
    · exact ⟨fun _ => rfl, fun x hx => absurd hx (by simp)⟩
    · intro es b e c hI hs
      exact balanced_step hI.1 hI.2 hs
  exact hall.2 a rfl

/-- Nothing happens to a frozen account any more. -/
theorem frozen_trace {ds : List κ} {a : Account τ} {b : Option (Account τ)} {f : ℤ × τ}
    (h : Trace (Step advance) (some a) ds b) (hf : a.refund = some f)
    (hopen : a.isOpen = false) : ds = [] ∧ b = some a := by
  refine h.rec_step (I := fun ds b => ds = [] ∧ b = some a) ⟨rfl, rfl⟩ ?_
  rintro es b e c ⟨rfl, rfl⟩ hs
  cases hs with
  | stay => exact ⟨rfl, rfl⟩
  | draw a d hd =>
    rw [hopen] at hd
    exact absurd hd (by decide)
  | close a => exact ⟨rfl, congrArg some (closed_of_frozen hf hopen)⟩

end

end Account

end Solvela.ChannelLedger
