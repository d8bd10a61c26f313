import Mathlib.Data.List.Forall2
import Solvela.Lib.Txn

/-!
# Traversals that may fail

`List.mapM` and `List.forM` over `Except`, read as relations between lists: a traversal succeeds
when every element does, and its results stand in the order of the elements.
-/

namespace Solvela.Lib

open Txn (except_bind_ok)

variable {ε α β : Type} {f : α → Except ε β}

/-- A sequence fails in its first step, or in its second. -/
theorem except_bind_error {x : Except ε α} {f : α → Except ε β} {e : ε} :
    x >>= f = .error e ↔ x = .error e ∨ ∃ a, x = .ok a ∧ f a = .error e := by
  cases x with
  | error e' =>
    constructor
    · intro h
      exact Or.inl (congrArg Except.error (Except.error.inj h))
    · rintro (h | ⟨a, h, -⟩)
      · exact congrArg Except.error (Except.error.inj h)
      · cases h
  | ok a =>
    constructor
    · intro h
      exact Or.inr ⟨a, rfl, h⟩
    · rintro (h | ⟨a', h, h'⟩)
      · cases h
      · cases h
        exact h'

/-- A traversal succeeds exactly with the results of its elements. -/
theorem mapM_ok_iff {xs : List α} {ys : List β} :
    xs.mapM f = .ok ys ↔ List.Forall₂ (fun x y => f x = .ok y) xs ys := by
  induction xs generalizing ys with
  | nil =>
    rw [List.mapM_nil, List.forall₂_nil_left_iff]
    show Except.ok [] = .ok ys ↔ _
    rw [Except.ok.injEq, eq_comm]
  | cons x xs ih =>
    rw [List.mapM_cons, except_bind_ok]
    simp only [except_bind_ok, ih]
    constructor
    · rintro ⟨y, hy, rest, hrest, h⟩
      cases h
      exact .cons hy hrest
    · intro h
      cases h with
      | cons hy hrest => exact ⟨_, hy, _, hrest, rfl⟩

/-- A traversal succeeds exactly when every element does. -/
theorem exists_mapM_ok_iff {xs : List α} :
    (∃ ys, xs.mapM f = .ok ys) ↔ ∀ x ∈ xs, ∃ y, f x = .ok y := by
  simp only [mapM_ok_iff]
  constructor
  · rintro ⟨ys, h⟩
    induction h with
    | nil => simp
    | cons hy _ ih => exact List.forall_mem_cons.mpr ⟨⟨_, hy⟩, ih⟩
  · intro h
    induction xs with
    | nil => exact ⟨[], .nil⟩
    | cons x xs ih =>
      obtain ⟨y, hy⟩ := h x List.mem_cons_self
      obtain ⟨ys, hys⟩ := ih fun x' hx' => h x' (List.mem_cons_of_mem x hx')
      exact ⟨y :: ys, .cons hy hys⟩

/-- Where every element succeeds the results are known. -/
theorem mapM_ok_map {g : α → β} {xs : List α} (h : ∀ x ∈ xs, f x = .ok (g x)) :
    xs.mapM f = .ok (xs.map g) := by
  rw [mapM_ok_iff, List.forall₂_map_right_iff, List.forall₂_same]
  exact h

/-- Where success says what the result is, it does so for the whole list. -/
theorem eq_map_of_mapM_ok {g : α → β} (hg : ∀ x y, f x = .ok y → y = g x) {xs : List α}
    {ys : List β} (h : xs.mapM f = .ok ys) : ys = xs.map g := by
  induction mapM_ok_iff.mp h with
  | nil => rfl
  | cons hy _ ih => rw [List.map_cons, ← hg _ _ hy, ← ih (mapM_ok_iff.mpr ‹_›)]

/-- A check of every element. -/
theorem forM_ok_iff {g : α → Except ε Unit} {xs : List α} :
    xs.forM g = .ok () ↔ ∀ x ∈ xs, g x = .ok () := by
  induction xs with
  | nil => exact ⟨fun _ _ h => by simp at h, fun _ => rfl⟩
  | cons x xs ih =>
    rw [List.forall_mem_cons, ← ih]
    show (g x >>= fun _ => xs.forM g) = .ok () ↔ _
    rw [except_bind_ok]
    constructor
    · rintro ⟨u, hx, hxs⟩
      exact ⟨hx, hxs⟩
    · intro h
      exact ⟨(), h.1, h.2⟩

/-- A traversal goes through alike after a change that no element's result notices. -/
theorem mapM_map_some {g : α → Option β} {change : α → α}
    (hg : ∀ x y, g x = some y → g (change x) = some y) {xs : List α} {ys : List β}
    (h : xs.mapM g = some ys) : (xs.map change).mapM g = some ys := by
  induction xs generalizing ys with
  | nil => exact h
  | cons x xs ih =>
    rw [List.mapM_cons] at h
    obtain ⟨first, hfirst, h⟩ := Option.bind_eq_some_iff.mp h
    obtain ⟨rest, hrest, h⟩ := Option.bind_eq_some_iff.mp h
    rw [List.map_cons, List.mapM_cons, hg x first hfirst, ih hrest]
    exact h

end Solvela.Lib
