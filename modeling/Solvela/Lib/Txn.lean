import Mathlib.Init

/-!
# Fallible state transactions

Code that checks, writes, checks again and may fail half-way is an `EStateM` program: a
failing program still carries the state it had reached. `atomically` is what a database
transaction or an atomic chain transaction adds: on an error every write is undone.
`replyLost` is what a broken connection takes away: the writes stand and the caller is told
they failed.

The lemmas are inversions. From a successful run of a composite program they give the
successful runs of its parts, so a proof about a program is a chain of `obtain`s that follows
its text. The equations on states are oriented so that `rfl` patterns keep the earlier state.
-/

namespace Solvela.Lib

section Txn
variable {ε σ α β : Type}

/-- A program over the state `σ` that may fail with an `ε`. -/
abbrev Txn (ε σ α : Type) := EStateM ε σ α

namespace Txn

/-- Fail with `e` unless `p` holds. -/
def require (p : Prop) [Decidable p] (e : ε) : Txn ε σ Unit :=
  if p then pure () else throw e

/-- The value of an option, failing with `e` when there is none. -/
def okOr (o : Option α) (e : ε) : Txn ε σ α :=
  match o with
  | some a => pure a
  | none => throw e

/-- The value of a pure computation, its error translated by `f`. -/
def ofExcept {ε' : Type} (f : ε' → ε) (x : Except ε' α) : Txn ε σ α :=
  match x with
  | .ok a => pure a
  | .error e => throw (f e)

/-- Run a program for its effect, its error translated by `f`. -/
def effect {ε' : Type} (f : ε' → ε) (m : Txn ε' σ α) : Txn ε σ Unit := fun s =>
  match m s with
  | .ok _ s' => .ok () s'
  | .error e s' => .error (f e) s'

/-- Run a program all-or-nothing: an error undoes every write. -/
def atomically (m : Txn ε σ α) : Txn ε σ α := fun s =>
  match m s with
  | .ok a s' => .ok a s'
  | .error e _ => .error e s

/-- Run a program whose success is not reported: its writes stand, its caller gets the error
`e`. A program that fails reports its own error. -/
def replyLost (e : ε) (m : Txn ε σ α) : Txn ε σ α := fun s =>
  match m s with
  | .ok _ s' => .error e s'
  | .error e' s' => .error e' s'

/-- The state a result carries. -/
def stateOf : EStateM.Result ε σ α → σ
  | .ok _ s => s
  | .error _ s => s

/-- Did the program succeed? -/
def isOk : EStateM.Result ε σ α → Bool
  | .ok _ _ => true
  | .error _ _ => false

@[simp] theorem stateOf_ok (a : α) (s : σ) : stateOf (.ok a s : EStateM.Result ε σ α) = s := rfl

@[simp] theorem stateOf_error (e : ε) (s : σ) :
    stateOf (.error e s : EStateM.Result ε σ α) = s := rfl

@[simp] theorem isOk_ok (a : α) (s : σ) : isOk (.ok a s : EStateM.Result ε σ α) = true := rfl

@[simp] theorem isOk_error (e : ε) (s : σ) :
    isOk (.error e s : EStateM.Result ε σ α) = false := rfl

/-! ## Inversion of successful runs -/

theorem pure_ok {a b : α} {s s' : σ} :
    (pure a : Txn ε σ α) s = .ok b s' ↔ a = b ∧ s = s' := by
  simp [pure, EStateM.pure]

@[simp] theorem throw_ok {e : ε} {b : α} {s s' : σ} :
    (throw e : Txn ε σ α) s = .ok b s' ↔ False := by
  show EStateM.Result.error e s = .ok b s' ↔ False
  simp

theorem get_ok {b s s' : σ} : (get : Txn ε σ σ) s = .ok b s' ↔ s = b ∧ s = s' := by
  show EStateM.Result.ok s s = .ok b s' ↔ s = b ∧ s = s'
  simp

theorem modify_ok {f : σ → σ} {u : PUnit} {s s' : σ} :
    (modify f : Txn ε σ PUnit) s = .ok u s' ↔ f s = s' := by
  show EStateM.Result.ok PUnit.unit (f s) = .ok u s' ↔ f s = s'
  simp

theorem bind_ok {m : Txn ε σ α} {f : α → Txn ε σ β} {b : β} {s s' : σ} :
    (m >>= f) s = .ok b s' ↔ ∃ a t, m s = .ok a t ∧ f a t = .ok b s' := by
  simp only [bind, EStateM.bind]
  cases m s with
  | ok a t =>
    constructor
    · intro h
      exact ⟨a, t, rfl, h⟩
    · rintro ⟨a', t', hm, h⟩
      cases hm
      exact h
  | error e t => simp

theorem bind_of_ok {m : Txn ε σ α} {f : α → Txn ε σ β} {a : α} {s t : σ}
    (h : m s = .ok a t) : (m >>= f) s = f a t := by
  simp only [bind, EStateM.bind, h]

/-- The same inversion for a pure fallible computation. -/
theorem except_bind_ok {x : Except ε α} {f : α → Except ε β} {b : β} :
    (x >>= f) = .ok b ↔ ∃ a, x = .ok a ∧ f a = .ok b := by
  cases x with
  | error e => simp [bind, Except.bind]
  | ok a => simp [bind, Except.bind]

theorem require_ok {p : Prop} [Decidable p] {e : ε} {u : Unit} {s s' : σ} :
    (require p e : Txn ε σ Unit) s = .ok u s' ↔ p ∧ s = s' := by
  unfold require
  by_cases hp : p
  · simp [hp, pure_ok]
  · simp [hp]

theorem okOr_ok {o : Option α} {e : ε} {a : α} {s s' : σ} :
    (okOr o e : Txn ε σ α) s = .ok a s' ↔ o = some a ∧ s = s' := by
  cases o with
  | none => simp [okOr]
  | some b => simp [okOr, pure_ok]

theorem ofExcept_ok {ε' : Type} {f : ε' → ε} {x : Except ε' α} {a : α} {s s' : σ} :
    (ofExcept f x : Txn ε σ α) s = .ok a s' ↔ x = .ok a ∧ s = s' := by
  cases x with
  | error e => simp [ofExcept]
  | ok b => simp [ofExcept, pure_ok]

theorem effect_ok {ε' : Type} {f : ε' → ε} {m : Txn ε' σ α} {u : Unit} {s s' : σ}
    (h : effect f m s = .ok u s') : ∃ a, m s = .ok a s' := by
  unfold effect at h
  cases hm : m s with
  | ok a t =>
    simp only [hm] at h
    obtain ⟨-, rfl⟩ := EStateM.Result.ok.inj h
    exact ⟨a, rfl⟩
  | error e t =>
    simp only [hm] at h
    exact absurd h (by simp)

theorem effect_error {ε' : Type} {f : ε' → ε} {m : Txn ε' σ α} {e : ε} {s s' : σ}
    (h : effect f m s = .error e s') : ∃ e', m s = .error e' s' := by
  unfold effect at h
  cases hm : m s with
  | ok a t =>
    simp only [hm] at h
    exact absurd h (by simp)
  | error e' t =>
    simp only [hm] at h
    obtain ⟨-, rfl⟩ := EStateM.Result.error.inj h
    exact ⟨e', rfl⟩

/-! ## Inversion of failed runs -/

theorem bind_error {m : Txn ε σ α} {f : α → Txn ε σ β} {e : ε} {s s' : σ} :
    (m >>= f) s = .error e s' ↔
      m s = .error e s' ∨ ∃ a t, m s = .ok a t ∧ f a t = .error e s' := by
  simp only [bind, EStateM.bind]
  cases m s with
  | ok a t =>
    constructor
    · intro h
      exact Or.inr ⟨a, t, rfl, h⟩
    · rintro (h | ⟨a', t', hm, h⟩)
      · exact absurd h (by simp)
      · cases hm
        exact h
  | error e' t => simp

@[simp] theorem pure_error {a : α} {e : ε} {s s' : σ} :
    (pure a : Txn ε σ α) s = .error e s' ↔ False := by
  simp [pure, EStateM.pure]

@[simp] theorem get_error {e : ε} {s s' : σ} : (get : Txn ε σ σ) s = .error e s' ↔ False := by
  show EStateM.Result.ok s s = .error e s' ↔ False
  simp

@[simp] theorem modify_error {f : σ → σ} {e : ε} {s s' : σ} :
    (modify f : Txn ε σ PUnit) s = .error e s' ↔ False := by
  show EStateM.Result.ok PUnit.unit (f s) = .error e s' ↔ False
  simp

theorem throw_error {e e' : ε} {s s' : σ} (h : (throw e : Txn ε σ α) s = .error e' s') :
    s = s' := by
  have herror : EStateM.Result.error e s = .error e' s' := h
  exact (EStateM.Result.error.inj herror).2

theorem require_error {p : Prop} [Decidable p] {e e' : ε} {s s' : σ}
    (h : (require p e : Txn ε σ Unit) s = .error e' s') : ¬ p ∧ s = s' := by
  unfold require at h
  by_cases hp : p
  · rw [if_pos hp] at h
    exact absurd h (by simp)
  · rw [if_neg hp] at h
    exact ⟨hp, throw_error h⟩

theorem okOr_error {o : Option α} {e e' : ε} {s s' : σ}
    (h : (okOr o e : Txn ε σ α) s = .error e' s') : s = s' := by
  cases o with
  | none => exact throw_error h
  | some b => exact absurd h (by simp [okOr])

theorem ofExcept_error {ε' : Type} {f : ε' → ε} {x : Except ε' α} {e : ε} {s s' : σ}
    (h : (ofExcept f x : Txn ε σ α) s = .error e s') : s = s' := by
  cases x with
  | error e' => exact throw_error h
  | ok b => exact absurd h (by simp [ofExcept])

/-! ## Programs that only check -/

/-- The program leaves the state as it is, whether it succeeds or fails. -/
def ReadOnly (m : Txn ε σ α) : Prop := ∀ s, stateOf (m s) = s

theorem readOnly_pure (a : α) : ReadOnly (pure a : Txn ε σ α) := fun _ => rfl

theorem readOnly_throw (e : ε) : ReadOnly (throw e : Txn ε σ α) := fun _ => rfl

theorem readOnly_require (p : Prop) [Decidable p] (e : ε) :
    ReadOnly (require p e : Txn ε σ Unit) := by
  unfold require
  by_cases hp : p
  · rw [if_pos hp]
    exact readOnly_pure ()
  · rw [if_neg hp]
    exact readOnly_throw e

theorem readOnly_ofExcept {ε' : Type} (f : ε' → ε) (x : Except ε' α) :
    ReadOnly (ofExcept f x : Txn ε σ α) := by
  cases x with
  | error e => exact readOnly_throw (f e)
  | ok a => exact readOnly_pure a

theorem ReadOnly.bind {m : Txn ε σ α} {f : α → Txn ε σ β} (hm : ReadOnly m)
    (hf : ∀ a, ReadOnly (f a)) : ReadOnly (m >>= f) := by
  intro s
  have hs := hm s
  simp only [Bind.bind, EStateM.bind]
  cases h : m s with
  | error e t =>
    rw [h] at hs
    exact hs
  | ok a t =>
    rw [h] at hs
    obtain rfl : t = s := hs
    exact hf a t

theorem ReadOnly.ok {m : Txn ε σ α} (hm : ReadOnly m) {a : α} {s s' : σ}
    (h : m s = .ok a s') : s = s' := by
  have hs := hm s
  rw [h] at hs
  exact hs.symm

theorem ReadOnly.error {m : Txn ε σ α} (hm : ReadOnly m) {e : ε} {s s' : σ}
    (h : m s = .error e s') : s = s' := by
  have hs := hm s
  rw [h] at hs
  exact hs.symm

/-! ## Atomic programs -/

@[simp] theorem atomically_ok {m : Txn ε σ α} {a : α} {s s' : σ} :
    atomically m s = .ok a s' ↔ m s = .ok a s' := by
  unfold atomically
  cases m s with
  | ok b t => simp
  | error e t => simp

/-- An atomic program that fails leaves the state as it was. -/
theorem atomically_error {m : Txn ε σ α} {e : ε} {s s' : σ}
    (h : atomically m s = .error e s') : s' = s := by
  unfold atomically at h
  cases hm : m s with
  | ok b t => simp [hm] at h
  | error e' t => simp only [hm, EStateM.Result.error.injEq] at h; exact h.2.symm

/-! ## Lost replies -/

/-- Losing the reply changes what the caller is told, not what was written. -/
@[simp] theorem stateOf_replyLost (e : ε) (m : Txn ε σ α) (s : σ) :
    stateOf (replyLost e m s) = stateOf (m s) := by
  unfold replyLost
  cases m s with
  | ok a t => rfl
  | error e' t => rfl

/-- An error with the reply lost is the program's own error, or hides its success. -/
theorem replyLost_error {m : Txn ε σ α} {e e' : ε} {s s' : σ}
    (h : replyLost e m s = .error e' s') : (∃ a, m s = .ok a s') ∨ m s = .error e' s' := by
  unfold replyLost at h
  cases hm : m s with
  | ok a t =>
    simp only [hm] at h
    obtain ⟨-, rfl⟩ := EStateM.Result.error.inj h
    exact Or.inl ⟨a, rfl⟩
  | error e'' t =>
    simp only [hm] at h
    exact Or.inr h

end Txn

end Txn

end Solvela.Lib
