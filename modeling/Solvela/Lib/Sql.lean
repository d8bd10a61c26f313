import Solvela.Lib.Table
import Solvela.Lib.Txn

/-!
# Single-row statements over a table with CHECK constraints

A stored row is a row together with the proof that it passes its table's CHECK constraints,
so a table that violates them cannot be built. The statements are the two that a repository
of keyed rows needs:

* `insertRow`, an `INSERT` under a primary key;
* `updateWhere`, an `UPDATE … SET … WHERE key = k AND p`, with the number of rows it matched.

Both return `none` when the row they would write fails a constraint. The database then aborts
the statement: `updateStmt` is the update as a statement of a program over a larger state.
-/

namespace Solvela.Lib

/-- A row that passes the CHECK constraints of its table. -/
abbrev Stored {V : Type} (Check : V → Prop) := { r : V // Check r }

namespace Sql

section
variable {K V : Type} [DecidableEq K] {Check : V → Prop} [DecidablePred Check]

/-- `INSERT` of a row under a new primary key. -/
def insertRow (t : Table K (Stored Check)) (k : K) (v : V) : Option (Table K (Stored Check)) :=
  if h : Check v then
    if t.lookup k = none then some (t.insert k ⟨v, h⟩) else none
  else none

/-- `UPDATE … SET f WHERE key = k AND p`, with the number of rows matched. -/
def updateWhere (t : Table K (Stored Check)) (k : K) (p : V → Bool) (f : V → V) :
    Option (Table K (Stored Check) × ℕ) :=
  match t.lookup k with
  | none => some (t, 0)
  | some r =>
    if p r.1 then
      if h : Check (f r.1) then some (t.insert k ⟨f r.1, h⟩, 1) else none
    else some (t, 0)

theorem insertRow_eq_some {t t' : Table K (Stored Check)} {k : K} {v : V}
    (h : insertRow t k v = some t') :
    t.lookup k = none ∧ ∃ hv : Check v, t.insert k ⟨v, hv⟩ = t' := by
  unfold insertRow at h
  by_cases hv : Check v
  · rw [dif_pos hv] at h
    by_cases hk : t.lookup k = none
    · rw [if_pos hk] at h
      exact ⟨hk, hv, Option.some.inj h⟩
    · rw [if_neg hk] at h
      exact absurd h (by simp)
  · rw [dif_neg hv] at h
    exact absurd h (by simp)

theorem insertRow_of_check {t : Table K (Stored Check)} {k : K} {v : V} (hv : Check v)
    (hk : t.lookup k = none) : insertRow t k v = some (t.insert k ⟨v, hv⟩) := by
  rw [insertRow, dif_pos hv, if_pos hk]

/-- An update matches no row and changes nothing, or matches the row at its key and writes
it. -/
theorem updateWhere_eq_some {t t' : Table K (Stored Check)} {k : K} {p : V → Bool} {f : V → V}
    {n : ℕ} (h : updateWhere t k p f = some (t', n)) :
    (n = 0 ∧ t = t' ∧ ∀ r, t.lookup k = some r → p r.1 = false) ∨
    (n = 1 ∧ ∃ r, t.lookup k = some r ∧ p r.1 = true ∧
      ∃ hf : Check (f r.1), t.insert k ⟨f r.1, hf⟩ = t') := by
  unfold updateWhere at h
  cases hl : t.lookup k with
  | none =>
    rw [hl] at h
    obtain ⟨rfl, rfl⟩ := Prod.mk.inj (Option.some.inj h)
    exact Or.inl ⟨rfl, rfl, by simp⟩
  | some r =>
    simp only [hl] at h
    by_cases hp : p r.1 = true
    · rw [if_pos hp] at h
      by_cases hf : Check (f r.1)
      · rw [dif_pos hf] at h
        obtain ⟨rfl, rfl⟩ := Prod.mk.inj (Option.some.inj h)
        exact Or.inr ⟨rfl, r, rfl, hp, hf, rfl⟩
      · rw [dif_neg hf] at h
        exact absurd h (by simp)
    · rw [if_neg hp] at h
      obtain ⟨rfl, rfl⟩ := Prod.mk.inj (Option.some.inj h)
      refine Or.inl ⟨rfl, rfl, ?_⟩
      intro r' hr'
      obtain rfl := Option.some.inj hr'
      exact Bool.eq_false_iff.2 hp

theorem updateWhere_of_match {t : Table K (Stored Check)} {k : K} {p : V → Bool} {f : V → V}
    {r : Stored Check} (hl : t.lookup k = some r) (hp : p r.1 = true) (hf : Check (f r.1)) :
    updateWhere t k p f = some (t.insert k ⟨f r.1, hf⟩, 1) := by
  simp [updateWhere, hl, hp, hf]

/-- An update of one table of a database: `read` finds the table in the state, `write` puts
it back, and a constraint violation is the error `e`. -/
def updateStmt {ε σ : Type} (read : σ → Table K (Stored Check))
    (write : Table K (Stored Check) → σ → σ) (e : ε) (k : K) (p : V → Bool) (f : V → V) :
    Txn ε σ ℕ := fun s =>
  match updateWhere (read s) k p f with
  | some (t, n) => .ok n (write t s)
  | none => .error e s

variable {ε σ : Type} {read : σ → Table K (Stored Check)}
  {write : Table K (Stored Check) → σ → σ} {e : ε} {k : K} {p : V → Bool} {f : V → V}

variable (read) in
theorem updateStmt_ok {n : ℕ} {s s' : σ} (hrw : write (read s) s = s)
    (h : updateStmt read write e k p f s = .ok n s') :
    (n = 0 ∧ s = s' ∧ ∀ r, (read s).lookup k = some r → p r.1 = false) ∨
    (n = 1 ∧ ∃ r, (read s).lookup k = some r ∧ p r.1 = true ∧
      ∃ hf : Check (f r.1), write ((read s).insert k ⟨f r.1, hf⟩) s = s') := by
  unfold updateStmt at h
  cases hu : updateWhere (read s) k p f with
  | none =>
    simp only [hu] at h
    exact absurd h (by simp)
  | some res =>
    obtain ⟨t, m⟩ := res
    simp only [hu] at h
    obtain ⟨rfl, rfl⟩ := EStateM.Result.ok.inj h
    rcases updateWhere_eq_some hu with ⟨rfl, rfl, hno⟩ | ⟨rfl, r, hr, hp, hf, rfl⟩
    · exact Or.inl ⟨rfl, hrw.symm, hno⟩
    · exact Or.inr ⟨rfl, r, hr, hp, hf, rfl⟩

/-- A statement that fails has written nothing. -/
theorem updateStmt_error {e' : ε} {s s' : σ}
    (h : updateStmt read write e k p f s = .error e' s') : s = s' := by
  unfold updateStmt at h
  cases hu : updateWhere (read s) k p f with
  | none =>
    simp only [hu] at h
    exact (EStateM.Result.error.inj h).2
  | some res =>
    simp only [hu] at h
    exact absurd h (by simp)

/-- An update whose write passes the constraints wherever it matches goes through. -/
theorem updateStmt_succeeds {s : σ}
    (h : ∀ r, (read s).lookup k = some r → p r.1 = true → Check (f r.1)) :
    ∃ n s', updateStmt read write e k p f s = .ok n s' := by
  unfold updateStmt
  cases hu : updateWhere (read s) k p f with
  | some res => exact ⟨res.2, write res.1 s, rfl⟩
  | none =>
    unfold updateWhere at hu
    cases hl : (read s).lookup k with
    | none =>
      rw [hl] at hu
      exact absurd hu (by simp)
    | some r =>
      simp only [hl] at hu
      by_cases hp : p r.1 = true
      · rw [if_pos hp, dif_pos (h r hl hp)] at hu
        exact absurd hu (by simp)
      · rw [if_neg hp] at hu
        exact absurd hu (by simp)

end

end Sql

end Solvela.Lib
