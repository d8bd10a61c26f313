import Mathlib.Data.List.AList
import Mathlib.Algebra.BigOperators.Ring.Finset
import Mathlib.Algebra.Order.BigOperators.Group.Finset
import Mathlib.Algebra.Order.BigOperators.Group.List
import Mathlib.Tactic.Ring

/-!
# Keyed tables

A table with a primary key is an association list without duplicate keys: the type carries
the uniqueness, `lookup` reads a row, `insert` writes one and `erase` removes one. `All` says
that every row has a property. Sums over all rows change under a write by exactly the row
written.
-/

namespace Solvela.Lib

/-- A table of rows `V` under the primary key `K`. -/
abbrev Table (K V : Type) := AList (fun _ : K => V)

namespace Table

section Lookup
variable {K V : Type} [DecidableEq K]

theorem lookup_insert_eq (t : Table K V) (k k' : K) (v : V) :
    (t.insert k v).lookup k' = if k' = k then some v else t.lookup k' := by
  by_cases h : k' = k
  · subst h
    simp
  · rw [AList.lookup_insert_ne h, if_neg h]

theorem lookup_erase_eq (t : Table K V) (k k' : K) :
    (t.erase k).lookup k' = if k' = k then none else t.lookup k' := by
  by_cases h : k' = k
  · subst h
    simp
  · rw [AList.lookup_erase_ne h, if_neg h]

theorem lookup_of_mem_entries {t : Table K V} {e : Sigma fun _ : K => V} (h : e ∈ t.entries) :
    t.lookup e.1 = some e.2 :=
  AList.mem_lookup_iff.2 h

/-- Every row of the table has `P`. -/
def All (P : V → Prop) (t : Table K V) : Prop := ∀ k v, t.lookup k = some v → P v

theorem All.imp {P Q : V → Prop} {t : Table K V} (h : All P t) (himp : ∀ v, P v → Q v) :
    All Q t :=
  fun k v hv => himp v (h k v hv)

theorem All.insert {P : V → Prop} {t : Table K V} (h : All P t) (k : K) {v : V} (hv : P v) :
    All P (t.insert k v) := by
  intro k' v' hl
  rw [lookup_insert_eq] at hl
  by_cases hk : k' = k
  · rw [if_pos hk] at hl
    obtain rfl : v = v' := Option.some.inj hl
    exact hv
  · rw [if_neg hk] at hl
    exact h k' v' hl

theorem All.erase {P : V → Prop} {t : Table K V} (h : All P t) (k : K) : All P (t.erase k) := by
  intro k' v' hl
  rw [lookup_erase_eq] at hl
  by_cases hk : k' = k
  · rw [if_pos hk] at hl
    exact absurd hl (by simp)
  · rw [if_neg hk] at hl
    exact h k' v' hl

end Lookup

/-! ## Sums over the rows -/

section Sums
variable {K V : Type}

/-- The sum of `f` over the rows of a table. -/
def sumBy (f : K → V → ℕ) (t : Table K V) : ℕ :=
  (t.entries.map fun e => f e.1 e.2).sum

variable [DecidableEq K]

/-- Writing a row adds its term to the sum over the other rows. -/
theorem sumBy_insert (f : K → V → ℕ) (t : Table K V) (k : K) (v : V) :
    sumBy f (t.insert k v) = f k v + sumBy f (t.erase k) := by
  show ((t.insert k v).entries.map fun e => f e.1 e.2).sum =
    f k v + ((t.entries.kerase k).map fun e => f e.1 e.2).sum
  simp [AList.entries_insert]

private theorem sum_map_of_dlookup (F : (Sigma fun _ : K => V) → ℕ) (k : K) (v : V) :
    ∀ l : List (Sigma fun _ : K => V), List.dlookup k l = some v →
      (l.map F).sum = F ⟨k, v⟩ + ((List.kerase k l).map F).sum := by
  intro l
  induction l with
  | nil => simp
  | cons e l ih =>
    intro h
    obtain ⟨k', v'⟩ := e
    by_cases hk : k = k'
    · subst hk
      rw [List.dlookup_cons_eq] at h
      obtain rfl : v' = v := by simpa using h
      simp
    · rw [List.dlookup_cons_ne _ _ hk] at h
      rw [List.kerase_cons_ne hk, List.map_cons, List.map_cons, List.sum_cons, List.sum_cons, ih h]
      ring

/-- A row that is there contributes its term. -/
theorem sumBy_of_lookup (f : K → V → ℕ) {t : Table K V} {k : K} {v : V}
    (h : t.lookup k = some v) : sumBy f t = f k v + sumBy f (t.erase k) :=
  sum_map_of_dlookup (fun e => f e.1 e.2) k v t.entries h

theorem sumBy_erase_of_lookup_none (f : K → V → ℕ) {t : Table K V} {k : K}
    (h : t.lookup k = none) : sumBy f (t.erase k) = sumBy f t := by
  have hk : k ∉ t.entries.keys := by
    rw [← List.dlookup_eq_none]
    exact h
  show ((t.entries.kerase k).map fun e => f e.1 e.2).sum = sumBy f t
  rw [List.kerase_of_notMem_keys hk]
  rfl

/-- Overwriting a row replaces its term. -/
theorem sumBy_insert_of_lookup (f : K → V → ℕ) {t : Table K V} {k : K} {v : V} (v' : V)
    (h : t.lookup k = some v) : sumBy f (t.insert k v') + f k v = sumBy f t + f k v' := by
  rw [sumBy_insert, sumBy_of_lookup f h]
  ring

/-- Inserting a new row adds its term. -/
theorem sumBy_insert_of_lookup_none (f : K → V → ℕ) {t : Table K V} {k : K} (v : V)
    (h : t.lookup k = none) : sumBy f (t.insert k v) = sumBy f t + f k v := by
  rw [sumBy_insert, sumBy_erase_of_lookup_none f h]
  ring

/-- The sum over the rows, as a sum over any set of keys that has all of theirs. -/
theorem sumBy_eq_sum (f : K → V → ℕ) {t : Table K V} {S : Finset K}
    (hS : t.keys.toFinset ⊆ S) : sumBy f t = ∑ k ∈ S, (t.lookup k).elim 0 (f k) := by
  have hkeys : sumBy f t = ∑ k ∈ t.keys.toFinset, (t.lookup k).elim 0 (f k) := by
    rw [List.sum_toFinset _ t.keys_nodup, sumBy, AList.keys, List.keys, List.map_map]
    refine congrArg List.sum (List.map_congr_left fun e he => ?_)
    show _ = (t.lookup e.1).elim 0 (f e.1)
    rw [lookup_of_mem_entries he]
    rfl
  rw [hkeys]
  refine Finset.sum_subset hS fun k _ hk => ?_
  have hnone : t.lookup k = none := by
    rw [AList.lookup_eq_none, AList.mem_keys]
    simpa using hk
  rw [hnone]
  rfl

/-- A table whose rows all weigh at most what they weigh in another one. -/
theorem sumBy_le_of_lookup {f : K → V → ℕ} {t t' : Table K V}
    (h : ∀ k, (t'.lookup k).elim 0 (f k) ≤ (t.lookup k).elim 0 (f k)) :
    sumBy f t' ≤ sumBy f t := by
  have ht : t.keys.toFinset ⊆ t.keys.toFinset ∪ t'.keys.toFinset := Finset.subset_union_left
  have ht' : t'.keys.toFinset ⊆ t.keys.toFinset ∪ t'.keys.toFinset := Finset.subset_union_right
  rw [sumBy_eq_sum f ht, sumBy_eq_sum f ht']
  exact Finset.sum_le_sum fun k _ => h k

/-- Some of the rows weigh at most as much as all of them. -/
theorem sum_le_sumBy (f : K → V → ℕ) (t : Table K V) (S : Finset K) :
    ∑ k ∈ S, (t.lookup k).elim 0 (f k) ≤ sumBy f t := by
  have hkeys : t.keys.toFinset ⊆ S ∪ t.keys.toFinset := Finset.subset_union_right
  rw [sumBy_eq_sum f hkeys]
  exact Finset.sum_le_sum_of_subset Finset.subset_union_left

omit [DecidableEq K] in
/-- The sum is monotone in its term, compared on the rows of the table only. -/
theorem sumBy_le_sumBy {f g : K → V → ℕ} {t : Table K V}
    (h : ∀ e ∈ t.entries, f e.1 e.2 ≤ g e.1 e.2) : sumBy f t ≤ sumBy g t :=
  List.sum_le_sum h

end Sums

end Table

end Solvela.Lib
