import Mathlib.Data.List.Nodup
import Mathlib.Order.Lattice

/-!
# Maps as sorted lists

A map that is kept sorted by its keys is a list of entries, and insertion walks it once and replaces
the entry of an equal key. Looking up after an insertion needs no assumption about the list; that
the list stays sorted is `Sorted.insertEntry`.

* `entryOf_insertEntry` reads the map after an insertion;
* `insertEntry_of_lt` appends a key that is greater than all others, so that inserting the entries
  of a sorted list one after another gives the list back.
-/

namespace Solvela.Lib.SortedMap

variable {K α β : Type}

/-- Another value under every key. -/
def mapValues (g : α → β) (es : List (K × α)) : List (K × β) := es.map fun e => (e.1, g e.2)

@[simp] theorem mapValues_cons (g : α → β) (e : K × α) (es : List (K × α)) :
    mapValues g (e :: es) = (e.1, g e.2) :: mapValues g es := rfl

theorem mapValues_inj {f g : α → β} {es : List (K × α)} :
    mapValues f es = mapValues g es ↔ ∀ e ∈ es, f e.2 = g e.2 := by
  unfold mapValues
  rw [List.map_inj_left]
  constructor
  · intro h e he
    exact (Prod.mk.inj (h e he)).2
  · intro h e he
    rw [h e he]

variable [LinearOrder K]

/-- Insertion, which replaces the entry of an equal key. -/
def insertEntry (k : K) (x : α) : List (K × α) → List (K × α)
  | [] => [(k, x)]
  | e :: es =>
    if k < e.1 then (k, x) :: e :: es
    else if k = e.1 then (k, x) :: es
    else e :: insertEntry k x es

/-- The first entry of a key. -/
def entryOf (k : K) : List (K × α) → Option α
  | [] => none
  | e :: es => if e.1 = k then some e.2 else entryOf k es

/-- The keys are in order, and no key stands twice. -/
def Sorted (es : List (K × α)) : Prop := es.Pairwise fun e e' => e.1 < e'.1

theorem entryOf_insertEntry (k k' : K) (x : α) (es : List (K × α)) :
    entryOf k' (insertEntry k x es) = if k = k' then some x else entryOf k' es := by
  induction es with
  | nil => rfl
  | cons e es ih =>
    rw [insertEntry]
    by_cases hlt : k < e.1
    · rw [if_pos hlt]
      rfl
    · rw [if_neg hlt]
      by_cases heq : k = e.1
      · rw [if_pos heq, entryOf, entryOf]
        by_cases hk : k = k'
        · rw [if_pos hk, if_pos hk]
        · rw [if_neg hk, if_neg hk, if_neg (heq ▸ hk)]
      · rw [if_neg heq, entryOf, ih, entryOf]
        by_cases hk : k = k'
        · rw [if_pos hk, if_pos hk, if_neg (hk ▸ Ne.symm heq)]
        · rw [if_neg hk, if_neg hk]

theorem mapValues_insertEntry (g : α → β) (k : K) (x : α) (es : List (K × α)) :
    mapValues g (insertEntry k x es) = insertEntry k (g x) (mapValues g es) := by
  induction es with
  | nil => rfl
  | cons e es ih =>
    rw [insertEntry, mapValues_cons, insertEntry]
    by_cases hlt : k < e.1
    · rw [if_pos hlt, if_pos hlt]
      rfl
    · rw [if_neg hlt, if_neg hlt]
      by_cases heq : k = e.1
      · rw [if_pos heq, if_pos heq]
        rfl
      · rw [if_neg heq, if_neg heq, mapValues_cons, ih]

theorem mem_insertEntry {k : K} {x : α} {e : K × α} {es : List (K × α)}
    (h : e ∈ insertEntry k x es) : e = (k, x) ∨ e ∈ es := by
  induction es with
  | nil => exact Or.inl (List.mem_singleton.mp h)
  | cons e' es ih =>
    rw [insertEntry] at h
    split at h
    · exact List.mem_cons.mp h
    · split at h
      · exact (List.mem_cons.mp h).imp_right (List.mem_cons_of_mem e')
      · rcases List.mem_cons.mp h with h | h
        · exact Or.inr (h ▸ List.mem_cons_self)
        · exact (ih h).imp_right (List.mem_cons_of_mem e')

theorem Sorted.insertEntry {es : List (K × α)} (h : Sorted es) (k : K) (x : α) :
    Sorted (insertEntry k x es) := by
  induction es with
  | nil => exact List.pairwise_singleton _ _
  | cons e es ih =>
    have hhead := (List.pairwise_cons.mp h).1
    have htail : Sorted es := (List.pairwise_cons.mp h).2
    rw [SortedMap.insertEntry]
    split
    · rename_i hlt
      apply List.pairwise_cons.mpr ⟨?_, h⟩
      intro e' he'
      rcases List.mem_cons.mp he' with rfl | he'
      · exact hlt
      · exact hlt.trans (hhead e' he')
    · split
      · rename_i heq
        exact List.pairwise_cons.mpr ⟨fun e' he' => heq ▸ hhead e' he', htail⟩
      · rename_i hlt heq
        apply List.pairwise_cons.mpr ⟨?_, ih htail⟩
        intro e' he'
        rcases mem_insertEntry he' with rfl | he'
        · exact lt_of_le_of_ne (not_lt.mp hlt) (Ne.symm heq)
        · exact hhead e' he'

theorem insertEntry_of_lt {k : K} {x : α} {es : List (K × α)} (h : ∀ e ∈ es, e.1 < k) :
    insertEntry k x es = es ++ [(k, x)] := by
  induction es with
  | nil => rfl
  | cons e es ih =>
    have hlt := h e List.mem_cons_self
    rw [insertEntry, if_neg (not_lt.mpr hlt.le), if_neg (Ne.symm hlt.ne),
      ih fun e' he' => h e' (List.mem_cons_of_mem e he')]
    rfl

/-- A sorted list has at most one entry of a key. -/
theorem Sorted.count_le_one {es : List (K × α)} (h : Sorted es) (k : K) :
    (es.map Prod.fst).count k ≤ 1 := by
  have hnodup : (es.map Prod.fst).Nodup := List.pairwise_map.mpr (h.imp fun hlt => hlt.ne)
  exact List.nodup_iff_count_le_one.mp hnodup k

/-- Inserting the same value into two maps over the same keys makes them equal exactly when they
agree on the other keys. -/
theorem insertEntry_mapValues_inj {k : K} {x : β} {f g : α → β} {es : List (K × α)}
    (h : Sorted es) :
    SortedMap.insertEntry k x (mapValues f es) = SortedMap.insertEntry k x (mapValues g es) ↔
      ∀ e ∈ es, e.1 ≠ k → f e.2 = g e.2 := by
  induction es with
  | nil => simp [mapValues]
  | cons e es ih =>
    have hhead := (List.pairwise_cons.mp h).1
    have htail : Sorted es := (List.pairwise_cons.mp h).2
    rw [mapValues_cons, mapValues_cons, SortedMap.insertEntry, SortedMap.insertEntry,
      List.forall_mem_cons]
    by_cases hlt : k < e.1
    -- the key stands before all others, or is the first one's
    · have hne : ∀ e' ∈ es, e'.1 ≠ k := fun e' he' => (hlt.trans (hhead e' he')).ne'
      rw [if_pos hlt, if_pos hlt]
      simp only [List.cons.injEq, Prod.mk.injEq, true_and, mapValues_inj]
      constructor
      · rintro ⟨he, hes⟩
        exact ⟨fun _ => he, fun e' he' _ => hes e' he'⟩
      · rintro ⟨he, hes⟩
        exact ⟨he hlt.ne', fun e' he' => hes e' he' (hne e' he')⟩
    · rw [if_neg hlt, if_neg hlt]
      by_cases heq : k = e.1
      · have hne : ∀ e' ∈ es, e'.1 ≠ k := fun e' he' => heq ▸ (hhead e' he').ne'
        rw [if_pos heq, if_pos heq, List.cons.injEq, mapValues_inj]
        constructor
        · rintro ⟨-, hes⟩
          exact ⟨fun he => absurd heq.symm he, fun e' he' _ => hes e' he'⟩
        · rintro ⟨-, hes⟩
          exact ⟨rfl, fun e' he' => hes e' he' (hne e' he')⟩
      · rw [if_neg heq, if_neg heq, List.cons.injEq, Prod.mk.injEq, ih htail]
        constructor
        · rintro ⟨⟨-, he⟩, hes⟩
          exact ⟨fun _ => he, hes⟩
        · rintro ⟨he, hes⟩
          exact ⟨⟨rfl, he (Ne.symm heq)⟩, hes⟩

end Solvela.Lib.SortedMap
