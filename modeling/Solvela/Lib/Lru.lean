import Mathlib.Data.Finset.Card
import Mathlib.Data.List.Nodup

/-!
# A bounded least-recently-used cache

The entries are kept most recently used first. Every operation that finds or writes a key puts
it in front (`use`), and an entry that no longer fits falls off the end. What a client can rely
on is the eviction rule: as long as fewer than `cap` other keys were used since, an entry is
still there (`Recent.use`, and `Kept.use` for whole histories).
-/

namespace Solvela.Lib

/-- A cache of at most `cap` entries with distinct keys, most recently used first. -/
structure Lru (κ ν : Type) (cap : ℕ) where
  entries : List (κ × ν)
  nodup : (entries.map Prod.fst).Nodup
  bounded : entries.length ≤ cap

namespace Lru

section
variable {κ ν : Type} [DecidableEq κ] {cap : ℕ}

/-- The cache without entries. -/
def empty : Lru κ ν cap := ⟨[], List.nodup_nil, Nat.zero_le _⟩

/-- The entries of the other keys. -/
def others (c : Lru κ ν cap) (k : κ) : List (κ × ν) := c.entries.filter fun e => e.1 ≠ k

theorem nodup_others (c : Lru κ ν cap) (k : κ) : ((c.others k).map Prod.fst).Nodup :=
  c.nodup.sublist (List.filter_sublist.map _)

theorem key_ne_of_mem_others {c : Lru κ ν cap} {k : κ} {e : κ × ν} (h : e ∈ c.others k) :
    e.1 ≠ k := by
  simpa using (List.mem_filter.1 h).2

theorem nodup_front (c : Lru κ ν cap) (k : κ) (v : ν) :
    (((k, v) :: c.others k).map Prod.fst).Nodup := by
  rw [List.map_cons, List.nodup_cons]
  refine ⟨?_, c.nodup_others k⟩
  intro hmem
  obtain ⟨e, he, hk⟩ := List.mem_map.1 hmem
  exact key_ne_of_mem_others he hk

/-- `k` becomes the most recent key, with the value `v`. -/
def use (c : Lru κ ν cap) (k : κ) (v : ν) : Lru κ ν cap :=
  ⟨((k, v) :: c.others k).take cap,
    (c.nodup_front k v).sublist ((List.take_sublist _ _).map _), List.length_take_le _ _⟩

/-- The value of a key, without using it. -/
def peek (c : Lru κ ν cap) (k : κ) : Option ν := (c.entries.find? fun e => e.1 = k).map Prod.snd

/-- `get`: a key that is found becomes the most recent one. -/
def get (c : Lru κ ν cap) (k : κ) : Option ν × Lru κ ν cap :=
  match c.peek k with
  | some v => (some v, c.use k v)
  | none => (none, c)

/-- `put`. -/
def put (c : Lru κ ν cap) (k : κ) (v : ν) : Lru κ ν cap := c.use k v

/-- `pop`. -/
def pop (c : Lru κ ν cap) (k : κ) : Lru κ ν cap :=
  ⟨c.others k, c.nodup_others k, (List.length_filter_le _ _).trans c.bounded⟩

omit [DecidableEq κ] in
theorem ext_entries {c d : Lru κ ν cap} (h : c.entries = d.entries) : c = d := by
  obtain ⟨_, _, _⟩ := c
  obtain ⟨_, _, _⟩ := d
  subst h
  rfl

theorem others_use_self (c : Lru κ ν cap) (k : κ) (v : ν) :
    (c.use k v).others k = (c.others k).take (cap - 1) := by
  have hkeep : ((c.others k).take (cap - 1)).filter (fun e => e.1 ≠ k) =
      (c.others k).take (cap - 1) := by
    rw [List.filter_eq_self]
    intro e he
    simpa using key_ne_of_mem_others (List.mem_of_mem_take he)
  show (((k, v) :: c.others k).take cap).filter _ = _
  cases cap with
  | zero => simp
  | succ n =>
    rw [List.take_succ_cons, List.filter_cons_of_neg (by simp)]
    exact hkeep

/-- Using a key twice is using it with the last value. -/
theorem use_use (c : Lru κ ν cap) (k : κ) (v v' : ν) : (c.use k v).use k v' = c.use k v' := by
  refine ext_entries ?_
  show ((k, v') :: (c.use k v).others k).take cap = ((k, v') :: c.others k).take cap
  rw [others_use_self]
  cases cap with
  | zero => simp
  | succ n => simp

/-- Writing a popped key is using it. -/
theorem pop_put (c : Lru κ ν cap) (k : κ) (v : ν) : (c.pop k).put k v = c.use k v := by
  refine ext_entries ?_
  show ((k, v) :: (c.pop k).others k).take cap = ((k, v) :: c.others k).take cap
  have hidem : (c.pop k).others k = c.others k := by
    simp [others, pop, List.filter_filter]
  rw [hidem]

/-! ## Eviction -/

/-- There is an entry of `k` with a value in `P`, and every key used after it is in `T`. -/
def Recent (c : Lru κ ν cap) (k : κ) (T : Finset κ) (P : ν → Prop) : Prop :=
  ∃ pre v post, c.entries = pre ++ (k, v) :: post ∧ P v ∧ ∀ e ∈ pre, e.1 ∈ T

theorem recent_use_self (c : Lru κ ν cap) {k : κ} {v : ν} (T : Finset κ) {P : ν → Prop}
    (hcap : 0 < cap) (hv : P v) : (c.use k v).Recent k T P := by
  refine ⟨[], v, (c.others k).take (cap - 1), ?_, hv, by simp⟩
  show ((k, v) :: c.others k).take cap = _
  obtain ⟨n, rfl⟩ : ∃ n, cap = n + 1 := ⟨cap - 1, by omega⟩
  simp

/-- An entry is found, with its value. -/
theorem Recent.peek {c : Lru κ ν cap} {k : κ} {T : Finset κ} {P : ν → Prop}
    (h : c.Recent k T P) : ∃ v, c.peek k = some v ∧ P v := by
  obtain ⟨pre, v, post, hentries, hv, -⟩ := h
  refine ⟨v, ?_, hv⟩
  have hnodup := c.nodup
  rw [hentries, List.map_append, List.map_cons] at hnodup
  have hpre : pre.find? (fun e => e.1 = k) = none := by
    rw [List.find?_eq_none]
    intro e he hk
    have hek : e.1 = k := by simpa using hk
    have hmem : e.1 ∈ pre.map Prod.fst := List.mem_map_of_mem he
    rw [hek] at hmem
    exact (List.disjoint_of_nodup_append hnodup) hmem (List.mem_cons_self ..)
  simp [Lru.peek, hentries, List.find?_append, hpre]

/-- The eviction rule: using another key keeps the entry, unless `cap` keys were used since. -/
theorem Recent.use {c : Lru κ ν cap} {k x : κ} {T : Finset κ} {P : ν → Prop}
    (h : c.Recent k T P) (hx : x ≠ k) (w : ν) :
    (c.use x w).Recent k (insert x T) P ∨ cap ≤ (insert x T).card := by
  obtain ⟨pre, v, post, hentries, hv, hpre⟩ := h
  have hothers : c.others x =
      pre.filter (fun e => e.1 ≠ x) ++ (k, v) :: post.filter fun e => e.1 ≠ x := by
    rw [others, hentries, List.filter_append, List.filter_cons_of_pos (by simpa using hx.symm)]
  -- what stands before the entry after the use
  generalize hfront : (x, w) :: pre.filter (fun e => e.1 ≠ x) = front at *
  have hlist : (x, w) :: c.others x = front ++ (k, v) :: post.filter fun e => e.1 ≠ x := by
    rw [hothers, ← hfront]
    rfl
  have hin : ∀ e ∈ front, e.1 ∈ insert x T := by
    intro e he
    rw [← hfront] at he
    rcases List.mem_cons.1 he with rfl | he
    · exact Finset.mem_insert_self x T
    · exact Finset.mem_insert_of_mem (hpre e (List.mem_filter.1 he).1)
  by_cases hroom : front.length < cap
  · left
    obtain ⟨n, hn⟩ : ∃ n, cap = front.length + (n + 1) := ⟨cap - front.length - 1, by omega⟩
    refine ⟨front, v, (post.filter fun e => e.1 ≠ x).take n, ?_, hv, hin⟩
    show ((x, w) :: c.others x).take cap = _
    rw [hlist, hn, List.take_length_add_append, List.take_succ_cons]
  · right
    have hdistinct : (front.map Prod.fst).Nodup := by
      have hall := c.nodup_front x w
      rw [hlist, List.map_append] at hall
      exact (List.nodup_append.1 hall).1
    calc cap ≤ (front.map Prod.fst).length := by
          rw [List.length_map]
          omega
      _ = (front.map Prod.fst).toFinset.card := (List.toFinset_card_of_nodup hdistinct).symm
      _ ≤ (insert x T).card := by
          refine Finset.card_le_card fun y hy => ?_
          obtain ⟨e, he, rfl⟩ := List.mem_map.1 (List.mem_toFinset.1 hy)
          exact hin e he

/-- The entry is there, or `cap` of the keys in `T` came after it. -/
def Kept (c : Lru κ ν cap) (k : κ) (T : Finset κ) (P : ν → Prop) : Prop :=
  c.Recent k T P ∨ cap ≤ T.card

theorem Kept.use {c : Lru κ ν cap} {k : κ} {T : Finset κ} {P : ν → Prop} (h : c.Kept k T P)
    (hcap : 0 < cap) (x : κ) {w : ν} (hw : x = k → ∀ v, c.peek k = some v → P v → P w) :
    (c.use x w).Kept k (if x = k then T else insert x T) P := by
  rcases h with h | h
  · by_cases hx : x = k
    · obtain ⟨v, hpeek, hv⟩ := h.peek
      subst hx
      exact Or.inl (c.recent_use_self _ hcap (hw rfl v hpeek hv))
    · rw [if_neg hx]
      exact h.use hx w
  · -- once evicted, the count only grows
    refine Or.inr (h.trans (Finset.card_le_card ?_))
    split
    · exact Finset.Subset.refl T
    · exact Finset.subset_insert x T

end

end Lru

end Solvela.Lib
