import Mathlib.Algebra.BigOperators.Group.List.Basic
import Mathlib.Tactic.Ring
import Mathlib.Tactic.Linarith
import Solvela.Budget.Tracker

/-!
# Histories of the budget programs

A history is what a program has written so far and what it was told. The programs are specified
over it, whatever the replies are. A store follows it: each command changes the values of the
counters by what it records (`value_exec`).
-/

namespace Solvela.Budget

open Solvela.Lib

/-! ## Histories -/

/-- A write to a counter; a checked one has its bound. -/
structure Change where
  key : CounterKey
  amount : ℚ
  bound : Option ℚ
deriving DecidableEq

namespace Change

def entry (c : Change) : CounterKey × ℚ := (c.key, c.amount)

/-- The write that takes a commit back. -/
def undo (c : Change) : Change := ⟨c.key, -c.amount, none⟩

/-- What the change is to one counter. -/
def delta (k : CounterKey) (c : Change) : ℚ := if c.key = k then c.amount else 0

end Change

/-- The net change of one counter. -/
def net (cs : List Change) (k : CounterKey) : ℚ := (cs.map (Change.delta k)).sum

@[simp] theorem net_nil (k : CounterKey) : net [] k = 0 := rfl

@[simp] theorem net_cons (c : Change) (cs : List Change) (k : CounterKey) :
    net (c :: cs) k = c.delta k + net cs k := by
  simp [net]

@[simp] theorem net_append (cs ds : List Change) (k : CounterKey) :
    net (cs ++ ds) k = net cs k + net ds k := by
  simp [net]

/-- Undoing takes back what was added. -/
theorem net_undo (cs : List Change) (k : CounterKey) : net (cs.map Change.undo) k = -net cs k := by
  induction cs with
  | nil => simp
  | cons c cs ih =>
    have hdelta : c.undo.delta k = -c.delta k := by
      by_cases h : c.key = k
      · simp [Change.delta, Change.undo, h]
      · simp [Change.delta, Change.undo, h]
    rw [List.map_cons, net_cons, net_cons, ih, hdelta]
    ring

/-- Changes of other counters add nothing. -/
theorem net_eq_zero {cs : List Change} {k : CounterKey} (h : ∀ c ∈ cs, c.key ≠ k) :
    net cs k = 0 := by
  induction cs with
  | nil => rfl
  | cons c cs ih =>
    rw [List.forall_mem_cons] at h
    rw [net_cons, ih h.2, Change.delta, if_neg h.1, add_zero]

/-- What a command writes. The script that goes over its bound takes its addition back. -/
def changeOf : (c : Command) → Reply c → List Change
  | .incrCheck k amount bound _, cur => if cur > bound then [] else [⟨k, amount, some bound⟩]
  | .incrBy k amount, _ => [⟨k, amount, none⟩]
  | .incrAndExpire k amount _, _ => [⟨k, amount, none⟩]
  | _, _ => []

/-- What a program has written, in order, and what it was told. -/
structure History where
  changes : List Change
  now : ℕ
  seen : Lookups

namespace History

def record (h : History) (c : Command) (r : Reply c) : History :=
  match c, r with
  | .now, r => { h with now := r }
  | .walletBudgetConfig _, r => { h with seen.wallet := r }
  | .teamForWallet _, r => { h with seen.team := r }
  | .teamBudgetConfig _, r => { h with seen.teamBudget := r }
  | .tenantBudgetConfig _ _, r => { h with seen.tenantBudget := r }
  | c, r => { h with changes := h.changes ++ changeOf c r }

/-- A history grows by the change of its command. -/
theorem record_changes (h : History) (c : Command) (r : Reply c) :
    (h.record c r).changes = h.changes ++ changeOf c r := by
  cases c <;> simp [record, changeOf]

end History

/-- Histories as ghost values; `can` restricts the replies. -/
def ghost (can : History → (c : Command) → Reply c → Prop) : Prog.Ghost Command Reply History :=
  ⟨History.record, can⟩

/-! ## Stores -/

namespace Store

/-- A written counter is read back, unless it has expired. -/
theorem live_put (s : Store) (k k' : CounterKey) (c : Counter) :
    (s.put k c).live k' =
      if k' = k then if c.expired s.clock then none else some c else s.live k' := by
  by_cases h : k' = k
  · rw [if_pos h, live, put, h]
    simp only [if_true]
  · rw [if_neg h, live, live, put]
    simp only [if_neg h]

/-- A live counter has not expired. -/
theorem not_expired_of_live {s : Store} {k : CounterKey} {c : Counter} (h : s.live k = some c) :
    c.expired s.clock = false := by
  unfold live at h
  split at h
  · simp at h
  · rename_i c' _
    by_cases he : c'.expired s.clock = true
    · simp [he] at h
    · simp only [he] at h
      obtain rfl : c' = c := by simpa using h
      simpa using he

/-- What `INCRBYFLOAT` leaves in each counter. -/
theorem live_incrByFloat (s : Store) (k k' : CounterKey) (a : ℚ) :
    (s.incrByFloat k a).live k' =
      if k' = k then
        some (match s.live k with
          | none => ⟨a, none⟩
          | some c => ⟨c.value + a, c.expiry⟩)
      else s.live k' := by
  unfold incrByFloat
  cases h : s.live k with
  | none =>
    rw [live_put]
    rfl
  | some c =>
    have hexpired : Counter.expired ⟨c.value + a, c.expiry⟩ s.clock = false :=
      (not_expired_of_live h :)
    simp only [live_put, hexpired, Bool.false_eq_true, if_false]

@[simp] theorem clock_incrByFloat (s : Store) (k : CounterKey) (a : ℚ) :
    (s.incrByFloat k a).clock = s.clock := by
  unfold incrByFloat
  split <;> rfl

@[simp] theorem clock_expire (s : Store) (k : CounterKey) (ttl : ℕ) :
    (s.expire k ttl).clock = s.clock := by
  unfold expire
  split <;> rfl

/-- What `EXPIRE` leaves in each counter. -/
theorem live_expire (s : Store) (k k' : CounterKey) {ttl : ℕ} (httl : 0 < ttl) :
    (s.expire k ttl).live k' =
      if k' = k then (s.live k).map fun c => ⟨c.value, some (s.clock + ttl)⟩ else s.live k' := by
  unfold expire
  cases h : s.live k with
  | none =>
    by_cases hk : k' = k
    · rw [if_pos hk, hk, h]
      rfl
    · rw [if_neg hk]
  | some c =>
    rw [live_put]
    by_cases hk : k' = k
    · have hlive : ¬ s.clock + ttl ≤ s.clock := by omega
      simp [hk, Counter.expired, hlive]
    · rw [if_neg hk, if_neg hk]

/-- `INCRBYFLOAT` adds to its counter only. -/
theorem value_incrByFloat (s : Store) (k k' : CounterKey) (a : ℚ) :
    (s.incrByFloat k a).value k' = s.value k' + if k' = k then a else 0 := by
  unfold value
  rw [live_incrByFloat]
  by_cases hk : k' = k
  · rw [if_pos hk, if_pos hk, hk]
    cases s.live k with
    | none => simp
    | some c => rfl
  · rw [if_neg hk, if_neg hk, add_zero]

/-- `EXPIRE` changes no value. -/
theorem value_expire (s : Store) (k k' : CounterKey) {ttl : ℕ} (httl : 0 < ttl) :
    (s.expire k ttl).value k' = s.value k' := by
  unfold value
  rw [live_expire s k k' httl]
  by_cases hk : k' = k
  · rw [if_pos hk, hk]
    cases s.live k with
    | none => rfl
    | some c => rfl
  · rw [if_neg hk]

end Store

/-- The TTLs that a command sets are positive. -/
def Command.TtlPos : Command → Prop
  | .incrCheck _ _ _ ttl => 0 < ttl
  | .incrAndExpire _ _ ttl => 0 < ttl
  | _ => True

namespace Store

/-- Commands take no time. -/
@[simp] theorem clock_exec (env : Lookups) (s : Store) (c : Command) :
    (s.exec env c).2.clock = s.clock := by
  cases c <;> simp only [exec, clock_incrByFloat, clock_expire]
  split <;> simp only [clock_incrByFloat, clock_expire]

/-- A command changes the values by what it writes. -/
theorem value_exec (env : Lookups) (s : Store) {c : Command} (hc : c.TtlPos) (k : CounterKey) :
    (s.exec env c).2.value k = s.value k + net (changeOf c (s.exec env c).1) k := by
  cases c with
  | incrCheck k' amount bound ttl =>
    simp only [exec, changeOf, value_expire _ _ _ hc, value_incrByFloat, if_true]
    by_cases h : s.value k' + amount > bound
    · rw [if_pos h, if_pos h, value_incrByFloat, value_expire _ _ _ hc, value_incrByFloat, net_nil]
      by_cases hk : k = k'
      · simp [hk]
      · simp [hk]
    · rw [if_neg h, if_neg h, value_expire _ _ _ hc, value_incrByFloat]
      simp [Change.delta, eq_comm]
  | incrBy k' amount =>
    simp [exec, changeOf, value_incrByFloat, Change.delta, eq_comm]
  | incrAndExpire k' amount ttl =>
    simp [exec, changeOf, value_expire _ _ _ hc, value_incrByFloat, Change.delta, eq_comm]
  | _ => simp [exec, changeOf]

end Store

end Solvela.Budget
