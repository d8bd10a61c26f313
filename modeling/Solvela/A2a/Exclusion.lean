import Solvela.A2a.LegSpecs

/-!
# Exactly-once settlement of a task

A leg settles between its `Working` marker and the revert of it. The marker is a load, a check and
a save, so it excludes other legs only while the leg has the settle lock: `settled_exactly_once`
is about the runs where every leg that writes `Working` or `Canceled` still has the lock that it
took. The lock can expire, or be deleted by the release of a leg that no longer has it.

* `Exclusive`, at most one leg is between its marker and its end, and `Exclusive.step`;
* `step_decided`, what a step may do to a task that is payable or marked;
* `exclusive_run`, the run.
-/

namespace Solvela.A2a

open Solvela.Lib

/-! ## The invariant -/

/-- At most one leg has a marker, and as long as it has, the task is what that leg knows of it; the
only settlement is that of the leg with the marker. -/
structure Exclusive (s : System) : Prop where
  leg : ∀ i, LegMeets (fun _ _ => True) (s.legs i).knows (s.legs i).program
  unstarted : ∀ i, (s.legs i).started = false → s.legs i = .idle
  marked_once : ∀ i j, (s.legs i).knows.marked = true → (s.legs j).knows.marked = true → i = j
  marked_state : ∀ i, (s.legs i).knows.marked = true →
    s.world.task.state ≠ .inputRequired ∧ s.world.task.state ≠ .canceled
  -- nobody else writes the task while a leg has its marker
  marked_snapshot : ∀ i record, (s.legs i).knows.marked = true →
    (s.legs i).knows.snapshot = some record → record.state = s.world.task.state
  -- or while a leg has the lock and has found the task payable
  lock_snapshot : ∀ i record, s.world.lock = some i → (s.legs i).knows.snapshot = some record →
    record.state = .inputRequired → s.world.task.state = .inputRequired
  settled : s.world.settled = [] ∨ ∃ i, s.world.settled = [i] ∧
    (s.legs i).knows.marked = true ∧ (s.legs i).knows.settled = true

/-- Before any leg has started. -/
theorem Exclusive.init (taskId contextId : String) : Exclusive (.init taskId contextId) := by
  refine ⟨fun _ => trivial, fun _ _ => rfl, ?_, ?_, ?_, ?_, Or.inl rfl⟩
  all_goals simp [System.init, Leg.idle, Knows.nothing]

/-- A step that leaves the task and the settlements: a leg may lose its marker, take the lock with
nothing loaded, or load the task. -/
theorem Exclusive.quiet {s s' : System} (h : Exclusive s)
    (hleg : ∀ i, LegMeets (fun _ _ => True) (s'.legs i).knows (s'.legs i).program)
    (hunstarted : ∀ i, (s'.legs i).started = false → s'.legs i = .idle)
    (htask : s'.world.task = s.world.task) (hsettled : s'.world.settled = s.world.settled)
    (hlock : ∀ i, s'.world.lock = some i → s.world.lock = some i ∨
      (s'.legs i).knows.snapshot = none)
    (hsnapshot : ∀ i, (s'.legs i).knows.snapshot = (s.legs i).knows.snapshot ∨
      (s'.legs i).knows.snapshot = none ∨ (s'.legs i).knows.snapshot = some s.world.task)
    (hmarked : ∀ i, (s'.legs i).knows.marked = true → (s.legs i).knows.marked = true)
    (hkept : ∀ i, (s.legs i).knows.marked = true → (s.legs i).knows.settled = true →
      (s'.legs i).knows.marked = true ∧ (s'.legs i).knows.settled = true) : Exclusive s' where
  leg := hleg
  unstarted := hunstarted
  marked_once := fun i j hi hj => h.marked_once i j (hmarked i hi) (hmarked j hj)
  marked_state := by
    intro i hi
    rw [htask]
    exact h.marked_state i (hmarked i hi)
  marked_snapshot := by
    intro i record hi hrecord
    rw [htask]
    rcases hsnapshot i with hsame | hnone | hloaded
    · exact h.marked_snapshot i record (hmarked i hi) (hsame ▸ hrecord)
    · rw [hnone] at hrecord
      cases hrecord
    · rw [hloaded, Option.some.injEq] at hrecord
      rw [hrecord]
  -- the snapshot of the lock's holder is the old one, none, or the task as it is
  lock_snapshot := by
    intro i record hi hrecord hstate
    rw [htask]
    rcases hsnapshot i with hsame | hnone | hloaded
    · rcases hlock i hi with hold | hnone
      · exact h.lock_snapshot i record hold (hsame ▸ hrecord) hstate
      · rw [hnone] at hrecord
        cases hrecord
    · rw [hnone] at hrecord
      cases hrecord
    · rw [hloaded, Option.some.injEq] at hrecord
      rw [hrecord]
      exact hstate
  settled := by
    rw [hsettled]
    rcases h.settled with hnil | ⟨i, hi, hm, hs⟩
    · exact Or.inl hnil
    · exact Or.inr ⟨i, hi, hkept i hm hs⟩

/-- Nobody has settled a task that no leg has marked. -/
theorem Exclusive.settled_nil {s : System} (h : Exclusive s)
    (hmarked : ∀ i, (s.legs i).knows.marked = true → (s.legs i).knows.settled = false) :
    s.world.settled = [] := by
  rcases h.settled with hnil | ⟨i, -, hm, hs⟩
  · exact hnil
  · rw [hmarked i hm] at hs
    cases hs

theorem setLeg_self (s : System) (i : ℕ) (leg : Leg) : (s.setLeg i leg).legs i = leg := if_pos rfl

theorem setLeg_ne (s : System) {i j : ℕ} (leg : Leg) (h : j ≠ i) :
    (s.setLeg i leg).legs j = s.legs j := if_neg h

/-- What a write of a leg finds. A marker finds a payable task and no other marker, if the leg has
the lock; the other writes find the leg's own marker. -/
theorem Exclusive.save_cases {s : System} (h : Exclusive s) {i : ℕ} {record : TaskRecord}
    (hsave : Save (s.legs i).knows record)
    (hlock : (s.legs i).knows.marked = false → s.world.lock = some i) :
    (s.world.lock = some i ∧ s.world.task.state = .inputRequired ∧
      (∀ j, (s.legs j).knows.marked = false) ∧
      (record.state = .working ∨ record.state = .canceled)) ∨
    ((s.legs i).knows.marked = true ∧ (s.legs i).knows.settled = false ∧
      record.state = .inputRequired) ∨
    ((s.legs i).knows.marked = true ∧ record.state ≠ .inputRequired ∧
      record.state ≠ .canceled) := by
  cases hsave with
  | marker hsnapshot hbefore hmarked hstate =>
    -- the lock keeps the task as the leg has loaded it, and a payable task has no marker
    have htask := h.lock_snapshot i _ (hlock hmarked) hsnapshot hbefore
    refine Or.inl ⟨hlock hmarked, htask, ?_, hstate⟩
    intro j
    by_contra hj
    exact (h.marked_state j (by simpa using hj)).1 htask
  | revert hmarked hsettled hstate => exact Or.inr (Or.inl ⟨hmarked, hsettled, hstate⟩)
  | finish hsnapshot hmarked hstate =>
    refine Or.inr (Or.inr ⟨hmarked, ?_⟩)
    rcases hstate with hsame | hcompleted | hfailed
    · rw [hsame, h.marked_snapshot i _ hmarked hsnapshot]
      exact h.marked_state i hmarked
    · simp [hcompleted]
    · simp [hfailed]

/-- A write that is applied. -/
theorem Exclusive.save {s s' : System} (h : Exclusive s) {i : ℕ} {record : TaskRecord}
    (hsave : Save (s.legs i).knows record)
    (hlock : (s.legs i).knows.marked = false → s.world.lock = some i)
    (hleg : ∀ j, LegMeets (fun _ _ => True) (s'.legs j).knows (s'.legs j).program)
    (hunstarted : ∀ j, (s'.legs j).started = false → s'.legs j = .idle)
    (hworld : s'.world = { s.world with task := record })
    (hother : ∀ j, j ≠ i → s'.legs j = s.legs j)
    (hsnapshot : (s'.legs i).knows.snapshot = none)
    (hsettled : (s'.legs i).knows.settled = (s.legs i).knows.settled)
    (hmarked : (s'.legs i).knows.marked = true → record.state ≠ .inputRequired ∧
      ((s.legs i).knows.marked = true ∨ record.state = .working))
    (hkept : (s.legs i).knows.marked = true → record.state ≠ .inputRequired →
      (s'.legs i).knows.marked = true) : Exclusive s' := by
  have hcases := h.save_cases hsave hlock
  -- no other leg has a marker
  have hmarkedOther : ∀ j, (s'.legs j).knows.marked = true → j = i := by
    intro j hj
    by_contra hne
    rw [hother j hne] at hj
    rcases hcases with ⟨-, -, hnone, -⟩ | ⟨hi, -⟩ | ⟨hi, -⟩
    · rw [hnone j] at hj
      cases hj
    · exact hne (h.marked_once j i hj hi)
    · exact hne (h.marked_once j i hj hi)
  refine ⟨hleg, hunstarted, ?_, ?_, ?_, ?_, ?_⟩
  · intro j k hj hk
    rw [hmarkedOther j hj, hmarkedOther k hk]
  · intro j hj
    have hi := hmarkedOther j hj
    subst hi
    obtain ⟨hpayable, hworking⟩ := hmarked hj
    rw [hworld]
    refine ⟨hpayable, ?_⟩
    rcases hcases with ⟨-, -, hnone, -⟩ | ⟨-, -, hstate⟩ | ⟨-, -, hstate⟩
    · rcases hworking with hold | hworking
      · rw [hnone j] at hold
        cases hold
      · rw [hworking]
        simp
    · exact absurd hstate hpayable
    · exact hstate
  · intro j record' hj hrecord
    rw [hmarkedOther j hj, hsnapshot] at hrecord
    cases hrecord
  · -- a leg with the lock that found the task payable: the writer has forgotten what it loaded, a
    -- marker is written under the lock, and a marked task is not payable
    intro j record' hj hrecord hstate
    rw [hworld] at hj ⊢
    by_cases hne : j = i
    · rw [hne, hsnapshot] at hrecord
      cases hrecord
    · rw [hother j hne] at hrecord
      rcases hcases with ⟨hi, -⟩ | ⟨-, -, hrevert⟩ | ⟨hi, -⟩
      · rw [hi] at hj
        exact absurd (Option.some.inj hj).symm hne
      · exact hrevert
      · exact absurd (h.lock_snapshot j record' hj hrecord hstate) (h.marked_state i hi).1
  · -- a settled task has the marker of the leg that settled, and only its own end takes that away
    rw [hworld]
    rcases hcases with ⟨-, -, hnone, -⟩ | ⟨hi, hunsettled, -⟩ | ⟨hi, hstate, -⟩
    · refine Or.inl (h.settled_nil ?_)
      intro j hj
      rw [hnone j] at hj
      cases hj
    · refine Or.inl (h.settled_nil ?_)
      intro j hj
      rw [h.marked_once j i hj hi]
      exact hunsettled
    · rcases h.settled with hnil | ⟨j, hj, hm, hs⟩
      · exact Or.inl hnil
      · obtain rfl := h.marked_once j i hm hi
        exact Or.inr ⟨j, hj, hkept hi hstate, hsettled.trans hs⟩

/-! ## The steps -/

/-- The leg, the environment and the command of a step. -/
def System.sends (s : System) : Label → Option (ℕ × Env × Command)
  | .advance i env =>
    match (s.legs i).program with
    | .done _ => none
    | .call c _ => some (i, env, c)
  | _ => none

/-- The write of the marker or of the cancelation is made with the lock that the leg took. -/
def System.underLock (s : System) : Option (ℕ × Env × Command) → Bool
  | some (i, env, .setTask _) =>
    env.redis = .notApplied ∨ (s.legs i).knows.marked = true ∨ s.world.lock = some i
  | _ => true

def MarksUnderLock (s : System) (l : Label) : Prop := s.underLock (s.sends l)

instance (s : System) (l : Label) : Decidable (MarksUnderLock s l) :=
  inferInstanceAs (Decidable (_ = true))

/-- A command that neither writes the task nor settles. -/
structure Quiet (env : Env) (i : ℕ) (w : World) (k : Knows) (c : Command) : Prop where
  task : (exec env i w c).2.task = w.task
  settled : (exec env i w c).2.settled = w.settled
  lock : ∀ j, (exec env i w c).2.lock = some j → w.lock = some j ∨
    (j = i ∧ (k.record c (exec env i w c).1).snapshot = none)
  snapshot : (k.record c (exec env i w c).1).snapshot = k.snapshot ∨
    (k.record c (exec env i w c).1).snapshot = none ∨
    (k.record c (exec env i w c).1).snapshot = some w.task
  marked : (k.record c (exec env i w c).1).marked = k.marked
  knowsSettled : (k.record c (exec env i w c).1).settled = k.settled

/-- Every command but a write of the record and the settlement leaves both alone. -/
theorem exec_quiet (env : Env) (i : ℕ) (w : World) (k : Knows) {c : Command}
    (hset : ∀ record, c ≠ .setTask record) (hverify : c ≠ .verifyAndSettle) :
    Quiet env i w k c := by
  cases c with
  | setTask record => exact absurd rfl (hset record)
  | verifyAndSettle => exact absurd rfl hverify
  | acquireSettleLock =>
    refine ⟨?_, ?_, ?_, Or.inr (Or.inl rfl), rfl, rfl⟩
    · simp only [exec]
      cases w.lock <;> cases env.redis <;> rfl
    · simp only [exec]
      cases w.lock <;> cases env.redis <;> rfl
    · intro j hj
      -- whoever has the lock now had it before, or is this leg, which has to load the task again
      by_cases hi : j = i
      · exact Or.inr ⟨hi, rfl⟩
      · left
        revert hj
        simp only [exec]
        cases hlock : w.lock with
        | none => cases env.redis <;> simp [World.write, hlock, Ne.symm hi]
        | some k => cases env.redis <;> simp [World.write, hlock]
  | releaseSettleLock =>
    refine ⟨?_, ?_, ?_, Or.inl rfl, rfl, rfl⟩
    · simp only [exec]
      cases env.redis <;> rfl
    · simp only [exec]
      cases env.redis <;> rfl
    · intro j hj
      left
      revert hj
      simp only [exec]
      cases env.redis <;> simp [World.write]
  | getTask =>
    have hworld : (exec env i w .getTask).2 = w := by
      simp only [exec]
      cases env.redis <;> rfl
    refine ⟨by rw [hworld], by rw [hworld], ?_, ?_, ?_, ?_⟩
    · intro j hj
      rw [hworld] at hj
      exact Or.inl hj
    · simp only [exec]
      cases env.redis with
      | none => exact Or.inr (Or.inr rfl)
      | notApplied => exact Or.inl rfl
      | replyLost => exact Or.inl rfl
    · simp only [exec]
      cases env.redis <;> rfl
    · simp only [exec]
      cases env.redis <;> rfl
  | _ => exact ⟨rfl, rfl, fun j hj => Or.inl hj, Or.inl rfl, rfl, rfl⟩

section Command
variable {s : System} {i : ℕ} {env : Env} {c : Command}
  {next : Reply c → Program (Except JsonRpcError Task)}

/-- A command moves its own leg only. -/
theorem command_legs_ne {j : ℕ} (hj : j ≠ i) : (s.command i env c next).legs j = s.legs j :=
  setLeg_ne _ _ hj

/-- A leg remembers its command and the reply. -/
theorem command_knows : ((s.command i env c next).legs i).knows =
    (s.legs i).knows.record c (exec env i s.world c).1 := by
  rw [System.command, setLeg_self]

/-- No command starts a leg. -/
theorem command_started (j : ℕ) :
    ((s.command i env c next).legs j).started = (s.legs j).started := by
  revert j
  apply forall_set (P := fun j (l : Leg) => l.started = (s.legs j).started)
  · rfl
  · exact fun _ _ => rfl

end Command

/-- A leg writes the record under the lock: of all legs only the marking one goes on. -/
theorem Exclusive.command_setTask {s : System} (h : Exclusive s) {i : ℕ} {env : Env}
    {record : TaskRecord} {next : Reply (.setTask record) → Program (Except JsonRpcError Task)}
    (hsave : Save (s.legs i).knows record)
    (hlock : s.underLock (some (i, env, .setTask record)) = true)
    (hleg : ∀ j, LegMeets (fun _ _ => True) ((s.command i env _ next).legs j).knows
      ((s.command i env _ next).legs j).program)
    (hunstarted : ∀ j, ((s.command i env _ next).legs j).started = false →
      (s.command i env _ next).legs j = .idle) : Exclusive (s.command i env _ next) := by
  simp only [System.underLock, Bool.decide_or, Bool.or_eq_true, decide_eq_true_eq] at hlock
  have hmarked := marked_setTask (s.legs i).knows record (exec env i s.world (.setTask record)).1
  by_cases hdb : env.redis = .notApplied
  · -- the task stays, and a leg that wanted to revert has given its marker up
    have hworld : (s.command i env (.setTask record) next).world = s.world := by
      simp only [System.command, System.setLeg, exec, hdb, World.write]
    refine h.quiet hleg hunstarted (by rw [hworld]) (by rw [hworld]) ?_ ?_ ?_ ?_
    · intro j hj
      rw [hworld] at hj
      exact Or.inl hj
    · intro j
      by_cases hj : j = i
      · rw [hj, command_knows]
        exact Or.inr (Or.inl rfl)
      · rw [command_legs_ne hj]
        exact Or.inl rfl
    · intro j hm
      by_cases hj : j = i
      · rw [hj, command_knows] at hm
        rw [hj]
        rcases (hmarked.1 hm).2 with hold | ⟨-, hok⟩
        · exact hold
        · simp only [exec, hdb, World.write] at hok
          cases hok
      · rw [command_legs_ne hj] at hm
        exact hm
    · intro j hm hs
      by_cases hj : j = i
      · rw [hj] at hm hs
        rw [hj, command_knows]
        refine ⟨hmarked.2 ⟨?_, Or.inl hm⟩, hs⟩
        have hnotFalse : (s.legs i).knows.marked = false → s.world.lock = some i := by
          rw [hm]
          simp
        rcases h.save_cases hsave hnotFalse with ⟨-, -, hnone, -⟩ | ⟨-, hunsettled, -⟩ | ⟨-, hne, -⟩
        · rw [hnone i] at hm
          cases hm
        · rw [hunsettled] at hs
          cases hs
        · exact hne
      · rw [command_legs_ne hj]
        exact ⟨hm, hs⟩
  -- the task is written: of the legs, the one that writes is the one that may
  · have hworld : (s.command i env (.setTask record) next).world =
        { s.world with task := record } := by
      simp only [System.command, System.setLeg, exec]
      cases hfault : env.redis with
      | notApplied => exact absurd hfault hdb
      | none => rfl
      | replyLost => rfl
    refine h.save hsave ?_ hleg hunstarted hworld (fun j hj => command_legs_ne hj) ?_ ?_ ?_ ?_
    -- without its marker a leg writes under the lock only
    · intro hunmarked
      rcases hlock with hfault | hm | hi
      · exact absurd hfault hdb
      · rw [hunmarked] at hm
        cases hm
      · exact hi
    · rw [command_knows]
      rfl
    · rw [command_knows]
      rfl
    · rw [command_knows]
      intro hm
      obtain ⟨hne, hm⟩ := hmarked.1 hm
      exact ⟨hne, hm.imp id And.left⟩
    · rw [command_knows]
      intro hm hne
      exact hmarked.2 ⟨hne, Or.inl hm⟩

/-- The leg that settles is the one whose marker stands. -/
theorem Exclusive.command_verifyAndSettle {s : System} (h : Exclusive s) {i : ℕ} {env : Env}
    {next : Reply .verifyAndSettle → Program (Except JsonRpcError Task)}
    (hmid : (s.legs i).knows.marked = true ∧ (s.legs i).knows.settled = false)
    (hleg : ∀ j, LegMeets (fun _ _ => True) ((s.command i env _ next).legs j).knows
      ((s.command i env _ next).legs j).program)
    (hunstarted : ∀ j, ((s.command i env _ next).legs j).started = false →
      (s.command i env _ next).legs j = .idle) : Exclusive (s.command i env _ next) := by
  have hmarked : ∀ j, ((s.command i env .verifyAndSettle next).legs j).knows.marked =
      (s.legs j).knows.marked :=
    forall_set (P := fun j (l : Leg) => l.knows.marked = (s.legs j).knows.marked) rfl
      (fun _ _ => rfl)
  have hsnapshot : ∀ j, ((s.command i env .verifyAndSettle next).legs j).knows.snapshot =
      (s.legs j).knows.snapshot :=
    forall_set (P := fun j (l : Leg) => l.knows.snapshot = (s.legs j).knows.snapshot) rfl
      (fun _ _ => rfl)
  have hworld : (s.command i env .verifyAndSettle next).world =
      if Settlement.succeeded env.settlement then
        { s.world with settled := s.world.settled ++ [i] }
      else s.world := rfl
  -- the only marker is that of this leg, which has not settled
  have hnil : s.world.settled = [] := by
    apply h.settled_nil
    intro j hj
    rw [h.marked_once j i hj hmid.1]
    exact hmid.2
  have htask : (s.command i env .verifyAndSettle next).world.task = s.world.task := by
    rw [hworld]
    split <;> rfl
  have hlock : (s.command i env .verifyAndSettle next).world.lock = s.world.lock := by
    rw [hworld]
    split <;> rfl
  refine ⟨hleg, hunstarted, ?_, ?_, ?_, ?_, ?_⟩
  · intro j k hj hk
    rw [hmarked] at hj hk
    exact h.marked_once j k hj hk
  · intro j hj
    rw [hmarked] at hj
    rw [htask]
    exact h.marked_state j hj
  · intro j record hj hrecord
    rw [hmarked] at hj
    rw [hsnapshot] at hrecord
    rw [htask]
    exact h.marked_snapshot j record hj hrecord
  · intro j record hj hrecord hstate
    rw [hlock] at hj
    rw [hsnapshot] at hrecord
    rw [htask]
    exact h.lock_snapshot j record hj hrecord hstate
  · rw [hworld]
    by_cases hsucceeded : Settlement.succeeded env.settlement = true
    · rw [if_pos hsucceeded, hnil]
      refine Or.inr ⟨i, rfl, ?_, ?_⟩
      · rw [hmarked]
        exact hmid.1
      · rw [command_knows]
        show ((s.legs i).knows.settled || Settlement.succeeded env.settlement) = true
        rw [hsucceeded, Bool.or_true]
    · rw [if_neg hsucceeded]
      exact Or.inl hnil

/-- What one command preserves. -/
theorem Exclusive.command {s : System} (h : Exclusive s) {i : ℕ} {env : Env} {c : Command}
    {next : Reply c → Program (Except JsonRpcError Task)}
    (hprogram : (s.legs i).program = .call c next)
    (hlock : s.underLock (some (i, env, c)) = true) : Exclusive (s.command i env c next) := by
  -- the specification of the leg says which command this can be, and holds of what is left of it
  have hcall := h.leg i
  rw [hprogram] at hcall
  have hleg : ∀ j, LegMeets (fun _ _ => True) ((s.command i env c next).legs j).knows
      ((s.command i env c next).legs j).program :=
    forall_set (P := fun _ (l : Leg) => LegMeets (fun _ _ => True) l.knows l.program)
      (hcall.reply trivial) (fun j _ => h.leg j)
  have hunstarted : ∀ j, ((s.command i env c next).legs j).started = false →
      (s.command i env c next).legs j = .idle := by
    intro j hj
    rw [command_started] at hj
    have hidle := h.unstarted j hj
    by_cases hi : j = i
    · rw [hi] at hidle
      rw [hidle] at hprogram
      cases hprogram
    · rw [command_legs_ne hi]
      exact hidle
  by_cases hset : ∃ record, c = .setTask record
  · obtain ⟨record, rfl⟩ := hset
    exact h.command_setTask hcall.1 hlock hleg hunstarted
  · by_cases hverify : c = .verifyAndSettle
    · subst hverify
      exact h.command_verifyAndSettle hcall.1 hleg hunstarted
    · have hquiet := exec_quiet env i s.world (s.legs i).knows
        (fun record hc => hset ⟨record, hc⟩) hverify
      apply h.quiet hleg hunstarted hquiet.task hquiet.settled
      · intro j hj
        rcases hquiet.lock j hj with hold | ⟨rfl, hnone⟩
        · exact Or.inl hold
        · rw [command_knows]
          exact Or.inr hnone
      · intro j
        by_cases hj : j = i
        · rw [hj, command_knows]
          exact hquiet.snapshot
        · rw [command_legs_ne hj]
          exact Or.inl rfl
      · intro j hm
        by_cases hj : j = i
        · rw [hj, command_knows, hquiet.marked] at hm
          rw [hj]
          exact hm
        · rw [command_legs_ne hj] at hm
          exact hm
      · intro j hm hs
        by_cases hj : j = i
        · rw [hj] at hm hs
          rw [hj, command_knows, hquiet.marked, hquiet.knowsSettled]
          exact ⟨hm, hs⟩
        · rw [command_legs_ne hj]
          exact ⟨hm, hs⟩

/-- A leg that starts, or ends in a crash: what it knows stays. -/
theorem Exclusive.setProgram {s : System} (h : Exclusive s) (i : ℕ) {leg : Leg}
    (hknows : leg.knows = (s.legs i).knows)
    (hleg : LegMeets (fun _ _ => True) leg.knows leg.program)
    (hunstarted : leg.started = false → leg = .idle) : Exclusive (s.setLeg i leg) := by
  have hsame : ∀ j, ((s.setLeg i leg).legs j).knows = (s.legs j).knows :=
    forall_set (P := fun j (l : Leg) => l.knows = (s.legs j).knows) hknows (fun _ _ => rfl)
  refine h.quiet ?_ ?_ rfl rfl (fun _ hj => Or.inl hj) ?_ ?_ ?_
  · exact forall_set (P := fun _ (l : Leg) => LegMeets (fun _ _ => True) l.knows l.program) hleg
      (fun j _ => h.leg j)
  · exact forall_set (P := fun _ (l : Leg) => l.started = false → l = .idle) hunstarted
      (fun j _ => h.unstarted j)
  · intro j
    rw [hsame j]
    exact Or.inl rfl
  · intro j hj
    rw [hsame j] at hj
    exact hj
  · intro j hm hs
    rw [hsame j]
    exact ⟨hm, hs⟩

/-- A leg that starts knows nothing yet. -/
theorem Exclusive.start {s : System} (h : Exclusive s) (i : ℕ)
    {program : Program (Except JsonRpcError Task)}
    (hprogram : LegMeets (fun _ _ => True) .nothing program) : Exclusive (s.start i program) := by
  unfold System.start
  split
  · exact h
  · rename_i hstarted
    apply h.setProgram i
    · rw [h.unstarted i (by simpa using hstarted)]
      rfl
    · exact hprogram
    · intro hfalse
      cases hfalse

/-- What one step preserves, if markers are written under the lock. -/
theorem Exclusive.step {s : System} {l : Label} (h : Exclusive s) (hlock : MarksUnderLock s l) :
    Exclusive (step s l) := by
  cases l with
  | pay i devBypassPayment payment => exact h.start i (settlePaidTask_meets _ _ _ _)
  | cancel i => exact h.start i (cancelUnderLock_meets _)
  | advance i env =>
    cases hprogram : (s.legs i).program with
    | done _ =>
      simp only [A2a.step, hprogram]
      exact h
    | call c next =>
      simp only [A2a.step, hprogram]
      simp only [MarksUnderLock, System.sends, hprogram] at hlock
      exact h.command hprogram hlock
  | crash i =>
    apply h.setProgram i
    · rfl
    · trivial
    · intro hstarted
      show (⟨(s.legs i).started, _, (s.legs i).knows⟩ : Leg) = .idle
      rw [h.unstarted i hstarted]
      rfl
  | expire =>
    refine h.quiet h.leg h.unstarted rfl rfl ?_ (fun _ => Or.inl rfl) (fun _ hj => hj)
      (fun _ hm hs => ⟨hm, hs⟩)
    intro i hi
    cases hi

/-- A step changes the state of the task, or settles it, only if it is payable or marked. -/
theorem step_decided {s : System} {l : Label} (h : Exclusive s) (hlock : MarksUnderLock s l)
    (hstate : s.world.task.state = .canceled) :
    (step s l).world.task.state = .canceled ∧ (step s l).world.settled = s.world.settled := by
  have hunmarked : ∀ i, (s.legs i).knows.marked ≠ true := by
    intro i hi
    exact (h.marked_state i hi).2 hstate
  cases l with
  | pay i devBypassPayment payment =>
    simp only [step, System.start]
    split <;> exact ⟨hstate, rfl⟩
  | cancel i =>
    simp only [step, System.start]
    split <;> exact ⟨hstate, rfl⟩
  | advance i env =>
    cases hprogram : (s.legs i).program with
    | done _ =>
      simp only [step, hprogram]
      exact ⟨hstate, trivial⟩
    | call c next =>
      have hcall := h.leg i
      rw [hprogram] at hcall
      simp only [MarksUnderLock, System.sends, hprogram] at hlock
      simp only [step, hprogram]
      by_cases hset : ∃ record, c = .setTask record
      · obtain ⟨record, rfl⟩ := hset
        simp only [System.underLock, Bool.decide_or, Bool.or_eq_true, decide_eq_true_eq] at hlock
        -- a canceled task is neither marked nor payable, so the only write that is left is one that
        -- is not applied
        rcases hlock with hfault | hm | hi
        · show (exec env i s.world (.setTask record)).2.task.state = _ ∧
            (exec env i s.world (.setTask record)).2.settled = _
          simp only [exec, hfault, World.write]
          exact ⟨hstate, trivial⟩
        · exact absurd hm (hunmarked i)
        · rcases h.save_cases hcall.1 (fun _ => hi) with ⟨-, hpayable, -⟩ | ⟨hm, -⟩ | ⟨hm, -⟩
          · rw [hstate] at hpayable
            cases hpayable
          · exact absurd hm (hunmarked i)
          · exact absurd hm (hunmarked i)
      · by_cases hverify : c = .verifyAndSettle
        · subst hverify
          exact absurd hcall.1.1 (hunmarked i)
        · have hquiet := exec_quiet env i s.world (s.legs i).knows
            (fun record hc => hset ⟨record, hc⟩) hverify
          refine ⟨?_, hquiet.settled⟩
          show (exec env i s.world c).2.task.state = _
          rw [hquiet.task, hstate]
  | crash i => exact ⟨hstate, rfl⟩
  | expire => exact ⟨hstate, rfl⟩

/-! ## Whole runs -/

/-- At most one leg ever settles; after that the task is never payable again or canceled; and once
the task is canceled nobody settles. -/
structure SettledOnce (taskId contextId : String) (labels : List Label) : Prop where
  once : ∀ as bs, labels = as ++ bs →
    (run step (.init taskId contextId) as).world.settled.length ≤ 1
  decided : ∀ as bs cs, labels = as ++ bs ++ cs →
    (run step (.init taskId contextId) as).world.settled ≠ [] →
    (run step (.init taskId contextId) (as ++ bs)).world.task.state ≠ .inputRequired ∧
      (run step (.init taskId contextId) (as ++ bs)).world.task.state ≠ .canceled
  canceled : ∀ as bs cs, labels = as ++ bs ++ cs →
    (run step (.init taskId contextId) as).world.task.state = .canceled →
    (run step (.init taskId contextId) (as ++ bs)).world.settled =
      (run step (.init taskId contextId) as).world.settled

/-- What a whole run preserves. -/
theorem exclusive_run {taskId contextId : String} {labels : List Label}
    (hlock : AllSteps step MarksUnderLock (.init taskId contextId) labels) :
    Exclusive (run step (.init taskId contextId) labels) :=
  run_invariant_of_allSteps (fun _ _ h hl => h.step hl) (Exclusive.init taskId contextId) hlock

/-- What was settled stays settled. -/
theorem settled_step {s : System} (l : Label) (h : s.world.settled ≠ []) :
    (step s l).world.settled ≠ [] := by
  cases l with
  | advance i env =>
    cases hprogram : (s.legs i).program with
    | done _ =>
      simp only [step, hprogram]
      exact h
    | call c next =>
      simp only [step, hprogram]
      show (exec env i s.world c).2.settled ≠ []
      -- a task is written or a payment is settled; the other commands leave both alone
      by_cases hset : ∃ record, c = .setTask record
      · obtain ⟨record, rfl⟩ := hset
        simp only [exec]
        cases env.redis <;> exact h
      · by_cases hverify : c = .verifyAndSettle
        · subst hverify
          simp only [exec]
          split
          · simp
          · exact h
        · rw [(exec_quiet env i s.world (s.legs i).knows
            (fun record hc => hset ⟨record, hc⟩) hverify).settled]
          exact h
  | pay i devBypassPayment payment =>
    simp only [step, System.start]
    split <;> exact h
  | cancel i =>
    simp only [step, System.start]
    split <;> exact h
  | crash i => exact h
  | expire => exact h

/-- In every run whose markers and cancelations are written by legs that have the lock, the task
is settled at most once, never after it was canceled, and is decided when it is settled. -/
theorem settled_exactly_once {taskId contextId : String} {labels : List Label}
    (hlock : AllSteps step MarksUnderLock (.init taskId contextId) labels) :
    SettledOnce taskId contextId labels := by
  refine ⟨?_, ?_, ?_⟩
  -- at most one leg settles
  · intro as bs hsplit
    rw [hsplit, allSteps_append] at hlock
    rcases (exclusive_run hlock.1).settled with hnil | ⟨i, hi, -⟩
    · rw [hnil]
      exact Nat.zero_le 1
    · rw [hi]
      exact Nat.le_refl 1
  -- after that the task is marked, and so stays what the leg makes of it
  · intro as bs cs hsplit hsettled
    rw [hsplit, allSteps_append] at hlock
    have hstays : (run step (.init taskId contextId) (as ++ bs)).world.settled ≠ [] := by
      rw [run_append]
      have hstep : ∀ s l, s.world.settled ≠ [] → (step s l).world.settled ≠ [] :=
        fun _ l h => settled_step l h
      exact run_invariant hstep hsettled bs
    rcases (exclusive_run hlock.1).settled with hnil | ⟨i, -, hmarked, -⟩
    · exact absurd hnil hstays
    · exact (exclusive_run hlock.1).marked_state i hmarked
  -- a canceled task stays canceled, and nothing is settled any more
  · intro as bs cs hsplit hcanceled
    rw [hsplit, allSteps_append, allSteps_append] at hlock
    have hstep : ∀ s l, (Exclusive s ∧ s.world.task.state = .canceled ∧
        s.world.settled = (run step (.init taskId contextId) as).world.settled) →
        MarksUnderLock s l →
        Exclusive (step s l) ∧ (step s l).world.task.state = .canceled ∧
          (step s l).world.settled = (run step (.init taskId contextId) as).world.settled := by
      intro s l hs hl
      obtain ⟨hstate, hsettled⟩ := step_decided hs.1 hl hs.2.1
      exact ⟨hs.1.step hl, hstate, hsettled.trans hs.2.2⟩
    rw [run_append]
    exact (run_invariant_of_allSteps hstep ⟨exclusive_run hlock.1.1, hcanceled, rfl⟩
      hlock.1.2).2.2

def exampleEnv : Env :=
  ⟨.none, .ok (), .ok ⟨true, some "signature", none⟩, some "/v1/receipts/1", .ok (some "text")⟩

def examplePayment (txRaw : String) : Payment := ⟨"exact", txRaw, false, .ok ()⟩

/-- The second payment leg waits for the first one, which settles, and is rejected. -/
theorem settled_by_first_leg :
    AllSteps step MarksUnderLock (.init "a2a_1" "context")
      (.pay 0 false (examplePayment "first") :: List.replicate 6 (.advance 0 exampleEnv) ++
        .pay 1 false (examplePayment "second") :: List.replicate 6 (.advance 1 exampleEnv)) ∧
    (run step (.init "a2a_1" "context")
      (.pay 0 false (examplePayment "first") :: List.replicate 6 (.advance 0 exampleEnv) ++
        .pay 1 false (examplePayment "second") ::
          List.replicate 6 (.advance 1 exampleEnv))).world.settled = [0] ∧
    SettledOnce "a2a_1" "context"
      (.pay 0 false (examplePayment "first") :: List.replicate 6 (.advance 0 exampleEnv) ++
        .pay 1 false (examplePayment "second") :: List.replicate 6 (.advance 1 exampleEnv)) := by
  have hlock : AllSteps step MarksUnderLock (.init "a2a_1" "context")
      (.pay 0 false (examplePayment "first") :: List.replicate 6 (.advance 0 exampleEnv) ++
        .pay 1 false (examplePayment "second") :: List.replicate 6 (.advance 1 exampleEnv)) := by
    decide +kernel
  exact ⟨hlock, by decide +kernel, settled_exactly_once hlock⟩

/-- The lock of the first leg expires between its check of the task and its marker. The second leg
takes the lock and settles; then the first one writes its marker and settles as well. -/
theorem settled_twice :
    ¬ SettledOnce "a2a_1" "context"
      (.pay 0 false (examplePayment "first") :: List.replicate 3 (.advance 0 exampleEnv) ++
        .expire :: .pay 1 false (examplePayment "second") ::
        List.replicate 6 (.advance 1 exampleEnv) ++ List.replicate 3 (.advance 0 exampleEnv)) := by
  intro h
  have honce := h.once _ [] (List.append_nil _).symm
  exact absurd honce (by decide +kernel)

end Solvela.A2a
