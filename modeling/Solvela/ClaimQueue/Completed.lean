import Solvela.ClaimQueue.Leases

/-!
# Completed claim rows

Both marks are keyed on the id alone. A row that was leased again has two instances that may mark
it, and either mark can come last: `completed_rows_stay` says exactly when a completed row stays
completed. A row is completed when the cluster has accepted a transaction, before it lands:
`completed_rows_claimed` says when a completed row has been claimed on chain.

* `step_completed` and `completedStays_iff`, which rows are completed, and which stay so;
* `LeaseInv.mark_accepted` and `LeaseInv.accepted_marks`, what an accepted claim does next;
* `claimed_iff` and `outrunsClaim_iff`, whether a claim of the escrow has landed by then.
-/

namespace Solvela.ClaimQueue

open Solvela.Lib
open Solvela.ChannelLedger

/-! ## The steps of a row -/

/-- The instance, the environment and the command of a step. -/
def System.sends (s : System) : Label → Option (ℕ × Env × Command)
  | .advance i env =>
    match (s.processors i).program with
    | .done _ => none
    | .call c _ => some (i, env, c)
  | _ => none

/-- A condition on the instance that sends a command, if the step does, and on the command. -/
def System.AtCommand (s : System) (l : Label) (P : ℕ → Command → Prop) : Prop :=
  match s.sends l with
  | some (i, _, c) => P i c
  | none => True

instance (s : System) (l : Label) (P : ℕ → Command → Prop) [∀ i c, Decidable (P i c)] :
    Decidable (s.AtCommand l P) :=
  show Decidable (match s.sends l with
    | some (i, _, c) => P i c
    | none => True) from
  match s.sends l with
  | some (i, _, c) => inferInstanceAs (Decidable (P i c))
  | none => inferInstanceAs (Decidable True)

/-- What a step can do to the row `id`. -/
inductive RowStep (s : System) (l : Label) (id : ℕ) (r : Row) : Row → Prop
  | keep : RowStep s l id r r
  | lease (now : ℕ) (hdue : r.due now = true) : RowStep s l id r (r.lease now)
  | complete {i : ℕ} {env : Env} {tx : ClaimTx} {r' : Row}
      (hsends : s.sends l = some (i, env, .markCompleted id tx))
      (hdb : env.database ≠ .notApplied) (hstatus : r'.status = .completed)
      (hservice : r'.serviceId = r.serviceId) (hagent : r'.agentPubkey = r.agentPubkey)
      (hattempts : r'.attempts = r.attempts) : RowStep s l id r r'
  | fail {i : ℕ} {env : Env} {error : String} {attempts : ℕ} {r' : Row}
      (hsends : s.sends l = some (i, env, .markAttemptFailed id error attempts))
      (hdb : env.database ≠ .notApplied) (hstatus : r'.status ≠ .completed) : RowStep s l id r r'

theorem getElem?_statement (w : World) (fault : Fault) (f : Rows → Rows) (id : ℕ) :
    (w.statement fault f).2.rows[id]? =
      if fault = .notApplied then w.rows[id]? else (f w.rows)[id]? := by
  cases fault <;> rfl

/-- The row of a command. -/
theorem command_row {s : System} {l : Label} {i : ℕ} {env : Env} {c : Command}
    (hsends : s.sends l = some (i, env, c)) {b : Breaker} {id : ℕ} {r : Row}
    (hr : s.world.rows[id]? = some r) :
    ∃ r', (exec env s.world b c).2.1.rows[id]? = some r' ∧ RowStep s l id r r' := by
  cases c with
  -- a fetch leases the rows that are due
  | fetchPendingClaims limit =>
    simp only [exec]
    have hfetch : ∃ r', (fetchPendingClaims s.world.clock env.locked limit s.world.rows).2[id]? =
        some r' ∧ RowStep s l id r r' := by
      rw [getElem?_fetch]
      split
      · rename_i hid
        obtain ⟨r₀, hr₀, hdue⟩ := mem_selectIds hid
        rw [hr, Option.some.injEq] at hr₀
        rw [hr]
        exact ⟨_, rfl, .lease _ (hr₀ ▸ hdue)⟩
      · exact ⟨r, hr, .keep⟩
    cases env.database with
    | none => exact hfetch
    | notApplied => exact ⟨r, hr, .keep⟩
    | replyLost => exact hfetch
  -- a mark is of one row, by its id alone
  | markCompleted id' tx =>
    simp only [exec, getElem?_statement]
    by_cases hdb : env.database = .notApplied
    · rw [if_pos hdb]
      exact ⟨r, hr, .keep⟩
    · rw [if_neg hdb, markCompleted, getElem?_updateRow, hr]
      by_cases hid : id = id'
      · subst hid
        rw [if_pos rfl]
        exact ⟨_, rfl, .complete hsends hdb rfl rfl rfl rfl⟩
      · rw [if_neg hid]
        exact ⟨r, rfl, .keep⟩
  | markAttemptFailed id' error attempts =>
    simp only [exec, getElem?_statement]
    by_cases hdb : env.database = .notApplied
    · rw [if_pos hdb]
      exact ⟨r, hr, .keep⟩
    · rw [if_neg hdb, markAttemptFailed, getElem?_updateRow, hr]
      by_cases hid : id = id'
      · subst hid
        rw [if_pos rfl]
        refine ⟨_, rfl, .fail hsends hdb ?_⟩
        dsimp only
        split <;> decide
      · rw [if_neg hid]
        exact ⟨r, rfl, .keep⟩
  -- the other commands do not write rows
  | sendTransaction tx =>
    simp only [exec]
    cases env.send <;> exact ⟨r, hr, .keep⟩
  | _ => exact ⟨r, hr, .keep⟩

theorem step_row (recipientWallet : Pubkey) (s : System) (l : Label) {id : ℕ} {r : Row}
    (hr : s.world.rows[id]? = some r) :
    ∃ r', (step recipientWallet s l).world.rows[id]? = some r' ∧ RowStep s l id r r' := by
  cases l with
  -- a new row goes behind the others
  | enqueue serviceId agentPubkey claimAmount depositedAmount =>
    refine ⟨r, ?_, .keep⟩
    obtain ⟨hid, -⟩ := List.getElem?_eq_some_iff.1 hr
    show (enqueueClaim _ _ _ _ _ _)[id]? = some r
    rw [enqueueClaim, List.getElem?_append_left hid]
    exact hr
  | start i =>
    simp only [step]
    split <;> exact ⟨r, hr, .keep⟩
  | advance i env =>
    simp only [step]
    split
    · exact ⟨r, hr, .keep⟩
    · rename_i c next hprogram
      have hsends : s.sends (.advance i env) = some (i, env, c) := by
        simp only [System.sends, hprogram]
      exact command_row hsends hr
  -- the cluster has no rows
  | land tx =>
    refine ⟨r, ?_, .keep⟩
    simp only [step, decide_records]
    exact hr
  | fail tx =>
    refine ⟨r, ?_, .keep⟩
    simp only [step, decide_records]
    exact hr
  | drop tx =>
    refine ⟨r, ?_, .keep⟩
    simp only [step, decide_records]
    exact hr
  | _ => exact ⟨r, hr, .keep⟩

theorem exec_length (env : Env) (w : World) (b : Breaker) (c : Command) :
    (exec env w b c).2.1.rows.length = w.rows.length := by
  cases c with
  | fetchPendingClaims limit =>
    simp only [exec]
    cases env.database <;> simp [fetchPendingClaims]
  | markCompleted id tx =>
    simp only [exec]
    cases env.database <;> simp [World.statement, markCompleted, updateRow]
  | markAttemptFailed id error attempts =>
    simp only [exec]
    cases env.database <;> simp [World.statement, markAttemptFailed, updateRow]
  | sendTransaction tx =>
    simp only [exec]
    cases env.send <;> rfl
  | _ => rfl

/-- A row that a step adds is pending. -/
theorem step_new_row (recipientWallet : Pubkey) (s : System) (l : Label) {id : ℕ} {r' : Row}
    (hnone : s.world.rows.length ≤ id)
    (hr' : (step recipientWallet s l).world.rows[id]? = some r') : r'.status = .pending := by
  have habsurd : (step recipientWallet s l).world.rows.length = s.world.rows.length → False := by
    intro hlength
    obtain ⟨hid, -⟩ := List.getElem?_eq_some_iff.1 hr'
    omega
  cases l with
  | enqueue serviceId agentPubkey claimAmount depositedAmount =>
    simp only [step, enqueueClaim] at hr'
    rw [List.getElem?_append_right hnone, List.getElem?_singleton] at hr'
    split at hr'
    · rw [← Option.some.inj hr']
    · cases hr'
  | start i =>
    simp only [step] at habsurd
    split at habsurd <;> exact (habsurd rfl).elim
  | advance i env =>
    simp only [step] at habsurd
    split at habsurd
    · exact (habsurd rfl).elim
    · exact (habsurd (exec_length _ _ _ _)).elim
  | land tx => exact (habsurd (by simp only [step, decide_records])).elim
  | fail tx => exact (habsurd (by simp only [step, decide_records])).elim
  | drop tx => exact (habsurd (by simp only [step, decide_records])).elim
  | _ => exact (habsurd rfl).elim

/-- A row that is completed after a step was there before it. -/
theorem step_completed (recipientWallet : Pubkey) (s : System) (l : Label) {id : ℕ} {r' : Row}
    (hr' : (step recipientWallet s l).world.rows[id]? = some r')
    (hcompleted : r'.status = .completed) :
    ∃ r, s.world.rows[id]? = some r ∧ RowStep s l id r r' := by
  by_cases hid : s.world.rows.length ≤ id
  · rw [step_new_row recipientWallet s l hid hr'] at hcompleted
    cases hcompleted
  · have hr := List.getElem?_eq_getElem (Nat.lt_of_not_le hid)
    obtain ⟨r'', hr'', hstep⟩ := step_row recipientWallet s l hr
    rw [hr', Option.some.injEq] at hr''
    subst hr''
    exact ⟨_, hr, hstep⟩

/-! ## Rows that stay completed -/

/-- The row is completed. -/
def System.completed (s : System) (id : ℕ) : Bool :=
  match s.world.rows[id]? with
  | some r => r.status = .completed
  | none => false

theorem completed_iff {s : System} {id : ℕ} :
    s.completed id ↔ ∃ r, s.world.rows[id]? = some r ∧ r.status = .completed := by
  unfold System.completed
  cases s.world.rows[id]? <;> simp

/-- The step fails an attempt at a row that is completed. -/
def FailsCompleted (s : System) (l : Label) : Prop :=
  match s.sends l with
  | some (_, env, .markAttemptFailed id _ _) => env.database ≠ .notApplied ∧ s.completed id
  | _ => False

/-- A row that is completed at some point of the run is so at every later point. -/
def CompletedStays (recipientWallet : Pubkey) (labels : List Label) : Prop :=
  ∀ as bs cs, labels = as ++ bs ++ cs →
    ∀ id, (run (step recipientWallet) .init as).completed id →
      (run (step recipientWallet) .init (as ++ bs)).completed id

/-- The instance has the last lease of the row. -/
def System.hasLease (s : System) (i id : ℕ) : Prop :=
  ∃ e ∈ (s.processors i).holding.unmarked,
    e.id = id ∧ s.world.rows[id]?.map Row.attempts = some e.attempts

instance (s : System) (i id : ℕ) : Decidable (s.hasLease i id) :=
  inferInstanceAs (Decidable (∃ e ∈ _, _))

/-- A mark is made only on the last lease: the row has not been fetched again since. -/
def System.onLease (s : System) (i : ℕ) : Command → Prop
  | .markCompleted id _ => s.hasLease i id
  | .markAttemptFailed id _ _ => s.hasLease i id
  | _ => True

instance (s : System) (i : ℕ) : (c : Command) → Decidable (s.onLease i c)
  | .markCompleted id _ => inferInstanceAs (Decidable (s.hasLease i id))
  | .markAttemptFailed id _ _ => inferInstanceAs (Decidable (s.hasLease i id))
  | .isOpen | .recordSuccess | .recordFailure | .fetchPendingClaims _ | .nextFeePayer _
  | .blockhash | .sendTransaction _ => inferInstanceAs (Decidable True)

abbrev MarksOnLease (s : System) (l : Label) : Prop := s.AtCommand l s.onLease

theorem completed_step (recipientWallet : Pubkey) {s : System} {l : Label} {id : ℕ}
    (hfails : ¬ FailsCompleted s l) (h : s.completed id) :
    (step recipientWallet s l).completed id := by
  obtain ⟨r, hr, hstatus⟩ := completed_iff.1 h
  obtain ⟨r', hr', hstep⟩ := step_row recipientWallet s l hr
  apply completed_iff.2
  refine ⟨r', hr', ?_⟩
  cases hstep with
  | keep => exact hstatus
  -- a completed row is not due, so no fetch leases it
  | lease now hdue => simp [Row.due, hstatus] at hdue
  | complete _ _ hstatus' => exact hstatus'
  | fail hsends hdb =>
    -- `mark_attempt_failed` has no condition on the status
    apply absurd _ hfails
    simp only [FailsCompleted, hsends]
    exact ⟨hdb, h⟩

/-- The step of a command. -/
theorem step_of_sends (recipientWallet : Pubkey) {s : System} {l : Label} {i : ℕ} {env : Env}
    {c : Command} (hsends : s.sends l = some (i, env, c)) :
    ∃ next, (s.processors i).program = .call c next ∧
      step recipientWallet s l = s.command i env c next := by
  cases l with
  | advance j env' =>
    simp only [System.sends] at hsends
    split at hsends
    · cases hsends
    · rename_i c' next hprogram
      obtain ⟨rfl, rfl, rfl⟩ : j = i ∧ env' = env ∧ c' = c := by
        simpa only [Option.some.injEq, Prod.mk.injEq] using hsends
      refine ⟨next, hprogram, ?_⟩
      simp only [step, hprogram]
  | _ => cases hsends

theorem not_completed_step (recipientWallet : Pubkey) {s : System} {l : Label}
    (hfails : FailsCompleted s l) :
    ∃ id, s.completed id ∧ ¬ (step recipientWallet s l).completed id := by
  unfold FailsCompleted at hfails
  split at hfails
  · rename_i i env id error attempts hsends
    refine ⟨id, hfails.2, ?_⟩
    obtain ⟨r, hr, -⟩ := completed_iff.1 hfails.2
    obtain ⟨next, -, hstep⟩ := step_of_sends recipientWallet hsends
    have hr' : (step recipientWallet s l).world.rows[id]? =
        (markAttemptFailed s.world.clock id error attempts s.world.rows)[id]? := by
      rw [hstep]
      exact (getElem?_statement _ _ _ _).trans (if_neg hfails.1)
    rw [markAttemptFailed, getElem?_updateRow, if_pos rfl, hr] at hr'
    simp only [System.completed, hr', Option.map_some]
    split <;> simp
  · exact hfails.elim

/-- Exactly the runs that never fail an attempt at a completed row keep completed rows. -/
theorem completedStays_iff (recipientWallet : Pubkey) (labels : List Label) :
    CompletedStays recipientWallet labels ↔
      AllSteps (step recipientWallet) (fun s l => ¬ FailsCompleted s l) .init labels := by
  constructor
  · intro h
    apply allSteps_of_split
    intro as l bs hsplit hfails
    obtain ⟨id, hbefore, hafter⟩ := not_completed_step recipientWallet hfails
    have hstays := h as [l] bs (by rw [hsplit, List.append_assoc]; rfl) id hbefore
    rw [run_append] at hstays
    exact hafter hstays
  · intro h as bs cs hsplit id hcompleted
    rw [hsplit, allSteps_append, allSteps_append] at h
    rw [run_append]
    have hstep : ∀ s l, s.completed id = true → ¬ FailsCompleted s l →
        (step recipientWallet s l).completed id = true :=
      fun s l hs hl => completed_step recipientWallet hl hs
    exact run_invariant_of_allSteps hstep hcompleted h.1.2

/-! ## Marks on the last lease -/

/-- Nobody holds the last lease of a completed row any more. -/
def LeaseDone (s : System) : Prop :=
  ∀ id r, s.world.rows[id]? = some r → r.status = .completed →
    ∀ i, ∀ e ∈ (s.processors i).holding.unmarked, e.attempt ≠ (id, r.attempts)

theorem command_unmarked (s : System) (i : ℕ) (env : Env) {c : Command}
    (next : Reply c → Program Unit) {j : ℕ} {e : ClaimEntry}
    (he : e ∈ ((s.command i env c next).processors j).holding.unmarked) :
    e ∈ (s.processors j).holding.unmarked ∨
      ∃ r, (s.command i env c next).world.rows[e.id]? = some r ∧ r.status = .inProgress := by
  by_cases hj : j = i
  · subst hj
    rw [System.command, setProcessor_self] at he
    by_cases hfetch : ∃ limit, c = .fetchPendingClaims limit
    · obtain ⟨limit, rfl⟩ := hfetch
      have hrows : (s.command j env _ next).world.rows =
        (exec env s.world (s.processors j).breaker (.fetchPendingClaims limit)).2.1.rows := rfl
      rw [hrows]
      simp only [exec] at he ⊢
      cases hdb : env.database with
      -- what was fetched is leased in the same statement
      | none =>
        simp only [hdb] at he ⊢
        obtain ⟨hid, r, hr, -⟩ := mem_fetch he
        refine Or.inr ⟨r.lease s.world.clock, ?_, rfl⟩
        rw [getElem?_fetch, if_pos hid, hr]
        rfl
      | notApplied =>
        simp only [hdb] at he
        exact Or.inl he
      | replyLost =>
        simp only [hdb] at he
        exact Or.inl he
    · exact Or.inl (record_unmarked _ (fun limit hc => hfetch ⟨limit, hc⟩) _ he)
  · rw [System.command, setProcessor_ne _ _ hj] at he
    exact Or.inl he

/-- What an instance has still to mark after a step it had before, or its row is leased now. -/
theorem step_unmarked (recipientWallet : Pubkey) (s : System) (l : Label) {j : ℕ} {e : ClaimEntry}
    (he : e ∈ ((step recipientWallet s l).processors j).holding.unmarked) :
    e ∈ (s.processors j).holding.unmarked ∨
      ∃ r, (step recipientWallet s l).world.rows[e.id]? = some r ∧ r.status = .inProgress := by
  cases l with
  | start i =>
    simp only [step] at he ⊢
    split at he
    · by_cases hj : j = i
      · subst hj
        rw [setProcessor_self] at he
        cases he
      · rw [setProcessor_ne _ _ hj] at he
        exact Or.inl he
    · exact Or.inl he
  | advance i env =>
    cases hprogram : (s.processors i).program with
    | done _ =>
      simp only [step, hprogram] at he
      exact Or.inl he
    | call c next =>
      simp only [step, hprogram] at he ⊢
      exact command_unmarked s i env next he
  -- a restart forgets what was fetched
  | crash i =>
    by_cases hj : j = i
    · subst hj
      simp only [step, setProcessor_self] at he
      cases he
    · simp only [step, setProcessor_ne _ _ hj] at he
      exact Or.inl he
  | _ => exact Or.inl he

theorem LeaseDone.step (recipientWallet : Pubkey) {s : System} {l : Label} (hinv : LeaseInv s)
    (hlease : MarksOnLease s l) (h : LeaseDone s) : LeaseDone (step recipientWallet s l) := by
  intro id r' hr' hcompleted j e he hattempt
  obtain ⟨hid, hattempts⟩ := Prod.ext_iff.1 hattempt
  obtain ⟨r, hr, hstep⟩ := step_completed recipientWallet s l hr' hcompleted
  -- an entry that is fetched now is of a row in progress
  have hold : e ∈ (s.processors j).holding.unmarked := by
    rcases step_unmarked recipientWallet s l he with hold | ⟨r'', hr'', hprogress⟩
    · exact hold
    · have hid' : e.id = id := hid
      rw [hid', hr', Option.some.injEq] at hr''
      rw [hr'', hprogress] at hcompleted
      cases hcompleted
  cases hstep with
  | keep => exact h id r' hr hcompleted j e hold hattempt
  | lease now hdue => cases hcompleted
  | fail _ _ hstatus => exact hstatus hcompleted
  | @complete i env tx _ hsends _ _ _ _ hsame =>
    simp only [MarksOnLease, System.AtCommand, hsends, System.onLease] at hlease
    obtain ⟨e₀, he₀, hid₀, hattempts₀⟩ := hlease
    -- the last lease is held once, so it is the marking instance that still holds it, and the mark
    -- lets it go
    have hi : j = i := by
      apply hinv.unmarked_once j i e hold e₀ he₀
      rw [hr, Option.map_some, Option.some.injEq] at hattempts₀
      rw [hattempt, ClaimEntry.attempt, hid₀, ← hattempts₀, hsame]
    subst hi
    obtain ⟨next, -, hnext⟩ := step_of_sends recipientWallet hsends
    rw [hnext, System.command, setProcessor_self] at he
    have hne := (List.mem_filter.1 he).2
    simp only [decide_eq_true_eq] at hne
    exact hne hid

/-- A mark on the last lease fails no completed row. -/
theorem not_failsCompleted {s : System} {l : Label} (h : LeaseDone s) (hlease : MarksOnLease s l) :
    ¬ FailsCompleted s l := by
  intro hfails
  unfold FailsCompleted at hfails
  split at hfails
  · rename_i i env id error attempts hsends
    simp only [MarksOnLease, System.AtCommand, hsends, System.onLease] at hlease
    obtain ⟨e, he, hid, hattempts⟩ := hlease
    obtain ⟨r, hr, hstatus⟩ := completed_iff.1 hfails.2
    rw [hr, Option.map_some, Option.some.injEq] at hattempts
    apply h id r hr hstatus i e he
    rw [ClaimEntry.attempt, hid, hattempts]
  · exact hfails

/-- A completed row stays completed in exactly the runs that never fail an attempt at a completed
row, and so in every run whose marks are all made on the last lease. -/
theorem completed_rows_stay (recipientWallet : Pubkey) (labels : List Label) :
    (CompletedStays recipientWallet labels ↔
      AllSteps (step recipientWallet) (fun s l => ¬ FailsCompleted s l) .init labels) ∧
    (AllSteps (step recipientWallet) MarksOnLease .init labels →
      CompletedStays recipientWallet labels) := by
  refine ⟨completedStays_iff recipientWallet labels, ?_⟩
  intro hlease
  apply (completedStays_iff recipientWallet labels).2
  apply allSteps_of_split
  intro as l bs hsplit
  rw [hsplit, allSteps_append] at hlease
  have hdone : LeaseInv (run (step recipientWallet) .init as) ∧
      LeaseDone (run (step recipientWallet) .init as) := by
    have hstep : ∀ s l, LeaseInv s ∧ LeaseDone s → MarksOnLease s l →
        LeaseInv (step recipientWallet s l) ∧ LeaseDone (step recipientWallet s l) :=
      fun s l hs hl => ⟨hs.1.step recipientWallet s l, hs.2.step recipientWallet hs.1 hl⟩
    have hinit : LeaseDone .init := by
      intro id r hr
      simp [System.init] at hr
    exact run_invariant_of_allSteps hstep ⟨LeaseInv.init, hinit⟩ hlease.1
  exact not_failsCompleted hdone.2 hlease.2.1

/-- The recipient's wallet is also the fee payer. -/
def exampleWallet : Pubkey := Vector.replicate 32 7

def exampleEnv : Env := ⟨fun _ => false, .none, .ok exampleWallet, .ok 1, .accepted⟩

/-- The address of 32 bytes 1. -/
def exampleAgent : String := "4vJ9JU1bJJE96FWSJKvHsmmFADCg4gpZQff4P3bkLKi"

def exampleEnqueue : Label := .enqueue (Vector.replicate 32 5) exampleAgent 2500 (some 5000)

/-- A cycle of the instance `i` that submits one entry, up to the mark. -/
def submitCycle (i : ℕ) : List Label := .start i :: List.replicate 5 (.advance i exampleEnv)

/-- The first instance marks the row after a cycle without delay. -/
theorem completed_row_on_lease :
    AllSteps (step exampleWallet) MarksOnLease .init
      (exampleEnqueue :: submitCycle 0 ++ [.advance 0 exampleEnv, .tick 301, .start 1]) ∧
    (run (step exampleWallet) .init
      (exampleEnqueue :: submitCycle 0 ++ [.advance 0 exampleEnv])).completed 0 ∧
    CompletedStays exampleWallet
      (exampleEnqueue :: submitCycle 0 ++ [.advance 0 exampleEnv, .tick 301, .start 1]) := by
  have hlease : AllSteps (step exampleWallet) MarksOnLease .init
      (exampleEnqueue :: submitCycle 0 ++ [.advance 0 exampleEnv, .tick 301, .start 1]) := by
    decide +kernel
  exact ⟨hlease, by decide +kernel, (completed_rows_stay exampleWallet _).2 hlease⟩

/-- The first instance waits five minutes for the answer to its transaction. In the meantime the
second one leases the row again and completes it; then the first one, whose transaction is
rejected, makes the row pending. -/
theorem completed_row_failed_late :
    ¬ CompletedStays exampleWallet
      (exampleEnqueue :: .start 0 :: List.replicate 4 (.advance 0 exampleEnv) ++ .tick 301 ::
        submitCycle 1 ++ [.advance 1 exampleEnv] ++
        [.advance 0 { exampleEnv with send := .rejected "escrow account not found" },
          .advance 0 exampleEnv]) := by
  intro h
  have hstays := h
    (exampleEnqueue :: .start 0 :: List.replicate 4 (.advance 0 exampleEnv) ++ .tick 301 ::
      submitCycle 1 ++ [.advance 1 exampleEnv])
    [.advance 0 { exampleEnv with send := .rejected "escrow account not found" },
      .advance 0 exampleEnv] [] (by rw [List.append_nil]) 0 (by decide +kernel)
  exact absurd hstays (by decide +kernel)

/-! ## Completed rows and the cluster -/

/-- A claim transaction for the escrow has landed. -/
def World.claimed (w : World) (serviceId : Pubkey) (agentPubkey : String) : Prop :=
  ∃ tx, w.cluster tx = .landed ∧ tx.forEscrow serviceId agentPubkey

/-- Every completed row has been claimed on chain. -/
def CompletedClaimed (s : System) : Prop :=
  ∀ (id : ℕ) (r : Row), s.world.rows[id]? = some r → r.status = .completed →
    s.world.claimed r.serviceId r.agentPubkey

/-- The step completes a row that has not been claimed on chain. -/
def CompletesUnclaimed (s : System) (l : Label) : Prop :=
  ∃ i env id tx r, s.sends l = some (i, env, .markCompleted id tx) ∧
    env.database ≠ .notApplied ∧ s.world.rows[id]? = some r ∧
    ¬ s.world.claimed r.serviceId r.agentPubkey

/-- A claim transaction for the escrow of `tx` has landed. -/
def World.escrowClaimed (w : World) (tx : ClaimTx) : Prop :=
  ∃ t, w.cluster t = .landed ∧ t.serviceId = tx.serviceId ∧ t.agent = tx.agent

/-- An instance from which the node has accepted a transaction gets its next statement applied
before a claim of that escrow has landed. -/
def OutrunsClaim (s : System) (l : Label) : Prop :=
  ∃ i env c tx, s.sends l = some (i, env, c) ∧ (s.processors i).holding.accepted = some tx ∧
    env.database ≠ .notApplied ∧ ¬ s.world.escrowClaimed tx

/-- The transaction that the node has accepted from the instance has landed. -/
def System.acceptedLanded (s : System) (i : ℕ) : Prop :=
  ∀ tx ∈ (s.processors i).holding.accepted, s.world.cluster tx = .landed

instance (s : System) (i : ℕ) : Decidable (s.acceptedLanded i) :=
  inferInstanceAs (Decidable (∀ tx ∈ (s.processors i).holding.accepted, _))

/-- An instance goes on only once the transaction that the node has accepted from it has landed. -/
abbrev LandsFirst (s : System) (l : Label) : Prop := s.AtCommand l fun i _ => s.acceptedLanded i

/-- What a command does on the cluster: it may put a transaction there. -/
theorem exec_cluster (env : Env) (w : World) (b : Breaker) (c : Command) (tx : ClaimTx) :
    (exec env w b c).2.1.cluster tx = w.cluster tx ∨
      (exec env w b c).2.1.cluster tx = (w.cluster tx).accept := by
  have hstatement : ∀ f, (w.statement env.database f).2.cluster tx = w.cluster tx := by
    intro f
    cases env.database <;> rfl
  cases c with
  | fetchPendingClaims limit =>
    simp only [exec]
    cases env.database <;> exact Or.inl rfl
  | markCompleted id tx' => exact Or.inl (hstatement _)
  | markAttemptFailed id error attempts => exact Or.inl (hstatement _)
  | sendTransaction tx' =>
    have haccepted : (if tx = tx' then (w.cluster tx').accept else w.cluster tx) = w.cluster tx ∨
        (if tx = tx' then (w.cluster tx').accept else w.cluster tx) = (w.cluster tx).accept := by
      by_cases htx : tx = tx'
      · rw [if_pos htx, htx]
        exact Or.inr rfl
      · rw [if_neg htx]
        exact Or.inl rfl
    simp only [exec]
    cases env.send with
    | accepted => exact haccepted
    | rejected e => exact Or.inl rfl
    | replyLost => exact haccepted
  | _ => exact Or.inl rfl

theorem decide_cluster (w : World) (tx t : ClaimTx) (fate : TxState) :
    (w.decide tx fate).cluster t = w.cluster t ∨
      (t = tx ∧ w.cluster t = .pending ∧ (w.decide tx fate).cluster t = fate) := by
  unfold World.decide
  split
  · rename_i hpending
    dsimp only
    by_cases ht : t = tx
    · rw [if_pos ht]
      exact Or.inr ⟨ht, ht ▸ hpending, rfl⟩
    · rw [if_neg ht]
      exact Or.inl rfl
  · exact Or.inl rfl

/-- What a step can do to a transaction on the cluster. -/
theorem step_cluster (recipientWallet : Pubkey) (s : System) (l : Label) (tx : ClaimTx) :
    (step recipientWallet s l).world.cluster tx = s.world.cluster tx ∨
    (step recipientWallet s l).world.cluster tx = (s.world.cluster tx).accept ∨
    (s.world.cluster tx = .pending ∧
      ((step recipientWallet s l).world.cluster tx = .landed → l = .land tx)) := by
  -- the cluster decides only about what is pending
  have hdecide : ∀ (t : ClaimTx) (fate : TxState), (fate = .landed → l = .land t) →
      (s.world.decide t fate).cluster tx = s.world.cluster tx ∨
      (s.world.decide t fate).cluster tx = (s.world.cluster tx).accept ∨
      (s.world.cluster tx = .pending ∧
        ((s.world.decide t fate).cluster tx = .landed → l = .land tx)) := by
    intro t fate hfate
    rcases decide_cluster s.world t tx fate with hsame | ⟨rfl, hpending, hnew⟩
    · exact Or.inl hsame
    · refine Or.inr (Or.inr ⟨hpending, ?_⟩)
      rw [hnew]
      exact hfate
  cases l with
  | start i =>
    simp only [step]
    split <;> exact Or.inl rfl
  | advance i env =>
    simp only [step]
    split
    · exact Or.inl rfl
    · rename_i c next _
      rcases exec_cluster env s.world (s.processors i).breaker c tx with hsame | haccept
      · exact Or.inl hsame
      · exact Or.inr (Or.inl haccept)
  | land t => exact hdecide t .landed fun _ => rfl
  | fail t => exact hdecide t .failed (by simp)
  | drop t => exact hdecide t .dropped (by simp)
  | _ => exact Or.inl rfl

theorem landed_step (recipientWallet : Pubkey) {s : System} (l : Label) {tx : ClaimTx}
    (h : s.world.cluster tx = .landed) :
    (step recipientWallet s l).world.cluster tx = .landed := by
  rcases step_cluster recipientWallet s l tx with hsame | haccept | ⟨hpending, -⟩
  · rw [hsame, h]
  · rw [haccept, h]
    rfl
  · rw [h] at hpending
    cases hpending

/-- A transaction lands only by its own step. -/
theorem not_landed_step (recipientWallet : Pubkey) {s : System} {l : Label} {tx : ClaimTx}
    (hl : l ≠ .land tx) (h : s.world.cluster tx ≠ .landed) :
    (step recipientWallet s l).world.cluster tx ≠ .landed := by
  rcases step_cluster recipientWallet s l tx with hsame | haccept | ⟨-, hland⟩
  · rw [hsame]
    exact h
  · rw [haccept]
    cases hstate : s.world.cluster tx with
    | landed => exact absurd hstate h
    | _ => simp [TxState.accept]
  · intro hlanded
    exact hl (hland hlanded)

theorem claimed_step (recipientWallet : Pubkey) {s : System} (l : Label) {serviceId : Pubkey}
    {agentPubkey : String} (h : s.world.claimed serviceId agentPubkey) :
    (step recipientWallet s l).world.claimed serviceId agentPubkey := by
  obtain ⟨tx, hlanded, hescrow⟩ := h
  exact ⟨tx, landed_step recipientWallet l hlanded, hescrow⟩

theorem CompletedClaimed.step (recipientWallet : Pubkey) {s : System} {l : Label}
    (hcompletes : ¬ CompletesUnclaimed s l) (h : CompletedClaimed s) :
    CompletedClaimed (step recipientWallet s l) := by
  intro id r' hr' hcompleted
  obtain ⟨r, hr, hstep⟩ := step_completed recipientWallet s l hr' hcompleted
  cases hstep with
  | keep => exact claimed_step recipientWallet l (h id r' hr hcompleted)
  | lease now hdue => cases hcompleted
  | fail _ _ hstatus => exact absurd hcompleted hstatus
  | @complete i env tx _ hsends hdb _ hservice hagent _ =>
    have hclaimed : s.world.claimed r.serviceId r.agentPubkey := by
      by_contra hnot
      exact hcompletes ⟨i, env, id, tx, r, hsends, hdb, hr, hnot⟩
    rw [hservice, hagent]
    exact claimed_step recipientWallet l hclaimed

/-- A step that completes an unclaimed row leads to a state with one. -/
theorem not_completedClaimed_step (recipientWallet : Pubkey) {s : System} {l : Label}
    (h : CompletesUnclaimed s l) : ¬ CompletedClaimed (step recipientWallet s l) := by
  obtain ⟨i, env, id, tx, r, hsends, hdb, hr, hnot⟩ := h
  intro hclaimed
  obtain ⟨next, -, hstep⟩ := step_of_sends recipientWallet hsends
  have hr' : (ClaimQueue.step recipientWallet s l).world.rows[id]? =
      (markCompleted s.world.clock id tx s.world.rows)[id]? := by
    rw [hstep]
    exact (getElem?_statement _ _ _ _).trans (if_neg hdb)
  have hcluster : (ClaimQueue.step recipientWallet s l).world.cluster = s.world.cluster := by
    rw [hstep]
    show ((s.world.statement env.database _).2).cluster = _
    cases env.database <;> rfl
  rw [markCompleted, getElem?_updateRow, if_pos rfl, hr] at hr'
  obtain ⟨tx', hlanded, hescrow⟩ := hclaimed id _ hr' rfl
  rw [hcluster] at hlanded
  exact hnot ⟨tx', hlanded, hescrow⟩

/-- The landed claims of an escrow, seen from a row and from a transaction for it. -/
theorem claimed_iff {w : World} {tx : ClaimTx} {serviceId : Pubkey} {agentPubkey : String}
    (h : tx.forEscrow serviceId agentPubkey) :
    w.claimed serviceId agentPubkey ↔ w.escrowClaimed tx := by
  obtain ⟨hservice, hagent⟩ := h
  have hescrow : ∀ t : ClaimTx, t.forEscrow serviceId agentPubkey ↔
      t.serviceId = tx.serviceId ∧ t.agent = tx.agent := by
    intro t
    unfold ClaimTx.forEscrow
    rw [hservice, hagent, Option.some.injEq, eq_comm (a := tx.agent)]
  simp only [World.claimed, World.escrowClaimed, hescrow]

/-- The statement that completes a row is for a transaction that the node has just accepted, and
that transaction is one for the row's escrow. -/
theorem LeaseInv.mark_accepted {s : System} (hinv : LeaseInv s) {l : Label} {i id : ℕ} {env : Env}
    {tx : ClaimTx} (hsends : s.sends l = some (i, env, .markCompleted id tx)) :
    (s.processors i).holding.accepted = some tx ∧
      ∃ r, s.world.rows[id]? = some r ∧ tx.forEscrow r.serviceId r.agentPubkey := by
  obtain ⟨next, hprogram, -⟩ := step_of_sends tx.serviceId hsends
  have hcycle := hinv.cycle i
  rw [hprogram] at hcycle
  obtain ⟨haccepted, e, he, rfl, hescrow⟩ : (s.processors i).holding.accepted = some tx ∧
    ∃ e ∈ (s.processors i).holding.unmarked, e.id = id ∧
      tx.forEscrow e.serviceId e.agentPubkey := hcycle.1
  obtain ⟨r, hr, hservice, hagent⟩ := (hinv.unmarked_fetched i e he).2.row
  rw [← hservice, ← hagent] at hescrow
  exact ⟨haccepted, r, hr, hescrow⟩

/-- After an acceptance an instance completes a row, and does nothing else. -/
theorem LeaseInv.accepted_marks {s : System} (hinv : LeaseInv s) {l : Label} {i : ℕ} {env : Env}
    {c : Command} {tx : ClaimTx} (hsends : s.sends l = some (i, env, c))
    (haccepted : (s.processors i).holding.accepted = some tx) :
    ∃ id, c = .markCompleted id tx := by
  obtain ⟨next, hprogram, -⟩ := step_of_sends tx.serviceId hsends
  have hcycle := hinv.cycle i
  rw [hprogram] at hcycle
  have hmid : ClaimMid (s.processors i).holding c := hcycle.1
  cases c with
  | markCompleted id tx' =>
    obtain rfl : tx = tx' := Option.some.inj (haccepted.symm.trans hmid.1)
    exact ⟨id, rfl⟩
  | markAttemptFailed id error attempts => exact absurd (haccepted.symm.trans hmid.1) (by simp)
  | nextFeePayer entry => exact absurd (haccepted.symm.trans hmid.1) (by simp)
  | _ => exact absurd (haccepted.symm.trans hmid) (by simp)

/-- The rows that are completed unclaimed are those of instances that outrun their claims. -/
theorem outrunsClaim_iff {s : System} (hinv : LeaseInv s) (l : Label) :
    OutrunsClaim s l ↔ CompletesUnclaimed s l := by
  constructor
  · rintro ⟨i, env, c, tx, hsends, haccepted, hdb, hnot⟩
    obtain ⟨id, rfl⟩ := hinv.accepted_marks hsends haccepted
    obtain ⟨-, r, hr, hescrow⟩ := hinv.mark_accepted hsends
    exact ⟨i, env, id, tx, r, hsends, hdb, hr, fun h => hnot ((claimed_iff hescrow).1 h)⟩
  · rintro ⟨i, env, id, tx, r, hsends, hdb, hr, hnot⟩
    obtain ⟨haccepted, r', hr', hescrow⟩ := hinv.mark_accepted hsends
    obtain rfl : r = r' := Option.some.inj (hr.symm.trans hr')
    exact ⟨i, env, _, tx, hsends, haccepted, hdb, fun h => hnot ((claimed_iff hescrow).2 h)⟩

/-- Who waits for its own transaction to land outruns no claim. -/
theorem not_outrunsClaim {s : System} {l : Label} (h : LandsFirst s l) : ¬ OutrunsClaim s l := by
  rintro ⟨i, env, c, tx, hsends, haccepted, -, hnot⟩
  simp only [LandsFirst, System.AtCommand, hsends] at h
  exact hnot ⟨tx, h tx haccepted, rfl, rfl⟩

/-- Completed rows are claimed on chain in exactly the runs where no instance outruns its claim:
once the node has accepted a transaction, one for that escrow lands before the instance's next
statement is applied. So they are in every run where the accepted transactions themselves land
before the instances go on. -/
theorem completed_rows_claimed (recipientWallet : Pubkey) (labels : List Label) :
    ((∀ as bs, labels = as ++ bs → CompletedClaimed (run (step recipientWallet) .init as)) ↔
      AllSteps (step recipientWallet) (fun s l => ¬ OutrunsClaim s l) .init labels) ∧
    (AllSteps (step recipientWallet) LandsFirst .init labels →
      ∀ as bs, labels = as ++ bs → CompletedClaimed (run (step recipientWallet) .init as)) := by
  have hback : AllSteps (step recipientWallet) (fun s l => ¬ OutrunsClaim s l) .init labels →
      ∀ as bs, labels = as ++ bs → CompletedClaimed (run (step recipientWallet) .init as) := by
    intro h as bs hsplit
    rw [hsplit, allSteps_append] at h
    have hstep : ∀ s l, LeaseInv s ∧ CompletedClaimed s → ¬ OutrunsClaim s l →
        LeaseInv (step recipientWallet s l) ∧ CompletedClaimed (step recipientWallet s l) := by
      intro s l hs hl
      rw [outrunsClaim_iff hs.1] at hl
      exact ⟨hs.1.step recipientWallet s l, hs.2.step recipientWallet hl⟩
    have hinit : CompletedClaimed .init := by
      intro id r hr
      simp [System.init] at hr
    exact (run_invariant_of_allSteps hstep ⟨LeaseInv.init, hinit⟩ h.1).2
  refine ⟨⟨?_, hback⟩, ?_⟩
  · intro h
    apply allSteps_of_split
    intro as l bs hsplit houtruns
    have hafter := h (as ++ [l]) bs (by rw [hsplit, List.append_assoc]; rfl)
    rw [run_append] at hafter
    -- the first step that outruns its claim completes a row without one
    have hcompletes := (outrunsClaim_iff (LeaseInv.run recipientWallet as) l).1 houtruns
    exact not_completedClaimed_step recipientWallet hcompletes hafter
  · intro h
    apply hback
    exact allSteps_imp (I := fun _ => True) (fun _ _ _ _ => trivial)
      (fun s l _ hl => not_outrunsClaim hl) trivial h

/-- The transaction of the example row. -/
def exampleTx : ClaimTx :=
  ⟨Vector.replicate 32 5, Vector.replicate 32 1, 2500, exampleWallet, 1⟩

/-- The transaction lands before the instance marks the row. -/
theorem completed_row_landed :
    AllSteps (step exampleWallet) LandsFirst .init
      (exampleEnqueue :: submitCycle 0 ++ [.land exampleTx, .advance 0 exampleEnv]) ∧
    (run (step exampleWallet) .init
      (exampleEnqueue :: submitCycle 0 ++ [.land exampleTx, .advance 0 exampleEnv])).completed 0 ∧
    CompletedClaimed (run (step exampleWallet) .init
      (exampleEnqueue :: submitCycle 0 ++ [.land exampleTx, .advance 0 exampleEnv])) := by
  have hlanded : AllSteps (step exampleWallet) LandsFirst .init
      (exampleEnqueue :: submitCycle 0 ++ [.land exampleTx, .advance 0 exampleEnv]) := by
    decide +kernel
  refine ⟨hlanded, by decide +kernel, ?_⟩
  exact (completed_rows_claimed exampleWallet _).2 hlanded _ [] (List.append_nil _).symm

/-- The transaction is accepted, the row is completed and the transaction is dropped. -/
theorem completed_row_dropped :
    ¬ CompletedClaimed (run (step exampleWallet) .init
      (exampleEnqueue :: submitCycle 0 ++ [.advance 0 exampleEnv, .drop exampleTx])) := by
  intro h
  have hcompleted : (run (step exampleWallet) .init
      (exampleEnqueue :: submitCycle 0 ++
        [.advance 0 exampleEnv, .drop exampleTx])).completed 0 := by
    decide +kernel
  obtain ⟨r, hr, hstatus⟩ := completed_iff.1 hcompleted
  obtain ⟨tx, hlanded, -⟩ := h 0 r hr hstatus
  have hnotLanded : ∀ s l, s.world.cluster tx ≠ .landed → l ≠ .land tx →
      (step exampleWallet s l).world.cluster tx ≠ .landed :=
    fun s l hs hl => not_landed_step exampleWallet hl hs
  refine run_invariant_of_allSteps hnotLanded ?_ (allSteps_of_forall ?_) hlanded
  · simp [System.init]
  · simp [exampleEnqueue, submitCycle]

end Solvela.ClaimQueue
