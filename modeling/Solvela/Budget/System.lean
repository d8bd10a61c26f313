import Mathlib.Algebra.BigOperators.Group.List.Basic
import Solvela.Budget.CheckTheorems
import Solvela.Lib.Runs

/-!
# Requests against the spend counters

Any number of requests run their programs against one store. A request checks the budget; once it
is admitted its reservation is released, or settled by `log_spend` at the actual cost. Spending
that was never checked is logged without an estimate. The label says which request sends its next
command and what the lookups answer at that moment; the clock moves on between any two commands.
-/

namespace Solvela.Budget

open Solvela.Lib

/-- What is left of the program that a request is running. -/
inductive Stage
  | checking (p : Program (Except UsageError BudgetReservation))
  | releasing (res : BudgetReservation) (p : Program Unit)
  | settling (res : BudgetReservation) (actual : ℚ) (p : Program Unit)
  | spending (p : Program Unit)

/-- A request, with the histories of its check and of the program after it. -/
structure Request where
  wallet : String
  tenant : Option String
  estimate : ℚ
  checked : History
  after : History
  stage : Stage

structure System where
  store : Store
  requests : List Request

inductive Label
  | tick (seconds : ℕ)
  | arrive (wallet : String) (tenant : Option String) (estimate : ℚ)
  | spend (entry : SpendLogEntry)
  | advance (i : ℕ) (env : Lookups)
  | release (i : ℕ)
  | settle (i : ℕ) (actual : ℚ)

/-- The history of a program that starts now. -/
def History.start (now : ℕ) : History :=
  ⟨[], now, ⟨⟨⟨none, none, none⟩, false⟩, .ok none, .absent, .absent⟩⟩

/-- One command of a program. -/
def advance {α : Type} (env : Lookups) (s : Store) (h : History) :
    Program α → Store × History × Program α
  | .done a => (s, h, .done a)
  | .call c next =>
    let out := s.exec env c
    (out.2, h.record c out.1, next out.1)

/-- One command of a request. -/
def Request.advance (env : Lookups) (s : Store) (q : Request) : Store × Request :=
  match q.stage with
  | .checking p =>
    let out := Budget.advance env s q.checked p
    (out.1, { q with checked := out.2.1, stage := .checking out.2.2 })
  | .releasing res p =>
    let out := Budget.advance env s q.after p
    (out.1, { q with after := out.2.1, stage := .releasing res out.2.2 })
  | .settling res actual p =>
    let out := Budget.advance env s q.after p
    (out.1, { q with after := out.2.1, stage := .settling res actual out.2.2 })
  | .spending p =>
    let out := Budget.advance env s q.after p
    (out.1, { q with after := out.2.1, stage := .spending out.2.2 })

/-- The entry that the chat handler logs for a reservation. -/
def Request.entry (q : Request) (res : BudgetReservation) (actual : ℚ) : SpendLogEntry :=
  ⟨q.wallet, actual, q.tenant, res.tenantEnforced, some q.estimate, res.reserved⟩

/-- The reservation of a request that was admitted and is still open. -/
def Request.reservation (q : Request) : Option BudgetReservation :=
  match q.stage with
  | .checking (.done (.ok res)) => some res
  | _ => none

/-- A request that starts to check its budget. -/
def Request.checks (redis : Bool) (now : ℕ) (wallet : String) (tenant : Option String)
    (estimate : ℚ) : Request :=
  ⟨wallet, tenant, estimate, .start now, .start now,
    .checking (checkBudget redis wallet estimate tenant)⟩

/-- A request that was not checked and starts to log its cost. -/
def Request.spends (redis : Bool) (now : ℕ) (entry : SpendLogEntry) : Request :=
  ⟨entry.walletAddress, entry.tenant, 0, .start now, .start now, .spending (logSpend redis entry)⟩

/-- The request starts to release its reservation. -/
def Request.releases (redis : Bool) (now : ℕ) (q : Request) (res : BudgetReservation) : Request :=
  { q with
    after := .start now
    stage := .releasing res (releaseReservation redis res) }

/-- The request starts to log its actual cost. -/
def Request.settles (redis : Bool) (now : ℕ) (q : Request) (res : BudgetReservation) (actual : ℚ) :
    Request :=
  { q with
    after := .start now
    stage := .settling res actual (logSpend redis (q.entry res actual)) }

/-- A step of the system. The handler refuses negative estimates; costs are unsigned. -/
def step (redis : Bool) (s : System) : Label → System
  | .tick seconds => { s with store.clock := s.store.clock + seconds }
  | .arrive wallet tenant estimate =>
    if 0 ≤ estimate then
      { s with requests := s.requests ++ [.checks redis s.store.clock wallet tenant estimate] }
    else s
  | .spend entry =>
    if 0 ≤ entry.costUsdc ∧ entry.estimatedCostUsdc = none then
      { s with requests := s.requests ++ [.spends redis s.store.clock entry] }
    else s
  | .advance i env =>
    match s.requests[i]? with
    | none => s
    | some q =>
      let out := q.advance env s.store
      ⟨out.1, s.requests.set i out.2⟩
  | .release i =>
    match s.requests[i]? with
    | none => s
    | some q =>
      match q.reservation with
      | none => s
      | some res =>
        { s with requests := s.requests.set i (q.releases redis s.store.clock res) }
  | .settle i actual =>
    match s.requests[i]? with
    | none => s
    | some q =>
      match q.reservation with
      | none => s
      | some res =>
        if 0 ≤ actual then
          { s with requests := s.requests.set i (q.settles redis s.store.clock res actual) }
        else s

/-- The net change of one counter by a request. -/
def Request.net (q : Request) (k : CounterKey) : ℚ :=
  Budget.net q.checked.changes k + Budget.net q.after.changes k

/-- The reservation and the cost of a request whose settlement is complete. -/
def Request.settled (q : Request) : Option (BudgetReservation × ℚ) :=
  match q.stage with
  | .settling res actual (.done ()) => some (res, actual)
  | _ => none

/-! ## What a step does -/

inductive Effect (redis : Bool) (s : System) : Label → System → Prop
  | idle (a : Label) : Effect redis s a s
  | tick (seconds : ℕ) :
    Effect redis s (.tick seconds) { s with store.clock := s.store.clock + seconds }
  | arrive (wallet : String) (tenant : Option String) {estimate : ℚ} (h : 0 ≤ estimate) :
    Effect redis s (.arrive wallet tenant estimate)
      { s with requests := s.requests ++ [.checks redis s.store.clock wallet tenant estimate] }
  | spend {entry : SpendLogEntry} (hcost : 0 ≤ entry.costUsdc)
      (hnone : entry.estimatedCostUsdc = none) :
    Effect redis s (.spend entry)
      { s with requests := s.requests ++ [.spends redis s.store.clock entry] }
  | advance {i : ℕ} {q : Request} (hq : s.requests[i]? = some q) (env : Lookups) :
    Effect redis s (.advance i env)
      ⟨(q.advance env s.store).1, s.requests.set i (q.advance env s.store).2⟩
  | release {i : ℕ} {q : Request} (hq : s.requests[i]? = some q) {res : BudgetReservation}
      (hres : q.reservation = some res) :
    Effect redis s (.release i)
      { s with requests := s.requests.set i (q.releases redis s.store.clock res) }
  | settle {i : ℕ} {q : Request} (hq : s.requests[i]? = some q) {res : BudgetReservation}
      (hres : q.reservation = some res) {actual : ℚ} (hactual : 0 ≤ actual) :
    Effect redis s (.settle i actual)
      { s with requests := s.requests.set i (q.settles redis s.store.clock res actual) }

/-- What each step does. -/
theorem step_effect (redis : Bool) (s : System) (a : Label) :
    Effect redis s a (step redis s a) := by
  cases a with
  | tick seconds => exact .tick seconds
  | arrive wallet tenant estimate =>
    simp only [step]
    split
    · exact .arrive wallet tenant ‹_›
    · exact .idle _
  | spend entry =>
    simp only [step]
    split
    · rename_i h
      exact .spend h.1 h.2
    · exact .idle _
  | advance i env =>
    simp only [step]
    split
    · exact .idle _
    · exact .advance ‹_› env
  -- a request is released or settled once, and only while it holds a reservation
  | release i =>
    simp only [step]
    split
    · exact .idle _
    · split
      · exact .idle _
      · exact .release ‹_› ‹_›
  | settle i actual =>
    simp only [step]
    split
    · exact .idle _
    · split
      · exact .idle _
      · split
        · exact .settle ‹_› ‹_› ‹_›
        · exact .idle _

end Solvela.Budget
