import Mathlib.Data.Rat.Defs
import Mathlib.Algebra.Order.Ring.Rat
import Mathlib.Data.BitVec
import Solvela.Budget.Calendar
import Solvela.Lib.Prog

/-!
# The usage tracker

`check_budget`, `release_reservation` and `log_spend` of the gateway's usage tracker, as programs
of Redis commands and lookups. One command is atomic; between two of them other requests run and
the clock moves on. Amounts are exact numbers of USDC and every Redis command succeeds; the
lookups answer what they like, errors included.
-/

namespace Solvela.Budget

open Solvela.Lib

abbrev Uuid := BitVec 128

/-- `USDC_EPSILON`, half an atomic unit. -/
def usdcEpsilon : ℚ := 5 / 10000000

/-- `NO_REDIS_REQUEST_CAP_USDC`. -/
def noRedisRequestCapUsdc : ℚ := 1

/-! ## Configuration -/

/-- The limits of a `TeamBudgetConfig` or a `TenantBudgetConfig`. -/
structure Limits where
  hourly : Option ℚ
  daily : Option ℚ
  monthly : Option ℚ
deriving DecidableEq

def Limits.get (l : Limits) : Window → Option ℚ
  | .hourly => l.hourly
  | .daily => l.daily
  | .monthly => l.monthly

structure BudgetConfig extends Limits where
  requireTenant : Bool
deriving DecidableEq

/-- `TeamLookup` and `TenantLookup`. -/
inductive Lookup
  | found (limits : Limits)
  | absent
  | dbError
deriving DecidableEq

inductive TenantDecision
  | enforce
  | rejectRequired
  | rejectNotProvisioned
  | skip
deriving DecidableEq

def tenantEnforcementDecision (requireTenant : Bool) (tag : Option String) (hasRow : Bool) :
    TenantDecision :=
  match requireTenant, tag, hasRow with
  | _, some _, true => .enforce
  | true, none, _ => .rejectRequired
  | true, some _, false => .rejectNotProvisioned
  | false, _, _ => .skip

inductive UsageError
  | database (message : String)
  | budgetExceeded (wallet : String) (limit spent : ℚ)
  | tenantRequired (wallet : String)
  | tenantNotProvisioned (wallet tenant : String)
deriving DecidableEq

/-! ## Counters -/

inductive Owner
  | wallet (wallet : String)
  | tenant (wallet tag : String)
  | team (team : Uuid)
deriving DecidableEq

/-- `spend:{wallet}:{period}`, `spend:{wallet}:{tag}:{period}` and `team_spend:{team}:{period}`.
Neither wallets nor tags nor periods have colons, so different keys are different strings. -/
structure CounterKey where
  owner : Owner
  period : Period
deriving DecidableEq

/-- The counter of an owner in the window of a time. -/
def Owner.key (owner : Owner) (now : ℕ) (w : Window) : CounterKey := ⟨owner, w.period now⟩

/-- What the gateway asks of Redis, of the database behind its Redis caches, and of the clock. -/
inductive Command
  | now
  | walletBudgetConfig (wallet : String)
  | teamForWallet (wallet : String)
  | teamBudgetConfig (team : Uuid)
  | tenantBudgetConfig (wallet tag : String)
  /-- `INCR_CHECK_LUA`; the bound is the limit with epsilon. -/
  | incrCheck (key : CounterKey) (amount bound : ℚ) (ttl : ℕ)
  /-- `INCRBYFLOAT`. -/
  | incrBy (key : CounterKey) (amount : ℚ)
  /-- `INCRBYFLOAT` and `EXPIRE` in one transaction. -/
  | incrAndExpire (key : CounterKey) (amount : ℚ) (ttl : ℕ)

@[reducible] def Reply : Command → Type
  | .now => ℕ
  | .walletBudgetConfig _ => BudgetConfig
  | .teamForWallet _ => Except String (Option Uuid)
  | .teamBudgetConfig _ => Lookup
  | .tenantBudgetConfig _ _ => Lookup
  | .incrCheck _ _ _ _ => ℚ
  | .incrBy _ _ => Unit
  | .incrAndExpire _ _ _ => Unit

abbrev Program := Prog Command Reply

abbrev ask (c : Command) : Program (Reply c) := Prog.ask c

/-- What the lookups answer. -/
structure Lookups where
  wallet : BudgetConfig
  team : Except String (Option Uuid)
  teamBudget : Lookup
  tenantBudget : Lookup

/-- A value in Redis; without an expiry it stays. -/
structure Counter where
  value : ℚ
  expiry : Option ℕ
deriving DecidableEq

/-- Whether the TTL has run out. -/
def Counter.expired (c : Counter) (clock : ℕ) : Bool :=
  match c.expiry with
  | none => false
  | some expiry => decide (expiry ≤ clock)

structure Store where
  clock : ℕ
  counters : CounterKey → Option Counter

namespace Store

/-- The counter, unless it has expired. -/
def live (s : Store) (k : CounterKey) : Option Counter :=
  match s.counters k with
  | none => none
  | some c => if c.expired s.clock then none else some c

/-- What a `GET` would find. -/
def value (s : Store) (k : CounterKey) : ℚ :=
  match s.live k with
  | none => 0
  | some c => c.value

def put (s : Store) (k : CounterKey) (c : Counter) : Store :=
  { s with counters := fun k' => if k' = k then some c else s.counters k' }

/-- `INCRBYFLOAT` starts a missing key at zero and keeps the TTL of the others. -/
def incrByFloat (s : Store) (k : CounterKey) (amount : ℚ) : Store :=
  match s.live k with
  | none => s.put k ⟨amount, none⟩
  | some c => s.put k ⟨c.value + amount, c.expiry⟩

def expire (s : Store) (k : CounterKey) (ttl : ℕ) : Store :=
  match s.live k with
  | none => s
  | some c => s.put k ⟨c.value, some (s.clock + ttl)⟩

/-- A command against the store, with the lookups that answer at this moment. -/
def exec (env : Lookups) (s : Store) : (c : Command) → Reply c × Store
  | .now => (s.clock, s)
  | .walletBudgetConfig _ => (env.wallet, s)
  | .teamForWallet _ => (env.team, s)
  | .teamBudgetConfig _ => (env.teamBudget, s)
  | .tenantBudgetConfig _ _ => (env.tenantBudget, s)
  | .incrCheck k amount bound ttl =>
    -- the script sets the TTL on every call and undoes the addition itself; the reply is the total
    -- before the undo
    let added := (s.incrByFloat k amount).expire k ttl
    let cur := added.value k
    (cur, if cur > bound then added.incrByFloat k (-amount) else added)
  | .incrBy k amount => ((), s.incrByFloat k amount)
  | .incrAndExpire k amount ttl => ((), (s.incrByFloat k amount).expire k ttl)

end Store

/-! ## Reservations -/

structure ReservedWindows where
  hourly : Bool
  daily : Bool
  monthly : Bool
deriving DecidableEq

namespace ReservedWindows

/-- The default: nothing reserved. -/
def none : ReservedWindows := ⟨false, false, false⟩

def get (r : ReservedWindows) : Window → Bool
  | .hourly => r.hourly
  | .daily => r.daily
  | .monthly => r.monthly

def mark (r : ReservedWindows) : Window → ReservedWindows
  | .hourly => { r with hourly := true }
  | .daily => { r with daily := true }
  | .monthly => { r with monthly := true }

end ReservedWindows

structure ReservedBudgetWindows where
  wallet : ReservedWindows
  tenant : ReservedWindows
  team : ReservedWindows
deriving DecidableEq

abbrev Committed := List (CounterKey × ℚ)

structure BudgetReservation where
  committed : Committed
  tenantEnforced : Bool
  reserved : ReservedBudgetWindows
deriving DecidableEq

/-- `BudgetReservation::default()`. -/
def BudgetReservation.empty : BudgetReservation := ⟨[], false, ⟨.none, .none, .none⟩⟩

/-- The script's reply is the total after the addition; above the bound it has undone it. -/
def incrCheckOrRollback (key : CounterKey) (amount limit : ℚ) (ttl : ℕ) :
    Program (Except ℚ ℚ) := do
  let newValue ← ask (.incrCheck key amount (limit + usdcEpsilon) ttl)
  if newValue > limit + usdcEpsilon then pure (.error newValue) else pure (.ok newValue)

def rollbackCommitted : Committed → Program Unit
  | [] => pure ()
  | (key, amount) :: rest => do
    ask (.incrBy key (-amount))
    rollbackCommitted rest

/-- `rollback_committed` and the early return of an error. -/
def reject {α : Type} (committed : Committed) (e : UsageError) : Program (Except UsageError α) := do
  rollbackCommitted committed
  pure (.error e)

/-- The windows of a family, in the order they are checked. -/
def windows : List Window := [.hourly, .daily, .monthly]

/-- The `try_commit!` blocks of one family. -/
def commitWindows (wallet : String) (estimate : ℚ) (owner : Owner) (now : ℕ) (limits : Limits) :
    List Window → Committed → ReservedWindows →
      Program (Except UsageError (Committed × ReservedWindows))
  | [], committed, reserved => pure (.ok (committed, reserved))
  | w :: ws, committed, reserved =>
    match limits.get w with
    | none => commitWindows wallet estimate owner now limits ws committed reserved
    | some limit => do
      match ← incrCheckOrRollback (owner.key now w) estimate limit w.ttl with
      | .ok _ =>
        commitWindows wallet estimate owner now limits ws
          (committed ++ [(owner.key now w, estimate)]) (reserved.mark w)
      | .error current => reject committed (.budgetExceeded wallet limit current)

def commitTeam (wallet : String) (estimate : ℚ) (now : ℕ) (committed : Committed) :
    Program (Except UsageError (Committed × ReservedWindows)) := do
  match ← ask (.teamForWallet wallet) with
  | .ok (some tid) =>
    match ← ask (.teamBudgetConfig tid) with
    | .found limits =>
      commitWindows wallet estimate (.team tid) now limits windows committed .none
    -- a team without a row of limits is not limited, but a lookup that fails rejects
    | .absent => pure (.ok (committed, .none))
    | .dbError => reject committed (.database "team_budgets lookup failed")
  | .ok none => pure (.ok (committed, .none))
  | .error e => reject committed (.database e)

/-- The row of the tenant, read only when a tag is present. -/
def lookupTenant (wallet : String) : Option String → Program Lookup
  | none => pure .absent
  | some tag => ask (.tenantBudgetConfig wallet tag)

def Lookup.isFound : Lookup → Bool
  | .found _ => true
  | _ => false

/-- `any_limit`. -/
def Limits.any (l : Limits) : Bool := l.hourly.isSome || l.daily.isSome || l.monthly.isSome

def commitTenant (wallet : String) (estimate : ℚ) (now : ℕ) (requireTenant : Bool)
    (tenant : Option String) (committed : Committed) :
    Program (Except UsageError (Committed × ReservedWindows × Bool)) := do
  let lookup ← lookupTenant wallet tenant
  -- without `require_tenant` a lookup that fails counts as no row
  if lookup = .dbError ∧ requireTenant = true then
    reject committed (.database "tenant_budgets lookup failed")
  else
    match tenantEnforcementDecision requireTenant tenant lookup.isFound, tenant, lookup with
    | .enforce, some tag, .found limits =>
      (commitWindows wallet estimate (.tenant wallet tag) now limits windows committed
          .none).andThen
        fun (committed, reserved) => pure (.ok (committed, reserved, limits.any))
    | .rejectRequired, _, _ => reject committed (.tenantRequired wallet)
    | .rejectNotProvisioned, some tag, _ => reject committed (.tenantNotProvisioned wallet tag)
    | _, _, _ => pure (.ok (committed, .none, false))

/-- `redis` says whether a client is configured. -/
def checkBudget (redis : Bool) (wallet : String) (estimate : ℚ) (tenant : Option String) :
    Program (Except UsageError BudgetReservation) :=
  if redis then do
    let now ← ask .now
    let config ← ask (.walletBudgetConfig wallet)
    (commitWindows wallet estimate (.wallet wallet) now config.toLimits windows [] .none).andThen
      fun (committed, walletReserved) =>
        (commitTeam wallet estimate now committed).andThen fun (committed, teamReserved) =>
          (commitTenant wallet estimate now config.requireTenant tenant committed).andThen
            fun (committed, tenantReserved, tenantEnforced) =>
              pure (.ok ⟨committed, tenantEnforced, ⟨walletReserved, tenantReserved, teamReserved⟩⟩)
  -- without Redis there are no counters, only a cap on one request
  else if estimate > noRedisRequestCapUsdc then
    pure (.error (.budgetExceeded wallet noRedisRequestCapUsdc estimate))
  else pure (.ok .empty)

def releaseReservation (redis : Bool) (reservation : BudgetReservation) : Program Unit :=
  if redis then rollbackCommitted reservation.committed else pure ()

/-! ## Settlement -/

/-- What `log_spend` reads of a `SpendLogEntry` for its counters. -/
structure SpendLogEntry where
  walletAddress : String
  costUsdc : ℚ
  tenant : Option String
  tenantEnforced : Bool
  estimatedCostUsdc : Option ℚ
  reserved : ReservedBudgetWindows

/-- The delta for a window that was reserved, the cost for one that was not. -/
def windowAmount (entry : SpendLogEntry) (wasReserved : Bool) : ℚ :=
  match entry.estimatedCostUsdc with
  | some e => if wasReserved then entry.costUsdc - e else entry.costUsdc
  | none => entry.costUsdc

def settleWindows (entry : SpendLogEntry) (owner : Owner) (now : ℕ) (reserved : ReservedWindows) :
    List Window → Program Unit
  | [] => pure ()
  | w :: ws => do
    ask (.incrAndExpire (owner.key now w) (windowAmount entry (reserved.get w)) w.ttl)
    settleWindows entry owner now reserved ws

/-- The tag whose counters are settled. -/
def SpendLogEntry.settledTenant (entry : SpendLogEntry) : Option String :=
  if entry.tenantEnforced then entry.tenant else none

def settleTenant (entry : SpendLogEntry) (now : ℕ) : Program Unit :=
  match entry.settledTenant with
  | some tag =>
    settleWindows entry (.tenant entry.walletAddress tag) now entry.reserved.tenant windows
  | none => pure ()

/-- The team is looked up again; a lookup that fails skips the team's counters. -/
def settleTeam (entry : SpendLogEntry) (now : ℕ) : Program Unit := do
  match ← ask (.teamForWallet entry.walletAddress) with
  | .ok (some tid) => settleWindows entry (.team tid) now entry.reserved.team windows
  | .ok none => pure ()
  | .error _ => pure ()

/-- The counters part of `log_spend`. -/
def logSpend (redis : Bool) (entry : SpendLogEntry) : Program Unit :=
  if redis = false ∨ entry.costUsdc = 0 ∧ entry.estimatedCostUsdc = none then pure ()
  else do
    -- the clock is read again: these need not be the windows that were reserved
    let now ← ask .now
    settleWindows entry (.wallet entry.walletAddress) now entry.reserved.wallet windows
    settleTenant entry now
    settleTeam entry now

end Solvela.Budget
