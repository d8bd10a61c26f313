import Solvela.Lib.Lru
import Solvela.Lib.Table

/-!
# The replay check of the paid endpoints

Every paid endpoint checks its payment transaction against a replay record before it settles.
Where the record lives depends on the configuration and on the moment:

* with Redis configured, in one Redis key per transaction, shared by all endpoints
  (`check_and_record_tx`);
* while a configured Redis does not answer, in one in-memory LRU of the process;
* without Redis, in an in-memory LRU of the endpoint (`ReplaySet`).

Redis and the mutexes make each consultation atomic; between them the checks of any number of
requests interleave. Times are in milliseconds.

The key of all records is the base64 text that the client sent. So a transaction is its text here:
two texts that decode to one signed transaction are two transactions to every record.
-/

namespace Solvela.Replay

open Solvela.Lib

/-- `ReplayPath`. -/
inductive ReplayPath
  | chat
  | proxy
  | a2a
  | search
  | solanaPrice
deriving DecidableEq

/-- `ReplaySet::PER_PATH_CAPACITY`, and the capacity of the fallback. -/
def perPathCapacity : ℕ := 10000

/-- `AppState::REPLAY_TTL`. -/
def replayTtl : ℕ := 120000

/-- The TTL of a Redis record: transactions with a durable nonce do not expire on chain. -/
def ttl (usesDurableNonce : Bool) : ℕ := if usesDurableNonce then 86400000 else 120000

/-- `REPLAY_KEY_PREFIX` and the text of the transaction. -/
def replayKey (tx : String) : String := "solvela:txn:" ++ tx

/-- `ReplaySet`: one bucket for each path, with the instant of each insertion. -/
abbrev ReplaySet := ReplayPath → Lru String ℕ perPathCapacity

/-- The record a consultation was answered by. -/
inductive Store
  | redis
  | fallback
  | bucket (path : ReplayPath)
deriving DecidableEq

/-- One answered consultation; `tx` is the base64 text of the transaction. -/
structure Consultation where
  path : ReplayPath
  tx : String
  store : Store
  passed : Bool
  time : ℕ
deriving DecidableEq

/-- A check that has no answer yet: Redis or the bucket is next, or Redis failed. -/
inductive CheckStage
  | asking (path : ReplayPath) (tx : String)
  | degraded (path : ReplayPath) (tx : String)

/-- The records, the checks that are running, and the consultations so far. -/
structure ReplaySystem where
  clock : ℕ
  redis : Table String ℕ
  fallbackReplaySet : Lru String Unit perPathCapacity
  replaySet : ReplaySet
  checks : Table ℕ CheckStage
  log : List Consultation

def ReplaySystem.init : ReplaySystem := ⟨0, ∅, .empty, fun _ => .empty, ∅, []⟩

/-- How the Redis call of a check can end. A lost call was executed by Redis, but its reply was
not received. -/
inductive RedisAnswer
  | answered
  | unreachable
  | lost
deriving DecidableEq

/-- One step of somebody. -/
inductive ReplayLabel
  | arrive (r : ℕ) (path : ReplayPath) (tx : String)
  | askRedis (r : ℕ) (answer : RedisAnswer)
  | askFallback (r : ℕ)
  | askBucket (r : ℕ)
  | tick (d : ℕ)

/-- Is `state.cache` there, and which transactions use a durable nonce. -/
structure Gateway where
  cacheConfigured : Bool
  usesDurableNonce : String → Bool

/-- How long a transaction can be replayed. -/
def Gateway.window (g : Gateway) (tx : String) : ℕ := ttl (g.usesDurableNonce tx)

namespace ReplaySystem

def finish (s : ReplaySystem) (r : ℕ) : ReplaySystem := { s with checks := s.checks.erase r }

/-- The check `r` gets its answer. -/
def answer (s : ReplaySystem) (r : ℕ) (path : ReplayPath) (tx : String) (store : Store)
    (passed : Bool) : ReplaySystem :=
  { s.finish r with log := s.log ++ [⟨path, tx, store, passed, s.clock⟩] }

/-- The Redis key is there and not expired. -/
def live (s : ReplaySystem) (tx : String) : Bool :=
  (s.redis.lookup (replayKey tx)).any fun expiry => decide (s.clock < expiry)

/-- `SET key 1 NX EX ttl`. -/
def setNx (g : Gateway) (s : ReplaySystem) (tx : String) : ReplaySystem :=
  if s.live tx then s
  else { s with redis := s.redis.insert (replayKey tx) (s.clock + g.window tx) }

end ReplaySystem

/-! ## The in-memory records -/

/-- The fallback of `check_and_record_tx`: does the transaction pass, and the cache after. -/
def fallbackCheck (cache : Lru String Unit perPathCapacity) (tx : String) :
    Bool × Lru String Unit perPathCapacity :=
  match cache.get tx with
  | (some _, cache) => (false, cache)
  | (none, cache) => (true, cache.put tx ())

/-- The bucket check of an endpoint without Redis. -/
def bucketCheck (now : ℕ) (bucket : Lru String ℕ perPathCapacity) (tx : String) :
    Bool × Lru String ℕ perPathCapacity :=
  match bucket.get tx with
  | (some insertedAt, bucket) =>
    if now - insertedAt < replayTtl then (false, bucket)
    -- expired: removed and treated as not found
    else (true, (bucket.pop tx).put tx now)
  | (none, bucket) => (true, bucket.put tx now)

/-! ## The steps -/

section
variable (g : Gateway)

/-- A request comes to its replay check. -/
def arriveStep (s : ReplaySystem) (r : ℕ) (path : ReplayPath) (tx : String) : ReplaySystem :=
  match s.checks.lookup r with
  | none => { s with checks := s.checks.insert r (.asking path tx) }
  | some _ => s

/-- The Redis call of `check_and_record_tx`. -/
def redisStep (s : ReplaySystem) (r : ℕ) (reply : RedisAnswer) : CheckStage → ReplaySystem
  | .asking path tx =>
    if g.cacheConfigured then
      match reply with
      | .answered => (s.setNx g tx).answer r path tx .redis (!s.live tx)
      | .unreachable => { s with checks := s.checks.insert r (.degraded path tx) }
      | .lost => { s.setNx g tx with checks := s.checks.insert r (.degraded path tx) }
    else s
  | _ => s

/-- The degraded mode of `check_and_record_tx`. -/
def fallbackStep (s : ReplaySystem) (r : ℕ) : CheckStage → ReplaySystem
  | .degraded path tx =>
    let res := fallbackCheck s.fallbackReplaySet tx
    { s with fallbackReplaySet := res.2 }.answer r path tx .fallback res.1
  | _ => s

/-- The endpoint's own check when no Redis is configured. A durable nonce is denied, and an A2A
payment has already been refused for want of its lock. -/
def bucketStep (s : ReplaySystem) (r : ℕ) : CheckStage → ReplaySystem
  | .asking path tx =>
    if g.cacheConfigured then s
    else if g.usesDurableNonce tx || path == .a2a then s.finish r
    else
      let res := bucketCheck s.clock (s.replaySet path) tx
      { s with replaySet := Function.update s.replaySet path res.2 }.answer r path tx
        (.bucket path) res.1
  | _ => s

/-- The step of the check `r`, if it is running. -/
def ReplaySystem.onCheck (s : ReplaySystem) (r : ℕ) (f : CheckStage → ReplaySystem) :
    ReplaySystem :=
  match s.checks.lookup r with
  | none => s
  | some st => f st

/-- The system's step function. -/
def replayStep (s : ReplaySystem) : ReplayLabel → ReplaySystem
  | .arrive r path tx => arriveStep s r path tx
  | .askRedis r reply => s.onCheck r (redisStep g s r reply)
  | .askFallback r => s.onCheck r (fallbackStep s r)
  | .askBucket r => s.onCheck r (bucketStep g s r)
  | .tick d => { s with clock := s.clock + d }

end

end Solvela.Replay
