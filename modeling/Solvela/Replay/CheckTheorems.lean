import Solvela.Lib.Runs
import Solvela.Replay.Check

/-!
# What the replay check guarantees

One transaction text passes at most once for each record that can answer: once in Redis and once in
the fallback of the process within its window, or once in each endpoint's bucket. A second pass
by the same in-memory record needs as many other transactions in between as the record has
room for.
-/

namespace Solvela.Replay

open Solvela.Lib

/-- The other transactions a record was asked about. -/
def othersIn (store : Store) (tx : String) (l : List Consultation) : Finset String :=
  ((l.filter fun e => decide (e.store = store ∧ e.tx ≠ tx)).map Consultation.tx).toFinset

/-- One consultation more. -/
theorem othersIn_append (store : Store) (tx : String) (l : List Consultation)
    (e : Consultation) :
    othersIn store tx (l ++ [e]) =
      if e.store = store ∧ e.tx ≠ tx then insert e.tx (othersIn store tx l)
      else othersIn store tx l := by
  unfold othersIn
  rw [List.filter_append, List.map_append, List.toFinset_append]
  by_cases h : e.store = store ∧ e.tx ≠ tx
  · rw [if_pos h, List.filter_cons_of_pos (by simpa using h), List.filter_nil, List.map_cons,
      List.map_nil, List.toFinset_cons, List.toFinset_nil, Finset.union_insert,
      Finset.union_empty]
  · rw [if_neg h, List.filter_cons_of_neg (by simpa using h), List.filter_nil, List.map_nil,
      List.toFinset_nil, Finset.union_empty]

/-! ## The in-memory records -/

/-- The fallback looks, and then uses what it looked at. -/
theorem fallbackCheck_eq (cache : Lru String Unit perPathCapacity) (tx : String) :
    fallbackCheck cache tx = ((cache.peek tx).isNone, cache.use tx ()) := by
  unfold fallbackCheck Lru.get
  cases cache.peek tx with
  | none => rfl
  | some u => rfl

/-- A bucket refuses a transaction it holds from less than the TTL ago, and records any
other. -/
theorem bucketCheck_cases (now : ℕ) (bucket : Lru String ℕ perPathCapacity) (tx : String) :
    (∃ v, bucket.peek tx = some v ∧ bucketCheck now bucket tx = (false, bucket.use tx v)) ∨
    ((∀ v, bucket.peek tx = some v → replayTtl ≤ now - v) ∧
      bucketCheck now bucket tx = (true, bucket.use tx now)) := by
  unfold bucketCheck Lru.get
  cases hpeek : bucket.peek tx with
  | none => exact Or.inr ⟨by simp, rfl⟩
  | some v =>
    simp only
    by_cases hage : now - v < replayTtl
    · rw [if_pos hage]
      exact Or.inl ⟨v, rfl, rfl⟩
    · rw [if_neg hage, Lru.pop_put, Lru.use_use]
      refine Or.inr ⟨?_, rfl⟩
      intro v' hv'
      obtain rfl := Option.some.inj hv'
      omega

/-! ## What a step can do -/

/-- The effect of a step on the running checks. Only a Redis call that did not get its answer
degrades one. -/
inductive ChecksEffect (g : Gateway) (a : ReplayLabel) (s s' : ReplaySystem) : Prop
  | same (checks : s'.checks = s.checks)
  | moved (r : ℕ) (st : CheckStage) (checks : s'.checks = s.checks.insert r st)
      (unanswered : ∀ path tx, st = .degraded path tx →
        g.cacheConfigured = true ∧ ∃ reply, reply ≠ .answered ∧ a = .askRedis r reply)
  | done (r : ℕ) (checks : s'.checks = s.checks.erase r)

/-- The effect of a step on the records, the log and the running checks. -/
inductive ReplayEffect (g : Gateway) (a : ReplayLabel) (s s' : ReplaySystem) : Prop
  | quiet (clock : s.clock ≤ s'.clock)
      (redis : s'.redis = s.redis ∨ ∃ tx, s'.redis = (s.setNx g tx).redis)
      (fallback : s'.fallbackReplaySet = s.fallbackReplaySet)
      (buckets : s'.replaySet = s.replaySet) (checks : ChecksEffect g a s s')
      (log : s'.log = s.log)
  | redis (path : ReplayPath) (tx : String) (configured : g.cacheConfigured = true)
      (clock : s'.clock = s.clock) (redis : s'.redis = (s.setNx g tx).redis)
      (fallback : s'.fallbackReplaySet = s.fallbackReplaySet)
      (buckets : s'.replaySet = s.replaySet) (checks : ChecksEffect g a s s')
      (log : s'.log = s.log ++ [⟨path, tx, .redis, !s.live tx, s.clock⟩])
  | fallback (r : ℕ) (path : ReplayPath) (tx : String)
      (found : s.checks.lookup r = some (.degraded path tx)) (clock : s'.clock = s.clock)
      (redis : s'.redis = s.redis)
      (fallback : s'.fallbackReplaySet = s.fallbackReplaySet.use tx ())
      (buckets : s'.replaySet = s.replaySet) (checks : ChecksEffect g a s s')
      (log : s'.log = s.log ++
        [⟨path, tx, .fallback, (s.fallbackReplaySet.peek tx).isNone, s.clock⟩])
  | bucket (path : ReplayPath) (tx : String) (configured : g.cacheConfigured = false)
      (standard : g.usesDurableNonce tx = false) (other : path ≠ .a2a)
      (clock : s'.clock = s.clock) (redis : s'.redis = s.redis)
      (fallback : s'.fallbackReplaySet = s.fallbackReplaySet)
      (buckets : s'.replaySet = Function.update s.replaySet path
        (bucketCheck s.clock (s.replaySet path) tx).2)
      (checks : ChecksEffect g a s s')
      (log : s'.log = s.log ++
        [⟨path, tx, .bucket path, (bucketCheck s.clock (s.replaySet path) tx).1, s.clock⟩])

variable {g : Gateway} {a : ReplayLabel} {s s' : ReplaySystem}

theorem ReplayEffect.idle : ReplayEffect g a s s :=
  .quiet (le_refl _) (Or.inl rfl) rfl rfl (.same rfl) rfl

/-- `SET NX` writes nothing but the key. -/
theorem setNx_eq (g : Gateway) (s : ReplaySystem) (tx : String) :
    ∃ redis, s.setNx g tx = { s with redis := redis } := by
  unfold ReplaySystem.setNx
  split
  · exact ⟨s.redis, rfl⟩
  · exact ⟨_, rfl⟩

/-- What an answer of Redis does. -/
theorem redis_effect (r : ℕ) (reply : RedisAnswer) (st : CheckStage) :
    ReplayEffect g (.askRedis r reply) s (redisStep g s r reply st) := by
  cases st with
  | degraded path tx => exact .idle
  | asking path tx =>
    simp only [redisStep]
    by_cases hcache : g.cacheConfigured = true
    · rw [if_pos hcache]
      obtain ⟨redis, hset⟩ := setNx_eq g s tx
      cases reply with
      | answered =>
        refine .redis path tx hcache ?_ rfl ?_ ?_ (.done r ?_) ?_ <;> rw [hset] <;> rfl
      | unreachable =>
        refine .quiet (le_refl _) (Or.inl rfl) rfl rfl (.moved r _ rfl ?_) rfl
        exact fun _ _ _ => ⟨hcache, .unreachable, by simp, rfl⟩
      | lost =>
        -- the key is written although nobody hears of it
        refine .quiet ?_ (Or.inr ⟨tx, rfl⟩) ?_ ?_ (.moved r (.degraded path tx) rfl ?_) ?_
        · rw [hset]
        · rw [hset]
        · rw [hset]
        · exact fun _ _ _ => ⟨hcache, .lost, by simp, rfl⟩
        · rw [hset]
    · rw [if_neg hcache]
      exact .idle

/-- What the look into a bucket does. -/
theorem bucket_effect (r : ℕ) (st : CheckStage) :
    ReplayEffect g a s (bucketStep g s r st) := by
  cases st with
  | degraded path tx => exact .idle
  | asking path tx =>
    simp only [bucketStep]
    by_cases hcache : g.cacheConfigured = true
    · rw [if_pos hcache]
      exact .idle
    · rw [if_neg hcache]
      by_cases hdenied : (g.usesDurableNonce tx || path == .a2a) = true
      · rw [if_pos hdenied]
        exact .quiet (le_refl _) (Or.inl rfl) rfl rfl (.done r rfl) rfl
      · rw [if_neg hdenied]
        simp only [Bool.or_eq_true, beq_iff_eq, not_or, Bool.not_eq_true] at hdenied
        exact .bucket path tx (by simpa using hcache) hdenied.1 hdenied.2 rfl rfl rfl rfl
          (.done r rfl) rfl

/-- What the look into the fallback does. -/
theorem fallback_effect {r : ℕ} {st : CheckStage} (hr : s.checks.lookup r = some st) :
    ReplayEffect g a s (fallbackStep s r st) := by
  cases st with
  | asking path tx => exact .idle
  | degraded path tx =>
    have hcheck := fallbackCheck_eq s.fallbackReplaySet tx
    refine .fallback r path tx hr rfl rfl ?_ rfl (.done r rfl) ?_
    · show (fallbackCheck s.fallbackReplaySet tx).2 = _
      rw [hcheck]
    · show s.log ++ [⟨path, tx, .fallback, (fallbackCheck s.fallbackReplaySet tx).1, s.clock⟩] = _
      rw [hcheck]

/-- A check that is not running takes no step. -/
theorem onCheck_effect {r : ℕ} {f : CheckStage → ReplaySystem}
    (h : ∀ st, s.checks.lookup r = some st → ReplayEffect g a s (f st)) :
    ReplayEffect g a s (s.onCheck r f) := by
  unfold ReplaySystem.onCheck
  cases hr : s.checks.lookup r with
  | none => exact .idle
  | some st => exact h st hr

/-- Every step has one of the effects. -/
theorem replay_effect (g : Gateway) (s : ReplaySystem) (a : ReplayLabel) :
    ReplayEffect g a s (replayStep g s a) := by
  cases a with
  | arrive r path tx =>
    show ReplayEffect g _ s (arriveStep s r path tx)
    unfold arriveStep
    cases s.checks.lookup r with
    | none =>
      refine .quiet (le_refl _) (Or.inl rfl) rfl rfl (.moved r _ rfl ?_) rfl
      intro path' tx' h
      exact absurd h (by simp)
    | some st => exact .idle
  | tick d => exact .quiet (Nat.le_add_right _ _) (Or.inl rfl) rfl rfl (.same rfl) rfl
  | askRedis r reply => exact onCheck_effect fun st _ => redis_effect r reply st
  | askFallback r => exact onCheck_effect fun st hr => fallback_effect hr
  | askBucket r => exact onCheck_effect fun st _ => bucket_effect r st

/-- What a step does to the checks. -/
theorem ReplayEffect.checks (h : ReplayEffect g a s s') : ChecksEffect g a s s' := by
  cases h with
  | quiet _ _ _ _ checks _ => exact checks
  | redis _ _ _ _ _ _ _ checks _ => exact checks
  | fallback _ _ _ _ _ _ _ _ checks _ => exact checks
  | bucket _ _ _ _ _ _ _ _ _ checks _ => exact checks

/-- A check is degraded only by a Redis call that did not get its answer. -/
theorem ChecksEffect.degraded_from (h : ChecksEffect g a s s') {r : ℕ} {path : ReplayPath}
    {tx : String} (hl : s'.checks.lookup r = some (.degraded path tx)) :
    s.checks.lookup r = some (.degraded path tx) ∨
      (g.cacheConfigured = true ∧ ∃ reply, reply ≠ .answered ∧ a = .askRedis r reply) := by
  cases h with
  | same checks =>
    rw [checks] at hl
    exact Or.inl hl
  | moved r' st checks unanswered =>
    rw [checks, Table.lookup_insert_eq] at hl
    by_cases hid : r = r'
    · rw [if_pos hid] at hl
      subst hid
      exact Or.inr (unanswered path tx (Option.some.inj hl))
    · rw [if_neg hid] at hl
      exact Or.inl hl
  | done r' checks =>
    rw [checks, Table.lookup_erase_eq] at hl
    by_cases hid : r = r'
    · rw [if_pos hid] at hl
      exact absurd hl (by simp)
    · rw [if_neg hid] at hl
      exact Or.inl hl

/-! ## The invariant -/

/-- Two passes of one transaction text by the same record, inside its window: the record is an
in-memory one, and as many other transactions went through it in between as it has room for. -/
def Spaced (g : Gateway) (a : Consultation) (l : List Consultation) (b : Consultation) : Prop :=
  a.passed = true → b.passed = true → a.store = b.store → a.tx = b.tx →
    b.time < a.time + g.window a.tx →
    a.store ≠ .redis ∧ perPathCapacity ≤ (othersIn a.store a.tx l).card

/-- Which record can answer a check, by the configuration. -/
def Placed (g : Gateway) (e : Consultation) : Prop :=
  match e.store with
  | .redis => g.cacheConfigured = true
  | .fallback => g.cacheConfigured = true
  | .bucket path => g.cacheConfigured = false ∧ g.usesDurableNonce e.tx = false ∧
      path = e.path ∧ path ≠ .a2a

/-- A record still holds every transaction it let pass, with a value in `P`, unless it has run
out of room for it since. -/
def KeptIn {ν : Type} (cache : Lru String ν perPathCapacity) (store : Store)
    (log : List Consultation) (P : Consultation → ν → Prop) : Prop :=
  ∀ l₁ e l₂, log = l₁ ++ e :: l₂ → e.passed = true → e.store = store →
    cache.Kept e.tx (othersIn store e.tx l₂) (P e)

structure ReplayInv (g : Gateway) (s : ReplaySystem) : Prop where
  placed : ∀ e ∈ s.log, Placed g e
  degraded : ∀ r path tx, s.checks.lookup r = some (.degraded path tx) →
    g.cacheConfigured = true
  redis : ∀ e ∈ s.log, e.passed = true → e.store = .redis →
    ∃ expiry, s.redis.lookup (replayKey e.tx) = some expiry ∧ e.time + g.window e.tx ≤ expiry
  fallback : KeptIn s.fallbackReplaySet .fallback s.log fun _ _ => True
  past : ∀ e ∈ s.log, e.time ≤ s.clock
  buckets : ∀ path, KeptIn (s.replaySet path) (.bucket path) s.log fun e v => e.time ≤ v
  spaced : Between (Spaced g) s.log

/-- Nothing has been consulted. -/
theorem replayInv_init (g : Gateway) : ReplayInv g .init where
  placed := by simp [ReplaySystem.init]
  degraded := by
    intro r path tx h
    exact absurd h (by simp [ReplaySystem.init])
  redis := by simp [ReplaySystem.init]
  fallback := by
    intro l₁ e l₂ h
    exact absurd h (by simp [ReplaySystem.init])
  past := by simp [ReplaySystem.init]
  buckets := by
    intro path l₁ e l₂ h
    exact absurd h (by simp [ReplaySystem.init])
  spaced := between_nil _

theorem perPathCapacity_pos : 0 < perPathCapacity := by decide

/-- A record that holds a live key keeps it; a new key outlives the old one. -/
theorem redis_kept {tx tx' : String} {t expiry : ℕ}
    (hl : s.redis.lookup (replayKey tx') = some expiry) (ht : t ≤ expiry) :
    ∃ expiry', (s.setNx g tx).redis.lookup (replayKey tx') = some expiry' ∧ t ≤ expiry' := by
  unfold ReplaySystem.setNx
  by_cases hlive : s.live tx = true
  · rw [if_pos hlive]
    exact ⟨expiry, hl, ht⟩
  · rw [if_neg hlive]
    show ∃ expiry', (s.redis.insert _ _).lookup _ = some expiry' ∧ t ≤ expiry'
    rw [Table.lookup_insert_eq]
    by_cases hkey : replayKey tx' = replayKey tx
    · -- the key that is replaced had expired
      rw [if_pos hkey]
      refine ⟨_, rfl, ?_⟩
      have hexpired : ¬ s.clock < expiry := by
        unfold ReplaySystem.live at hlive
        rw [← hkey, hl] at hlive
        simpa using hlive
      omega
    · rw [if_neg hkey]
      exact ⟨expiry, hl, ht⟩

/-- What `SET NX` has written lives for its window. -/
theorem setNx_self {tx : String} (h : s.live tx = false) :
    (s.setNx g tx).redis.lookup (replayKey tx) = some (s.clock + g.window tx) := by
  rw [ReplaySystem.setNx, if_neg (by simp [h])]
  exact AList.lookup_insert _

/-! ### The in-memory records over a step -/

section Kept
variable {ν : Type} {cache : Lru String ν perPathCapacity} {store : Store}
  {log : List Consultation} {P : Consultation → ν → Prop} {e : Consultation}

/-- What another record answers does not matter. -/
theorem KeptIn.elsewhere (h : KeptIn cache store log P) (he : e.store ≠ store) :
    KeptIn cache store (log ++ [e]) P := by
  intro l₁ a l₂ hsplit hpassed hstore
  rcases split_append_singleton hsplit with ⟨-, rfl, -⟩ | ⟨l, rfl, hlog⟩
  · exact absurd hstore he
  · rw [othersIn_append, if_neg fun h => he h.1]
    exact h l₁ a l hlog hpassed hstore

/-- The record puts the transaction it is asked about in front. -/
theorem KeptIn.use (h : KeptIn cache store log P) (he : e.store = store) {w : ν}
    (hnew : e.passed = true → P e w)
    (hold : ∀ a ∈ log, a.tx = e.tx → ∀ v, cache.peek e.tx = some v → P a v → P a w) :
    KeptIn (cache.use e.tx w) store (log ++ [e]) P := by
  intro l₁ a l₂ hsplit hpassed hstore
  rcases split_append_singleton hsplit with ⟨rfl, rfl, -⟩ | ⟨l, rfl, hlog⟩
  · exact Or.inl (cache.recent_use_self _ perPathCapacity_pos (hnew hpassed))
  · have hkept := (h l₁ a l hlog hpassed hstore).use perPathCapacity_pos e.tx (w := w) (by
      intro htx v hpeek hv
      exact hold a (by rw [hlog]; simp) htx.symm v (htx ▸ hpeek) hv)
    rw [othersIn_append]
    by_cases htx : e.tx = a.tx
    · rw [if_pos htx] at hkept
      rw [if_neg fun h => h.2 htx]
      exact hkept
    · rw [if_neg htx] at hkept
      rw [if_pos ⟨he, htx⟩]
      exact hkept

end Kept

/-! ### The invariant over a step -/

/-- The Redis records of the old passes after a step. -/
theorem ReplayInv.redis_of_step (h : ReplayInv g s)
    (hredis : s'.redis = s.redis ∨ ∃ tx, s'.redis = (s.setNx g tx).redis) :
    ∀ e ∈ s.log, e.passed = true → e.store = .redis →
      ∃ expiry, s'.redis.lookup (replayKey e.tx) = some expiry ∧
        e.time + g.window e.tx ≤ expiry := by
  intro e he hpassed hstore
  obtain ⟨expiry, hl, hexpiry⟩ := h.redis e he hpassed hstore
  rcases hredis with hsame | ⟨tx, hset⟩
  · exact ⟨expiry, by rw [hsame, hl], hexpiry⟩
  · rw [hset]
    exact redis_kept hl hexpiry

/-- What is left to show when a step answers a check: its own event, and the in-memory
records. -/
theorem ReplayInv.answered (h : ReplayInv g s) {e : Consultation}
    (hdegraded : ∀ r path tx, s'.checks.lookup r = some (.degraded path tx) →
      g.cacheConfigured = true)
    (hclock : s'.clock = s.clock) (htime : e.time = s.clock) (hlog : s'.log = s.log ++ [e])
    (hredis : s'.redis = s.redis ∨ ∃ tx, s'.redis = (s.setNx g tx).redis)
    (hplaced : Placed g e)
    (hnew : e.passed = true → e.store = .redis →
      ∃ expiry, s'.redis.lookup (replayKey e.tx) = some expiry ∧
        e.time + g.window e.tx ≤ expiry)
    (hfallback : KeptIn s'.fallbackReplaySet .fallback s'.log fun _ _ => True)
    (hbuckets : ∀ path, KeptIn (s'.replaySet path) (.bucket path) s'.log fun e v => e.time ≤ v)
    (hspaced : ∀ l₁ a l₂, s.log = l₁ ++ a :: l₂ → Spaced g a l₂ e) : ReplayInv g s' where
  placed := by
    rw [hlog, List.forall_mem_append]
    exact ⟨h.placed, by simpa using hplaced⟩
  degraded := hdegraded
  redis := by
    rw [hlog, List.forall_mem_append]
    exact ⟨h.redis_of_step hredis, by simpa using hnew⟩
  fallback := hfallback
  past := by
    rw [hlog, hclock, List.forall_mem_append]
    exact ⟨h.past, by simp [htime]⟩
  buckets := hbuckets
  spaced := by
    rw [hlog]
    exact h.spaced.append hspaced

/-- Redis lets nothing pass that it let pass inside the window. -/
theorem ReplayInv.spaced_redis (h : ReplayInv g s) (path : ReplayPath) (tx : String)
    {l₁ l₂ : List Consultation} {a : Consultation} (hlog : s.log = l₁ ++ a :: l₂) :
    Spaced g a l₂ ⟨path, tx, .redis, !s.live tx, s.clock⟩ := by
  intro hpassed hb hstore htx htime
  obtain ⟨expiry, hl, hexpiry⟩ := h.redis a (by rw [hlog]; simp) hpassed hstore
  have hfree : s.live tx = false := by simpa using hb
  have htx : a.tx = tx := htx
  have hlive : s.clock < expiry := lt_of_lt_of_le htime hexpiry
  unfold ReplaySystem.live at hfree
  rw [← htx, hl] at hfree
  exact absurd hlive (by simpa using hfree)

/-- The fallback lets nothing pass that it still holds. -/
theorem ReplayInv.spaced_fallback (h : ReplayInv g s) (path : ReplayPath) (tx : String)
    {l₁ l₂ : List Consultation} {a : Consultation} (hlog : s.log = l₁ ++ a :: l₂) :
    Spaced g a l₂
      ⟨path, tx, .fallback, (s.fallbackReplaySet.peek tx).isNone, s.clock⟩ := by
  intro hpassed hb hstore htx _
  have hstore : a.store = .fallback := hstore
  have htx : a.tx = tx := htx
  rw [hstore]
  refine ⟨by simp, ?_⟩
  rcases h.fallback l₁ a l₂ hlog hpassed hstore with hrecent | hfull
  · obtain ⟨v, hpeek, -⟩ := hrecent.peek
    rw [htx] at hpeek
    exact absurd hb (by simp [hpeek])
  · exact hfull

/-- A bucket lets nothing pass that it holds from inside the window. -/
theorem ReplayInv.spaced_bucket (h : ReplayInv g s) (path : ReplayPath) {tx : String}
    (hstandard : g.usesDurableNonce tx = false)
    {l₁ l₂ : List Consultation} {a : Consultation} (hlog : s.log = l₁ ++ a :: l₂) :
    Spaced g a l₂ ⟨path, tx, .bucket path,
      (bucketCheck s.clock (s.replaySet path) tx).1, s.clock⟩ := by
  intro hpassed hb hstore htx htime
  have hstore : a.store = .bucket path := hstore
  have htx : a.tx = tx := htx
  have htime : s.clock < a.time + g.window a.tx := htime
  rw [hstore]
  refine ⟨by simp, ?_⟩
  rcases h.buckets path l₁ a l₂ hlog hpassed hstore with hrecent | hfull
  · obtain ⟨v, hpeek, hv⟩ := hrecent.peek
    rw [htx] at hpeek
    have hb : (bucketCheck s.clock (s.replaySet path) tx).1 = true := hb
    rcases bucketCheck_cases s.clock (s.replaySet path) tx with ⟨_, -, hcheck⟩ | ⟨hold, -⟩
    · exact absurd hb (by simp [hcheck])
    · -- the entry is not older than the pass, so it has not expired
      have hage := hold v hpeek
      have hwindow : g.window a.tx = 120000 := by
        rw [htx]
        simp [Gateway.window, ttl, hstandard]
      unfold replayTtl at hage
      omega
  · exact hfull

/-- A bucket remembers what it was asked. -/
theorem ReplayInv.bucket_kept (h : ReplayInv g s) (path : ReplayPath) (tx : String) :
    KeptIn (bucketCheck s.clock (s.replaySet path) tx).2 (.bucket path)
      (s.log ++ [⟨path, tx, .bucket path,
        (bucketCheck s.clock (s.replaySet path) tx).1, s.clock⟩]) fun e v => e.time ≤ v := by
  rcases bucketCheck_cases s.clock (s.replaySet path) tx with ⟨w, hpeek, hcheck⟩ | ⟨-, hcheck⟩
  · -- refused: the entry keeps its instant
    rw [hcheck]
    refine (h.buckets path).use rfl (fun hpassed => absurd hpassed (by simp)) ?_
    intro a _ _ v hv hav
    rw [hpeek] at hv
    obtain rfl := Option.some.inj hv
    exact hav
  · rw [hcheck]
    refine (h.buckets path).use rfl (fun _ => le_refl _) ?_
    intro a ha _ _ _ _
    exact h.past a ha

/-- Every effect keeps the invariant. -/
theorem ReplayInv.effect (h : ReplayInv g s) (heffect : ReplayEffect g a s s') :
    ReplayInv g s' := by
  have hdegraded : ∀ r path tx, s'.checks.lookup r = some (.degraded path tx) →
      g.cacheConfigured = true := by
    intro r path tx hl
    rcases heffect.checks.degraded_from hl with hl | ⟨hcache, -⟩
    · exact h.degraded r path tx hl
    · exact hcache
  cases heffect with
  -- no answer, no entry in the log
  | quiet clock redis fallback buckets _ log =>
    refine ⟨?_, hdegraded, ?_, ?_, ?_, ?_, ?_⟩
    · rw [log]
      exact h.placed
    · rw [log]
      exact h.redis_of_step redis
    · rw [log, fallback]
      exact h.fallback
    · rw [log]
      exact fun e he => (h.past e he).trans clock
    · rw [log, buckets]
      exact h.buckets
    · rw [log]
      exact h.spaced
  | redis path tx configured clock redis fallback buckets _ log =>
    refine h.answered hdegraded clock rfl log (Or.inr ⟨tx, redis⟩) configured ?_ ?_ ?_
      fun l₁ a l₂ hlog => h.spaced_redis path tx hlog
    · -- a transaction that passes has been written
      intro hpassed _
      have hfree : s.live tx = false := by simpa using hpassed
      exact ⟨_, by rw [redis]; exact setNx_self hfree, le_refl _⟩
    · rw [log, fallback]
      exact h.fallback.elsewhere (by simp)
    · intro path'
      rw [log, buckets]
      exact (h.buckets path').elsewhere (by simp)
  -- the fallback is one cache for both paths
  | fallback r path tx found clock redis fallback buckets _ log =>
    refine h.answered hdegraded clock rfl log (Or.inl redis) (h.degraded r path tx found) ?_ ?_
      ?_ fun l₁ a l₂ hlog => h.spaced_fallback path tx hlog
    · intro _ hstore
      exact absurd hstore (by simp)
    · rw [log, fallback]
      exact h.fallback.use rfl (fun _ => trivial) fun _ _ _ _ _ _ => trivial
    · intro path'
      rw [log, buckets]
      exact (h.buckets path').elsewhere (by simp)
  -- without a cache each path has a bucket of its own
  | bucket path tx configured standard other clock redis fallback buckets _ log =>
    refine h.answered hdegraded clock rfl log (Or.inl redis) ⟨configured, standard, rfl, other⟩
      ?_ ?_ ?_ fun l₁ a l₂ hlog => h.spaced_bucket path standard hlog
    · intro _ hstore
      exact absurd hstore (by simp)
    · rw [log, fallback]
      exact h.fallback.elsewhere (by simp)
    · intro path'
      rw [log, buckets]
      by_cases hpath : path' = path
      · subst hpath
        rw [Function.update_self]
        exact h.bucket_kept path' tx
      · rw [Function.update_of_ne hpath]
        exact (h.buckets path').elsewhere (by simpa using Ne.symm hpath)

/-- What one step preserves. -/
theorem replayInv_step (g : Gateway) (s : ReplaySystem) (a : ReplayLabel)
    (h : ReplayInv g s) : ReplayInv g (replayStep g s a) :=
  h.effect (replay_effect g s a)

/-- A run of the replay checks, from a fresh process. -/
def replayRun (g : Gateway) (as : List ReplayLabel) : ReplaySystem :=
  run (replayStep g) .init as

/-- What a run preserves. -/
theorem replayInv_run (g : Gateway) (as : List ReplayLabel) : ReplayInv g (replayRun g as) :=
  run_invariant (replayInv_step g) (replayInv_init g) as

/-! ## Redis answers every check -/

/-- The calls to Redis get their answers. -/
def Answering : ReplayLabel → Prop
  | .askRedis _ reply => reply = .answered
  | _ => True

structure AnsweredInv (s : ReplaySystem) : Prop where
  none_degraded : ∀ r path tx, s.checks.lookup r ≠ some (.degraded path tx)
  no_fallback : ∀ e ∈ s.log, e.store ≠ .fallback

/-- While Redis answers, what one step preserves. -/
theorem answeredInv_step (g : Gateway) (s : ReplaySystem) (a : ReplayLabel)
    (h : AnsweredInv s) (ha : Answering a) : AnsweredInv (replayStep g s a) where
  none_degraded := by
    intro r path tx hl
    rcases (replay_effect g s a).checks.degraded_from hl with hl | ⟨-, reply, hreply, rfl⟩
    · exact h.none_degraded r path tx hl
    · exact hreply ha
  no_fallback := by
    cases replay_effect g s a with
    | quiet _ _ _ _ _ log =>
      rw [log]
      exact h.no_fallback
    | redis path tx _ _ _ _ _ _ log =>
      rw [log, List.forall_mem_append]
      exact ⟨h.no_fallback, by simp⟩
    | fallback r path tx found _ _ _ _ _ _ => exact absurd found (h.none_degraded r path tx)
    | bucket path tx _ _ _ _ _ _ _ _ log =>
      rw [log, List.forall_mem_append]
      exact ⟨h.no_fallback, by simp⟩

/-- So in every run in which it answers. -/
theorem answeredInv_run {g : Gateway} {as : List ReplayLabel} (h : ∀ a ∈ as, Answering a) :
    AnsweredInv (replayRun g as) := by
  refine run_invariant_of_allSteps (answeredInv_step g) ⟨?_, ?_⟩ (allSteps_of_forall h)
  · intro r path tx hl
    exact absurd hl (by simp [ReplaySystem.init])
  · simp [ReplaySystem.init]

/-- With Redis answering, it answers every check. -/
theorem redis_of_answering {g : Gateway} {as : List ReplayLabel}
    (hcache : g.cacheConfigured = true) (h : ∀ a ∈ as, Answering a) :
    ∀ e ∈ (replayRun g as).log, e.store = .redis := by
  intro e he
  have hplaced := (replayInv_run g as).placed e he
  have hfallback := (answeredInv_run h).no_fallback e he
  unfold Placed at hplaced
  cases hstore : e.store with
  | redis => rfl
  | fallback => exact absurd hstore hfallback
  | bucket path =>
    rw [hstore] at hplaced
    exact absurd (hplaced.1.symm.trans hcache) (by simp)

/-! ## The guarantee -/

/-- Within its window, a transaction passes once, whichever record is asked. -/
def OncePerWindow (g : Gateway) (log : List Consultation) : Prop :=
  Between (fun a _ b => a.passed = true → b.passed = true → a.tx = b.tx →
    a.time + g.window a.tx ≤ b.time) log

/-- Whatever the endpoints, the interleaving and the availability of Redis, one record lets a
transaction pass at most once in its window, unless it is an in-memory record and `10000`
others went through it in between. So a transaction passes at most once while Redis answers,
and without Redis at most once for each endpoint's bucket, where a durable nonce and an A2A
payment never pass. -/
theorem replay_once_per_record (g : Gateway) (as : List ReplayLabel) :
    Between (Spaced g) (replayRun g as).log ∧
    (g.cacheConfigured = true → (∀ a ∈ as, Answering a) →
      OncePerWindow g (replayRun g as).log) ∧
    (g.cacheConfigured = true → ∀ e ∈ (replayRun g as).log,
      e.store = .redis ∨ e.store = .fallback) ∧
    (g.cacheConfigured = false → ∀ e ∈ (replayRun g as).log,
      e.store = .bucket e.path ∧ e.path ≠ .a2a ∧ g.usesDurableNonce e.tx = false) := by
  have hinv := replayInv_run g as
  refine ⟨hinv.spaced, ?_, ?_, ?_⟩
  -- two passes of one transaction are two in Redis, where the record lives on
  · intro hcache hanswering l₁ a l₂ b l₃ hlog ha hb htx
    have hredis := redis_of_answering hcache hanswering
    have hastore : a.store = .redis := hredis a (by rw [hlog]; simp)
    have hbstore : b.store = .redis := hredis b (by rw [hlog]; simp)
    by_contra htime
    exact (hinv.spaced l₁ a l₂ b l₃ hlog ha hb (hastore.trans hbstore.symm) htx
      (by omega)).1 hastore
  · intro hcache e he
    have hplaced := hinv.placed e he
    unfold Placed at hplaced
    cases hstore : e.store with
    | redis => exact Or.inl rfl
    | fallback => exact Or.inr rfl
    | bucket path =>
      rw [hstore] at hplaced
      exact absurd (hplaced.1.symm.trans hcache) (by simp)
  -- without a cache only the buckets are asked
  · intro hcache e he
    have hplaced := hinv.placed e he
    unfold Placed at hplaced
    cases hstore : e.store with
    | redis =>
      rw [hstore] at hplaced
      exact absurd (hplaced.symm.trans hcache) (by simp)
    | fallback =>
      rw [hstore] at hplaced
      exact absurd (hplaced.symm.trans hcache) (by simp)
    | bucket path =>
      rw [hstore] at hplaced
      obtain ⟨-, hstandard, rfl, hpath⟩ := hplaced
      exact ⟨rfl, hpath, hstandard⟩

/-- Two endpoints are asked, and Redis answers both checks. -/
theorem replay_once_two_endpoints :
    (∀ a ∈ [ReplayLabel.arrive 0 .chat "tx", .arrive 1 .proxy "tx", .askRedis 1 .answered,
      .askRedis 0 .answered], Answering a) ∧
    OncePerWindow ⟨true, fun _ => false⟩ (replayRun ⟨true, fun _ => false⟩
      [.arrive 0 .chat "tx", .arrive 1 .proxy "tx", .askRedis 1 .answered,
        .askRedis 0 .answered]).log := by
  have hanswering : ∀ a ∈ [ReplayLabel.arrive 0 .chat "tx", .arrive 1 .proxy "tx",
      .askRedis 1 .answered, .askRedis 0 .answered], Answering a := by
    simp [Answering]
  exact ⟨hanswering, (replay_once_per_record _ _).2.1 rfl hanswering⟩

/-- A payment passes at the chat endpoint by Redis, and, while Redis is away, at the proxy. -/
def outageRun : List ReplayLabel :=
  [.arrive 0 .chat "tx", .askRedis 0 .answered, .tick 1000,
    .arrive 1 .proxy "tx", .askRedis 1 .unreachable, .askFallback 1]

/-- Without Redis, a payment passes at two endpoints. -/
def twoEndpointsRun : List ReplayLabel :=
  [.arrive 0 .chat "tx", .askBucket 0, .tick 1000, .arrive 1 .proxy "tx", .askBucket 1]

/-- Across records, a transaction can pass twice within its window. -/
theorem replay_not_once :
    ¬ OncePerWindow ⟨true, fun _ => false⟩ (replayRun ⟨true, fun _ => false⟩ outageRun).log ∧
    ¬ OncePerWindow ⟨false, fun _ => false⟩
      (replayRun ⟨false, fun _ => false⟩ twoEndpointsRun).log := by
  constructor
  · intro h
    have hlog : (replayRun ⟨true, fun _ => false⟩ outageRun).log =
        [⟨.chat, "tx", .redis, true, 0⟩, ⟨.proxy, "tx", .fallback, true, 1000⟩] := by
      decide +kernel
    exact absurd (h [] _ [] _ [] hlog rfl rfl rfl) (by decide)
  · intro h
    have hlog : (replayRun ⟨false, fun _ => false⟩ twoEndpointsRun).log =
        [⟨.chat, "tx", .bucket .chat, true, 0⟩, ⟨.proxy, "tx", .bucket .proxy, true, 1000⟩] := by
      decide +kernel
    exact absurd (h [] _ [] _ [] hlog rfl rfl rfl) (by decide)

end Solvela.Replay
