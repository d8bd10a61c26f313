import Solvela.Lib.Prog
import Solvela.Lib.RoundRobin
import Solvela.Lib.Runs
import Solvela.Lib.Txn
import Solvela.Signer.Deposit

/-!
# The fee payer pool

`FeePayerPool` hands out its wallets in turn and passes over those that were marked as failed
less than a cooldown ago. A call of `next` takes a slot from an atomic counter and then tries one
wallet at a time, each under its own lock, so marks and other calls come in between. A mark whose
cooldown has passed is cleared only by the call that finds it.

The pool is compared with the marks alone: `Available` says of a wallet that its last mark is
none, healthy or old. `next_run` is about every run of calls, marks and the clock.

* `Agrees`, the pool and the marks alone agree on which wallets are available, and `Agrees.exec`;
* `Explains`, every new call returns what its slot and its tries say, and `explains_run`.
-/

namespace Solvela.FeePayer

open Solvela.Lib Solvela.Lib.Txn Solvela.Channel Solvela.Signer

/-- `FeePayerWallet`, without its lock. -/
structure FeePayerWallet where
  keypair : Vector UInt8 64
  pubkeyB58 : String
  index : ℕ
deriving DecidableEq

/-- `FeePayerPool`: `failedAt` has the lock of each wallet. Instants and the cooldown are in
nanoseconds. -/
structure FeePayerPool where
  wallets : List FeePayerWallet
  failedAt : List (Option ℕ)
  counter : ℕ
  cooldown : ℕ
deriving DecidableEq

/-- `FeePayerError`, as far as the pool gives it. -/
inductive FeePayerError
  | empty
  | invalidKey (reason : String)
  | allFailed
deriving DecidableEq

/-! ## Loading keys -/

section Load
variable (bs58Error : String → String) (bs58Encode : List UInt8 → String)

/-- The body of the loop of `from_keys_with_cooldown`. -/
def walletOfKey (i : ℕ) (keyB58 : String) : Except FeePayerError FeePayerWallet :=
  match bs58Decode keyB58 with
  | none => .error (.invalidKey s!"key {i}: {bs58Error keyB58}")
  | some keyBytes =>
    match exactBytes 64 keyBytes with
    | none => .error (.invalidKey s!"key {i}: expected 64 bytes, got {keyBytes.length}")
    | some keypair => .ok ⟨keypair, bs58Encode (publicHalf keypair).toList, i⟩

/-- The loop of `from_keys_with_cooldown`, from key `i` on. -/
def walletsOfKeys : ℕ → List String → Except FeePayerError (List FeePayerWallet)
  | _, [] => .ok []
  | i, key :: keys => do
    let wallet ← walletOfKey bs58Error bs58Encode i key
    let wallets ← walletsOfKeys (i + 1) keys
    .ok (wallet :: wallets)

/-- `from_keys_with_cooldown`. -/
def fromKeysWithCooldown (keys : List String) (cooldown : ℕ) :
    Except FeePayerError FeePayerPool :=
  if keys = [] then .error .empty
  else do
    let wallets ← walletsOfKeys bs58Error bs58Encode 0 keys
    .ok ⟨wallets, List.replicate wallets.length none, 0, cooldown⟩

/-- `DEFAULT_COOLDOWN_SECS`, in nanoseconds. -/
def defaultCooldown : ℕ := 60 * 10 ^ 9

/-- `MAX_KEYS`. -/
def maxKeys : ℕ := 8

/-- `read_env_var`. -/
def readEnvVar (env : String → Option String) (solvelaName rcrName : String) : Option String :=
  env solvelaName <|> env rcrName

/-- The keys that `from_env` collects. -/
def envKeys (env : String → Option String) : List String :=
  let primary := readEnvVar env "SOLVELA_SOLANA__FEE_PAYER_KEY" "RCR_SOLANA__FEE_PAYER_KEY"
  let additional := (List.range' 2 (maxKeys - 1)).map fun i =>
    readEnvVar env s!"SOLVELA_SOLANA__FEE_PAYER_KEY_{i}" s!"RCR_SOLANA__FEE_PAYER_KEY_{i}"
  (primary :: additional).reduceOption.filter (· ≠ "")

/-- `from_env`. -/
def fromEnv (env : String → Option String) : Except FeePayerError FeePayerPool :=
  fromKeysWithCooldown bs58Error bs58Encode (envKeys env) defaultCooldown

variable {bs58Error bs58Encode}

theorem walletsOfKeys_index {keys : List String} {i : ℕ} {wallets : List FeePayerWallet}
    (h : walletsOfKeys bs58Error bs58Encode i keys = .ok wallets) :
    wallets.length = keys.length ∧
      ∀ (j : ℕ) (w : FeePayerWallet), wallets[j]? = some w → w.index = i + j := by
  induction keys generalizing i wallets with
  | nil =>
    obtain rfl : [] = wallets := Except.ok.inj h
    exact ⟨rfl, fun j w hw => by simp at hw⟩
  | cons key keys ih =>
    obtain ⟨wallet, hwallet, h⟩ := except_bind_ok.1 h
    obtain ⟨rest, hrest, h⟩ := except_bind_ok.1 h
    obtain rfl : wallet :: rest = wallets := Except.ok.inj h
    obtain ⟨hlength, hindex⟩ := ih hrest
    refine ⟨by rw [List.length_cons, List.length_cons, hlength], ?_⟩
    intro j w hw
    cases j with
    | zero =>
      obtain rfl : wallet = w := by simpa using hw
      rw [walletOfKey] at hwallet
      split at hwallet
      · simp at hwallet
      split at hwallet
      · simp at hwallet
      · rw [← Except.ok.inj hwallet]
        rfl
    | succ j =>
      rw [hindex j w (by simpa using hw)]
      omega

/-- A wallet's index is its position. -/
def Indexed (wallets : List FeePayerWallet) : Prop :=
  ∀ (i : ℕ) (w : FeePayerWallet), wallets[i]? = some w → w.index = i

/-- A new pool has a healthy wallet for each key, under the key's position. -/
theorem fromKeysWithCooldown_ok {keys : List String} {cooldown : ℕ} {pool : FeePayerPool}
    (h : fromKeysWithCooldown bs58Error bs58Encode keys cooldown = .ok pool) :
    pool.wallets.length = keys.length ∧ keys ≠ [] ∧ Indexed pool.wallets ∧
      pool.failedAt = List.replicate pool.wallets.length none ∧ pool.counter = 0 ∧
      pool.cooldown = cooldown := by
  rw [fromKeysWithCooldown] at h
  by_cases hempty : keys = []
  · rw [if_pos hempty] at h
    cases h
  rw [if_neg hempty] at h
  obtain ⟨wallets, hwallets, h⟩ := except_bind_ok.1 h
  obtain rfl := Except.ok.inj h
  obtain ⟨hlength, hindex⟩ := walletsOfKeys_index hwallets
  refine ⟨hlength, hempty, ?_, rfl, rfl, rfl⟩
  intro i w hw
  rw [hindex i w hw]
  omega

end Load

/-! ## Selection -/

/-- An atomic step of `next`: to take a slot, or to try a wallet under its lock. -/
inductive PoolCmd
  | fetchAdd
  | tryWallet (idx : ℕ)

/-- What the commands answer. -/
abbrev PoolReply : PoolCmd → Type
  | .fetchAdd => ℕ
  | .tryWallet _ => Bool

abbrev PoolProg := Prog PoolCmd PoolReply

/-- The loop of `next`: the sum is one of `usize`. -/
def scan (wallets : List FeePayerWallet) (h : 0 < wallets.length) (start : ℕ) :
    List ℕ → PoolProg (Except FeePayerError FeePayerWallet)
  | [] => .done (.error .allFailed)
  | offset :: offsets => do
    let idx := (start + offset) % 2 ^ 64 % wallets.length
    if ← Prog.ask (.tryWallet idx) then .done (.ok (wallets.get ⟨idx, Nat.mod_lt _ h⟩))
    else scan wallets h start offsets

/-- `FeePayerPool::next`. -/
def next (wallets : List FeePayerWallet) : PoolProg (Except FeePayerError FeePayerWallet) :=
  if h : 0 < wallets.length then do
    let start ← Prog.ask .fetchAdd
    scan wallets h start (List.range wallets.length)
  else .done (.error .allFailed)

/-- A step of `next` at the instant `now`. -/
def FeePayerPool.exec (pool : FeePayerPool) (now : ℕ) : (c : PoolCmd) → PoolReply c × FeePayerPool
  | .fetchAdd => (pool.counter, { pool with counter := (pool.counter + 1) % 2 ^ 64 })
  | .tryWallet idx =>
    match pool.failedAt[idx]? with
    | some (some failedTime) =>
      if now - failedTime ≥ pool.cooldown then
        (true, { pool with failedAt := pool.failedAt.set idx none })
      else (false, pool)
    | _ => (true, pool)

/-- `mark_failed`. -/
def FeePayerPool.markFailed (pool : FeePayerPool) (now index : ℕ) : FeePayerPool :=
  { pool with failedAt := pool.failedAt.set index (some now) }

/-- `mark_healthy`. -/
def FeePayerPool.markHealthy (pool : FeePayerPool) (index : ℕ) : FeePayerPool :=
  { pool with failedAt := pool.failedAt.set index none }

/-! ## Runs -/

/-- The pool, the clock and the calls of `next` that have begun. `marks` has the marks in their
order, with the instant of each failure. -/
structure PoolState where
  pool : FeePayerPool
  clock : ℕ
  calls : List (PoolProg (Except FeePayerError FeePayerWallet))
  marks : List (ℕ × Option ℕ)

/-- What happens next: a call begins or goes on, a wallet is marked, or time passes. -/
inductive PoolStep
  | begin
  | go (call : ℕ)
  | markFailed (index : ℕ)
  | markHealthy (index : ℕ)
  | tick (nanos : ℕ)

/-- One step. A call that has returned does nothing. -/
def poolStep (s : PoolState) : PoolStep → PoolState
  | .begin => { s with calls := s.calls ++ [next s.pool.wallets] }
  | .go call =>
    match s.calls[call]? with
    | some (.call c rest) =>
      { s with
        pool := (s.pool.exec s.clock c).2
        calls := s.calls.set call (rest (s.pool.exec s.clock c).1) }
    | _ => s
  | .markFailed index =>
    { s with
      pool := s.pool.markFailed s.clock index
      marks := s.marks ++ [(index, some s.clock)] }
  | .markHealthy index =>
    { s with pool := s.pool.markHealthy index, marks := s.marks ++ [(index, none)] }
  | .tick nanos => { s with clock := s.clock + nanos }

/-- A pool before its first call. -/
def PoolState.new (pool : FeePayerPool) (clock : ℕ) : PoolState := ⟨pool, clock, [], []⟩

/-- The instant of a wallet's failure, if its last mark is one. -/
def lastFailure (marks : List (ℕ × Option ℕ)) : ℕ → Option ℕ :=
  marks.foldl (fun f mark => Function.update f mark.1 mark.2) fun _ => none

/-- By its last mark the wallet is not in its cooldown. -/
def Available (s : PoolState) (idx : ℕ) : Prop :=
  ∀ t, lastFailure s.marks idx = some t → t + s.pool.cooldown ≤ s.clock

instance (s : PoolState) (idx : ℕ) : Decidable (Available s idx) :=
  match h : lastFailure s.marks idx with
  | none => .isTrue fun t ht => by rw [h] at ht; cases ht
  | some t =>
    decidable_of_iff (t + s.pool.cooldown ≤ s.clock)
      ⟨fun hle t' ht => by rw [h] at ht; cases ht; exact hle, fun hall => hall t h⟩

/-- The call has begun and not returned. -/
def Running (s : PoolState) (call : ℕ) : Prop := ∃ c rest, s.calls[call]? = some (.call c rest)

/-- The next step of the call is to try the wallet. -/
def Trying (s : PoolState) (call idx : ℕ) : Prop :=
  ∃ rest, s.calls[call]? = some (.call (.tryWallet idx) rest)

/-! ## The pool and the marks -/

theorem lastFailure_append (marks : List (ℕ × Option ℕ)) (index : ℕ) (at' : Option ℕ) (idx : ℕ) :
    lastFailure (marks ++ [(index, at')]) idx =
      if idx = index then at' else lastFailure marks idx := by
  rw [lastFailure, List.foldl_append]
  exact Function.update_apply _ _ _ _

/-- The pool knows the last failure of each wallet, or has found it over. -/
structure Agrees (wallets : List FeePayerWallet) (cooldown : ℕ) (s : PoolState) : Prop where
  sameWallets : s.pool.wallets = wallets
  sameCooldown : s.pool.cooldown = cooldown
  failedAt : ∀ idx < wallets.length, ∃ f, s.pool.failedAt[idx]? = some f ∧
    (f = lastFailure s.marks idx ∨ f = none ∧ Available s idx)
  past : ∀ idx t, lastFailure s.marks idx = some t → t ≤ s.clock

variable {wallets : List FeePayerWallet} {cooldown : ℕ} {s : PoolState}

/-- A call that tries a wallet learns whether it is available. -/
theorem Agrees.tryWallet (h : Agrees wallets cooldown s) {idx : ℕ} (hidx : idx < wallets.length) :
    (s.pool.exec s.clock (.tryWallet idx)).1 = true ↔ Available s idx := by
  obtain ⟨f, hf, hlast⟩ := h.failedAt idx hidx
  cases f with
  | none =>
    have havailable : Available s idx := by
      rcases hlast with hlast | ⟨-, havailable⟩
      · intro t ht
        rw [← hlast] at ht
        cases ht
      · exact havailable
    simp [FeePayerPool.exec, hf, havailable]
  | some failedTime =>
    -- what the pool holds is the last mark
    have hmark : lastFailure s.marks idx = some failedTime := by
      rcases hlast with hlast | ⟨hnone, -⟩
      · exact hlast.symm
      · cases hnone
    have hpast := h.past idx failedTime hmark
    have havailable : Available s idx ↔ s.clock - failedTime ≥ s.pool.cooldown := by
      constructor
      · intro havailable
        have := havailable failedTime hmark
        omega
      · intro hover t ht
        obtain rfl : failedTime = t := Option.some.inj (hmark.symm.trans ht)
        omega
    simp only [FeePayerPool.exec, hf]
    rw [havailable]
    split <;> simp [*]

theorem Agrees.new {pool : FeePayerPool} {clock : ℕ}
    (h : pool.failedAt = List.replicate pool.wallets.length none) :
    Agrees pool.wallets pool.cooldown (.new pool clock) where
  sameWallets := rfl
  sameCooldown := rfl
  failedAt idx hidx := by
    refine ⟨none, ?_, Or.inl rfl⟩
    show pool.failedAt[idx]? = some none
    rw [h, List.getElem?_replicate, if_pos hidx]
  past idx t ht := by cases ht

/-- A mark replaces what the pool knows of its wallet. -/
theorem Agrees.mark (h : Agrees wallets cooldown s) {index : ℕ} {at' : Option ℕ}
    (hpast : ∀ t, at' = some t → t ≤ s.clock) :
    Agrees wallets cooldown { s with
      pool := { s.pool with failedAt := s.pool.failedAt.set index at' }
      marks := s.marks ++ [(index, at')] } where
  sameWallets := h.sameWallets
  sameCooldown := h.sameCooldown
  failedAt idx hidx := by
    obtain ⟨f, hf, hlast⟩ := h.failedAt idx hidx
    simp only [Available, lastFailure_append]
    by_cases heq : idx = index
    · refine ⟨at', ?_, Or.inl (if_pos heq).symm⟩
      rw [heq, List.getElem?_set_self]
      rw [← heq]
      exact (List.getElem?_eq_some_iff.1 hf).1
    · refine ⟨f, ?_, ?_⟩
      · rw [List.getElem?_set_ne (Ne.symm heq)]
        exact hf
      · simp only [if_neg heq]
        exact hlast
  past idx t ht := by
    simp only [lastFailure_append] at ht
    split at ht
    · exact hpast t ht
    · exact h.past idx t ht

/-- A step of a call changes what the pool knows only of an available wallet. -/
theorem Agrees.exec (h : Agrees wallets cooldown s) (c : PoolCmd)
    (calls : List (PoolProg (Except FeePayerError FeePayerWallet))) :
    Agrees wallets cooldown { s with pool := (s.pool.exec s.clock c).2, calls := calls } := by
  cases c with
  | fetchAdd => exact ⟨h.sameWallets, h.sameCooldown, h.failedAt, h.past⟩
  | tryWallet idx =>
    have htry : idx < wallets.length →
        ((s.pool.exec s.clock (.tryWallet idx)).1 = true ↔ Available s idx) := h.tryWallet
    simp only [FeePayerPool.exec] at htry ⊢
    split
    next failedTime hf =>
      rw [hf] at htry
      simp only at htry
      by_cases hover : s.clock - failedTime ≥ s.pool.cooldown
      · rw [if_pos hover]
        simp only [if_pos hover] at htry
        refine ⟨h.sameWallets, h.sameCooldown, ?_, h.past⟩
        intro idx' hidx'
        obtain ⟨f, hf', hlast⟩ := h.failedAt idx' hidx'
        by_cases heq : idx' = idx
        -- the mark is cleared, and its cooldown was over
        · refine ⟨none, ?_, Or.inr ⟨rfl, ?_⟩⟩
          · show (s.pool.failedAt.set idx none)[idx']? = some none
            rw [heq, List.getElem?_set_self]
            exact (List.getElem?_eq_some_iff.1 hf).1
          · rw [heq]
            exact (htry (heq ▸ hidx')).1 trivial
        · refine ⟨f, ?_, hlast⟩
          show (s.pool.failedAt.set idx none)[idx']? = some f
          rw [List.getElem?_set_ne (Ne.symm heq)]
          exact hf'
      · rw [if_neg hover]
        exact ⟨h.sameWallets, h.sameCooldown, h.failedAt, h.past⟩
    next => exact ⟨h.sameWallets, h.sameCooldown, h.failedAt, h.past⟩

theorem Agrees.step (h : Agrees wallets cooldown s) (a : PoolStep) :
    Agrees wallets cooldown (poolStep s a) := by
  cases a with
  | begin => exact ⟨h.sameWallets, h.sameCooldown, h.failedAt, h.past⟩
  | go call =>
    simp only [poolStep]
    split
    next c rest _ => exact h.exec c _
    next => exact h
  | markFailed index =>
    apply h.mark
    intro t ht
    exact (Option.some.inj ht).ge
  | markHealthy index =>
    apply h.mark
    intro t ht
    cases ht
  -- what is over stays over
  | tick nanos =>
    refine ⟨h.sameWallets, h.sameCooldown, ?_, ?_⟩
    · intro idx hidx
      obtain ⟨f, hf, hlast⟩ := h.failedAt idx hidx
      refine ⟨f, hf, hlast.imp_right fun hover => ⟨hover.1, ?_⟩⟩
      intro t ht
      have := hover.2 t ht
      show t + s.pool.cooldown ≤ s.clock + nanos
      omega
    · intro idx t ht
      have := h.past idx t ht
      show t ≤ s.clock + nanos
      omega

/-! ## What a call has seen -/

/-- The slot that a call has taken and what its tries have answered. -/
structure Seen where
  slot : Option ℕ
  tries : List (ℕ × Bool)

/-- A call learns from the replies. Its slot leaves room for a round of `n` wallets. -/
def learns (n : ℕ) : Prog.Ghost PoolCmd PoolReply Seen where
  move seen
    | .fetchAdd, start => { seen with slot := some start }
    | .tryWallet idx, available => { seen with tries := (idx, available) :: seen.tries }
  can _
    | .fetchAdd, start => start + n ≤ 2 ^ 64
    | .tryWallet _, _ => True

/-- A call takes one slot and tries the wallets of its pool. -/
def Sends (wallets : List FeePayerWallet) (seen : Seen) : PoolCmd → Prop
  | .fetchAdd => seen.slot = none
  | .tryWallet idx => idx < wallets.length

/-- The result is the first wallet of the slot's round that was available when the call tried
it, or none of them was. -/
def Saw (wallets : List FeePayerWallet) (seen : Seen) : Except FeePayerError FeePayerWallet → Prop
  | .ok w => wallets[w.index]? = some w ∧ (w.index, true) ∈ seen.tries ∧
      ∃ start passed rest, seen.slot = some start ∧
        roundFrom wallets.length start = passed ++ w.index :: rest ∧
        ∀ j ∈ passed, (j, false) ∈ seen.tries
  | .error e => e = .allFailed ∧ (0 < wallets.length → ∃ start, seen.slot = some start) ∧
      ∀ idx < wallets.length, (idx, false) ∈ seen.tries

theorem scan_meets (hindexed : Indexed wallets) (h : 0 < wallets.length) {start : ℕ}
    (hstart : start + wallets.length ≤ 2 ^ 64) {passed offsets : List ℕ}
    (hround : roundFrom wallets.length start =
      passed ++ offsets.map fun offset => (start + offset) % wallets.length)
    (hoffsets : ∀ offset ∈ offsets, offset < wallets.length) {seen : Seen}
    (hslot : seen.slot = some start) (hpassed : ∀ j ∈ passed, (j, false) ∈ seen.tries) :
    Prog.Meets (learns wallets.length) (Sends wallets) (Saw wallets) seen
      (scan wallets h start offsets) := by
  -- on the offsets that are left of the round
  induction offsets generalizing passed seen with
  | nil =>
    refine ⟨rfl, fun _ => ⟨start, hslot⟩, fun idx hidx => hpassed idx ?_⟩
    rw [List.map_nil, List.append_nil] at hround
    rw [← hround]
    exact mem_roundFrom.2 hidx
  | cons offset offsets ih =>
    have hoffset := hoffsets offset (List.mem_cons_self ..)
    have hsum : (start + offset) % 2 ^ 64 = start + offset := Nat.mod_eq_of_lt (by omega)
    refine ⟨Nat.mod_lt _ h, ?_⟩
    rintro (_ | _) -
    · -- passed over: the rest of the round begins at the next offset
      have hround' : roundFrom wallets.length start =
          passed ++ [(start + offset) % wallets.length] ++
            offsets.map fun o => (start + o) % wallets.length := by
        rw [hround, List.map_cons, List.append_assoc]
        rfl
      apply ih hround'
      · exact fun o ho => hoffsets o (List.mem_cons_of_mem _ ho)
      · exact hslot
      · intro j hj
        show (j, false) ∈ ((start + offset) % 2 ^ 64 % wallets.length, false) :: seen.tries
        rw [hsum]
        rcases List.mem_append.1 hj with hj | hj
        · exact List.mem_cons_of_mem _ (hpassed j hj)
        · rw [List.mem_singleton.1 hj]
          exact List.mem_cons_self ..
    -- available: this is the wallet that is returned
    · have hget : wallets[(start + offset) % 2 ^ 64 % wallets.length]? =
          some (wallets.get ⟨(start + offset) % 2 ^ 64 % wallets.length, Nat.mod_lt _ h⟩) :=
        List.getElem?_eq_getElem _
      have hindex := hindexed _ _ hget
      refine ⟨by rw [hindex]; exact hget, by rw [hindex]; exact List.mem_cons_self .., ?_⟩
      refine ⟨start, passed, offsets.map fun o => (start + o) % wallets.length, hslot, ?_, ?_⟩
      · rw [hindex, hsum]
        exact hround
      · exact fun j hj => List.mem_cons_of_mem _ (hpassed j hj)

theorem next_meets (hindexed : Indexed wallets) :
    Prog.Meets (learns wallets.length) (Sends wallets) (Saw wallets) ⟨none, []⟩
      (next wallets) := by
  rw [next]
  split
  next h =>
    refine ⟨rfl, fun start hstart => ?_⟩
    have hround : roundFrom wallets.length start =
        [] ++ (List.range wallets.length).map fun offset => (start + offset) % wallets.length := rfl
    apply scan_meets hindexed h hstart hround
    · exact fun offset hoffset => List.mem_range.1 hoffset
    · rfl
    · exact fun j hj => absurd hj (by simp)
  next h =>
    exact ⟨rfl, fun hpos => absurd hpos h, fun idx hidx => absurd (Nat.zero_lt_of_lt hidx) h⟩

/-! ## Every run -/

/-- In the run the call has tried the wallet in a state that `P` holds of. -/
def Tried (s₀ : PoolState) (as : List PoolStep) (call idx : ℕ) (P : PoolState → Prop) : Prop :=
  ∃ before after, as = before ++ .go call :: after ∧ Trying (run poolStep s₀ before) call idx ∧
    P (run poolStep s₀ before)

theorem Tried.append {s₀ : PoolState} {as : List PoolStep} {call idx : ℕ} {P : PoolState → Prop}
    (h : Tried s₀ as call idx P) (a : PoolStep) : Tried s₀ (as ++ [a]) call idx P := by
  obtain ⟨before, after, rfl, htry, hP⟩ := h
  exact ⟨before, after ++ [a], by simp, htry, hP⟩

/-- What a call has seen of a wallet was so when it tried that wallet. -/
def Witnessed (s₀ : PoolState) (as : List PoolStep) (call : ℕ) (seen : Seen) : Prop :=
  ∀ idx available, (idx, available) ∈ seen.tries →
    Tried s₀ as call idx fun s => Available s idx ↔ available = true

/-- Every call has returned. -/
def AllReturned (s : PoolState) : Prop := ∀ p ∈ s.calls, ∃ result, p = .done result

/-- A run from a state in which all calls had returned, as long as the slots do not run out: each
slot that it takes belongs to one new call, and every new call meets the specification of `next`
with what it has seen. -/
structure Explains (s₀ : PoolState) (as : List PoolStep) (s : PoolState) (seen : List Seen) :
    Prop where
  length : s.calls.length = s₀.calls.length + seen.length
  old : ∀ call < s₀.calls.length, ¬ Running s call
  counter : s.pool.counter = s₀.pool.counter + (seen.filterMap Seen.slot).length
  slots : (seen.filterMap Seen.slot).Perm
    (List.range' s₀.pool.counter (seen.filterMap Seen.slot).length)
  calls : ∀ (i : ℕ) p (g : Seen), s.calls[s₀.calls.length + i]? = some p → seen[i]? = some g →
    Witnessed s₀ as (s₀.calls.length + i) g ∧
      Prog.Meets (learns s₀.pool.wallets.length) (Sends s₀.pool.wallets) (Saw s₀.pool.wallets) g p

/-- What one entry of a list contributes is replaced when it changes. -/
theorem filterMap_set_perm {α β : Type} (f : α → Option β) {l : List α} {i : ℕ} {a : α}
    (h : l[i]? = some a) (b : α) :
    ((f a).toList ++ (l.set i b).filterMap f).Perm ((f b).toList ++ l.filterMap f) := by
  have hcons : ∀ d (l : List α), (d :: l).filterMap f = (f d).toList ++ l.filterMap f := by
    intro d l
    cases hd : f d <;> simp [hd]
  induction l generalizing i with
  | nil => simp at h
  | cons c l ih =>
    cases i with
    | zero =>
      obtain rfl : c = a := by simpa using h
      rw [List.set_cons_zero, hcons, hcons]
      exact List.perm_append_comm_assoc ..
    | succ i =>
      rw [List.set_cons_succ, hcons, hcons]
      have hrest := (ih (i := i) (by simpa using h)).append_left (f c).toList
      exact ((List.perm_append_comm_assoc ..).trans hrest).trans (List.perm_append_comm_assoc ..)

section Steps
variable {s₀ : PoolState} {as : List PoolStep} {seen : List Seen}

theorem AllReturned.not_running (h : AllReturned s) (call : ℕ) : ¬ Running s call := by
  rintro ⟨c, rest, hc⟩
  obtain ⟨result, hresult⟩ := h _ (List.mem_of_getElem? hc)
  cases hresult

theorem Explains.nil (h : AllReturned s) : Explains s [] s [] where
  length := rfl
  old call _ := h.not_running call
  counter := rfl
  slots := List.Perm.nil
  calls i p g _ hg := absurd hg (by simp)

theorem Explains.begin (h : Explains s₀ as s seen) (hindexed : Indexed s₀.pool.wallets)
    (hwallets : s.pool.wallets = s₀.pool.wallets) :
    Explains s₀ (as ++ [.begin]) (poolStep s .begin) (seen ++ [⟨none, []⟩]) := by
  have hcalls : (poolStep s .begin).calls = s.calls ++ [next s.pool.wallets] := rfl
  have hslots : (seen ++ [(⟨none, []⟩ : Seen)]).filterMap Seen.slot =
      seen.filterMap Seen.slot := by
    rw [List.filterMap_append]
    exact List.append_nil _
  constructor
  · rw [hcalls, List.length_append, List.length_append, h.length]
    exact Nat.add_assoc ..
  · rintro call hcall ⟨c, rest, hc⟩
    refine h.old call hcall ⟨c, rest, ?_⟩
    rw [hcalls, List.getElem?_append_left (by rw [h.length]; omega)] at hc
    exact hc
  · rw [hslots]
    exact h.counter
  · rw [hslots]
    exact h.slots
  · intro i p g hp hg
    rw [hcalls] at hp
    have hlt := (List.getElem?_eq_some_iff.1 hg).1
    rw [List.length_append, List.length_singleton] at hlt
    -- an old call knows what it knew, the new one nothing
    rcases Nat.lt_succ_iff_lt_or_eq.1 hlt with hold | rfl
    · rw [List.getElem?_append_left (by rw [h.length]; omega)] at hp
      rw [List.getElem?_append_left hold] at hg
      obtain ⟨hseen, hmeets⟩ := h.calls i p g hp hg
      exact ⟨fun idx available hin => (hseen idx available hin).append _, hmeets⟩
    · have hp' : next s.pool.wallets = p := by
        rw [← h.length] at hp
        simpa using hp
      have hg' : (⟨none, []⟩ : Seen) = g := by simpa using hg
      rw [← hp', ← hg', hwallets]
      exact ⟨fun idx available hin => absurd hin (by simp), next_meets hindexed⟩

/-- A step that leaves the counter and the calls as they are. -/
theorem Explains.other (h : Explains s₀ as s seen) {a : PoolStep}
    (hcounter : (poolStep s a).pool.counter = s.pool.counter)
    (hcalls : (poolStep s a).calls = s.calls) :
    Explains s₀ (as ++ [a]) (poolStep s a) seen where
  length := by rw [hcalls, h.length]
  old call hcall hrun := by
    rw [Running, hcalls] at hrun
    exact h.old call hcall hrun
  counter := by rw [hcounter, h.counter]
  slots := h.slots
  calls i p g hp hg := by
    rw [hcalls] at hp
    obtain ⟨hseen, hmeets⟩ := h.calls i p g hp hg
    exact ⟨fun idx available hin => (hseen idx available hin).append _, hmeets⟩

theorem Explains.go (h : Explains s₀ as s seen)
    (hagrees : Agrees s₀.pool.wallets s₀.pool.cooldown s)
    (hrun : s = run poolStep s₀ as) (hpos : 0 < s₀.pool.wallets.length)
    (hroom : s₀.pool.counter + seen.length + s₀.pool.wallets.length ≤ 2 ^ 64) (call : ℕ) :
    ∃ seen', Explains s₀ (as ++ [.go call]) (poolStep s (.go call)) seen' := by
  by_cases hgo : Running s call
  case neg =>
    -- a call that has returned does nothing
    refine ⟨seen, h.other ?_ ?_⟩ <;>
    · simp only [poolStep]
      split
      next c rest hc => exact absurd ⟨c, rest, hc⟩ hgo
      next => rfl
  -- only the new calls are explained, the old ones have ended
  obtain ⟨i, rfl⟩ : ∃ i, call = s₀.calls.length + i := by
    refine ⟨call - s₀.calls.length, ?_⟩
    have : ¬ call < s₀.calls.length := fun hold => h.old call hold hgo
    omega
  obtain ⟨c, rest, hc⟩ := hgo
  have hlt := (List.getElem?_eq_some_iff.1 hc).1
  have hlt' : i < seen.length := by
    rw [h.length] at hlt
    omega
  have hg : seen[i]? = some seen[i] := List.getElem?_eq_getElem hlt'
  obtain ⟨hseen, hsends, hrest⟩ := h.calls i _ _ hc hg
  have hstep : poolStep s (.go (s₀.calls.length + i)) = { s with
      pool := (s.pool.exec s.clock c).2
      calls := s.calls.set (s₀.calls.length + i) (rest (s.pool.exec s.clock c).1) } := by
    simp only [poolStep, hc]
  have hslots := List.length_filterMap_le Seen.slot seen
  have hcounter := h.counter
  -- the counter does not wrap: there is room for one slot more for every call
  have hcan : (learns s₀.pool.wallets.length).can seen[i] c (s.pool.exec s.clock c).1 := by
    cases c with
    | fetchAdd =>
      show s.pool.counter + s₀.pool.wallets.length ≤ 2 ^ 64
      omega
    | tryWallet idx => trivial
  have hperm := filterMap_set_perm Seen.slot hg
    ((learns s₀.pool.wallets.length).move seen[i] c (s.pool.exec s.clock c).1)
  refine ⟨seen.set i ((learns s₀.pool.wallets.length).move seen[i] c
    (s.pool.exec s.clock c).1), ?_⟩
  rw [hstep]
  constructor
  -- a step begins no call
  · simp [h.length]
  · rintro call hcall ⟨c', rest', hc'⟩
    refine h.old call hcall ⟨c', rest', ?_⟩
    rw [List.getElem?_set_ne (by omega)] at hc'
    exact hc'
  -- the counter counts the slots that were taken
  · cases c with
    | fetchAdd =>
      rw [show seen[i].slot = none from hsends] at hperm
      have hlength : (List.filterMap Seen.slot _).length = _ := hperm.length_eq
      have hle := List.length_filterMap_le Seen.slot (seen.set i
        ((learns s₀.pool.wallets.length).move seen[i] .fetchAdd
          (s.pool.exec s.clock .fetchAdd).1))
      rw [hlength, List.length_set] at hle
      rw [hlength]
      show (s.pool.counter + 1) % 2 ^ 64 =
        s₀.pool.counter + ((seen.filterMap Seen.slot).length + 1)
      have hle' : (seen.filterMap Seen.slot).length + 1 ≤ seen.length := hle
      rw [Nat.mod_eq_of_lt (by omega), hcounter, Nat.add_assoc]
    | tryWallet idx =>
      have hsame : (s.pool.exec s.clock (.tryWallet idx)).2.counter = s.pool.counter := by
        simp only [FeePayerPool.exec]
        split
        · split <;> rfl
        · rfl
      show (s.pool.exec s.clock (.tryWallet idx)).2.counter = _
      rw [hsame, hcounter, ((List.perm_append_left_iff _).1 hperm).length_eq]
  -- the slots taken are the numbers up to the counter
  · cases c with
    | fetchAdd =>
      rw [show seen[i].slot = none from hsends] at hperm
      have hlength : (List.filterMap Seen.slot _).length = _ := hperm.length_eq
      have hall := hperm.trans (h.slots.cons s.pool.counter)
      rw [hlength]
      show List.Perm _ (List.range' s₀.pool.counter ((seen.filterMap Seen.slot).length + 1))
      rw [List.range'_concat, Nat.one_mul, ← hcounter]
      exact hall.trans (List.perm_append_singleton ..).symm
    | tryWallet idx =>
      have hsame := (List.perm_append_left_iff _).1 hperm
      rw [hsame.length_eq]
      exact hsame.trans h.slots
  -- the call that stepped knows one reply more, the others are as they were
  · intro j p g' hp hg'
    by_cases heq : j = i
    · subst heq
      obtain rfl : rest (s.pool.exec s.clock c).1 = p := by
        simpa [List.getElem?_set_self hlt] using hp
      obtain rfl : (learns s₀.pool.wallets.length).move seen[j] c
          (s.pool.exec s.clock c).1 = g' := by
        simpa [List.getElem?_set_self hlt'] using hg'
      refine ⟨?_, hrest _ hcan⟩
      intro idx available hin
      have hold : (idx, available) ∈ seen[j].tries →
          Tried s₀ (as ++ [.go (s₀.calls.length + j)]) (s₀.calls.length + j) idx
            fun s => Available s idx ↔ available = true :=
        fun hin => (hseen idx available hin).append _
      cases c with
      | fetchAdd => exact hold hin
      | tryWallet idx' =>
        rcases List.mem_cons.1 hin with hnew | hin
        · obtain ⟨rfl, rfl⟩ := Prod.mk.inj hnew
          refine ⟨as, [], rfl, ?_, ?_⟩
          · rw [← hrun]
            exact ⟨rest, hc⟩
          · rw [← hrun]
            exact (hagrees.tryWallet hsends).symm
        · exact hold hin
    · rw [List.getElem?_set_ne (by omega)] at hp hg'
      obtain ⟨hseen', hmeets⟩ := h.calls j p g' hp hg'
      exact ⟨fun idx available hin => (hseen' idx available hin).append _, hmeets⟩

end Steps

theorem calls_length_le (s : PoolState) (a : PoolStep) :
    s.calls.length ≤ (poolStep s a).calls.length := by
  cases a with
  | begin => simp [poolStep]
  | go call =>
    simp only [poolStep]
    split <;> simp
  | _ => exact Nat.le_refl _

/-- Every run explains its new calls, as long as the slots do not run out. -/
theorem explains_run {s₀ : PoolState} (hagrees : Agrees s₀.pool.wallets s₀.pool.cooldown s₀)
    (hreturned : AllReturned s₀) (hpos : 0 < s₀.pool.wallets.length)
    (hindexed : Indexed s₀.pool.wallets) (as : List PoolStep)
    (hroom : s₀.pool.counter + (run poolStep s₀ as).calls.length + s₀.pool.wallets.length ≤
      2 ^ 64 + s₀.calls.length) :
    ∃ seen, Explains s₀ as (run poolStep s₀ as) seen := by
  have hagrees : ∀ bs, Agrees s₀.pool.wallets s₀.pool.cooldown (run poolStep s₀ bs) :=
    run_invariant (fun s a h => h.step a) hagrees
  revert hroom
  refine run_history (H := fun bs s => s = run poolStep s₀ bs →
    s₀.pool.counter + s.calls.length + s₀.pool.wallets.length ≤ 2 ^ 64 + s₀.calls.length →
      ∃ seen, Explains s₀ bs s seen) ?_ ?_ as rfl
  · intro _ _
    exact ⟨[], .nil hreturned⟩
  · intro bs a ih _ hroom
    have hle := calls_length_le (run poolStep s₀ bs) a
    obtain ⟨seen, h⟩ := ih rfl (by omega)
    have hlength := h.length
    cases a with
    | begin => exact ⟨_, h.begin hindexed (hagrees bs).sameWallets⟩
    | go call => exact h.go (hagrees bs) rfl hpos (by omega) call
    | _ => exact ⟨seen, h.other rfl rfl⟩

/-- A new pool, and what a run of it explains. -/
theorem explains_new {bs58Error : String → String} {bs58Encode : List UInt8 → String}
    {keys : List String} {cooldown : ℕ} {pool : FeePayerPool}
    (hpool : fromKeysWithCooldown bs58Error bs58Encode keys cooldown = .ok pool) (clock : ℕ)
    {as : List PoolStep}
    (hroom : (run poolStep (.new pool clock) as).calls.length + pool.wallets.length ≤ 2 ^ 64) :
    0 < pool.wallets.length ∧ Indexed pool.wallets ∧
      Agrees pool.wallets pool.cooldown (run poolStep (.new pool clock) as) ∧
      ∃ seen, Explains (.new pool clock) as (run poolStep (.new pool clock) as) seen := by
  obtain ⟨hlength, hkeys, hindexed, hnew, hcounter, -⟩ := fromKeysWithCooldown_ok hpool
  have hpos : 0 < pool.wallets.length := by
    rw [hlength]
    exact List.length_pos_iff.2 hkeys
  have hagrees : Agrees pool.wallets pool.cooldown (.new pool clock) := .new hnew
  refine ⟨hpos, hindexed, run_invariant (fun s a h => h.step a) hagrees as, ?_⟩
  apply explains_run hagrees (fun p hp => absurd hp (by simp [PoolState.new])) hpos hindexed
  show pool.counter + _ + pool.wallets.length ≤ 2 ^ 64 + 0
  omega

/-- Why a call returns what it does: the wallet was available when the call tried it, or each
wallet of the pool was in its cooldown when the call tried that one. -/
def Explained (s₀ : PoolState) (as : List PoolStep) (call : ℕ) :
    Except FeePayerError FeePayerWallet → Prop
  | .ok w => s₀.pool.wallets[w.index]? = some w ∧ Tried s₀ as call w.index (Available · w.index)
  | .error e => e = .allFailed ∧
      ∀ idx < s₀.pool.wallets.length, Tried s₀ as call idx (¬ Available · idx)

theorem Tried.mono {s₀ : PoolState} {as : List PoolStep} {call idx : ℕ} {P Q : PoolState → Prop}
    (h : Tried s₀ as call idx P) (hPQ : ∀ s, P s → Q s) : Tried s₀ as call idx Q := by
  obtain ⟨before, after, hsplit, htry, hP⟩ := h
  exact ⟨before, after, hsplit, htry, hPQ _ hP⟩

/-- In every run of calls, marks and the clock, every call that has returned is explained by the
marks. -/
theorem next_explained {bs58Error : String → String} {bs58Encode : List UInt8 → String}
    {keys : List String} {cooldown : ℕ} {pool : FeePayerPool}
    (hpool : fromKeysWithCooldown bs58Error bs58Encode keys cooldown = .ok pool) (clock : ℕ)
    (as : List PoolStep)
    (hroom : (run poolStep (.new pool clock) as).calls.length + pool.wallets.length ≤ 2 ^ 64)
    {call : ℕ} {result : Except FeePayerError FeePayerWallet}
    (hdone : (run poolStep (.new pool clock) as).calls[call]? = some (.done result)) :
    Explained (.new pool clock) as call result := by
  obtain ⟨-, -, -, seen, h⟩ := explains_new hpool clock hroom
  have hdone' : (run poolStep (.new pool clock) as).calls[(PoolState.new pool clock).calls.length +
      call]? = some (.done result) := by
    rw [← hdone]
    exact congrArg _ (Nat.zero_add call)
  have hlt : call < seen.length := by
    have hcall := (List.getElem?_eq_some_iff.1 hdone').1
    rw [h.length] at hcall
    omega
  obtain ⟨hseen, hsaw⟩ := h.calls call _ _ hdone' (List.getElem?_eq_getElem hlt)
  have hzero : (PoolState.new pool clock).calls.length + call = call := Nat.zero_add call
  rw [hzero] at hseen
  cases result with
  | ok w =>
    obtain ⟨hw, htried, -⟩ := hsaw
    exact ⟨hw, (hseen _ _ htried).mono fun s hs => hs.2 rfl⟩
  | error e =>
    obtain ⟨he, -, htried⟩ := hsaw
    refine ⟨he, fun idx hidx => (hseen _ _ (htried idx hidx)).mono fun s hs havailable => ?_⟩
    exact absurd (hs.1 havailable) (by decide)

/-- A key of 64 zero bytes. -/
def zeroKey : String := String.ofList (List.replicate 64 '1')

/-- The pool of two such keys. -/
def twoPool : FeePayerPool :=
  ⟨[⟨Vector.replicate 64 0, "1", 0⟩, ⟨Vector.replicate 64 0, "1", 1⟩], [none, none], 0,
    defaultCooldown⟩

/-- Two calls at once. Both take their slots; the first wallet is marked before the first call
tries it, and the second one after the second call has returned it and before the first gets to
it. -/
def twoCalls : List PoolStep :=
  [.begin, .begin, .go 0, .go 1, .markFailed 0, .go 0, .go 1, .markFailed 1, .go 0]

/-- The first call finds each wallet in its cooldown when it tries it, though at no time before the
last mark both were; the second call returns the wallet it tried. -/
theorem next_explained_sample :
    (Tried (.new twoPool 0) twoCalls 0 0 (¬ Available · 0) ∧
      Tried (.new twoPool 0) twoCalls 0 1 (¬ Available · 1)) ∧
      Tried (.new twoPool 0) twoCalls 1 1 (Available · 1) := by
  have hpool : fromKeysWithCooldown id (fun _ => "1") [zeroKey, zeroKey] defaultCooldown =
      .ok twoPool := by decide +kernel
  have hrefused : Explained (.new twoPool 0) twoCalls 0 (.error .allFailed) :=
    next_explained hpool 0 _ (by decide) rfl
  have hreturned : Explained (.new twoPool 0) twoCalls 1
      (.ok ⟨Vector.replicate 64 0, "1", 1⟩) := next_explained hpool 0 _ (by decide) rfl
  exact ⟨⟨hrefused.2 0 (by decide), hrefused.2 1 (by decide)⟩, hreturned.2⟩

end Solvela.FeePayer
