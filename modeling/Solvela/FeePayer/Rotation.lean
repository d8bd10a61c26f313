import Solvela.FeePayer.Pool

/-!
# The share of a wallet

While the wallets that are in their cooldown stay the same, the calls of `next` are shared out by
their slots alone, whatever their order: `next_shares` counts them. With every wallet available
the shares differ by at most one. A wallet behind others that are not available gets their calls
besides its own, so the load of a failed wallet is not spread over the pool.
-/

namespace Solvela.FeePayer

open Solvela.Lib

/-- The call has returned the wallet. -/
def returned (idx : ℕ) : PoolProg (Except FeePayerError FeePayerWallet) → Bool
  | .done (.ok w) => w.index == idx
  | _ => false

/-- How many of the calls from the number `first` on have returned the wallet. -/
def share (first : ℕ) (s : PoolState) (idx : ℕ) : ℕ := (s.calls.drop first).countP (returned idx)

/-- Where a call takes a step, the wallets that are available are those that are `ok`. -/
def Standing (ok : ℕ → Bool) (n : ℕ) (s : PoolState) : PoolStep → Prop
  | .go _ => ∀ idx < n, Available s idx ↔ ok idx = true
  | _ => True

instance (ok : ℕ → Bool) (n : ℕ) (s : PoolState) (a : PoolStep) :
    Decidable (Standing ok n s a) :=
  match a with
  | .go _ => inferInstanceAs (Decidable (∀ idx < n, Available s idx ↔ ok idx = true))
  | .begin | .markFailed _ | .markHealthy _ | .tick _ => inferInstanceAs (Decidable True)

theorem Tried.of_allSteps {s₀ : PoolState} {as : List PoolStep} {call idx : ℕ}
    {P : PoolState → Prop} {C : PoolState → PoolStep → Prop} (h : Tried s₀ as call idx P)
    (hC : AllSteps poolStep C s₀ as) : ∃ s, C s (.go call) ∧ P s := by
  obtain ⟨before, after, rfl, -, hP⟩ := h
  exact ⟨_, (allSteps_append.1 hC).2.1, hP⟩

theorem find?_of_split {α : Type} {p : α → Bool} {l passed rest : List α} {a : α}
    (hl : l = passed ++ a :: rest) (hpassed : ∀ b ∈ passed, p b = false) (ha : p a = true) :
    l.find? p = some a := by
  have hnone : passed.find? p = none := List.find?_eq_none.2 fun b hb => by simp [hpassed b hb]
  rw [hl, List.find?_append, hnone, Option.none_or, List.find?_cons_of_pos ha]

section Standing
variable {ok : ℕ → Bool} {wallets : List FeePayerWallet} {g : Seen}

/-- A call that has seen which wallets are `ok` returns the pick of its slot. -/
theorem Saw.slot (hok : ∀ idx available, idx < wallets.length → (idx, available) ∈ g.tries →
      ok idx = available)
    (hpos : 0 < wallets.length) {result : Except FeePayerError FeePayerWallet}
    (h : Saw wallets g result) :
    ∃ start, g.slot = some start ∧
      ∀ idx, returned idx (.done result) = decide (firstFrom ok wallets.length start = some idx) := by
  cases result with
  | ok w =>
    obtain ⟨-, htried, start, passed, rest, hslot, hround, hpassed⟩ := h
    have hlt : ∀ j ∈ passed ++ w.index :: rest, j < wallets.length := by
      intro j hj
      rw [← hround] at hj
      exact mem_roundFrom.1 hj
    -- it passed what was unavailable, and returned the first that was not
    have hfirst : firstFrom ok wallets.length start = some w.index := by
      apply find?_of_split hround
      · intro j hj
        exact hok j false (hlt j (List.mem_append_left _ hj)) (hpassed j hj)
      · exact hok _ true (hlt _ (by simp)) htried
    refine ⟨start, hslot, fun idx => ?_⟩
    rw [hfirst, returned, Bool.beq_eq_decide_eq]
    simp
  | error e =>
    obtain ⟨-, hslot, htried⟩ := h
    obtain ⟨start, hslot⟩ := hslot hpos
    have hfirst : firstFrom ok wallets.length start = none :=
      firstFrom_eq_none.2 fun idx hidx => hok idx false hidx (htried idx hidx)
    refine ⟨start, hslot, fun idx => ?_⟩
    show false = decide (firstFrom ok wallets.length start = some idx)
    rw [hfirst]
    rfl

end Standing

theorem countP_range' (p : ℕ → Prop) [DecidablePred p] (start n : ℕ) :
    (List.range' start n).countP (fun k => decide (p k)) = Nat.count (fun k => p (start + k)) n := by
  induction n with
  | zero => rfl
  | succ n ih =>
    rw [List.range'_concat, List.countP_append, ih, Nat.count_succ, List.countP_singleton]
    simp

/-- New calls that have all returned are shared out by their slots. -/
theorem share_eq_count {ok : ℕ → Bool} {s₀ s : PoolState} {as : List PoolStep} {seen : List Seen}
    (h : Explains s₀ as s seen) (hpos : 0 < s₀.pool.wallets.length)
    (hstanding : AllSteps poolStep (Standing ok s₀.pool.wallets.length) s₀ as)
    (hreturned : AllReturned s) (idx : ℕ) :
    share s₀.calls.length s idx =
      Nat.count (fun k => firstFrom ok s₀.pool.wallets.length (s₀.pool.counter + k) = some idx)
        (s.calls.length - s₀.calls.length) := by
  have hslot : ∀ (i : ℕ) p (g : Seen), s.calls[s₀.calls.length + i]? = some p →
      seen[i]? = some g → ∃ start, g.slot = some start ∧
        returned idx p = decide (firstFrom ok s₀.pool.wallets.length start = some idx) := by
    intro i p g hp hg
    obtain ⟨result, rfl⟩ := hreturned p (List.mem_of_getElem? hp)
    obtain ⟨hseen, hsaw⟩ := h.calls i _ g hp hg
    have hok : ∀ idx available, idx < s₀.pool.wallets.length → (idx, available) ∈ g.tries →
        ok idx = available := by
      intro idx available hidx hin
      obtain ⟨s', hs', hP⟩ := (hseen idx available hin).of_allSteps hstanding
      exact Bool.eq_iff_iff.2 ((hs' idx hidx).symm.trans hP)
    obtain ⟨start, hstart, hresult⟩ := Saw.slot hok hpos hsaw
    exact ⟨start, hstart, hresult idx⟩
  have hcall : ∀ (i : ℕ) (g : Seen), seen[i]? = some g →
      ∃ p, s.calls[s₀.calls.length + i]? = some p := by
    intro i g hg
    have hlt := (List.getElem?_eq_some_iff.1 hg).1
    exact ⟨_, List.getElem?_eq_getElem (by rw [h.length]; omega)⟩
  have hlength : (seen.filterMap Seen.slot).length = s.calls.length - s₀.calls.length := by
    rw [List.length_filterMap_eq_countP, h.length, Nat.add_sub_cancel_left,
      List.countP_eq_length]
    intro g hg
    obtain ⟨i, hi⟩ := List.getElem?_of_mem hg
    obtain ⟨p, hp⟩ := hcall i g hi
    obtain ⟨start, hstart, -⟩ := hslot i p g hp hi
    rw [hstart]
    rfl
  -- what the calls have returned is what their slots pick
  have hmap : (s.calls.drop s₀.calls.length).map (returned idx) = seen.map fun g =>
      (g.slot.map fun start =>
        decide (firstFrom ok s₀.pool.wallets.length start = some idx)).getD false := by
    apply List.ext_getElem?
    intro i
    rw [List.getElem?_map, List.getElem?_map, List.getElem?_drop]
    cases hg : seen[i]? with
    | none =>
      have hge := List.getElem?_eq_none_iff.1 hg
      rw [List.getElem?_eq_none_iff.2 (by rw [h.length]; omega)]
      rfl
    | some g =>
      obtain ⟨p, hp⟩ := hcall i g hg
      obtain ⟨start, hstart, hresult⟩ := hslot i p g hp hg
      rw [hp, Option.map_some, Option.map_some, hresult, hstart]
      rfl
  have hshare : share s₀.calls.length s idx =
      ((s.calls.drop s₀.calls.length).map (returned idx)).countP id := by
    rw [List.countP_map]
    rfl
  rw [hshare, hmap, List.countP_map, ← hlength]
  rw [← countP_range' (fun slot => firstFrom ok s₀.pool.wallets.length slot = some idx),
    ← h.slots.countP_eq, List.countP_filterMap]
  rfl

theorem calls_length_run (s : PoolState) (as : List PoolStep) :
    s.calls.length ≤ (run poolStep s as).calls.length := by
  induction as generalizing s with
  | nil => exact Nat.le_refl _
  | cons a as ih => exact (calls_length_le s a).trans (ih _)

/-- From any time at which all calls have returned, as long as the same wallets are available: a
wallet that is not available is not returned, and one that is gets its own slots and those of the
wallets in the gap before it, for each full round of calls and at most once more. With every wallet
available there are no gaps, so the shares differ by at most one. -/
theorem next_shares {bs58Error : String → String} {bs58Encode : List UInt8 → String}
    {keys : List String} {cooldown : ℕ} {pool : FeePayerPool}
    (hpool : fromKeysWithCooldown bs58Error bs58Encode keys cooldown = .ok pool) {clock : ℕ}
    {before as : List PoolStep} {s₀ s : PoolState}
    (hs₀ : run poolStep (.new pool clock) before = s₀) (hs : run poolStep s₀ as = s)
    (hroom : s.calls.length + pool.wallets.length ≤ 2 ^ 64) (hbefore : AllReturned s₀)
    (hafter : AllReturned s) {ok : ℕ → Bool}
    (hstanding : AllSteps poolStep (Standing ok pool.wallets.length) s₀ as) {idx : ℕ}
    (hidx : idx < pool.wallets.length) :
    (ok idx = false → share s₀.calls.length s idx = 0) ∧
    (ok idx = true →
      (s.calls.length - s₀.calls.length) / pool.wallets.length *
        (gap ok pool.wallets.length idx + 1) ≤ share s₀.calls.length s idx ∧
      share s₀.calls.length s idx ≤
        (s.calls.length - s₀.calls.length + pool.wallets.length - 1) / pool.wallets.length *
          (gap ok pool.wallets.length idx + 1)) ∧
    ((∀ i < pool.wallets.length, ok i = true) →
      (s.calls.length - s₀.calls.length) / pool.wallets.length ≤ share s₀.calls.length s idx ∧
      share s₀.calls.length s idx ≤
        (s.calls.length - s₀.calls.length + pool.wallets.length - 1) / pool.wallets.length) := by
  have hle := calls_length_run s₀ as
  rw [hs] at hle
  obtain ⟨hpos, hindexed, hagrees, seen₀, h₀⟩ :=
    @explains_new _ _ _ _ _ hpool clock before (by rw [hs₀]; omega)
  rw [hs₀] at hagrees h₀
  have hwallets := hagrees.sameWallets
  rw [← hwallets, ← hagrees.sameCooldown] at hagrees
  -- the counter starts at zero and takes one slot for a call, so there is room
  have hcounter : s₀.pool.counter ≤ s₀.calls.length := by
    have hcount : s₀.pool.counter = pool.counter + _ := h₀.counter
    have hlength : s₀.calls.length = 0 + seen₀.length := h₀.length
    have hslots := List.length_filterMap_le Seen.slot seen₀
    have hzero := (fromKeysWithCooldown_ok hpool).2.2.2.2.1
    omega
  rw [← hwallets] at hindexed hpos hstanding hroom hidx ⊢
  obtain ⟨seen, h⟩ := explains_run hagrees hbefore hpos hindexed as (by rw [hs]; omega)
  rw [hs] at h
  -- each call returns the first available wallet from its slot on: what is left is to count
  rw [share_eq_count h hpos hstanding hafter idx]
  refine ⟨fun hnot => count_firstFrom_of_not hnot _ _,
    fun hok => count_firstFrom_bounds hidx hok _ _, fun hall => ?_⟩
  have hbounds := count_firstFrom_bounds hidx (hall idx hidx) s₀.pool.counter
    (s.calls.length - s₀.calls.length)
  rw [gap_eq_zero hpos (hall _ (before_lt hpos)), Nat.zero_add, Nat.mul_one, Nat.mul_one] at hbounds
  exact hbounds

/-- The pool of three such keys. -/
def threePool : FeePayerPool where
  wallets := (List.range 3).map fun i => ⟨Vector.replicate 64 0, "1", i⟩
  failedAt := [none, none, none]
  counter := 0
  cooldown := defaultCooldown

/-- One round of calls. The first passes over the failed wallet. -/
def failedRound : List PoolStep :=
  [.begin, .go 0, .begin, .go 1, .go 0, .go 1, .go 0, .begin, .go 2, .go 2]

/-- With three wallets of which the first has failed, the second is returned twice. -/
theorem next_shares_sample :
    share 0 (run poolStep (run poolStep (.new threePool 0) [.markFailed 0]) failedRound) 1 = 2 := by
  have hpool : fromKeysWithCooldown id (fun _ => "1") [zeroKey, zeroKey, zeroKey] defaultCooldown =
      .ok threePool := by decide +kernel
  have hafter : AllReturned
      (run poolStep (run poolStep (.new threePool 0) [.markFailed 0]) failedRound) := by
    intro p hp
    have hcalls : p ∈ [Prog.done (.ok (threePool.wallets.getD 1 ⟨Vector.replicate 64 0, "", 0⟩)),
        .done (.ok (threePool.wallets.getD 1 ⟨Vector.replicate 64 0, "", 0⟩)),
        .done (.ok (threePool.wallets.getD 2 ⟨Vector.replicate 64 0, "", 0⟩))] := hp
    simp only [List.mem_cons, List.not_mem_nil, or_false] at hcalls
    rcases hcalls with rfl | rfl | rfl <;> exact ⟨_, rfl⟩
  have hshares := (next_shares hpool rfl rfl (by decide)
    (fun p hp => absurd hp (by simp [run, poolStep, PoolState.new])) hafter
    (show AllSteps poolStep (Standing (· != 0) threePool.wallets.length) _ failedRound by decide)
    (show 1 < threePool.wallets.length by decide)).2.1 rfl
  have hbounds : 2 ≤ share 0 _ 1 ∧ share 0 _ 1 ≤ 2 := hshares
  exact le_antisymm hbounds.2 hbounds.1

end Solvela.FeePayer
