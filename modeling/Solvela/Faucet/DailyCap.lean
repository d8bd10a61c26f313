import Solvela.Faucet.Once

/-!
# The daily cap of the faucet

A call reads the total of the day after it has reserved, so its own drip is in it, and so is every
drip that has passed the cap before: the row of such a drip stays, or its call has given it up. The
read is for the day of the database clock. Where that is not the day of the reservation any more,
the drips of that day are not counted.
-/

namespace Solvela.Faucet

open Solvela.ChannelLedger Solvela.Lib

/-- The lamports of the drips that are out, by the day of their reservation. -/
def sentOn (s : System) (day : ℕ) : ℕ :=
  ((s.attempts.filter fun a => utcDay a.reservedAt = day).map (·.tx.lamports)).sum

/-- The cap is read on another day than that of the reservation. -/
def straddles (s : System) : Label → Bool
  | .step i _ =>
    match s.tasks[i]? with
    | some t => t.readsCap && utcDay s.now != utcDay t.reservedAt
    | none => false
  | _ => false

/-- A wallet has passed the cap with a reservation of the day: its call is on the way to the send,
or the drip is out. -/
def Committed (s : System) (day : ℕ) (wallet : String) : Prop :=
  (∃ (i : ℕ) (t : Task), s.tasks[i]? = some t ∧ t.phase = .holding true ∧
    t.wallet = wallet ∧ utcDay t.reservedAt = day) ∨
  ∃ a ∈ s.attempts, a.wallet = wallet ∧ utcDay a.reservedAt = day

/-- The wallets that have passed the cap on a day stay below it together. -/
structure Capped (p : FaucetParams) (s : System) : Prop where
  safe : Safe p s
  below : ∀ (day : ℕ) (W : Finset String), (∀ wallet ∈ W, Committed s day wallet) →
    W.card * p.dripLamports < p.dailyCapLamports

section Cap
variable {p : FaucetParams} {s s' : System} {i day : ℕ} {t : Task} {wallet : String}

/-! ## What the read sees -/

/-- The table has a drip of the day for the wallet. -/
def RowOn (s : System) (day : ℕ) (wallet : String) : Prop :=
  ∃ row, s.rows.lookup wallet = some row ∧ utcDay row.createdAt = day

theorem RowAt.rowOn {holder createdAt : ℕ} (h : RowAt s wallet holder createdAt)
    (hday : utcDay createdAt = day) : RowOn s day wallet := by
  obtain ⟨row, hrow, -, hcreated⟩ := h
  refine ⟨row, hrow, ?_⟩
  rw [hcreated]
  exact hday

theorem Safe.rowOn_of_committed (hs : Safe p s) (h : Committed s day wallet) :
    RowOn s day wallet := by
  rcases h with ⟨i, t, hi, hphase, rfl, hday⟩ | ⟨a, ha, rfl, hday⟩
  · have hholds : t.phase.holds = true := by
      rw [hphase]
      rfl
    exact (hs.held i t hi hholds).rowOn hday
  · exact (hs.attempted a ha).rowOn hday

/-- The wallets with a drip of the day are all in its total. -/
theorem Safe.card_mul_le_dayTotal (hs : Safe p s) {W : Finset String}
    (hW : ∀ wallet ∈ W, RowOn s day wallet) : W.card * p.dripLamports ≤ dayTotal s day := by
  have hterm : ∀ wallet ∈ W, (s.rows.lookup wallet).elim 0
      (fun row => if utcDay row.createdAt = day then row.lamports else 0) = p.dripLamports := by
    intro wallet hwallet
    obtain ⟨row, hrow, hday⟩ := hW wallet hwallet
    rw [hrow]
    show (if utcDay row.createdAt = day then row.lamports else 0) = p.dripLamports
    rw [if_pos hday]
    exact hs.lamports wallet row hrow
  calc W.card * p.dripLamports
      = ∑ wallet ∈ W, (s.rows.lookup wallet).elim 0
          (fun row => if utcDay row.createdAt = day then row.lamports else 0) := by
        rw [Finset.sum_congr rfl hterm, Finset.sum_const, Nat.nsmul_eq_mul]
    _ ≤ dayTotal s day := Table.sum_le_sumBy _ s.rows W

/-! ## The invariant -/

/-- A wallet that has passed the cap after a step had passed it before, or passes it now. -/
theorem Effect.committed {phase : Phase} {reservedAt : ℕ} {prog : Call DripOutcome}
    (h : Effect p s i t phase reservedAt s') (hi : s.tasks[i]? = some t)
    (hc : Committed { s' with tasks := s.tasks.set i ⟨t.wallet, phase, reservedAt, prog⟩ } day
      wallet) :
    Committed s day wallet ∨
      wallet = t.wallet ∧ utcDay t.reservedAt = day ∧ t.phase.holds = true ∧ t.readsCap = true ∧
        dayTotal s (utcDay s.now) < p.dailyCapLamports := by
  rcases hc with ⟨j, t', hj, hphase, rfl, hday⟩ | ⟨a, ha, rfl, hday⟩
  · rcases getElem?_set_cases hj with ⟨rfl, rfl⟩ | ⟨-, hj⟩
    · cases h with
      | quiet hholds _ hcap =>
        obtain ⟨hheld, rfl⟩ := hholds (by rw [show phase = _ from hphase]; rfl)
        -- it had passed the cap before, or passes it now
        rcases hcap hphase with hbefore | ⟨hreads, hlt⟩
        · exact Or.inl (Or.inl ⟨j, t, hi, hbefore, rfl, hday⟩)
        · exact Or.inr ⟨rfl, hday, hheld, hreads, hlt⟩
      | inserted _ _ hnew =>
        rcases hnew with hnew | hnew
        · exact absurd (hnew.symm.trans hphase) (by simp)
        · exact absurd (hnew.symm.trans hphase) (by simp)
      | erased _ => exact absurd hphase (by simp)
      | signed _ _ _ => exact absurd hphase (by simp)
      | attempted _ _ _ => exact absurd hphase (by simp)
    · exact Or.inl (Or.inl ⟨j, t', hj, hphase, rfl, hday⟩)
  · left
    revert a
    apply h.forall_attempts (P := fun a => utcDay a.reservedAt = day → Committed s day a.wallet)
    · intro a ha hday
      exact Or.inr ⟨a, ha, rfl, hday⟩
    · intro tx accepted _ hbefore _ _ _ hday
      exact Or.inl ⟨i, t, hi, hbefore, rfl, hday⟩

/-- A step of a call that reads the cap, if at all, on the day of its reservation. -/
theorem Capped.effect (hs : Capped p s) {phase : Phase} {reservedAt : ℕ}
    {prog : Call DripOutcome} (hi : s.tasks[i]? = some t)
    (h : Effect p s i t phase reservedAt s')
    (hday : t.readsCap = true → utcDay s.now = utcDay t.reservedAt) (W : Finset String)
    (hW : ∀ wallet ∈ W, Committed
      { s' with tasks := s.tasks.set i ⟨t.wallet, phase, reservedAt, prog⟩ } day wallet) :
    W.card * p.dripLamports < p.dailyCapLamports := by
  by_cases hold : ∀ wallet ∈ W, Committed s day wallet
  · exact hs.below day W hold
  · -- one of them passes the cap with this step, and the read has seen them all
    push Not at hold
    obtain ⟨wallet, hwallet, hnew⟩ := hold
    have hpassed := (h.committed hi (hW wallet hwallet)).resolve_left hnew
    obtain ⟨-, hdated, hholds, hreads, hlt⟩ := hpassed
    rw [hday hreads, hdated] at hlt
    apply lt_of_le_of_lt _ hlt
    apply hs.safe.card_mul_le_dayTotal
    intro other hother
    rcases h.committed hi (hW other hother) with hbefore | ⟨rfl, -, -, -, -⟩
    · exact hs.safe.rowOn_of_committed hbefore
    · exact (hs.safe.held i t hi hholds).rowOn hdated

theorem capped_step (a : Label) (hs : Capped p s) (hlost : lostResponse s a = false)
    (hday : straddles s a = false) : Capped p (step p s a) := by
  refine ⟨safe_step a hs.safe hlost, ?_⟩
  intro day W hW
  cases a with
  -- a new call has not passed the cap yet
  | spawn wallet =>
    apply hs.below day W
    intro wallet' hwallet
    rcases hW wallet' hwallet with ⟨j, t, hj, hphase, hrest⟩ | hout
    · change (s.tasks ++ [⟨wallet, .start, 0, drip p wallet⟩])[j]? = some t at hj
      rw [List.getElem?_append] at hj
      split at hj
      · exact Or.inl ⟨j, t, hj, hphase, hrest⟩
      · obtain rfl := List.mem_singleton.mp (List.mem_of_getElem? hj)
        exact absurd hphase (by simp)
    · exact Or.inr hout
  | step i env =>
    rcases step_call hs.safe hlost with
      heq | ⟨t, phase, reservedAt, s', prog, hi, heffect, -, heq⟩
    · rw [heq] at hW
      exact hs.below day W hW
    · rw [heq] at hW
      refine hs.effect hi heffect ?_ W hW
      -- the day that is read is the day of the reservation, unless the step straddles
      intro hreads
      simp only [straddles, hi, hreads, Bool.true_and] at hday
      simpa using hday
  -- a landing counts nothing anew
  | land n =>
    apply hs.below day W
    intro wallet hwallet
    have hc := hW wallet hwallet
    simp only [step] at hc
    split at hc
    · split at hc
      · exact hc
      · exact hc
    · exact hc
  | advance secs => exact hs.below day W hW

theorem capped_start (hcap : 0 < p.dailyCapLamports) (now : ℕ) : Capped p (start now) := by
  refine ⟨safe_start now, ?_⟩
  intro day W hW
  have hempty : W = ∅ := by
    apply Finset.eq_empty_of_forall_notMem
    intro wallet hwallet
    rcases hW wallet hwallet with ⟨j, t, hj, -⟩ | ⟨a, ha, -⟩
    · exact absurd hj (by simp [start])
    · exact absurd ha (List.not_mem_nil)
  rw [hempty, Finset.card_empty, Nat.zero_mul]
  exact hcap

/-! ## The total of a day -/

/-- The drips of a day are for as many wallets, each with the drip of the faucet. -/
theorem Capped.sentOn_lt (hs : Capped p s) (day : ℕ) : sentOn s day < p.dailyCapLamports := by
  unfold sentOn
  set drips := s.attempts.filter fun a => utcDay a.reservedAt = day with hdrips
  have hmem : ∀ a ∈ drips, a ∈ s.attempts ∧ utcDay a.reservedAt = day := by
    intro a ha
    rw [hdrips] at ha
    obtain ⟨hattempt, hday⟩ := List.mem_filter.mp ha
    exact ⟨hattempt, of_decide_eq_true hday⟩
  have hnodup : (drips.map (·.wallet)).Nodup := by
    apply List.Nodup.map_on
    · intro a ha b hb hwallet
      exact hs.safe.attempt_eq (hmem a ha).1 (hmem b hb).1 hwallet
    · exact hs.safe.once.of_map.filter _
  have hcard : (drips.map (·.wallet)).toFinset.card = drips.length := by
    rw [List.toFinset_card_of_nodup hnodup, List.length_map]
  have hsum : (drips.map (·.tx.lamports)).sum = drips.length * p.dripLamports := by
    rw [List.sum_eq_card_nsmul _ p.dripLamports, List.length_map, Nat.nsmul_eq_mul]
    intro lamports hlamports
    obtain ⟨a, ha, rfl⟩ := List.mem_map.mp hlamports
    exact (hs.safe.transfers a (hmem a ha).1).2
  rw [hsum, ← hcard]
  apply hs.below day
  intro wallet hwallet
  obtain ⟨a, ha, rfl⟩ := List.mem_map.mp (List.mem_toFinset.mp hwallet)
  exact Or.inr ⟨a, (hmem a ha).1, rfl, (hmem a ha).2⟩

end Cap

/-- In every run in which no response to a send is lost and each call reads the cap on the day of
its reservation, the drips of every day stay below the cap. -/
theorem sent_below_daily_cap (p : FaucetParams) (hcap : 0 < p.dailyCapLamports) (now : ℕ)
    (labels : List Label)
    (hsteps : AllSteps (step p) (fun s a => lostResponse s a = false ∧ straddles s a = false)
      (start now) labels) (day : ℕ) :
    sentOn (run (step p) (start now) labels) day < p.dailyCapLamports := by
  apply Capped.sentOn_lt
  apply run_invariant_of_allSteps
    (C := fun s a => lostResponse s a = false ∧ straddles s a = false)
  · intro s a hs hstep
    exact capped_step a hs hstep.1 hstep.2
  · exact capped_start hcap now
  · exact hsteps

/-! ## Across midnight -/

/-- A cap that lets one drip through. -/
def oneDripCap : FaucetParams := { defaultParams with dailyCapLamports := 15000000 }

def otherWallet : String := "9WzDXwBbmkg8ZTbNMqUxvQRAyrZzDsGYdLVL9zYtAWWN"

/-- One drip, then a call for another wallet, in which the clock moves on between the reservation
and the read of the cap. -/
def twoWallets (secs : ℕ) : List Label :=
  callWith 0 1 (.accepted "sig1") ++
    ([.spawn otherWallet, .step 1 (answers 0 (.refused "")), .advance secs,
      .step 1 (answers 0 (.refused "")), .step 1 (answers 100000 (.refused "")),
      .step 1 (answers 0 (.refused "")), .step 1 (answers 20000000 (.refused "")),
      .step 1 (answers 2 (.refused "")), .step 1 (answers 0 (.accepted "sig2"))] : List Label)

/-- On one day the second call is declined. -/
theorem second_wallet_declined_same_day :
    sentOn (run (step oneDripCap) (start 86390) (twoWallets 5)) 0 = 10000000 ∧
      sentOn (run (step oneDripCap) (start 86390) (twoWallets 5)) 0 <
        oneDripCap.dailyCapLamports := by
  refine ⟨by decide +kernel, ?_⟩
  exact sent_below_daily_cap oneDripCap (by decide) 86390 (twoWallets 5) (by decide +kernel) 0

/-- Reserved before midnight and read after it, the second drip passes a cap that the day has
already reached. -/
theorem cap_passed_across_midnight :
    AllSteps (step oneDripCap) (fun s a => lostResponse s a = false) (start 86390)
        (twoWallets 20) ∧
      ¬ sentOn (run (step oneDripCap) (start 86390) (twoWallets 20)) 0 <
        oneDripCap.dailyCapLamports := by
  decide +kernel

end Solvela.Faucet
