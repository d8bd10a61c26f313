import Solvela.Budget.Exposure

/-!
# Limits under concurrency

The checks of several counters are not one transaction, so the rollbacks of some requests
interleave with the checks of others. What carries the limit of one counter through a window is
that its value covers the sum of what all requests hold of it, and that nobody holds a negative
amount. The latter is what a settlement breaks that finds another team than the check did.
-/

namespace Solvela.Budget

open Solvela.Lib

/-! ## Steps within one window -/

/-- A settlement is for at most the estimate. -/
def costsAtMost (s : System) : Label → Bool
  | .settle i actual =>
    match s.requests[i]? with
    | none => true
    | some q => decide (actual ≤ q.estimate)
  | _ => true

/-- The team lookup of a settlement finds the team of the check, if a window of it was reserved
and there is a difference to settle. -/
def keepsTeam (s : System) : Label → Bool
  | .advance i env =>
    match s.requests[i]? with
    | none => true
    | some q =>
      match q.stage with
      | .settling res actual (.call (.teamForWallet _) _) => q.teamKept res actual env.team
      | _ => true
  | _ => true

/-- The steps of a run within the window of `k`. -/
def WithinWindow (k : CounterKey) (s : System) (a : Label) : Prop :=
  k.Current s.store.clock ∧ costsAtMost s a = true ∧ keepsTeam s a = true

instance (k : CounterKey) (s : System) (a : Label) : Decidable (WithinWindow k s a) :=
  inferInstanceAs (Decidable (_ ∧ _ ∧ _))

/-- A history of the window stays in it. -/
theorem record_now {k : CounterKey} {s : Store} {h : History} (hk : k.Current s.clock)
    (hnow : k.Current h.now) (env : Lookups) (c : Command) :
    k.Current (h.record c (s.exec env c).1).now := by
  cases c with
  | now => exact hk
  | _ => exact hnow

/-- A request stays in the window by its own steps. -/
theorem Request.InWindow.advance {k : CounterKey} {s : System} {i : ℕ} {q : Request}
    {env : Lookups} (hq : s.requests[i]? = some q) (hwindow : q.InWindow k)
    (hstep : WithinWindow k s (.advance i env)) : (q.advance env s.store).2.InWindow k := by
  obtain ⟨hk, -, hteam⟩ := hstep
  cases hstage : q.stage with
  | checking p =>
    simp only [Request.advance, hstage]
    cases p with
    | done result => exact ⟨hwindow.1, trivial⟩
    | call c next => exact ⟨record_now hk hwindow.1 env c, trivial⟩
  | releasing res p =>
    simp only [Request.advance, hstage]
    exact ⟨hwindow.1, trivial⟩
  | settling res actual p =>
    have hw := hwindow.2
    simp only [hstage] at hw
    simp only [Request.advance, hstage]
    refine ⟨hwindow.1, hw.1, ?_⟩
    cases p with
    | done result => exact hw.2
    | call c next =>
      cases c with
      -- only this command can bring in another team
      | teamForWallet wallet =>
        simp only [keepsTeam, hq, hstage] at hteam
        exact hteam
      | _ => exact hw.2
  | spending p =>
    simp only [Request.advance, hstage]
    exact ⟨hwindow.1, trivial⟩

/-- All requests stay in the window by every step. -/
theorem Effect.inWindow {redis : Bool} {k : CounterKey} {s s' : System} {a : Label}
    (heffect : Effect redis s a s') (hstep : WithinWindow k s a)
    (hwindow : ∀ q ∈ s.requests, q.InWindow k) : ∀ q ∈ s'.requests, q.InWindow k := by
  have hset : ∀ (i : ℕ) (r : Request), r.InWindow k → ∀ q ∈ s.requests.set i r, q.InWindow k := by
    intro i r hr q hq
    rcases List.mem_or_eq_of_mem_set hq with hq | rfl
    · exact hwindow q hq
    · exact hr
  have happend : ∀ r : Request, r.InWindow k → ∀ q ∈ s.requests ++ [r], q.InWindow k := by
    intro r hr q hq
    rcases List.mem_append.1 hq with hq | hq
    · exact hwindow q hq
    · rw [List.mem_singleton.1 hq]
      exact hr
  cases heffect with
  | idle => exact hwindow
  | tick seconds => exact hwindow
  | arrive wallet tenant hestimate => exact happend _ ⟨hstep.1, trivial⟩
  | spend hcost hnone => exact happend _ ⟨hstep.1, trivial⟩
  | advance hq env =>
    exact hset _ _ ((hwindow _ (List.mem_of_getElem? hq)).advance hq hstep)
  | release hq hres => exact hset _ _ ⟨(hwindow _ (List.mem_of_getElem? hq)).1, trivial⟩
  | @settle i q hq res hres actual hactual =>
    refine hset _ _ ⟨(hwindow _ (List.mem_of_getElem? hq)).1, ?_, ?_⟩
    · have hcost := hstep.2.1
      simp only [costsAtMost, hq, decide_eq_true_eq] at hcost
      exact hcost
    · simp [Request.teamKept, Request.settles, History.start, foundTeam]

/-! ## The invariant of a window -/

/-- What all requests hold of the counter. -/
def System.held (k : CounterKey) (s : System) : ℚ := (s.requests.map (Request.net · k)).sum

/-- What the requests hold that have passed its check against the limit. -/
def System.heldChecked (k : CounterKey) (limit : ℚ) (s : System) : ℚ :=
  (s.requests.map fun q => if q.counted k limit then q.net k else 0).sum

/-- The counter lasts through its window once it was written, and covers what is held of it. -/
structure WindowInv (redis : Bool) (k : CounterKey) (limit : ℚ) (s : System) : Prop where
  inv : ∀ q ∈ s.requests, q.Inv redis
  inWindow : ∀ q ∈ s.requests, q.InWindow k
  lasting : s.store.Lasting k ∨ (0 ≤ s.store.value k ∧ ∀ q ∈ s.requests, k ∉ q.keys)
  covered : k.Current s.store.clock → s.held k ≤ s.store.value k
  bounded : s.heldChecked k limit ≤ limit + usdcEpsilon

/-- A sum over the requests changes with one of them. -/
theorem sum_requests_set {f : Request → ℚ} {l : List Request} {i : ℕ} {q : Request}
    (hq : l[i]? = some q) (q' : Request) :
    ((l.set i q').map f).sum = (l.map f).sum - f q + f q' := by
  have hsum := Lib.sum_map_set f hq q'
  linarith

/-- What was never written is not held. -/
theorem held_eq_zero {k : CounterKey} {s : System} (h : ∀ q ∈ s.requests, k ∉ q.keys) :
    s.held k = 0 := by
  apply List.sum_eq_zero
  intro x hx
  obtain ⟨q, hq, rfl⟩ := List.mem_map.1 hx
  have hk := h q hq
  simp only [Request.keys, List.mem_append, List.mem_map, not_or, not_exists, not_and] at hk
  rw [Request.net, net_eq_zero hk.1, net_eq_zero hk.2, add_zero]

/-- What passed the check is part of what is held, as nobody holds a negative amount. -/
theorem heldChecked_le_held {redis : Bool} {k : CounterKey} {limit : ℚ} {s : System}
    (hinv : ∀ q ∈ s.requests, q.Inv redis) (hwindow : ∀ q ∈ s.requests, q.InWindow k) :
    s.heldChecked k limit ≤ s.held k := by
  apply List.sum_le_sum
  intro q hq
  split
  · exact le_refl _
  · exact net_nonneg (hinv q hq) (hwindow q hq)

section
variable {redis : Bool} {k : CounterKey} {limit : ℚ} {s : System}

/-- Time passes inside the window. -/
theorem WindowInv.tick (h : WindowInv redis k limit s) (hk : k.Current s.store.clock)
    (seconds : ℕ) :
    WindowInv redis k limit { s with store.clock := s.store.clock + seconds } := by
  rcases h.lasting with hlast | ⟨hvalue, huntouched⟩
  · refine ⟨h.inv, h.inWindow, Or.inl hlast, ?_, h.bounded⟩
    intro hk'
    -- the counter does not expire within its window
    have hnow : s.store.live k = s.store.counters k := hlast.live hk
    have hlater := hlast.live hk'
    have hcovered := h.covered hk
    simp only [Store.value] at hcovered ⊢
    rw [hlater, ← hnow]
    exact hcovered
  · -- nobody has written the counter; what there was of it may expire
    have hvalue' : 0 ≤ Store.value { s.store with clock := s.store.clock + seconds } k := by
      unfold Store.value at hvalue ⊢
      split
      · exact le_refl 0
      · rename_i c hc
        rw [live_of_later hc] at hvalue
        exact hvalue
    refine ⟨h.inv, h.inWindow, Or.inr ⟨hvalue', huntouched⟩, ?_, h.bounded⟩
    intro _
    exact (held_eq_zero huntouched).trans_le hvalue'

/-- A request that has written nothing is added. -/
theorem WindowInv.append (h : WindowInv redis k limit s) {q : Request}
    (hchecked : q.checked.changes = []) (hafter : q.after.changes = []) (hinv : q.Inv redis)
    (hwindow : q.InWindow k) :
    WindowInv redis k limit { s with requests := s.requests ++ [q] } := by
  have hnet : q.net k = 0 := by
    rw [Request.net, hchecked, hafter, net_nil, add_zero]
  have hkeys : k ∉ q.keys := by
    simp [Request.keys, hchecked, hafter]
  have hmem : ∀ {P : Request → Prop}, (∀ r ∈ s.requests, P r) → P q →
      ∀ r ∈ s.requests ++ [q], P r := by
    intro P hP hq r hr
    rcases List.mem_append.1 hr with hr | hr
    · exact hP r hr
    · rw [List.mem_singleton.1 hr]
      exact hq
  refine ⟨hmem h.inv hinv, hmem h.inWindow hwindow, ?_, ?_, ?_⟩
  · rcases h.lasting with hlast | ⟨hvalue, huntouched⟩
    · exact Or.inl hlast
    · exact Or.inr ⟨hvalue, hmem huntouched hkeys⟩
  · intro hk
    have hheld : System.held k { s with requests := s.requests ++ [q] } = s.held k := by
      simp [System.held, hnet]
    rw [hheld]
    exact h.covered hk
  · have hheld : System.heldChecked k limit { s with requests := s.requests ++ [q] } =
        s.heldChecked k limit := by
      simp [System.heldChecked, hnet]
    rw [hheld]
    exact h.bounded

/-- An open request starts to release or to settle: so far it holds what it held. -/
theorem WindowInv.reopen (h : WindowInv redis k limit s) {i : ℕ} {q q' : Request}
    (hq : s.requests[i]? = some q) (hopen : q.after.changes = [])
    (hchecked : q'.checked = q.checked) (hafter : q'.after.changes = [])
    (hinv : ∀ r ∈ s.requests.set i q', r.Inv redis)
    (hwindow : ∀ r ∈ s.requests.set i q', r.InWindow k) :
    WindowInv redis k limit { s with requests := s.requests.set i q' } := by
  -- a request that begins to release or to settle still holds what it held
  have hnet : q'.net k = q.net k := by
    rw [Request.net, Request.net, hchecked, hafter, hopen]
  have hcounted : q'.counted k limit = q.counted k limit := by
    rw [Request.counted, hchecked]
    rfl
  refine ⟨hinv, hwindow, ?_, ?_, ?_⟩
  · rcases h.lasting with hlast | ⟨hvalue, huntouched⟩
    · exact Or.inl hlast
    · refine Or.inr ⟨hvalue, ?_⟩
      intro r hr
      rcases List.mem_or_eq_of_mem_set hr with hr | rfl
      · exact huntouched r hr
      · have hkeys := huntouched q (List.mem_of_getElem? hq)
        rw [Request.keys, hopen] at hkeys
        rw [Request.keys, hchecked, hafter]
        exact hkeys
  · intro hk
    have hheld : System.held k { s with requests := s.requests.set i q' } = s.held k := by
      rw [System.held, sum_requests_set hq, hnet]
      exact sub_add_cancel _ _
    rw [hheld]
    exact h.covered hk
  · have hheld : System.heldChecked k limit { s with requests := s.requests.set i q' } =
        s.heldChecked k limit := by
      rw [System.heldChecked, sum_requests_set hq, hnet, hcounted]
      exact sub_add_cancel _ _
    rw [hheld]
    exact h.bounded

/-- The command of one request. -/
theorem WindowInv.command (h : WindowInv redis k limit s) (hk : k.Current s.store.clock) {i : ℕ}
    {q q' : Request} (hq : s.requests[i]? = some q) {env : Lookups} {c : Command}
    (hmoves : Moves k limit q q' c (s.store.exec env c).1)
    (hinv : ∀ r ∈ s.requests.set i q', r.Inv redis)
    (hwindow : ∀ r ∈ s.requests.set i q', r.InWindow k) :
    WindowInv redis k limit ⟨(s.store.exec env c).2, s.requests.set i q'⟩ := by
  -- the counter and what is held of it move by the same amount
  have hvalue := Store.value_exec env s.store hmoves.ttl.pos k
  have hheld : System.held k ⟨(s.store.exec env c).2, s.requests.set i q'⟩ =
      s.held k + net (changeOf c (s.store.exec env c).1) k := by
    rw [System.held, sum_requests_set hq, hmoves.net]
    simp only [System.held]
    ring
  have hcovered : System.held k ⟨(s.store.exec env c).2, s.requests.set i q'⟩ ≤
      (s.store.exec env c).2.value k := by
    rw [hheld, hvalue]
    have := h.covered hk
    linarith
  refine ⟨hinv, hwindow, ?_, fun _ => hcovered, ?_⟩
  · by_cases hlast : s.store.Lasting k ∨ (c.target = some k ∧ ∀ amount, c ≠ .incrBy k amount)
    · exact Or.inl (lasting_exec hmoves.ttl hk hlast)
    · rw [not_or] at hlast
      rcases h.lasting with hl | ⟨hnonneg, huntouched⟩
      · exact absurd hl hlast.1
      · -- the counter is still unwritten, and only the undo of a write would write it without a TTL
        have hfresh := huntouched q (List.mem_of_getElem? hq)
        have htarget : c.target ≠ some k := by
          intro htarget
          refine hlast.2 ⟨htarget, ?_⟩
          intro amount hc
          exact hfresh (hmoves.written amount hc)
        refine Or.inr ⟨?_, ?_⟩
        · show 0 ≤ (s.store.exec env c).2.value k
          rw [hvalue, net_changeOf_eq_zero htarget, add_zero]
          exact hnonneg
        · intro r hr hmem
          rcases List.mem_or_eq_of_mem_set hr with hr | rfl
          · exact huntouched r hr hmem
          · rcases hmoves.keys hmem with hmem | ⟨htarget', -⟩
            · exact hfresh hmem
            · exact htarget htarget'
  · by_cases hcounted : q.counted k limit = true
    · -- it holds no more than before
      have hle : System.heldChecked k limit ⟨(s.store.exec env c).2, s.requests.set i q'⟩ ≤
          s.heldChecked k limit := by
        rw [System.heldChecked, sum_requests_set hq, hmoves.net, if_pos hcounted,
          if_pos (hmoves.kept hcounted)]
        have hdown := hmoves.down hcounted
        simp only [System.heldChecked]
        linarith
      exact hle.trans h.bounded
    · by_cases hcounted' : q'.counted k limit = true
      · -- it has just passed the check, so the counter is within the bound
        rcases hmoves.counted hcounted' with hold | ⟨amount, b, hchange, hb⟩
        · exact absurd hold hcounted
        · calc System.heldChecked k limit ⟨(s.store.exec env c).2, s.requests.set i q'⟩
              ≤ System.held k ⟨(s.store.exec env c).2, s.requests.set i q'⟩ :=
                heldChecked_le_held hinv hwindow
            _ ≤ (s.store.exec env c).2.value k := hcovered
            _ ≤ b := value_of_checked hchange
            _ ≤ limit + usdcEpsilon := hb
      · -- it is not one of the counted requests, before or after
        have hsame : System.heldChecked k limit ⟨(s.store.exec env c).2, s.requests.set i q'⟩ =
            s.heldChecked k limit := by
          rw [System.heldChecked, sum_requests_set hq, if_neg hcounted, if_neg hcounted']
          simp only [System.heldChecked]
          ring
        rw [hsame]
        exact h.bounded

/-- An open request has run no program after its check. -/
theorem Request.Inv.open_after {q : Request} (h : q.Inv redis) {res : BudgetReservation}
    (hres : q.reservation = some res) : q.after.changes = [] := by
  unfold Request.reservation at hres
  split at hres
  · rename_i res' hstage
    have hinv := h.2
    simp only [hstage] at hinv
    exact hinv.1
  · simp at hres

/-- What one step inside the window preserves. -/
theorem WindowInv.step (h : WindowInv redis k limit s) {a : Label} (hstep : WithinWindow k s a) :
    WindowInv redis k limit (step redis s a) := by
  have heffect := step_effect redis s a
  have hinv := heffect.inv h.inv
  have hwindow := heffect.inWindow hstep h.inWindow
  generalize Budget.step redis s a = s' at heffect hinv hwindow ⊢
  cases heffect with
  | idle => exact h
  | tick seconds => exact h.tick hstep.1 seconds
  | arrive wallet tenant hestimate =>
    exact h.append rfl rfl (hinv _ (by simp)) (hwindow _ (by simp))
  | spend hcost hnone => exact h.append rfl rfl (hinv _ (by simp)) (hwindow _ (by simp))
  | @advance i q hq env =>
    have hmem := List.mem_of_getElem? hq
    rcases advance_moves limit (h.inv q hmem) (h.inWindow q hmem) env s.store with
      hidle | ⟨c, hstore, hmoves⟩
    · rw [hidle] at hinv hwindow ⊢
      have hsame : s.requests.set i q = s.requests := by
        obtain ⟨hi, rfl⟩ := List.getElem?_eq_some_iff.1 hq
        exact List.set_getElem_self hi
      simp only [hsame]
      exact h
    · rw [hstore]
      exact h.command hstep.1 hq hmoves hinv hwindow
  | release hq hres =>
    exact h.reopen hq ((h.inv _ (List.mem_of_getElem? hq)).open_after hres) rfl rfl hinv hwindow
  | settle hq hres hactual =>
    exact h.reopen hq ((h.inv _ (List.mem_of_getElem? hq)).open_after hres) rfl rfl hinv hwindow

end

/-- Through any run within one window, the requests that passed the check of a counter against a
limit do not exceed it: the estimates of those that are neither released nor settled and the
actual costs of the settled ones. The run starts with the window: no reservation of an earlier
window settles inside it. -/
theorem budget_limit_holds (redis : Bool) {store : Store} {k : CounterKey}
    (hstart : 0 ≤ store.value k) {limit : ℚ} (hlimit : 0 ≤ limit) {as : List Label}
    (has : AllSteps (step redis) (WithinWindow k) ⟨store, []⟩ as) :
    ((run (step redis) ⟨store, []⟩ as).requests.map (Request.exposure k limit)).sum ≤
      limit + usdcEpsilon := by
  have hinit : WindowInv redis k limit ⟨store, []⟩ := by
    refine ⟨by simp, by simp, Or.inr ⟨hstart, by simp⟩, fun _ => hstart, ?_⟩
    -- nobody holds anything yet
    have hpos : 0 ≤ usdcEpsilon := by norm_num [usdcEpsilon]
    show (0 : ℚ) ≤ limit + usdcEpsilon
    linarith
  have hinv : WindowInv redis k limit (run (step redis) ⟨store, []⟩ as) :=
    run_invariant_of_allSteps (fun s a h hstep => h.step hstep) hinit has
  -- what an admitted request may spend is at most what it holds
  refine le_trans ?_ hinv.bounded
  apply List.sum_le_sum
  intro q hq
  exact exposure_le (hinv.inv q hq) (hinv.inWindow q hq)

/-! ## A wallet that moves to another team -/

/-- A wallet of a team with a daily limit, and no limits of its own. -/
def teamLookups (team : Uuid) (limit : ℚ) : Lookups :=
  ⟨⟨⟨none, none, none⟩, false⟩, .ok (some team), .found ⟨none, some limit, none⟩, .absent⟩

/-- A request of five USDC is checked in team 1 and settled for nothing in `team`; then a request
of 15 USDC is checked in team 2, whose daily limit is 10. -/
def teamRun (team : Uuid) : List Label :=
  ([.arrive "a" none 5] : List Label) ++ List.replicate 5 (.advance 0 (teamLookups 1 100)) ++
    ([.settle 0 0] : List Label) ++ List.replicate 8 (.advance 0 (teamLookups team 100)) ++
    ([.arrive "b" none 15] : List Label) ++ List.replicate 5 (.advance 1 (teamLookups 2 10))

def teamDay : CounterKey := ⟨.team 2, .day 1970 1 1⟩

/-- In its own team the settlement changes nothing for team 2, whose check then fails. -/
theorem team_limit_kept :
    ((run (step true) ⟨.empty 0, []⟩ (teamRun 1)).requests.map
      (Request.exposure teamDay 10)).sum ≤ 10 + usdcEpsilon := by
  apply budget_limit_holds true
  · decide +kernel
  · norm_num
  · decide +kernel

/-- In team 2 it leaves a negative amount there, and the limit of 10 lets 15 through. -/
theorem team_limit_exceeded :
    AllSteps (step true) (fun s a => teamDay.Current s.store.clock ∧ costsAtMost s a = true)
      ⟨.empty 0, []⟩ (teamRun 2) ∧
    ((run (step true) ⟨.empty 0, []⟩ (teamRun 2)).requests.map
      (Request.exposure teamDay 10)).sum = 15 ∧
    ¬ ((run (step true) ⟨.empty 0, []⟩ (teamRun 2)).requests.map
      (Request.exposure teamDay 10)).sum ≤ 10 + usdcEpsilon := by
  refine ⟨?_, ?_, ?_⟩
  · decide +kernel
  · decide +kernel
  · decide +kernel

end Solvela.Budget
