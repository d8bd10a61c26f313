import Mathlib.Algebra.Order.BigOperators.Group.List
import Solvela.Budget.Settlement

/-!
# What a request holds of a counter

The counters of a current window last until it ends. Within it, the net change that a request has
made to a counter is what it holds of it, and is not negative as long as its settlement finds the
team of its check; the part that was admitted against a limit is its exposure. Each command of a
request moves what it holds by the change of the counter.

* `net_of_prefix` and `net_nonneg`, nobody holds a negative amount;
* `exposure_le`, what may still be spent is held;
* `moves_checking`, `moves_releasing`, `moves_spend` and `advance_moves`, one command of a request.
-/

namespace Solvela.Budget

open Solvela.Lib

/-! ## Counters that last -/

/-- The counter is there, and does not expire before its window ends. -/
def Store.Lasting (s : Store) (k : CounterKey) : Prop :=
  ∃ c, s.counters k = some c ∧ ∀ t, k.Current t → c.expired t = false

/-- A counter that lasts through its window is live in it. -/
theorem Store.Lasting.live {s : Store} {k : CounterKey} (h : s.Lasting k) {t : ℕ}
    (ht : k.Current t) : Store.live { s with clock := t } k = s.counters k := by
  obtain ⟨c, hc, hlast⟩ := h
  simp [Store.live, hc, hlast t ht]

/-- A counter that is live later is live now. -/
theorem live_of_later {s : Store} {k : CounterKey} {c : Counter} {seconds : ℕ}
    (h : Store.live { s with clock := s.clock + seconds } k = some c) : s.live k = some c := by
  unfold Store.live at h ⊢
  cases hc : s.counters k with
  | none => simp [hc] at h
  | some c' =>
    simp only [hc] at h ⊢
    have hexpired : c'.expired s.clock = true → c'.expired (s.clock + seconds) = true := by
      unfold Counter.expired
      split
      · exact id
      · simp only [decide_eq_true_eq]
        omega
    by_cases hnow : c'.expired s.clock = true
    · rw [if_pos (hexpired hnow)] at h
      simp at h
    · rw [if_neg hnow]
      by_cases hlater : c'.expired (s.clock + seconds) = true
      · rw [if_pos hlater] at h
        simp at h
      · rw [if_neg hlater] at h
        exact h

/-- A TTL that is set within the window outlasts it. -/
theorem lasting_expire {s : Store} {k : CounterKey} (hk : k.Current s.clock)
    (hlive : s.live k ≠ none) : (s.expire k k.period.window.ttl).Lasting k := by
  cases hc : s.live k with
  | none => exact absurd hc hlive
  | some c =>
    refine ⟨⟨c.value, some (s.clock + k.period.window.ttl)⟩, ?_, ?_⟩
    · simp [Store.expire, hc, Store.put]
    · -- two times of one period are less than the TTL apart
      intro t ht
      have hspan := period_span (hk.symm.trans ht)
      simp only [Counter.expired, decide_eq_false_iff_not]
      omega

/-- A counter that was written is there. -/
theorem live_incrByFloat_ne_none (s : Store) (k : CounterKey) (a : ℚ) :
    (s.incrByFloat k a).live k ≠ none := by
  rw [Store.live_incrByFloat, if_pos rfl]
  simp

/-- A write keeps a counter that lasts. -/
theorem lasting_incrByFloat {s : Store} {k : CounterKey} (hk : k.Current s.clock)
    (h : s.Lasting k) (a : ℚ) : (s.incrByFloat k a).Lasting k := by
  have hlive : s.live k = s.counters k := h.live hk
  obtain ⟨c, hc, hlast⟩ := h
  refine ⟨⟨c.value + a, c.expiry⟩, ?_, hlast⟩
  rw [Store.incrByFloat, hlive, hc]
  simp [Store.put]

/-- A write is to one counter. -/
theorem counters_incrByFloat_ne {s : Store} {k k' : CounterKey} (hne : k ≠ k') (a : ℚ) :
    (s.incrByFloat k' a).counters k = s.counters k := by
  unfold Store.incrByFloat
  split <;> simp [Store.put, hne]

/-- So is a time to live. -/
theorem counters_expire_ne {s : Store} {k k' : CounterKey} (hne : k ≠ k') (ttl : ℕ) :
    (s.expire k' ttl).counters k = s.counters k := by
  unfold Store.expire
  split <;> simp [Store.put, hne]

/-- The counter that a command writes. -/
def Command.target : Command → Option CounterKey
  | .incrCheck k _ _ _ => some k
  | .incrBy k _ => some k
  | .incrAndExpire k _ _ => some k
  | _ => none

/-- A command touches its target only. -/
theorem counters_exec {env : Lookups} {s : Store} {c : Command} {k : CounterKey}
    (hne : c.target ≠ some k) : (s.exec env c).2.counters k = s.counters k := by
  cases c with
  | incrCheck k' amount bound ttl =>
    have hne : k ≠ k' := fun h => hne (by rw [h]; rfl)
    simp only [Store.exec]
    split
    · rw [counters_incrByFloat_ne hne, counters_expire_ne hne, counters_incrByFloat_ne hne]
    · rw [counters_expire_ne hne, counters_incrByFloat_ne hne]
  | incrBy k' amount =>
    have hne : k ≠ k' := fun h => hne (by rw [h]; rfl)
    exact counters_incrByFloat_ne hne amount
  | incrAndExpire k' amount ttl =>
    have hne : k ≠ k' := fun h => hne (by rw [h]; rfl)
    simp only [Store.exec]
    rw [counters_expire_ne hne, counters_incrByFloat_ne hne]
  | _ => rfl

/-- A command that sets a TTL sets that of the window. -/
def Command.TtlOk : Command → Prop
  | .incrCheck k _ _ ttl => ttl = k.period.window.ttl
  | .incrAndExpire k _ ttl => ttl = k.period.window.ttl
  | _ => True

/-- A time to live that covers its window is positive. -/
theorem Command.TtlOk.pos {c : Command} (h : c.TtlOk) : c.TtlPos := by
  cases c with
  | incrCheck k amount bound ttl =>
    rw [Command.TtlPos, (show ttl = _ from h)]
    exact Window.ttl_pos _
  | incrAndExpire k amount ttl =>
    rw [Command.TtlPos, (show ttl = _ from h)]
    exact Window.ttl_pos _
  | _ => trivial

/-- Once it lasts a counter goes on to last; a command that sets its TTL makes it last. -/
theorem lasting_exec {env : Lookups} {s : Store} {c : Command} {k : CounterKey} (hc : c.TtlOk)
    (hk : k.Current s.clock)
    (h : s.Lasting k ∨ (c.target = some k ∧ ∀ amount, c ≠ .incrBy k amount)) :
    (s.exec env c).2.Lasting k := by
  by_cases htarget : c.target = some k
  · cases c with
    | incrCheck k' amount bound ttl =>
      obtain rfl : k' = k := Option.some.inj htarget
      obtain rfl : ttl = k'.period.window.ttl := hc
      have hadded : ((s.incrByFloat k' amount).expire k' k'.period.window.ttl).Lasting k' :=
        lasting_expire (by rw [Store.clock_incrByFloat]; exact hk)
          (live_incrByFloat_ne_none s k' amount)
      simp only [Store.exec]
      split
      · apply lasting_incrByFloat _ hadded
        rw [Store.clock_expire, Store.clock_incrByFloat]
        exact hk
      · exact hadded
    -- a bare increment keeps the lifetime that is there
    | incrBy k' amount =>
      obtain rfl : k' = k := Option.some.inj htarget
      rcases h with h | ⟨-, hnot⟩
      · exact lasting_incrByFloat hk h amount
      · exact absurd rfl (hnot amount)
    | incrAndExpire k' amount ttl =>
      obtain rfl : k' = k := Option.some.inj htarget
      obtain rfl : ttl = k'.period.window.ttl := hc
      exact lasting_expire (by rw [Store.clock_incrByFloat]; exact hk)
        (live_incrByFloat_ne_none s k' amount)
    | _ => simp [Command.target] at htarget
  · rcases h with ⟨c', hc', hlast⟩ | ⟨htarget', -⟩
    · exact ⟨c', by rw [counters_exec htarget, hc'], hlast⟩
    · exact absurd htarget' htarget

/-! ## What a request holds of a counter -/

section
variable {estimate : ℚ} {entry : SpendLogEntry} {redis : Bool}

/-- What a check has done so far can be undone. -/
theorem undoing_of_check {wallet : String} {tenant : Option String} {h : History}
    {p : Program (Except UsageError BudgetReservation)}
    (hp : Prog.Meets anyReply (CheckMid estimate)
      (AllOrNothing estimate (Reserves redis wallet tenant estimate)) h p) :
    Undoing estimate h.changes := by
  cases p with
  | done result =>
    cases result with
    | error e =>
      obtain ⟨cs, hcommit, hcs⟩ : TakenBack estimate h := hp
      exact ⟨cs, [], by rw [List.append_nil]; exact hcommit, by rw [hcs, List.append_nil]⟩
    | ok res =>
      have hres : Reserves redis wallet tenant estimate h res := hp
      exact hres.committing.undoing
  | call c next =>
    have hmid : CheckMid estimate h c := hp.1
    cases c with
    | incrCheck k amount bound ttl => exact hmid.2.2.1.undoing
    | incrBy k amount => exact hmid.2.1
    | incrAndExpire k amount ttl => exact absurd hmid id
    | now => exact Committing.undoing hmid
    | walletBudgetConfig wallet => exact Committing.undoing hmid
    | teamForWallet wallet => exact Committing.undoing hmid
    | teamBudgetConfig team => exact Committing.undoing hmid
    | tenantBudgetConfig wallet tag => exact Committing.undoing hmid

/-- So can what a release has left to do. -/
theorem undoing_of_release {base : List Change} (hbase : Committing estimate base) {h : History}
    {p : Program Unit}
    (hp : Prog.Meets anyReply (RollbackMid base estimate)
      (fun h _ => base ++ h.changes = base ++ base.map Change.undo) h p) :
    Undoing estimate (base ++ h.changes) := by
  cases p with
  | done result =>
    have hdone : base ++ h.changes = base ++ base.map Change.undo := hp
    exact ⟨base, [], by rw [List.append_nil]; exact hbase, by rw [hdone, List.append_nil]⟩
  | call c next =>
    have hmid : RollbackMid base estimate h c := hp.1
    cases c with
    | incrBy k amount => exact hmid.2.1
    | _ => exact absurd hmid id

/-- A settlement makes its changes in order. -/
theorem prefix_of_spend {h : History} {p : Program Unit}
    (hp : Prog.Meets anyReply (SpendMid entry) (SpendPost redis entry) h p) :
    h.changes <+: spendChanges entry h := by
  cases p with
  | done result =>
    have hpost : h.changes = _ := hp
    split at hpost
    · rw [hpost]
      exact List.nil_prefix
    · rw [hpost]
  | call c next =>
    have hmid : SpendMid entry h c := hp.1
    cases c with
    | incrAndExpire k amount ttl => exact (List.prefix_append _ _).trans hmid.1
    | now =>
      rw [(show h.changes = [] from hmid)]
      exact List.nil_prefix
    | teamForWallet wallet =>
      rw [(show h.changes = _ from hmid)]
      exact List.prefix_append _ _
    | _ => exact absurd hmid id

/-- Where no counter is written twice, a part of the writes has done all or nothing to it. -/
theorem net_of_prefix {cs ds : List Change} (hnodup : (ds.map Change.key).Nodup) (hcs : cs <+: ds)
    (k : CounterKey) : net cs k = 0 ∨ net cs k = net ds k := by
  obtain ⟨rest, rfl⟩ := hcs
  by_cases hk : k ∈ cs.map Change.key
  · right
    rw [List.map_append, List.nodup_append] at hnodup
    have hrest : net rest k = 0 := by
      apply net_eq_zero
      intro c hc hck
      exact hnodup.2.2 k hk c.key (List.mem_map_of_mem hc) hck.symm
    rw [net_append, hrest, add_zero]
  · left
    apply net_eq_zero
    intro c hc hck
    exact hk (hck ▸ List.mem_map_of_mem hc)

/-- A settlement changes each counter of an owner once. -/
theorem settleChanges_nodup (owner : Owner) (now : ℕ) (flags : ReservedWindows) :
    ((settleChanges entry owner now flags windows).map Change.key).Nodup := by
  have hkeys : (settleChanges entry owner now flags windows).map Change.key =
      windows.map (owner.key now) := by
    simp [settleChanges, Function.comp_def]
  rw [hkeys]
  refine windows_nodup.map ?_
  intro w w' h
  exact (key_injective h).2

/-- The counters that are settled for an owner are the owner's. -/
theorem settleChanges_owner {owner : Owner} {now : ℕ} {flags : ReservedWindows} {k : CounterKey}
    (hk : k ∈ (settleChanges entry owner now flags windows).map Change.key) : k.owner = owner := by
  simp only [settleChanges, List.map_map, List.mem_map] at hk
  obtain ⟨w, -, rfl⟩ := hk
  rfl

/-- Each counter of the tenant is changed once. -/
theorem spendTenantChanges_nodup (now : ℕ) :
    ((spendTenantChanges entry now).map Change.key).Nodup := by
  unfold spendTenantChanges
  split
  · exact settleChanges_nodup _ _ _
  · exact List.nodup_nil

/-- They are the tenant's. -/
theorem spendTenantChanges_owner {now : ℕ} {k : CounterKey}
    (hk : k ∈ (spendTenantChanges entry now).map Change.key) :
    ∃ tag, k.owner = .tenant entry.walletAddress tag := by
  unfold spendTenantChanges at hk
  split at hk
  · exact ⟨_, settleChanges_owner hk⟩
  · simp at hk

/-- Each counter of the team is changed once. -/
theorem spendTeamChanges_nodup (now : ℕ) (team : Except String (Option Uuid)) :
    ((spendTeamChanges entry now team).map Change.key).Nodup := by
  unfold spendTeamChanges
  split
  · exact settleChanges_nodup _ _ _
  · exact List.nodup_nil

/-- They are the team's that was found. -/
theorem spendTeamChanges_owner {now : ℕ} {team : Except String (Option Uuid)} {k : CounterKey}
    (hk : k ∈ (spendTeamChanges entry now team).map Change.key) : ∃ tid, k.owner = .team tid := by
  unfold spendTeamChanges at hk
  split at hk
  · exact ⟨_, settleChanges_owner hk⟩
  · simp at hk

/-- A settlement writes no counter twice. -/
theorem spendChanges_nodup (h : History) : ((spendChanges entry h).map Change.key).Nodup := by
  simp only [spendChanges, List.map_append, List.nodup_append]
  refine ⟨⟨settleChanges_nodup _ _ _, spendTenantChanges_nodup _, ?_⟩,
    spendTeamChanges_nodup _ _, ?_⟩
  · intro k hk k' hk' heq
    obtain ⟨tag, htag⟩ := spendTenantChanges_owner hk'
    rw [← heq, settleChanges_owner hk] at htag
    simp at htag
  · intro k hk k' hk' heq
    obtain ⟨tid, htid⟩ := spendTeamChanges_owner hk'
    rw [← heq] at htid
    rcases List.mem_append.1 hk with hk | hk
    · rw [settleChanges_owner hk] at htid
      simp at htid
    · obtain ⟨tag, htag⟩ := spendTenantChanges_owner hk
      rw [htag] at htid
      simp at htid

end

/-! ## Requests within one window -/

/-- The team that a lookup finds. -/
def foundTeam : Except String (Option Uuid) → Option Uuid
  | .ok team => team
  | .error _ => none

/-- The settlement finds no other team than the one whose windows were reserved, or there is no
difference to settle. -/
def Request.teamKept (q : Request) (res : BudgetReservation) (actual : ℚ)
    (team : Except String (Option Uuid)) : Bool :=
  decide (actual = q.estimate) || !res.reserved.team.any || (foundTeam team).isNone ||
    decide (foundTeam team = foundTeam q.checked.seen.team)

/-- The team of the settlement is the team of the check, as far as it matters. -/
theorem Request.team_of_teamKept {q : Request} {res : BudgetReservation} {actual : ℚ}
    {team : Except String (Option Uuid)} (h : q.teamKept res actual team = true) :
    actual = q.estimate ∨ ∀ tid w, team = .ok (some tid) → res.reserved.team.get w = true →
      q.checked.seen.team = .ok (some tid) := by
  by_cases heq : actual = q.estimate
  · exact Or.inl heq
  · right
    rintro tid w rfl hw
    have hsome : foundTeam (.ok (some tid)) = some tid := rfl
    have hfound : some tid = foundTeam q.checked.seen.team := by
      simpa [Request.teamKept, heq, any_of_get hw, hsome] using h
    cases hteam : q.checked.seen.team with
    | error e => simp [hteam, foundTeam] at hfound
    | ok team =>
      rw [hteam] at hfound
      rw [hfound]
      rfl

/-- A settlement in the window of the check takes back only what was reserved. -/
theorem net_settle_nonneg {redis : Bool} {q : Request} {res : BudgetReservation} {actual : ℚ}
    (hres : Reserves redis q.wallet q.tenant q.estimate q.checked res) (hactual : 0 ≤ actual)
    (hteam : q.teamKept res actual q.after.seen.team = true) {k : CounterKey}
    (hchecked : k.Current q.checked.now) (hk : k ∉ q.checked.changes.map Change.key) :
    0 ≤ net (spendChanges (q.entry res actual) q.after) k := by
  rw [net_spendChanges]
  split
  · exact le_refl 0
  · rename_i flags hsettled
    split
    · rw [windowAmount_entry]
      split
      · rename_i hget
        rcases Request.team_of_teamKept hteam with heq | hteam
        · rw [heq, sub_self]
        · have hflag := flagged_of_settledFlags hsettled hget fun tid => hteam tid _
          refine absurd ((hres.mem_iff k).2 ⟨k.owner, k.period.window, ?_, hflag⟩) hk
          rw [Owner.key, ← hchecked]
      · exact hactual
    · exact le_refl 0

/-- The settlement of a counter that was reserved. -/
theorem net_settle_reserved {redis : Bool} {q : Request} {res : BudgetReservation} {actual : ℚ}
    (hres : Reserves redis q.wallet q.tenant q.estimate q.checked res) {k : CounterKey}
    (hk : k ∈ q.checked.changes.map Change.key) :
    net (spendChanges (q.entry res actual) q.after) k = 0 ∨
      net (spendChanges (q.entry res actual) q.after) k = actual - q.estimate := by
  obtain ⟨owner, w, rfl, hflag⟩ := (hres.mem_iff k).1 hk
  rw [net_spend_key]
  rcases @settledFlags_of_flagged q res actual owner w hres.enforced hflag q.after.seen.team with
    ⟨-, hsettled⟩ | ⟨-, flags, hsettled, hget⟩
  · rw [hsettled]
    exact Or.inl rfl
  · rw [hsettled]
    simp only [hget, windowAmount_entry, if_true]
    split
    · exact Or.inr rfl
    · exact Or.inl rfl

/-- The request checks in the window of `k` and is settled as it should be. -/
def Request.InWindow (k : CounterKey) (q : Request) : Prop :=
  k.Current q.checked.now ∧
  match q.stage with
  | .settling res actual _ =>
    actual ≤ q.estimate ∧ q.teamKept res actual q.after.seen.team = true
  | _ => True

/-- A request that is being settled holds its actual cost of a reserved counter, at least. -/
theorem net_settling {redis : Bool} {k : CounterKey} {q : Request} {res : BudgetReservation}
    {actual : ℚ} {p : Program Unit} (hinv : q.Inv redis) (hwindow : q.InWindow k)
    (hstage : q.stage = .settling res actual p) :
    0 ≤ q.net k ∧ (k ∈ q.checked.changes.map Change.key → actual ≤ q.net k) := by
  have h := hinv.2
  have hw := hwindow.2
  simp only [hstage] at h hw
  obtain ⟨hres, hactual, hp⟩ := h
  obtain ⟨hle, hteam⟩ := hw
  -- a settlement changes a counter once, so it has or it has not
  have hpart := net_of_prefix (spendChanges_nodup q.after) (prefix_of_spend hp) k
  rw [Request.net, hres.committing.net_eq]
  by_cases hk : k ∈ q.checked.changes.map Change.key
  · rw [if_pos hk]
    have hsettle := @net_settle_reserved redis q res actual hres k hk
    have hestimate : net q.after.changes k = 0 ∨ net q.after.changes k = actual - q.estimate := by
      rcases hpart with hzero | hall
      · exact Or.inl hzero
      · rw [hall]
        exact hsettle
    rcases hestimate with hnet | hnet
    · rw [hnet]
      exact ⟨by linarith [hinv.1], fun _ => by linarith⟩
    · rw [hnet]
      exact ⟨by linarith, fun _ => by linarith⟩
  · rw [if_neg hk]
    have hsettle := net_settle_nonneg hres hactual hteam hwindow.1 hk
    refine ⟨?_, fun hmem => absurd hmem hk⟩
    rcases hpart with hzero | hall
    · rw [hzero, zero_add]
    · rw [hall, zero_add]
      exact hsettle

/-- Spending that was not checked only adds. -/
theorem net_spend_nonneg {entry : SpendLogEntry} (hcost : 0 ≤ entry.costUsdc)
    (hnone : entry.estimatedCostUsdc = none) (h : History) (k : CounterKey) :
    0 ≤ net (spendChanges entry h) k := by
  have hamount : ∀ b, windowAmount entry b = entry.costUsdc := by
    intro b
    simp [windowAmount, hnone]
  rw [net_spendChanges]
  split
  · exact le_refl 0
  · split
    · rw [hamount]
      exact hcost
    · exact le_refl 0

/-- No request holds a negative amount of the counter. -/
theorem net_nonneg {redis : Bool} {k : CounterKey} {q : Request} (hinv : q.Inv redis)
    (hwindow : q.InWindow k) : 0 ≤ q.net k := by
  have hestimate := hinv.1
  have h := hinv.2
  -- the checks and their rollbacks hold the estimate or nothing
  have hundo : ∀ cs, Undoing q.estimate cs → 0 ≤ Budget.net cs k := by
    intro cs hcs
    rcases hcs.net_eq k with hnet | hnet
    · rw [hnet]
    · rw [hnet]
      exact hestimate
  cases hstage : q.stage with
  | checking p =>
    simp only [hstage] at h
    rw [Request.net, h.1, net_nil, add_zero]
    exact hundo _ (undoing_of_check h.2)
  | releasing res p =>
    simp only [hstage] at h
    rw [Request.net, ← net_append]
    exact hundo _ (undoing_of_release h.1.committing h.2)
  | settling res actual p => exact (net_settling hinv hwindow hstage).1
  | spending p =>
    simp only [hstage] at h
    obtain ⟨hchecked, entry, hcost, hnone, hp⟩ := h
    rw [Request.net, hchecked, net_nil, zero_add]
    rcases net_of_prefix (spendChanges_nodup q.after) (prefix_of_spend hp) k with hnet | hnet
    · rw [hnet]
    · rw [hnet]
      exact net_spend_nonneg hcost hnone q.after k

/-! ## Exposure -/

/-- The change is a commit of the counter that was checked against a bound of at most `bound`. -/
def Change.checkedAt (k : CounterKey) (bound : ℚ) (c : Change) : Bool :=
  match c.bound with
  | none => false
  | some b => decide (c.key = k) && decide (b ≤ bound)

/-- The request has passed the check of the counter, against a limit of at most `limit`. -/
def Request.counted (k : CounterKey) (limit : ℚ) (q : Request) : Bool :=
  q.checked.changes.any (Change.checkedAt k (limit + usdcEpsilon))

/-- What an admitted request may still spend or has spent of the limit of a counter: the estimate,
as long as it is neither released nor settled, and then the actual cost. -/
def Request.exposure (k : CounterKey) (limit : ℚ) (q : Request) : ℚ :=
  if q.counted k limit then
    match q.stage with
    | .checking (.done (.ok _)) => q.estimate
    | .settling _ actual _ => actual
    | _ => 0
  else 0

/-- A counted request has passed the check of that counter. -/
theorem mem_of_counted {k : CounterKey} {limit : ℚ} {q : Request}
    (h : q.counted k limit = true) : k ∈ q.checked.changes.map Change.key := by
  obtain ⟨c, hc, hchecked⟩ := List.any_eq_true.1 h
  unfold Change.checkedAt at hchecked
  split at hchecked
  · simp at hchecked
  · simp only [Bool.and_eq_true, decide_eq_true_eq] at hchecked
    rw [← hchecked.1]
    exact List.mem_map_of_mem hc

/-- What a request may still spend is at most what it holds. -/
theorem exposure_le {redis : Bool} {k : CounterKey} {limit : ℚ} {q : Request}
    (hinv : q.Inv redis) (hwindow : q.InWindow k) :
    q.exposure k limit ≤ if q.counted k limit then q.net k else 0 := by
  unfold Request.exposure
  by_cases hcounted : q.counted k limit = true
  · rw [if_pos hcounted, if_pos hcounted]
    have hmem := mem_of_counted hcounted
    split
    · -- admitted, and neither released nor settled: it holds the estimate
      rename_i res hstage
      have h := hinv.2
      simp only [hstage] at h
      have hres : Reserves redis q.wallet q.tenant q.estimate q.checked res := h.2
      rw [Request.net, h.1, net_nil, add_zero, hres.committing.net_eq, if_pos hmem]
    · rename_i res actual p hstage
      exact (net_settling hinv hwindow hstage).2 hmem
    · exact net_nonneg hinv hwindow
  · rw [if_neg hcounted, if_neg hcounted]

/-! ## One command of one request -/

/-- The counters a request has written. -/
def Request.keys (q : Request) : List CounterKey :=
  q.checked.changes.map Change.key ++ q.after.changes.map Change.key

/-- What the command of a request does, seen from the counter `k`. -/
structure Moves (k : CounterKey) (limit : ℚ) (q q' : Request) (c : Command) (r : Reply c) :
    Prop where
  ttl : c.TtlOk
  net : q'.net k = q.net k + Budget.net (changeOf c r) k
  written : ∀ amount, c = .incrBy k amount → k ∈ q.keys
  keys : k ∈ q'.keys → k ∈ q.keys ∨ (c.target = some k ∧ ∀ amount, c ≠ .incrBy k amount)
  counted : q'.counted k limit = true → q.counted k limit = true ∨
    ∃ amount b, changeOf c r = [⟨k, amount, some b⟩] ∧ b ≤ limit + usdcEpsilon
  kept : q.counted k limit = true → q'.counted k limit = true
  down : q.counted k limit = true → Budget.net (changeOf c r) k ≤ 0

/-- A change is of its command's target. -/
theorem changeOf_key {c : Command} {r : Reply c} {d : Change} (hd : d ∈ changeOf c r) :
    c.target = some d.key := by
  cases c with
  | incrCheck k amount bound ttl =>
    simp only [changeOf] at hd
    split at hd
    · simp at hd
    · rw [List.mem_singleton.1 hd]
      rfl
  | incrBy k amount =>
    rw [List.mem_singleton.1 hd]
    rfl
  | incrAndExpire k amount ttl =>
    rw [List.mem_singleton.1 hd]
    rfl
  | _ => simp [changeOf] at hd

/-- A bounded change is the only one of its command. -/
theorem changeOf_bound {c : Command} {r : Reply c} {d : Change} {b : ℚ} (hd : d ∈ changeOf c r)
    (hb : d.bound = some b) : changeOf c r = [⟨d.key, d.amount, some b⟩] := by
  cases c with
  | incrCheck k amount bound ttl =>
    simp only [changeOf] at hd ⊢
    split at hd
    · simp at hd
    · rename_i hle
      rw [List.mem_singleton.1 hd] at hb ⊢
      rw [if_neg hle, ← hb]
  | incrBy k amount =>
    rw [List.mem_singleton.1 hd] at hb
    simp at hb
  | incrAndExpire k amount ttl =>
    rw [List.mem_singleton.1 hd] at hb
    simp at hb
  | _ => simp [changeOf] at hd

/-- The script that stays within its bound has left the counter there. -/
theorem value_of_checked {env : Lookups} {s : Store} {c : Command} {k : CounterKey}
    {amount b : ℚ} (h : changeOf c (s.exec env c).1 = [⟨k, amount, some b⟩]) :
    (s.exec env c).2.value k ≤ b := by
  cases c with
  | incrCheck k' amount' bound ttl =>
    have hchange : changeOf (.incrCheck k' amount' bound ttl)
        (s.exec env (.incrCheck k' amount' bound ttl)).1 =
          if ((s.incrByFloat k' amount').expire k' ttl).value k' > bound then []
          else [⟨k', amount', some bound⟩] := rfl
    rw [hchange] at h
    simp only [Store.exec]
    by_cases hover : ((s.incrByFloat k' amount').expire k' ttl).value k' > bound
    · rw [if_pos hover] at h
      simp at h
    · rw [if_neg hover] at h
      simp only [List.cons.injEq, Change.mk.injEq, Option.some.injEq, and_true] at h
      obtain ⟨rfl, rfl, rfl⟩ := h
      rw [if_neg hover]
      exact not_lt.1 hover
  | _ => simp [changeOf] at h

/-- A command adds nothing elsewhere. -/
theorem net_changeOf_eq_zero {c : Command} {r : Reply c} {k : CounterKey}
    (h : c.target ≠ some k) : net (changeOf c r) k = 0 := by
  apply net_eq_zero
  intro d hd hkey
  rw [← hkey] at h
  exact h (changeOf_key hd)

/-- A command of the check. -/
theorem moves_checking {redis : Bool} {k : CounterKey} (limit : ℚ) {q : Request} {c : Command}
    {next : Reply c → Program (Except UsageError BudgetReservation)} (hinv : q.Inv redis)
    (hstage : q.stage = .checking (.call c next)) (r : Reply c) :
    Moves k limit q { q with checked := q.checked.record c r, stage := .checking (next r) } c
      r := by
  have h := hinv.2
  simp only [hstage] at h
  have hmid : CheckMid q.estimate q.checked c := h.2.1
  have hchanges := q.checked.record_changes c r
  refine ⟨?_, ?_, ?_, ?_, ?_, ?_, ?_⟩
  · cases c with
    | incrCheck k amount bound ttl => exact hmid.1
    | incrAndExpire k amount ttl => exact absurd hmid id
    | _ => trivial
  · simp only [Request.net, hchanges, net_append]
    ring
  · rintro amount rfl
    exact List.mem_append_left _ hmid.2.2
  · intro hk
    simp only [Request.keys, hchanges, List.map_append, List.mem_append] at hk ⊢
    rcases hk with (hk | hk) | hk
    · exact Or.inl (Or.inl hk)
    · obtain ⟨d, hd, rfl⟩ := List.mem_map.1 hk
      by_cases hby : ∃ amount, c = .incrBy d.key amount
      · obtain ⟨amount, rfl⟩ := hby
        exact Or.inl (Or.inl hmid.2.2)
      · exact Or.inr ⟨changeOf_key hd, fun amount hc => hby ⟨amount, hc⟩⟩
    · exact Or.inl (Or.inr hk)
  · intro hcounted
    simp only [Request.counted, hchanges, List.any_append, Bool.or_eq_true] at hcounted ⊢
    rcases hcounted with hcounted | hcounted
    · exact Or.inl hcounted
    · right
      obtain ⟨d, hd, hchecked⟩ := List.any_eq_true.1 hcounted
      unfold Change.checkedAt at hchecked
      split at hchecked
      · simp at hchecked
      · rename_i b hb
        simp only [Bool.and_eq_true, decide_eq_true_eq] at hchecked
        refine ⟨d.amount, b, ?_, hchecked.2⟩
        rw [← hchecked.1]
        exact changeOf_bound hd hb
  · intro hcounted
    simp only [Request.counted, hchanges, List.any_append, Bool.or_eq_true] at hcounted ⊢
    exact Or.inl hcounted
  · intro hcounted
    have hmem := mem_of_counted hcounted
    by_cases htarget : c.target = some k
    · cases c with
      -- no counter is checked twice
      | incrCheck k' amount bound ttl =>
        obtain rfl : k' = k := Option.some.inj htarget
        exact absurd hmem hmid.2.2.2
      -- a rollback takes the estimate away again
      | incrBy k' amount =>
        obtain rfl : k' = k := Option.some.inj htarget
        simp only [changeOf, net_cons, net_nil, Change.delta, if_true, add_zero, hmid.1]
        linarith [hinv.1]
      | incrAndExpire k' amount ttl => exact absurd hmid id
      | _ => simp [Command.target] at htarget
    · rw [net_changeOf_eq_zero htarget]

/-- A command of a program that runs after the check. -/
theorem moves_after {k : CounterKey} {limit : ℚ} {q q' : Request} {c : Command} {r : Reply c}
    (hchecked : q'.checked = q.checked)
    (hafter : q'.after.changes = q.after.changes ++ changeOf c r) (httl : c.TtlOk)
    (hwritten : ∀ k amount, c = .incrBy k amount → k ∈ q.keys)
    (hdown : q.counted k limit = true → net (changeOf c r) k ≤ 0) : Moves k limit q q' c r := by
  have hsame : q'.counted k limit = q.counted k limit := by rw [Request.counted, hchecked]; rfl
  refine ⟨httl, ?_, hwritten k, ?_, ?_, ?_, hdown⟩
  · simp only [Request.net, hchecked, hafter, net_append]
    ring
  · intro hk
    simp only [Request.keys, hchecked, hafter, List.map_append, List.mem_append] at hk ⊢
    rcases hk with hk | hk | hk
    · exact Or.inl (Or.inl hk)
    · exact Or.inl (Or.inr hk)
    · obtain ⟨d, hd, rfl⟩ := List.mem_map.1 hk
      by_cases hby : ∃ amount, c = .incrBy d.key amount
      · obtain ⟨amount, hc⟩ := hby
        exact Or.inl (List.mem_append.1 (hwritten d.key amount hc))
      · exact Or.inr ⟨changeOf_key hd, fun amount hc => hby ⟨amount, hc⟩⟩
  · intro hcounted
    rw [hsame] at hcounted
    exact Or.inl hcounted
  · intro hcounted
    rw [hsame]
    exact hcounted

/-- A command of a settlement, or of spending that was not checked. -/
theorem moves_spend {redis : Bool} {entry : SpendLogEntry} {k : CounterKey} {limit : ℚ}
    {q q' : Request} {c : Command} {next : Reply c → Program Unit} {r : Reply c}
    (hp : Prog.Meets anyReply (SpendMid entry) (SpendPost redis entry) q.after (.call c next))
    (hchecked : q'.checked = q.checked) (hafter : q'.after = q.after.record c r)
    (hdown : q.counted k limit = true → net (spendChanges entry q.after) k ≤ 0) :
    Moves k limit q q' c r := by
  have hmid : SpendMid entry q.after c := hp.1
  apply moves_after hchecked
  · rw [hafter, History.record_changes]
  · cases c with
    | incrAndExpire k' amount ttl => exact hmid.2
    | incrCheck k' amount bound ttl => exact absurd hmid id
    | _ => trivial
  · rintro k' amount rfl
    exact absurd hmid id
  · intro hcounted
    by_cases htarget : c.target = some k
    · cases c with
      | incrAndExpire k' amount ttl =>
        obtain rfl : k' = k := Option.some.inj htarget
        -- this is the only write to the counter, so it is all that the settlement does to it
        have hnodup := (hmid.1.map Change.key).sublist.nodup (spendChanges_nodup q.after)
        have hfresh : net q.after.changes k' = 0 := by
          apply net_eq_zero
          intro d hd hkey
          rw [List.map_append, List.nodup_append] at hnodup
          exact hnodup.2.2 d.key (List.mem_map_of_mem hd) k' (by simp) hkey
        have hall := net_of_prefix (spendChanges_nodup q.after) hmid.1 k'
        rw [net_append, hfresh, zero_add] at hall
        rcases hall with hzero | hall
        · exact le_of_eq hzero
        · exact (le_of_eq hall).trans (hdown hcounted)
      | incrCheck k' amount bound ttl => exact absurd hmid id
      | incrBy k' amount => exact absurd hmid id
      | _ => simp [Command.target] at htarget
    · rw [net_changeOf_eq_zero htarget]

/-- A command of a release. -/
theorem moves_releasing {redis : Bool} {k : CounterKey} (limit : ℚ) {q q' : Request}
    {res : BudgetReservation} {c : Command} {next : Reply c → Program Unit} {r : Reply c}
    (hinv : q.Inv redis) (hstage : q.stage = .releasing res (.call c next))
    (hchecked : q'.checked = q.checked) (hafter : q'.after = q.after.record c r) :
    Moves k limit q q' c r := by
  have h := hinv.2
  simp only [hstage] at h
  have hmid : RollbackMid q.checked.changes q.estimate q.after c := h.2.1
  cases c with
  | incrBy k' amount =>
    apply moves_after hchecked
    · rw [hafter, History.record_changes]
    · trivial
    · intro k'' amount' hc
      have hmem := hmid.2.2
      rw [List.map_append] at hmem
      simp only [Command.incrBy.injEq] at hc
      rw [← hc.1]
      exact hmem
    · intro _
      have hamount : amount = -q.estimate := hmid.1
      simp only [changeOf, net_cons, net_nil, add_zero, Change.delta, hamount]
      split
      · linarith [hinv.1]
      · exact le_refl 0
  | _ => exact absurd hmid id

/-- A program that is done sends nothing. -/
theorem advance_done {α : Type} (env : Lookups) (s : Store) (h : History) (a : α) :
    advance env s h (.done a : Program α) = (s, h, .done a) := rfl

/-- One command of any request. -/
theorem advance_moves {redis : Bool} {k : CounterKey} (limit : ℚ) {q : Request}
    (hinv : q.Inv redis) (hwindow : q.InWindow k) (env : Lookups) (s : Store) :
    q.advance env s = (s, q) ∨
      ∃ c, (q.advance env s).1 = (s.exec env c).2 ∧
        Moves k limit q (q.advance env s).2 c (s.exec env c).1 := by
  have h := hinv.2
  cases hstage : q.stage with
  | checking p =>
    simp only [Request.advance, hstage]
    cases p with
    | done result => exact Or.inl (by rw [advance_done, ← hstage])
    | call c next => exact Or.inr ⟨c, rfl, moves_checking limit hinv hstage _⟩
  | releasing res p =>
    simp only [Request.advance, hstage]
    cases p with
    | done result => exact Or.inl (by rw [advance_done, ← hstage])
    | call c next => exact Or.inr ⟨c, rfl, moves_releasing limit hinv hstage rfl rfl⟩
  | settling res actual p =>
    have hw := hwindow.2
    simp only [hstage] at h hw
    simp only [Request.advance, hstage]
    cases p with
    | done result => exact Or.inl (by rw [advance_done, ← hstage])
    | call c next =>
      refine Or.inr ⟨c, rfl, moves_spend h.2.2 rfl rfl ?_⟩
      -- once it is settled in part, a counter holds the actual cost or still the estimate
      intro hcounted
      rcases @net_settle_reserved redis q res actual h.1 k (mem_of_counted hcounted) with
        hnet | hnet
      · exact le_of_eq hnet
      · rw [hnet]
        linarith [hw.1]
  | spending p =>
    simp only [hstage] at h
    obtain ⟨hchecked, entry, -, -, hp⟩ := h
    simp only [Request.advance, hstage]
    cases p with
    | done result => exact Or.inl (by rw [advance_done, ← hstage])
    | call c next =>
      refine Or.inr ⟨c, rfl, moves_spend hp rfl rfl ?_⟩
      intro hcounted
      have hmem := mem_of_counted hcounted
      rw [hchecked] at hmem
      simp at hmem

end Solvela.Budget
