import Solvela.Budget.System

/-!
# Settlement nets to the actual cost

`log_spend` derives the keys of its counters anew, from the clock and the team membership at its
own moment. `settlement_nets_iff` says when a settled request has changed every counter it
reserved by exactly its actual cost and no other counter downwards: when the settlement was
made in the windows, and for the team, of the check.

* `logSpend_meets`, a settlement makes the changes of its entry;
* `net_spendChanges`, what these add to a counter;
* `Request.Inv.advance` and `run_inv`, every request of a run.
-/

namespace Solvela.Budget

open Solvela.Lib

/-! ## What `log_spend` writes -/

/-- The writes to the counters of one owner. -/
def settleChanges (entry : SpendLogEntry) (owner : Owner) (now : ℕ) (flags : ReservedWindows)
    (ws : List Window) : List Change :=
  ws.map fun w => ⟨owner.key now w, windowAmount entry (flags.get w), none⟩

def spendTenantChanges (entry : SpendLogEntry) (now : ℕ) : List Change :=
  match entry.settledTenant with
  | some tag =>
    settleChanges entry (.tenant entry.walletAddress tag) now entry.reserved.tenant windows
  | none => []

def spendTeamChanges (entry : SpendLogEntry) (now : ℕ) (team : Except String (Option Uuid)) :
    List Change :=
  match team with
  | .ok (some tid) => settleChanges entry (.team tid) now entry.reserved.team windows
  | _ => []

def spendWalletChanges (entry : SpendLogEntry) (now : ℕ) : List Change :=
  settleChanges entry (.wallet entry.walletAddress) now entry.reserved.wallet windows

/-- All writes of `log_spend`, by the clock and the team it was told. -/
def spendChanges (entry : SpendLogEntry) (h : History) : List Change :=
  spendWalletChanges entry h.now ++ spendTenantChanges entry h.now ++
    spendTeamChanges entry h.now h.seen.team

/-- The commands of a settlement: so far the first of the writes have been made. -/
def SpendMid (entry : SpendLogEntry) (h : History) : Command → Prop
  | .incrAndExpire k amount ttl =>
    h.changes ++ [⟨k, amount, none⟩] <+: spendChanges entry h ∧ ttl = k.period.window.ttl
  | .now => h.changes = []
  | .teamForWallet _ => h.changes = spendWalletChanges entry h.now ++ spendTenantChanges entry h.now
  | _ => False

/-- The settlement wrote everything, or had nothing to do. -/
def SpendPost (redis : Bool) (entry : SpendLogEntry) (h : History) (_ : Unit) : Prop :=
  h.changes = if redis = false ∨ entry.costUsdc = 0 ∧ entry.estimatedCostUsdc = none then []
    else spendChanges entry h

section
variable {can : History → (c : Command) → Reply c → Prop} {entry : SpendLogEntry}

/-- The settlement of one owner's windows. -/
theorem settleWindows_meets {owner : Owner} {flags : ReservedWindows} {ws : List Window}
    {h : History} (rest : List Change)
    (hrest : h.changes ++ settleChanges entry owner h.now flags ws ++ rest =
      spendChanges entry h) :
    Prog.Meets (ghost can) (SpendMid entry)
      (fun h' _ => h'.changes = h.changes ++ settleChanges entry owner h.now flags ws ∧
        h.SameTold h')
      h (settleWindows entry owner h.now flags ws) := by
  induction ws generalizing h with
  | nil => exact ⟨by simp [settleChanges], rfl, rfl⟩
  | cons w ws ih =>
    have hsplit : settleChanges entry owner h.now flags (w :: ws) =
        [⟨owner.key h.now w, windowAmount entry (flags.get w), none⟩] ++
          settleChanges entry owner h.now flags ws := rfl
    rw [hsplit] at hrest ⊢
    refine Prog.Meets.ask ⟨⟨settleChanges entry owner h.now flags ws ++ rest, ?_⟩,
      by simp [Owner.key]⟩ ?_
    · rw [← hrest]
      simp
    -- the rest is what the other windows still have to add
    · intro r _
      have hnext := @ih (h.record (.incrAndExpire (owner.key h.now w)
        (windowAmount entry (flags.get w)) w.ttl) r) (by
          rw [History.record_changes]
          show h.changes ++ [_] ++ settleChanges entry owner h.now flags ws ++ rest =
            spendChanges entry h
          rw [← hrest]
          simp)
      refine hnext.mono (fun _ _ hmid => hmid) ?_
      intro h' _ hpost
      refine ⟨?_, hpost.2.1, hpost.2.2⟩
      rw [hpost.1, History.record_changes]
      simp [changeOf]
      rfl

/-- The tenant's counters come after the wallet's. -/
theorem settleTenant_meets {h : History} (hchanges : h.changes = spendWalletChanges entry h.now) :
    Prog.Meets (ghost can) (SpendMid entry)
      (fun h' _ => h'.now = h.now ∧
        h'.changes = spendWalletChanges entry h.now ++ spendTenantChanges entry h.now)
      h (settleTenant entry h.now) := by
  unfold settleTenant
  cases htag : entry.settledTenant with
  | none =>
    refine ⟨rfl, ?_⟩
    rw [hchanges, spendTenantChanges, htag, List.append_nil]
  | some tag =>
    have hwindows : spendTenantChanges entry h.now =
        settleChanges entry (.tenant entry.walletAddress tag) h.now entry.reserved.tenant
          windows := by
      rw [spendTenantChanges, htag]
    refine (settleWindows_meets (spendTeamChanges entry h.now h.seen.team) ?_).mono
      (fun _ _ hmid => hmid) ?_
    · rw [hchanges, ← hwindows]
      rfl
    · intro h' _ hpost
      refine ⟨hpost.2.1, ?_⟩
      rw [hpost.1, hchanges, hwindows]

/-- The team's counters come last, for the team that is found now. -/
theorem settleTeam_meets {h : History}
    (hchanges : h.changes = spendWalletChanges entry h.now ++ spendTenantChanges entry h.now) :
    Prog.Meets (ghost can) (SpendMid entry) (fun h' _ => h'.changes = spendChanges entry h')
      h (settleTeam entry h.now) := by
  refine Prog.Meets.ask hchanges ?_
  rintro (e | _ | tid) _
  · show h.changes = _ ++ []
    rw [hchanges, List.append_nil]
    rfl
  · show h.changes = _ ++ []
    rw [hchanges, List.append_nil]
    rfl
  · have hteam := @settleWindows_meets can entry (.team tid) entry.reserved.team windows
      (h.record (.teamForWallet entry.walletAddress) (.ok (some tid))) [] (by
        show h.changes ++ _ ++ [] = _ ++ spendTeamChanges entry h.now (.ok (some tid))
        rw [hchanges, List.append_nil]
        rfl)
    refine hteam.mono (fun _ _ hmid => hmid) ?_
    rintro h' _ ⟨hchanges', hnow, hseen⟩
    rw [hchanges', spendChanges, hnow, hseen]
    show h.changes ++ _ = _ ++ spendTeamChanges entry h.now (.ok (some tid))
    rw [hchanges]
    rfl

/-- A settlement makes the changes that its entry says, and no others. -/
theorem logSpend_meets (redis : Bool) (now₀ : ℕ) (seen₀ : Lookups) :
    Prog.Meets (ghost can) (SpendMid entry) (SpendPost redis entry) ⟨[], now₀, seen₀⟩
      (logSpend redis entry) := by
  by_cases hskip : redis = false ∨ entry.costUsdc = 0 ∧ entry.estimatedCostUsdc = none
  · rw [logSpend, if_pos hskip]
    show _ = _
    rw [if_pos hskip]
  · rw [logSpend, if_neg hskip]
    refine Prog.Meets.ask rfl ?_
    intro now _
    have hwallet := @settleWindows_meets can entry (.wallet entry.walletAddress)
      entry.reserved.wallet windows ⟨[], now, seen₀⟩
      (spendTenantChanges entry now ++ spendTeamChanges entry now seen₀.team) (by
        simp only [spendChanges, List.nil_append, List.append_assoc]
        rfl)
    refine hwallet.bind ?_
    rintro h₁ _ ⟨hchanges₁, hnow₁, -⟩
    have hnow₁ : h₁.now = now := hnow₁
    have htenant := @settleTenant_meets can entry h₁ (by rw [hnow₁]; exact hchanges₁)
    rw [hnow₁] at htenant
    refine htenant.bind ?_
    rintro h₂ _ ⟨hnow₂, hchanges₂⟩
    have hteam := @settleTeam_meets can entry h₂ (by rw [hnow₂]; exact hchanges₂)
    rw [hnow₂] at hteam
    refine hteam.mono (fun _ _ hmid => hmid) ?_
    intro h' _ hchanges'
    show _ = _
    rw [hchanges', if_neg hskip]

end

/-! ## Net changes of a settlement -/

/-- The counter is of the window of a time. -/
def CounterKey.Current (k : CounterKey) (now : ℕ) : Prop := k.period = k.period.window.period now

instance (k : CounterKey) (now : ℕ) : Decidable (k.Current now) :=
  inferInstanceAs (Decidable (_ = _))

/-- The flags that decide how the counters of an owner are settled. -/
def settledFlags (entry : SpendLogEntry) (team : Except String (Option Uuid)) :
    Owner → Option ReservedWindows
  | .wallet wallet => if wallet = entry.walletAddress then some entry.reserved.wallet else none
  | .tenant wallet tag =>
    if wallet = entry.walletAddress ∧ entry.settledTenant = some tag then some entry.reserved.tenant
    else none
  | .team tid =>
    match team with
    | .ok (some tid') => if tid = tid' then some entry.reserved.team else none
    | _ => none

/-- A counter is found again by its owner, the time and its window. -/
theorem key_eq_iff {k : CounterKey} {owner : Owner} {now : ℕ} {w : Window} :
    owner.key now w = k ↔ k.owner = owner ∧ k.Current now ∧ w = k.period.window := by
  constructor
  · rintro rfl
    exact ⟨rfl, by simp [CounterKey.Current, Owner.key], by simp [Owner.key]⟩
  · rintro ⟨rfl, hcurrent, rfl⟩
    unfold Owner.key
    rw [← hcurrent]

/-- What the windows of one owner add to a counter. -/
theorem net_settleChanges (entry : SpendLogEntry) (owner : Owner) (now : ℕ)
    (flags : ReservedWindows) (k : CounterKey) :
    net (settleChanges entry owner now flags windows) k =
      if k.owner = owner ∧ k.Current now then windowAmount entry (flags.get k.period.window)
      else 0 := by
  by_cases hk : k.owner = owner ∧ k.Current now
  · rw [if_pos hk]
    cases hw : k.period.window <;>
      simp [settleChanges, windows, Change.delta, key_eq_iff, hk, hw]
  · have hne : ∀ w, owner.key now w ≠ k := by
      intro w hkey
      rw [key_eq_iff] at hkey
      exact hk ⟨hkey.1, hkey.2.1⟩
    rw [if_neg hk]
    apply net_eq_zero
    intro c hc
    obtain ⟨w, -, rfl⟩ := List.mem_map.1 hc
    exact hne w

/-- What the settlement adds for the tenant. -/
theorem net_spendTenantChanges (entry : SpendLogEntry) (now : ℕ) (k : CounterKey) :
    net (spendTenantChanges entry now) k =
      if (∃ tag, entry.settledTenant = some tag ∧ k.owner = .tenant entry.walletAddress tag) ∧
        k.Current now then windowAmount entry (entry.reserved.tenant.get k.period.window)
      else 0 := by
  unfold spendTenantChanges
  cases htag : entry.settledTenant with
  | none => simp
  | some tag => simp [net_settleChanges]

/-- What it adds for the team that its own lookup found. -/
theorem net_spendTeamChanges (entry : SpendLogEntry) (now : ℕ)
    (team : Except String (Option Uuid)) (k : CounterKey) :
    net (spendTeamChanges entry now team) k =
      if (∃ tid, team = .ok (some tid) ∧ k.owner = .team tid) ∧ k.Current now then
        windowAmount entry (entry.reserved.team.get k.period.window) else 0 := by
  unfold spendTeamChanges
  rcases team with e | _ | tid
  · simp
  · simp
  · simp [net_settleChanges]

/-- What it adds to a counter in all. -/
theorem net_spendChanges (entry : SpendLogEntry) (h : History) (k : CounterKey) :
    net (spendChanges entry h) k =
      match settledFlags entry h.seen.team k.owner with
      | none => 0
      | some flags =>
        if k.Current h.now then windowAmount entry (flags.get k.period.window) else 0 := by
  rw [spendChanges, net_append, net_append, spendWalletChanges, net_settleChanges,
    net_spendTenantChanges, net_spendTeamChanges]
  cases howner : k.owner with
  | wallet wallet =>
    by_cases hwallet : wallet = entry.walletAddress
    · simp [settledFlags, hwallet]
    · simp [settledFlags, hwallet]
  | tenant wallet tag =>
    by_cases htenant : wallet = entry.walletAddress ∧ entry.settledTenant = some tag
    · simp [settledFlags, htenant]
    · simp only [settledFlags, if_neg htenant]
      simp only [reduceCtorEq, false_and, and_false, exists_false, if_false, Owner.tenant.injEq,
        add_zero, zero_add, ite_eq_right_iff, and_imp, forall_exists_index]
      rintro tag' htag' hwallet rfl
      exact absurd ⟨hwallet, htag'⟩ htenant
  | team tid =>
    rcases h.seen.team with e | _ | tid'
    · simp [settledFlags]
    · simp [settledFlags]
    · by_cases htid : tid = tid'
      · simp [settledFlags, htid]
      · simp [settledFlags, htid]

/-! ## Requests -/

/-- Every reply is possible. -/
abbrev anyReply : Prog.Ghost Command Reply History := ghost fun _ _ _ => True

/-- The program that a request runs meets its specification from here on. -/
def Request.Inv (redis : Bool) (q : Request) : Prop :=
  0 ≤ q.estimate ∧
  match q.stage with
  | .checking p =>
    q.after.changes = [] ∧
    Prog.Meets anyReply (CheckMid q.estimate)
      (AllOrNothing q.estimate (Reserves redis q.wallet q.tenant q.estimate)) q.checked p
  | .releasing res p =>
    Reserves redis q.wallet q.tenant q.estimate q.checked res ∧
    Prog.Meets anyReply (RollbackMid q.checked.changes q.estimate)
      (fun h _ => q.checked.changes ++ h.changes =
        q.checked.changes ++ q.checked.changes.map Change.undo) q.after p
  | .settling res actual p =>
    Reserves redis q.wallet q.tenant q.estimate q.checked res ∧ 0 ≤ actual ∧
    Prog.Meets anyReply (SpendMid (q.entry res actual)) (SpendPost redis (q.entry res actual))
      q.after p
  | .spending p =>
    q.checked.changes = [] ∧ ∃ entry : SpendLogEntry, 0 ≤ entry.costUsdc ∧
      entry.estimatedCostUsdc = none ∧
      Prog.Meets anyReply (SpendMid entry) (SpendPost redis entry) q.after p

/-- One command keeps the specification of a program. -/
theorem advance_meets {α : Type} {mid : History → Command → Prop} {post : History → α → Prop}
    (env : Lookups) (s : Store) {h : History} {p : Program α}
    (hp : Prog.Meets anyReply mid post h p) :
    Prog.Meets anyReply mid post (advance env s h p).2.1 (advance env s h p).2.2 := by
  cases p with
  | done a => exact hp
  | call c next => exact hp.reply trivial

/-- A request's own step keeps its invariant. -/
theorem Request.Inv.advance {redis : Bool} {q : Request} (h : q.Inv redis) (env : Lookups)
    (s : Store) : (q.advance env s).2.Inv redis := by
  obtain ⟨hestimate, h⟩ := h
  unfold Request.advance
  cases hstage : q.stage with
  | checking p =>
    simp only [hstage] at h ⊢
    exact ⟨hestimate, h.1, advance_meets env s h.2⟩
  | releasing res p =>
    simp only [hstage] at h ⊢
    exact ⟨hestimate, h.1, advance_meets env s h.2⟩
  | settling res actual p =>
    simp only [hstage] at h ⊢
    exact ⟨hestimate, h.1, h.2.1, advance_meets env s h.2.2⟩
  | spending p =>
    simp only [hstage] at h ⊢
    obtain ⟨hchecked, entry, hcost, hnone, hp⟩ := h
    exact ⟨hestimate, hchecked, entry, hcost, hnone, advance_meets env s hp⟩

/-- An open reservation is of exactly the limited windows. -/
theorem Request.Inv.reserves {redis : Bool} {q : Request} (h : q.Inv redis)
    {res : BudgetReservation} (hres : q.reservation = some res) :
    Reserves redis q.wallet q.tenant q.estimate q.checked res := by
  unfold Request.reservation at hres
  split at hres
  · rename_i res' hstage
    have hinv := h.2
    simp only [hstage] at hinv
    obtain rfl : res' = res := Option.some.inj hres
    exact hinv.2
  · simp at hres

/-- So does a release. -/
theorem Request.Inv.releases {redis : Bool} {q : Request} (h : q.Inv redis) (now : ℕ)
    {res : BudgetReservation} (hres : q.reservation = some res) :
    (q.releases redis now res).Inv redis :=
  ⟨h.1, h.reserves hres, releaseReservation_meets (h.reserves hres) now _⟩

/-- So does a settlement. -/
theorem Request.Inv.settles {redis : Bool} {q : Request} (h : q.Inv redis) (now : ℕ)
    {res : BudgetReservation} (hres : q.reservation = some res) {actual : ℚ}
    (hactual : 0 ≤ actual) : (q.settles redis now res actual).Inv redis :=
  ⟨h.1, h.reserves hres, hactual, logSpend_meets redis now _⟩

/-- The invariant of a request, for all of them. -/
theorem Effect.inv {redis : Bool} {s s' : System} {a : Label} (heffect : Effect redis s a s')
    (hinv : ∀ q ∈ s.requests, q.Inv redis) : ∀ q ∈ s'.requests, q.Inv redis := by
  -- a request that was not there before, or stands in the place of an old one
  have hset : ∀ (i : ℕ) (r : Request), r.Inv redis → ∀ q ∈ s.requests.set i r, q.Inv redis := by
    intro i r hr q hq
    rcases List.mem_or_eq_of_mem_set hq with hq | rfl
    · exact hinv q hq
    · exact hr
  have happend : ∀ r : Request, r.Inv redis → ∀ q ∈ s.requests ++ [r], q.Inv redis := by
    intro r hr q hq
    rcases List.mem_append.1 hq with hq | hq
    · exact hinv q hq
    · rw [List.mem_singleton.1 hq]
      exact hr
  cases heffect with
  | idle => exact hinv
  | tick seconds => exact hinv
  | arrive wallet tenant hestimate =>
    exact happend _ ⟨hestimate, rfl, checkBudget_meets redis wallet tenant _ _⟩
  | spend hcost hnone =>
    exact happend _ ⟨le_refl 0, rfl, _, hcost, hnone, logSpend_meets redis _ _⟩
  | advance hq env =>
    exact hset _ _ ((hinv _ (List.mem_of_getElem? hq)).advance env s.store)
  | release hq hres =>
    exact hset _ _ ((hinv _ (List.mem_of_getElem? hq)).releases s.store.clock hres)
  | settle hq hres hactual =>
    exact hset _ _ ((hinv _ (List.mem_of_getElem? hq)).settles s.store.clock hres hactual)

/-- Every request of every run has the invariant. -/
theorem run_inv (redis : Bool) (store : Store) (as : List Label) :
    ∀ q ∈ (run (step redis) ⟨store, []⟩ as).requests, q.Inv redis :=
  run_invariant (fun s a h => (step_effect redis s a).inv h) (by simp) as

/-! ## When a settlement nets to the actual cost -/

/-- Every reserved counter has been changed by the actual cost, and no other one downwards. -/
def Request.Netted (q : Request) (res : BudgetReservation) (actual : ℚ) : Prop :=
  ∀ k, if k ∈ res.committed.map Prod.fst then q.net k = actual else 0 ≤ q.net k

/-- The settlement was told the periods of the windows that the check had reserved, and the same
team if a window of the team was among them. -/
structure Request.SameWindows (q : Request) (r : ReservedBudgetWindows) : Prop where
  period : ∀ w, r.wallet.get w = true ∨ r.tenant.get w = true ∨ r.team.get w = true →
    w.period q.after.now = w.period q.checked.now
  team : ∀ w, r.team.get w = true → q.after.seen.team = q.checked.seen.team

/-- A settled request: its two histories. -/
theorem settled_histories {redis : Bool} {q : Request} (h : q.Inv redis)
    {res : BudgetReservation} {actual : ℚ} (hq : q.settled = some (res, actual)) :
    Reserves redis q.wallet q.tenant q.estimate q.checked res ∧ 0 ≤ actual ∧
      q.after.changes = if redis then spendChanges (q.entry res actual) q.after else [] := by
  unfold Request.settled at hq
  split at hq
  · rename_i res' actual' hstage
    have hinv := h.2
    simp only [hstage] at hinv
    simp only [Option.some.injEq, Prod.mk.injEq] at hq
    obtain ⟨rfl, rfl⟩ := hq
    refine ⟨hinv.1, hinv.2.1, ?_⟩
    have hpost : q.after.changes = _ := hinv.2.2
    rw [hpost]
    cases redis <;> simp [Request.entry]
  · simp at hq

section
variable {redis : Bool} {q : Request} {res : BudgetReservation} {actual : ℚ}

/-- A reserved window is one of those reserved. -/
theorem any_of_get {r : ReservedWindows} {w : Window} (h : r.get w = true) : r.any = true := by
  cases w <;> simp_all [ReservedWindows.get, ReservedWindows.any]

theorem windowAmount_entry (b : Bool) :
    windowAmount (q.entry res actual) b = if b then actual - q.estimate else actual := rfl

/-- How the counters of a reserved window are settled. -/
theorem settledFlags_of_flagged {owner : Owner} {w : Window}
    (henforced : res.tenantEnforced = res.reserved.tenant.any)
    (hflag : Flagged q.wallet q.tenant q.checked.seen.team res.reserved owner w)
    (team : Except String (Option Uuid)) :
    ((∃ tid, owner = .team tid ∧ team ≠ .ok (some tid)) ∧
      settledFlags (q.entry res actual) team owner = none) ∨
    ((∀ tid, owner = .team tid → team = .ok (some tid)) ∧
      ∃ flags, settledFlags (q.entry res actual) team owner = some flags ∧
        flags.get w = true) := by
  rcases hflag with ⟨rfl, hw⟩ | ⟨tid, -, rfl, hw⟩ | ⟨tag, htag, rfl, hw⟩
  · exact Or.inr ⟨by simp, res.reserved.wallet, by simp [settledFlags, Request.entry], hw⟩
  · by_cases hteam : team = .ok (some tid)
    · refine Or.inr ⟨by simp [hteam], res.reserved.team, ?_, hw⟩
      simp [settledFlags, Request.entry, hteam]
    · refine Or.inl ⟨⟨tid, rfl, hteam⟩, ?_⟩
      simp only [settledFlags]
      split
      · rename_i tid'
        rw [if_neg]
        rintro rfl
        exact hteam rfl
      · rfl
  · refine Or.inr ⟨by simp, res.reserved.tenant, ?_, hw⟩
    simp [settledFlags, Request.entry, SpendLogEntry.settledTenant, henforced, any_of_get hw, htag]

/-- A counter that is settled as a reserved one is of a reserved window. -/
theorem flagged_of_settledFlags {owner : Owner} {w : Window} {flags : ReservedWindows}
    {team : Except String (Option Uuid)}
    (hsettled : settledFlags (q.entry res actual) team owner = some flags)
    (hflag : flags.get w = true)
    (hteam : ∀ tid, team = .ok (some tid) → res.reserved.team.get w = true →
      q.checked.seen.team = .ok (some tid)) :
    Flagged q.wallet q.tenant q.checked.seen.team res.reserved owner w := by
  cases owner with
  | wallet wallet =>
    simp only [settledFlags] at hsettled
    split at hsettled
    · rename_i hwallet
      rw [← Option.some.inj hsettled] at hflag
      exact Or.inl ⟨by rw [hwallet]; rfl, hflag⟩
    · simp at hsettled
  | tenant wallet tag =>
    simp only [settledFlags] at hsettled
    split at hsettled
    · rename_i htenant
      rw [← Option.some.inj hsettled] at hflag
      have htag : q.tenant = some tag := by
        have hif := htenant.2
        unfold SpendLogEntry.settledTenant at hif
        split at hif
        · exact hif
        · simp at hif
      exact Or.inr (Or.inr ⟨tag, htag, by rw [htenant.1]; rfl, hflag⟩)
    · simp at hsettled
  -- the team was looked up again, and has to be the one of the check
  | team tid =>
    simp only [settledFlags] at hsettled
    split at hsettled
    · rename_i tid'
      split at hsettled
      · rename_i htid
        rw [← Option.some.inj hsettled] at hflag
        exact Or.inr (Or.inl ⟨tid', hteam tid' rfl hflag, by rw [htid], hflag⟩)
      · simp at hsettled
    · simp at hsettled

/-- What the settlement adds to a counter of an owner, by the owner. -/
theorem net_spend_key (entry : SpendLogEntry) (h : History) (owner : Owner) (now : ℕ)
    (w : Window) :
    net (spendChanges entry h) (owner.key now w) =
      match settledFlags entry h.seen.team owner with
      | none => 0
      | some flags =>
        if w.period h.now = w.period now then windowAmount entry (flags.get w) else 0 := by
  rw [net_spendChanges]
  simp only [Owner.key, CounterKey.Current, window_period, eq_comm]

/-- The settlement of a reserved window was made in its period, and for its team. -/
def SameWindow (q : Request) (owner : Owner) (w : Window) : Prop :=
  w.period q.after.now = w.period q.checked.now ∧
    ∀ tid, owner = .team tid → q.after.seen.team = .ok (some tid)

/-- A reserved counter is changed by the estimate and, in the same window, by the difference. -/
theorem net_reserved (hres : Reserves true q.wallet q.tenant q.estimate q.checked res)
    (hafter : q.after.changes = spendChanges (q.entry res actual) q.after) {owner : Owner}
    {w : Window} (hflag : Flagged q.wallet q.tenant q.checked.seen.team res.reserved owner w) :
    (SameWindow q owner w → q.net (owner.key q.checked.now w) = actual) ∧
    (¬ SameWindow q owner w → q.net (owner.key q.checked.now w) = q.estimate) := by
  have hmem : owner.key q.checked.now w ∈ q.checked.changes.map Change.key :=
    (hres.mem_iff _).2 ⟨owner, w, rfl, hflag⟩
  rw [Request.net, hres.committing.net_eq, if_pos hmem, hafter, net_spend_key]
  rcases @settledFlags_of_flagged q res actual owner w hres.enforced hflag q.after.seen.team with
    ⟨⟨tid, howner, hteam⟩, hsettled⟩ | ⟨hteam, flags, hsettled, hget⟩
  · -- the team is another one now
    rw [hsettled]
    refine ⟨fun hsame => absurd (hsame.2 tid howner) hteam, fun _ => add_zero _⟩
  · rw [hsettled]
    simp only [hget, windowAmount_entry, if_true]
    by_cases hperiod : w.period q.after.now = w.period q.checked.now
    · rw [if_pos hperiod]
      refine ⟨fun _ => by ring, fun hother => absurd ⟨hperiod, hteam⟩ hother⟩
    · rw [if_neg hperiod]
      refine ⟨fun hsame => absurd hsame.1 hperiod, fun _ => add_zero _⟩

/-- A counter that was not reserved is not changed downwards, unless it is settled as one that
was. -/
theorem net_unreserved (hres : Reserves true q.wallet q.tenant q.estimate q.checked res)
    (hafter : q.after.changes = spendChanges (q.entry res actual) q.after) (hactual : 0 ≤ actual)
    (hcond : actual = q.estimate ∨ q.SameWindows res.reserved) {k : CounterKey}
    (hk : k ∉ q.checked.changes.map Change.key) : 0 ≤ q.net k := by
  rw [Request.net, hres.committing.net_eq, if_neg hk, zero_add, hafter, net_spendChanges]
  split
  · exact le_refl 0
  · rename_i flags hsettled
    split
    · rename_i hcurrent
      rw [windowAmount_entry]
      split
      · rename_i hget
        rcases hcond with heq | hsame
        · rw [heq, sub_self]
        · -- then it is a reserved counter after all
          have hflag := flagged_of_settledFlags hsettled hget
            (fun tid htid hw => (hsame.team _ hw).symm.trans htid)
          have hperiod : k.period.window.period q.after.now =
              k.period.window.period q.checked.now := by
            apply hsame.period
            rcases hflag with ⟨-, hw⟩ | ⟨tid, -, -, hw⟩ | ⟨tag, -, -, hw⟩
            · exact Or.inl hw
            · exact Or.inr (Or.inr hw)
            · exact Or.inr (Or.inl hw)
          refine absurd ((hres.mem_iff k).2 ⟨k.owner, k.period.window, ?_, hflag⟩) hk
          rw [Owner.key, ← hperiod, ← hcurrent]
      · exact hactual
    · exact le_refl 0

/-- The reserved counters of a netted request were all settled in the window of the check. -/
theorem Request.Netted.sameWindows (hnetted : q.Netted res actual)
    (hres : Reserves true q.wallet q.tenant q.estimate q.checked res)
    (hafter : q.after.changes = spendChanges (q.entry res actual) q.after)
    (hne : actual ≠ q.estimate) : q.SameWindows res.reserved := by
  have hsame : ∀ owner w, Flagged q.wallet q.tenant q.checked.seen.team res.reserved owner w →
      SameWindow q owner w := by
    intro owner w hflag
    -- in another window the reserved counter keeps the whole estimate
    by_contra hother
    have hkey := hnetted (owner.key q.checked.now w)
    have hmem : owner.key q.checked.now w ∈ res.committed.map Prod.fst := by
      rw [hres.committed, List.map_map]
      exact (hres.mem_iff _).2 ⟨owner, w, rfl, hflag⟩
    rw [if_pos hmem, (net_reserved hres hafter hflag).2 hother] at hkey
    exact hne hkey.symm
  have hteam : ∀ w, res.reserved.team.get w = true →
      ∃ tid, q.checked.seen.team = .ok (some tid) := by
    intro w hw
    rw [hres.reserved] at hw
    obtain ⟨owner, limits, hfamily⟩ := familyReserved_get hw
    obtain ⟨tid, hteam, -⟩ := teamFamily_some hfamily
    exact ⟨tid, hteam⟩
  constructor
  -- each reserved window has an owner whose counter it is
  · rintro w (hw | hw | hw)
    · exact (hsame (.wallet q.wallet) w (Or.inl ⟨rfl, hw⟩)).1
    · have hw' := hw
      rw [hres.reserved] at hw'
      obtain ⟨owner, limits, hfamily⟩ := familyReserved_get hw'
      obtain ⟨tag, htag, -⟩ := tenantFamily_some hfamily
      exact (hsame (.tenant q.wallet tag) w (Or.inr (Or.inr ⟨tag, htag, rfl, hw⟩))).1
    · obtain ⟨tid, htid⟩ := hteam w hw
      exact (hsame (.team tid) w (Or.inr (Or.inl ⟨tid, htid, rfl, hw⟩))).1
  · intro w hw
    obtain ⟨tid, htid⟩ := hteam w hw
    rw [htid]
    exact (hsame (.team tid) w (Or.inr (Or.inl ⟨tid, htid, rfl, hw⟩))).2 tid rfl

/-- In the same windows every flagged counter is the one that was reserved. -/
theorem Request.SameWindows.sameWindow (hsame : q.SameWindows res.reserved) {owner : Owner}
    {w : Window} (hflag : Flagged q.wallet q.tenant q.checked.seen.team res.reserved owner w) :
    SameWindow q owner w := by
  rcases hflag with ⟨rfl, hw⟩ | ⟨tid, hteam, rfl, hw⟩ | ⟨tag, -, rfl, hw⟩
  · exact ⟨hsame.period w (Or.inl hw), by simp⟩
  · refine ⟨hsame.period w (Or.inr (Or.inr hw)), ?_⟩
    rintro tid' htid
    rw [hsame.team w hw, hteam, Owner.team.inj htid]
  · exact ⟨hsame.period w (Or.inr (Or.inl hw)), by simp⟩

/-- Without a client nothing is reserved and nothing is written. -/
theorem netted_noRedis (hres : Reserves false q.wallet q.tenant q.estimate q.checked res)
    (hafter : q.after.changes = []) : q.Netted res actual := by
  intro k
  have hchecked : q.checked.changes = [] := hres.changes
  rw [hres.committed, Request.net, hchecked, hafter]
  simp

end

/-- In every run, a request whose settlement is complete has changed the counters it reserved by
its actual cost, and no other one downwards, exactly when the actual cost is the estimate or the
settlement was told the windows and the team of the check. -/
theorem settlement_nets_iff (redis : Bool) (store : Store) (as : List Label) {q : Request}
    (hq : q ∈ (run (step redis) ⟨store, []⟩ as).requests) {res : BudgetReservation} {actual : ℚ}
    (hsettled : q.settled = some (res, actual)) :
    q.Netted res actual ↔
      actual = q.estimate ∨
        q.SameWindows (limitedReserved redis q.wallet q.tenant q.checked.seen) := by
  obtain ⟨hres, hactual, hafter⟩ := settled_histories (run_inv redis store as q hq) hsettled
  rw [← hres.reserved]
  cases redis with
  -- without Redis nothing is reserved, and nothing is settled
  | false =>
    have hnone : ∀ w, ReservedWindows.none.get w = false := by
      intro w
      cases w <;> rfl
    have hsame : q.SameWindows res.reserved := by
      rw [hres.reserved]
      exact ⟨by simp [limitedReserved, hnone], by simp [limitedReserved, hnone]⟩
    exact ⟨fun _ => Or.inr hsame, fun _ => netted_noRedis hres hafter⟩
  | true =>
    have hafter : q.after.changes = spendChanges (q.entry res actual) q.after := hafter
    constructor
    · intro hnetted
      by_cases heq : actual = q.estimate
      · exact Or.inl heq
      · exact Or.inr (hnetted.sameWindows hres hafter heq)
    -- counter by counter: a reserved one, or one that was not
    · intro hcond k
      have hcommitted : res.committed.map Prod.fst = q.checked.changes.map Change.key := by
        rw [hres.committed, List.map_map]
        rfl
      rw [hcommitted]
      by_cases hk : k ∈ q.checked.changes.map Change.key
      · rw [if_pos hk]
        obtain ⟨owner, w, rfl, hflag⟩ := (hres.mem_iff k).1 hk
        obtain ⟨hsame, hother⟩ := net_reserved hres hafter hflag
        rcases hcond with heq | hcond
        · -- with no difference to settle the window does not matter
          by_cases hw : SameWindow q owner w
          · exact hsame hw
          · rw [hother hw, heq]
        · exact hsame (hcond.sameWindow hflag)
      · rw [if_neg hk]
        exact net_unreserved hres hafter hactual hcond hk

/-! ## An hour that ends between the check and the settlement -/

/-- A store with no counters. -/
def Store.empty (clock : ℕ) : Store := ⟨clock, fun _ => none⟩

/-- A wallet with a limit on the hour, and no team. -/
def hourlyLookups : Lookups :=
  ⟨⟨⟨some 10, none, none⟩, false⟩, .ok none, .absent, .absent⟩

/-- The check of one USDC, a second that may pass, and the settlement of half of it. -/
def hourlyRun (seconds : ℕ) : System :=
  run (step true) ⟨.empty 3599, []⟩
    (([.arrive "agent" none 1] : List Label) ++ List.replicate 4 (.advance 0 hourlyLookups) ++
      ([.tick seconds, .settle 0 (1 / 2)] : List Label) ++
      List.replicate 5 (.advance 0 hourlyLookups))

def hourlyReservation : BudgetReservation :=
  ⟨[(⟨.wallet "agent", .hour 1970 1 1 0⟩, 1)], false, ⟨⟨true, false, false⟩, .none, .none⟩⟩

/-- Its request. -/
def hourlyRequest (seconds : ℕ) : Request :=
  ((hourlyRun seconds).requests[0]?).getD (.checks true 0 "" none 0)

/-- The request of the run is one of its requests. -/
theorem hourlyRequest_mem (seconds : ℕ) (h : (hourlyRun seconds).requests.length = 1) :
    hourlyRequest seconds ∈ (hourlyRun seconds).requests := by
  unfold hourlyRequest
  rw [List.getElem?_eq_getElem (by omega), Option.getD_some]
  exact List.getElem_mem _

/-- In one hour the settlement is for the counter that was reserved. -/
theorem settlement_same_hour :
    hourlyRequest 0 ∈ (hourlyRun 0).requests ∧
      (hourlyRequest 0).settled = some (hourlyReservation, 1 / 2) ∧
      (hourlyRequest 0).Netted hourlyReservation (1 / 2) := by
  have hmem : hourlyRequest 0 ∈ (hourlyRun 0).requests :=
    hourlyRequest_mem 0 (by decide +kernel)
  have hsettled : (hourlyRequest 0).settled = some (hourlyReservation, 1 / 2) := by
    decide +kernel
  have hnow : (hourlyRequest 0).after.now = (hourlyRequest 0).checked.now := by decide +kernel
  have hteam : (limitedReserved true (hourlyRequest 0).wallet (hourlyRequest 0).tenant
      (hourlyRequest 0).checked.seen).team = .none := by decide +kernel
  refine ⟨hmem, hsettled, ?_⟩
  refine (settlement_nets_iff true (.empty 3599) _ hmem hsettled).2 (Or.inr ⟨?_, ?_⟩)
  · intro w _
    rw [hnow]
  · intro w hw
    rw [hteam] at hw
    cases w <;> exact absurd hw Bool.false_ne_true

/-- The hour ends before the settlement: the difference goes to the next hour. -/
theorem settlement_next_hour :
    hourlyRequest 1 ∈ (hourlyRun 1).requests ∧
      (hourlyRequest 1).settled = some (hourlyReservation, 1 / 2) ∧
      (hourlyRequest 1).net ⟨.wallet "agent", .hour 1970 1 1 0⟩ = 1 ∧
      (hourlyRequest 1).net ⟨.wallet "agent", .hour 1970 1 1 1⟩ = -1 / 2 ∧
      ¬ (hourlyRequest 1).Netted hourlyReservation (1 / 2) := by
  have hmem : hourlyRequest 1 ∈ (hourlyRun 1).requests :=
    hourlyRequest_mem 1 (by decide +kernel)
  have hold : (hourlyRequest 1).net ⟨.wallet "agent", .hour 1970 1 1 0⟩ = 1 := by
    decide +kernel
  refine ⟨hmem, by decide +kernel, hold, by decide +kernel, ?_⟩
  intro hnetted
  have hkey := hnetted ⟨.wallet "agent", .hour 1970 1 1 0⟩
  rw [if_pos (by decide), hold] at hkey
  norm_num at hkey

end Solvela.Budget
