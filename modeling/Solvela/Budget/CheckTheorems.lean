import Solvela.Budget.History

/-!
# Budget checks reserve all or nothing

`checkBudget_meets` specifies `check_budget` over the histories it can have, whatever the replies
are: while it commits, every counter has been written at most once and with the estimate; a
rejection takes all of it back; an admission leaves exactly the limited windows of the wallet, its
team and an enforced tenant. Running alone against a store this is `checkBudget_atomic`.

* `rollbackCommitted_meets` and `incrCheckOrRollback_meets`, one window;
* `commitWindows_meets`, `commitTeam_meets` and `commitTenant_meets`, the windows of one owner;
* `checkBudget_meets` and `releaseReservation_meets`, the whole of them.
-/

namespace Solvela.Budget

open Solvela.Lib

/-! ## Commits and their rollback -/

/-- Every change is the estimate, and no counter is written twice. -/
structure Committing (estimate : ℚ) (cs : List Change) : Prop where
  amount : ∀ c ∈ cs, c.amount = estimate
  nodup : (cs.map Change.key).Nodup

/-- Commits, some of which have been taken back. -/
def Undoing (estimate : ℚ) (cs : List Change) : Prop :=
  ∃ undone rest, Committing estimate (undone ++ rest) ∧
    cs = (undone ++ rest) ++ undone.map Change.undo

/-- What is being committed can still be undone. -/
theorem Committing.undoing {estimate : ℚ} {cs : List Change} (h : Committing estimate cs) :
    Undoing estimate cs :=
  ⟨[], cs, h, by simp⟩

/-- A check adds the estimate once to each counter that it has committed to. -/
theorem Committing.net_eq {estimate : ℚ} {cs : List Change} (h : Committing estimate cs)
    (k : CounterKey) : net cs k = if k ∈ cs.map Change.key then estimate else 0 := by
  induction cs with
  | nil => simp
  | cons c cs ih =>
    have hnodup := List.nodup_cons.1 h.nodup
    have htail := ih ⟨fun d hd => h.amount d (List.mem_cons_of_mem c hd), hnodup.2⟩
    have hamount := h.amount c List.mem_cons_self
    rw [net_cons, htail]
    by_cases hk : c.key = k
    · subst hk
      simp [Change.delta, hnodup.1, hamount]
    · simp [Change.delta, hk, Ne.symm hk]

/-- One counter more. -/
theorem Committing.append {estimate : ℚ} {cs : List Change} (h : Committing estimate cs)
    {c : Change} (hamount : c.amount = estimate) (hfresh : c.key ∉ cs.map Change.key) :
    Committing estimate (cs ++ [c]) where
  amount := by
    intro d hd
    rcases List.mem_append.1 hd with hd | hd
    · exact h.amount d hd
    · rw [List.mem_singleton.1 hd]
      exact hamount
  nodup := by
    rw [List.map_append, List.nodup_append]
    refine ⟨h.nodup, by simp, ?_⟩
    intro k hk k' hk' heq
    have hck : k' = c.key := by simpa using hk'
    exact hfresh (by rw [← hck, ← heq]; exact hk)

/-- A counter holds the whole estimate or nothing of it. -/
theorem Undoing.net_eq {estimate : ℚ} {cs : List Change} (h : Undoing estimate cs)
    (k : CounterKey) : net cs k = 0 ∨ net cs k = estimate := by
  obtain ⟨undone, rest, hcommit, rfl⟩ := h
  have hrest : Committing estimate rest := by
    refine ⟨fun c hc => hcommit.amount c (List.mem_append_right undone hc), ?_⟩
    have hnodup := hcommit.nodup
    rw [List.map_append] at hnodup
    exact hnodup.of_append_right
  have hnet : net (undone ++ rest ++ undone.map Change.undo) k = net rest k := by
    rw [net_append, net_append, net_undo]
    ring
  rw [hnet, hrest.net_eq]
  split
  · exact Or.inr rfl
  · exact Or.inl rfl

/-- The commands of a rollback, over what was written before its program started. -/
def RollbackMid (base : List Change) (estimate : ℚ) (h : History) : Command → Prop
  | .incrBy k amount =>
    amount = -estimate ∧ Undoing estimate (base ++ h.changes) ∧
      k ∈ (base ++ h.changes).map Change.key
  | _ => False

section
variable {can : History → (c : Command) → Reply c → Prop} {estimate : ℚ}

/-- The rollback undoes every commit, and while it does, no counter is lowered twice. -/
theorem rollbackCommitted_meets {base undone rest : List Change}
    (hcommit : Committing estimate (undone ++ rest)) {h : History}
    (hchanges : base ++ h.changes = (undone ++ rest) ++ undone.map Change.undo) :
    Prog.Meets (ghost can) (RollbackMid base estimate)
      (fun h' _ => base ++ h'.changes = (undone ++ rest) ++ (undone ++ rest).map Change.undo)
      h (rollbackCommitted (rest.map Change.entry)) := by
  induction rest generalizing undone h with
  | nil =>
    show base ++ h.changes = _
    rw [hchanges, List.append_nil]
  | cons c rest ih =>
    have hamount := hcommit.amount c (by simp)
    refine Prog.Meets.ask ⟨by rw [hamount], ⟨undone, c :: rest, hcommit, hchanges⟩, ?_⟩ ?_
    · rw [hchanges]
      simp
    intro r _
    have hassoc : undone ++ c :: rest = (undone ++ [c]) ++ rest := by simp
    rw [hassoc] at hcommit hchanges ⊢
    apply ih hcommit
    show base ++ (h.record (.incrBy c.key (-c.amount)) r).changes = _
    rw [History.record_changes, ← List.append_assoc, hchanges]
    simp [changeOf, Change.undo]

/-! ## The check -/

/-- The commands of a check. -/
def CheckMid (estimate : ℚ) (h : History) : Command → Prop
  | .incrCheck k amount _ ttl =>
    ttl = k.period.window.ttl ∧ amount = estimate ∧ Committing estimate h.changes ∧
      k ∉ h.changes.map Change.key
  | .incrBy k amount =>
    amount = -estimate ∧ Undoing estimate h.changes ∧ k ∈ h.changes.map Change.key
  | .incrAndExpire _ _ _ => False
  | _ => Committing estimate h.changes

/-- What a rejected request has written is all taken back. -/
def TakenBack (estimate : ℚ) (h : History) : Prop :=
  ∃ cs, Committing estimate cs ∧ h.changes = cs ++ cs.map Change.undo

/-- A check that was taken back adds nothing to any counter. -/
theorem TakenBack.net_eq {h : History} (hback : TakenBack estimate h) (k : CounterKey) :
    net h.changes k = 0 := by
  obtain ⟨cs, -, hcs⟩ := hback
  rw [hcs, net_append, net_undo]
  ring

/-- A rejection has written nothing in total, and `ok` holds of an admission. -/
def AllOrNothing {α : Type} (estimate : ℚ) (ok : History → α → Prop) (h : History) :
    Except UsageError α → Prop
  | .error _ => TakenBack estimate h
  | .ok a => ok h a

/-- The rejection of a request after the commits of its history. -/
theorem reject_meets {α : Type} {ok : History → α → Prop} {h : History}
    (hcommit : Committing estimate h.changes) (e : UsageError) :
    Prog.Meets (ghost can) (CheckMid estimate) (AllOrNothing estimate ok) h
      (reject (h.changes.map Change.entry) e) := by
  have hroll : Prog.Meets (ghost can) (RollbackMid [] estimate)
      (fun h' _ => h'.changes = h.changes ++ h.changes.map Change.undo) h
      (rollbackCommitted (h.changes.map Change.entry)) :=
    @rollbackCommitted_meets can estimate [] [] h.changes hcommit h (by simp)
  have hcheck : Prog.Meets (ghost can) (CheckMid estimate)
      (fun h' _ => h'.changes = h.changes ++ h.changes.map Change.undo) h
      (rollbackCommitted (h.changes.map Change.entry)) := by
    refine hroll.mono ?_ fun _ _ hback => hback
    intro g c hc
    cases c with
    | incrBy k amount => exact hc
    | _ => exact absurd hc id
  refine hcheck.bind ?_
  intro g _ hback
  exact ⟨h.changes, hcommit, hback⟩

/-- The commits of one family. -/
def limited (estimate : ℚ) (owner : Owner) (now : ℕ) (limits : Limits) (ws : List Window) :
    List Change :=
  ws.filterMap fun w =>
    (limits.get w).map fun limit => ⟨owner.key now w, estimate, some (limit + usdcEpsilon)⟩

/-- The windows that have a limit. -/
def Limits.reserved (l : Limits) : ReservedWindows :=
  ⟨l.hourly.isSome, l.daily.isSome, l.monthly.isSome⟩

/-- The flags after the windows of `ws`. -/
def marked (limits : Limits) (ws : List Window) (r : ReservedWindows) : ReservedWindows :=
  ws.foldl (fun r w => if (limits.get w).isSome then r.mark w else r) r

/-- Each window that has a limit is marked. -/
theorem marked_windows (limits : Limits) : marked limits windows .none = limits.reserved := by
  obtain ⟨hourly, daily, monthly⟩ := limits
  cases hourly <;> cases daily <;> cases monthly <;> rfl

/-- At one time, owners and windows have their own keys. -/
theorem key_injective {owner owner' : Owner} {now : ℕ} {w w' : Window}
    (h : owner.key now w = owner'.key now w') : owner = owner' ∧ w = w' := by
  simp only [Owner.key, CounterKey.mk.injEq] at h
  refine ⟨h.1, ?_⟩
  have hperiod := h.2
  cases w <;> cases w' <;> simp [Window.period] at hperiod ⊢

/-- What the program was told has not changed. -/
def History.SameTold (h h' : History) : Prop := h'.now = h.now ∧ h'.seen = h.seen

/-- An admission that has added `cs` to the commits, with the flags of their windows. -/
structure Added (estimate : ℚ) (h h' : History) (cs : List Change) (flags : ReservedWindows)
    (committed : Committed) (reserved : ReservedWindows) : Prop where
  changes : h'.changes = h.changes ++ cs
  committing : Committing estimate h'.changes
  committed_eq : committed = h'.changes.map Change.entry
  reserved_eq : reserved = flags

/-- A family without limits adds nothing. -/
theorem Added.nothing {h h' : History} (hcommit : Committing estimate h.changes)
    (hchanges : h'.changes = h.changes) :
    Added estimate h h' [] .none (h.changes.map Change.entry) .none :=
  ⟨by rw [hchanges, List.append_nil], by rw [hchanges]; exact hcommit, by rw [hchanges], rfl⟩

/-- One window: its counter is committed to, or everything is taken back. -/
theorem incrCheckOrRollback_meets {key : CounterKey} {limit : ℚ} {ttl : ℕ}
    (httl : ttl = key.period.window.ttl)
    {h : History} (hcommit : Committing estimate h.changes)
    (hfresh : key ∉ h.changes.map Change.key) :
    Prog.Meets (ghost can) (CheckMid estimate)
      (fun h' result =>
        h.SameTold h' ∧ h'.changes = h.changes ++
          match result with
          | .error _ => []
          | .ok _ => [⟨key, estimate, some (limit + usdcEpsilon)⟩])
      h (incrCheckOrRollback key estimate limit ttl) := by
  refine Prog.Meets.ask ⟨httl, rfl, hcommit, hfresh⟩ ?_
  intro cur _
  have hrecord := h.record_changes (.incrCheck key estimate (limit + usdcEpsilon) ttl) cur
  simp only [changeOf] at hrecord
  by_cases hover : cur > limit + usdcEpsilon
  · rw [if_pos hover] at hrecord ⊢
    exact ⟨⟨rfl, rfl⟩, hrecord⟩
  · rw [if_neg hover] at hrecord ⊢
    exact ⟨⟨rfl, rfl⟩, hrecord⟩

/-- The windows of one owner. -/
theorem commitWindows_meets (wallet : String) {owner : Owner} {now : ℕ} {limits : Limits}
    {ws : List Window} (hws : ws.Nodup) {h : History} (hcommit : Committing estimate h.changes)
    (hfresh : ∀ w ∈ ws, owner.key now w ∉ h.changes.map Change.key) (r : ReservedWindows) :
    Prog.Meets (ghost can) (CheckMid estimate)
      (AllOrNothing estimate fun h' (committed, reserved) =>
        Added estimate h h' (limited estimate owner now limits ws) (marked limits ws r) committed
          reserved ∧ h.SameTold h')
      h (commitWindows wallet estimate owner now limits ws (h.changes.map Change.entry) r) := by
  induction ws generalizing h r with
  | nil =>
    simp only [commitWindows]
    exact ⟨⟨by simp [limited], hcommit, rfl, rfl⟩, rfl, rfl⟩
  | cons w ws ih =>
    obtain ⟨hw, hws⟩ := List.nodup_cons.1 hws
    rw [List.forall_mem_cons] at hfresh
    cases hlimit : limits.get w with
    | none =>
      -- a window without a limit is left out
      have hlimited : limited estimate owner now limits (w :: ws) =
          limited estimate owner now limits ws := by
        simp [limited, hlimit]
      have hmarked : marked limits (w :: ws) r = marked limits ws r := by
        simp [marked, hlimit]
      rw [hlimited, hmarked]
      simp only [commitWindows, hlimit]
      exact ih hws hcommit hfresh.2 r
    | some limit =>
      have hlimited : limited estimate owner now limits (w :: ws) =
          [⟨owner.key now w, estimate, some (limit + usdcEpsilon)⟩] ++
            limited estimate owner now limits ws := by
        simp [limited, hlimit]
      have hmarked : marked limits (w :: ws) r = marked limits ws (r.mark w) := by
        simp [marked, hlimit]
      rw [hlimited, hmarked]
      simp only [commitWindows, hlimit]
      have httl : w.ttl = (owner.key now w).period.window.ttl := by simp [Owner.key]
      refine (incrCheckOrRollback_meets httl hcommit hfresh.1).bind ?_
      rintro g (current | total) ⟨htold, hchanges⟩
      · -- the script has undone its own addition
        rw [List.append_nil] at hchanges
        rw [← hchanges] at hcommit ⊢
        exact reject_meets hcommit _
      · have hentries : h.changes.map Change.entry ++ [(owner.key now w, estimate)] =
            g.changes.map Change.entry := by
          rw [hchanges]
          simp [Change.entry]
        have hcommit' : Committing estimate g.changes := by
          rw [hchanges]
          exact hcommit.append rfl hfresh.1
        have hfresh' : ∀ v ∈ ws, owner.key now v ∉ g.changes.map Change.key := by
          intro v hv hmem
          rw [hchanges, List.map_append, List.mem_append] at hmem
          rcases hmem with hmem | hmem
          · exact hfresh.2 v hv hmem
          · have hkey : owner.key now v = owner.key now w := by simpa using hmem
            rw [(key_injective hkey).2] at hv
            exact hw hv
        rw [hentries]
        refine (ih hws hcommit' hfresh' (r.mark w)).mono (fun _ _ hmid => hmid) ?_
        rintro h' (e | ⟨committed, reserved⟩) hpost
        · exact hpost
        · refine ⟨⟨?_, hpost.1.committing, hpost.1.committed_eq, hpost.1.reserved_eq⟩,
            hpost.2.1.trans htold.1, hpost.2.2.trans htold.2⟩
          rw [hpost.1.changes, hchanges, List.append_assoc]

/-- The counters of a family are its owner's. -/
theorem limited_owner {owner : Owner} {now : ℕ} {limits : Limits} {ws : List Window} {c : Change}
    (hc : c ∈ limited estimate owner now limits ws) : c.key.owner = owner := by
  simp only [limited, List.mem_filterMap, Option.map_eq_some_iff] at hc
  obtain ⟨w, -, limit, -, rfl⟩ := hc
  rfl

/-- The windows of an owner that has written nothing are fresh. -/
theorem fresh_of_owner {owner : Owner} {cs : List Change} (h : ∀ c ∈ cs, c.key.owner ≠ owner)
    (now : ℕ) (w : Window) : owner.key now w ∉ cs.map Change.key := by
  intro hmem
  obtain ⟨c, hc, hkey⟩ := List.mem_map.1 hmem
  apply h c hc
  rw [hkey]
  rfl

/-! ## The three families -/

/-- The team whose limits are enforced. -/
def Lookups.teamFamily (seen : Lookups) : Option (Owner × Limits) :=
  match seen.team, seen.teamBudget with
  | .ok (some tid), .found limits => some (.team tid, limits)
  | _, _ => none

/-- The tenant whose limits are enforced. -/
def Lookups.tenantFamily (seen : Lookups) (wallet : String) (tenant : Option String) :
    Option (Owner × Limits) :=
  match tenant, seen.tenantBudget with
  | some tag, .found limits => some (.tenant wallet tag, limits)
  | _, _ => none

def familyChanges (estimate : ℚ) (now : ℕ) : Option (Owner × Limits) → List Change
  | none => []
  | some (owner, limits) => limited estimate owner now limits windows

def familyReserved : Option (Owner × Limits) → ReservedWindows
  | none => .none
  | some (_, limits) => limits.reserved

/-- The three windows are different. -/
theorem windows_nodup : windows.Nodup := by decide

/-- The windows of the family that was looked up. -/
theorem Added.family {g h h' : History} {family : Option (Owner × Limits)} {owner : Owner}
    {limits : Limits} {committed : Committed} {reserved : ReservedWindows}
    (hadded : Added estimate g h' (limited estimate owner h.now limits windows)
      (marked limits windows .none) committed reserved)
    (hchanges : g.changes = h.changes) (hfamily : family = some (owner, limits)) :
    Added estimate h h' (familyChanges estimate h.now family) (familyReserved family) committed
      reserved := by
  rw [hfamily]
  refine ⟨?_, hadded.committing, hadded.committed_eq, ?_⟩
  · rw [hadded.changes, hchanges]
    rfl
  · rw [hadded.reserved_eq, marked_windows]
    rfl

/-- The windows of the team, if the lookup finds one. -/
theorem commitTeam_meets (wallet : String) {h : History} (hcommit : Committing estimate h.changes)
    (hfresh : ∀ c ∈ h.changes, ∀ tid, c.key.owner ≠ .team tid) :
    Prog.Meets (ghost can) (CheckMid estimate)
      (AllOrNothing estimate fun h' (committed, reserved) =>
        Added estimate h h' (familyChanges estimate h.now h'.seen.teamFamily)
          (familyReserved h'.seen.teamFamily) committed reserved ∧
        h'.now = h.now ∧ h'.seen.wallet = h.seen.wallet)
      h (commitTeam wallet estimate h.now (h.changes.map Change.entry)) := by
  refine Prog.Meets.ask hcommit ?_
  -- no answer rejects, no team adds nothing, a team goes on to its limits
  rintro (e | _ | tid) _
  · exact @reject_meets can estimate _ _ (h.record (.teamForWallet wallet) (.error e)) hcommit _
  · exact ⟨Added.nothing hcommit rfl, rfl, rfl⟩
  · refine Prog.Meets.ask hcommit ?_
    rintro (limits | _ | _) _
    · have hwindows := @commitWindows_meets can estimate wallet (.team tid) h.now limits windows
        windows_nodup ((h.record (.teamForWallet wallet) (.ok (some tid))).record
          (.teamBudgetConfig tid) (.found limits)) hcommit
        (fun w _ => fresh_of_owner (fun c hc => hfresh c hc tid) h.now w) .none
      refine hwindows.mono (fun _ _ hmid => hmid) ?_
      rintro h' (e | ⟨committed, reserved⟩) hpost
      · exact hpost
      · obtain ⟨hadded, hnow, hseen⟩ := hpost
        refine ⟨hadded.family rfl ?_, hnow, ?_⟩
        · rw [hseen]
          rfl
        · rw [hseen]
          rfl
    · exact ⟨Added.nothing hcommit rfl, rfl, rfl⟩
    · exact @reject_meets can estimate _ _
        ((h.record (.teamForWallet wallet) (.ok (some tid))).record
          (.teamBudgetConfig tid) .dbError)
        hcommit _

def ReservedWindows.any (r : ReservedWindows) : Bool := r.hourly || r.daily || r.monthly

/-- The decision on the row that was looked up, once a failed lookup is not fatal. -/
theorem commitTenant_meets (wallet : String) (requireTenant : Bool) (tenant : Option String)
    {h : History} (hcommit : Committing estimate h.changes)
    (hfresh : ∀ c ∈ h.changes, ∀ tag, c.key.owner ≠ .tenant wallet tag) :
    Prog.Meets (ghost can) (CheckMid estimate)
      (AllOrNothing estimate fun h' (committed, reserved, enforced) =>
        Added estimate h h' (familyChanges estimate h.now (h'.seen.tenantFamily wallet tenant))
          (familyReserved (h'.seen.tenantFamily wallet tenant)) committed reserved ∧
        enforced = reserved.any ∧
        h'.now = h.now ∧ h'.seen.wallet = h.seen.wallet ∧
        h'.seen.teamFamily = h.seen.teamFamily)
      h (commitTenant wallet estimate h.now requireTenant tenant (h.changes.map Change.entry)) := by
  cases tenant with
  | none =>
    -- without a tag nothing is looked up
    cases requireTenant with
    | false => exact ⟨Added.nothing hcommit rfl, rfl, rfl, rfl, rfl⟩
    | true => exact reject_meets hcommit _
  | some tag =>
    refine Prog.Meets.ask hcommit ?_
    intro lookup _
    cases lookup with
    | found limits =>
      have hwindows := @commitWindows_meets can estimate wallet (.tenant wallet tag) h.now limits
        windows windows_nodup (h.record (.tenantBudgetConfig wallet tag) (.found limits)) hcommit
        (fun w _ => fresh_of_owner (fun c hc => hfresh c hc tag) h.now w) .none
      cases requireTenant <;> {
        refine hwindows.andThen (fun g e hback => hback) ?_
        rintro h' ⟨committed, reserved⟩ ⟨hadded, hnow, hseen⟩
        refine ⟨hadded.family rfl ?_, ?_, hnow, ?_, ?_⟩
        · rw [hseen]
          rfl
        · rw [hadded.reserved_eq, marked_windows]
          rfl
        · rw [hseen]
          rfl
        · rw [hseen]
          rfl }
    | absent =>
      cases requireTenant with
      | false => exact ⟨Added.nothing hcommit rfl, rfl, rfl, rfl, rfl⟩
      | true =>
        exact @reject_meets can estimate _ _ (h.record (.tenantBudgetConfig wallet tag) .absent)
          hcommit _
    | dbError =>
      cases requireTenant with
      | false => exact ⟨Added.nothing hcommit rfl, rfl, rfl, rfl, rfl⟩
      | true =>
        exact @reject_meets can estimate _ _ (h.record (.tenantBudgetConfig wallet tag) .dbError)
          hcommit _

/-- Every window that has a limit: of the wallet, its team and an enforced tenant. -/
def limitedWindows (redis : Bool) (wallet : String) (tenant : Option String) (estimate : ℚ)
    (now : ℕ) (seen : Lookups) : List Change :=
  if redis then
    familyChanges estimate now (some (.wallet wallet, seen.wallet.toLimits)) ++
      familyChanges estimate now seen.teamFamily ++
      familyChanges estimate now (seen.tenantFamily wallet tenant)
  else []

/-- The flags of these windows. -/
def limitedReserved (redis : Bool) (wallet : String) (tenant : Option String) (seen : Lookups) :
    ReservedBudgetWindows :=
  if redis then
    ⟨seen.wallet.reserved, familyReserved (seen.tenantFamily wallet tenant),
      familyReserved seen.teamFamily⟩
  else ⟨.none, .none, .none⟩

/-- The reservation of an admitted request is of exactly the limited windows. -/
structure Reserves (redis : Bool) (wallet : String) (tenant : Option String) (estimate : ℚ)
    (h : History) (res : BudgetReservation) : Prop where
  changes : h.changes = limitedWindows redis wallet tenant estimate h.now h.seen
  committing : Committing estimate h.changes
  committed : res.committed = h.changes.map Change.entry
  reserved : res.reserved = limitedReserved redis wallet tenant h.seen
  enforced : res.tenantEnforced = res.reserved.tenant.any

/-- Nothing is committed at first. -/
theorem Committing.nil : Committing estimate [] := ⟨by simp, by simp⟩

/-- The counters of a family have its owner. -/
theorem familyChanges_owner {now : ℕ} {family : Option (Owner × Limits)} {c : Change}
    (hc : c ∈ familyChanges estimate now family) :
    ∃ limits, family = some (c.key.owner, limits) := by
  cases family with
  | none => simp [familyChanges] at hc
  | some f => exact ⟨f.2, by rw [limited_owner hc]⟩

/-- A team family is a team's. -/
theorem teamFamily_some {seen : Lookups} {owner : Owner} {limits : Limits}
    (h : seen.teamFamily = some (owner, limits)) :
    ∃ tid, seen.team = .ok (some tid) ∧ owner = .team tid := by
  unfold Lookups.teamFamily at h
  split at h
  · rename_i tid _ hteam _
    simp only [Option.some.injEq, Prod.mk.injEq] at h
    exact ⟨tid, hteam, h.1.symm⟩
  · simp at h

/-- Whatever the replies are. -/
theorem checkBudget_meets (redis : Bool) (wallet : String) (tenant : Option String) (now₀ : ℕ)
    (seen₀ : Lookups) :
    Prog.Meets (ghost can) (CheckMid estimate)
      (AllOrNothing estimate (Reserves redis wallet tenant estimate)) ⟨[], now₀, seen₀⟩
      (checkBudget redis wallet estimate tenant) := by
  have hnil : Committing estimate [] := Committing.nil
  cases redis with
  | false =>
    -- without Redis the cap decides, and there are no counters
    rw [checkBudget, if_neg Bool.false_ne_true]
    by_cases hcap : estimate > noRedisRequestCapUsdc
    · rw [if_pos hcap]
      exact ⟨[], hnil, rfl⟩
    · rw [if_neg hcap]
      exact ⟨rfl, hnil, rfl, rfl, rfl⟩
  | true =>
    rw [checkBudget, if_pos rfl]
    refine Prog.Meets.ask hnil ?_
    intro now _
    refine Prog.Meets.ask hnil ?_
    intro config _
    have hwallet := @commitWindows_meets can estimate wallet (.wallet wallet) now config.toLimits
      windows windows_nodup ⟨[], now, { seen₀ with wallet := config }⟩ hnil
      (fun w _ => fresh_of_owner (by simp) now w) .none
    refine hwallet.andThen (fun g e hback => hback) ?_
    rintro h₁ ⟨committed₁, reserved₁⟩ ⟨hadd₁, hnow₁, hseen₁⟩
    have hnow₁ : h₁.now = now := hnow₁
    have hconfig₁ : h₁.seen.wallet = config := by rw [hseen₁]
    have hchanges₁ : h₁.changes = limited estimate (.wallet wallet) now config.toLimits windows :=
      hadd₁.changes
    have hteam := @commitTeam_meets can estimate wallet h₁ hadd₁.committing (by
      intro c hc tid
      rw [hchanges₁] at hc
      rw [limited_owner hc]
      simp)
    rw [hnow₁] at hteam
    simp only [hadd₁.committed_eq]
    refine hteam.andThen (fun g e hback => hback) ?_
    rintro h₂ ⟨committed₂, reserved₂⟩ ⟨hadd₂, hnow₂, hwallet₂⟩
    have hchanges₂ : h₂.changes = limited estimate (.wallet wallet) now config.toLimits windows ++
        familyChanges estimate now h₂.seen.teamFamily := by
      rw [hadd₂.changes, hchanges₁]
    have htenant := @commitTenant_meets can estimate wallet config.requireTenant tenant h₂
      hadd₂.committing (by
        intro c hc tag
        rw [hchanges₂, List.mem_append] at hc
        rcases hc with hc | hc
        · rw [limited_owner hc]
          simp
        · obtain ⟨limits, hfamily⟩ := familyChanges_owner hc
          obtain ⟨tid, -, howner⟩ := teamFamily_some hfamily
          rw [howner]
          simp)
    rw [hnow₂] at htenant
    simp only [hadd₂.committed_eq]
    refine htenant.andThen (fun g e hback => hback) ?_
    rintro h₃ ⟨committed₃, reserved₃, enforced₃⟩ ⟨hadd₃, henforced, hnow₃, hwallet₃, hteam₃⟩
    have hconfig₃ : h₃.seen.wallet = config := by rw [hwallet₃, hwallet₂, hconfig₁]
    refine ⟨?_, hadd₃.committing, hadd₃.committed_eq, ?_, henforced⟩
    · rw [hadd₃.changes, hchanges₂, limitedWindows, if_pos rfl, hnow₃, hteam₃, hconfig₃]
      rfl
    · rw [limitedReserved, if_pos rfl, hteam₃, hconfig₃]
      show ReservedBudgetWindows.mk reserved₁ reserved₃ reserved₂ = _
      rw [hadd₁.reserved_eq, marked_windows, hadd₂.reserved_eq, hadd₃.reserved_eq]

/-- The release takes back what the check has written. -/
theorem releaseReservation_meets {redis : Bool} {wallet : String} {tenant : Option String}
    {g : History} {res : BudgetReservation} (hres : Reserves redis wallet tenant estimate g res)
    (now₀ : ℕ) (seen₀ : Lookups) :
    Prog.Meets (ghost can) (RollbackMid g.changes estimate)
      (fun h' _ => g.changes ++ h'.changes = g.changes ++ g.changes.map Change.undo)
      ⟨[], now₀, seen₀⟩ (releaseReservation redis res) := by
  cases redis with
  | false =>
    have hnone : g.changes = [] := hres.changes
    rw [hnone, releaseReservation, if_neg Bool.false_ne_true]
    rfl
  | true =>
    rw [releaseReservation, if_pos rfl, hres.committed]
    exact @rollbackCommitted_meets can estimate g.changes [] g.changes hres.committing
      ⟨[], now₀, seen₀⟩ (by simp)

/-! ## Which windows are reserved -/

/-- The counters of a family are those of its reserved windows. -/
theorem mem_familyChanges {now : ℕ} {family : Option (Owner × Limits)} {k : CounterKey} :
    k ∈ (familyChanges estimate now family).map Change.key ↔
      ∃ owner limits w, family = some (owner, limits) ∧ k = owner.key now w ∧
        (familyReserved family).get w = true := by
  cases family with
  | none => simp [familyChanges]
  | some f =>
    obtain ⟨owner, limits⟩ := f
    have hget : ∀ w, limits.reserved.get w = (limits.get w).isSome := by
      intro w
      cases w <;> rfl
    simp only [familyChanges, familyReserved, limited, List.mem_map, List.mem_filterMap,
      Option.map_eq_some_iff, Option.some.injEq, Prod.mk.injEq, hget, Option.isSome_iff_exists]
    constructor
    · rintro ⟨c, ⟨w, -, limit, hlimit, rfl⟩, rfl⟩
      exact ⟨owner, limits, w, ⟨rfl, rfl⟩, rfl, limit, hlimit⟩
    · rintro ⟨_, _, w, ⟨rfl, rfl⟩, rfl, limit, hlimit⟩
      exact ⟨_, ⟨w, by cases w <;> decide, limit, hlimit, rfl⟩, rfl⟩

/-- The window `w` of a counter's owner has been reserved, as the flags tell it. -/
def Flagged (wallet : String) (tenant : Option String) (team : Except String (Option Uuid))
    (r : ReservedBudgetWindows) (owner : Owner) (w : Window) : Prop :=
  (owner = .wallet wallet ∧ r.wallet.get w = true) ∨
  (∃ tid, team = .ok (some tid) ∧ owner = .team tid ∧ r.team.get w = true) ∨
  (∃ tag, tenant = some tag ∧ owner = .tenant wallet tag ∧ r.tenant.get w = true)

/-- A reserved window has a family. -/
theorem familyReserved_get {family : Option (Owner × Limits)} {w : Window}
    (h : (familyReserved family).get w = true) : ∃ owner limits, family = some (owner, limits) := by
  cases family with
  | none => cases w <;> simp [familyReserved, ReservedWindows.none, ReservedWindows.get] at h
  | some f => exact ⟨f.1, f.2, rfl⟩

/-- A tenant family is the tenant's of that wallet. -/
theorem tenantFamily_some {seen : Lookups} {wallet : String} {tenant : Option String}
    {owner : Owner} {limits : Limits}
    (h : seen.tenantFamily wallet tenant = some (owner, limits)) :
    ∃ tag, tenant = some tag ∧ owner = .tenant wallet tag := by
  unfold Lookups.tenantFamily at h
  split at h
  · rename_i tag _ _
    simp only [Option.some.injEq, Prod.mk.injEq] at h
    exact ⟨tag, rfl, h.1.symm⟩
  · simp at h

/-- The flags describe exactly the counters that were written. -/
theorem Reserves.mem_iff {redis : Bool} {wallet : String} {tenant : Option String} {h : History}
    {res : BudgetReservation} (hres : Reserves redis wallet tenant estimate h res)
    (k : CounterKey) :
    k ∈ h.changes.map Change.key ↔
      ∃ owner w, k = owner.key h.now w ∧
        Flagged wallet tenant h.seen.team res.reserved owner w := by
  rw [hres.changes, hres.reserved]
  cases redis with
  | false =>
    -- without Redis nothing is changed and no window is flagged
    have hget : ∀ w, ReservedWindows.none.get w = false := by
      intro w
      cases w <;> rfl
    simp [limitedWindows, limitedReserved, Flagged, hget]
  | true =>
    simp only [limitedWindows, limitedReserved, if_true, List.map_append, List.mem_append,
      mem_familyChanges]
    constructor
    -- from a change to its family, and from a family to its change
    · rintro ((⟨owner, limits, w, hfamily, rfl, hw⟩ | ⟨owner, limits, w, hfamily, rfl, hw⟩) |
        ⟨owner, limits, w, hfamily, rfl, hw⟩)
      · simp only [Option.some.injEq, Prod.mk.injEq] at hfamily
        exact ⟨owner, w, rfl, Or.inl ⟨hfamily.1.symm, hw⟩⟩
      · obtain ⟨tid, hteam, howner⟩ := teamFamily_some hfamily
        exact ⟨owner, w, rfl, Or.inr (Or.inl ⟨tid, hteam, howner, hw⟩)⟩
      · obtain ⟨tag, htag, howner⟩ := tenantFamily_some hfamily
        exact ⟨owner, w, rfl, Or.inr (Or.inr ⟨tag, htag, howner, hw⟩)⟩
    · rintro ⟨owner, w, rfl, ⟨rfl, hw⟩ | ⟨tid, hteam, rfl, hw⟩ | ⟨tag, htag, rfl, hw⟩⟩
      · exact Or.inl (Or.inl ⟨_, _, w, rfl, rfl, hw⟩)
      · obtain ⟨owner, limits, hfamily⟩ := familyReserved_get hw
        obtain ⟨tid', hteam', rfl⟩ := teamFamily_some hfamily
        obtain rfl : tid' = tid := by simpa [hteam'] using hteam
        exact Or.inl (Or.inr ⟨_, limits, w, hfamily, rfl, hw⟩)
      · obtain ⟨owner, limits, hfamily⟩ := familyReserved_get hw
        obtain ⟨tag', htag', rfl⟩ := tenantFamily_some hfamily
        obtain rfl : tag' = tag := by simpa [htag'] using htag
        exact Or.inr ⟨_, limits, w, hfamily, rfl, hw⟩

end

/-! ## Alone against a store -/

/-- A store that has followed a history from `s`, told by `env`. -/
def Follows (env : Lookups) (s s' : Store) (h : History) : Prop :=
  s'.clock = s.clock ∧ h.now = s.clock ∧ h.seen = env ∧
    ∀ k, s'.value k = s.value k + net h.changes k

/-- A history follows the store command by command. -/
theorem Follows.exec {env : Lookups} {s s' : Store} {h : History} (hs : Follows env s s' h)
    {c : Command} (hc : c.TtlPos) :
    Follows env s (s'.exec env c).2 (h.record c (s'.exec env c).1) := by
  obtain ⟨hclock, hnow, hseen, hvalue⟩ := hs
  refine ⟨by rw [Store.clock_exec, hclock], ?_, ?_, ?_⟩
  · cases c with
    | now => exact hclock
    | _ => exact hnow
  · subst hseen
    cases c <;> rfl
  · intro k
    rw [Store.value_exec env s' hc, hvalue, History.record_changes, net_append, add_assoc]

/-- The commands of a check never expire a counter at once. -/
theorem CheckMid.ttlPos {estimate : ℚ} {h : History} {c : Command} (hmid : CheckMid estimate h c) :
    c.TtlPos := by
  cases c with
  | incrCheck k amount bound ttl =>
    rw [Command.TtlPos, hmid.1]
    exact Window.ttl_pos _
  | incrAndExpire k amount ttl => exact absurd hmid id
  | _ => trivial

/-- Nor do those of a rollback. -/
theorem RollbackMid.ttlPos {base : List Change} {estimate : ℚ} {h : History} {c : Command}
    (hmid : RollbackMid base estimate h c) : c.TtlPos := by
  cases c with
  | incrBy k amount => trivial
  | _ => exact absurd hmid id

/-- A program alone against a store, by its specification. -/
theorem exec_of_meets {α : Type} {mid : History → Command → Prop} {post : History → α → Prop}
    {p : Program α} {env : Lookups} {s : Store}
    (hp : Prog.Meets (ghost fun _ _ _ => True) mid post ⟨[], s.clock, env⟩ p)
    (hmid : ∀ h c, mid h c → c.TtlPos) :
    ∃ h, Follows env s (p.exec (Store.exec env) s).2 h ∧ post h (p.exec (Store.exec env) s).1 := by
  have hstart : Follows env s s ⟨[], s.clock, env⟩ := ⟨rfl, rfl, rfl, by simp⟩
  refine Prog.Meets.exec ?_ hstart hp
  intro s' h c hs hc
  exact ⟨trivial, hs.exec (hmid h c hc)⟩

/-- A rejected check leaves every counter as it was. An admitted one has added the estimate once
to each limited window and to nothing else, its flags say which, and releasing the reservation
takes exactly that back, whatever has happened to the counters since. -/
theorem checkBudget_atomic (redis : Bool) (wallet : String) (estimate : ℚ)
    (tenant : Option String) (env : Lookups) (s : Store) :
    match (checkBudget redis wallet estimate tenant).exec (Store.exec env) s with
    | (.error _, s') => ∀ k, s'.value k = s.value k
    | (.ok res, s') =>
      ∃ keys : List CounterKey, keys.Nodup ∧
        keys = (limitedWindows redis wallet tenant estimate s.clock env).map Change.key ∧
        (∀ k, s'.value k = s.value k + if k ∈ keys then estimate else 0) ∧
        res.committed = keys.map (fun k => (k, estimate)) ∧
        (∀ k, k ∈ keys ↔ ∃ owner w, k = owner.key s.clock w ∧
          Flagged wallet tenant env.team res.reserved owner w) ∧
        res.tenantEnforced = res.reserved.tenant.any ∧
        ∀ env' s'' k, ((releaseReservation redis res).exec (Store.exec env') s'').2.value k =
          s''.value k - if k ∈ keys then estimate else 0 := by
  obtain ⟨h, hfollow, hpost⟩ := exec_of_meets
    (checkBudget_meets redis wallet tenant s.clock env) fun _ _ => CheckMid.ttlPos
  obtain ⟨-, hnow, hseen, hvalue⟩ := hfollow
  generalize (checkBudget redis wallet estimate tenant).exec (Store.exec env) s = out at *
  obtain ⟨result | res, s'⟩ := out
  -- a refusal leaves every counter as it was
  · intro k
    rw [hvalue, hpost.net_eq, add_zero]
  · have hres : Reserves redis wallet tenant estimate h res := hpost
    refine ⟨h.changes.map Change.key, hres.committing.nodup, ?_, ?_, ?_, ?_, hres.enforced, ?_⟩
    · rw [hres.changes, hnow, hseen]
    · intro k
      rw [hvalue, hres.committing.net_eq]
    · rw [hres.committed, List.map_map]
      apply List.map_congr_left
      intro c hc
      rw [Change.entry, hres.committing.amount c hc]
      rfl
    · intro k
      rw [hres.mem_iff, hnow, hseen]
    -- a release takes back what was added, from whatever there is by then
    · intro env' s'' k
      obtain ⟨h', ⟨-, -, -, hvalue'⟩, hpost'⟩ := exec_of_meets
        (releaseReservation_meets hres s''.clock env') fun _ _ => RollbackMid.ttlPos
      rw [hvalue', List.append_cancel_left hpost', net_undo, hres.committing.net_eq]
      ring

end Solvela.Budget
