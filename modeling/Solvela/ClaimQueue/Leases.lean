import Solvela.ClaimQueue.Processor

/-!
# Leases of claim rows

Every fetch gives a row a new number of attempts, so an entry is one attempt at a row and only
one instance ever holds it. `LeaseInv` says this of every reachable state. With it,
`submissions_bounded` bounds the submissions of a row, and `completed_rows_stay` says when a
completed row stays completed.
-/

namespace Solvela.ClaimQueue

open Solvela.Lib
open Solvela.ChannelLedger

/-! ## The specification of a cycle -/

/-- The cycle of an instance that holds `h`. -/
abbrev Cycle (h : Holding) (p : Program Unit) : Prop :=
  Prog.Meets claimGhost ClaimMid (fun _ _ => True) h p

/-- The entries are still to be submitted and to be marked. -/
def Holds (h : Holding) (entries : List ClaimEntry) : Prop :=
  ∀ e ∈ entries, e ∈ h.unsubmitted ∧ e ∈ h.unmarked

/-- What is left to do after the first entry. -/
def Rest (h : Holding) (entry : ClaimEntry) (h' : Holding) : Prop :=
  ∀ e, e.id ≠ entry.id → e ∈ h.unsubmitted ∧ e ∈ h.unmarked →
    e ∈ h'.unsubmitted ∧ e ∈ h'.unmarked

theorem failEntry_meets {h₀ h : Holding} {entry : ClaimEntry} (haccepted : h.accepted = none)
    (hmarked : entry ∈ h.unmarked) (hrest : Rest h₀ entry h) (error : String) :
    Prog.Meets claimGhost ClaimMid (fun h' _ => h'.accepted = none ∧ Rest h₀ entry h') h
      (failEntry entry error) := by
  refine Prog.Meets.ask ⟨haccepted, entry, hmarked, rfl, rfl⟩ ?_
  intro r _
  refine Prog.Meets.ask rfl ?_
  intro r' _
  refine ⟨rfl, ?_⟩
  intro e hne he
  obtain ⟨hsub, hmark⟩ := hrest e hne he
  refine ⟨hsub, ?_⟩
  apply List.mem_filter.2
  exact ⟨hmark, by simpa using hne⟩

/-- A submission that succeeds returns a transaction for the entry's escrow, and its last command
is the one with which the node accepted that transaction. -/
theorem doClaim_meets (recipientWallet : Pubkey) {h : Holding} {entry : ClaimEntry}
    {agent : Pubkey} (hagent : decodeBs58Pubkey entry.agentPubkey = some agent)
    (haccepted : h.accepted = none) (hsub : entry ∈ h.unsubmitted) (hmark : entry ∈ h.unmarked)
    (hattempts : entry.attempts ≤ maxClaimAttempts) :
    Prog.Meets claimGhost ClaimMid
      (fun h' result => entry ∈ h'.unmarked ∧ Rest h entry h' ∧ h'.accepted = result.toOption ∧
        ∀ tx, result = .ok tx → tx.forEscrow entry.serviceId entry.agentPubkey)
      h (doClaim recipientWallet entry agent) := by
  -- taking a fee payer submits no other row
  have hrest : Rest h entry (h.record (.nextFeePayer entry) (.ok agent)) := by
    intro e hne he
    refine ⟨?_, he.2⟩
    apply List.mem_filter.2
    refine ⟨he.1, ?_⟩
    simp only [decide_eq_true_eq]
    intro hattempt
    exact hne (Prod.ext_iff.1 hattempt).1
  refine Prog.Meets.ask ⟨haccepted, hsub, hattempts⟩ ?_
  rintro (e | feePayer) _
  · exact ⟨hmark, hrest, rfl, by simp⟩
  · refine Prog.Meets.ask rfl ?_
    rintro (e | blockhash) _
    · exact ⟨hmark, hrest, rfl, by simp⟩
    · dsimp only
      by_cases hpayer : feePayer ≠ recipientWallet
      · rw [if_pos hpayer]
        exact ⟨hmark, hrest, rfl, by simp⟩
      · rw [if_neg hpayer]
        refine Prog.Meets.ask rfl ?_
        rintro (e | _) _
        · exact ⟨hmark, hrest, rfl, by simp⟩
        · refine ⟨hmark, hrest, rfl, ?_⟩
          -- what is accepted was built for this row
          rintro tx ⟨⟩
          exact ⟨rfl, hagent⟩

theorem processEntry_meets (recipientWallet : Pubkey) {h : Holding} {entry : ClaimEntry}
    (haccepted : h.accepted = none) (hsub : entry ∈ h.unsubmitted) (hmark : entry ∈ h.unmarked) :
    Prog.Meets claimGhost ClaimMid (fun h' _ => h'.accepted = none ∧ Rest h entry h') h
      (processEntry recipientWallet entry) := by
  have hself : Rest h entry h := fun e _ he => he
  unfold processEntry
  by_cases hmax : entry.attempts > maxClaimAttempts
  · -- a row that was recovered past its last attempt is failed without a submission
    rw [if_pos hmax]
    exact failEntry_meets haccepted hmark hself _
  · rw [if_neg hmax]
    cases hagent : decodeBs58Pubkey entry.agentPubkey with
    | none => exact failEntry_meets haccepted hmark hself _
    | some agent =>
      refine (doClaim_meets recipientWallet hagent haccepted hsub hmark (by omega)).bind ?_
      rintro h' (e | tx) ⟨hmark', hrest, haccepted', htx⟩
      · exact failEntry_meets haccepted' hmark' hrest e
      · refine Prog.Meets.ask ⟨haccepted', entry, hmark', rfl, htx tx rfl⟩ ?_
        intro r _
        refine Prog.Meets.ask rfl ?_
        intro r' _
        refine ⟨rfl, ?_⟩
        intro e hne he
        obtain ⟨hsub', hmark''⟩ := hrest e hne he
        refine ⟨hsub', ?_⟩
        apply List.mem_filter.2
        exact ⟨hmark'', by simpa using hne⟩

theorem processEntries_meets (recipientWallet : Pubkey) {entries : List ClaimEntry}
    (hnodup : (entries.map ClaimEntry.id).Nodup) {h : Holding} (haccepted : h.accepted = none)
    (hholds : Holds h entries) : Cycle h (processEntries recipientWallet entries) := by
  induction entries generalizing h with
  | nil => trivial
  | cons entry rest ih =>
    rw [List.map_cons, List.nodup_cons] at hnodup
    obtain ⟨hsub, hmark⟩ := hholds entry List.mem_cons_self
    refine (processEntry_meets recipientWallet haccepted hsub hmark).bind ?_
    rintro h' _ ⟨haccepted', hrest⟩
    apply ih hnodup.2 haccepted'
    intro e he
    apply hrest e
    · intro hid
      exact hnodup.1 (hid ▸ List.mem_map_of_mem he)
    · exact hholds e (List.mem_cons_of_mem entry he)

theorem processPendingClaims_meets (recipientWallet : Pubkey) {h : Holding}
    (haccepted : h.accepted = none) : Cycle h (processPendingClaims recipientWallet) := by
  refine Prog.Meets.ask haccepted ?_
  intro isOpen _
  cases isOpen with
  | true => trivial
  | false =>
    refine Prog.Meets.ask rfl ?_
    rintro (e | pending) hnodup
    · trivial
    · exact processEntries_meets recipientWallet hnodup rfl fun e he => ⟨he, he⟩

/-! ## The invariant -/

/-- The entry is a snapshot of its row: of the columns that never change, and of an attempt that
has been made. -/
structure Snapshot (rows : Rows) (e : ClaimEntry) : Prop where
  row : ∃ r, rows[e.id]? = some r ∧ r.serviceId = e.serviceId ∧ r.agentPubkey = e.agentPubkey

structure LeaseInv (s : System) : Prop where
  cycle : ∀ i, Cycle (s.processors i).holding (s.processors i).program
  -- attempts are numbered by the row's counter
  fetched_le : ∀ id a, (id, a) ∈ s.world.fetched →
    1 ≤ a ∧ ∃ r, s.world.rows[id]? = some r ∧ a ≤ r.attempts
  fetched_nodup : s.world.fetched.Nodup
  -- what is held was fetched, and by nobody else
  unsubmitted_fetched : ∀ i, ∀ e ∈ (s.processors i).holding.unsubmitted,
    e.attempt ∈ s.world.fetched ∧ e.attempt ∉ s.world.submitted
  unmarked_fetched : ∀ i, ∀ e ∈ (s.processors i).holding.unmarked,
    e.attempt ∈ s.world.fetched ∧ Snapshot s.world.rows e
  unsubmitted_once : ∀ i j, ∀ e ∈ (s.processors i).holding.unsubmitted,
    ∀ e' ∈ (s.processors j).holding.unsubmitted, e.attempt = e'.attempt → i = j
  unmarked_once : ∀ i j, ∀ e ∈ (s.processors i).holding.unmarked,
    ∀ e' ∈ (s.processors j).holding.unmarked, e.attempt = e'.attempt → i = j
  submitted_nodup : s.world.submitted.Nodup
  submitted_fetched : ∀ id a, (id, a) ∈ s.world.submitted →
    (id, a) ∈ s.world.fetched ∧ a ≤ maxClaimAttempts

theorem LeaseInv.init : LeaseInv .init := by
  refine ⟨fun i => trivial, ?_, List.nodup_nil, ?_, ?_, ?_, ?_, List.nodup_nil, ?_⟩
  all_goals simp [System.init, Holding.none]

/-! ## What a statement keeps of the rows -/

/-- Every row is still there, with the same escrow and no fewer attempts. -/
def RowsLe (rows rows' : Rows) : Prop :=
  ∀ (id : ℕ) (r : Row), rows[id]? = some r → ∃ r' : Row, rows'[id]? = some r' ∧
    r'.serviceId = r.serviceId ∧ r'.agentPubkey = r.agentPubkey ∧ r.attempts ≤ r'.attempts

theorem RowsLe.refl (rows : Rows) : RowsLe rows rows :=
  fun _ r hr => ⟨r, hr, rfl, rfl, le_refl _⟩

theorem rowsLe_updateRow {f : Row → Row} (id : ℕ) (rows : Rows)
    (hf : ∀ r, (f r).serviceId = r.serviceId ∧ (f r).agentPubkey = r.agentPubkey ∧
      r.attempts ≤ (f r).attempts) : RowsLe rows (updateRow id f rows) := by
  intro i r hr
  rw [getElem?_updateRow]
  by_cases h : i = id
  · rw [if_pos h, hr]
    exact ⟨f r, rfl, hf r⟩
  · rw [if_neg h]
    exact ⟨r, hr, rfl, rfl, le_refl _⟩

theorem rowsLe_fetch (now : ℕ) (locked : ℕ → Bool) (limit : ℕ) (rows : Rows) :
    RowsLe rows (fetchPendingClaims now locked limit rows).2 := by
  intro i r hr
  rw [getElem?_fetch]
  split
  · rw [hr]
    exact ⟨r.lease now, rfl, rfl, rfl, Nat.le_succ _⟩
  · exact ⟨r, hr, rfl, rfl, le_refl _⟩

theorem rowsLe_enqueue (now : ℕ) (serviceId : Pubkey) (agentPubkey : String) (claimAmount : ℕ)
    (depositedAmount : Option ℕ) (rows : Rows) :
    RowsLe rows (enqueueClaim now serviceId agentPubkey claimAmount depositedAmount rows) := by
  intro i r hr
  refine ⟨r, ?_, rfl, rfl, le_refl _⟩
  obtain ⟨hi, -⟩ := List.getElem?_eq_some_iff.1 hr
  rw [enqueueClaim, List.getElem?_append_left hi]
  exact hr

theorem rowsLe_statement (w : World) (fault : Fault) {f : Rows → Rows}
    (hf : RowsLe w.rows (f w.rows)) : RowsLe w.rows (w.statement fault f).2.rows := by
  cases fault with
  | none => exact hf
  | notApplied => exact RowsLe.refl _
  | replyLost => exact hf

theorem statement_records (w : World) (fault : Fault) (f : Rows → Rows) :
    (w.statement fault f).2.fetched = w.fetched ∧
      (w.statement fault f).2.submitted = w.submitted := by
  cases fault <;> exact ⟨rfl, rfl⟩

theorem Snapshot.mono {rows rows' : Rows} (hle : RowsLe rows rows') {e : ClaimEntry}
    (h : Snapshot rows e) : Snapshot rows' e := by
  obtain ⟨r, hr, hservice, hagent⟩ := h.row
  obtain ⟨r', hr', hservice', hagent', -⟩ := hle e.id r hr
  exact ⟨r', hr', hservice'.trans hservice, hagent'.trans hagent⟩

/-! ## The invariant along the steps -/

/-- A step that fetches `entries` for the instance `i`, and submits nothing. -/
theorem LeaseInv.grow {s s' : System} (h : LeaseInv s) {i : ℕ} {entries : List ClaimEntry}
    (hcycle : ∀ j, Cycle (s'.processors j).holding (s'.processors j).program)
    (hrows : RowsLe s.world.rows s'.world.rows)
    (hfetched : s'.world.fetched = s.world.fetched ++ entries.map ClaimEntry.attempt)
    (hsubmitted : s'.world.submitted = s.world.submitted)
    (hnew : ∀ e ∈ entries, e.attempt ∉ s.world.fetched)
    (hids : (entries.map ClaimEntry.id).Nodup)
    (hsnap : ∀ e ∈ entries, 1 ≤ e.attempts ∧ Snapshot s'.world.rows e ∧
      ∃ r, s'.world.rows[e.id]? = some r ∧ e.attempts ≤ r.attempts)
    (hunsubmitted : ∀ j, ∀ e ∈ (s'.processors j).holding.unsubmitted,
      (j = i ∧ e ∈ entries) ∨ e ∈ (s.processors j).holding.unsubmitted)
    (hunmarked : ∀ j, ∀ e ∈ (s'.processors j).holding.unmarked,
      (j = i ∧ e ∈ entries) ∨ e ∈ (s.processors j).holding.unmarked) : LeaseInv s' where
  cycle := hcycle
  fetched_le := by
    intro id a ha
    rw [hfetched, List.mem_append] at ha
    rcases ha with ha | ha
    · obtain ⟨hpos, r, hr, hle⟩ := h.fetched_le id a ha
      obtain ⟨r', hr', -, -, hle'⟩ := hrows id r hr
      exact ⟨hpos, r', hr', hle.trans hle'⟩
    · obtain ⟨e, he, heq⟩ := List.mem_map.1 ha
      obtain ⟨rfl, rfl⟩ := Prod.ext_iff.1 heq
      obtain ⟨hpos, -, hrow⟩ := hsnap e he
      exact ⟨hpos, hrow⟩
  fetched_nodup := by
    rw [hfetched]
    -- one fetch returns different rows, and none of its attempts was there before
    have hattempts : (entries.map ClaimEntry.attempt).Nodup := by
      have hids' : ((entries.map ClaimEntry.attempt).map Prod.fst).Nodup := by
        rw [List.map_map]
        exact hids
      exact hids'.of_map
    apply h.fetched_nodup.append hattempts
    intro a hold ha
    obtain ⟨e, he, rfl⟩ := List.mem_map.1 ha
    exact hnew e he hold
  unsubmitted_fetched := by
    intro j e he
    rw [hfetched, hsubmitted]
    rcases hunsubmitted j e he with ⟨-, he⟩ | he
    · refine ⟨List.mem_append_right _ (List.mem_map_of_mem he), ?_⟩
      intro hsub
      exact hnew e he (h.submitted_fetched e.id e.attempts hsub).1
    · obtain ⟨hmem, hnot⟩ := h.unsubmitted_fetched j e he
      exact ⟨List.mem_append_left _ hmem, hnot⟩
  unmarked_fetched := by
    intro j e he
    rw [hfetched]
    rcases hunmarked j e he with ⟨-, he⟩ | he
    · exact ⟨List.mem_append_right _ (List.mem_map_of_mem he), (hsnap e he).2.1⟩
    · obtain ⟨hmem, hold⟩ := h.unmarked_fetched j e he
      exact ⟨List.mem_append_left _ hmem, hold.mono hrows⟩
  unsubmitted_once := by
    intro j k e he e' he' hsame
    -- an attempt that was held before is not one of the new ones
    rcases hunsubmitted j e he with ⟨rfl, he⟩ | he
    · rcases hunsubmitted k e' he' with ⟨rfl, -⟩ | he'
      · rfl
      · exact absurd (hsame ▸ (h.unsubmitted_fetched k e' he').1) (hnew e he)
    · rcases hunsubmitted k e' he' with ⟨rfl, he'⟩ | he'
      · exact absurd (hsame ▸ (h.unsubmitted_fetched j e he).1) (hnew e' he')
      · exact h.unsubmitted_once j k e he e' he' hsame
  unmarked_once := by
    intro j k e he e' he' hsame
    rcases hunmarked j e he with ⟨rfl, he⟩ | he
    · rcases hunmarked k e' he' with ⟨rfl, -⟩ | he'
      · rfl
      · exact absurd (hsame ▸ (h.unmarked_fetched k e' he').1) (hnew e he)
    · rcases hunmarked k e' he' with ⟨rfl, he'⟩ | he'
      · exact absurd (hsame ▸ (h.unmarked_fetched j e he).1) (hnew e' he')
      · exact h.unmarked_once j k e he e' he' hsame
  submitted_nodup := by
    rw [hsubmitted]
    exact h.submitted_nodup
  submitted_fetched := by
    intro id a ha
    rw [hsubmitted] at ha
    obtain ⟨hmem, hle⟩ := h.submitted_fetched id a ha
    rw [hfetched]
    exact ⟨List.mem_append_left _ hmem, hle⟩

/-- A step that fetches and submits nothing. -/
theorem LeaseInv.shrink {s s' : System} (h : LeaseInv s)
    (hcycle : ∀ j, Cycle (s'.processors j).holding (s'.processors j).program)
    (hrows : RowsLe s.world.rows s'.world.rows) (hfetched : s'.world.fetched = s.world.fetched)
    (hsubmitted : s'.world.submitted = s.world.submitted)
    (hunsubmitted : ∀ j, (s'.processors j).holding.unsubmitted ⊆
      (s.processors j).holding.unsubmitted)
    (hunmarked : ∀ j, (s'.processors j).holding.unmarked ⊆ (s.processors j).holding.unmarked) :
    LeaseInv s' := by
  apply @LeaseInv.grow s s' h 0 [] hcycle hrows _ hsubmitted
  · simp
  · simp
  · simp
  · intro j e he
    exact Or.inr (hunsubmitted j he)
  · intro j e he
    exact Or.inr (hunmarked j he)
  · rw [hfetched]
    simp

/-- The processor of the instance that moves, and the others. -/
theorem setProcessor_self (s : System) (i : ℕ) (p : Processor) :
    (s.setProcessor i p).processors i = p := if_pos rfl

theorem setProcessor_ne (s : System) {i j : ℕ} (p : Processor) (h : j ≠ i) :
    (s.setProcessor i p).processors j = s.processors j := if_neg h

/-- The submission of an entry. -/
theorem LeaseInv.submit {s : System} (h : LeaseInv s) {i : ℕ} {entry : ClaimEntry}
    (hsub : entry ∈ (s.processors i).holding.unsubmitted)
    (hattempts : entry.attempts ≤ maxClaimAttempts) {p : Processor}
    (hcycle : Cycle p.holding p.program)
    (hunsubmitted : p.holding.unsubmitted =
      (s.processors i).holding.unsubmitted.filter fun e => e.attempt ≠ entry.attempt)
    (hunmarked : p.holding.unmarked = (s.processors i).holding.unmarked) :
    LeaseInv (System.setProcessor
      { s with world.submitted := s.world.submitted ++ [entry.attempt] } i p) := by
  obtain ⟨hfetched, hnew⟩ := h.unsubmitted_fetched i entry hsub
  -- what is still to be submitted was so before, and is another attempt
  have hold : ∀ j, ∀ e ∈ ((System.setProcessor
      { s with world.submitted := s.world.submitted ++ [entry.attempt] } i p).processors
        j).holding.unsubmitted,
      e ∈ (s.processors j).holding.unsubmitted ∧ e.attempt ≠ entry.attempt := by
    apply forall_set (P := fun j (q : Processor) => ∀ e ∈ q.holding.unsubmitted,
      e ∈ (s.processors j).holding.unsubmitted ∧ e.attempt ≠ entry.attempt)
    · intro e he
      rw [hunsubmitted, List.mem_filter] at he
      exact ⟨he.1, by simpa using he.2⟩
    · -- the attempt is held by nobody else
      intro j hj e he
      refine ⟨he, ?_⟩
      intro hsame
      exact hj (h.unsubmitted_once j i e he entry hsub hsame)
  -- what is still to be marked stays so
  have holdMarked : ∀ j, ((System.setProcessor
      { s with world.submitted := s.world.submitted ++ [entry.attempt] } i p).processors
        j).holding.unmarked = (s.processors j).holding.unmarked :=
    forall_set (P := fun j (q : Processor) => q.holding.unmarked =
      (s.processors j).holding.unmarked) hunmarked (fun _ _ => rfl)
  refine ⟨?_, h.fetched_le, h.fetched_nodup, ?_, ?_, ?_, ?_, ?_, ?_⟩
  · exact forall_set (P := fun _ (q : Processor) => Cycle q.holding q.program) hcycle
      (fun j _ => h.cycle j)
  · intro j e he
    obtain ⟨he, hne⟩ := hold j e he
    obtain ⟨hmem, hnot⟩ := h.unsubmitted_fetched j e he
    refine ⟨hmem, ?_⟩
    intro hsub'
    rcases List.mem_append.1 hsub' with hsub' | hsub'
    · exact hnot hsub'
    · exact hne (List.mem_singleton.1 hsub')
  · intro j e he
    rw [holdMarked] at he
    exact h.unmarked_fetched j e he
  · intro j k e he e' he'
    exact h.unsubmitted_once j k e (hold j e he).1 e' (hold k e' he').1
  · intro j k e he e' he'
    rw [holdMarked] at he he'
    exact h.unmarked_once j k e he e' he'
  -- the attempt was not submitted before
  · apply h.submitted_nodup.append (List.nodup_singleton _)
    intro a ha ha'
    rw [List.mem_singleton.1 ha'] at ha
    exact hnew ha
  · intro id a ha
    rcases List.mem_append.1 ha with ha | ha
    · exact h.submitted_fetched id a ha
    · obtain ⟨rfl, rfl⟩ := Prod.ext_iff.1 (List.mem_singleton.1 ha)
      exact ⟨hfetched, hattempts⟩

/-- What a fetch returns: new attempts at rows, with the number that the row now has. -/
theorem LeaseInv.fetch_entry {s : System} (h : LeaseInv s) {now : ℕ} {locked : ℕ → Bool}
    {limit : ℕ} {e : ClaimEntry}
    (he : e ∈ (fetchPendingClaims now locked limit s.world.rows).1) :
    e.attempt ∉ s.world.fetched ∧ 1 ≤ e.attempts ∧
      ∃ r, (fetchPendingClaims now locked limit s.world.rows).2[e.id]? = some r ∧
        r.serviceId = e.serviceId ∧ r.agentPubkey = e.agentPubkey ∧ r.attempts = e.attempts := by
  obtain ⟨hid, r, hr, hentry⟩ := mem_fetch he
  have hattempts : e.attempts = r.attempts + 1 := by
    rw [hentry]
    rfl
  refine ⟨?_, by omega, r.lease now, ?_, ?_, ?_, ?_⟩
  · intro hmem
    -- the number is one more than the row had, and so more than any fetch has returned
    obtain ⟨-, r', hr', hle⟩ := h.fetched_le e.id e.attempts hmem
    rw [hr, Option.some.injEq] at hr'
    subst hr'
    omega
  · rw [getElem?_fetch, if_pos hid, hr]
    rfl
  all_goals
    rw [hentry]
    rfl

/-- The replies that the specification of a cycle counts on. -/
theorem exec_can (env : Env) (w : World) (b : Breaker) (h : Holding) (c : Command) :
    claimGhost.can h c (exec env w b c).1 := by
  cases c with
  | fetchPendingClaims limit =>
    simp only [exec]
    cases env.database with
    | none => exact fetch_ids_nodup _ _ _ _
    | notApplied => trivial
    | replyLost => trivial
  | _ => trivial

theorem record_unsubmitted (h : Holding) {c : Command} (hc : ∀ limit, c ≠ .fetchPendingClaims limit)
    (r : Reply c) : (h.record c r).unsubmitted ⊆ h.unsubmitted := by
  cases c with
  | fetchPendingClaims limit => exact absurd rfl (hc limit)
  | nextFeePayer entry => exact List.filter_subset_self _
  | _ => exact List.Subset.refl _

theorem record_unmarked (h : Holding) {c : Command} (hc : ∀ limit, c ≠ .fetchPendingClaims limit)
    (r : Reply c) : (h.record c r).unmarked ⊆ h.unmarked := by
  cases c with
  | fetchPendingClaims limit => exact absurd rfl (hc limit)
  | markCompleted id tx => exact List.filter_subset_self _
  | markAttemptFailed id error attempts => exact List.filter_subset_self _
  | _ => exact List.Subset.refl _

/-- The rows and records after a command that is neither a fetch nor a submission. -/
theorem exec_rows (env : Env) (w : World) (b : Breaker) {c : Command}
    (hfetch : ∀ limit, c ≠ .fetchPendingClaims limit) (hsubmit : ∀ entry, c ≠ .nextFeePayer entry) :
    RowsLe w.rows (exec env w b c).2.1.rows ∧ (exec env w b c).2.1.fetched = w.fetched ∧
      (exec env w b c).2.1.submitted = w.submitted := by
  cases c with
  | fetchPendingClaims limit => exact absurd rfl (hfetch limit)
  | nextFeePayer entry => exact absurd rfl (hsubmit entry)
  | markCompleted id tx =>
    refine ⟨rowsLe_statement w _ ?_, statement_records w _ _⟩
    apply rowsLe_updateRow
    intro r
    exact ⟨rfl, rfl, le_refl _⟩
  | markAttemptFailed id error attempts =>
    refine ⟨rowsLe_statement w _ ?_, statement_records w _ _⟩
    apply rowsLe_updateRow
    intro r
    exact ⟨rfl, rfl, le_refl _⟩
  | sendTransaction tx =>
    simp only [exec]
    cases env.send <;> exact ⟨RowsLe.refl _, rfl, rfl⟩
  | _ => exact ⟨RowsLe.refl _, rfl, rfl⟩

/-- The command of a fetch: the new rows and records, unless the statement failed, and the entries
for the instance, unless it has no reply. -/
theorem LeaseInv.fetch {s : System} (h : LeaseInv s) {i limit : ℕ}
    {next : Reply (.fetchPendingClaims limit) → Program Unit} {env : Env}
    (hcycle : ∀ j, Cycle ((s.command i env _ next).processors j).holding
      ((s.command i env _ next).processors j).program) :
    LeaseInv (s.command i env (.fetchPendingClaims limit) next) := by
  have hentry := fun e he => @LeaseInv.fetch_entry s h s.world.clock env.locked limit e he
  have hrows := rowsLe_fetch s.world.clock env.locked limit s.world.rows
  have hids := fetch_ids_nodup s.world.clock env.locked limit s.world.rows
  have hother : ∀ j, j ≠ i → (s.command i env (.fetchPendingClaims limit) next).processors j =
      s.processors j := fun j hj => setProcessor_ne _ _ hj
  have hself : ((s.command i env (.fetchPendingClaims limit) next).processors i).holding =
      (s.processors i).holding.record (.fetchPendingClaims limit)
        (exec env s.world (s.processors i).breaker (.fetchPendingClaims limit)).1 := by
    rw [System.command, setProcessor_self]
  have hworld : (s.command i env (.fetchPendingClaims limit) next).world =
      (exec env s.world (s.processors i).breaker (.fetchPendingClaims limit)).2.1 := rfl
  have hsnap : ∀ e ∈ (fetchPendingClaims s.world.clock env.locked limit s.world.rows).1,
      1 ≤ e.attempts ∧
      Snapshot (fetchPendingClaims s.world.clock env.locked limit s.world.rows).2 e ∧
      ∃ r, (fetchPendingClaims s.world.clock env.locked limit s.world.rows).2[e.id]? = some r ∧
        e.attempts ≤ r.attempts := by
    intro e he
    obtain ⟨-, hpos, r, hr, hservice, hagent, hattempts⟩ := hentry e he
    exact ⟨hpos, ⟨r, hr, hservice, hagent⟩, r, hr, le_of_eq hattempts.symm⟩
  generalize s.command i env (.fetchPendingClaims limit) next = s' at *
  -- once the statement is applied the attempts are used up, whether the instance gets them or not
  have happlied : s'.world = { s.world with
        rows := (fetchPendingClaims s.world.clock env.locked limit s.world.rows).2
        fetched := s.world.fetched ++ (fetchPendingClaims s.world.clock env.locked limit
          s.world.rows).1.map ClaimEntry.attempt } →
      (∀ j, j = i ∧ (s'.processors j).holding =
          ⟨(fetchPendingClaims s.world.clock env.locked limit s.world.rows).1,
            (fetchPendingClaims s.world.clock env.locked limit s.world.rows).1, .none⟩ ∨
        (s'.processors j).holding.unsubmitted = (s.processors j).holding.unsubmitted ∧
          (s'.processors j).holding.unmarked = (s.processors j).holding.unmarked) →
      LeaseInv s' := by
    intro happlied hholds
    apply @LeaseInv.grow s s' h i
      (fetchPendingClaims s.world.clock env.locked limit s.world.rows).1 hcycle
    · rw [happlied]
      exact hrows
    · rw [happlied]
    · rw [happlied]
    · intro e he
      exact (hentry e he).1
    · exact hids
    · rw [happlied]
      exact hsnap
    · intro j e he
      rcases hholds j with ⟨hj, hnew⟩ | hold
      · rw [hnew] at he
        exact Or.inl ⟨hj, he⟩
      · rw [hold.1] at he
        exact Or.inr he
    · intro j e he
      rcases hholds j with ⟨hj, hnew⟩ | hold
      · rw [hnew] at he
        exact Or.inl ⟨hj, he⟩
      · rw [hold.2] at he
        exact Or.inr he
  cases hdb : env.database with
  | notApplied =>
    simp only [exec, hdb, Holding.record, Holding.recordEntries] at hself hworld
    have hholds : ∀ j,
        (s'.processors j).holding.unsubmitted = (s.processors j).holding.unsubmitted ∧
          (s'.processors j).holding.unmarked = (s.processors j).holding.unmarked := by
      intro j
      by_cases hj : j = i
      · rw [hj, hself]
        exact ⟨rfl, rfl⟩
      · rw [hother j hj]
        exact ⟨rfl, rfl⟩
    apply h.shrink hcycle
    · rw [hworld]
      exact RowsLe.refl _
    · rw [hworld]
    · rw [hworld]
    · intro j
      rw [(hholds j).1]
      exact List.Subset.refl _
    · intro j
      rw [(hholds j).2]
      exact List.Subset.refl _
  | none =>
    simp only [exec, hdb, Holding.record, Holding.recordEntries] at hself hworld
    apply happlied hworld
    intro j
    by_cases hj : j = i
    · rw [hj]
      exact Or.inl ⟨rfl, hself⟩
    · rw [hother j hj]
      exact Or.inr ⟨rfl, rfl⟩
  | replyLost =>
    -- the rows are leased, and nobody holds them
    simp only [exec, hdb, Holding.record, Holding.recordEntries] at hself hworld
    apply happlied hworld
    intro j
    by_cases hj : j = i
    · rw [hj, hself]
      exact Or.inr ⟨rfl, rfl⟩
    · rw [hother j hj]
      exact Or.inr ⟨rfl, rfl⟩

theorem LeaseInv.command {s : System} (h : LeaseInv s) {i : ℕ} {c : Command}
    {next : Reply c → Program Unit} (hprogram : (s.processors i).program = .call c next)
    (env : Env) : LeaseInv (s.command i env c next) := by
  have hcall := h.cycle i
  rw [hprogram] at hcall
  have hnext : Cycle ((s.processors i).holding.record c
      (exec env s.world (s.processors i).breaker c).1)
      (next (exec env s.world (s.processors i).breaker c).1) :=
    hcall.reply (exec_can env s.world _ _ c)
  -- the other processors are where they were
  have hcycle : ∀ j, Cycle ((s.command i env c next).processors j).holding
      ((s.command i env c next).processors j).program :=
    forall_set (P := fun _ (q : Processor) => Cycle q.holding q.program) hnext
      (fun j _ => h.cycle j)
  by_cases hfetch : ∃ limit, c = .fetchPendingClaims limit
  · obtain ⟨limit, rfl⟩ := hfetch
    exact h.fetch hcycle
  · by_cases hsubmit : ∃ entry, c = .nextFeePayer entry
    · obtain ⟨entry, rfl⟩ := hsubmit
      obtain ⟨-, hsub, hattempts⟩ : _ ∧ entry ∈ (s.processors i).holding.unsubmitted ∧ _ :=
        hcall.1
      exact h.submit hsub hattempts hnext rfl rfl
    · have hfetch' : ∀ limit, c ≠ .fetchPendingClaims limit := fun limit hc => hfetch ⟨limit, hc⟩
      have hsubmit' : ∀ entry, c ≠ .nextFeePayer entry := fun entry hc => hsubmit ⟨entry, hc⟩
      -- what neither fetches nor submits only shrinks what is held
      obtain ⟨hrows, hfetched, hsubmitted⟩ :=
        exec_rows env s.world (s.processors i).breaker hfetch' hsubmit'
      apply h.shrink hcycle hrows hfetched hsubmitted
      · exact forall_set (P := fun j (q : Processor) => q.holding.unsubmitted ⊆
            (s.processors j).holding.unsubmitted)
          (record_unsubmitted _ hfetch' _) (fun _ _ => List.Subset.refl _)
      · exact forall_set (P := fun j (q : Processor) => q.holding.unmarked ⊆
            (s.processors j).holding.unmarked)
          (record_unmarked _ hfetch' _) (fun _ _ => List.Subset.refl _)

/-! ## The invariant along a run -/

/-- A step of the instance `i` that leaves the world as it is and lets go of what it held. -/
theorem LeaseInv.release {s : System} (h : LeaseInv s) (i : ℕ) {p : Processor}
    (hcycle : Cycle .none p.program) (hholding : p.holding = .none) :
    LeaseInv (s.setProcessor i p) := by
  rw [← hholding] at hcycle
  apply h.shrink
  · exact forall_set (P := fun _ (q : Processor) => Cycle q.holding q.program) hcycle
      (fun j _ => h.cycle j)
  · exact RowsLe.refl _
  · rfl
  · rfl
  · apply forall_set (P := fun j (q : Processor) => q.holding.unsubmitted ⊆
      (s.processors j).holding.unsubmitted)
    · rw [hholding]
      exact List.nil_subset _
    · exact fun _ _ => List.Subset.refl _
  · apply forall_set (P := fun j (q : Processor) => q.holding.unmarked ⊆
      (s.processors j).holding.unmarked)
    · rw [hholding]
      exact List.nil_subset _
    · exact fun _ _ => List.Subset.refl _

/-- A step of the environment: the instances stay as they are. -/
theorem LeaseInv.environment {s : System} (h : LeaseInv s) {w : World}
    (hrows : RowsLe s.world.rows w.rows) (hfetched : w.fetched = s.world.fetched)
    (hsubmitted : w.submitted = s.world.submitted) : LeaseInv { s with world := w } :=
  h.shrink h.cycle hrows hfetched hsubmitted (fun _ => List.Subset.refl _)
    (fun _ => List.Subset.refl _)

theorem decide_records (w : World) (tx : ClaimTx) (fate : TxState) :
    (w.decide tx fate).rows = w.rows ∧ (w.decide tx fate).fetched = w.fetched ∧
      (w.decide tx fate).submitted = w.submitted := by
  unfold World.decide
  split <;> exact ⟨rfl, rfl, rfl⟩

theorem LeaseInv.decide {s : System} (h : LeaseInv s) (tx : ClaimTx) (fate : TxState) :
    LeaseInv { s with world := s.world.decide tx fate } := by
  obtain ⟨hrows, hfetched, hsubmitted⟩ := decide_records s.world tx fate
  refine h.environment ?_ hfetched hsubmitted
  rw [hrows]
  exact RowsLe.refl _

theorem LeaseInv.step (recipientWallet : Pubkey) (s : System) (l : Label) (h : LeaseInv s) :
    LeaseInv (step recipientWallet s l) := by
  cases l with
  | tick seconds => exact h.environment (RowsLe.refl _) rfl rfl
  | enqueue serviceId agentPubkey claimAmount depositedAmount =>
    exact h.environment (rowsLe_enqueue _ _ _ _ _ _) rfl rfl
  | start i =>
    simp only [ClaimQueue.step]
    split
    · exact h.release i (processPendingClaims_meets recipientWallet rfl) rfl
    · exact h
  | advance i env =>
    simp only [ClaimQueue.step]
    split
    · exact h
    · rename_i c next hprogram
      exact h.command hprogram env
  | crash i => exact h.release i trivial rfl
  | land tx => exact h.decide tx .landed
  | fail tx => exact h.decide tx .failed
  | drop tx => exact h.decide tx .dropped

theorem LeaseInv.run (recipientWallet : Pubkey) (labels : List Label) :
    LeaseInv (run (ClaimQueue.step recipientWallet) .init labels) :=
  run_invariant (LeaseInv.step recipientWallet) LeaseInv.init labels

/-! ## The bound on submissions -/

/-- The submissions of the row `id` in a record. -/
def submissionsOf (id : ℕ) (submitted : List (ℕ × ℕ)) : List (ℕ × ℕ) :=
  submitted.filter fun a => a.1 = id

/-- The submissions of a row have different numbers from 1 to the maximum. -/
theorem LeaseInv.submissions_le {s : System} (h : LeaseInv s) (id : ℕ) :
    (submissionsOf id s.world.submitted).length ≤ maxClaimAttempts := by
  have hnodup : (submissionsOf id s.world.submitted).Nodup := h.submitted_nodup.filter _
  -- different numbers between 1 and the maximum: there are no more than that
  have hsub : submissionsOf id s.world.submitted ⊆
      (List.range maxClaimAttempts).map fun a => (id, a + 1) := by
    rintro ⟨id', a⟩ ha
    obtain ⟨hmem, hid⟩ := List.mem_filter.1 ha
    have hid' : id' = id := by simpa using hid
    subst hid'
    obtain ⟨hfetched, hle⟩ := h.submitted_fetched id' a hmem
    obtain ⟨hpos, -⟩ := h.fetched_le id' a hfetched
    apply List.mem_map.2
    exact ⟨a - 1, List.mem_range.2 (by omega), by rw [Nat.sub_add_cancel hpos]⟩
  have hlength := (List.subperm_of_subset hnodup hsub).length_le
  rwa [List.length_map, List.length_range] at hlength

/-- In every run a row is submitted at most `maxClaimAttempts` times, and no two fetches return
it with the same number of attempts. -/
theorem submissions_bounded (recipientWallet : Pubkey) (labels : List Label) :
    (∀ id, (submissionsOf id (run (step recipientWallet) .init labels).world.submitted).length ≤
      maxClaimAttempts) ∧
    (run (step recipientWallet) .init labels).world.fetched.Nodup := by
  have h := LeaseInv.run recipientWallet labels
  exact ⟨h.submissions_le, h.fetched_nodup⟩

end Solvela.ClaimQueue
