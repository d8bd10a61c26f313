import Solvela.Channel.TrackerTheorems

/-!
# Locks that outlast their draws

A debit falls short of its quote only where somebody drew between the load and the persist of its
request, and on a channel that only the tracker draws from that takes two requests at the endpoint
at once. The second takes the draw lock, so the first has lost it: it ran out, or was lost with the
Redis that held it.

* `Lasting` is the condition that this does not happen, on the state before a step.
* `Alone` is the invariant it carries: one request at the endpoint, which holds the lock and whose
  snapshot is what the ledger says.
-/

namespace Solvela.Tracker

open Solvela.Lib
open Solvela.Lib.Txn
open Solvela.ChannelLedger Solvela.Channel

/-- The lock does not go while a request at the endpoint holds it. -/
def Lasting (s : System) : TrackerLabel → Prop
  | .unlock => ∀ svc ∈ s.services, s.lock ≠ some svc.token
  | _ => True

instance instDecidableLasting (s : System) : ∀ a, Decidable (Lasting s a)
  | .unlock => inferInstanceAs (Decidable (∀ svc ∈ s.services, s.lock ≠ some svc.token))
  | .draw _ | .begin | .attempt _ | .throws | .arrive .. | .load .. | .serve .. | .recheck ..
  | .persist .. | .drop _ | .resyncTo _ | .beside .. => inferInstanceAs (Decidable True)

/-- At most one request is at the endpoint. It holds the lock, its snapshot is what the ledger
says, and every debit found what its request had loaded. -/
structure Alone (id : ChannelId) (s : System) : Prop where
  one : s.services.length ≤ 1
  holds : ∀ svc ∈ s.services, s.lock = some svc.token
  current : ∀ svc ∈ s.services, ∀ d, svc.progress.drawable = some d →
    lastOf s.ledger id = some (d.state.lastCumulativeAtomic : ℤ)
  exact : ∀ d ∈ s.debits, d.found = d.loaded

section
variable {verifySignature : Pubkey → List UInt8 → Vector UInt8 64 → Bool}
  {signVoucher : List UInt8 → List UInt8 → Option (Vector UInt8 64)} {feePercent : ℕ}
  {o : TrackerOptions} {id : ChannelId} {s : System} {p : Place} {svc : Service}

/-! ## The requests at the endpoint -/

/-- A service that is put back is none more. -/
theorem services_length_put (svc' : Service) (hat : s.at p = some svc) :
    (s.put p svc').services.length = s.services.length := by
  cases p with
  | awaited =>
    have hawaited : s.awaited = some svc := hat
    simp [System.services, System.put, hawaited]
  | orphan k => simp [System.services, System.put]

/-- Whatever takes the request at `p` away takes one away. -/
theorem services_length_abandon (hat : s.at p = some svc) :
    (s.abandon p).services.length + 1 = s.services.length := by
  cases p with
  | awaited =>
    have hawaited : s.awaited = some svc := hat
    simp [System.services, System.abandon, hawaited]
  | orphan k =>
    obtain ⟨hk, -⟩ := List.getElem?_eq_some_iff.1 (show s.orphans[k]? = some svc from hat)
    simp only [System.services, System.abandon, List.length_append, List.length_eraseIdx, hk,
      if_true]
    omega

/-- A service that has answered is gone. -/
theorem services_answer (resp : DrawResponse) :
    (s.answer o p svc resp).services = (s.abandon p).services := by
  cases p with
  | awaited =>
    simp only [System.answer]
    cases s.tracker.active <;> rfl
  | orphan k => simp only [System.answer, System.abandon]

/-- Nobody is left when the only request is answered. -/
theorem Alone.answered (hs : Alone id s) (hat : s.at p = some svc) (resp : DrawResponse) :
    (s.answer o p svc resp).services = [] := by
  have hone := hs.one
  have hlength := services_length_abandon hat
  rw [services_answer]
  exact List.length_eq_zero_iff.1 (by omega)

/-- A lock that is free is held by nobody. -/
theorem Alone.empty_of_free (hs : Alone id s) (hfree : s.lock = none) : s.services = [] := by
  apply List.eq_nil_iff_forall_not_mem.2
  intro t ht
  have hholds := hs.holds t ht
  rw [hfree] at hholds
  exact absurd hholds (by simp)

/-! ## The steps -/

/-- Where nobody is at the endpoint, only the debits matter. -/
theorem Alone.of_empty {s' : System} (hservices : s'.services = [])
    (hdebits : ∀ d ∈ s'.debits, d.found = d.loaded) : Alone id s' := by
  refine ⟨?_, ?_, ?_, hdebits⟩
  · rw [hservices]
    exact Nat.zero_le _
  · intro t ht
    rw [hservices] at ht
    exact absurd ht List.not_mem_nil
  · intro t ht
    rw [hservices] at ht
    exact absurd ht List.not_mem_nil

/-- A step that touches neither the requests at the endpoint nor what they depend on. -/
theorem Alone.congr {s' : System} (hs : Alone id s) (hservices : s'.services = s.services)
    (hlock : s'.lock = s.lock) (hledger : s'.ledger = s.ledger) (hdebits : s'.debits = s.debits) :
    Alone id s' := by
  refine ⟨?_, ?_, ?_, ?_⟩
  · rw [hservices]
    exact hs.one
  · rw [hservices, hlock]
    exact hs.holds
  · rw [hservices, hledger]
    exact hs.current
  · rw [hdebits]
    exact hs.exact

/-- The only request enters an empty endpoint, with the lock. -/
theorem Alone.entered {s' : System} {req : DrawHttpRequest} (hs : Alone id s)
    (h : Entered s req svc) (hservices : s'.services = s.services ++ [svc])
    (hlock : s'.lock = some s.tokens) (hdebits : s'.debits = s.debits) : Alone id s' := by
  rw [hs.empty_of_free h.free, List.nil_append] at hservices
  refine ⟨?_, ?_, ?_, ?_⟩
  · rw [hservices]
    exact le_rfl
  · intro t ht
    rw [hservices] at ht
    rw [hlock, List.mem_singleton.1 ht, h.token]
  · intro t ht d hd
    rw [hservices] at ht
    rw [List.mem_singleton.1 ht, h.progress] at hd
    exact absurd hd (by simp [Progress.drawable])
  · rw [hdebits]
    exact hs.exact

/-- An answer debits nothing. -/
theorem answer_debits (resp : DrawResponse) : (s.answer o p svc resp).debits = s.debits := by
  cases p with
  | awaited =>
    simp only [System.answer]
    cases s.tracker.active <;> rfl
  | orphan k => simp only [System.answer]

/-- A stage of the only request, whose snapshot stays what the ledger says. -/
theorem Alone.stage (hs : Alone id s) (hat : s.at p = some svc) {result : StageResult}
    (hcurrent : ∀ progress, result = .goesOn progress → ∀ d, progress.drawable = some d →
      lastOf s.ledger id = some (d.state.lastCumulativeAtomic : ℤ)) :
    Alone id (s.stage o p svc result) := by
  cases result with
  | stays => exact hs
  | replies resp =>
    refine .of_empty (hs.answered hat resp) ?_
    show ∀ d ∈ (s.answer o p svc resp).debits, _
    rw [answer_debits]
    exact hs.exact
  | goesOn progress =>
    -- a stage that goes on touches neither lock nor ledger
    have hframe : (s.put p { svc with progress := progress }).lock = s.lock ∧
        (s.put p { svc with progress := progress }).ledger = s.ledger ∧
        (s.put p { svc with progress := progress }).debits = s.debits := by
      cases p <;> exact ⟨rfl, rfl, rfl⟩
    refine ⟨(services_length_put _ hat).trans_le hs.one, ?_, ?_, ?_⟩
    · intro t ht
      refine hframe.1.trans ?_
      rcases System.mem_services_put ht with rfl | hold
      · exact hs.holds svc (System.mem_services hat)
      · exact hs.holds t hold
    · intro t ht d hd
      refine (congrArg (lastOf · id) hframe.2.1).trans ?_
      rcases System.mem_services_put ht with rfl | hold
      · exact hcurrent progress rfl d hd
      · exact hs.current t hold d hd
    · intro d hd
      exact hs.exact d (hframe.2.2 ▸ hd)

/-- The persist of the only request finds what it had loaded. -/
theorem Alone.persist (hs : Alone o.channelText s) (hat : s.at p = some svc) (fault : Fault) :
    Alone o.channelText (s.persist o p fault svc) := by
  unfold System.persist
  split
  · rename_i drawable advance hprogress
    have hcurrent := hs.current svc (System.mem_services hat) drawable (by rw [hprogress]; rfl)
    refine .of_empty ?_ ?_
    · rw [services_answer]
      have hlength := services_length_abandon hat
      have hone := hs.one
      refine List.length_eq_zero_iff.1 (Nat.le_zero.1 ?_)
      -- a write changes no request
      have hsame : ((s.write o svc drawable (stateOf (persistVoucherAndAdvance fault
          (voucherRecord o.channelText svc.req.voucher svc.billedAtomic advance)
          s.ledger))).abandon p).services = (s.abandon p).services := by
        cases p <;> rfl
      rw [hsame]
      omega
    · rw [answer_debits]
      rcases persist_effect o.channelText s.ledger fault svc.req.voucher svc.billedAtomic
        advance with hkept | ⟨v, r, hvid, hcum, hspec⟩
      · rw [hkept, write_self]
        exact hs.exact
      · obtain ⟨hbefore, -, hdebits⟩ := write_debits (d := drawable) svc hvid hcum hspec
        rw [hdebits]
        intro d hd
        rcases List.mem_append.1 hd with hold | hnew
        · exact hs.exact d hold
        -- it moved the figure from the one that was loaded
        · obtain rfl := List.mem_singleton.1 hnew
          exact Option.some.inj (hbefore.symm.trans hcurrent)
  · exact hs

/-- A tracker that sends adds the only service, or none. -/
theorem Alone.attempt (hs : Alone id s) (fate : Fate) : Alone id (s.attempt signVoucher o fate) := by
  unfold System.attempt
  split
  · rename_i a hidle ha
    cases hreq : s.tracker.request signVoucher o a with
    | none => exact hs.congr rfl rfl rfl rfl
    | some req =>
      cases fate with
      | answered resp => exact hs.congr rfl rfl rfl rfl
      | lost => exact hs.congr rfl rfl rfl rfl
      | handled h =>
        simp only [System.sent]
        split
        · exact hs.congr rfl rfl rfl rfl
        · rename_i svc hadmitted
          have hentered := System.admitted_ok hadmitted
          refine hs.entered hentered ?_ rfl rfl
          have hempty := hs.empty_of_free hentered.free
          have horphans : s.orphans = [] := (List.append_eq_nil_iff.1 hempty).2
          rw [hempty]
          show [svc] ++ s.orphans = _
          rw [horphans]
          rfl
  · exact hs

/-- A call that fails leaves its service to itself. -/
theorem Alone.throws (hs : Alone id s) : Alone id s.throws := by
  unfold System.throws
  split
  · exact hs
  · rename_i svc hsvc
    have hperm : (s.orphans ++ [svc]).Perm s.services := by
      rw [System.services, hsvc]
      exact List.perm_append_comm
    refine ⟨hperm.length_eq.trans_le hs.one, ?_, ?_, hs.exact⟩
    · intro t ht
      exact hs.holds t (hperm.mem_iff.1 ht)
    · intro t ht
      exact hs.current t (hperm.mem_iff.1 ht)

/-- A request is admitted with the lock only. -/
theorem Alone.arrive (hs : Alone id s) (k : ℕ) (h : Admission) : Alone id (s.arrive k h) := by
  unfold System.arrive
  split
  · exact hs
  · split
    · exact hs.congr rfl rfl rfl rfl
    · rename_i svc hadmitted
      refine hs.entered (System.admitted_ok hadmitted) ?_ rfl rfl
      exact (List.append_assoc ..).symm

variable (verifySignature signVoucher feePercent) in
/-- What one step preserves, as long as the lock lasts. -/
theorem alone_step (s : System) (a : TrackerLabel) (hlasting : Lasting s a)
    (hs : Alone o.channelText s) :
    Alone o.channelText (trackerStep verifySignature signVoucher feePercent o s a) := by
  cases a with
  | draw p => exact hs.congr rfl rfl rfl rfl
  | begin => exact hs.congr rfl rfl rfl rfl
  | attempt fate => exact hs.attempt fate
  | throws => exact hs.throws
  | arrive k h => exact hs.arrive k h
  | load p h =>
    refine System.onService_cases hs fun svc hat => ?_
    refine (hs.congr rfl rfl rfl rfl : Alone o.channelText (s.accept svc _)).stage
      ((s.accept_at _ _ p).trans hat) ?_
    intro progress hgo d hd
    obtain ⟨drawable, rfl, hload, -⟩ := loadStage_goesOn hgo
    obtain ⟨r, hr, -, -, hlast⟩ := loadOpenChannelState_ok hload
    obtain rfl := Option.some.inj hd
    show lastOf s.ledger o.channelText = _
    rw [lastOf, hr, Option.map_some, hlast]
  | serve p outcome =>
    refine System.onService_cases hs fun svc hat => hs.stage hat ?_
    intro progress hgo d hd
    rw [serveStage_goesOn hgo] at hd
    exact hs.current svc (System.mem_services hat) d hd
  | recheck p redisAnswers =>
    refine System.onService_cases hs fun svc hat => hs.stage hat ?_
    intro progress hgo d hd
    rw [recheckStage_goesOn hgo] at hd
    exact hs.current svc (System.mem_services hat) d hd
  | persist p fault => exact System.onService_cases hs fun svc hat => hs.persist hat fault
  | drop p =>
    refine System.onService_cases hs fun svc hat => ?_
    have hlength := services_length_abandon hat
    have hone := hs.one
    refine .of_empty (List.length_eq_zero_iff.1 (by omega)) ?_
    cases p <;> exact hs.exact
  | unlock =>
    -- a lock that lasts is not held when it goes
    refine .of_empty ?_ hs.exact
    apply List.eq_nil_iff_forall_not_mem.2
    intro t ht
    exact hlasting t ht (hs.holds t ht)
  | resyncTo last =>
    simp only [trackerStep]
    split_ifs
    · exact hs.congr rfl rfl rfl rfl
    · exact hs
  | beside fault op =>
    simp only [trackerStep]
    split_ifs with hop
    · exact hs
    · refine ⟨hs.one, hs.holds, ?_, hs.exact⟩
      intro t ht d hd
      have hcurrent := hs.current t ht d hd
      rcases lastOf_beside fault (Bool.eq_false_iff.2 hop) s.ledger with hsame | ⟨hnone, -⟩
      · exact hsame.trans hcurrent
      · rw [hnone] at hcurrent
        exact absurd hcurrent (by simp)

variable (verifySignature signVoucher feePercent o) in
/-- In a run whose locks outlast their draws, every debit found what its request had loaded. -/
theorem found_eq_loaded (ops : List (Fault × LedgerOp)) {as : List TrackerLabel}
    (hlasting : AllSteps (trackerStep verifySignature signVoucher feePercent o) Lasting
      (System.init o (run ledgerStep Ledger.empty ops)) as) :
    ∀ d ∈ (trackerRun verifySignature signVoucher feePercent o ops as).debits,
      d.found = d.loaded := by
  have hinit : Alone o.channelText (System.init o (run ledgerStep Ledger.empty ops)) :=
    .of_empty rfl fun d hd => absurd hd List.not_mem_nil
  exact (run_invariant_of_allSteps
    (fun s a hs hlast => alone_step verifySignature signVoucher feePercent s a hlast hs) hinit
    hlasting).exact

end

end Solvela.Tracker
