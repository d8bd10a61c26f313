import Solvela.Refund.StatusMachine

/-!
# Exactly-once refunds

A transaction that was handed to the cluster can land until its last valid block height. A
second one for the same refund is safe only once the first is dead: not on chain, and past
that height. The worker decides this from two reads, the signature status and then the block
height, and a transaction that lands between them is taken for dead.

`deathCheckFresh` says that this does not happen at a step. In every run whose steps all have
it, every signature that can still land is the one its row carries now, so at most one
transfer of a refund lands.

* `Dead.step` and `Covered.step`, what becomes of a signature;
* `OnceInv.step_handlers` and `OnceInv.step_sent`, the two parts of `OnceInv.step`;
* `OnceInv.transfersLanded_le`, what it is for.
-/

namespace Solvela.RefundWorker

open Solvela.Lib
open Solvela.Lib.Txn
open Solvela.ChannelLedger

/-- At a height read that concludes a re-signable death, the transaction has not landed since
its status was read. -/
def deathCheckFresh (s : WorkerSystem) : WorkerLabel → Bool
  | .blockHeight w true =>
    match s.handlers.lookup w with
    | some (.unlanded row sig _ height) =>
      !(decide (height < s.height) && row.broadcastAccepted &&
        decide (row.attempts < maxClaimAttempts)) || !s.hasLanded sig
    | _ => true
  | _ => true

/-- What the condition says of a handler that found its transfer neither landed nor alive. -/
theorem deathCheckFresh_unlanded {s : WorkerSystem} {w : ℕ} {row : RefundRow} {sig : String}
    {signedTx : List UInt8} {height : ℕ} (h : deathCheckFresh s (.blockHeight w true) = true)
    (found : s.handlers.lookup w = some (.unlanded row sig signedTx height))
    (past : height < s.height) (accepted : row.broadcastAccepted = true)
    (attempts : row.attempts < maxClaimAttempts) : s.hasLanded sig = false := by
  simp only [deathCheckFresh, found] at h
  simpa [past, accepted, attempts] using h

section
variable (cluster : Cluster)

/-- The successful transfers of one refund on chain. -/
def transfersLanded (s : WorkerSystem) (id : ChannelId) : List (String × Bool) :=
  s.landed.filter fun e => e.2 && decide (cluster.channelOf e.1 = id)

/-! ## What can still land -/

/-- Not on chain, and it never will be. -/
def Dead (s : WorkerSystem) (sig : String) : Prop :=
  s.hasLanded sig = false ∧ cluster.lastValidOf sig < s.height

/-- The row carries this signature now. -/
def Current (s : WorkerSystem) (id : ChannelId) (sig : String) : Prop :=
  ∃ r, refundRow s.ledger id = some r ∧ r.txSignature = some sig

/-- A signature of the refund `id` that is current or dead. -/
def Covered (s : WorkerSystem) (id : ChannelId) (sig : String) : Prop :=
  cluster.channelOf sig = id ∧ (Current s id sig ∨ Dead cluster s sig)

/-- What a handler may send is covered, and what it gives up is dead. -/
def Handler.Guarded (s : WorkerSystem) : Handler → Prop
  | .claiming row tx height => cluster.channelOf tx.signatureB58 = row.channelId ∧
      height = cluster.lastValidOf tx.signatureB58
  | .sending id tx => Covered cluster s id tx.signatureB58
  | .inFlight row => ∀ sig, row.txSignature = some sig →
      Covered cluster s row.channelId sig ∧
        row.lastValidBlockHeight = some (cluster.lastValidOf sig)
  | .unlanded row sig _ height => Covered cluster s row.channelId sig ∧
      height = cluster.lastValidOf sig
  | .expired _ sig => Dead cluster s sig
  | .resigning row old tx height => Dead cluster s old ∧
      cluster.channelOf tx.signatureB58 = row.channelId ∧
      height = cluster.lastValidOf tx.signatureB58
  | _ => True

structure OnceInv (s : WorkerSystem) : Prop where
  reserved : ∀ id r, refundRow s.ledger id = some r → r.status = .reserved →
    r.txSignature = none
  rows : ∀ id r sig, refundRow s.ledger id = some r → r.txSignature = some sig →
    cluster.channelOf sig = id ∧
      r.lastValidBlockHeight = some (cluster.lastValidOf sig : ℤ)
  handlers : Table.All (Handler.Guarded cluster s) s.handlers
  sent : ∀ id tx, (id, tx) ∈ s.sent → Covered cluster s id tx.signatureB58
  landed : ∀ e ∈ s.landed, s.wasSent e.1 = true
  distinct : (s.landed.map Prod.fst).Nodup

variable {cluster} {config : WorkerConfig} {s s' : WorkerSystem} {a : WorkerLabel}

/-- Landed is being in the list of landings. -/
theorem hasLanded_eq_true {sig : String} :
    s.hasLanded sig = true ↔ sig ∈ s.landed.map Prod.fst := by
  simp [WorkerSystem.hasLanded, List.any_eq_true, List.mem_map]

/-- Sent is being in the list of sends. -/
theorem wasSent_eq_true {sig : String} :
    s.wasSent sig = true ↔ ∃ id tx, (id, tx) ∈ s.sent ∧ tx.signatureB58 = sig := by
  simp [WorkerSystem.wasSent, List.any_eq_true]

/-! ## Coverage is kept -/

/-- How a step changes the chain: blocks pass, or one transaction lands that could. -/
theorem WorkerEffect.chain (heff : WorkerEffect cluster config s a s') :
    (s'.landed = s.landed ∧ s.height ≤ s'.height) ∨
    ∃ sig succeeds, s'.landed = s.landed ++ [(sig, succeeds)] ∧ s'.height = s.height ∧
      s.wasSent sig = true ∧ s.hasLanded sig = false ∧
      s.height ≤ cluster.lastValidOf sig := by
  cases heff with
  | landed sig succeeds sent once alive =>
    exact Or.inr ⟨sig, succeeds, rfl, rfl, sent, once, alive⟩
  | blocks n => exact Or.inl ⟨rfl, Nat.le_add_right _ _⟩
  | sent w id tx answer found =>
    cases answer with
    | _ => exact Or.inl ⟨rfl, le_refl _⟩
  | _ => exact Or.inl ⟨rfl, le_refl _⟩

/-- A dead transfer stays dead. -/
theorem Dead.step (heff : WorkerEffect cluster config s a s') {sig : String}
    (h : Dead cluster s sig) : Dead cluster s' sig := by
  obtain ⟨hnot, hpast⟩ := h
  rcases heff.chain with ⟨hlanded, hheight⟩ | ⟨sig', succeeds, hlanded, hheight, -, -, halive⟩
  · refine ⟨?_, by omega⟩
    rw [WorkerSystem.hasLanded, hlanded]
    exact hnot
  · -- the transaction that lands is not expired, so it is another one
    have hne : sig' ≠ sig := by
      rintro rfl
      omega
    refine ⟨?_, by omega⟩
    have hlast : (sig' == sig) = false := by simpa using hne
    rw [WorkerSystem.hasLanded, hlanded, List.any_append]
    show (s.hasLanded sig || _) = false
    simp [hnot, hlast]

/-- The signature on the row stays there until it is dead. -/
theorem Current.step (heff : WorkerEffect cluster config s a s') (hinv : OnceInv cluster s)
    {id : ChannelId} {sig : String} (h : Current s id sig) :
    Current s' id sig ∨ Dead cluster s' sig := by
  obtain ⟨r, hr, hsig⟩ := h
  have hkept := heff.obligation_kept (obligation_of_refundRow hr)
  obtain ⟨r', hr', -⟩ := refundRow_of_obligation hkept
  rcases heff.payload hr' with ⟨hnone, -⟩ | ⟨r₁, hr₁, hsame⟩ | ⟨tx, height, hwon, -⟩
  · rw [hnone] at hr
    exact absurd hr (by simp)
  · obtain rfl : r₁ = r := Option.some.inj (hr₁.symm.trans hr)
    exact Or.inl ⟨r', hr', hsame.txSignature.trans hsig⟩
  · cases hwon with
    | claim w now fault row r₁ _ _ _ hreserved hwritten =>
      -- a reserved row carries no signature
      obtain rfl : r₁ = r := Option.some.inj (hwritten.found.symm.trans hr)
      rw [hinv.reserved id r₁ hr hreserved] at hsig
      exact absurd hsig (by simp)
    | resign w fault row old r₁ _ hfound _ _ hold hwritten =>
      -- the superseded signature was dead when the handler gave it up
      obtain rfl : r₁ = r := Option.some.inj (hwritten.found.symm.trans hr)
      obtain rfl : old = sig := Option.some.inj (hold.symm.trans hsig)
      exact Or.inr (Dead.step heff (hinv.handlers w _ hfound).1)

/-- Each transfer stays on its row or dead. -/
theorem Covered.step (heff : WorkerEffect cluster config s a s') (hinv : OnceInv cluster s)
    {id : ChannelId} {sig : String} (h : Covered cluster s id sig) :
    Covered cluster s' id sig := by
  refine ⟨h.1, ?_⟩
  rcases h.2 with hcurrent | hdead
  · exact hcurrent.step heff hinv
  · exact Or.inr (hdead.step heff)

/-- What a handler knows survives the steps of others. -/
theorem Handler.Guarded.step (heff : WorkerEffect cluster config s a s')
    (hinv : OnceInv cluster s) {h : Handler} (hg : h.Guarded cluster s) :
    h.Guarded cluster s' := by
  cases h with
  | claiming row tx height => exact hg
  | sending id tx => exact Covered.step heff hinv hg
  | inFlight row => exact fun sig hsig => ⟨(hg sig hsig).1.step heff hinv, (hg sig hsig).2⟩
  | unlanded row sig signedTx height => exact ⟨hg.1.step heff hinv, hg.2⟩
  | expired row sig => exact Dead.step heff hg
  | resigning row old tx height => exact ⟨hg.1.step heff, hg.2⟩
  | _ => trivial

/-- A handler that reads stays guarded; this is where the death check has to be fresh. -/
theorem guarded_handlerStep {w : ℕ} {h h' : Handler} (hfresh : deathCheckFresh s a = true)
    (hw : s.handlers.lookup w = some h) (hg : h.Guarded cluster s)
    (hstep : HandlerStep cluster s a w h h') : h'.Guarded cluster s := by
  cases hstep with
  | signed row sig memo => exact ⟨memo, rfl⟩
  | unseen row sig signedTx height hsig hbytes hheight =>
    obtain ⟨hcov, hlast⟩ := hg sig hsig
    exact ⟨hcov, Option.some.inj (hheight.symm.trans hlast)⟩
  | alive row sig signedTx height => exact hg.1
  | dead row sig signedTx height label past accepted attempts =>
    subst label
    have hlast : height = cluster.lastValidOf sig := hg.2
    exact ⟨deathCheckFresh_unlanded hfresh hw past accepted attempts, hlast ▸ past⟩
  | resigned row old sig memo => exact ⟨hg, memo, rfl⟩
  | _ => trivial

/-! ## The invariant -/

/-- The winner of a row signed for it. -/
theorem OnceInv.won (hinv : OnceInv cluster s) {l' : Ledger} {id : ChannelId}
    {tx : SignedUsdcTransfer} {height : ℕ} (h : Won s a l' id tx height) :
    cluster.channelOf tx.signatureB58 = id ∧ height = cluster.lastValidOf tx.signatureB58 := by
  cases h with
  | claim w now fault row r _ found own =>
    obtain ⟨hmemo, hheight⟩ := hinv.handlers w _ found
    exact ⟨hmemo.trans own, hheight⟩
  | resign w fault row old r _ found own =>
    obtain ⟨-, hmemo, hheight⟩ := hinv.handlers w _ found
    exact ⟨hmemo.trans own, hheight⟩

/-- The handlers after a step: the one that replaces a transfer knows it is dead. -/
theorem OnceInv.step_handlers (heff : WorkerEffect cluster config s a s')
    (hinv : OnceInv cluster s) (hfresh : deathCheckFresh s a = true) :
    Table.All (Handler.Guarded cluster s') s'.handlers := by
  refine heff.allHandlers hinv.handlers (fun h hg => hg.step heff hinv) ?_ ?_ ?_ ?_
  · intro id r row hr hrow
    obtain ⟨rfl, -, hsigs, -, hheights⟩ := fetchRow_ok hrow
    refine ⟨trivial, fun _ sig hsig => ?_⟩
    rw [hsigs] at hsig
    obtain ⟨hmemo, hlast⟩ := hinv.rows _ r sig hr hsig
    refine ⟨Covered.step heff hinv ⟨hmemo, Or.inl ⟨r, hr, hsig⟩⟩, ?_⟩
    rw [hheights] at hlast
    obtain ⟨n, hn, hcast⟩ := Option.map_eq_some_iff.1 hlast
    rw [hn, Int.ofNat.inj hcast]
  · exact fun w h h' hw hg hstep => (guarded_handlerStep hfresh hw hg hstep).step heff hinv
  · intro id tx height hwon
    obtain ⟨r, hwritten⟩ := hwon.payloadWritten
    obtain ⟨r', hr', -, hsig, -⟩ := hwritten.written
    exact ⟨(hinv.won hwon).1, Or.inl ⟨r', hr', hsig⟩⟩
  · intro id tx answer h _ hnext
    cases answer with
    | transient => exact absurd hnext (by simp [afterSend])
    | _ =>
      obtain rfl := Option.some.inj hnext
      trivial

/-- Every transfer that is sent is on its row or dead. -/
theorem OnceInv.step_sent (heff : WorkerEffect cluster config s a s')
    (hinv : OnceInv cluster s) {id : ChannelId} {tx : SignedUsdcTransfer}
    (hmem : (id, tx) ∈ s'.sent) : Covered cluster s' id tx.signatureB58 := by
  rcases heff.sent_cases with hsame | ⟨w, id', tx', hsending, hsent⟩
  · rw [hsame] at hmem
    exact (hinv.sent id tx hmem).step heff hinv
  · rw [hsent] at hmem
    rcases List.mem_append.1 hmem with hmem | hmem
    · exact (hinv.sent id tx hmem).step heff hinv
    · obtain ⟨rfl, rfl⟩ := Prod.mk.inj (List.mem_singleton.1 hmem)
      exact Covered.step heff hinv (hinv.handlers w _ hsending)

/-- What was sent stays sent. -/
theorem WorkerEffect.wasSent (heff : WorkerEffect cluster config s a s') {sig : String}
    (h : s.wasSent sig = true) : s'.wasSent sig = true := by
  obtain ⟨id, tx, hmem, hsig⟩ := wasSent_eq_true.1 h
  refine wasSent_eq_true.2 ⟨id, tx, ?_, hsig⟩
  rcases heff.sent_cases with hsame | ⟨w, id', tx', -, hsent⟩
  · rw [hsame]
    exact hmem
  · rw [hsent]
    exact List.mem_append_left _ hmem

/-- What one step preserves, if the height of the death check is fresh. -/
theorem OnceInv.step (hinv : OnceInv cluster s) (hfresh : deathCheckFresh s a = true) :
    OnceInv cluster (workerStep cluster config s a) := by
  have heff := worker_effect cluster config s a
  refine ⟨?_, ?_, hinv.step_handlers heff hfresh, fun id tx => hinv.step_sent heff, ?_, ?_⟩
  -- a reserved row has no signature
  · intro id r' hr' hreserved
    rcases heff.payload hr' with ⟨-, hnone⟩ | ⟨r, hr, hsame⟩ | ⟨tx, height, -, hinFlight, -⟩
    · exact hnone
    · exact hsame.txSignature.trans (hinv.reserved id r hr (hsame.reserved hreserved))
    · rw [hinFlight] at hreserved
      exact absurd hreserved (by simp)
  -- the signature on a row is one of its own channel, and the row knows its expiry
  · intro id r' sig hr' hsig
    rcases heff.payload hr' with ⟨-, hnone⟩ | ⟨r, hr, hsame⟩ | ⟨tx, height, hwon, -, hs, -, hl⟩
    · rw [hnone] at hsig
      exact absurd hsig (by simp)
    · rw [hsame.txSignature] at hsig
      rw [hsame.lastValid]
      exact hinv.rows id r sig hr hsig
    · obtain rfl : tx.signatureB58 = sig := Option.some.inj (hs.symm.trans hsig)
      obtain ⟨hmemo, rfl⟩ := hinv.won hwon
      exact ⟨hmemo, hl⟩
  -- what landed was sent
  · intro e he
    rcases heff.chain with ⟨hlanded, -⟩ | ⟨sig, succeeds, hlanded, -, hsent, -⟩
    · rw [hlanded] at he
      exact heff.wasSent (hinv.landed e he)
    · rw [hlanded] at he
      rcases List.mem_append.1 he with he | he
      · exact heff.wasSent (hinv.landed e he)
      · obtain rfl := List.mem_singleton.1 he
        exact heff.wasSent hsent
  · rcases heff.chain with ⟨hlanded, -⟩ | ⟨sig, succeeds, hlanded, -, -, honce, -⟩
    · rw [hlanded]
      exact hinv.distinct
    · have hnew : sig ∉ s.landed.map Prod.fst := by
        rw [← hasLanded_eq_true, honce]
        decide
      rw [hlanded, List.map_append]
      exact List.Nodup.append hinv.distinct (List.nodup_singleton sig)
        (List.disjoint_singleton.2 hnew)

/-- Before the first step nothing is sent. -/
theorem onceInv_init : OnceInv cluster WorkerSystem.init := by
  refine ⟨?_, ?_, ?_, ?_, ?_, List.nodup_nil⟩
  · intro id r hr
    exact absurd hr (by simp [refundRow, WorkerSystem.init, Ledger.empty])
  · intro id r sig hr
    exact absurd hr (by simp [refundRow, WorkerSystem.init, Ledger.empty])
  · intro w h hw
    exact absurd hw (by simp [WorkerSystem.init])
  · intro id tx hmem
    exact absurd hmem (by simp [WorkerSystem.init])
  · intro e he
    exact absurd he (by simp [WorkerSystem.init])

/-- What landed is what its row carries. -/
theorem OnceInv.current_of_landed (hinv : OnceInv cluster s) {e : String × Bool}
    (he : e ∈ s.landed) : Current s (cluster.channelOf e.1) e.1 := by
  obtain ⟨id, tx, hmem, hsig⟩ := wasSent_eq_true.1 (hinv.landed e he)
  obtain ⟨hid, hcov⟩ := hinv.sent id tx hmem
  rw [hsig] at hid hcov
  rcases hcov with hcurrent | hdead
  · rw [hid]
    exact hcurrent
  · have hlanded : s.hasLanded e.1 = true :=
      hasLanded_eq_true.2 (List.mem_map_of_mem he)
    rw [hdead.1] at hlanded
    exact absurd hlanded (by decide)

/-- Two landed transfers of one channel would both be on its row. -/
theorem OnceInv.transfersLanded_le (hinv : OnceInv cluster s) (id : ChannelId) :
    (transfersLanded cluster s id).length ≤ 1 := by
  have hnodup : ((transfersLanded cluster s id).map Prod.fst).Nodup :=
    hinv.distinct.sublist (List.filter_sublist.map _)
  -- all of them are the signature the row carries
  have hcurrent : ∀ sig ∈ (transfersLanded cluster s id).map Prod.fst, Current s id sig := by
    intro sig hsig
    obtain ⟨e, he, rfl⟩ := List.mem_map.1 hsig
    obtain ⟨hmem, hp⟩ := List.mem_filter.1 he
    simp only [Bool.and_eq_true, decide_eq_true_eq] at hp
    rw [← hp.2]
    exact hinv.current_of_landed hmem
  rw [← List.length_map (f := Prod.fst)]
  cases hl : (transfersLanded cluster s id).map Prod.fst with
  | nil => simp
  | cons sig sigs =>
    rw [hl] at hnodup hcurrent
    obtain ⟨r, hr, hsig⟩ := hcurrent sig (List.mem_cons_self ..)
    have hsame : ∀ sig' ∈ sig :: sigs, sig' = sig := by
      intro sig' hmem
      obtain ⟨r', hr', hsig'⟩ := hcurrent sig' hmem
      obtain rfl : r' = r := Option.some.inj (hr'.symm.trans hr)
      exact Option.some.inj (hsig'.symm.trans hsig)
    rw [List.eq_replicate_of_mem hsame] at hnodup ⊢
    rw [List.length_replicate]
    exact List.nodup_replicate.1 hnodup

variable (cluster config) in
/-- In every run whose death checks are all fresh, at most one transfer of a refund lands,
however the workers interleave and crash. -/
theorem refund_exactly_once (as : List WorkerLabel) (id : ChannelId)
    (hfresh : AllSteps (workerStep cluster config) (fun s a => deathCheckFresh s a = true)
      WorkerSystem.init as) :
    (transfersLanded cluster (workerRun cluster config as) id).length ≤ 1 := by
  have hinv : OnceInv cluster (workerRun cluster config as) :=
    run_invariant_of_allSteps (fun s a hinv hfresh => hinv.step hfresh) onceInv_init hfresh
  exact hinv.transfersLanded_le id

end

/-! ## Two runs of the sample refund -/

/-- The worker `0` broadcasts the refund; the worker `1` picks the row up and finds no trace of
the transaction. -/
def sampleUnseen : List WorkerLabel :=
  sampleClosed 100 ++
    [.sign 0 true (some sampleSigA), .claim 0 1000 none, .send 0 .accepted, .mark 0 1001 none,
      .fetch 1 sampleId, .status 1 true true]

/-- The worker `1` finds the blockhash expired, signs again and broadcasts. -/
def sampleResigned : List WorkerLabel :=
  [.blocks 200, .blockHeight 1 true, .sign 1 true (some sampleSigB), .resign 1 none,
    .send 1 .accepted, .land sampleSigB true]

/-- A transfer that died and was signed anew: the second one lands alone. -/
theorem refund_exactly_once_resigned :
    (transfersLanded sampleCluster
      (workerRun sampleCluster sampleConfig (sampleUnseen ++ sampleResigned))
      sampleId).length ≤ 1 ∧
    transfersLanded sampleCluster
      (workerRun sampleCluster sampleConfig (sampleUnseen ++ sampleResigned)) sampleId =
        [(sampleSigB, true)] := by
  have hrun : AllSteps (workerStep sampleCluster sampleConfig)
        (fun s a => deathCheckFresh s a = true) WorkerSystem.init
        (sampleUnseen ++ sampleResigned) ∧
      transfersLanded sampleCluster
        (workerRun sampleCluster sampleConfig (sampleUnseen ++ sampleResigned)) sampleId =
          [(sampleSigB, true)] := by
    decide +kernel
  exact ⟨refund_exactly_once sampleCluster sampleConfig (sampleUnseen ++ sampleResigned)
    sampleId hrun.1, hrun.2⟩

/-- The first transaction lands after the status read and before the height read: the refund is
paid twice. -/
theorem refund_paid_twice :
    transfersLanded sampleCluster
        (workerRun sampleCluster sampleConfig
          (sampleUnseen ++ .land sampleSigA true :: sampleResigned)) sampleId =
          [(sampleSigA, true), (sampleSigB, true)] ∧
      ¬ (transfersLanded sampleCluster
        (workerRun sampleCluster sampleConfig
          (sampleUnseen ++ .land sampleSigA true :: sampleResigned)) sampleId).length ≤ 1 := by
  decide +kernel

end Solvela.RefundWorker
