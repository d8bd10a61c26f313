import Solvela.Refund.WorkerTheorems

/-!
# The status machine of a refund

What holds for any number of workers and any interleaving of their steps:

* what is broadcast was stored in its row by a claim or a re-sign that won, strictly before;
* a refund moves along the edges of `StatusEdge` and no others;
* a hold or a re-sign that names a signature moves only a row that still carries it;
* a refund is confirmed exactly when its channel is closed.
-/

namespace Solvela.RefundWorker

open Solvela.Lib
open Solvela.Lib.Txn
open Solvela.ChannelLedger

section
variable (cluster : Cluster) (config : WorkerConfig)

/-- The system after a run. -/
def workerRun (as : List WorkerLabel) : WorkerSystem :=
  run (workerStep cluster config) WorkerSystem.init as

/-! ## Persisted bytes -/

/-- Some step of the run won the row `id` for `tx`. -/
def Stored (as : List WorkerLabel) (id : ChannelId) (tx : SignedUsdcTransfer) : Prop :=
  SomeStep (workerStep cluster config)
    (fun s a => ∃ height, Won s a (workerStep cluster config s a).ledger id tx height)
    WorkerSystem.init as

/-- What a handler may still broadcast was stored. -/
def Handler.Persisted (stored : ChannelId → SignedUsdcTransfer → Prop) : Handler → Prop
  | .sending id tx => stored id tx
  | .inFlight row => ∀ sig bytes, row.txSignature = some sig → row.signedTx = some bytes →
      stored row.channelId ⟨sig, bytes⟩
  | .unlanded row sig bytes _ => stored row.channelId ⟨sig, bytes⟩
  | _ => True

/-- Everything that can be read from a row, is about to be sent or was sent, was stored. -/
structure PersistedBytes (as : List WorkerLabel) (s : WorkerSystem) : Prop where
  rows : ∀ id r sig bytes, refundRow s.ledger id = some r → r.txSignature = some sig →
    r.signedTx = some bytes → Stored cluster config as id ⟨sig, bytes⟩
  handlers : Table.All (Handler.Persisted (Stored cluster config as)) s.handlers
  sent : ∀ id tx, (id, tx) ∈ s.sent → Stored cluster config as id tx

variable {cluster config}

/-- A run by its last step. -/
theorem workerRun_append (as : List WorkerLabel) (a : WorkerLabel) :
    workerRun cluster config (as ++ [a]) =
      workerStep cluster config (workerRun cluster config as) a :=
  run_append _ _ _ _

/-- What was stored once was stored in every longer run. -/
theorem Stored.append {as : List WorkerLabel} {id : ChannelId} {tx : SignedUsdcTransfer}
    (h : Stored cluster config as id tx) (a : WorkerLabel) :
    Stored cluster config (as ++ [a]) id tx :=
  someStep_append.2 (Or.inl h)

/-- A claim that has won stores its transfer. -/
theorem Stored.of_won {as : List WorkerLabel} {a : WorkerLabel} {id : ChannelId}
    {tx : SignedUsdcTransfer} {height : ℕ}
    (h : Won (workerRun cluster config as) a (workerRun cluster config (as ++ [a])).ledger
      id tx height) : Stored cluster config (as ++ [a]) id tx := by
  rw [workerRun_append] at h
  exact someStep_append.2 (Or.inr (Or.inl ⟨height, h⟩))

/-- Handlers keep what they hold when more is stored. -/
theorem Handler.Persisted.mono {p q : ChannelId → SignedUsdcTransfer → Prop} {h : Handler}
    (hp : h.Persisted p) (himp : ∀ id tx, p id tx → q id tx) : h.Persisted q := by
  cases h with
  | sending id tx => exact himp id tx hp
  | inFlight row => exact fun sig bytes hsig hbytes => himp _ _ (hp sig bytes hsig hbytes)
  | unlanded row sig bytes height => exact himp _ _ hp
  | _ => trivial

/-- A handler's step invents no transfer. -/
theorem persisted_handlerStep {p : ChannelId → SignedUsdcTransfer → Prop} {s : WorkerSystem}
    {a : WorkerLabel} {w : ℕ} {h h' : Handler} (hp : h.Persisted p)
    (hstep : HandlerStep cluster s a w h h') : h'.Persisted p := by
  cases hstep with
  | unseen row sig signedTx height hsig hbytes hheight => exact hp sig signedTx hsig hbytes
  | alive row sig signedTx height => exact hp
  | _ => trivial

/-- Nor does the answer of a send. -/
theorem afterSend_persisted {p : ChannelId → SignedUsdcTransfer → Prop} {id : ChannelId}
    {tx : SignedUsdcTransfer} {answer : SendAnswer} {h : Handler}
    (hnext : afterSend id tx answer = some h) : h.Persisted p := by
  cases answer with
  | transient => exact absurd hnext (by simp [afterSend])
  | _ =>
    obtain rfl := Option.some.inj hnext
    trivial

/-- What a step adds to `sent` is what a handler was about to send. -/
theorem WorkerEffect.sent_cases {s s' : WorkerSystem} {a : WorkerLabel}
    (heff : WorkerEffect cluster config s a s') :
    s'.sent = s.sent ∨ ∃ w id tx, s.handlers.lookup w = some (.sending id tx) ∧
      s'.sent = s.sent ++ [(id, tx)] := by
  cases heff with
  | sent w id tx answer found =>
    refine Or.inr ⟨w, id, tx, found, ?_⟩
    cases answer with
    | _ => rfl
  | _ => exact Or.inl rfl

/-- What one step adds to the store. -/
theorem persistedBytes_step (as : List WorkerLabel) (a : WorkerLabel)
    (hinv : PersistedBytes cluster config as (workerRun cluster config as)) :
    PersistedBytes cluster config (as ++ [a]) (workerRun cluster config (as ++ [a])) := by
  have heff := worker_effect cluster config (workerRun cluster config as) a
  rw [← workerRun_append] at heff
  have hmono : ∀ id tx, Stored cluster config as id tx →
      Stored cluster config (as ++ [a]) id tx := fun id tx h => h.append a
  refine ⟨?_, ?_, ?_⟩
  -- the payload of a row was there before
  · intro id r' sig bytes hr' hsig hbytes
    rcases heff.payload hr' with ⟨-, hnone⟩ | ⟨r, hr, hsame⟩ | ⟨tx, height, hwon, -, hs, hb, -⟩
    · rw [hnone] at hsig
      exact absurd hsig (by simp)
    · rw [hsame.txSignature] at hsig
      rw [hsame.signedTx] at hbytes
      exact hmono _ _ (hinv.rows id r sig bytes hr hsig hbytes)
    · -- the payload of this very step
      obtain rfl : tx.signatureB58 = sig := Option.some.inj (hs.symm.trans hsig)
      obtain rfl : tx.wireBytes = bytes := Option.some.inj (hb.symm.trans hbytes)
      exact .of_won hwon
  -- a handler takes its transfer from a row, or from its own claim
  · refine heff.allHandlers hinv.handlers (fun h hp => hp.mono hmono) ?_ ?_ ?_ ?_
    · intro id r row hr hrow
      obtain ⟨rfl, -, hsig, hbytes, -⟩ := fetchRow_ok hrow
      refine ⟨trivial, fun _ sig bytes hs hb => ?_⟩
      rw [hsig] at hs
      rw [hbytes] at hb
      exact hmono _ _ (hinv.rows _ r sig bytes hr hs hb)
    · exact fun w h h' _ hp hstep => (persisted_handlerStep hp hstep).mono hmono
    · exact fun id tx height hwon => .of_won hwon
    · exact fun id tx answer h _ hnext => afterSend_persisted hnext
  -- what is sent was in a handler's hands
  · intro id tx hmem
    rcases heff.sent_cases with hsame | ⟨w, id', tx', hsending, hsent⟩
    · rw [hsame] at hmem
      exact hmono _ _ (hinv.sent id tx hmem)
    · rw [hsent] at hmem
      rcases List.mem_append.1 hmem with hmem | hmem
      · exact hmono _ _ (hinv.sent id tx hmem)
      · obtain ⟨rfl, rfl⟩ := Prod.mk.inj (List.mem_singleton.1 hmem)
        exact hmono _ _ (hinv.handlers w _ hsending)

variable (cluster config) in
/-- Every transfer in hand was stored before. -/
theorem persistedBytes_run (as : List WorkerLabel) :
    PersistedBytes cluster config as (workerRun cluster config as) := by
  refine run_history (H := PersistedBytes cluster config) ?_ ?_ as
  · refine ⟨?_, ?_, ?_⟩
    · intro id r sig bytes hr
      exact absurd hr (by simp [refundRow, WorkerSystem.init, Ledger.empty])
    · intro w h hw
      exact absurd hw (by simp [WorkerSystem.init])
    · intro id tx hmem
      exact absurd hmem (by simp [WorkerSystem.init])
  · intro as a hinv
    have hstep := persistedBytes_step as a hinv
    rw [workerRun_append] at hstep
    exact hstep

/-! ## What the handlers know about their rows -/

/-- What a handler holds on to stays true, because the tuple of a refund row is frozen: a
snapshot has the row's terms, a direct confirmation has nothing to pay, a hold of a reserved
row has a tuple that does not decode, and a signature is the snapshot's. -/
def Handler.Sound (l : Ledger) : Handler → Prop
  | .reserved row => obligation l row.channelId =
      some ((row.amountAtomic : ℤ), (row.destinationWallet, row.mint))
  | .funded row => obligation l row.channelId =
      some ((row.amountAtomic : ℤ), (row.destinationWallet, row.mint))
  | .confirming id source => source = .inFlight ∨
      (source = .reserved ∧ ∃ terms, obligation l id = some (0, terms))
  | .holding id .fromReserved => ∃ amount wallet mint,
      obligation l id = some (amount, (wallet, mint)) ∧ corruptTuple wallet mint = true
  | .landed row sig _ => row.txSignature = some sig
  | .unlanded row sig _ _ => row.txSignature = some sig
  | .expired row sig => row.txSignature = some sig
  | .resigning row old _ _ => row.txSignature = some old
  | _ => True

/-- An obligation stays what it is. -/
theorem WorkerEffect.obligation_kept {s s' : WorkerSystem} {a : WorkerLabel}
    (heff : WorkerEffect cluster config s a s') {id : ChannelId} {o : ℤ × RefundTerms}
    (h : obligation s.ledger id = some o) : obligation s'.ledger id = some o := by
  rcases heff.ledger with hl | ⟨fault, op, -, hl⟩
  · rw [hl]
    exact h
  · rw [hl]
    exact ledgerStep_obligation h

/-- Handlers stay sound while obligations are kept. -/
theorem Handler.Sound.mono {l l' : Ledger} {h : Handler} (hs : h.Sound l)
    (hkept : ∀ id o, obligation l id = some o → obligation l' id = some o) : h.Sound l' := by
  cases h with
  | reserved row => exact hkept _ _ hs
  | funded row => exact hkept _ _ hs
  | confirming id source =>
    exact hs.imp_right fun ⟨hsource, terms, ho⟩ => ⟨hsource, terms, hkept _ _ ho⟩
  | holding id guard =>
    cases guard with
    | fromReserved =>
      obtain ⟨amount, wallet, mint, ho, hcorrupt⟩ := hs
      exact ⟨amount, wallet, mint, hkept _ _ ho, hcorrupt⟩
    | _ => trivial
  | landed row sig signedTx => exact hs
  | unlanded row sig signedTx height => exact hs
  | expired row sig => exact hs
  | resigning row old tx height => exact hs
  | _ => trivial

/-- A handler's step reads the row that it keeps. -/
theorem sound_handlerStep {l : Ledger} {s : WorkerSystem} {a : WorkerLabel} {w : ℕ}
    {h h' : Handler} (hs : h.Sound l) (hstep : HandlerStep cluster s a w h h') :
    h'.Sound l := by
  cases hstep with
  | nothingOwed row zero =>
    refine Or.inr ⟨rfl, (row.destinationWallet, row.mint), ?_⟩
    have ho : obligation l row.channelId = _ := hs
    rw [ho, zero]
    rfl
  | funded row => exact hs
  | corruptReserved row hcorrupt => exact ⟨_, _, _, hs, hcorrupt⟩
  | seen row sig signedTx hsig => exact hsig
  | unseen row sig signedTx height hsig => exact hsig
  | verified => exact Or.inl rfl
  | dead row sig => exact hs
  | resigned row old sig => exact hs
  | _ => trivial

variable (cluster config) in
/-- In every run the handlers are sound. -/
theorem sound_run (as : List WorkerLabel) :
    Table.All (Handler.Sound (workerRun cluster config as).ledger)
      (workerRun cluster config as).handlers := by
  refine run_invariant
    (I := fun s : WorkerSystem => Table.All (Handler.Sound s.ledger) s.handlers) ?_ ?_ as
  · intro s a hall
    have heff := worker_effect cluster config s a
    have hkept : ∀ id o, obligation s.ledger id = some o →
        obligation (workerStep cluster config s a).ledger id = some o :=
      fun _ _ ho => heff.obligation_kept ho
    refine heff.allHandlers hall (fun h hs => hs.mono hkept) ?_ ?_ ?_ ?_
    · intro id r row hr hrow
      obtain ⟨rfl, hterms, -⟩ := fetchRow_ok hrow
      refine ⟨hkept _ _ ?_, fun _ => trivial⟩
      rw [obligation_of_refundRow hr, hterms]
    · exact fun w h h' _ hs hstep => (sound_handlerStep hs hstep).mono hkept
    · exact fun id tx height _ => trivial
    · intro id tx answer h _ hnext
      cases answer with
      | transient => exact absurd hnext (by simp [afterSend])
      | _ =>
        obtain rfl := Option.some.inj hnext
        trivial
  · intro w h hw
    exact absurd hw (by simp [WorkerSystem.init])

variable (cluster config) in
/-- In every run the row and the channel's status fit together. -/
theorem paired_run (as : List WorkerLabel) (id : ChannelId) :
    (entry (workerRun cluster config as).ledger id).Paired := by
  refine run_invariant (I := fun s : WorkerSystem => (entry s.ledger id).Paired) ?_ ?_ as
  · intro s a hpaired
    rcases (worker_effect cluster config s a).ledger with hl | ⟨fault, op, hop, hl⟩
    · rw [hl]
      exact hpaired
    · rw [hl]
      exact (ledgerStep_entryMove fault op s.ledger id).paired hop.not_setStatus hpaired
  · exact .absent

/-! ## The edges -/

/-- The edges of the status machine: confirmed and held have no way out, and only two edges
leave `reserved` beside the claim. -/
inductive StatusEdge (r r' : RefundDbRow) : Prop
  | stays (same : r'.status = r.status)
  | claimed (before : r.status = .reserved) (after : r'.status = .inFlight)
  | nothingOwed (before : r.status = .reserved) (zero : r.amountAtomic = 0)
      (after : r'.status = .confirmed)
  | corrupt (before : r.status = .reserved)
      (tuple : corruptTuple r.destinationWallet r.mint = true) (after : r'.status = .held)
  | confirmed (before : r.status = .inFlight) (after : r'.status = .confirmed)
  | held (before : r.status = .inFlight) (after : r'.status = .held)

/-- A confirmation comes from a handler that was about to confirm. -/
theorem WorkerOp.confirming {s : WorkerSystem} {id : ChannelId} {source : RefundStatus}
    (h : WorkerOp config s (.confirmRefundAndCloseChannel id source)) :
    ∃ w, s.handlers.lookup w = some (.confirming id source) := by
  cases h with
  | final w h _ found write =>
    cases write with
    | confirm => exact ⟨w, found⟩
  | request _ request => exact absurd request (by simp [isRequest])

/-- A hold comes from a handler that was about to hold. -/
theorem WorkerOp.holding {s : WorkerSystem} {id : ChannelId} {guard : HoldGuard}
    (h : WorkerOp config s (.holdRefund id guard)) :
    ∃ w, s.handlers.lookup w = some (.holding id guard) := by
  cases h with
  | final w h _ found write =>
    cases write with
    | hold => exact ⟨w, found⟩
  | request _ request => exact absurd request (by simp [isRequest])

/-- One step takes a row along one edge, or leaves it. -/
theorem edge_step {s s' : WorkerSystem} {a : WorkerLabel}
    (heff : WorkerEffect cluster config s a s')
    (hall : Table.All (Handler.Sound s.ledger) s.handlers) {id : ChannelId} {r : RefundDbRow}
    (hr : refundRow s.ledger id = some r) :
    ∃ r', refundRow s'.ledger id = some r' ∧ StatusEdge r r' := by
  -- steps that do not write leave the row
  rcases heff.ledger with hl | ⟨fault, op, hop, hl⟩
  · rw [hl]
    exact ⟨r, hr, .stays rfl⟩
  have ho := obligation_of_refundRow hr
  obtain ⟨r', hr', hcase⟩ := (ledgerStep_entryMove fault op s.ledger id).status hr
  rw [hl]
  refine ⟨r', hr', ?_⟩
  rcases hcase with hsame | ⟨hbefore, hafter⟩ | ⟨rfl, hafter⟩ | ⟨guard, rfl, hadmits, hafter⟩
  · exact .stays hsame
  · exact .claimed hbefore hafter
  -- a confirmation is of a landed transfer, or of a refund of nothing
  · obtain ⟨w, hw⟩ := hop.confirming
    rcases hall w _ hw with hsource | ⟨hsource, terms, hzero⟩
    · exact .confirmed hsource hafter
    · rw [ho] at hzero
      exact .nothingOwed hsource (congrArg Prod.fst (Option.some.inj hzero)) hafter
  -- a hold is of a corrupt destination, or of a transfer in flight
  · obtain ⟨w, hw⟩ := hop.holding
    cases guard with
    | fromReserved =>
      obtain ⟨amount, wallet, mint, hfrozen, hcorrupt⟩ := hall w _ hw
      rw [ho] at hfrozen
      have hterms : (r.destinationWallet, r.mint) = (wallet, mint) :=
        congrArg Prod.snd (Option.some.inj hfrozen)
      obtain ⟨rfl, rfl⟩ := Prod.mk.inj hterms
      exact .corrupt (by simpa [HoldGuard.admits] using hadmits) hcorrupt hafter
    | fromInFlight sig =>
      rcases HoldGuard.admits_status hadmits with h | h
      · simp [HoldGuard.admits, h] at hadmits
      · exact .held h hafter
    | fromInFlightNeverAccepted sig =>
      rcases HoldGuard.admits_status hadmits with h | h
      · simp [HoldGuard.admits, h] at hadmits
      · exact .held h hafter

/-! ## Signature predicates -/

/-- The snapshot a handler works on. -/
def Handler.snapshot : Handler → Option RefundRow
  | .reserved row => some row
  | .funded row => some row
  | .claiming row _ _ => some row
  | .inFlight row => some row
  | .landed row _ _ => some row
  | .unlanded row _ _ _ => some row
  | .expired row _ => some row
  | .resigning row _ _ _ => some row
  | _ => none

/-- A handler gets to a hold by one of its own reads, or by the answer to what it sent. -/
theorem WorkerEffect.holding_from {s s' : WorkerSystem} {a : WorkerLabel}
    (heff : WorkerEffect cluster config s a s') {w : ℕ} {h : Handler}
    {id : ChannelId} {guard : HoldGuard} (hw : s.handlers.lookup w = some h)
    (hnew : h ≠ .holding id guard) (hw' : s'.handlers.lookup w = some (.holding id guard)) :
    HandlerStep cluster s a w h (.holding id guard) ∨
      ∃ id' tx answer, h = .sending id' tx ∧
        afterSend id' tx answer = some (.holding id guard) := by
  -- a handler that was there before and did not move is not a hold
  have hold : s.handlers.lookup w ≠ some (.holding id guard) := by
    intro hsame
    exact hnew (Option.some.inj (hw.symm.trans hsame))
  have herase : ∀ {w' : ℕ}, (s.handlers.erase w').lookup w ≠ some (.holding id guard) := by
    intro w' hl
    rw [Table.lookup_erase_eq] at hl
    by_cases hid : w = w'
    · rw [if_pos hid] at hl
      exact absurd hl (by simp)
    · rw [if_neg hid] at hl
      exact hold hl
  have hinsert : ∀ {w' : ℕ} {h' : Handler},
      (s.handlers.insert w' h').lookup w = some (.holding id guard) →
      w = w' ∧ h' = .holding id guard := by
    intro w' h' hl
    rw [Table.lookup_insert_eq] at hl
    by_cases hid : w = w'
    · rw [if_pos hid] at hl
      exact ⟨hid, Option.some.inj hl⟩
    · rw [if_neg hid] at hl
      exact absurd hl hold
  cases heff with
  | finished w' => exact absurd hw' herase
  | wrote w' fault op h found write => exact absurd hw' herase
  | fetched w' id' r row' h' found read next =>
    obtain ⟨-, rfl⟩ := hinsert hw'
    rcases next with ⟨-, habs⟩ | ⟨-, habs⟩
    · exact absurd habs (by simp)
    · exact absurd habs (by simp)
  | moved w' h₁ h₂ found step =>
    obtain ⟨rfl, rfl⟩ := hinsert hw'
    obtain rfl := Option.some.inj (found.symm.trans hw)
    exact Or.inl step
  | claimed => exact absurd (hinsert hw').2 (by simp)
  | resigned => exact absurd (hinsert hw').2 (by simp)
  | sent w' id' tx answer found =>
    cases hafter : afterSend id' tx answer with
    | none =>
      rw [hafter] at hw'
      exact absurd hw' herase
    | some h' =>
      rw [hafter] at hw'
      obtain ⟨rfl, rfl⟩ := hinsert hw'
      obtain rfl := Option.some.inj (found.symm.trans hw)
      exact Or.inr ⟨id', tx, answer, rfl, hafter⟩
  | _ => exact absurd hw' hold

/-- The hold after a send is predicated on the transaction that was sent. -/
theorem guard_of_afterSend {id id' : ChannelId} {tx : SignedUsdcTransfer} {answer : SendAnswer}
    {guard : HoldGuard} (h : afterSend id' tx answer = some (.holding id guard)) :
    id = id' ∧ guard = .fromInFlight (some tx.signatureB58) := by
  cases answer with
  | rejected =>
    obtain ⟨hid, hguard⟩ := Handler.holding.inj (Option.some.inj h)
    exact ⟨hid.symm, hguard.symm⟩
  | accepted => exact absurd h (by simp [afterSend])
  | alreadyProcessed => exact absurd h (by simp [afterSend])
  | transient => exact absurd h (by simp [afterSend])

/-- A hold that a snapshot leads to is predicated on the snapshot's signature, unless the row
was reserved. -/
theorem guard_of_snapshot {l : Ledger} {s : WorkerSystem} {a : WorkerLabel} {w : ℕ}
    {h : Handler} {row : RefundRow} {id : ChannelId} {guard : HoldGuard} (hs : h.Sound l)
    (hsnap : h.snapshot = some row) (hstep : HandlerStep cluster s a w h (.holding id guard)) :
    guard = .fromReserved ∨ guard.expectedSignature = some row.txSignature := by
  cases hstep with
  | corruptReserved => exact Or.inl rfl
  | conclusive row' =>
    obtain rfl := Option.some.inj hsnap
    exact Or.inr rfl
  | mismatch row' sig signedTx =>
    obtain rfl := Option.some.inj hsnap
    have hsig : row'.txSignature = some sig := hs
    exact Or.inr (by rw [hsig]; rfl)
  | neverAccepted row' sig signedTx height =>
    obtain rfl := Option.some.inj hsnap
    have hsig : row'.txSignature = some sig := hs
    exact Or.inr (by rw [hsig]; rfl)
  | exhausted row' sig signedTx height =>
    obtain rfl := Option.some.inj hsnap
    have hsig : row'.txSignature = some sig := hs
    exact Or.inr (by rw [hsig]; rfl)
  | corruptExpired row' sig =>
    obtain rfl := Option.some.inj hsnap
    have hsig : row'.txSignature = some sig := hs
    exact Or.inr (by rw [hsig]; rfl)

/-- A hold step changes the row of its handler, and only one its guard admits. -/
theorem hold_changes {s : WorkerSystem} {w : ℕ} {fault : Fault} {id : ChannelId}
    (hne : refundRow (workerStep cluster config s (.hold w fault)).ledger id ≠
      refundRow s.ledger id) :
    ∃ guard r, s.handlers.lookup w = some (.holding id guard) ∧
      refundRow s.ledger id = some r ∧ guard.admits r = true := by
  change refundRow (s.onHandler w (holdStep s w fault)).ledger id ≠ _ at hne
  unfold WorkerSystem.onHandler at hne
  cases hw : s.handlers.lookup w with
  | none =>
    simp only [hw] at hne
    exact absurd rfl hne
  | some h =>
    simp only [hw] at hne
    cases h with
    | holding id' guard =>
      obtain ⟨rfl, r, hr, hadmits⟩ :=
        (ledgerStep_entryMove fault (.holdRefund id' guard) s.ledger id).held_of_ne hne
      exact ⟨guard, r, rfl, hr, hadmits⟩
    | _ => exact absurd rfl hne

/-- A re-sign step changes the row of its handler, and only one that carries the superseded
signature. -/
theorem resign_changes {s : WorkerSystem} {w : ℕ} {fault : Fault} {id : ChannelId}
    (hne : refundRow (workerStep cluster config s (.resign w fault)).ledger id ≠
      refundRow s.ledger id) :
    ∃ row old tx height r, s.handlers.lookup w = some (.resigning row old tx height) ∧
      row.channelId = id ∧ refundRow s.ledger id = some r ∧ r.txSignature = some old := by
  change refundRow (s.onHandler w (resignStep s w fault)).ledger id ≠ _ at hne
  unfold WorkerSystem.onHandler at hne
  cases hw : s.handlers.lookup w with
  | none =>
    simp only [hw] at hne
    exact absurd rfl hne
  | some h =>
    simp only [hw] at hne
    cases h with
    | resigning row old tx height =>
      -- the row changes by the statement, whatever the worker is told
      have hl : (resignStep s w fault (.resigning row old tx height)).ledger =
          ledgerStep s.ledger
            (fault, .resignRefund row.channelId old tx.wireBytes tx.signatureB58 height) := by
        simp only [resignStep, ledgerStep, LedgerOp.program, effect]
        cases resignRefund fault row.channelId old tx.wireBytes tx.signatureB58 height
            s.ledger with
        | ok b ledger =>
          cases b with
          | true => rfl
          | false => rfl
        | error e ledger => rfl
      rw [hl] at hne
      obtain ⟨hid, r, hr, hsig⟩ := (ledgerStep_entryMove fault _ s.ledger id).resigned_of_ne hne
      exact ⟨row, old, tx, height, r, rfl, hid, hr, hsig⟩
    | _ => exact absurd rfl hne

/-! ## The status machine -/

variable (cluster config) in
/-- For any number of workers and any interleaving: what is sent was stored by a winner strictly
before; a status moves along the edges, from `reserved` on; a hold or a re-sign predicated on a
signature changes only its own row, while that carries the signature, which is the one of the
worker's snapshot, or of the transaction it sent; and a refund is confirmed exactly when its
channel is closed, before and after every step. -/
theorem refund_status_machine (as : List WorkerLabel) (a : WorkerLabel) (id : ChannelId) :
    (∀ tx, (id, tx) ∈ (workerRun cluster config (as ++ [a])).sent →
      Stored cluster config as id tx) ∧
    (∀ r, refundRow (workerRun cluster config as).ledger id = some r →
      ∃ r', refundRow (workerRun cluster config (as ++ [a])).ledger id = some r' ∧
        StatusEdge r r') ∧
    (∀ r', refundRow (workerRun cluster config as).ledger id = none →
      refundRow (workerRun cluster config (as ++ [a])).ledger id = some r' →
      r'.status = .reserved) ∧
    (∀ w fault, a = .hold w fault →
      refundRow (workerRun cluster config (as ++ [a])).ledger id ≠
        refundRow (workerRun cluster config as).ledger id →
      ∃ guard r, (workerRun cluster config as).handlers.lookup w = some (.holding id guard) ∧
        refundRow (workerRun cluster config as).ledger id = some r ∧
        ∀ sig, guard.expectedSignature = some sig → r.txSignature = sig) ∧
    (∀ w h row guard, (workerRun cluster config as).handlers.lookup w = some h →
      h.snapshot = some row →
      (workerRun cluster config (as ++ [a])).handlers.lookup w = some (.holding id guard) →
      guard = .fromReserved ∨ guard.expectedSignature = some row.txSignature) ∧
    (∀ w id' tx guard,
      (workerRun cluster config as).handlers.lookup w = some (.sending id' tx) →
      (workerRun cluster config (as ++ [a])).handlers.lookup w = some (.holding id guard) →
      id = id' ∧ guard.expectedSignature = some (some tx.signatureB58)) ∧
    (∀ w fault, a = .resign w fault →
      refundRow (workerRun cluster config (as ++ [a])).ledger id ≠
        refundRow (workerRun cluster config as).ledger id →
      ∃ row old tx height r,
        (workerRun cluster config as).handlers.lookup w = some (.resigning row old tx height) ∧
        row.channelId = id ∧ refundRow (workerRun cluster config as).ledger id = some r ∧
        r.txSignature = some old ∧ row.txSignature = some old) ∧
    ((refundRow (workerRun cluster config as).ledger id).map RefundDbRow.status =
        some .confirmed ↔
      channelStatus (workerRun cluster config as).ledger id = some .closed) ∧
    ((refundRow (workerRun cluster config (as ++ [a])).ledger id).map RefundDbRow.status =
        some .confirmed ↔
      channelStatus (workerRun cluster config (as ++ [a])).ledger id = some .closed) := by
  have heff := worker_effect cluster config (workerRun cluster config as) a
  have hsound := sound_run cluster config as
  have hbytes := persistedBytes_run cluster config as
  have hafter := paired_run cluster config (as ++ [a]) id
  rw [workerRun_append] at hafter ⊢
  refine ⟨?_, ?_, ?_, ?_, ?_, ?_, ?_, ?_, ?_⟩
  -- what is sent was stored before
  · intro tx hmem
    rcases heff.sent_cases with hsame | ⟨w, id', tx', hsending, hsent⟩
    · rw [hsame] at hmem
      exact hbytes.sent id tx hmem
    · rw [hsent] at hmem
      rcases List.mem_append.1 hmem with hmem | hmem
      · exact hbytes.sent id tx hmem
      · obtain ⟨rfl, rfl⟩ := Prod.mk.inj (List.mem_singleton.1 hmem)
        exact hbytes.handlers w _ hsending
  · exact fun r hr => edge_step heff hsound hr
  -- only a close inserts a row, and it is reserved
  · intro r' hr hr'
    rcases heff.ledger with hl | ⟨fault, op, -, hl⟩
    · rw [hl, hr] at hr'
      exact absurd hr' (by simp)
    · rw [hl] at hr'
      exact (ledgerStep_entryMove fault op _ id).fresh hr hr'
  -- a hold changes a row that its guard admits only
  · rintro w fault rfl hne
    obtain ⟨guard, r, hw, hr, hadmits⟩ := hold_changes hne
    exact ⟨guard, r, hw, hr, fun sig hsig => HoldGuard.admits_signature hadmits hsig⟩
  -- a handler with a snapshot holds by the signature it has seen
  · intro w h row guard hw hsnap hw'
    have hnew : h ≠ .holding id guard := by
      rintro rfl
      exact absurd hsnap (by simp [Handler.snapshot])
    rcases heff.holding_from hw hnew hw' with hstep | ⟨id', tx, answer, rfl, -⟩
    · exact guard_of_snapshot (hsound w h hw) hsnap hstep
    · exact absurd hsnap (by simp [Handler.snapshot])
  -- a handler that has sent holds by the signature that it sent
  · intro w id' tx guard hw hw'
    have hnew : Handler.sending id' tx ≠ .holding id guard := by simp
    rcases heff.holding_from hw hnew hw' with hstep | ⟨id₁, tx₁, answer, hsending, hnext⟩
    · cases hstep
    · obtain ⟨rfl, rfl⟩ := Handler.sending.inj hsending
      obtain ⟨rfl, rfl⟩ := guard_of_afterSend hnext
      exact ⟨rfl, rfl⟩
  · rintro w fault rfl hne
    obtain ⟨row, old, tx, height, r, hw, hid, hr, hsig⟩ := resign_changes hne
    exact ⟨row, old, tx, height, r, hw, hid, hr, hsig, hsound w _ hw⟩
  · exact Paired.confirmed_iff (paired_run cluster config as id)
  · exact Paired.confirmed_iff hafter

end

/-! ## A sample refund -/

def sampleId : ChannelId := "88LvH2BprQP5aWM47yERgf6HKM6jH6Nbcu3KrXH4zRSd"

/-- A channel of 1000 units. -/
def sampleChannel : NewChannel :=
  { channelId := sampleId, agentWallet := "HXqxDbshu9KGXE3WCX48RwPN53haboNyJQHqx5pXBsNX"
    sessionKey := "7U23VTTj6cRaBfQ4Z8dwM1cBT8UGjskcP3BHqkPt8oXN"
    provider := "37MfitXWbZLgandiE2SJH1AT48uctLkZtGrEWuj6PvEa"
    mint := "EPjFWdd5AufqSSqeM2qN1xzybapC8G4wEGGkZwyTDt1v", depositedAtomic := 1000
    expirySlot := none, fundingTxSig := none }

/-- A draw that realizes `n` units. -/
def sampleDraw (n : ℕ) : VoucherRecord :=
  { channelId := sampleId, cumulativeAtomic := n, callCostAtomic := n
    realizedAdvanceAtomic := n, expirySlot := 1000, nonce := 1
    requestDigest := Vector.replicate 32 0, signature := Vector.replicate 64 0 }

/-- Two signatures over transfers of the sample refund, with different blockhashes. -/
def sampleSigA : String :=
  "41sBFitcv1t1hJ9zUdgcwVwb4mf3b4qUYtrAyXUTbXDn1YkK4XPP5UDcNRYoBchJhTHiZe6ksVKUSJyRzSMPHmAg"

def sampleSigB : String :=
  "5HMVVGanCnNiuLuo4Mi1jYZyMChjDJDvjUqReHRANwC5fbmaNU3Kw4w3E8cDnHYPs2yT7dniLwJUoFi5tqAoDcwP"

/-- What a cluster reads off the two. -/
def sampleCluster : Cluster :=
  { channelOf := fun _ => sampleId
    lastValidOf := fun sig => if sig = sampleSigA then 150 else 400
    bytesOf := fun sig => 1 :: textBytes sig
    verifySignedUsdcTransfer := fun bytes expected =>
      bytes == 1 :: textBytes expected.signatureB58 && expected.memo == refundMemo sampleId }

def sampleConfig : WorkerConfig := ⟨sampleChannel.provider, none⟩

/-- The channel drawn by `n` and closed, and its refund picked up by the worker `0`. -/
def sampleClosed (n : ℕ) : List WorkerLabel :=
  [.request none (.createChannel sampleChannel),
    .request none (.persistVoucherAndAdvance (sampleDraw n)),
    .request none (.closeChannelAndReserveRefund sampleId), .fetch 0 sampleId,
    .balance 0 (some 5000)]

/-- The refund of a channel drawn to its last unit goes from reserved to confirmed without ever
being in flight. -/
theorem reserved_confirmed_directly :
    (refundRow (workerRun sampleCluster sampleConfig (sampleClosed 1000)).ledger sampleId).map
        RefundDbRow.status = some .reserved ∧
      (refundRow (workerRun sampleCluster sampleConfig
        (sampleClosed 1000 ++ [.confirm 0 none])).ledger sampleId).map
        RefundDbRow.status = some .confirmed := by
  decide +kernel

end Solvela.RefundWorker
