import Solvela.Channel.Persistable
import Solvela.Claims.Served
import Solvela.Lib.Prog

/-!
# The draw on its three surfaces

Chat, search and A2A each serve a draw, ask whether the lock is still theirs, persist the voucher
and then write the spend row and the receipt. The handler is a future: a client that goes away
drops it at the await it is in. What was sent before is not taken back, so a persist can commit
whose handler never learns of it; and a persist can commit whose acknowledgement is lost on the
way, so that the handler sees an error.

The row and the receipt are dispatched without an await after the persist returns, so a draw
that saw its commit always records it.

* `recordsDebit_booksAfter_iff` and `recordsDebit_drawLocked_iff`, one draw, whatever becomes of its
  awaits;
* `endsDraw_chat`, `endsDraw_search` and `endsDraw_a2a`, the three surfaces.
-/

namespace Solvela.Channel

open Solvela.Lib
open Solvela.Lib.Txn
open Solvela.ChannelLedger Solvela.Chat Solvela.Claims
open Solvela.Protocol (Usage)

/-! ## The commands of a handler -/

/-- What the provider delivered. -/
structure Delivery where
  usage : Option Usage
  discount : Option SemanticDiscount
  text : String

inductive DrawCommand
  /-- Everything before the serve: slot, lock, load, tenant and voucher checks. -/
  | admission
  | serve
  | lockHeld
  | persist (realizedAdvance : ℕ)
  /-- `log_spend` spawns its writes and returns at once. -/
  | logSpend (amount : ℕ)
  /-- `record_receipt` does the same. -/
  | recordReceipt (amount : ℕ)
  /-- A write to the task's record, on the A2A surface. -/
  | saveTask

@[reducible] def DrawReply : DrawCommand → Type
  | .admission => Bool
  | .serve => Option Delivery
  -- no answer is a Redis error
  | .lockHeld => Option Bool
  | .persist _ => Except ChannelRepoError Unit
  | .logSpend _ => Unit
  | .recordReceipt _ => Unit
  | .saveTask => Bool

abbrev DrawProgram := Prog DrawCommand DrawReply Unit

abbrev sendDraw (c : DrawCommand) : Prog DrawCommand DrawReply (DrawReply c) := Prog.ask c

/-! ## The three handlers -/

/-- The part the three copies share: serve, check the lock, persist, record. `free` is what a
delivery without a debit still does. -/
def drawLocked (advance : Delivery → ℕ) (record : ℕ → DrawProgram) (free : DrawProgram) :
    DrawProgram := do
  if ← sendDraw .admission then
    match ← sendDraw .serve with
    | none => pure ()
    | some delivery =>
      match ← sendDraw .lockHeld with
      | some false => free
      -- held, or not known: the compare-and-set of the ledger decides
      | _ =>
        match ← sendDraw (.persist (advance delivery)) with
        | .error _ => free
        | .ok _ => record (advance delivery)
  else pure ()

/-- The receipt row, when every amount fits a `BIGINT`. -/
def receiptRow (amountPaid providerCost platformFee total : ℕ) : DrawProgram :=
  if amountPaid ≤ i64Max ∧ providerCost ≤ i64Max ∧ platformFee ≤ i64Max ∧ total ≤ i64Max then
    sendDraw (.recordReceipt amountPaid)
  else pure ()

/-- `split_total_atomic` at a fee of `pct` percent. -/
def splitTotalAtomic (pct total : ℕ) : ℕ × ℕ :=
  let provider := total * 100 / (100 + pct)
  (provider, total - provider)

/-- `channel_draw_locked` of the chat route. -/
def chatDraw (pct : ℕ) (model : ModelRegistration) (reqMaxTokens : Option ℕ) (billed : ℕ) :
    DrawProgram :=
  drawLocked
    (fun d => realizedAdvance pct billed (.chat ⟨d.usage, d.discount, reqMaxTokens, model⟩))
    (fun realized => do
      sendDraw (.logSpend realized)
      let split := splitTotalAtomic pct realized
      receiptRow realized split.1 split.2 realized)
    (pure ())

/-- `channel_draw_locked` of the search route. -/
def searchDraw (pct : ℕ) (cost : ServiceCost) : DrawProgram :=
  drawLocked (fun _ => realizedAdvance pct cost.totalAtomic .search)
    (fun _ => do
      sendDraw (.logSpend cost.totalAtomic)
      receiptRow cost.totalAtomic cost.providerAtomic cost.feeAtomic cost.totalAtomic)
    (pure ())

/-- `channel_locked` of the A2A leg. The row is the stored quote's total. -/
def a2aDraw (pct : ℕ) (stored : CostBreakdown) (billed : ℕ) : DrawProgram :=
  drawLocked (fun _ => realizedAdvance pct billed .a2a)
    (fun _ => do
      let rows := recordA2aSettlement .up (some stored) (some .channel)
      match rows.1 with
      | some total => sendDraw (.logSpend total)
      | none => pure ()
      match rows.2 with
      | some total => sendDraw (.recordReceipt total)
      | none => pure ()
      let _ ← sendDraw .saveTask
      let _ ← sendDraw .saveTask
      pure ())
    (do
      let _ ← sendDraw .saveTask
      pure ())

/-! ## Running a handler -/

/-- One await, as the world answers it. The ledger is as the other parties have left it. -/
structure Await where
  admitted : Bool
  delivery : Option Delivery
  lockHeld : Option Bool
  ledger : Ledger
  fault : Fault
  /-- The persist took effect, and its acknowledgement did not arrive. -/
  ackLost : Bool
  saved : Bool
  /-- The future is dropped before it sees the reply. -/
  dropped : Bool

/-- What a draw leaves behind: the advances that were committed, and what was recorded. -/
structure DrawBooks where
  commits : List ℕ
  spendRows : List ℕ
  receipts : List ℕ
deriving DecidableEq

/-- Did the persist take effect? -/
def Await.commits (e : Await) (v : VoucherRecord) : Bool :=
  isOk (persistVoucherAndAdvance e.fault v e.ledger)

/-- The reply of the persist. -/
def Await.persistReply (e : Await) (v : VoucherRecord) : Except ChannelRepoError Unit :=
  match persistVoucherAndAdvance e.fault v e.ledger with
  | .ok _ _ => if e.ackLost then .error (.db .connection) else .ok ()
  | .error err _ => .error err

/-- A handler with the awaits it gets to. One that gets to no further await was dropped there. -/
def runDraw (v : VoucherRecord) : DrawProgram → List Await → DrawBooks → DrawBooks
  | .done _, _, b => b
  | .call (.logSpend n) next, awaits, b =>
    runDraw v (next ()) awaits { b with spendRows := b.spendRows ++ [n] }
  | .call (.recordReceipt n) next, awaits, b =>
    runDraw v (next ()) awaits { b with receipts := b.receipts ++ [n] }
  | .call _ _, [], b => b
  | .call .admission next, e :: awaits, b =>
    if e.dropped then b else runDraw v (next e.admitted) awaits b
  | .call .serve next, e :: awaits, b =>
    if e.dropped then b else runDraw v (next e.delivery) awaits b
  | .call .lockHeld next, e :: awaits, b =>
    if e.dropped then b else runDraw v (next e.lockHeld) awaits b
  | .call .saveTask next, e :: awaits, b =>
    if e.dropped then b else runDraw v (next e.saved) awaits b
  | .call (.persist advance) next, e :: awaits, b =>
    let record := { v with realizedAdvanceAtomic := advance }
    let b' := if e.commits record then { b with commits := b.commits ++ [advance] } else b
    if e.dropped then b' else runDraw v (next (e.persistReply record)) awaits b'

/-- A draw starts with nothing written. -/
def DrawBooks.empty : DrawBooks := ⟨[], [], []⟩

/-- The rows match the debit: nothing was committed and nothing recorded, or one positive advance
was committed and the one row and the one receipt are for it. -/
def RecordsDebit (b : DrawBooks) : Prop :=
  b = .empty ∨ ∃ advance, 0 < advance ∧ b = ⟨[advance], [advance], [advance]⟩

/-! ## What a handler writes -/

/-- A committed advance fits a `BIGINT`: the transaction begins with the conversion. -/
theorem realized_le_of_commits {e : Await} {v : VoucherRecord} (h : e.commits v = true) :
    v.realizedAdvanceAtomic ≤ i64Max := by
  unfold Await.commits at h
  cases hpersist : persistVoucherAndAdvance e.fault v e.ledger with
  | error err s =>
    rw [hpersist] at h
    cases h
  | ok u s =>
    unfold persistVoucherAndAdvance at hpersist
    obtain ⟨_, _, hconv, hrest⟩ := bind_ok.1 (atomically_ok.1 hpersist)
    obtain ⟨-, rfl⟩ := ofExcept_ok.1 hconv
    obtain ⟨_, _, hconv, hrest⟩ := bind_ok.1 hrest
    obtain ⟨-, rfl⟩ := ofExcept_ok.1 hconv
    obtain ⟨_, _, hconv, hrest⟩ := bind_ok.1 hrest
    obtain ⟨hv, -⟩ := ofExcept_ok.1 hconv
    exact (atomicToI64_ok hv).1

/-- The handler sees its commit exactly when the acknowledgement arrives. -/
theorem persistReply_of_commits {e : Await} {v : VoucherRecord} (h : e.commits v = true) :
    e.persistReply v = if e.ackLost then .error (.db .connection) else .ok () := by
  unfold Await.commits at h
  unfold Await.persistReply
  cases hpersist : persistVoucherAndAdvance e.fault v e.ledger with
  | error err s =>
    rw [hpersist] at h
    cases h
  | ok u s => rfl

/-- A persist without effect is an error to the handler. -/
theorem persistReply_of_not_commits {e : Await} {v : VoucherRecord} (h : e.commits v = false) :
    ∃ err, e.persistReply v = .error err := by
  unfold Await.commits at h
  unfold Await.persistReply
  cases hpersist : persistVoucherAndAdvance e.fault v e.ledger with
  | error err s => exact ⟨err, rfl⟩
  | ok u s =>
    rw [hpersist] at h
    cases h

/-- How a surface ends a draw: a delivery without a debit writes no row, and a debit one row and
one receipt, both for the advance. -/
structure EndsDraw (v : VoucherRecord) (advance : Delivery → ℕ) (record : ℕ → DrawProgram)
    (free : DrawProgram) : Prop where
  free_writes : ∀ awaits b, runDraw v free awaits b = b
  record_writes : ∀ d awaits b, advance d ≤ i64Max →
    runDraw v (record (advance d)) awaits b =
      { b with spendRows := b.spendRows ++ [advance d], receipts := b.receipts ++ [advance d] }

/-- The persist that a draw gets to after its serve. -/
def persistAfterRecheck : List Await → Option Await
  | recheck :: persist :: _ =>
    if recheck.dropped = true ∨ recheck.lockHeld = some false then none else some persist
  | _ => none

/-- The persist that an admitted draw gets to, with what was delivered before it. -/
def persistAfterServe : List Await → Option (Delivery × Await)
  | serve :: awaits =>
    if serve.dropped = true then none
    else serve.delivery.bind fun d => (persistAfterRecheck awaits).map (d, ·)
  | [] => none

/-- The persist that a draw gets to. -/
def persistAwait : List Await → Option (Delivery × Await)
  | admission :: awaits =>
    if admission.dropped = true ∨ admission.admitted = false then none else persistAfterServe awaits
  | [] => none

/-- The books of a draw that got to its persist. -/
def booksAfter (v : VoucherRecord) (advance : ℕ) (e : Await) : DrawBooks :=
  if e.commits { v with realizedAdvanceAtomic := advance } then
    if e.ackLost = true ∨ e.dropped = true then ⟨[advance], [], []⟩
    else ⟨[advance], [advance], [advance]⟩
  else .empty

section
variable {v : VoucherRecord} {advance : Delivery → ℕ} {record : ℕ → DrawProgram}
  {free : DrawProgram}

/-- From the persist on. -/
theorem runDraw_persist (h : EndsDraw v advance record free) (d : Delivery) (awaits : List Await)
    (e : Await) :
    runDraw v (.call (.persist (advance d)) fun
        | .error _ => free
        | .ok _ => record (advance d)) (e :: awaits) .empty
      = booksAfter v (advance d) e := by
  unfold booksAfter
  simp only [runDraw]
  by_cases hcommit : e.commits { v with realizedAdvanceAtomic := advance d } = true
  · have hfits : advance d ≤ i64Max := realized_le_of_commits hcommit
    rw [if_pos hcommit, if_pos hcommit, persistReply_of_commits hcommit]
    cases e.dropped with
    | true => simp [DrawBooks.empty]
    | false =>
      cases e.ackLost with
      | true => simp [h.free_writes, DrawBooks.empty]
      | false => simp [h.record_writes d _ _ hfits, DrawBooks.empty]
  · have hnot : e.commits { v with realizedAdvanceAtomic := advance d } = false := by
      simpa using hcommit
    obtain ⟨err, herr⟩ := persistReply_of_not_commits hnot
    rw [if_neg hcommit, if_neg hcommit, herr]
    cases e.dropped with
    | true => rfl
    | false => exact h.free_writes awaits .empty

/-- From the recheck on. -/
theorem runDraw_recheck (h : EndsDraw v advance record free) (d : Delivery)
    (awaits : List Await) :
    runDraw v (.call .lockHeld fun
        | some false => free
        | _ => .call (.persist (advance d)) fun
          | .error _ => free
          | .ok _ => record (advance d)) awaits .empty
      = (persistAfterRecheck awaits).elim .empty (booksAfter v (advance d)) := by
  cases awaits with
  | nil => rfl
  | cons recheck awaits =>
    simp only [runDraw]
    by_cases hdropped : recheck.dropped = true
    · rw [if_pos hdropped]
      cases awaits <;> simp [persistAfterRecheck, hdropped]
    · rw [if_neg hdropped]
      by_cases hlost : recheck.lockHeld = some false
      · rw [hlost, h.free_writes]
        cases awaits <;> simp [persistAfterRecheck, hlost]
      · split
        · contradiction
        · cases awaits with
          | nil => rfl
          | cons persist awaits =>
            rw [runDraw_persist h d awaits persist]
            simp [persistAfterRecheck, hdropped, hlost]

/-- From the serve on. -/
theorem runDraw_serve (h : EndsDraw v advance record free) (awaits : List Await) :
    runDraw v (.call .serve fun
        | none => .done ()
        | some d => .call .lockHeld fun
          | some false => free
          | _ => .call (.persist (advance d)) fun
            | .error _ => free
            | .ok _ => record (advance d)) awaits .empty
      = (persistAfterServe awaits).elim .empty fun x => booksAfter v (advance x.1) x.2 := by
  cases awaits with
  | nil => rfl
  | cons serve awaits =>
    simp only [runDraw, persistAfterServe]
    by_cases hdropped : serve.dropped = true
    · rw [if_pos hdropped, if_pos hdropped]
      rfl
    · rw [if_neg hdropped, if_neg hdropped]
      cases serve.delivery with
      | none => rfl
      | some d =>
        simp only [Option.bind_some]
        rw [runDraw_recheck h d awaits]
        cases persistAfterRecheck awaits <;> rfl

/-- The books of every run of a draw: those of its persist, or nothing. -/
theorem runDraw_drawLocked (h : EndsDraw v advance record free) (awaits : List Await) :
    runDraw v (drawLocked advance record free) awaits .empty
      = (persistAwait awaits).elim .empty fun x => booksAfter v (advance x.1) x.2 := by
  cases awaits with
  | nil => rfl
  | cons admission awaits =>
    have hprogram : drawLocked advance record free = .call .admission fun admitted =>
        if admitted then .call .serve fun
          | none => .done ()
          | some d => .call .lockHeld fun
            | some false => free
            | _ => .call (.persist (advance d)) fun
              | .error _ => free
              | .ok _ => record (advance d)
        else .done () := rfl
    rw [hprogram]
    simp only [runDraw, persistAwait]
    by_cases hdropped : admission.dropped = true
    · simp [hdropped]
    · cases hadmitted : admission.admitted with
      | false => simp [hdropped, runDraw]
      | true =>
        simp only [hdropped, Bool.false_eq_true, if_false, if_true, reduceCtorEq, or_self]
        exact runDraw_serve h awaits

/-- When a draw records its debit: if it gets to a persist that commits, the acknowledgement
arrives, the handler is still there, and the advance is not nothing. -/
def Acknowledged (v : VoucherRecord) (advance : Delivery → ℕ) (awaits : List Await) : Prop :=
  ∀ d e, persistAwait awaits = some (d, e) →
    e.commits { v with realizedAdvanceAtomic := advance d } = true →
      e.ackLost = false ∧ e.dropped = false ∧ 0 < advance d

/-- The debit is on the books if the persist was acknowledged, or did not commit. -/
theorem recordsDebit_booksAfter_iff (v : VoucherRecord) (n : ℕ) (e : Await) :
    RecordsDebit (booksAfter v n e) ↔
      (e.commits { v with realizedAdvanceAtomic := n } = true →
        e.ackLost = false ∧ e.dropped = false ∧ 0 < n) := by
  unfold booksAfter RecordsDebit
  by_cases hcommit : e.commits { v with realizedAdvanceAtomic := n } = true
  · simp only [hcommit, if_true, true_implies]
    by_cases hunseen : e.ackLost = true ∨ e.dropped = true
    · rw [if_pos hunseen]
      simp only [DrawBooks.empty, DrawBooks.mk.injEq]
      constructor
      · rintro (⟨h, -⟩ | ⟨m, -, -, h, -⟩) <;> simp at h
      · rintro ⟨hack, hdropped, -⟩
        simp [hack, hdropped] at hunseen
    · rw [if_neg hunseen]
      simp only [not_or, Bool.not_eq_true] at hunseen
      simp only [hunseen.1, hunseen.2, true_and, DrawBooks.empty, DrawBooks.mk.injEq]
      constructor
      · rintro (⟨h, -⟩ | ⟨m, hpos, h, -⟩)
        · simp at h
        · have hm : n = m := by simpa using h
          omega
      · intro hpos
        exact Or.inr ⟨n, hpos, rfl, rfl, rfl⟩
  · simp [hcommit]

/-- So it is after a whole draw. -/
theorem recordsDebit_drawLocked_iff (h : EndsDraw v advance record free) (awaits : List Await) :
    RecordsDebit (runDraw v (drawLocked advance record free) awaits .empty) ↔
      Acknowledged v advance awaits := by
  rw [runDraw_drawLocked h]
  unfold Acknowledged
  cases persistAwait awaits with
  | none => simp [RecordsDebit]
  | some x =>
    rw [Option.elim_some, recordsDebit_booksAfter_iff]
    constructor
    · intro hx d e hde
      have hx' : x = (d, e) := Option.some.inj hde
      subst hx'
      exact hx
    · intro hx
      exact hx x.1 x.2 rfl

end

/-! ## The three surfaces -/

/-- A surface with what it priced the draw by, in the exact arithmetic. -/
inductive Surface
  | chat (pct : ℕ) (model : ModelRegistration) (reqMaxTokens : Option ℕ) (billed : ℕ)
  | search (pct : ℕ) (price : Price) (cost : ServiceCost)
    (priced : computeServiceCost pct price = .ok cost)
  /-- The stored quote is the one `message/send` computed. -/
  | a2a (pct : ℕ) (model : ModelRegistration) (inputTokens outputTokens billed : ℕ)
    (quoted : usdcAtomicAmountChecked (estimateCost pct model inputTokens outputTokens).total
      = some billed)

namespace Surface

def program : Surface → DrawProgram
  | chat pct model reqMaxTokens billed => chatDraw pct model reqMaxTokens billed
  | search pct _ cost _ => searchDraw pct cost
  | a2a pct model inputTokens outputTokens billed _ =>
    a2aDraw pct (estimateCost pct model inputTokens outputTokens) billed

/-- The realized advance of a delivery. -/
def advance : Surface → Delivery → ℕ
  | chat pct model reqMaxTokens billed, d =>
    realizedAdvance pct billed (.chat ⟨d.usage, d.discount, reqMaxTokens, model⟩)
  | search pct _ cost _, _ => realizedAdvance pct cost.totalAtomic .search
  | a2a pct _ _ _ billed _, _ => realizedAdvance pct billed .a2a

end Surface

/-- The split of a total never exceeds it. -/
theorem splitTotalAtomic_le (pct total : ℕ) :
    (splitTotalAtomic pct total).1 ≤ total ∧ (splitTotalAtomic pct total).2 ≤ total := by
  have hprovider : total * 100 / (100 + pct) ≤ total := by
    apply Nat.div_le_of_le_mul
    nlinarith
  exact ⟨hprovider, Nat.sub_le _ _⟩

/-- The parts of a flat price never exceed its total. -/
theorem computeServiceCost_parts_le {pct : ℕ} {price : Price} {cost : ServiceCost}
    (h : computeServiceCost pct price = .ok cost) :
    cost.providerAtomic ≤ cost.totalAtomic ∧ cost.feeAtomic ≤ cost.totalAtomic := by
  unfold computeServiceCost at h
  split at h
  · cases h
  · dsimp only at h
    split at h
    · cases h
    · rename_i total hfee
      have hcost := (Except.ok.inj h).symm
      subst hcost
      unfold applyPlatformFeeAtomic at hfee
      dsimp only at hfee ⊢
      split_ifs at hfee
      have htotal := Option.some.inj hfee
      constructor
      · rw [← htotal, Nat.le_div_iff_mul_le (by norm_num)]
        nlinarith
      · omega

/-- A receipt whose parts are within the total is written if the total fits. -/
theorem runDraw_receiptRow {v : VoucherRecord} {amount provider fee : ℕ}
    (hprovider : provider ≤ amount) (hfee : fee ≤ amount) (hfits : amount ≤ i64Max)
    (awaits : List Await) (b : DrawBooks) :
    runDraw v (receiptRow amount provider fee amount) awaits b
      = { b with receipts := b.receipts ++ [amount] } := by
  unfold receiptRow
  rw [if_pos ⟨hfits, by omega, by omega, hfits⟩]
  rfl

/-- The chat route books a draw as `EndsDraw` says. -/
theorem endsDraw_chat (v : VoucherRecord) (pct : ℕ) (model : ModelRegistration)
    (reqMaxTokens : Option ℕ) (billed : ℕ) :
    EndsDraw v
      (fun d => realizedAdvance pct billed (.chat ⟨d.usage, d.discount, reqMaxTokens, model⟩))
      (fun realized => do
        sendDraw (.logSpend realized)
        let split := splitTotalAtomic pct realized
        receiptRow realized split.1 split.2 realized)
      (pure ()) := by
  refine ⟨fun _ _ => rfl, ?_⟩
  intro d awaits b hfits
  have hsplit := splitTotalAtomic_le pct
    (realizedAdvance pct billed (.chat ⟨d.usage, d.discount, reqMaxTokens, model⟩))
  simp only [Prog.ask_bind, runDraw]
  exact runDraw_receiptRow hsplit.1 hsplit.2 hfits awaits _

/-- So does the service route. -/
theorem endsDraw_search (v : VoucherRecord) {pct : ℕ} {price : Price} {cost : ServiceCost}
    (priced : computeServiceCost pct price = .ok cost) :
    EndsDraw v (fun _ => realizedAdvance pct cost.totalAtomic .search)
      (fun _ => do
        sendDraw (.logSpend cost.totalAtomic)
        receiptRow cost.totalAtomic cost.providerAtomic cost.feeAtomic cost.totalAtomic)
      (pure ()) := by
  refine ⟨fun _ _ => rfl, ?_⟩
  intro d awaits b hfits
  have hparts := computeServiceCost_parts_le priced
  simp only [Prog.ask_bind, runDraw]
  exact runDraw_receiptRow hparts.1 hparts.2 hfits awaits _

/-- The record of a task whose quote the gateway computed is never skipped. -/
theorem recordA2aSettlement_quoted {pct inputTokens outputTokens billed : ℕ}
    {model : ModelRegistration}
    (quoted : usdcAtomicAmountChecked (estimateCost pct model inputTokens outputTokens).total
      = some billed) (hfits : billed ≤ i64Max) :
    recordA2aSettlement .up (some (estimateCost pct model inputTokens outputTokens))
      (some .channel) = (some billed, some billed) := by
  obtain ⟨provider, hprovider, hle⟩ := providerCost_checked quoted
  simp only [recordA2aSettlement, hprovider, quoted, not_lt.mpr hle, if_false, hfits, ne_eq,
    reduceCtorEq, not_false_eq_true, and_true, if_true]

/-- Task writes come after the rows and write none. -/
theorem runDraw_saveTask {v : VoucherRecord} {p : DrawProgram} (awaits : List Await)
    (b : DrawBooks) (h : ∀ awaits b, runDraw v p awaits b = b) :
    runDraw v (.call .saveTask fun _ => p) awaits b = b := by
  cases awaits with
  | nil => rfl
  | cons e awaits =>
    simp only [runDraw]
    split
    · rfl
    · exact h awaits b

/-- So does the A2A route. -/
theorem endsDraw_a2a (v : VoucherRecord) {pct inputTokens outputTokens billed : ℕ}
    {model : ModelRegistration}
    (quoted : usdcAtomicAmountChecked (estimateCost pct model inputTokens outputTokens).total
      = some billed) :
    EndsDraw v (fun _ => realizedAdvance pct billed .a2a)
      (fun _ => do
        let rows :=
          recordA2aSettlement .up (some (estimateCost pct model inputTokens outputTokens))
            (some .channel)
        match rows.1 with
        | some total => sendDraw (.logSpend total)
        | none => pure ()
        match rows.2 with
        | some total => sendDraw (.recordReceipt total)
        | none => pure ()
        let _ ← sendDraw .saveTask
        let _ ← sendDraw .saveTask
        pure ())
      (do
        let _ ← sendDraw .saveTask
        pure ()) := by
  have hdone : ∀ awaits b, runDraw v (.done ()) awaits b = b := fun _ _ => rfl
  refine ⟨fun awaits b => runDraw_saveTask awaits b hdone, ?_⟩
  intro d awaits b hfits
  have hbilled : billed ≤ i64Max := hfits
  simp only [recordA2aSettlement_quoted quoted hbilled, Prog.ask_bind, runDraw, realizedAdvance]
  exact runDraw_saveTask awaits _ fun awaits b => runDraw_saveTask awaits b hdone

/-- On every surface and for every run of its handler, dropped wherever it is: the row and the
receipt match the debit if and only if a persist that commits is acknowledged to a handler that
is still there, for an advance that is not nothing. -/
theorem draw_recordsDebit_iff (surface : Surface) (v : VoucherRecord) (awaits : List Await) :
    RecordsDebit (runDraw v surface.program awaits .empty) ↔
      Acknowledged v surface.advance awaits := by
  cases surface with
  | chat pct model reqMaxTokens billed =>
    exact recordsDebit_drawLocked_iff (endsDraw_chat v pct model reqMaxTokens billed) awaits
  | search pct price cost priced =>
    exact recordsDebit_drawLocked_iff (endsDraw_search v priced) awaits
  | a2a pct model inputTokens outputTokens billed quoted =>
    exact recordsDebit_drawLocked_iff (endsDraw_a2a v quoted) awaits

/-! ## A debit without a row -/

/-- A search at 0.000096 USDC: 100 units with the fee. -/
def sampleSearch : Surface := .search 5 (some (96 / 1000000)) ⟨96, 4, 100⟩ (by decide +kernel)

/-- An await of a draw on the fresh sample channel that goes well. -/
def sampleAwait : Await :=
  { admitted := true, delivery := some ⟨none, none, ""⟩, lockHeld := some true
    ledger := run ledgerStep Ledger.empty sampleOpened, fault := none, ackLost := false
    saved := true, dropped := false }

/-- The sample draw on search, whose persist commits and whose acknowledgement is lost. -/
def lostAckRun : List Await :=
  [sampleAwait, sampleAwait, sampleAwait, { sampleAwait with ackLost := true }]

/-- The agent is debited 100 units and nothing is recorded. -/
theorem lostAckRun_unrecorded :
    runDraw (sampleAccepted.record 100) sampleSearch.program lostAckRun .empty = ⟨[100], [], []⟩ ∧
      ¬ ∀ (surface : Surface) (v : VoucherRecord) (awaits : List Await),
        RecordsDebit (runDraw v surface.program awaits .empty) := by
  have hbooks : runDraw (sampleAccepted.record 100) sampleSearch.program lostAckRun .empty
      = ⟨[100], [], []⟩ := by decide +kernel
  refine ⟨hbooks, ?_⟩
  intro hall
  have h := hall sampleSearch (sampleAccepted.record 100) lostAckRun
  rw [hbooks] at h
  rcases h with h | ⟨advance, -, h⟩
  · exact absurd h (by decide)
  · simp at h

end Solvela.Channel
