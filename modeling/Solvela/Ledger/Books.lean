import Solvela.Ledger.Invariant
import Solvela.Ledger.SpendDown

/-!
# The books of the ledger

The ledger as a family of spend-down accounts, one for each channel: a channel row is an
account, its refund row the account's frozen obligation. `BookEffect` says what an operation
does to the accounts, and every operation but a forced status has one of its four effects.
-/

namespace Solvela.ChannelLedger

open Solvela.Lib
open Solvela.Lib.Txn

/-! ## The account of a channel -/

/-- Destination wallet and mint. -/
abbrev RefundTerms := String × String

/-- The money columns of a channel row as an account without an obligation. -/
def book (r : ChannelDbRow) : Account RefundTerms :=
  { deposited := r.depositedAtomic, realized := r.realizedAtomic
    terms := (r.agentWallet, r.mint), isOpen := decide (r.status = .open), refund := none }

/-- The obligation frozen in a refund row. -/
def frozenTerms (rf : RefundDbRow) : ℤ × RefundTerms :=
  (rf.amountAtomic, (rf.destinationWallet, rf.mint))

def books (l : Ledger) (id : ChannelId) : Option (Account RefundTerms) :=
  (l.channels.lookup id).map fun r => book r.1

def obligation (l : Ledger) (id : ChannelId) : Option (ℤ × RefundTerms) :=
  (l.refunds.lookup id).map fun rf => frozenTerms rf.1

/-- The account a channel is. -/
def account (l : Ledger) (id : ChannelId) : Option (Account RefundTerms) :=
  (books l id).map fun a => { a with refund := obligation l id }

/-- Every refund row belongs to a channel. -/
def RefundsOwned (l : Ledger) : Prop := ∀ id, books l id = none → obligation l id = none

/-! ## What an operation does to the accounts -/

/-- What an operation does to the accounts of a ledger. -/
inductive BookEffect (l l' : Ledger) : Option (ChannelId × ℕ) → Prop
  | kept (books : ∀ id, books l' id = books l id)
      (obligations : ∀ id, obligation l' id = obligation l id) : BookEffect l l' none
  | created (id : ChannelId) (deposited : ℤ) (terms : RefundTerms) (free : books l id = none)
      (books : ∀ id', books l' id' =
        if id' = id then some (Account.fresh deposited terms) else books l id')
      (obligations : ∀ id, obligation l' id = obligation l id) : BookEffect l l' none
  | drawn (id : ChannelId) (a : Account RefundTerms) (n : ℕ) (found : books l id = some a)
      (isOpen : a.isOpen = true)
      (books : ∀ id', books l' id' = if id' = id then some (a.drawn n) else books l id')
      (obligations : ∀ id, obligation l' id = obligation l id) : BookEffect l l' (some (id, n))
  | closed (id : ChannelId) (a : Account RefundTerms) (found : books l id = some a)
      (books : ∀ id', books l' id' =
        if id' = id then some { a with isOpen := false } else books l id')
      (obligations : ∀ id', obligation l' id' =
        if id' = id then
          some ((obligation l id).getD (a.deposited - a.realized, a.terms))
        else obligation l id') : BookEffect l l' none

/-- The foreign key survives every effect. -/
theorem BookEffect.owned {l l' : Ledger} {e : Option (ChannelId × ℕ)} (h : BookEffect l l' e)
    (hown : RefundsOwned l) : RefundsOwned l' := by
  intro id hnone
  cases h with
  | kept hb ho =>
    rw [hb] at hnone
    rw [ho]
    exact hown id hnone
  | created id' deposited terms _ hb ho =>
    rw [hb] at hnone
    rw [ho]
    by_cases hid : id = id'
    · rw [if_pos hid] at hnone
      exact absurd hnone (by simp)
    · rw [if_neg hid] at hnone
      exact hown id hnone
  | drawn id' a n _ _ hb ho =>
    rw [hb] at hnone
    rw [ho]
    by_cases hid : id = id'
    · rw [if_pos hid] at hnone
      exact absurd hnone (by simp)
    · rw [if_neg hid] at hnone
      exact hown id hnone
  -- the obligation of a close is of a channel on the books
  | closed id' a _ hb ho =>
    rw [hb] at hnone
    rw [ho]
    by_cases hid : id = id'
    · rw [if_pos hid] at hnone
      exact absurd hnone (by simp)
    · rw [if_neg hid] at hnone
      rw [if_neg hid]
      exact hown id hnone

/-- Rewriting a channel row touches one book. -/
theorem books_insert (l : Ledger) (id : ChannelId) (r : Channel) (id' : ChannelId) :
    books { l with channels := l.channels.insert id r } id' =
      if id' = id then some (book r.1) else books l id' := by
  show ((l.channels.insert id r).lookup id').map _ = _
  rw [Table.lookup_insert_eq]
  by_cases hid : id' = id
  · rw [if_pos hid, if_pos hid]
    rfl
  · rw [if_neg hid, if_neg hid]
    rfl

/-- The book of a channel with a row. -/
theorem books_of_lookup {l : Ledger} {id : ChannelId} {r : Channel}
    (h : l.channels.lookup id = some r) : books l id = some (book r.1) := by
  rw [books, h]
  rfl

/-- A refund row rewritten on the same terms. -/
theorem RefundWritten.bookKept {id : ChannelId} {rf : Refund} {f : RefundDbRow → RefundDbRow}
    {l l' : Ledger} (h : RefundWritten id rf f l l')
    (hf : frozenTerms (f rf.1) = frozenTerms rf.1) : BookEffect l l' none := by
  obtain ⟨hfound, hck, rfl⟩ := h
  refine .kept (fun _ => rfl) fun id' => ?_
  show ((l.refunds.insert id ⟨_, hck⟩).lookup id').map _ = obligation l id'
  rw [Table.lookup_insert_eq]
  by_cases hid : id' = id
  · rw [if_pos hid, hid, obligation, hfound]
    exact congrArg some hf
  · rw [if_neg hid]
    rfl

/-- A confirmation moves no money. -/
theorem Confirmed.bookKept {id : ChannelId} {source : RefundStatus} {rf : Refund}
    {l l' : Ledger} (h : Confirmed id source rf l l') : BookEffect l l' none := by
  refine .kept (fun id' => ?_) fun id' => ?_
  · unfold books
    rw [h.channel]
    by_cases hid : id' = id
    · subst hid
      rw [if_pos rfl, Option.map_map]
      -- a confirmation moves closing to closed: no channel is opened or shut by it
      refine congrArg (fun g => Option.map g _) (funext fun r => ?_)
      obtain ⟨⟨_, _, _, _, _, _, _, _, _, status, _⟩, hck⟩ := r
      cases status with
      | «open» => rfl
      | closing => rfl
      | closed => rfl
    · rw [if_neg hid]
  · obtain ⟨hf, href⟩ := h.refund
    unfold obligation
    rw [href, Table.lookup_insert_eq]
    by_cases hid : id' = id
    · rw [if_pos hid, hid, h.found]
      rfl
    · rw [if_neg hid]

/-- A close ends the book. -/
theorem Closed.bookClosed {id : ChannelId} {r : Channel} {rf : Refund} {out : CloseOutcome}
    {l l' : Ledger} (h : Closed id r rf out l l') : BookEffect l l' none := by
  refine .closed id (book r.1) (books_of_lookup h.found) (fun id' => ?_) fun id' => ?_
  · unfold books
    rw [h.channel]
    by_cases hid : id' = id
    · rw [if_pos hid, if_pos hid]
      obtain ⟨⟨_, _, _, _, _, _, _, _, _, status, _⟩, hck⟩ := r
      cases status with
      | «open» => rfl
      | closing => rfl
      | closed => rfl
    · rw [if_neg hid, if_neg hid]
  · by_cases hid : id' = id
    · rw [if_pos hid, hid]
      rcases h.refund with ⟨hrf, hsame⟩ | ⟨hnone, hrow, hnew⟩
      · rw [obligation, obligation, hsame, hrf]
        rfl
      · rw [obligation, obligation, hnew, hnone, AList.lookup_insert]
        show some (frozenTerms rf.1) = some _
        rw [hrow]
        rfl
    · rw [if_neg hid]
      rcases h.refund with ⟨-, hsame⟩ | ⟨-, -, hnew⟩
      · rw [obligation, obligation, hsame]
      · rw [obligation, obligation, hnew, AList.lookup_insert_ne hid]

/-- A persisted voucher draws its advance. -/
theorem Persisted.bookDrawn {v : VoucherRecord} {r : Channel} {l l' : Ledger}
    (h : Persisted v r l l') :
    BookEffect l l' (some (v.channelId, v.realizedAdvanceAtomic)) := by
  obtain ⟨hck, hwritten⟩ := h.written
  subst hwritten
  have hopen : (book r.1).isOpen = true := by
    simpa [book] using h.isOpen
  exact .drawn v.channelId (book r.1) v.realizedAdvanceAtomic (books_of_lookup h.found) hopen
    (fun id' => books_insert _ _ _ id') fun _ => rfl

/-- The draw an operation is, on the books: its channel and what it realizes. -/
def LedgerOp.drawn : LedgerOp → Option (ChannelId × ℕ)
  | .persistVoucherAndAdvance v => some (v.channelId, v.realizedAdvanceAtomic)
  | _ => none

/-- Every operation but a forced status creates accounts, draws on them, closes them or leaves
them alone. -/
theorem program_bookEffect {fault : Fault} {op : LedgerOp} {u : Unit} {l l' : Ledger}
    (hop : ∀ id status, op ≠ .setStatus id status) (h : op.program fault l = .ok u l') :
    BookEffect l l' op.drawn := by
  cases op with
  | createChannel ch =>
    obtain ⟨_, h⟩ := effect_ok h
    obtain ⟨-, hfresh, expiry, hr, rfl⟩ := createChannel_ok h
    refine .created ch.channelId ch.depositedAtomic (ch.agentWallet, ch.mint) ?_
      (fun id' => books_insert _ _ _ id') fun _ => rfl
    rw [books, hfresh]
    rfl
  | persistVoucherAndAdvance v =>
    obtain ⟨_, h⟩ := effect_ok h
    obtain ⟨r, hspec⟩ := persistVoucherAndAdvance_ok h
    exact hspec.bookDrawn
  -- the settled amount is not in the book
  | updateSettled id n =>
    obtain ⟨_, h⟩ := effect_ok h
    obtain ⟨r, hr, hf, rfl⟩ := updateSettled_ok h
    refine .kept (fun id' => ?_) fun _ => rfl
    rw [books_insert]
    by_cases hid : id' = id
    · rw [if_pos hid, hid, books_of_lookup hr]
      rfl
    · rw [if_neg hid]
  | setStatus id status => exact absurd rfl (hop id status)
  | closeChannelAndReserveRefund id =>
    obtain ⟨out, h⟩ := effect_ok h
    obtain ⟨r, rf, hspec⟩ := closeChannelAndReserveRefund_ok h
    exact hspec.bookClosed
  | confirmRefundAndCloseChannel id source =>
    obtain ⟨b, h⟩ := effect_ok h
    rcases confirmRefundAndCloseChannel_ok h with ⟨-, rfl⟩ | ⟨-, rf, hspec⟩
    · exact .kept (fun _ => rfl) fun _ => rfl
    · exact hspec.bookKept
  -- a refund in progress owes the same to the same account
  | claimRefundForBroadcast now claim =>
    obtain ⟨out, h⟩ := effect_ok h
    rcases claimRefundForBroadcast_ok h with ⟨-, rfl⟩ | ⟨-, -, -, rf, -, hwritten⟩
    · exact .kept (fun _ => rfl) fun _ => rfl
    · exact hwritten.bookKept rfl
  | resignRefund id oldSig newTx newSig height =>
    obtain ⟨b, h⟩ := effect_ok h
    rcases resignRefund_ok h with ⟨-, rfl⟩ | ⟨-, -, rf, -, -, hwritten⟩
    · exact .kept (fun _ => rfl) fun _ => rfl
    · exact hwritten.bookKept rfl
  | holdRefund id guard =>
    obtain ⟨b, h⟩ := effect_ok h
    rcases holdRefund_ok h with ⟨-, rfl⟩ | ⟨-, rf, -, hwritten⟩
    · exact .kept (fun _ => rfl) fun _ => rfl
    · exact hwritten.bookKept rfl
  | markBroadcastAccepted now id sig =>
    obtain ⟨_, h⟩ := effect_ok h
    rcases markBroadcastAccepted_ok h with rfl | ⟨rf, -, -, hwritten⟩
    · exact .kept (fun _ => rfl) fun _ => rfl
    · exact hwritten.bookKept rfl

/-- The same for a step, which may fail. -/
theorem ledgerStep_bookEffect {fault : Fault} {op : LedgerOp}
    (hop : ∀ id status, op ≠ .setStatus id status) (hdraw : op.drawn = none) (l : Ledger) :
    BookEffect l (ledgerStep l (fault, op)) none := by
  unfold ledgerStep
  cases hres : op.program fault l with
  | ok u l' =>
    rw [← hdraw]
    exact program_bookEffect hop hres
  | error e l' =>
    obtain rfl := program_error hres
    exact .kept (fun _ => rfl) fun _ => rfl

end Solvela.ChannelLedger
