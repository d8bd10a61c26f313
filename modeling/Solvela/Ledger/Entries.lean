import Solvela.Ledger.Books

/-!
# The life of a refund row

What the operations do to one channel's entry: the status of its channel row and its refund
row, side by side. `EntryMove` lists the moves with their guards, and every operation makes
one of them on every entry. Two facts about whole runs rest on it:

* `Paired`: a channel and its refund go through their lives together;
* the amount, destination and mint of a refund row are frozen.
-/

namespace Solvela.ChannelLedger

open Solvela.Lib
open Solvela.Lib.Txn

/-- One channel's part of the ledger. -/
structure Entry where
  channel : Option ChannelStatus
  refund : Option RefundDbRow

def channelStatus (l : Ledger) (id : ChannelId) : Option ChannelStatus :=
  (l.channels.lookup id).map fun r => r.1.status

def refundRow (l : Ledger) (id : ChannelId) : Option RefundDbRow :=
  (l.refunds.lookup id).map fun rf => rf.1

def entry (l : Ledger) (id : ChannelId) : Entry := ⟨channelStatus l id, refundRow l id⟩

/-! ## The moves -/

/-- What an operation can do to the entry of one channel. -/
inductive EntryMove (id : ChannelId) : LedgerOp → Entry → Entry → Prop
  | kept (op : LedgerOp) (e : Entry) : EntryMove id op e e
  | created (ch : NewChannel) (refund : Option RefundDbRow) :
      EntryMove id (.createChannel ch) ⟨none, refund⟩ ⟨some .open, refund⟩
  | forced (status old : ChannelStatus) (refund : Option RefundDbRow) :
      EntryMove id (.setStatus id status) ⟨some old, refund⟩ ⟨some status, refund⟩
  | closed (status : ChannelStatus) (amount : ℤ) (wallet mint : String) :
      EntryMove id (.closeChannelAndReserveRefund id) ⟨some status, none⟩
        ⟨some status.afterClose, some (reservation amount wallet mint)⟩
  | closedAgain (status : ChannelStatus) (r : RefundDbRow) :
      EntryMove id (.closeChannelAndReserveRefund id) ⟨some status, some r⟩
        ⟨some status.afterClose, some r⟩
  | claimed (now : ℕ) (claim : RefundClaim) (channel : Option ChannelStatus) (r : RefundDbRow)
      (reserved : r.status = .reserved) :
      EntryMove id (.claimRefundForBroadcast now claim) ⟨channel, some r⟩
        ⟨channel, some (r.claimed now claim claim.lastValidBlockHeight)⟩
  | resigned (oldSig : String) (newTx : List UInt8) (newSig : String) (height : ℕ)
      (channel : Option ChannelStatus) (r : RefundDbRow) (inFlight : r.status = .inFlight)
      (signature : r.txSignature = some oldSig) :
      EntryMove id (.resignRefund id oldSig newTx newSig height) ⟨channel, some r⟩
        ⟨channel, some (r.resigned newTx newSig height)⟩
  | held (guard : HoldGuard) (channel : Option ChannelStatus) (r : RefundDbRow)
      (admits : guard.admits r = true) :
      EntryMove id (.holdRefund id guard) ⟨channel, some r⟩
        ⟨channel, some { r with status := .held }⟩
  | marked (now : ℕ) (sig : String) (channel : Option ChannelStatus) (r : RefundDbRow) :
      EntryMove id (.markBroadcastAccepted now id sig) ⟨channel, some r⟩
        ⟨channel, some { r with broadcastAcceptedAt := some now }⟩
  | confirmed (source : RefundStatus) (channel : Option ChannelStatus) (r : RefundDbRow)
      (status : r.status = source) :
      EntryMove id (.confirmRefundAndCloseChannel id source) ⟨channel, some r⟩
        ⟨channel.map ChannelStatus.afterConfirm, some { r with status := .confirmed }⟩

/-! ## Every operation makes one -/

/-- A written channel row is the status of that channel only. -/
theorem channelStatus_insert (l : Ledger) (id : ChannelId) (r : Channel) (id' : ChannelId) :
    channelStatus { l with channels := l.channels.insert id r } id' =
      if id' = id then some r.1.status else channelStatus l id' := by
  show ((l.channels.insert id r).lookup id').map _ = _
  rw [Table.lookup_insert_eq]
  by_cases hid : id' = id
  · rw [if_pos hid, if_pos hid]
    rfl
  · rw [if_neg hid, if_neg hid]
    rfl

/-- The status of a channel with a row. -/
theorem channelStatus_of_lookup {l : Ledger} {id : ChannelId} {r : Channel}
    (h : l.channels.lookup id = some r) : channelStatus l id = some r.1.status := by
  rw [channelStatus, h]
  rfl

/-- The row of a refund. -/
theorem refundRow_of_lookup {l : Ledger} {id : ChannelId} {rf : Refund}
    (h : l.refunds.lookup id = some rf) : refundRow l id = some rf.1 := by
  rw [refundRow, h]
  rfl

/-- A channel row rewritten with its status kept moves no entry. -/
theorem entry_insert_channel {l : Ledger} {id : ChannelId} {r : Channel} (r' : Channel)
    (hr : l.channels.lookup id = some r) (hstatus : r'.1.status = r.1.status)
    (vouchers : List VoucherDbRow) (id' : ChannelId) :
    entry { l with channels := l.channels.insert id r', vouchers := vouchers } id' =
      entry l id' := by
  have hchannel : channelStatus { l with channels := l.channels.insert id r' } id' =
      channelStatus l id' := by
    rw [channelStatus_insert]
    by_cases hid : id' = id
    · rw [if_pos hid, hid, channelStatus_of_lookup hr, hstatus]
    · rw [if_neg hid]
  exact congrArg (Entry.mk · _) hchannel

/-- The entries of other channels stay. -/
theorem RefundWritten.entry_of_ne {id id' : ChannelId} {rf : Refund}
    {f : RefundDbRow → RefundDbRow} {l l' : Ledger} (h : RefundWritten id rf f l l')
    (hid : id' ≠ id) : entry l' id' = entry l id' := by
  obtain ⟨hf, rfl⟩ := h.written
  show Entry.mk _ (((l.refunds.insert id _).lookup id').map _) = _
  rw [AList.lookup_insert_ne hid]
  rfl

/-- In its own entry the row is written and the channel's status stays. -/
theorem RefundWritten.entry_self {id : ChannelId} {rf : Refund}
    {f : RefundDbRow → RefundDbRow} {l l' : Ledger} (h : RefundWritten id rf f l l') :
    entry l id = ⟨channelStatus l id, some rf.1⟩ ∧
      entry l' id = ⟨channelStatus l id, some (f rf.1)⟩ := by
  refine ⟨congrArg (Entry.mk _) (refundRow_of_lookup h.found), ?_⟩
  obtain ⟨hf, rfl⟩ := h.written
  show Entry.mk _ (((l.refunds.insert id _).lookup id).map _) = _
  rw [AList.lookup_insert]
  rfl

/-- One rewritten refund row moves its own entry and keeps the others. -/
theorem RefundWritten.entryMove {op : LedgerOp} {id : ChannelId} {rf : Refund}
    {f : RefundDbRow → RefundDbRow} {l l' : Ledger} (h : RefundWritten id rf f l l')
    (hmove : EntryMove id op ⟨channelStatus l id, some rf.1⟩
      ⟨channelStatus l id, some (f rf.1)⟩) (id' : ChannelId) :
    EntryMove id' op (entry l id') (entry l' id') := by
  by_cases hid : id' = id
  · rw [hid, h.entry_self.1, h.entry_self.2]
    exact hmove
  · rw [h.entry_of_ne hid]
    exact .kept op _

/-- A confirmation moves its own entry, from the source to `confirmed` and `closed`. -/
theorem Confirmed.entryMove {id : ChannelId} {source : RefundStatus} {rf : Refund}
    {l l' : Ledger} (h : Confirmed id source rf l l') (id' : ChannelId) :
    EntryMove id' (.confirmRefundAndCloseChannel id source) (entry l id') (entry l' id') := by
  obtain ⟨hf, href⟩ := h.refund
  by_cases hid : id' = id
  · subst hid
    have hrefund : refundRow l' id' = some { rf.1 with status := .confirmed } := by
      rw [refundRow, href, AList.lookup_insert]
      rfl
    have hchannel : channelStatus l' id' =
        (channelStatus l id').map ChannelStatus.afterConfirm := by
      rw [channelStatus, channelStatus, h.channel, if_pos rfl, Option.map_map, Option.map_map]
      rfl
    rw [entry, entry, refundRow_of_lookup h.found, hrefund, hchannel]
    exact .confirmed source _ rf.1 h.status
  · have hsame : entry l' id' = entry l id' := by
      rw [entry, entry, channelStatus, refundRow, h.channel, if_neg hid, href,
        AList.lookup_insert_ne hid]
      rfl
    rw [hsame]
    exact .kept _ _

/-- A close moves its own entry to the obligation. -/
theorem Closed.entryMove {id : ChannelId} {r : Channel} {rf : Refund} {out : CloseOutcome}
    {l l' : Ledger} (h : Closed id r rf out l l') (id' : ChannelId) :
    EntryMove id' (.closeChannelAndReserveRefund id) (entry l id') (entry l' id') := by
  by_cases hid : id' = id
  · subst hid
    have hchannel : channelStatus l' id' = some r.1.status.afterClose := by
      rw [channelStatus, h.channel, if_pos rfl]
      rfl
    rw [entry, entry, channelStatus_of_lookup h.found, hchannel]
    rcases h.refund with ⟨hrf, hsame⟩ | ⟨hnone, hrow, hnew⟩
    · rw [refundRow_of_lookup hrf, refundRow, hsame, hrf]
      exact .closedAgain _ rf.1
    · have hrefund : refundRow l' id' = some rf.1 := by
        rw [refundRow, hnew, AList.lookup_insert]
        rfl
      have hbefore : refundRow l id' = none := by
        rw [refundRow, hnone]
        rfl
      rw [hrefund, hbefore, hrow]
      exact .closed _ _ _ _
  · have hsame : entry l' id' = entry l id' := by
      rw [entry, entry, channelStatus, channelStatus, h.channel, if_neg hid]
      rcases h.refund with ⟨-, hsame⟩ | ⟨-, -, hnew⟩
      · rw [refundRow, refundRow, hsame]
      · rw [refundRow, refundRow, hnew, AList.lookup_insert_ne hid]
    rw [hsame]
    exact .kept _ _

/-- Every operation that commits moves an entry along one edge or leaves it. -/
theorem program_entryMove {fault : Fault} {op : LedgerOp} {u : Unit} {l l' : Ledger}
    (h : op.program fault l = .ok u l') (id : ChannelId) :
    EntryMove id op (entry l id) (entry l' id) := by
  cases op with
  | createChannel ch =>
    obtain ⟨_, h⟩ := effect_ok h
    obtain ⟨-, hfresh, expiry, hr, rfl⟩ := createChannel_ok h
    rw [entry, entry, channelStatus_insert]
    -- a channel is created where there was none
    by_cases hid : id = ch.channelId
    · have hnone : channelStatus l id = none := by
        rw [channelStatus, hid, hfresh]
        rfl
      rw [if_pos hid, hnone]
      exact .created ch _
    · rw [if_neg hid]
      exact .kept _ _
  -- these write the channel and leave its status
  | persistVoucherAndAdvance v =>
    obtain ⟨_, h⟩ := effect_ok h
    obtain ⟨r, hspec⟩ := persistVoucherAndAdvance_ok h
    obtain ⟨hf, rfl⟩ := hspec.written
    have hsame := entry_insert_channel ⟨_, hf⟩ hspec.found rfl (l.vouchers ++ [v.stored]) id
    rw [hsame]
    exact .kept _ _
  | updateSettled id' n =>
    obtain ⟨_, h⟩ := effect_ok h
    obtain ⟨r, hr, hf, rfl⟩ := updateSettled_ok h
    have hsame := entry_insert_channel ⟨_, hf⟩ hr rfl l.vouchers id
    rw [hsame]
    exact .kept _ _
  | setStatus id' status =>
    obtain ⟨_, h⟩ := effect_ok h
    obtain ⟨r, hr, hf, rfl⟩ := setStatus_ok h
    rw [entry, entry, channelStatus_insert]
    by_cases hid : id = id'
    · rw [if_pos hid, hid, channelStatus_of_lookup hr]
      exact .forced status _ _
    · rw [if_neg hid]
      exact .kept _ _
  | closeChannelAndReserveRefund id' =>
    obtain ⟨out, h⟩ := effect_ok h
    obtain ⟨r, rf, hspec⟩ := closeChannelAndReserveRefund_ok h
    exact hspec.entryMove id
  | confirmRefundAndCloseChannel id' source =>
    obtain ⟨b, h⟩ := effect_ok h
    rcases confirmRefundAndCloseChannel_ok h with ⟨-, rfl⟩ | ⟨-, rf, hspec⟩
    · exact .kept _ _
    · exact hspec.entryMove id
  -- these write the refund, on the guard of their statement, or nothing
  | claimRefundForBroadcast now claim =>
    obtain ⟨out, h⟩ := effect_ok h
    rcases claimRefundForBroadcast_ok h with ⟨-, rfl⟩ | ⟨-, -, -, rf, hstatus, hwritten⟩
    · exact .kept _ _
    · exact hwritten.entryMove (.claimed now claim _ rf.1 hstatus) id
  | resignRefund id' oldSig newTx newSig height =>
    obtain ⟨b, h⟩ := effect_ok h
    rcases resignRefund_ok h with ⟨-, rfl⟩ | ⟨-, -, rf, hstatus, hsig, hwritten⟩
    · exact .kept _ _
    · exact hwritten.entryMove (.resigned oldSig newTx newSig height _ rf.1 hstatus hsig) id
  | holdRefund id' guard =>
    obtain ⟨b, h⟩ := effect_ok h
    rcases holdRefund_ok h with ⟨-, rfl⟩ | ⟨-, rf, hadmits, hwritten⟩
    · exact .kept _ _
    · exact hwritten.entryMove (.held guard _ rf.1 hadmits) id
  | markBroadcastAccepted now id' sig =>
    obtain ⟨_, h⟩ := effect_ok h
    rcases markBroadcastAccepted_ok h with rfl | ⟨rf, -, -, hwritten⟩
    · exact .kept _ _
    · exact hwritten.entryMove (.marked now sig _ rf.1) id

/-- The same for a step, which may fail. -/
theorem ledgerStep_entryMove (fault : Fault) (op : LedgerOp) (l : Ledger) (id : ChannelId) :
    EntryMove id op (entry l id) (entry (ledgerStep l (fault, op)) id) := by
  unfold ledgerStep
  cases hres : op.program fault l with
  | ok u l' => exact program_entryMove hres id
  | error e l' =>
    obtain rfl := program_error hres
    exact .kept _ _

/-! ## A channel and its refund -/

/-- The lives of a channel and of its refund, side by side. -/
inductive Paired : Option ChannelStatus → Option RefundStatus → Prop
  | absent : Paired none none
  | isOpen : Paired (some .open) none
  | owed (status : RefundStatus) (h : status ≠ .confirmed) : Paired (some .closing) (some status)
  | settled : Paired (some .closed) (some .confirmed)

/-- The entry of a channel is a pair of the list. -/
def Entry.Paired (e : Entry) : Prop :=
  ChannelLedger.Paired e.channel (e.refund.map RefundDbRow.status)

/-- In a paired entry the refund is confirmed exactly if the channel is closed. -/
theorem Paired.confirmed_iff {c : Option ChannelStatus} {r : Option RefundStatus}
    (h : Paired c r) : r = some .confirmed ↔ c = some .closed := by
  cases h with
  | absent => simp
  | isOpen => simp
  | owed status h => simp [h]
  | settled => simp

/-- A guard admits no row whose refund is over. -/
theorem HoldGuard.admits_status {guard : HoldGuard} {r : RefundDbRow}
    (h : guard.admits r = true) : r.status = .reserved ∨ r.status = .inFlight := by
  cases guard with
  | fromReserved => exact Or.inl (by simpa [HoldGuard.admits] using h)
  | fromInFlight sig =>
    simp only [HoldGuard.admits, Bool.and_eq_true, decide_eq_true_eq] at h
    exact Or.inr h.1
  | fromInFlightNeverAccepted sig =>
    simp only [HoldGuard.admits, Bool.and_eq_true, decide_eq_true_eq] at h
    exact Or.inr h.1.1

/-- The pairing is kept by every operation but a forced status. -/
theorem EntryMove.paired {id : ChannelId} {op : LedgerOp} {e e' : Entry}
    (hop : ∀ id status, op ≠ .setStatus id status) (h : EntryMove id op e e')
    (hp : e.Paired) : e'.Paired := by
  unfold Entry.Paired at hp ⊢
  cases h with
  | kept => exact hp
  | created ch refund =>
    cases refund with
    | none => exact .isOpen
    | some r => exact absurd hp (by rintro ⟨⟩)
  | forced status old refund => exact absurd rfl (hop id status)
  | closed status amount wallet mint =>
    cases hp with
    | isOpen => exact .owed _ (by simp [reservation])
  | closedAgain status r =>
    -- closing and closed channels are left as they are
    generalize hr : (some r).map RefundDbRow.status = o at hp ⊢
    cases hp with
    | isOpen => exact absurd hr (by simp)
    | owed status h => exact .owed status h
    | settled => exact .settled
  | claimed now claim channel r hstatus =>
    rw [Option.map_some, hstatus] at hp
    cases hp with
    | owed => exact .owed _ (by simp [RefundDbRow.claimed])
  | resigned oldSig newTx newSig height channel r hstatus hsig => exact hp
  | held guard channel r hadmits =>
    generalize hr : (some r).map RefundDbRow.status = o at hp
    have hr : some r.status = o := hr
    cases hp with
    | absent => exact absurd hr (by simp)
    | isOpen => exact absurd hr (by simp)
    | owed => exact .owed _ (by simp)
    | settled =>
      rcases HoldGuard.admits_status hadmits with h | h
      · rw [h] at hr
        exact absurd hr (by simp)
      · rw [h] at hr
        exact absurd hr (by simp)
  | marked now sig channel r => exact hp
  | confirmed source channel r hstatus =>
    generalize hr : (some r).map RefundDbRow.status = o at hp
    have hr : some r.status = o := hr
    cases hp with
    | absent => exact absurd hr (by simp)
    | isOpen => exact absurd hr (by simp)
    | owed => exact .settled
    | settled => exact .settled

/-- A refund row never goes away, and what it owes is frozen. -/
theorem EntryMove.frozen {id : ChannelId} {op : LedgerOp} {e e' : Entry} {r : RefundDbRow}
    (h : EntryMove id op e e') (hr : e.refund = some r) :
    ∃ r', e'.refund = some r' ∧ frozenTerms r' = frozenTerms r := by
  cases h with
  | closed => exact absurd hr (by simp)
  | kept => exact ⟨r, hr, rfl⟩
  | created => exact ⟨r, hr, rfl⟩
  | forced => exact ⟨r, hr, rfl⟩
  | closedAgain => exact ⟨r, hr, rfl⟩
  | claimed now claim channel r' =>
    obtain rfl : r' = r := Option.some.inj hr
    exact ⟨_, rfl, rfl⟩
  | resigned oldSig newTx newSig height channel r' =>
    obtain rfl : r' = r := Option.some.inj hr
    exact ⟨_, rfl, rfl⟩
  | held guard channel r' =>
    obtain rfl : r' = r := Option.some.inj hr
    exact ⟨_, rfl, rfl⟩
  | marked now sig channel r' =>
    obtain rfl : r' = r := Option.some.inj hr
    exact ⟨_, rfl, rfl⟩
  | confirmed source channel r' =>
    obtain rfl : r' = r := Option.some.inj hr
    exact ⟨_, rfl, rfl⟩

/-- The obligation is read from the row. -/
theorem obligation_of_refundRow {l : Ledger} {id : ChannelId} {r : RefundDbRow}
    (h : refundRow l id = some r) : obligation l id = some (frozenTerms r) := by
  have hmap : obligation l id = (refundRow l id).map frozenTerms := by
    rw [obligation, refundRow, Option.map_map]
    rfl
  rw [hmap, h]
  rfl

/-- An obligation has a row. -/
theorem refundRow_of_obligation {l : Ledger} {id : ChannelId} {o : ℤ × RefundTerms}
    (h : obligation l id = some o) : ∃ r, refundRow l id = some r ∧ frozenTerms r = o := by
  unfold obligation at h
  obtain ⟨rf, hrf, rfl⟩ := Option.map_eq_some_iff.1 h
  exact ⟨rf.1, refundRow_of_lookup hrf, rfl⟩

/-- An obligation stays what it is, whatever is done to the ledger. -/
theorem ledgerStep_obligation {fault : Fault} {op : LedgerOp} {l : Ledger} {id : ChannelId}
    {o : ℤ × RefundTerms} (h : obligation l id = some o) :
    obligation (ledgerStep l (fault, op)) id = some o := by
  obtain ⟨r, hr, rfl⟩ := refundRow_of_obligation h
  obtain ⟨r', hr', hfrozen⟩ := (ledgerStep_entryMove fault op l id).frozen hr
  rw [obligation_of_refundRow hr', hfrozen]

/-- Where a status can go, and by which operation. -/
theorem EntryMove.status {id : ChannelId} {op : LedgerOp} {e e' : Entry} {r : RefundDbRow}
    (h : EntryMove id op e e') (hr : e.refund = some r) :
    ∃ r', e'.refund = some r' ∧
      (r'.status = r.status ∨ (r.status = .reserved ∧ r'.status = .inFlight) ∨
        (op = .confirmRefundAndCloseChannel id r.status ∧ r'.status = .confirmed) ∨
        ∃ guard, op = .holdRefund id guard ∧ guard.admits r = true ∧ r'.status = .held) := by
  cases h with
  | closed => exact absurd hr (by simp)
  | kept => exact ⟨r, hr, Or.inl rfl⟩
  | created => exact ⟨r, hr, Or.inl rfl⟩
  | forced => exact ⟨r, hr, Or.inl rfl⟩
  | closedAgain => exact ⟨r, hr, Or.inl rfl⟩
  | claimed now claim channel r' hstatus =>
    obtain rfl : r' = r := Option.some.inj hr
    exact ⟨_, rfl, Or.inr (Or.inl ⟨hstatus, rfl⟩)⟩
  | resigned oldSig newTx newSig height channel r' =>
    obtain rfl : r' = r := Option.some.inj hr
    exact ⟨_, rfl, Or.inl rfl⟩
  | held guard channel r' hadmits =>
    obtain rfl : r' = r := Option.some.inj hr
    exact ⟨_, rfl, Or.inr (Or.inr (Or.inr ⟨guard, rfl, hadmits, rfl⟩))⟩
  | marked now sig channel r' =>
    obtain rfl : r' = r := Option.some.inj hr
    exact ⟨_, rfl, Or.inl rfl⟩
  | confirmed source channel r' hstatus =>
    obtain rfl : r' = r := Option.some.inj hr
    subst hstatus
    exact ⟨_, rfl, Or.inr (Or.inr (Or.inl ⟨rfl, rfl⟩))⟩

/-- A row that appears is reserved. -/
theorem EntryMove.fresh {id : ChannelId} {op : LedgerOp} {e e' : Entry} {r' : RefundDbRow}
    (h : EntryMove id op e e') (hr : e.refund = none) (hr' : e'.refund = some r') :
    r'.status = .reserved := by
  cases h with
  | closed =>
    obtain rfl := Option.some.inj hr'
    rfl
  | kept => exact absurd (hr.symm.trans hr') (by simp)
  | created => exact absurd (hr.symm.trans hr') (by simp)
  | forced => exact absurd (hr.symm.trans hr') (by simp)
  | _ => exact absurd hr (by simp)

/-- A hold changes only a row its guard admits. -/
theorem EntryMove.held_of_ne {id id' : ChannelId} {guard : HoldGuard} {e e' : Entry}
    (h : EntryMove id (.holdRefund id' guard) e e') (hne : e'.refund ≠ e.refund) :
    id' = id ∧ ∃ r, e.refund = some r ∧ guard.admits r = true := by
  cases h with
  | kept => exact absurd rfl hne
  | held guard channel r hadmits => exact ⟨rfl, r, rfl, hadmits⟩

/-- A re-sign changes only a row that carries the superseded signature. -/
theorem EntryMove.resigned_of_ne {id id' : ChannelId} {old new : String} {tx : List UInt8}
    {height : ℕ} {e e' : Entry} (h : EntryMove id (.resignRefund id' old tx new height) e e')
    (hne : e'.refund ≠ e.refund) :
    id' = id ∧ ∃ r, e.refund = some r ∧ r.txSignature = some old := by
  cases h with
  | kept => exact absurd rfl hne
  | resigned _ _ _ _ channel r _ hsig => exact ⟨rfl, r, rfl, hsig⟩

/-- The signature a guard is predicated on, if it is. -/
def HoldGuard.expectedSignature : HoldGuard → Option (Option String)
  | .fromReserved => none
  | .fromInFlight sig => some sig
  | .fromInFlightNeverAccepted sig => some (some sig)

/-- A guard that expects a signature admits the row with that one only. -/
theorem HoldGuard.admits_signature {guard : HoldGuard} {r : RefundDbRow} {sig : Option String}
    (h : guard.admits r = true) (hsig : guard.expectedSignature = some sig) :
    r.txSignature = sig := by
  cases guard with
  | fromReserved => exact absurd hsig (by simp [HoldGuard.expectedSignature])
  | fromInFlight sig' =>
    simp only [HoldGuard.admits, Bool.and_eq_true, decide_eq_true_eq] at h
    exact h.2.trans (Option.some.inj hsig)
  | fromInFlightNeverAccepted sig' =>
    simp only [HoldGuard.admits, Bool.and_eq_true, decide_eq_true_eq] at h
    exact h.1.2.trans (Option.some.inj hsig)

end Solvela.ChannelLedger
