import Solvela.Channel.DrawTheorems
import Solvela.Ledger.Books

/-!
# Draws racing closes

The ledger of the draw system refines the spend-down account, channel by channel: a created
row is a fresh account, a committed draw is a draw, a close transaction is a close, and
everything else leaves the account alone. The account's two results then hold of every
interleaving.

The refinement rests on one fact about the tables, the foreign key of `channel_refunds`: no
refund row waits for a channel that does not exist yet.
-/

namespace Solvela.Channel

open Solvela.Lib
open Solvela.Lib.Txn
open Solvela.ChannelLedger

/-! ## The refinement -/

/-- What a committed draw realized. -/
def Commit.advance (c : Commit) : ℕ := c.record.realizedAdvanceAtomic

/-- The committed draws of one channel. -/
def commitsAt (s : DrawSystem) (id : ChannelId) : List Commit :=
  s.commits.filter fun c => c.record.channelId = id

/-- An effect of the ledger that commits no draw is a step of every account. -/
theorem step_of_bookEffect {l l' : Ledger} (h : BookEffect l l' none) (hown : RefundsOwned l)
    (id : ChannelId) : Account.Step Commit.advance (account l id) none (account l' id) := by
  cases h with
  | kept hb ho =>
    rw [account, account, hb, ho]
    exact .stay _
  | created id' deposited terms hfree hb ho =>
    rw [account, account, hb, ho]
    by_cases hid : id = id'
    · -- the foreign key: a fresh account has no obligation
      rw [if_pos hid, hid, hown id' hfree, hfree]
      exact .opened deposited terms
    · rw [if_neg hid]
      exact .stay _
  | closed id' a hfound hb ho =>
    rw [account, account, hb, ho]
    by_cases hid : id = id'
    · rw [if_pos hid, if_pos hid, hid, hfound]
      exact .close _
    · rw [if_neg hid, if_neg hid]
      exact .stay _

/-- A committed draw is a draw of its own channel's account. -/
theorem step_of_bookDrawn {l l' : Ledger} {c : Commit}
    (h : BookEffect l l' (some (c.record.channelId, c.advance))) :
    Account.Step Commit.advance (account l c.record.channelId) (some c)
      (account l' c.record.channelId) := by
  cases h with
  | drawn _ a _ hfound hopen hb ho =>
    rw [account, account, hb, ho, if_pos rfl, hfound]
    exact .draw _ c hopen

/-- A draw is on the account of its own channel. -/
theorem account_of_bookDrawn {l l' : Ledger} {id id' : ChannelId} {n : ℕ}
    (h : BookEffect l l' (some (id', n))) (hid : id ≠ id') : account l' id = account l id := by
  cases h with
  | drawn _ a _ hfound hopen hb ho => rw [account, account, hb, ho, if_neg hid]

section
variable {verifySignature : Pubkey → List UInt8 → Vector UInt8 64 → Bool} {feePercent : ℕ}

/-- Beside draws and closes, no operation moves a book. -/
theorem besideDraws_bookEffect {fault : Fault} {op : LedgerOp} (hop : besideDraws op)
    (l : Ledger) : BookEffect l (ledgerStep l (fault, op)) none := by
  refine ledgerStep_bookEffect ?_ ?_ l
  · rintro id status rfl
    rcases hop with hop | ⟨_, hop⟩
    · exact absurd hop (by simp [runsBeside])
    · exact absurd hop (by simp)
  · rcases hop with hop | ⟨id, rfl⟩
    · cases op with
      | persistVoucherAndAdvance v => exact absurd hop (by simp [runsBeside])
      | _ => rfl
    · rfl

/-- A refund belongs to a channel, after every step. -/
theorem refundsOwned_step (s : DrawSystem) (a : DrawLabel) (h : RefundsOwned s.ledger) :
    RefundsOwned (drawStep verifySignature feePercent s a).ledger := by
  cases draw_effect verifySignature feePercent s a with
  | quiet ledger _ =>
    rw [ledger]
    exact h
  | operated fault op beside ledger _ =>
    rw [ledger]
    exact (besideDraws_bookEffect beside s.ledger).owned h
  | committed i d state advance r _ _ _ spec _ => exact spec.bookDrawn.owned h

/-- Every step of the system is a step of every account, and its event is the commit. -/
theorem account_step (id : ChannelId) (s : DrawSystem) (a : DrawLabel)
    (hown : RefundsOwned s.ledger) :
    ∃ e, Account.Step Commit.advance (account s.ledger id) e
        (account (drawStep verifySignature feePercent s a).ledger id) ∧
      commitsAt (drawStep verifySignature feePercent s a) id = commitsAt s id ++ e.toList := by
  cases draw_effect verifySignature feePercent s a with
  | quiet ledger commits =>
    refine ⟨none, ?_, ?_⟩
    · rw [ledger]
      exact .stay _
    · rw [commitsAt, commits, Option.toList_none, List.append_nil]
      rfl
  | operated fault op beside ledger commits =>
    refine ⟨none, ?_, ?_⟩
    · rw [ledger]
      exact step_of_bookEffect (besideDraws_bookEffect beside s.ledger) hown id
    · rw [commitsAt, commits, Option.toList_none, List.append_nil]
      rfl
  | committed i d state advance r _ _ _ spec commits =>
    have hbook := spec.bookDrawn
    -- the draw is the channel's own, or another channel's
    by_cases hid : d.channelId = id
    · subst hid
      have hdraw := step_of_bookDrawn
        (c := d.commit state advance r.1.lastVoucherCumulativeAtomic) hbook
      refine ⟨_, hdraw, ?_⟩
      rw [commitsAt, commits, List.filter_append]
      congr 1
      simp [Draw.commit, Draw.record]
    · refine ⟨none, ?_, ?_⟩
      · rw [account_of_bookDrawn hbook (Ne.symm hid)]
        exact .stay _
      · rw [commitsAt, commits, List.filter_append]
        simp [commitsAt, Draw.commit, Draw.record, hid]

/-- Every run of the system is a trace of every account. -/
theorem account_trace (id : ChannelId) {s : DrawSystem} (hs : RefundsOwned s.ledger)
    (as : List DrawLabel) :
    ∃ cs, Trace (Account.Step Commit.advance) (account s.ledger id) cs
        (account (run (drawStep verifySignature feePercent) s as).ledger id) ∧
      commitsAt (run (drawStep verifySignature feePercent) s as) id = commitsAt s id ++ cs :=
  run_trace (fun s : DrawSystem => account s.ledger id) (commitsAt · id)
    (I := fun s => RefundsOwned s.ledger) refundsOwned_step (account_step id) hs as

/-! ## The race -/

/-- The tuple a close freezes: what is sent, to whom, in which mint, under which memo. -/
structure FrozenRefund where
  amountAtomic : ℤ
  destinationWallet : String
  mint : String
  memo : String
deriving DecidableEq

/-- The frozen tuple of a channel's refund row. -/
def frozenRefund (l : Ledger) (id : ChannelId) : Option FrozenRefund :=
  (obligation l id).map fun f => ⟨f.1, f.2.1, f.2.2, refundMemo id⟩

/-- What the committed draws of a channel realized together. -/
def realizedTotal (s : DrawSystem) (id : ChannelId) : ℤ :=
  ((commitsAt s id).map Commit.advance).sum

/-- The channel is frozen at `f`: that is its tuple, no persist can succeed on it, and a close
goes through and returns the amount, leaving the tuple in place. -/
structure Frozen (l : Ledger) (id : ChannelId) (f : FrozenRefund) : Prop where
  tuple : frozenRefund l id = some f
  noDraw : ∀ fault v, v.channelId = id → isOk (persistVoucherAndAdvance fault v l) = false
  closes : ∃ out l', closeChannelAndReserveRefund none id l = .ok out l'
  returns : ∀ fault out l', closeChannelAndReserveRefund fault id l = .ok out l' →
    (out.refundableAtomic : ℤ) = f.amountAtomic ∧ frozenRefund l' id = some f

/-- The account of a channel is its book with its obligation. -/
theorem account_some {l : Ledger} {id : ChannelId} {a : Account RefundTerms}
    (h : account l id = some a) :
    ∃ r, l.channels.lookup id = some r ∧ { book r.1 with refund := obligation l id } = a := by
  rw [account, books, Option.map_map] at h
  obtain ⟨r, hr, ha⟩ := Option.map_eq_some_iff.1 h
  exact ⟨r, hr, ha⟩

/-- A channel whose account is closed, with an obligation that is the unspent rest, is
frozen. -/
theorem frozen_of_account {l : Ledger} {id : ChannelId} {a : Account RefundTerms}
    {f : ℤ × RefundTerms} (ha : account l id = some a) (hf : a.refund = some f)
    (hclosed : a.isOpen = false) (hrest : f.1 = a.deposited - a.realized) :
    Frozen l id ⟨f.1, f.2.1, f.2.2, refundMemo id⟩ := by
  obtain ⟨r, hr, rfl⟩ := account_some ha
  have hobligation : obligation l id = some f := hf
  refine ⟨?_, ?_, closeChannelAndReserveRefund_succeeds hr, ?_⟩
  · rw [frozenRefund, hobligation]
    rfl
  · intro fault v hv
    cases hres : persistVoucherAndAdvance fault v l with
    | error e l' => rfl
    | ok u l' =>
      -- a persist finds an open row, and this one is not
      obtain ⟨r', hspec⟩ := persistVoucherAndAdvance_ok hres
      have hfound := hspec.found
      rw [hv, hr] at hfound
      obtain rfl := Option.some.inj hfound
      have hnot : r.1.status ≠ .open := by simpa [book] using hclosed
      exact absurd hspec.isOpen hnot
  · intro fault out l' hres
    obtain ⟨r', rf, hspec⟩ := closeChannelAndReserveRefund_ok hres
    have hfound := hspec.found
    rw [hr] at hfound
    obtain rfl := Option.some.inj hfound
    refine ⟨?_, ?_⟩
    · rw [hspec.refundable]
      exact hrest.symm
    · rcases hspec.refund with ⟨-, hsame⟩ | ⟨hnone, -⟩
      · rw [frozenRefund, obligation, hsame, ← obligation, hobligation]
        rfl
      · rw [obligation, hnone] at hobligation
        exact absurd hobligation (by simp)

variable (verifySignature feePercent)

/-- And so in every run. -/
theorem refundsOwned_run (as : List DrawLabel) :
    RefundsOwned (drawRun verifySignature feePercent as).ledger :=
  run_invariant (I := fun s : DrawSystem => RefundsOwned s.ledger) refundsOwned_step
    (fun _ _ => rfl) as

/-- A reachable frozen channel is not open, and its account balances. -/
theorem frozen_account {as : List DrawLabel} {id : ChannelId} {f : ℤ × RefundTerms}
    (hf : obligation (drawRun verifySignature feePercent as).ledger id = some f) :
    ∃ a, account (drawRun verifySignature feePercent as).ledger id = some a ∧
      a.refund = some f ∧ a.isOpen = false ∧
      a.realized = realizedTotal (drawRun verifySignature feePercent as) id ∧
      f.1 = a.deposited - realizedTotal (drawRun verifySignature feePercent as) id := by
  have hown := refundsOwned_run verifySignature feePercent as
  obtain ⟨cs, htrace, hcs⟩ :
      ∃ cs, Trace (Account.Step Commit.advance) none cs
          (account (drawRun verifySignature feePercent as).ledger id) ∧
        commitsAt (drawRun verifySignature feePercent as) id = cs :=
    account_trace id (s := DrawSystem.init) (fun _ _ => rfl) as
  cases hb : books (drawRun verifySignature feePercent as).ledger id with
  | none => exact absurd (hf.symm.trans (hown id hb)) (by simp)
  | some b =>
    have ha : account (drawRun verifySignature feePercent as).ledger id =
        some { b with refund := some f } := by
      rw [account, hb, hf]
      rfl
    rw [ha] at htrace
    -- every account that a trace leads to is balanced
    have hbal := Account.balanced_trace htrace
    obtain ⟨hclosed, hrest⟩ := hbal.refund f rfl
    have htotal : realizedTotal (drawRun verifySignature feePercent as) id =
        (cs.map Commit.advance).sum := by
      rw [realizedTotal, hcs]
    refine ⟨_, ha, rfl, hclosed, ?_, ?_⟩
    · rw [htotal]
      exact hbal.realized
    · rw [htotal, hrest]

/-- Once a channel is frozen, the frozen amount is the deposit less what exactly the committed
draws realized, and whatever steps follow, in any order, no draw of the channel commits any
more and it stays frozen at the same tuple. -/
theorem draw_close_race (as bs : List DrawLabel) (id : ChannelId) (rf : Refund)
    (hfrozen : (drawRun verifySignature feePercent as).ledger.refunds.lookup id = some rf) :
    ∃ r, (drawRun verifySignature feePercent as).ledger.channels.lookup id = some r ∧
      r.1.realizedAtomic = realizedTotal (drawRun verifySignature feePercent as) id ∧
      rf.1.amountAtomic =
        r.1.depositedAtomic - realizedTotal (drawRun verifySignature feePercent as) id ∧
      realizedTotal (drawRun verifySignature feePercent as) id + rf.1.amountAtomic =
        r.1.depositedAtomic ∧
      commitsAt (drawRun verifySignature feePercent (as ++ bs)) id =
        commitsAt (drawRun verifySignature feePercent as) id ∧
      Frozen (drawRun verifySignature feePercent (as ++ bs)).ledger id
        ⟨rf.1.amountAtomic, rf.1.destinationWallet, rf.1.mint, refundMemo id⟩ := by
  have hf : obligation (drawRun verifySignature feePercent as).ledger id =
      some (frozenTerms rf.1) := by
    rw [obligation, hfrozen]
    rfl
  obtain ⟨a, ha, hrefund, hclosed, hrealized, hamount⟩ :=
    frozen_account verifySignature feePercent hf
  -- the continuation is a trace of a frozen account, so nothing happens in it
  obtain ⟨cs, htrace, hcs⟩ := account_trace (s := drawRun verifySignature feePercent as) id
    (refundsOwned_run verifySignature feePercent as) bs
  rw [← drawRun_append, ha] at htrace
  rw [← drawRun_append] at hcs
  obtain ⟨rfl, hafter⟩ := Account.frozen_trace htrace hrefund hclosed
  have hrest : (frozenTerms rf.1).1 = a.deposited - a.realized := by
    rw [hrealized]
    exact hamount
  obtain ⟨r, hr, rfl⟩ := account_some ha
  refine ⟨r, hr, hrealized, hamount, ?_, ?_, ?_⟩
  · have : rf.1.amountAtomic = _ := hamount
    rw [this]
    show _ + (r.1.depositedAtomic - _) = _
    ring
  · rw [hcs, List.append_nil]
  · exact frozen_of_account hafter hrefund hclosed hrest

end

/-! ## A sample channel

The channel, the session key and the two vouchers are real: the signatures are those of the
session key over the two voucher messages. -/

def sampleId : ChannelId := "88LvH2BprQP5aWM47yERgf6HKM6jH6Nbcu3KrXH4zRSd"

/-- A channel of 1000 units. -/
def sampleChannel : NewChannel :=
  { channelId := sampleId, agentWallet := "HXqxDbshu9KGXE3WCX48RwPN53haboNyJQHqx5pXBsNX"
    sessionKey := "7U23VTTj6cRaBfQ4Z8dwM1cBT8UGjskcP3BHqkPt8oXN"
    provider := "37MfitXWbZLgandiE2SJH1AT48uctLkZtGrEWuj6PvEa"
    mint := "EPjFWdd5AufqSSqeM2qN1xzybapC8G4wEGGkZwyTDt1v", depositedAtomic := 1000
    expirySlot := none, fundingTxSig := none }

def sampleDigestA : Vector UInt8 32 := #v[
    110, 70, 121, 173, 2, 58, 55, 87, 50, 225, 120, 219, 237, 29, 234, 40, 61, 215, 68, 144,
    40, 73, 142, 151, 109, 167, 8, 218, 23, 131, 26, 236]

def sampleDigestB : Vector UInt8 32 := #v[
    154, 125, 36, 211, 145, 14, 172, 206, 225, 223, 95, 220, 67, 175, 65, 45, 239, 63, 185,
    229, 247, 211, 235, 109, 240, 222, 153, 6, 63, 234, 246, 214]

def sampleSignatureA : Vector UInt8 64 := #v[
    109, 239, 68, 39, 255, 0, 149, 253, 52, 156, 231, 135, 115, 186, 148, 191, 46, 246, 150,
    146, 175, 117, 173, 201, 56, 218, 126, 104, 104, 145, 232, 82, 115, 41, 179, 68, 103, 231,
    93, 91, 78, 54, 169, 140, 56, 85, 37, 43, 145, 108, 124, 53, 188, 131, 31, 36, 140, 9, 89,
    124, 234, 71, 81, 13]

def sampleSignatureB : Vector UInt8 64 := #v[
    239, 81, 190, 163, 28, 156, 163, 16, 135, 88, 120, 80, 217, 233, 14, 167, 232, 39, 244,
    240, 243, 146, 64, 126, 216, 240, 249, 10, 210, 155, 151, 194, 242, 37, 197, 234, 14, 91,
    95, 7, 40, 220, 65, 215, 137, 106, 31, 222, 56, 20, 209, 241, 71, 101, 197, 252, 34, 210,
    238, 98, 45, 155, 143, 0]

/-- A voucher over 100 units, billed 100 against a fresh channel. -/
def sampleRequestA : DrawRequest :=
  { payload :=
      { channelId := sampleId, cumulativeAtomic := 100, expirySlot := 1000, nonce := 1
        requestDigest := "bkZ5rQI6N1cy4Xjb7R3qKD3XRJAoSY6XbacI2heDGuw="
        signature := "be9EJ/8Alf00nOeHc7qUvy72lpKvda3JONp+aGiR6FJzKbNEZ+ddW042qYw4VSUrkWx8NbyDHySMCVl86kdRDQ==" }
    requestDigest := sampleDigestA, billedAtomic := 100, currentSlot := 10 }

/-- A voucher over 150 units, billed 150 against a fresh channel. -/
def sampleRequestB : DrawRequest :=
  { payload :=
      { channelId := sampleId, cumulativeAtomic := 150, expirySlot := 1000, nonce := 2
        requestDigest := "mn0k05EOrM7h31/cQ69BLe8/ueX30+tt8N6ZBj/q9tY="
        signature := "71G+oxycoxCHWHhQ2ekOp+gn9PDzkkB+2PD5CtKbl8LyJcXqDltfByjcQdeJah/eOBTR8Udlxfwi0u5iLZuPAA==" }
    requestDigest := sampleDigestB, billedAtomic := 150, currentSlot := 10 }

/-- ed25519 verification, on the two sample messages and signatures. -/
def sampleVerify (_ : Pubkey) (message : List UInt8) (signature : Vector UInt8 64) : Bool :=
  (decodeBs58Pubkey sampleId).elim false fun id =>
    (message == buildVoucherMessage id 100 1000 1 sampleDigestA &&
        signature == sampleSignatureA) ||
      (message == buildVoucherMessage id 150 1000 2 sampleDigestB &&
        signature == sampleSignatureB)

/-- The stages of one search draw. -/
def sampleDraw (i : ℕ) (request : DrawRequest) : List DrawLabel :=
  [.begin i request, .load i, .verify i, .serve i .search, .recheck i true, .persist i none,
    .release i]

/-- A draw of 100 and a close. -/
def sampleRun : List DrawLabel :=
  .beside none (.createChannel sampleChannel) :: sampleDraw 0 sampleRequestA ++
    [.close sampleId none]

/-- What the close of the sample channel reserves. -/
def sampleRefund : Refund :=
  ⟨reservation 900 sampleChannel.agentWallet sampleChannel.mint, by decide⟩

/-- A draw of 100, a close, and a second draw that comes too late. -/
theorem draw_close_race_sample :
    (drawRun sampleVerify 5 sampleRun).ledger.refunds.lookup sampleId = some sampleRefund ∧
    realizedTotal (drawRun sampleVerify 5 sampleRun) sampleId = 100 ∧
    Frozen (drawRun sampleVerify 5 (sampleRun ++ sampleDraw 1 sampleRequestB)).ledger sampleId
      ⟨900, sampleChannel.agentWallet, sampleChannel.mint, refundMemo sampleId⟩ := by
  have hrun : (drawRun sampleVerify 5 sampleRun).ledger.refunds.lookup sampleId =
        some sampleRefund ∧
      realizedTotal (drawRun sampleVerify 5 sampleRun) sampleId = 100 := by
    decide +kernel
  have hrace := draw_close_race sampleVerify 5 sampleRun (sampleDraw 1 sampleRequestB) sampleId
    sampleRefund hrun.1
  obtain ⟨r, -, -, -, -, -, hgood⟩ := hrace
  exact ⟨hrun.1, hrun.2, hgood⟩

end Solvela.Channel
