import Solvela.Escrow.ProgramTheorems
import Solvela.Lib.Runs
import Mathlib.Data.List.Induction

/-!
# The life cycle of an escrow

Any sequence of transactions, by any callers with any accounts and arguments, from a chain
with arbitrary token accounts and no escrow yet.

The invariant `Inv` says that every live escrow sits at its derived address, was made by an
agent that can sign, and has a vault that holds at least its deposit. The rest follows the
record at one address: a deposit writes it, a claim or a refund erases it, and nothing else
touches it (`lookup_exec`).

* `exec_cases`, what a transaction does, and `totalOf_exec`, that it makes no tokens;
* `inv_exec` and `inv_run`, the invariant;
* `lookup_exec` and `record_of_live`, the record at one address.
-/

namespace Solvela.EscrowProgram

open Solvela.Lib
open Solvela.Lib.Txn

section
variable {Key : Type} [DecidableEq Key] (D : Addresses Key)

/-- Accounts whose owner cannot sign lost nothing. -/
def KeepsUnsigned (s s' : Chain Key) : Prop :=
  ∀ k a, s.tokens.lookup k = some a → D.canSign a.owner = false →
    ∃ a', s'.tokens.lookup k = some a' ∧ a'.mint = a.mint ∧ a'.owner = a.owner ∧
      a.amount ≤ a'.amount

variable {D}

/-- What only a signer can touch, other authorities keep. -/
theorem KeepsExcept.unsigned {authority : Key} {s s' : Chain Key}
    (h : KeepsExcept authority s s') (hsign : D.canSign authority = true) :
    KeepsUnsigned D s s' := by
  intro k a ha ho
  refine h k a ha ?_
  rintro rfl
  rw [hsign] at ho
  exact absurd ho (by decide)

variable (D)

/-- The three things a successful transaction can be, with what it does: a deposit, a closing
claim or refund, or a plain token instruction. -/
inductive Effect (s : Chain Key) (tx : Transaction Key) (s' : Chain Key) : Prop
  | deposit (ctx : Deposit Key) (amount : ℕ) (serviceId : ServiceId) (expirySlot : ℕ)
      (instr : tx.instr = .deposit ctx amount serviceId expirySlot)
      (spec : DepositSpec D tx.slot tx.signers ctx amount serviceId expirySlot s s')
  | claim (ctx : Claim Key) (n : ℕ) (e : Escrow Key) (instr : tx.instr = .claim ctx n)
      (spec : ClaimSpec D tx.slot tx.signers ctx n e s s')
  | refund (ctx : Refund Key) (e : Escrow Key) (instr : tx.instr = .refund ctx)
      (spec : RefundSpec D tx.slot tx.signers ctx e s s')
  | token (escrows : s'.escrows = s.escrows) (total : ∀ m, totalOf m s' = totalOf m s)
      (keeps : KeepsUnsigned D s s')
      (instr : ∀ k, (∀ ctx a i x, tx.instr = .deposit ctx a i x → ctx.escrow ≠ k) ∧
        (∀ ctx n, tx.instr = .claim ctx n → ctx.escrow ≠ k) ∧
        ∀ ctx, tx.instr = .refund ctx → ctx.escrow ≠ k)

variable {D}

/-- A transaction that succeeds is signed by those who can, and has its effect. -/
theorem submit_ok {tx : Transaction Key} {u : Unit} {s s' : Chain Key}
    (h : submit D tx s = .ok u s') :
    (∀ k ∈ tx.signers, D.canSign k = true) ∧ Effect D s tx s' := by
  unfold submit at h
  obtain ⟨_, _, hr, h⟩ := bind_ok.1 (atomically_ok.1 h)
  -- every signer of the transaction can sign
  obtain ⟨hsign, rfl⟩ := require_ok.1 hr
  refine ⟨hsign, ?_⟩
  cases hinstr : tx.instr with
  | deposit ctx amount serviceId expirySlot =>
    rw [hinstr] at h
    exact .deposit ctx amount serviceId expirySlot hinstr (deposit_ok h)
  | claim ctx n =>
    rw [hinstr] at h
    obtain ⟨e, hspec⟩ := claim_ok h
    exact .claim ctx n e hinstr hspec
  | refund ctx =>
    rw [hinstr] at h
    obtain ⟨e, hspec⟩ := refund_ok h
    exact .refund ctx e hinstr hspec
  -- the token program moves what its authority signed for, and no escrow
  | splTransfer src mint dst authority amount =>
    rw [hinstr] at h
    obtain ⟨_, _, hr, h⟩ := bind_ok.1 h
    obtain ⟨hauth, rfl⟩ := require_ok.1 hr
    have hcons := transferChecked_conserves h
    exact .token hcons.escrows hcons.total (hcons.keeps.unsigned (hsign _ hauth))
      (fun k => by simp [hinstr])
  | splCreateAta authority mint =>
    rw [hinstr] at h
    have hinit := initIfNeeded_ok h
    exact .token hinit.escrows hinit.total
      (fun k a ha _ => ⟨a, hinit.keeps k a ha, rfl, rfl, le_rfl⟩) (fun k => by simp [hinstr])
  | splClose account authority =>
    rw [hinstr] at h
    obtain ⟨_, _, hr, h⟩ := bind_ok.1 h
    obtain ⟨hauth, rfl⟩ := require_ok.1 hr
    have hcons := closeAccount_conserves h
    exact .token hcons.escrows hcons.total (hcons.keeps.unsigned (hsign _ hauth))
      (fun k => by simp [hinstr])

/-- A transaction either fails and changes nothing or has one of the effects. -/
theorem exec_cases (s : Chain Key) (tx : Transaction Key) :
    (¬ Succeeds D s tx ∧ exec D s tx = s) ∨
      (Succeeds D s tx ∧ (∀ k ∈ tx.signers, D.canSign k = true) ∧
        Effect D s tx (exec D s tx)) := by
  unfold Succeeds exec
  cases hres : submit D tx s with
  | ok u s' =>
    right
    obtain ⟨hsign, heff⟩ := submit_ok hres
    exact ⟨rfl, hsign, heff⟩
  | error e s' =>
    left
    have hs' : s' = s := atomically_error hres
    exact ⟨by simp, hs'⟩

/-- A transaction that fails changes nothing. -/
theorem exec_of_not_succeeds {s : Chain Key} {tx : Transaction Key} (h : ¬ Succeeds D s tx) :
    exec D s tx = s := by
  rcases exec_cases (D := D) s tx with ⟨-, hs⟩ | ⟨hok, -⟩
  · exact hs
  · exact absurd hok h

/-! ## Conservation -/

/-- No transaction makes or burns a token. -/
theorem totalOf_exec (m : Key) (s : Chain Key) (tx : Transaction Key) :
    totalOf m (exec D s tx) = totalOf m s := by
  rcases exec_cases (D := D) s tx with ⟨-, hs⟩ | ⟨-, -, heff⟩
  · rw [hs]
  · cases heff with
    | deposit ctx amount serviceId expirySlot _ spec => exact spec.total m
    | claim ctx n e _ spec => exact spec.total m
    | refund ctx e _ spec => exact spec.total m
    | token _ total _ _ => exact total m

/-- So no run does. -/
theorem totalOf_run (m : Key) (s : Chain Key) (txs : List (Transaction Key)) :
    totalOf m (run (exec D) s txs) = totalOf m s :=
  run_invariant (I := fun t => totalOf m t = totalOf m s)
    (fun t tx ht => (totalOf_exec m t tx).trans ht) rfl txs

/-! ## The invariant -/

variable (D)

/-- A live escrow: at its own address, by an agent that can sign, with a funded vault. -/
structure LiveEscrow (s : Chain Key) (k : Key) (e : Escrow Key) : Prop where
  address : k = D.escrow e.agent e.serviceId
  agent : D.canSign e.agent = true
  mint : e.mint = D.usdcMint
  vault : ∃ v, s.tokens.lookup (D.ata k D.usdcMint) = some v ∧ v.mint = D.usdcMint ∧
    v.owner = k ∧ e.amount ≤ v.amount

/-- Every escrow account is live. -/
def Inv (s : Chain Key) : Prop := ∀ k e, s.escrows.lookup k = some e → LiveEscrow D s k e

variable {D}

/-- A live escrow lives on beside what its authority did not sign. -/
theorem LiveEscrow.of_keepsUnsigned {s s' : Chain Key} {k : Key} {e : Escrow Key}
    (h : LiveEscrow D s k e) (hkeeps : KeepsUnsigned D s s') : LiveEscrow D s' k e := by
  obtain ⟨v, hv, hvm, hvo, hva⟩ := h.vault
  have howner : D.canSign v.owner = false := by
    rw [hvo, h.address]
    exact D.escrow_canSign _ _
  obtain ⟨v', hv', hvm', hvo', hva'⟩ := hkeeps _ v hv howner
  exact ⟨h.address, h.agent, h.mint, v', hv', hvm'.trans hvm, hvo'.trans hvo, hva.trans hva'⟩

/-- Closing one escrow leaves every other one live. -/
theorem LiveEscrow.of_keepsExcept {s s' : Chain Key} {k k' : Key} {e : Escrow Key}
    (h : LiveEscrow D s k e) (hkeeps : KeepsExcept k' s s') (hne : k ≠ k') :
    LiveEscrow D s' k e := by
  obtain ⟨v, hv, hvm, hvo, hva⟩ := h.vault
  obtain ⟨v', hv', hvm', hvo', hva'⟩ := hkeeps _ v hv (hvo ▸ hne)
  exact ⟨h.address, h.agent, h.mint, v', hv', hvm'.trans hvm, hvo'.trans hvo, hva.trans hva'⟩

/-- Closing one escrow leaves the others. -/
theorem inv_of_closed {s s' : Chain Key} {k' : Key} (hinv : Inv D s)
    (hclosed : s'.escrows = s.escrows.erase k') (hkeeps : KeepsExcept k' s s') : Inv D s' := by
  intro k e he
  rw [hclosed, Table.lookup_erase_eq] at he
  by_cases hk : k = k'
  · simp [hk] at he
  · rw [if_neg hk] at he
    exact (hinv k e he).of_keepsExcept hkeeps hk

/-- What one transaction preserves. -/
theorem inv_exec (s : Chain Key) (tx : Transaction Key) (hinv : Inv D s) :
    Inv D (exec D s tx) := by
  rcases exec_cases (D := D) s tx with ⟨-, hs⟩ | ⟨-, hsign, heff⟩
  · rw [hs]
    exact hinv
  · cases heff with
    | deposit ctx amount serviceId expirySlot _ spec =>
      have hagent := hsign _ spec.signed
      intro k e he
      rw [spec.record, Table.lookup_insert_eq] at he
      by_cases hk : k = ctx.escrow
      · rw [if_pos hk] at he
        obtain rfl := Option.some.inj he
        subst hk
        -- an address of the program signs nothing, so it is not the agent
        have hne : ctx.agent ≠ ctx.escrow := by
          rw [spec.escrow]
          exact D.ne_escrow_of_canSign hagent _ _
        obtain ⟨v, hv, hvm, hvo, hva⟩ := spec.funded hne
        rw [spec.vault, spec.mint] at hv
        exact ⟨spec.escrow, hagent, spec.mint, v, hv, hvm, hvo, by
          simp only [Deposit.record]
          omega⟩
      · rw [if_neg hk] at he
        exact (hinv k e he).of_keepsUnsigned (spec.keeps.unsigned hagent)
    | claim ctx n e _ spec => exact inv_of_closed hinv spec.closed spec.keeps
    | refund ctx e _ spec => exact inv_of_closed hinv spec.closed spec.keeps
    | token escrows _ keeps _ =>
      intro k e he
      rw [escrows] at he
      exact (hinv k e he).of_keepsUnsigned keeps

/-- Before the first deposit there is nothing to keep. -/
theorem inv_genesis (tokens : Table Key (TokenAccount Key)) : Inv D ⟨tokens, ∅⟩ := by
  intro k e he
  simp at he

/-- What a run preserves. -/
theorem inv_run {s : Chain Key} (hinv : Inv D s) (txs : List (Transaction Key)) :
    Inv D (run (exec D) s txs) :=
  run_invariant inv_exec hinv txs

/-! ## One address through time -/

/-- The transaction is a deposit that makes an escrow at `k`. -/
def Transaction.DepositsAt (tx : Transaction Key) (k : Key) : Prop :=
  match tx.instr with
  | .deposit ctx _ _ _ => ctx.escrow = k
  | _ => False

/-- The transaction is a claim or a refund on the escrow at `k`. -/
def Transaction.ClosesAt (tx : Transaction Key) (k : Key) : Prop :=
  match tx.instr with
  | .claim ctx _ => ctx.escrow = k
  | .refund ctx => ctx.escrow = k
  | _ => False

/-- Erasing the record at `k'` shows at `k'` and nowhere else. -/
private theorem lookup_of_closed {s s' : Chain Key} {tx : Transaction Key} {k k' : Key}
    {e : Escrow Key} (hok : Succeeds D s tx) (hrecord : s.escrows.lookup k' = some e)
    (hclosed : s'.escrows = s.escrows.erase k') (hcloses : tx.ClosesAt k ↔ k' = k)
    (hdeposits : ¬ tx.DepositsAt k) :
    (Succeeds D s tx ∧ tx.ClosesAt k ∧ (∃ e, s.escrows.lookup k = some e) ∧
      s'.escrows.lookup k = none) ∨
    (s'.escrows.lookup k = s.escrows.lookup k ∧
      (Succeeds D s tx → ¬ tx.DepositsAt k ∧ ¬ tx.ClosesAt k)) := by
  by_cases hk : k' = k
  · subst hk
    refine Or.inl ⟨hok, hcloses.2 rfl, ⟨e, hrecord⟩, ?_⟩
    rw [hclosed, AList.lookup_erase]
  · refine Or.inr ⟨?_, fun _ => ⟨hdeposits, fun h => hk (hcloses.1 h)⟩⟩
    rw [hclosed, AList.lookup_erase_ne (Ne.symm hk)]

/-- The record at `k` changes in two ways only: a successful deposit writes it where there was
none, and a successful claim or refund erases it. -/
theorem lookup_exec (s : Chain Key) (tx : Transaction Key) (k : Key) :
    (Succeeds D s tx ∧ tx.DepositsAt k ∧ s.escrows.lookup k = none) ∨
    (Succeeds D s tx ∧ tx.ClosesAt k ∧ (∃ e, s.escrows.lookup k = some e) ∧
      (exec D s tx).escrows.lookup k = none) ∨
    ((exec D s tx).escrows.lookup k = s.escrows.lookup k ∧
      (Succeeds D s tx → ¬ tx.DepositsAt k ∧ ¬ tx.ClosesAt k)) := by
  rcases exec_cases (D := D) s tx with ⟨hfail, hs⟩ | ⟨hok, -, heff⟩
  · exact Or.inr (Or.inr ⟨by rw [hs], fun h => absurd h hfail⟩)
  · cases heff with
    | deposit ctx amount serviceId expirySlot instr spec =>
      by_cases hk : ctx.escrow = k
      · exact Or.inl ⟨hok, by simpa [Transaction.DepositsAt, instr] using hk, hk ▸ spec.fresh⟩
      · refine Or.inr (Or.inr ⟨?_, fun _ => ?_⟩)
        · rw [spec.record, AList.lookup_insert_ne (Ne.symm hk)]
        · simpa [Transaction.DepositsAt, Transaction.ClosesAt, instr] using hk
    | claim ctx n e instr spec =>
      exact Or.inr (lookup_of_closed hok spec.record spec.closed
        (by simp [Transaction.ClosesAt, instr]) (by simp [Transaction.DepositsAt, instr]))
    | refund ctx e instr spec =>
      exact Or.inr (lookup_of_closed hok spec.record spec.closed
        (by simp [Transaction.ClosesAt, instr]) (by simp [Transaction.DepositsAt, instr]))
    | token escrows _ _ instr =>
      refine Or.inr (Or.inr ⟨by rw [escrows], fun _ => ?_⟩)
      obtain ⟨hd, hc, hr⟩ := instr k
      cases hi : tx.instr <;>
        simp_all [Transaction.DepositsAt, Transaction.ClosesAt]

variable (D)

/-- No deposit at `k` succeeds at this step. -/
def NoDeposit (k : Key) (s : Chain Key) (tx : Transaction Key) : Prop :=
  ¬ (tx.DepositsAt k ∧ Succeeds D s tx)

/-- No claim or refund on `k` succeeds at this step. -/
def NoClose (k : Key) (s : Chain Key) (tx : Transaction Key) : Prop :=
  ¬ (tx.ClosesAt k ∧ Succeeds D s tx)

variable {D}

/-- While nobody deposits at `k`, a missing record stays missing. -/
theorem lookup_none_run {k : Key} {s : Chain Key} {txs : List (Transaction Key)}
    (h : s.escrows.lookup k = none) (hno : AllSteps (exec D) (NoDeposit D k) s txs) :
    (run (exec D) s txs).escrows.lookup k = none := by
  refine run_invariant_of_allSteps (I := fun s => s.escrows.lookup k = none) ?_ h hno
  intro s tx hs hstep
  rcases lookup_exec (D := D) s tx k with ⟨hok, hd, -⟩ | ⟨-, -, -, hnone⟩ | ⟨hsame, -⟩
  · exact absurd ⟨hd, hok⟩ hstep
  · exact hnone
  · rw [hsame, hs]

/-- One instance: from a state with the record `e` at `k`, while nobody deposits there again,
a record found at `k` later is still `e`, and no claim or refund of it succeeded before. -/
theorem record_of_live {k : Key} {e e' : Escrow Key} {s : Chain Key}
    {txs : List (Transaction Key)} (h : s.escrows.lookup k = some e)
    (hno : AllSteps (exec D) (NoDeposit D k) s txs)
    (hend : (run (exec D) s txs).escrows.lookup k = some e') :
    e' = e ∧ AllSteps (exec D) (NoClose D k) s txs := by
  induction txs generalizing s with
  | nil =>
    rw [run_nil, h] at hend
    exact ⟨(Option.some.inj hend).symm, trivial⟩
  | cons tx txs ih =>
    rcases lookup_exec (D := D) s tx k with ⟨hok, hd, -⟩ | ⟨-, -, -, hnone⟩ | ⟨hsame, hneither⟩
    · exact absurd ⟨hd, hok⟩ hno.1
    · -- a close here would leave nothing for the end of the run to find
      have hgone := lookup_none_run hnone hno.2
      rw [run_cons, hgone] at hend
      exact absurd hend (by simp)
    · obtain ⟨he, hall⟩ := ih (hsame.trans h) hno.2 hend
      exact ⟨he, fun ⟨hc, hok⟩ => (hneither hok).2 hc, hall⟩

/-! ## Settlement -/

variable (D)

/-- What a claim or refund that settles the escrow `e` at `k` does: the escrow account and its
vault are gone; before expiry the provider received the claimed amount and the agent the rest
of the vault, from expiry on the agent received the whole vault and nobody else anything. -/
def Settles (k : Key) (e : Escrow Key) (tx : Transaction Key) (s s' : Chain Key) : Prop :=
  let vault := D.ata k D.usdcMint
  let agent := D.ata e.agent D.usdcMint
  let provider := D.ata e.provider D.usdcMint
  e.amount ≤ balance s vault ∧ s'.escrows.lookup k = none ∧ s'.tokens.lookup vault = none ∧
  match tx.instr with
  | .claim _ n =>
    tx.slot < e.expirySlot ∧ 0 < n ∧ n ≤ e.amount ∧
    balance s' provider = balance s provider + n ∧
    balance s' agent = balance s agent + (balance s vault - n) ∧
    ∀ a, a ≠ vault → a ≠ provider → a ≠ agent → s'.tokens.lookup a = s.tokens.lookup a
  | .refund _ =>
    e.expirySlot ≤ tx.slot ∧
    balance s' agent = balance s agent + balance s vault ∧
    ∀ a, a ≠ vault → a ≠ agent → s'.tokens.lookup a = s.tokens.lookup a
  | _ => False

variable {D}

/-- A live escrow holds at least what it owes. -/
theorem LiveEscrow.amount_le_balance {s : Chain Key} {k : Key} {e : Escrow Key}
    (h : LiveEscrow D s k e) : e.amount ≤ balance s (D.ata k D.usdcMint) := by
  obtain ⟨v, hv, -, -, hva⟩ := h.vault
  rw [balance_of_lookup hv]
  exact hva

/-- A successful claim or refund on `k` settles the record found there. -/
theorem settles_of_succeeds {s : Chain Key} {tx : Transaction Key} {k : Key} (hinv : Inv D s)
    (hok : Succeeds D s tx) (hclose : tx.ClosesAt k) :
    ∃ e, s.escrows.lookup k = some e ∧ Settles D k e tx s (exec D s tx) := by
  rcases exec_cases (D := D) s tx with ⟨hfail, -⟩ | ⟨-, hsign, heff⟩
  · exact absurd hok hfail
  · cases heff with
    | deposit ctx amount serviceId expirySlot instr spec =>
      simp [Transaction.ClosesAt, instr] at hclose
    | claim ctx n e instr spec =>
      obtain rfl : ctx.escrow = k := by simpa [Transaction.ClosesAt, instr] using hclose
      have hlive := hinv _ e spec.record
      have hgone := spec.vaultGone
      obtain ⟨hprov, hagent, hother⟩ := spec.payouts (hsign _ spec.signed) hlive.agent
      rw [hlive.mint] at hgone hprov hagent hother
      refine ⟨e, spec.record, hlive.amount_le_balance, ?_, hgone, ?_⟩
      · rw [spec.closed, AList.lookup_erase]
      · simp only [instr]
        exact ⟨spec.open_, spec.positive, spec.bounded, hprov, hagent, hother⟩
    | refund ctx e instr spec =>
      obtain rfl : ctx.escrow = k := by simpa [Transaction.ClosesAt, instr] using hclose
      have hlive := hinv _ e spec.record
      have hgone := spec.vaultGone
      obtain ⟨hagent, hother⟩ := spec.payouts hlive.agent
      rw [hlive.mint] at hgone hagent hother
      refine ⟨e, spec.record, hlive.amount_le_balance, ?_, hgone, ?_⟩
      · rw [spec.closed, AList.lookup_erase]
      · simp only [instr]
        exact ⟨spec.expired, hagent, hother⟩
    -- the token program closes no escrow
    | token _ _ _ instr =>
      obtain ⟨-, hc, hr⟩ := instr k
      cases hi : tx.instr <;> simp_all [Transaction.ClosesAt]

/-- A successful deposit leaves its record at its address. -/
theorem record_of_deposit {s : Chain Key} {tx : Transaction Key} {ctx : Deposit Key}
    {amount : ℕ} {serviceId : ServiceId} {expirySlot : ℕ} (hok : Succeeds D s tx)
    (hinstr : tx.instr = .deposit ctx amount serviceId expirySlot) :
    (exec D s tx).escrows.lookup ctx.escrow = some (ctx.record amount serviceId expirySlot) := by
  rcases exec_cases (D := D) s tx with ⟨hfail, -⟩ | ⟨-, -, heff⟩
  · exact absurd hok hfail
  · cases heff with
    | deposit ctx' amount' serviceId' expirySlot' instr spec =>
      rw [hinstr] at instr
      cases instr
      rw [spec.record, AList.lookup_insert]
    | claim ctx' n e instr spec => simp [hinstr] at instr
    | refund ctx' e instr spec => simp [hinstr] at instr
    | token _ _ _ instr => exact absurd rfl ((instr ctx.escrow).1 ctx _ _ _ hinstr)

/-- A record that is there was written by a deposit, with no later deposit at its address. -/
theorem deposit_of_live {tokens : Table Key (TokenAccount Key)} {k : Key} {e : Escrow Key}
    (txs : List (Transaction Key))
    (h : (run (exec D) ⟨tokens, ∅⟩ txs).escrows.lookup k = some e) :
    ∃ pre d mid, txs = pre ++ d :: mid ∧ d.DepositsAt k ∧
      Succeeds D (run (exec D) ⟨tokens, ∅⟩ pre) d ∧
      AllSteps (exec D) (NoDeposit D k) (run (exec D) ⟨tokens, ∅⟩ (pre ++ [d])) mid := by
  induction txs using List.reverseRecOn generalizing e with
  | nil => simp at h
  | append_singleton txs tx ih =>
    rw [run_append, run_cons, run_nil] at h
    rcases lookup_exec (D := D) (run (exec D) ⟨tokens, ∅⟩ txs) tx k with
      ⟨hok, hd, -⟩ | ⟨-, -, -, hnone⟩ | ⟨hsame, hneither⟩
    · exact ⟨txs, tx, [], rfl, hd, hok, trivial⟩
    · rw [hnone] at h
      exact absurd h (by simp)
    · rw [hsame] at h
      obtain ⟨pre, d, mid, rfl, hd, hok, hno⟩ := ih h
      refine ⟨pre, d, mid ++ [tx], by simp, hd, hok, allSteps_append.2 ⟨hno, ?_, trivial⟩⟩
      rw [← run_append, List.append_assoc, List.singleton_append]
      exact fun ⟨hdep, hs⟩ => (hneither hs).1 hdep

/-- The life cycle of every escrow, over every sequence of transactions: the USDC units are
conserved, a transaction that fails changes nothing, every successful claim or refund belongs
to an instance (a successful deposit at its address, with none after it), and a claim or
refund that succeeds on an instance is the first that does and settles the deposited terms. -/
theorem escrow_lifeCycle (D : Addresses Key) (tokens : Table Key (TokenAccount Key))
    (txs : List (Transaction Key)) :
    totalOf D.usdcMint (run (exec D) ⟨tokens, ∅⟩ txs) = totalOf D.usdcMint ⟨tokens, ∅⟩ ∧
    (∀ pre tx post, txs = pre ++ tx :: post →
      ¬ Succeeds D (run (exec D) ⟨tokens, ∅⟩ pre) tx →
      exec D (run (exec D) ⟨tokens, ∅⟩ pre) tx = run (exec D) ⟨tokens, ∅⟩ pre) ∧
    (∀ pre c post k, txs = pre ++ c :: post → c.ClosesAt k →
      Succeeds D (run (exec D) ⟨tokens, ∅⟩ pre) c →
      ∃ pre' d mid, pre = pre' ++ d :: mid ∧ d.DepositsAt k ∧
        Succeeds D (run (exec D) ⟨tokens, ∅⟩ pre') d ∧
        AllSteps (exec D) (NoDeposit D k) (run (exec D) ⟨tokens, ∅⟩ (pre' ++ [d])) mid) ∧
    ∀ pre d mid c post ctx amount serviceId expirySlot,
      txs = pre ++ d :: (mid ++ c :: post) →
      d.instr = .deposit ctx amount serviceId expirySlot →
      Succeeds D (run (exec D) ⟨tokens, ∅⟩ pre) d →
      AllSteps (exec D) (NoDeposit D ctx.escrow) (run (exec D) ⟨tokens, ∅⟩ (pre ++ [d])) mid →
      c.ClosesAt ctx.escrow →
      Succeeds D (run (exec D) ⟨tokens, ∅⟩ (pre ++ d :: mid)) c →
      AllSteps (exec D) (NoClose D ctx.escrow) (run (exec D) ⟨tokens, ∅⟩ (pre ++ [d])) mid ∧
      Settles D ctx.escrow (ctx.record amount serviceId expirySlot) c
        (run (exec D) ⟨tokens, ∅⟩ (pre ++ d :: mid))
        (exec D (run (exec D) ⟨tokens, ∅⟩ (pre ++ d :: mid)) c) := by
  refine ⟨totalOf_run _ _ txs, fun _ _ _ _ hfail => exec_of_not_succeeds hfail, ?_, ?_⟩
  -- a close finds a record, and a record was deposited
  · intro pre c post k _ hclose hok
    obtain ⟨e, he, -⟩ := settles_of_succeeds (inv_run (inv_genesis tokens) pre) hok hclose
    exact deposit_of_live pre he
  intro pre d mid c post ctx amount serviceId expirySlot _ hinstr hd hno hclose hc
  -- the record that the deposit wrote is the one that the close finds
  have hlive : (run (exec D) ⟨tokens, ∅⟩ (pre ++ [d])).escrows.lookup ctx.escrow =
      some (ctx.record amount serviceId expirySlot) := by
    rw [run_append, run_cons, run_nil]
    exact record_of_deposit hd hinstr
  have hsplit : run (exec D) ⟨tokens, ∅⟩ (pre ++ d :: mid) =
      run (exec D) (run (exec D) ⟨tokens, ∅⟩ (pre ++ [d])) mid := by
    rw [← run_append, List.append_assoc, List.singleton_append]
  obtain ⟨e, he, hsettles⟩ := settles_of_succeeds (inv_run (inv_genesis tokens) _) hc hclose
  rw [hsplit] at he
  obtain ⟨rfl, hnoClose⟩ := record_of_live hlive hno he
  exact ⟨hnoClose, hsettles⟩

end

/-! ## A concrete address space -/

/-- Addresses as the free terms of the two derivations. -/
inductive FreeKey
  | wallet (n : ℕ)
  | usdcMint
  | escrow (agent : FreeKey) (serviceId : ServiceId)
  | ata (authority mint : FreeKey)
deriving DecidableEq

/-- In the free address space only wallets sign. -/
def freeAddresses : Addresses FreeKey where
  default := .wallet 0
  usdcMint := .usdcMint
  escrow := .escrow
  ata := .ata
  canSign
    | .wallet _ => true
    | _ => false
  escrow_canSign _ _ := rfl

/-- An agent with 100 units. -/
def sampleTokens : Table FreeKey (TokenAccount FreeKey) :=
  AList.singleton (.ata (.wallet 1) .usdcMint) ⟨.usdcMint, .wallet 1, 100⟩

/-- The accounts of a deposit by wallet 1 for wallet 2. -/
def sampleAccounts : Deposit FreeKey :=
  { agent := .wallet 1, provider := .wallet 2, mint := .usdcMint
    escrow := .escrow (.wallet 1) (Vector.replicate 32 0)
    agentTokenAccount := .ata (.wallet 1) .usdcMint
    vault := .ata (.escrow (.wallet 1) (Vector.replicate 32 0)) .usdcMint }

/-- Wallet 1 locks 60 units until slot 100. -/
def sampleDeposit : Transaction FreeKey :=
  { slot := 10, signers := [.wallet 1]
    instr := .deposit sampleAccounts 60 (Vector.replicate 32 0) 100 }

/-- Five more units are sent straight to the vault. -/
def sampleDust : Transaction FreeKey :=
  { slot := 20, signers := [.wallet 1]
    instr := .splTransfer (.ata (.wallet 1) .usdcMint) .usdcMint sampleAccounts.vault
      (.wallet 1) 5 }

/-- In the last slot before expiry wallet 2 claims 20 units. -/
def sampleClaim : Transaction FreeKey :=
  { slot := 99, signers := [.wallet 2]
    instr := .claim
      { escrow := sampleAccounts.escrow, agent := .wallet 1, provider := .wallet 2
        mint := .usdcMint, vault := sampleAccounts.vault
        providerTokenAccount := .ata (.wallet 2) .usdcMint
        agentTokenAccount := .ata (.wallet 1) .usdcMint } 20 }

/-- The sample claim settles the sample deposit, dust included. -/
theorem escrow_lifeCycle_sample :
    Succeeds freeAddresses ⟨sampleTokens, ∅⟩ sampleDeposit ∧
    Succeeds freeAddresses
      (run (exec freeAddresses) ⟨sampleTokens, ∅⟩ [sampleDeposit, sampleDust]) sampleClaim ∧
    Settles freeAddresses sampleAccounts.escrow
      (sampleAccounts.record 60 (Vector.replicate 32 0) 100) sampleClaim
      (run (exec freeAddresses) ⟨sampleTokens, ∅⟩ [sampleDeposit, sampleDust])
      (run (exec freeAddresses) ⟨sampleTokens, ∅⟩ [sampleDeposit, sampleDust, sampleClaim]) := by
  have hd : Succeeds freeAddresses ⟨sampleTokens, ∅⟩ sampleDeposit := by decide
  have hc : Succeeds freeAddresses
      (run (exec freeAddresses) ⟨sampleTokens, ∅⟩ [sampleDeposit, sampleDust]) sampleClaim := by
    decide
  have hlife := escrow_lifeCycle freeAddresses sampleTokens
    [sampleDeposit, sampleDust, sampleClaim]
  exact ⟨hd, hc, (hlife.2.2.2 [] sampleDeposit [sampleDust] sampleClaim [] sampleAccounts 60
    (Vector.replicate 32 0) 100 rfl rfl hd ⟨fun h => h.1, trivial⟩ rfl hc).2⟩

end Solvela.EscrowProgram
