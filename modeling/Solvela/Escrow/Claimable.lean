import Solvela.Escrow.LifeCycle

/-!
# An escrow that its provider can claim

A deposit that succeeded leaves a live escrow, and it stays one until its provider claims it or
its expiry slot is reached (`live_of_deposit`). While it is live, a claim of any part of it before
expiry succeeds, as long as the token accounts of the provider and of the agent are missing or
still theirs (`claimable_of_live`).
-/

namespace Solvela.EscrowProgram

open Solvela.Lib
open Solvela.Lib.Txn

section
variable {Key : Type} [DecidableEq Key]

/-! ## The programs run through -/

/-- `init_if_needed` passes on the associated token account: it is missing, or it has the mint and
the owner it was created with. -/
def Usable (D : Addresses Key) (s : Chain Key) (authority mint : Key) : Prop :=
  ∀ a, s.tokens.lookup (D.ata authority mint) = some a → a.mint = mint ∧ a.owner = authority

theorem tokenAccount_of_lookup {k : Key} {s : Chain Key} {a : TokenAccount Key}
    (ha : s.tokens.lookup k = some a) : tokenAccount k s = .ok a s :=
  bind_ok.2 ⟨s, s, get_ok.2 ⟨rfl, rfl⟩, okOr_ok.2 ⟨ha, rfl⟩⟩

/-- An account of its own owner and mint passes the check. -/
theorem associatedToken_of_lookup {D : Addresses Key} {authority mint : Key} {s : Chain Key}
    {a : TokenAccount Key} (ha : s.tokens.lookup (D.ata authority mint) = some a)
    (hmint : a.mint = mint) (howner : a.owner = authority) :
    associatedToken D (D.ata authority mint) authority mint s = .ok () s := by
  unfold associatedToken
  apply bind_ok.2
  refine ⟨s, s, get_ok.2 ⟨rfl, rfl⟩, bind_ok.2 ⟨a, s, okOr_ok.2 ⟨ha, rfl⟩, ?_⟩⟩
  refine bind_ok.2 ⟨(), s, require_ok.2 ⟨hmint, rfl⟩, ?_⟩
  exact bind_ok.2 ⟨(), s, require_ok.2 ⟨howner, rfl⟩, require_ok.2 ⟨rfl, rfl⟩⟩

/-- A usable account is found or created. -/
theorem initIfNeeded_of_usable {D : Addresses Key} {authority mint : Key} {s : Chain Key}
    (h : Usable D s authority mint) :
    ∃ s', initIfNeeded D (D.ata authority mint) authority mint s = .ok () s' := by
  unfold initIfNeeded
  cases ha : s.tokens.lookup (D.ata authority mint) with
  | some a =>
    refine ⟨s, bind_ok.2 ⟨s, s, get_ok.2 ⟨rfl, rfl⟩, ?_⟩⟩
    simp only [ha]
    exact associatedToken_of_lookup ha (h a ha).1 (h a ha).2
  | none =>
    let created : TokenAccount Key := { mint := mint, owner := authority, amount := 0 }
    let s' : Chain Key := { s with tokens := s.tokens.insert (D.ata authority mint) created }
    refine ⟨s', bind_ok.2 ⟨s, s, get_ok.2 ⟨rfl, rfl⟩, ?_⟩⟩
    simp only [ha]
    exact bind_ok.2 ⟨(), s, require_ok.2 ⟨rfl, rfl⟩, modify_ok.2 rfl⟩

/-- Two accounts of a mint hold at most all of its units. -/
theorem add_le_totalOf {mint k k' : Key} {s : Chain Key} {a b : TokenAccount Key} (hne : k ≠ k')
    (ha : s.tokens.lookup k = some a) (hb : s.tokens.lookup k' = some b) (ham : a.mint = mint)
    (hbm : b.mint = mint) : a.amount + b.amount ≤ totalOf mint s := by
  have hsum := Table.sum_le_sumBy
    (fun _ (x : TokenAccount Key) => if x.mint = mint then x.amount else 0) s.tokens {k, k'}
  rw [Finset.sum_pair hne, ha, hb] at hsum
  simpa [totalOf, ham, hbm] using hsum

/-- A transfer out of an account that holds enough runs through. -/
theorem transferChecked_of_enough {src mint dst authority : Key} {n : ℕ} {s : Chain Key}
    {a b : TokenAccount Key} (hne : src ≠ dst) (ha : s.tokens.lookup src = some a)
    (hb : s.tokens.lookup dst = some b) (ham : a.mint = mint) (hbm : b.mint = mint)
    (howner : a.owner = authority) (hn : n ≤ a.amount) (htotal : totalOf mint s ≤ u64Max) :
    ∃ s', transferChecked src mint dst authority n s = .ok () s' ∧
      s'.tokens.lookup src = some { a with amount := a.amount - n } ∧
      s'.tokens.lookup dst = some { b with amount := b.amount + n } := by
  have hfits : b.amount + n ≤ u64Max := by
    have hpair := add_le_totalOf hne ha hb ham hbm
    omega
  have hsame : a.mint = b.mint ∧ a.mint = mint := ⟨ham.trans hbm.symm, ham⟩
  let debited := s.tokens.insert src { a with amount := a.amount - n }
  let s' : Chain Key :=
    { s with tokens := debited.insert dst { b with amount := b.amount + n } }
  refine ⟨s', ?_, ?_, ?_⟩
  · unfold transferChecked
    refine bind_ok.2 ⟨a, s, tokenAccount_of_lookup ha, ?_⟩
    refine bind_ok.2 ⟨b, s, tokenAccount_of_lookup hb, ?_⟩
    refine bind_ok.2 ⟨(), s, require_ok.2 ⟨hn, rfl⟩, ?_⟩
    refine bind_ok.2 ⟨(), s, require_ok.2 ⟨hsame, rfl⟩, ?_⟩
    refine bind_ok.2 ⟨(), s, require_ok.2 ⟨howner, rfl⟩, ?_⟩
    rw [if_neg hne]
    refine bind_ok.2 ⟨(), s, require_ok.2 ⟨hfits, rfl⟩, ?_⟩
    exact bind_ok.2 ⟨(), _, modify_ok.2 rfl, modify_ok.2 rfl⟩
  · simp [s', debited, hne]
  · simp [s']

/-- So does one that is made only when there is something to move. -/
theorem transferPositive_of_enough {src mint dst authority : Key} {n : ℕ} {s : Chain Key}
    {a b : TokenAccount Key} (hne : src ≠ dst) (ha : s.tokens.lookup src = some a)
    (hb : s.tokens.lookup dst = some b) (ham : a.mint = mint) (hbm : b.mint = mint)
    (howner : a.owner = authority) (hn : n ≤ a.amount) (htotal : totalOf mint s ≤ u64Max) :
    ∃ s', transferPositive src mint dst authority n s = .ok () s' ∧
      s'.tokens.lookup src = some { a with amount := a.amount - n } ∧
      s'.tokens.lookup dst = some { b with amount := b.amount + n } := by
  unfold transferPositive
  by_cases hpos : 0 < n
  · rw [if_pos hpos]
    exact transferChecked_of_enough hne ha hb ham hbm howner hn htotal
  · rw [if_neg hpos]
    have hzero : n = 0 := by omega
    exact ⟨s, pure_ok.2 ⟨rfl, rfl⟩, by rw [hzero]; exact ha, by rw [hzero]; exact hb⟩

/-- An emptied escrow is closed. -/
theorem closeEscrow_of_empty {escrow vault : Key} {s : Chain Key} {a : TokenAccount Key}
    (ha : s.tokens.lookup vault = some a) (hempty : a.amount = 0) (howner : a.owner = escrow) :
    ∃ s', closeEscrow escrow vault s = .ok () s' := by
  have hclose : closeAccount vault escrow s =
      .ok () { s with tokens := s.tokens.erase vault } := by
    unfold closeAccount
    refine bind_ok.2 ⟨a, s, tokenAccount_of_lookup ha, ?_⟩
    refine bind_ok.2 ⟨(), s, require_ok.2 ⟨hempty, rfl⟩, ?_⟩
    exact bind_ok.2 ⟨(), s, require_ok.2 ⟨howner, rfl⟩, modify_ok.2 rfl⟩
  unfold closeEscrow
  rw [bind_of_ok hclose]
  exact ⟨_, modify_ok.2 rfl⟩

/-! ## The claim of a live escrow -/

/-- The escrow owns its vault, so no usable account of a key that can sign is at that address. -/
theorem LiveEscrow.vault_ne_ata {D : Addresses Key} {s : Chain Key} {k authority : Key}
    {e : Escrow Key} (hlive : LiveEscrow D s k e) (hcanSign : D.canSign authority = true)
    (husable : Usable D s authority e.mint) : D.ata k e.mint ≠ D.ata authority e.mint := by
  intro hsame
  obtain ⟨v, hv, -, hvo, -⟩ := hlive.vault
  rw [← hlive.mint, hsame] at hv
  have howner : authority = k := (husable v hv).2.symm.trans hvo
  rw [hlive.address] at howner
  exact D.ne_escrow_of_canSign hcanSign _ _ howner

/-- The accounts that the provider of the escrow at `k` claims it with. -/
def Escrow.claimAccounts (D : Addresses Key) (k : Key) (e : Escrow Key) : Claim Key where
  escrow := k
  agent := e.agent
  provider := e.provider
  mint := e.mint
  vault := D.ata k e.mint
  providerTokenAccount := D.ata e.provider e.mint
  agentTokenAccount := D.ata e.agent e.mint

/-- The provider's claim of `n` units. -/
def Escrow.claimTx (D : Addresses Key) (k : Key) (e : Escrow Key) (slot n : ℕ) :
    Transaction Key where
  slot := slot
  signers := [e.provider]
  instr := .claim (e.claimAccounts D k) n

/-- The provider can claim any part of the escrow at `k` before it expires, and is paid it. -/
def Claimable (D : Addresses Key) (s : Chain Key) (k : Key) (e : Escrow Key) : Prop :=
  ∀ slot n, slot < e.expirySlot → 0 < n → n ≤ e.amount →
    Succeeds D s (e.claimTx D k slot n) ∧
    balance (exec D s (e.claimTx D k slot n)) (D.ata e.provider e.mint) =
      balance s (D.ata e.provider e.mint) + n

/-- A live escrow passes the constraints of a claim. -/
theorem claimConstraints_of_live {D : Addresses Key} {s : Chain Key} {k : Key} {e : Escrow Key}
    (hrecord : s.escrows.lookup k = some e) (hlive : LiveEscrow D s k e)
    (happart : D.ata e.provider e.mint ≠ D.ata e.agent e.mint)
    (hprovider : Usable D s e.provider e.mint) (hagent : Usable D s e.agent e.mint) :
    ∃ s', claimConstraints D [e.provider] (e.claimAccounts D k) s = .ok e s' := by
  obtain ⟨t, hinit⟩ := initIfNeeded_of_usable hprovider
  -- making the provider's account leaves the agent's as it was
  have husable : Usable D t e.agent e.mint := by
    intro a ha
    rw [(initIfNeeded_ok hinit).other _ happart.symm] at ha
    exact hagent a ha
  obtain ⟨s', hinit'⟩ := initIfNeeded_of_usable husable
  obtain ⟨v, hv, hvm, hvo, -⟩ := hlive.vault
  rw [← hlive.mint] at hv hvm
  have hread : escrowAccount D k s = .ok e s := by
    refine bind_ok.2 ⟨s, s, get_ok.2 ⟨rfl, rfl⟩, bind_ok.2 ⟨e, s, okOr_ok.2 ⟨hrecord, rfl⟩, ?_⟩⟩
    exact bind_ok.2 ⟨(), s, require_ok.2 ⟨hlive.address, rfl⟩, pure_ok.2 ⟨rfl, rfl⟩⟩
  refine ⟨s', ?_⟩
  unfold claimConstraints
  refine bind_ok.2 ⟨e, s, hread, bind_ok.2 ⟨(), s, require_ok.2 ⟨rfl, rfl⟩, ?_⟩⟩
  refine bind_ok.2 ⟨(), s, require_ok.2 ⟨rfl, rfl⟩, ?_⟩
  refine bind_ok.2 ⟨(), s, require_ok.2 ⟨rfl, rfl⟩, ?_⟩
  refine bind_ok.2 ⟨(), s, require_ok.2 ⟨List.mem_singleton_self _, rfl⟩, ?_⟩
  refine bind_ok.2 ⟨(), s, associatedToken_of_lookup hv hvm hvo, ?_⟩
  exact bind_ok.2 ⟨(), t, hinit, bind_ok.2 ⟨(), s', hinit', pure_ok.2 ⟨rfl, rfl⟩⟩⟩

/-- A claim of a live escrow succeeds, for every amount up to its own. -/
theorem claim_of_live {D : Addresses Key} {s : Chain Key} {k : Key} {e : Escrow Key}
    {slot n : ℕ} (hrecord : s.escrows.lookup k = some e) (hlive : LiveEscrow D s k e)
    (hcanSign : D.canSign e.provider = true)
    (happart : D.ata e.provider e.mint ≠ D.ata e.agent e.mint)
    (hprovider : Usable D s e.provider e.mint) (hagent : Usable D s e.agent e.mint)
    (htotal : totalOf e.mint s ≤ u64Max) (hslot : slot < e.expirySlot) (hpos : 0 < n)
    (hn : n ≤ e.amount) :
    ∃ s', claim D slot [e.provider] (e.claimAccounts D k) n s = .ok () s' := by
  obtain ⟨s₂, hcon⟩ := claimConstraints_of_live hrecord hlive happart hprovider hagent
  obtain ⟨-, -, -, -, -, -, -, -, s₁, hi₁, hi₂⟩ := claimConstraints_ok hcon
  have hvp := hlive.vault_ne_ata hcanSign hprovider
  have hva := hlive.vault_ne_ata hlive.agent hagent
  -- the vault, and the two accounts that the constraints have made sure of
  obtain ⟨v, hv, hvm, hvo, hva'⟩ := hlive.vault
  rw [← hlive.mint] at hv hvm
  obtain ⟨p, hp, hpm, -⟩ := hi₁.present
  obtain ⟨a, ha, ham, -⟩ := hi₂.present
  have hv₂ := hi₂.keeps _ v (hi₁.keeps _ v hv)
  have hp₂ := hi₂.keeps _ p hp
  have htotal₂ : totalOf e.mint s₂ ≤ u64Max := by
    rw [hi₂.total, hi₁.total]
    exact htotal
  -- to the provider, then the rest of the deposit and what else is in the vault to the agent
  obtain ⟨s₃, ht₁, hv₃, -⟩ :=
    transferChecked_of_enough hvp hv₂ hp₂ hvm hpm hvo (hn.trans hva') htotal₂
  have ha₃ : s₃.tokens.lookup (D.ata e.agent e.mint) = some a := by
    rw [(transferChecked_moved hvp ht₁).other _ hva.symm happart.symm]
    exact ha
  have htotal₃ : totalOf e.mint s₃ ≤ u64Max := by
    rw [(transferChecked_conserves ht₁).total]
    exact htotal₂
  obtain ⟨s₄, ht₂, hv₄, ha₄⟩ := transferPositive_of_enough hva hv₃ ha₃ hvm ham
    hvo (by show e.amount - n ≤ v.amount - n; omega) htotal₃
  have htotal₄ : totalOf e.mint s₄ ≤ u64Max := by
    rw [(transferPositive_conserves ht₂).total]
    exact htotal₃
  obtain ⟨s₅, ht₃, hv₅, -⟩ := transferPositive_of_enough hva hv₄ ha₄ hvm ham hvo le_rfl htotal₄
  obtain ⟨s₆, hclose⟩ := closeEscrow_of_empty hv₅ (Nat.sub_self _) hvo
  refine ⟨s₆, bind_ok.2 ⟨e, s₂, hcon, bind_ok.2 ⟨(), s₂, require_ok.2 ⟨hn, rfl⟩, ?_⟩⟩⟩
  refine bind_ok.2 ⟨(), s₂, require_ok.2 ⟨hpos, rfl⟩, ?_⟩
  refine bind_ok.2 ⟨(), s₂, require_ok.2 ⟨hslot, rfl⟩, ?_⟩
  refine bind_ok.2 ⟨(), s₂, require_ok.2 ⟨happart, rfl⟩, ?_⟩
  refine bind_ok.2 ⟨(), s₃, ht₁, bind_ok.2 ⟨(), s₄, ht₂, ?_⟩⟩
  refine bind_ok.2 ⟨_, s₄, tokenAccount_of_lookup hv₄, ?_⟩
  exact bind_ok.2 ⟨(), s₅, ht₃, hclose⟩

/-- A live escrow can be claimed. -/
theorem claimable_of_live {D : Addresses Key} {s : Chain Key} {k : Key} {e : Escrow Key}
    (hrecord : s.escrows.lookup k = some e) (hlive : LiveEscrow D s k e)
    (hcanSign : D.canSign e.provider = true)
    (happart : D.ata e.provider e.mint ≠ D.ata e.agent e.mint)
    (hprovider : Usable D s e.provider e.mint) (hagent : Usable D s e.agent e.mint)
    (htotal : totalOf e.mint s ≤ u64Max) : Claimable D s k e := by
  intro slot n hslot hpos hn
  obtain ⟨s', hclaim⟩ :=
    claim_of_live hrecord hlive hcanSign happart hprovider hagent htotal hslot hpos hn
  have hsubmit : submit D (e.claimTx D k slot n) s = .ok () s' := by
    have hsigned : ∀ key ∈ (e.claimTx D k slot n).signers, D.canSign key = true := by
      intro key hkey
      rw [List.mem_singleton.1 hkey]
      exact hcanSign
    exact atomically_ok.2 (bind_ok.2 ⟨(), s, require_ok.2 ⟨hsigned, rfl⟩, hclaim⟩)
  have hexec : exec D s (e.claimTx D k slot n) = s' := by
    rw [exec, hsubmit]
    rfl
  obtain ⟨e', hspec⟩ := claim_ok hclaim
  have hsame : e' = e := Option.some.inj (hspec.record.symm.trans hrecord)
  refine ⟨by rw [Succeeds, hsubmit]; rfl, ?_⟩
  rw [hexec]
  rw [hsame] at hspec
  exact (hspec.payouts hcanSign hlive.agent).1

/-! ## Until the claim -/

/-- The transaction is a claim of the escrow at `k`. -/
def Transaction.ClaimsAt (tx : Transaction Key) (k : Key) : Prop :=
  match tx.instr with
  | .claim ctx _ => ctx.escrow = k
  | _ => False

/-- The step comes before the expiry slot and is no successful claim of the escrow at `k`. -/
def Spared (D : Addresses Key) (k : Key) (expirySlot : ℕ) (s : Chain Key)
    (tx : Transaction Key) : Prop :=
  tx.slot < expirySlot ∧ ¬ (tx.ClaimsAt k ∧ Succeeds D s tx)

/-- A refund of the record that succeeds comes at its expiry slot or later. -/
theorem expired_of_refund {D : Addresses Key} {s : Chain Key} {tx : Transaction Key}
    {ctx : Refund Key} {e : Escrow Key} (hok : Succeeds D s tx) (hinstr : tx.instr = .refund ctx)
    (hrecord : s.escrows.lookup ctx.escrow = some e) : e.expirySlot ≤ tx.slot := by
  rcases exec_cases (D := D) s tx with ⟨hfail, -⟩ | ⟨-, -, heff⟩
  · exact absurd hok hfail
  · cases heff with
    | deposit ctx' amount serviceId expirySlot instr spec => simp [hinstr] at instr
    | claim ctx' n e' instr spec => simp [hinstr] at instr
    | refund ctx' e' instr spec =>
      rw [hinstr] at instr
      cases instr
      rw [← Option.some.inj (spec.record.symm.trans hrecord)]
      exact spec.expired
    | token _ _ _ instr => exact absurd rfl ((instr ctx.escrow).2.2 ctx hinstr)

/-- A step that spares the record keeps it. -/
theorem record_exec {D : Addresses Key} {s : Chain Key} {tx : Transaction Key} {k : Key}
    {e : Escrow Key} (hrecord : s.escrows.lookup k = some e)
    (hspared : Spared D k e.expirySlot s tx) : (exec D s tx).escrows.lookup k = some e := by
  rcases lookup_exec (D := D) s tx k with ⟨-, -, hnone⟩ | ⟨hok, hcloses, -, -⟩ | ⟨hsame, -⟩
  · -- a deposit needs a free address
    rw [hrecord] at hnone
    exact absurd hnone (by simp)
  · -- a claim is ruled out, and a refund comes too late
    unfold Transaction.ClosesAt at hcloses
    split at hcloses
    · rename_i ctx n hinstr
      have hclaims : tx.ClaimsAt k := by
        unfold Transaction.ClaimsAt
        rw [hinstr]
        exact hcloses
      exact absurd ⟨hclaims, hok⟩ hspared.2
    · rename_i ctx hinstr
      have hexpired := expired_of_refund hok hinstr (hcloses ▸ hrecord)
      exact absurd hspared.1 (not_lt.2 hexpired)
    · exact absurd hcloses not_false
  · rw [hsame, hrecord]

/-- A deposit that succeeded leaves its record, and steps that spare it leave it live. -/
theorem live_of_deposit {D : Addresses Key} {s : Chain Key} (hinv : Inv D s)
    {tx : Transaction Key} {ctx : Deposit Key} {amount : ℕ} {serviceId : ServiceId}
    {expirySlot : ℕ} (hok : Succeeds D s tx)
    (hinstr : tx.instr = .deposit ctx amount serviceId expirySlot) {txs : List (Transaction Key)}
    (hspared : AllSteps (exec D) (Spared D ctx.escrow expirySlot) (exec D s tx) txs) :
    (run (exec D) (exec D s tx) txs).escrows.lookup ctx.escrow =
        some (ctx.record amount serviceId expirySlot) ∧
      LiveEscrow D (run (exec D) (exec D s tx) txs) ctx.escrow
        (ctx.record amount serviceId expirySlot) := by
  have hrecord : (run (exec D) (exec D s tx) txs).escrows.lookup ctx.escrow =
      some (ctx.record amount serviceId expirySlot) :=
    run_invariant_of_allSteps
      (I := fun t : Chain Key =>
        t.escrows.lookup ctx.escrow = some (ctx.record amount serviceId expirySlot))
      (fun t tx' ht hstep => record_exec ht hstep) (record_of_deposit hok hinstr) hspared
  exact ⟨hrecord, inv_run (inv_exec s tx hinv) txs _ _ hrecord⟩

/-- The checks of the arguments do not read the chain. -/
theorem depositGuards_of_ok {D : Addresses Key} {now : ℕ} {ctx : Deposit Key}
    {amount expirySlot : ℕ} {u : Unit} {s s' : Chain Key}
    (h : depositGuards D now ctx amount expirySlot s = .ok u s') (t : Chain Key) :
    depositGuards D now ctx amount expirySlot t = .ok () t := by
  unfold depositGuards at h ⊢
  obtain ⟨_, _, hpos, h⟩ := bind_ok.1 h
  obtain ⟨_, _, hfuture, h⟩ := bind_ok.1 h
  obtain ⟨_, _, hfar, h⟩ := bind_ok.1 h
  obtain ⟨_, _, hsoon, h⟩ := bind_ok.1 h
  obtain ⟨_, _, hdefault, h⟩ := bind_ok.1 h
  refine bind_ok.2 ⟨(), t, require_ok.2 ⟨(require_ok.1 hpos).1, rfl⟩, ?_⟩
  refine bind_ok.2 ⟨(), t, require_ok.2 ⟨(require_ok.1 hfuture).1, rfl⟩, ?_⟩
  refine bind_ok.2 ⟨(), t, require_ok.2 ⟨(require_ok.1 hfar).1, rfl⟩, ?_⟩
  refine bind_ok.2 ⟨(), t, require_ok.2 ⟨(require_ok.1 hsoon).1, rfl⟩, ?_⟩
  refine bind_ok.2 ⟨(), t, require_ok.2 ⟨(require_ok.1 hdefault).1, rfl⟩, ?_⟩
  exact require_ok.2 ⟨(require_ok.1 h).1, rfl⟩

/-- A deposit that succeeded passed every check of its arguments. -/
theorem depositGuards_of_succeeds {D : Addresses Key} {s : Chain Key} {tx : Transaction Key}
    {ctx : Deposit Key} {amount : ℕ} {serviceId : ServiceId} {expirySlot : ℕ}
    (hok : Succeeds D s tx) (hinstr : tx.instr = .deposit ctx amount serviceId expirySlot)
    (t : Chain Key) : depositGuards D tx.slot ctx amount expirySlot t = .ok () t := by
  unfold Succeeds at hok
  cases hsubmit : submit D tx s with
  | error e s' =>
    rw [hsubmit] at hok
    exact absurd hok (by simp)
  | ok u s' =>
    obtain ⟨_, _, -, hprocess⟩ := bind_ok.1 (atomically_ok.1 hsubmit)
    rw [hinstr] at hprocess
    obtain ⟨_, _, -, hhandler⟩ := bind_ok.1 hprocess
    obtain ⟨_, _, hguards, -⟩ := bind_ok.1 hhandler
    exact depositGuards_of_ok hguards t

/-- The deposit that succeeded, with what it checked and left behind. -/
theorem depositSpec_of_succeeds {D : Addresses Key} {s : Chain Key} {tx : Transaction Key}
    {ctx : Deposit Key} {amount : ℕ} {serviceId : ServiceId} {expirySlot : ℕ}
    (hok : Succeeds D s tx) (hinstr : tx.instr = .deposit ctx amount serviceId expirySlot) :
    DepositSpec D tx.slot tx.signers ctx amount serviceId expirySlot s (exec D s tx) := by
  rcases exec_cases (D := D) s tx with ⟨hfail, -⟩ | ⟨-, -, heff⟩
  · exact absurd hok hfail
  · cases heff with
    | deposit ctx' amount' serviceId' expirySlot' instr spec =>
      rw [hinstr] at instr
      cases instr
      exact spec
    | claim ctx' n e instr spec => simp [hinstr] at instr
    | refund ctx' e instr spec => simp [hinstr] at instr
    | token _ _ _ instr => exact absurd rfl ((instr ctx.escrow).1 ctx _ _ _ hinstr)

/-- There is nothing to claim at an address without a record. -/
theorem not_succeeds_claim {D : Addresses Key} {s : Chain Key} {k : Key}
    (hnone : s.escrows.lookup k = none) (e : Escrow Key) (slot n : ℕ) :
    ¬ Succeeds D s (e.claimTx D k slot n) := by
  intro hok
  rcases exec_cases (D := D) s (e.claimTx D k slot n) with ⟨hfail, -⟩ | ⟨-, -, heff⟩
  · exact absurd hok hfail
  · cases heff with
    | deposit ctx amount serviceId expirySlot instr spec =>
      exact absurd instr (by simp [Escrow.claimTx])
    | claim ctx n' e' instr spec =>
      obtain ⟨rfl, -⟩ : e.claimAccounts D k = ctx ∧ n = n' := by
        simpa [Escrow.claimTx] using instr
      have hrecord := spec.record
      rw [Escrow.claimAccounts, hnone] at hrecord
      exact absurd hrecord (by simp)
    | refund ctx e' instr spec => exact absurd instr (by simp [Escrow.claimTx])
    | token _ _ _ instr => exact absurd rfl ((instr k).2.1 (e.claimAccounts D k) n rfl)

end

end Solvela.EscrowProgram
