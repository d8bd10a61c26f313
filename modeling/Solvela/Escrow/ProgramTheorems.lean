import Solvela.Escrow.Program
import Mathlib.Tactic.Tauto

/-!
# What each instruction of the escrow program does

One inversion lemma for each building block and each instruction: from a successful run, the
checks that passed and the accounts afterwards. Balances are read through `balance`, where an
account that does not exist holds nothing, so creating or closing an empty account moves no
money.

* `transferChecked_moved` and `closeAccount_cases`, the token program;
* `initIfNeeded_ok`, `escrowAccount_ok` and the three lemmas of the constraints;
* `deposit_ok`, `claim_ok` and `refund_ok`.
-/

namespace Solvela.EscrowProgram

open Solvela.Lib
open Solvela.Lib.Txn

section
variable {Key : Type} [DecidableEq Key]

/-- The tokens at an address; nothing where there is no account. -/
def balance (s : Chain Key) (k : Key) : ℕ :=
  match s.tokens.lookup k with
  | some a => a.amount
  | none => 0

/-- The units of `mint` over all token accounts. -/
def totalOf (mint : Key) (s : Chain Key) : ℕ :=
  Table.sumBy (fun _ a => if a.mint = mint then a.amount else 0) s.tokens

/-- No account outside the authority's control lost anything: each is still there, under the
same mint and owner, with at least its old balance. -/
def KeepsExcept (authority : Key) (s s' : Chain Key) : Prop :=
  ∀ k a, s.tokens.lookup k = some a → a.owner ≠ authority →
    ∃ a', s'.tokens.lookup k = some a' ∧ a'.mint = a.mint ∧ a'.owner = a.owner ∧
      a.amount ≤ a'.amount

theorem KeepsExcept.refl (authority : Key) (s : Chain Key) : KeepsExcept authority s s :=
  fun _ a ha _ => ⟨a, ha, rfl, rfl, le_rfl⟩

theorem KeepsExcept.trans {authority : Key} {s t u : Chain Key}
    (h₁ : KeepsExcept authority s t) (h₂ : KeepsExcept authority t u) :
    KeepsExcept authority s u := by
  intro k a ha ho
  obtain ⟨b, hb, hbm, hbo, hba⟩ := h₁ k a ha ho
  obtain ⟨c, hc, hcm, hco, hca⟩ := h₂ k b hb (hbo ▸ ho)
  exact ⟨c, hc, hcm.trans hbm, hco.trans hbo, hba.trans hca⟩

/-- The balance of an account is its amount. -/
theorem balance_of_lookup {s : Chain Key} {k : Key} {a : TokenAccount Key}
    (h : s.tokens.lookup k = some a) : balance s k = a.amount := by
  simp [balance, h]

/-- The balance is read from the account only. -/
theorem balance_congr {s s' : Chain Key} {k : Key}
    (h : s'.tokens.lookup k = s.tokens.lookup k) : balance s' k = balance s k := by
  simp [balance, h]

/-! ## The token program -/

/-- Reading an account changes nothing. -/
theorem tokenAccount_ok {k : Key} {a : TokenAccount Key} {s s' : Chain Key}
    (h : tokenAccount k s = .ok a s') : s.tokens.lookup k = some a ∧ s = s' := by
  unfold tokenAccount at h
  obtain ⟨t, u, hget, h⟩ := bind_ok.1 h
  obtain ⟨rfl, rfl⟩ := get_ok.1 hget
  exact okOr_ok.1 h

/-- What a transfer of `n` from `src` to another account `dst` leaves behind. -/
structure Moved (src dst : Key) (n : ℕ) (s s' : Chain Key) : Prop where
  escrows : s'.escrows = s.escrows
  enough : n ≤ balance s src
  debit : balance s' src = balance s src - n
  credit : balance s' dst = balance s dst + n
  other : ∀ k, k ≠ src → k ≠ dst → s'.tokens.lookup k = s.tokens.lookup k

/-- What any successful transfer preserves, whatever its accounts. -/
structure Conserves (authority : Key) (s s' : Chain Key) : Prop where
  escrows : s'.escrows = s.escrows
  total : ∀ m, totalOf m s' = totalOf m s
  keeps : KeepsExcept authority s s'

theorem Conserves.refl (authority : Key) (s : Chain Key) : Conserves authority s s :=
  ⟨rfl, fun _ => rfl, KeepsExcept.refl authority s⟩

theorem Conserves.trans {authority : Key} {s t u : Chain Key}
    (h₁ : Conserves authority s t) (h₂ : Conserves authority t u) : Conserves authority s u :=
  ⟨h₂.escrows.trans h₁.escrows, fun m => (h₂.total m).trans (h₁.total m),
    h₁.keeps.trans h₂.keeps⟩

/-- The two writes of a transfer between distinct accounts. -/
private def transferred (s : Chain Key) (src dst : Key) (a b : TokenAccount Key) (n : ℕ) :
    Chain Key :=
  let debited := s.tokens.insert src { a with amount := a.amount - n }
  { s with tokens := debited.insert dst { b with amount := b.amount + n } }

/-- A transfer has both accounts, the authority and the amount. -/
theorem transferChecked_cases {src mint dst authority : Key} {n : ℕ} {u : Unit}
    {s s' : Chain Key} (h : transferChecked src mint dst authority n s = .ok u s') :
    ∃ a b, s.tokens.lookup src = some a ∧ s.tokens.lookup dst = some b ∧ n ≤ a.amount ∧
      a.mint = b.mint ∧ a.mint = mint ∧ a.owner = authority ∧
      (src = dst ∧ s = s' ∨ src ≠ dst ∧ transferred s src dst a b n = s') := by
  unfold transferChecked at h
  obtain ⟨a, _, hread, h⟩ := bind_ok.1 h
  obtain ⟨ha, rfl⟩ := tokenAccount_ok hread
  obtain ⟨b, _, hread, h⟩ := bind_ok.1 h
  obtain ⟨hb, rfl⟩ := tokenAccount_ok hread
  obtain ⟨_, _, hr, h⟩ := bind_ok.1 h
  obtain ⟨hn, rfl⟩ := require_ok.1 hr
  obtain ⟨_, _, hr, h⟩ := bind_ok.1 h
  obtain ⟨⟨hab, hm⟩, rfl⟩ := require_ok.1 hr
  obtain ⟨_, _, hr, h⟩ := bind_ok.1 h
  obtain ⟨ho, rfl⟩ := require_ok.1 hr
  refine ⟨a, b, ha, hb, hn, hab, hm, ho, ?_⟩
  by_cases hsd : src = dst
  · rw [if_pos hsd] at h
    exact Or.inl ⟨hsd, (pure_ok.1 h).2⟩
  · rw [if_neg hsd] at h
    obtain ⟨_, _, hr, h⟩ := bind_ok.1 h
    obtain ⟨-, rfl⟩ := require_ok.1 hr
    obtain ⟨_, _, hw, h⟩ := bind_ok.1 h
    obtain rfl := modify_ok.1 hw
    exact Or.inr ⟨hsd, modify_ok.1 h⟩

/-- A transfer between distinct accounts moves exactly its amount. -/
theorem transferChecked_moved {src mint dst authority : Key} {n : ℕ} {u : Unit}
    {s s' : Chain Key} (hne : src ≠ dst)
    (h : transferChecked src mint dst authority n s = .ok u s') : Moved src dst n s s' := by
  obtain ⟨a, b, ha, hb, hn, -, -, -, ⟨hsd, -⟩ | ⟨-, rfl⟩⟩ := transferChecked_cases h
  · exact absurd hsd hne
  · refine ⟨rfl, ?_, ?_, ?_, ?_⟩
    · rw [balance_of_lookup ha]
      exact hn
    · rw [balance_of_lookup ha]
      simp [balance, transferred, hne]
    · rw [balance_of_lookup hb]
      simp [balance, transferred]
    · intro k hs hd
      simp [transferred, hs, hd]

/-- It moves tokens without making any. -/
theorem transferChecked_conserves {src mint dst authority : Key} {n : ℕ} {u : Unit}
    {s s' : Chain Key} (h : transferChecked src mint dst authority n s = .ok u s') :
    Conserves authority s s' := by
  obtain ⟨a, b, ha, hb, hn, hab, -, ho, ⟨-, rfl⟩ | ⟨hsd, rfl⟩⟩ := transferChecked_cases h
  · exact Conserves.refl authority s
  · refine ⟨rfl, ?_, ?_⟩
    · intro m
      unfold totalOf transferred
      have hb' : (s.tokens.insert src { a with amount := a.amount - n }).lookup dst = some b := by
        rw [AList.lookup_insert_ne (Ne.symm hsd)]
        exact hb
      -- what one account loses the other gains, in one mint
      have h₁ := Table.sumBy_insert_of_lookup
        (fun _ (x : TokenAccount Key) => if x.mint = m then x.amount else 0)
        { a with amount := a.amount - n } ha
      have h₂ := Table.sumBy_insert_of_lookup
        (fun _ (x : TokenAccount Key) => if x.mint = m then x.amount else 0)
        { b with amount := b.amount + n } hb'
      simp only [hab] at h₁ h₂ ⊢
      by_cases hm : b.mint = m
      · simp only [hm, if_true] at h₁ h₂ ⊢
        omega
      · simp only [hm, if_false] at h₁ h₂ ⊢
        omega
    · intro k x hx hxo
      by_cases hkd : k = dst
      · subst hkd
        obtain rfl : x = b := by simpa [hb] using hx.symm
        exact ⟨{ x with amount := x.amount + n }, by simp [transferred], rfl, rfl,
          Nat.le_add_right _ _⟩
      -- an account of somebody else is not the source
      · have hks : k ≠ src := by
          rintro rfl
          obtain rfl : x = a := by simpa [ha] using hx.symm
          exact hxo ho
        exact ⟨x, by simpa [transferred, Table.lookup_insert_eq, hkd, hks] using hx, rfl, rfl,
          le_rfl⟩

/-- A transfer between two accounts moves its amount. -/
theorem transferPositive_moved {src mint dst authority : Key} {n : ℕ} {u : Unit}
    {s s' : Chain Key} (hne : src ≠ dst)
    (h : transferPositive src mint dst authority n s = .ok u s') : Moved src dst n s s' := by
  unfold transferPositive at h
  by_cases hn : 0 < n
  · rw [if_pos hn] at h
    exact transferChecked_moved hne h
  · rw [if_neg hn] at h
    obtain ⟨-, rfl⟩ := pure_ok.1 h
    obtain rfl : n = 0 := by omega
    exact ⟨rfl, Nat.zero_le _, by simp, by simp, fun _ _ _ => rfl⟩

/-- A transfer of nothing is skipped. -/
theorem transferPositive_conserves {src mint dst authority : Key} {n : ℕ} {u : Unit}
    {s s' : Chain Key} (h : transferPositive src mint dst authority n s = .ok u s') :
    Conserves authority s s' := by
  unfold transferPositive at h
  by_cases hn : 0 < n
  · rw [if_pos hn] at h
    exact transferChecked_conserves h
  · rw [if_neg hn] at h
    obtain ⟨-, rfl⟩ := pure_ok.1 h
    exact Conserves.refl authority s

/-- Only an empty account is closed, by its owner. -/
theorem closeAccount_cases {account authority : Key} {u : Unit} {s s' : Chain Key}
    (h : closeAccount account authority s = .ok u s') :
    ∃ a, s.tokens.lookup account = some a ∧ a.amount = 0 ∧ a.owner = authority ∧
      { s with tokens := s.tokens.erase account } = s' := by
  unfold closeAccount at h
  obtain ⟨a, _, hread, h⟩ := bind_ok.1 h
  obtain ⟨ha, rfl⟩ := tokenAccount_ok hread
  obtain ⟨_, _, hr, h⟩ := bind_ok.1 h
  obtain ⟨h0, rfl⟩ := require_ok.1 hr
  obtain ⟨_, _, hr, h⟩ := bind_ok.1 h
  obtain ⟨ho, rfl⟩ := require_ok.1 hr
  exact ⟨a, ha, h0, ho, modify_ok.1 h⟩

/-- It takes no token with it. -/
theorem closeAccount_conserves {account authority : Key} {u : Unit} {s s' : Chain Key}
    (h : closeAccount account authority s = .ok u s') : Conserves authority s s' := by
  obtain ⟨a, ha, h0, ho, rfl⟩ := closeAccount_cases h
  refine ⟨rfl, ?_, ?_⟩
  · intro m
    have hsum := Table.sumBy_of_lookup
      (fun _ (x : TokenAccount Key) => if x.mint = m then x.amount else 0) ha
    simp only [h0, ite_self, zero_add] at hsum
    exact hsum.symm
  · intro k x hx hxo
    have hk : k ≠ account := by
      rintro rfl
      obtain rfl : x = a := by simpa [ha] using hx.symm
      exact hxo ho
    exact ⟨x, by simpa [Table.lookup_erase_eq, hk] using hx, rfl, rfl, le_rfl⟩

/-! ## The associated token constraints -/

/-- An associated account has its owner and its mint. -/
theorem associatedToken_ok {D : Addresses Key} {account authority mint : Key} {u : Unit}
    {s s' : Chain Key} (h : associatedToken D account authority mint s = .ok u s') :
    s = s' ∧ account = D.ata authority mint ∧
      ∃ a, s.tokens.lookup account = some a ∧ a.mint = mint ∧ a.owner = authority := by
  unfold associatedToken at h
  obtain ⟨_, _, hget, h⟩ := bind_ok.1 h
  obtain ⟨rfl, rfl⟩ := get_ok.1 hget
  obtain ⟨a, _, hread, h⟩ := bind_ok.1 h
  obtain ⟨ha, rfl⟩ := okOr_ok.1 hread
  obtain ⟨_, _, hr, h⟩ := bind_ok.1 h
  obtain ⟨hm, rfl⟩ := require_ok.1 hr
  obtain ⟨_, _, hr, h⟩ := bind_ok.1 h
  obtain ⟨ho, rfl⟩ := require_ok.1 hr
  obtain ⟨hk, rfl⟩ := require_ok.1 h
  exact ⟨rfl, hk, a, ha, hm, ho⟩

/-- What `init_if_needed` leaves behind: the account is there, and no balance changed. -/
structure Initialised (D : Addresses Key) (account authority mint : Key) (s s' : Chain Key) :
    Prop where
  address : account = D.ata authority mint
  present : ∃ a, s'.tokens.lookup account = some a ∧ a.mint = mint ∧ a.owner = authority
  balance : ∀ k, balance s' k = balance s k
  other : ∀ k, k ≠ account → s'.tokens.lookup k = s.tokens.lookup k
  escrows : s'.escrows = s.escrows
  total : ∀ m, totalOf m s' = totalOf m s
  keeps : ∀ k a, s.tokens.lookup k = some a → s'.tokens.lookup k = some a

/-- An account that is created is empty. -/
theorem Initialised.conserves {D : Addresses Key} {account authority mint : Key}
    {s s' : Chain Key} (h : Initialised D account authority mint s s') (owner : Key) :
    Conserves owner s s' :=
  ⟨h.escrows, h.total, fun k a ha _ => ⟨a, h.keeps k a ha, rfl, rfl, le_rfl⟩⟩

/-- An account has one owner: where `init_if_needed` passes for one authority, no account of
another was there. -/
theorem Initialised.ne_of_owner {D : Addresses Key} {account authority mint k : Key}
    {s s' : Chain Key} (h : Initialised D account authority mint s s') {a : TokenAccount Key}
    (ha : s.tokens.lookup k = some a) (howner : authority ≠ a.owner) : k ≠ account := by
  rintro rfl
  obtain ⟨x, hx, -, hxo⟩ := h.present
  rw [h.keeps _ a ha] at hx
  exact howner (Option.some.inj hx ▸ hxo.symm)

/-- An account is created, or found with its owner and mint. -/
theorem initIfNeeded_ok {D : Addresses Key} {account authority mint : Key} {u : Unit}
    {s s' : Chain Key} (h : initIfNeeded D account authority mint s = .ok u s') :
    Initialised D account authority mint s s' := by
  unfold initIfNeeded at h
  obtain ⟨_, _, hget, h⟩ := bind_ok.1 h
  obtain ⟨rfl, rfl⟩ := get_ok.1 hget
  cases hl : s.tokens.lookup account with
  | some a =>
    simp only [hl] at h
    obtain ⟨rfl, hk, hp⟩ := associatedToken_ok h
    exact ⟨hk, hp, fun _ => rfl, fun _ _ => rfl, rfl, fun _ => rfl, fun _ _ ha => ha⟩
  | none =>
    simp only [hl] at h
    obtain ⟨_, _, hr, h⟩ := bind_ok.1 h
    obtain ⟨hk, rfl⟩ := require_ok.1 hr
    obtain rfl := modify_ok.1 h
    -- a new account is empty, so no balance and no sum changes
    refine ⟨hk, ⟨_, AList.lookup_insert _, rfl, rfl⟩, ?_, ?_, rfl, ?_, ?_⟩
    · intro k
      by_cases hka : k = account
      · subst hka
        simp [EscrowProgram.balance, hl]
      · simp [EscrowProgram.balance, hka]
    · intro k hka
      simp [hka]
    · intro m
      simp [totalOf, Table.sumBy_insert_of_lookup_none _ _ hl]
    · intro k a ha
      have hka : k ≠ account := by
        rintro rfl
        simp [hl] at ha
      simpa [Table.lookup_insert_eq, hka] using ha

/-! ## The instructions -/

/-- An escrow is read at the address of its seeds. -/
theorem escrowAccount_ok {D : Addresses Key} {k : Key} {e : Escrow Key} {s s' : Chain Key}
    (h : escrowAccount D k s = .ok e s') :
    s.escrows.lookup k = some e ∧ k = D.escrow e.agent e.serviceId ∧ s = s' := by
  unfold escrowAccount at h
  obtain ⟨_, _, hget, h⟩ := bind_ok.1 h
  obtain ⟨rfl, rfl⟩ := get_ok.1 hget
  obtain ⟨e', _, hread, h⟩ := bind_ok.1 h
  obtain ⟨he, rfl⟩ := okOr_ok.1 hread
  obtain ⟨_, _, hr, h⟩ := bind_ok.1 h
  obtain ⟨hk, rfl⟩ := require_ok.1 hr
  obtain ⟨rfl, rfl⟩ := pure_ok.1 h
  exact ⟨he, hk, rfl⟩

/-- What a successful `deposit` checked, and what it leaves behind. -/
structure DepositSpec (D : Addresses Key) (now : ℕ) (signers : List Key) (ctx : Deposit Key)
    (amount : ℕ) (serviceId : ServiceId) (expirySlot : ℕ) (s s' : Chain Key) : Prop where
  signed : ctx.agent ∈ signers
  mint : ctx.mint = D.usdcMint
  escrow : ctx.escrow = D.escrow ctx.agent serviceId
  vault : ctx.vault = D.ata ctx.escrow ctx.mint
  fresh : s.escrows.lookup ctx.escrow = none
  positive : 0 < amount
  window : now + minExpiryBuffer ≤ expirySlot ∧ expirySlot ≤ now + maxEscrowSlots
  provider : ctx.provider ≠ ctx.agent
  record : s'.escrows = s.escrows.insert ctx.escrow (ctx.record amount serviceId expirySlot)
  total : ∀ m, totalOf m s' = totalOf m s
  keeps : KeepsExcept ctx.agent s s'
  funded : ctx.agent ≠ ctx.escrow → ∃ v, s'.tokens.lookup ctx.vault = some v ∧
    v.mint = D.usdcMint ∧ v.owner = ctx.escrow ∧ v.amount = balance s ctx.vault + amount

/-- What the constraints of a deposit have checked. -/
theorem depositConstraints_ok {D : Addresses Key} {signers : List Key} {ctx : Deposit Key}
    {serviceId : ServiceId} {u : Unit} {s s' : Chain Key}
    (h : depositConstraints D signers ctx serviceId s = .ok u s') :
    ctx.agent ∈ signers ∧ ctx.mint = D.usdcMint ∧ ctx.escrow = D.escrow ctx.agent serviceId ∧
      s.escrows.lookup ctx.escrow = none ∧
      (∃ a, s.tokens.lookup ctx.agentTokenAccount = some a ∧ a.mint = ctx.mint ∧
        a.owner = ctx.agent) ∧
      Initialised D ctx.vault ctx.escrow ctx.mint s s' := by
  unfold depositConstraints at h
  obtain ⟨_, _, hr, h⟩ := bind_ok.1 h
  obtain ⟨hsigned, rfl⟩ := require_ok.1 hr
  obtain ⟨_, _, hr, h⟩ := bind_ok.1 h
  obtain ⟨hmint, rfl⟩ := require_ok.1 hr
  obtain ⟨_, _, hr, h⟩ := bind_ok.1 h
  obtain ⟨hseeds, rfl⟩ := require_ok.1 hr
  obtain ⟨_, _, hget, h⟩ := bind_ok.1 h
  obtain ⟨rfl, rfl⟩ := get_ok.1 hget
  obtain ⟨_, _, hr, h⟩ := bind_ok.1 h
  obtain ⟨hfresh, rfl⟩ := require_ok.1 hr
  obtain ⟨_, _, hata, h⟩ := bind_ok.1 h
  obtain ⟨rfl, -, hpaid⟩ := associatedToken_ok hata
  exact ⟨hsigned, hmint, hseeds, hfresh, hpaid, initIfNeeded_ok h⟩

/-- What its handler has checked. -/
theorem depositGuards_ok {D : Addresses Key} {now : ℕ} {ctx : Deposit Key}
    {amount expirySlot : ℕ} {u : Unit} {s s' : Chain Key}
    (h : depositGuards D now ctx amount expirySlot s = .ok u s') :
    s = s' ∧ 0 < amount ∧ now + minExpiryBuffer ≤ expirySlot ∧
      expirySlot ≤ now + maxEscrowSlots ∧ ctx.provider ≠ ctx.agent := by
  unfold depositGuards at h
  obtain ⟨_, _, hr, h⟩ := bind_ok.1 h
  obtain ⟨hpos, rfl⟩ := require_ok.1 hr
  obtain ⟨_, _, hr, h⟩ := bind_ok.1 h
  obtain ⟨hfuture, rfl⟩ := require_ok.1 hr
  obtain ⟨_, _, hr, h⟩ := bind_ok.1 h
  obtain ⟨hfar, rfl⟩ := require_ok.1 hr
  obtain ⟨_, _, hr, h⟩ := bind_ok.1 h
  obtain ⟨hsoon, rfl⟩ := require_ok.1 hr
  obtain ⟨_, _, hr, h⟩ := bind_ok.1 h
  obtain ⟨-, rfl⟩ := require_ok.1 hr
  obtain ⟨hprov, rfl⟩ := require_ok.1 h
  exact ⟨rfl, hpos, by omega, by omega, hprov⟩

/-- A deposit that succeeds. -/
theorem deposit_ok {D : Addresses Key} {now : ℕ} {signers : List Key} {ctx : Deposit Key}
    {amount : ℕ} {serviceId : ServiceId} {expirySlot : ℕ} {u : Unit} {s s' : Chain Key}
    (h : deposit D now signers ctx amount serviceId expirySlot s = .ok u s') :
    DepositSpec D now signers ctx amount serviceId expirySlot s s' := by
  unfold deposit at h
  obtain ⟨_, s₁, hcon, h⟩ := bind_ok.1 h
  obtain ⟨hsigned, hmint, hseeds, hfresh, ⟨a, ha, -, hao⟩, hinit⟩ := depositConstraints_ok hcon
  obtain ⟨_, _, hg, h⟩ := bind_ok.1 h
  obtain ⟨rfl, hpos, hsoon, hfar, hprov⟩ := depositGuards_ok hg
  obtain ⟨_, _, hw, h⟩ := bind_ok.1 h
  obtain rfl := modify_ok.1 hw
  have hcons := transferChecked_conserves h
  have hinitCons := hinit.conserves ctx.agent
  refine ⟨hsigned, hmint, hseeds, hinit.address, hfresh, hpos, ⟨hsoon, hfar⟩, hprov, ?_, ?_, ?_,
    ?_⟩
  · rw [hcons.escrows]
    exact congrArg (AList.insert _ _) hinitCons.escrows
  · intro m
    exact (hcons.total m).trans (hinitCons.total m)
  · exact hinitCons.keeps.trans hcons.keeps
  · intro hne
    have hacct : ctx.agentTokenAccount ≠ ctx.vault :=
      hinit.ne_of_owner ha (hao ▸ hne.symm)
    obtain ⟨v, hv, hvm, hvo⟩ := hinit.present
    obtain ⟨v', hv', hvm', hvo', -⟩ := hcons.keeps ctx.vault v hv (by rw [hvo]; exact hne.symm)
    refine ⟨v', hv', hvm'.trans (hvm.trans hmint), hvo'.trans hvo, ?_⟩
    rw [← balance_of_lookup hv', (transferChecked_moved hacct h).credit, ← hinit.balance]
    rfl

/-- A closed escrow takes its record and its vault away. -/
theorem closeEscrow_ok {escrow vault : Key} {u : Unit} {s s' : Chain Key}
    (h : closeEscrow escrow vault s = .ok u s') :
    s'.tokens = s.tokens.erase vault ∧ s'.escrows = s.escrows.erase escrow ∧
      (∀ m, totalOf m s' = totalOf m s) ∧ KeepsExcept escrow s s' := by
  unfold closeEscrow at h
  obtain ⟨_, _, hclose, h⟩ := bind_ok.1 h
  have hcons := closeAccount_conserves hclose
  obtain ⟨a, -, -, -, rfl⟩ := closeAccount_cases hclose
  obtain rfl := modify_ok.1 h
  exact ⟨rfl, rfl, hcons.total, hcons.keeps⟩

/-- What a successful `claim` of `n` checked, and what it leaves behind. The payouts hold
when the escrow's agent is a key that can sign, as every depositor is. -/
structure ClaimSpec (D : Addresses Key) (slot : ℕ) (signers : List Key) (ctx : Claim Key)
    (n : ℕ) (e : Escrow Key) (s s' : Chain Key) : Prop where
  record : s.escrows.lookup ctx.escrow = some e
  signed : e.provider ∈ signers
  positive : 0 < n
  bounded : n ≤ e.amount
  open_ : slot < e.expirySlot
  closed : s'.escrows = s.escrows.erase ctx.escrow
  total : ∀ m, totalOf m s' = totalOf m s
  keeps : KeepsExcept ctx.escrow s s'
  vaultGone : s'.tokens.lookup (D.ata ctx.escrow e.mint) = none
  payouts : D.canSign e.provider = true → D.canSign e.agent = true →
    balance s' (D.ata e.provider e.mint) = balance s (D.ata e.provider e.mint) + n ∧
    balance s' (D.ata e.agent e.mint) =
      balance s (D.ata e.agent e.mint) + (balance s (D.ata ctx.escrow e.mint) - n) ∧
    ∀ k, k ≠ D.ata ctx.escrow e.mint → k ≠ D.ata e.provider e.mint →
      k ≠ D.ata e.agent e.mint → s'.tokens.lookup k = s.tokens.lookup k

/-- What the constraints of a claim have checked. -/
theorem claimConstraints_ok {D : Addresses Key} {signers : List Key} {ctx : Claim Key}
    {e : Escrow Key} {s s' : Chain Key} (h : claimConstraints D signers ctx s = .ok e s') :
    s.escrows.lookup ctx.escrow = some e ∧ ctx.escrow = D.escrow e.agent e.serviceId ∧
      e.provider = ctx.provider ∧ e.mint = ctx.mint ∧ ctx.agent = e.agent ∧
      ctx.provider ∈ signers ∧ ctx.vault = D.ata ctx.escrow ctx.mint ∧
      (∃ v, s.tokens.lookup ctx.vault = some v ∧ v.mint = ctx.mint ∧ v.owner = ctx.escrow) ∧
      ∃ t, Initialised D ctx.providerTokenAccount ctx.provider ctx.mint s t ∧
        Initialised D ctx.agentTokenAccount ctx.agent ctx.mint t s' := by
  unfold claimConstraints at h
  obtain ⟨e', _, hread, h⟩ := bind_ok.1 h
  obtain ⟨he, hk, rfl⟩ := escrowAccount_ok hread
  obtain ⟨_, _, hr, h⟩ := bind_ok.1 h
  obtain ⟨hp, rfl⟩ := require_ok.1 hr
  obtain ⟨_, _, hr, h⟩ := bind_ok.1 h
  obtain ⟨hm, rfl⟩ := require_ok.1 hr
  obtain ⟨_, _, hr, h⟩ := bind_ok.1 h
  obtain ⟨ha, rfl⟩ := require_ok.1 hr
  obtain ⟨_, _, hr, h⟩ := bind_ok.1 h
  obtain ⟨hs, rfl⟩ := require_ok.1 hr
  obtain ⟨_, _, hata, h⟩ := bind_ok.1 h
  obtain ⟨rfl, hv, hheld⟩ := associatedToken_ok hata
  obtain ⟨_, t, hi₁, h⟩ := bind_ok.1 h
  obtain ⟨_, _, hi₂, h⟩ := bind_ok.1 h
  obtain ⟨rfl, rfl⟩ := pure_ok.1 h
  exact ⟨he, hk, hp, hm, ha, hs, hv, hheld, t, initIfNeeded_ok hi₁, initIfNeeded_ok hi₂⟩

omit [DecidableEq Key] in
/-- A key that can sign is no escrow address. -/
theorem Addresses.ne_escrow_of_canSign (D : Addresses Key) {k : Key} (h : D.canSign k = true)
    (agent : Key) (serviceId : ServiceId) : k ≠ D.escrow agent serviceId := by
  rintro rfl
  rw [D.escrow_canSign] at h
  exact absurd h (by decide)

/-- Three payments out of one vault: `n` to the first payee, then a part and then all of the
rest to the second. -/
theorem balances_of_moves {vault p a : Key} {n r : ℕ} {s t u w : Chain Key} (hvp : vault ≠ p)
    (hva : vault ≠ a) (hpa : p ≠ a)
    (h₁ : Moved vault p n s t) (h₂ : Moved vault a r t u)
    (h₃ : Moved vault a (balance u vault) u w) :
    balance w p = balance s p + n ∧ balance w a = balance s a + (balance s vault - n) ∧
      ∀ k, k ≠ vault → k ≠ p → k ≠ a → w.tokens.lookup k = s.tokens.lookup k := by
  have hp : balance w p = balance t p := by
    rw [balance_congr (h₃.other p hvp.symm hpa), balance_congr (h₂.other p hvp.symm hpa)]
  have ha : balance t a = balance s a := balance_congr (h₁.other a hva.symm hpa.symm)
  refine ⟨?_, ?_, ?_⟩
  · rw [hp, h₁.credit]
  · rw [h₃.credit, h₂.credit, h₂.debit, h₁.debit, ha]
    have hr := h₂.enough
    rw [h₁.debit] at hr
    omega
  · intro k hkv hkp hka
    rw [h₃.other k hkv hka, h₂.other k hkv hka, h₁.other k hkv hkp]

/-- A claim that succeeds. -/
theorem claim_ok {D : Addresses Key} {slot : ℕ} {signers : List Key} {ctx : Claim Key} {n : ℕ}
    {u : Unit} {s s' : Chain Key} (h : claim D slot signers ctx n s = .ok u s') :
    ∃ e, ClaimSpec D slot signers ctx n e s s' := by
  unfold claim at h
  obtain ⟨e, s₂, hcon, h⟩ := bind_ok.1 h
  obtain ⟨he, hk, hp, hm, ha, hsigned, hv, ⟨x, hx, -, hxo⟩, s₁, hi₁, hi₂⟩ :=
    claimConstraints_ok hcon
  obtain ⟨_, _, hr, h⟩ := bind_ok.1 h
  obtain ⟨hle, rfl⟩ := require_ok.1 hr
  obtain ⟨_, _, hr, h⟩ := bind_ok.1 h
  obtain ⟨hpos, rfl⟩ := require_ok.1 hr
  obtain ⟨_, _, hr, h⟩ := bind_ok.1 h
  obtain ⟨hslot, rfl⟩ := require_ok.1 hr
  obtain ⟨_, _, hr, h⟩ := bind_ok.1 h
  obtain ⟨hdup, rfl⟩ := require_ok.1 hr
  obtain ⟨_, s₃, ht₁, h⟩ := bind_ok.1 h
  obtain ⟨_, s₄, ht₂, h⟩ := bind_ok.1 h
  obtain ⟨v, _, hread, h⟩ := bind_ok.1 h
  obtain ⟨hvault, rfl⟩ := tokenAccount_ok hread
  obtain ⟨_, s₅, ht₃, h⟩ := bind_ok.1 h
  obtain ⟨htok, hesc, htot, hkeeps⟩ := closeEscrow_ok h
  rw [← hm] at hv
  have hcons : Conserves ctx.escrow s s₅ :=
    (((hi₁.conserves ctx.escrow).trans (hi₂.conserves ctx.escrow)).trans
      (transferChecked_conserves ht₁)).trans
      ((transferPositive_conserves ht₂).trans (transferPositive_conserves ht₃))
  refine ⟨e, he, hp ▸ hsigned, hpos, hle, hslot, ?_, ?_, hcons.keeps.trans hkeeps, ?_, ?_⟩
  · rw [hesc, hcons.escrows]
  · intro m
    rw [htot, hcons.total]
  · rw [htok, ← hv]
    exact AList.lookup_erase _ _
  · intro hcanP hcanA
    have hPne := D.ne_escrow_of_canSign hcanP e.agent e.serviceId
    have hAne := D.ne_escrow_of_canSign hcanA e.agent e.serviceId
    have hprovAta : ctx.providerTokenAccount = D.ata e.provider e.mint := by
      rw [hi₁.address, hp, hm]
    have hagentAta : ctx.agentTokenAccount = D.ata e.agent e.mint := by
      rw [hi₂.address, ha, hm]
    -- the escrow owns the vault, and is neither the provider nor the agent
    have hvp : ctx.vault ≠ ctx.providerTokenAccount := by
      refine hi₁.ne_of_owner hx ?_
      rw [hxo, hk, ← hp]
      exact hPne
    have hva : ctx.vault ≠ ctx.agentTokenAccount := by
      refine hi₂.ne_of_owner (hi₁.keeps _ x hx) ?_
      rw [hxo, hk, ha]
      exact hAne
    have hdrained := balance_of_lookup hvault ▸ transferPositive_moved hva ht₃
    obtain ⟨hprov, hagent, hother⟩ := balances_of_moves hvp hva hdup
      (transferChecked_moved hvp ht₁) (transferPositive_moved hva ht₂) hdrained
    have herase : ∀ k, k ≠ ctx.vault → s'.tokens.lookup k = s₅.tokens.lookup k := by
      intro k hkv
      rw [htok, AList.lookup_erase_ne hkv]
    rw [← hv, ← hprovAta, ← hagentAta]
    refine ⟨?_, ?_, ?_⟩
    · rw [balance_congr (herase _ hvp.symm), hprov, hi₂.balance, hi₁.balance]
    · rw [balance_congr (herase _ hva.symm), hagent, hi₂.balance, hi₁.balance, hi₂.balance,
        hi₁.balance]
    · intro k hkv hkp hka
      rw [herase k hkv, hother k hkv hkp hka, hi₂.other k hka, hi₁.other k hkp]

/-- What a successful `refund` checked, and what it leaves behind: the whole vault goes to
the agent and no other account changes. -/
structure RefundSpec (D : Addresses Key) (slot : ℕ) (signers : List Key) (ctx : Refund Key)
    (e : Escrow Key) (s s' : Chain Key) : Prop where
  record : s.escrows.lookup ctx.escrow = some e
  signed : e.agent ∈ signers
  expired : e.expirySlot ≤ slot
  closed : s'.escrows = s.escrows.erase ctx.escrow
  total : ∀ m, totalOf m s' = totalOf m s
  keeps : KeepsExcept ctx.escrow s s'
  vaultGone : s'.tokens.lookup (D.ata ctx.escrow e.mint) = none
  payouts : D.canSign e.agent = true →
    balance s' (D.ata e.agent e.mint) =
      balance s (D.ata e.agent e.mint) + balance s (D.ata ctx.escrow e.mint) ∧
    ∀ k, k ≠ D.ata ctx.escrow e.mint → k ≠ D.ata e.agent e.mint →
      s'.tokens.lookup k = s.tokens.lookup k

/-- What the constraints of a refund have checked. -/
theorem refundConstraints_ok {D : Addresses Key} {signers : List Key} {ctx : Refund Key}
    {e : Escrow Key} {s s' : Chain Key} (h : refundConstraints D signers ctx s = .ok e s') :
    s.escrows.lookup ctx.escrow = some e ∧ ctx.escrow = D.escrow e.agent e.serviceId ∧
      e.mint = ctx.mint ∧ ctx.agent ∈ signers ∧ ctx.agent = e.agent ∧
      ctx.vault = D.ata ctx.escrow ctx.mint ∧
      (∃ v, s.tokens.lookup ctx.vault = some v ∧ v.mint = ctx.mint ∧ v.owner = ctx.escrow) ∧
      Initialised D ctx.agentTokenAccount ctx.agent ctx.mint s s' := by
  unfold refundConstraints at h
  obtain ⟨e', _, hread, h⟩ := bind_ok.1 h
  obtain ⟨he, hk, rfl⟩ := escrowAccount_ok hread
  obtain ⟨_, _, hr, h⟩ := bind_ok.1 h
  obtain ⟨hm, rfl⟩ := require_ok.1 hr
  obtain ⟨_, _, hr, h⟩ := bind_ok.1 h
  obtain ⟨hs, rfl⟩ := require_ok.1 hr
  obtain ⟨_, _, hr, h⟩ := bind_ok.1 h
  obtain ⟨ha, rfl⟩ := require_ok.1 hr
  obtain ⟨_, _, hata, h⟩ := bind_ok.1 h
  obtain ⟨rfl, hv, hheld⟩ := associatedToken_ok hata
  obtain ⟨_, _, hi, h⟩ := bind_ok.1 h
  obtain ⟨rfl, rfl⟩ := pure_ok.1 h
  exact ⟨he, hk, hm, hs, ha, hv, hheld, initIfNeeded_ok hi⟩

/-- A refund that succeeds. -/
theorem refund_ok {D : Addresses Key} {slot : ℕ} {signers : List Key} {ctx : Refund Key}
    {u : Unit} {s s' : Chain Key} (h : refund D slot signers ctx s = .ok u s') :
    ∃ e, RefundSpec D slot signers ctx e s s' := by
  unfold refund at h
  obtain ⟨e, s₁, hcon, h⟩ := bind_ok.1 h
  obtain ⟨he, hk, hm, hsigned, ha, hv, ⟨x, hx, -, hxo⟩, hi⟩ := refundConstraints_ok hcon
  obtain ⟨_, _, hr, h⟩ := bind_ok.1 h
  obtain ⟨hslot, rfl⟩ := require_ok.1 hr
  obtain ⟨v, _, hread, h⟩ := bind_ok.1 h
  obtain ⟨hvault, rfl⟩ := tokenAccount_ok hread
  obtain ⟨_, _, hr, h⟩ := bind_ok.1 h
  obtain ⟨-, rfl⟩ := require_ok.1 hr
  obtain ⟨_, s₂, ht, h⟩ := bind_ok.1 h
  obtain ⟨htok, hesc, htot, hkeeps⟩ := closeEscrow_ok h
  rw [← hm] at hv
  -- the transfer keeps the records, and the sum of every mint
  have hcons : Conserves ctx.escrow s s₂ :=
    (hi.conserves ctx.escrow).trans (transferChecked_conserves ht)
  refine ⟨e, he, ha ▸ hsigned, hslot, ?_, ?_, hcons.keeps.trans hkeeps, ?_, ?_⟩
  · rw [hesc, hcons.escrows]
  · intro m
    rw [htot, hcons.total]
  · rw [htok, ← hv]
    exact AList.lookup_erase _ _
  · intro hcanA
    have hAne := D.ne_escrow_of_canSign hcanA e.agent e.serviceId
    have hagentAta : ctx.agentTokenAccount = D.ata e.agent e.mint := by
      rw [hi.address, ha, hm]
    -- the vault belongs to the escrow, which cannot sign, so it is not the agent's account
    have hva : ctx.vault ≠ ctx.agentTokenAccount := by
      refine hi.ne_of_owner hx ?_
      rw [hxo, hk, ha]
      exact hAne
    have hmoved := transferChecked_moved hva ht
    rw [← hv, ← hagentAta]
    refine ⟨?_, ?_⟩
    · have herase : s'.tokens.lookup ctx.agentTokenAccount =
          s₂.tokens.lookup ctx.agentTokenAccount := by
        rw [htok, AList.lookup_erase_ne hva.symm]
      rw [balance_congr herase, hmoved.credit, ← balance_of_lookup hvault, hi.balance, hi.balance]
    · intro k hkv hka
      rw [htok, AList.lookup_erase_ne hkv, hmoved.other k hkv hka, hi.other k hka]

end

end Solvela.EscrowProgram
