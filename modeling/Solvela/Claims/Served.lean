import Solvela.Chat.Recorded

/-!
# Served escrow payments and their claims

Three routes accept the escrow scheme: chat, the A2A leg and the service proxy. Each settles the
deposit before it serves. Only the chat route then fires a claim, in its success arm; the A2A
leg and the proxy record the spend of a settled deposit and never claim it.
-/

namespace Solvela.Claims

open Solvela.ChannelLedger Solvela.Channel Solvela.Chat

/-! ## The A2A record -/

/-- `record_a2a_settlement`: the spend row and the receipt of a settled task, both for the quoted
total. `stored` is the breakdown of the stored `payment_required`, if it still parses, and
`scheme` the accepted scheme, if it is a known one. -/
def recordA2aSettlement (db : ClaimQueueDb) (stored : Option CostBreakdown)
    (scheme : Option PaymentScheme) : Option ℕ × Option ℕ :=
  match stored with
  | none => (none, none)
  | some breakdown =>
    match usdcAtomicAmountChecked breakdown.providerCost,
      usdcAtomicAmountChecked breakdown.total with
    | some providerCostAtomic, some totalAtomic =>
      if totalAtomic < providerCostAtomic then (none, none)
      else
        match scheme with
        | none => (none, none)
        | some _ =>
          (some totalAtomic,
            if db ≠ .absent ∧ totalAtomic ≤ i64Max then some totalAtomic else none)
    | _, _ => (none, none)

/-! ## One run of each route -/

/-- A run of a route with a verified escrow payload. `settled` is the deposit's settlement and
`delivered` the provider's or the upstream's answer. -/
inductive EscrowRun
  | chat (c : PaidChat) (dep : EscrowDeposit) (paid : c.payment = .escrow dep)
    (settled delivered : Bool)
  | a2a (stored : Option CostBreakdown) (db : ClaimQueueDb) (dep : EscrowDeposit)
    (settled delivered : Bool)
  | proxy (expectedAtomic : ℕ) (vendor : Bool) (dep : EscrowDeposit) (settled delivered : Bool)

/-- What a run leaves behind. -/
structure EscrowOutcome where
  settled : Bool
  delivered : Bool
  spendRow : Option ℕ
  claim : Option FiredClaim

namespace EscrowRun

/-- The deposit of a run. -/
def deposit : EscrowRun → EscrowDeposit
  | chat _ dep _ _ _ => dep
  | a2a _ _ dep _ _ => dep
  | proxy _ _ dep _ _ => dep

/-- The route with the answers it gets. -/
def outcome : EscrowRun → EscrowOutcome
  | chat c _ _ settled delivered =>
    if settled = false then ⟨false, false, none, none⟩
    -- no claim, so the deposit refunds at expiry
    else if delivered = false then ⟨true, false, none, none⟩
    else ⟨true, true, c.settle.spendRow, c.settle.claim⟩
  | a2a stored db _ settled delivered =>
    if settled = false then ⟨false, false, none, none⟩
    -- both arms after the provider call record the quoted total
    else ⟨true, delivered, (recordA2aSettlement db stored (some .escrow)).1, none⟩
  | proxy expectedAtomic vendor _ settled delivered =>
    -- a vendor's recipient is no override the escrow verifier supports
    if vendor = true ∨ settled = false then ⟨false, false, none, none⟩
    -- the spend is recorded at the settlement, before the upstream call
    else ⟨true, delivered, some expectedAtomic, none⟩

/-- The deposit settled, the provider delivered and a positive spend was recorded. -/
def Served (run : EscrowRun) : Prop :=
  run.outcome.settled = true ∧ run.outcome.delivered = true ∧ 0 < run.outcome.spendRow.getD 0

/-- A claim for a positive amount within the deposit went out for this escrow. -/
def Claimed (run : EscrowRun) : Prop :=
  ∃ claim, run.outcome.claim = some claim ∧ claim.serviceId = run.deposit.serviceId ∧
    claim.agentPubkey = run.deposit.agentText ∧ 0 < claim.amount ∧
    claim.amount ≤ run.deposit.amount

/-- When the claim of a served run goes out: on the chat route, to a queue or a claimer that is
there, for an amount that is priced and not truncated to nothing. -/
def ClaimFires : EscrowRun → Prop
  | chat c _ _ _ _ =>
    c.sinks.reachable = true ∧
      match c.discount, c.cappedUsage with
      | some _, _ => True
      | none, some u =>
        0 < (computeActualAtomicCost c.pct u.promptTokens u.completionTokens c.model
          .binary64).getD 0
      | none, none => 0 < c.claimEstimate
  | a2a _ _ _ _ _ => False
  | proxy _ _ _ _ _ => False

/-! ## The chat route -/

/-- The deposit of a chat request is positive: it covers a quote that is not free. -/
theorem deposit_pos (c : PaidChat) (dep : EscrowDeposit) (paid : c.payment = .escrow dep) :
    0 < dep.amount := by
  have hpos := c.expected_pos
  have hclient := c.client_sufficient
  have hcovers : c.clientAmount ≤ dep.amount := by
    have h := c.covers
    rwa [paid] at h
  omega

/-- The claim of a chat request, in closed form. -/
theorem claim_settle (c : PaidChat) (dep : EscrowDeposit) (paid : c.payment = .escrow dep) :
    c.settle.claim
      = if 0 < min ((c.claimAtomic .escrow).getD 0) dep.amount ∧ c.sinks.reachable = true then
          some ⟨dep.serviceId, dep.agentText, min ((c.claimAtomic .escrow).getD 0) dep.amount,
            some dep.amount⟩
        else none := by
  simp only [PaidChat.settle, paid]
  cases c.claimAtomic .escrow with
  | none => simp
  | some amount => exact fireEscrowClaim_deposit c.sinks dep amount c.clientAmount

/-- A chat request claims something exactly when its claim is priced, positive and has somewhere
to go. -/
theorem claimed_chat_iff (c : PaidChat) (dep : EscrowDeposit) (paid : c.payment = .escrow dep) :
    Claimed (.chat c dep paid true true) ↔
      c.sinks.reachable = true ∧ 0 < (c.claimAtomic .escrow).getD 0 := by
  have hdep := deposit_pos c dep paid
  have houtcome : (EscrowRun.chat c dep paid true true).outcome.claim = c.settle.claim := rfl
  unfold Claimed
  rw [houtcome, claim_settle c dep paid]
  constructor
  · intro h
    obtain ⟨claim, hclaim, -⟩ := h
    split at hclaim
    · rename_i hfires
      have hmin : min ((c.claimAtomic .escrow).getD 0) dep.amount ≤
          (c.claimAtomic .escrow).getD 0 :=
        min_le_left _ _
      exact ⟨hfires.2, by omega⟩
    · cases hclaim
  · intro h
    have hmin : 0 < min ((c.claimAtomic .escrow).getD 0) dep.amount := lt_min h.2 hdep
    rw [if_pos ⟨hmin, h.1⟩]
    exact ⟨_, rfl, rfl, rfl, hmin, min_le_right _ _⟩

/-- A positive row of a discounted request is the discount itself. -/
theorem discount_pos_of_row {c : PaidChat} {d : SemanticDiscount} (hd : c.discount = some d)
    (h : 0 < ((c.spendArm .escrow false).1).getD 0) : 0 < d.discountedAtomic := by
  have hdiscount : schemeRealizedDiscount .escrow c.discount = some d := hd
  rw [PaidChat.spendArm_collected, hdiscount] at h
  cases hprice : PaidChat.ledgerPrice c.rowCost with
  | none =>
    rw [hprice] at h
    exact absurd h (by simp)
  | some price =>
    rw [hprice] at h
    exact h

/-! ## Every route -/

/-- A served escrow payment is claimed if and only if it was served on the chat route and its
claim fires. -/
theorem served_claimed_iff (run : EscrowRun) (hserved : run.Served) :
    run.Claimed ↔ run.ClaimFires := by
  cases run with
  | chat c dep paid settled delivered =>
    have hsettled : settled = true := by
      by_contra hne
      have hfalse : settled = false := by simpa using hne
      have h := hserved.1
      simp [outcome, hfalse] at h
    subst hsettled
    have hdelivered : delivered = true := by
      by_contra hne
      have hfalse : delivered = false := by simpa using hne
      have h := hserved.2.1
      simp [outcome, hfalse] at h
    subst hdelivered
    -- what was recorded is positive, so what the discount leaves is
    have hrow : 0 < ((c.spendArm .escrow false).1).getD 0 := by
      have h : 0 < c.settle.spendRow.getD 0 := hserved.2.2
      simpa only [PaidChat.settle, paid] using h
    rw [claimed_chat_iff]
    unfold ClaimFires
    apply and_congr Iff.rfl
    have hdiscount : schemeRealizedDiscount .escrow c.discount = c.discount := rfl
    unfold PaidChat.claimAtomic
    rw [hdiscount]
    cases hd : c.discount with
    | some d =>
      simp only [Option.getD_some, iff_true]
      exact discount_pos_of_row hd hrow
    | none =>
      cases c.cappedUsage with
      | some u => exact Iff.rfl
      | none => exact Iff.rfl
  -- the other two routes never fire a claim
  | a2a stored db dep settled delivered =>
    unfold ClaimFires Claimed outcome
    simp only [iff_false]
    rintro ⟨claim, hclaim, -⟩
    split at hclaim <;> cases hclaim
  | proxy expectedAtomic vendor dep settled delivered =>
    unfold ClaimFires Claimed outcome
    simp only [iff_false]
    rintro ⟨claim, hclaim, -⟩
    split at hclaim <;> cases hclaim

/-! ## Deposits that are served and never claimed -/

/-- A deposit of 10763 from the key of 32 zero bytes, for the service id of 32 zero bytes. -/
def zeroDeposit : EscrowDeposit where
  serviceIdText := "AAAAAAAAAAAAAAAAAAAAAAAAAAAAAAAAAAAAAAAAAAA="
  agentText := "11111111111111111111111111111111"
  serviceId := Vector.replicate 32 0
  agent := Vector.replicate 32 0
  amount := 10763
  serviceId_decodes := by decide +kernel
  agent_decodes := by decide +kernel

/-- A chat call on escrow is claimed: the theorem at a call that meets it. -/
theorem served_claimed_iff_chat :
    (EscrowRun.chat (PaidChat.gpt4oCall (.escrow zeroDeposit) le_rfl) zeroDeposit rfl true
      true).Served ∧
    (EscrowRun.chat (PaidChat.gpt4oCall (.escrow zeroDeposit) le_rfl) zeroDeposit rfl true
      true).Claimed := by
  have hserved : (EscrowRun.chat (PaidChat.gpt4oCall (.escrow zeroDeposit) le_rfl) zeroDeposit rfl
      true true).Served := ⟨rfl, rfl, by decide +kernel⟩
  refine ⟨hserved, (served_claimed_iff _ hserved).mpr ?_⟩
  have hpriced :
      0 < (computeActualAtomicCost 5 100 50 ⟨some (5 / 2), some 10, 128000, none⟩
        .binary64).getD 0 := by
    decide +kernel
  exact ⟨rfl, hpriced⟩

/-- A task that was quoted 10763 and paid by a deposit: settled, delivered and recorded. -/
def a2aTask : EscrowRun :=
  .a2a (some ⟨.decimal false 10250, .decimal false 10763⟩) .up zeroDeposit true true

/-- The task of an A2A agent is served and its deposit is never claimed. -/
theorem a2aTask_served_unclaimed :
    a2aTask.Served ∧ ¬ a2aTask.Claimed ∧ ¬ ∀ run : EscrowRun, run.Served → run.Claimed := by
  have hserved : a2aTask.Served := ⟨rfl, rfl, by decide +kernel⟩
  have hunclaimed : ¬ a2aTask.Claimed := by
    rintro ⟨claim, hclaim, -⟩
    cases hclaim
  exact ⟨hserved, hunclaimed, fun h => hunclaimed (h a2aTask hserved)⟩

end EscrowRun

end Solvela.Claims
