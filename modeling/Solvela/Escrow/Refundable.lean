import Solvela.Escrow.Claimable
import Solvela.Escrow.RefundMessage

/-!
# An escrow that its agent can have refunded

Every record stands for a positive amount (`positive_run`), and a live escrow holds it. So a refund
by the agent succeeds from the expiry slot on, and at no slot before (`succeeds_refund_iff`), as
long as the agent's token account is missing or still the agent's. The transaction that
`build_refund_tx` returns is such a refund.
-/

namespace Solvela.EscrowProgram

open Solvela.Lib
open Solvela.Lib.Txn

section
variable {Key : Type} [DecidableEq Key] {D : Addresses Key}

/-! ## Positive amounts -/

/-- Every record stands for a positive amount. -/
def Positive (s : Chain Key) : Prop := ∀ k e, s.escrows.lookup k = some e → 0 < e.amount

/-- Closing an escrow leaves positive ones. -/
theorem positive_of_closed {s s' : Chain Key} {k' : Key} (hpos : Positive s)
    (hclosed : s'.escrows = s.escrows.erase k') : Positive s' := by
  intro k e he
  rw [hclosed, Table.lookup_erase_eq] at he
  by_cases hk : k = k'
  · rw [if_pos hk] at he
    exact absurd he (by simp)
  · rw [if_neg hk] at he
    exact hpos k e he

/-- What one transaction preserves. -/
theorem positive_exec (s : Chain Key) (tx : Transaction Key) (hpos : Positive s) :
    Positive (exec D s tx) := by
  rcases exec_cases (D := D) s tx with ⟨-, hs⟩ | ⟨-, -, heff⟩
  · rw [hs]
    exact hpos
  · cases heff with
    | deposit ctx amount serviceId expirySlot _ spec =>
      intro k e he
      rw [spec.record, Table.lookup_insert_eq] at he
      by_cases hk : k = ctx.escrow
      · rw [if_pos hk] at he
        rw [← Option.some.inj he]
        exact spec.positive
      · rw [if_neg hk] at he
        exact hpos k e he
    | claim ctx n e _ spec => exact positive_of_closed hpos spec.closed
    | refund ctx e _ spec => exact positive_of_closed hpos spec.closed
    | token escrows _ _ _ =>
      intro k e he
      rw [escrows] at he
      exact hpos k e he

/-- What a run preserves. -/
theorem positive_run {s : Chain Key} (hpos : Positive s) (txs : List (Transaction Key)) :
    Positive (run (exec D) s txs) :=
  run_invariant positive_exec hpos txs

/-! ## The refund of a live escrow -/

/-- The accounts that the agent of the escrow at `k` has it refunded with. -/
def Escrow.refundAccounts (D : Addresses Key) (k : Key) (e : Escrow Key) : Refund Key where
  escrow := k
  agent := e.agent
  mint := e.mint
  vault := D.ata k e.mint
  agentTokenAccount := D.ata e.agent e.mint

/-- The agent's refund. -/
def Escrow.refundTx (D : Addresses Key) (k : Key) (e : Escrow Key) (slot : ℕ) :
    Transaction Key where
  slot := slot
  signers := [e.agent]
  instr := .refund (e.refundAccounts D k)

/-- A live escrow passes the constraints of a refund. -/
theorem refundConstraints_of_live {s : Chain Key} {k : Key} {e : Escrow Key}
    (hrecord : s.escrows.lookup k = some e) (hlive : LiveEscrow D s k e)
    (hagent : Usable D s e.agent e.mint) :
    ∃ s', refundConstraints D [e.agent] (e.refundAccounts D k) s = .ok e s' := by
  obtain ⟨s', hinit⟩ := initIfNeeded_of_usable hagent
  obtain ⟨v, hv, hvm, hvo, -⟩ := hlive.vault
  rw [← hlive.mint] at hv hvm
  have hread : escrowAccount D k s = .ok e s := by
    refine bind_ok.2 ⟨s, s, get_ok.2 ⟨rfl, rfl⟩, bind_ok.2 ⟨e, s, okOr_ok.2 ⟨hrecord, rfl⟩, ?_⟩⟩
    exact bind_ok.2 ⟨(), s, require_ok.2 ⟨hlive.address, rfl⟩, pure_ok.2 ⟨rfl, rfl⟩⟩
  refine ⟨s', ?_⟩
  unfold refundConstraints
  refine bind_ok.2 ⟨e, s, hread, bind_ok.2 ⟨(), s, require_ok.2 ⟨rfl, rfl⟩, ?_⟩⟩
  refine bind_ok.2 ⟨(), s, require_ok.2 ⟨List.mem_singleton_self _, rfl⟩, ?_⟩
  refine bind_ok.2 ⟨(), s, require_ok.2 ⟨rfl, rfl⟩, ?_⟩
  refine bind_ok.2 ⟨(), s, associatedToken_of_lookup hv hvm hvo, ?_⟩
  exact bind_ok.2 ⟨(), s', hinit, pure_ok.2 ⟨rfl, rfl⟩⟩

/-- From the expiry slot on the refund runs through. -/
theorem refund_of_live {s : Chain Key} {k : Key} {e : Escrow Key} {slot : ℕ}
    (hrecord : s.escrows.lookup k = some e) (hlive : LiveEscrow D s k e) (hpos : 0 < e.amount)
    (hagent : Usable D s e.agent e.mint) (htotal : totalOf e.mint s ≤ u64Max)
    (hslot : e.expirySlot ≤ slot) :
    ∃ s', refund D slot [e.agent] (e.refundAccounts D k) s = .ok () s' := by
  obtain ⟨s₁, hcon⟩ := refundConstraints_of_live hrecord hlive hagent
  obtain ⟨-, -, -, -, -, -, -, hinit⟩ := refundConstraints_ok hcon
  have hva := hlive.vault_ne_ata hlive.agent hagent
  -- the vault, and the account that the constraints have made sure of
  obtain ⟨v, hv, hvm, hvo, hva'⟩ := hlive.vault
  rw [← hlive.mint] at hv hvm
  obtain ⟨a, ha, ham, -⟩ := hinit.present
  have hv₁ := hinit.keeps _ v hv
  have htotal₁ : totalOf e.mint s₁ ≤ u64Max := by
    rw [hinit.total]
    exact htotal
  obtain ⟨s₂, htransfer, hv₂, -⟩ :=
    transferChecked_of_enough hva hv₁ ha hvm ham hvo le_rfl htotal₁
  obtain ⟨s₃, hclose⟩ := closeEscrow_of_empty hv₂ (Nat.sub_self _) hvo
  refine ⟨s₃, bind_ok.2 ⟨e, s₁, hcon, bind_ok.2 ⟨(), s₁, require_ok.2 ⟨hslot, rfl⟩, ?_⟩⟩⟩
  refine bind_ok.2 ⟨v, s₁, tokenAccount_of_lookup hv₁, ?_⟩
  refine bind_ok.2 ⟨(), s₁, require_ok.2 ⟨hpos.trans_le hva', rfl⟩, ?_⟩
  exact bind_ok.2 ⟨(), s₂, htransfer, hclose⟩

/-- The agent's refund of a live escrow succeeds exactly from the expiry slot on. -/
theorem succeeds_refund_iff {s : Chain Key} {k : Key} {e : Escrow Key}
    (hrecord : s.escrows.lookup k = some e) (hlive : LiveEscrow D s k e) (hpos : 0 < e.amount)
    (hagent : Usable D s e.agent e.mint) (htotal : totalOf e.mint s ≤ u64Max) (slot : ℕ) :
    Succeeds D s (e.refundTx D k slot) ↔ e.expirySlot ≤ slot := by
  constructor
  · intro hok
    exact expired_of_refund hok rfl hrecord
  · intro hslot
    obtain ⟨s', hrefund⟩ := refund_of_live hrecord hlive hpos hagent htotal hslot
    have hsigned : ∀ key ∈ (e.refundTx D k slot).signers, D.canSign key = true := by
      intro key hkey
      rw [List.mem_singleton.1 hkey]
      exact hlive.agent
    have hsubmit : submit D (e.refundTx D k slot) s = .ok () s' :=
      atomically_ok.2 (bind_ok.2 ⟨(), s, require_ok.2 ⟨hsigned, rfl⟩, hrefund⟩)
    rw [Succeeds, hsubmit]
    rfl

end

end Solvela.EscrowProgram

namespace Solvela.EscrowRefund

open Solvela.Lib (run)
open Solvela.ChannelLedger hiding u64Max
open Solvela.EscrowPayment
open Solvela.EscrowProgram
open Solvela.Payment hiding Externals verifyPayment
open Solvela.Signer

/-! ## The refund that is built -/

/-- The cluster derives the addresses that the builder has derived, and the mint is USDC. -/
structure ReadsAlike {Key : Type} (D : Addresses Key) (read : Pubkey → Key)
    (params : RefundParams) (keys : RefundKeys) : Prop where
  mint : read keys.mint = D.usdcMint
  escrow : read keys.escrow = D.escrow (read keys.agent) params.serviceId
  vault : read keys.vault = D.ata (read keys.escrow) (read keys.mint)
  agentAta : read keys.agentAta = D.ata (read keys.agent) (read keys.mint)

/-- Unless two agents derive one escrow address, the record there is the agent's, and the accounts
of its refund are those of the record. -/
theorem context_eq {Key : Type} [DecidableEq Key] {D : Addresses Key} {read : Pubkey → Key}
    {params : RefundParams} {keys : RefundKeys} (hreads : ReadsAlike D read params keys)
    {s : Chain Key} {e : Escrow Key} (hlive : LiveEscrow D s (read keys.escrow) e)
    (hseeds : D.escrow (read keys.agent) params.serviceId = D.escrow e.agent e.serviceId →
      read keys.agent = e.agent) :
    read keys.agent = e.agent ∧ keys.context read = e.refundAccounts D (read keys.escrow) := by
  have hagent : read keys.agent = e.agent :=
    hseeds (hreads.escrow.symm.trans hlive.address)
  have hmint : read keys.mint = e.mint := hreads.mint.trans hlive.mint.symm
  refine ⟨hagent, ?_⟩
  unfold RefundKeys.context Escrow.refundAccounts
  rw [hreads.vault, hreads.agentAta, hagent, hmint]

/-- The SHA-256 of `global:refund`. -/
def refundHash : Vector UInt8 32 := #v[
  2, 96, 183, 251, 63, 208, 46, 46, 221, 237, 79, 23, 127, 226, 117, 212, 54, 236, 166, 93, 90, 173,
  55, 235, 128, 95, 203, 245, 1, 230, 165, 229]

/-- The primitives of the golden vector, and the hash of the refund. -/
def refundPrims : Primitives :=
  { goldenPrims with
    sha256 := fun bytes =>
      if bytes = textBytes "global:refund" then refundHash else goldenPrims.sha256 bytes }

/-- The agent of the golden vector asks for its deposit. -/
def goldenRefund : RefundParams where
  agentKeypairB58 := goldenKeypairB58
  escrowPdaB58 := "8itRK9Q7QErNubyjhuTjs85FHAfmQ7FzKjPRp6FBsaf1"
  usdcMintB58 := "EPjFWdd5AufqSSqeM2qN1xzybapC8G4wEGGkZwyTDt1v"
  escrowProgramIdB58 := "9neDHouXgEgHZDde5SpmqqEZ9Uv35hFcjtFEPxomtHLU"
  serviceId := goldenServiceId
  recentBlockhash := Vector.replicate 32 0xAB

/-- Its keys. -/
def goldenRefundKeys : RefundKeys where
  agent := goldenAgent
  escrow := goldenEscrowPda
  vault := goldenVaultAta
  agentAta := goldenAgentAta
  mint := sampleMint
  programId := goldenProgram

theorem goldenRefund_names :
    RefundNames refundPrims (fun _ => "") goldenRefund (Vector.replicate 32 42)
      goldenRefundKeys where
  keypair := by
    refine ⟨goldenSecretKey goldenAgent, ?_⟩
    decide +kernel
  agent := rfl
  given := by decide +kernel
  mint := by decide +kernel
  programId := by decide +kernel
  escrow := by
    refine ⟨255, ?_⟩
    decide +kernel
  agentAta := by decide +kernel
  vault := by decide +kernel

end Solvela.EscrowRefund
