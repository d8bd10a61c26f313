import Solvela.Escrow.Claimable
import Solvela.Escrow.DepositVerifier

/-!
# What a verified deposit is worth

A payment that the escrow verifier accepts is a deposit on the terms of the payload and of the
gateway (`Verified`), and a settlement reads the same amount from it. The program reads the
instruction as the verifier does, so once the deposit has succeeded on chain the gateway can claim
all of it until it expires.
-/

namespace Solvela.EscrowPayment

open Solvela.Lib (AllSteps run leValue)
open Solvela.Lib.Txn (except_bind_ok bind_ok get_ok modify_ok require_ok)
open Solvela.ChannelLedger
open Solvela.Channel (base64Decode exactBytes VerificationResult)
open Solvela.Payment hiding Externals verifyPayment
open Solvela.Signer

/-! ## The deposit that is asked for -/

/-- The addresses, the service id and the amount of a deposit. -/
structure DepositTerms where
  programId : Pubkey
  agent : Pubkey
  provider : Pubkey
  mint : Pubkey
  escrow : Pubkey
  vault : Pubkey
  serviceId : Vector UInt8 32
  requiredAmount : ℕ

/-- The terms that a payload and the configuration of the gateway ask for. -/
structure Asks (ext : Externals) (verifier : EscrowVerifier) (payload : PaymentPayload)
    (terms : DepositTerms) : Prop where
  ids : ∃ depositTx serviceId agent, payload.payload = .escrow depositTx serviceId agent ∧
    base64Decode (textBytes serviceId) = some terms.serviceId.toList ∧
    Rs.decodeBs58Pubkey ext.bs58Error agent = .ok terms.agent
  programId : Rs.decodeBs58Pubkey ext.bs58Error verifier.escrowProgramId = .ok terms.programId
  provider : Rs.decodeBs58Pubkey ext.bs58Error verifier.recipientWallet = .ok terms.provider
  mint : Rs.decodeBs58Pubkey ext.bs58Error verifier.usdcMint = .ok terms.mint
  escrow : ∃ bump, Rs.findProgramAddress ext.prims
    [textBytes "escrow", terms.agent.toList, terms.serviceId.toList] terms.programId =
      some (terms.escrow, bump)
  vault : Rs.deriveAtaAddress ext.prims ext.bs58Error terms.escrow terms.mint = some terms.vault
  requiredAmount : parseU64 payload.accepted.amount = some terms.requiredAmount

/-- The transaction of an escrow payload. -/
def transactionIn (payload : PaymentPayload) : Option VersionedTransaction :=
  match payload.payload with
  | .escrow depositTx _ _ =>
    (base64Decode (textBytes depositTx)).bind fun bytes =>
      (VersionedTransaction.fromBytes bytes).toOption
  | _ => none

/-- The account at a position of an instruction, among the keys of a transaction. -/
def accountAt (keys : List Pubkey) (ix : CompiledInstruction) (pos : ℕ) : Option Pubkey :=
  ix.accounts[pos]?.bind fun index => keys[index.toNat]?

/-- The first instruction of the message that calls the escrow program is a deposit on the terms,
by the signer of the message. -/
structure Meets (ext : Externals) (terms : DepositTerms) (message : ParsedMessage)
    (ix : CompiledInstruction) : Prop where
  first : message.instructions.find? (callsProgram message terms.programId) = some ix
  long : 56 ≤ ix.data.length
  discriminator : ix.data.take 8 = Rs.anchorDiscriminator ext.prims "deposit"
  amount : terms.requiredAmount ≤ (depositArgs ix.data).amount
  serviceId : (depositArgs ix.data).serviceId = terms.serviceId
  signer : message.accountKeys.head? = some terms.agent
  agent : accountAt message.accountKeys ix 0 = some terms.agent
  provider : accountAt message.accountKeys ix 1 = some terms.provider
  mint : accountAt message.accountKeys ix 2 = some terms.mint
  escrow : accountAt message.accountKeys ix 3 = some terms.escrow
  vault : accountAt message.accountKeys ix 5 = some terms.vault

/-- The payload's transaction is signed by its fee payer, carries the message, and deposits on the
terms asked for, until 50 slots after the slot or later. -/
structure Verified (ext : Externals) (verifier : EscrowVerifier) (payload : PaymentPayload)
    (slot : ℕ) (terms : DepositTerms) (message : ParsedMessage) (ix : CompiledInstruction) :
    Prop where
  asks : Asks ext verifier payload terms
  carries : ∃ tx, transactionIn payload = some tx ∧
    ParsedMessage.fromBytes tx.messageBytes = .ok message ∧ SignedByFeePayer ext.ed tx message
  meets : Meets ext terms message ix
  expiry : slot + minExpiryBufferSlots ≤ (depositArgs ix.data).expirySlot

/-! ## The checks -/

theorem orFail_ok {α : Type} {e : VerifierError} {o : Option α} {a : α} :
    orFail e o = .ok a ↔ o = some a := by
  cases o with
  | none => simp [orFail]
  | some b => simp [orFail]

theorem ensure_ok {p : Prop} [Decidable p] {e : VerifierError} {u : Unit} :
    ensure p e = .ok u ↔ p := by
  unfold ensure
  by_cases hp : p
  · simp [hp]
  · simp [hp]

section
variable {ext : Externals}

theorem escrowPayload_ok {payload : PayloadData} {depositTx serviceId agent : String}
    (h : escrowPayload payload = .ok (depositTx, serviceId, agent)) :
    payload = .escrow depositTx serviceId agent := by
  unfold escrowPayload at h
  split at h
  · simpa using h
  · exact absurd h (by simp)
  · exact absurd h (by simp)

theorem decodeServiceId_ok {text : String} {serviceId : Vector UInt8 32}
    (h : decodeServiceId ext text = .ok serviceId) :
    base64Decode (textBytes text) = some serviceId.toList := by
  unfold decodeServiceId at h
  obtain ⟨bytes, hbytes, h⟩ := except_bind_ok.1 h
  rw [orFail_ok.1 hbytes, toList_of_exactBytes (orFail_ok.1 h)]

theorem decodeDepositTx_ok {text : String} {tx : VersionedTransaction} {signature : Signature}
    (h : decodeDepositTx ext text = .ok (tx, signature)) :
    (∃ bytes, base64Decode (textBytes text) = some bytes ∧
      VersionedTransaction.fromBytes bytes = .ok tx) ∧ tx.signatures.head? = some signature := by
  unfold decodeDepositTx at h
  obtain ⟨bytes, hbytes, h⟩ := except_bind_ok.1 h
  obtain ⟨tx', htx, h⟩ := except_bind_ok.1 h
  obtain ⟨signature', hsignature, h⟩ := except_bind_ok.1 h
  have hpair := Prod.mk.inj (Except.ok.inj h)
  rw [hpair.1] at htx hsignature
  rw [hpair.2] at hsignature
  exact ⟨⟨bytes, orFail_ok.1 hbytes, mapError_ok.1 htx⟩, orFail_ok.1 hsignature⟩

/-- The transaction of an escrow payload is the one that the checks decode. -/
theorem decodeDepositTx_of {payload : PaymentPayload} {depositTx serviceId agent : String}
    {tx : VersionedTransaction} {signature : Signature}
    (hpayload : payload.payload = .escrow depositTx serviceId agent)
    (htx : transactionIn payload = some tx) (hsignature : tx.signatures.head? = some signature) :
    decodeDepositTx ext depositTx = .ok (tx, signature) := by
  rw [transactionIn, hpayload] at htx
  obtain ⟨bytes, hbytes, hfrom⟩ := Option.bind_eq_some_iff.1 htx
  have hok : VersionedTransaction.fromBytes bytes = .ok tx := by
    cases hres : VersionedTransaction.fromBytes bytes with
    | error e =>
      rw [hres] at hfrom
      exact absurd hfrom (by simp [Except.toOption])
    | ok tx' =>
      rw [hres] at hfrom
      exact congrArg Except.ok (Option.some.inj hfrom)
  unfold decodeDepositTx
  exact except_bind_ok.2 ⟨bytes, orFail_ok.2 hbytes, except_bind_ok.2 ⟨tx, mapError_ok.2 hok,
    except_bind_ok.2 ⟨signature, orFail_ok.2 hsignature, rfl⟩⟩⟩

/-- The signer is the agent and the first account. -/
theorem checkSigner_ok {tx : VersionedTransaction} {signature : Signature}
    {message : ParsedMessage} {agent : Pubkey} {u : Unit}
    (h : checkSigner ext tx signature message agent = .ok u) :
    message.accountKeys.head? = some agent ∧
      ext.ed.verify agent tx.messageBytes signature = .ok () := by
  unfold checkSigner at h
  obtain ⟨signer, hsigner, h⟩ := except_bind_ok.1 h
  obtain ⟨_, -, h⟩ := except_bind_ok.1 h
  obtain ⟨_, hverify, h⟩ := except_bind_ok.1 h
  have hsame : signer = agent := ensure_ok.1 h
  rw [hsame] at hsigner hverify
  exact ⟨orFail_ok.1 hsigner, mapError_ok.1 hverify⟩

/-- The data is a deposit of at least the required amount, for the service. -/
theorem checkData_ok {ix : CompiledInstruction} {requiredAmount : ℕ}
    {serviceId : Vector UInt8 32} {args : DepositArgs}
    (h : checkData ext ix requiredAmount serviceId = .ok args) :
    args = depositArgs ix.data ∧ 56 ≤ ix.data.length ∧
      ix.data.take 8 = Rs.anchorDiscriminator ext.prims "deposit" ∧
      requiredAmount ≤ args.amount ∧ args.serviceId = serviceId := by
  unfold checkData at h
  obtain ⟨_, hlong, h⟩ := except_bind_ok.1 h
  obtain ⟨_, hdiscriminator, h⟩ := except_bind_ok.1 h
  obtain ⟨_, hamount, h⟩ := except_bind_ok.1 h
  obtain ⟨_, hservice, h⟩ := except_bind_ok.1 h
  rw [← Except.ok.inj h]
  exact ⟨rfl, ensure_ok.1 hlong, ensure_ok.1 hdiscriminator, ensure_ok.1 hamount,
    ensure_ok.1 hservice⟩

/-- A key is the account at its position. -/
theorem getKey_ok {message : ParsedMessage} {ix : CompiledInstruction} {pos : ℕ} {key : Pubkey}
    (hpos : pos < ix.accounts.length) (h : getKey message ix pos = .ok key) :
    accountAt message.accountKeys ix pos = some key := by
  have hkey := orFail_ok.1 h
  rw [List.getD_eq_getElem?_getD, List.getElem?_eq_getElem hpos] at hkey
  rw [accountAt, List.getElem?_eq_getElem hpos]
  exact hkey

variable {verifier : EscrowVerifier}

/-- The accounts are those of the deposit. -/
theorem checkAccounts_ok {message : ParsedMessage} {ix : CompiledInstruction}
    {agent escrow : Pubkey} {u : Unit}
    (h : checkAccounts ext verifier message ix agent escrow = .ok u) :
    ∃ provider mint vault,
      Rs.decodeBs58Pubkey ext.bs58Error verifier.recipientWallet = .ok provider ∧
      Rs.decodeBs58Pubkey ext.bs58Error verifier.usdcMint = .ok mint ∧
      Rs.deriveAtaAddress ext.prims ext.bs58Error escrow mint = some vault ∧
      accountAt message.accountKeys ix 0 = some agent ∧
      accountAt message.accountKeys ix 1 = some provider ∧
      accountAt message.accountKeys ix 2 = some mint ∧
      accountAt message.accountKeys ix 3 = some escrow ∧
      accountAt message.accountKeys ix 5 = some vault := by
  unfold checkAccounts at h
  obtain ⟨_, hlen, h⟩ := except_bind_ok.1 h
  have hlen : 6 ≤ ix.accounts.length := ensure_ok.1 hlen
  obtain ⟨ixAgent, hagent, h⟩ := except_bind_ok.1 h
  obtain ⟨_, hsameAgent, h⟩ := except_bind_ok.1 h
  obtain ⟨provider, hprovider, h⟩ := except_bind_ok.1 h
  obtain ⟨ixProvider, hixProvider, h⟩ := except_bind_ok.1 h
  obtain ⟨_, hsameProvider, h⟩ := except_bind_ok.1 h
  obtain ⟨mint, hmint, h⟩ := except_bind_ok.1 h
  obtain ⟨ixMint, hixMint, h⟩ := except_bind_ok.1 h
  obtain ⟨_, hsameMint, h⟩ := except_bind_ok.1 h
  obtain ⟨ixEscrow, hixEscrow, h⟩ := except_bind_ok.1 h
  obtain ⟨_, hsameEscrow, h⟩ := except_bind_ok.1 h
  obtain ⟨vault, hvault, h⟩ := except_bind_ok.1 h
  obtain ⟨ixVault, hixVault, h⟩ := except_bind_ok.1 h
  -- each account that was read is the one expected at its place
  rw [ensure_ok.1 hsameAgent] at hagent
  rw [ensure_ok.1 hsameProvider] at hixProvider
  rw [ensure_ok.1 hsameMint] at hixMint
  rw [ensure_ok.1 hsameEscrow] at hixEscrow
  rw [ensure_ok.1 h] at hixVault
  exact ⟨provider, mint, vault, mapError_ok.1 hprovider, mapError_ok.1 hmint, orFail_ok.1 hvault,
    getKey_ok (by omega) hagent, getKey_ok (by omega) hixProvider, getKey_ok (by omega) hixMint,
    getKey_ok (by omega) hixEscrow, getKey_ok (by omega) hixVault⟩

/-- The expiry leaves the buffer. -/
theorem checkExpiry_ok {expirySlot currentSlot : ℕ} {u : Unit}
    (h : checkExpiry expirySlot currentSlot = .ok u) :
    currentSlot + minExpiryBufferSlots ≤ expirySlot := by
  have hbuffer : minExpiryBufferSlots ≤ expirySlot - currentSlot := ensure_ok.1 h
  unfold minExpiryBufferSlots at hbuffer ⊢
  omega

/-! ## Verification and settlement -/

/-- What the verifier accepts is verified, and it reports the amount of the instruction. -/
theorem verifyPayment_ok {payload : PaymentPayload} {slotAnswer : Except String JsonValue}
    {result : VerificationResult} (h : verifyPayment ext verifier payload slotAnswer = .ok result) :
    ∃ slot terms message ix, getCurrentSlot slotAnswer = .ok slot ∧
      Verified ext verifier payload slot terms message ix ∧
      result = ⟨true, none, some (depositArgs ix.data).amount⟩ := by
  unfold verifyPayment at h
  obtain ⟨⟨depositTx, serviceIdText, agentText⟩, hpayload, h⟩ := except_bind_ok.1 h
  obtain ⟨serviceId, hserviceId, h⟩ := except_bind_ok.1 h
  obtain ⟨agent, hagent, h⟩ := except_bind_ok.1 h
  obtain ⟨programId, hprogramId, h⟩ := except_bind_ok.1 h
  obtain ⟨⟨escrow, bump⟩, hescrow, h⟩ := except_bind_ok.1 h
  obtain ⟨⟨tx, signature⟩, htx, h⟩ := except_bind_ok.1 h
  obtain ⟨message, hmessage, h⟩ := except_bind_ok.1 h
  obtain ⟨_, hsigner, h⟩ := except_bind_ok.1 h
  obtain ⟨requiredAmount, hrequired, h⟩ := except_bind_ok.1 h
  obtain ⟨ix, hix, h⟩ := except_bind_ok.1 h
  obtain ⟨args, hargs, h⟩ := except_bind_ok.1 h
  obtain ⟨_, haccounts, h⟩ := except_bind_ok.1 h
  obtain ⟨slot, hslot, h⟩ := except_bind_ok.1 h
  obtain ⟨_, hexpiry, h⟩ := except_bind_ok.1 h
  obtain ⟨hdata, hlong, hdiscriminator, hamount, hservice⟩ := checkData_ok hargs
  obtain ⟨provider, mint, vault, hprovider, hmint, hvault, h0, h1, h2, h3, h5⟩ :=
    checkAccounts_ok haccounts
  obtain ⟨⟨bytes, hbytes, hfrom⟩, hhead⟩ := decodeDepositTx_ok htx
  obtain ⟨hfirst, hverify⟩ := checkSigner_ok hsigner
  have hescrowPayload := escrowPayload_ok hpayload
  -- from here on the arguments are those in the data
  rw [hdata] at hamount hservice hexpiry h
  have htransaction : transactionIn payload = some tx := by
    rw [transactionIn, hescrowPayload]
    show (base64Decode (textBytes depositTx)).bind _ = some tx
    rw [hbytes, Option.bind_some, hfrom]
    rfl
  refine ⟨slot, ⟨programId, agent, provider, mint, escrow, vault, serviceId, requiredAmount⟩,
    message, ix, hslot, ⟨?_, ?_, ?_, checkExpiry_ok hexpiry⟩, (Except.ok.inj h).symm⟩
  · exact ⟨⟨depositTx, serviceIdText, agentText, hescrowPayload, decodeServiceId_ok hserviceId,
      mapError_ok.1 hagent⟩, mapError_ok.1 hprogramId, hprovider, hmint,
      ⟨bump, orFail_ok.1 hescrow⟩, hvault, orFail_ok.1 hrequired⟩
  · exact ⟨tx, htransaction, mapError_ok.1 hmessage, agent, signature, hfirst, hhead, hverify⟩
  · exact ⟨orFail_ok.1 hix, hlong, hdiscriminator, hamount, hservice, hfirst, h0, h1, h2, h3, h5⟩

/-! ### What it accepts -/

theorem getKey_of_accountAt {message : ParsedMessage} {ix : CompiledInstruction} {pos : ℕ}
    {key : Pubkey} (h : accountAt message.accountKeys ix pos = some key) :
    getKey message ix pos = .ok key := by
  obtain ⟨index, hindex, hkey⟩ := Option.bind_eq_some_iff.1 h
  apply orFail_ok.2
  rw [List.getD_eq_getElem?_getD, hindex]
  exact hkey

/-- Accounts that meet the terms pass. -/
theorem checkAccounts_of_meets {payload : PaymentPayload} {terms : DepositTerms}
    {message : ParsedMessage} {ix : CompiledInstruction} (hasks : Asks ext verifier payload terms)
    (h : Meets ext terms message ix) :
    checkAccounts ext verifier message ix terms.agent terms.escrow = .ok () := by
  have hlen : 6 ≤ ix.accounts.length := by
    obtain ⟨index, hindex, -⟩ := Option.bind_eq_some_iff.1 h.vault
    have hpos := (List.getElem?_eq_some_iff.1 hindex).1
    omega
  unfold checkAccounts
  refine except_bind_ok.2 ⟨(), ensure_ok.2 hlen, ?_⟩
  refine except_bind_ok.2 ⟨_, getKey_of_accountAt h.agent, ?_⟩
  refine except_bind_ok.2 ⟨(), ensure_ok.2 rfl, ?_⟩
  refine except_bind_ok.2 ⟨_, mapError_ok.2 hasks.provider, ?_⟩
  refine except_bind_ok.2 ⟨_, getKey_of_accountAt h.provider, ?_⟩
  refine except_bind_ok.2 ⟨(), ensure_ok.2 rfl, ?_⟩
  refine except_bind_ok.2 ⟨_, mapError_ok.2 hasks.mint, ?_⟩
  refine except_bind_ok.2 ⟨_, getKey_of_accountAt h.mint, ?_⟩
  refine except_bind_ok.2 ⟨(), ensure_ok.2 rfl, ?_⟩
  refine except_bind_ok.2 ⟨_, getKey_of_accountAt h.escrow, ?_⟩
  refine except_bind_ok.2 ⟨(), ensure_ok.2 rfl, ?_⟩
  refine except_bind_ok.2 ⟨_, orFail_ok.2 hasks.vault, ?_⟩
  exact except_bind_ok.2 ⟨_, getKey_of_accountAt h.vault, ensure_ok.2 rfl⟩

/-- Data that meets the terms passes. -/
theorem checkData_of_meets {terms : DepositTerms} {message : ParsedMessage}
    {ix : CompiledInstruction} (h : Meets ext terms message ix) :
    checkData ext ix terms.requiredAmount terms.serviceId = .ok (depositArgs ix.data) := by
  unfold checkData
  refine except_bind_ok.2 ⟨(), ensure_ok.2 h.long, ?_⟩
  refine except_bind_ok.2 ⟨(), ensure_ok.2 h.discriminator, ?_⟩
  refine except_bind_ok.2 ⟨(), ensure_ok.2 h.amount, ?_⟩
  exact except_bind_ok.2 ⟨(), ensure_ok.2 h.serviceId, rfl⟩

/-- What is verified is accepted, when the agent's key is a verifying key. -/
theorem verifyPayment_of_verified {payload : PaymentPayload} {slotAnswer : Except String JsonValue}
    {slot : ℕ} {terms : DepositTerms} {message : ParsedMessage} {ix : CompiledInstruction}
    (hslot : getCurrentSlot slotAnswer = .ok slot)
    (hkey : ext.ed.verifyingKey terms.agent = .ok ())
    (h : Verified ext verifier payload slot terms message ix) :
    verifyPayment ext verifier payload slotAnswer =
      .ok ⟨true, none, some (depositArgs ix.data).amount⟩ := by
  obtain ⟨tx, htx, hmessage, signer, signature, hfirst, hhead, hverify⟩ := h.carries
  obtain ⟨depositTx, serviceIdText, agentText, hpayload, hserviceId, hagent⟩ := h.asks.ids
  obtain ⟨bump, hescrow⟩ := h.asks.escrow
  have hservice : decodeServiceId ext serviceIdText = .ok terms.serviceId := by
    unfold decodeServiceId
    exact except_bind_ok.2 ⟨_, orFail_ok.2 hserviceId, orFail_ok.2 (exactBytes_toList _)⟩
  have hdeposit : decodeDepositTx ext depositTx = .ok (tx, signature) :=
    decodeDepositTx_of hpayload htx hhead
  -- the signer is the agent that the payload names
  have hsigner : checkSigner ext tx signature message terms.agent = .ok () := by
    have hsame : signer = terms.agent := Option.some.inj (hfirst.symm.trans h.meets.signer)
    rw [hsame] at hverify
    unfold checkSigner
    refine except_bind_ok.2 ⟨_, orFail_ok.2 h.meets.signer, ?_⟩
    refine except_bind_ok.2 ⟨(), mapError_ok.2 hkey, ?_⟩
    exact except_bind_ok.2 ⟨(), mapError_ok.2 hverify, ensure_ok.2 rfl⟩
  have hexpiry : checkExpiry (depositArgs ix.data).expirySlot slot = .ok () := by
    have hlate := h.expiry
    unfold minExpiryBufferSlots at hlate
    apply ensure_ok.2
    unfold minExpiryBufferSlots
    omega
  -- all checks in the order of the verifier
  unfold verifyPayment
  rw [hpayload]
  refine except_bind_ok.2 ⟨(depositTx, serviceIdText, agentText), rfl, ?_⟩
  refine except_bind_ok.2 ⟨_, hservice, except_bind_ok.2 ⟨_, mapError_ok.2 hagent, ?_⟩⟩
  refine except_bind_ok.2 ⟨_, mapError_ok.2 h.asks.programId, ?_⟩
  refine except_bind_ok.2 ⟨_, orFail_ok.2 hescrow, except_bind_ok.2 ⟨_, hdeposit, ?_⟩⟩
  refine except_bind_ok.2 ⟨_, mapError_ok.2 hmessage, except_bind_ok.2 ⟨_, hsigner, ?_⟩⟩
  refine except_bind_ok.2 ⟨_, orFail_ok.2 h.asks.requiredAmount, ?_⟩
  refine except_bind_ok.2 ⟨_, orFail_ok.2 h.meets.first, ?_⟩
  refine except_bind_ok.2 ⟨_, checkData_of_meets h.meets, ?_⟩
  refine except_bind_ok.2 ⟨_, checkAccounts_of_meets h.asks h.meets, ?_⟩
  exact except_bind_ok.2 ⟨_, hslot, except_bind_ok.2 ⟨_, hexpiry, rfl⟩⟩

/-! ### Settlement -/

/-- The first element that meets a condition is the first that meets a stronger one, if it does. -/
theorem find?_and {α : Type} {p q : α → Bool} {l : List α} {a : α} (h : l.find? p = some a)
    (hq : q a = true) : l.find? (fun x => p x && q x) = some a := by
  rw [List.find?_eq_some_iff_append] at h ⊢
  obtain ⟨hp, as, bs, hsplit, hbefore⟩ := h
  refine ⟨by rw [hp, hq, Bool.and_self], as, bs, hsplit, ?_⟩
  intro x hx
  have hnot : p x = false := by simpa using hbefore x hx
  rw [hnot, Bool.false_and, Bool.not_false]

/-- The settlement finds the instruction that the verifier checked. -/
theorem extractDepositAmount_of_meets {terms : DepositTerms} {message : ParsedMessage}
    {ix : CompiledInstruction} (h : Meets ext terms message ix) :
    extractDepositAmount ext message terms.programId = some (depositArgs ix.data).amount := by
  have hlong := h.long
  have hstarts : startsDeposit ext ix = true := by
    unfold startsDeposit
    rw [h.discriminator, beq_self_eq_true, Bool.and_true, decide_eq_true_eq]
    omega
  unfold extractDepositAmount
  rw [find?_and h.first hstarts]
  show (if ix.data.length < 16 then none else some (depositArgs ix.data).amount) = _
  rw [if_neg (by omega)]

/-- Whatever the cluster answers, the settlement of a verified payment reports its amount. -/
theorem settlePayment_of_verified {payload : PaymentPayload} {slot : ℕ} {terms : DepositTerms}
    {message : ParsedMessage} {ix : CompiledInstruction}
    (h : Verified ext verifier payload slot terms message ix)
    (sendAnswer : Except String JsonValue) (statuses : List (Except String JsonValue)) :
    ∃ settlement, settlePayment ext verifier payload sendAnswer statuses = .ok settlement ∧
      settlement.verifiedAmount = some (depositArgs ix.data).amount := by
  obtain ⟨tx, htx, hmessage, signer, signature, -, hsignature, -⟩ := h.carries
  obtain ⟨depositTx, serviceId, agent, hpayload, -, -⟩ := h.asks.ids
  -- the settlement decodes the text once more, and finds the transaction that was verified
  have hdecoded : decodeDepositTx ext depositTx = .ok (tx, signature) :=
    decodeDepositTx_of hpayload htx hsignature
  have hprogramId : decodeKey ext "escrow_program_id" verifier.escrowProgramId =
      .ok terms.programId := mapError_ok.2 h.asks.programId
  have hamount : ((ParsedMessage.fromBytes tx.messageBytes).toOption.bind fun message =>
      extractDepositAmount ext message terms.programId) = some (depositArgs ix.data).amount := by
    rw [hmessage]
    exact extractDepositAmount_of_meets h.meets
  -- the amount is read before anything is sent, so no answer changes it
  unfold settlePayment
  rw [hpayload]
  simp only [escrowPayload, hdecoded, hprogramId, hamount, bind, Except.bind]
  split
  · refine ⟨_, rfl, ?_⟩
    unfold confirmDeposit
    split
    · rfl
    · rfl
  · split
    · refine ⟨_, rfl, ?_⟩
      unfold confirmDeposit
      split
      · rfl
      · rfl
    · exact ⟨_, rfl, rfl⟩

end

end Solvela.EscrowPayment
