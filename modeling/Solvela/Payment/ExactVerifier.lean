import Solvela.Channel.Open
import Solvela.Payment.MessageLayout
import Solvela.Payment.SplTransfer
import Solvela.Signer.Agreement

/-!
# The exact verifier

`verify_payment_against` checks the signature of the fee payer, the transfer, and a simulation by
the RPC. The checks before the simulation are what a valid payment needs. Of the answer to
`simulateTransaction`, whose error is `result.value.err`, the verifier reads `result.err`.
-/

namespace Solvela.Payment

open Solvela.Lib.Txn (except_bind_ok)
open Solvela.ChannelLedger
open Solvela.Channel (base64Decode VerificationResult)
open Solvela.Client (digitsValue isDigits)
open Solvela.Signer

/-- The errors of the verifiers; those of the accept path are the ones of `PaymentError`. -/
inductive VerifierError
  | payment (e : PaymentError)
  | invalidEncoding (message : String)
  | insufficientPayment (expected actual : ℕ)
  | wrongRecipient (expected actual : String)
  | wrongAsset (expected actual : String)
  | simulationFailed (message : String)
  | settlementFailed (message : String)
  | rpc (message : String)
  | payloadMismatch (message : String)
deriving DecidableEq

/-- `Error::InvalidTransaction`. -/
def VerifierError.invalidTransaction (message : String) : VerifierError :=
  .payment (.invalidTransaction message)

/-- `SolanaVerifier`'s configuration: the nonce pool by the texts of its accounts. -/
structure SolanaVerifier where
  recipient : Pubkey
  usdcMint : Pubkey
  noncePool : Option (List String)

/-- What the verifier calls. `simulate` is the answer of the RPC to `simulateTransaction` of a
text, its blockhash replaced or not: the JSON of the reply, or what went wrong on the way. -/
structure Externals where
  prims : Primitives
  ed : Ed25519
  keyText : Pubkey → String
  simulate : String → Bool → Except String JsonValue

/-- The signature library verifies what it signs. -/
structure VerifiesOwn (prims : Primitives) (ed : Ed25519) : Prop where
  key : ∀ seed, ed.verifyingKey (prims.publicKey seed) = .ok ()
  signature : ∀ seed message,
    ed.verify (prims.publicKey seed) message (prims.sign seed message) = .ok ()

/-! ## Checks -/

/-- `str::parse::<u64>`. -/
def parseU64 (text : String) : Option ℕ :=
  let digits := match text.toList with
    | '+' :: digits => digits
    | digits => digits
  if isDigits digits = true ∧ digitsValue digits ≤ u64Max then some (digitsValue digits) else none

/-- `is_nonce_transaction`: the nonce account that the first instruction advances. -/
def isNonceTransaction (message : ParsedMessage) : Option Pubkey := do
  let firstIx ← message.instructions.head?
  let program ← message.accountKeys[firstIx.programIdIndex.toNat]?
  if program ≠ systemProgram then none
  else if firstIx.data.length < 4 ∨ firstIx.data.take 4 ≠ [4, 0, 0, 0] then none
  else
    let nonceAccountIdx ← firstIx.accounts.head?
    message.accountKeys[nonceAccountIdx.toNat]?

/-- The payload, if it is a direct one. -/
def directPayload : PayloadData → Except VerifierError String
  | .direct transaction => .ok transaction
  | .escrow .. =>
    .error (.payloadMismatch "SolanaVerifier received escrow payload; expected direct")
  | .channel _ =>
    .error (.payloadMismatch "SolanaVerifier received channel payload; expected direct")

/-- `parse_message`, with the verifier's error. -/
def parseMessage (tx : VersionedTransaction) : Except VerifierError ParsedMessage :=
  (ParsedMessage.fromBytes tx.messageBytes).mapError fun e =>
    .invalidTransaction ("failed to parse message: " ++ e.display)

section
variable (ext : Externals) (verifier : SolanaVerifier)

/-- `validate_nonce_account`. -/
def validateNonceAccount (nonceAccount : Pubkey) : Except VerifierError Unit :=
  match verifier.noncePool with
  | none => .error (.invalidTransaction ("nonce_pool not configured on the gateway — " ++
      "durable-nonce transactions require an operator-allowlisted nonce account. " ++
      "Resubmit with a recent blockhash."))
  | some pool =>
    if pool.contains (ext.keyText nonceAccount) then .ok ()
    else .error (.invalidTransaction ("nonce account " ++ ext.keyText nonceAccount ++
      " is not registered in the gateway nonce pool"))

/-- Step 4: the destination is the token account of the recipient, or the recipient. -/
def checkDestination (destination expectedRecipient : Pubkey) : Except VerifierError Unit :=
  match deriveAta ext.prims expectedRecipient verifier.usdcMint tokenProgramId with
  | none => .error (.invalidTransaction "failed to derive expected ATA address")
  | some expectedAta =>
    if destination ≠ expectedAta ∧ destination ≠ expectedRecipient then
      .error (.wrongRecipient (ext.keyText expectedAta) (ext.keyText destination))
    else .ok ()

/-- Step 5: the mint. -/
def checkMint : Option Pubkey → Except VerifierError Unit
  | some mint =>
    if mint ≠ verifier.usdcMint then
      .error (.wrongAsset (ext.keyText verifier.usdcMint) (ext.keyText mint))
    else .ok ()
  | none => .error (.invalidTransaction ("plain SPL Transfer instructions are not accepted; " ++
      "use TransferChecked (instruction discriminator 12) " ++
      "so the USDC mint can be verified on-chain"))

/-- Steps 1 to 7 of `verify_payment_against`, up to the simulation: the text of the transaction,
the transfer in it, and whether the simulation replaces its blockhash. -/
def checkPayment (payload : PaymentPayload) (expectedRecipient : Pubkey) :
    Except VerifierError (String × SplTransferInfo × Bool) := do
  let transaction ← directPayload payload.payload
  let tx ← (decodeAndValidateTransaction ext.ed transaction).mapError .payment
  match parseU64 payload.accepted.amount with
  | none => .error (.invalidTransaction "invalid amount format")
  | some requiredAmount =>
    let message ← parseMessage tx
    let transfer ← (extractSplTransfer message).mapError .payment
    checkDestination ext verifier transfer.destination expectedRecipient
    checkMint ext verifier transfer.mint
    if transfer.amount < requiredAmount then
      .error (.insufficientPayment requiredAmount transfer.amount)
    else
      match isNonceTransaction message with
      | some nonceAccount =>
        validateNonceAccount ext verifier nonceAccount
        .ok (transaction, transfer, false)
      | none => .ok (transaction, transfer, true)

/-! ## Simulation -/

/-- `Value::get` of a key. -/
def JsonValue.member : JsonValue → String → Option JsonValue
  | .obj fields, key => fieldOf fields key
  | _, _ => none

/-- `rpc_request`, from the answer on. -/
def rpcRequest : Except String JsonValue → Except VerifierError JsonValue
  | .error e => .error (.rpc e)
  | .ok reply =>
    match JsonValue.member reply "error" with
    | some error => .error (.rpc (jsonText error))
    | none => .ok reply

/-- `simulate_transaction`. -/
def simulateTransaction (transaction : String) (replaceRecentBlockhash : Bool) :
    Except VerifierError Unit := do
  let reply ← rpcRequest (ext.simulate transaction replaceRecentBlockhash)
  match JsonValue.member reply "result" with
  | none => .ok ()
  | some value =>
    match JsonValue.member value "err" with
    | none | some .null => .ok ()
    | some err => .error (.simulationFailed (jsonText err))

/-- `verify_payment_against`. -/
def verifyPaymentAgainst (payload : PaymentPayload) (expectedRecipient : Pubkey) :
    Except VerifierError VerificationResult := do
  let (transaction, transfer, replace) ← checkPayment ext verifier payload expectedRecipient
  simulateTransaction ext transaction replace
  .ok ⟨true, none, some transfer.amount⟩

/-- `verify_payment`. -/
def verifyPayment (payload : PaymentPayload) : Except VerifierError VerificationResult :=
  verifyPaymentAgainst ext verifier payload verifier.recipient

end

/-! ## What a valid payment is -/

/-- The message of the transaction is signed by its first account. -/
def SignedByFeePayer (ed : Ed25519) (tx : VersionedTransaction) (message : ParsedMessage) : Prop :=
  ∃ signer signature, message.accountKeys.head? = some signer ∧
    tx.signatures.head? = some signature ∧ ed.verify signer tx.messageBytes signature = .ok ()

/-- The text is a transaction that its fee payer signed and that pays the recipient the amount
that is required, or more, in the verifier's mint. -/
def Pays (ext : Externals) (verifier : SolanaVerifier) (payload : PaymentPayload)
    (expectedRecipient : Pubkey) (transaction : String) (message : ParsedMessage) : Prop :=
  ∃ bytes tx requiredAmount, payload.payload = .direct transaction ∧
    base64Decode (textBytes transaction) = some bytes ∧
    VersionedTransaction.fromBytes bytes = .ok tx ∧
    ParsedMessage.fromBytes tx.messageBytes = .ok message ∧
    SignedByFeePayer ext.ed tx message ∧
    parseU64 payload.accepted.amount = some requiredAmount ∧
    ∃ ix ∈ message.instructions, ∃ destination amount,
      TransfersChecked message ix verifier.usdcMint destination amount ∧
      requiredAmount ≤ amount ∧
      (deriveAta ext.prims expectedRecipient verifier.usdcMint tokenProgramId =
          some destination ∨
        destination = expectedRecipient)

/-- The reply to `simulateTransaction` reports no error: its `result.value.err` is null. -/
def ReportsNoError (answer : Except String JsonValue) : Prop :=
  ∃ reply result value, answer = .ok reply ∧ JsonValue.member reply "result" = some result ∧
    JsonValue.member result "value" = some value ∧ JsonValue.member value "err" = some .null

/-- The request failed, or the reply has an `error`, or a `result.err` that is not null. -/
def Refused (answer : Except String JsonValue) : Prop :=
  (∃ e, answer = .error e) ∨
    ∃ reply, answer = .ok reply ∧
      ((∃ e, JsonValue.member reply "error" = some e) ∨
        ∃ result err, JsonValue.member reply "result" = some result ∧
          JsonValue.member result "err" = some err ∧ err ≠ .null)

/-- A payment is reported valid only if it pays, and its simulation reported no error. -/
def ValidIsPaid (ext : Externals) (verifier : SolanaVerifier) (payload : PaymentPayload)
    (expectedRecipient : Pubkey) : Prop :=
  ∀ result, verifyPaymentAgainst ext verifier payload expectedRecipient = .ok result →
    result.valid = true →
    ∃ transaction message, Pays ext verifier payload expectedRecipient transaction message ∧
      ReportsNoError (ext.simulate transaction (isNonceTransaction message).isNone)

/-! ## Soundness -/

theorem decodeAndValidate_signed {ed : Ed25519} {text : String} {tx : VersionedTransaction}
    (h : decodeAndValidateTransaction ed text = .ok tx) :
    ∃ bytes message, base64Decode (textBytes text) = some bytes ∧
      VersionedTransaction.fromBytes bytes = .ok tx ∧
      ParsedMessage.fromBytes tx.messageBytes = .ok message ∧ SignedByFeePayer ed tx message := by
  unfold decodeAndValidateTransaction at h
  split at h
  · exact absurd h (by simp)
  · rename_i bytes hbytes
    split at h
    · exact absurd h (by simp)
    · rename_i tx' htx
      split at h
      · exact absurd h (by simp)
      · rename_i signature signatures hsignatures
        split at h
        · exact absurd h (by simp)
        · rename_i message hmessage
          split at h
          · exact absurd h (by simp)
          · rename_i signer keys hkeys
            split at h
            · exact absurd h (by simp)
            · split at h
              · exact absurd h (by simp)
              · rename_i hverify
                have heq : tx' = tx := Except.ok.inj h
                -- every check before the signature's has passed
                rw [heq] at htx hmessage hverify hsignatures
                refine ⟨bytes, message, hbytes, htx, hmessage, signer, signature, ?_, ?_, hverify⟩
                · rw [hkeys, List.head?_cons]
                · rw [hsignatures, List.head?_cons]

/-- The text of a legacy message with one good signature is accepted. -/
theorem decodeAndValidate_of_wire {ed : Ed25519} {text : String} {signature : Signature}
    {m : ParsedMessage} {signer : Pubkey} (hshort : m.Short)
    (htext : base64Decode (textBytes text) = some (wireBytes signature m.bytes))
    (hsigner : m.accountKeys.head? = some signer) (hkey : ed.verifyingKey signer = .ok ())
    (hverify : ed.verify signer m.bytes signature = .ok ()) :
    decodeAndValidateTransaction ed text = .ok ⟨[signature], m.bytes⟩ := by
  obtain ⟨keys, hkeys⟩ := List.head?_eq_some_iff.1 hsigner
  unfold decodeAndValidateTransaction
  simp only [htext, VersionedTransaction.fromBytes_wireBytes, ParsedMessage.fromBytes_bytes hshort,
    hkeys, hkey, hverify]

section
variable {ext : Externals} {verifier : SolanaVerifier}

theorem directPayload_ok {payload : PayloadData} {transaction : String}
    (h : directPayload payload = .ok transaction) : payload = .direct transaction := by
  unfold directPayload at h
  split at h
  · rw [Except.ok.inj h]
  · exact absurd h (by simp)
  · exact absurd h (by simp)

theorem checkDestination_ok {destination expectedRecipient : Pubkey}
    (h : checkDestination ext verifier destination expectedRecipient = .ok ()) :
    deriveAta ext.prims expectedRecipient verifier.usdcMint tokenProgramId = some destination ∨
      destination = expectedRecipient := by
  unfold checkDestination at h
  split at h
  · exact absurd h (by simp)
  · rename_i expectedAta hata
    split at h
    · exact absurd h (by simp)
    · rename_i hdest
      by_cases heq : destination = expectedAta
      · left
        rw [hata, heq]
      · right
        by_contra hne
        exact hdest ⟨heq, hne⟩

theorem checkMint_ok {mint : Option Pubkey} (h : checkMint ext verifier mint = .ok ()) :
    mint = some verifier.usdcMint := by
  unfold checkMint at h
  split at h
  · split at h
    · exact absurd h (by simp)
    · rename_i hmint
      rw [not_ne_iff.mp hmint]
  · exact absurd h (by simp)

/-- A payment has one transaction and one message. -/
theorem Pays.unique {payload : PaymentPayload} {expectedRecipient : Pubkey}
    {transaction transaction' : String} {message message' : ParsedMessage}
    (h : Pays ext verifier payload expectedRecipient transaction message)
    (h' : Pays ext verifier payload expectedRecipient transaction' message') :
    transaction = transaction' ∧ message = message' := by
  obtain ⟨bytes, tx, _, hdirect, hbytes, hfrom, hparsed, -⟩ := h
  obtain ⟨bytes', tx', _, hdirect', hbytes', hfrom', hparsed', -⟩ := h'
  have htext : transaction = transaction' := by
    have heq := hdirect.symm.trans hdirect'
    simpa using heq
  rw [htext, hbytes'] at hbytes
  rw [← Option.some.inj hbytes, hfrom'] at hfrom
  rw [← Except.ok.inj hfrom, hparsed'] at hparsed
  exact ⟨htext, (Except.ok.inj hparsed).symm⟩

/-- What passes the checks pays, and a simulation replaces the blockhash if there is no nonce. -/
theorem checkPayment_pays {payload : PaymentPayload} {expectedRecipient : Pubkey}
    {transaction : String} {transfer : SplTransferInfo} {replace : Bool}
    (h : checkPayment ext verifier payload expectedRecipient =
      .ok (transaction, transfer, replace)) :
    ∃ message, Pays ext verifier payload expectedRecipient transaction message ∧
      replace = (isNonceTransaction message).isNone := by
  unfold checkPayment at h
  obtain ⟨text, htext, h⟩ := except_bind_ok.1 h
  obtain ⟨tx, htx, h⟩ := except_bind_ok.1 h
  split at h
  · exact absurd h (by simp)
  · rename_i requiredAmount hrequired
    obtain ⟨message, hmessage, h⟩ := except_bind_ok.1 h
    obtain ⟨info, hinfo, h⟩ := except_bind_ok.1 h
    obtain ⟨_, hdestination, h⟩ := except_bind_ok.1 h
    obtain ⟨_, hmint, h⟩ := except_bind_ok.1 h
    split at h
    · exact absurd h (by simp)
    · rename_i hamount
      obtain ⟨bytes, message', hbytes, hfrom, hparsed, hsigned⟩ :=
        decodeAndValidate_signed (mapError_ok.1 htx)
      -- the message that was signed is the one whose transfer is read
      have hsame : message' = message :=
        Except.ok.inj (hparsed.symm.trans (mapError_ok.1 hmessage))
      rw [hsame] at hparsed hsigned
      obtain ⟨ix, hix, htransfers⟩ :=
        extractSplTransfer_checked (mapError_ok.1 hinfo) (checkMint_ok hmint)
      have hpays : Pays ext verifier payload expectedRecipient text message :=
        ⟨bytes, tx, requiredAmount, directPayload_ok htext, hbytes, hfrom, hparsed, hsigned,
          hrequired, ix, hix, info.destination, info.amount, htransfers, not_lt.1 hamount,
          checkDestination_ok hdestination⟩
      split at h
      -- the blockhash is replaced exactly if there is no nonce
      · rename_i nonceAccount hnonce
        obtain ⟨-, -, h⟩ := except_bind_ok.1 h
        obtain ⟨rfl, rfl, rfl⟩ : text = transaction ∧ info = transfer ∧ false = replace := by
          simpa using h
        exact ⟨message, hpays, by rw [hnonce, Option.isNone_some]⟩
      · rename_i hnonce
        obtain ⟨rfl, rfl, rfl⟩ : text = transaction ∧ info = transfer ∧ true = replace := by
          simpa using h
        exact ⟨message, hpays, by rw [hnonce, Option.isNone_none]⟩

/-- What passes every check without a nonce passes `checkPayment`. -/
theorem checkPayment_of_parts {payload : PaymentPayload} {expectedRecipient : Pubkey}
    {transaction : String} {tx : VersionedTransaction} {message : ParsedMessage}
    {transfer : SplTransferInfo} {requiredAmount : ℕ}
    (hdirect : payload.payload = .direct transaction)
    (hdecoded : decodeAndValidateTransaction ext.ed transaction = .ok tx)
    (hmessage : ParsedMessage.fromBytes tx.messageBytes = .ok message)
    (hrequired : parseU64 payload.accepted.amount = some requiredAmount)
    (htransfer : extractSplTransfer message = .ok transfer)
    (hdestination : checkDestination ext verifier transfer.destination expectedRecipient = .ok ())
    (hmint : checkMint ext verifier transfer.mint = .ok ())
    (hamount : requiredAmount ≤ transfer.amount) (hnonce : isNonceTransaction message = none) :
    checkPayment ext verifier payload expectedRecipient = .ok (transaction, transfer, true) := by
  unfold checkPayment
  rw [hdirect]
  refine except_bind_ok.2 ⟨transaction, rfl, except_bind_ok.2 ⟨tx, mapError_ok.2 hdecoded, ?_⟩⟩
  rw [hrequired]
  refine except_bind_ok.2 ⟨message, mapError_ok.2 hmessage, ?_⟩
  refine except_bind_ok.2 ⟨transfer, mapError_ok.2 htransfer, ?_⟩
  refine except_bind_ok.2 ⟨(), hdestination, except_bind_ok.2 ⟨(), hmint, ?_⟩⟩
  rw [if_neg (not_lt.2 hamount), hnonce]

theorem rpcRequest_ok_iff {answer : Except String JsonValue} {reply : JsonValue} :
    rpcRequest answer = .ok reply ↔
      answer = .ok reply ∧ JsonValue.member reply "error" = none := by
  unfold rpcRequest
  cases answer with
  | error e => simp
  | ok reply' =>
    cases herror : JsonValue.member reply' "error" with
    | none =>
      simp only [herror, Except.ok.injEq]
      constructor
      · rintro rfl
        exact ⟨rfl, herror⟩
      · exact fun h => h.1
    | some e =>
      simp only [herror, reduceCtorEq, Except.ok.injEq, false_iff]
      rintro ⟨rfl, hnone⟩
      rw [herror] at hnone
      exact absurd hnone (by simp)

/-- The simulation passes unless the verifier sees an error in the answer. -/
theorem simulateTransaction_ok_iff {transaction : String} {replace : Bool} :
    simulateTransaction ext transaction replace = .ok () ↔
      ¬ Refused (ext.simulate transaction replace) := by
  unfold simulateTransaction
  generalize ext.simulate transaction replace = answer
  constructor
  · intro h hrefused
    obtain ⟨reply, hreply, h⟩ := except_bind_ok.1 h
    obtain ⟨hanswer, hnoError⟩ := rpcRequest_ok_iff.1 hreply
    -- a transport error, an `error` member, or an `err` that is not null
    rcases hrefused with ⟨e, he⟩ | ⟨reply', hreply', herror⟩
    · rw [hanswer] at he
      exact absurd he (by simp)
    · have hsame : reply = reply' := Except.ok.inj (hanswer.symm.trans hreply')
      rw [hsame] at hnoError h
      rcases herror with ⟨e, he⟩ | ⟨result, err, hresult, herr, hnull⟩
      · rw [hnoError] at he
        exact absurd he (by simp)
      · rw [hresult] at h
        dsimp only at h
        rw [herr] at h
        split at h
        · rename_i hnone
          exact absurd hnone (by simp)
        · rename_i hsome
          exact hnull (Option.some.inj hsome)
        · exact absurd h (by simp)
  · intro hrefused
    cases answer with
    | error e => exact absurd (Or.inl ⟨e, rfl⟩) hrefused
    | ok reply =>
      have hnoError : JsonValue.member reply "error" = none := by
        by_contra hsome
        obtain ⟨e, he⟩ := Option.ne_none_iff_exists'.1 hsome
        exact hrefused (Or.inr ⟨reply, rfl, Or.inl ⟨e, he⟩⟩)
      refine except_bind_ok.2 ⟨reply, rpcRequest_ok_iff.2 ⟨rfl, hnoError⟩, ?_⟩
      split
      · rfl
      · rename_i result hresult
        split
        · rfl
        · rfl
        · rename_i err hnull herr
          have hne : err ≠ .null := by
            rintro rfl
            exact hnull rfl
          exact absurd (Or.inr ⟨reply, rfl, Or.inr ⟨result, err, hresult, herr, hne⟩⟩) hrefused

/-- A payment is valid when it passes the checks and the simulation passes. -/
theorem verifyPaymentAgainst_ok_iff {payload : PaymentPayload} {expectedRecipient : Pubkey}
    {result : VerificationResult} :
    verifyPaymentAgainst ext verifier payload expectedRecipient = .ok result ↔
      ∃ transaction transfer replace,
        checkPayment ext verifier payload expectedRecipient =
          .ok (transaction, transfer, replace) ∧
        ¬ Refused (ext.simulate transaction replace) ∧
        result = ⟨true, none, some transfer.amount⟩ := by
  unfold verifyPaymentAgainst
  rw [except_bind_ok]
  constructor
  · rintro ⟨⟨transaction, transfer, replace⟩, hchecks, h⟩
    obtain ⟨_, hsimulated, h⟩ := except_bind_ok.1 h
    exact ⟨transaction, transfer, replace, hchecks, simulateTransaction_ok_iff.1 hsimulated,
      (Except.ok.inj h).symm⟩
  · rintro ⟨transaction, transfer, replace, hchecks, hsimulated, hresult⟩
    refine ⟨_, hchecks, except_bind_ok.2 ⟨(), simulateTransaction_ok_iff.2 hsimulated, ?_⟩⟩
    rw [hresult]

/-- Every payment reported valid pays. Its simulation reported no error, too, for a payment that
fails a check before the simulation, and otherwise exactly when the answer reports none or is one
that the verifier refuses. -/
theorem validIsPaid_iff (payload : PaymentPayload) (expectedRecipient : Pubkey) :
    (∀ result, verifyPaymentAgainst ext verifier payload expectedRecipient = .ok result →
      ∃ transaction message,
        Pays ext verifier payload expectedRecipient transaction message) ∧
    (ValidIsPaid ext verifier payload expectedRecipient ↔
      ∀ transaction transfer replace,
        checkPayment ext verifier payload expectedRecipient =
          .ok (transaction, transfer, replace) →
        ReportsNoError (ext.simulate transaction replace) ∨
          Refused (ext.simulate transaction replace)) := by
  refine ⟨?_, ?_, ?_⟩
  · intro result h
    obtain ⟨transaction, transfer, replace, hchecks, -, -⟩ := verifyPaymentAgainst_ok_iff.1 h
    obtain ⟨message, hpays, -⟩ := checkPayment_pays hchecks
    exact ⟨transaction, message, hpays⟩
  · intro hvalid transaction transfer replace hchecks
    by_cases hrefused : Refused (ext.simulate transaction replace)
    · exact Or.inr hrefused
    · left
      obtain ⟨transaction', message', hpays', hreports⟩ := hvalid _
        (verifyPaymentAgainst_ok_iff.2 ⟨transaction, transfer, replace, hchecks, hrefused, rfl⟩) rfl
      obtain ⟨message, hpays, hreplace⟩ := checkPayment_pays hchecks
      -- one text is one transaction
      obtain ⟨rfl, rfl⟩ := hpays.unique hpays'
      rw [hreplace]
      exact hreports
  · intro hcondition result h hresult
    obtain ⟨transaction, transfer, replace, hchecks, hrefused, -⟩ :=
      verifyPaymentAgainst_ok_iff.1 h
    obtain ⟨message, hpays, hreplace⟩ := checkPayment_pays hchecks
    refine ⟨transaction, message, hpays, ?_⟩
    rw [← hreplace]
    exact (hcondition transaction transfer replace hchecks).resolve_right hrefused

end

/-! ### A failing simulation -/

/-- The key of USDC. -/
def sampleMint : Pubkey := #v[
  198, 250, 122, 243, 190, 219, 173, 58, 61, 101, 243, 106, 171, 201, 116, 49, 177, 187, 228, 194,
  210, 246, 224, 228, 124, 166, 2, 3, 69, 47, 93, 97]

/-- The key of the golden vector sends 2625 units of USDC to the token account of the other key. -/
def transferMessage : List UInt8 :=
  [1, 0, 2, 5] ++ goldenAgent.toList ++ goldenAgentAta.toList ++ otherAgentAta.toList ++
    sampleMint.toList ++ tokenProgramId.toList ++ List.replicate 32 0xAB ++
    [1, 4, 4, 1, 3, 2, 0, 10, 12, 65, 10, 0, 0, 0, 0, 0, 0, 6]

/-- The same message, parsed. -/
def directParsed : ParsedMessage where
  header := ⟨1, 0, 2⟩
  accountKeys := [goldenAgent, goldenAgentAta, otherAgentAta, sampleMint, tokenProgramId]
  recentBlockhash := Vector.replicate 32 0xAB
  instructions := [⟨4, [1, 3, 2, 0], [12, 65, 10, 0, 0, 0, 0, 0, 0, 6]⟩]
  isV0 := false

theorem transferMessage_eq : transferMessage = directParsed.bytes := by
  simp [transferMessage, directParsed, ParsedMessage.bytes, CompiledInstruction.bytes]

theorem directParsed_short : directParsed.Short := by
  refine ⟨rfl, by decide, by decide, by decide, ?_⟩
  intro ix hix
  rw [List.mem_singleton.1 hix]
  exact ⟨by decide, by decide⟩

/-- Its signature. -/
def transferSignature : Signature := #v[
  79, 120, 150, 4, 217, 247, 48, 183, 79, 89, 253, 84, 99, 15, 115, 14, 18, 124, 236, 180, 197, 96,
  160, 21, 16, 150, 223, 106, 240, 217, 5, 206, 47, 102, 82, 221, 15, 148, 99, 43, 119, 74, 42, 156,
  163, 6, 91, 198, 179, 241, 192, 125, 80, 185, 124, 43, 156, 44, 76, 195, 32, 31, 103, 15]

/-- The transaction. -/
def transferTx : String :=
  "AU94lgTZ9zC3T1n9VGMPcw4SfOy0xWCgFRCW32rw2QXOL2ZS3Q+UYyt3SiqcowZbxrPxwH1QuXwrnCxMwyAfZw8BAAIFGX9r" ++
  "I+FshTLGq8g4+s1ep4m+DHaykgM0A5v6iz02jWEUtdnlbYnE3avA84DOO4wvyfA9bjZxRumTasKUlOhjnkaB4Y5LdDN/dqlr" ++
  "4cD4a1f7Jq0sT292GrT0EzKDopzvxvp6877brTo9ZfNqq8l0MbG75MLS9uDkfKYCA0UvXWEG3fbh12Whk9nL4UbO63msHLSF" ++
  "7V9bN5E6jPWFfv8Aqaurq6urq6urq6urq6urq6urq6urq6urq6urq6urq6urAQQEAQMCAAoMQQoAAAAAAAAG"

/-- The signature library on one signature of the golden key. -/
def goldenEd25519 (message : List UInt8) (signature : Signature) : Ed25519 where
  verifyingKey key := if key = goldenAgent then .ok () else .error "signature error"
  verify key message' signature' :=
    if key = goldenAgent ∧ message' = message ∧ signature' = signature then .ok ()
    else .error "signature error"

/-- A reply to `simulateTransaction`, with an error or `null`. -/
def simulationReply (err : JsonValue) : JsonValue :=
  .obj [("jsonrpc", .str "2.0"),
    ("result", .obj [("context", .obj [("slot", .num "1000000")]), ("value", .obj [("err", err)])]),
    ("id", .num "1")]

/-- The RPC says that the first instruction fails. -/
def failingSimulation : JsonValue :=
  simulationReply (.obj [("InstructionError", .arr [.num "0", .obj [("Custom", .num "1")]])])

/-- The golden key's payments, under a simulation that fails. -/
def failingExternals (message : List UInt8) (signature : Signature) : Externals where
  prims := goldenPrims
  ed := goldenEd25519 message signature
  keyText _ := ""
  simulate _ _ := .ok failingSimulation

/-- The gateway of the other key, without a nonce pool. -/
def sampleVerifier : SolanaVerifier := ⟨otherAgent, sampleMint, none⟩

/-- A direct payment of 2625 units. -/
def directPayment (transaction : String) : PaymentPayload where
  x402Version := 2
  resource := ⟨"/v1/chat/completions", "POST"⟩
  accepted :=
    { scheme := "exact", network := "solana:5eykt4UsFv8P8NJdTREpY1vzqKqZKvdp", amount := "2625"
      asset := "EPjFWdd5AufqSSqeM2qN1xzybapC8G4wEGGkZwyTDt1v", payTo := ""
      maxTimeoutSeconds := 300, escrowProgramId := none }
  payload := .direct transaction

/-- The verifier refuses neither the reply nor the error in it. -/
theorem simulationReply_not_refused (err : JsonValue) : ¬ Refused (.ok (simulationReply err)) := by
  have hnoError : JsonValue.member (simulationReply err) "error" = none := by
    simp [simulationReply, JsonValue.member, fieldOf]
  have hresult : JsonValue.member (simulationReply err) "result" =
      some (.obj [("context", .obj [("slot", .num "1000000")]),
        ("value", .obj [("err", err)])]) := by
    simp [simulationReply, JsonValue.member, fieldOf]
  rintro (⟨e, he⟩ | ⟨reply, hreply, herror⟩)
  · exact absurd he (by simp)
  · rw [← Except.ok.inj hreply] at herror
    rcases herror with ⟨e, he⟩ | ⟨result, err', hresult', herr', -⟩
    · rw [hnoError] at he
      exact absurd he (by simp)
    · rw [← Option.some.inj (hresult.symm.trans hresult')] at herr'
      exact absurd herr' (by simp [JsonValue.member, fieldOf])

/-- A reply with an error does not report that there is none. -/
theorem simulationReply_reports {err : JsonValue}
    (h : ReportsNoError (.ok (simulationReply err))) : err = .null := by
  obtain ⟨reply, result, value, hreply, hresult, hvalue, herr⟩ := h
  rw [← Except.ok.inj hreply] at hresult
  have hresult : .obj [("context", .obj [("slot", .num "1000000")]), ("value", .obj [("err", err)])] =
      result := by
    simpa [simulationReply, JsonValue.member, fieldOf] using hresult
  rw [← hresult] at hvalue
  have hvalue : .obj [("err", err)] = value := by
    simpa [JsonValue.member, fieldOf] using hvalue
  rw [← hvalue] at herr
  simpa [JsonValue.member, fieldOf] using herr

theorem goldenEd25519_key (message : List UInt8) (signature : Signature) :
    (goldenEd25519 message signature).verifyingKey goldenAgent = .ok () := by
  unfold goldenEd25519
  dsimp only
  rw [if_pos rfl]

theorem goldenEd25519_verify (message : List UInt8) (signature : Signature) :
    (goldenEd25519 message signature).verify goldenAgent message signature = .ok () :=
  if_pos ⟨rfl, rfl, rfl⟩

theorem decodeAndValidate_transferTx :
    decodeAndValidateTransaction (goldenEd25519 transferMessage transferSignature) transferTx =
      .ok ⟨[transferSignature], transferMessage⟩ := by
  have htext : base64Decode (textBytes transferTx) =
      some (wireBytes transferSignature directParsed.bytes) := by
    decide +kernel
  rw [transferMessage_eq]
  exact decodeAndValidate_of_wire directParsed_short htext rfl
    (goldenEd25519_key _ _) (goldenEd25519_verify _ _)

theorem checkPayment_transferTx :
    checkPayment (failingExternals transferMessage transferSignature) sampleVerifier
        (directPayment transferTx) otherAgent =
      .ok (transferTx, ⟨otherAgentAta, 2625, some sampleMint⟩, true) := by
  have hmessage : ParsedMessage.fromBytes transferMessage = .ok directParsed := by
    rw [transferMessage_eq]
    exact ParsedMessage.fromBytes_bytes directParsed_short
  have hparts : parseU64 (directPayment transferTx).accepted.amount = some 2625 ∧
      extractSplTransfer directParsed = .ok ⟨otherAgentAta, 2625, some sampleMint⟩ ∧
      checkDestination (failingExternals transferMessage transferSignature) sampleVerifier
        otherAgentAta otherAgent = .ok () ∧
      checkMint (failingExternals transferMessage transferSignature) sampleVerifier
        (some sampleMint) = .ok () ∧
      isNonceTransaction directParsed = none := by
    decide +kernel
  obtain ⟨hrequired, htransfer, hdestination, hmint, hnonce⟩ := hparts
  exact checkPayment_of_parts rfl decodeAndValidate_transferTx hmessage hrequired htransfer
    hdestination hmint (le_refl 2625) hnonce

/-- A payment whose simulation fails is reported valid. -/
theorem failing_simulation_is_valid :
    verifyPayment (failingExternals transferMessage transferSignature) sampleVerifier
        (directPayment transferTx) = .ok ⟨true, none, some 2625⟩ ∧
      ¬ ValidIsPaid (failingExternals transferMessage transferSignature) sampleVerifier
        (directPayment transferTx) sampleVerifier.recipient := by
  have hvalid : verifyPayment (failingExternals transferMessage transferSignature) sampleVerifier
      (directPayment transferTx) = .ok ⟨true, none, some 2625⟩ :=
    verifyPaymentAgainst_ok_iff.2 ⟨transferTx, _, true, checkPayment_transferTx,
      simulationReply_not_refused _, rfl⟩
  refine ⟨hvalid, ?_⟩
  intro hpaid
  obtain ⟨transaction, message, -, hreports⟩ := hpaid _ hvalid rfl
  exact absurd (simulationReply_reports hreports) (by simp)

end Solvela.Payment
