import Mathlib.Data.Rat.Floor

/-!
# The 402 bodies the clients accept, and what they sign for them

The body of a 402 answer is the gateway's, and a hostile gateway writes what it likes. The MCP
client and the AI SDK provider parse it with schemas of their own, choose the amount to reserve
each by a rule of its own, and have the payment signed by the same `createPaymentHeader`, which
chooses the entry it signs by a third rule.

JavaScript's floating-point numbers are used for the decimal amounts of the cost breakdown only;
what `Number` and `Math.round` make of a text is a parameter, and so is `JSON.parse`.
-/

namespace Solvela.Client

/-! ## JSON -/

/-- A parsed JSON value. -/
inductive Json
  | null
  | bool (b : Bool)
  | num (n : ℚ)
  | str (s : String)
  | arr (values : List Json)
  | obj (fields : List (String × Json))

/-- A property of a value; `none` is `undefined`. -/
def Json.get : Json → String → Option Json
  | obj fields, key => fields.lookup key
  | _, _ => none

def Json.isObject : Json → Bool
  | obj _ => true
  | _ => false

/-- What JavaScript makes of a text as a number. -/
structure JsNumber where
  /-- `Number(text)` is finite and not negative. -/
  isAmount : String → Bool
  /-- `Math.round(Number(text) * 1_000_000)`. -/
  toMicro : String → ℕ

/-! ## The schemas -/

/-- `string()`. -/
def string : Option Json → Option String
  | some (.str s) => some s
  | _ => none

/-- `pipe(string(), nonEmpty())`. -/
def nonEmptyString (j : Option Json) : Option String := do
  let s ← string j
  if s = "" then none else some s

/-- `decimalAmount`. -/
def decimalAmount (js : JsNumber) (j : Option Json) : Option String := do
  let s ← nonEmptyString j
  if js.isAmount s then some s else none

/-- `pipe(number(), finite(), minValue(0))`; a JSON number that is not finite is no value here. -/
def nonNegative : Option Json → Option ℚ
  | some (.num n) => if 0 ≤ n then some n else none
  | _ => none

/-- `pipe(number(), integer(), minValue(0))`. -/
def nonNegativeInteger (j : Option Json) : Option ℚ := do
  let n ← nonNegative j
  if n.den = 1 then some n else none

/-- `optional(string())`: absent, or a string. -/
def optionalString : Option Json → Option (Option String)
  | none => some none
  | some (.str s) => some (some s)
  | some _ => none

structure CostBreakdown where
  providerCost : String
  platformFee : String
  total : String
  currency : String
  feePercent : ℚ
deriving DecidableEq

structure PaymentAccept where
  scheme : String
  network : String
  amount : String
  asset : String
  payTo : String
  maxTimeoutSeconds : ℚ
  escrowProgramId : Option String
deriving DecidableEq

structure Resource where
  url : String
  method : String
deriving DecidableEq

structure PaymentRequired where
  x402Version : ℚ
  accepts : List PaymentAccept
  costBreakdown : CostBreakdown
  error : String
  resource : Option Resource
deriving DecidableEq

/-- `CostBreakdownSchema`, the same in both packages. -/
def costBreakdownSchema (js : JsNumber) (j : Json) : Option CostBreakdown := do
  let providerCost ← decimalAmount js (j.get "provider_cost")
  let platformFee ← decimalAmount js (j.get "platform_fee")
  let total ← decimalAmount js (j.get "total")
  let currency ← nonEmptyString (j.get "currency")
  let feePercent ← nonNegative (j.get "fee_percent")
  some ⟨providerCost, platformFee, total, currency, feePercent⟩

/-- What the two `PaymentAcceptSchema`s have in common: `timeout` and `escrowProgramId` differ. -/
def paymentAccept (js : JsNumber) (timeout : Option Json → Option ℚ)
    (escrowProgramId : Option Json → Option (Option String)) (j : Json) : Option PaymentAccept := do
  let scheme ← nonEmptyString (j.get "scheme")
  let network ← nonEmptyString (j.get "network")
  let amount ← decimalAmount js (j.get "amount")
  let asset ← nonEmptyString (j.get "asset")
  let payTo ← nonEmptyString (j.get "pay_to")
  let maxTimeoutSeconds ← timeout (j.get "max_timeout_seconds")
  let escrowProgramId ← escrowProgramId (j.get "escrow_program_id")
  some ⟨scheme, network, amount, asset, payTo, maxTimeoutSeconds, escrowProgramId⟩

/-- `pipe(array(schema), minLength(1))`. -/
def nonEmptyArray {α : Type} (schema : Json → Option α) : Option Json → Option (List α)
  | some (.arr (value :: values)) => (value :: values).mapM schema
  | _ => none

/-- `ResourceSchema`. -/
def resourceSchema (j : Json) : Option Resource := do
  let url ← string (j.get "url")
  let method ← string (j.get "method")
  some ⟨url, method⟩

/-! ## `parse402` of signer-core -/

namespace SignerCore

/-- `PaymentAcceptSchema`. -/
def paymentAcceptSchema (js : JsNumber) : Json → Option PaymentAccept :=
  paymentAccept js nonNegativeInteger optionalString

/-- `PaymentRequiredSchema`. -/
def paymentRequiredSchema (js : JsNumber) (j : Json) : Option PaymentRequired := do
  let x402Version ← nonNegativeInteger (j.get "x402_version")
  let accepts ← nonEmptyArray (paymentAcceptSchema js) (j.get "accepts")
  let costBreakdown ← costBreakdownSchema js (← j.get "cost_breakdown")
  let error ← string (j.get "error")
  let resource ←
    match j.get "resource" with
    | none => some none
    | some r => (resourceSchema r).map some
  some ⟨x402Version, accepts, costBreakdown, error, resource⟩

/-- `Envelope402Schema`: the text of `error.message`. -/
def envelope402Schema (j : Json) : Option String := do
  string ((← j.get "error").get "message")

/-- `validateOrThrow`; the message ends with the issues valibot lists. -/
def validateOrThrow (js : JsNumber) (value : Json) (context : String) :
    Except String PaymentRequired :=
  match paymentRequiredSchema js value with
  | some info => .ok info
  | none => .error s!"Gateway 402 body failed validation {context}"

/-- `parse402`. -/
def parse402 (js : JsNumber) (jsonParse : String → Option Json) (raw : String) :
    Except String PaymentRequired :=
  match jsonParse raw with
  | none =>
    let start := raw.take 200
    .error s!"Gateway returned 402 with non-JSON body (first 200 chars): {start}"
  | some body =>
    if body.isObject then
      match envelope402Schema body with
      | some innerRaw =>
        match jsonParse innerRaw with
        | none =>
          let start := innerRaw.take 200
          .error s!"Gateway 402 error.message is not valid JSON (first 200 chars): {start}"
        | some inner => validateOrThrow js inner "(parsed from error.message)"
      | none => validateOrThrow js body "(direct shape)"
    else
      let start := raw.take 200
      .error s!"Gateway 402 body is not a JSON object (first 200 chars): {start}"

end SignerCore

/-! ## `parseGateway402` and `selectAccept` of the AI SDK provider -/

/-- The mint of USDC, `USDC_MINT` of signer-core and `USDC_MINT_MAINNET` of the AI SDK provider. -/
def usdcMint : String := "EPjFWdd5AufqSSqeM2qN1xzybapC8G4wEGGkZwyTDt1v"

/-- The value of a text of decimal digits. -/
def digitsValue (digits : List Char) : ℕ :=
  digits.foldl (fun n c => n * 10 + (c.toNat - '0'.toNat)) 0

/-- The test `/^\d+$/`. -/
def isDigits (text : List Char) : Bool := text ≠ [] ∧ text.all Char.isDigit

/-- `StrWhiteSpaceChar`. -/
def isStrWhiteSpace (c : Char) : Bool :=
  c.toNat ∈ [0x9, 0xA, 0xB, 0xC, 0xD, 0x20, 0xA0, 0x1680, 0x2028, 0x2029, 0x202F, 0x205F, 0x3000,
      0xFEFF] ∨ (0x2000 ≤ c.toNat ∧ c.toNat ≤ 0x200A)

def trimWhiteSpace (text : List Char) : List Char :=
  ((text.dropWhile isStrWhiteSpace).reverse.dropWhile isStrWhiteSpace).reverse

/-- The digit of a letter in a base up to 16. -/
def radixDigit (radix : ℕ) (c : Char) : Option ℕ :=
  let d :=
    if c.isDigit then c.toNat - '0'.toNat
    else if 'a' ≤ c ∧ c ≤ 'f' then c.toNat - 'a'.toNat + 10
    else if 'A' ≤ c ∧ c ≤ 'F' then c.toNat - 'A'.toNat + 10
    else 16
  if d < radix then some d else none

def radixValue (radix : ℕ) : List Char → Option ℕ
  | [] => none
  | digits => digits.foldlM (fun n c => (radixDigit radix c).map (n * radix + ·)) 0

/-- `BigInt(text)`; `none` is its `SyntaxError`. -/
def bigInt (text : String) : Option ℤ :=
  match trimWhiteSpace text.toList with
  | [] => some 0
  | '0' :: 'x' :: ds | '0' :: 'X' :: ds => (radixValue 16 ds).map (↑)
  | '0' :: 'o' :: ds | '0' :: 'O' :: ds => (radixValue 8 ds).map (↑)
  | '0' :: 'b' :: ds | '0' :: 'B' :: ds => (radixValue 2 ds).map (↑)
  | '-' :: ds => if isDigits ds then some (-(digitsValue ds)) else none
  | '+' :: ds => if isDigits ds then some (digitsValue ds) else none
  | ds => if isDigits ds then some (digitsValue ds) else none

namespace AiSdk

/-- `PaymentAcceptSchema`: an unknown key is dropped, and `escrow_program_id` is one. -/
def paymentAcceptSchema (js : JsNumber) : Json → Option PaymentAccept :=
  paymentAccept js nonNegative fun _ => some none

/-- `PaymentRequiredSchema`. -/
def paymentRequiredSchema (js : JsNumber) (j : Json) : Option PaymentRequired := do
  let x402Version ← nonNegative (j.get "x402_version")
  let resource ← resourceSchema (← j.get "resource")
  let accepts ← nonEmptyArray (paymentAcceptSchema js) (j.get "accepts")
  let costBreakdown ← costBreakdownSchema js (← j.get "cost_breakdown")
  let error ← string (j.get "error")
  some ⟨x402Version, accepts, costBreakdown, error, some resource⟩

/-- The envelope: the type and the message of `error`, if the message is a string. -/
def looksLikeEnvelope (body : Json) : Option (Option Json × String) := do
  let error ← body.get "error"
  let message ← string (error.get "message")
  some (error.get "type", message)

def validateInner (js : JsNumber) (inner : Json) (context : String) :
    Except String PaymentRequired :=
  match paymentRequiredSchema js inner with
  | some info => .ok info
  | none => .error s!"[solvela] {context}"

/-- `parseGateway402`; a message about a schema ends with the issues valibot lists. -/
def parseGateway402 (js : JsNumber) (jsonParse : String → Option Json) (body : Json) :
    Except String PaymentRequired :=
  if !body.isObject then .error "[solvela] 402 body: not a JSON object"
  else
    match looksLikeEnvelope body with
    | none =>
      validateInner js body
        ("402 body matches neither envelope shape (`error.message` with stringified JSON) nor " ++
          "direct PaymentRequired shape — validation against direct")
    | some (type, message) =>
      match nonEmptyString type with
      | none => .error "[solvela] 402 envelope"
      | some type =>
        if type ≠ "invalid_payment" then
          .error (s!"[solvela] 402 envelope: unsupported error.type \"{type}\"; expected " ++
            "\"invalid_payment\"")
        else
          match jsonParse message with
          | none => .error "[solvela] 402 envelope: `error.message` is not valid JSON"
          | some inner =>
            if inner.isObject then validateInner js inner "402 inner PaymentRequired"
            else .error "[solvela] 402 envelope: inner PaymentRequired is not an object"

/-- The entries of the v1 rule. -/
def supported (accept : PaymentAccept) : Bool :=
  accept.scheme = "exact" ∧ accept.asset = usdcMint

/-- `selectAccept`: the first entry of the v1 rule, and its cost. -/
def selectAccept (parsed : PaymentRequired) : Except String (PaymentAccept × ℕ) :=
  match parsed.accepts.find? supported with
  | none =>
    .error "no supported payment scheme in accepts[]: v1 requires scheme=exact + asset=USDC"
  | some accept =>
    match bigInt accept.amount with
    | none =>
      let amount := accept.amount
      .error s!"[solvela] 402 envelope: selected accept.amount \"{amount}\" is not a valid integer"
    | some cost =>
      if cost < 0 then .error "[solvela] 402 envelope: selected accept.amount is negative"
      else .ok (accept, cost.toNat)

end AiSdk

/-! ## `createPaymentHeader` -/

/-- The largest amount a bound allows: a `bigint`, or a text of its own. -/
inductive MaxAmount
  | bigint (n : ℤ)
  | text (s : String)

/-- `PaymentExpectations`. -/
structure PaymentExpectations where
  recipient : Option String
  maxAmount : Option MaxAmount
  escrowProgramId : Option String

/-- `parsePositiveAmount`. -/
def parsePositiveAmount (amountStr label : String) : Except String ℕ :=
  if !isDigits amountStr.toList then
    .error (s!"{label} amount must be a non-negative integer string (atomic units), got: " ++
      amountStr)
  else if digitsValue amountStr.toList = 0 then
    .error s!"{label} amount must be positive, got: {amountStr}"
  else .ok (digitsValue amountStr.toList)

/-- The recipient, if the caller expects one. -/
def checkRecipient (accept : PaymentAccept) : Option String → Except String Unit
  | none => .ok ()
  | some recipient =>
    if accept.payTo = recipient then .ok ()
    else
      let payTo := accept.payTo
      .error (s!"Payment recipient mismatch: server requested pay_to={payTo} but caller " ++
        s!"expected {recipient}. Refusing to sign.")

def MaxAmount.value : MaxAmount → Except String ℤ
  | bigint n => .ok n
  | text s => (parsePositiveAmount s "expected maxAmount").map (↑)

/-- The amount, if the caller bounds it. -/
def checkMaxAmount (accept : PaymentAccept) : Option MaxAmount → Except String Unit
  | none => .ok ()
  | some maxAmount => do
    let max ← maxAmount.value
    let requested ← parsePositiveAmount accept.amount "Payment"
    if (requested : ℤ) ≤ max then .ok ()
    else
      let amount := accept.amount
      .error (s!"Payment amount cap exceeded: server requested {amount} atomic units but caller " ++
        s!"authorized at most {max}. Refusing to sign.")

/-- The program of an escrow entry, if the caller expects one. -/
def checkEscrowProgram (accept : PaymentAccept) : Option String → Except String Unit
  | none => .ok ()
  | some programId =>
    if accept.scheme = "escrow" ∧ accept.escrowProgramId ≠ some programId then
      let requested := accept.escrowProgramId.getD "(unset)"
      .error (s!"Escrow program mismatch: server requested escrow_program_id={requested} but " ++
        s!"caller expected {programId}. Refusing to sign.")
    else .ok ()

/-- `validateAccept`. -/
def validateAccept (accept : PaymentAccept) (expected : PaymentExpectations) :
    Except String Unit := do
  checkRecipient accept expected.recipient
  checkMaxAmount accept expected.maxAmount
  checkEscrowProgram accept expected.escrowProgramId

/-- What is signed: the marker of the stub mode, a transfer of USDC, or an escrow deposit. -/
inductive PaymentPayload
  | stub
  | transaction (payTo : String) (amount : ℕ)
  | depositTx (payTo programId : String) (amount : ℕ)
deriving DecidableEq

/-- The USDC that the transaction moves or deposits. -/
def PaymentPayload.moved : PaymentPayload → ℕ
  | stub => 0
  | transaction _ amount => amount
  | depositTx _ _ amount => amount

structure PaymentHeader where
  resourceUrl : String
  accepted : PaymentAccept
  payload : PaymentPayload
deriving DecidableEq

/-- Keys, addresses and the RPC node, and the 8-byte field of the token library. -/
structure Signer where
  privateKey : Option String
  /-- The rest of `buildSolanaTransferChecked`. -/
  buildTransfer : Except String Unit
  /-- The key, the connection and its slot. -/
  connect : Except String Unit
  /-- The rest of `buildEscrowDepositTx`. -/
  buildDeposit : Except String Unit
  /-- An amount as the instruction carries it. -/
  u64 : ℕ → ℕ
  u64_lt : ∀ n, u64 n < 2 ^ 64
  u64_eq : ∀ n, n < 2 ^ 64 → u64 n = n

/-- A key that is absent or empty signs nothing. -/
def Signer.hasKey (signer : Signer) : Bool := signer.privateKey.getD "" ≠ ""

/-- `Number.MAX_SAFE_INTEGER`. -/
def maxSafeInteger : ℕ := 2 ^ 53 - 1

/-- `buildSolanaTransferChecked`: the mint is USDC's, whatever the entry says. -/
def buildSolanaTransferChecked (signer : Signer) (payTo amountStr : String) :
    Except String PaymentPayload := do
  let amount ← parsePositiveAmount amountStr "Payment"
  signer.buildTransfer
  pure (.transaction payTo (signer.u64 amount))

/-- `buildEscrowDeposit`, with the amount check of `buildEscrowDepositTx`. -/
def buildEscrowDeposit (signer : Signer) (payTo amountStr programId : String)
    (maxTimeoutSeconds : ℚ) : Except String PaymentPayload := do
  let amount ← parsePositiveAmount amountStr "Escrow deposit"
  if maxTimeoutSeconds.den = 1 then
    signer.connect
    if amount ≤ maxSafeInteger then
      signer.buildDeposit
      pure (.depositTx payTo programId amount)
    else .error "deposit amount exceeds the safe-integer range (cannot encode as u64)"
  else .error "max_timeout_seconds must be a finite integer number of seconds"

/-- An escrow entry with its program, which is preferred. -/
def PaymentAccept.escrowProgram (accept : PaymentAccept) : Option String :=
  if accept.scheme = "escrow" ∧ accept.escrowProgramId.getD "" ≠ "" then accept.escrowProgramId
  else none

/-- The entry `createPaymentHeader` signs: the first escrow entry, or else the first entry. -/
def chosenAccept (accepts : List PaymentAccept) : Option PaymentAccept :=
  (accepts.find? fun a => a.escrowProgram.isSome).or accepts.head?

/-- The transaction of an entry, or the marker of the stub mode. -/
def buildPayload (signer : Signer) (accept : PaymentAccept) : Except String PaymentPayload :=
  if signer.hasKey then
    match accept.escrowProgram with
    | some programId =>
      buildEscrowDeposit signer accept.payTo accept.amount programId accept.maxTimeoutSeconds
    | none => buildSolanaTransferChecked signer accept.payTo accept.amount
  else .ok .stub

/-- The checks of `createPaymentHeader`; a caller that expects nothing gets none. -/
def checkExpected (accept : PaymentAccept) : Option PaymentExpectations → Except String Unit
  | none => .ok ()
  | some expected => validateAccept accept expected

/-- `createPaymentHeader`. -/
def createPaymentHeader (signer : Signer) (paymentInfo : PaymentRequired) (resourceUrl : String)
    (expected : Option PaymentExpectations) : Except String PaymentHeader :=
  match chosenAccept paymentInfo.accepts with
  | none => .error "No payment accept options in 402 response"
  | some accept => do
    checkExpected accept expected
    let payload ← buildPayload signer accept
    pure ⟨resourceUrl, accept, payload⟩

end Solvela.Client
