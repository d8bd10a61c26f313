import Solvela.Client.Accepts
import Solvela.Lib.Txn

/-!
# What is reserved and what is signed

The MCP client reserves the total of the cost breakdown and hands it to `createPaymentHeader` as
the largest amount to sign. The AI SDK provider reserves the amount of the first exact USDC entry,
and its local wallet adapter hands the whole list to `createPaymentHeader`, with no bound.

* `buildPayload_moves`, what a signed payload moves;
* `mcpSign_moved_le`, the bound of the MCP client;
* `chosenAccept_eq_head` and `selectAccept_of_supported`, which entry is signed and which is booked.
-/

namespace Solvela.Client

open Solvela.Lib.Txn

/-! ## The MCP client -/

inductive SigningMode
  | auto
  | escrow
  | direct
  | off
deriving DecidableEq

def SigningMode.text : SigningMode → String
  | auto => "auto"
  | escrow => "escrow"
  | direct => "direct"
  | off => "off"

/-- The options of `GatewayClient` that `paidCall` reads; the budget is in micro-USDC. -/
structure McpConfig where
  sessionBudget : Option ℕ
  signingMode : SigningMode
  expectedRecipient : Option String
  expectedEscrowProgramId : Option String

/-- `filterAccepts`. -/
def filterAccepts (accepts : List PaymentAccept) (mode : SigningMode) :
    Except String (List PaymentAccept) :=
  let filtered :=
    match mode with
    | .escrow => accepts.filter (·.scheme = "escrow")
    | .direct => accepts.filter (·.scheme = "exact")
    | _ => accepts
  if mode ≠ .auto ∧ filtered = [] then
    let text := mode.text
    let offered := ", ".intercalate (accepts.map (·.scheme))
    .error (s!"No payment accepts match signing mode '{text}'. Gateway offered: " ++ offered)
  else .ok filtered

/-- The first part of `paidCall` on a 402: the body and what it costs. -/
def mcpQuote (js : JsNumber) (jsonParse : String → Option Json) (raw : String) :
    Except String (PaymentRequired × ℕ) := do
  let paymentInfo ← SignerCore.parse402 js jsonParse raw
  let total := paymentInfo.costBreakdown.total
  if js.isAmount total then .ok (paymentInfo, js.toMicro total)
  else .error s!"Gateway returned invalid total cost: {total}"

/-- `isStubHeader`. -/
def isStubHeader (header : PaymentHeader) : Bool := header.payload = .stub

/-- The signing of `paidCall`, between the reservation and the retry. When it is off, the request
is sent again without a header. -/
def mcpSign (config : McpConfig) (signer : Signer) (paymentInfo : PaymentRequired)
    (costMicro : ℕ) (url : String) : Except String (Option PaymentHeader) :=
  if config.signingMode = .off then .ok none
  else do
    let filteredAccepts ← filterAccepts paymentInfo.accepts config.signingMode
    let expected : PaymentExpectations :=
      ⟨config.expectedRecipient, some (.bigint costMicro), config.expectedEscrowProgramId⟩
    let paymentHeader ←
      createPaymentHeader signer { paymentInfo with accepts := filteredAccepts } url (some expected)
    -- without a key the stub is sent, and the gateway rejects it
    if signer.privateKey.isSome ∧ isStubHeader paymentHeader then
      .error ("Payment signing returned a stub transaction. This means signing silently " ++
        "degraded to stub mode — likely @solana/web3.js or peer deps are unresolvable at " ++
        "runtime. Reinstall @solvela/mcp-server and retry.")
    else .ok (some paymentHeader)

/-! ## The AI SDK provider -/

/-- The first part of `solvelaFetch` on a 402: the body, and the entry and cost that are
reserved. -/
def aiSdkQuote (js : JsNumber) (jsonParse : String → Option Json) (rawText : Option String) :
    Except String (PaymentRequired × PaymentAccept × ℕ) :=
  match rawText with
  | none => .error "[solvela] 402 body: not a JSON object"
  | some raw =>
    match jsonParse raw with
    | none => .error "[solvela] 402 envelope: body is not valid JSON"
    | some body => do
      let parsed ← AiSdk.parseGateway402 js jsonParse body
      let selected ← AiSdk.selectAccept parsed
      pure (parsed, selected)

/-- `signPayment` of `createLocalWalletAdapter`, of a request that is not aborted. -/
def localSignPayment (signer : Signer) (paymentRequired : PaymentRequired) (resourceUrl : String) :
    Except String PaymentHeader :=
  createPaymentHeader signer paymentRequired resourceUrl none

/-! ## Both -/

inductive BudgetedClient
  | mcp (config : McpConfig)
  | aiSdk

/-- The body of a 402, as the client accepts it. -/
def BudgetedClient.parse (js : JsNumber) (jsonParse : String → Option Json) (raw : String) :
    BudgetedClient → Except String PaymentRequired
  | mcp _ => SignerCore.parse402 js jsonParse raw
  | aiSdk =>
    match jsonParse raw with
    | none => .error "[solvela] 402 envelope: body is not valid JSON"
    | some body => AiSdk.parseGateway402 js jsonParse body

/-- What is reserved for a request, and the header that is signed for it, if one is. -/
def BudgetedClient.reserveAndSign (js : JsNumber) (jsonParse : String → Option Json)
    (signer : Signer) (url raw : String) :
    BudgetedClient → Except String (ℕ × Option PaymentHeader)
  | mcp config => do
    let (paymentInfo, costMicro) ← mcpQuote js jsonParse raw
    let header ← mcpSign config signer paymentInfo costMicro url
    pure (costMicro, header)
  | aiSdk => do
    let (parsed, _, cost) ← aiSdkQuote js jsonParse (some raw)
    let header ← localSignPayment signer parsed url
    pure (cost, some header)

/-- What is signed is within what was reserved, and the AI SDK provider signs the exact scheme
only. -/
structure Faithful (client : BudgetedClient) (reserved : ℕ) (header : PaymentHeader) : Prop where
  moved : header.payload.moved ≤ reserved
  exact : client = .aiSdk → AiSdk.supported header.accepted = true

/-! ## The signer -/

/-- An amount that is signed is a text of digits. -/
theorem parsePositiveAmount_ok {amountStr label : String} {n : ℕ}
    (h : parsePositiveAmount amountStr label = .ok n) :
    isDigits amountStr.toList = true ∧ n = digitsValue amountStr.toList := by
  unfold parsePositiveAmount at h
  split at h
  · cases h
  next hdigits =>
  split at h
  · cases h
  · exact ⟨by simpa using hdigits, (Except.ok.inj h).symm⟩

/-- A wire word never holds more than its amount. -/
theorem Signer.u64_le (signer : Signer) (n : ℕ) : signer.u64 n ≤ n := by
  by_cases hn : n < 2 ^ 64
  · exact (signer.u64_eq n hn).le
  · have hlt := signer.u64_lt n
    omega

/-- What is signed for an entry is a stub, or moves at most its amount, in digits. -/
def Moves (amountStr : String) (payload : PaymentPayload) : Prop :=
  payload = .stub ∨
    (isDigits amountStr.toList = true ∧ payload.moved ≤ digitsValue amountStr.toList)

/-- The exact payment moves the amount that was offered. -/
theorem buildSolanaTransferChecked_moves {signer : Signer} {payTo amountStr : String}
    {payload : PaymentPayload}
    (h : buildSolanaTransferChecked signer payTo amountStr = .ok payload) :
    Moves amountStr payload := by
  obtain ⟨amount, hamount, h⟩ := except_bind_ok.1 h
  obtain ⟨_, -, h⟩ := except_bind_ok.1 h
  obtain ⟨hdigits, rfl⟩ := parsePositiveAmount_ok hamount
  obtain rfl := Except.ok.inj h
  exact Or.inr ⟨hdigits, signer.u64_le _⟩

/-- So does the escrow deposit. -/
theorem buildEscrowDeposit_moves {signer : Signer} {payTo amountStr programId : String}
    {maxTimeoutSeconds : ℚ} {payload : PaymentPayload}
    (h : buildEscrowDeposit signer payTo amountStr programId maxTimeoutSeconds = .ok payload) :
    Moves amountStr payload := by
  obtain ⟨amount, hamount, h⟩ := except_bind_ok.1 h
  obtain ⟨hdigits, rfl⟩ := parsePositiveAmount_ok hamount
  split at h
  · obtain ⟨_, -, h⟩ := except_bind_ok.1 h
    split at h
    · obtain ⟨_, -, h⟩ := except_bind_ok.1 h
      obtain rfl := Except.ok.inj h
      exact Or.inr ⟨hdigits, le_refl _⟩
    · cases h
  · cases h

/-- Whichever scheme is signed moves the offered amount. -/
theorem buildPayload_moves {signer : Signer} {accept : PaymentAccept} {payload : PaymentPayload}
    (h : buildPayload signer accept = .ok payload) : Moves accept.amount payload := by
  unfold buildPayload at h
  split at h
  · split at h
    · exact buildEscrowDeposit_moves h
    · exact buildSolanaTransferChecked_moves h
  · exact Or.inl (Except.ok.inj h).symm

/-- The entry that is signed passed the caller's checks, and bounds what is moved. -/
theorem createPaymentHeader_ok {signer : Signer} {paymentInfo : PaymentRequired} {url : String}
    {expected : Option PaymentExpectations} {header : PaymentHeader}
    (h : createPaymentHeader signer paymentInfo url expected = .ok header) :
    chosenAccept paymentInfo.accepts = some header.accepted ∧
      checkExpected header.accepted expected = .ok () ∧
      Moves header.accepted.amount header.payload := by
  unfold createPaymentHeader at h
  split at h
  · cases h
  next accept hchosen =>
  obtain ⟨_, hexpected, h⟩ := except_bind_ok.1 h
  obtain ⟨payload, hpayload, h⟩ := except_bind_ok.1 h
  obtain rfl := Except.ok.inj h
  exact ⟨hchosen, hexpected, buildPayload_moves hpayload⟩

/-- What passes the cap of the call is at most the cap. -/
theorem le_of_checkMaxAmount {accept : PaymentAccept} {n : ℕ}
    (h : checkMaxAmount accept (some (.bigint n)) = .ok ()) :
    digitsValue accept.amount.toList ≤ n := by
  obtain ⟨max, hmax, h⟩ := except_bind_ok.1 h
  obtain ⟨requested, hrequested, h⟩ := except_bind_ok.1 h
  obtain rfl := Except.ok.inj hmax
  obtain ⟨-, rfl⟩ := parsePositiveAmount_ok hrequested
  dsimp only at h
  split at h
  next hle => exact Int.ofNat_le.1 hle
  · cases h

/-- A payment of an amount that is at most `n` moves at most `n`. -/
theorem moved_le_of_moves {amountStr : String} {payload : PaymentPayload} {n : ℕ}
    (hmoves : Moves amountStr payload) (hle : digitsValue amountStr.toList ≤ n) :
    payload.moved ≤ n := by
  rcases hmoves with rfl | ⟨-, hmoved⟩
  · exact Nat.zero_le n
  · exact hmoved.trans hle

/-- The MCP client signs at most what it reserved. -/
theorem mcpSign_moved_le {config : McpConfig} {signer : Signer} {paymentInfo : PaymentRequired}
    {costMicro : ℕ} {url : String} {header : PaymentHeader}
    (h : mcpSign config signer paymentInfo costMicro url = .ok (some header)) :
    header.payload.moved ≤ costMicro := by
  unfold mcpSign at h
  split at h
  · cases h
  obtain ⟨accepts, -, h⟩ := except_bind_ok.1 h
  obtain ⟨signed, hsigned, h⟩ := except_bind_ok.1 h
  split at h
  · cases h
  obtain rfl := Option.some.inj (Except.ok.inj h)
  obtain ⟨-, hexpected, hmoves⟩ := createPaymentHeader_ok hsigned
  obtain ⟨_, -, hexpected⟩ := except_bind_ok.1 hexpected
  obtain ⟨_, hmax, -⟩ := except_bind_ok.1 hexpected
  exact moved_le_of_moves hmoves (le_of_checkMaxAmount hmax)

/-! ## The entries of the AI SDK provider -/

theorem isStrWhiteSpace_of_isDigit {c : Char} (h : c.isDigit = true) :
    isStrWhiteSpace c = false := by
  have hrange : 48 ≤ c.toNat ∧ c.toNat ≤ 57 := by
    unfold Char.isDigit at h
    simp only [Bool.and_eq_true, decide_eq_true_eq] at h
    exact ⟨UInt32.le_iff_toNat_le.1 h.1, UInt32.le_iff_toNat_le.1 h.2⟩
  simp [isStrWhiteSpace]
  omega

theorem dropWhile_digits {text : List Char} (h : text.all Char.isDigit = true) :
    text.dropWhile isStrWhiteSpace = text := by
  cases text with
  | nil => rfl
  | cons c cs =>
    have hc : c.isDigit = true := by simp_all
    rw [List.dropWhile_cons_of_neg (by simp [isStrWhiteSpace_of_isDigit hc])]

/-- `BigInt` reads a text of digits as the signer does. -/
theorem bigInt_of_isDigits {text : String} (h : isDigits text.toList = true) :
    bigInt text = some (digitsValue text.toList) := by
  have hall : text.toList.all Char.isDigit = true := by
    simp only [isDigits, decide_eq_true_eq] at h
    exact h.2
  have htrim : trimWhiteSpace text.toList = text.toList := by
    unfold trimWhiteSpace
    rw [dropWhile_digits hall, dropWhile_digits (by simpa using hall), List.reverse_reverse]
  unfold bigInt
  rw [htrim]
  -- no digit is the letter of a base or a sign
  split
  case h_1 hnil => simp [isDigits, hnil] at h
  case h_10 => simp [h]
  all_goals
    rename_i heq
    simp [heq] at hall

/-- The schema of the AI SDK adapter drops the escrow program. -/
theorem escrowProgramId_of_schema {js : JsNumber} {j : Json} {a : PaymentAccept}
    (h : AiSdk.paymentAcceptSchema js j = some a) : a.escrowProgramId = none := by
  simp only [AiSdk.paymentAcceptSchema, paymentAccept, Option.bind_eq_bind,
    Option.bind_eq_some_iff, Option.some.injEq] at h
  obtain ⟨_, -, _, -, _, -, _, -, _, -, _, -, _, rfl, rfl⟩ := h
  rfl

/-- The parser drops the program of an escrow entry. -/
theorem escrowProgramId_of_mapM {js : JsNumber} {values : List Json} {accepts : List PaymentAccept}
    (h : values.mapM (AiSdk.paymentAcceptSchema js) = some accepts) :
    ∀ a ∈ accepts, a.escrowProgramId = none := by
  induction values generalizing accepts with
  | nil =>
    obtain rfl : [] = accepts := by simpa using h
    simp
  | cons value values ih =>
    simp only [List.mapM_cons, Option.bind_eq_bind, Option.bind_eq_some_iff, Option.pure_def,
      Option.some.injEq] at h
    obtain ⟨a, ha, rest, hrest, rfl⟩ := h
    intro b hb
    rcases List.mem_cons.1 hb with rfl | hb
    · exact escrowProgramId_of_schema ha
    · exact ih hrest b hb

/-- So no accept that it parses names one. -/
theorem escrowProgramId_of_parseGateway402 {js : JsNumber} {jsonParse : String → Option Json}
    {body : Json} {parsed : PaymentRequired}
    (h : AiSdk.parseGateway402 js jsonParse body = .ok parsed) :
    ∀ a ∈ parsed.accepts, a.escrowProgramId = none := by
  have hinner : ∃ inner context, AiSdk.validateInner js inner context = .ok parsed := by
    unfold AiSdk.parseGateway402 at h
    split at h
    · cases h
    split at h
    · exact ⟨_, _, h⟩
    split at h
    · cases h
    split at h
    · cases h
    split at h
    · cases h
    split at h
    · exact ⟨_, _, h⟩
    · cases h
  obtain ⟨inner, context, hinner⟩ := hinner
  -- the schema builds every accept, and leaves this field out
  have hschema : AiSdk.paymentRequiredSchema js inner = some parsed := by
    unfold AiSdk.validateInner at hinner
    split at hinner
    next info hinfo =>
      rw [hinfo]
      exact congrArg some (Except.ok.inj hinner)
    · cases hinner
  simp only [AiSdk.paymentRequiredSchema, Option.bind_eq_bind, Option.bind_eq_some_iff,
    Option.some.injEq] at hschema
  obtain ⟨_, -, _, -, _, -, accepts, haccepts, _, -, _, -, _, -, rfl⟩ := hschema
  unfold nonEmptyArray at haccepts
  split at haccepts
  · exact escrowProgramId_of_mapM haccepts
  · cases haccepts

/-- So the first entry of the list is signed. -/
theorem chosenAccept_eq_head {accepts : List PaymentAccept}
    (h : ∀ a ∈ accepts, a.escrowProgramId = none) : chosenAccept accepts = accepts.head? := by
  have hfind : accepts.find? (fun a => a.escrowProgram.isSome) = none := by
    rw [List.find?_eq_none]
    intro a ha
    simp [PaymentAccept.escrowProgram, h a ha]
  rw [chosenAccept, hfind]
  rfl

/-- If the first accept is supported, it is the one that is selected and booked. -/
theorem selectAccept_of_supported {parsed : PaymentRequired} {first selected : PaymentAccept}
    {cost : ℕ} (hhead : parsed.accepts.head? = some first) (hfirst : AiSdk.supported first = true)
    (h : AiSdk.selectAccept parsed = .ok (selected, cost)) :
    ∃ n, bigInt first.amount = some n ∧ cost = n.toNat := by
  have hfind : parsed.accepts.find? AiSdk.supported = some first := by
    cases haccepts : parsed.accepts with
    | nil => simp [haccepts] at hhead
    | cons a as =>
      obtain rfl : a = first := by simpa [haccepts] using hhead
      exact List.find?_cons_of_pos hfirst
  unfold AiSdk.selectAccept at h
  rw [hfind] at h
  dsimp only at h
  split at h
  · cases h
  next n hn =>
  split at h
  · cases h
  · have heq := Except.ok.inj h
    exact ⟨n, hn, (Prod.mk.inj heq).2.symm⟩

/-- A quote is a parsed body and its selected accept. -/
theorem aiSdkQuote_ok {js : JsNumber} {jsonParse : String → Option Json} {raw : String}
    {parsed : PaymentRequired} {selected : PaymentAccept × ℕ}
    (h : aiSdkQuote js jsonParse (some raw) = .ok (parsed, selected)) :
    BudgetedClient.aiSdk.parse js jsonParse raw = .ok parsed ∧
      AiSdk.selectAccept parsed = .ok selected := by
  unfold aiSdkQuote at h
  unfold BudgetedClient.parse
  dsimp only at h ⊢
  split at h
  · cases h
  next body hbody =>
  obtain ⟨parsed', hparsed, h⟩ := except_bind_ok.1 h
  obtain ⟨selected', hselected, h⟩ := except_bind_ok.1 h
  obtain ⟨rfl, rfl⟩ := Prod.mk.inj (Except.ok.inj h)
  exact ⟨hparsed, hselected⟩

/-- No accept of a parsed quote names an escrow program. -/
theorem escrowProgramId_of_parse {js : JsNumber} {jsonParse : String → Option Json} {raw : String}
    {parsed : PaymentRequired} (h : BudgetedClient.aiSdk.parse js jsonParse raw = .ok parsed) :
    ∀ a ∈ parsed.accepts, a.escrowProgramId = none := by
  unfold BudgetedClient.parse at h
  dsimp only at h
  split at h
  · cases h
  · exact escrowProgramId_of_parseGateway402 h

/-- What is signed is within what was reserved, but for an AI SDK provider that is offered another
entry first. -/
theorem faithful_iff (client : BudgetedClient) (js : JsNumber) (jsonParse : String → Option Json)
    (signer : Signer) (url raw : String) {reserved : ℕ} {header : PaymentHeader}
    (h : client.reserveAndSign js jsonParse signer url raw = .ok (reserved, some header)) :
    Faithful client reserved header ↔
      (client = .aiSdk → ∃ parsed, client.parse js jsonParse raw = .ok parsed ∧
        ∃ first, parsed.accepts.head? = some first ∧ AiSdk.supported first = true) := by
  cases client with
  | mcp config =>
    obtain ⟨⟨paymentInfo, costMicro⟩, -, h⟩ := except_bind_ok.1 h
    obtain ⟨signed, hsigned, h⟩ := except_bind_ok.1 h
    obtain ⟨rfl, rfl⟩ := Prod.mk.inj (Except.ok.inj h)
    -- the other client signs what it reserved
    refine iff_of_true ⟨mcpSign_moved_le hsigned, ?_⟩ ?_
    · intro hclient
      cases hclient
    · intro hclient
      cases hclient
  | aiSdk =>
    obtain ⟨⟨parsed, selected, cost⟩, hquote, h⟩ := except_bind_ok.1 h
    obtain ⟨signed, hsigned, h⟩ := except_bind_ok.1 h
    obtain ⟨rfl, hheader⟩ := Prod.mk.inj (Except.ok.inj h)
    obtain rfl := Option.some.inj hheader
    obtain ⟨hparse, hselect⟩ := aiSdkQuote_ok hquote
    obtain ⟨hchosen, -, hmoves⟩ := createPaymentHeader_ok hsigned
    rw [chosenAccept_eq_head (escrowProgramId_of_parse hparse)] at hchosen
    constructor
    · intro hfaithful _
      exact ⟨parsed, hparse, signed.accepted, hchosen, hfaithful.exact rfl⟩
    · intro hcondition
      obtain ⟨parsed', hparse', first, hhead, hfirst⟩ := hcondition rfl
      obtain rfl := Except.ok.inj (hparse.symm.trans hparse')
      obtain rfl := Option.some.inj (hchosen.symm.trans hhead)
      refine ⟨?_, fun _ => hfirst⟩
      obtain ⟨n, hn, rfl⟩ := selectAccept_of_supported hchosen hfirst hselect
      -- a stub moves nothing, and a signed amount is the one that was parsed
      rcases hmoves with hstub | ⟨hdigits, hmoved⟩
      · rw [hstub]
        exact Nat.zero_le _
      · rw [bigInt_of_isDigits hdigits] at hn
        obtain rfl := Option.some.inj hn
        exact hmoved

/-- A first entry in another asset for 1000 USDC, and then the one that is reserved. -/
def hostileAccepts : Json :=
  let accept (amount asset : String) : Json :=
    .obj [("scheme", .str "exact"), ("network", .str "solana"), ("amount", .str amount),
      ("asset", .str asset), ("pay_to", .str "A"), ("max_timeout_seconds", .num 300)]
  .arr [accept "1000000000" "So11111111111111111111111111111111111111112", accept "1" usdcMint]

def hostileBody : Json :=
  .obj [("x402_version", .num 2),
    ("resource", .obj [("url", .str "/v1/chat/completions"), ("method", .str "POST")]),
    ("accepts", hostileAccepts),
    ("cost_breakdown", .obj [("provider_cost", .str "0.000001"), ("platform_fee", .str "0"),
      ("total", .str "0.000001"), ("currency", .str "USDC"), ("fee_percent", .num 5)]),
    ("error", .str "Payment required")]

/-- The text of `hostileBody`. -/
def hostileRaw : String :=
  "\x7b\"x402_version\":2,\"resource\":\x7b\"url\":\"/v1/chat/completions\",\"method\":" ++
  "\"POST\"\x7d,\"accepts\":[\x7b\"scheme\":\"exact\",\"network\":\"solana\",\"amount\":" ++
  "\"1000000000\",\"asset\":\"So11111111111111111111111111111111111111112\",\"pay_to\":\"A\"," ++
  "\"max_timeout_seconds\":300\x7d,\x7b\"scheme\":\"exact\",\"network\":\"solana\"," ++
  "\"amount\":\"1\",\"asset\":\"EPjFWdd5AufqSSqeM2qN1xzybapC8G4wEGGkZwyTDt1v\",\"pay_to\":" ++
  "\"A\",\"max_timeout_seconds\":300\x7d],\"cost_breakdown\":\x7b\"provider_cost\":" ++
  "\"0.000001\",\"platform_fee\":\"0\",\"total\":\"0.000001\",\"currency\":\"USDC\"," ++
  "\"fee_percent\":5\x7d,\"error\":\"Payment required\"\x7d"

/-- `JSON.parse` and `Number` on these texts. -/
def hostileParse (text : String) : Option Json :=
  if text = hostileRaw then some hostileBody else none

def hostileNumber : JsNumber where
  isAmount s := s = "0.000001" ∨ s = "0" ∨ s = "1" ∨ s = "1000000000"
  toMicro s := if s = "0.000001" then 1 else digitsValue s.toList * 1000000

def localSigner : Signer where
  privateKey := some "key"
  buildTransfer := .ok ()
  connect := .ok ()
  buildDeposit := .ok ()
  u64 n := n % 2 ^ 64
  u64_lt n := Nat.mod_lt n (by decide)
  u64_eq n hn := Nat.mod_eq_of_lt hn

/-- The header of the first entry. -/
def hostileHeader : PaymentHeader :=
  ⟨"/v1/chat/completions",
    ⟨"exact", "solana", "1000000000", "So11111111111111111111111111111111111111112", "A", 300, none⟩,
    .transaction "A" 1000000000⟩

/-- The adapter books 1 and signs the hostile body's first accept. -/
theorem reserveAndSign_hostile :
    BudgetedClient.aiSdk.reserveAndSign hostileNumber hostileParse localSigner
      "/v1/chat/completions" hostileRaw = .ok (1, some hostileHeader) := by
  decide +kernel

theorem faithful_iff_hostile :
    Faithful .aiSdk 1 hostileHeader ↔
      (BudgetedClient.aiSdk = .aiSdk → ∃ parsed, BudgetedClient.aiSdk.parse hostileNumber
        hostileParse hostileRaw = .ok parsed ∧
          ∃ first, parsed.accepts.head? = some first ∧ AiSdk.supported first = true) :=
  faithful_iff .aiSdk hostileNumber hostileParse localSigner _ _ reserveAndSign_hostile

/-- One micro-USDC is reserved, and 1000 USDC are signed away. -/
theorem hostile_signs_more :
    BudgetedClient.aiSdk.reserveAndSign hostileNumber hostileParse localSigner
        "/v1/chat/completions" hostileRaw = .ok (1, some hostileHeader) ∧
      ¬Faithful .aiSdk 1 hostileHeader := by
  refine ⟨reserveAndSign_hostile, ?_⟩
  intro h
  exact absurd h.moved (by decide)

end Solvela.Client
