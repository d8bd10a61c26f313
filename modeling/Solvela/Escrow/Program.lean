import Solvela.Lib.Table
import Solvela.Lib.Txn

/-!
# The escrow program

The three instructions of `programs/escrow` over an explicit chain state: the SPL token
accounts and the program's own escrow accounts. Every instruction takes the accounts its
caller supplied, so the Anchor constraints are checks of the model and not assumptions.

* `Addresses` holds what the runtime provides: address derivation and which keys can sign;
* `transferChecked`, `closeAccount` and `initIfNeeded` follow the SPL token program and the
  associated token program;
* `deposit`, `claim` and `refund` follow the instruction handlers, constraints first;
* `submit` is one transaction: signatures, then the instruction, all or nothing.

Amounts and slots are `u64` in the program. They are `ℕ` here, with the one addition that can
overflow (the credit of a transfer) checked.
-/

namespace Solvela.EscrowProgram

open Solvela.Lib
open Solvela.Lib.Txn

/-- `MAX_ESCROW_SLOTS`: the largest gap between the current slot and the expiry slot. -/
def maxEscrowSlots : ℕ := 216000

/-- `MIN_EXPIRY_BUFFER`: the smallest gap between the current slot and the expiry slot. -/
def minExpiryBuffer : ℕ := 50

/-- `u64::MAX`. -/
def u64Max : ℕ := 2 ^ 64 - 1

/-- The 32-byte request correlation id. -/
abbrev ServiceId := Vector UInt8 32

/-- Address derivation. Escrow addresses are program-derived from the agent and the service
id, associated token addresses from the authority and the mint, and no program-derived escrow
address has a private key that could sign. Either derivation may collide: where a result needs
two addresses of its run to differ, it says which. -/
structure Addresses (Key : Type) where
  default : Key
  usdcMint : Key
  escrow : Key → ServiceId → Key
  ata : Key → Key → Key
  canSign : Key → Bool
  escrow_canSign : ∀ a i, canSign (escrow a i) = false

/-! ## Errors -/

/-- The program's own error codes. -/
inductive EscrowError
  | claimExceedsDeposit
  | escrowNotExpired
  | mintMismatch
  | zeroAmount
  | invalidExpiry
  | escrowExpired
  | expiryTooFar
  | invalidProvider
  | emptyVault
  | expiryTooSoon
  | duplicateClaimAccounts
deriving DecidableEq

/-- The account constraints Anchor checks before a handler runs. -/
inductive AnchorError
  | accountNotSigner
  | accountNotInitialized
  | accountAlreadyInUse
  | constraintAddress
  | constraintSeeds
  | constraintHasOne
  | constraintAssociated
  | constraintTokenMint
  | constraintTokenOwner
deriving DecidableEq

/-- The SPL token program's errors. -/
inductive TokenError
  | uninitializedAccount
  | insufficientFunds
  | mintMismatch
  | ownerMismatch
  | overflow
  | nonNativeHasBalance
deriving DecidableEq

/-- Why a transaction failed. -/
inductive ProgramError
  | signatureFailure
  | escrow (e : EscrowError)
  | anchor (e : AnchorError)
  | token (e : TokenError)
deriving DecidableEq

/-! ## Accounts -/

/-- An SPL token account. -/
structure TokenAccount (Key : Type) where
  mint : Key
  owner : Key
  amount : ℕ
deriving DecidableEq

/-- The escrow account (`state.rs`), without the bump: the canonical bump is a function of
the seeds. -/
structure Escrow (Key : Type) where
  agent : Key
  provider : Key
  mint : Key
  amount : ℕ
  serviceId : ServiceId
  expirySlot : ℕ
deriving DecidableEq

/-- All token accounts and all live escrow accounts. -/
structure Chain (Key : Type) where
  tokens : Table Key (TokenAccount Key)
  escrows : Table Key (Escrow Key)

/-- Programs over the chain. -/
abbrev Prog (Key : Type) := Txn ProgramError (Chain Key)

section
variable {Key : Type} [DecidableEq Key]

/-! ## The SPL token program -/

/-- Read a token account that must exist. -/
def tokenAccount (k : Key) : Prog Key (TokenAccount Key) := do
  let s ← get
  okOr (s.tokens.lookup k) (.token .uninitializedAccount)

/-- Write a token account. -/
def setToken (k : Key) (a : TokenAccount Key) : Prog Key Unit :=
  modify fun s => { s with tokens := s.tokens.insert k a }

/-- `transfer_checked`. The authority's signature is the caller's duty; a transfer from an
account to itself checks and then changes nothing. -/
def transferChecked (src mint dst authority : Key) (amount : ℕ) : Prog Key Unit := do
  let a ← tokenAccount src
  let b ← tokenAccount dst
  require (amount ≤ a.amount) (.token .insufficientFunds)
  require (a.mint = b.mint ∧ a.mint = mint) (.token .mintMismatch)
  require (a.owner = authority) (.token .ownerMismatch)
  if src = dst then
    pure ()
  else do
    require (b.amount + amount ≤ u64Max) (.token .overflow)
    setToken src { a with amount := a.amount - amount }
    setToken dst { b with amount := b.amount + amount }

/-- `close_account`: only an empty account can be closed. -/
def closeAccount (account authority : Key) : Prog Key Unit := do
  let a ← tokenAccount account
  require (a.amount = 0) (.token .nonNativeHasBalance)
  require (a.owner = authority) (.token .ownerMismatch)
  modify fun s => { s with tokens := s.tokens.erase account }

/-! ## Anchor's associated token constraints -/

/-- `associated_token::mint` and `associated_token::authority` on an existing account. -/
def associatedToken (D : Addresses Key) (account authority mint : Key) : Prog Key Unit := do
  let s ← get
  let a ← okOr (s.tokens.lookup account) (.anchor .accountNotInitialized)
  require (a.mint = mint) (.anchor .constraintTokenMint)
  require (a.owner = authority) (.anchor .constraintTokenOwner)
  require (account = D.ata authority mint) (.anchor .constraintAssociated)

/-- `init_if_needed` on an associated token account: created empty when it is not there,
checked like any other when it is. -/
def initIfNeeded (D : Addresses Key) (account authority mint : Key) : Prog Key Unit := do
  let s ← get
  match s.tokens.lookup account with
  | some _ => associatedToken D account authority mint
  | none => do
    require (account = D.ata authority mint) (.anchor .constraintAssociated)
    setToken account { mint := mint, owner := authority, amount := 0 }

/-! ## The instructions -/

/-- The accounts of `deposit`. -/
structure Deposit (Key : Type) where
  agent : Key
  provider : Key
  mint : Key
  escrow : Key
  agentTokenAccount : Key
  vault : Key

/-- The accounts of `claim`. -/
structure Claim (Key : Type) where
  escrow : Key
  agent : Key
  provider : Key
  mint : Key
  vault : Key
  providerTokenAccount : Key
  agentTokenAccount : Key

/-- The accounts of `refund`. -/
structure Refund (Key : Type) where
  escrow : Key
  agent : Key
  mint : Key
  vault : Key
  agentTokenAccount : Key

/-- The account constraints of `deposit`. -/
def depositConstraints (D : Addresses Key) (signers : List Key) (ctx : Deposit Key)
    (serviceId : ServiceId) : Prog Key Unit := do
  require (ctx.agent ∈ signers) (.anchor .accountNotSigner)
  require (ctx.mint = D.usdcMint) (.anchor .constraintAddress)
  require (ctx.escrow = D.escrow ctx.agent serviceId) (.anchor .constraintSeeds)
  let s ← get
  require (s.escrows.lookup ctx.escrow = none) (.anchor .accountAlreadyInUse)
  associatedToken D ctx.agentTokenAccount ctx.agent ctx.mint
  initIfNeeded D ctx.vault ctx.escrow ctx.mint

/-- The checks the `deposit` handler makes on its arguments. -/
def depositGuards (D : Addresses Key) (now : ℕ) (ctx : Deposit Key) (amount expirySlot : ℕ) :
    Prog Key Unit := do
  require (0 < amount) (.escrow .zeroAmount)
  require (now < expirySlot) (.escrow .invalidExpiry)
  require (expirySlot - now ≤ maxEscrowSlots) (.escrow .expiryTooFar)
  require (minExpiryBuffer ≤ expirySlot - now) (.escrow .expiryTooSoon)
  require (ctx.provider ≠ D.default) (.escrow .invalidProvider)
  require (ctx.provider ≠ ctx.agent) (.escrow .invalidProvider)

/-- The account `deposit` writes. -/
def Deposit.record (ctx : Deposit Key) (amount : ℕ) (serviceId : ServiceId)
    (expirySlot : ℕ) : Escrow Key :=
  { agent := ctx.agent, provider := ctx.provider, mint := ctx.mint, amount := amount,
    serviceId := serviceId, expirySlot := expirySlot }

/-- Lock `amount` in the vault of a new escrow. -/
def deposit (D : Addresses Key) (now : ℕ) (signers : List Key) (ctx : Deposit Key)
    (amount : ℕ) (serviceId : ServiceId) (expirySlot : ℕ) : Prog Key Unit := do
  depositConstraints D signers ctx serviceId
  depositGuards D now ctx amount expirySlot
  modify fun s => { s with
    escrows := s.escrows.insert ctx.escrow (ctx.record amount serviceId expirySlot) }
  transferChecked ctx.agentTokenAccount ctx.mint ctx.vault ctx.agent amount

/-- Read an escrow account at the address its own seeds derive. -/
def escrowAccount (D : Addresses Key) (k : Key) : Prog Key (Escrow Key) := do
  let s ← get
  let e ← okOr (s.escrows.lookup k) (.anchor .accountNotInitialized)
  require (k = D.escrow e.agent e.serviceId) (.anchor .constraintSeeds)
  pure e

/-- The account constraints of `claim`. -/
def claimConstraints (D : Addresses Key) (signers : List Key) (ctx : Claim Key) :
    Prog Key (Escrow Key) := do
  let e ← escrowAccount D ctx.escrow
  require (e.provider = ctx.provider) (.anchor .constraintHasOne)
  require (e.mint = ctx.mint) (.anchor .constraintHasOne)
  require (ctx.agent = e.agent) (.anchor .constraintAddress)
  require (ctx.provider ∈ signers) (.anchor .accountNotSigner)
  associatedToken D ctx.vault ctx.escrow ctx.mint
  initIfNeeded D ctx.providerTokenAccount ctx.provider ctx.mint
  initIfNeeded D ctx.agentTokenAccount ctx.agent ctx.mint
  pure e

/-- A transfer the handler makes only when there is something to move. -/
def transferPositive (src mint dst authority : Key) (amount : ℕ) : Prog Key Unit :=
  if 0 < amount then transferChecked src mint dst authority amount else pure ()

/-- Close the vault and the escrow account (`close_account` and Anchor's `close = agent`). -/
def closeEscrow (escrow vault : Key) : Prog Key Unit := do
  closeAccount vault escrow
  modify fun s => { s with escrows := s.escrows.erase escrow }

/-- Pay the provider `actualAmount`, the agent the rest of the vault, and close both
accounts. -/
def claim (D : Addresses Key) (slot : ℕ) (signers : List Key) (ctx : Claim Key)
    (actualAmount : ℕ) : Prog Key Unit := do
  let e ← claimConstraints D signers ctx
  require (actualAmount ≤ e.amount) (.escrow .claimExceedsDeposit)
  require (0 < actualAmount) (.escrow .zeroAmount)
  require (slot < e.expirySlot) (.escrow .escrowExpired)
  require (ctx.providerTokenAccount ≠ ctx.agentTokenAccount) (.escrow .duplicateClaimAccounts)
  transferChecked ctx.vault ctx.mint ctx.providerTokenAccount ctx.escrow actualAmount
  -- the remainder of the deposit, then whatever else was sent to the vault
  transferPositive ctx.vault ctx.mint ctx.agentTokenAccount ctx.escrow (e.amount - actualAmount)
  let vault ← tokenAccount ctx.vault
  transferPositive ctx.vault ctx.mint ctx.agentTokenAccount ctx.escrow vault.amount
  closeEscrow ctx.escrow ctx.vault

/-- The account constraints of `refund`. -/
def refundConstraints (D : Addresses Key) (signers : List Key) (ctx : Refund Key) :
    Prog Key (Escrow Key) := do
  let e ← escrowAccount D ctx.escrow
  require (e.mint = ctx.mint) (.anchor .constraintHasOne)
  require (ctx.agent ∈ signers) (.anchor .accountNotSigner)
  require (ctx.agent = e.agent) (.anchor .constraintAddress)
  associatedToken D ctx.vault ctx.escrow ctx.mint
  initIfNeeded D ctx.agentTokenAccount ctx.agent ctx.mint
  pure e

/-- Return the whole vault to the agent after expiry, and close both accounts. -/
def refund (D : Addresses Key) (slot : ℕ) (signers : List Key) (ctx : Refund Key) :
    Prog Key Unit := do
  let e ← refundConstraints D signers ctx
  require (e.expirySlot ≤ slot) (.escrow .escrowNotExpired)
  let vault ← tokenAccount ctx.vault
  require (0 < vault.amount) (.escrow .emptyVault)
  transferChecked ctx.vault ctx.mint ctx.agentTokenAccount ctx.escrow vault.amount
  closeEscrow ctx.escrow ctx.vault

/-! ## Transactions -/

/-- One instruction: of the escrow program, or of the token programs by anybody. -/
inductive Instr (Key : Type)
  | deposit (ctx : Deposit Key) (amount : ℕ) (serviceId : ServiceId) (expirySlot : ℕ)
  | claim (ctx : Claim Key) (actualAmount : ℕ)
  | refund (ctx : Refund Key)
  | splTransfer (src mint dst authority : Key) (amount : ℕ)
  | splCreateAta (authority mint : Key)
  | splClose (account authority : Key)

/-- A transaction: the slot it lands in, the keys that signed it and its instruction. -/
structure Transaction (Key : Type) where
  slot : ℕ
  signers : List Key
  instr : Instr Key

/-- Run the instruction of a transaction. -/
def process (D : Addresses Key) (slot : ℕ) (signers : List Key) : Instr Key → Prog Key Unit
  | .deposit ctx amount serviceId expirySlot =>
    deposit D slot signers ctx amount serviceId expirySlot
  | .claim ctx actualAmount => claim D slot signers ctx actualAmount
  | .refund ctx => refund D slot signers ctx
  | .splTransfer src mint dst authority amount => do
    require (authority ∈ signers) (.anchor .accountNotSigner)
    transferChecked src mint dst authority amount
  | .splCreateAta authority mint => initIfNeeded D (D.ata authority mint) authority mint
  | .splClose account authority => do
    require (authority ∈ signers) (.anchor .accountNotSigner)
    closeAccount account authority

/-- One transaction: the runtime verifies the signatures and undoes a failed instruction. -/
def submit (D : Addresses Key) (tx : Transaction Key) : Prog Key Unit :=
  atomically do
    require (∀ k ∈ tx.signers, D.canSign k = true) .signatureFailure
    process D tx.slot tx.signers tx.instr

/-- The chain after a transaction, whether or not it succeeded. -/
def exec (D : Addresses Key) (s : Chain Key) (tx : Transaction Key) : Chain Key :=
  stateOf (submit D tx s)

/-- The transaction succeeds on the chain state. -/
def Succeeds (D : Addresses Key) (s : Chain Key) (tx : Transaction Key) : Prop :=
  isOk (submit D tx s) = true

instance (D : Addresses Key) (s : Chain Key) (tx : Transaction Key) :
    Decidable (Succeeds D s tx) :=
  inferInstanceAs (Decidable (_ = true))

end

end Solvela.EscrowProgram
