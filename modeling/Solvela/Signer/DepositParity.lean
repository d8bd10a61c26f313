import Solvela.Signer.ChannelParity
import Solvela.Signer.Deposit

/-!
# The two deposit builders agree

What the TypeScript builder accepts is a positive integer below `2 ^ 53`, so it is a `u64`, and
every address it decodes the Rust builder decodes too. The messages are then put together from the
same parts, and the signature is over the same bytes with the same seed.
-/

namespace Solvela.Signer

open Solvela.Lib.Txn
open Solvela.ChannelLedger Solvela.Channel

/-! ## Addresses -/

theorem toList_of_exactBytes {n : ℕ} {bytes : List UInt8} {v : Vector UInt8 n}
    (h : exactBytes n bytes = some v) : bytes = v.toList := by
  rw [exactBytes] at h
  split_ifs at h with hlen
  rw [← Option.some.inj h]
  rfl

/-- A key that TypeScript decodes is 32 bytes of base58. -/
theorem bs58Decode_of_ts {field b58 : String} {key : Pubkey}
    (h : Ts.decodeBs58Pubkey field b58 = .ok key) : bs58Decode b58 = some key.toList := by
  rw [Ts.decodeBs58Pubkey] at h
  split at h
  · cases h
  · rename_i bytes hbytes
    split at h
    · cases h
    · rename_i key' hkey
      cases h
      rw [hbytes, toList_of_exactBytes hkey]

section Rust
variable (bs58Error : String → String)

theorem decodeBs58Pubkey_of_bs58Decode {b58 : String} {key : Pubkey}
    (h : bs58Decode b58 = some key.toList) : Rs.decodeBs58Pubkey bs58Error b58 = .ok key := by
  simp only [Rs.decodeBs58Pubkey, h, exactBytes_toList]

theorem addressField_ok {field b58 : String} {key : Pubkey}
    (h : bs58Decode b58 = some key.toList) : Rs.addressField bs58Error field b58 = .ok key := by
  rw [Rs.addressField, decodeBs58Pubkey_of_bs58Decode bs58Error h]
  rfl

theorem bs58Decode_tokenProgram : bs58Decode tokenProgramIdB58 = some tokenProgramId.toList := by
  decide +kernel

theorem bs58Decode_ataProgram :
    bs58Decode ataProgramIdB58 = some associatedTokenProgramId.toList := by
  decide +kernel

end Rust

/-! ## Numbers -/

theorem finite_of_integer {v : Ts.Number} {n : ℤ} (h : v.integer? = some n) :
    v = .finite n := by
  cases v with
  | notFinite => cases h
  | finite value =>
    rw [Ts.Number.integer?] at h
    split_ifs at h with hden
    rw [← Option.some.inj h, Rat.den_eq_one_iff _ |>.1 hden]

theorem integer_natCast (n : ℕ) : (Ts.Number.finite n).integer? = some (n : ℤ) := by
  rw [Ts.Number.integer?, if_pos (Rat.den_natCast n), Rat.num_natCast]

/-- A positive integer below `2 ^ 53` is a `u64`. -/
theorem u64_of_safe {v : Ts.Number} {n : ℤ} (h : v.integer? = some n) (hpos : ¬ n ≤ 0)
    (hmax : n ≤ Ts.maxSafeInteger) : ∃ m : ℕ, v = .finite m ∧ m ≠ 0 ∧ m ≤ u64Max := by
  have hcast : ((n.toNat : ℤ)) = n := by omega
  have hle : n.toNat ≤ u64Max := by
    rw [Ts.maxSafeInteger] at hmax
    rw [u64Max]
    omega
  refine ⟨n.toNat, ?_, by omega, hle⟩
  rw [finite_of_integer h, ← hcast]
  rfl

theorem assertValidAmount_ok {amount : Ts.Number} (h : Ts.assertValidAmount amount = .ok ()) :
    ∃ n : ℕ, amount = .finite n ∧ n ≠ 0 ∧ n ≤ u64Max := by
  rw [Ts.assertValidAmount] at h
  split at h
  · cases h
  · rename_i n hn
    split_ifs at h with hpos hmax
    exact u64_of_safe hn hpos (not_lt.1 hmax)

theorem assertValidExpirySlot_ok {expirySlot : Ts.Number}
    (h : Ts.assertValidExpirySlot expirySlot = .ok ()) :
    ∃ n : ℕ, expirySlot = .finite n ∧ n ≠ 0 ∧ n ≤ u64Max := by
  rw [Ts.assertValidExpirySlot] at h
  split at h
  · cases h
  · rename_i n hn
    split_ifs at h with hpos
    rw [Ts.Number.safeInteger?, Option.filter_eq_some_iff, decide_eq_true_eq] at hn
    exact u64_of_safe hn.1 hpos (abs_le.1 hn.2).2

theorem u64LE_natCast {n : ℕ} (h : n ≤ u64Max) :
    Ts.u64LE (.finite n) = .ok (leBytes n) := by
  have hrange : ¬ ((n : ℤ) < 0 ∨ (u64Max : ℤ) < n) := by omega
  rw [Ts.u64LE, integer_natCast]
  show (if (n : ℤ) < 0 ∨ (u64Max : ℤ) < n then _ else _) = _
  rw [if_neg hrange, bigUint64Bytes_eq h]

/-! ## The message -/

theorem foldl_append_toList (accounts : List Pubkey) (msg : List UInt8) :
    accounts.foldl (fun msg acc => msg ++ acc.toList) msg =
      msg ++ (accounts.map Vector.toList).flatten := by
  induction accounts generalizing msg with
  | nil => simp
  | cons account accounts ih => rw [List.foldl_cons, ih]; simp

/-- Pushing one part after another is concatenating the parts. -/
theorem buildLegacyMessage_of_ts {header : List ℕ} (accounts : List Pubkey)
    {programId recentBlockhash : Pubkey} {programIdIndex : ℕ}
    {ixAccountIndices ixData msg : List UInt8}
    (h : Ts.buildLegacyMessage header (accounts.map Vector.toList) programId.toList
      recentBlockhash.toList programIdIndex ixAccountIndices ixData = .ok msg) :
    Rs.buildLegacyMessage (header.map UInt8.ofNat) accounts programId recentBlockhash
      (UInt8.ofNat programIdIndex) ixAccountIndices ixData = .ok msg := by
  simp only [Ts.buildLegacyMessage, List.length_map] at h
  split_ifs at h with haccounts hindices hdata
  simp only [Rs.buildLegacyMessage, if_neg haccounts, if_neg hindices, if_neg hdata]
  rw [← Except.ok.inj h, foldl_append_toList]
  simp

/-! ## The transaction -/

theorem mapError_ok {ε ε' α : Type} {x : Except ε α} {f : ε → ε'} {a : α} :
    x.mapError f = .ok a ↔ x = .ok a := by
  cases x with
  | error e => simp [Except.mapError]
  | ok b => simp [Except.mapError]

theorem map_ok {ε α β : Type} {x : Except ε α} {f : α → β} {b : β} :
    x.map f = .ok b ↔ ∃ a, x = .ok a ∧ f a = b := by
  cases x with
  | error e => simp [Except.map]
  | ok a => simp [Except.map]

/-- A key pair as the checking constructors of web3.js make it: the public key is that of the
seed, and the second half of the secret key. -/
def Ts.Keypair.Valid (prims : Primitives) (keypair : Ts.Keypair) : Prop :=
  keypair.publicKey = prims.publicKey (seedHalf keypair.secretKey) ∧
    publicHalf keypair.secretKey = keypair.publicKey

/-- The two builders are given the same. -/
structure SameInputs (params : Ts.EscrowDepositParams) (params' : Rs.DepositParams) : Prop where
  keypair : bs58Decode params'.agentKeypairB58 = some params.keypair.secretKey.toList
  providerWallet : params'.providerWalletB58 = params.providerWalletB58
  usdcMint : params'.usdcMintB58 = params.usdcMintB58
  escrowProgramId : params'.escrowProgramIdB58 = params.escrowProgramIdB58
  amount : params.amount = .finite params'.amount
  serviceId : params.serviceId = params'.serviceId.toList
  expirySlot : params.expirySlot = .finite params'.expirySlot
  recentBlockhash : params.recentBlockhash = params'.recentBlockhash.toList

/-! ### Rust -/

section Rust
variable {prims : Primitives} {bs58Error : String → String}

/-- The message, from the addresses of the parameters. -/
theorem buildDepositMessage_ok (params : Rs.UnsignedDepositParams)
    {provider usdcMint escrowProgramId tokenProgram ataProgram systemProgram escrowPda agentAta
      vaultAta : Pubkey} {bump : ℕ} {result : Except Rs.DepositError (List UInt8)}
    (hpos : params.amount ≠ 0)
    (hprovider : bs58Decode params.providerWalletB58 = some provider.toList)
    (husdcMint : bs58Decode params.usdcMintB58 = some usdcMint.toList)
    (hescrowProgramId : bs58Decode params.escrowProgramIdB58 = some escrowProgramId.toList)
    (htokenProgram : bs58Decode tokenProgramIdB58 = some tokenProgram.toList)
    (hataProgram : bs58Decode ataProgramIdB58 = some ataProgram.toList)
    (hsystemProgram : bs58Decode systemProgramIdB58 = some systemProgram.toList)
    (hpda : Rs.findProgramAddress prims
      [textBytes "escrow", params.agentPubkey.toList, params.serviceId.toList] escrowProgramId =
        some (escrowPda, bump))
    (hagentAta : Rs.deriveAtaAddress prims bs58Error params.agentPubkey usdcMint =
      some agentAta)
    (hvaultAta : Rs.deriveAtaAddress prims bs58Error escrowPda usdcMint = some vaultAta)
    (hmsg : Rs.buildLegacyMessage [1, 0, 6]
      [params.agentPubkey, escrowPda, agentAta, vaultAta, provider, usdcMint, tokenProgram,
        ataProgram, systemProgram]
      escrowProgramId params.recentBlockhash 9 [0, 4, 5, 1, 2, 3, 6, 7, 8]
      (Rs.anchorDiscriminator prims "deposit" ++ leBytes params.amount ++
        params.serviceId.toList ++ leBytes params.expirySlot) = result) :
    Rs.buildDepositMessage prims bs58Error params = result := by
  unfold Rs.buildDepositMessage
  -- every address decodes, so only the message is left
  rw [if_neg hpos, addressField_ok bs58Error hprovider, addressField_ok bs58Error husdcMint,
    addressField_ok bs58Error hescrowProgramId, addressField_ok bs58Error htokenProgram,
    addressField_ok bs58Error hataProgram, addressField_ok bs58Error hsystemProgram]
  dsimp only [bind, Except.bind]
  rw [hpda]
  dsimp only [Rs.derived]
  rw [hagentAta, hvaultAta]
  exact hmsg

theorem keypairBytes_ok {b58 : String} {secretKey : Vector UInt8 64}
    (h : bs58Decode b58 = some secretKey.toList) :
    Rs.keypairBytes bs58Error b58 = .ok secretKey := by
  simp only [Rs.keypairBytes, h, exactBytes_toList]

/-- The transaction, from the key and the message. -/
theorem buildDepositTx_ok {params : Rs.DepositParams} {secretKey : Vector UInt8 64}
    {msg : List UInt8} (hpos : params.amount ≠ 0)
    (hkeypair : bs58Decode params.agentKeypairB58 = some secretKey.toList)
    (hcurve : prims.isOnCurve (publicHalf secretKey) = true)
    (hpublic : prims.publicKey (seedHalf secretKey) = publicHalf secretKey)
    (hmsg : Rs.buildDepositMessage prims bs58Error
      ⟨publicHalf secretKey, params.providerWalletB58, params.usdcMintB58,
        params.escrowProgramIdB58, params.amount, params.serviceId, params.expirySlot,
        params.recentBlockhash⟩ = .ok msg) :
    Rs.buildDepositTx prims bs58Error params =
      .ok (base64Encode ([1] ++ (prims.sign (seedHalf secretKey) msg).toList ++ msg)) := by
  have hseed : Rs.fromKeypairBytes prims secretKey = .ok (seedHalf secretKey) := by
    rw [Rs.fromKeypairBytes, if_neg (by simp [hcurve]), if_neg (not_not.2 hpublic)]
  unfold Rs.buildDepositTx
  rw [if_neg hpos]
  apply except_bind_ok.2 ⟨_, keypairBytes_ok hkeypair, ?_⟩
  apply except_bind_ok.2 ⟨_, mapError_ok.2 hseed, ?_⟩
  dsimp only
  rw [hpublic, if_neg (not_not.2 rfl)]
  apply except_bind_ok.2 ⟨_, hmsg, ?_⟩
  rfl

end Rust

/-! ### TypeScript -/

section Transaction
variable {prims : Primitives} (bs58Error : String → String)
  {findProgramAddressSync : List (List UInt8) → Pubkey → Except String (Pubkey × ℕ)}

theorem assertBytes_ok {field : String} {bytes : List UInt8} {len : ℕ}
    (h : Ts.assertBytes field bytes len = .ok ()) : ∃ v : Vector UInt8 len, bytes = v.toList := by
  rw [Ts.assertBytes] at h
  split_ifs at h with hlen
  have hsize : bytes.toArray.size = len := by
    rw [List.size_toArray]
    exact not_not.1 hlen
  exact ⟨⟨bytes.toArray, hsize⟩, rfl⟩

/-- What the TypeScript builder goes through to a transaction. -/
theorem buildEscrowDepositTx_cases {params : Ts.EscrowDepositParams} {tx : String}
    (h : Ts.buildEscrowDepositTx prims findProgramAddressSync params = .ok tx) :
    ∃ provider usdcMint escrowProgram tokenProgram ataProgram systemProgram escrowPda bump
      agentAta vaultAta amount expirySlot msg,
    Ts.assertValidAmount params.amount = .ok () ∧
    Ts.assertValidExpirySlot params.expirySlot = .ok () ∧
    Ts.assertBytes "service_id" params.serviceId 32 = .ok () ∧
    Ts.assertBytes "recent_blockhash" params.recentBlockhash 32 = .ok () ∧
    Ts.decodeBs58Pubkey "provider_wallet" params.providerWalletB58 = .ok provider ∧
    Ts.decodeBs58Pubkey "usdc_mint" params.usdcMintB58 = .ok usdcMint ∧
    Ts.decodeBs58Pubkey "escrow_program_id" params.escrowProgramIdB58 = .ok escrowProgram ∧
    Ts.decodeBs58Pubkey "token_program" tokenProgramIdB58 = .ok tokenProgram ∧
    Ts.decodeBs58Pubkey "ata_program" ataProgramIdB58 = .ok ataProgram ∧
    Ts.decodeBs58Pubkey "system_program" systemProgramIdB58 = .ok systemProgram ∧
    findProgramAddressSync
      [textBytes "escrow", params.keypair.publicKey.toList, params.serviceId] escrowProgram =
        .ok (escrowPda, bump) ∧
    Ts.getAssociatedTokenAddressSync prims findProgramAddressSync usdcMint
      params.keypair.publicKey false tokenProgramId associatedTokenProgramId = .ok agentAta ∧
    Ts.getAssociatedTokenAddressSync prims findProgramAddressSync usdcMint escrowPda true
      tokenProgramId associatedTokenProgramId = .ok vaultAta ∧
    Ts.u64LE params.amount = .ok amount ∧ Ts.u64LE params.expirySlot = .ok expirySlot ∧
    Ts.buildLegacyMessage [1, 0, 6]
      [params.keypair.publicKey.toList, escrowPda.toList, agentAta.toList, vaultAta.toList,
        provider.toList, usdcMint.toList, tokenProgram.toList, ataProgram.toList,
        systemProgram.toList]
      escrowProgram.toList params.recentBlockhash 9 [0, 4, 5, 1, 2, 3, 6, 7, 8]
      (Ts.anchorDiscriminator prims "deposit" ++ amount ++ params.serviceId ++ expirySlot) =
        .ok msg ∧
    tx = base64Encode ([1] ++ (prims.sign (seedHalf params.keypair.secretKey) msg).toList ++
      msg) := by
  rw [Ts.buildEscrowDepositTx, map_ok] at h
  obtain ⟨wire, h, htx⟩ := h
  unfold Ts.depositWire at h
  -- the assertions on the numbers and the lengths come first
  obtain ⟨⟨⟩, hamount, h⟩ := except_bind_ok.1 h
  obtain ⟨⟨⟩, hexpiry, h⟩ := except_bind_ok.1 h
  obtain ⟨⟨⟩, hservice, h⟩ := except_bind_ok.1 h
  obtain ⟨⟨⟩, hblockhash, h⟩ := except_bind_ok.1 h
  -- then the keys, and the addresses derived of them
  obtain ⟨provider, hprovider, h⟩ := except_bind_ok.1 h
  obtain ⟨usdcMint, husdcMint, h⟩ := except_bind_ok.1 h
  obtain ⟨escrowProgram, hescrowProgram, h⟩ := except_bind_ok.1 h
  obtain ⟨tokenProgram, htokenProgram, h⟩ := except_bind_ok.1 h
  obtain ⟨ataProgram, hataProgram, h⟩ := except_bind_ok.1 h
  obtain ⟨systemProgram, hsystemProgram, h⟩ := except_bind_ok.1 h
  obtain ⟨⟨escrowPda, bump⟩, hpda, h⟩ := except_bind_ok.1 h
  obtain ⟨agentAta, hagentAta, h⟩ := except_bind_ok.1 h
  obtain ⟨vaultAta, hvaultAta, h⟩ := except_bind_ok.1 h
  obtain ⟨amount, hamountBytes, h⟩ := except_bind_ok.1 h
  obtain ⟨expirySlot, hexpiryBytes, h⟩ := except_bind_ok.1 h
  obtain ⟨-, -, h⟩ := except_bind_ok.1 h
  obtain ⟨msg, hmsg, h⟩ := except_bind_ok.1 h
  -- a signature always has 64 bytes, so that check never fails
  have hlen : ¬ (Ts.signMessage prims params.keypair msg).length ≠ 64 := by
    rw [Ts.signMessage, Vector.length_toList, not_not]
  rw [if_neg hlen] at h
  refine ⟨provider, usdcMint, escrowProgram, tokenProgram, ataProgram, systemProgram, escrowPda,
    bump, agentAta, vaultAta, amount, expirySlot, msg, hamount, hexpiry, hservice, hblockhash,
    hprovider, husdcMint, hescrowProgram, htokenProgram, hataProgram, hsystemProgram,
    mapError_ok.1 hpda, mapError_ok.1 hagentAta, mapError_ok.1 hvaultAta, hamountBytes,
    hexpiryBytes, hmsg, ?_⟩
  rw [← htx, ← Except.ok.inj h]
  rfl

/-- What the builder takes fits the other one's types. -/
theorem sameInputs_of_ts {params : Ts.EscrowDepositParams} {tx : String}
    (h : Ts.buildEscrowDepositTx prims findProgramAddressSync params = .ok tx)
    {keypairB58 : String} (hkeypair : bs58Decode keypairB58 =
      some params.keypair.secretKey.toList) :
    ∃ params', params'.agentKeypairB58 = keypairB58 ∧ SameInputs params params' ∧
      params'.amount ≠ 0 ∧ params'.amount ≤ u64Max ∧ params'.expirySlot ≤ u64Max := by
  obtain ⟨-, -, -, -, -, -, -, -, -, -, -, -, -, hamount, hexpiry, hservice, hblockhash, -⟩ :=
    buildEscrowDepositTx_cases h
  obtain ⟨amount, hamount, hpos, hmax⟩ := assertValidAmount_ok hamount
  obtain ⟨expirySlot, hexpiry, -, hexpiryMax⟩ := assertValidExpirySlot_ok hexpiry
  obtain ⟨serviceId, hservice⟩ := assertBytes_ok hservice
  obtain ⟨recentBlockhash, hblockhash⟩ := assertBytes_ok hblockhash
  exact ⟨⟨keypairB58, params.providerWalletB58, params.usdcMintB58, params.escrowProgramIdB58,
    amount, serviceId, expirySlot, recentBlockhash⟩, rfl,
    ⟨hkeypair, rfl, rfl, rfl, hamount, hservice, hexpiry, hblockhash⟩, hpos, hmax, hexpiryMax⟩

variable (hfind : ∀ seeds programId found,
  findProgramAddressSync seeds programId = .ok found →
    Rs.findProgramAddress prims seeds programId = some found)

include hfind

/-- An associated account that TypeScript derives Rust derives too, and the owner of one that may
not be off the curve is on it. -/
theorem deriveAtaAddress_of_ts {mint owner ata : Pubkey} {allowOwnerOffCurve : Bool}
    (h : Ts.getAssociatedTokenAddressSync prims findProgramAddressSync mint owner
      allowOwnerOffCurve tokenProgramId associatedTokenProgramId = .ok ata) :
    Rs.deriveAtaAddress prims bs58Error owner mint = some ata ∧
      (allowOwnerOffCurve = false → prims.isOnCurve owner = true) := by
  rw [Ts.getAssociatedTokenAddressSync] at h
  split_ifs at h with hcurve
  cases hsync : findProgramAddressSync [owner.toList, tokenProgramId.toList, mint.toList]
      associatedTokenProgramId with
  | error e =>
    rw [hsync] at h
    cases h
  | ok found =>
    rw [hsync] at h
    cases h
    have htoken := decodeBs58Pubkey_of_bs58Decode bs58Error bs58Decode_tokenProgram
    have hata := decodeBs58Pubkey_of_bs58Decode bs58Error bs58Decode_ataProgram
    constructor
    · rw [Rs.deriveAtaAddress, htoken, hata]
      show (Rs.findProgramAddress prims _ associatedTokenProgramId).map Prod.fst = _
      rw [hfind _ _ _ hsync]
      rfl
    · intro hallow
      simpa [hallow] using hcurve

/-- The Rust builder takes what the TypeScript builder takes, and returns the same. -/
theorem buildDepositTx_of_ts {params : Ts.EscrowDepositParams} {params' : Rs.DepositParams}
    {tx : String} (hsame : SameInputs params params') (hvalid : params.keypair.Valid prims)
    (hpos : params'.amount ≠ 0) (hmax : params'.amount ≤ u64Max)
    (hexpiryMax : params'.expirySlot ≤ u64Max)
    (h : Ts.buildEscrowDepositTx prims findProgramAddressSync params = .ok tx) :
    Rs.buildDepositTx prims bs58Error params' = .ok tx := by
  obtain ⟨provider, usdcMint, escrowProgram, tokenProgram, ataProgram, systemProgram, escrowPda,
    bump, agentAta, vaultAta, amount, expirySlot, msg, -, -, -, -, hprovider, husdcMint,
    hescrowProgram, htokenProgram, hataProgram, hsystemProgram, hpda, hagentAta, hvaultAta,
    hamount, hexpirySlot, hmsg, rfl⟩ := buildEscrowDepositTx_cases h
  -- the numbers are written the same
  have hamount' : leBytes params'.amount = amount := by
    rw [hsame.amount, u64LE_natCast hmax] at hamount
    exact Except.ok.inj hamount
  have hexpirySlot' : leBytes params'.expirySlot = expirySlot := by
    rw [hsame.expirySlot, u64LE_natCast hexpiryMax] at hexpirySlot
    exact Except.ok.inj hexpirySlot
  -- the addresses are derived the same
  have hpda' := hfind _ _ _ hpda
  obtain ⟨hagentAta', hcurve⟩ := deriveAtaAddress_of_ts bs58Error hfind hagentAta
  obtain ⟨hvaultAta', -⟩ := deriveAtaAddress_of_ts bs58Error hfind hvaultAta
  have hprovider' := bs58Decode_of_ts hprovider
  have husdcMint' := bs58Decode_of_ts husdcMint
  have hescrowProgram' := bs58Decode_of_ts hescrowProgram
  rw [← hsame.providerWallet] at hprovider'
  rw [← hsame.usdcMint] at husdcMint'
  rw [← hsame.escrowProgramId] at hescrowProgram'
  rw [hsame.serviceId, ← hvalid.2] at hpda'
  rw [← hvalid.2] at hagentAta' hcurve
  rw [← hamount', ← hexpirySlot', hsame.serviceId, hsame.recentBlockhash, ← hvalid.2] at hmsg
  have hmsg' := buildLegacyMessage_of_ts [publicHalf params.keypair.secretKey, escrowPda,
    agentAta, vaultAta, provider, usdcMint, tokenProgram, ataProgram, systemProgram] hmsg
  apply buildDepositTx_ok hpos hsame.keypair (hcurve rfl) (hvalid.1.symm.trans hvalid.2.symm)
  apply buildDepositMessage_ok ⟨publicHalf params.keypair.secretKey, params'.providerWalletB58,
    params'.usdcMintB58, params'.escrowProgramIdB58, params'.amount, params'.serviceId,
    params'.expirySlot, params'.recentBlockhash⟩ hpos hprovider' husdcMint' hescrowProgram'
    (bs58Decode_of_ts htokenProgram) (bs58Decode_of_ts hataProgram)
    (bs58Decode_of_ts hsystemProgram) hpda' hagentAta' hvaultAta'
  exact hmsg'

end Transaction

end Solvela.Signer
