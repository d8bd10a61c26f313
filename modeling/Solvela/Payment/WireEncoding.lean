import Solvela.Payment.ReplayKey

/-!
# Legacy messages, written

`encode_compact_u16` and `build_message`: the compact-u16 of a length is the canonical one, of one
byte for each seven bits. The parser reads back every legacy message whose lengths fit a `u16`, and
every transaction of at most 127 signatures over a message.
-/

namespace Solvela.Payment

open Solvela.ChannelLedger Solvela.Channel

/-! ## Writing -/

/-- `encode_compact_u16`. -/
def encodeCompactU16 (value : ℕ) : List UInt8 :=
  let byte := UInt8.ofNat (value &&& 0x7F)
  if _h : value >>> 7 ≠ 0 then (byte ||| 0x80) :: encodeCompactU16 (value >>> 7) else [byte]
termination_by value
decreasing_by
  rw [Nat.shiftRight_eq_div_pow] at *
  omega

/-- A byte string behind its length. -/
def encodeBytes (bytes : List UInt8) : List UInt8 := encodeCompactU16 bytes.length ++ bytes

/-- An instruction of `build_message`. -/
def CompiledInstruction.encode (ix : CompiledInstruction) : List UInt8 :=
  ix.programIdIndex :: (encodeBytes ix.accounts ++ encodeBytes ix.data)

/-- `build_message`. -/
def buildMessage (accountKeys : List Pubkey) (header : MessageHeader)
    (recentBlockhash : Vector UInt8 32) (instructions : List CompiledInstruction) : List UInt8 :=
  [header.numRequiredSignatures, header.numReadonlySignedAccounts,
    header.numReadonlyUnsignedAccounts] ++
    (encodeCompactU16 accountKeys.length ++ accountKeys.flatMap (·.toList) ++
      (recentBlockhash.toList ++
        (encodeCompactU16 instructions.length ++ instructions.flatMap (·.encode))))

/-- A message, written. -/
def ParsedMessage.encode (m : ParsedMessage) : List UInt8 :=
  buildMessage m.accountKeys m.header m.recentBlockhash m.instructions

/-- A transaction, written: the signatures behind their count, then the message. -/
def VersionedTransaction.encode (tx : VersionedTransaction) : List UInt8 :=
  encodeCompactU16 tx.signatures.length ++ tx.signatures.flatMap (·.toList) ++ tx.messageBytes

/-- The lengths of an instruction fit a `u16`. -/
structure CompiledInstruction.WellFormed (ix : CompiledInstruction) : Prop where
  accounts : ix.accounts.length ≤ 65535
  data : ix.data.length ≤ 65535

/-- A legacy message whose lengths fit a `u16`: it does not start as a V0 message does. -/
structure ParsedMessage.WellFormed (m : ParsedMessage) : Prop where
  legacy : m.isV0 = false
  version : m.header.numRequiredSignatures ≠ 0x80
  keys : m.accountKeys.length ≤ 65535
  count : m.instructions.length ≤ 65535
  instructions : ∀ ix ∈ m.instructions, ix.WellFormed

/-! ## Lengths -/

theorem encodeCompactU16_of_lt {n : ℕ} (h : n < 128) : encodeCompactU16 n = [UInt8.ofNat n] := by
  have hhigh : n >>> 7 = 0 := by
    rw [Nat.shiftRight_eq_div_pow]
    omega
  have hlow : n &&& 0x7F = n := by
    rw [Nat.and_two_pow_sub_one_eq_mod n 7]
    omega
  rw [encodeCompactU16, dif_neg (not_not_intro hhigh), hlow]

theorem encodeCompactU16_of_le {n : ℕ} (h : 128 ≤ n) :
    encodeCompactU16 n = (UInt8.ofNat (n &&& 0x7F) ||| 0x80) :: encodeCompactU16 (n / 128) := by
  have hhigh : n >>> 7 = n / 128 := Nat.shiftRight_eq_div_pow n 7
  have hne : n >>> 7 ≠ 0 := by omega
  rw [encodeCompactU16, dif_pos hne, hhigh]

/-- A byte that is not the last one keeps its seven bits below the high bit. -/
theorem toNat_continued (n : ℕ) :
    (UInt8.ofNat (n &&& 0x7F) ||| 0x80).toNat = n % 128 + 128 := by
  have hall : ∀ k < 128, (UInt8.ofNat k ||| 0x80).toNat = k + 128 := by decide +kernel
  rw [Nat.and_two_pow_sub_one_eq_mod n 7]
  exact hall (n % 128) (Nat.mod_lt n (by norm_num))

/-- The loop reads a length back that `left` bytes can hold, above the bits read before. -/
theorem compactU16Loop_encode (left : ℕ) {i value n : ℕ} (hvalue : value < 2 ^ (i * 7))
    (hleft : 0 < left) (hn : n < 128 ^ left) (rest : List UInt8) :
    compactU16Loop i value left (encodeCompactU16 n ++ rest) =
      .ok (value + 2 ^ (i * 7) * n, i + (encodeCompactU16 n).length) := by
  -- on the bytes that may still come
  induction left generalizing i value n with
  | zero => omega
  | succ left ih =>
    by_cases hshort : n < 128
    · have hbyte : (UInt8.ofNat n).toNat = n := by
        rw [UInt8.toNat_ofNat']
        omega
      have hmod : n % 128 = n := Nat.mod_eq_of_lt hshort
      rw [encodeCompactU16_of_lt hshort, List.singleton_append, compactU16Loop_cons hvalue, hbyte,
        if_pos hshort, hmod]
      rfl
    · -- the low seven bits go with this byte, the others with the bytes behind it
      have hcontinued : ¬ n % 128 + 128 < 128 := by omega
      have hlow : (n % 128 + 128) % 128 = n % 128 := by omega
      have hpow : 2 ^ ((i + 1) * 7) = 2 ^ (i * 7) * 128 := by
        rw [Nat.succ_mul, Nat.pow_add]
      have hnext : value + 2 ^ (i * 7) * (n % 128) < 2 ^ ((i + 1) * 7) := by
        have hmul : 2 ^ (i * 7) * (n % 128) ≤ 2 ^ (i * 7) * 127 :=
          Nat.mul_le_mul_left _ (by omega)
        rw [hpow]
        omega
      have hhigh : n / 128 < 128 ^ left := by
        rw [Nat.pow_succ] at hn
        omega
      have hpos : 0 < left := by
        by_contra hzero
        rw [Nat.eq_zero_of_not_pos hzero, Nat.pow_zero] at hhigh
        omega
      have hsplit : 2 ^ (i * 7) * n =
          2 ^ (i * 7) * (n % 128) + 2 ^ (i * 7) * 128 * (n / 128) := by
        rw [Nat.mul_assoc, ← Nat.mul_add, Nat.mod_add_div]
      rw [encodeCompactU16_of_le (Nat.le_of_not_lt hshort), List.cons_append,
        compactU16Loop_cons hvalue, toNat_continued, if_neg hcontinued, hlow,
        ih hnext hpos hhigh, hpow, hsplit, List.length_cons]
      congr 2
      · omega
      · omega

/-- A length of up to three bytes is read back, and how many bytes it takes. -/
theorem decodeCompactU16_encode {n : ℕ} (h : n < 128 ^ 3) (rest : List UInt8) :
    decodeCompactU16 (encodeCompactU16 n ++ rest) = .ok (n, (encodeCompactU16 n).length) := by
  have hloop := compactU16Loop_encode 3 (show 0 < 2 ^ (0 * 7) by norm_num) (by norm_num) h rest
  unfold decodeCompactU16
  rw [hloop]
  congr 2
  · omega
  · omega

example : decodeCompactU16 [0x80, 0x80, 0x01] = .ok (16384, 3) := by decide

/-! ## Values of a fixed width -/

theorem bytesAt_append {n : ℕ} (v : Vector UInt8 n) (rest : List UInt8) :
    bytesAt n (v.toList ++ rest) 0 = v := by
  apply Vector.ext
  intro j hj
  have hlen : j < v.toList.length := by
    rw [Vector.length_toList]
    exact hj
  unfold bytesAt
  rw [Vector.getElem_ofFn, Nat.zero_add, List.getD_eq_getElem?_getD,
    List.getElem?_append_left hlen, List.getElem?_eq_getElem hlen, Option.getD_some,
    Vector.getElem_toList]

theorem bytesAt_drop {n : ℕ} (data : List UInt8) (offset k : ℕ) :
    bytesAt n data (offset + k) = bytesAt n (data.drop offset) k := by
  apply Vector.ext
  intro j hj
  unfold bytesAt
  rw [Vector.getElem_ofFn, Vector.getElem_ofFn, List.getD_eq_getElem?_getD,
    List.getD_eq_getElem?_getD, List.getElem?_drop, Nat.add_assoc]

/-- Values of a fixed width, one behind the other. -/
theorem map_bytesAt_flatMap {n : ℕ} (vs : List (Vector UInt8 n)) (rest : List UInt8) :
    ((List.range vs.length).map fun i => bytesAt n (vs.flatMap (·.toList) ++ rest) (i * n)) =
      vs := by
  induction vs with
  | nil => rfl
  | cons v vs ih =>
    have hdrop : (v.toList ++ (vs.flatMap (·.toList) ++ rest)).drop n =
        vs.flatMap (·.toList) ++ rest := by
      rw [List.drop_append_of_le_length (by rw [Vector.length_toList]), List.drop_of_length_le
        (by rw [Vector.length_toList]), List.nil_append]
    rw [List.length_cons, List.range_succ_eq_map, List.map_cons, List.map_map, List.flatMap_cons,
      List.append_assoc, Nat.zero_mul, bytesAt_append]
    congr 1
    have htail : ∀ i, bytesAt n (v.toList ++ (vs.flatMap (·.toList) ++ rest)) (i.succ * n) =
        bytesAt n (vs.flatMap (·.toList) ++ rest) (i * n) := by
      intro i
      rw [Nat.succ_mul, Nat.add_comm, bytesAt_drop, hdrop]
    simp only [Function.comp_def, htail]
    exact ih

theorem length_flatMap_toList {n : ℕ} (vs : List (Vector UInt8 n)) :
    (vs.flatMap (·.toList)).length = vs.length * n := by
  induction vs with
  | nil => simp
  | cons v vs ih =>
    rw [List.flatMap_cons, List.length_append, ih, Vector.length_toList, List.length_cons,
      Nat.succ_mul, Nat.add_comm]

/-! ## Reading back -/

theorem parseAccountKeys_encode {keys : List Pubkey} (h : keys.length ≤ 65535)
    (rest : List UInt8) :
    parseAccountKeys (encodeCompactU16 keys.length ++ keys.flatMap (·.toList) ++ rest) =
      .ok (keys, rest) := by
  have hfits : ¬ keys.length * 32 > (keys.flatMap (·.toList) ++ rest).length := by
    rw [List.length_append, length_flatMap_toList]
    omega
  have hrest : (keys.flatMap (·.toList) ++ rest).drop (keys.length * 32) = rest := by
    rw [← length_flatMap_toList, List.drop_left]
  unfold parseAccountKeys
  rw [List.append_assoc, decodeCompactU16_encode (by omega)]
  dsimp only [bind, Except.bind]
  rw [List.drop_left, if_neg hfits, hrest, map_bytesAt_flatMap]

theorem parseBlockhash_encode (hash : Vector UInt8 32) (rest : List UInt8) :
    parseBlockhash (hash.toList ++ rest) = .ok (hash, rest) := by
  have hlen : hash.toList.length = 32 := Vector.length_toList
  have hfits : ¬ 32 > (hash.toList ++ rest).length := by
    rw [List.length_append, hlen]
    omega
  have hrest : (hash.toList ++ rest).drop 32 = rest := List.drop_left' hlen
  unfold parseBlockhash
  rw [if_neg hfits, bytesAt_append, hrest]

theorem parseBytes_encode {bytes : List UInt8} (h : bytes.length ≤ 65535) (rest : List UInt8) :
    parseBytes (encodeBytes bytes ++ rest) = .ok (bytes, rest) := by
  have hfits : ¬ bytes.length > (bytes ++ rest).length := by
    rw [List.length_append]
    omega
  unfold parseBytes encodeBytes
  rw [List.append_assoc, decodeCompactU16_encode (by omega)]
  dsimp only [bind, Except.bind]
  rw [List.drop_left, if_neg hfits, List.take_left, List.drop_left]

theorem parseInstruction_encode {ix : CompiledInstruction} (h : ix.WellFormed)
    (rest : List UInt8) : parseInstruction (ix.encode ++ rest) = .ok (ix, rest) := by
  unfold CompiledInstruction.encode
  rw [List.cons_append, List.append_assoc, parseInstruction, parseBytes_encode h.accounts]
  dsimp only [bind, Except.bind]
  rw [parseBytes_encode h.data]

theorem parseInstructions_encode (ixs : List CompiledInstruction)
    (h : ∀ ix ∈ ixs, ix.WellFormed) (rest : List UInt8) :
    parseInstructions ixs.length (ixs.flatMap (·.encode) ++ rest) = .ok ixs := by
  induction ixs with
  | nil => rfl
  | cons ix ixs ih =>
    have hix := h ix List.mem_cons_self
    have hixs : ∀ ix' ∈ ixs, ix'.WellFormed := by
      intro ix' hmem
      exact h ix' (List.mem_cons_of_mem ix hmem)
    rw [List.length_cons, List.flatMap_cons, List.append_assoc, parseInstructions,
      parseInstruction_encode hix]
    dsimp only [bind, Except.bind]
    rw [ih hixs]

/-- A well-formed legacy message is read back as it was, whatever stands behind it. -/
theorem ParsedMessage.fromBytes_encode {m : ParsedMessage} (h : m.WellFormed)
    (rest : List UInt8) : ParsedMessage.fromBytes (m.encode ++ rest) = .ok m := by
  have hversion : (m.header.numRequiredSignatures == 0x80) = false := by
    rw [beq_eq_false_iff_ne]
    exact h.version
  have hsplit : m.encode ++ rest =
      m.header.numRequiredSignatures :: m.header.numReadonlySignedAccounts ::
        m.header.numReadonlyUnsignedAccounts ::
        (encodeCompactU16 m.accountKeys.length ++ m.accountKeys.flatMap (·.toList) ++
          (m.recentBlockhash.toList ++ (encodeCompactU16 m.instructions.length ++
            (m.instructions.flatMap (·.encode) ++ rest)))) := by
    simp only [ParsedMessage.encode, buildMessage, List.append_assoc, List.cons_append,
      List.nil_append]
  have hcount : m.instructions.length < 128 ^ 3 := by
    have hlength := h.count
    omega
  rw [hsplit, ParsedMessage.fromBytes, hversion, if_neg Bool.false_ne_true]
  dsimp only [parseHeader, bind, Except.bind]
  rw [parseAccountKeys_encode h.keys]
  dsimp only
  rw [parseBlockhash_encode]
  dsimp only
  rw [decodeCompactU16_encode hcount]
  dsimp only
  rw [List.drop_left, parseInstructions_encode m.instructions h.instructions, ← h.legacy]

/-- A transaction of at most 127 signatures is read back as it was. -/
theorem VersionedTransaction.fromBytes_encode {tx : VersionedTransaction}
    (h : tx.signatures.length ≤ 127) : VersionedTransaction.fromBytes tx.encode = .ok tx := by
  have hcount : decodeCompactU16 tx.encode =
      .ok (tx.signatures.length, (encodeCompactU16 tx.signatures.length).length) := by
    unfold VersionedTransaction.encode
    rw [List.append_assoc]
    exact decodeCompactU16_encode (by omega) _
  have hdrop : tx.encode.drop (encodeCompactU16 tx.signatures.length).length =
      tx.signatures.flatMap (·.toList) ++ tx.messageBytes := by
    unfold VersionedTransaction.encode
    rw [List.append_assoc, List.drop_left]
  have hfits : ¬ tx.encode.length <
      (encodeCompactU16 tx.signatures.length).length + tx.signatures.length * 64 := by
    unfold VersionedTransaction.encode
    rw [List.length_append, List.length_append, length_flatMap_toList]
    omega
  have hmessage : tx.encode.drop
      ((encodeCompactU16 tx.signatures.length).length + tx.signatures.length * 64) =
      tx.messageBytes := by
    rw [← List.drop_drop, hdrop, ← length_flatMap_toList, List.drop_left]
  unfold VersionedTransaction.fromBytes
  rw [hcount]
  dsimp only [bind, Except.bind]
  rw [if_neg (by omega), if_neg hfits, hmessage]
  simp only [bytesAt_drop, hdrop, map_bytesAt_flatMap]

end Solvela.Payment
