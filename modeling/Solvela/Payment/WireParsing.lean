import Solvela.Lib.SliceReader
import Solvela.Lib.Traverse
import Solvela.Payment.WireEncoding

/-!
# Wire parsing without faults

`decode_compact_u16`, `VersionedTransaction::from_bytes` and `ParsedMessage::from_bytes` as they
are: an offset into the slice, additions and multiplications that may overflow, indexing and copying
that may panic. They follow the parsers of `Transaction`, which know no offset. So they never fault,
their offset stays within the slice, and what is written canonically is read back.
-/

namespace Solvela.Payment

open Solvela.ChannelLedger Solvela.Channel
open Solvela.Lib (PointerWidth Slice Stop Follows FollowsAt Safe addUsize mulUsize shlUsize
  copyFromSlice returning times parseTimes addUsize_eq addUsize_small mulUsize_small
  shlUsize_small)

variable {w : PointerWidth}

/-! ## The code -/

/-- The loop of `decode_compact_u16` from its iteration `i` on, with `left` iterations left. -/
def compactU16LoopAt (data : Slice w) (offset : ℕ) :
    ℕ → ℕ → ℕ → ℕ → Except (Stop TransactionError) (ℕ × ℕ)
  | 0, _, _, _ =>
    .error (.returned (.invalidFormat "compact-u16 overflow: more than 3 bytes"))
  | left + 1, i, value, consumed => do
    let idx ← addUsize w offset i
    if idx ≥ data.bytes.length then .error (.returned .tooShort)
    else
      let byte ← data.index idx
      let consumed ← addUsize w consumed 1
      let shift ← mulUsize w i 7
      let payload ← shlUsize w (byte.toNat &&& 0x7F) shift
      let value := value ||| payload
      if byte.toNat &&& 0x80 = 0 then .ok (value, consumed)
      else compactU16LoopAt data offset left (i + 1) value consumed

/-- `decode_compact_u16`. -/
def decodeCompactU16At (data : Slice w) (offset : ℕ) : Except (Stop TransactionError) (ℕ × ℕ) :=
  if offset ≥ data.bytes.length then .error (.returned .tooShort)
  else compactU16LoopAt data offset 3 0 0 0

/-- `VersionedTransaction::from_bytes`, with the offset where the message begins. -/
def VersionedTransaction.parseAt (data : Slice w) :
    Except (Stop TransactionError) (VersionedTransaction × ℕ) :=
  if data.bytes.isEmpty then .error (.returned .tooShort)
  else do
    let (sigCount, sigCountLen) ← decodeCompactU16At data 0
    if sigCount > 127 then
      .error (.returned (.invalidFormat s!"too many signatures: {sigCount}"))
    else
      let sigsStart := sigCountLen
      let sigsEnd ← addUsize w sigsStart (← mulUsize w sigCount 64)
      if data.bytes.length < sigsEnd then .error (.returned .tooShort)
      else
        let signatures ← (List.range sigCount).mapM fun i => do
          let offset ← addUsize w sigsStart (← mulUsize w i 64)
          let bytes ← data.range offset (← addUsize w offset 64)
          copyFromSlice 64 bytes
        let messageBytes ← data.range sigsEnd data.bytes.length
        .ok (⟨signatures, messageBytes⟩, sigsEnd)

/-- The header. -/
def headerAt (data : Slice w) (offset : ℕ) :
    Except (Stop TransactionError) (MessageHeader × ℕ) := do
  let stop ← addUsize w offset 3
  if stop > data.bytes.length then .error (.returned .tooShort)
  else
    let numRequiredSignatures ← data.index offset
    let numReadonlySignedAccounts ← data.index (← addUsize w offset 1)
    let numReadonlyUnsignedAccounts ← data.index (← addUsize w offset 2)
    let offset ← addUsize w offset 3
    .ok (⟨numRequiredSignatures, numReadonlySignedAccounts, numReadonlyUnsignedAccounts⟩, offset)

/-- A count, and the offset behind it. -/
def countAt (data : Slice w) (offset : ℕ) : Except (Stop TransactionError) (ℕ × ℕ) := do
  let (count, consumed) ← decodeCompactU16At data offset
  let offset ← addUsize w offset consumed
  .ok (count, offset)

/-- An array of `n` bytes, and the offset behind it. -/
def arrayAt (n : ℕ) (data : Slice w) (offset : ℕ) :
    Except (Stop TransactionError) (Vector UInt8 n × ℕ) := do
  let bytes ← data.range offset (← addUsize w offset n)
  let array ← copyFromSlice n bytes
  let offset ← addUsize w offset n
  .ok (array, offset)

/-- The account keys behind their count. -/
def accountKeysAfterAt (data : Slice w) (numKeys offset : ℕ) :
    Except (Stop TransactionError) (List Pubkey × ℕ) := do
  let stop ← addUsize w offset (← mulUsize w numKeys 32)
  if stop > data.bytes.length then .error (.returned .tooShort)
  else times (arrayAt 32 data) numKeys offset

/-- The blockhash. -/
def blockhashAt (data : Slice w) (offset : ℕ) :
    Except (Stop TransactionError) (Vector UInt8 32 × ℕ) := do
  let stop ← addUsize w offset 32
  if stop > data.bytes.length then .error (.returned .tooShort)
  else arrayAt 32 data offset

/-- A byte string behind its length. -/
def bytesAfterAt (data : Slice w) (len offset : ℕ) :
    Except (Stop TransactionError) (List UInt8 × ℕ) := do
  let stop ← addUsize w offset len
  if stop > data.bytes.length then .error (.returned .tooShort)
  else
    let bytes ← data.range offset stop
    let offset ← addUsize w offset len
    .ok (bytes, offset)

/-- The program of an instruction. -/
def programIdIndexAt (data : Slice w) (offset : ℕ) :
    Except (Stop TransactionError) (UInt8 × ℕ) :=
  if offset ≥ data.bytes.length then .error (.returned .tooShort)
  else do
    let programIdIndex ← data.index offset
    let offset ← addUsize w offset 1
    .ok (programIdIndex, offset)

/-- One instruction. -/
def instructionAt (data : Slice w) (offset : ℕ) :
    Except (Stop TransactionError) (CompiledInstruction × ℕ) := do
  let (programIdIndex, offset) ← programIdIndexAt data offset
  let (numAccounts, offset) ← countAt data offset
  let (accounts, offset) ← bytesAfterAt data numAccounts offset
  let (dataLen, offset) ← countAt data offset
  let (ixData, offset) ← bytesAfterAt data dataLen offset
  .ok (⟨programIdIndex, accounts, ixData⟩, offset)

/-- `ParsedMessage::from_bytes` behind the version prefix. -/
def messageAt (data : Slice w) (isV0 : Bool) (offset : ℕ) :
    Except (Stop TransactionError) (ParsedMessage × ℕ) := do
  let (header, offset) ← headerAt data offset
  let (numKeys, offset) ← countAt data offset
  let (accountKeys, offset) ← accountKeysAfterAt data numKeys offset
  let (recentBlockhash, offset) ← blockhashAt data offset
  let (numInstructions, offset) ← countAt data offset
  let (instructions, offset) ← times (instructionAt data) numInstructions offset
  .ok (⟨header, accountKeys, recentBlockhash, instructions, isV0⟩, offset)

/-- `ParsedMessage::from_bytes`, with the offset that it ends at. -/
def ParsedMessage.parseAt (data : Slice w) :
    Except (Stop TransactionError) (ParsedMessage × ℕ) :=
  if data.bytes.isEmpty then .error (.returned .tooShort)
  else do
    let isV0 := (← data.index 0) == 0x80
    let offset ← if isV0 then addUsize w 0 1 else .ok 0
    messageAt data isV0 offset

/-! ## Compact-u16 -/

variable {data : Slice w}

theorem compactU16LoopAt_eq {offset : ℕ} (hoffset : offset ≤ data.bytes.length) (left : ℕ)
    {i : ℕ} (hi : i + left = 3) (value : ℕ) :
    compactU16LoopAt data offset left i value i =
      returning (compactU16Loop i value left (data.bytes.drop (offset + i))) := by
  induction left generalizing i value with
  | zero => rfl
  | succ left ih =>
    have hidx : (addUsize w offset i : Except (Stop TransactionError) ℕ) = .ok (offset + i) :=
      addUsize_eq hoffset (by omega)
    rw [compactU16LoopAt, hidx]
    dsimp only [bind, Except.bind]
    cases hdrop : data.bytes.drop (offset + i) with
    | nil =>
      rw [if_pos (List.drop_eq_nil_iff.mp hdrop)]
      rfl
    | cons byte rest =>
      have hlt : ¬ offset + i ≥ data.bytes.length := by
        intro hle
        rw [List.drop_eq_nil_iff.mpr hle] at hdrop
        cases hdrop
      have hrest : rest = data.bytes.drop (offset + (i + 1)) := by
        rw [← Nat.add_assoc, ← List.drop_drop, hdrop]
        rfl
      -- three bytes of seven bits: the shift does not lose any
      have hpayload : (byte.toNat &&& 0x7F) <<< (i * 7) < 2 ^ 32 := by
        have hpow : 2 ^ (i * 7) ≤ 2 ^ 14 := Nat.pow_le_pow_right (by norm_num) (by omega)
        have hlow : byte.toNat % 128 ≤ 127 := by omega
        have hmul : byte.toNat % 128 * 2 ^ (i * 7) ≤ 127 * 2 ^ 14 := Nat.mul_le_mul hlow hpow
        rw [payload_eq, Nat.shiftLeft_eq]
        omega
      rw [if_neg hlt, Slice.index_eq hdrop, addUsize_small (by omega), mulUsize_small (by omega)]
      dsimp only
      rw [shlUsize_small (by omega) hpayload, compactU16Loop]
      dsimp only
      by_cases hlast : byte.toNat &&& 0x80 = 0
      · rw [if_pos hlast, if_pos hlast]
        rfl
      · rw [if_neg hlast, if_neg hlast, ih (by omega), hrest]

theorem decodeCompactU16At_eq (data : Slice w) (offset : ℕ) :
    decodeCompactU16At data offset = returning (decodeCompactU16 (data.bytes.drop offset)) := by
  unfold decodeCompactU16At
  by_cases hend : offset ≥ data.bytes.length
  · rw [if_pos hend, List.drop_eq_nil_iff.mpr hend]
    rfl
  · rw [if_neg hend, compactU16LoopAt_eq (by omega) 3 rfl]
    rfl

/-- A count is below `2 ^ 21`, and its one to three bytes are there. -/
theorem decodeCompactU16_bounds {bytes : List UInt8} {v n : ℕ}
    (h : decodeCompactU16 bytes = .ok (v, n)) : v < 2 ^ 21 ∧ n ≤ 3 ∧ n ≤ bytes.length := by
  cases decodeCompactU16_ok h with
  | one ha =>
    simp only [List.length_cons]
    omega
  | two ha hb =>
    simp only [List.length_cons]
    omega
  | three ha hb hc =>
    simp only [List.length_cons]
    omega

/-! ## The parts follow their parsers -/

/-- A count, and the bytes behind it. -/
def parseCount (bytes : List UInt8) : Except TransactionError (ℕ × List UInt8) :=
  decodeCompactU16 bytes >>= fun p => .ok (p.1, bytes.drop p.2)

theorem countAt_follows (data : Slice w) : Follows data (countAt data) parseCount := by
  intro offset hoffset
  unfold countAt parseCount
  rw [decodeCompactU16At_eq]
  cases hcount : decodeCompactU16 (data.bytes.drop offset) with
  | error e => rfl
  | ok p =>
    obtain ⟨-, hshort, hlen⟩ := decodeCompactU16_bounds hcount
    rw [List.length_drop] at hlen
    refine ⟨offset + p.2, ?_, by omega, by omega, List.drop_drop⟩
    show (addUsize w offset p.2 >>= fun next => Except.ok (p.1, next) : Except _ _) = _
    rw [addUsize_eq hoffset (by omega)]
    rfl

theorem count_lt {n : ℕ} (h : ∃ bytes rest, parseCount bytes = .ok (n, rest)) : n < 2 ^ 21 := by
  obtain ⟨bytes, rest, hcount⟩ := h
  unfold parseCount at hcount
  cases hdecode : decodeCompactU16 bytes with
  | error e =>
    rw [hdecode] at hcount
    cases hcount
  | ok p =>
    rw [hdecode] at hcount
    cases hcount
    exact (decodeCompactU16_bounds hdecode).1

theorem headerAt_follows (data : Slice w) : Follows data (headerAt data) parseHeader := by
  intro offset hoffset
  have hadd : ∀ n ≤ 3, (addUsize w offset n : Except (Stop TransactionError) ℕ) =
      .ok (offset + n) := fun n hn => addUsize_eq hoffset (by omega)
  have hlength := List.length_drop (i := offset) (l := data.bytes)
  unfold headerAt
  rw [hadd 3 (by omega)]
  dsimp only [bind, Except.bind]
  -- three bytes, or fewer
  match hdrop : data.bytes.drop offset with
  | a :: b :: c :: rest =>
    have hsecond : data.bytes.drop (offset + 1) = b :: c :: rest := by
      rw [← List.drop_drop, hdrop]
      rfl
    have hthird : data.bytes.drop (offset + 2) = c :: rest := by
      rw [← List.drop_drop, hdrop]
      rfl
    have hrest : rest = data.bytes.drop (offset + 3) := by
      rw [← List.drop_drop, hdrop]
      rfl
    rw [hdrop, List.length_cons, List.length_cons, List.length_cons] at hlength
    have hfits : ¬ offset + 3 > data.bytes.length := by omega
    refine ⟨offset + 3, ?_, by omega, by omega, hrest⟩
    rw [if_neg hfits, Slice.index_eq hdrop, hadd 1 (by omega), hadd 2 (by omega)]
    dsimp only
    rw [Slice.index_eq hsecond, Slice.index_eq hthird]
  | [] =>
    rw [hdrop, List.length_nil] at hlength
    have hshort : offset + 3 > data.bytes.length := by omega
    rw [if_pos hshort]
    rfl
  | [a] =>
    rw [hdrop, List.length_singleton] at hlength
    have hshort : offset + 3 > data.bytes.length := by omega
    rw [if_pos hshort]
    rfl
  | [a, b] =>
    rw [hdrop, List.length_cons, List.length_singleton] at hlength
    have hshort : offset + 3 > data.bytes.length := by omega
    rw [if_pos hshort]
    rfl

/-- Bytes that are within the slice fill an array. -/
theorem copyFromSlice_take {n offset : ℕ} (h : offset + n ≤ data.bytes.length) :
    (copyFromSlice n ((data.bytes.drop offset).take n) :
      Except (Stop TransactionError) (Vector UInt8 n)) =
      .ok (bytesAt n (data.bytes.drop offset) 0) := by
  have hlength : ((data.bytes.drop offset).take n).length = n := by
    rw [List.length_take, List.length_drop]
    omega
  have harray : (⟨((data.bytes.drop offset).take n).toArray, hlength⟩ : Vector UInt8 n) =
      bytesAt n (data.bytes.drop offset) 0 := by
    have happend := bytesAt_append ⟨((data.bytes.drop offset).take n).toArray, hlength⟩
      ((data.bytes.drop offset).drop n)
    rw [← happend]
    congr 1
    exact List.take_append_drop n _
  rw [copyFromSlice, dif_pos hlength, harray]

/-- An array that is within the slice. -/
theorem arrayAt_eq {n offset : ℕ} (h : offset + n ≤ data.bytes.length) (hn : n ≤ 2 ^ 31) :
    arrayAt n data offset = .ok (bytesAt n (data.bytes.drop offset) 0, offset + n) := by
  have hoffset : offset ≤ data.bytes.length := by omega
  have hadd : (addUsize w offset n : Except (Stop TransactionError) ℕ) = .ok (offset + n) :=
    addUsize_eq hoffset hn
  unfold arrayAt
  rw [hadd]
  dsimp only [bind, Except.bind]
  rw [Slice.range_eq h]
  dsimp only
  rw [copyFromSlice_take h]

/-- The loop over arrays that are within the slice. -/
theorem times_arrayAt {n : ℕ} (hn : n ≤ 2 ^ 31) (k : ℕ) {offset : ℕ}
    (h : offset + k * n ≤ data.bytes.length) :
    times (arrayAt n data) k offset =
      .ok ((List.range k).map fun i => bytesAt n (data.bytes.drop offset) (i * n),
        offset + k * n) := by
  induction k generalizing offset with
  | zero =>
    rw [Nat.zero_mul]
    rfl
  | succ k ih =>
    rw [Nat.succ_mul] at h
    have hnext : offset + n + k * n ≤ data.bytes.length := by omega
    have hshift : ∀ i, bytesAt n (data.bytes.drop offset) (i.succ * n) =
        bytesAt n (data.bytes.drop (offset + n)) (i * n) := by
      intro i
      rw [Nat.succ_mul, Nat.add_comm, bytesAt_drop, List.drop_drop]
    rw [times, arrayAt_eq (by omega) hn]
    dsimp only [bind, Except.bind]
    rw [ih hnext, List.range_succ_eq_map, List.map_cons, List.map_map, Nat.zero_mul, Nat.succ_mul]
    simp only [Function.comp_def, hshift]
    congr 2
    omega

/-- The keys behind their count. -/
def parseKeys (numKeys : ℕ) (rest : List UInt8) :
    Except TransactionError (List Pubkey × List UInt8) :=
  if numKeys * 32 > rest.length then .error .tooShort
  else .ok ((List.range numKeys).map fun i => bytesAt 32 rest (i * 32), rest.drop (numKeys * 32))

theorem parseAccountKeys_eq (bytes : List UInt8) :
    parseAccountKeys bytes = parseCount bytes >>= fun p => parseKeys p.1 p.2 := by
  unfold parseAccountKeys parseCount parseKeys
  cases decodeCompactU16 bytes <;> rfl

theorem accountKeysAfterAt_follows (data : Slice w) {numKeys : ℕ} (h : numKeys < 2 ^ 21) :
    Follows data (accountKeysAfterAt data numKeys) (parseKeys numKeys) := by
  intro offset hoffset
  have hstop : (addUsize w offset (numKeys * 32) : Except (Stop TransactionError) ℕ) =
      .ok (offset + numKeys * 32) := addUsize_eq hoffset (by omega)
  unfold accountKeysAfterAt parseKeys
  rw [mulUsize_small (by omega)]
  dsimp only [bind, Except.bind]
  rw [hstop, List.length_drop]
  dsimp only
  by_cases hshort : offset + numKeys * 32 > data.bytes.length
  · rw [if_pos hshort, if_pos (by omega)]
    rfl
  · rw [if_neg hshort, if_neg (by omega)]
    exact ⟨_, times_arrayAt (by norm_num) numKeys (by omega), by omega, by omega, List.drop_drop⟩

theorem blockhashAt_follows (data : Slice w) : Follows data (blockhashAt data) parseBlockhash := by
  intro offset hoffset
  have hstop : (addUsize w offset 32 : Except (Stop TransactionError) ℕ) = .ok (offset + 32) :=
    addUsize_eq hoffset (by norm_num)
  unfold blockhashAt parseBlockhash
  rw [hstop, List.length_drop]
  dsimp only [bind, Except.bind]
  by_cases hshort : offset + 32 > data.bytes.length
  · rw [if_pos hshort, if_pos (by omega)]
    rfl
  · rw [if_neg hshort, if_neg (by omega)]
    exact ⟨_, arrayAt_eq (by omega) (by norm_num), by omega, by omega, List.drop_drop⟩

/-- The bytes behind their length. -/
def parseString (len : ℕ) (rest : List UInt8) :
    Except TransactionError (List UInt8 × List UInt8) :=
  if len > rest.length then .error .tooShort else .ok (rest.take len, rest.drop len)

theorem parseBytes_eq (bytes : List UInt8) :
    parseBytes bytes = parseCount bytes >>= fun p => parseString p.1 p.2 := by
  unfold parseBytes parseCount parseString
  cases decodeCompactU16 bytes <;> rfl

theorem bytesAfterAt_follows (data : Slice w) {len : ℕ} (h : len < 2 ^ 21) :
    Follows data (bytesAfterAt data len) (parseString len) := by
  intro offset hoffset
  have hstop : (addUsize w offset len : Except (Stop TransactionError) ℕ) = .ok (offset + len) :=
    addUsize_eq hoffset (by omega)
  unfold bytesAfterAt parseString
  rw [hstop, List.length_drop]
  dsimp only [bind, Except.bind]
  by_cases hshort : offset + len > data.bytes.length
  · rw [if_pos hshort, if_pos (by omega)]
    rfl
  · rw [if_neg hshort, if_neg (by omega), Slice.range_eq (by omega)]
    exact ⟨_, rfl, by omega, by omega, List.drop_drop⟩

/-- The first byte, and the bytes behind it. -/
def parseByte : List UInt8 → Except TransactionError (UInt8 × List UInt8)
  | [] => .error .tooShort
  | byte :: rest => .ok (byte, rest)

theorem programIdIndexAt_follows (data : Slice w) :
    Follows data (programIdIndexAt data) parseByte := by
  intro offset hoffset
  unfold programIdIndexAt
  cases hdrop : data.bytes.drop offset with
  | nil =>
    rw [if_pos (List.drop_eq_nil_iff.mp hdrop)]
    rfl
  | cons byte rest =>
    have hlength := List.length_drop (i := offset) (l := data.bytes)
    rw [hdrop, List.length_cons] at hlength
    have hlt : ¬ offset ≥ data.bytes.length := by omega
    have hrest : rest = data.bytes.drop (offset + 1) := by
      rw [← List.drop_drop, hdrop]
      rfl
    rw [if_neg hlt, Slice.index_eq hdrop, addUsize_eq hoffset (by norm_num)]
    exact ⟨offset + 1, rfl, by omega, by omega, hrest⟩

theorem parseInstruction_eq (bytes : List UInt8) :
    parseInstruction bytes =
      parseByte bytes >>= fun p => parseCount p.2 >>= fun q => parseString q.1 q.2 >>= fun r =>
        parseCount r.2 >>= fun s => parseString s.1 s.2 >>= fun t =>
          .ok (⟨p.1, r.1, t.1⟩, t.2) := by
  cases bytes with
  | nil => rfl
  | cons byte rest =>
    have hfirst := parseBytes_eq rest
    show (parseBytes rest >>= fun p => parseBytes p.2 >>= fun q => _) = _
    rw [hfirst]
    simp only [parseBytes_eq, bind_assoc]
    rfl

theorem instructionAt_follows (data : Slice w) :
    Follows data (instructionAt data) parseInstruction := by
  rw [show parseInstruction = _ from funext parseInstruction_eq]
  apply (programIdIndexAt_follows data).bind
  intro programIdIndex _
  dsimp only
  apply (countAt_follows data).bind
  intro numAccounts hnumAccounts
  dsimp only
  apply (bytesAfterAt_follows data (count_lt hnumAccounts)).bind
  intro accounts _
  dsimp only
  apply (countAt_follows data).bind
  intro dataLen hdataLen
  dsimp only
  exact (bytesAfterAt_follows data (count_lt hdataLen)).map fun ixData =>
    CompiledInstruction.mk programIdIndex accounts ixData

/-- `ParsedMessage::from_bytes` behind the version prefix, with the bytes it leaves. -/
def parseBody (isV0 : Bool) (bytes : List UInt8) :
    Except TransactionError (ParsedMessage × List UInt8) :=
  parseHeader bytes >>= fun p => parseCount p.2 >>= fun q => parseKeys q.1 q.2 >>= fun r =>
    parseBlockhash r.2 >>= fun s => parseCount s.2 >>= fun t =>
      parseTimes parseInstruction t.1 t.2 >>= fun u =>
        .ok (⟨p.1, r.1, s.1, u.1, isV0⟩, u.2)

theorem messageAt_follows (data : Slice w) (isV0 : Bool) :
    Follows data (messageAt data isV0) (parseBody isV0) := by
  apply (headerAt_follows data).bind
  intro header _
  dsimp only
  apply (countAt_follows data).bind
  intro numKeys hnumKeys
  dsimp only
  apply (accountKeysAfterAt_follows data (count_lt hnumKeys)).bind
  intro accountKeys _
  dsimp only
  apply (blockhashAt_follows data).bind
  intro recentBlockhash _
  dsimp only
  apply (countAt_follows data).bind
  intro numInstructions _
  dsimp only
  exact ((instructionAt_follows data).times numInstructions).map fun instructions =>
    ParsedMessage.mk header accountKeys recentBlockhash instructions isV0

/-! ## Messages -/

theorem parseInstructions_eq (n : ℕ) (bytes : List UInt8) :
    parseInstructions n bytes = (parseTimes parseInstruction n bytes).map Prod.fst := by
  induction n generalizing bytes with
  | zero => rfl
  | succ n ih =>
    rw [parseInstructions, parseTimes]
    cases parseInstruction bytes with
    | error e => rfl
    | ok p =>
      dsimp only [bind, Except.bind]
      rw [ih]
      cases parseTimes parseInstruction n p.2 <;> rfl

theorem ParsedMessage.fromBytes_cons (first : UInt8) (tail : List UInt8) :
    ParsedMessage.fromBytes (first :: tail) =
      (parseBody (first == 0x80) (if first == 0x80 then tail else first :: tail)).map
        Prod.fst := by
  unfold ParsedMessage.fromBytes parseBody
  dsimp only [bind, Except.bind]
  -- both readers fail at the same field, or go on with the same rest
  cases parseHeader (if first == 0x80 then tail else first :: tail) with
  | error e => rfl
  | ok p =>
    dsimp only
    rw [parseAccountKeys_eq]
    dsimp only [bind, Except.bind]
    cases parseCount p.2 with
    | error e => rfl
    | ok q =>
      dsimp only
      cases parseKeys q.1 q.2 with
      | error e => rfl
      | ok r =>
        dsimp only
        cases parseBlockhash r.2 with
        | error e => rfl
        | ok s =>
          dsimp only
          unfold parseCount
          cases decodeCompactU16 s.2 with
          | error e => rfl
          | ok t =>
            dsimp only [bind, Except.bind]
            rw [parseInstructions_eq]
            cases parseTimes parseInstruction t.1 (s.2.drop t.2) <;> rfl

/-- `ParsedMessage::from_bytes` is without faults, and its value is the parser's. -/
theorem ParsedMessage.parseAt_spec (data : Slice w) :
    Safe data (ParsedMessage.parseAt data) ∧
      (ParsedMessage.parseAt data).map Prod.fst =
        returning (ParsedMessage.fromBytes data.bytes) := by
  cases hbytes : data.bytes with
  | nil =>
    unfold ParsedMessage.parseAt
    rw [hbytes]
    exact ⟨⟨.tooShort, rfl⟩, rfl⟩
  | cons first tail =>
    have hlength : data.bytes.length = tail.length + 1 := by rw [hbytes, List.length_cons]
    -- the version prefix is skipped, if it is there
    have hfollows : ∃ offset, FollowsAt data offset (ParsedMessage.parseAt data)
        (parseBody (first == 0x80) (if first == 0x80 then tail else first :: tail)) := by
      have hindex : (data.index 0 : Except (Stop TransactionError) UInt8) = .ok first :=
        Slice.index_eq (by rw [List.drop_zero, hbytes])
      have hone : (addUsize w 0 1 : Except (Stop TransactionError) ℕ) = .ok 1 :=
        addUsize_small (by norm_num)
      unfold ParsedMessage.parseAt
      rw [hbytes, List.isEmpty_cons, if_neg Bool.false_ne_true, hindex, hone]
      dsimp only [bind, Except.bind]
      by_cases hversion : (first == 0x80) = true
      · have hmessage := messageAt_follows data (first == 0x80) 1 (by omega)
        rw [hbytes] at hmessage
        rw [if_pos hversion, if_pos hversion]
        exact ⟨1, hmessage⟩
      · have hmessage := messageAt_follows data (first == 0x80) 0 (by omega)
        rw [List.drop_zero, hbytes] at hmessage
        rw [if_neg hversion, if_neg hversion]
        exact ⟨0, hmessage⟩
    obtain ⟨offset, hmessage⟩ := hfollows
    rw [ParsedMessage.fromBytes_cons]
    exact ⟨hmessage.safe, hmessage.value⟩

/-! ## Transactions -/

/-- The loop over the signatures. -/
theorem signatures_eq {start count : ℕ} (h : start + count * 64 ≤ data.bytes.length)
    (hcount : count ≤ 127) :
    ((List.range count).mapM fun i => do
        let offset ← addUsize w start (← mulUsize w i 64)
        let bytes ← data.range offset (← addUsize w offset 64)
        copyFromSlice 64 bytes : Except (Stop TransactionError) (List Signature)) =
      .ok ((List.range count).map fun i => bytesAt 64 data.bytes (start + i * 64)) := by
  apply Lib.mapM_ok_map
  intro i hi
  have hlt : i < count := List.mem_range.mp hi
  have hstart : start ≤ data.bytes.length := by omega
  have hfits : start + i * 64 + 64 ≤ data.bytes.length := by omega
  have hoffset : start + i * 64 ≤ data.bytes.length := by omega
  have hlength : ((data.bytes.drop (start + i * 64)).take 64).length = 64 := by
    rw [List.length_take, List.length_drop]
    omega
  rw [mulUsize_small (by omega)]
  dsimp only [bind, Except.bind]
  rw [addUsize_eq hstart (by omega)]
  dsimp only
  rw [addUsize_eq hoffset (by norm_num)]
  dsimp only
  rw [Slice.range_eq hfits]
  dsimp only
  rw [copyFromSlice_take hfits, ← bytesAt_drop]
  rfl

/-- `VersionedTransaction::from_bytes` is without faults, and its value is the parser's. -/
theorem VersionedTransaction.parseAt_spec (data : Slice w) :
    Safe data (VersionedTransaction.parseAt data) ∧
      (VersionedTransaction.parseAt data).map Prod.fst =
        returning (VersionedTransaction.fromBytes data.bytes) := by
  unfold VersionedTransaction.parseAt VersionedTransaction.fromBytes
  by_cases hempty : data.bytes.isEmpty = true
  · rw [if_pos hempty, List.isEmpty_iff.mp hempty]
    exact ⟨⟨.tooShort, rfl⟩, rfl⟩
  · rw [if_neg hempty, decodeCompactU16At_eq, List.drop_zero]
    cases hdecode : decodeCompactU16 data.bytes with
    | error e => exact ⟨⟨e, rfl⟩, rfl⟩
    | ok p =>
      obtain ⟨-, hshort, hlen⟩ := decodeCompactU16_bounds hdecode
      dsimp only [returning, Except.mapError, bind, Except.bind]
      by_cases hmany : p.1 > 127
      · rw [if_pos hmany, if_pos hmany]
        exact ⟨⟨_, rfl⟩, rfl⟩
      · rw [if_neg hmany, if_neg hmany, mulUsize_small (by omega)]
        dsimp only
        rw [addUsize_small (by omega)]
        dsimp only
        by_cases hsigs : data.bytes.length < p.2 + p.1 * 64
        · rw [if_pos hsigs, if_pos hsigs]
          exact ⟨⟨.tooShort, rfl⟩, rfl⟩
        -- the signatures fit, so no slice of them is out of range
        · have hfits : p.2 + p.1 * 64 ≤ data.bytes.length := Nat.le_of_not_lt hsigs
          have hsignatures := signatures_eq hfits (Nat.le_of_not_lt hmany)
          dsimp only [bind, Except.bind] at hsignatures
          have hrest : (data.range (p.2 + p.1 * 64) data.bytes.length :
              Except (Stop TransactionError) (List UInt8)) =
              .ok (data.bytes.drop (p.2 + p.1 * 64)) := by
            rw [Slice.range, if_pos ⟨hfits, le_rfl⟩, List.take_of_length_le (by rw [List.length_drop])]
          rw [if_neg hsigs, if_neg hsigs, hsignatures]
          dsimp only
          rw [hrest]
          exact ⟨hfits, rfl⟩

/-! ## Every byte string -/

/-- The transaction carries a legacy message and as many signatures as its header requires. -/
structure VersionedTransaction.Carries (tx : VersionedTransaction) (m : ParsedMessage) : Prop where
  wellFormed : m.WellFormed
  legacy : m.header.numRequiredSignatures < 0x80
  signatures : tx.signatures.length = m.header.numRequiredSignatures.toNat
  message : tx.messageBytes = m.encode

/-- What the parsers do on a slice: they do not fault and stay within it, and they read back what
was written canonically. -/
structure ParsesWire (data : Slice w) : Prop where
  compactU16 : ∀ offset,
    Safe data ((decodeCompactU16At data offset).map fun p => (p.1, offset + p.2))
  transaction : Safe data (VersionedTransaction.parseAt data)
  message : Safe data (ParsedMessage.parseAt data)
  readsMessage : ∀ m : ParsedMessage, m.WellFormed → data.bytes = m.encode →
    (ParsedMessage.parseAt data).map Prod.fst = .ok m
  readsTransaction : ∀ (tx : VersionedTransaction) (m : ParsedMessage), tx.Carries m →
    data.bytes = tx.encode →
      (VersionedTransaction.parseAt data).map Prod.fst = .ok tx ∧
        ∀ messageBytes : Slice w, messageBytes.bytes = tx.messageBytes →
          (ParsedMessage.parseAt messageBytes).map Prod.fst = .ok m

theorem decodeCompactU16At_safe (data : Slice w) (offset : ℕ) :
    Safe data ((decodeCompactU16At data offset).map fun p => (p.1, offset + p.2)) := by
  rw [decodeCompactU16At_eq]
  cases hdecode : decodeCompactU16 (data.bytes.drop offset) with
  | error e => exact ⟨e, rfl⟩
  | ok p =>
    obtain ⟨-, hshort, hlen⟩ := decodeCompactU16_bounds hdecode
    rw [List.length_drop] at hlen
    -- past the end nothing is read
    have hoffset : offset < data.bytes.length := by
      by_contra hend
      rw [List.drop_of_length_le (Nat.le_of_not_lt hend)] at hdecode
      cases hdecode
    show offset + p.2 ≤ data.bytes.length
    omega

theorem ParsedMessage.parseAt_encode {m : ParsedMessage} (h : m.WellFormed)
    (hbytes : data.bytes = m.encode) : (ParsedMessage.parseAt data).map Prod.fst = .ok m := by
  have hread := ParsedMessage.fromBytes_encode h []
  rw [List.append_nil] at hread
  rw [(ParsedMessage.parseAt_spec data).2, hbytes, hread]
  rfl

theorem VersionedTransaction.parseAt_encode {tx : VersionedTransaction}
    (h : tx.signatures.length ≤ 127) (hbytes : data.bytes = tx.encode) :
    (VersionedTransaction.parseAt data).map Prod.fst = .ok tx := by
  rw [(VersionedTransaction.parseAt_spec data).2, hbytes, VersionedTransaction.fromBytes_encode h]
  rfl

/-- The parsers are without faults on every byte string and read back every legacy message and
transaction. -/
theorem parsesWire (data : Slice w) : ParsesWire data where
  compactU16 := decodeCompactU16At_safe data
  transaction := (VersionedTransaction.parseAt_spec data).1
  message := (ParsedMessage.parseAt_spec data).1
  readsMessage _ h hbytes := ParsedMessage.parseAt_encode h hbytes
  readsTransaction tx m h hbytes := by
    have hcount : tx.signatures.length ≤ 127 := by
      have hlegacy : m.header.numRequiredSignatures.toNat < 128 := h.legacy
      rw [h.signatures]
      omega
    refine ⟨VersionedTransaction.parseAt_encode hcount hbytes, ?_⟩
    intro messageBytes hmessage
    exact ParsedMessage.parseAt_encode h.wellFormed (hmessage.trans h.message)

end Solvela.Payment
