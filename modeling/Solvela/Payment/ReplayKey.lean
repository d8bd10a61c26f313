import Solvela.Payment.Transaction
import Solvela.Replay.Check
import Solvela.Signer.Encoding

/-!
# Replay keys and the transactions behind them

The replay record of a payment is kept under the base64 text the client sent. Base64 with
canonical padding and the layout of a transaction leave one degree of freedom: the number of
signatures can be written in one, two or three bytes. So two accepted texts of one transaction
have the same key exactly when they write that count in equally many bytes.
-/

namespace Solvela.Payment

open Solvela.ChannelLedger Solvela.Channel Solvela.Replay
open Solvela.Signer (base64Char base64Chars padChar)

/-! ## Base64 -/

theorem base64Digit_ok {b : UInt8} {x : ℕ} (h : base64Digit b = some x) :
    x < 64 ∧ base64Char x = b := by
  have hall : ∀ n < 256, ∀ x ∈ base64Digit (UInt8.ofNat n),
      x < 64 ∧ base64Char x = UInt8.ofNat n := by decide +kernel
  have hb : UInt8.ofNat b.toNat = b := UInt8.ofNat_toNat
  have := hall b.toNat b.toNat_lt x
  rw [hb] at this
  exact this h

/-- The six bits of four characters, read back from the three bytes they spell. -/
theorem base64_bits {x y z w : ℕ} (hx : x < 64) (hy : y < 64) (hz : z < 64) (hw : w < 64) :
    (UInt8.ofNat (x * 4 + y / 16)).toNat = x * 4 + y / 16 ∧
    (UInt8.ofNat (y % 16 * 16 + z / 4)).toNat = y % 16 * 16 + z / 4 ∧
    (UInt8.ofNat (z % 4 * 64 + w)).toNat = z % 4 * 64 + w := by
  refine ⟨?_, ?_, ?_⟩
  · rw [UInt8.toNat_ofNat']
    omega
  · rw [UInt8.toNat_ofNat']
    omega
  · rw [UInt8.toNat_ofNat']
    omega

theorem base64Chars_group {x y z w : ℕ} (hx : x < 64) (hy : y < 64) (hz : z < 64)
    (hw : w < 64) (rest : List UInt8) :
    base64Chars (UInt8.ofNat (x * 4 + y / 16) :: UInt8.ofNat (y % 16 * 16 + z / 4) ::
      UInt8.ofNat (z % 4 * 64 + w) :: rest) =
      base64Char x :: base64Char y :: base64Char z :: base64Char w :: base64Chars rest := by
  obtain ⟨hfirst, hsecond, hthird⟩ := base64_bits hx hy hz hw
  rw [base64Chars, hfirst, hsecond, hthird, show (x * 4 + y / 16) / 4 = x by omega,
    show (x * 4 + y / 16) % 4 * 16 + (y % 16 * 16 + z / 4) / 16 = y by omega,
    show (y % 16 * 16 + z / 4) % 16 * 4 + (z % 4 * 64 + w) / 64 = z by omega,
    show (z % 4 * 64 + w) % 64 = w by omega]

theorem base64Pad_ok {b : UInt8} (h : b.toNat = base64Pad) : padChar = b := by
  rw [padChar, ← h]
  exact UInt8.ofNat_toNat

theorem base64Last_ok {a b c d : UInt8} {bytes : List UInt8}
    (h : base64Last a b c d = some bytes) : base64Chars bytes = [a, b, c, d] := by
  simp only [base64Last, Option.bind_eq_bind, Option.bind_eq_some_iff] at h
  obtain ⟨x, hx, y, hy, h⟩ := h
  obtain ⟨hx64, rfl⟩ := base64Digit_ok hx
  obtain ⟨hy64, rfl⟩ := base64Digit_ok hy
  by_cases hd : d.toNat = base64Pad
  · rw [if_pos hd] at h
    by_cases hc : c.toNat = base64Pad
    · -- one byte and two characters of padding
      rw [if_pos hc] at h
      by_cases hlow : y % 16 = 0
      · rw [if_pos hlow] at h
        obtain rfl := Option.some.inj h
        obtain ⟨hfirst, -, -⟩ := base64_bits hx64 hy64 (by omega : 0 < 64) (by omega : 0 < 64)
        obtain rfl := base64Pad_ok hc
        obtain rfl := base64Pad_ok hd
        simp only [base64Chars, hfirst]
        rw [show (x * 4 + y / 16) / 4 = x by omega,
          show (x * 4 + y / 16) % 4 * 16 = y by omega]
      · rw [if_neg hlow] at h
        exact absurd h (by simp)
    · -- two bytes and one character of padding
      rw [if_neg hc] at h
      simp only [Option.bind_eq_some_iff] at h
      obtain ⟨z, hz, h⟩ := h
      obtain ⟨hz64, rfl⟩ := base64Digit_ok hz
      by_cases hlow : z % 4 = 0
      · rw [if_pos hlow] at h
        obtain rfl := Option.some.inj h
        obtain ⟨hfirst, hsecond, -⟩ := base64_bits hx64 hy64 hz64 (by omega : 0 < 64)
        obtain rfl := base64Pad_ok hd
        simp only [base64Chars, hfirst, hsecond]
        rw [show (x * 4 + y / 16) / 4 = x by omega,
          show (x * 4 + y / 16) % 4 * 16 + (y % 16 * 16 + z / 4) / 16 = y by omega,
          show (y % 16 * 16 + z / 4) % 16 * 4 = z by omega]
      · rw [if_neg hlow] at h
        exact absurd h (by simp)
  · rw [if_neg hd] at h
    simp only [Option.bind_eq_some_iff] at h
    obtain ⟨z, hz, w, hw, h⟩ := h
    obtain ⟨hz64, rfl⟩ := base64Digit_ok hz
    obtain ⟨hw64, rfl⟩ := base64Digit_ok hw
    obtain rfl := Option.some.inj h
    exact base64Chars_group hx64 hy64 hz64 hw64 []

/-- Decoding is undone by encoding: no text but the canonical one of its bytes is accepted. -/
theorem base64Chars_of_decode {s bytes : List UInt8} (h : base64Decode s = some bytes) :
    base64Chars bytes = s := by
  induction s using base64Decode.induct generalizing bytes with
  | case1 =>
    simp only [base64Decode] at h
    obtain rfl := Option.some.inj h
    rfl
  | case2 a b c d =>
    rw [base64Decode] at h
    exact base64Last_ok h
  | case3 a b c d rest hrest ih =>
    rw [base64Decode] at h
    · simp only [Option.bind_eq_bind, Option.bind_eq_some_iff] at h
      obtain ⟨x, hx, y, hy, z, hz, w, hw, tail, htail, h⟩ := h
      obtain ⟨hx64, rfl⟩ := base64Digit_ok hx
      obtain ⟨hy64, rfl⟩ := base64Digit_ok hy
      obtain ⟨hz64, rfl⟩ := base64Digit_ok hz
      obtain ⟨hw64, rfl⟩ := base64Digit_ok hw
      obtain rfl := Option.some.inj h
      rw [base64Chars_group hx64 hy64 hz64 hw64, ih htail]
    · exact hrest
  | case4 s hnil hfour hmore =>
    rw [base64Decode] at h
    · exact absurd h (by simp)
    · exact hnil
    · exact hfour
    · exact hmore

/-- Base64 texts of the same bytes are the same. -/
theorem base64_text_injective {s s' : String} {bytes : List UInt8}
    (h : base64Decode (textBytes s) = some bytes)
    (h' : base64Decode (textBytes s') = some bytes) : s = s' := by
  apply textBytes_injective
  rw [← base64Chars_of_decode h, ← base64Chars_of_decode h']

/-! ## The count of the signatures -/

/-- How many bytes a compact-u16 takes: it goes on while the high bit is set. -/
def compactLength (data : List UInt8) : ℕ :=
  (data.takeWhile fun b => decide (128 ≤ b.toNat)).length + 1

theorem continues_iff (b : UInt8) : b.toNat &&& 0x80 = 0 ↔ b.toNat < 128 := by
  have hall : ∀ n < 256, (n &&& 0x80 = 0 ↔ n < 128) := by decide +kernel
  exact hall b.toNat b.toNat_lt

theorem payload_eq (b : UInt8) : b.toNat &&& 0x7F = b.toNat % 128 := by
  exact Nat.and_two_pow_sub_one_eq_mod b.toNat 7

/-- The accepted forms of a compact-u16. -/
inductive CompactU16 : List UInt8 → ℕ → ℕ → Prop
  | one {a : UInt8} {rest : List UInt8} (ha : a.toNat < 128) :
      CompactU16 (a :: rest) (a.toNat % 128) 1
  | two {a b : UInt8} {rest : List UInt8} (ha : 128 ≤ a.toNat) (hb : b.toNat < 128) :
      CompactU16 (a :: b :: rest) (a.toNat % 128 + 128 * (b.toNat % 128)) 2
  | three {a b c : UInt8} {rest : List UInt8} (ha : 128 ≤ a.toNat) (hb : 128 ≤ b.toNat)
      (hc : c.toNat < 128) :
      CompactU16 (a :: b :: c :: rest)
        (a.toNat % 128 + 128 * (b.toNat % 128) + 16384 * (c.toNat % 128)) 3

/-- Seven more bits above the ones read so far. -/
theorem or_shift_eq {value i : ℕ} (hvalue : value < 2 ^ i) (x : ℕ) :
    value ||| x <<< i = value + 2 ^ i * x := by
  rw [Nat.or_comm, Nat.shiftLeft_eq, Nat.mul_comm, ← Nat.two_pow_add_eq_or_of_lt hvalue,
    Nat.add_comm]

theorem compactU16Loop_cons {i value : ℕ} (hvalue : value < 2 ^ (i * 7)) (left : ℕ) (b : UInt8)
    (rest : List UInt8) :
    compactU16Loop i value (left + 1) (b :: rest) =
      if b.toNat < 128 then .ok (value + 2 ^ (i * 7) * (b.toNat % 128), i + 1)
      else compactU16Loop (i + 1) (value + 2 ^ (i * 7) * (b.toNat % 128)) left rest := by
  rw [compactU16Loop, payload_eq, or_shift_eq hvalue]
  simp only [continues_iff]

theorem decodeCompactU16_ok {data : List UInt8} {v n : ℕ}
    (h : decodeCompactU16 data = .ok (v, n)) : CompactU16 data v n := by
  unfold decodeCompactU16 at h
  match data with
  | [] => exact absurd h (by simp [compactU16Loop])
  | a :: rest =>
    rw [compactU16Loop_cons (by omega)] at h
    by_cases ha : a.toNat < 128
    · rw [if_pos ha] at h
      obtain ⟨rfl, rfl⟩ : _ ∧ _ := by simpa using h
      exact .one ha
    · rw [if_neg ha] at h
      match rest with
      | [] => exact absurd h (by simp [compactU16Loop])
      | b :: rest =>
        rw [compactU16Loop_cons (by omega)] at h
        by_cases hb : b.toNat < 128
        · rw [if_pos hb] at h
          obtain ⟨rfl, rfl⟩ : _ ∧ _ := by simpa using h
          exact .two (by omega) hb
        · rw [if_neg hb] at h
          match rest with
          | [] => exact absurd h (by simp [compactU16Loop])
          | c :: rest =>
            rw [compactU16Loop_cons (by omega)] at h
            by_cases hc : c.toNat < 128
            · rw [if_pos hc] at h
              obtain ⟨rfl, rfl⟩ : _ ∧ _ := by simpa using h
              exact .three (by omega) (by omega) hc
            · -- a fourth byte would be needed
              rw [if_neg hc] at h
              exact absurd h (by simp [compactU16Loop])

theorem CompactU16.length_eq {data : List UInt8} {v n : ℕ} (h : CompactU16 data v n) :
    n = compactLength data := by
  cases h with
  | one ha => simp [compactLength, ha]
  | two ha hb => simp [compactLength, ha, hb]
  | three ha hb hc => simp [compactLength, ha, hb, hc]

/-- A value and its length determine the bytes. -/
theorem CompactU16.bytes_eq {data data' : List UInt8} {v v' n : ℕ} (h : CompactU16 data v n)
    (h' : CompactU16 data' v' n) (hv : v = v') : data.take n = data'.take n := by
  cases h with
  | @one a _ ha =>
    cases h' with
    | @one a' _ ha' =>
      have haa : a = a' := UInt8.toNat_inj.1 (by omega)
      rw [haa]
      rfl
  -- with one value and one length, each byte is determined
  | @two a b _ ha hb =>
    cases h' with
    | @two a' b' _ ha' hb' =>
      have := a.toNat_lt
      have := a'.toNat_lt
      have haa : a = a' := UInt8.toNat_inj.1 (by omega)
      have hbb : b = b' := UInt8.toNat_inj.1 (by omega)
      rw [haa, hbb]
      rfl
  | @three a b c _ ha hb hc =>
    cases h' with
    | @three a' b' c' _ ha' hb' hc' =>
      have := a.toNat_lt
      have := a'.toNat_lt
      have := b.toNat_lt
      have := b'.toNat_lt
      have haa : a = a' := UInt8.toNat_inj.1 (by omega)
      have hbb : b = b' := UInt8.toNat_inj.1 (by omega)
      have hcc : c = c' := UInt8.toNat_inj.1 (by omega)
      rw [haa, hbb, hcc]
      rfl

/-! ## The layout of a transaction -/

/-- What an accepted transaction says about its bytes. -/
structure Layout (data : List UInt8) (tx : VersionedTransaction) : Prop where
  count : CompactU16 data tx.signatures.length (compactLength data)
  signatures : tx.signatures = (List.range tx.signatures.length).map fun i =>
    bytesAt 64 data (compactLength data + i * 64)
  fits : compactLength data + tx.signatures.length * 64 ≤ data.length
  message : tx.messageBytes = data.drop (compactLength data + tx.signatures.length * 64)

theorem fromBytes_layout {data : List UInt8} {tx : VersionedTransaction}
    (h : VersionedTransaction.fromBytes data = .ok tx) : Layout data tx := by
  unfold VersionedTransaction.fromBytes at h
  cases hcount : decodeCompactU16 data with
  | error e =>
    rw [hcount] at h
    exact absurd h (by simp [bind, Except.bind])
  | ok count =>
    obtain ⟨sigCount, sigCountLen⟩ := count
    have hcompact := decodeCompactU16_ok hcount
    have hlength := hcompact.length_eq
    rw [hcount] at h
    simp only [bind, Except.bind] at h
    by_cases hmany : sigCount > 127
    · rw [if_pos hmany] at h
      exact absurd h (by simp)
    · rw [if_neg hmany] at h
      by_cases hshort : data.length < sigCountLen + sigCount * 64
      · rw [if_pos hshort] at h
        exact absurd h (by simp)
      · rw [if_neg hshort] at h
        obtain rfl := Except.ok.inj h
        subst hlength
        refine ⟨?_, ?_, ?_, ?_⟩
        · simpa using hcompact
        · simp
        · simp
          omega
        · simp

theorem getD_of_bytesAt_eq {n : ℕ} {data data' : List UInt8} {offset : ℕ}
    (h : bytesAt n data offset = bytesAt n data' offset) {r : ℕ} (hr : r < n) :
    data.getD (offset + r) 0 = data'.getD (offset + r) 0 := by
  have hget := congrArg (fun v : Vector UInt8 n => v[r]) h
  simpa only [bytesAt, Vector.getElem_ofFn] using hget

/-- Two layouts of one transaction agree on the bytes of the signatures. -/
theorem Layout.signatureByte_eq {data data' : List UInt8} {tx : VersionedTransaction}
    (h : Layout data tx) (h' : Layout data' tx)
    (hlen : compactLength data = compactLength data') {j : ℕ}
    (hj : j < tx.signatures.length * 64) :
    data.getD (compactLength data + j) 0 = data'.getD (compactLength data + j) 0 := by
  have hmaps := h.signatures.symm.trans h'.signatures
  rw [List.map_inj_left] at hmaps
  -- byte `j` is byte `j % 64` of signature `j / 64`
  have hi : j / 64 < tx.signatures.length := by omega
  have hsig := hmaps (j / 64) (List.mem_range.2 hi)
  rw [← hlen] at hsig
  have hbyte := getD_of_bytesAt_eq hsig (Nat.mod_lt j (by omega : 0 < 64))
  rwa [show compactLength data + j / 64 * 64 + j % 64 = compactLength data + j by omega] at hbyte

/-- The transaction and the length of its count determine the bytes. -/
theorem Layout.data_eq {data data' : List UInt8} {tx : VersionedTransaction}
    (h : Layout data tx) (h' : Layout data' tx)
    (hlen : compactLength data = compactLength data') : data = data' := by
  have hcount := h'.count
  have hfits := h'.fits
  have hmessage := h'.message
  rw [← hlen] at hcount hfits hmessage
  have hprefix := h.count.bytes_eq hcount rfl
  have hrest := h.message.symm.trans hmessage
  refine List.ext_getElem? fun j => ?_
  by_cases hj : j < compactLength data
  · rw [← List.getElem?_take_of_lt hj, hprefix, List.getElem?_take_of_lt hj]
  · by_cases hsigs : j < compactLength data + tx.signatures.length * 64
    · have hbyte := h.signatureByte_eq h' hlen
        (j := j - compactLength data) (by omega)
      rw [show compactLength data + (j - compactLength data) = j by omega] at hbyte
      have hin : j < data.length := by
        have := h.fits
        omega
      have hin' : j < data'.length := by omega
      rw [List.getD_eq_getElem?_getD, List.getD_eq_getElem?_getD, List.getElem?_eq_getElem hin,
        List.getElem?_eq_getElem hin'] at hbyte
      rw [List.getElem?_eq_getElem hin, List.getElem?_eq_getElem hin']
      exact congrArg some hbyte
    · obtain ⟨r, rfl⟩ := Nat.exists_eq_add_of_le (Nat.not_lt.1 hsigs)
      rw [← List.getElem?_drop, hrest, List.getElem?_drop]

/-! ## The accept path -/

theorem decodeAndValidate_ok {ed : Ed25519} {s : String} {tx : VersionedTransaction}
    (h : decodeAndValidateTransaction ed s = .ok tx) :
    ∃ bytes, base64Decode (textBytes s) = some bytes ∧ Layout bytes tx := by
  unfold decodeAndValidateTransaction at h
  cases hbytes : base64Decode (textBytes s) with
  | none =>
    rw [hbytes] at h
    exact absurd h (by simp)
  | some bytes =>
    rw [hbytes] at h
    simp only at h
    cases hparsed : VersionedTransaction.fromBytes bytes with
    | error e =>
      rw [hparsed] at h
      exact absurd h (by simp)
    | ok tx' =>
      rw [hparsed] at h
      -- the checks that follow return the transaction itself
      have htx : tx' = tx := by
        simp only at h
        split at h
        · exact absurd h (by simp)
        · split at h
          · exact absurd h (by simp)
          · split at h
            · exact absurd h (by simp)
            · split at h
              · exact absurd h (by simp)
              · split at h
                · exact absurd h (by simp)
                · exact Except.ok.inj h
      subst htx
      exact ⟨bytes, rfl, fromBytes_layout hparsed⟩

/-- How many bytes the count of the signatures takes in the transaction a text spells. -/
def countLength (base64Tx : String) : ℕ :=
  compactLength ((base64Decode (textBytes base64Tx)).getD [])

theorem replayKey_injective : Function.Injective replayKey := by
  intro s s' h
  unfold replayKey at h
  exact (String.append_right_inj _).1 h

/-- Two accepted texts of one transaction are recorded under the same replay key if and only if
they write the number of signatures in equally many bytes. The key in the memory of the process
is the text, the one in Redis has it behind a fixed word. -/
theorem replayKey_eq_iff (ed : Ed25519) (s₁ s₂ : String) (tx₁ tx₂ : VersionedTransaction)
    (h₁ : decodeAndValidateTransaction ed s₁ = .ok tx₁)
    (h₂ : decodeAndValidateTransaction ed s₂ = .ok tx₂)
    (hsignatures : tx₁.signatures = tx₂.signatures)
    (hmessage : tx₁.messageBytes = tx₂.messageBytes) :
    (replayKey s₁ = replayKey s₂ ↔ countLength s₁ = countLength s₂) ∧
      (s₁ = s₂ ↔ countLength s₁ = countLength s₂) := by
  obtain ⟨bytes₁, hbytes₁, hlayout₁⟩ := decodeAndValidate_ok h₁
  obtain ⟨bytes₂, hbytes₂, hlayout₂⟩ := decodeAndValidate_ok h₂
  have htx : tx₁ = tx₂ := by
    obtain ⟨signatures, message⟩ := tx₁
    obtain ⟨signatures', message'⟩ := tx₂
    simp only at hsignatures hmessage
    rw [hsignatures, hmessage]
  subst htx
  have htext : s₁ = s₂ ↔ countLength s₁ = countLength s₂ := by
    constructor
    · rintro rfl
      rfl
    · intro hlen
      unfold countLength at hlen
      rw [hbytes₁, hbytes₂] at hlen
      -- equally long counts make the bytes equal, and base64 is canonical
      have hbytes : bytes₁ = bytes₂ := hlayout₁.data_eq hlayout₂ hlen
      subst hbytes
      exact base64_text_injective hbytes₁ hbytes₂
  exact ⟨replayKey_injective.eq_iff.trans htext, htext⟩

/-! ### One transaction, two keys -/

/-- A public key, a message of two accounts and no instruction that its holder signed, and the
signature. -/
def samplePubkey : Pubkey := #v[
  215, 90, 152, 1, 130, 177, 10, 183, 213, 75, 254, 211, 201, 100, 7, 58, 14, 225, 114, 243, 218,
  166, 35, 37, 175, 2, 26, 104, 247, 7, 81, 26]

def sampleMessage : List UInt8 :=
  [1, 0, 1, 2] ++ samplePubkey.toList ++ List.replicate 32 0 ++ List.replicate 32 7 ++ [0]

def sampleSignature : Signature := #v[
  251, 81, 122, 120, 84, 28, 103, 65, 72, 121, 203, 87, 73, 240, 130, 157, 64, 95, 183, 31, 239,
  2, 255, 47, 247, 25, 207, 78, 100, 182, 114, 34, 52, 238, 117, 92, 104, 109, 97, 134, 98, 12,
  133, 121, 3, 173, 111, 90, 173, 26, 51, 216, 160, 196, 255, 73, 180, 57, 34, 176, 108, 26, 4,
  7]

/-- The signature library on this signature. -/
def sampleEd25519 : Ed25519 where
  verifyingKey key := if key = samplePubkey then .ok () else .error "signature error"
  verify key message signature :=
    if key = samplePubkey ∧ message = sampleMessage ∧ signature = sampleSignature then .ok ()
    else .error "signature error"

/-- The transaction, with its count of one signature in one byte. -/
def sampleTx : String :=
  "AftRenhUHGdBSHnLV0nwgp1AX7cf7wL/L/cZz05ktnIiNO51XGhtYYZiDIV5A61vWq0aM9igxP9JtDkisGwaBAcBAAEC" ++
  "11qYAYKxCrfVS/7TyWQHOg7hcvPapiMlrwIaaPcHURoAAAAAAAAAAAAAAAAAAAAAAAAAAAAAAAAAAAAAAAAAAAcHBwcH" ++
  "BwcHBwcHBwcHBwcHBwcHBwcHBwcHBwcHBwcHAA=="

/-- The same transaction, with the count in two bytes, `81 00`. -/
def recodedTx : String :=
  "gQD7UXp4VBxnQUh5y1dJ8IKdQF+3H+8C/y/3Gc9OZLZyIjTudVxobWGGYgyFeQOtb1qtGjPYoMT/SbQ5IrBsGgQHAQAB" ++
  "AtdamAGCsQq31Uv+08lkBzoO4XLz2qYjJa8CGmj3B1EaAAAAAAAAAAAAAAAAAAAAAAAAAAAAAAAAAAAAAAAAAAAHBwcH" ++
  "BwcHBwcHBwcHBwcHBwcHBwcHBwcHBwcHBwcHBwA="

theorem sampleTx_ok : decodeAndValidateTransaction sampleEd25519 sampleTx =
    .ok ⟨[sampleSignature], sampleMessage⟩ := by
  decide +kernel

theorem recodedTx_ok : decodeAndValidateTransaction sampleEd25519 recodedTx =
    .ok ⟨[sampleSignature], sampleMessage⟩ := by
  decide +kernel

theorem replayKey_eq_sample :
    (replayKey sampleTx = replayKey recodedTx ↔ countLength sampleTx = countLength recodedTx) ∧
      (sampleTx = recodedTx ↔ countLength sampleTx = countLength recodedTx) :=
  replayKey_eq_iff sampleEd25519 sampleTx recodedTx _ _ sampleTx_ok recodedTx_ok rfl rfl

/-- Both texts are accepted as the same transaction, under different replay keys. -/
theorem recodedTx_second_key :
    decodeAndValidateTransaction sampleEd25519 sampleTx =
      decodeAndValidateTransaction sampleEd25519 recodedTx ∧
    decodeAndValidateTransaction sampleEd25519 sampleTx =
      .ok ⟨[sampleSignature], sampleMessage⟩ ∧
    replayKey sampleTx ≠ replayKey recodedTx := by
  refine ⟨sampleTx_ok.trans recodedTx_ok.symm, sampleTx_ok, ?_⟩
  decide +kernel

end Solvela.Payment
