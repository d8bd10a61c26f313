import Solvela.Channel.Voucher

/-!
# Texts and bytes on the client's side

`Buffer.toString('base64')`, and that the gateway's decoder reads it back; the UTF-8 of a text,
and that it is read back too.
-/

namespace Solvela.Signer

open Solvela.ChannelLedger Solvela.Channel

/-! ## Texts -/

/-- `String::from_utf8`. -/
def fromUtf8 (bytes : List UInt8) : Option String := String.fromUTF8? ⟨bytes.toArray⟩

theorem fromUtf8_textBytes (s : String) : fromUtf8 (textBytes s) = some s := by
  have hbytes : (⟨(textBytes s).toArray⟩ : ByteArray) = s.toByteArray := rfl
  rw [fromUtf8, hbytes, String.fromUTF8?, dif_pos s.isValidUTF8]
  rfl

/-- The text of ASCII bytes. -/
def asciiText (bytes : List UInt8) : String :=
  String.ofList (bytes.map fun b => Char.ofNat b.toNat)

theorem textBytes_eq_flatMap (s : String) :
    textBytes s = s.toList.flatMap String.utf8EncodeChar := by
  show s.toByteArray.data.toList = _
  rw [← String.utf8Encode_toList, List.utf8Encode]
  simp

theorem utf8_ascii {b : UInt8} (h : b.toNat < 128) :
    String.utf8EncodeChar (Char.ofNat b.toNat) = [b] := by
  have hall : ∀ n < 128, String.utf8EncodeChar (Char.ofNat n) = [UInt8.ofNat n] := by decide
  rw [hall b.toNat h, UInt8.ofNat_toNat]

theorem textBytes_asciiText {bytes : List UInt8} (h : ∀ b ∈ bytes, b.toNat < 128) :
    textBytes (asciiText bytes) = bytes := by
  rw [textBytes_eq_flatMap, asciiText, String.toList_ofList]
  induction bytes with
  | nil => rfl
  | cons b bytes ih =>
    have hb := h b (List.mem_cons_self ..)
    have hrest := ih fun c hc => h c (List.mem_cons_of_mem b hc)
    rw [List.map_cons, List.flatMap_cons, utf8_ascii hb, hrest]
    rfl

/-! ## Base64 -/

/-- The character of six bits. -/
def base64Char (n : ℕ) : UInt8 :=
  if n < 26 then UInt8.ofNat ('A'.toNat + n)
  else if n < 52 then UInt8.ofNat ('a'.toNat + (n - 26))
  else if n < 62 then UInt8.ofNat ('0'.toNat + (n - 52))
  else if n = 62 then UInt8.ofNat '+'.toNat
  else UInt8.ofNat '/'.toNat

/-- The padding character. -/
def padChar : UInt8 := UInt8.ofNat base64Pad

/-- The characters of standard base64, three bytes at a time. -/
def base64Chars : List UInt8 → List UInt8
  | [] => []
  | [a] => [base64Char (a.toNat / 4), base64Char (a.toNat % 4 * 16), padChar, padChar]
  | [a, b] =>
    [base64Char (a.toNat / 4), base64Char (a.toNat % 4 * 16 + b.toNat / 16),
      base64Char (b.toNat % 16 * 4), padChar]
  | a :: b :: c :: rest =>
    base64Char (a.toNat / 4) :: base64Char (a.toNat % 4 * 16 + b.toNat / 16) ::
      base64Char (b.toNat % 16 * 4 + c.toNat / 64) :: base64Char (c.toNat % 64) ::
        base64Chars rest

/-- `Buffer.toString('base64')`. -/
def base64Encode (bytes : List UInt8) : String := asciiText (base64Chars bytes)

theorem base64Digit_char {n : ℕ} (h : n < 64) : base64Digit (base64Char n) = some n := by
  have hall : ∀ n < 64, base64Digit (base64Char n) = some n := by decide
  exact hall n h

theorem base64Char_ne_pad {n : ℕ} (h : n < 64) : (base64Char n).toNat ≠ base64Pad := by
  have hall : ∀ n < 64, (base64Char n).toNat ≠ base64Pad := by decide
  exact hall n h

theorem padChar_toNat : padChar.toNat = base64Pad := by decide

/-- What holds of the alphabet holds of every character. -/
theorem base64Chars_forall {P : UInt8 → Prop} (hchar : ∀ n < 64, P (base64Char n))
    (hpad : P padChar) (bytes : List UInt8) : ∀ b ∈ base64Chars bytes, P b := by
  have hall (n : ℕ) : P (base64Char n) := by
    by_cases h : n < 64
    · exact hchar n h
    · have h₁ : ¬ n < 26 := by omega
      have h₂ : ¬ n < 52 := by omega
      have h₃ : ¬ n < 62 := by omega
      have h₄ : ¬ n = 62 := by omega
      rw [base64Char, if_neg h₁, if_neg h₂, if_neg h₃, if_neg h₄]
      exact hchar 63 (by omega)
  induction bytes using base64Chars.induct with
  | case1 => simp [base64Chars]
  | case2 a => simp [base64Chars, hall, hpad]
  | case3 a b => simp [base64Chars, hall, hpad]
  | case4 a b c rest ih => simpa [base64Chars, hall] using ih

/-- No character is beyond `z`, and none belongs to the URL-safe alphabet alone. -/
theorem base64Chars_alphabet (bytes : List UInt8) :
    ∀ b ∈ base64Chars bytes, b.toNat < 123 ∧ b.toNat ≠ '-'.toNat ∧ b.toNat ≠ '_'.toNat := by
  apply base64Chars_forall
  · decide
  · decide

theorem base64Chars_lt (bytes : List UInt8) : ∀ b ∈ base64Chars bytes, b.toNat < 128 := by
  intro b hb
  have hlt := (base64Chars_alphabet bytes b hb).1
  omega

theorem ofNat_eq {b : UInt8} {n : ℕ} (h : n = b.toNat) : UInt8.ofNat n = b := by
  rw [h, UInt8.ofNat_toNat]

/-- A full last group. -/
theorem base64Last_full (a b c : UInt8) :
    base64Last (base64Char (a.toNat / 4)) (base64Char (a.toNat % 4 * 16 + b.toNat / 16))
      (base64Char (b.toNat % 16 * 4 + c.toNat / 64)) (base64Char (c.toNat % 64)) =
        some [a, b, c] := by
  have ha := a.toNat_lt
  have hb := b.toNat_lt
  have hc := c.toNat_lt
  have hx : a.toNat / 4 < 64 := by omega
  have hy : a.toNat % 4 * 16 + b.toNat / 16 < 64 := by omega
  have hz : b.toNat % 16 * 4 + c.toNat / 64 < 64 := by omega
  have hw : c.toNat % 64 < 64 := by omega
  simp only [base64Last, base64Digit_char hx, base64Digit_char hy, base64Digit_char hz,
    base64Digit_char hw, if_neg (base64Char_ne_pad hw), Option.bind_eq_bind, Option.bind_some]
  rw [ofNat_eq (b := a) (by omega), ofNat_eq (b := b) (by omega), ofNat_eq (b := c) (by omega)]

theorem base64Decode_chars (bytes : List UInt8) :
    base64Decode (base64Chars bytes) = some bytes := by
  induction bytes using base64Chars.induct with
  | case1 => rfl
  | case2 a =>
    have ha := a.toNat_lt
    have hx : a.toNat / 4 < 64 := by omega
    have hy : a.toNat % 4 * 16 < 64 := by omega
    have hzero : a.toNat % 4 * 16 % 16 = 0 := by omega
    simp only [base64Chars, base64Decode, base64Last, base64Digit_char hx, base64Digit_char hy,
      padChar_toNat, if_pos, hzero, Option.bind_eq_bind, Option.bind_some]
    rw [ofNat_eq (b := a) (by omega)]
  | case3 a b =>
    have ha := a.toNat_lt
    have hb := b.toNat_lt
    have hx : a.toNat / 4 < 64 := by omega
    have hy : a.toNat % 4 * 16 + b.toNat / 16 < 64 := by omega
    have hz : b.toNat % 16 * 4 < 64 := by omega
    have hzero : b.toNat % 16 * 4 % 4 = 0 := by omega
    simp only [base64Chars, base64Decode, base64Last, base64Digit_char hx, base64Digit_char hy,
      base64Digit_char hz, padChar_toNat, if_pos, if_neg (base64Char_ne_pad hz), hzero,
      Option.bind_eq_bind, Option.bind_some]
    rw [ofNat_eq (b := a) (by omega), ofNat_eq (b := b) (by omega)]
  | case4 a b c rest ih =>
    cases hrest : base64Chars rest with
    | nil =>
      -- the group is the last one
      rw [hrest] at ih
      have hnil := Option.some.inj ih
      rw [base64Chars, hrest, ← hnil]
      exact base64Last_full a b c
    | cons d tail =>
      have ha := a.toNat_lt
      have hb := b.toNat_lt
      have hc := c.toNat_lt
      have hx : a.toNat / 4 < 64 := by omega
      have hy : a.toNat % 4 * 16 + b.toNat / 16 < 64 := by omega
      have hz : b.toNat % 16 * 4 + c.toNat / 64 < 64 := by omega
      have hw : c.toNat % 64 < 64 := by omega
      rw [hrest] at ih
      simp only [base64Chars, hrest, base64Decode, base64Digit_char hx, base64Digit_char hy,
        base64Digit_char hz, base64Digit_char hw, ih, Option.bind_eq_bind, Option.bind_some]
      rw [ofNat_eq (b := a) (by omega), ofNat_eq (b := b) (by omega),
        ofNat_eq (b := c) (by omega)]

theorem base64Encode_eq {bytes : List UInt8} {s : String} (h : base64Chars bytes = textBytes s) :
    base64Encode bytes = s := by
  apply textBytes_injective
  rw [base64Encode, textBytes_asciiText (base64Chars_lt bytes), h]

/-- The gateway reads the client's base64 back. -/
theorem base64Decode_encode (bytes : List UInt8) :
    base64Decode (textBytes (base64Encode bytes)) = some bytes := by
  rw [base64Encode, textBytes_asciiText (base64Chars_lt bytes), base64Decode_chars]

/-- The bytes of a fixed-size array are that many bytes. -/
theorem exactBytes_toList {n : ℕ} (v : Vector UInt8 n) : exactBytes n v.toList = some v := by
  rw [exactBytes, dif_pos (by simp)]
  congr 1

end Solvela.Signer
