import Mathlib.Data.List.TakeWhile
import Mathlib.Data.Nat.Digits.Lemmas
import Solvela.Ledger.Pubkey

/-!
# One base58 text for each key

The leading `1`s of an address are its leading zero bytes and the rest are the digits of a number
without a leading zero, so an address text is determined by the key it decodes to.
-/

namespace Solvela.ChannelLedger

/-- The base58 alphabet. -/
def bs58Alphabet : List UInt8 :=
  textBytes "123456789ABCDEFGHJKLMNPQRSTUVWXYZabcdefghijkmnopqrstuvwxyz"

/-- The character of a digit. -/
def bs58Char (d : ℕ) : UInt8 := bs58Alphabet.getD d 0

/-- A character of the alphabet and its digit determine each other, and only `1` is zero. -/
theorem bs58Digit_spec {b : UInt8} {d : ℕ} (h : bs58Digit b = some d) :
    bs58Char d = b ∧ d < 58 ∧ (d = 0 ↔ (b.toNat == '1'.toNat) = true) := by
  have hall : ∀ n < 256, ∀ d ∈ bs58Digit (UInt8.ofNat n),
      bs58Char d = UInt8.ofNat n ∧ d < 58 ∧
        (d = 0 ↔ ((UInt8.ofNat n).toNat == '1'.toNat) = true) := by
    decide +kernel
  have hb := hall b.toNat b.toNat_lt d
  rw [UInt8.ofNat_toNat] at hb
  exact hb h

/-- A text that denotes a number has a digit for each character. -/
theorem bs58Value_spec {s : List UInt8} {a n : ℕ}
    (h : s.foldlM (fun n b => (bs58Digit b).map (n * 58 + ·)) a = some n) :
    ∃ ds : List ℕ, s = ds.map bs58Char ∧ (∀ d ∈ ds, d < 58) ∧
      (s.takeWhile fun b => b.toNat == '1'.toNat).length =
        (ds.takeWhile fun d => d == 0).length ∧
      n = a * 58 ^ ds.length + Nat.ofDigits 58 ds.reverse := by
  induction s generalizing a with
  | nil =>
    have hn : a = n := Option.some.inj h
    exact ⟨[], rfl, by simp, rfl, by simp [hn]⟩
  | cons b s ih =>
    rw [List.foldlM_cons] at h
    obtain ⟨a', ha', hrest⟩ := Option.bind_eq_some_iff.mp h
    obtain ⟨d, hd, rfl⟩ := Option.map_eq_some_iff.mp ha'
    obtain ⟨hchar, hlt, hzero⟩ := bs58Digit_spec hd
    obtain ⟨ds, hs, hds, hlead, hn⟩ := ih hrest
    refine ⟨d :: ds, ?_, ?_, ?_, ?_⟩
    · rw [List.map_cons, hchar, hs]
    · intro e he
      rcases List.mem_cons.mp he with rfl | he
      · exact hlt
      · exact hds e he
    -- a leading one is a leading zero
    · by_cases hb : (b.toNat == '1'.toNat) = true
      · have hd0 : (d == 0) = true := by simpa using hzero.mpr hb
        rw [List.takeWhile_cons, if_pos hb, List.takeWhile_cons, if_pos hd0, List.length_cons,
          List.length_cons, hlead]
      · have hd0 : ¬ (d == 0) = true := by simpa using fun h => hb (hzero.mp h)
        rw [List.takeWhile_cons, if_neg hb, List.takeWhile_cons, if_neg hd0]
        rfl
    · rw [hn, List.reverse_cons, Nat.ofDigits_append, Nat.ofDigits_singleton, List.length_reverse,
        List.length_cons]
      ring

/-- The digits of a number, from the most significant one on, with leading zeros. -/
theorem digits_of_leading {ds : List ℕ} (hds : ∀ d ∈ ds, d < 58) :
    ds = List.replicate (ds.takeWhile fun d => d == 0).length 0 ++
      (Nat.digits 58 (Nat.ofDigits 58 ds.reverse)).reverse := by
  have hzeros : ds.takeWhile (fun d => d == 0) =
      List.replicate (ds.takeWhile fun d => d == 0).length 0 := by
    apply List.eq_replicate_of_mem
    intro d hd
    simpa using List.mem_takeWhile_imp hd
  have hsplit : ds = ds.takeWhile (fun d => d == 0) ++ ds.dropWhile (fun d => d == 0) :=
    (List.takeWhile_append_dropWhile ..).symm
  have hvalue : Nat.ofDigits 58 ds.reverse =
      Nat.ofDigits 58 (ds.dropWhile fun d => d == 0).reverse := by
    conv_lhs => rw [hsplit, List.reverse_append, hzeros, List.reverse_replicate]
    rw [Nat.ofDigits_append_replicate_zero]
  -- the first digit behind the zeros is not zero, so the number has as many digits
  have hlast : ∀ h : (ds.dropWhile fun d => d == 0).reverse ≠ [],
      (ds.dropWhile fun d => d == 0).reverse.getLast h ≠ 0 := by
    intro h
    rw [List.getLast_reverse]
    have hhead := List.head_dropWhile_not (fun d => d == 0) (by simpa using h)
    simpa using hhead
  have hdigits : Nat.digits 58 (Nat.ofDigits 58 ds.reverse) =
      (ds.dropWhile fun d => d == 0).reverse := by
    rw [hvalue]
    apply Nat.digits_ofDigits 58 (by norm_num)
    · intro d hd
      exact hds d ((List.dropWhile_sublist _).mem (List.mem_reverse.mp hd))
    · exact hlast
  rw [hdigits, List.reverse_reverse]
  conv_lhs => rw [hsplit]
  rw [← hzeros]

/-- Numbers with the same bytes are the same. -/
theorem eq_of_bytes_eq {k n n' : ℕ} (hn : n < 256 ^ k) (hn' : n' < 256 ^ k)
    (h : ∀ i < k, n / 256 ^ i % 256 = n' / 256 ^ i % 256) : n = n' := by
  induction k generalizing n n' with
  | zero => omega
  | succ k ih =>
    have hlow : n % 256 = n' % 256 := by simpa using h 0 (by omega)
    have hhigh : n / 256 = n' / 256 := by
      apply ih
      · rw [pow_succ] at hn
        omega
      · rw [pow_succ] at hn'
        omega
      · intro i hi
        have hi' := h (i + 1) (by omega)
        rw [pow_succ, mul_comm, ← Nat.div_div_eq_div_mul, ← Nat.div_div_eq_div_mul] at hi'
        exact hi'
    omega

/-- A number of at most `k` bytes. -/
theorem lt_of_byteLength_le {n k : ℕ} (h : byteLength n ≤ k) : n < 256 ^ k := by
  unfold byteLength at h
  split at h
  · rename_i hzero
    rw [hzero]
    exact Nat.pow_pos (by norm_num)
  · rename_i hne
    have hlog : Nat.log2 n < 8 * k := by omega
    have hlt : n < 2 ^ (8 * k) := (Nat.log2_lt hne).mp hlog
    rwa [pow_mul] at hlt

/-- Two address texts of one key are the same text. -/
theorem decodeBs58Pubkey_injective {s s' : String} {key : Pubkey}
    (h : decodeBs58Pubkey s = some key) (h' : decodeBs58Pubkey s' = some key) : s = s' := by
  unfold decodeBs58Pubkey at h h'
  obtain ⟨n, hn, h⟩ := Option.bind_eq_some_iff.mp h
  obtain ⟨n', hn', h'⟩ := Option.bind_eq_some_iff.mp h'
  dsimp only at h h'
  split at h
  · split at h'
    · rename_i hlen hlen'
      have hkeys := (Option.some.inj h).trans (Option.some.inj h').symm
      -- 32 bytes tell the number
      have hnum : n = n' := by
        apply eq_of_bytes_eq (k := 32)
        · exact lt_of_byteLength_le (by omega)
        · exact lt_of_byteLength_le (by omega)
        · intro i hi
          have hi' := congrArg (fun v : Pubkey => v[31 - i]) hkeys
          simp only [Vector.getElem_ofFn] at hi'
          have hbyte := congrArg UInt8.toNat hi'
          have hexp : 31 - (31 - i) = i := by omega
          simpa [UInt8.toNat_ofNat', hexp] using hbyte
      obtain ⟨ds, hs, hds, hlead, hvalue⟩ := bs58Value_spec hn
      obtain ⟨ds', hs', hds', hlead', hvalue'⟩ := bs58Value_spec hn'
      rw [Nat.zero_mul, Nat.zero_add] at hvalue hvalue'
      -- the leading ones and the number tell the digits
      have hdigits : ds = ds' := by
        rw [digits_of_leading hds, digits_of_leading hds', ← hvalue, ← hvalue', ← hlead, ← hlead',
          hnum]
        rw [hnum] at hlen
        congr 2
        omega
      apply textBytes_injective
      rw [hs, hs', hdigits]
    · exact absurd h' (by simp)
  · exact absurd h (by simp)

end Solvela.ChannelLedger
