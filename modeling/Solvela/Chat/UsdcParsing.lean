import Mathlib.Algebra.Order.Floor.Semifield
import Mathlib.Tactic.FieldSimp
import Solvela.Channel.TrackerTheorems
import Solvela.Chat.Cost
import Solvela.Lib.Traverse
import Solvela.Protocol.Vision

/-!
# USDC amounts as strings

`usdc_atomic_amount_checked` on every string: it trims the text, splits it at the first point,
parses the integer part as a `u64`, pads the fraction with zeros to six characters, cuts it behind
six bytes and parses that as a `u64` too. A cut inside a character panics.

What it reads of a plain text is the value rounded down to micro-USDC. The parser of the standard
library takes a sign, and what stands behind six fraction digits is never looked at.

`Chat.Cost` knows a printed price as a number of micro-USDC, and converts that: the parser reads the
same from the texts that are printed (`usdcAtomicAmountChecked_printed`).
-/

namespace Solvela.Chat.Parsing

open Solvela.ChannelLedger (u64Max)
open Solvela.Client (isDigits digitsValue)
open Solvela.Lib (except_bind_error)
open Solvela.Lib.Txn (except_bind_ok)
open Solvela.Protocol (trim)
open Solvela.Tracker (digitsValue_toString isDigits_toString)

/-! ## The code -/

/-- `ParseIntError`. -/
inductive ParseIntError
  | empty
  | invalidDigit
  | posOverflow
deriving DecidableEq

/-- Its `Display`. -/
def ParseIntError.display : ParseIntError → String
  | .empty => "cannot parse integer from empty string"
  | .invalidDigit => "invalid digit found in string"
  | .posOverflow => "number too large to fit in target type"

/-- A digit behind a number. -/
def pushDigit (value : ℕ) (c : Char) : ℕ := value * 10 + (c.toNat - '0'.toNat)

/-- The loop of `parse::<u64>` over the digits. -/
def parseDigits (value : ℕ) : List Char → Except ParseIntError ℕ
  | [] => .ok value
  | c :: digits =>
    if c.isDigit = false then .error .invalidDigit
    else if pushDigit value c > u64Max then .error .posOverflow
    else parseDigits (pushDigit value c) digits

/-- `str::parse::<u64>`: a plus sign is taken. -/
def parseU64 (text : List Char) : Except ParseIntError ℕ :=
  if text = [] then .error .empty
  else if text = ['+'] ∨ text = ['-'] then .error .invalidDigit
  else if text.head? = some '+' then parseDigits 0 text.tail
  else parseDigits 0 text

/-- `&text[..n]`, where byte `n` is the boundary of a character. -/
def sliceTo (n : ℕ) : List Char → Option (List Char)
  | [] => if n = 0 then some [] else none
  | c :: text =>
    if n = 0 then some []
    else if c.utf8Size ≤ n then (sliceTo (n - c.utf8Size) text).map (c :: ·)
    else none

/-- The text before the first point, or the whole text. -/
def integerPart (text : List Char) : List Char := text.takeWhile (· ≠ '.')

/-- The text behind the first point, or nothing. -/
def fractionalPart (text : List Char) : List Char := (text.drop (integerPart text).length).drop 1

/-- `format!("{:0<6}", ..)`: it counts characters. -/
def padded (fraction : List Char) : List Char :=
  fraction ++ List.replicate (6 - fraction.length) '0'

/-- How a call ends without an amount. -/
inductive UsdcStop
  | error (message : String)
  | notACharBoundary
deriving DecidableEq

/-- What a part that is no number is refused with. -/
def invalidPart (part : String) (text : List Char) (e : ParseIntError) : String :=
  "invalid USDC " ++ part ++ " part '" ++ String.ofList text ++ "': " ++ e.display

/-- What an amount beyond `u64` is refused with. -/
def overflowText (decimalStr : String) : String :=
  "USDC amount '" ++ decimalStr ++ "' overflows u64 atomic units (max ≈ " ++
    toString (u64Max / 1000000) ++ " USDC)"

/-- A part, parsed. -/
def parsePart (part : String) (text : List Char) : Except UsdcStop ℕ :=
  (parseU64 text).mapError fun e => .error (invalidPart part text e)

/-- The first six bytes of the padded fraction. -/
def cutFraction (fraction : List Char) : Except UsdcStop (List Char) :=
  match sliceTo 6 (padded fraction) with
  | none => .error .notACharBoundary
  | some frac6 => .ok frac6

/-- `checked_mul` and `checked_add`. -/
def checkedAtomic (decimalStr : String) (integer fractional : ℕ) : Except UsdcStop ℕ :=
  if integer * 1000000 > u64Max then .error (.error (overflowText decimalStr))
  else if integer * 1000000 + fractional > u64Max then .error (.error (overflowText decimalStr))
  else .ok (integer * 1000000 + fractional)

/-- `usdc_atomic_amount_checked` behind the trimming. -/
def atomicAmount (decimalStr : String) (s : List Char) : Except UsdcStop ℕ :=
  if s.isEmpty then .error (.error "empty USDC amount string")
  else do
    let integer ← parsePart "integer" (integerPart s)
    let frac6 ← cutFraction (fractionalPart s)
    let fractional ← parsePart "fractional" frac6
    checkedAtomic decimalStr integer fractional

/-- `usdc_atomic_amount_checked`. -/
def usdcAtomicAmountChecked (decimalStr : String) : Except UsdcStop String :=
  (atomicAmount decimalStr (trim decimalStr.toList)).map toString

/-! ## Integers -/

theorem digitsValue_eq (digits : List Char) : digitsValue digits = digits.foldl pushDigit 0 := rfl

theorem le_foldl_pushDigit (value : ℕ) (digits : List Char) :
    value ≤ digits.foldl pushDigit value := by
  induction digits generalizing value with
  | nil => exact le_rfl
  | cons c digits ih =>
    have hpush : value ≤ pushDigit value c := by
      unfold pushDigit
      omega
    exact hpush.trans (ih (pushDigit value c))

theorem parseDigits_ok_iff {value n : ℕ} (hvalue : value ≤ u64Max) (digits : List Char) :
    parseDigits value digits = .ok n ↔
      digits.all Char.isDigit = true ∧ digits.foldl pushDigit value = n ∧ n ≤ u64Max := by
  induction digits generalizing value with
  | nil =>
    show Except.ok value = .ok n ↔ true = true ∧ value = n ∧ n ≤ u64Max
    rw [Except.ok.injEq]
    constructor
    · intro h
      exact ⟨rfl, h, h ▸ hvalue⟩
    · exact fun h => h.2.1
  | cons c digits ih =>
    rw [parseDigits, List.all_cons, List.foldl_cons]
    by_cases hdigit : c.isDigit = false
    · rw [if_pos hdigit, hdigit]
      simp
    · rw [if_neg hdigit, Bool.not_eq_false] at *
      by_cases hover : pushDigit value c > u64Max
      · -- the number only grows with the digits behind
        have hgrows := le_foldl_pushDigit (pushDigit value c) digits
        rw [if_pos hover]
        constructor
        · intro h
          cases h
        · rintro ⟨-, hn, hmax⟩
          omega
      · rw [if_neg hover, ih (Nat.le_of_not_lt hover), hdigit, Bool.true_and]

/-- No digits behind a plus sign. -/
def Unsigned (text : List Char) : Prop := text.head? = some '+' → isDigits text.tail = false

instance (text : List Char) : Decidable (Unsigned text) :=
  inferInstanceAs (Decidable (_ → _))

/-- Without a sign `parse::<u64>` reads digits. -/
theorem parseU64_ok_iff {text : List Char} (hsign : Unsigned text) {n : ℕ} :
    parseU64 text = .ok n ↔ isDigits text = true ∧ digitsValue text = n ∧ n ≤ u64Max := by
  have hdigits : ∀ text : List Char, text ≠ [] → isDigits text = text.all Char.isDigit := by
    intro text hne
    unfold isDigits
    simp only [ne_eq, hne, not_false_eq_true, true_and, Bool.decide_eq_true]
  unfold parseU64
  by_cases hempty : text = []
  · subst hempty
    simp [isDigits]
  · rw [if_neg hempty]
    by_cases hbare : text = ['+'] ∨ text = ['-']
    · have hnone : isDigits text = false := by
        rcases hbare with h | h
        · rw [h]
          rfl
        · rw [h]
          rfl
      rw [if_pos hbare, hnone]
      constructor
      · intro h
        cases h
      · rintro ⟨h, -⟩
        cases h
    · rw [if_neg hbare]
      by_cases hplus : text.head? = some '+'
      · obtain ⟨rest, hrest⟩ := List.head?_eq_some_iff.mp hplus
        -- behind a plus sign there are no digits
        have htail : rest.all Char.isDigit = false := by
          have hne : rest ≠ [] := by
            intro hnil
            rw [hnil] at hrest
            exact hbare (Or.inl hrest)
          have hunsigned := hsign hplus
          rw [hrest, List.tail_cons, hdigits rest hne] at hunsigned
          exact hunsigned
        rw [if_pos hplus, hrest, List.tail_cons, parseDigits_ok_iff (Nat.zero_le _), htail,
          hdigits _ (List.cons_ne_nil _ _), List.all_cons]
        constructor
        · rintro ⟨h, -⟩
          cases h
        · rintro ⟨h, -⟩
          cases h
      · rw [if_neg hplus, parseDigits_ok_iff (Nat.zero_le _), hdigits text hempty, digitsValue_eq]

/-! ## The first six bytes -/

theorem utf8Size_of_isDigit {c : Char} (h : c.isDigit = true) : c.utf8Size = 1 := by
  rw [Char.isDigit, Bool.and_eq_true, decide_eq_true_eq, decide_eq_true_eq] at h
  apply Char.utf8Size_eq_one_iff.mpr
  have hhigh := UInt32.le_iff_toNat_le.mp h.2
  apply UInt32.le_iff_toNat_le.mpr
  exact hhigh.trans (by decide)

/-- Digits are cut where they are counted. -/
theorem sliceTo_digits {n : ℕ} {text : List Char} (h : text.all Char.isDigit = true)
    (hn : n ≤ text.length) : sliceTo n text = some (text.take n) := by
  induction text generalizing n with
  | nil =>
    rw [Nat.le_zero.mp hn]
    rfl
  | cons c text ih =>
    rw [List.all_cons, Bool.and_eq_true] at h
    rw [List.length_cons] at hn
    have hsize := utf8Size_of_isDigit h.1
    cases n with
    | zero => rfl
    | succ n =>
      have hrest := ih h.2 (Nat.le_of_succ_le_succ hn)
      rw [sliceTo, if_neg (Nat.succ_ne_zero n), hsize, if_pos (by omega), Nat.add_sub_cancel, hrest]
      rfl

/-- A cut of characters of one byte has as many of them as bytes. -/
theorem sliceTo_eq_take {n : ℕ} {text cut : List Char} (h : sliceTo n text = some cut)
    (hcut : ∀ c ∈ cut, c.utf8Size = 1) : cut = text.take n := by
  induction text generalizing n cut with
  | nil =>
    rw [sliceTo] at h
    split at h
    · cases h
      rw [List.take_nil]
    · cases h
  | cons c text ih =>
    rw [sliceTo] at h
    split at h
    · rename_i hzero
      cases h
      rw [hzero, List.take_zero]
    · rename_i hzero
      split at h
      · obtain ⟨rest, hrest, hcons⟩ := Option.map_eq_some_iff.mp h
        subst hcons
        obtain ⟨hsize, hsizes⟩ := List.forall_mem_cons.mp hcut
        obtain ⟨m, hm⟩ := Nat.exists_eq_succ_of_ne_zero hzero
        rw [hsize, hm, Nat.succ_sub_one] at hrest
        rw [hm, List.take_succ_cons, ih hrest hsizes]
      · cases h

theorem sizes_of_digits {digits : List Char} (h : digits.all Char.isDigit = true) :
    ∀ c ∈ digits, c.utf8Size = 1 :=
  fun c hc => utf8Size_of_isDigit (List.all_eq_true.mp h c hc)

theorem six_le_length_padded (fraction : List Char) : 6 ≤ (padded fraction).length := by
  unfold padded
  rw [List.length_append, List.length_replicate]
  omega

theorem all_isDigit_padded {fraction : List Char} (h : fraction.all Char.isDigit = true) :
    (padded fraction).all Char.isDigit = true := by
  unfold padded
  rw [List.all_append, h, Bool.true_and, List.all_eq_true]
  intro c hc
  rw [List.eq_of_mem_replicate hc]
  rfl

/-! ## Values -/

theorem foldl_pushDigit (value : ℕ) (digits : List Char) :
    digits.foldl pushDigit value = value * 10 ^ digits.length + digitsValue digits := by
  induction digits generalizing value with
  | nil => simp [digitsValue]
  | cons c digits ih =>
    rw [List.foldl_cons, ih, digitsValue_eq (c :: digits), List.foldl_cons, ih (pushDigit 0 c),
      List.length_cons, Nat.pow_succ]
    unfold pushDigit
    ring

theorem digitsValue_append (a b : List Char) :
    digitsValue (a ++ b) = digitsValue a * 10 ^ b.length + digitsValue b := by
  rw [digitsValue_eq (a ++ b), List.foldl_append, ← digitsValue_eq a, foldl_pushDigit]

theorem digitsValue_zeros (k : ℕ) : digitsValue (List.replicate k '0') = 0 := by
  induction k with
  | zero => rfl
  | succ k ih =>
    have hcons : List.replicate (k + 1) '0' = ['0'] ++ List.replicate k '0' := rfl
    rw [hcons, digitsValue_append, ih]
    show 0 * _ + 0 = 0
    omega

theorem digitsValue_lt {digits : List Char} (h : digits.all Char.isDigit = true) :
    digitsValue digits < 10 ^ digits.length := by
  induction digits with
  | nil => exact Nat.one_pos
  | cons c digits ih =>
    rw [List.all_cons, Bool.and_eq_true] at h
    have hcons : c :: digits = [c] ++ digits := rfl
    have hdigit : c.toNat - '0'.toNat ≤ 9 := by
      have hc := h.1
      rw [Char.isDigit, Bool.and_eq_true, decide_eq_true_eq, decide_eq_true_eq] at hc
      have hhigh : c.toNat ≤ 57 := UInt32.le_iff_toNat_le.mp hc.2
      show c.toNat - 48 ≤ 9
      omega
    have hfirst : digitsValue [c] = c.toNat - '0'.toNat := by
      show 0 * 10 + (c.toNat - '0'.toNat) = _
      omega
    have hscaled : (c.toNat - '0'.toNat) * 10 ^ digits.length ≤ 9 * 10 ^ digits.length :=
      Nat.mul_le_mul_right _ hdigit
    have hrest := ih h.2
    rw [hcons, digitsValue_append, hfirst, List.length_append, List.length_singleton, Nat.pow_add]
    omega

/-- The value of a decimal text. -/
def amountValue (integer fraction : List Char) : ℚ :=
  digitsValue integer + digitsValue fraction / 10 ^ fraction.length

/-- Six digits of a fraction are its value in micro-USDC, rounded down. -/
theorem digitsValue_take_padded {fraction : List Char} (h : fraction.all Char.isDigit = true) :
    digitsValue ((padded fraction).take 6) =
      ⌊(digitsValue fraction : ℚ) / 10 ^ fraction.length * 1000000⌋₊ := by
  have hlength : (padded fraction).length = fraction.length + (6 - fraction.length) := by
    unfold padded
    rw [List.length_append, List.length_replicate]
  have hpadded : digitsValue (padded fraction) =
      digitsValue fraction * 10 ^ (6 - fraction.length) := by
    unfold padded
    rw [digitsValue_append, digitsValue_zeros, List.length_replicate, Nat.add_zero]
  -- what stands behind six digits is less than one of them
  have hdrop : ((padded fraction).drop 6).all Char.isDigit = true := by
    rw [List.all_eq_true]
    intro c hc
    exact List.all_eq_true.mp (all_isDigit_padded h) c (List.mem_of_mem_drop hc)
  have hbehind := digitsValue_lt hdrop
  have hsplit : digitsValue (padded fraction) =
      digitsValue ((padded fraction).take 6) * 10 ^ ((padded fraction).drop 6).length +
        digitsValue ((padded fraction).drop 6) := by
    rw [← digitsValue_append, List.take_append_drop]
  have hdiv : digitsValue ((padded fraction).take 6) =
      digitsValue (padded fraction) / 10 ^ ((padded fraction).drop 6).length := by
    rw [hsplit, Nat.add_comm, Nat.add_mul_div_right _ _ (Nat.pow_pos (by norm_num)),
      Nat.div_eq_of_lt hbehind, Nat.zero_add]
  have hscale : (digitsValue fraction : ℚ) / 10 ^ fraction.length * 1000000 =
      ((digitsValue (padded fraction) : ℕ) : ℚ) /
        ((10 ^ ((padded fraction).drop 6).length : ℕ) : ℚ) := by
    rw [List.length_drop, hlength, hpadded]
    push_cast
    rw [div_mul_eq_mul_div, div_eq_div_iff (by positivity) (by positivity)]
    have hpow : (1000000 : ℚ) * 10 ^ (fraction.length + (6 - fraction.length) - 6) =
        10 ^ (6 - fraction.length) * 10 ^ fraction.length := by
      have hsix : (1000000 : ℚ) = 10 ^ 6 := by norm_num
      rw [hsix, ← pow_add, ← pow_add]
      congr 1
      omega
    rw [mul_assoc, hpow, mul_assoc]
  rw [hscale, Nat.floor_div_eq_div, hdiv]

/-! ## Splitting -/

/-- The text is an amount: digits, and perhaps a point with digits behind it or with nothing. -/
structure IsAmount (text integer fraction : List Char) : Prop where
  integerDigits : isDigits integer = true
  fractionDigits : fraction.all Char.isDigit = true
  split : text = integer ∧ fraction = [] ∨ text = integer ++ '.' :: fraction

theorem not_point_of_isDigit {c : Char} (h : c.isDigit = true) : c ≠ '.' := by
  intro hc
  rw [hc] at h
  cases h

theorem all_of_isDigits {text : List Char} (h : isDigits text = true) :
    text.all Char.isDigit = true := (of_decide_eq_true h).2

theorem takeWhile_digits {digits rest : List Char} (h : digits.all Char.isDigit = true) :
    integerPart (digits ++ '.' :: rest) = digits := by
  have hall : ∀ c ∈ digits, (c ≠ '.' : Bool) = true := by
    intro c hc
    exact decide_eq_true (not_point_of_isDigit (List.all_eq_true.mp h c hc))
  unfold integerPart
  rw [List.takeWhile_append_of_pos hall, List.takeWhile_cons_of_neg (by decide), List.append_nil]

theorem integerPart_digits {digits : List Char} (h : digits.all Char.isDigit = true) :
    integerPart digits = digits := by
  have hall : ∀ c ∈ digits, (c ≠ '.' : Bool) = true := by
    intro c hc
    exact decide_eq_true (not_point_of_isDigit (List.all_eq_true.mp h c hc))
  have htake := @List.takeWhile_append_of_pos _ _ digits [] hall
  rw [List.append_nil, List.takeWhile_nil, List.append_nil] at htake
  exact htake

/-- The text is its integer part, or has a point behind it. -/
theorem split_text (text : List Char) :
    text = integerPart text ∧ fractionalPart text = [] ∨
      text = integerPart text ++ '.' :: fractionalPart text := by
  have hjoin : integerPart text ++ text.dropWhile (· ≠ '.') = text :=
    List.takeWhile_append_dropWhile
  have hdrop : text.drop (integerPart text).length = text.dropWhile (· ≠ '.') := by
    have hsplit := congrArg (List.drop (integerPart text).length) hjoin
    rw [List.drop_left] at hsplit
    exact hsplit.symm
  unfold fractionalPart
  rw [hdrop]
  cases hrest : text.dropWhile (· ≠ '.') with
  | nil =>
    rw [hrest, List.append_nil] at hjoin
    exact Or.inl ⟨hjoin.symm, rfl⟩
  | cons c rest =>
    have hpoint : c = '.' := by
      have hhead := List.head?_dropWhile_not (· ≠ '.') text
      rw [hrest] at hhead
      simpa using hhead
    rw [hrest, hpoint] at hjoin
    exact Or.inr hjoin.symm

theorem isAmount_iff {text integer fraction : List Char} :
    IsAmount text integer fraction ↔ integer = integerPart text ∧ fraction = fractionalPart text ∧
      isDigits integer = true ∧ fraction.all Char.isDigit = true := by
  constructor
  · rintro ⟨hinteger, hfraction, hsplit⟩
    have hdigits := all_of_isDigits hinteger
    rcases hsplit with ⟨htext, hnil⟩ | htext
    · have hpart : integerPart text = integer := by rw [htext, integerPart_digits hdigits]
      have hbehind : fractionalPart text = [] := by
        unfold fractionalPart
        rw [hpart, htext, List.drop_length, List.drop_nil]
      exact ⟨hpart.symm, hnil.trans hbehind.symm, hinteger, hfraction⟩
    · have hpart : integerPart text = integer := by rw [htext, takeWhile_digits hdigits]
      have hbehind : fractionalPart text = fraction := by
        unfold fractionalPart
        rw [hpart, htext, List.drop_left]
        rfl
      exact ⟨hpart.symm, hbehind.symm, hinteger, hfraction⟩
  · rintro ⟨hpart, hbehind, hinteger, hfraction⟩
    refine ⟨hinteger, hfraction, ?_⟩
    rw [hpart, hbehind]
    exact split_text text

/-! ## Plain texts -/

/-- The fraction is plain: it does not start with a plus sign and digits, the cut behind its first
six bytes divides no character, and after six digits it goes on with digits. -/
structure PlainFraction (fraction : List Char) : Prop where
  sign : fraction.head? = some '+' → (fraction.take 6).tail.all Char.isDigit = false
  boundary : (sliceTo 6 (padded fraction)).isSome = true
  behind : (fraction.take 6).all Char.isDigit = true → fraction.all Char.isDigit = true

/-- The text is plain: there is no numeral behind a plus sign before its point, and behind a numeral
the fraction is plain. -/
structure Plain (text : List Char) : Prop where
  sign : Unsigned (integerPart text)
  fraction : isDigits (integerPart text) = true → PlainFraction (fractionalPart text)

instance (fraction : List Char) : Decidable (PlainFraction fraction) :=
  decidable_of_iff
    ((fraction.head? = some '+' → (fraction.take 6).tail.all Char.isDigit = false) ∧
      (sliceTo 6 (padded fraction)).isSome = true ∧
      ((fraction.take 6).all Char.isDigit = true → fraction.all Char.isDigit = true))
    ⟨fun h => ⟨h.1, h.2.1, h.2.2⟩, fun h => ⟨h.1, h.2, h.3⟩⟩

instance (text : List Char) : Decidable (Plain text) :=
  decidable_of_iff
    (Unsigned (integerPart text) ∧
      (isDigits (integerPart text) = true → PlainFraction (fractionalPart text)))
    ⟨fun h => ⟨h.1, h.2⟩, fun h => ⟨h.1, h.2⟩⟩

theorem parsePart_ok_iff {part : String} {text : List Char} {n : ℕ} :
    parsePart part text = .ok n ↔ parseU64 text = .ok n := by
  unfold parsePart
  cases parseU64 text with
  | ok m =>
    show Except.ok m = Except.ok n ↔ Except.ok m = Except.ok n
    rw [Except.ok.injEq, Except.ok.injEq]
  | error e =>
    constructor
    · intro h
      cases h
    · intro h
      cases h

theorem cutFraction_ok_iff {fraction frac6 : List Char} :
    cutFraction fraction = .ok frac6 ↔ sliceTo 6 (padded fraction) = some frac6 := by
  unfold cutFraction
  cases sliceTo 6 (padded fraction) with
  | none =>
    constructor
    · intro h
      cases h
    · intro h
      cases h
  | some cut =>
    dsimp only
    rw [Except.ok.injEq, Option.some.injEq]

theorem checkedAtomic_ok_iff {decimalStr : String} {integer fractional n : ℕ} :
    checkedAtomic decimalStr integer fractional = .ok n ↔
      n = integer * 1000000 + fractional ∧ n ≤ u64Max := by
  unfold checkedAtomic
  by_cases hscaled : integer * 1000000 > u64Max
  · rw [if_pos hscaled]
    constructor
    · intro h
      cases h
    · rintro ⟨hn, hmax⟩
      omega
  · rw [if_neg hscaled]
    by_cases hsum : integer * 1000000 + fractional > u64Max
    · rw [if_pos hsum]
      constructor
      · intro h
        cases h
      · rintro ⟨hn, hmax⟩
        omega
    · rw [if_neg hsum, Except.ok.injEq]
      constructor
      · intro hn
        exact ⟨hn.symm, hn ▸ Nat.le_of_not_lt hsum⟩
      · exact fun h => h.1.symm

/-- The first six characters of a fraction are among those of the padded fraction. -/
theorem take_padded (fraction : List Char) :
    (padded fraction).take 6 = fraction.take 6 ++
      (List.replicate (6 - fraction.length) '0').take (6 - fraction.length) := by
  unfold padded
  rw [List.take_append]

/-- No numeral stands behind a plus sign at the head of a cut. -/
theorem unsigned_cut {fraction cut : List Char} (h : PlainFraction fraction)
    (hcut : sliceTo 6 (padded fraction) = some cut) : Unsigned cut := by
  intro hhead
  by_contra hdigits
  rw [Bool.not_eq_false] at hdigits
  obtain ⟨rest, hrest⟩ := List.head?_eq_some_iff.mp hhead
  rw [hrest, List.tail_cons] at hdigits
  have hall := all_of_isDigits hdigits
  have hsizes : ∀ c ∈ cut, c.utf8Size = 1 := by
    rw [hrest]
    exact List.forall_mem_cons.mpr ⟨rfl, sizes_of_digits hall⟩
  have htake := sliceTo_eq_take hcut hsizes
  rw [hrest, take_padded] at htake
  -- the sign is the fraction's own, for the padding has none
  cases fraction with
  | nil => cases htake
  | cons c fraction =>
    rw [List.take_succ_cons, List.cons_append, List.cons.injEq] at htake
    have hsign := h.sign (congrArg some htake.1.symm)
    rw [List.take_succ_cons, List.tail_cons] at hsign
    rw [htake.2, List.all_append, hsign] at hall
    cases hall

/-- The six digits of a fraction are parsed. -/
theorem parseU64_cut {fraction : List Char} (h : fraction.all Char.isDigit = true) :
    sliceTo 6 (padded fraction) = some ((padded fraction).take 6) ∧
      parseU64 ((padded fraction).take 6) =
        .ok (digitsValue ((padded fraction).take 6)) := by
  have hpadded := all_isDigit_padded h
  have htake : ((padded fraction).take 6).all Char.isDigit = true := by
    rw [List.all_eq_true]
    intro c hc
    exact List.all_eq_true.mp hpadded c (List.mem_of_mem_take hc)
  have hlength : ((padded fraction).take 6).length = 6 := by
    rw [List.length_take]
    have hlong := six_le_length_padded fraction
    omega
  have hne : (padded fraction).take 6 ≠ [] := by
    intro hnil
    rw [hnil] at hlength
    cases hlength
  -- digits do not start with a plus sign
  have hsign : Unsigned ((padded fraction).take 6) := by
    intro hhead
    obtain ⟨rest, hrest⟩ := List.head?_eq_some_iff.mp hhead
    rw [hrest] at htake
    cases htake
  have hlt := digitsValue_lt htake
  rw [hlength] at hlt
  -- six digits fit
  have hmax : digitsValue ((padded fraction).take 6) ≤ u64Max := by
    have hwide : 10 ^ 6 ≤ u64Max := by decide
    omega
  refine ⟨sliceTo_digits hpadded (six_le_length_padded fraction), ?_⟩
  exact (parseU64_ok_iff hsign).mpr ⟨decide_eq_true ⟨hne, htake⟩, rfl, hmax⟩

/-- A plain fraction whose cut is parsed has only digits. -/
theorem all_isDigit_of_cut {fraction cut : List Char} (h : PlainFraction fraction)
    (hcut : sliceTo 6 (padded fraction) = some cut) {n : ℕ} (hparse : parseU64 cut = .ok n) :
    fraction.all Char.isDigit = true := by
  have hdigits := all_of_isDigits ((parseU64_ok_iff (unsigned_cut h hcut)).mp hparse).1
  have htake := sliceTo_eq_take hcut (sizes_of_digits hdigits)
  rw [htake, take_padded, List.all_append, Bool.and_eq_true] at hdigits
  exact h.behind hdigits.1

/-- What is read of a plain text. -/
theorem atomicAmount_ok_iff {text : List Char} (h : Plain text) (decimalStr : String) (n : ℕ) :
    atomicAmount decimalStr text = .ok n ↔
      isDigits (integerPart text) = true ∧ (fractionalPart text).all Char.isDigit = true ∧
        n = digitsValue (integerPart text) * 1000000 +
          digitsValue ((padded (fractionalPart text)).take 6) ∧ n ≤ u64Max := by
  unfold atomicAmount
  by_cases hempty : text.isEmpty = true
  · rw [if_pos hempty, List.isEmpty_iff.mp hempty]
    constructor
    · intro hok
      cases hok
    · rintro ⟨hdigits, -⟩
      cases hdigits
  · rw [if_neg hempty]
    simp only [except_bind_ok, parsePart_ok_iff, cutFraction_ok_iff, checkedAtomic_ok_iff]
    constructor
    · rintro ⟨integer, hinteger, cut, hcut, fractional, hfractional, hn, hmax⟩
      -- a plain text is parsed for its digits alone
      obtain ⟨hdigits, hvalue, -⟩ := (parseU64_ok_iff h.sign).mp hinteger
      have hfraction := all_isDigit_of_cut (h.fraction hdigits) hcut hfractional
      obtain ⟨hsix, hread⟩ := parseU64_cut hfraction
      rw [hcut] at hsix
      rw [Option.some.inj hsix, hread] at hfractional
      rw [← hvalue, ← Except.ok.inj hfractional] at hn
      exact ⟨hdigits, hfraction, hn, hmax⟩
    · rintro ⟨hdigits, hfraction, hn, hmax⟩
      obtain ⟨hcut, hread⟩ := parseU64_cut hfraction
      have hinteger : parseU64 (integerPart text) = .ok (digitsValue (integerPart text)) :=
        (parseU64_ok_iff h.sign).mpr ⟨hdigits, rfl, by omega⟩
      exact ⟨_, hinteger, _, hcut, _, hread, hn, hmax⟩

theorem parsePart_ne_panic (part : String) (text : List Char) :
    parsePart part text ≠ .error .notACharBoundary := by
  unfold parsePart
  intro hpanic
  cases hparse : parseU64 text with
  | ok n =>
    rw [hparse] at hpanic
    cases hpanic
  | error e =>
    rw [hparse] at hpanic
    cases hpanic

theorem checkedAtomic_ne_panic (decimalStr : String) (integer fractional : ℕ) :
    checkedAtomic decimalStr integer fractional ≠ .error .notACharBoundary := by
  unfold checkedAtomic
  intro hpanic
  split at hpanic
  · cases hpanic
  · split at hpanic
    · cases hpanic
    · cases hpanic

/-- The call panics exactly behind an integer part that is parsed, where byte six of the fraction is
inside a character. -/
theorem atomicAmount_panics_iff (decimalStr : String) (text : List Char) :
    atomicAmount decimalStr text = .error .notACharBoundary ↔
      (∃ integer, parseU64 (integerPart text) = .ok integer) ∧
        sliceTo 6 (padded (fractionalPart text)) = none := by
  unfold atomicAmount
  by_cases hempty : text.isEmpty = true
  · rw [if_pos hempty, List.isEmpty_iff.mp hempty]
    constructor
    · intro hpanic
      cases hpanic
    · rintro ⟨⟨integer, hparse⟩, -⟩
      cases hparse
  · rw [if_neg hempty]
    simp only [except_bind_error, parsePart_ok_iff, cutFraction_ok_iff, parsePart_ne_panic,
      checkedAtomic_ne_panic, and_false, exists_false, or_false, false_or]
    have hcut : cutFraction (fractionalPart text) = .error .notACharBoundary ↔
        sliceTo 6 (padded (fractionalPart text)) = none := by
      unfold cutFraction
      cases sliceTo 6 (padded (fractionalPart text)) with
      | none => exact ⟨fun _ => rfl, fun _ => rfl⟩
      | some cut =>
        constructor
        · intro h
          cases h
        · intro h
          cases h
    rw [hcut, exists_and_right]

example : usdcAtomicAmountChecked "0.12345é" = .error .notACharBoundary := by decide +kernel

theorem toString_injective : Function.Injective (toString : ℕ → String) := by
  intro a b h
  rw [← digitsValue_toString a, ← digitsValue_toString b, h]

theorem map_toString_ok {result : Except UsdcStop ℕ} {n : ℕ} :
    result.map toString = .ok (toString n) ↔ result = .ok n := by
  cases result with
  | error e =>
    constructor
    · intro h
      cases h
    · intro h
      cases h
  | ok m =>
    show Except.ok (toString m) = .ok (toString n) ↔ Except.ok m = .ok n
    rw [Except.ok.injEq, Except.ok.injEq]
    exact toString_injective.eq_iff

/-- The atomic units of a decimal value. -/
theorem floor_amountValue {integer fraction : List Char}
    (h : fraction.all Char.isDigit = true) :
    ⌊amountValue integer fraction * 1000000⌋₊ =
      digitsValue integer * 1000000 + digitsValue ((padded fraction).take 6) := by
  have hsplit : amountValue integer fraction * 1000000 =
      (digitsValue fraction : ℚ) / 10 ^ fraction.length * 1000000 +
        ((digitsValue integer * 1000000 : ℕ) : ℚ) := by
    unfold amountValue
    push_cast
    ring
  have hnonneg : 0 ≤ (digitsValue fraction : ℚ) / 10 ^ fraction.length * 1000000 := by positivity
  rw [hsplit, Nat.floor_add_natCast hnonneg, ← digitsValue_take_padded h, Nat.add_comm]

/-- The call parses what is a text of the given form, rounded down to atomic units, and refuses
every other text with a message. -/
structure Parses (decimalStr : String) (form : List Char → List Char → Prop) : Prop where
  amount : ∀ n, usdcAtomicAmountChecked decimalStr = .ok (toString n) ↔
    ∃ integer fraction, form integer fraction ∧
      n = ⌊amountValue integer fraction * 1000000⌋₊ ∧ n ≤ u64Max
  refused : (¬ ∃ n : ℕ, usdcAtomicAmountChecked decimalStr = .ok (toString n)) →
    ∃ message, usdcAtomicAmountChecked decimalStr = .error (.error message)

theorem atomicAmount_ne_panic {text : List Char} (h : Plain text) (decimalStr : String) :
    atomicAmount decimalStr text ≠ .error .notACharBoundary := by
  rw [Ne, atomicAmount_panics_iff]
  rintro ⟨⟨integer, hparse⟩, hcut⟩
  have hboundary := (h.fraction ((parseU64_ok_iff h.sign).mp hparse).1).boundary
  rw [hcut] at hboundary
  cases hboundary

/-- A text that is plain once trimmed is parsed as an amount. -/
theorem parses_plain (decimalStr : String) (h : Plain (trim decimalStr.toList)) :
    Parses decimalStr (IsAmount (trim decimalStr.toList)) where
  amount n := by
    unfold usdcAtomicAmountChecked
    rw [map_toString_ok, atomicAmount_ok_iff h]
    constructor
    · rintro ⟨hdigits, hfraction, hn, hmax⟩
      refine ⟨_, _, isAmount_iff.mpr ⟨rfl, rfl, hdigits, hfraction⟩, ?_, hmax⟩
      rw [floor_amountValue hfraction, hn]
    · rintro ⟨integer, fraction, hform, hn, hmax⟩
      obtain ⟨hinteger, hfraction, hdigits, hall⟩ := isAmount_iff.mp hform
      rw [floor_amountValue hall, hinteger, hfraction] at hn
      rw [hinteger] at hdigits
      rw [hfraction] at hall
      exact ⟨hdigits, hall, hn, hmax⟩
  refused hnone := by
    have hpanic := atomicAmount_ne_panic h decimalStr
    unfold usdcAtomicAmountChecked at hnone ⊢
    cases hresult : atomicAmount decimalStr (trim decimalStr.toList) with
    | ok n =>
      rw [hresult] at hnone
      exact absurd ⟨n, rfl⟩ hnone
    | error stop =>
      cases stop with
      | error message => exact ⟨message, rfl⟩
      | notACharBoundary => exact absurd hresult hpanic

/-! ### Which texts are amounts -/

/-- The text is a decimal numeral: digits, and perhaps a point with digits behind it. -/
structure IsDecimal (text integer fraction : List Char) : Prop where
  integerDigits : isDigits integer = true
  split : text = integer ∧ fraction = [] ∨
    text = integer ++ '.' :: fraction ∧ isDigits fraction = true

/-- Blanks around an amount are trimmed, and a point may end it. -/
theorem blank_and_point_read :
    ¬ Parses "  1.50  " (IsDecimal "  1.50  ".toList) ∧ ¬ Parses "5." (IsDecimal "5.".toList) := by
  constructor
  · have hok : usdcAtomicAmountChecked "  1.50  " = .ok (toString 1500000) := by decide +kernel
    have hlist : "  1.50  ".toList = [' ', ' ', '1', '.', '5', '0', ' ', ' '] := by decide +kernel
    intro h
    obtain ⟨integer, fraction, ⟨hdigits, hsplit⟩, -⟩ := (h.amount 1500000).mp hok
    rw [hlist] at hsplit
    cases integer with
    | nil => cases hdigits
    | cons c integer =>
      -- the numeral would start with the blank
      have hhead : ' ' = c := by
        rcases hsplit with ⟨htext, -⟩ | ⟨htext, -⟩
        · exact (List.cons.inj htext).1
        · exact (List.cons.inj htext).1
      have hdigit := List.all_eq_true.mp (all_of_isDigits hdigits) c List.mem_cons_self
      rw [← hhead] at hdigit
      cases hdigit
  · have hok : usdcAtomicAmountChecked "5." = .ok (toString 5000000) := by decide +kernel
    have hlist : "5.".toList = ['5', '.'] := by decide +kernel
    intro h
    obtain ⟨integer, fraction, ⟨hdigits, hsplit⟩, -⟩ := (h.amount 5000000).mp hok
    rw [hlist] at hsplit
    rcases hsplit with ⟨htext, -⟩ | ⟨htext, hfraction⟩
    · rw [← htext] at hdigits
      cases hdigits
    · -- there is no room for a digit behind the point
      have hlength := congrArg List.length htext
      simp only [List.length_append, List.length_cons, List.length_nil] at hlength
      have hinteger : integer.length ≠ 0 := fun hzero => by
        rw [List.length_eq_zero_iff.mp hzero] at hdigits
        cases hdigits
      have hbehind : fraction.length ≠ 0 := fun hzero => by
        rw [List.length_eq_zero_iff.mp hzero] at hfraction
        cases hfraction
      omega

theorem parses_plain_sample :
    Plain (trim "  1.50  ".toList) ∧ Parses "  1.50  " (IsAmount (trim "  1.50  ".toList)) :=
  ⟨by decide +kernel, parses_plain "  1.50  " (by decide +kernel)⟩

/-! ## Printed prices -/

/-- Six digits. -/
def sixDigits (n : ℕ) : List Char :=
  [n / 100000 % 10, n / 10000 % 10, n / 1000 % 10, n / 100 % 10, n / 10 % 10, n % 10].map
    Nat.digitChar

/-- A price in micro-USDC, written with six decimals. -/
def decimalChars (micro : ℕ) : List Char :=
  (toString (micro / 1000000)).toList ++ '.' :: sixDigits (micro % 1000000)

/-- What `format!("{x:.6}")` writes. -/
def printed : UsdcText → List String
  | .nonFinite => ["NaN", "inf", "-inf"]
  | .decimal false micro => [String.ofList (decimalChars micro)]
  | .decimal true micro => [String.ofList ('-' :: decimalChars micro)]

theorem digitChar_spec : ∀ k < 10, (Nat.digitChar k).isDigit = true ∧
    (Nat.digitChar k).toNat - '0'.toNat = k := by decide

theorem all_isDigit_sixDigits (n : ℕ) : (sixDigits n).all Char.isDigit = true := by
  have hdigit : ∀ k, (Nat.digitChar (k % 10)).isDigit = true := fun k =>
    (digitChar_spec (k % 10) (Nat.mod_lt k (by norm_num))).1
  simp only [sixDigits, List.map_cons, List.map_nil, List.all_cons, List.all_nil, hdigit,
    Bool.and_self]

theorem digitsValue_sixDigits {n : ℕ} (h : n < 1000000) : digitsValue (sixDigits n) = n := by
  have hdigit : ∀ k, (Nat.digitChar (k % 10)).toNat - '0'.toNat = k % 10 := fun k =>
    (digitChar_spec (k % 10) (Nat.mod_lt k (by norm_num))).2
  rw [digitsValue_eq]
  simp only [sixDigits, List.map_cons, List.map_nil, List.foldl_cons, List.foldl_nil, pushDigit,
    hdigit]
  omega

theorem decimalChars_isAmount (micro : ℕ) :
    IsAmount (decimalChars micro) (toString (micro / 1000000)).toList
      (sixDigits (micro % 1000000)) where
  integerDigits := isDigits_toString _
  fractionDigits := all_isDigit_sixDigits _
  split := Or.inr rfl

theorem padded_sixDigits (n : ℕ) : (padded (sixDigits n)).take 6 = sixDigits n := rfl

/-- An amount is plain. -/
theorem IsAmount.plain {text integer fraction : List Char} (h : IsAmount text integer fraction) :
    Plain text := by
  obtain ⟨hinteger, hfraction, hdigits, hall⟩ := isAmount_iff.mp h
  rw [hinteger] at hdigits
  rw [hfraction] at hall
  have hsign : ∀ digits : List Char, digits.all Char.isDigit = true → digits.head? ≠ some '+' := by
    intro digits hdigits hhead
    obtain ⟨rest, hrest⟩ := List.head?_eq_some_iff.mp hhead
    rw [hrest] at hdigits
    cases hdigits
  constructor
  · intro hhead
    exact absurd hhead (hsign _ (all_of_isDigits hdigits))
  · intro _
    refine ⟨fun hhead => absurd hhead (hsign _ hall), ?_, fun _ => hall⟩
    rw [(parseU64_cut hall).1]
    rfl

/-- Nothing is trimmed where no character is blank. -/
theorem trim_eq_self {text : List Char} (h : ∀ c ∈ text, Protocol.isWhitespace c = false) :
    trim text = text := by
  have hkeep : ∀ cs : List Char, (∀ c ∈ cs, Protocol.isWhitespace c = false) →
      cs.dropWhile Protocol.isWhitespace = cs := by
    intro cs hcs
    cases cs with
    | nil => rfl
    | cons c cs =>
      rw [List.dropWhile_cons_of_neg]
      rw [hcs c List.mem_cons_self]
      exact Bool.false_ne_true
  have hreverse : ∀ c ∈ text.reverse, Protocol.isWhitespace c = false := by
    intro c hc
    exact h c (List.mem_reverse.mp hc)
  rw [trim, hkeep text h, hkeep text.reverse hreverse, List.reverse_reverse]

theorem isWhitespace_of_isDigit {c : Char} (h : c.isDigit = true) :
    Protocol.isWhitespace c = false := by
  rw [Char.isDigit, Bool.and_eq_true, decide_eq_true_eq, decide_eq_true_eq] at h
  have hlow : 48 ≤ c.toNat := UInt32.le_iff_toNat_le.mp h.1
  have hhigh : c.toNat ≤ 57 := UInt32.le_iff_toNat_le.mp h.2
  unfold Protocol.isWhitespace
  simp only [Bool.or_eq_false_iff, Bool.and_eq_false_iff, decide_eq_false_iff_not]
  omega

theorem trim_decimalChars (micro : ℕ) : ∀ c ∈ decimalChars micro,
    Protocol.isWhitespace c = false := by
  intro c hc
  rcases List.mem_append.mp hc with hc | hc
  · exact isWhitespace_of_isDigit
      (List.all_eq_true.mp (all_of_isDigits (isDigits_toString (micro / 1000000))) c hc)
  · rcases List.mem_cons.mp hc with hc | hc
    · rw [hc]
      decide
    · exact isWhitespace_of_isDigit (List.all_eq_true.mp (all_isDigit_sixDigits _) c hc)

theorem toOption_map_toString {result : Except UsdcStop ℕ} {amount : Option ℕ}
    (h : ∀ n, result = .ok n ↔ amount = some n) :
    (result.map toString).toOption = amount.map toString := by
  cases result with
  | ok n =>
    rw [(h n).mp rfl]
    rfl
  | error stop =>
    cases amount with
    | none => rfl
    | some n => cases (h n).mpr rfl

/-- Of a printed price the parser reads what was printed: so the conversion of `Chat.Cost`, which
knows a price as a number of micro-USDC, is this one on the texts that are written. -/
theorem usdcAtomicAmountChecked_printed {price : UsdcText} {text : String}
    (h : text ∈ printed price) :
    (usdcAtomicAmountChecked text).toOption =
      (Chat.usdcAtomicAmountChecked price).map toString := by
  cases price with
  | nonFinite =>
    -- none of the three words is a number
    have hthree : ∀ text ∈ ["NaN", "inf", "-inf"],
        (usdcAtomicAmountChecked text).toOption = none := by decide +kernel
    exact hthree text h
  | decimal negative micro =>
    have hplain := decimalChars_isAmount micro
    cases negative with
    | false =>
      rw [List.mem_singleton.mp h]
      apply toOption_map_toString
      intro n
      rw [String.toList_ofList, trim_eq_self (trim_decimalChars micro),
        atomicAmount_ok_iff hplain.plain]
      obtain ⟨hinteger, hfraction, hdigits, hall⟩ := isAmount_iff.mp hplain
      -- six digits behind the point: the value is the printed number of micro-USDC
      rw [← hinteger, ← hfraction, padded_sixDigits, digitsValue_toString,
        digitsValue_sixDigits (Nat.mod_lt micro (by norm_num))]
      have hmicro : micro / 1000000 * 1000000 + micro % 1000000 = micro := Nat.div_add_mod' micro _
      rw [hmicro, Chat.usdcAtomicAmountChecked]
      constructor
      · rintro ⟨-, -, hn, hmax⟩
        rw [hn] at hmax
        rw [if_pos hmax, hn]
      · intro hsome
        split at hsome
        · rename_i hmax
          have hn := Option.some.inj hsome
          exact ⟨hdigits, hall, hn.symm, hn ▸ hmax⟩
        · cases hsome
    | true =>
      rw [List.mem_singleton.mp h]
      apply toOption_map_toString
      intro n
      have hblank : ∀ c ∈ '-' :: decimalChars micro, Protocol.isWhitespace c = false := by
        intro c hc
        rcases List.mem_cons.mp hc with hc | hc
        · rw [hc]
          decide
        · exact trim_decimalChars micro c hc
      rw [String.toList_ofList, trim_eq_self hblank]
      constructor
      · -- the integer part starts with the sign
        intro hok
        have hsign : integerPart ('-' :: decimalChars micro) =
            '-' :: integerPart (decimalChars micro) := rfl
        have hplus : Unsigned (integerPart ('-' :: decimalChars micro)) := by
          rw [hsign]
          intro hhead
          cases hhead
        have hnone : isDigits (integerPart ('-' :: decimalChars micro)) = true → False := by
          rw [hsign]
          intro hdigits
          cases all_of_isDigits hdigits
        have hplain : Plain ('-' :: decimalChars micro) :=
          ⟨hplus, fun hdigits => (hnone hdigits).elim⟩
        exact (hnone ((atomicAmount_ok_iff hplain _ n).mp hok).1).elim
      · intro hsome
        cases hsome

end Solvela.Chat.Parsing
