import Mathlib.Data.List.Basic
import Mathlib.Data.Nat.Notation

/-!
# Lossy UTF-8 decoding

Decoding that replaces what is not UTF-8 by U+FFFD, one for each longest beginning of a character
that does not go on and one for each byte that begins none. It is a machine that reads one byte at
a time: between characters, or with the bytes it still expects.

Two texts decoded apart are their concatenation decoded, unless the cut is inside a character:
`lossy_append`. What encoding wrote is decoded to itself: `lossy_encode`.

* `lossy_append` and `lossy_flatten`, decoding apart and together;
* `lossy_encode`, what was encoded is decoded;
* `frayed_char` and `frayed_chunks`, what is left of characters that were cut.
-/

namespace Solvela.Lib.Utf8

/-! ## The machine -/

/-- Where decoding stands: how many bytes of the character are still to come, the range of the
next one, and the bits read so far. -/
structure State where
  owed : ℕ
  low : ℕ
  high : ℕ
  code : ℕ
deriving DecidableEq

/-- Between characters. -/
def start : State := ⟨0, 0, 0, 0⟩

/-- U+FFFD. -/
def replacement : Char := Char.ofNat 0xFFFD

/-- The first byte of a character, or a byte that begins none. -/
def first (b : ℕ) : List Char × State :=
  if b < 0x80 then ([Char.ofNat b], start)
  else if b < 0xC2 then ([replacement], start)
  else if b < 0xE0 then ([], ⟨1, 0x80, 0xBF, b % 32⟩)
  else if b = 0xE0 then ([], ⟨2, 0xA0, 0xBF, 0⟩)
  else if b = 0xED then ([], ⟨2, 0x80, 0x9F, 13⟩)
  else if b < 0xF0 then ([], ⟨2, 0x80, 0xBF, b % 16⟩)
  else if b = 0xF0 then ([], ⟨3, 0x90, 0xBF, 0⟩)
  else if b < 0xF4 then ([], ⟨3, 0x80, 0xBF, b % 8⟩)
  else if b = 0xF4 then ([], ⟨3, 0x80, 0x8F, 4⟩)
  else ([replacement], start)

/-- The byte goes on with the character. -/
def State.takes (s : State) (b : ℕ) : Bool := decide (s.owed ≠ 0 ∧ s.low ≤ b ∧ b ≤ s.high)

/-- What is put for a character that does not go on. -/
def State.broken (s : State) : List Char := if s.owed = 0 then [] else [replacement]

/-- One byte. -/
def step (s : State) (b : UInt8) : List Char × State :=
  if s.takes b.toNat then
    let code := s.code * 64 + b.toNat % 64
    if s.owed = 1 then ([Char.ofNat code], start) else ([], ⟨s.owed - 1, 0x80, 0xBF, code⟩)
  else (s.broken ++ (first b.toNat).1, (first b.toNat).2)

/-- All bytes, from a state on. -/
def decode : State → List UInt8 → List Char × State
  | s, [] => ([], s)
  | s, b :: bytes =>
    ((step s b).1 ++ (decode (step s b).2 bytes).1, (decode (step s b).2 bytes).2)

/-- `String::from_utf8_lossy`. -/
def lossy (bytes : List UInt8) : List Char :=
  (decode start bytes).1 ++ (decode start bytes).2.broken

/-- A character begins before the cut and goes on behind it. -/
def InsideChar (before after : List UInt8) : Prop :=
  ∃ b rest, after = b :: rest ∧ (decode start before).2.takes b.toNat = true

instance (before after : List UInt8) : Decidable (InsideChar before after) :=
  match after with
  | [] => isFalse fun ⟨_, _, h, _⟩ => absurd h (by simp)
  | b :: _ =>
    decidable_of_iff ((decode start before).2.takes b.toNat = true)
      ⟨fun h => ⟨b, _, rfl, h⟩, fun ⟨_, _, h, ht⟩ => (List.cons.inj h).1 ▸ ht⟩

theorem decode_append (s : State) (a b : List UInt8) :
    decode s (a ++ b) = ((decode s a).1 ++ (decode (decode s a).2 b).1,
      (decode (decode s a).2 b).2) := by
  induction a generalizing s with
  | nil => rfl
  | cons x a ih =>
    rw [List.cons_append, decode, decode, ih, List.append_assoc]

/-! ## Cuts -/

/-- A byte that does not go on with the character is read as between characters. -/
theorem step_of_not_takes {s : State} {b : UInt8} (h : ¬ s.takes b.toNat = true) :
    step s b = (s.broken ++ (step start b).1, (step start b).2) := by
  have hstart : ¬ start.takes b.toNat = true := by simp [start, State.takes]
  unfold step
  rw [if_neg h, if_neg hstart]
  rfl

theorem decode_of_not_takes {s : State} {b : UInt8} (h : ¬ s.takes b.toNat = true)
    (bytes : List UInt8) :
    decode s (b :: bytes) =
      (s.broken ++ (decode start (b :: bytes)).1, (decode start (b :: bytes)).2) := by
  rw [decode, decode, step_of_not_takes h, List.append_assoc]

/-- Decoding apart is decoding together, where the cut is between characters. -/
theorem lossy_append {a b : List UInt8} (h : ¬ InsideChar a b) :
    lossy (a ++ b) = lossy a ++ lossy b := by
  cases b with
  | nil => rw [List.append_nil, show lossy [] = [] from rfl, List.append_nil]
  | cons x b =>
    have hnot : ¬ (decode start a).2.takes x.toNat = true := fun ht => h ⟨x, b, rfl, ht⟩
    unfold lossy
    rw [decode_append, decode_of_not_takes hnot]
    simp only [List.append_assoc]

/-- No chunk ends inside a character. -/
def CutBetweenChars (chunks : List (List UInt8)) : Prop :=
  ∀ before after, chunks = before ++ after → ¬ InsideChar before.flatten after.flatten

/-- What follows a cut between characters is decoded as from the start. -/
theorem insideChar_append {a x y : List UInt8} (h : ¬ InsideChar a (x ++ y))
    (hin : InsideChar x y) : InsideChar (a ++ x) y := by
  obtain ⟨b, rest, rfl, htakes⟩ := hin
  cases x with
  | nil => exact absurd htakes (by simp [decode, start, State.takes])
  | cons c x =>
    have hnot : ¬ (decode start a).2.takes c.toNat = true := fun ht => h ⟨c, _, rfl, ht⟩
    refine ⟨b, rest, rfl, ?_⟩
    rw [decode_append, decode_of_not_takes hnot]
    exact htakes

/-- Chunks that are cut between characters decode to the text of all of them. -/
theorem lossy_flatten {chunks : List (List UInt8)} (h : CutBetweenChars chunks) :
    (chunks.map lossy).flatten = lossy chunks.flatten := by
  induction chunks with
  | nil => rfl
  | cons c chunks ih =>
    have hcut : ¬ InsideChar c chunks.flatten := by
      have := h [c] chunks rfl
      simpa using this
    have hrest : CutBetweenChars chunks := by
      intro before after hsplit hin
      apply h (c :: before) after (by rw [hsplit]; rfl)
      rw [List.flatten_cons]
      apply insideChar_append _ hin
      rw [hsplit, List.flatten_append] at hcut
      exact hcut
    rw [List.map_cons, List.flatten_cons, List.flatten_cons, ih hrest, lossy_append hcut]

/-! ## Encoded text -/

/-- A byte that ends a character. -/
theorem step_last {s : State} {b code : ℕ} (howed : s.owed = 1) (hlow : s.low ≤ b)
    (hhigh : b ≤ s.high) (hb : b < 256) (hcode : s.code * 64 + b % 64 = code) :
    step s (UInt8.ofNat b) = ([Char.ofNat code], start) := by
  have hbyte : (UInt8.ofNat b).toNat = b := by rw [UInt8.toNat_ofNat', Nat.mod_eq_of_lt hb]
  have htakes : s.takes b = true := by simp [State.takes, howed, hlow, hhigh]
  unfold step
  rw [hbyte, if_pos htakes]
  simp only [howed, if_true, hcode]

/-- A byte inside a character. -/
theorem step_more {s : State} {b code n : ℕ} (howed : s.owed = n + 2) (hlow : s.low ≤ b)
    (hhigh : b ≤ s.high) (hb : b < 256) (hcode : s.code * 64 + b % 64 = code) :
    step s (UInt8.ofNat b) = ([], ⟨n + 1, 0x80, 0xBF, code⟩) := by
  have hbyte : (UInt8.ofNat b).toNat = b := by rw [UInt8.toNat_ofNat', Nat.mod_eq_of_lt hb]
  have htakes : s.takes b = true := by simp [State.takes, howed, hlow, hhigh]
  have hmore : ¬ n + 2 = 1 := by omega
  unfold step
  rw [hbyte, if_pos htakes]
  simp only [howed, hmore, if_false, hcode]
  rfl

/-- The first byte of a character. -/
theorem step_first {b : ℕ} (hb : b < 256) : step start (UInt8.ofNat b) = first b := by
  have hbyte : (UInt8.ofNat b).toNat = b := by rw [UInt8.toNat_ofNat', Nat.mod_eq_of_lt hb]
  have hnot : ¬ start.takes b = true := by simp [start, State.takes]
  unfold step
  rw [hbyte, if_neg hnot]
  rfl

/-- The first of three bytes, and the range it leaves for the second. -/
theorem first_three {n : ℕ} (hlow : 0x800 ≤ n) (hhigh : n < 0x10000)
    (hscalar : n < 0xD800 ∨ 0xDFFF < n) :
    ∃ low high, first (n / 4096 % 16 + 0xE0) = ([], ⟨2, low, high, n / 4096⟩) ∧
      low ≤ n / 64 % 64 + 0x80 ∧ n / 64 % 64 + 0x80 ≤ high := by
  unfold first
  rw [if_neg (by omega), if_neg (by omega), if_neg (by omega)]
  by_cases h0 : n / 4096 = 0
  · rw [if_pos (by omega), h0]
    exact ⟨_, _, rfl, by omega, by omega⟩
  · rw [if_neg (by omega)]
    by_cases hD : n / 4096 = 13
    · rw [if_pos (by omega), hD]
      exact ⟨_, _, rfl, by omega, by omega⟩
    · have hcode : (n / 4096 % 16 + 0xE0) % 16 = n / 4096 := by omega
      rw [if_neg (by omega), if_pos (by omega), hcode]
      exact ⟨_, _, rfl, by omega, by omega⟩

/-- The first of four bytes, and the range it leaves for the second. -/
theorem first_four {n : ℕ} (hlow : 0x10000 ≤ n) (hhigh : n < 0x110000) :
    ∃ low high, first (n / 262144 % 8 + 0xF0) = ([], ⟨3, low, high, n / 262144⟩) ∧
      low ≤ n / 4096 % 64 + 0x80 ∧ n / 4096 % 64 + 0x80 ≤ high := by
  unfold first
  rw [if_neg (by omega), if_neg (by omega), if_neg (by omega), if_neg (by omega),
    if_neg (by omega), if_neg (by omega)]
  by_cases h0 : n / 262144 = 0
  · rw [if_pos (by omega), h0]
    exact ⟨_, _, rfl, by omega, by omega⟩
  · rw [if_neg (by omega)]
    by_cases h4 : n / 262144 = 4
    · rw [if_neg (by omega), if_pos (by omega), h4]
      exact ⟨_, _, rfl, by omega, by omega⟩
    · have hcode : (n / 262144 % 8 + 0xF0) % 8 = n / 262144 := by omega
      rw [if_pos (by omega), hcode]
      exact ⟨_, _, rfl, by omega, by omega⟩

theorem decode_encodeChar (c : Char) : decode start (String.utf8EncodeChar c) = ([c], start) := by
  obtain ⟨n, hn⟩ : ∃ n, c.val.toNat = n := ⟨_, rfl⟩
  have hchar : Char.ofNat n = c := by
    rw [← hn]
    exact Char.ofNat_toNat c
  have hscalar : n < 0xD800 ∨ 0xDFFF < n ∧ n < 0x110000 := by
    rw [← hn]
    exact c.valid
  unfold String.utf8EncodeChar
  dsimp only
  rw [hn]
  split
  -- one byte
  · have hfirst : first n = ([Char.ofNat n], start) := by
      unfold first
      rw [if_pos (by omega)]
    rw [decode, step_first (by omega), hfirst, hchar]
    rfl
  · split
    -- two bytes
    · have hfirst : first (n / 64 % 32 + 0xC0) = ([], ⟨1, 0x80, 0xBF, n / 64⟩) := by
        have hcode : (n / 64 % 32 + 0xC0) % 32 = n / 64 := by omega
        unfold first
        rw [if_neg (by omega), if_neg (by omega), if_pos (by omega), hcode]
      have hlast : step ⟨1, 0x80, 0xBF, n / 64⟩ (UInt8.ofNat (n % 64 + 0x80)) =
          ([Char.ofNat n], start) := by
        refine step_last rfl ?_ ?_ (by omega) ?_ <;> dsimp only <;> omega
      rw [decode, step_first (by omega), hfirst, decode, hlast, hchar]
      rfl
    · split
      -- three bytes, whose second has a range of its own behind E0 and ED
      · obtain ⟨low, high, hfirst, hlow, hhigh⟩ :=
          first_three (n := n) (by omega) (by omega) (by omega)
        have hmid : step ⟨2, low, high, n / 4096⟩ (UInt8.ofNat (n / 64 % 64 + 0x80)) =
            ([], ⟨1, 0x80, 0xBF, n / 64⟩) := by
          refine step_more rfl hlow hhigh (by omega) ?_
          dsimp only
          omega
        have hlast : step ⟨1, 0x80, 0xBF, n / 64⟩ (UInt8.ofNat (n % 64 + 0x80)) =
            ([Char.ofNat n], start) := by
          refine step_last rfl ?_ ?_ (by omega) ?_ <;> dsimp only <;> omega
        rw [decode, step_first (by omega), hfirst, decode, hmid, decode, hlast, hchar]
        rfl
      · obtain ⟨low, high, hfirst, hlow, hhigh⟩ :=
          first_four (n := n) (by omega) (by omega)
        -- the second of four bytes has a range of its own behind F0 and F4
        have hmid : step ⟨3, low, high, n / 262144⟩ (UInt8.ofNat (n / 4096 % 64 + 0x80)) =
            ([], ⟨2, 0x80, 0xBF, n / 4096⟩) := by
          refine step_more rfl hlow hhigh (by omega) ?_
          dsimp only
          omega
        have hmid' : step ⟨2, 0x80, 0xBF, n / 4096⟩ (UInt8.ofNat (n / 64 % 64 + 0x80)) =
            ([], ⟨1, 0x80, 0xBF, n / 64⟩) := by
          refine step_more rfl ?_ ?_ (by omega) ?_ <;> dsimp only <;> omega
        have hlast : step ⟨1, 0x80, 0xBF, n / 64⟩ (UInt8.ofNat (n % 64 + 0x80)) =
            ([Char.ofNat n], start) := by
          refine step_last rfl ?_ ?_ (by omega) ?_ <;> dsimp only <;> omega
        rw [decode, step_first (by omega), hfirst, decode, hmid, decode, hmid', decode, hlast,
          hchar]
        rfl

/-- `str::as_bytes`. -/
def encode (text : List Char) : List UInt8 := text.flatMap String.utf8EncodeChar

theorem encode_cons (c : Char) (text : List Char) :
    encode (c :: text) = String.utf8EncodeChar c ++ encode text := List.flatMap_cons

theorem encode_append (x y : List Char) : encode (x ++ y) = encode x ++ encode y :=
  List.flatMap_append

theorem decode_encode (text : List Char) : decode start (encode text) = (text, start) := by
  induction text with
  | nil => rfl
  | cons c text ih =>
    rw [encode_cons, decode_append, decode_encodeChar, ih]
    rfl

/-- Texts with bytes behind them that are equal are equal as characters. -/
theorem encode_append_decode {text text' : List Char} {bytes bytes' : List UInt8}
    (h : encode text ++ bytes = encode text' ++ bytes') :
    text ++ (decode start bytes).1 = text' ++ (decode start bytes').1 := by
  have hdecode := congrArg (fun bytes => (decode start bytes).1) h
  simp only [decode_append, decode_encode] at hdecode
  exact hdecode

/-- Decoding reads back what encoding wrote. -/
theorem lossy_encode (text : List Char) : lossy (encode text) = text := by
  rw [lossy, decode_encode]
  exact List.append_nil _

/-! ## Characters that were cut

A character that is cut decodes to more than one U+FFFD, so that a text shows where it was cut. -/

/-- A character takes only continuation bytes. -/
def State.Sound (s : State) : Prop := s.owed ≠ 0 → 0x80 ≤ s.low ∧ s.high ≤ 0xBF

theorem sound_start : start.Sound := fun h => absurd rfl h

theorem first_sound (b : ℕ) : (first b).2.Sound := by
  unfold first
  iterate 9 (split; · simp [State.Sound, start])
  exact sound_start

theorem step_sound (s : State) (b : UInt8) : (step s b).2.Sound := by
  unfold step
  split
  · dsimp only
    split
    · exact sound_start
    · intro _
      exact ⟨Nat.le_refl _, Nat.le_refl _⟩
  · exact first_sound b.toNat

theorem decode_sound {s : State} (hs : s.Sound) (bytes : List UInt8) :
    (decode s bytes).2.Sound := by
  induction bytes generalizing s with
  | nil => exact hs
  | cons b bytes ih => exact ih (step_sound s b)

/-- A continuation byte without a character before it. -/
theorem step_start_of_takes {s : State} (hs : s.Sound) {b : UInt8}
    (h : s.takes b.toNat = true) : step start b = ([replacement], start) := by
  simp only [State.takes, decide_eq_true_eq] at h
  have hrange := hs h.1
  have hnot : ¬ start.takes b.toNat = true := by simp [start, State.takes]
  unfold step
  rw [if_neg hnot, first, if_neg (by omega), if_pos (by omega)]
  rfl

/-- The text of some bytes, from a state on. -/
def lossyFrom (s : State) (bytes : List UInt8) : List Char :=
  (decode s bytes).1 ++ (decode s bytes).2.broken

theorem lossyFrom_cons (s : State) (b : UInt8) (bytes : List UInt8) :
    lossyFrom s (b :: bytes) = (step s b).1 ++ lossyFrom (step s b).2 bytes := by
  rw [lossyFrom, decode, List.append_assoc]
  rfl

theorem lossyFrom_start (bytes : List UInt8) : lossyFrom start bytes = lossy bytes := rfl

theorem lossy_cons_of_takes {s : State} (hs : s.Sound) {b : UInt8}
    (h : s.takes b.toNat = true) (bytes : List UInt8) :
    lossy (b :: bytes) = replacement :: lossy bytes := by
  rw [← lossyFrom_start, lossyFrom_cons, step_start_of_takes hs h]
  rfl

theorem broken_length (s : State) : s.broken.length ≤ 1 := by
  rw [State.broken]
  split <;> simp

/-- A byte that goes on with a character stands for one character less than it does alone. -/
theorem lossyFrom_of_takes {s : State} (hs : s.Sound) {b : UInt8}
    (h : s.takes b.toNat = true) {bytes : List UInt8}
    (hrest : ∀ {s' : State}, s'.Sound →
      (lossyFrom s' bytes).length ≤ (lossy bytes).length + s'.broken.length) :
    (lossyFrom s (b :: bytes)).length ≤ (lossy (b :: bytes)).length := by
  rw [lossy_cons_of_takes hs h, lossyFrom_cons, step, if_pos h, List.length_cons]
  dsimp only
  split
  · rw [lossyFrom_start, List.length_append, Nat.add_comm]
    exact Nat.le_refl _
  · have hlater : State.Sound ⟨s.owed - 1, 0x80, 0xBF, s.code * 64 + b.toNat % 64⟩ :=
      fun _ => ⟨Nat.le_refl _, Nat.le_refl _⟩
    rw [List.nil_append]
    exact Nat.le_trans (hrest hlater) (Nat.add_le_add_left (broken_length _) _)

/-- What a character under way adds at most. -/
theorem lossyFrom_length {s : State} (hs : s.Sound) (bytes : List UInt8) :
    (lossyFrom s bytes).length ≤ (lossy bytes).length + s.broken.length := by
  induction bytes generalizing s with
  | nil => exact Nat.le_add_left _ _
  | cons b bytes ih =>
    by_cases h : s.takes b.toNat = true
    · exact Nat.le_trans (lossyFrom_of_takes hs h ih) (Nat.le_add_right _ _)
    · rw [lossyFrom, decode_of_not_takes h, List.append_assoc, List.length_append, Nat.add_comm]
      exact Nat.le_refl _

theorem lossy_append_from (a b : List UInt8) :
    lossy (a ++ b) = (decode start a).1 ++ lossyFrom (decode start a).2 b := by
  rw [lossy, decode_append, List.append_assoc]
  rfl

/-- Cutting inside a character makes the text longer. -/
theorem lossy_append_lt {a b : List UInt8} (h : InsideChar a b) :
    (lossy (a ++ b)).length < (lossy a).length + (lossy b).length := by
  obtain ⟨x, rest, rfl, htakes⟩ := h
  have hs : (decode start a).2.Sound := decode_sound sound_start a
  have howed : (decode start a).2.owed ≠ 0 := by
    simp only [State.takes, decide_eq_true_eq] at htakes
    exact htakes.1
  have hbroken : (decode start a).2.broken.length = 1 := by
    rw [State.broken, if_neg howed]
    rfl
  have hfrom : (lossyFrom (decode start a).2 (x :: rest)).length ≤ (lossy (x :: rest)).length :=
    lossyFrom_of_takes hs htakes fun hs' => lossyFrom_length hs' rest
  rw [lossy_append_from, List.length_append, lossy, List.length_append, hbroken]
  omega

/-- Cutting never makes the text shorter. -/
theorem lossy_append_le (a b : List UInt8) :
    (lossy (a ++ b)).length ≤ (lossy a).length + (lossy b).length := by
  by_cases h : InsideChar a b
  · exact Nat.le_of_lt (lossy_append_lt h)
  · exact Nat.le_of_eq ((congrArg List.length (lossy_append h)).trans List.length_append)

theorem lossy_flatten_le (chunks : List (List UInt8)) :
    (lossy chunks.flatten).length ≤ (chunks.map lossy).flatten.length := by
  induction chunks with
  | nil => exact Nat.le_refl _
  | cons c chunks ih =>
    rw [List.flatten_cons, List.map_cons, List.flatten_cons, List.length_append]
    exact Nat.le_trans (lossy_append_le c _) (Nat.add_le_add_left ih _)

/-- Chunks whose text is no longer than it has to be are cut between characters. -/
theorem cutBetweenChars_of_length {chunks : List (List UInt8)}
    (h : (chunks.map lossy).flatten.length ≤ (lossy chunks.flatten).length) :
    CutBetweenChars chunks := by
  rintro before after rfl hin
  have hlt := lossy_append_lt hin
  have hbefore := lossy_flatten_le before
  have hafter := lossy_flatten_le after
  rw [List.flatten_append, List.map_append, List.flatten_append, List.length_append] at h
  omega

/-! ## Encoded text that was cut -/

/-- A byte that decodes to nothing leaves a character under way. -/
theorem first_quiet {b : ℕ} (h : (first b).1 = []) : (first b).2.owed ≠ 0 := by
  revert h
  unfold first
  iterate 9 (split; · simp [start])
  simp

theorem step_quiet {s : State} {b : UInt8} (h : (step s b).1 = []) : (step s b).2.owed ≠ 0 := by
  revert h
  unfold step
  split
  · rename_i htakes
    simp only [State.takes, decide_eq_true_eq] at htakes
    dsimp only
    split
    · simp
    · intro _
      show s.owed - 1 ≠ 0
      omega
  · intro h
    exact first_quiet (List.append_eq_nil_iff.mp h).2

theorem decode_quiet {s : State} {bytes : List UInt8} (hne : bytes ≠ [])
    (h : (decode s bytes).1 = []) : (decode s bytes).2.owed ≠ 0 := by
  induction bytes generalizing s with
  | nil => exact absurd rfl hne
  | cons b bytes ih =>
    rw [decode] at h ⊢
    obtain ⟨hb, hbytes⟩ := List.append_eq_nil_iff.mp h
    cases bytes with
    | nil => exact step_quiet hb
    | cons x bytes => exact ih (by simp) hbytes

/-- The beginning of a character, without its end. -/
theorem lossy_beginning {c : Char} {p q : List UInt8} (h : String.utf8EncodeChar c = p ++ q)
    (hp : p ≠ []) (hq : q ≠ []) : lossy p = [replacement] := by
  have hall := decode_encodeChar c
  rw [h, decode_append] at hall
  obtain ⟨hout, hend⟩ := Prod.mk.inj hall
  have hquiet : (decode start p).1 = [] := by
    rcases List.append_eq_singleton_iff.mp hout with ⟨hnil, -⟩ | ⟨-, hnil⟩
    · exact hnil
    · -- the end decodes to something, or a character were still under way
      have hmore := decode_quiet hq hnil
      rw [hend] at hmore
      exact absurd rfl hmore
  rw [lossy, hquiet, State.broken, if_neg (decode_quiet hp hquiet)]
  rfl

/-- A byte inside a character. -/
theorem step_continuation (m : ℕ) :
    step start (UInt8.ofNat (m % 64 + 0x80)) = ([replacement], start) := by
  rw [step_first (by omega), first, if_neg (by omega), if_pos (by omega)]

theorem step_tail {c : Char} {b : UInt8} (h : b ∈ (String.utf8EncodeChar c).tail) :
    step start b = ([replacement], start) := by
  revert h
  unfold String.utf8EncodeChar
  dsimp only
  split
  · simp
  · split
    · simp only [List.tail_cons, List.mem_singleton]
      rintro rfl
      exact step_continuation _
    · split
      · simp only [List.tail_cons, List.mem_cons, List.not_mem_nil, or_false]
        rintro (rfl | rfl)
        · exact step_continuation _
        · exact step_continuation _
      · simp only [List.tail_cons, List.mem_cons, List.not_mem_nil, or_false]
        rintro (rfl | rfl | rfl)
        · exact step_continuation _
        · exact step_continuation _
        · exact step_continuation _

theorem encodeChar_ne_nil (c : Char) : String.utf8EncodeChar c ≠ [] := by
  intro h
  have := decode_encodeChar c
  rw [h] at this
  exact absurd this (by simp [decode])

/-- Bytes from the insides of characters. -/
theorem decode_tails {bytes : List UInt8} (h : ∀ b ∈ bytes, step start b = ([replacement], start)) :
    decode start bytes = (List.replicate bytes.length replacement, start) := by
  induction bytes with
  | nil => rfl
  | cons b bytes ih =>
    rw [decode, h b List.mem_cons_self, ih fun x hx => h x (List.mem_cons_of_mem b hx)]
    rfl

theorem lossy_tails {chunks : List (List UInt8)}
    (h : ∀ b ∈ chunks.flatten, step start b = ([replacement], start)) :
    (chunks.map lossy).flatten = List.replicate chunks.flatten.length replacement := by
  induction chunks with
  | nil => rfl
  | cons chunk chunks ih =>
    rw [List.flatten_cons] at h ⊢
    have hchunk : lossy chunk = List.replicate chunk.length replacement := by
      rw [lossy, decode_tails fun b hb => h b (List.mem_append_left _ hb)]
      exact List.append_nil _
    rw [List.map_cons, List.flatten_cons, hchunk, ih fun b hb => h b (List.mem_append_right _ hb),
      List.length_append, List.replicate_add]

/-- A text whose characters may have been cut: then they are some U+FFFD. Those of one byte are as
they were. -/
inductive Frayed : List Char → List Char → Prop
  | nil : Frayed [] []
  | whole (c : Char) {text text' : List Char} : Frayed text text' → Frayed (c :: text) (c :: text')
  | cut (c : Char) (n : ℕ) {text text' : List Char} : 0x80 ≤ c.val.toNat → Frayed text text' →
      Frayed (c :: text) (List.replicate (n + 1) replacement ++ text')

/-- The bytes of one character, cut into chunks. -/
theorem frayed_char {c : Char} {chunks : List (List UInt8)}
    (h : chunks.flatten = String.utf8EncodeChar c) :
    (chunks.map lossy).flatten = [c] ∨
      0x80 ≤ c.val.toNat ∧
        ∃ n, (chunks.map lossy).flatten = List.replicate (n + 1) replacement := by
  induction chunks with
  | nil => exact absurd h.symm (encodeChar_ne_nil c)
  | cons chunk chunks ih =>
    cases chunk with
    | nil => exact ih h
    | cons b chunk =>
      rw [List.flatten_cons] at h
      have htails : ∀ x ∈ chunks.flatten, step start x = ([replacement], start) := by
        intro x hx
        apply step_tail (c := c)
        rw [← h]
        exact List.mem_append_right _ hx
      rw [List.map_cons, List.flatten_cons, lossy_tails htails]
      by_cases hrest : chunks.flatten = []
      · left
        rw [hrest, List.append_nil] at h
        rw [hrest, h, lossy, decode_encodeChar]
        rfl
      · right
        rw [lossy_beginning h.symm (by simp) hrest]
        refine ⟨?_, chunks.flatten.length, by rw [List.replicate_succ]; rfl⟩
        by_contra hascii
        -- a character of one byte has no rest
        have hone : (String.utf8EncodeChar c).length = 1 := by
          unfold String.utf8EncodeChar
          dsimp only
          rw [if_pos (by omega)]
          rfl
        have hpos := List.length_pos_iff.mpr hrest
        rw [← h, List.length_append, List.length_cons] at hone
        omega

/-- No suffix of an encoded text ends inside a character. -/
theorem decode_suffix {text : List Char} {u : List UInt8} (h : u <:+ encode text) :
    (decode start u).2 = start := by
  induction text with
  | nil =>
    rw [List.suffix_nil.mp h]
    rfl
  | cons c text ih =>
    rw [encode_cons] at h
    obtain ⟨t, ht⟩ := h
    rcases List.append_eq_append_iff.mp ht with ⟨v, hc, rfl⟩ | ⟨v, -, hu⟩
    · -- `v` is the end of the first character
      have hv : (decode start v).2 = start := by
        cases t with
        | nil =>
          rw [List.nil_append] at hc
          rw [← hc, decode_encodeChar]
        | cons b t =>
          rw [decode_tails]
          intro x hx
          apply step_tail (c := c)
          rw [hc]
          exact List.mem_append_right _ hx
      rw [decode_append, hv]
      exact congrArg Prod.snd (decode_encode text)
    · exact ih ⟨v, hu.symm⟩

/-- Chunks can be cut again where an encoded text ends. -/
theorem exists_cut {chunks : List (List UInt8)} {a b : List UInt8}
    (ha : ∀ u, u <:+ a → (decode start u).2 = start) (h : chunks.flatten = a ++ b) :
    ∃ left right : List (List UInt8), left.flatten = a ∧ right.flatten = b ∧
      (chunks.map lossy).flatten = (left.map lossy).flatten ++ (right.map lossy).flatten := by
  induction chunks generalizing a with
  | nil =>
    obtain ⟨rfl, rfl⟩ := List.append_eq_nil_iff.mp h.symm
    exact ⟨[], [], rfl, rfl, rfl⟩
  | cons chunk chunks ih =>
    rw [List.flatten_cons] at h
    rcases List.append_eq_append_iff.mp h with ⟨a', rfl, hrest⟩ | ⟨v, rfl, hb⟩
    · -- the chunk ends before the cut
      obtain ⟨left, right, hleft, hright, htext⟩ :=
        ih (fun u hu => ha u (hu.trans (List.suffix_append _ _))) hrest
      refine ⟨chunk :: left, right, ?_, hright, ?_⟩
      · rw [List.flatten_cons, hleft]
      · rw [List.map_cons, List.flatten_cons, htext, List.map_cons, List.flatten_cons,
          List.append_assoc]
    · -- the cut is in the chunk
      refine ⟨[a], v :: chunks, ?_, ?_, ?_⟩
      · simp
      · rw [List.flatten_cons, hb]
      · have hcut : ¬ InsideChar a v := by
          rintro ⟨x, rest, -, htakes⟩
          rw [ha a (List.suffix_refl a)] at htakes
          exact absurd htakes (by simp [start, State.takes])
        simp only [List.map_cons, List.flatten_cons, List.map_nil, List.flatten_nil,
          List.append_nil, lossy_append hcut, List.append_assoc]

/-- However an encoded text is cut, it only frays. -/
theorem frayed_chunks {chunks : List (List UInt8)} {text : List Char}
    (h : chunks.flatten = encode text) : Frayed text (chunks.map lossy).flatten := by
  induction text generalizing chunks with
  | nil =>
    have hnone := @lossy_tails chunks (by rw [h]; simp [encode])
    rw [hnone, h]
    exact Frayed.nil
  | cons c text ih =>
    rw [encode_cons] at h
    obtain ⟨left, right, hleft, hright, htext⟩ := exists_cut (fun u hu => by
      apply @decode_suffix [c]
      rw [encode_cons]
      exact hu.trans (by simp [encode])) h
    rw [htext]
    rcases frayed_char hleft with hone | ⟨hc, n, hcut⟩
    · rw [hone]
      exact Frayed.whole c (ih hright)
    · rw [hcut]
      exact Frayed.cut c n hc (ih hright)

namespace Frayed

theorem append_inv {x y text' : List Char} (h : Frayed (x ++ y) text') :
    ∃ x' y', text' = x' ++ y' ∧ Frayed x x' ∧ Frayed y y' := by
  induction x generalizing text' with
  | nil => exact ⟨[], text', rfl, nil, h⟩
  | cons c x ih =>
    rw [List.cons_append] at h
    cases h with
    | whole _ h =>
      obtain ⟨x', y', rfl, hx, hy⟩ := ih h
      exact ⟨c :: x', y', rfl, whole c hx, hy⟩
    | cut _ n hc h =>
      obtain ⟨x', y', rfl, hx, hy⟩ := ih h
      exact ⟨_, y', (List.append_assoc _ _ _).symm, cut c n hc hx, hy⟩

/-- Characters of one byte cannot be cut. -/
theorem ascii {x x' : List Char} (h : Frayed x x') (hx : ∀ c ∈ x, c.val.toNat < 0x80) : x' = x := by
  induction h with
  | nil => rfl
  | whole c _ ih => rw [ih fun d hd => hx d (List.mem_cons_of_mem c hd)]
  | cut c n hc _ _ => exact absurd (hx c List.mem_cons_self) (by omega)

/-- A text of characters of one byte shows that nothing was cut. -/
theorem of_ascii {x x' : List Char} (h : Frayed x x') (hx : ∀ c ∈ x', c.val.toNat < 0x80) :
    x' = x := by
  induction h with
  | nil => rfl
  | whole c _ ih => rw [ih fun d hd => hx d (List.mem_cons_of_mem c hd)]
  | cut c n _ _ _ =>
    have hfirst := hx replacement (List.mem_append_left _ (List.mem_replicate.mpr ⟨by simp, rfl⟩))
    exact absurd hfirst (by decide)

theorem mem {x x' : List Char} (h : Frayed x x') {c : Char} (hc : c ∈ x') :
    c ∈ x ∨ c = replacement := by
  induction h with
  | nil => exact Or.inl hc
  | whole d _ ih =>
    rcases List.mem_cons.mp hc with rfl | hrest
    · exact Or.inl List.mem_cons_self
    · exact (ih hrest).imp_left (List.mem_cons_of_mem d)
  | cut d n _ _ ih =>
    rcases List.mem_append.mp hc with hd | hrest
    · exact Or.inr (List.eq_of_mem_replicate hd)
    · exact (ih hrest).imp_left (List.mem_cons_of_mem d)

/-- The first character is still there, or replaced. -/
theorem head? {x x' : List Char} (h : Frayed x x') {c : Char} (hc : c ∈ x'.head?) :
    c ∈ x.head? ∨ c = replacement := by
  cases h with
  | nil => exact Or.inl hc
  | whole d _ => exact Or.inl hc
  | cut d n _ _ => exact Or.inr (Option.some.inj hc).symm

theorem append {x x' y y' : List Char} (hx : Frayed x x') (hy : Frayed y y') :
    Frayed (x ++ y) (x' ++ y') := by
  induction hx with
  | nil => exact hy
  | whole c _ ih => exact whole c ih
  | cut c n hc _ ih =>
    rw [List.append_assoc]
    exact cut c n hc ih

theorem reverse {x x' : List Char} (h : Frayed x x') : Frayed x.reverse x'.reverse := by
  induction h with
  | nil => exact nil
  | whole c _ ih =>
    rw [List.reverse_cons, List.reverse_cons]
    exact ih.append (whole c nil)
  | cut c n hc _ ih =>
    rw [List.reverse_cons, List.reverse_append, List.reverse_replicate]
    apply ih.append
    have hlast := cut c n hc nil
    rwa [List.append_nil] at hlast

end Frayed

end Solvela.Lib.Utf8
