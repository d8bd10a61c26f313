import Mathlib.Tactic.NormNum
import Mathlib.Data.List.Basic

/-!
# Reading a slice by offsets

Code that reads a byte slice keeps an offset into it, adds to the offset with machine arithmetic and
indexes the slice with checks: each of these faults when it goes wrong. A parser without any of this
takes the bytes from its position on and returns the bytes behind what it read.

`Follows` says that the code does as the parser at every offset within the slice: it returns the
same errors, or the same value at an offset where the parser's rest begins. So it does not fault and
its offset stays within the slice. `Follows.bind` and `Follows.times` carry this through sequences
and loops.
-/

namespace Solvela.Lib

/-- The width of a pointer. -/
inductive PointerWidth
  | bits32
  | bits64

/-- The largest size of an object. -/
def PointerWidth.isizeMax : PointerWidth → ℕ
  | .bits32 => 2 ^ 31 - 1
  | .bits64 => 2 ^ 63 - 1

/-- The largest machine word. -/
def PointerWidth.usizeMax (w : PointerWidth) : ℕ := 2 * w.isizeMax + 1

/-- The bits of a machine word. -/
def PointerWidth.bits : PointerWidth → ℕ
  | .bits32 => 32
  | .bits64 => 64

theorem PointerWidth.le_isizeMax (w : PointerWidth) : 2 ^ 31 - 1 ≤ w.isizeMax := by
  cases w with
  | bits32 => exact le_rfl
  | bits64 =>
    show 2 ^ 31 - 1 ≤ 2 ^ 63 - 1
    norm_num

theorem PointerWidth.two_pow_bits (w : PointerWidth) : 2 ^ w.bits = w.usizeMax + 1 := by
  cases w <;> rfl

/-- A byte slice. -/
structure Slice (w : PointerWidth) where
  bytes : List UInt8
  fits : bytes.length ≤ w.isizeMax

/-- How a run ends early: it faults, or it returns an error. -/
inductive Stop (ε : Type)
  | outOfBounds
  | overflow
  | lengthMismatch
  | returned (e : ε)
deriving DecidableEq

variable {w : PointerWidth} {ε α β : Type}

/-! ## Checked operations -/

/-- `a + b`. -/
def addUsize (w : PointerWidth) (a b : ℕ) : Except (Stop ε) ℕ :=
  if a + b ≤ w.usizeMax then .ok (a + b) else .error .overflow

/-- `a * b`. -/
def mulUsize (w : PointerWidth) (a b : ℕ) : Except (Stop ε) ℕ :=
  if a * b ≤ w.usizeMax then .ok (a * b) else .error .overflow

/-- `a << s`: the bits that leave the word are lost, and only the shift is checked. -/
def shlUsize (w : PointerWidth) (a s : ℕ) : Except (Stop ε) ℕ :=
  if s < w.bits then .ok ((a <<< s) % 2 ^ w.bits) else .error .overflow

/-- `data[i]`. -/
def Slice.index (data : Slice w) (i : ℕ) : Except (Stop ε) UInt8 :=
  match data.bytes[i]? with
  | some byte => .ok byte
  | none => .error .outOfBounds

/-- `data[a..b]`. -/
def Slice.range (data : Slice w) (a b : ℕ) : Except (Stop ε) (List UInt8) :=
  if a ≤ b ∧ b ≤ data.bytes.length then .ok ((data.bytes.drop a).take (b - a))
  else .error .outOfBounds

/-- `copy_from_slice` into an array of `n` bytes. -/
def copyFromSlice (n : ℕ) (bytes : List UInt8) : Except (Stop ε) (Vector UInt8 n) :=
  if h : bytes.length = n then .ok ⟨bytes.toArray, h⟩ else .error .lengthMismatch

/-- The error of a parser, returned. -/
def returning (result : Except ε α) : Except (Stop ε) α := result.mapError .returned

/-- A position within a slice leaves room for two gibibytes. -/
theorem addUsize_eq {data : Slice w} {a b : ℕ} (ha : a ≤ data.bytes.length) (hb : b ≤ 2 ^ 31) :
    (addUsize w a b : Except (Stop ε) ℕ) = .ok (a + b) := by
  have hfits := data.fits
  have hwidth := w.le_isizeMax
  apply if_pos
  unfold PointerWidth.usizeMax
  omega

theorem addUsize_small {a b : ℕ} (h : a + b < 2 ^ 32) :
    (addUsize w a b : Except (Stop ε) ℕ) = .ok (a + b) := by
  have hwidth := w.le_isizeMax
  apply if_pos
  unfold PointerWidth.usizeMax
  omega

theorem mulUsize_small {a b : ℕ} (h : a * b < 2 ^ 32) :
    (mulUsize w a b : Except (Stop ε) ℕ) = .ok (a * b) := by
  have hwidth := w.le_isizeMax
  apply if_pos
  unfold PointerWidth.usizeMax
  omega

theorem shlUsize_small {a s : ℕ} (hs : s < 32) (h : a <<< s < 2 ^ 32) :
    (shlUsize w a s : Except (Stop ε) ℕ) = .ok (a <<< s) := by
  have hwidth := w.le_isizeMax
  have hbits : s < w.bits := by
    cases w with
    | bits32 => exact hs
    | bits64 => exact hs.trans (by decide)
  have hfits : a <<< s < 2 ^ w.bits := by
    rw [w.two_pow_bits, PointerWidth.usizeMax]
    omega
  rw [shlUsize, if_pos hbits, Nat.mod_eq_of_lt hfits]

theorem Slice.index_eq {data : Slice w} {i : ℕ} {byte : UInt8} {rest : List UInt8}
    (h : data.bytes.drop i = byte :: rest) : (data.index i : Except (Stop ε) UInt8) = .ok byte := by
  have hget : data.bytes[i]? = some byte := by
    have hhead : (data.bytes.drop i)[0]? = some byte := by rw [h, List.getElem?_cons_zero]
    rw [List.getElem?_drop, Nat.add_zero] at hhead
    exact hhead
  unfold Slice.index
  rw [hget]

theorem Slice.range_eq {data : Slice w} {a n : ℕ} (h : a + n ≤ data.bytes.length) :
    (data.range a (a + n) : Except (Stop ε) (List UInt8)) = .ok ((data.bytes.drop a).take n) := by
  have hbounds : a ≤ a + n ∧ a + n ≤ data.bytes.length := by omega
  rw [Slice.range, if_pos hbounds, Nat.add_sub_cancel_left]

/-! ## Following a parser -/

/-- The code at an offset does as the parser on the bytes from there on. -/
def FollowsAt (data : Slice w) (offset : ℕ) (run : Except (Stop ε) (α × ℕ))
    (parse : Except ε (α × List UInt8)) : Prop :=
  match parse with
  | .error e => run = .error (.returned e)
  | .ok (a, rest) =>
    ∃ next, run = .ok (a, next) ∧ offset ≤ next ∧ next ≤ data.bytes.length ∧
      rest = data.bytes.drop next

/-- The code does as the parser at every offset within the slice. -/
def Follows (data : Slice w) (run : ℕ → Except (Stop ε) (α × ℕ))
    (parse : List UInt8 → Except ε (α × List UInt8)) : Prop :=
  ∀ offset ≤ data.bytes.length, FollowsAt data offset (run offset) (parse (data.bytes.drop offset))

theorem FollowsAt.mono {data : Slice w} {offset next : ℕ} {run : Except (Stop ε) (α × ℕ)}
    {parse : Except ε (α × List UInt8)} (h : FollowsAt data next run parse)
    (hle : offset ≤ next) : FollowsAt data offset run parse := by
  unfold FollowsAt at h ⊢
  split at h
  · exact h
  · obtain ⟨last, hlast, hle', hrest⟩ := h
    exact ⟨last, hlast, hle.trans hle', hrest⟩

theorem Follows.pure (data : Slice w) (a : α) :
    Follows data (fun offset => (.ok (a, offset) : Except (Stop ε) (α × ℕ)))
      fun rest => .ok (a, rest) :=
  fun offset hoffset => ⟨offset, rfl, le_rfl, hoffset, rfl⟩

/-- One after the other: the second need only follow for values that the first can return. -/
theorem Follows.bind {data : Slice w} {run : ℕ → Except (Stop ε) (α × ℕ)}
    {parse : List UInt8 → Except ε (α × List UInt8)}
    {run' : α × ℕ → Except (Stop ε) (β × ℕ)}
    {parse' : α × List UInt8 → Except ε (β × List UInt8)} (h : Follows data run parse)
    (h' : ∀ a, (∃ bytes rest, parse bytes = .ok (a, rest)) →
      Follows data (fun offset => run' (a, offset)) fun rest => parse' (a, rest)) :
    Follows data (fun offset => run offset >>= run') fun bytes => parse bytes >>= parse' := by
  intro offset hoffset
  have hfirst := h offset hoffset
  cases hparse : parse (data.bytes.drop offset) with
  | error e =>
    rw [hparse] at hfirst
    have hrun : run offset = .error (.returned e) := hfirst
    show FollowsAt data offset (run offset >>= run') (parse (data.bytes.drop offset) >>= parse')
    rw [hparse, hrun]
    rfl
  | ok p =>
    rw [hparse] at hfirst
    obtain ⟨next, hrun, hle, hnext, hrest⟩ := hfirst
    have hsecond := h' p.1 ⟨_, _, hparse⟩ next hnext
    have hp : p = (p.1, data.bytes.drop next) := Prod.ext rfl hrest
    show FollowsAt data offset (run offset >>= run') (parse (data.bytes.drop offset) >>= parse')
    rw [hparse, hrun]
    show FollowsAt data offset (run' (p.1, next)) (parse' p)
    rw [hp]
    exact hsecond.mono hle

/-- What is done to the value afterwards. -/
theorem Follows.map {data : Slice w} {run : ℕ → Except (Stop ε) (α × ℕ)}
    {parse : List UInt8 → Except ε (α × List UInt8)} (h : Follows data run parse) (f : α → β) :
    Follows data (fun offset => run offset >>= fun p => .ok (f p.1, p.2))
      fun bytes => parse bytes >>= fun p => .ok (f p.1, p.2) :=
  h.bind fun a _ => Follows.pure data (f a)

/-- `for _ in 0..n`, with what each iteration pushes. -/
def times (run : ℕ → Except (Stop ε) (α × ℕ)) : ℕ → ℕ → Except (Stop ε) (List α × ℕ)
  | 0, offset => .ok ([], offset)
  | n + 1, offset =>
    run offset >>= fun p => times run n p.2 >>= fun q => .ok (p.1 :: q.1, q.2)

/-- The same for a parser. -/
def parseTimes (parse : List UInt8 → Except ε (α × List UInt8)) :
    ℕ → List UInt8 → Except ε (List α × List UInt8)
  | 0, rest => .ok ([], rest)
  | n + 1, rest =>
    parse rest >>= fun p => parseTimes parse n p.2 >>= fun q => .ok (p.1 :: q.1, q.2)

theorem Follows.times {data : Slice w} {run : ℕ → Except (Stop ε) (α × ℕ)}
    {parse : List UInt8 → Except ε (α × List UInt8)} (h : Follows data run parse) (n : ℕ) :
    Follows data (times run n) (parseTimes parse n) := by
  induction n with
  | zero => exact Follows.pure data []
  | succ n ih => exact h.bind fun a _ => ih.map fun as => a :: as

/-- The run does not fault, and what it returns with is within the slice. -/
def Safe (data : Slice w) (run : Except (Stop ε) (α × ℕ)) : Prop :=
  match run with
  | .error stop => ∃ e, stop = .returned e
  | .ok (_, next) => next ≤ data.bytes.length

theorem FollowsAt.safe {data : Slice w} {offset : ℕ} {run : Except (Stop ε) (α × ℕ)}
    {parse : Except ε (α × List UInt8)} (h : FollowsAt data offset run parse) : Safe data run := by
  unfold FollowsAt at h
  split at h
  · rename_i e
    rw [h]
    exact ⟨e, rfl⟩
  · obtain ⟨next, hrun, -, hnext, -⟩ := h
    rw [hrun]
    exact hnext

/-- The value of the code is the value of the parser. -/
theorem FollowsAt.value {data : Slice w} {offset : ℕ} {run : Except (Stop ε) (α × ℕ)}
    {parse : Except ε (α × List UInt8)} (h : FollowsAt data offset run parse) :
    run.map Prod.fst = returning (parse.map Prod.fst) := by
  unfold FollowsAt at h
  split at h
  · rw [h]
    rfl
  · obtain ⟨next, hrun, -⟩ := h
    rw [hrun]
    rfl

end Solvela.Lib
