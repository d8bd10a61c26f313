import Mathlib.Data.List.Basic
import Mathlib.Tactic.Ring

/-!
# Byte layouts

A layout writes a value as bytes. It is *prefix-free* when what it wrote can be split off the
front of any longer string: values of a fixed width are, and so is a prefix-free layout after
another one. Two layouts are *apart* when no string starts with an output of both.

`leValue` is the number that little-endian bytes denote.
-/

namespace Solvela.Lib

/-! ## Prefix-free layouts -/

section Layouts
variable {α γ B : Type}

/-- The output of `f` can be split off the front of a longer string. -/
def PrefixFree (f : α → List B) : Prop :=
  ∀ a a' s s', f a ++ s = f a' ++ s' → a = a' ∧ s = s'

theorem PrefixFree.injective {f : α → List B} (h : PrefixFree f) : Function.Injective f := by
  intro a a' heq
  apply And.left
  apply h a a' [] []
  rw [heq]

/-- A field of a fixed width. -/
theorem prefixFree_of_width {f : α → List B} {n : ℕ} (hwidth : ∀ a, (f a).length = n)
    (hinj : Function.Injective f) : PrefixFree f := by
  intro a a' s s' heq
  have hlen : (f a).length = (f a').length := by rw [hwidth, hwidth]
  have hsplit := List.append_inj heq hlen
  exact ⟨hinj hsplit.1, hsplit.2⟩

/-- One field after another. -/
theorem PrefixFree.append {f : α → List B} {g : γ → List B} (hf : PrefixFree f)
    (hg : PrefixFree g) : PrefixFree fun p : α × γ => f p.1 ++ g p.2 := by
  intro p p' s s' heq
  simp only [List.append_assoc] at heq
  have hfirst := hf _ _ _ _ heq
  have hsecond := hg _ _ _ _ hfirst.2
  exact ⟨Prod.ext hfirst.1 hsecond.1, hsecond.2⟩

/-- A fixed tag in front. -/
theorem PrefixFree.tagged {f : α → List B} (hf : PrefixFree f) (tag : List B) :
    PrefixFree fun a => tag ++ f a := by
  intro a a' s s' heq
  simp only [List.append_assoc] at heq
  exact hf _ _ _ _ (List.append_cancel_left heq)

/-- Two tags that differ at a place both have start no common string. -/
theorem append_ne_of_getElem {tag tag' : List B} {i : ℕ} {b b' : B} (hb : tag[i]? = some b)
    (hb' : tag'[i]? = some b') (hne : b ≠ b') (s s' : List B) : tag ++ s ≠ tag' ++ s' := by
  have hlen := (List.getElem?_eq_some_iff.mp hb).1
  have hlen' := (List.getElem?_eq_some_iff.mp hb').1
  intro heq
  have hat : (tag ++ s)[i]? = (tag' ++ s')[i]? := by rw [heq]
  rw [List.getElem?_append_left hlen, List.getElem?_append_left hlen', hb, hb'] at hat
  exact hne (Option.some.inj hat)

end Layouts

/-! ## Little-endian numbers -/

/-- The number that little-endian bytes denote. -/
def leValue : List UInt8 → ℕ
  | [] => 0
  | b :: bytes => b.toNat + 256 * leValue bytes

/-- The `k` little-endian bytes of a number. -/
def leDigits (k n : ℕ) : List UInt8 := (List.range k).map fun i => UInt8.ofNat (n / 256 ^ i % 256)

@[simp] theorem length_leDigits (k n : ℕ) : (leDigits k n).length = k := by
  rw [leDigits, List.length_map, List.length_range]

theorem leDigits_succ (k n : ℕ) :
    leDigits (k + 1) n = UInt8.ofNat (n % 256) :: leDigits k (n / 256) := by
  unfold leDigits
  rw [List.range_succ_eq_map, List.map_cons, List.map_map, pow_zero, Nat.div_one]
  congr 1
  apply List.map_congr_left
  intro i _
  show UInt8.ofNat (n / 256 ^ (i + 1) % 256) = UInt8.ofNat (n / 256 / 256 ^ i % 256)
  rw [Nat.div_div_eq_div_mul, pow_succ']

/-- Reading back what was written gives the number, modulo what fits. -/
theorem leValue_leDigits (k : ℕ) : ∀ n, leValue (leDigits k n) = n % 256 ^ k := by
  induction k with
  | zero =>
    intro n
    show 0 = n % 1
    omega
  | succ k ih =>
    intro n
    have hbyte : (UInt8.ofNat (n % 256)).toNat = n % 256 := by
      rw [UInt8.toNat_ofNat']
      omega
    rw [leDigits_succ, leValue, hbyte, ih, pow_succ', Nat.mod_mul]

theorem leDigits_injOn {k n n' : ℕ} (hn : n < 256 ^ k) (hn' : n' < 256 ^ k)
    (h : leDigits k n = leDigits k n') : n = n' := by
  have hvalue := congrArg leValue h
  rw [leValue_leDigits, leValue_leDigits, Nat.mod_eq_of_lt hn, Nat.mod_eq_of_lt hn'] at hvalue
  exact hvalue

end Solvela.Lib
