/-
Tram/Words.lean

The C integer types of the sources as natural numbers (unsigned) and
integers (signed), with the wrap-around of every conversion written out.

Unsigned arithmetic is done in `ℕ` and reduced once at the end: reducing
after every addition and multiplication gives the same word.  A subtraction
first adds the modulus (`subU64`).
-/
import Mathlib.Tactic.Ring

namespace Tram

/-! ### Unsigned words -/

/-- Conversion to `uint8_t`. -/
def u8 (n : ℕ) : ℕ := n % 2 ^ 8

/-- Conversion to `uint16_t`. -/
def u16 (n : ℕ) : ℕ := n % 2 ^ 16

/-- Conversion to `uint32_t`. -/
def u32 (n : ℕ) : ℕ := n % 2 ^ 32

/-- Conversion to `uint64_t`. -/
def u64 (n : ℕ) : ℕ := n % 2 ^ 64

/-- `a - b` in `uint8_t`. -/
def subU8 (a b : ℕ) : ℕ := (a + (2 ^ 8 - b % 2 ^ 8)) % 2 ^ 8

/-- `a - b` in `uint32_t`. -/
def subU32 (a b : ℕ) : ℕ := (a + (2 ^ 32 - b % 2 ^ 32)) % 2 ^ 32

/-- `a - b` in `uint64_t`. -/
def subU64 (a b : ℕ) : ℕ := (a + (2 ^ 64 - b % 2 ^ 64)) % 2 ^ 64

theorem u32_lt (n : ℕ) : u32 n < 2 ^ 32 := Nat.mod_lt n (by decide)

theorem u64_lt (n : ℕ) : u64 n < 2 ^ 64 := Nat.mod_lt n (by decide)

theorem u32_of_lt {n : ℕ} (h : n < 2 ^ 32) : u32 n = n := Nat.mod_eq_of_lt h

theorem u64_of_lt {n : ℕ} (h : n < 2 ^ 64) : u64 n = n := Nat.mod_eq_of_lt h

theorem subU64_of_le {a b : ℕ} (hle : b ≤ a) (ha : a < 2 ^ 64) : subU64 a b = a - b := by
  rw [subU64]
  omega

/-! ### Signed words -/

/-- Conversion of a mathematical integer to a 32-bit `int`. -/
def i32 (x : ℤ) : ℤ := (x + 2 ^ 31) % 2 ^ 32 - 2 ^ 31

/-- Conversion of an `int` to `uint32_t`. -/
def intToU32 (x : ℤ) : ℕ := (x % 2 ^ 32).toNat

/-- Conversion of an `int` to `uint64_t`. -/
def intToU64 (x : ℤ) : ℕ := (x % 2 ^ 64).toNat

/-- `x` is a value of the C type `int`. -/
def IsInt (x : ℤ) : Prop := -2 ^ 31 ≤ x ∧ x < 2 ^ 31

instance (x : ℤ) : Decidable (IsInt x) := inferInstanceAs (Decidable (_ ∧ _))

theorem isInt_i32 (x : ℤ) : IsInt (i32 x) := by
  rw [IsInt, i32]
  omega

theorem intToU32_lt (x : ℤ) : intToU32 x < 2 ^ 32 := by
  rw [intToU32]
  omega

/-- An `int` from zero to its maximum stays what it is. -/
theorem i32_natCast {n : ℕ} (h : n < 2 ^ 31) : i32 n = n := by
  rw [i32]
  omega

theorem intToU64_natCast {n : ℕ} (h : n < 2 ^ 64) : intToU64 n = n := by
  rw [intToU64]
  omega

/-! ### Conversions from `double`

The two conversions below are undefined in C for a value outside the target
type, so they are partial.  Their arguments are integral products computed
in `double`: these are exact below `2 ^ 53`, and rounding never takes a
larger one back into range. -/

/-- Conversion of an integral `double` to `int`. -/
def doubleToInt (x : ℤ) : Option ℤ := if IsInt x then some x else none

/-- Conversion of an integral non-negative `double` to `uint32_t`. -/
def doubleToU32 (x : ℕ) : Option ℕ := if x < 2 ^ 32 then some x else none

end Tram
