/-
Tram/BitField.lean

Bit fields of a fixed-size header.

A header is a number; a field is `w` bits from bit `sh` on.  Writing a field
(`setBits`) puts the value, masked to the width, in place of these bits.
The two read-after-write laws follow from what a write does to every bit
(`testBit_setBits`).  The last section turns header bytes, most significant
byte first, into a number and back.
-/
import Mathlib.Data.Nat.Bitwise
import Mathlib.Data.List.Induction
import Mathlib.Tactic.Ring

namespace Tram

/-! ### Reading and writing a field -/

/-- The `w` bits of `h` from bit `sh` on. -/
def getBits (h sh w : ℕ) : ℕ := (h >>> sh) % 2 ^ w

/-- Replace the `w` bits of `h` from bit `sh` on by the low bits of `v`. -/
def setBits (h sh w v : ℕ) : ℕ :=
  (h >>> (sh + w)) <<< (sh + w) ||| (v % 2 ^ w) <<< sh ||| h % 2 ^ sh

theorem testBit_getBits (h sh w i : ℕ) :
    (getBits h sh w).testBit i = (decide (i < w) && h.testBit (sh + i)) := by
  rw [getBits, Nat.testBit_mod_two_pow, Nat.testBit_shiftRight]

theorem testBit_setBits (h sh w v i : ℕ) :
    (setBits h sh w v).testBit i
      = if sh ≤ i ∧ i < sh + w then v.testBit (i - sh) else h.testBit i := by
  rw [setBits, Nat.testBit_or, Nat.testBit_or, Nat.testBit_shiftLeft, Nat.testBit_shiftLeft,
    Nat.testBit_shiftRight, Nat.testBit_mod_two_pow, Nat.testBit_mod_two_pow]
  -- bit `i` is below, inside or above the field
  by_cases hlo : sh ≤ i
  · by_cases hhi : i < sh + w
    · have h1 : ¬ sh + w ≤ i := by omega
      have h2 : i - sh < w := by omega
      have h3 : ¬ i < sh := by omega
      simp [hlo, hhi, h1, h2, h3]
    · have h1 : sh + w ≤ i := by omega
      have h2 : ¬ i - sh < w := by omega
      have h3 : ¬ i < sh := by omega
      have h4 : sh + w + (i - (sh + w)) = i := by omega
      simp [hhi, h1, h2, h3, h4]
  · have h1 : ¬ sh + w ≤ i := by omega
    have h3 : i < sh := by omega
    simp [hlo, h1, h3]

/-- A field reads back what was written, masked to its width. -/
theorem getBits_setBits_same (h sh w v : ℕ) : getBits (setBits h sh w v) sh w = v % 2 ^ w := by
  refine Nat.eq_of_testBit_eq fun i => ?_
  rw [testBit_getBits, testBit_setBits, Nat.testBit_mod_two_pow]
  by_cases hi : i < w
  · simp [hi]
  · simp [hi]

/-- Two fields that share no bit. -/
def BitsDisjoint (sh w sh' w' : ℕ) : Prop := sh + w ≤ sh' ∨ sh' + w' ≤ sh

/-- Writing one field leaves a disjoint one alone. -/
theorem getBits_setBits_of_disjoint {sh w sh' w' : ℕ} (hd : BitsDisjoint sh w sh' w') (h v : ℕ) :
    getBits (setBits h sh w v) sh' w' = getBits h sh' w' := by
  refine Nat.eq_of_testBit_eq fun i => ?_
  rw [testBit_getBits, testBit_getBits, testBit_setBits]
  by_cases hi : i < w'
  · -- a bit of the field read is not one of the field written
    have hout : ¬ (sh ≤ sh' + i ∧ sh' + i < sh + w) := by
      rcases hd with hd | hd <;> omega
    rw [if_neg hout]
  · simp [hi]

/-- Writing a field inside an `n`-bit header gives an `n`-bit header. -/
theorem setBits_lt {h sh w n : ℕ} (hh : h < 2 ^ n) (hn : sh + w ≤ n) (v : ℕ) :
    setBits h sh w v < 2 ^ n := by
  refine Nat.lt_pow_two_of_testBit _ fun i hi => ?_
  rw [testBit_setBits, if_neg (by omega)]
  exact Nat.testBit_lt_two_pow (hh.trans_le (Nat.pow_le_pow_right (by decide) hi))

/-! ### Header bytes, most significant first -/

/-- The number a list of bytes stands for. -/
def beNat (bs : List UInt8) : ℕ := bs.foldl (fun n b => n * 256 + b.toNat) 0

/-- The `k` bytes of a number. -/
def beBytes : ℕ → ℕ → List UInt8
  | 0, _ => []
  | k + 1, n => beBytes k (n / 256) ++ [UInt8.ofNat (n % 256)]

theorem beNat_append (bs : List UInt8) (b : UInt8) :
    beNat (bs ++ [b]) = beNat bs * 256 + b.toNat := by
  simp only [beNat, List.foldl_append, List.foldl_cons, List.foldl_nil]

@[simp] theorem length_beBytes (k n : ℕ) : (beBytes k n).length = k := by
  induction k generalizing n with
  | zero => rfl
  | succ k ih => simp [beBytes, ih]

theorem beNat_beBytes {k : ℕ} : ∀ {n : ℕ}, n < 2 ^ (8 * k) → beNat (beBytes k n) = n := by
  induction k with
  | zero =>
      intro n hn
      have hzero : n = 0 := by simpa using hn
      subst hzero
      rfl
  | succ k ih =>
      intro n hn
      -- the last byte is the remainder, the bytes before it are the quotient
      have hpow : 2 ^ (8 * (k + 1)) = 2 ^ (8 * k) * 256 := by ring
      have hdiv : n / 256 < 2 ^ (8 * k) := by
        rw [Nat.div_lt_iff_lt_mul (by decide), ← hpow]
        exact hn
      have hbyte : (UInt8.ofNat (n % 256)).toNat = n % 256 := by
        rw [UInt8.toNat_ofNat']
        omega
      rw [beBytes, beNat_append, ih hdiv, hbyte]
      omega

theorem beNat_lt (bs : List UInt8) : beNat bs < 2 ^ (8 * bs.length) := by
  induction bs using List.reverseRecOn with
  | nil => decide
  | append_singleton bs b ih =>
      have hb : b.toNat < 256 := b.toNat_lt
      have hpow : 2 ^ (8 * (bs.length + 1)) = 2 ^ (8 * bs.length) * 256 := by ring
      rw [beNat_append, List.length_append, List.length_singleton, hpow]
      omega

end Tram
