/-
Tram/Text.lean

Texts as lists of characters: numbers written with leading zeros and read back
at a fixed width, and a text cut at the last occurrence of a separator.
`readNumber_zpad` and `rsplit_append` are the two round trips.
-/
import Mathlib.Tactic.Ring

namespace Tram

/-! ### Numbers -/

/-- A number in decimal digits. -/
def decimal (n : ℕ) : List Char := Nat.toDigits 10 n

/-- A number in decimal digits, with leading zeros up to width `w`. -/
def zpad (w n : ℕ) : List Char := List.replicate (w - (decimal n).length) '0' ++ decimal n

theorem zpad_length {w n : ℕ} (hw : 0 < w) (hn : n < 10 ^ w) : (zpad w n).length = w := by
  have hle : (decimal n).length ≤ w := (Nat.length_toDigits_le_iff (by decide) hw).mpr hn
  rw [zpad, List.length_append, List.length_replicate]
  omega

theorem isDigit_of_mem_zpad {w n : ℕ} {c : Char} (hc : c ∈ zpad w n) : c.isDigit = true := by
  rcases List.mem_append.mp hc with hzero | hdigit
  · rw [(List.mem_replicate.mp hzero).2]
    rfl
  · exact Nat.isDigit_of_mem_toDigits (by decide) (by decide) hdigit

theorem ofDigitChars_zpad (w n : ℕ) : Nat.ofDigitChars 10 (zpad w n) 0 = n := by
  rw [zpad, Nat.ofDigitChars_append, Nat.ofDigitChars_replicate_zero, Nat.mul_zero]
  exact Nat.ofDigitChars_ten_toDigits

/-- A number that fills the width is written without leading zeros. -/
theorem zpad_eq_decimal {w n : ℕ} (hn : 10 ^ w ≤ n) : zpad (w + 1) n = decimal n := by
  have hlong : ¬ (decimal n).length ≤ w := by
    intro hle
    rcases Nat.eq_zero_or_pos w with rfl | hw
    · exact absurd (List.eq_nil_of_length_eq_zero (Nat.le_zero.mp hle)) Nat.toDigits_ne_nil
    · exact absurd ((Nat.length_toDigits_le_iff (by decide) hw).mp hle) (by omega)
  rw [zpad, show w + 1 - (decimal n).length = 0 by omega, List.replicate_zero, List.nil_append]

/-- Reads a number of `w` digits off the front of a text. -/
def readNumber (w : ℕ) (s : List Char) : Option (ℕ × List Char) :=
  if (s.take w).length = w ∧ (s.take w).all Char.isDigit then
    some (Nat.ofDigitChars 10 (s.take w) 0, s.drop w)
  else none

/-- A number is read back at the width it was written with. -/
theorem readNumber_zpad {w n : ℕ} (hw : 0 < w) (hn : n < 10 ^ w) (rest : List Char) :
    readNumber w (zpad w n ++ rest) = some (n, rest) := by
  have hlength := zpad_length hw hn
  have htake : (zpad w n ++ rest).take w = zpad w n := List.take_left' hlength
  have hdrop : (zpad w n ++ rest).drop w = rest := List.drop_left' hlength
  have hdigits : (zpad w n).all Char.isDigit = true :=
    List.all_eq_true.mpr fun _ hc => isDigit_of_mem_zpad hc
  rw [readNumber, htake, hdrop, if_pos ⟨hlength, hdigits⟩, ofDigitChars_zpad]

/-- Reads a fixed character off the front of a text. -/
def expect (c : Char) : List Char → Option (List Char)
  | [] => none
  | d :: s => if d = c then some s else none

@[simp] theorem expect_cons (c : Char) (s : List Char) : expect c (c :: s) = some s :=
  if_pos rfl

/-! ### Cutting -/

/-- A text cut at the last occurrence of a separator. -/
def rsplit (sep : Char) : List Char → Option (List Char × List Char)
  | [] => none
  | c :: s =>
      match rsplit sep s with
      | some (l, r) => some (c :: l, r)
      | none => if c = sep then some ([], s) else none

theorem rsplit_eq_none {sep : Char} {s : List Char} (h : sep ∉ s) : rsplit sep s = none := by
  induction s with
  | nil => rfl
  | cons c s ih =>
      have hc : c ≠ sep := fun heq => h (heq ▸ List.mem_cons_self)
      have hs : sep ∉ s := fun hmem => h (List.mem_cons_of_mem c hmem)
      rw [rsplit, ih hs]
      exact if_neg hc

/-- A separator in front of a text without one is the last. -/
theorem rsplit_append {sep : Char} (l : List Char) {r : List Char} (h : sep ∉ r) :
    rsplit sep (l ++ sep :: r) = some (l, r) := by
  induction l with
  | nil =>
      rw [List.nil_append, rsplit, rsplit_eq_none h]
      exact if_pos rfl
  | cons c l ih => rw [List.cons_append, rsplit, ih]

/-- Every occurrence of a non-empty text taken out, from left to right;
`skip` characters of the current occurrence are still to be dropped. -/
def eraseText (old : List Char) (skip : ℕ) : List Char → List Char
  | [] => []
  | c :: s =>
      if 0 < skip then eraseText old (skip - 1) s
      else if old.isPrefixOf (c :: s) then eraseText old (old.length - 1) s
      else c :: eraseText old 0 s

end Tram
