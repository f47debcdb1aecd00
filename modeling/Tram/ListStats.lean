/-
Tram/ListStats.lean

Descriptive statistics of a list: its extremes as folds, its floored mean, the
sum of the squared deviations from a number, and the differences of
neighbours.

The fold that keeps the least value seen, started above all values, ends at
the least of them (`isLeast_foldl_min`); the differences of neighbours add up
to the difference of the ends (`sum_differences`), and reversing a list
reverses and negates them (`differences_reverse`).

`HeadDecides n l` says of the first `n` values of a list that they have the
extremes and the floored mean of all of them, in terms of the values behind.
-/
import Mathlib.Algebra.Order.BigOperators.Group.List
import Mathlib.Algebra.Order.Ring.Int
import Mathlib.Algebra.BigOperators.Group.List.Basic
import Mathlib.Data.List.Chain
import Mathlib.Data.Nat.Sqrt
import Mathlib.Order.Bounds.Basic
import Mathlib.Tactic.Ring

namespace Tram

/-! ### Extremes -/

section Extremes

variable {α : Type*} [LinearOrder α]

theorem isLeast_foldl_min {l : List α} {a : α} (hne : l ≠ []) (h : ∀ x ∈ l, x ≤ a) :
    IsLeast {x | x ∈ l} (l.foldl min a) := by
  rcases hmin : l.min? with - | m
  · exact absurd (List.min?_eq_none_iff.mp hmin) hne
  · obtain ⟨hmem, hle⟩ := List.min?_eq_some_iff.mp hmin
    have hfold : l.foldl min a = m := by
      rw [List.foldl_min, hmin]
      exact min_eq_right (h m hmem)
    rw [hfold]
    exact ⟨hmem, fun x hx => hle x hx⟩

theorem isGreatest_foldl_max {l : List α} {a : α} (hne : l ≠ []) (h : ∀ x ∈ l, a ≤ x) :
    IsGreatest {x | x ∈ l} (l.foldl max a) :=
  @isLeast_foldl_min αᵒᵈ _ l a hne h

/-- The least of the first values is the least of all when none behind them is
below them all. -/
theorem isLeast_take_iff {l : List α} {n : ℕ} {m : α} (h : IsLeast {x | x ∈ l.take n} m) :
    IsLeast {x | x ∈ l} m ↔ ∀ x ∈ l.drop n, ∃ y ∈ l.take n, y ≤ x := by
  constructor
  · intro hall x hx
    exact ⟨m, h.1, hall.2 (List.mem_of_mem_drop hx)⟩
  · intro hrest
    refine ⟨List.mem_of_mem_take h.1, fun x hx => ?_⟩
    have hparts : x ∈ l.take n ++ l.drop n := by
      rw [List.take_append_drop]
      exact hx
    rcases List.mem_append.mp hparts with hx | hx
    · exact h.2 hx
    · obtain ⟨y, hy, hle⟩ := hrest x hx
      exact (h.2 hy).trans hle

theorem isGreatest_take_iff {l : List α} {n : ℕ} {m : α} (h : IsGreatest {x | x ∈ l.take n} m) :
    IsGreatest {x | x ∈ l} m ↔ ∀ x ∈ l.drop n, ∃ y ∈ l.take n, x ≤ y :=
  @isLeast_take_iff αᵒᵈ _ l n m h

end Extremes

/-! ### The floored mean -/

/-- The mean of natural numbers is at least any lower bound of theirs. -/
theorem le_mean {l : List ℕ} {lo : ℕ} (hne : l ≠ []) (h : ∀ x ∈ l, lo ≤ x) :
    lo ≤ l.sum / l.length := by
  rw [Nat.le_div_iff_mul_le (List.length_pos_iff.mpr hne), Nat.mul_comm]
  exact List.card_nsmul_le_sum l lo h

/-- The mean is not above a number exactly when the sum falls short of the
number's successor, taken as often as there are values. -/
theorem mean_le_iff {l : List ℕ} (hne : l ≠ []) (x : ℕ) :
    l.sum / l.length ≤ x ↔ l.sum < l.length * (x + 1) := by
  rw [← Nat.lt_succ_iff, Nat.div_lt_iff_lt_mul (List.length_pos_iff.mpr hne), Nat.mul_comm]

/-- A quotient stays when what is added fits behind the remainder. -/
theorem div_eq_add_div_iff {a b n : ℤ} (hn : 0 < n) (hb : 0 ≤ b) :
    a / n = (a + b) / n ↔ a % n + b < n := by
  have hrem : 0 ≤ a % n := Int.emod_nonneg a hn.ne'
  have hsplit : (a + b) / n = (a % n + b) / n + a / n := by
    rw [← Int.add_mul_ediv_left _ _ hn.ne', add_right_comm, Int.emod_add_mul_ediv]
  rw [hsplit]
  constructor
  · intro h
    have hzero : (a % n + b) / n < 1 := by omega
    rw [Int.ediv_lt_iff_lt_mul hn, one_mul] at hzero
    exact hzero
  · intro h
    rw [Int.ediv_eq_zero_of_lt (by omega) h, zero_add]

/-! ### The first values -/

/-- The values behind the first `n` lie between these, and their sum does not
take the mean further. -/
structure HeadDecides (n : ℕ) (l : List ℤ) : Prop where
  least : ∀ x ∈ l.drop n, ∃ y ∈ l.take n, y ≤ x
  greatest : ∀ x ∈ l.drop n, ∃ y ∈ l.take n, x ≤ y
  mean : (l.take n).sum % l.length + (l.drop n).sum < l.length

/-- Nothing is behind the whole list. -/
theorem HeadDecides.of_length_le {n : ℕ} {l : List ℤ} (hne : l ≠ []) (h : l.length ≤ n) :
    HeadDecides n l := by
  have hdrop : l.drop n = [] := List.drop_eq_nil_of_le h
  have hpos : 0 < (l.length : ℤ) := Int.natCast_pos.mpr (List.length_pos_iff.mpr hne)
  refine ⟨?_, ?_, ?_⟩ <;> rw [hdrop]
  · exact fun x hx => absurd hx List.not_mem_nil
  · exact fun x hx => absurd hx List.not_mem_nil
  · rw [List.sum_nil, add_zero]
    exact Int.emod_lt_of_pos _ hpos

/-! ### Squared deviations -/

/-- The sum of the squared deviations from `m`. -/
def sqDeviations (m : ℕ) (l : List ℕ) : ℕ := (l.map fun x : ℕ => ((x : ℤ) - m).natAbs ^ 2).sum

@[simp] theorem sqDeviations_nil (m : ℕ) : sqDeviations m [] = 0 := rfl

@[simp] theorem sqDeviations_cons (m x : ℕ) (l : List ℕ) :
    sqDeviations m (x :: l) = ((x : ℤ) - m).natAbs ^ 2 + sqDeviations m l := by
  rw [sqDeviations, List.map_cons, List.sum_cons, sqDeviations]

theorem sqDeviations_perm {l l' : List ℕ} (h : l.Perm l') (m : ℕ) :
    sqDeviations m l = sqDeviations m l' :=
  (h.map _).sum_eq

/-- Deviations of at most `d` have squares of at most `d ^ 2`. -/
theorem sqDeviations_le {m d : ℕ} {l : List ℕ} (h : ∀ x ∈ l, ((x : ℤ) - m).natAbs ≤ d) :
    sqDeviations m l ≤ l.length * d ^ 2 := by
  have hsum := List.sum_le_card_nsmul (l.map fun x : ℕ => ((x : ℤ) - m).natAbs ^ 2) (d ^ 2) (by
    intro y hy
    obtain ⟨x, hx, rfl⟩ := List.mem_map.mp hy
    exact Nat.pow_le_pow_left (h x hx) 2)
  rwa [List.length_map] at hsum

/-- The root of the mean square deviation is at most the largest deviation. -/
theorem sqrt_sqDeviations_le {m d : ℕ} {l : List ℕ} (h : ∀ x ∈ l, ((x : ℤ) - m).natAbs ≤ d) :
    Nat.sqrt (sqDeviations m l / l.length) ≤ d := by
  rw [← Nat.sqrt_eq' d]
  exact Nat.sqrt_le_sqrt (Nat.div_le_of_le_mul (sqDeviations_le h))

/-! ### Differences of neighbours -/

section Differences

variable {α : Type*} [AddCommGroup α]

/-- Each value but the first less the one before it. -/
def differences : List α → List α
  | [] => []
  | [_] => []
  | a :: b :: l => (b - a) :: differences (b :: l)

theorem differences_length (l : List α) : (differences l).length = l.length - 1 := by
  induction l with
  | nil => rfl
  | cons a l ih =>
      cases l with
      | nil => rfl
      | cons b l =>
          rw [differences, List.length_cons, ih]
          rfl

/-- The differences telescope. -/
theorem sum_differences (a : α) (l : List α) :
    (differences (a :: l)).sum = (a :: l).getLast (List.cons_ne_nil a l) - a := by
  induction l generalizing a with
  | nil => simp [differences]
  | cons b l ih =>
      rw [differences, List.sum_cons, ih b, List.getLast_cons_cons]
      exact sub_add_sub_cancel' b a _

theorem differences_concat (l : List α) (a b : α) :
    differences (l ++ [a, b]) = differences (l ++ [a]) ++ [b - a] := by
  induction l with
  | nil => rfl
  | cons c l ih =>
      rcases l with - | ⟨d, l⟩
      · rfl
      · simp only [List.cons_append, differences] at ih ⊢
        rw [ih]

theorem differences_reverse (l : List α) :
    differences l.reverse = ((differences l).map Neg.neg).reverse := by
  induction l with
  | nil => rfl
  | cons a l ih =>
      rcases l with - | ⟨b, l⟩
      · rfl
      · rw [List.reverse_cons, List.reverse_cons, List.append_assoc]
        rw [List.reverse_cons] at ih
        rw [List.singleton_append, differences_concat, ih, differences, List.map_cons,
          List.reverse_cons, neg_sub]

/-- The differences of a list that goes up are not negative. -/
theorem differences_nonneg [PartialOrder α] [IsOrderedAddMonoid α] {l : List α}
    (h : l.IsChain (· ≤ ·)) : ∀ d ∈ differences l, 0 ≤ d := by
  induction l with
  | nil => exact fun d hd => absurd hd List.not_mem_nil
  | cons a l ih =>
      rcases l with - | ⟨b, l⟩
      · exact fun d hd => absurd hd List.not_mem_nil
      · obtain ⟨hab, hrest⟩ := List.isChain_cons_cons.mp h
        intro d hd
        rcases List.mem_cons.mp hd with rfl | hd
        · exact sub_nonneg.mpr hab
        · exact ih hrest d hd

/-- No difference is zero exactly when no two neighbours are equal. -/
theorem zero_notMem_differences {l : List α} : 0 ∉ differences l ↔ l.IsChain (· ≠ ·) := by
  induction l with
  | nil => exact iff_of_true List.not_mem_nil .nil
  | cons a l ih =>
      rcases l with - | ⟨b, l⟩
      · exact iff_of_true List.not_mem_nil (.singleton a)
      · rw [differences, List.mem_cons, List.isChain_cons_cons, ← ih, not_or]
        refine and_congr_left fun _ => not_congr ?_
        rw [eq_comm, sub_eq_zero, eq_comm]

end Differences

end Tram
