/-
Tram/Splice.lean

Rebuilding a number from its low part and a second number close to it.

A sender keeps only `p % M` of a number `p`; a receiver holds some other
number `now` and completes the low part with the high part of `now`:

    splice M now (p % M) = now / M * M + p % M.

The completion is right exactly when `now` and `p` lie in the same block of
`M` consecutive numbers, however close they are (`splice_mod_eq_iff`).  Whether
the completed number is behind `now` depends on the low parts alone
(`splice_lt_iff`), so it is misjudged as soon as a block boundary lies between
the two (`mod_lt_mod_iff`).

A run of intervals without a gap that is longer than a block has a boundary in
one of them (`ends_in_block`).

The last section is the mask-and-or form of the completion, for `M` a power
of two.
-/
import Mathlib.Data.List.Chain
import Mathlib.Data.Nat.Bitwise
import Mathlib.Tactic.Ring

namespace Tram

/-- The high part of `now` completed with `low`. -/
def splice (M now low : ℕ) : ℕ := now / M * M + low

/-! ### When the completion recovers the number -/

theorem splice_self (M now : ℕ) : splice M now (now % M) = now := by
  rw [splice, Nat.mul_comm]
  exact Nat.div_add_mod now M

theorem splice_congr {M now now' low : ℕ} (h : now / M = now' / M) :
    splice M now low = splice M now' low := by
  rw [splice, splice, h]

theorem splice_div {M low : ℕ} (hM : 0 < M) (hlow : low < M) (now : ℕ) :
    splice M now low / M = now / M := by
  rw [splice, Nat.mul_comm, Nat.mul_add_div hM, Nat.div_eq_of_lt hlow, Nat.add_zero]

/-- The completion recovers `p` exactly when both numbers share a block. -/
theorem splice_mod_eq_iff {M : ℕ} (hM : 0 < M) (now p : ℕ) :
    splice M now (p % M) = p ↔ now / M = p / M := by
  constructor
  · intro h
    rw [← splice_div hM (Nat.mod_lt p hM) now, h]
  · intro h
    rw [splice_congr h, splice_self]

/-- The completion lies behind `now` exactly when its low part does. -/
theorem splice_lt_iff (M now low : ℕ) : splice M now low < now ↔ low < now % M := by
  have hnow : now / M * M + now % M = now := by
    rw [Nat.mul_comm]
    exact Nat.div_add_mod now M
  rw [splice]
  omega

/-- For a number behind `now` by less than a block, the order of the low parts
tells whether a block boundary lies between them. -/
theorem mod_lt_mod_iff {M now p : ℕ} (hlt : p < now) (hnear : now - p < M) :
    p % M < now % M ↔ now / M = p / M := by
  have hnow : M * (now / M) + now % M = now := Nat.div_add_mod now M
  have hp : M * (p / M) + p % M = p := Nat.div_add_mod p M
  constructor
  · intro h
    by_contra hne
    -- different blocks: `p` is in the block right before that of `now`
    have hle : p / M ≤ now / M := Nat.div_le_div_right hlt.le
    have hstep : p / M + 1 ≤ now / M := by omega
    have hmul : M * (p / M + 1) ≤ M * (now / M) := Nat.mul_le_mul_left M hstep
    have hexp : M * (p / M + 1) = M * (p / M) + M := by ring
    omega
  · intro h
    rw [h] at hnow
    omega

/-! ### Gapless intervals -/

/-- A number between two of one block is of that block. -/
theorem div_eq_of_between {M a b c : ℕ} (hab : a ≤ b) (hbc : b ≤ c) (h : a / M = c / M) :
    b / M = c / M :=
  le_antisymm (Nat.div_le_div_right hbc) (h ▸ Nat.div_le_div_right hab)

/-- When each interval starts no later than the one before it ends, and none has
a block boundary inside, all ends are in one block. -/
theorem ends_in_block {M : ℕ} {intervals : List (ℕ × ℕ)}
    (hordered : intervals.Pairwise fun p q => p.2 ≤ q.2)
    (hgapless : intervals.IsChain fun p q => q.1 ≤ p.2)
    (hblock : ∀ p ∈ intervals, p.1 / M = p.2 / M) :
    ∀ p ∈ intervals, ∀ q ∈ intervals, p.2 / M = q.2 / M := by
  induction intervals with
  | nil => exact fun p hp => absurd hp List.not_mem_nil
  | cons p rest ih =>
      obtain ⟨hle, hrest⟩ := List.pairwise_cons.mp hordered
      have ih := ih hrest hgapless.tail fun q hq => hblock q (List.mem_cons_of_mem _ hq)
      rcases rest with - | ⟨q, rest⟩
      · intro r hr r' hr'
        rw [List.mem_singleton.mp hr, List.mem_singleton.mp hr']
      · have hnext : p.2 / M = q.2 / M :=
          div_eq_of_between (List.isChain_cons_cons.mp hgapless).1 (hle q List.mem_cons_self)
            (hblock q (List.mem_cons_of_mem _ List.mem_cons_self))
        have hall : ∀ r ∈ p :: q :: rest, r.2 / M = q.2 / M := by
          intro r hr
          rcases List.mem_cons.mp hr with rfl | hr
          · exact hnext
          · exact ih r hr q List.mem_cons_self
        exact fun r hr r' hr' => (hall r hr).trans (hall r' hr').symm

/-- Numbers of one block differ by less than its length. -/
theorem lt_add_of_div_eq {M a b : ℕ} (hM : 0 < M) (h : a / M = b / M) : b < a + M := by
  have ha : M * (a / M) + a % M = a := Nat.div_add_mod a M
  have hb : M * (b / M) + b % M = b := Nat.div_add_mod b M
  have hmod := Nat.mod_lt b hM
  rw [h] at ha
  omega

/-! ### The mask form -/

/-- Masking out the low `w` bits of a `(w + v)`-bit number. -/
theorem and_highMask {w v now : ℕ} (hnow : now < 2 ^ (w + v)) :
    now &&& ((2 ^ v - 1) <<< w) = now / 2 ^ w * 2 ^ w := by
  rw [← Nat.shiftRight_eq_div_pow, ← Nat.shiftLeft_eq]
  refine Nat.eq_of_testBit_eq fun i => ?_
  rw [Nat.testBit_and, Nat.testBit_shiftLeft, Nat.testBit_shiftLeft, Nat.testBit_shiftRight,
    Nat.testBit_two_pow_sub_one]
  -- bit by bit: the mask keeps bits `w` to `w + v`, and `now` has none above
  by_cases hi : w ≤ i
  · by_cases hv : i - w < v
    · simp [hi, hv]
    · have hbit : now.testBit i = false :=
        Nat.testBit_lt_two_pow (hnow.trans_le (Nat.pow_le_pow_right (by decide) (by omega)))
      simp [hi, hv, hbit]
  · simp [hi]

/-- `(now & mask) | low` is the completion of `low`. -/
theorem and_highMask_or {w v now low : ℕ} (hnow : now < 2 ^ (w + v)) (hlow : low < 2 ^ w) :
    (now &&& ((2 ^ v - 1) <<< w)) ||| low = splice (2 ^ w) now low := by
  rw [and_highMask hnow, splice, ← Nat.shiftLeft_eq, Nat.shiftLeft_add_eq_or_of_lt hlow]

end Tram
