/-
Tram/Deviation.lean

The standard deviation of `process_stat`.

The deviation of a sample from the mean is formed in `uint64_t`.  A sample
below the mean gives a number near `2 ^ 64`, whose square is no `uint64_t`,
and the conversion back yields an unspecified value.  The mean is floored, so
it is below every sample only if it equals the least one: the samples then
exceed that one by less than one on average.  An array the loops do not get to
the end of has its mean from a part of it (`processStat_std_iff`).
-/
import Tram.StatSummary

namespace Tram

/-! ### Exact arithmetic -/

/-- `pow` and `sqrt` without rounding.  A result that is no `uint64_t` is
still unspecified. -/
structure DoubleOps.Exact (ops : DoubleOps) : Prop where
  addPow_eq : ∀ {std d : ℕ}, std + d ^ 2 < 2 ^ 64 → ops.addPow std d = std + d ^ 2
  sqrt_eq : ∀ q : ℕ, ops.sqrt q = Nat.sqrt q

/-- Exact operations whose conversion of too large a number gives `c`. -/
def resettingOps (c : ℕ) : DoubleOps :=
  ⟨fun std d => if std + d ^ 2 < 2 ^ 64 then std + d ^ 2 else c, Nat.sqrt, fun _ => c⟩

theorem resettingOps_exact (c : ℕ) : (resettingOps c).Exact :=
  ⟨fun h => if_pos h, fun _ => rfl⟩

/-! ### The accumulated number -/

theorem subU64_natAbs_of_le {x mean : ℕ} (hx : x < 2 ^ 64) (hle : mean ≤ x) :
    subU64 x mean = ((x : ℤ) - mean).natAbs := by
  rw [subU64_of_le hle hx]
  omega

/-- No sample below the mean: the sum of the squared deviations. -/
theorem deviationSum_of_le {ops : DoubleOps} (hops : ops.Exact) {mean : ℕ} {values : List ℕ}
    (hlt : ∀ x ∈ values, x < 2 ^ 64) (hle : ∀ x ∈ values, mean ≤ x) :
    ∀ {std : ℕ}, std + sqDeviations mean values < 2 ^ 64 →
      deviationSum ops mean values std = std + sqDeviations mean values := by
  induction values with
  | nil =>
      intro std _
      rfl
  | cons x values ih =>
      intro std hfit
      rw [sqDeviations_cons, ← Nat.add_assoc] at hfit ⊢
      have hstep : ops.addPow std (subU64 x mean) = std + ((x : ℤ) - mean).natAbs ^ 2 := by
        rw [subU64_natAbs_of_le (hlt x List.mem_cons_self) (hle x List.mem_cons_self)]
        exact hops.addPow_eq (by omega)
      rw [← ih (fun y hy => hlt y (List.mem_cons_of_mem x hy))
        (fun y hy => hle y (List.mem_cons_of_mem x hy)) hfit, ← hstep]
      rfl

/-- The deviation of a sample below the mean wraps, and its square does not fit. -/
theorem wrapped_square {x mean : ℕ} (hmean : mean < 2 ^ 64) (hlow : x < mean)
    (hfit : ((x : ℤ) - mean).natAbs ^ 2 < 2 ^ 64) : 2 ^ 64 ≤ subU64 x mean ^ 2 := by
  have hnear : ((x : ℤ) - mean).natAbs < 2 ^ 32 :=
    lt_of_pow_lt_pow_left₀ 2 (Nat.zero_le _) (hfit.trans_eq (by norm_num))
  have hwrap : 2 ^ 32 ≤ subU64 x mean := by
    rw [subU64, Nat.mod_eq_of_lt hmean]
    omega
  calc 2 ^ 64 = (2 ^ 32) ^ 2 := by norm_num
    _ ≤ subU64 x mean ^ 2 := Nat.pow_le_pow_left hwrap 2

/-- A conversion to zero loses what has been accumulated, the square of the
sample below the mean at least. -/
theorem deviationSum_zeroing {mean : ℕ} (hmean : mean < 2 ^ 64) {values : List ℕ}
    (hlt : ∀ x ∈ values, x < 2 ^ 64) :
    ∀ {std : ℕ}, std + sqDeviations mean values < 2 ^ 64 →
      deviationSum (resettingOps 0) mean values std ≤ std + sqDeviations mean values ∧
        ((∃ x ∈ values, x < mean) →
          deviationSum (resettingOps 0) mean values std < std + sqDeviations mean values) := by
  induction values with
  | nil =>
      intro std _
      exact ⟨le_rfl, fun ⟨x, hx, _⟩ => absurd hx List.not_mem_nil⟩
  | cons x values ih =>
      intro std hfit
      rw [sqDeviations_cons, ← Nat.add_assoc] at hfit ⊢
      have hrest := fun y hy => hlt y (List.mem_cons_of_mem x hy)
      by_cases hlow : x < mean
      · have hsquare := wrapped_square hmean hlow (by omega)
        have hzero : (resettingOps 0).addPow std (subU64 x mean) = 0 := if_neg (by omega)
        have hpos : 0 < ((x : ℤ) - mean).natAbs ^ 2 := Nat.pow_pos (by omega)
        obtain ⟨hle, -⟩ := @ih hrest 0 (by omega)
        have hsum : deviationSum (resettingOps 0) mean (x :: values) std
            = deviationSum (resettingOps 0) mean values 0 := by
          show deviationSum _ mean values ((resettingOps 0).addPow std (subU64 x mean)) = _
          rw [hzero]
        rw [hsum]
        exact ⟨by omega, fun _ => by omega⟩
      · have hstep : (resettingOps 0).addPow std (subU64 x mean)
            = std + ((x : ℤ) - mean).natAbs ^ 2 := by
          rw [subU64_natAbs_of_le (hlt x List.mem_cons_self) (Nat.le_of_not_lt hlow)]
          exact if_pos (by omega)
        obtain ⟨hle, hlost⟩ := @ih hrest _ hfit
        have hsum : deviationSum (resettingOps 0) mean (x :: values) std
            = deviationSum (resettingOps 0) mean values (std + ((x : ℤ) - mean).natAbs ^ 2) := by
          rw [← hstep]
          rfl
        rw [hsum]
        refine ⟨hle, fun ⟨y, hy, hylow⟩ => hlost ?_⟩
        rcases List.mem_cons.mp hy with rfl | hy
        · exact absurd hylow hlow
        · exact ⟨y, hy, hylow⟩

/-- A conversion to one never loses everything. -/
theorem deviationSum_pos {mean : ℕ} {values : List ℕ} (hne : values ≠ [])
    (hdev : ∀ x ∈ values, 0 < subU64 x mean) (std : ℕ) :
    0 < deviationSum (resettingOps 1) mean values std := by
  induction values generalizing std with
  | nil => exact absurd rfl hne
  | cons x values ih =>
      have hstep : 0 < (resettingOps 1).addPow std (subU64 x mean) := by
        have hsquare := Nat.pow_pos (n := 2) (hdev x List.mem_cons_self)
        show 0 < ite _ _ _
        split <;> omega
      rcases List.eq_nil_or_concat values with rfl | ⟨_, _, hmore⟩
      · exact hstep
      · exact ih (by rw [hmore]; simp) (fun y hy => hdev y (List.mem_cons_of_mem x hy)) _

/-! ### The standard deviation -/

/-- With exact arithmetic `process_stat` accumulates the sum of the squared
deviations from the floored mean; the reported `std` does not depend on the
order of the samples, and is at most the difference of their extremes. -/
def StdOfData (values : List ℕ) : Prop :=
  ∀ ops : DoubleOps, ops.Exact → ∀ data : HeapArray, data.Filled values 0 →
    ∃ sums stat, processStatSums ops data values.length avbStatsStatInit = .ok sums ∧
      processStat ops data values.length avbStatsStatInit = .ok stat ∧
      sums.std = sqDeviations (values.sum / values.length) values ∧
      (∀ values' data', values'.Perm values → HeapArray.Filled data' values' 0 →
        ∃ stat', processStat ops data' values'.length avbStatsStatInit = .ok stat' ∧
          stat'.std = stat.std) ∧
      ∀ lo hi, (∀ x ∈ values, lo ≤ x ∧ x ≤ hi) → stat.std ≤ hi - lo

theorem lt_of_sum_lt {values : List ℕ} (hsum : values.sum < 2 ^ 64) :
    ∀ x ∈ values, x < 2 ^ 64 :=
  fun x hx => Nat.lt_of_le_of_lt (List.single_le_sum (fun _ _ => Nat.zero_le _) x hx) hsum

/-- An `int` counts the samples: the loops get to the end of the array. -/
theorem processStatSums_whole (ops : DoubleOps) {data : HeapArray} {values : List ℕ}
    (h : data.Filled values 0) (hne : values ≠ []) (hlen : values.length ≤ 2 ^ 31)
    (hsum : values.sum < 2 ^ 64) :
    processStatSums ops data values.length avbStatsStatInit
      = .ok {
          min := values.foldl min (2 ^ 64 - 1)
          max := values.foldl max 0
          mean := values.sum / values.length
          std := deviationSum ops (values.sum / values.length) values 0
          count := values.length } := by
  have hsums := processStatSums_filled ops h hne (by omega) hsum
  rwa [List.take_of_length_le hlen] at hsums

/-- The standard deviation reported when no sample is below the mean. -/
theorem processStat_std {ops : DoubleOps} (hops : ops.Exact) {data : HeapArray} {values : List ℕ}
    (h : data.Filled values 0) (hne : values ≠ []) (hlen : values.length ≤ 2 ^ 31)
    (hsum : values.sum < 2 ^ 64)
    (hsq : sqDeviations (values.sum / values.length) values < 2 ^ 64)
    (hle : ∀ x ∈ values, values.sum / values.length ≤ x) :
    ∃ sums stat, processStatSums ops data values.length avbStatsStatInit = .ok sums ∧
      processStat ops data values.length avbStatsStatInit = .ok stat ∧
      sums.std = sqDeviations (values.sum / values.length) values ∧
      stat.std
        = Nat.sqrt (sqDeviations (values.sum / values.length) values / values.length) := by
  have hdev := @deviationSum_of_le ops hops _ values (lt_of_sum_lt hsum) hle 0 (by omega)
  rw [Nat.zero_add] at hdev
  have hsums := processStatSums_whole ops h hne hlen hsum
  refine ⟨_, _, hsums, processStat_of_sums hsums, hdev, ?_⟩
  rw [← hdev]
  exact hops.sqrt_eq _

/-- The loops do not get to the end of an array of equal samples: their mean
comes out too low. -/
theorem not_stdOfData_equal {values : List ℕ} (hne : values ≠ []) (hsum : values.sum < 2 ^ 64)
    (hlong : 2 ^ 31 < values.length) (hfits : values.length < 2 ^ 61) {v : ℕ} (hv : 0 < v)
    (hequal : ∀ x ∈ values, x = v) : ¬ StdOfData values := by
  intro h
  obtain ⟨sums, -, hsums, -, hacc, -, -⟩ :=
    h (resettingOps 1) (resettingOps_exact 1) _ (HeapArray.filled_ofValues values)
  rw [processStatSums_filled _ (HeapArray.filled_ofValues values) hne hfits hsum] at hsums
  have hstd : deviationSum (resettingOps 1) ((values.take (2 ^ 31)).sum / values.length)
      (values.take (2 ^ 31)) 0 = sums.std := congrArg Stat.std (Except.ok.inj hsums)
  have hlength : (values.take (2 ^ 31)).length < values.length := by
    rw [List.length_take]
    omega
  have hhead : values.take (2 ^ 31) ≠ [] :=
    fun h0 => hne ((List.take_eq_nil_iff.mp h0).resolve_left (by norm_num))
  generalize 2 ^ 31 = n at hstd hlength hhead
  have hvalues : values = List.replicate values.length v := List.eq_replicate_of_mem hequal
  have htake : values.take n = List.replicate (values.take n).length v :=
    List.eq_replicate_of_mem fun x hx => hequal x (List.mem_of_mem_take hx)
  have hlow : (values.take n).sum / values.length < v := by
    rw [htake, List.sum_replicate_nat, Nat.div_lt_iff_lt_mul (by omega), Nat.mul_comm v]
    exact Nat.mul_lt_mul_of_pos_right hlength hv
  have hmean : values.sum / values.length = v := by
    have hsumv : values.sum = values.length * v := by
      rw [hvalues, List.sum_replicate_nat, List.length_replicate]
    rw [hsumv, Nat.mul_div_cancel_left _ (by omega)]
  have hzero : sqDeviations v values = 0 := by
    rw [hvalues]
    simp [sqDeviations]
  have hpos := @deviationSum_pos ((values.take n).sum / values.length) _ hhead (fun x hx => by
    have hword := lt_of_sum_lt hsum x (List.mem_of_mem_take hx)
    rw [hequal x (List.mem_of_mem_take hx)] at hword ⊢
    rw [subU64_of_le hlow.le hword]
    omega) 0
  rw [hmean, hzero, ← hstd] at hacc
  omega

/-- **The standard deviation.**  For samples whose sums are 64-bit words, as
many as the `int` of the loops counts, `process_stat` accumulates their squared
deviations exactly when they exceed the least of them by less than one on
average: no sample is below the floored mean.  Of more samples, the loops leave
out the last ones: of equal ones, not zero, the deviation comes out wrong. -/
theorem processStat_std_iff {values : List ℕ} (hne : values ≠ []) (hsum : values.sum < 2 ^ 64)
    (hsq : sqDeviations (values.sum / values.length) values < 2 ^ 64) :
    (values.length ≤ 2 ^ 31 →
      (StdOfData values ↔ ∀ x ∈ values, values.sum < values.length * (x + 1))) ∧
    (2 ^ 31 < values.length → values.length < 2 ^ 61 → ∀ v, 0 < v → (∀ x ∈ values, x = v) →
      ¬ StdOfData values) := by
  refine ⟨fun hlen => ?_, fun hlong hfits v => not_stdOfData_equal hne hsum hlong hfits⟩
  have hmean : (∀ x ∈ values, values.sum < values.length * (x + 1)) ↔
      ∀ x ∈ values, values.sum / values.length ≤ x :=
    forall₂_congr fun x _ => (mean_le_iff hne x).symm
  rw [hmean]
  constructor
  · intro h
    obtain ⟨sums, -, hsums, -, hacc, -, -⟩ :=
      h (resettingOps 0) (resettingOps_exact 0) _ (HeapArray.filled_ofValues values)
    by_contra hlow
    push Not at hlow
    rw [processStatSums_whole _ (HeapArray.filled_ofValues values) hne hlen hsum] at hsums
    have hmeanlt : values.sum / values.length < 2 ^ 64 :=
      Nat.lt_of_le_of_lt (Nat.div_le_self _ _) hsum
    obtain ⟨-, hlost⟩ := @deviationSum_zeroing _ hmeanlt values (lt_of_sum_lt hsum) 0 (by omega)
    have hstd : deviationSum (resettingOps 0) (values.sum / values.length) values 0 = sums.std :=
      congrArg Stat.std (Except.ok.inj hsums)
    have hless := hlost hlow
    omega
  · intro hle ops hops data hfilled
    obtain ⟨sums, stat, hsums, hstat, hacc, hstd⟩ :=
      processStat_std hops hfilled hne hlen hsum hsq hle
    refine ⟨sums, stat, hsums, hstat, hacc, ?_, ?_⟩
    · intro values' data' hperm hfilled'
      have hne' : values' ≠ [] := by
        rintro rfl
        exact hne hperm.nil_eq.symm
      have hmeans : values'.sum / values'.length = values.sum / values.length := by
        rw [hperm.sum_eq, hperm.length_eq]
      obtain ⟨-, stat', -, hstat', -, hstd'⟩ := processStat_std hops hfilled' hne'
        (hperm.length_eq ▸ hlen) (hperm.sum_eq ▸ hsum)
        (by rw [hmeans, sqDeviations_perm hperm]; exact hsq)
        (fun x hx => hmeans ▸ hle x (hperm.mem_iff.mp hx))
      refine ⟨stat', hstat', ?_⟩
      rw [hstd', hstd, hmeans, sqDeviations_perm hperm, hperm.length_eq]
    · intro lo hi hbounds
      rw [hstd]
      refine sqrt_sqDeviations_le fun x hx => ?_
      have hlo := le_mean hne fun y hy => (hbounds y hy).1
      have hx' := hle x hx
      have hhi := (hbounds x hx).2
      omega

/-- Two samples, one of them below the mean. -/
theorem processStat_std_spread :
    ¬ ∀ values : List ℕ, values ≠ [] → values.sum < 2 ^ 64 →
      sqDeviations (values.sum / values.length) values < 2 ^ 64 → StdOfData values := by
  intro h
  obtain ⟨sums, -, hsums, -, hacc, -, -⟩ := h [1, 3] (by decide) (by decide) (by decide)
    (resettingOps 0) (resettingOps_exact 0) _ (HeapArray.filled_ofValues [1, 3])
  have hrun : (processStatSums (resettingOps 0) (HeapArray.ofValues [1, 3]) 2 avbStatsStatInit).map
      Stat.std = .ok 1 := by
    decide +kernel
  have hstd : Except.ok sums.std = (Except.ok 1 : Except RuntimeFault ℕ) :=
    (congrArg (Except.map Stat.std) hsums).symm.trans hrun
  rw [hacc] at hstd
  revert hstd
  decide

/-- Three samples at their mean or just above it. -/
theorem processStat_std_close : StdOfData [7, 7, 8] :=
  ((processStat_std_iff (by decide) (by decide) (by decide)).1 (by decide)).mpr (by decide)

end Tram
