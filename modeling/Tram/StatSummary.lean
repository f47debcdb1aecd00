/-
Tram/StatSummary.lean

What `process_stat` leaves in a fresh `avb_stats_stat_t`.

Over an array written to its end both loops are folds over the first `2 ^ 31`
values, so every field has a closed form (`processStatSums_filled`): the
extremes as folds, the mean as long as the sum is a 64-bit word, and the number
the second loop accumulates.  They summarise the array when the values the
loops do not get to change none of them (`processStat_summarises_iff`).
-/
import Mathlib.Algebra.BigOperators.Ring.Finset
import Tram.ListStats
import Tram.ProcessStats

namespace Tram

/-! ### The code up to the square root -/

/-- `process_stat` without its last statement: `std` is the accumulated
number. -/
def processStatSums (ops : DoubleOps) (data : HeapArray) (count : ℕ) (stat : Stat) :
    Except RuntimeFault Stat :=
  match data.forEach accumulate count stat with
  | .error e => .error e
  | .ok stat =>
      if count = 0 then .error .divisionByZero
      else data.forEach (deviate ops) count { stat with count, mean := stat.mean / count }

theorem processStat_eq_sums (ops : DoubleOps) (data : HeapArray) (count : ℕ) (stat : Stat) :
    processStat ops data count stat
      = (processStatSums ops data count stat).map fun stat =>
          { stat with std := ops.sqrt (stat.std / count) } := by
  rw [processStat, processStatSums]
  rcases data.forEach accumulate count stat with e | stat₁
  · rfl
  · dsimp only
    split
    · rfl
    · rcases data.forEach (deviate ops) count _ with e | stat₂ <;> rfl

theorem processStat_of_sums {ops : DoubleOps} {data : HeapArray} {count : ℕ} {stat sums : Stat}
    (h : processStatSums ops data count stat = .ok sums) :
    processStat ops data count stat = .ok { sums with std := ops.sqrt (sums.std / count) } := by
  rw [processStat_eq_sums, h]
  rfl

/-! ### The two loops as folds -/

/-- What the second loop accumulates. -/
def deviationSum (ops : DoubleOps) (mean : ℕ) (values : List ℕ) (std : ℕ) : ℕ :=
  values.foldl (fun std x => ops.addPow std (subU64 x mean)) std

theorem accumulate_eq (stat : Stat) (x : ℕ) :
    accumulate stat x
      = ⟨min stat.min x, max stat.max x, u64 (stat.mean + x), stat.std, stat.count⟩ := by
  have hmin : (if x < stat.min then x else stat.min) = min stat.min x := by
    rw [min_comm, min_def_lt]
  have hmax : (if x > stat.max then x else stat.max) = max stat.max x := by
    rw [max_def_lt]
  rw [accumulate, hmin, hmax]

theorem foldl_accumulate (values : List ℕ) (stat : Stat) (h : stat.mean < 2 ^ 64) :
    values.foldl accumulate stat
      = ⟨values.foldl min stat.min, values.foldl max stat.max, u64 (stat.mean + values.sum),
          stat.std, stat.count⟩ := by
  induction values generalizing stat with
  | nil =>
      rw [List.sum_nil, Nat.add_zero, u64_of_lt h]
      rfl
  | cons x values ih =>
      have hsum : u64 (u64 (stat.mean + x) + values.sum) = u64 (stat.mean + (x + values.sum)) := by
        simp only [u64, Nat.mod_add_mod, Nat.add_assoc]
      rw [List.foldl_cons, accumulate_eq, ih _ (u64_lt _), hsum]
      rfl

theorem foldl_deviate (ops : DoubleOps) (values : List ℕ) (stat : Stat) :
    values.foldl (deviate ops) stat
      = { stat with std := deviationSum ops stat.mean values stat.std } := by
  induction values generalizing stat with
  | nil => rfl
  | cons x values ih =>
      rw [List.foldl_cons, ih]
      rfl

/-- Everything the two loops leave in a stat. -/
theorem processStatSums_filled (ops : DoubleOps) {data : HeapArray} {values : List ℕ}
    (h : data.Filled values 0) (hne : values ≠ []) (hlen : values.length < 2 ^ 61)
    (hsum : values.sum < 2 ^ 64) :
    processStatSums ops data values.length avbStatsStatInit
      = .ok {
          min := (values.take (2 ^ 31)).foldl min (2 ^ 64 - 1)
          max := (values.take (2 ^ 31)).foldl max 0
          mean := (values.take (2 ^ 31)).sum / values.length
          std := deviationSum ops ((values.take (2 ^ 31)).sum / values.length)
            (values.take (2 ^ 31)) 0
          count := values.length } := by
  have hcount : values.length ≠ 0 := fun h0 => hne (List.length_eq_zero_iff.mp h0)
  have htake := (List.take_sublist (2 ^ 31) values).sum_le_sum fun _ _ => Nat.zero_le _
  rw [processStatSums, h.forEach (by omega), foldl_accumulate _ avbStatsStatInit (by decide)]
  dsimp only
  rw [if_neg hcount, h.forEach (by omega), foldl_deviate]
  simp only [avbStatsStatInit, Nat.zero_add, u64_of_lt (Nat.lt_of_le_of_lt htake hsum)]

/-! ### The summary of a list -/

/-- The stat counts the numbers and holds their extremes and their floored
mean. -/
structure Summarises (stat : Stat) (l : List ℤ) : Prop where
  count : stat.count = l.length
  least : IsLeast {x | x ∈ l} (stat.min : ℤ)
  greatest : IsGreatest {x | x ∈ l} (stat.max : ℤ)
  mean : (stat.mean : ℤ) = l.sum / l.length

/-- A summary does not depend on the order. -/
theorem Summarises.perm {stat : Stat} {l l' : List ℤ} (h : Summarises stat l) (hperm : l.Perm l') :
    Summarises stat l' := by
  have hmem : {x | x ∈ l'} = {x | x ∈ l} := Set.ext fun x => hperm.mem_iff.symm
  refine ⟨h.count.trans hperm.length_eq, ?_, ?_, ?_⟩
  · rw [hmem]
    exact h.least
  · rw [hmem]
    exact h.greatest
  · rw [h.mean, hperm.sum_eq, hperm.length_eq]

theorem isLeast_map_cast {l : List ℕ} {m : ℕ} (h : IsLeast {x | x ∈ l} m) :
    IsLeast {x | x ∈ l.map (Nat.cast : ℕ → ℤ)} (m : ℤ) := by
  refine ⟨List.mem_map_of_mem h.1, fun y hy => ?_⟩
  obtain ⟨x, hx, rfl⟩ := List.mem_map.mp hy
  exact Int.ofNat_le.mpr (h.2 hx)

theorem isGreatest_map_cast {l : List ℕ} {m : ℕ} (h : IsGreatest {x | x ∈ l} m) :
    IsGreatest {x | x ∈ l.map (Nat.cast : ℕ → ℤ)} (m : ℤ) := by
  refine ⟨List.mem_map_of_mem h.1, fun y hy => ?_⟩
  obtain ⟨x, hx, rfl⟩ := List.mem_map.mp hy
  exact Int.ofNat_le.mpr (h.2 hx)

/-- The stat of an array summarises it when the values the loops get to decide. -/
theorem processStat_summarises_iff (ops : DoubleOps) {data : HeapArray} {values : List ℕ}
    (h : data.Filled values 0) (hne : values ≠ []) (hlen : values.length < 2 ^ 61)
    (hsum : values.sum < 2 ^ 64) :
    ∃ stat, processStat ops data values.length avbStatsStatInit = .ok stat ∧
      (Summarises stat (values.map (Nat.cast : ℕ → ℤ)) ↔
        HeadDecides (2 ^ 31) (values.map (Nat.cast : ℕ → ℤ))) := by
  refine ⟨_, processStat_of_sums (processStatSums_filled ops h hne hlen hsum), ?_⟩
  have hhead : values.take (2 ^ 31) ≠ [] :=
    fun h0 => hne ((List.take_eq_nil_iff.mp h0).resolve_left (by norm_num))
  have hword : ∀ x ∈ values.take (2 ^ 31), x ≤ 2 ^ 64 - 1 := fun x hx => by
    have hle := List.single_le_sum (fun _ _ => Nat.zero_le _) x (List.mem_of_mem_take hx)
    omega
  generalize 2 ^ 31 = n at hhead hword ⊢
  have hleast := isLeast_map_cast (isLeast_foldl_min hhead hword)
  have hgreatest := isGreatest_map_cast (isGreatest_foldl_max hhead fun x _ => Nat.zero_le x)
  have hmean : (((values.take n).sum / values.length : ℕ) : ℤ)
      = ((values.map (Nat.cast : ℕ → ℤ)).take n).sum / (values.map (Nat.cast : ℕ → ℤ)).length := by
    rw [Int.natCast_div, Nat.cast_list_sum, List.map_take, List.length_map]
  have hpos : 0 < ((values.map (Nat.cast : ℕ → ℤ)).length : ℤ) := by
    rw [List.length_map]
    exact Int.natCast_pos.mpr (List.length_pos_iff.mpr hne)
  have hrest : 0 ≤ ((values.map (Nat.cast : ℕ → ℤ)).drop n).sum := by
    rw [← List.map_drop, ← Nat.cast_list_sum]
    exact Int.natCast_nonneg _
  rw [List.map_take] at hleast hgreatest
  have hcount : values.length = (values.map (Nat.cast : ℕ → ℤ)).length := (List.length_map _).symm
  have hall := @div_eq_add_div_iff ((values.map (Nat.cast : ℕ → ℤ)).take n).sum _ _ hpos hrest
  rw [List.sum_take_add_sum_drop] at hall
  constructor
  · intro hs
    exact ⟨(isLeast_take_iff hleast).mp hs.least, (isGreatest_take_iff hgreatest).mp hs.greatest,
      hall.mp (hmean.symm.trans hs.mean)⟩
  · intro hd
    exact ⟨hcount, (isLeast_take_iff hleast).mpr hd.least,
      (isGreatest_take_iff hgreatest).mpr hd.greatest, hmean.trans (hall.mpr hd.mean)⟩

/-- The loops get to every one of `2 ^ 31` values. -/
theorem processStat_summarises (ops : DoubleOps) {data : HeapArray} {values : List ℕ}
    (h : data.Filled values 0) (hne : values ≠ []) (hlen : values.length ≤ 2 ^ 31)
    (hsum : values.sum < 2 ^ 64) :
    ∃ stat, processStat ops data values.length avbStatsStatInit = .ok stat ∧
      Summarises stat (values.map (Nat.cast : ℕ → ℤ)) := by
  obtain ⟨stat, hok, hiff⟩ := processStat_summarises_iff ops h hne (by omega) hsum
  refine ⟨stat, hok, hiff.mpr (.of_length_le (fun hnil => hne (List.map_eq_nil_iff.mp hnil)) ?_)⟩
  rwa [List.length_map]

end Tram
