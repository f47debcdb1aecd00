/-
Tram/Resources.lean

Logs of acquired and released resources.

`Matched`: every resource is released as often as it is acquired, and at no
point of the log more often.  The logs of a function that acquires in stages
and releases at the end are matched when what it releases is what it has
acquired, in any order (`matched_of_perm`).
-/
import Mathlib.Data.List.Count
import Mathlib.Data.List.Infix

namespace Tram

/-- An entry of a log. -/
inductive Use (R : Type*)
  | acquire (r : R)
  | release (r : R)
deriving DecidableEq, Repr

variable {R : Type*} [DecidableEq R]

/-- Everything acquired is released once, and nothing else is. -/
structure Matched (log : List (Use R)) : Prop where
  released : ∀ r, log.count (.release r) = log.count (.acquire r)
  held : ∀ pre, pre <+: log → ∀ r, pre.count (.release r) ≤ pre.count (.acquire r)

theorem count_acquire_map (rs : List R) (r : R) :
    (rs.map Use.acquire).count (.acquire r) = rs.count r :=
  List.count_map_of_injective rs Use.acquire (fun _ _ h => Use.acquire.inj h) r

theorem count_release_map (rs : List R) (r : R) :
    (rs.map Use.release).count (.release r) = rs.count r :=
  List.count_map_of_injective rs Use.release (fun _ _ h => Use.release.inj h) r

theorem count_release_acquires (rs : List R) (r : R) :
    (rs.map Use.acquire).count (.release r) = 0 := by
  refine List.count_eq_zero.mpr fun hmem => ?_
  obtain ⟨r', -, heq⟩ := List.mem_map.mp hmem
  cases heq

theorem count_acquire_releases (rs : List R) (r : R) :
    (rs.map Use.release).count (.acquire r) = 0 := by
  refine List.count_eq_zero.mpr fun hmem => ?_
  obtain ⟨r', -, heq⟩ := List.mem_map.mp hmem
  cases heq

/-- What is acquired first is released behind, in any order. -/
theorem matched_of_perm {acquired released : List R} (h : released.Perm acquired) :
    Matched (acquired.map Use.acquire ++ released.map Use.release) where
  released := by
    intro r
    rw [List.count_append, List.count_append, count_release_acquires, count_release_map,
      count_acquire_map, count_acquire_releases, h.count_eq, Nat.zero_add, Nat.add_zero]
  held := by
    intro pre hpre r
    rcases List.prefix_or_prefix_of_prefix hpre (List.prefix_append _ _) with
      hshort | ⟨tail, rfl⟩
    · -- still acquiring
      have hle := hshort.sublist.count_le (Use.release r)
      rw [count_release_acquires] at hle
      omega
    · have htail : tail <+: released.map Use.release := (List.prefix_append_right_inj _).mp hpre
      have hle := htail.sublist.count_le (Use.release r)
      rw [count_release_map, h.count_eq] at hle
      rw [List.count_append, List.count_append, count_release_acquires, count_acquire_map]
      omega

/-- A resource acquired and kept. -/
theorem not_matched_of_count {log : List (Use R)} (r : R)
    (h : log.count (.release r) ≠ log.count (.acquire r)) : ¬ Matched log :=
  fun hlog => h (hlog.released r)

end Tram
