/-
Tram/BoundedQueue.lean

A bounded first-in first-out queue whose operations do not wait.

The bound is part of the type, so a queue longer than its capacity cannot be
built.  `putNowait` fails on a full queue and `getNowait` on an empty one;
the lemmas say what the items are afterwards and when the operations fail.
-/
import Mathlib.Data.List.Basic

namespace Tram

/-- At most `n` items, oldest first. -/
structure BoundedQueue (α : Type*) (n : ℕ) where
  items : List α
  bounded : items.length ≤ n

namespace BoundedQueue

variable {α : Type*} {n : ℕ}

/-- The empty queue. -/
def empty : BoundedQueue α n := ⟨[], Nat.zero_le n⟩

/-- The number of items. -/
def qsize (q : BoundedQueue α n) : ℕ := q.items.length

/-- Whether there is no room. -/
def full (q : BoundedQueue α n) : Bool := n ≤ q.items.length

/-- Append an item, if there is room. -/
def putNowait (q : BoundedQueue α n) (a : α) : Option (BoundedQueue α n) :=
  if h : q.items.length < n then
    some ⟨q.items ++ [a], by
      rw [List.length_append]
      exact h⟩
  else none

/-- Take the oldest item, if there is one. -/
def getNowait (q : BoundedQueue α n) : Option (α × BoundedQueue α n) :=
  match h : q.items with
  | [] => none
  | a :: rest => some (a, ⟨rest, by
      have hbound := q.bounded
      rw [h, List.length_cons] at hbound
      exact Nat.le_of_succ_le hbound⟩)

theorem full_iff {q : BoundedQueue α n} : q.full = true ↔ ¬ q.items.length < n := by
  rw [full, decide_eq_true_iff, Nat.not_lt]

theorem putNowait_of_room {q : BoundedQueue α n} (a : α) (h : q.items.length < n) :
    ∃ q', q.putNowait a = some q' ∧ q'.items = q.items ++ [a] :=
  ⟨_, dif_pos h, rfl⟩

theorem putNowait_of_full {q : BoundedQueue α n} (a : α) (h : ¬ q.items.length < n) :
    q.putNowait a = none := dif_neg h

theorem getNowait_none {q : BoundedQueue α n} (h : q.getNowait = none) : q.items = [] := by
  rw [getNowait] at h
  split at h
  · assumption
  · cases h

theorem getNowait_some {q q' : BoundedQueue α n} {a : α} (h : q.getNowait = some (a, q')) :
    q.items = a :: q'.items := by
  rw [getNowait] at h
  split at h
  · cases h
  · rename_i b rest hitems
    obtain ⟨rfl, rfl⟩ := Prod.mk.inj (Option.some.inj h)
    exact hitems

end BoundedQueue

end Tram
