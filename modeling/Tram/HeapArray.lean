/-
Tram/HeapArray.lean

Arrays of 64-bit cells in allocated memory, with the faults of C.

A block has a size in bytes, and the cells that fit it whole; a cell is `none`
until it is written.  A store or a read outside the block and a read of a cell
never written end the computation.

`Filled a values k` says that the first cells hold `values` and the last `k`
have not been written: a store behind the values extends them
(`Filled.store`).  A loop whose counter is an `int` wraps behind its maximum,
and the comparison with a `uint64_t` ends it there: over a block filled to its
end it is a fold over the first `2 ^ 31` values (`Filled.forEach`).
-/
import Mathlib.Data.List.Basic
import Tram.Words

namespace Tram

/-- What ends a computation. -/
inductive RuntimeFault
  /-- An access outside the allocated bytes, which a null pointer always is. -/
  | outOfBounds
  /-- A read of memory that was never written. -/
  | uninitialised
  | divisionByZero
deriving DecidableEq, Repr

/-- An allocated block, as an array of 8-byte cells. -/
structure HeapArray where
  bytes : ℕ
  cells : List (Option ℕ)
  length_cells : cells.length = bytes / 8

namespace HeapArray

/-- A block of `size` bytes, or, when the allocation fails, the null pointer:
a block of no bytes. -/
def malloc (ok : Bool) (size : ℕ) : HeapArray :=
  let bytes := if ok then size else 0
  ⟨bytes, List.replicate (bytes / 8) none, List.length_replicate⟩

/-- `a[i] = v`. -/
def store (a : HeapArray) (i v : ℕ) : Except RuntimeFault HeapArray :=
  if 8 * (i + 1) ≤ a.bytes then
    .ok ⟨a.bytes, a.cells.set i (some v), List.length_set.trans a.length_cells⟩
  else .error .outOfBounds

/-- The value of `a[i]`. -/
def read (a : HeapArray) (i : ℕ) : Except RuntimeFault ℕ :=
  if 8 * (i + 1) ≤ a.bytes then
    match a.cells[i]? with
    | some (some v) => .ok v
    | _ => .error .uninitialised
  else .error .outOfBounds

/-- `a[i] = f(a[i])`. -/
def update (a : HeapArray) (i : ℕ) (f : ℕ → ℕ) : Except RuntimeFault HeapArray :=
  match a.read i with
  | .error e => .error e
  | .ok v => a.store i (f v)

/-- `a[i]` for an `int`; below zero it is in front of the block. -/
def readAt (a : HeapArray) (i : ℤ) : Except RuntimeFault ℕ :=
  if 0 ≤ i then a.read i.toNat else .error .outOfBounds

/-- Up to `n` iterations of `for (int i = ...; i < count; i++)` over the cells,
where `count` is a `uint64_t`.  The comparison converts `i`; the increment wraps,
as it is compiled. -/
def forLoop {σ : Type*} (a : HeapArray) (f : σ → ℕ → σ) (count : ℕ) :
    ℕ → ℤ → σ → Except RuntimeFault σ
  | 0, _, s => .ok s
  | n + 1, i, s =>
      if intToU64 i < count then
        match a.readAt i with
        | .error e => .error e
        | .ok v => forLoop a f count n (i32 (i + 1)) (f s v)
      else .ok s

/-- The loop from zero on: it has at most `count` iterations. -/
def forEach {σ : Type*} (a : HeapArray) (f : σ → ℕ → σ) (count : ℕ) (s : σ) :
    Except RuntimeFault σ :=
  a.forLoop f count count 0 s

/-! ### Accesses -/

/-- A null array has no bytes. -/
theorem malloc_of_bytes_pos {ok : Bool} {size : ℕ} (h : 0 < (malloc ok size).bytes) :
    ok = true ∧ (malloc ok size).bytes = size := by
  cases ok with
  | false => exact absurd h (Nat.lt_irrefl 0)
  | true => exact ⟨rfl, rfl⟩

/-- The cells of a block are the indices whose bytes are in the block. -/
theorem lt_length_iff (a : HeapArray) (i : ℕ) : i < a.cells.length ↔ 8 * (i + 1) ≤ a.bytes := by
  rw [a.length_cells]
  omega

/-- A store that succeeds is inside the block, and leaves its size. -/
theorem store_bytes {a a' : HeapArray} {i v : ℕ} (h : a.store i v = .ok a') :
    8 * (i + 1) ≤ a.bytes ∧ a'.bytes = a.bytes := by
  rw [store] at h
  split at h
  · rename_i hfits
    rw [← Except.ok.inj h]
    exact ⟨hfits, rfl⟩
  · cases h

theorem update_bytes {a a' : HeapArray} {i : ℕ} {f : ℕ → ℕ} (h : a.update i f = .ok a') :
    a'.bytes = a.bytes := by
  rw [update] at h
  split at h
  · cases h
  · exact (store_bytes h).2

/-! ### Filling a block -/

/-- The block holds `values`, and after them `k` cells not written. -/
def Filled (a : HeapArray) (values : List ℕ) (k : ℕ) : Prop :=
  a.cells = values.map some ++ List.replicate k none

/-- A block written to its end. -/
def ofValues (values : List ℕ) : HeapArray :=
  ⟨8 * values.length, values.map some, by
    rw [List.length_map, Nat.mul_div_cancel_left _ (by decide)]⟩

theorem filled_ofValues (values : List ℕ) : (ofValues values).Filled values 0 :=
  (List.append_nil _).symm

theorem filled_malloc (size : ℕ) : (malloc true size).Filled [] (size / 8) := rfl

variable {a : HeapArray} {values : List ℕ} {k : ℕ}

theorem Filled.unique {values' : List ℕ} (h : a.Filled values 0) (h' : a.Filled values' 0) :
    values = values' := by
  have hcells : values.map some = values'.map some := by
    simpa [Filled] using h.symm.trans h'
  exact List.map_injective_iff.mpr (Option.some_injective ℕ) hcells

/-- A store behind the values extends them. -/
theorem Filled.store (h : a.Filled values (k + 1)) (v : ℕ) :
    ∃ a', a.store values.length v = .ok a' ∧ a'.Filled (values ++ [v]) k := by
  have hlt : values.length < a.cells.length := by
    rw [h, List.length_append, List.length_map, List.length_replicate]
    omega
  refine ⟨_, if_pos ((a.lt_length_iff _).mp hlt), ?_⟩
  show a.cells.set values.length (some v) = _
  rw [h, List.replicate_succ, List.set_append_right _ _ (by simp)]
  simp

/-- A store to the last value replaces it. -/
theorem Filled.store_last {w : ℕ} (h : a.Filled (values ++ [w]) k) (v : ℕ) :
    ∃ a', a.store values.length v = .ok a' ∧ a'.Filled (values ++ [v]) k := by
  have hlt : values.length < a.cells.length := by
    rw [h]
    simp
  refine ⟨_, if_pos ((a.lt_length_iff _).mp hlt), ?_⟩
  show a.cells.set values.length (some v) = _
  rw [h]
  simp

theorem Filled.read (h : a.Filled values k) {i : ℕ} (hi : i < values.length) :
    a.read i = .ok values[i] := by
  have hlt : i < a.cells.length := by
    rw [h, List.length_append, List.length_map]
    omega
  have hcell : a.cells[i]? = some (some values[i]) := by
    rw [h, List.getElem?_append_left (by simpa using hi)]
    simp [hi]
  rw [HeapArray.read, if_pos ((a.lt_length_iff i).mp hlt), hcell]

/-- Changing the last value in place. -/
theorem Filled.update_last {w : ℕ} (h : a.Filled (values ++ [w]) k) (f : ℕ → ℕ) :
    ∃ a', a.update values.length f = .ok a' ∧ a'.Filled (values ++ [f w]) k := by
  have hread : a.read values.length = .ok w := by
    rw [h.read (by simp)]
    simp
  obtain ⟨a', hstore, hfilled⟩ := h.store_last (f w)
  refine ⟨a', ?_, hfilled⟩
  rw [update, hread]
  exact hstore

/-- A loop over a filled block folds the values its counter gets to. -/
theorem Filled.forEach {σ : Type*} {f : σ → ℕ → σ} (h : a.Filled values k)
    (hlen : values.length ≤ 2 ^ 64 - 2 ^ 31) (s : σ) :
    a.forEach f values.length s = .ok ((values.take (2 ^ 31)).foldl f s) := by
  -- the values behind a first part of them
  have hloop : ∀ (rest front : List ℕ) (s : σ), values = front ++ rest → front.length ≤ 2 ^ 31 →
      a.forLoop f values.length rest.length (i32 front.length) s
        = .ok ((rest.take (2 ^ 31 - front.length)).foldl f s) := by
    intro rest
    induction rest with
    | nil =>
        intro front s _ _
        rw [List.take_nil]
        rfl
    | cons v rest ih =>
        intro front s hvalues hfront
        have hlength : values.length = front.length + (rest.length + 1) := by
          rw [hvalues, List.length_append, List.length_cons]
        rw [List.length_cons, forLoop]
        rcases Nat.lt_or_eq_of_le hfront with hlt | hmax
        · have hread : a.readAt front.length = .ok v := by
            rw [readAt, if_pos (Int.natCast_nonneg _), Int.toNat_natCast,
              h.read (by rw [hlength]; omega)]
            simp [hvalues]
          have hrest := ih (front ++ [v]) (f s v) (by rw [hvalues, List.append_assoc]; rfl)
            (by rw [List.length_append, List.length_singleton]; exact hlt)
          rw [List.length_append, List.length_singleton] at hrest
          have htake : 2 ^ 31 - front.length = 2 ^ 31 - (front.length + 1) + 1 := by omega
          rw [i32_natCast hlt, intToU64_natCast (by omega), if_pos (by rw [hlength]; omega), hread,
            htake, List.take_succ_cons, List.foldl_cons, ← hrest]
          rfl
        · -- the counter has wrapped, and is a `uint64_t` near `2 ^ 64`
          have hwrapped : ¬ intToU64 (i32 (2 ^ 31 : ℕ)) < values.length := by
            rw [show intToU64 (i32 (2 ^ 31 : ℕ)) = 2 ^ 64 - 2 ^ 31 by decide]
            omega
          rw [hmax, if_neg hwrapped, Nat.sub_self]
          rfl
  exact hloop values [] s rfl (Nat.zero_le _)

end HeapArray

end Tram
