/-
Tram/ByteFile.lean

A binary file as the functions of `<stdio.h>` see it: its bytes, the position,
and the outcomes of the calls to come.

`overwrite` is what a write does to the bytes.  Written in the middle, it
replaces as many bytes as it writes (`overwrite_append`); written at the end,
it appends (`overwrite_length`).
-/
import Mathlib.Data.List.Basic

namespace Tram

/-! ### Bytes -/

/-- The `k` low bytes of `n`, least significant first. -/
def leBytes : ℕ → ℕ → List UInt8
  | 0, _ => []
  | k + 1, n => UInt8.ofNat n :: leBytes k (n / 256)

@[simp] theorem length_leBytes (k n : ℕ) : (leBytes k n).length = k := by
  induction k generalizing n with
  | zero => rfl
  | succ k ih => rw [leBytes, List.length_cons, ih]

/-- `bytes` with `data` written at `pos`; a gap before it is filled with
zeros. -/
def overwrite (bytes : List UInt8) (pos : ℕ) (data : List UInt8) : List UInt8 :=
  bytes.take pos ++ List.replicate (pos - bytes.length) 0 ++ data
    ++ bytes.drop (pos + data.length)

theorem overwrite_append (before after data : List UInt8) :
    overwrite (before ++ after) before.length data = before ++ data ++ after.drop data.length := by
  have hgap : before.length - (before ++ after).length = 0 := by
    rw [List.length_append]
    omega
  rw [overwrite, hgap, List.take_left, List.drop_append]
  simp

/-- A write behind `before` leaves it alone. -/
theorem overwrite_append_left (before bytes data : List UInt8) (pos : ℕ) :
    overwrite (before ++ bytes) (before.length + pos) data = before ++ overwrite bytes pos data := by
  have hgap : before.length + pos - (before ++ bytes).length = pos - bytes.length := by
    rw [List.length_append]
    omega
  rw [overwrite, overwrite, hgap, List.take_append, List.drop_append,
    List.take_of_length_le (Nat.le_add_right _ _)]
  simp [Nat.add_assoc]

theorem length_overwrite (bytes data : List UInt8) (pos : ℕ) :
    (overwrite bytes pos data).length = max bytes.length (pos + data.length) := by
  simp only [overwrite, List.length_append, List.length_take, List.length_replicate,
    List.length_drop]
  omega

/-- As many bytes are replaced as are written. -/
theorem overwrite_middle {before old after data : List UInt8} (h : old.length = data.length) :
    overwrite (before ++ old ++ after) before.length data = before ++ data ++ after := by
  rw [List.append_assoc, overwrite_append, ← h, List.drop_left]

/-- A write at the end appends. -/
theorem overwrite_length (bytes data : List UInt8) :
    overwrite bytes bytes.length data = bytes ++ data := by
  have h := overwrite_append bytes [] data
  rwa [List.append_nil, List.drop_nil, List.append_nil] at h

/-! ### Calls -/

/-- An open file.  `outcomes` tells for each of the next calls whether it
succeeds; behind them all succeed. -/
structure ByteFile where
  bytes : List UInt8
  pos : ℕ
  outcomes : List Bool
deriving DecidableEq, Repr

namespace ByteFile

/-- The next outcome. -/
def outcome (f : ByteFile) : Bool × ByteFile :=
  match f.outcomes with
  | [] => (true, f)
  | ok :: rest => (ok, { f with outcomes := rest })

/-- `fseek` from the start of the file. -/
def fseek (pos : ℕ) (f : ByteFile) : Bool × ByteFile :=
  match f.outcome with
  | (true, f) => (true, { f with pos })
  | (false, f) => (false, f)

/-- `fwrite`. -/
def fwrite (data : List UInt8) (f : ByteFile) : Bool × ByteFile :=
  match f.outcome with
  | (true, f) =>
      (true, { f with bytes := overwrite f.bytes f.pos data, pos := f.pos + data.length })
  | (false, f) => (false, f)

/-- `ftell`; `none` is the result `-1`. -/
def ftell (f : ByteFile) : Option ℕ × ByteFile :=
  match f.outcome with
  | (true, f) => (some f.pos, f)
  | (false, f) => (none, f)

end ByteFile

end Tram
