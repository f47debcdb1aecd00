/-
Tram/FrameStream.lean

A sequence of frames that is read from a position.

The position may be set behind the end, but not beyond `limit`; nothing is read
there.  A seek to before the beginning leaves an error behind.  While it is
pending nothing is read either, and another such seek is a fault.
-/
import Mathlib.Tactic.Ring
import Tram.Calls

namespace Tram

/-- Where a seek starts from. -/
inductive Origin
  | set
  | cur
  | fromEnd
deriving DecidableEq, Repr

/-- A call on an open stream. -/
inductive StreamCall
  | tell
  | read (count : ℕ)
  | seek (offset : ℤ) (origin : Origin)
  | rewind
  | errClear
deriving DecidableEq, Repr

/-- The answer to a call. -/
inductive StreamAnswer (F : Type*)
  | position (pos : ℕ)
  | frames (fs : List F)
  | sought (ok : Bool)
  | done
deriving DecidableEq, Repr

/-- The ends a call does not come back from. -/
inductive StreamFault
  | pending
  | outOfRange
deriving DecidableEq, Repr

/-- A stream of frames. -/
structure FrameStream (F : Type*) where
  frames : List F
  pos : ℕ
  failed : Bool
deriving DecidableEq, Repr

namespace FrameStream

variable {F : Type*}

/-- The position a seek asks for. -/
def target (s : FrameStream F) (offset : ℤ) : Origin → ℤ
  | .set => offset
  | .cur => offset + s.pos
  | .fromEnd => offset + s.frames.length

/-- Move to another position, if there is one. -/
def seek (limit : ℕ) (s : FrameStream F) (target : ℤ) : Except StreamFault (Bool × FrameStream F) :=
  if target < 0 then
    if s.failed then .error .pending else .ok (false, { s with failed := true })
  else if target ≤ limit then .ok (true, { s with pos := target.toNat })
  else .error .outOfRange

/-- The frames a read gets. -/
def next (s : FrameStream F) (count : ℕ) : List F :=
  if s.failed then [] else (s.frames.drop s.pos).take count

/-- Make a call. -/
def call (limit : ℕ) (s : FrameStream F) :
    StreamCall → Except StreamFault (StreamAnswer F × FrameStream F)
  | .tell => .ok (.position s.pos, s)
  | .read count => .ok (.frames (s.next count), { s with pos := s.pos + (s.next count).length })
  | .seek offset origin =>
      (s.seek limit (s.target offset origin)).map fun r => (.sought r.1, r.2)
  | .rewind => (s.seek limit 0).map fun r => (.done, r.2)
  | .errClear => .ok (.done, { s with failed := false })

/-! ### Reading on -/

/-- The frames in an answer. -/
def dataOf : StreamAnswer F → List F
  | .frames fs => fs
  | _ => []

/-- What is left behind the frames got is left behind those asked for. -/
theorem drop_length_take (l : List F) (n : ℕ) : l.drop (l.take n).length = l.drop n := by
  rcases Nat.le_total n l.length with h | h
  · rw [List.length_take_of_le h]
  · rw [List.take_of_length_le h, List.drop_length, List.drop_eq_nil_of_le h]

/-- Reads one after the other get what one read gets. -/
theorem collect_reads (limit : ℕ) (frames : List F) (counts : List ℕ) (pos : ℕ) :
    ((collect (call limit) ⟨frames, pos, false⟩ (counts.map .read)).1.flatMap dataOf
      = (frames.drop pos).take counts.sum) := by
  induction counts generalizing pos with
  | nil => exact (List.take_zero).symm
  | cons n rest ih =>
      show (frames.drop pos).take n
          ++ (collect (call limit) ⟨frames, pos + ((frames.drop pos).take n).length, false⟩
              (rest.map .read)).1.flatMap dataOf = _
      rw [ih, List.sum_cons, ← List.drop_drop, drop_length_take, ← List.take_add]

end FrameStream

/-! ### Frames of one size -/

section Blocks

variable {D : Type*} {frames : List (List D)} {n : ℕ}

theorem length_flatten_blocks (h : ∀ f ∈ frames, f.length = n) :
    frames.flatten.length = frames.length * n := by
  induction frames with
  | nil => exact (Nat.zero_mul n).symm
  | cons f rest ih =>
      rw [List.flatten_cons, List.length_append, h f List.mem_cons_self,
        ih fun g hg => h g (List.mem_cons_of_mem f hg), List.length_cons, Nat.succ_mul,
        Nat.add_comm]

theorem drop_flatten_blocks (h : ∀ f ∈ frames, f.length = n) (k : ℕ) :
    frames.flatten.drop (k * n) = (frames.drop k).flatten := by
  induction frames generalizing k with
  | nil => rw [List.flatten_nil, List.drop_nil, List.drop_nil, List.flatten_nil]
  | cons f rest ih =>
      rcases k with - | k
      · rw [Nat.zero_mul]
        rfl
      · have hf : f.length = n := h f List.mem_cons_self
        have hrest := ih (fun g hg => h g (List.mem_cons_of_mem f hg)) k
        rw [List.flatten_cons, List.drop_succ_cons, ← hrest, Nat.succ_mul, Nat.add_comm,
          ← List.drop_drop, List.drop_left' hf]

theorem take_flatten_blocks (h : ∀ f ∈ frames, f.length = n) (k : ℕ) :
    frames.flatten.take (k * n) = (frames.take k).flatten := by
  induction frames generalizing k with
  | nil => rw [List.flatten_nil, List.take_nil, List.take_nil, List.flatten_nil]
  | cons f rest ih =>
      rcases k with - | k
      · rw [Nat.zero_mul]
        rfl
      · have hf : f.length = n := h f List.mem_cons_self
        have hrest := ih (fun g hg => h g (List.mem_cons_of_mem f hg)) k
        rw [List.flatten_cons, List.take_succ_cons, List.flatten_cons, ← hrest, Nat.succ_mul,
          Nat.add_comm, List.take_add, List.take_left' hf, List.drop_left' hf]

/-- `m` frames of size `n`. -/
def blocksOf (n : ℕ) : ℕ → List D → List (List D)
  | 0, _ => []
  | m + 1, l => l.take n :: blocksOf n m (l.drop n)

theorem flatten_blocksOf {m : ℕ} {l : List D} (h : l.length = m * n) :
    (blocksOf n m l).flatten = l := by
  induction m generalizing l with
  | zero => exact (List.length_eq_zero_iff.mp (h.trans (Nat.zero_mul n))).symm
  | succ m ih =>
      rw [blocksOf, List.flatten_cons, ih, List.take_append_drop]
      rw [List.length_drop, h, Nat.succ_mul, Nat.add_sub_cancel]

theorem blocksOf_length {m : ℕ} {l : List D} (h : l.length = m * n) :
    ∀ f ∈ blocksOf n m l, f.length = n := by
  induction m generalizing l with
  | zero => nofun
  | succ m ih =>
      rw [Nat.succ_mul] at h
      rw [blocksOf, List.forall_mem_cons]
      refine ⟨?_, ih ?_⟩
      · rw [List.length_take]
        omega
      · rw [List.length_drop]
        omega

end Blocks

end Tram
