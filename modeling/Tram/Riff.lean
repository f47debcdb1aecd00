/-
Tram/Riff.lean

Reading bytes from a file, and sequences of chunks.

A chunk is an identifier, the length of its body and the body, the first two
being words of four bytes.  `leNat` reads such a word back, and the bytes of a
sequence of chunks determine the sequence as long as they are read from the
front.
-/
import Mathlib.Tactic.Ring
import Tram.ByteFile

namespace Tram

/-! ### Words -/

/-- The number with the given bytes, least significant first. -/
def leNat : List UInt8 → ℕ
  | [] => 0
  | b :: rest => b.toNat + 256 * leNat rest

theorem leNat_lt (bytes : List UInt8) : leNat bytes < 256 ^ bytes.length := by
  induction bytes with
  | nil => exact Nat.one_pos
  | cons b rest ih =>
      have hb : b.toNat < 256 := b.toNat_lt
      rw [leNat, List.length_cons, Nat.pow_succ]
      omega

@[simp] theorem leNat_leBytes (k n : ℕ) : leNat (leBytes k n) = n % 256 ^ k := by
  induction k generalizing n with
  | zero => exact (Nat.mod_one n).symm
  | succ k ih =>
      have hb : (UInt8.ofNat n).toNat = n % 256 := rfl
      rw [leBytes, leNat, ih, hb, Nat.pow_succ', Nat.mod_mul]

theorem leNat_leBytes_of_lt {k n : ℕ} (h : n < 256 ^ k) : leNat (leBytes k n) = n := by
  rw [leNat_leBytes, Nat.mod_eq_of_lt h]

@[simp] theorem leBytes_leNat (bytes : List UInt8) :
    leBytes bytes.length (leNat bytes) = bytes := by
  induction bytes with
  | nil => rfl
  | cons b rest ih =>
      have hb : b.toNat < 256 := b.toNat_lt
      have hlow : UInt8.ofNat (b.toNat + 256 * leNat rest) = b := by
        apply UInt8.toNat_inj.mp
        show (b.toNat + 256 * leNat rest) % 256 = b.toNat
        omega
      have hhigh : (b.toNat + 256 * leNat rest) / 256 = leNat rest := by omega
      rw [List.length_cons, leNat, leBytes, hlow, hhigh, ih]

theorem leBytes_leNat_of_length {bytes : List UInt8} {k : ℕ} (h : bytes.length = k) :
    leBytes k (leNat bytes) = bytes := by
  rw [← h, leBytes_leNat]

theorem take_leBytes {k m : ℕ} (h : k ≤ m) (n : ℕ) : (leBytes k n).take m = leBytes k n :=
  List.take_of_length_le (Nat.le_trans (Nat.le_of_eq (length_leBytes k n)) h)

theorem drop_leBytes {k m : ℕ} (h : k ≤ m) (n : ℕ) : (leBytes k n).drop m = [] :=
  List.drop_eq_nil_of_le (Nat.le_trans (Nat.le_of_eq (length_leBytes k n)) h)

/-! ### Reading -/

namespace ByteFile

/-- `fread` of `n` bytes: as many of them as the file has left, or a read
error. -/
def fread (n : ℕ) (f : ByteFile) : Option (List UInt8) × ByteFile :=
  match f.outcome with
  | (true, f) =>
      (some ((f.bytes.drop f.pos).take n),
        { f with pos := f.pos + ((f.bytes.drop f.pos).take n).length })
  | (false, f) => (none, f)

/-- `fseek` from the current position. -/
def fskip (n : ℕ) (f : ByteFile) : Bool × ByteFile :=
  match f.outcome with
  | (true, f) => (true, { f with pos := f.pos + n })
  | (false, f) => (false, f)

/-- The number of bytes from the position on. -/
def left (f : ByteFile) : ℕ := f.bytes.length - f.pos

theorem outcome_left (f : ByteFile) : f.outcome.2.left = f.left := by
  rw [outcome]
  split <;> rfl

theorem ftell_left (f : ByteFile) : f.ftell.2.left = f.left := by
  rw [← outcome_left f, ftell]
  split <;> rename_i heq <;> rw [heq]

/-- What a read gets, it takes from what is left. -/
theorem fread_left (n : ℕ) (f : ByteFile) :
    ((f.fread n).1.getD []).length + (f.fread n).2.left ≤ f.left := by
  rw [← outcome_left f, fread]
  split <;> rename_i heq <;> rw [heq]
  · rename_i g
    have hlen : ((g.bytes.drop g.pos).take n).length ≤ g.bytes.length - g.pos := by
      rw [← List.length_drop]
      exact List.length_take_le' n _
    show ((g.bytes.drop g.pos).take n).length +
      (g.bytes.length - (g.pos + ((g.bytes.drop g.pos).take n).length)) ≤ g.bytes.length - g.pos
    omega
  · exact Nat.le_of_eq (Nat.zero_add _)

theorem fskip_left (n : ℕ) (f : ByteFile) : (f.fskip n).2.left ≤ f.left := by
  rw [← outcome_left f, fskip]
  rcases f.outcome with ⟨- | -, g⟩
  · exact Nat.le_refl _
  · exact Nat.sub_le_sub_left (Nat.le_add_right _ n) _

/-- What is left behind them. -/
theorem drop_of_append {bytes got rest : List UInt8} {pos n : ℕ}
    (h : bytes.drop pos = got ++ rest) (hlen : got.length = n) : bytes.drop (pos + n) = rest := by
  rw [← hlen, ← List.drop_drop, h, List.drop_left]

end ByteFile

/-! ### Chunks -/

/-- A chunk of a file. -/
structure Chunk where
  id : ℕ
  body : List UInt8
deriving DecidableEq, Repr

/-- The header of a chunk with the given length. -/
def chunkHeader (id size : ℕ) : List UInt8 := leBytes 4 id ++ leBytes 4 size

@[simp] theorem length_chunkHeader (id size : ℕ) : (chunkHeader id size).length = 8 := by
  simp [chunkHeader]

/-- The identifier and the length in the bytes of a header. -/
def headerOf (bytes : List UInt8) : ℕ × ℕ := (leNat (bytes.take 4), leNat (bytes.drop 4))

theorem headerOf_chunkHeader {id size : ℕ} (hid : id < 2 ^ 32) (hsize : size < 2 ^ 32) :
    headerOf (chunkHeader id size) = (id, size) := by
  have htake : (chunkHeader id size).take 4 = leBytes 4 id := List.take_left' (length_leBytes 4 id)
  have hdrop : (chunkHeader id size).drop 4 = leBytes 4 size :=
    List.drop_left' (length_leBytes 4 id)
  rw [headerOf, htake, hdrop, leNat_leBytes_of_lt hid, leNat_leBytes_of_lt hsize]

/-- Eight bytes are the header they are read as. -/
theorem chunkHeader_headerOf {bytes : List UInt8} (h : bytes.length = 8) :
    bytes = chunkHeader (headerOf bytes).1 (headerOf bytes).2 ∧
      (headerOf bytes).1 < 2 ^ 32 ∧ (headerOf bytes).2 < 2 ^ 32 := by
  have htake : (bytes.take 4).length = 4 := by
    rw [List.length_take]
    omega
  have hdrop : (bytes.drop 4).length = 4 := by
    rw [List.length_drop]
    omega
  refine ⟨?_, ?_, ?_⟩
  · rw [headerOf, chunkHeader, leBytes_leNat_of_length htake, leBytes_leNat_of_length hdrop,
      List.take_append_drop]
  · have h := leNat_lt (bytes.take 4)
    rwa [htake] at h
  · have h := leNat_lt (bytes.drop 4)
    rwa [hdrop] at h

/-- The bytes of a chunk. -/
def Chunk.toBytes (c : Chunk) : List UInt8 := chunkHeader c.id c.body.length ++ c.body

/-- The bytes of a sequence of chunks. -/
def chunksBytes (chunks : List Chunk) : List UInt8 := chunks.flatMap Chunk.toBytes

@[simp] theorem chunksBytes_nil : chunksBytes [] = [] := rfl

theorem chunksBytes_cons (c : Chunk) (rest : List Chunk) :
    chunksBytes (c :: rest) = chunkHeader c.id c.body.length ++ (c.body ++ chunksBytes rest) :=
  List.append_assoc _ _ _

end Tram
