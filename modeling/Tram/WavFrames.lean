/-
Tram/WavFrames.lean

The reading half of the library as a stream of frames (`wav.c`).

On a file that holds whole frames, and nothing behind them, `wav_tell`,
`wav_read`, `wav_seek`, `wav_rewind` and `wav_err_clear` answer like a
`FrameStream`, call by call, while no call of the system fails.  `Reads` relates
the two; the position in the file is the offset of the data and a whole number
of blocks.
-/
import Tram.WavParse

namespace Tram

/-! ### The layout of a file -/

/-- The format has frames of whole samples, and `wav_read` takes it. -/
structure WavFormat.Readable (format : WavFormat) : Prop where
  channels : 0 < format.numChannels
  block : 0 < format.blockAlign
  samples : format.numChannels ∣ format.blockAlign
  tag : format.formatTag ≠ wavFormatExtensible

/-- The bytes from `offset` on are the frames and then `rest`. -/
structure Presents (bytes : Bytes) (format : WavFormat) (offset : ℕ) (frames : List Bytes)
    (rest : Bytes) : Prop where
  data : bytes.drop offset = frames.flatten ++ rest
  blocks : ∀ f ∈ frames, f.length = format.blockAlign
  size : frames.length * format.blockAlign < 2 ^ 32
  fits : offset + frames.length * format.blockAlign < 2 ^ 63

theorem Presents.offset {bytes : Bytes} {format : WavFormat} {offset : ℕ} {frames : List Bytes}
    {rest : Bytes} (h : Presents bytes format offset frames rest) : offset < 2 ^ 63 :=
  Nat.lt_of_le_of_lt (Nat.le_add_right _ _) h.fits

/-- The last frame a `long` can point to. -/
def lastFrame (format : WavFormat) (offset : ℕ) : ℕ := (2 ^ 63 - 1 - offset) / format.blockAlign

theorem le_lastFrame {format : WavFormat} {offset pos : ℕ} (hblock : 0 < format.blockAlign)
    (hoffset : offset < 2 ^ 63) :
    pos ≤ lastFrame format offset ↔ offset + pos * format.blockAlign < 2 ^ 63 := by
  rw [lastFrame, Nat.le_div_iff_mul_le hblock]
  omega

section Layout

variable {bytes rest : Bytes} {format : WavFormat} {offset : ℕ} {frames : List Bytes}

/-- What a read finds in the file.  Behind the frames the rest would be read. -/
theorem Presents.fread (hf : format.Readable) (hp : Presents bytes format offset frames rest)
    {pos count remain : ℕ} (hremain : remain = subU64 frames.length pos)
    (hinside : pos ≤ frames.length ∨ rest = []) {count' : ℕ}
    (hcount : count' = if count ≤ remain then count else remain) :
    (bytes.drop (offset + pos * format.blockAlign)).take
        (format.blockAlign / format.numChannels * u64 (format.numChannels * count'))
      = ((frames.drop pos).take count).flatten := by
  rw [← List.drop_drop, hp.data]
  rcases Nat.lt_or_ge frames.length pos with hlt | hle
  · have hnone : frames.flatten.length ≤ pos * format.blockAlign := by
      rw [length_flatten_blocks hp.blocks]
      exact Nat.mul_le_mul_right _ hlt.le
    rw [hinside.resolve_left (by omega), List.append_nil, List.drop_eq_nil_of_le hnone,
      List.drop_eq_nil_of_le hlt.le, List.take_nil, List.take_nil, List.flatten_nil]
  · -- the count is cut down to what is left
    have hfirst : pos * format.blockAlign ≤ frames.flatten.length := by
      rw [length_flatten_blocks hp.blocks]
      exact Nat.mul_le_mul_right _ hle
    have hblocks : ∀ f ∈ frames.drop pos, f.length = format.blockAlign :=
      fun f hmem => hp.blocks f (List.mem_of_mem_drop hmem)
    have hlt : frames.length < 2 ^ 64 := by
      have hsize := hp.size
      have hle := Nat.le_mul_of_pos_right frames.length hf.block
      omega
    rw [subU64_of_le hle hlt] at hremain
    have hmin : count' = min count (frames.drop pos).length := by
      rw [List.length_drop, ← hremain, hcount, Nat.min_def]
    have hsmall : format.numChannels * count' < 2 ^ 64 := by
      have hchannels := Nat.le_of_dvd hf.block hf.samples
      have hcount : count' ≤ frames.length := by
        rw [hmin, List.length_drop]
        omega
      have hprod := Nat.mul_le_mul hchannels hcount
      have hsize := hp.size
      rw [Nat.mul_comm frames.length] at hsize
      omega
    have hbytes : format.blockAlign / format.numChannels * (format.numChannels * count')
        = count' * format.blockAlign := by
      rw [← Nat.mul_assoc, Nat.div_mul_cancel hf.samples, Nat.mul_comm]
    have hlast : count' * format.blockAlign ≤ (frames.drop pos).flatten.length := by
      rw [length_flatten_blocks hblocks, hmin]
      exact Nat.mul_le_mul_right _ (Nat.min_le_right _ _)
    rw [u64_of_lt hsmall, hbytes, List.drop_append_of_le_length hfirst,
      drop_flatten_blocks hp.blocks, List.take_append_of_le_length hlast,
      take_flatten_blocks hblocks, hmin, ← List.take_eq_take_min]

/-- The frames of a read have a whole number of samples. -/
theorem Presents.count (hf : format.Readable) (hp : Presents bytes format offset frames rest)
    {fs : List Bytes} (hfs : ∀ f ∈ fs, f ∈ frames) :
    fs.flatten.length / (format.blockAlign / format.numChannels) / format.numChannels
      = fs.length := by
  have hsize : 0 < format.blockAlign / format.numChannels :=
    Nat.div_pos (Nat.le_of_dvd hf.block hf.samples) hf.channels
  rw [length_flatten_blocks fun f hmem => hp.blocks f (hfs f hmem), Nat.div_div_eq_div_mul,
    Nat.div_mul_cancel hf.samples, Nat.mul_div_cancel _ hf.block]

end Layout

/-- The arguments are values of their types. -/
def StreamCall.Fits : StreamCall → Prop
  | .seek offset _ => IsLong offset
  | _ => True

instance : DecidablePred StreamCall.Fits
  | .seek offset _ => inferInstanceAs (Decidable (IsLong offset))
  | .tell | .read _ | .rewind | .errClear => inferInstanceAs (Decidable True)

/-! ### The relation -/

namespace WavReader

/-- What the library answers where the stream of frames answers this. -/
def answer : StreamAnswer Bytes → WavAnswer
  | .position pos => .position pos
  | .frames fs => .frames fs.flatten fs.length
  | .sought ok => .sought (if ok then 0 else WavErrCode.param.toInt)
  | .done => .done

/-- How the library ends where the stream of frames ends so. -/
def faultOf : StreamFault → WavReadFault
  | .pending => .shared .errPending
  | .outOfRange => .signedOverflow

/-- The reader stands where the stream of frames stands. -/
structure Reads (bytes : Bytes) (format : WavFormat) (offset : ℕ) (frames : List Bytes)
    (s : FrameStream Bytes) (r : WavReader) : Prop where
  room : s.pos ≤ lastFrame format offset
  fp : r.file.fp = some ⟨bytes, offset + s.pos * format.blockAlign, []⟩
  mode : r.file.mode = wavOpenRead
  ferror : r.ferror = false
  size : r.file.dataHeader.size = frames.length * format.blockAlign
  frames : s.frames = frames
  format : r.file.format = format
  offset : r.file.dataOffset = offset
  err : r.file.err = if s.failed then .param else .ok

variable {bytes rest : Bytes} {format : WavFormat} {offset : ℕ} {frames : List Bytes}
  {s : FrameStream Bytes} {r : WavReader}

/-- The file has been opened. -/
theorem Opened.reads (h : Opened bytes format offset (frames.length * format.blockAlign) r) :
    Reads bytes format offset frames ⟨frames, 0, false⟩ r where
  frames := rfl
  room := Nat.zero_le _
  fp := by rw [h.fp, Nat.zero_mul, Nat.add_zero]
  mode := h.mode
  ferror := h.ferror
  format := h.format
  size := by rw [h.data]
  offset := h.offset
  err := h.err

/-- The reader at another position. -/
theorem Reads.moved (h : Reads bytes format offset frames s r) {pos : ℕ}
    (hpos : pos ≤ lastFrame format offset) :
    Reads bytes format offset frames { s with pos }
      (r.setFile ⟨bytes, offset + pos * format.blockAlign, []⟩) where
  frames := h.frames
  room := hpos
  fp := rfl
  mode := h.mode
  ferror := h.ferror
  format := h.format
  size := h.size
  offset := h.offset
  err := h.err

theorem Reads.wavGetLength (h : Reads bytes format offset frames s r) (hf : format.Readable) :
    r.wavGetLength = .ok frames.length := by
  have hblock := hf.block
  rw [WavReader.wavGetLength, h.format, if_neg (by omega), h.size, Nat.mul_div_cancel _ hblock]

theorem Reads.wavTell (h : Reads bytes format offset frames s r) (hf : format.Readable)
    (hp : Presents bytes format offset frames rest) :
    r.wavTell = .ok ((s.pos : ℤ), r.setFile ⟨bytes, offset + s.pos * format.blockAlign, []⟩) := by
  have hblock := hf.block
  have hfits := (le_lastFrame hblock hp.offset).mp h.room
  have hstart : toLong offset = offset := if_pos hp.offset
  have hpos : toLong s.pos = s.pos := by
    refine if_pos (Nat.lt_of_le_of_lt ?_ hfits)
    exact (Nat.le_mul_of_pos_right _ hblock).trans (Nat.le_add_left _ _)
  have hnot : ¬ ((offset + s.pos * format.blockAlign : ℕ) : ℤ) < toLong offset := by
    rw [hstart]
    omega
  have hdiff : subU64 (offset + s.pos * format.blockAlign) offset = s.pos * format.blockAlign := by
    rw [subU64_of_le (Nat.le_add_right _ _) (by omega), Nat.add_sub_cancel_left]
  have hzero : format.blockAlign ≠ 0 := by omega
  simp only [WavReader.wavTell, h.fp, ByteFile.ftell, ByteFile.outcome, h.offset, h.format]
  rw [if_neg hnot, if_neg hzero, hdiff, Nat.mul_div_cancel _ hblock, hpos]

theorem next_mem (s : FrameStream Bytes) (count : ℕ) : ∀ f ∈ s.next count, f ∈ s.frames := by
  intro f hmem
  rw [FrameStream.next] at hmem
  split at hmem
  · cases hmem
  · exact List.mem_of_mem_drop (List.mem_of_mem_take hmem)

/-- A read stays where a `long` can point to. -/
theorem Reads.next_room (h : Reads bytes format offset frames s r) (hf : format.Readable)
    (hp : Presents bytes format offset frames rest) (count : ℕ) :
    s.pos + (s.next count).length ≤ lastFrame format offset := by
  have hroom := h.room
  have hend : frames.length ≤ lastFrame format offset :=
    (le_lastFrame hf.block hp.offset).mpr hp.fits
  rw [FrameStream.next, h.frames]
  split
  · exact hroom
  · rw [List.length_take, List.length_drop]
    omega

theorem Reads.wavRead (h : Reads bytes format offset frames s r) (hf : format.Readable)
    (hp : Presents bytes format offset frames rest)
    (hinside : s.pos ≤ frames.length ∨ rest = []) (count : ℕ) :
    ∃ r', r.wavRead count = .ok (((s.next count).flatten, (s.next count).length), r') ∧
      Reads bytes format offset frames { s with pos := s.pos + (s.next count).length } r' := by
  have hchannels := hf.channels
  have htell := h.wavTell hf hp
  have hroom := h.next_room hf hp count
  have h₁ := h.moved h.room
  have hmode : ¬ r.file.mode &&& wavOpenRead = 0 := by
    rw [h.mode]
    decide
  have hlt : s.pos < 2 ^ 63 := by
    have hfits := (le_lastFrame hf.block hp.offset).mp h.room
    have hle := Nat.le_mul_of_pos_right s.pos hf.block
    omega
  have hword : longToU64 s.pos = s.pos := by
    rw [longToU64]
    omega
  have hstay : s.next count = [] → Reads bytes format offset frames
      { s with pos := s.pos + (s.next count).length }
      (r.setFile ⟨bytes, offset + s.pos * format.blockAlign, []⟩) := by
    intro hnil
    rw [hnil]
    exact h₁
  rw [WavReader.wavRead, wavGetSampleSize, h.format, if_neg (by omega)]
  simp only [Except.bind, hmode, if_false, hf.tag, h.wavGetLength hf, htell, hword]
  split
  · -- an error is pending
    rename_i herr
    have hfailed : s.failed = true := by
      by_contra hno
      exact herr (h₁.err.trans (if_neg hno))
    have hnil : s.next count = [] := if_pos hfailed
    refine ⟨_, ?_, hstay hnil⟩
    rw [hnil]
    rfl
  rename_i herr
  have hfailed : s.failed = false := by
    by_contra hyes
    exact herr (h₁.err.trans (if_pos (by simpa using hyes)) ▸ by decide)
  have hdata := @Presents.fread bytes rest format offset frames hf hp s.pos count _ rfl hinside _ rfl
  have hnext : s.next count = (frames.drop s.pos).take count := by
    rw [FrameStream.next, hfailed, h.frames]
    rfl
  rw [← hnext] at hdata
  have hmem : ∀ f ∈ s.next count, f ∈ frames := h.frames ▸ next_mem s count
  have hlen : (s.next count).flatten.length = (s.next count).length * format.blockAlign :=
    length_flatten_blocks fun f hf => hp.blocks f (hmem f hf)
  generalize (if count ≤ subU64 frames.length s.pos then count
    else subU64 frames.length s.pos) = count' at hdata ⊢
  split
  · rename_i hzero
    have hnil : s.next count = [] := by
      rw [hzero, Nat.mul_zero] at hdata
      have h0 : 0 = (s.next count).length * format.blockAlign :=
        hlen ▸ congrArg List.length hdata
      have hblock := hf.block
      exact List.length_eq_zero_iff.mp ((Nat.mul_eq_zero.mp h0.symm).resolve_right (by omega))
    refine ⟨_, ?_, hstay hnil⟩
    rw [hnil]
    rfl
  · have hend : offset + s.pos * format.blockAlign + (s.next count).flatten.length
        = offset + (s.pos + (s.next count).length) * format.blockAlign := by
      rw [hlen, Nat.add_mul, Nat.add_assoc]
    refine ⟨_, ?_, h.moved hroom⟩
    simp only [WavReader.fread, setFile, ByteFile.fread, ByteFile.outcome, hdata, h.ferror, hend,
      hp.count hf hmem]
    rfl

/-- Where a seek is to go, if the sum fits a `long`. -/
theorem Reads.seekOffset (h : Reads bytes format offset frames s r) (hf : format.Readable)
    (hp : Presents bytes format offset frames rest) {off : ℤ} (hoff : IsLong off) (origin : Origin) :
    (∃ r₁, r.seekOffset frames.length off origin = .ok (s.target off origin, r₁) ∧
        Reads bytes format offset frames s r₁) ∨
      2 ^ 63 ≤ s.target off origin ∧
        r.seekOffset frames.length off origin = .error .signedOverflow := by
  obtain ⟨hlow, hhigh⟩ := hoff
  have hsum : ∀ (n : ℕ) (r₁ : WavReader), Reads bytes format offset frames s r₁ →
      (∃ r₂, (inLong (off + n)).map (fun x => (x, r₁)) = .ok (off + n, r₂) ∧
          Reads bytes format offset frames s r₂) ∨
        2 ^ 63 ≤ off + n ∧ (inLong (off + n)).map (fun x => (x, r₁)) = .error .signedOverflow := by
    intro n r₁ h₁
    rw [inLong]
    split
    · exact Or.inl ⟨r₁, rfl, h₁⟩
    · rename_i hout
      refine Or.inr ⟨?_, rfl⟩
      by_contra hin
      exact hout ⟨by omega, by omega⟩
  cases origin with
  | set => exact Or.inl ⟨r, rfl, h⟩
  | cur =>
      rw [WavReader.seekOffset, h.wavTell hf hp]
      exact hsum s.pos _ (h.moved h.room)
  | fromEnd =>
      have hlen : toLong frames.length = frames.length := by
        have hle := Nat.le_mul_of_pos_right frames.length hf.block
        have hsize := hp.size
        exact if_pos (by omega)
      rw [WavReader.seekOffset, hlen, FrameStream.target, h.frames]
      exact hsum frames.length r h

/-- How the result of a seek is reported. -/
def seekCode (ok : Bool) : ℤ := if ok then 0 else WavErrCode.param.toInt

theorem inLong_of_lt {n : ℕ} (h : n < 2 ^ 63) : inLong n = .ok (n : ℤ) :=
  if_pos ⟨by omega, by omega⟩

theorem inLong_of_ge {n : ℕ} (h : 2 ^ 63 ≤ n) : inLong n = .error .signedOverflow :=
  if_neg fun hlong => absurd hlong.2 (by omega)

/-- The two checks of a seek, as one. -/
theorem inLong_bind_of_lt {T : Type} {a b : ℕ} (h : b + a < 2 ^ 63)
    (next : ℤ → Except WavReadFault T) :
    ((inLong a).bind fun x => (inLong (b + x)).bind next) = next (b + a : ℕ) := by
  have ha : a < 2 ^ 63 := Nat.lt_of_le_of_lt (Nat.le_add_left a b) h
  rw [inLong_of_lt ha, ok_bind, ← Nat.cast_add, inLong_of_lt h, ok_bind]

theorem inLong_bind_of_ge {T : Type} {a b : ℕ} (h : 2 ^ 63 ≤ b + a)
    (next : ℤ → Except WavReadFault T) :
    ((inLong a).bind fun x => (inLong (b + x)).bind next) = .error .signedOverflow := by
  rcases Nat.lt_or_ge a (2 ^ 63) with ha | ha
  · rw [inLong_of_lt ha, ok_bind, ← Nat.cast_add, inLong_of_ge h]
    rfl
  · rw [inLong_of_ge ha]
    rfl

theorem Reads.seekTo (h : Reads bytes format offset frames s r) (hf : format.Readable)
    (hp : Presents bytes format offset frames rest) (target : ℤ) :
    Follows seekCode faultOf (Reads bytes format offset frames)
      (s.seek (lastFrame format offset) target) (r.seekTo target) := by
  rw [FrameStream.seek, WavReader.seekTo]
  by_cases hneg : target < 0
  · -- an error is set, unless one is pending
    rw [if_pos hneg, if_pos hneg, errSet, WavRecorder.wavErrSet, h.err]
    rcases s.failed with - | -
    · exact .ok (a := false) ⟨h.room, h.fp, h.mode, h.ferror, h.size, h.frames, h.format,
        h.offset, rfl⟩
    · exact .error (e := StreamFault.pending)
  obtain ⟨n, rfl⟩ := Int.eq_ofNat_of_zero_le (not_lt.mp hneg)
  have hstart : toLong offset = offset := if_pos hp.offset
  rw [if_neg hneg, if_neg hneg, h.format, h.offset, hstart, ← Nat.cast_mul]
  by_cases hle : n ≤ lastFrame format offset
  · have hfits := (le_lastFrame hf.block hp.offset).mp hle
    rw [if_pos (Nat.cast_le.mpr hle), inLong_bind_of_lt hfits, h.fp]
    have hpos : ¬ ((offset + n * format.blockAlign : ℕ) : ℤ) < 0 := by omega
    simp only [fseekLong, if_neg hpos, ByteFile.fseek, ByteFile.outcome, Int.toNat_natCast]
    exact .ok (a := true) (h.moved hle)
  · have hfits := mt (le_lastFrame hf.block hp.offset).mpr hle
    rw [if_neg (mt Nat.cast_le.mp hle), inLong_bind_of_ge (not_lt.mp hfits)]
    exact .error (e := StreamFault.outOfRange)

/-- No frame is that far. -/
theorem seek_beyond {s : FrameStream Bytes} {target : ℤ} (h : 2 ^ 63 ≤ target)
    (format : WavFormat) (offset : ℕ) :
    s.seek (lastFrame format offset) target = .error .outOfRange := by
  have hlast : lastFrame format offset < 2 ^ 63 :=
    Nat.lt_of_le_of_lt (Nat.div_le_self _ _) (by omega)
  rw [FrameStream.seek, if_neg (by omega), if_neg (by omega)]

theorem Reads.wavSeek (h : Reads bytes format offset frames s r) (hf : format.Readable)
    (hp : Presents bytes format offset frames rest) {off : ℤ} (hoff : IsLong off) (origin : Origin) :
    Follows seekCode faultOf (Reads bytes format offset frames)
      (s.seek (lastFrame format offset) (s.target off origin)) (r.wavSeek off origin) := by
  rw [WavReader.wavSeek, h.wavGetLength hf]
  rcases h.seekOffset hf hp hoff origin with ⟨r₁, heq, h₁⟩ | ⟨hbig, heq⟩
  · simp only [Except.bind, heq]
    exact h₁.seekTo hf hp _
  · simp only [Except.bind, heq, seek_beyond hbig]
    exact .error (e := StreamFault.outOfRange)

/-! ### Every call -/

theorem Reads.call (h : Reads bytes format offset frames s r) (hf : format.Readable)
    (hp : Presents bytes format offset frames []) {c : StreamCall} (hc : c.Fits) :
    Follows answer faultOf (Reads bytes format offset frames)
      (s.call (lastFrame format offset) c) (r.call c) := by
  cases c with
  | tell =>
      rw [WavReader.call, h.wavTell hf hp]
      exact .ok (a := StreamAnswer.position s.pos) (h.moved h.room)
  | read count =>
      obtain ⟨r', hread, h'⟩ := h.wavRead hf hp (Or.inr rfl) count
      rw [WavReader.call, hread]
      exact .ok (a := StreamAnswer.frames (s.next count)) h'
  | seek offset origin => exact (h.wavSeek hf hp hc origin).map StreamAnswer.sought WavAnswer.sought fun _ => rfl
  | rewind =>
      have hdone : r.call .rewind = (r.wavSeek 0 .set).map fun p => (.done, p.2) := by
        rw [WavReader.call, wavRewind]
        cases r.wavSeek 0 .set <;> rfl
      have hseek := @Reads.wavSeek bytes [] format offset frames s r h hf hp 0 (by decide) .set
      rw [hdone]
      exact hseek.map (fun _ => StreamAnswer.done) (fun _ => WavAnswer.done) fun _ => rfl
  | errClear =>
      exact .ok (a := StreamAnswer.done) ⟨h.room, h.fp, h.mode, h.ferror, h.size, h.frames,
        h.format, h.offset, rfl⟩

/-- **Reading is a stream of frames.**  A well-formed file whose data are whole
frames, the frames of whole samples and not of the extensible format, with
nothing behind them, is opened while no call of the system fails; and then every
sequence of calls gets the answers of the stream of these frames, and ends in a
fault exactly when the stream does. -/
theorem wavReader_refines {bytes : Bytes} {format : WavFormat} {offset : ℕ} {frames : List Bytes}
    (hwf : WellFormedWav bytes format offset (frames.length * format.blockAlign))
    (hf : format.Readable) (hdata : bytes.drop offset = frames.flatten)
    (hblocks : ∀ f ∈ frames, f.length = format.blockAlign) (hfile : bytes.length < 2 ^ 63) :
    ∃ r, wavInit (some bytes) [] = .ok r ∧ r.file.err = .ok ∧
      ∀ calls : List StreamCall, (∀ c ∈ calls, c.Fits) →
        (collect WavReader.call r calls).1
            = (collect (FrameStream.call (lastFrame format offset)) ⟨frames, 0, false⟩
                calls).1.map answer ∧
          ∀ e, (collect WavReader.call r calls).2 = .error e ↔
            ∃ e', (collect (FrameStream.call (lastFrame format offset)) ⟨frames, 0, false⟩
              calls).2 = .error e' ∧ e = faultOf e' := by
  obtain ⟨r, hinit, hopen⟩ := wellFormed_opened hwf
  have hp : Presents bytes format offset frames [] := by
    obtain ⟨riffSize, chunks, rest, -, hsize, hsplit, hoffset, -⟩ := hwf
    refine ⟨by rw [hdata, List.append_nil], hblocks, hsize, ?_⟩
    have hlen := congrArg List.length hdata
    rw [List.length_drop, length_flatten_blocks hblocks] at hlen
    have hbytes := congrArg List.length hsplit
    simp only [List.length_append, length_chunkHeader, length_leBytes] at hbytes
    have hheader : sizeofChunkHeader = 8 := rfl
    omega
  refine ⟨r, hinit, hopen.err, fun calls hcalls => ?_⟩
  have hcall : ∀ (s : FrameStream Bytes) (r : WavReader) (c : StreamCall),
      Reads bytes format offset frames s r → c.Fits →
        Follows answer faultOf (Reads bytes format offset frames)
          (s.call (lastFrame format offset) c) (r.call c) :=
    fun _ _ _ h hc => h.call hf hp hc
  obtain ⟨hanswers, hend⟩ := collect_follows hcall hopen.reads hcalls
  refine ⟨hanswers, fun e => ?_⟩
  rcases hend with ⟨s', r', hs, hr, -⟩ | ⟨e', hs, hr⟩
  · rw [hs, hr]
    exact iff_of_false nofun fun ⟨_, h, _⟩ => by cases h
  · rw [hs, hr]
    constructor
    · intro h
      cases h
      exact ⟨e', rfl, rfl⟩
    · rintro ⟨_, h, rfl⟩
      cases h
      rfl

/-- A file of two mono frames. -/
def twoFrames : Bytes :=
  chunkHeader wavRiffChunkId 40 ++ (leBytes 4 wavWaveId
    ++ (chunksBytes [⟨wavFormatChunkId, (WavFormat.mk 1 1 48000 96000 2 16 0).toBytes.take 16⟩]
      ++ (chunkHeader wavDataChunkId 4 ++ [1, 2, 3, 4])))

/-- The last frame is read again, and the second seek to before the beginning
ends the program. -/
theorem wavReader_refines_twoFrames :
    ∃ r, wavInit (some twoFrames) [] = .ok r ∧
      (collect WavReader.call r [.read 1, .read 5, .seek (-1) .fromEnd, .tell, .read 5,
          .seek (-3) .cur, .read 1, .seek (-1) .set]).1
        = [.frames [1, 2] 1, .frames [3, 4] 1, .sought 0, .position 1, .frames [3, 4] 1,
          .sought 4, .frames [] 0] ∧
      (collect WavReader.call r [.read 1, .read 5, .seek (-1) .fromEnd, .tell, .read 5,
          .seek (-3) .cur, .read 1, .seek (-1) .set]).2 = .error (.shared .errPending) := by
  have hwf : WellFormedWav twoFrames ⟨1, 1, 48000, 96000, 2, 16, 0⟩ 44 4 :=
    ⟨40, _, [1, 2, 3, 4], by decide, by decide, rfl, by decide, by decide⟩
  obtain ⟨r, hinit, -, hcalls⟩ := @wavReader_refines twoFrames ⟨1, 1, 48000, 96000, 2, 16, 0⟩ 44
    [[1, 2], [3, 4]] hwf ⟨by decide, by decide, by decide, by decide⟩ (by decide) (by decide)
    (by decide)
  obtain ⟨hanswers, hend⟩ := hcalls [.read 1, .read 5, .seek (-1) .fromEnd, .tell, .read 5,
    .seek (-3) .cur, .read 1, .seek (-1) .set] (by decide)
  refine ⟨r, hinit, hanswers.trans (by decide), (hend _).mpr ⟨.pending, by decide, rfl⟩⟩

end WavReader

end Tram
