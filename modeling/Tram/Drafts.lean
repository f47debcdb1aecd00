/-
Tram/Drafts.lean

A file that is being written (`wav.c`), while no call of the system fails.

A `Draft` is what the library keeps of such a file and what the file holds.
`Draft.reader` is the library's record with the bytes of its stream: the header
is that of the record, its two sizes those of the record.  Every call that comes
back leaves a draft again (`writerCall_draft`).

The bytes are those the file has once the stream has been flushed; until then
the last ones may still be with `<stdio.h>`.  So whoever opens the file behind
a call and a flush is told what the getters of the writer tell
(`header_in_sync`).  The calls are the setters, `wav_write`, `wav_tell`,
`wav_read`, `wav_seek`, `wav_rewind` and `wav_err_clear`.
-/
import Tram.WavImage
import Tram.WavWriter

namespace Tram

/-! ### Drafts -/

/-- A file that is being written: the data so far, the size the header gives for
it, and the position behind the header. -/
structure Draft where
  mode : ℕ
  isANewFile : Bool
  format : WavFormat
  size : ℕ
  body : Bytes
  pos : ℕ
  err : WavErrCode

namespace Draft

/-- The record of the library, with the bytes of its stream. -/
def file (d : Draft) : WavRecorder where
  fp := some ⟨wavImage d.format (u32 (36 + d.size)) d.size d.body, 44 + d.pos, []⟩
  mode := d.mode
  isANewFile := d.isANewFile
  riffChunk := ⟨wavRiffChunkId, u32 (36 + d.size)⟩
  waveId := wavWaveId
  formatHeader := ⟨wavFormatChunkId, 16⟩
  formatOffset := 20
  format := d.format
  dataHeader := ⟨wavDataChunkId, d.size⟩
  dataOffset := 44
  err := d.err

/-- The record with an error indicator that is not set. -/
def reader (d : Draft) : WavReader := ⟨d.file, false⟩

theorem reader_injective {d d' : Draft} (h : d.reader = d'.reader) : d = d' := by
  have hfile : d.file = d'.file := congrArg WavReader.file h
  have hfp := Option.some.inj (congrArg WavRecorder.fp hfile)
  have hbody := congrArg (fun fp : ByteFile => fp.bytes.drop 44) hfp
  have hpos : 44 + d.pos = 44 + d'.pos := congrArg ByteFile.pos hfp
  have hmode := congrArg WavRecorder.mode hfile
  have hnew := congrArg WavRecorder.isANewFile hfile
  have hformat := congrArg WavRecorder.format hfile
  have hsize := congrArg (fun file : WavRecorder => file.dataHeader.size) hfile
  have herr := congrArg WavRecorder.err hfile
  dsimp only at hbody
  rw [drop_wavImage, drop_wavImage] at hbody
  obtain ⟨mode, isANewFile, format, size, body, pos, err⟩ := d
  obtain ⟨mode', isANewFile', format', size', body', pos', err'⟩ := d'
  obtain rfl := Nat.add_left_cancel hpos
  cases hmode
  cases hnew
  cases hformat
  cases hsize
  cases hbody
  cases herr
  rfl

/-- What the setters test first. -/
def Writable (d : Draft) : Prop :=
  ¬ (d.mode &&& wavOpenWrite = 0 ∧
    ¬ (d.mode &&& wavOpenAppend ≠ 0 ∧ d.isANewFile = true ∧ d.size = 0))

end Draft

/-- The format is one the setters can come to. -/
structure WavFormat.Settable (format : WavFormat) : Prop where
  fits : format.Fits
  channels : 0 < format.numChannels
  plain : format.formatTag ≠ wavFormatExtensible

/-- The mode is one of those in which a file is only written. -/
def WritingMode (mode : ℕ) : Prop :=
  mode &&& wavOpenRead = 0 ∧ (mode &&& wavOpenWrite ≠ 0 ∨ mode &&& wavOpenAppend ≠ 0)

instance (mode : ℕ) : Decidable (WritingMode mode) := inferInstanceAs (Decidable (_ ∧ _))

structure Draft.Valid (d : Draft) : Prop where
  mode : WritingMode d.mode
  format : d.format.Settable
  size : d.size < 2 ^ 32

namespace Draft

variable {d : Draft}

/-! ### The header -/

/-- The header is written over the first bytes of the file. -/
theorem wavWriteHeader_eq (d : Draft) (bytes : Bytes) (pos riff : ℕ) :
    WavRecorder.wavWriteHeader { d.file with
        fp := some ⟨bytes, pos, []⟩, riffChunk := ⟨wavRiffChunkId, riff⟩ }
      = .ok { d with body := bytes.drop 44, pos := 0 }.file := by
  have hheader := @overwrite_header bytes
    (leBytes 4 wavRiffChunkId ++ leBytes 4 (u32 (36 + d.size)) ++ leBytes 4 wavWaveId)
    (leBytes 4 wavFormatChunkId ++ leBytes 4 16) (d.format.toBytes.take 16)
    (leBytes 4 wavDataChunkId ++ leBytes 4 d.size) (by simp) (by simp)
    (by rw [WavFormat.toBytes_take]; simp) (by simp)
  have hsize : 4 + (sizeofChunkHeader + 16) + (sizeofChunkHeader + d.size) = 36 + d.size := by
    simp only [sizeofChunkHeader]
    omega
  rw [WavFormat.toBytes_take] at hheader
  simp only [WavRecorder.wavWriteHeader, WavRecorder.writeFormatChunk, WavRecorder.writeDataChunk,
    WavRecorder.stdio, ByteFile.fseek, ByteFile.fwrite, ByteFile.outcome, file, if_true, hsize]
  simp only [sizeofChunkHeader, WavChunkHeader.toBytes, WavFormat.toBytes_take, wavImage,
    headerMiddle]
  simpa [List.append_assoc] using hheader

/-- A setter changes the format and writes the header. -/
theorem wavWriteHeader_format (d : Draft) (format : WavFormat) :
    WavRecorder.wavWriteHeader { d.file with format }
      = .ok { d with format, pos := 0 }.file := by
  have h := wavWriteHeader_eq { d with format }
    (wavImage d.format (u32 (36 + d.size)) d.size d.body) (44 + d.pos) (u32 (36 + d.size))
  rw [drop_wavImage] at h
  exact h

/-- The sizes of the record replace those in the file. -/
theorem wavUpdateSizes_eq (d : Draft) (riff size : ℕ) :
    WavRecorder.wavUpdateSizes { d.file with
        fp := some ⟨wavImage d.format riff size d.body, 44 + d.pos, []⟩ } = .ok d.file := by
  have hriff := @overwrite_riffSize d.format riff size d.body (u32 (36 + d.size))
  have hsize := @overwrite_size d.format (u32 (36 + d.size)) size d.body d.size
  simp only [WavRecorder.wavUpdateSizes, WavRecorder.stdio, WavRecorder.seekBack, ByteFile.ftell,
    ByteFile.fseek, ByteFile.fwrite, ByteFile.outcome, file, sizeofChunkHeader]
  simp [hriff, hsize]

/-- A new file, in each of the modes. -/
theorem wavInitNew_draft {mode : ℕ} {r : WavReader} (h : WavReader.wavInitNew mode [] = .ok r) :
    ∃ isANewFile, r = (Draft.mk mode isANewFile wavOpen.format 0 [] 0 .ok).reader := by
  have hstart : ∀ isANewFile, WavReader.startFile ⟨{ WavRecorder.zeroed with
      fp := some ⟨[], 0, []⟩, mode, isANewFile }, false⟩
        = .ok (Draft.mk mode isANewFile wavOpen.format 0 [] 0 .ok).reader := by
    intro isANewFile
    have hheader := wavWriteHeader_eq ⟨mode, isANewFile, wavOpen.format, 0, [], 0, .ok⟩ [] 0 0
    rw [List.drop_nil] at hheader
    rw [WavReader.startFile, WavReader.withFile]
    dsimp only
    erw [hheader]
    rfl
  rw [WavReader.wavInitNew] at h
  dsimp only [ByteFile.outcome] at h
  split at h
  · exact ⟨false, Except.ok.inj (h.symm.trans (hstart false))⟩
  · -- the file is empty, and so there is nothing to append to
    exact ⟨true, Except.ok.inj (h.symm.trans (hstart true))⟩

/-! ### The setters -/

theorem wavErrSet_file {code : WavErrCode} {file : WavRecorder}
    (h : d.file.wavErrSet code = .ok file) : d.err = .ok ∧ file = { d with err := code }.file := by
  rw [WavRecorder.wavErrSet] at h
  by_cases herr : d.file.err = .ok
  · rw [if_pos herr] at h
    exact ⟨herr, (Except.ok.inj h).symm⟩
  · rw [if_neg herr] at h
    cases h

theorem errSet_reader {code : WavErrCode} {r : WavReader} (h : d.reader.errSet code = .ok r) :
    r = { d with err := code }.reader := by
  rw [WavReader.errSet] at h
  split at h
  · cases h
  · rename_i file hset
    obtain rfl := Except.ok.inj h
    obtain ⟨-, rfl⟩ := wavErrSet_file hset
    rfl

theorem ifWritable_eq (hw : d.Writable) (format : WavFormat)
    (next : Except WavFault WavRecorder) :
    WavRecorder.ifWritable { d.file with format } next = next := if_neg hw

/-- How a setter ends. -/
inductive SetterCase (d : Draft) : Draft → Prop
  | unchanged : SetterCase d d
  | refused (code : WavErrCode) : SetterCase d { d with err := code }
  | formatted {format : WavFormat} : d.Writable → format.Settable →
      SetterCase d { d with format, pos := 0 }

theorem setterCase_errSet {code : WavErrCode} {file : WavRecorder}
    (h : d.file.wavErrSet code = .ok file) : ∃ d', file = Draft.file d' ∧ SetterCase d d' :=
  ⟨_, (wavErrSet_file h).2, .refused code⟩

theorem setterCase_format {format : WavFormat} {file : WavRecorder} (hw : d.Writable)
    (hformat : format.Settable)
    (h : WavRecorder.wavWriteHeader { d.file with format } = .ok file) :
    ∃ d', file = Draft.file d' ∧ SetterCase d d' :=
  ⟨_, Except.ok.inj (h.symm.trans (wavWriteHeader_format d format)), .formatted hw hformat⟩

theorem setterCase_writable {next : Except WavFault WavRecorder} {file : WavRecorder}
    (h : d.file.ifWritable next = .ok file)
    (hnext : d.Writable → next = .ok file → ∃ d', file = Draft.file d' ∧ SetterCase d d') :
    ∃ d', file = Draft.file d' ∧ SetterCase d d' := by
  by_cases hw : d.Writable
  · exact hnext hw ((ifWritable_eq hw d.format next).symm.trans h)
  · exact setterCase_errSet ((if_pos (not_not.mp hw)).symm.trans h)

/-- The format behind `wav_set_sample_size`. -/
def sized (format : WavFormat) (sampleSize : ℕ) : WavFormat :=
  { format with
    blockAlign := u16 (sampleSize * format.numChannels)
    avgBytesPerSec := u32 (u16 (sampleSize * format.numChannels) * format.sampleRate)
    bitsPerSample := u16 (sampleSize * 8) }

theorem sized_settable {format : WavFormat} (h : format.Settable) (sampleSize : ℕ) :
    (sized format sampleSize).Settable where
  fits := ⟨h.fits.tag, h.fits.channels, h.fits.rate, u32_lt _, Nat.mod_lt _ (by decide),
    Nat.mod_lt _ (by decide), h.fits.ext⟩
  channels := h.channels
  plain := h.plain

/-- The format behind `wav_set_num_channels`. -/
def channelled (format : WavFormat) (numChannels : ℕ) : WavFormat :=
  { format with
    numChannels
    blockAlign := u16 (format.blockAlign / format.numChannels * numChannels)
    avgBytesPerSec :=
      u32 (u16 (format.blockAlign / format.numChannels * numChannels) * format.sampleRate) }

theorem channelled_settable {format : WavFormat} (h : format.Settable) {numChannels : ℕ}
    (hchannels : 0 < u16 numChannels) : (channelled format (u16 numChannels)).Settable where
  fits := ⟨h.fits.tag, Nat.mod_lt _ (by decide), h.fits.rate, u32_lt _, Nat.mod_lt _ (by decide),
    h.fits.bits, h.fits.ext⟩
  channels := hchannels
  plain := h.plain

/-- The format behind `wav_set_sample_rate`. -/
def rated (format : WavFormat) (sampleRate : ℕ) : WavFormat :=
  { format with sampleRate, avgBytesPerSec := u32 (format.blockAlign * sampleRate) }

theorem rated_settable {format : WavFormat} (h : format.Settable) (sampleRate : ℕ) :
    (rated format (u32 sampleRate)).Settable where
  fits := ⟨h.fits.tag, h.fits.channels, u32_lt _, u32_lt _, h.fits.block, h.fits.bits, h.fits.ext⟩
  channels := h.channels
  plain := h.plain

theorem bits_settable {format : WavFormat} (h : format.Settable) (bits : ℕ) :
    WavFormat.Settable { format with bitsPerSample := u16 bits } where
  fits := ⟨h.fits.tag, h.fits.channels, h.fits.rate, h.fits.bytesPerSec, h.fits.block,
    Nat.mod_lt _ (by decide), h.fits.ext⟩
  channels := h.channels
  plain := h.plain

theorem tag_settable {format : WavFormat} (h : format.Settable) {tag : ℕ} (htag : tag < 2 ^ 16)
    (hplain : tag ≠ wavFormatExtensible) :
    WavFormat.Settable { format with formatTag := tag } where
  fits := ⟨htag, h.fits.channels, h.fits.rate, h.fits.bytesPerSec, h.fits.block, h.fits.bits,
    h.fits.ext⟩
  channels := h.channels
  plain := hplain

theorem wavSetSampleSize_format (hw : d.Writable) (format : WavFormat) {sampleSize : ℕ}
    (hsize : ¬ sampleSize < 1) :
    WavRecorder.wavSetSampleSize { d.file with format } sampleSize
      = .ok { d with format := sized format sampleSize, pos := 0 }.file := by
  rw [WavRecorder.wavSetSampleSize, ifWritable_eq hw, if_neg hsize]
  exact wavWriteHeader_format d _

/-- A setter that calls `wav_set_sample_size` writes the header twice. -/
theorem setterCase_sized {format : WavFormat} {sampleSize : ℕ} {file : WavRecorder}
    (hw : d.Writable) (hformat : format.Settable) (hsize : ¬ sampleSize < 1)
    (h : (WavRecorder.wavSetSampleSize { d.file with format } sampleSize).bind
      WavRecorder.wavWriteHeader = .ok file) : ∃ d', file = Draft.file d' ∧ SetterCase d d' := by
  rw [wavSetSampleSize_format hw format hsize] at h
  refine ⟨_, ?_, .formatted hw (sized_settable hformat sampleSize)⟩
  exact Except.ok.inj (h.symm.trans
    (wavWriteHeader_format { d with format := sized format sampleSize, pos := 0 } _))

end Draft

/-- The call does not select the extensible format. -/
def WavSetter.Plain : WavSetter → Prop
  | .setFormat format => u16 format ≠ wavFormatExtensible
  | _ => True

instance (s : WavSetter) : Decidable s.Plain := by
  cases s <;> unfold WavSetter.Plain <;> infer_instance

namespace Draft

variable {d : Draft}

/-- The sample size that goes with a format. -/
theorem setterCase_widths {format : WavFormat} {tag : ℕ} {file : WavRecorder} (hw : d.Writable)
    (hformat : format.Settable)
    (h : (let self : WavRecorder := { d.file with format }
      let sampleSize := u16 (self.format.blockAlign / self.format.numChannels)
      if tag = wavFormatAlaw ∨ tag = wavFormatMulaw then
        if sampleSize ≠ 1 then (self.wavSetSampleSize 1).bind WavRecorder.wavWriteHeader
        else self.wavWriteHeader
      else if tag = wavFormatIeeeFloat then
        if sampleSize ≠ 4 ∧ sampleSize ≠ 8 then
          (self.wavSetSampleSize 4).bind WavRecorder.wavWriteHeader
        else self.wavWriteHeader
      else self.wavWriteHeader) = .ok file) : ∃ d', file = Draft.file d' ∧ SetterCase d d' := by
  dsimp only at h
  split at h
  · split at h
    · exact setterCase_sized hw hformat (by decide) h
    · exact setterCase_format hw hformat h
  split at h
  · split at h
    · exact setterCase_sized hw hformat (by decide) h
    · exact setterCase_format hw hformat h
  · exact setterCase_format hw hformat h

theorem setFormat_draft (h : d.Valid) {format : ℕ} {file : WavRecorder}
    (hplain : u16 format ≠ wavFormatExtensible)
    (hset : d.file.wavSetPlainFormat format = .ok file) :
    ∃ d', file = Draft.file d' ∧ SetterCase d d' := by
  refine setterCase_writable hset fun hw hset => ?_
  split at hset
  · exact ⟨d, (Except.ok.inj hset).symm, .unchanged⟩
  dsimp only at hset
  have htagged := tag_settable h.format (Nat.mod_lt format (by decide)) hplain
  by_cases hpcm : u16 format = wavFormatPcm
  · rw [if_pos hpcm] at hset
    exact setterCase_widths hw htagged hset
  · rw [if_neg hpcm] at hset
    have hext : d.format = { d.format with extSize := 0 } := by
      rw [← h.format.fits.ext]
    rw [hext] at htagged
    exact setterCase_widths hw htagged hset

/-- Every setter leaves a draft. -/
theorem set_draft (h : d.Valid) {s : WavSetter} (hplain : s.Plain) {file : WavRecorder}
    (hset : s.set d.file = .ok file) : ∃ d', file = Draft.file d' ∧ SetterCase d d' := by
  cases s with
  | setFormat format => exact setFormat_draft h hplain hset
  | setNumChannels numChannels =>
      refine setterCase_writable hset fun hw hset => ?_
      split at hset
      · exact setterCase_errSet hset
      rename_i hchannels
      have hsettable := channelled_settable h.format (Nat.not_lt.mp hchannels)
      dsimp only at hset
      split at hset
      · exact ⟨d, (Except.ok.inj hset).symm, .unchanged⟩
      · exact setterCase_format hw hsettable hset
  | setSampleRate sampleRate =>
      refine setterCase_writable hset fun hw hset => ?_
      split at hset
      · exact ⟨d, (Except.ok.inj hset).symm, .unchanged⟩
      · exact setterCase_format hw (rated_settable h.format sampleRate) hset
  | setValidBitsPerSample bits =>
      refine setterCase_writable hset fun hw hset => ?_
      split at hset
      · exact setterCase_errSet hset
      split at hset
      · exact setterCase_errSet hset
      · exact setterCase_format hw (bits_settable h.format bits) hset
  | setSampleSize sampleSize =>
      refine setterCase_writable hset fun hw hset => ?_
      split at hset
      · exact setterCase_errSet hset
      · exact setterCase_format hw (sized_settable h.format sampleSize) hset
  | setChannelMask | setSubFormat =>
      exact setterCase_writable hset fun _ hset => setterCase_errSet hset

/-! ### Moving in the file -/

/-- The draft at another position, or with another error. -/
def Moves (d : Draft) (r : WavReader) : Prop := ∃ pos err, r = { d with pos, err }.reader

theorem moves_refl (d : Draft) : d.Moves d.reader := ⟨d.pos, d.err, rfl⟩

theorem moves_errSet {code : WavErrCode} {r : WavReader} (h : d.reader.errSet code = .ok r) :
    d.Moves r := ⟨d.pos, code, errSet_reader h⟩

theorem wavGetLength_reader {n : ℕ} (h : d.reader.wavGetLength = .ok n) :
    0 < d.format.blockAlign ∧ n = d.size / d.format.blockAlign := by
  rw [WavReader.wavGetLength] at h
  split at h
  · cases h
  · rename_i hblock
    exact ⟨Nat.pos_of_ne_zero hblock, (Except.ok.inj h).symm⟩

theorem wavTell_reader {pos : ℤ} {r : WavReader} (h : d.reader.wavTell = .ok (pos, r)) :
    r = d.reader ∧ 0 < d.format.blockAlign := by
  have hfp : d.reader.file.fp
      = some ⟨wavImage d.format (u32 (36 + d.size)) d.size d.body, 44 + d.pos, []⟩ := rfl
  simp only [WavReader.wavTell, hfp, ByteFile.ftell, ByteFile.outcome] at h
  split at h
  · cases h
  split at h
  · cases h
  · rename_i hblock
    exact ⟨((Prod.mk.inj (Except.ok.inj h)).2).symm, Nat.pos_of_ne_zero hblock⟩

theorem seekOffset_reader {length : ℕ} {offset pos : ℤ} {origin : Origin} {r : WavReader}
    (h : d.reader.seekOffset length offset origin = .ok (pos, r)) : r = d.reader := by
  cases origin with
  | set => exact ((Prod.mk.inj (Except.ok.inj h)).2).symm
  | cur =>
      obtain ⟨⟨p, r'⟩, htell, hoffset⟩ := except_bind_ok h
      obtain ⟨rfl, -⟩ := wavTell_reader htell
      obtain ⟨x, -, hx⟩ := except_map_ok hoffset
      exact ((Prod.mk.inj hx).2).symm
  | fromEnd =>
      obtain ⟨x, -, hx⟩ := except_map_ok h
      exact ((Prod.mk.inj hx).2).symm

/-- A seek goes to a frame behind the header, or sets an error. -/
theorem seekTo_reader {offset rc : ℤ} {r : WavReader}
    (h : d.reader.seekTo offset = .ok (rc, r)) :
    d.Moves r ∧ (0 ≤ offset → r = { d with pos := (offset * d.format.blockAlign).toNat }.reader) := by
  rw [WavReader.seekTo] at h
  by_cases hneg : offset < 0
  · rw [if_pos hneg] at h
    obtain ⟨r₁, hset, hr⟩ := except_map_ok h
    obtain rfl := (Prod.mk.inj hr).2
    exact ⟨moves_errSet hset, fun hge => absurd hneg (not_lt.mpr hge)⟩
  · rw [if_neg hneg] at h
    obtain ⟨x, hx, h⟩ := except_bind_ok h
    obtain ⟨y, hy, h⟩ := except_bind_ok h
    rw [inLong] at hx hy
    split at hx <;> cases hx
    split at hy <;> cases hy
    have hx : 0 ≤ offset * (d.format.blockAlign : ℤ) :=
      Int.mul_nonneg (not_lt.mp hneg) (Int.natCast_nonneg _)
    have hstart : toLong d.reader.file.dataOffset = 44 := by
      show toLong 44 = 44
      decide
    have hnot : ¬ toLong d.reader.file.dataOffset
        + offset * (d.reader.file.format.blockAlign : ℤ) < 0 := by
      rw [hstart]
      show ¬ 44 + offset * (d.format.blockAlign : ℤ) < 0
      omega
    have hnat : (toLong d.reader.file.dataOffset
        + offset * (d.reader.file.format.blockAlign : ℤ)).toNat
          = 44 + (offset * (d.format.blockAlign : ℤ)).toNat := by
      rw [hstart]
      show (44 + offset * (d.format.blockAlign : ℤ)).toNat = _
      omega
    simp only [WavReader.fseekLong, if_neg hnot, hnat] at h
    have hr : r = { d with pos := (offset * d.format.blockAlign).toNat }.reader :=
      ((Prod.mk.inj (Except.ok.inj h)).2).symm
    exact ⟨⟨_, d.err, hr⟩, fun _ => hr⟩

theorem wavSeek_reader {offset rc : ℤ} {origin : Origin} {r : WavReader}
    (h : d.reader.wavSeek offset origin = .ok (rc, r)) : d.Moves r := by
  obtain ⟨length, -, h⟩ := except_bind_ok h
  obtain ⟨⟨pos, r'⟩, hoffset, h⟩ := except_bind_ok h
  obtain rfl := seekOffset_reader hoffset
  exact (seekTo_reader h).1

theorem wavRewind_reader {r : WavReader} (h : d.reader.wavRewind = .ok r) : d.Moves r := by
  obtain ⟨⟨rc, r'⟩, hseek, rfl⟩ := except_map_ok h
  exact wavSeek_reader hseek

/-- The file is not readable. -/
theorem wavRead_reader (h : d.Valid) {count : ℕ} {got : Bytes × ℕ} {r : WavReader}
    (hread : d.reader.wavRead count = .ok (got, r)) : d.Moves r := by
  have hmode : d.reader.file.mode &&& wavOpenRead = 0 := h.mode.1
  obtain ⟨sampleSize, -, hread⟩ := except_bind_ok hread
  rw [if_pos hmode] at hread
  obtain ⟨r₁, hset, hr⟩ := except_map_ok hread
  obtain rfl := (Prod.mk.inj hr).2
  exact moves_errSet hset

/-- The calls of an open stream leave the file as it is. -/
theorem call_reader (h : d.Valid) {c : StreamCall} {a : WavAnswer} {r : WavReader}
    (hcall : d.reader.call c = .ok (a, r)) : d.Moves r := by
  cases c with
  | tell =>
      obtain ⟨⟨pos, r'⟩, htell, hr⟩ := except_map_ok hcall
      obtain rfl := (Prod.mk.inj hr).2
      obtain ⟨rfl, -⟩ := wavTell_reader htell
      exact moves_refl d
  | read count =>
      obtain ⟨⟨got, r'⟩, hread, hr⟩ := except_map_ok hcall
      obtain rfl := (Prod.mk.inj hr).2
      exact wavRead_reader h hread
  | seek offset origin =>
      obtain ⟨⟨rc, r'⟩, hseek, hr⟩ := except_map_ok hcall
      obtain rfl := (Prod.mk.inj hr).2
      exact wavSeek_reader hseek
  | rewind =>
      obtain ⟨r', hrewind, hr⟩ := except_map_ok hcall
      obtain rfl := (Prod.mk.inj hr).2
      exact wavRewind_reader hrewind
  | errClear =>
      obtain rfl := (Prod.mk.inj (Except.ok.inj hcall)).2
      exact ⟨d.pos, .ok, rfl⟩

/-! ### Writing -/

/-- The file is opened for appending only. -/
def AppendOnly (d : Draft) : Prop := d.mode &&& wavOpenWrite = 0

/-- Writes of a file opened for appending only begin behind the last frame. -/
theorem seekEnd_reader (h : d.Valid) {r : WavReader} (hseek : d.reader.seekEnd = .ok r) :
    ∃ pos, r = { d with pos }.reader ∧
      (d.AppendOnly → pos = d.size / d.format.blockAlign * d.format.blockAlign) ∧
      (¬ d.AppendOnly → pos = d.pos) := by
  rw [WavReader.seekEnd] at hseek
  by_cases happend : d.AppendOnly
  · rw [if_pos ⟨h.mode.1, happend⟩] at hseek
    obtain ⟨⟨rc, r'⟩, hfound, rfl⟩ := except_map_ok hseek
    obtain ⟨length, hlength, hfound⟩ := except_bind_ok hfound
    obtain ⟨hblock, rfl⟩ := wavGetLength_reader hlength
    obtain ⟨⟨offset, r₁⟩, hoffset, hfound⟩ := except_bind_ok hfound
    obtain rfl := seekOffset_reader hoffset
    obtain ⟨x, hx, hpair⟩ := except_map_ok hoffset
    obtain rfl := (Prod.mk.inj hpair).1
    -- the length is a small number
    have hsmall : d.size / d.format.blockAlign < 2 ^ 32 :=
      Nat.lt_of_le_of_lt (Nat.div_le_self _ _) h.size
    have hlong : toLong (d.size / d.format.blockAlign) = (d.size / d.format.blockAlign : ℕ) :=
      if_pos (by omega)
    rw [inLong, hlong, zero_add] at hx
    split at hx <;> cases hx
    refine ⟨_, (seekTo_reader hfound).2 (Int.natCast_nonneg _), fun _ => ?_, fun hnot => ?_⟩
    · exact Int.toNat_natCast (d.size / d.format.blockAlign * d.format.blockAlign)
    · exact absurd happend hnot
  · rw [if_neg fun hmode => happend hmode.2] at hseek
    exact ⟨d.pos, (Except.ok.inj hseek).symm, fun h => absurd h happend, fun _ => rfl⟩

/-- The bytes are written at the position, and the sizes follow. -/
theorem writeItems_reader {sampleSize items n : ℕ} {buffer : Bytes} {r : WavReader}
    (herr : d.err = .ok) (h : d.reader.writeItems sampleSize items buffer = .ok (n, r)) :
    n = (if sampleSize = 0 then 0 else items) / d.format.numChannels ∧
      r = { d with
        body := overwrite d.body d.pos (buffer.take (sampleSize * items))
        size := u32 (d.size + sampleSize * items)
        pos := d.pos + (buffer.take (sampleSize * items)).length }.reader := by
  have hcount : (if sampleSize = 0 then 0 else items) * sampleSize = sampleSize * items := by
    split
    · rename_i hzero
      rw [hzero, Nat.zero_mul, Nat.zero_mul]
    · exact Nat.mul_comm _ _
  have hriff : u32 (u32 (36 + d.size) + sampleSize * items)
      = u32 (36 + u32 (d.size + sampleSize * items)) := by
    rw [u32, u32, u32, u32, Nat.mod_add_mod, Nat.add_mod_mod, Nat.add_assoc]
  set data := buffer.take (sampleSize * items) with hdata
  set d' : Draft := { d with
    body := overwrite d.body d.pos data
    size := u32 (d.size + sampleSize * items)
    pos := d.pos + data.length } with hd'
  have hsizes := wavUpdateSizes_eq d' (u32 (36 + d.size)) d.size
  have hbytes : overwrite (wavImage d.format (u32 (36 + d.size)) d.size d.body) (44 + d.pos) data
      = wavImage d.format (u32 (36 + d.size)) d.size d'.body := overwrite_behind d.pos data
  simp only [WavReader.writeItems, reader, file, ByteFile.fwrite, ByteFile.outcome, ← hdata, hbytes,
    WavReader.setFile, Bool.false_eq_true, if_false, WavReader.withFile, WavReader.addSize, hcount,
    hriff] at h
  rw [show 44 + d.pos + data.length = 44 + d'.pos from Nat.add_assoc _ _ _] at h
  erw [hsizes] at h
  obtain ⟨hn, hr⟩ := Prod.mk.inj (Except.ok.inj h)
  refine ⟨?_, hr.symm⟩
  rw [← hn]
  exact if_neg (not_not.mpr herr)

/-- How a write ends. -/
inductive WriteCase (d : Draft) (buffer : Bytes) (count : ℕ) : ℕ → WavReader → Prop
  | nothing {r} : d.Moves r → WriteCase d buffer count 0 r
  | written {pos sampleSize items : ℕ} {data : Bytes} : d.err = .ok → count ≠ 0 →
      0 < d.format.blockAlign →
      (d.AppendOnly → pos = d.size / d.format.blockAlign * d.format.blockAlign) →
      (¬ d.AppendOnly → pos = d.pos) →
      sampleSize = d.format.blockAlign / d.format.numChannels →
      items = u64 (d.format.numChannels * count) → data = buffer.take (sampleSize * items) →
      WriteCase d buffer count ((if sampleSize = 0 then 0 else items) / d.format.numChannels)
        { d with
          body := overwrite d.body pos data
          size := u32 (d.size + sampleSize * items)
          pos := pos + data.length }.reader

theorem wavWrite_reader (h : d.Valid) {buffer : Bytes} {count n : ℕ} {r : WavReader}
    (hwrite : d.reader.wavWrite buffer count = .ok (n, r)) : d.WriteCase buffer count n r := by
  have hnone : ∀ {x : Except WavReadFault WavReader}, WavReader.noneWritten x = .ok (n, r) →
      (∀ r₁, x = .ok r₁ → d.Moves r₁) → d.WriteCase buffer count n r := by
    intro x hx hmoves
    obtain ⟨r₁, hr₁, hpair⟩ := except_map_ok hx
    obtain ⟨rfl, rfl⟩ := Prod.mk.inj hpair
    exact .nothing (hmoves _ hr₁)
  have hsame : ∀ r₁, (.ok d.reader : Except WavReadFault WavReader) = .ok r₁ → d.Moves r₁ := by
    intro r₁ hr₁
    obtain rfl := Except.ok.inj hr₁
    exact moves_refl d
  obtain ⟨sampleSize, hsample, hwrite⟩ := except_bind_ok hwrite
  have hsample : sampleSize = d.format.blockAlign / d.format.numChannels := by
    rw [WavReader.wavGetSampleSize] at hsample
    split at hsample
    · cases hsample
    · exact (Except.ok.inj hsample).symm
  split at hwrite
  · exact hnone hwrite fun _ => moves_errSet
  split at hwrite
  · exact hnone hwrite fun _ => moves_errSet
  split at hwrite
  · exact hnone hwrite hsame
  rename_i hcount
  obtain ⟨⟨pos, r₁⟩, htell, hwrite⟩ := except_bind_ok hwrite
  obtain ⟨rfl, hblock⟩ := wavTell_reader htell
  dsimp only at hwrite
  split at hwrite
  · exact hnone hwrite hsame
  rename_i herr
  have herr : d.err = .ok := not_not.mp herr
  obtain ⟨r₂, hseek, hwrite⟩ := except_bind_ok hwrite
  obtain ⟨pos, rfl, happend, hplace⟩ := seekEnd_reader h hseek
  split at hwrite
  · rename_i hpending
    exact absurd herr hpending
  obtain ⟨rfl, rfl⟩ := writeItems_reader (d := { d with pos }) herr hwrite
  exact .written herr hcount hblock happend hplace hsample rfl rfl

/-! ### Every call -/

theorem withFile_reader {set : WavRecorder → Except WavFault WavRecorder} {r : WavReader}
    (h : d.reader.withFile set = .ok r) : ∃ file, set d.file = .ok file ∧ r = ⟨file, false⟩ := by
  rw [WavReader.withFile] at h
  split at h
  · cases h
  · rename_i file hset
    exact ⟨file, hset, (Except.ok.inj h).symm⟩

theorem SetterCase.valid {d' : Draft} (h : d.Valid) (hcase : SetterCase d d') :
    d'.Valid ∧ d'.mode = d.mode := by
  cases hcase with
  | unchanged => exact ⟨h, rfl⟩
  | refused code => exact ⟨⟨h.mode, h.format, h.size⟩, rfl⟩
  | formatted _ hformat => exact ⟨⟨h.mode, hformat, h.size⟩, rfl⟩

theorem Moves.valid {r : WavReader} (h : d.Valid) (hmoves : d.Moves r) :
    ∃ d', r = Draft.reader d' ∧ d'.Valid ∧ d'.mode = d.mode := by
  obtain ⟨pos, err, rfl⟩ := hmoves
  exact ⟨_, rfl, ⟨h.mode, h.format, h.size⟩, rfl⟩

end Draft

/-- The call does not select the extensible format. -/
def WriterCall.Plain : WriterCall → Prop
  | .set s => s.Plain
  | .stream _ | .write _ _ => True

instance (c : WriterCall) : Decidable c.Plain := by
  cases c <;> unfold WriterCall.Plain <;> infer_instance

/-- Every call that comes back leaves a draft. -/
theorem writerCall_draft {d : Draft} (h : d.Valid) {c : WriterCall} (hplain : c.Plain)
    {a : WriterAnswer} {r : WavReader} (hcall : d.reader.writerCall c = .ok (a, r)) :
    ∃ d', r = Draft.reader d' ∧ d'.Valid ∧ d'.mode = d.mode := by
  cases c with
  | stream c =>
      obtain ⟨⟨answer, r'⟩, hmade, hr⟩ := except_map_ok hcall
      obtain rfl := (Prod.mk.inj hr).2
      exact (Draft.call_reader h hmade).valid h
  | write buffer count =>
      obtain ⟨⟨n, r'⟩, hwrite, hr⟩ := except_map_ok hcall
      obtain rfl := (Prod.mk.inj hr).2
      cases Draft.wavWrite_reader h hwrite with
      | nothing hmoves => exact hmoves.valid h
      | written => exact ⟨_, rfl, ⟨h.mode, h.format, u32_lt _⟩, rfl⟩
  | set s =>
      obtain ⟨r', hmade, hr⟩ := except_map_ok hcall
      obtain rfl := (Prod.mk.inj hr).2
      obtain ⟨file, hset, rfl⟩ := Draft.withFile_reader hmade
      obtain ⟨d', rfl, hcase⟩ := Draft.set_draft h hplain hset
      exact ⟨d', rfl, hcase.valid h⟩

/-! ### Every run -/

/-- The default format of a new file. -/
theorem wavOpen_settable : wavOpen.format.Settable where
  fits := ⟨by decide, by decide, by decide, by decide, by decide, by decide, rfl⟩
  channels := by decide
  plain := by decide

theorem writer_draft {mode : ℕ} (hmode : WritingMode mode) {tr : List (WavReader × WriterCall)}
    {r : WavReader} (hrun : (wavWriter mode).Run tr r)
    (hplain : Machine.All (fun _ c => c.Plain) tr) :
    ∃ d : Draft, r = d.reader ∧ d.Valid ∧ d.mode = mode := by
  refine Machine.Run.invariant (I := fun r => ∃ d : Draft, r = d.reader ∧ d.Valid ∧ d.mode = mode)
    ?_ ?_ hrun hplain
  · intro r hinit
    obtain ⟨isANewFile, rfl⟩ := Draft.wavInitNew_draft hinit
    exact ⟨_, rfl, ⟨hmode, wavOpen_settable, Nat.two_pow_pos 32⟩, rfl⟩
  · rintro r c r' ⟨d, rfl, hvalid, rfl⟩ hc ⟨a, hcall⟩
    exact writerCall_draft hvalid hc hcall

/-- What is told to a reader that opens the file the writer `r` works on, flushed
and of these bytes. -/
structure ToldBy (r : WavReader) (bytes : Bytes) (reader : WavReader) : Prop where
  opened : WavReader.wavInit (some bytes) [] = .ok reader
  err : reader.file.err = if r.file.format.formatTag ∈ supportedFormats then .ok else .format
  format : reader.file.err = .ok → reader.file.format = r.file.format
  size : reader.file.err = .ok → reader.file.dataHeader = r.file.dataHeader

/-- **The header keeps up.**  Whatever setters, writes, reads, seeks, rewinds,
calls of `wav_tell` and of `wav_err_clear` are made on a new file, in whatever
order: behind each of them the file, once flushed, can be opened, unless its tag
is one the parser does not know, and has the format and the size that the writer
has. -/
theorem header_in_sync {mode : ℕ} (hmode : WritingMode mode)
    {tr : List (WavReader × WriterCall)} {r : WavReader} (hrun : (wavWriter mode).Run tr r)
    (hplain : Machine.All (fun _ c => c.Plain) tr) :
    ∃ bytes reader, r.file.contents = some bytes ∧ ToldBy r bytes reader := by
  obtain ⟨d, rfl, hvalid, -⟩ := writer_draft hmode hrun hplain
  have hfits := hvalid.format.fits
  by_cases htag : d.format.formatTag ∈ supportedFormats
  · obtain ⟨reader, hinit, hopen⟩ := WavReader.wellFormed_opened
      (wavImage_wellFormed hfits htag (u32_lt (36 + d.size)) hvalid.size d.body)
    exact ⟨_, reader, rfl, hinit, hopen.err.trans (if_pos htag).symm, fun _ => hopen.format,
      fun _ => hopen.data⟩
  · obtain ⟨reader, hinit, herr⟩ := wavImage_refused hfits htag (u32_lt (36 + d.size)) d.size d.body
    have hnot : reader.file.err ≠ .ok := by
      rw [herr]
      decide
    exact ⟨_, reader, rfl, hinit, herr.trans (if_neg htag).symm, fun hok => absurd hok hnot,
      fun hok => absurd hok hnot⟩

/-- An execution of calls on a new file is a run. -/
theorem writer_execute {mode : ℕ} {calls : List WriterCall} {r : WavReader}
    {Good : WavReader → WriterCall → Prop} [∀ r c, Decidable (Good r c)]
    (h : ((WavReader.wavInitNew mode []).toOption.bind fun r =>
      Machine.execute (fun r c => if Good r c then r.writerNext c else none) r calls) = some r) :
    ∃ tr, (wavWriter mode).Run tr r ∧ Machine.All Good tr ∧ tr.map Prod.snd = calls := by
  obtain ⟨r₀, hopen, hexec⟩ := Option.bind_eq_some_iff.mp h
  have hinit : WavReader.wavInitNew mode [] = .ok r₀ := by
    rcases hinit : WavReader.wavInitNew mode [] with e | r₁
    · rw [hinit] at hopen
      cases hopen
    · rw [hinit] at hopen
      obtain rfl := Option.some.inj hopen
      rfl
  refine Machine.Run.execute_good (M := wavWriter mode) (fun r c r' hnext => ?_) hinit hexec
  rw [WavReader.writerNext] at hnext
  split at hnext
  · rename_i answer hcall
    obtain rfl := Option.some.inj hnext
    exact ⟨answer.1, hcall⟩
  · cases hnext

/-- Calls with a setter between two writes: the second one begins over the
first, and the size counts both. -/
def resetCalls : List WriterCall :=
  [.set (.setNumChannels 1), .set (.setSampleSize 1), .write [1, 2] 2, .set (.setSampleRate 8000),
    .write [7] 1]

theorem header_in_sync_reset :
    ∃ tr r bytes reader, (wavWriter wavOpenWrite).Run tr r ∧ tr.map Prod.snd = resetCalls ∧
      ToldBy r bytes reader ∧ reader.file.format.sampleRate = 8000 ∧
      reader.file.dataHeader.size = 3 ∧ bytes.drop 44 = [7, 2] := by
  have hexec : ((WavReader.wavInitNew wavOpenWrite []).toOption.bind fun r =>
      Machine.execute (fun r c => if WriterCall.Plain c then r.writerNext c else none) r
        resetCalls).map (fun r => (r.file.format.formatTag, r.file.format.sampleRate,
          r.file.dataHeader.size, r.file.contents.map (List.drop 44)))
        = some (1, 8000, 3, some [7, 2]) := by
    decide +kernel
  obtain ⟨r, hr, hview⟩ := Option.map_eq_some_iff.mp hexec
  obtain ⟨tr, hrun, hplain, hcalls⟩ := writer_execute hr
  obtain ⟨bytes, reader, hbytes, htold⟩ := header_in_sync (by decide) hrun hplain
  simp only [Prod.mk.injEq] at hview
  obtain ⟨htag, hrate, hsize, hdata⟩ := hview
  have hok : reader.file.err = .ok := by
    rw [htold.err, htag]
    exact if_pos (by decide)
  rw [hbytes] at hdata
  refine ⟨tr, r, bytes, reader, hrun, hcalls, htold, ?_, ?_, Option.some.inj hdata⟩
  · rw [htold.format hok]
    exact hrate
  · rw [htold.size hok]
    exact hsize

end Tram
