/-
Tram/WavWriter.lean

A new WAV file under the whole interface of the library (`wav.c`): `wav_init`
with `WAV_OPEN_WRITE` or `WAV_OPEN_APPEND`, the setters, `wav_write`, and the
functions that move in the file.

Every mode but `WAV_OPEN_READ` alone opens with `"wb+"`, which empties the file,
so `wav_parse_header` finds nothing to append to and the file is always a new
one.

The library's `WavFile` is the `WavReader` of `Tram.WavReader`: the error
indicator of the stream is what `wav_write` tests.  `WAV_FORMAT_EXTENSIBLE` is
left out of the setters.  On the calls of the recorder the functions here are
those of `Tram.Recorder` (`wavInitNew_recorder`, `wavWrite_recorder`).
-/
import Tram.Runs
import Tram.WavReader

namespace Tram

/-! ### The setters -/

namespace WavRecorder

/-- `wav_set_format`, for every format but `WAV_FORMAT_EXTENSIBLE`. -/
def wavSetPlainFormat (self : WavRecorder) (format : ℕ) : Except WavFault WavRecorder :=
  let format := u16 format
  self.ifWritable
    (if format = self.format.formatTag then .ok self
    else
      let self := { self with format := { self.format with formatTag := format } }
      let self := if format = wavFormatPcm then self else
        { self with
          format := { self.format with extSize := 0 }
          formatHeader := { self.formatHeader with size := 16 } }
      let sampleSize := u16 (self.format.blockAlign / self.format.numChannels)
      if format = wavFormatAlaw ∨ format = wavFormatMulaw then
        if sampleSize ≠ 1 then (self.wavSetSampleSize 1).bind wavWriteHeader
        else self.wavWriteHeader
      else if format = wavFormatIeeeFloat then
        if sampleSize ≠ 4 ∧ sampleSize ≠ 8 then (self.wavSetSampleSize 4).bind wavWriteHeader
        else self.wavWriteHeader
      else self.wavWriteHeader)

/-- `wav_set_valid_bits_per_sample`. -/
def wavSetValidBitsPerSample (self : WavRecorder) (bits : ℕ) : Except WavFault WavRecorder :=
  let bits := u16 bits
  self.ifWritable
    (if bits < 1 ∨ 8 * self.format.blockAlign / self.format.numChannels < bits then
      self.wavErrSet .param
    else if (self.format.formatTag = wavFormatAlaw ∨ self.format.formatTag = wavFormatMulaw) ∧
        bits ≠ 8 then self.wavErrSet .param
    else wavWriteHeader { self with format := { self.format with bitsPerSample := bits } })

/-- `wav_set_channel_mask` and `wav_set_sub_format`: there is no extension to
set. -/
def wavSetExtension (self : WavRecorder) : Except WavFault WavRecorder :=
  self.ifWritable (self.wavErrSet .format)

/-- On the two formats of the recorder this is its `wav_set_format`. -/
theorem wavSetPlainFormat_recorder (self : WavRecorder) {format : ℕ}
    (h : format = wavFormatPcm ∨ format = wavFormatIeeeFloat) :
    self.wavSetPlainFormat format = self.wavSetFormat format := by
  rcases h with rfl | rfl
  · rfl
  · have hnotPcm : ¬ wavFormatIeeeFloat = wavFormatPcm := by decide
    have hnotLaw : ¬ (wavFormatIeeeFloat = wavFormatAlaw ∨ wavFormatIeeeFloat = wavFormatMulaw) := by
      decide
    have hword : u16 wavFormatIeeeFloat = wavFormatIeeeFloat := rfl
    rw [wavSetPlainFormat, wavSetFormat]
    simp only [hword, if_neg hnotPcm, if_neg hnotLaw, if_true]

end WavRecorder

namespace WavReader

/-! ### Opening -/

/-- A function of the writer, with the error indicator kept. -/
def withFile (self : WavReader) (f : WavRecorder → Except WavFault WavRecorder) :
    Except WavReadFault WavReader :=
  match f self.file with
  | .error e => .error (.shared e)
  | .ok file => .ok { self with file }

/-- The end of `wav_init`: a new file. -/
def startFile (self : WavReader) : Except WavReadFault WavReader :=
  self.withFile fun file => WavRecorder.wavWriteHeader { file with
    riffChunk := { file.riffChunk with id := wavRiffChunkId }
    waveId := wavWaveId
    formatHeader := ⟨wavFormatChunkId, 16⟩
    formatOffset := 12 + sizeofChunkHeader
    format := { wavOpen.format with extSize := file.format.extSize }
    dataHeader := { file.dataHeader with id := wavDataChunkId }
    dataOffset := 12 + sizeofChunkHeader + 16 + sizeofChunkHeader }

/-- `rewind`, whose failure is not seen; it clears the error indicator. -/
def rewindFile (self : WavReader) : WavReader :=
  match self.file.fp with
  | none => self
  | some fp => { self.setFile (fp.fseek 0).2 with ferror := false }

/-- `wav_init` with `WAV_OPEN_WRITE` or `WAV_OPEN_APPEND`, on a library without
an error.  `outcomes` are those of `fopen` and of all later calls on the file. -/
def wavInitNew (mode : ℕ) (outcomes : List Bool) : Except WavReadFault WavReader :=
  let self : WavReader := ⟨WavRecorder.zeroed, false⟩
  match (ByteFile.mk [] 0 outcomes).outcome with
  | (false, _) => self.errSet .os
  | (true, fp) =>
      let self := { self with file := { self.file with fp := some fp, mode } }
      if mode &&& wavOpenAppend = 0 then self.startFile
      else
        self.wavParseHeader.bind fun self =>
          if self.file.err = .ok then .ok self
          else
            let self := self.wavErrClear.rewindFile
            startFile { self with file := { self.file with isANewFile := true } }

/-! ### Writing -/

/-- An early return of `wav_write`. -/
def noneWritten (self : Except WavReadFault WavReader) : Except WavReadFault (ℕ × WavReader) :=
  self.map fun self => (0, self)

/-- The seek of a file opened for appending only. -/
def seekEnd (self : WavReader) : Except WavReadFault WavReader :=
  if self.file.mode &&& wavOpenRead = 0 ∧ self.file.mode &&& wavOpenWrite = 0 then
    (self.wavSeek 0 .fromEnd).map Prod.snd
  else .ok self

/-- The record with `n` more bytes in its sizes. -/
def addSize (file : WavRecorder) (n : ℕ) : WavRecorder :=
  { file with
    riffChunk := { file.riffChunk with size := u32 (file.riffChunk.size + n) }
    dataHeader := { file.dataHeader with size := u32 (file.dataHeader.size + n) } }

/-- The `fwrite` of `wav_write` and what follows it. -/
def writeItems (self : WavReader) (sampleSize items : ℕ) (buffer : Bytes) :
    Except WavReadFault (ℕ × WavReader) :=
  match self.file.fp with
  | none => .error (.shared .nullFile)
  | some fp =>
      match fp.fwrite (buffer.take (sampleSize * items)) with
      | (false, fp) => noneWritten ({ self.setFile fp with ferror := true }.errSet .os)
      | (true, fp) =>
          let self := self.setFile fp
          if self.ferror then noneWritten (self.errSet .os)
          else
            let writeCount := if sampleSize = 0 then 0 else items
            (self.withFile fun file =>
                (addSize file (writeCount * sampleSize)).wavUpdateSizes).map fun self =>
              (if self.file.err ≠ .ok then 0 else writeCount / self.file.format.numChannels, self)

/-- `wav_write`: the number of frames written. -/
def wavWrite (self : WavReader) (buffer : Bytes) (count : ℕ) :
    Except WavReadFault (ℕ × WavReader) :=
  self.wavGetSampleSize.bind fun sampleSize =>
    if self.file.mode &&& wavOpenWrite = 0 ∧ self.file.mode &&& wavOpenAppend = 0 then
      noneWritten (self.errSet .mode)
    else if self.file.format.formatTag = wavFormatExtensible then noneWritten (self.errSet .format)
    else if count = 0 then noneWritten (.ok self)
    else
      self.wavTell.bind fun (_, self) =>
        if self.file.err ≠ .ok then noneWritten (.ok self)
        else
          self.seekEnd.bind fun self =>
            if self.file.err ≠ .ok then noneWritten (.ok self)
            else self.writeItems sampleSize (u64 (self.file.format.numChannels * count)) buffer

/-! ### The calls of the recorder -/

/-- Opened with `WAV_OPEN_WRITE`, the file is the one of the recorder. -/
theorem wavInitNew_recorder (outcomes : List Bool) :
    wavInitNew wavOpenWrite outcomes
      = withFile ⟨WavRecorder.zeroed, false⟩ fun _ => WavRecorder.wavInit outcomes := by
  rcases outcomes with - | ⟨_ | _, outcomes⟩ <;> rfl

variable {file : WavRecorder}

theorem wavTell_recorder (hoffset : file.dataOffset < 2 ^ 63) :
    (WavReader.mk file false).wavTell.map Prod.snd
      = (WavReader.mk file false).withFile fun file => file.wavTell := by
  have hstart : toLong file.dataOffset = file.dataOffset := if_pos hoffset
  rw [wavTell, withFile]
  dsimp only
  rw [WavRecorder.wavTell, hstart]
  rcases file.fp with - | fp
  · rfl
  rcases htell : fp.ftell with ⟨- | pos, fp'⟩
  · simp only [htell, errSet, setFile]
    rcases WavRecorder.wavErrSet { file with fp := some fp' } .os with e | file' <;> rfl
  · simp only [htell]
    by_cases hpos : pos < file.dataOffset
    · rw [if_pos hpos, if_pos (by exact_mod_cast hpos)]
      rfl
    · rw [if_neg hpos, if_neg (by exact_mod_cast hpos)]
      by_cases hblock : file.format.blockAlign = 0
      · rw [if_pos hblock, if_pos hblock]
        rfl
      · rw [if_neg hblock, if_neg hblock]
        rfl

theorem writeItems_recorder (sampleSize items : ℕ) (buffer : Bytes) :
    ((WavReader.mk file false).writeItems sampleSize items buffer).map (fun r => r.2.file)
      = ((WavReader.mk file false).withFile fun file =>
          file.stdio (ByteFile.fwrite (buffer.take (sampleSize * items))) fun self =>
            (addSize self (sampleSize * items)).wavUpdateSizes).map WavReader.file := by
  have hcount : (if sampleSize = 0 then 0 else items) * sampleSize = sampleSize * items := by
    split
    · rename_i hzero
      rw [hzero, Nat.zero_mul, Nat.zero_mul]
    · exact Nat.mul_comm _ _
  rw [writeItems, withFile]
  dsimp only
  rw [WavRecorder.stdio]
  rcases file.fp with - | fp
  · rfl
  dsimp only
  rcases hwrite : fp.fwrite (buffer.take (sampleSize * items)) with ⟨_ | _, fp'⟩
  · simp only [errSet, setFile]
    rcases WavRecorder.wavErrSet { file with fp := some fp' } .os with e | file' <;> rfl
  · simp only [setFile, Bool.false_eq_true, if_false, withFile, hcount]
    rcases (addSize { file with fp := some fp' } (sampleSize * items)).wavUpdateSizes with e | file'
      <;> rfl

theorem wavTell_keeps {file file₁ : WavRecorder} (h : file.wavTell = .ok file₁) :
    file₁.mode = file.mode ∧ file₁.format = file.format := by
  rw [WavRecorder.wavTell] at h
  split at h
  · cases h
  split at h
  · rw [WavRecorder.wavErrSet] at h
    split at h <;> cases h
    exact ⟨rfl, rfl⟩
  split at h
  · cases h
  split at h
  · cases h
  · cases h
    exact ⟨rfl, rfl⟩

/-- A write of the recorder is one without the seek, whatever calls fail. -/
theorem wavWrite_recorder (hmode : file.mode = wavOpenWrite)
    (hchannels : file.format.numChannels ≠ 0) (hoffset : file.dataOffset < 2 ^ 63)
    (buffer : Bytes) {count : ℕ} (hword : file.format.numChannels * count < 2 ^ 64) :
    ((WavReader.mk file false).wavWrite buffer count).map (fun r => r.2.file)
      = ((WavReader.mk file false).withFile fun file => file.wavWrite buffer count).map
        WavReader.file := by
  have hwrite : ¬ (file.mode &&& wavOpenWrite = 0 ∧ file.mode &&& wavOpenAppend = 0) := by
    rw [hmode]
    decide
  have hnotAppend : ∀ r : WavReader, r.file.mode = file.mode → r.seekEnd = .ok r := by
    intro r hr
    rw [seekEnd, hr, hmode]
    rfl
  rw [wavWrite, wavGetSampleSize, if_neg hchannels, ok_bind]
  dsimp only
  rw [if_neg hwrite]
  by_cases htag : file.format.formatTag = wavFormatExtensible
  · rw [if_pos htag]
    simp only [withFile, WavRecorder.wavWrite, if_neg hwrite, if_pos htag, errSet]
    rcases file.wavErrSet .format with e | file' <;> rfl
  rw [if_neg htag]
  by_cases hcount : count = 0
  · rw [if_pos hcount]
    simp only [withFile, WavRecorder.wavWrite, if_neg hwrite, if_neg htag, if_pos hcount]
    rfl
  rw [if_neg hcount]
  simp only [withFile, WavRecorder.wavWrite, if_neg hwrite, if_neg htag, if_neg hcount]
  have htell := wavTell_recorder hoffset
  rw [withFile] at htell
  -- both go on from where `wav_tell` has left the file
  rcases hrec : file.wavTell with e | file₁
  · rw [hrec] at htell
    rcases hread : (WavReader.mk file false).wavTell with e' | r
    · rw [hread] at htell
      obtain rfl := Except.error.inj htell
      rfl
    · rw [hread] at htell
      cases htell
  · rw [hrec] at htell
    obtain ⟨⟨pos, r⟩, hread, rfl⟩ := except_map_ok htell
    obtain ⟨hmode₁, hformat₁⟩ := wavTell_keeps hrec
    rw [hread, ok_bind]
    dsimp only
    by_cases herr : file₁.err = .ok
    · rw [if_neg (not_not.mpr herr), if_neg (not_not.mpr herr), hnotAppend _ hmode₁, ok_bind,
        if_neg (not_not.mpr herr), hformat₁, u64_of_lt hword]
      exact writeItems_recorder _ _ buffer
    · rw [if_pos herr, if_pos herr]
      rfl

end WavReader

/-! ### Calls -/

/-- A setter with its argument. -/
inductive WavSetter
  | setFormat (format : ℕ)
  | setNumChannels (numChannels : ℕ)
  | setSampleRate (sampleRate : ℕ)
  | setValidBitsPerSample (bits : ℕ)
  | setSampleSize (sampleSize : ℕ)
  | setChannelMask (channelMask : ℕ)
  | setSubFormat (subFormat : ℕ)
deriving DecidableEq, Repr

/-- The function of a setter. -/
def WavSetter.set (self : WavRecorder) : WavSetter → Except WavFault WavRecorder
  | .setFormat format => self.wavSetPlainFormat format
  | .setNumChannels numChannels => self.wavSetNumChannels numChannels
  | .setSampleRate sampleRate => self.wavSetSampleRate (u32 sampleRate)
  | .setValidBitsPerSample bits => self.wavSetValidBitsPerSample bits
  | .setSampleSize sampleSize => self.wavSetSampleSize sampleSize
  | .setChannelMask _ | .setSubFormat _ => self.wavSetExtension

/-- A call on a file opened for writing. -/
inductive WriterCall
  | stream (c : StreamCall)
  | write (buffer : Bytes) (count : ℕ)
  | set (s : WavSetter)
deriving DecidableEq, Repr

/-- What such a call answers. -/
inductive WriterAnswer
  | stream (a : WavAnswer)
  | written (count : ℕ)
  | done
deriving DecidableEq, Repr

namespace WavReader

/-- Make a call on a file opened for writing. -/
def writerCall (self : WavReader) : WriterCall → Except WavReadFault (WriterAnswer × WavReader)
  | .stream c => (self.call c).map fun r => (.stream r.1, r.2)
  | .write buffer count => (self.wavWrite buffer count).map fun r => (.written r.1, r.2)
  | .set s => (self.withFile fun file => s.set file).map fun self => (.done, self)

/-- The state behind a call that comes back. -/
def writerNext (self : WavReader) (c : WriterCall) : Option WavReader :=
  match self.writerCall c with
  | .ok r => some r.2
  | .error _ => none

end WavReader

/-- A new file and the calls on it, while no call of the system fails. -/
def wavWriter (mode : ℕ) : Machine WavReader WriterCall where
  init := fun r => WavReader.wavInitNew mode [] = .ok r
  step := fun r c r' => ∃ a, r.writerCall c = .ok (a, r')

end Tram
