/-
Tram/Recorder.lean

The WAV library on an open file (`wav.c`), as far as the recorder uses it.

A `WavRecorder` is the library's `WavFile` together with its global error
code.  Each function is written as in the source, a call of `<stdio.h>`
followed by the early return on its failure being one `stdio`.

The fact chunk is left out: only `wav_parse_header` ever sets its id, and the
recorder opens with `WAV_OPEN_WRITE`, which does not get there.
-/
import Tram.ByteFile
import Tram.Wav

namespace Tram

/-! ### The record -/

/-- `WavChunkHeader`. -/
structure WavChunkHeader where
  id : ℕ
  size : ℕ
deriving DecidableEq, Repr

/-- `WavFile`, with the code of `g_err`. -/
structure WavRecorder where
  fp : Option ByteFile
  mode : ℕ
  isANewFile : Bool
  riffChunk : WavChunkHeader
  waveId : ℕ
  formatHeader : WavChunkHeader
  formatOffset : ℕ
  format : WavFormat
  dataHeader : WavChunkHeader
  dataOffset : ℕ
  err : WavErrCode
deriving DecidableEq, Repr

/-- Ways the library does not come back. -/
inductive WavFault
  /-- `assert(g_err.code == WAV_OK)` on setting an error. -/
  | errPending
  /-- A call on a null `fp`. -/
  | nullFile
  /-- `assert(pos >= data_chunk.offset)` in `wav_tell`. -/
  | posBeforeData
  /-- Division by a block size of zero. -/
  | divisionByZero
  /-- `assert(p != NULL)` in `wav_default_malloc`. -/
  | noMemory
deriving DecidableEq, Repr

/-- `WAV_RIFF_CHUNK_ID`. -/
def wavRiffChunkId : ℕ := 0x46464952

/-- `WAV_FORMAT_CHUNK_ID`. -/
def wavFormatChunkId : ℕ := 0x20746d66

/-- `WAV_DATA_CHUNK_ID`. -/
def wavDataChunkId : ℕ := 0x61746164

/-- `WAV_WAVE_ID`. -/
def wavWaveId : ℕ := 0x45564157

example : leBytes 4 wavRiffChunkId = "RIFF".toList.map fun c => UInt8.ofNat c.toNat := by decide

/-- `WAV_FORMAT_EXTENSIBLE`. -/
def wavFormatExtensible : ℕ := 0xfffe

/-- `WAV_OPEN_WRITE`. -/
def wavOpenWrite : ℕ := 2

/-- `WAV_OPEN_APPEND`. -/
def wavOpenAppend : ℕ := 4

/-- `sizeof(WavChunkHeader)`. -/
def sizeofChunkHeader : ℕ := 8

/-- The bytes of a chunk header. -/
def WavChunkHeader.toBytes (header : WavChunkHeader) : Bytes :=
  leBytes 4 header.id ++ leBytes 4 header.size

/-- The bytes of the body of a format chunk, `ext_size` included. -/
def WavFormat.toBytes (format : WavFormat) : Bytes :=
  leBytes 2 format.formatTag ++ leBytes 2 format.numChannels ++ leBytes 4 format.sampleRate
    ++ leBytes 4 format.avgBytesPerSec ++ leBytes 2 format.blockAlign
    ++ leBytes 2 format.bitsPerSample ++ leBytes 2 format.extSize

namespace WavRecorder

/-! ### Errors and calls -/

/-- `wav_err_set` and `wav_err_set_literal`. -/
def wavErrSet (self : WavRecorder) (code : WavErrCode) : Except WavFault WavRecorder :=
  if self.err = .ok then .ok { self with err := code } else .error .errPending

/-- A call on the file; a failure sets the error and returns, otherwise `next`
follows. -/
def stdio (self : WavRecorder) (call : ByteFile → Bool × ByteFile)
    (next : WavRecorder → Except WavFault WavRecorder) : Except WavFault WavRecorder :=
  match self.fp with
  | none => .error .nullFile
  | some fp =>
      match call fp with
      | (true, fp) => next { self with fp := some fp }
      | (false, fp) => wavErrSet { self with fp := some fp } .os

/-- The check the setters begin with. -/
def ifWritable (self : WavRecorder) (next : Except WavFault WavRecorder) :
    Except WavFault WavRecorder :=
  if self.mode &&& wavOpenWrite = 0 ∧
      ¬ (self.mode &&& wavOpenAppend ≠ 0 ∧ self.isANewFile = true ∧ self.dataHeader.size = 0) then
    wavErrSet self .mode
  else next

theorem ifWritable_eq {self : WavRecorder} (h : self.mode = wavOpenWrite)
    (next : Except WavFault WavRecorder) : self.ifWritable next = next := by
  have hmode : self.mode &&& wavOpenWrite ≠ 0 := by
    rw [h]
    decide
  exact if_neg fun hnot => hmode hnot.1

/-! ### The header -/

/-- The part of `wav_write_header` for the format chunk. -/
def writeFormatChunk (self : WavRecorder) (next : WavRecorder → Except WavFault WavRecorder) :
    Except WavFault WavRecorder :=
  if self.formatHeader.id = wavFormatChunkId then
    self.stdio (ByteFile.fseek (self.formatOffset - sizeofChunkHeader)) fun self =>
      self.stdio (ByteFile.fwrite self.formatHeader.toBytes) fun self =>
        self.stdio (ByteFile.fwrite (self.format.toBytes.take self.formatHeader.size)) next
  else next self

/-- The part of `wav_write_header` for the data chunk. -/
def writeDataChunk (self : WavRecorder) : Except WavFault WavRecorder :=
  if self.dataHeader.id = wavDataChunkId then
    self.stdio (ByteFile.fseek (self.dataOffset - sizeofChunkHeader)) fun self =>
      self.stdio (ByteFile.fwrite self.dataHeader.toBytes) .ok
  else .ok self

/-- `wav_write_header`. -/
def wavWriteHeader (self : WavRecorder) : Except WavFault WavRecorder :=
  let size := 4
    + (if self.formatHeader.id = wavFormatChunkId then
        sizeofChunkHeader + self.formatHeader.size else 0)
    + (if self.dataHeader.id = wavDataChunkId then sizeofChunkHeader + self.dataHeader.size else 0)
  let self := { self with riffChunk := { self.riffChunk with size := u32 size } }
  self.stdio (ByteFile.fseek 0) fun self =>
    self.stdio (ByteFile.fwrite (self.riffChunk.toBytes ++ leBytes 4 self.waveId)) fun self =>
      self.writeFormatChunk writeDataChunk

/-! ### Opening -/

/-- The record after `memset`. -/
def zeroed : WavRecorder where
  fp := none
  mode := 0
  isANewFile := false
  riffChunk := ⟨0, 0⟩
  waveId := 0
  formatHeader := ⟨0, 0⟩
  formatOffset := 0
  format := ⟨0, 0, 0, 0, 0, 0, 0⟩
  dataHeader := ⟨0, 0⟩
  dataOffset := 0
  err := .ok

/-- The record of a new file, before its header is written. -/
def newFile (fp : ByteFile) : WavRecorder where
  fp := some fp
  mode := wavOpenWrite
  isANewFile := false
  riffChunk := ⟨wavRiffChunkId, 0⟩
  waveId := wavWaveId
  formatHeader := ⟨wavFormatChunkId, 16⟩
  formatOffset := 12 + sizeofChunkHeader
  format := wavOpen.format
  dataHeader := ⟨wavDataChunkId, 0⟩
  dataOffset := 12 + sizeofChunkHeader + 16 + sizeofChunkHeader
  err := .ok

/-- `wav_init` with `WAV_OPEN_WRITE`, on a library without an error.
`outcomes` are those of `fopen` and of all later calls on the file. -/
def wavInit (outcomes : List Bool) : Except WavFault WavRecorder :=
  match (ByteFile.mk [] 0 outcomes).outcome with
  | (false, _) => zeroed.wavErrSet .os
  | (true, fp) => (newFile fp).wavWriteHeader

/-! ### The setters -/

/-- `wav_set_sample_size`. -/
def wavSetSampleSize (self : WavRecorder) (sampleSize : ℕ) : Except WavFault WavRecorder :=
  self.ifWritable
    (if sampleSize < 1 then self.wavErrSet .param
    else
      let blockAlign := u16 (sampleSize * self.format.numChannels)
      wavWriteHeader { self with
        format := { self.format with
          blockAlign := blockAlign
          avgBytesPerSec := u32 (blockAlign * self.format.sampleRate)
          bitsPerSample := u16 (sampleSize * 8) } })

/-- `wav_set_format`, for the two formats of the recorder. -/
def wavSetFormat (self : WavRecorder) (format : ℕ) : Except WavFault WavRecorder :=
  self.ifWritable
    (if format = self.format.formatTag then .ok self
    else
      let self := { self with format := { self.format with formatTag := format } }
      if format = wavFormatIeeeFloat then
        let self := { self with
          format := { self.format with extSize := 0 }
          formatHeader := { self.formatHeader with size := 16 } }
        let sampleSize := u16 (self.format.blockAlign / self.format.numChannels)
        if sampleSize ≠ 4 ∧ sampleSize ≠ 8 then (self.wavSetSampleSize 4).bind wavWriteHeader
        else self.wavWriteHeader
      else self.wavWriteHeader)

/-- `wav_set_num_channels`; the argument is converted to `WavU16`.  The product
`block_align / old_num_channels * num_channels` is one of `int`s, which overflows
from `2 ^ 31` on (blocks of 65535 bytes, as many channels); it wraps here. -/
def wavSetNumChannels (self : WavRecorder) (numChannels : ℕ) : Except WavFault WavRecorder :=
  let numChannels := u16 numChannels
  self.ifWritable
    (if numChannels < 1 then self.wavErrSet .param
    else
      let oldNumChannels := self.format.numChannels
      if numChannels = oldNumChannels then .ok self
      else
        let blockAlign := u16 (self.format.blockAlign / oldNumChannels * numChannels)
        wavWriteHeader { self with
          format := { self.format with
            numChannels := numChannels
            blockAlign := blockAlign
            avgBytesPerSec := u32 (blockAlign * self.format.sampleRate) } })

/-- `wav_set_sample_rate`. -/
def wavSetSampleRate (self : WavRecorder) (sampleRate : ℕ) : Except WavFault WavRecorder :=
  self.ifWritable
    (if sampleRate = self.format.sampleRate then .ok self
    else
      wavWriteHeader { self with
        format := { self.format with
          sampleRate := sampleRate
          avgBytesPerSec := u32 (self.format.blockAlign * sampleRate) } })

/-- `setup_wav_recorder`. -/
def setupWavRecorder (outcomes : List Bool) (set : StreamSettings) :
    Except WavFault WavRecorder := do
  let fp ← wavInit outcomes
  let fp ← fp.wavSetFormat (if set.bitDepth = 32 then wavFormatIeeeFloat else wavFormatPcm)
  let fp ← fp.wavSetSampleSize (sampleBytes set.bitDepth)
  let fp ← fp.wavSetNumChannels set.channels
  fp.wavSetSampleRate set.sampleRate

/-- `setup_wav_recorder` with its result and the file it leaves in `*fp`;
`allocated` is the success of the `malloc` of `wav_open`.  `wav_default_malloc`
asserts that success, so `wav_open` never returns the null pointer that
`setup_wav_recorder` answers with `-1`. -/
def setupWavRecorderRc (allocated : Bool) (outcomes : List Bool) (set : StreamSettings) :
    Except WavFault (ℤ × Option WavRecorder) :=
  if allocated then (setupWavRecorder outcomes set).map fun fp => (0, some fp)
  else .error .noMemory

/-- The branch of `avb_aaf_listener` for a recording: whether it goes to `end`,
and the file.  The result of `setup_wav_recorder` is dropped; `res`, which has
not been assigned yet, is tested. -/
def openRecording (res : ℤ) (allocated : Bool) (outcomes : List Bool) (set : StreamSettings) :
    Except WavFault (Bool × Option WavRecorder) :=
  (setupWavRecorderRc allocated outcomes set).map fun r => (decide (res < 0), r.2)

/-! ### Writing -/

/-- `wav_tell`; `wav_write` does not use the position it returns. -/
def wavTell (self : WavRecorder) : Except WavFault WavRecorder :=
  match self.fp with
  | none => .error .nullFile
  | some fp =>
      match fp.ftell with
      | (none, fp) => wavErrSet { self with fp := some fp } .os
      | (some pos, fp) =>
          if pos < self.dataOffset then .error .posBeforeData
          else if self.format.blockAlign = 0 then .error .divisionByZero
          else .ok { self with fp := some fp }

/-- `fseek` back to a position `ftell` has returned; it fails on `-1`. -/
def seekBack (savePos : Option ℕ) (fp : ByteFile) : Bool × ByteFile :=
  match savePos with
  | some pos => fp.fseek pos
  | none => (false, fp)

/-- `wav_update_sizes`. -/
def wavUpdateSizes (self : WavRecorder) : Except WavFault WavRecorder :=
  match self.fp with
  | none => .error .nullFile
  | some fp =>
      let (savePos, fp) := fp.ftell
      let self := { self with fp := some fp }
      self.stdio (ByteFile.fseek (sizeofChunkHeader - 4)) fun self =>
        self.stdio (ByteFile.fwrite (leBytes 4 self.riffChunk.size)) fun self =>
          self.stdio (ByteFile.fseek (self.dataOffset - 4)) fun self =>
            self.stdio (ByteFile.fwrite (leBytes 4 self.dataHeader.size)) fun self =>
              self.stdio (seekBack savePos) .ok

/-- `wav_write`.  The seek of a file opened for appending only is left out. -/
def wavWrite (self : WavRecorder) (buffer : Bytes) (count : ℕ) : Except WavFault WavRecorder :=
  let nChannels := self.format.numChannels
  let sampleSize := self.format.blockAlign / self.format.numChannels
  if self.mode &&& wavOpenWrite = 0 ∧ self.mode &&& wavOpenAppend = 0 then self.wavErrSet .mode
  else if self.format.formatTag = wavFormatExtensible then self.wavErrSet .format
  else if count = 0 then .ok self
  else
    match self.wavTell with
    | .error e => .error e
    | .ok self =>
        if self.err ≠ .ok then .ok self
        else
          let size := sampleSize * (nChannels * count)
          self.stdio (ByteFile.fwrite (buffer.take size)) fun self =>
            wavUpdateSizes { self with
              riffChunk := { self.riffChunk with size := u32 (self.riffChunk.size + size) }
              dataHeader := { self.dataHeader with size := u32 (self.dataHeader.size + size) } }

end WavRecorder

end Tram
