/-
Tram/Wav.lean

The format of the recorded WAV file (`wav.c`, `setup_wav_recorder`).

The library keeps a format chunk in 16-bit and 32-bit words and an error code
that, once set, makes `wav_write` give up.  Only what the recorder reaches is
here: a file opened with `WAV_OPEN_WRITE`, the four setters, and the extent of
the `fwrite` in `wav_write`.  The file operations themselves are taken to
succeed.

`setupWavRecorder_bytes` is the extent in terms of the settings: the sample
size is derived back from the block size, a 16-bit word, so it is the one set
only while a frame of all channels fits 16 bits.
-/
import Tram.Settings

namespace Tram

/-! ### The format chunk and its setters -/

/-- `WavErrCode`. -/
inductive WavErrCode
  | ok
  | os
  | format
  | mode
  | param
deriving DecidableEq, Repr

/-- `WAV_FORMAT_PCM`. -/
def wavFormatPcm : ℕ := 0x0001

/-- `WAV_FORMAT_IEEE_FLOAT`. -/
def wavFormatIeeeFloat : ℕ := 0x0003

/-- The body of `WavFormatChunk`, up to the extensible part. -/
structure WavFormat where
  formatTag : ℕ
  numChannels : ℕ
  sampleRate : ℕ
  avgBytesPerSec : ℕ
  blockAlign : ℕ
  bitsPerSample : ℕ
  extSize : ℕ
deriving DecidableEq, Repr

/-- A `WavFile` opened for writing, with the error code of the library. -/
structure WavFile where
  format : WavFormat
  err : WavErrCode
deriving DecidableEq, Repr

/-- `wav_open`: the file `wav_init` sets up. -/
def wavOpen : WavFile where
  format := {
    formatTag := wavFormatPcm
    numChannels := 2
    sampleRate := 44100
    avgBytesPerSec := 44100 * 2 * 2
    blockAlign := 4
    bitsPerSample := 16
    extSize := 0 }
  err := .ok

/-- `wav_get_num_channels`. -/
def wavGetNumChannels (self : WavFile) : ℕ := self.format.numChannels

/-- `wav_get_sample_size`. -/
def wavGetSampleSize (self : WavFile) : ℕ := self.format.blockAlign / self.format.numChannels

/-- `wav_set_sample_size`. -/
def wavSetSampleSize (self : WavFile) (sampleSize : ℕ) : WavFile :=
  if sampleSize < 1 then { self with err := .param }
  else
    let blockAlign := u16 (sampleSize * self.format.numChannels)
    { self with
      format := { self.format with
        blockAlign := blockAlign
        avgBytesPerSec := u32 (blockAlign * self.format.sampleRate)
        bitsPerSample := u16 (sampleSize * 8) } }

/-- `wav_set_format`, for the two formats of the recorder. -/
def wavSetFormat (self : WavFile) (format : ℕ) : WavFile :=
  if format = self.format.formatTag then self
  else
    let self := { self with format := { self.format with formatTag := format, extSize := 0 } }
    if format = wavFormatIeeeFloat then
      let sampleSize := u16 (wavGetSampleSize self)
      if sampleSize ≠ 4 ∧ sampleSize ≠ 8 then wavSetSampleSize self 4 else self
    else self

/-- `wav_set_num_channels`; the argument is converted to `WavU16`.  The product
of the block size is one of `int`s in C, which can overflow, and wraps here. -/
def wavSetNumChannels (self : WavFile) (numChannels : ℕ) : WavFile :=
  let numChannels := u16 numChannels
  if numChannels < 1 then { self with err := .param }
  else
    let oldNumChannels := self.format.numChannels
    if numChannels = oldNumChannels then self
    else
      let blockAlign := u16 (self.format.blockAlign / oldNumChannels * numChannels)
      { self with
        format := { self.format with
          numChannels := numChannels
          blockAlign := blockAlign
          avgBytesPerSec := u32 (blockAlign * self.format.sampleRate) } }

/-- `wav_set_sample_rate`. -/
def wavSetSampleRate (self : WavFile) (sampleRate : ℕ) : WavFile :=
  if sampleRate = self.format.sampleRate then self
  else
    { self with
      format := { self.format with
        sampleRate := sampleRate
        avgBytesPerSec := u32 (self.format.blockAlign * sampleRate) } }

/-- `setup_wav_recorder`. -/
def setupWavRecorder (set : StreamSettings) : WavFile :=
  let fp := wavOpen
  let fp := wavSetFormat fp (if set.bitDepth = 32 then wavFormatIeeeFloat else wavFormatPcm)
  let fp := wavSetSampleSize fp (sampleBytes set.bitDepth)
  let fp := wavSetNumChannels fp set.channels
  wavSetSampleRate fp set.sampleRate

/-- The bytes `wav_write` takes from its buffer for `count` frames: none after
an error, otherwise those of the `fwrite`. -/
def wavWriteBytes (self : WavFile) (count : ℕ) : ℕ :=
  if count = 0 then 0
  else if self.err ≠ .ok then 0
  else wavGetSampleSize self * (wavGetNumChannels self * count)

/-! ### The recorder's frames -/

@[simp] theorem wavWriteBytes_setSampleRate (self : WavFile) (rate count : ℕ) :
    wavWriteBytes (wavSetSampleRate self rate) count = wavWriteBytes self count := by
  rw [wavSetSampleRate]
  split <;> rfl

/-- The file before the channels are set: stereo, with blocks of two samples. -/
theorem setSampleSize_setFormat {b : ℕ} (hb : b = 16 ∨ b = 24 ∨ b = 32) :
    let fp := wavSetSampleSize (wavSetFormat wavOpen
      (if b = 32 then wavFormatIeeeFloat else wavFormatPcm)) (sampleBytes b)
    fp.err = .ok ∧ fp.format.numChannels = 2 ∧ fp.format.blockAlign = sampleBytes b * 2 := by
  rcases hb with rfl | rfl | rfl <;> exact ⟨rfl, rfl, rfl⟩

/-- The extent of `wav_write` for a file set up with other channels: the
sample size is the rounded-down quotient of the 16-bit block size. -/
theorem setNumChannels_bytes {fp : WavFile} {bytes channels count : ℕ} (hok : fp.err = .ok)
    (hstereo : fp.format.numChannels = 2) (hblock : fp.format.blockAlign = bytes * 2)
    (hbytes : bytes * 2 < 2 ^ 16) :
    wavWriteBytes (wavSetNumChannels fp channels) count
      = u16 (bytes * u16 channels) / u16 channels * (u16 channels * count) := by
  have hhalf : bytes * 2 / 2 = bytes := Nat.mul_div_cancel bytes (by decide)
  have hword : u16 (bytes * 2) = bytes * 2 := Nat.mod_eq_of_lt hbytes
  by_cases hcount : count = 0
  · simp [wavWriteBytes, hcount]
  rw [wavSetNumChannels]
  dsimp only
  split
  · -- no channels: the error is set, and nothing is written
    rename_i hzero
    have hz : u16 channels = 0 := by omega
    simp [wavWriteBytes, hz]
  split
  · rename_i htwo
    rw [hstereo] at htwo
    rw [wavWriteBytes, wavGetSampleSize, wavGetNumChannels]
    rw [htwo, hok, hstereo, hblock, hword, hhalf]
    simp [hcount]
  · rw [wavWriteBytes, wavGetSampleSize, wavGetNumChannels]
    rw [hstereo, hblock, hhalf]
    simp [hcount, hok]

/-- **Extent of a recorded fragment.**  The bytes `wav_write` takes for
`count` frames of the stream. -/
theorem setupWavRecorder_bytes {set : StreamSettings}
    (hb : set.bitDepth = 16 ∨ set.bitDepth = 24 ∨ set.bitDepth = 32) (count : ℕ) :
    wavWriteBytes (setupWavRecorder set) count
      = u16 (sampleBytes set.bitDepth * u16 set.channels) / u16 set.channels
        * (u16 set.channels * count) := by
  obtain ⟨hok, hstereo, hblock⟩ := setSampleSize_setFormat hb
  have hsmall : sampleBytes set.bitDepth * 2 < 2 ^ 16 := by
    rcases hb with h | h | h <;> rw [h] <;> decide
  rw [setupWavRecorder, wavWriteBytes_setSampleRate, setNumChannels_bytes hok hstereo hblock hsmall]

/-- The extent is that of all channels exactly when a frame fits the 16-bit
block size, or nothing is written. -/
theorem block_bytes_eq_iff {bytes channels count : ℕ} (hbytes : 0 < bytes) :
    u16 (bytes * u16 channels) / u16 channels * (u16 channels * count) = bytes * channels * count ↔
      channels = 0 ∨ count = 0 ∨ bytes * channels < 2 ^ 16 := by
  rcases Nat.eq_zero_or_pos channels with rfl | hc
  · simp [u16]
  by_cases hcount : count = 0
  · simp [hcount]
  -- what is read of a frame never exceeds the 16-bit block size
  have hlow : u16 (bytes * u16 channels) / u16 channels * u16 channels ≤ u16 (bytes * u16 channels) :=
    Nat.div_mul_le_self _ _
  have hassoc : u16 (bytes * u16 channels) / u16 channels * (u16 channels * count)
      = u16 (bytes * u16 channels) / u16 channels * u16 channels * count := (Nat.mul_assoc _ _ _).symm
  rw [hassoc, Nat.mul_left_inj hcount]
  constructor
  · intro h
    refine Or.inr (Or.inr ?_)
    calc bytes * channels
        = u16 (bytes * u16 channels) / u16 channels * u16 channels := h.symm
      _ ≤ u16 (bytes * u16 channels) := hlow
      _ < 2 ^ 16 := Nat.mod_lt _ (by decide)
  · rintro (h | h | h)
    · omega
    · omega
    · have hlt : channels < 2 ^ 16 := Nat.lt_of_le_of_lt (Nat.le_mul_of_pos_left channels hbytes) h
      have hch : u16 channels = channels := Nat.mod_eq_of_lt hlt
      have hword : u16 (bytes * channels) = bytes * channels := Nat.mod_eq_of_lt h
      rw [hch, hword, Nat.mul_div_cancel _ hc]

end Tram
