/-
Tram/RecordedFile.lean

What the recorder leaves in the file, while its calls succeed.

`recorded format data` is the record whose file holds the header of `format`
and then `data`, and stands at its end.  Every function of the library is an
equation between such records: the setters change the format as `Tram.Wav`
says and write the header anew, `wav_write` appends to the data and patches
the two sizes.

`recorder_contents` puts them together for a whole recording.
-/
import Tram.LoopInvariant
import Tram.Recorder

namespace Tram

/-! ### The header -/

/-- The 44 bytes before the data: the RIFF header, the header and the body of
the format chunk, and the header of the data chunk. -/
def wavHeader (format : WavFormat) (size : ℕ) : Bytes :=
  (leBytes 4 wavRiffChunkId ++ leBytes 4 (36 + size) ++ leBytes 4 wavWaveId)
    ++ (leBytes 4 wavFormatChunkId ++ leBytes 4 16)
    ++ (leBytes 2 format.formatTag ++ leBytes 2 format.numChannels ++ leBytes 4 format.sampleRate
      ++ leBytes 4 format.avgBytesPerSec ++ leBytes 2 format.blockAlign
      ++ leBytes 2 format.bitsPerSample)
    ++ (leBytes 4 wavDataChunkId ++ leBytes 4 size)

/-- The header between its two sizes. -/
def headerMiddle (format : WavFormat) : Bytes :=
  leBytes 4 wavWaveId ++ (leBytes 4 wavFormatChunkId ++ leBytes 4 16)
    ++ (leBytes 2 format.formatTag ++ leBytes 2 format.numChannels ++ leBytes 4 format.sampleRate
      ++ leBytes 4 format.avgBytesPerSec ++ leBytes 2 format.blockAlign
      ++ leBytes 2 format.bitsPerSample)
    ++ leBytes 4 wavDataChunkId

@[simp] theorem length_wavHeader (format : WavFormat) (size : ℕ) :
    (wavHeader format size).length = 44 := by
  simp [wavHeader]

theorem wavHeader_split (format : WavFormat) (size : ℕ) :
    wavHeader format size
      = leBytes 4 wavRiffChunkId ++ leBytes 4 (36 + size) ++ headerMiddle format
        ++ leBytes 4 size := by
  simp only [wavHeader, headerMiddle, List.append_assoc]

/-- A format chunk without the extensible part. -/
theorem WavFormat.toBytes_take (format : WavFormat) :
    format.toBytes.take 16
      = leBytes 2 format.formatTag ++ leBytes 2 format.numChannels ++ leBytes 4 format.sampleRate
        ++ leBytes 4 format.avgBytesPerSec ++ leBytes 2 format.blockAlign
        ++ leBytes 2 format.bitsPerSample := by
  rw [WavFormat.toBytes, List.take_append_of_le_length (by simp)]
  exact List.take_of_length_le (by simp)

/-- The four writes of `wav_write_header`. -/
theorem overwrite_header {bytes a b c d : Bytes}
    (ha : a.length = 12) (hb : b.length = 8) (hc : c.length = 16) (hd : d.length = 8) :
    overwrite (overwrite (overwrite (overwrite bytes 0 a) 12 b) 20 c) 36 d
      = a ++ b ++ c ++ d ++ bytes.drop 44 := by
  have h₁ : overwrite bytes 0 a = a ++ bytes.drop 12 := by
    rw [← ha]
    exact overwrite_append [] bytes a
  have h₂ : overwrite (a ++ bytes.drop 12) 12 b = a ++ b ++ bytes.drop 20 := by
    have h := overwrite_append a (bytes.drop 12) b
    rwa [ha, hb, List.drop_drop] at h
  have h₃ : overwrite (a ++ b ++ bytes.drop 20) 20 c = a ++ b ++ c ++ bytes.drop 36 := by
    have h := overwrite_append (a ++ b) (bytes.drop 20) c
    rwa [List.length_append, ha, hb, hc, List.drop_drop] at h
  have h₄ : overwrite (a ++ b ++ c ++ bytes.drop 36) 36 d = a ++ b ++ c ++ d ++ bytes.drop 44 := by
    have h := overwrite_append (a ++ b ++ c) (bytes.drop 36) d
    rwa [List.length_append, List.length_append, ha, hb, hc, hd, List.drop_drop] at h
  rw [h₁, h₂, h₃, h₄]

/-- The two writes of `wav_update_sizes`. -/
theorem overwrite_sizes (format : WavFormat) (size size' : ℕ) (data : Bytes) :
    overwrite (overwrite (wavHeader format size ++ data) 4 (leBytes 4 (36 + size'))) 40
        (leBytes 4 size')
      = wavHeader format size' ++ data := by
  have hriff : overwrite (wavHeader format size ++ data) 4 (leBytes 4 (36 + size'))
      = leBytes 4 wavRiffChunkId ++ leBytes 4 (36 + size') ++ headerMiddle format
        ++ leBytes 4 size ++ data := by
    have h := @overwrite_middle (leBytes 4 wavRiffChunkId) (leBytes 4 (36 + size))
      (headerMiddle format ++ leBytes 4 size ++ data) (leBytes 4 (36 + size')) (by simp)
    rw [length_leBytes] at h
    simpa only [wavHeader_split, List.append_assoc] using h
  have hlen : (leBytes 4 wavRiffChunkId ++ leBytes 4 (36 + size') ++ headerMiddle format).length
      = 40 := by
    simp [headerMiddle]
  have h := @overwrite_middle
    (leBytes 4 wavRiffChunkId ++ leBytes 4 (36 + size') ++ headerMiddle format) (leBytes 4 size)
    data (leBytes 4 size') (by simp)
  rw [hlen] at h
  rw [hriff, h, wavHeader_split]

/-! ### Recorded data -/

namespace WavRecorder

/-- A recording of `data`: the file stands behind it, and nothing has failed
or will. -/
def recorded (format : WavFormat) (data : Bytes) : WavRecorder where
  fp := some ⟨wavHeader format data.length ++ data, 44 + data.length, []⟩
  mode := wavOpenWrite
  isANewFile := false
  riffChunk := ⟨wavRiffChunkId, 36 + data.length⟩
  waveId := wavWaveId
  formatHeader := ⟨wavFormatChunkId, 16⟩
  formatOffset := 20
  format := format
  dataHeader := ⟨wavDataChunkId, data.length⟩
  dataOffset := 44
  err := .ok

@[simp] theorem recorded_format (format : WavFormat) (data : Bytes) :
    (recorded format data).format = format := rfl

/-- The bytes in the file. -/
def contents (self : WavRecorder) : Option Bytes := self.fp.map ByteFile.bytes

@[simp] theorem contents_recorded (format : WavFormat) (data : Bytes) :
    (recorded format data).contents = some (wavHeader format data.length ++ data) := rfl

/-- The header is written over whatever the file begins with. -/
theorem wavWriteHeader_eq (format : WavFormat) {bytes : Bytes} (h : bytes.length ≤ 44)
    (pos size : ℕ) :
    wavWriteHeader { recorded format [] with
        fp := some ⟨bytes, pos, []⟩, riffChunk := ⟨wavRiffChunkId, size⟩ }
      = .ok (recorded format []) := by
  have hheader := @overwrite_header bytes
    (leBytes 4 wavRiffChunkId ++ leBytes 4 36 ++ leBytes 4 wavWaveId)
    (leBytes 4 wavFormatChunkId ++ leBytes 4 16) (format.toBytes.take 16)
    (leBytes 4 wavDataChunkId ++ leBytes 4 0) (by simp) (by simp)
    (by rw [WavFormat.toBytes_take]; simp) (by simp)
  rw [WavFormat.toBytes_take, List.drop_eq_nil_of_le h, List.append_nil] at hheader
  simp only [wavWriteHeader, writeFormatChunk, writeDataChunk, stdio, ByteFile.fseek,
    ByteFile.fwrite, ByteFile.outcome, recorded, sizeofChunkHeader, WavChunkHeader.toBytes,
    WavFormat.toBytes_take, if_true, List.length_nil, List.append_nil, u32, wavHeader]
  simpa using hheader

theorem wavWriteHeader_recorded (format format' : WavFormat) :
    wavWriteHeader { recorded format [] with format := format' } = .ok (recorded format' []) :=
  wavWriteHeader_eq format' (by simp) 44 36

theorem wavInit_eq : wavInit [] = .ok (recorded wavOpen.format []) :=
  wavWriteHeader_eq wavOpen.format (Nat.zero_le _) 0 0

/-! ### The setters -/

/-- The header in the file may still be that of another format. -/
theorem wavSetSampleSize_eq (format : WavFormat) (w : WavFile) {sampleSize : ℕ}
    (h : 1 ≤ sampleSize) :
    wavSetSampleSize { recorded format [] with format := w.format } sampleSize
      = .ok (recorded (Tram.wavSetSampleSize w sampleSize).format []) := by
  have hsize : ¬ sampleSize < 1 := by omega
  rw [wavSetSampleSize, ifWritable_eq rfl, if_neg hsize, Tram.wavSetSampleSize, if_neg hsize]
  exact wavWriteHeader_recorded format _

theorem wavSetSampleSize_recorded (w : WavFile) {sampleSize : ℕ} (h : 1 ≤ sampleSize) :
    (recorded w.format []).wavSetSampleSize sampleSize
      = .ok (recorded (Tram.wavSetSampleSize w sampleSize).format []) :=
  wavSetSampleSize_eq w.format w h

theorem wavSetNumChannels_recorded (w : WavFile) {numChannels : ℕ} (h : 1 ≤ u16 numChannels) :
    (recorded w.format []).wavSetNumChannels numChannels
      = .ok (recorded (Tram.wavSetNumChannels w numChannels).format []) := by
  have hchannels : ¬ u16 numChannels < 1 := by omega
  rw [wavSetNumChannels, Tram.wavSetNumChannels]
  dsimp only [recorded_format]
  rw [ifWritable_eq rfl, if_neg hchannels, if_neg hchannels]
  by_cases hsame : u16 numChannels = w.format.numChannels
  · rw [if_pos hsame, if_pos hsame]
  · rw [if_neg hsame, if_neg hsame]
    exact wavWriteHeader_recorded w.format _

theorem wavSetSampleRate_recorded (w : WavFile) (sampleRate : ℕ) :
    (recorded w.format []).wavSetSampleRate sampleRate
      = .ok (recorded (Tram.wavSetSampleRate w sampleRate).format []) := by
  rw [wavSetSampleRate, ifWritable_eq rfl, recorded_format, Tram.wavSetSampleRate]
  by_cases hsame : sampleRate = w.format.sampleRate
  · rw [if_pos hsame, if_pos hsame]
  · rw [if_neg hsame, if_neg hsame]
    exact wavWriteHeader_recorded w.format _

/-- The first setter, on the file as it is opened: PCM is the default, and the
samples of a float file are made four bytes wide. -/
theorem wavSetFormat_recorded {format : ℕ}
    (h : format = wavFormatPcm ∨ format = wavFormatIeeeFloat) :
    (recorded wavOpen.format []).wavSetFormat format
      = .ok (recorded (Tram.wavSetFormat wavOpen format).format []) := by
  rw [wavSetFormat, ifWritable_eq rfl, recorded_format]
  rcases h with rfl | rfl
  · rfl
  · have hnew : ¬ wavFormatIeeeFloat = wavOpen.format.formatTag := by decide
    have hwider := @wavSetSampleSize_eq wavOpen.format
      ⟨{ wavOpen.format with formatTag := wavFormatIeeeFloat }, .ok⟩ 4 (by decide)
    rw [if_neg hnew]
    dsimp only
    rw [if_pos rfl, if_pos (by decide)]
    exact (congrArg (Except.bind · wavWriteHeader) hwider).trans (wavWriteHeader_recorded _ _)

/-- The whole setup follows the format of `Tram.Wav`. -/
theorem setupWavRecorder_recorded {set : StreamSettings} (hb : 1 ≤ sampleBytes set.bitDepth)
    (hc : 1 ≤ u16 set.channels) :
    setupWavRecorder [] set = .ok (recorded (Tram.setupWavRecorder set).format []) := by
  have hformat := @wavSetFormat_recorded
    (if set.bitDepth = 32 then wavFormatIeeeFloat else wavFormatPcm) (by
      split
      · exact Or.inr rfl
      · exact Or.inl rfl)
  simp only [setupWavRecorder, wavInit_eq, bind, Except.bind, hformat,
    wavSetSampleSize_recorded _ hb, wavSetNumChannels_recorded _ hc, wavSetSampleRate_recorded]
  rfl

/-! ### Writing -/

theorem wavTell_recorded {format : WavFormat} (hblock : format.blockAlign ≠ 0) (data : Bytes) :
    (recorded format data).wavTell = .ok (recorded format data) := by
  have hpos : ¬ 44 + data.length < 44 := by omega
  exact (if_neg hpos).trans (if_neg hblock)

/-- The sizes of the record replace those in the file. -/
theorem wavUpdateSizes_eq (format : WavFormat) (size : ℕ) (data : Bytes) :
    wavUpdateSizes { recorded format data with
        fp := some ⟨wavHeader format size ++ data, 44 + data.length, []⟩ }
      = .ok (recorded format data) := by
  have hsizes := overwrite_sizes format size data.length data
  simp only [wavUpdateSizes, stdio, seekBack, ByteFile.ftell, ByteFile.fseek, ByteFile.fwrite,
    ByteFile.outcome, recorded, sizeofChunkHeader]
  simpa using hsizes

/-- A fragment is appended, and both sizes follow. -/
theorem wavWrite_recorded {format : WavFormat} {data buffer : Bytes} {count : ℕ}
    (hblock : format.blockAlign ≠ 0) (htag : format.formatTag ≠ wavFormatExtensible)
    (hlen : buffer.length
      = format.blockAlign / format.numChannels * (format.numChannels * count))
    (htotal : 36 + (data ++ buffer).length < 2 ^ 32) :
    (recorded format data).wavWrite buffer count = .ok (recorded format (data ++ buffer)) := by
  by_cases hcount : count = 0
  · obtain rfl : buffer = [] := by
      rw [hcount, Nat.mul_zero, Nat.mul_zero] at hlen
      exact List.length_eq_zero_iff.mp hlen
    rw [wavWrite, List.append_nil]
    simp [recorded, wavOpenWrite, htag, hcount]
  have hmode : ¬ ((recorded format data).mode &&& wavOpenWrite = 0 ∧
      (recorded format data).mode &&& wavOpenAppend = 0) :=
    fun h => absurd h.1 (by show wavOpenWrite &&& wavOpenWrite ≠ 0; decide)
  rw [wavWrite, if_neg hmode, recorded_format, if_neg htag, if_neg hcount,
    wavTell_recorded hblock]
  dsimp only
  rw [if_neg (by show ¬ WavErrCode.ok ≠ .ok; decide), ← hlen, List.take_length]
  rw [List.length_append] at htotal
  have hriff : u32 (36 + data.length + buffer.length) = 36 + (data ++ buffer).length := by
    rw [u32_of_lt (by omega), List.length_append, Nat.add_assoc]
  have hdata : u32 (data.length + buffer.length) = (data ++ buffer).length := by
    rw [u32_of_lt (by omega), List.length_append]
  have hfile : overwrite (wavHeader format data.length ++ data) (44 + data.length) buffer
      = wavHeader format data.length ++ (data ++ buffer) := by
    have h := overwrite_length (wavHeader format data.length ++ data) buffer
    rwa [List.length_append, length_wavHeader, List.append_assoc] at h
  have hpos : 44 + data.length + buffer.length = 44 + (data ++ buffer).length := by
    rw [List.length_append, Nat.add_assoc]
  rw [← wavUpdateSizes_eq format data.length (data ++ buffer), ← hfile, ← hpos]
  simp only [stdio, ByteFile.fwrite, ByteFile.outcome, recorded, hriff, hdata]

/-! ### The log of the listener -/

/-- The recorder on the writes of a log. -/
def recordLog : WavRecorder → List Event → Except WavFault WavRecorder
  | self, [] => .ok self
  | self, .wavWrite buffer frames :: rest =>
      match self.wavWrite buffer frames with
      | .error e => .error e
      | .ok self => recordLog self rest
  | self, .statsPush _ _ :: rest => recordLog self rest
  | self, .writei _ _ _ :: rest => recordLog self rest
  | self, .prepare :: rest => recordLog self rest

/-- `play_fragment` makes one write. -/
theorem recordLog_playEvents {self self' : WavRecorder} {buffer : Bytes} {frames : ℕ}
    (h : self.wavWrite buffer frames = .ok self') (rc : ℤ) (rest : List Event) :
    recordLog self (playEvents true rc buffer frames ++ rest) = recordLog self' rest := by
  have hwrite : recordLog self (Event.wavWrite buffer frames :: rest) = recordLog self' rest := by
    rw [recordLog, h]
  rw [playEvents, avbAlsaWrite]
  split <;> exact hwrite

/-- The events of some calls of `play_fragment`, each with its result of
`snd_pcm_writei` and its payload. -/
def playLog (set : StreamSettings) (plays : List (ℤ × Bytes)) : List Event :=
  plays.flatMap fun p => playEvents true p.1 p.2 (u32 set.framesPerPdu)

/-- Whole fragments are appended one by one. -/
theorem recordLog_recorded {set : StreamSettings} {format : WavFormat}
    (hblock : format.blockAlign ≠ 0) (htag : format.formatTag ≠ wavFormatExtensible)
    (plays : List (ℤ × Bytes)) :
    ∀ data : Bytes, (∀ p ∈ plays, p.2.length
        = format.blockAlign / format.numChannels * (format.numChannels * u32 set.framesPerPdu)) →
      36 + (data ++ (plays.map Prod.snd).flatten).length < 2 ^ 32 →
      recordLog (recorded format data) (playLog set plays)
        = .ok (recorded format (data ++ (plays.map Prod.snd).flatten)) := by
  induction plays with
  | nil =>
      intro data _ _
      rw [List.map_nil, List.flatten_nil, List.append_nil]
      rfl
  | cons p rest ih =>
      intro data hlen htotal
      rw [List.map_cons, List.flatten_cons, ← List.append_assoc] at htotal ⊢
      have hfits : 36 + (data ++ p.2).length < 2 ^ 32 := by
        rw [List.length_append] at htotal
        omega
      have hwrite := wavWrite_recorded hblock htag (hlen p List.mem_cons_self) hfits
      rw [playLog, List.flatMap_cons, recordLog_playEvents hwrite]
      exact ih (data ++ p.2) (fun q hq => hlen q (List.mem_cons_of_mem _ hq)) htotal

end WavRecorder

/-! ### The format of a stream -/

/-- The format of a recording. -/
def streamFormat (bitDepth channels sampleRate : ℕ) : WavFormat where
  formatTag := if bitDepth = 32 then 3 else 1
  numChannels := channels
  sampleRate := sampleRate
  avgBytesPerSec := sampleBytes bitDepth * channels * sampleRate % 2 ^ 32
  blockAlign := sampleBytes bitDepth * channels
  bitsPerSample := bitDepth
  extSize := 0

theorem setSampleSize_streamFormat {b : ℕ} (hb : b = 16 ∨ b = 24 ∨ b = 32) :
    (wavSetSampleSize (wavSetFormat wavOpen
      (if b = 32 then wavFormatIeeeFloat else wavFormatPcm)) (sampleBytes b)).format
        = streamFormat b 2 44100 := by
  rcases hb with rfl | rfl | rfl <;> rfl

theorem setNumChannels_streamFormat {w : WavFile} {b c r : ℕ} (hw : w.format = streamFormat b 2 r)
    (hc : 1 ≤ c) (hbytes : 1 ≤ sampleBytes b) (hfit : sampleBytes b * c < 2 ^ 16) :
    (wavSetNumChannels w c).format = streamFormat b c r := by
  have hlt : c < 2 ^ 16 := Nat.lt_of_le_of_lt (Nat.le_mul_of_pos_left c hbytes) hfit
  have hword : u16 c = c := Nat.mod_eq_of_lt hlt
  have hone : ¬ c < 1 := by omega
  rw [wavSetNumChannels]
  dsimp only
  rw [hword, if_neg hone, hw]
  by_cases htwo : c = 2
  · have heq : c = (streamFormat b 2 r).numChannels := htwo
    rw [if_pos heq, hw, htwo]
  · have hne : ¬ c = (streamFormat b 2 r).numChannels := htwo
    have hblock : u16 ((streamFormat b 2 r).blockAlign / (streamFormat b 2 r).numChannels * c)
        = sampleBytes b * c := by
      show u16 (sampleBytes b * 2 / 2 * c) = _
      rw [Nat.mul_div_cancel _ (by decide)]
      exact Nat.mod_eq_of_lt hfit
    rw [if_neg hne, hblock]
    rfl

theorem setSampleRate_streamFormat {w : WavFile} {b c r : ℕ} (hw : w.format = streamFormat b c r)
    (r' : ℕ) : (wavSetSampleRate w r').format = streamFormat b c r' := by
  rw [wavSetSampleRate]
  by_cases hsame : r' = w.format.sampleRate
  · rw [if_pos hsame, hw, hsame, hw]
    rfl
  · rw [if_neg hsame, hw]
    rfl

theorem setupWavRecorder_format {set : StreamSettings}
    (hb : set.bitDepth = 16 ∨ set.bitDepth = 24 ∨ set.bitDepth = 32) (hc : 1 ≤ set.channels)
    (hfit : sampleBytes set.bitDepth * set.channels < 2 ^ 16) :
    (setupWavRecorder set).format = streamFormat set.bitDepth set.channels set.sampleRate := by
  have hbytes : 1 ≤ sampleBytes set.bitDepth := by
    rcases hb with h | h | h <;> rw [h] <;> decide
  rw [setupWavRecorder]
  exact setSampleRate_streamFormat
    (setNumChannels_streamFormat (setSampleSize_streamFormat hb) hc hbytes hfit) _

/-! ### A whole recording -/

/-- **The recorded file.**  While all calls succeed, and the sizes fit their
words: after the setup and after every write the file is the header of the
stream's format and of the bytes written, followed by the payloads. -/
theorem recorder_contents {set : StreamSettings}
    (hb : set.bitDepth = 16 ∨ set.bitDepth = 24 ∨ set.bitDepth = 32) (hc : 1 ≤ set.channels)
    (hfit : sampleBytes set.bitDepth * set.channels < 2 ^ 16) (plays : List (ℤ × Bytes))
    (hlen : ∀ p ∈ plays,
      p.2.length = sampleBytes set.bitDepth * set.channels * set.framesPerPdu)
    (htotal : 36 + ((plays.map Prod.snd).flatten).length < 2 ^ 32) :
    ∃ fp, WavRecorder.setupWavRecorder [] set = .ok fp ∧
      ∀ k, ∃ fp', fp.recordLog (WavRecorder.playLog set (plays.take k)) = .ok fp' ∧
        fp'.contents = some
          (wavHeader (streamFormat set.bitDepth set.channels set.sampleRate)
              (((plays.take k).map Prod.snd).flatten).length
            ++ ((plays.take k).map Prod.snd).flatten) := by
  have hbytes : 1 ≤ sampleBytes set.bitDepth := by
    rcases hb with h | h | h <;> rw [h] <;> decide
  have hblock : sampleBytes set.bitDepth * set.channels ≠ 0 := Nat.mul_ne_zero (by omega) (by omega)
  have hlt : set.channels < 2 ^ 16 :=
    Nat.lt_of_le_of_lt (Nat.le_mul_of_pos_left set.channels hbytes) hfit
  have hsetup := WavRecorder.setupWavRecorder_recorded hbytes
    (hc.trans (Nat.mod_eq_of_lt hlt).ge)
  rw [setupWavRecorder_format hb hc hfit] at hsetup
  refine ⟨_, hsetup, fun k => ?_⟩
  have htake : (plays.map Prod.snd).flatten
      = ((plays.take k).map Prod.snd).flatten ++ ((plays.drop k).map Prod.snd).flatten := by
    rw [← List.flatten_append, ← List.map_append, List.take_append_drop]
  rw [htake, List.length_append] at htotal
  refine ⟨_, WavRecorder.recordLog_recorded hblock ?_ (plays.take k) [] (fun p hp => ?_) (by
    rw [List.nil_append]
    omega), rfl⟩
  · show (if set.bitDepth = 32 then 3 else 1) ≠ wavFormatExtensible
    split <;> decide
  · -- a payload below `2 ^ 32` bytes has fewer frames than that
    have hp' := List.mem_of_mem_take hp
    have hsum : p.2.length ≤ ((plays.take k).map Prod.snd).flatten.length :=
      (List.sublist_flatten_of_mem (List.mem_map_of_mem hp)).length_le
    have hframes : set.framesPerPdu ≤ p.2.length := by
      rw [hlen p hp']
      exact Nat.le_mul_of_pos_left _ (Nat.pos_of_ne_zero hblock)
    show p.2.length = sampleBytes set.bitDepth * set.channels / set.channels
      * (set.channels * u32 set.framesPerPdu)
    rw [hlen p hp', u32_of_lt (by omega), Nat.mul_div_cancel _ hc, Nat.mul_assoc]

/-- Two fragments of a mono stream. -/
theorem recorder_contents_mono :
    ∃ fp fp', WavRecorder.setupWavRecorder [] monoSettings = .ok fp ∧
      fp.recordLog (WavRecorder.playLog monoSettings [(1, [1, 2]), (-epipe, [3, 4])]) = .ok fp' ∧
      fp'.contents = some (wavHeader (streamFormat 16 1 48000) 4 ++ [1, 2, 3, 4]) := by
  obtain ⟨fp, hsetup, hplays⟩ := @recorder_contents monoSettings (Or.inl rfl) (by decide)
    (by decide) [(1, [1, 2]), (-epipe, [3, 4])] (by decide) (by decide)
  obtain ⟨fp', hlog, hcontents⟩ := hplays 2
  exact ⟨fp, fp', hsetup, hlog, hcontents⟩

end Tram
