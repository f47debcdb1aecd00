/-
Tram/WavReader.lean

Reading a WAV file with the library (`wav.c`): `wav_init` with `WAV_OPEN_READ`,
`wav_parse_header`, and the functions of an open file that read it or move in
it.

A `WavReader` is the library's `WavFile` with the error indicator of its stream.
The loop of the parser gets a number of rounds, and running out of them is a
fault of its own.  Reads that store behind the end of a chunk's body are faults
too.

Of the body of a format chunk the fields up to `ext_size` are kept.  Of a fact
chunk nothing is: only writing functions use it.

A `long` has 64 bits, and so has a `size_t`.
-/
import Tram.FrameStream
import Tram.Recorder
import Tram.Riff

namespace Tram

/-! ### The reader -/

/-- `WavFile` opened for reading, with the error indicator of `fp`. -/
structure WavReader where
  file : WavRecorder
  ferror : Bool
deriving DecidableEq, Repr

/-- Ways reading does not come back, or not in order. -/
inductive WavReadFault
  /-- A fault of the functions shared with the writer. -/
  | shared (f : WavFault)
  /-- `fread` stores behind the body of the format chunk. -/
  | formatOverflow
  /-- `fread` stores behind the body of the fact chunk. -/
  | factOverflow
  /-- Signed overflow in the offset of `wav_seek`. -/
  | signedOverflow
  /-- The parser has used up its rounds. -/
  | outOfRounds
deriving DecidableEq, Repr

/-- `WAV_FACT_CHUNK_ID`. -/
def wavFactChunkId : ℕ := 0x74636166

/-- `WAV_FORMAT_ALAW`. -/
def wavFormatAlaw : ℕ := 0x0006

/-- `WAV_FORMAT_MULAW`. -/
def wavFormatMulaw : ℕ := 0x0007

/-- `WAV_OPEN_READ`. -/
def wavOpenRead : ℕ := 1

/-- `sizeof(format_chunk.body)`. -/
def sizeofFormatBody : ℕ := 40

/-- `sizeof(fact_chunk.body)`. -/
def sizeofFactBody : ℕ := 4

/-- `(int)code`. -/
def WavErrCode.toInt : WavErrCode → ℤ
  | .ok => 0
  | .os => 1
  | .format => 2
  | .mode => 3
  | .param => 4

/-- What a call of the library answers. -/
inductive WavAnswer
  | position (pos : ℤ)
  | frames (buffer : Bytes) (count : ℕ)
  | sought (rc : ℤ)
  | done
deriving DecidableEq, Repr

/-! ### Words -/

/-- `x` is a value of the C type `long`. -/
def IsLong (x : ℤ) : Prop := -2 ^ 63 ≤ x ∧ x < 2 ^ 63

instance (x : ℤ) : Decidable (IsLong x) := inferInstanceAs (Decidable (_ ∧ _))

/-- Conversion of a 64-bit word to `long`. -/
def toLong (n : ℕ) : ℤ := if n < 2 ^ 63 then n else n - 2 ^ 64

/-- Conversion of a `long` to a 64-bit word. -/
def longToU64 (x : ℤ) : ℕ := (x % 2 ^ 64).toNat

/-- The result of an operation in `long`. -/
def inLong (x : ℤ) : Except WavReadFault ℤ := if IsLong x then .ok x else .error .signedOverflow

/-! ### The body of a format chunk -/

/-- The fields in the first bytes of a body. -/
def WavFormat.ofBytes (bytes : Bytes) : WavFormat where
  formatTag := leNat (bytes.take 2)
  numChannels := leNat ((bytes.drop 2).take 2)
  sampleRate := leNat ((bytes.drop 4).take 4)
  avgBytesPerSec := leNat ((bytes.drop 8).take 4)
  blockAlign := leNat ((bytes.drop 12).take 2)
  bitsPerSample := leNat ((bytes.drop 14).take 2)
  extSize := leNat ((bytes.drop 16).take 2)

/-- The body with `got` stored over its beginning. -/
def WavFormat.store (format : WavFormat) (got : Bytes) : WavFormat :=
  .ofBytes (got ++ format.toBytes.drop got.length)

/-- The format tags the parser lets pass. -/
def supportedFormats : List ℕ :=
  [wavFormatPcm, wavFormatIeeeFloat, wavFormatAlaw, wavFormatMulaw]

namespace WavReader

/-! ### Calls -/

/-- `wav_err_set` and `wav_err_set_literal`. -/
def errSet (self : WavReader) (code : WavErrCode) : Except WavReadFault WavReader :=
  match self.file.wavErrSet code with
  | .error f => .error (.shared f)
  | .ok file => .ok { self with file }

/-- The record with another position in its file. -/
def setFile (self : WavReader) (fp : ByteFile) : WavReader :=
  { self with file := { self.file with fp := some fp } }

/-- `fread` of `n` bytes; nothing is got in a read error. -/
def fread {T : Type} (self : WavReader) (n : ℕ)
    (next : Bytes → WavReader → Except WavReadFault T) : Except WavReadFault T :=
  match self.file.fp with
  | none => .error (.shared .nullFile)
  | some fp =>
      match fp.fread n with
      | (none, fp) => next [] { self.setFile fp with ferror := true }
      | (some got, fp) => next got (self.setFile fp)

/-- `read_count == 1` for an `fread` of one item of `n` bytes. -/
def complete (n : ℕ) (got : Bytes) : Bool := n ≠ 0 && got.length = n

/-- An `fread` with the check behind it. -/
def freadOr (self : WavReader) (n : ℕ)
    (next : Bytes → WavReader → Except WavReadFault WavReader) : Except WavReadFault WavReader :=
  self.fread n fun got self => if complete n got then next got self else self.errSet .format

/-- `(WavU64)ftell(fp)`. -/
def ftell (self : WavReader) (next : ℕ → WavReader → Except WavReadFault WavReader) :
    Except WavReadFault WavReader :=
  match self.file.fp with
  | none => .error (.shared .nullFile)
  | some fp =>
      match fp.ftell with
      | (none, fp) => next (2 ^ 64 - 1) (self.setFile fp)
      | (some pos, fp) => next pos (self.setFile fp)

/-- `fseek(fp, n, SEEK_CUR)` with the check behind it. -/
def fskipOr (self : WavReader) (n : ℕ) (next : WavReader → Except WavReadFault WavReader) :
    Except WavReadFault WavReader :=
  match self.file.fp with
  | none => .error (.shared .nullFile)
  | some fp =>
      match fp.fskip n with
      | (true, fp) => next (self.setFile fp)
      | (false, fp) => (self.setFile fp).errSet .os

/-! ### The header -/

/-- The case of a format chunk. -/
def parseFormat (self : WavReader) (size : ℕ)
    (next : WavReader → Except WavReadFault WavReader) : Except WavReadFault WavReader :=
  self.ftell fun offset self =>
    let self := { self with file := { self.file with
      formatHeader := ⟨wavFormatChunkId, size⟩
      formatOffset := offset } }
    self.fread size fun got self =>
      if sizeofFormatBody < got.length then .error .formatOverflow
      else
        let self := { self with file := { self.file with format := self.file.format.store got } }
        if !complete size got then self.errSet .format
        else if self.file.format.formatTag ∉ supportedFormats then self.errSet .format
        else next self

/-- The case of a fact chunk: the error does not end the function. -/
def parseFact (self : WavReader) (size : ℕ)
    (next : WavReader → Except WavReadFault WavReader) : Except WavReadFault WavReader :=
  self.ftell fun _ self =>
    self.fread size fun got self =>
      if sizeofFactBody < got.length then .error .factOverflow
      else if !complete size got then (self.errSet .format).bind next
      else next self

/-- The case of the data chunk. -/
def parseData (self : WavReader) (size : ℕ)
    (next : WavReader → Except WavReadFault WavReader) : Except WavReadFault WavReader :=
  self.ftell fun offset self =>
    next { self with file := { self.file with
      dataHeader := ⟨wavDataChunkId, size⟩
      dataOffset := offset } }

/-- The switch on the header of a chunk. -/
def parseChunk (self : WavReader) (id size : ℕ)
    (next : WavReader → Except WavReadFault WavReader) : Except WavReadFault WavReader :=
  if id = wavFormatChunkId then self.parseFormat size next
  else if id = wavFactChunkId then self.parseFact size next
  else if id = wavDataChunkId then self.parseData size next
  else self.fskipOr size next

/-- The loop of `wav_parse_header`. -/
def parseChunks : ℕ → WavReader → Except WavReadFault WavReader
  | 0, self => if self.file.dataHeader.id = wavDataChunkId then .ok self else .error .outOfRounds
  | rounds + 1, self =>
      if self.file.dataHeader.id = wavDataChunkId then .ok self
      else
        self.freadOr sizeofChunkHeader fun got self =>
          self.parseChunk (headerOf got).1 (headerOf got).2 (parseChunks rounds)

/-- The record with the words of its master chunk. -/
def setMaster (self : WavReader) (header : WavChunkHeader) (waveId : ℕ) : WavReader :=
  { self with file := { self.file with riffChunk := header, waveId } }

/-- `wav_parse_header`, with enough rounds for the file. -/
def wavParseHeader (self : WavReader) : Except WavReadFault WavReader :=
  let rounds := (self.file.fp.map fun fp => fp.bytes.length).getD 0 + 1
  self.freadOr sizeofChunkHeader fun got self =>
    let riff : WavChunkHeader := ⟨(headerOf got).1, (headerOf got).2⟩
    let self := self.setMaster riff self.file.waveId
    if riff.id ≠ wavRiffChunkId then self.errSet .format
    else
      self.freadOr 4 fun got self =>
        let self := self.setMaster riff (leNat got)
        if leNat got ≠ wavWaveId then self.errSet .format
        else self.ftell fun _ self => parseChunks rounds self

/-- `wav_init` with `WAV_OPEN_READ`, on a library without an error.  `file` is
what `fopen` finds under the name, if anything; `outcomes` are those of `fopen`
and of all later calls on the file. -/
def wavInit (file : Option Bytes) (outcomes : List Bool) : Except WavReadFault WavReader :=
  let self : WavReader := ⟨WavRecorder.zeroed, false⟩
  match file with
  | none => self.errSet .os
  | some bytes =>
      match (ByteFile.mk bytes 0 outcomes).outcome with
      | (false, _) => self.errSet .os
      | (true, fp) =>
          wavParseHeader { self with file := { self.file with fp := some fp, mode := wavOpenRead } }

/-! ### Reading -/

/-- `wav_get_sample_size`. -/
def wavGetSampleSize (self : WavReader) : Except WavReadFault ℕ :=
  if self.file.format.numChannels = 0 then .error (.shared .divisionByZero)
  else .ok (self.file.format.blockAlign / self.file.format.numChannels)

/-- `wav_get_length`. -/
def wavGetLength (self : WavReader) : Except WavReadFault ℕ :=
  if self.file.format.blockAlign = 0 then .error (.shared .divisionByZero)
  else .ok (self.file.dataHeader.size / self.file.format.blockAlign)

/-- `wav_tell`. -/
def wavTell (self : WavReader) : Except WavReadFault (ℤ × WavReader) :=
  match self.file.fp with
  | none => .error (.shared .nullFile)
  | some fp =>
      match fp.ftell with
      | (none, fp) => ((self.setFile fp).errSet .os).map fun self => (-1, self)
      | (some pos, fp) =>
          if (pos : ℤ) < toLong self.file.dataOffset then .error (.shared .posBeforeData)
          else if self.file.format.blockAlign = 0 then .error (.shared .divisionByZero)
          else
            .ok (toLong (subU64 pos self.file.dataOffset / self.file.format.blockAlign),
              self.setFile fp)

/-- An early return of `wav_read`. -/
def noFrames (self : Except WavReadFault WavReader) :
    Except WavReadFault ((Bytes × ℕ) × WavReader) :=
  self.map fun self => (([], 0), self)

/-- `wav_read`: what is stored in the buffer, and the result. -/
def wavRead (self : WavReader) (count : ℕ) : Except WavReadFault ((Bytes × ℕ) × WavReader) :=
  let nChannels := self.file.format.numChannels
  self.wavGetSampleSize.bind fun sampleSize =>
    if self.file.mode &&& wavOpenRead = 0 then noFrames (self.errSet .mode)
    else if self.file.format.formatTag = wavFormatExtensible then noFrames (self.errSet .format)
    else
      self.wavGetLength.bind fun length => self.wavTell.bind fun (pos, self) =>
        let lenRemain := subU64 length (longToU64 pos)
        if self.file.err ≠ .ok then noFrames (.ok self)
        else
          let count := if count ≤ lenRemain then count else lenRemain
          if count = 0 then noFrames (.ok self)
          else
            self.fread (sampleSize * u64 (nChannels * count)) fun got self =>
              if self.ferror then (self.errSet .os).map fun self => ((got, 0), self)
              else .ok ((got, got.length / sampleSize / nChannels), self)

/-- The beginning of `wav_seek`: the offset from the start. -/
def seekOffset (self : WavReader) (length : ℕ) (offset : ℤ) :
    Origin → Except WavReadFault (ℤ × WavReader)
  | .set => .ok (offset, self)
  | .cur => self.wavTell.bind fun (pos, self) => (inLong (offset + pos)).map fun x => (x, self)
  | .fromEnd => (inLong (offset + toLong length)).map fun x => (x, self)

/-- `fseek` to a position in a `long`; a negative one is refused. -/
def fseekLong (pos : ℤ) (fp : ByteFile) : Bool × ByteFile :=
  if pos < 0 then (false, fp) else fp.fseek pos.toNat

/-- The end of `wav_seek`: `offset` is a number of frames from the start. -/
def seekTo (self : WavReader) (offset : ℤ) : Except WavReadFault (ℤ × WavReader) :=
  if offset < 0 then
    (self.errSet .param).map fun self => (self.file.err.toInt, self)
  else
    (inLong (offset * self.file.format.blockAlign)).bind fun offset =>
      (inLong (toLong self.file.dataOffset + offset)).bind fun pos =>
        match self.file.fp with
        | none => .error (.shared .nullFile)
        | some fp =>
            match fseekLong pos fp with
            | (true, fp) => .ok (0, self.setFile fp)
            | (false, fp) => ((self.setFile fp).errSet .os).map fun self => (-1, self)

/-- `wav_seek`. -/
def wavSeek (self : WavReader) (offset : ℤ) (origin : Origin) :
    Except WavReadFault (ℤ × WavReader) :=
  self.wavGetLength.bind fun length =>
    (self.seekOffset length offset origin).bind fun (offset, self) => self.seekTo offset

/-- `wav_rewind`. -/
def wavRewind (self : WavReader) : Except WavReadFault WavReader :=
  (self.wavSeek 0 .set).map Prod.snd

/-- `wav_err_clear`. -/
def wavErrClear (self : WavReader) : WavReader :=
  { self with file := { self.file with err := .ok } }

/-- Make a call. -/
def call (self : WavReader) : StreamCall → Except WavReadFault (WavAnswer × WavReader)
  | .tell => self.wavTell.map fun r => (.position r.1, r.2)
  | .read count => (self.wavRead count).map fun r => (.frames r.1.1 r.1.2, r.2)
  | .seek offset origin => (self.wavSeek offset origin).map fun r => (.sought r.1, r.2)
  | .rewind => self.wavRewind.map fun self => (.done, self)
  | .errClear => .ok (.done, self.wavErrClear)

end WavReader

end Tram
