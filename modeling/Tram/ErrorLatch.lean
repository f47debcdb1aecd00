/-
Tram/ErrorLatch.lean

The recorder without its bytes.

The library sets one error and asserts that none is pending when it sets the
next.  Whether it comes to that depends on little: whether an error is pending,
the position as far as the header reaches, and the outcomes of the calls to
come (`Latch`).  A header is seven calls, a write at most eight, and a refused
argument none.

The recorder follows the latch step by step: `latched_setup` for the setters of
`setup_wav_recorder`, `latched_writes` for the writes behind them.
-/
import Tram.Calls
import Tram.Recorder

namespace Tram

/-! ### Calls of the library -/

/-- The calls of the library on an open file. -/
inductive RecorderCall
  | setFormat (format : ℕ)
  | setSampleSize (sampleSize : ℕ)
  | setNumChannels (numChannels : ℕ)
  | setSampleRate (sampleRate : ℕ)
  | write (buffer : Bytes) (count : ℕ)
deriving DecidableEq, Repr

/-- The two faults of the error handling. -/
def WavFault.Fatal (f : WavFault) : Prop := f = .errPending ∨ f = .nullFile

/-- The setters of `setup_wav_recorder`. -/
def setupCalls (set : StreamSettings) : List RecorderCall :=
  [.setFormat (if set.bitDepth = 32 then wavFormatIeeeFloat else wavFormatPcm),
    .setSampleSize (sampleBytes set.bitDepth), .setNumChannels set.channels,
    .setSampleRate set.sampleRate]

namespace WavRecorder

/-- Make a call. -/
def call (self : WavRecorder) : RecorderCall → Except WavFault WavRecorder
  | .setFormat format => self.wavSetFormat format
  | .setSampleSize sampleSize => self.wavSetSampleSize sampleSize
  | .setNumChannels numChannels => self.wavSetNumChannels numChannels
  | .setSampleRate sampleRate => self.wavSetSampleRate sampleRate
  | .write buffer count => self.wavWrite buffer count

theorem setupWavRecorder_calls (outcomes : List Bool) (set : StreamSettings) :
    setupWavRecorder outcomes set
      = (wavInit outcomes).bind fun fp => runCalls call fp (setupCalls set) := by
  simp only [setupCalls, runCalls_cons, bind_runCalls_nil]
  rfl

end WavRecorder

/-! ### The latch -/

/-- A recording as far as its errors go. -/
structure Latch where
  /-- An error is pending. -/
  failed : Bool
  /-- The position, up to the 44 bytes of the header. -/
  pos : ℕ
  /-- The outcomes of the calls to come. -/
  outcomes : List Bool
deriving DecidableEq, Repr

/-- The end of the program. -/
inductive Halt
  /-- On a second error. -/
  | second
  /-- In `wav_tell`. -/
  | other
deriving DecidableEq, Repr

/-- What a recording is made of. -/
inductive RecorderStep
  | header
  /-- An argument that a setter refuses. -/
  | refusal
  /-- A fragment that is not empty. -/
  | write
deriving DecidableEq, Repr

namespace Latch

def setError (l : Latch) : Except Halt Latch :=
  if l.failed then .error .second else .ok { l with failed := true }

/-- The next outcome. -/
def outcome (l : Latch) : Bool × Latch :=
  match l.outcomes with
  | [] => (true, l)
  | ok :: rest => (ok, { l with outcomes := rest })

/-- A call that moves the file. -/
def stdio (l : Latch) (move : ℕ → ℕ) (next : Latch → Except Halt Latch) : Except Halt Latch :=
  match l.outcome with
  | (true, l) => next { l with pos := min (move l.pos) 44 }
  | (false, l) => l.setError

/-- `wav_write_header`. -/
def header (l : Latch) : Except Halt Latch :=
  l.stdio (fun _ => 0) fun l =>
    l.stdio (· + 12) fun l =>
      l.stdio (fun _ => 12) fun l =>
        l.stdio (· + 8) fun l =>
          l.stdio (· + 16) fun l =>
            l.stdio (fun _ => 36) fun l =>
              l.stdio (· + 8) .ok

/-- `wav_update_sizes`; without a position to go back to, the last call fails. -/
def updateSizes (l : Latch) : Except Halt Latch :=
  let (told, l) := l.outcome
  l.stdio (fun _ => 4) fun l =>
    l.stdio (· + 4) fun l =>
      l.stdio (fun _ => 40) fun l =>
        l.stdio (· + 4) fun l =>
          if told then l.stdio (fun _ => 44) .ok else l.setError

/-- `wav_write` of a fragment that is not empty, to a file whose blocks have no
bytes or not. -/
def write (noBlock : Bool) (l : Latch) : Except Halt Latch :=
  match l.outcome with
  | (false, l) => l.setError
  | (true, l) =>
      if l.pos < 44 ∨ noBlock = true then .error .other
      else if l.failed then .ok l
      else l.stdio id updateSizes

def step (noBlock : Bool) (l : Latch) : RecorderStep → Except Halt Latch
  | .header => l.header
  | .refusal => l.setError
  | .write => l.write noBlock

@[simp] theorem step_header (noBlock : Bool) (l : Latch) : l.step noBlock .header = l.header := rfl

@[simp] theorem step_refusal (noBlock : Bool) (l : Latch) :
    l.step noBlock .refusal = l.setError := rfl

@[simp] theorem step_write (noBlock : Bool) (l : Latch) :
    l.step noBlock .write = l.write noBlock := rfl

end Latch

/-- The steps of the setters. -/
def setupSteps (set : StreamSettings) : List RecorderStep :=
  (if set.bitDepth = 32 then [.header, .header] else [])
    ++ (if sampleBytes set.bitDepth < 1 then [.refusal] else [.header])
    ++ (if u16 set.channels < 1 then [.refusal]
      else if u16 set.channels = 2 then [] else [.header])
    ++ if set.sampleRate = 44100 then [] else [.header]

/-- The fragments that are not empty. -/
def writes (fragments : List (Bytes × ℕ)) : ℕ := fragments.countP fun p => p.2 ≠ 0

/-! ### A recorder and its latch -/

/-- The recorder has an open file of this format, and is where the latch is. -/
structure Latched (format : WavFormat) (s : WavRecorder) (l : Latch) : Prop where
  file : ∃ fp, s.fp = some fp ∧ fp.outcomes = l.outcomes ∧ min fp.pos 44 = l.pos
  err : s.err = .ok ↔ l.failed = false
  mode : s.mode = wavOpenWrite
  formatHeader : s.formatHeader = ⟨wavFormatChunkId, 16⟩
  formatOffset : s.formatOffset = 20
  dataId : s.dataHeader.id = wavDataChunkId
  dataOffset : s.dataOffset = 44
  tag : format.formatTag ≠ wavFormatExtensible
  format : s.format = format

/-- Both come back, or both end, on a second error or elsewhere. -/
inductive Mirrors (format : WavFormat) : Except WavFault WavRecorder → Except Halt Latch → Prop
  | ok {s l} : Latched format s l → Mirrors format (.ok s) (.ok l)
  | second {f} : f.Fatal → Mirrors format (.error f) (.error .second)
  | other {f} : ¬ f.Fatal → Mirrors format (.error f) (.error .other)

theorem Mirrors.avoids_iff {format : WavFormat} {r : Except WavFault WavRecorder}
    {t : Except Halt Latch} (h : Mirrors format r t) :
    Avoids WavFault.Fatal r ↔ t ≠ .error .second := by
  cases h with
  | ok => exact iff_of_true (avoids_ok _) (by simp)
  | second hf => exact iff_of_false (fun h => avoids_error.mp h hf) fun h => h rfl
  | other hf => exact iff_of_true (avoids_error.mpr hf) (by simp)

theorem Mirrors.bind {format format' : WavFormat} {r : Except WavFault WavRecorder}
    {t : Except Halt Latch} {k : WavRecorder → Except WavFault WavRecorder}
    {k' : Latch → Except Halt Latch} (h : Mirrors format r t)
    (hk : ∀ s l, Latched format s l → Mirrors format' (k s) (k' l)) :
    Mirrors format' (r.bind k) (t.bind k') := by
  cases h with
  | ok hs => exact hk _ _ hs
  | second hf => exact .second hf
  | other hf => exact .other hf

namespace Latched

variable {format : WavFormat} {s : WavRecorder} {l : Latch}

theorem withFile (h : Latched format s l) {fp : ByteFile} {l' : Latch}
    (hout : fp.outcomes = l'.outcomes) (hpos : min fp.pos 44 = l'.pos)
    (hfailed : l'.failed = l.failed) : Latched format { s with fp := some fp } l' :=
  ⟨⟨fp, rfl, hout, hpos⟩, hfailed ▸ h.err, h.mode, h.formatHeader, h.formatOffset, h.dataId,
    h.dataOffset, h.tag, h.format⟩

/-- The sizes in the record play no part. -/
theorem withSizes (h : Latched format s l) (size size' : ℕ) :
    Latched format { s with
      riffChunk := { s.riffChunk with size }
      dataHeader := { s.dataHeader with size := size' } } l :=
  ⟨h.file, h.err, h.mode, h.formatHeader, h.formatOffset, h.dataId, h.dataOffset, h.tag, h.format⟩

theorem withFormat (h : Latched format s l) {format' : WavFormat}
    (htag : format'.formatTag ≠ wavFormatExtensible) :
    Latched format' { s with format := format' } l :=
  ⟨h.file, h.err, h.mode, h.formatHeader, h.formatOffset, h.dataId, h.dataOffset, htag, rfl⟩

theorem setError (h : Latched format s l) {code : WavErrCode} (hcode : code ≠ .ok) :
    Mirrors format (s.wavErrSet code) l.setError := by
  rw [WavRecorder.wavErrSet, Latch.setError]
  cases hfailed : l.failed with
  | false =>
      rw [if_pos (h.err.mpr hfailed), if_neg (by decide)]
      exact .ok ⟨h.file, iff_of_false hcode (by simp), h.mode, h.formatHeader, h.formatOffset,
        h.dataId, h.dataOffset, h.tag, h.format⟩
  | true =>
      have herr : s.err ≠ .ok := fun hok => by
        rw [h.err, hfailed] at hok
        cases hok
      rw [if_neg herr, if_pos rfl]
      exact .second (Or.inl rfl)

/-! ### One call on the file -/

/-- The call takes the next outcome, and moves the file when it succeeds. -/
structure Moves (call : ByteFile → Bool × ByteFile) (move : ℕ → ℕ) (fp : ByteFile) : Prop where
  outcome : (call fp).1 = fp.outcome.1
  outcomes : (call fp).2.outcomes = fp.outcome.2.outcomes
  pos : min (call fp).2.pos 44 = min (if fp.outcome.1 then move (min fp.pos 44) else fp.pos) 44

theorem moves_fseek (pos : ℕ) (fp : ByteFile) : Moves (ByteFile.fseek pos) (fun _ => pos) fp := by
  rcases fp with ⟨bytes, p, - | ⟨_ | _, rest⟩⟩ <;> exact ⟨rfl, rfl, rfl⟩

theorem moves_fwrite {data : Bytes} {n : ℕ} (h : data.length = n) (fp : ByteFile) :
    Moves (ByteFile.fwrite data) (· + n) fp := by
  have hmin : ∀ p : ℕ, min (p + data.length) 44 = min (min p 44 + n) 44 := by omega
  rcases fp with ⟨bytes, p, - | ⟨_ | _, rest⟩⟩
  · exact ⟨rfl, rfl, hmin p⟩
  · exact ⟨rfl, rfl, rfl⟩
  · exact ⟨rfl, rfl, hmin p⟩

/-- Behind the header a write stays there. -/
theorem moves_data (data : Bytes) {fp : ByteFile} (h : 44 ≤ fp.pos) :
    Moves (ByteFile.fwrite data) id fp := by
  rcases fp with ⟨bytes, p, - | ⟨_ | _, rest⟩⟩
  · exact ⟨rfl, rfl, by show min (p + data.length) 44 = min (min p 44) 44; dsimp only at h; omega⟩
  · exact ⟨rfl, rfl, rfl⟩
  · exact ⟨rfl, rfl, by show min (p + data.length) 44 = min (min p 44) 44; dsimp only at h; omega⟩

theorem moves_seekBack {pos : ℕ} (h : 44 ≤ pos) (fp : ByteFile) :
    Moves (WavRecorder.seekBack (some pos)) (fun _ => 44) fp := by
  rcases fp with ⟨bytes, p, - | ⟨_ | _, rest⟩⟩
  · exact ⟨rfl, rfl, by show min pos 44 = min 44 44; omega⟩
  · exact ⟨rfl, rfl, rfl⟩
  · exact ⟨rfl, rfl, by show min pos 44 = min 44 44; omega⟩

/-- The outcomes are those of the file. -/
theorem outcome_eq (h : Latched format s l) {fp : ByteFile} (hfp : s.fp = some fp) :
    l.outcome.1 = fp.outcome.1 ∧ l.outcome.2.outcomes = fp.outcome.2.outcomes ∧
      l.outcome.2.pos = l.pos ∧ l.outcome.2.failed = l.failed ∧ fp.outcome.2.pos = fp.pos ∧
      min fp.pos 44 = l.pos := by
  obtain ⟨fp', hfp', hout, hpos⟩ := h.file
  obtain rfl := Option.some.inj (hfp.symm.trans hfp')
  rw [Latch.outcome, ByteFile.outcome, hout]
  rcases l.outcomes with - | ⟨ok, rest⟩ <;> refine ⟨rfl, ?_, rfl, rfl, rfl, hpos⟩
  · exact hout.symm
  · rfl

theorem stdio {call : ByteFile → Bool × ByteFile} {move : ℕ → ℕ}
    {next : WavRecorder → Except WavFault WavRecorder} {next' : Latch → Except Halt Latch}
    (h : Latched format s l) (hcall : ∀ fp, s.fp = some fp → Moves call move fp)
    (hnext : ∀ s' l', Latched format s' l' → l'.pos = min (move l.pos) 44 →
      Mirrors format (next s') (next' l')) :
    Mirrors format (s.stdio call next) (l.stdio move next') := by
  obtain ⟨fp, hfp, -, -⟩ := h.file
  obtain ⟨hok, houts, hpos, hfailed, -, hmin⟩ := h.outcome_eq hfp
  obtain ⟨hcallOk, hcallOuts, hcallPos⟩ := hcall fp hfp
  rw [WavRecorder.stdio, hfp, Latch.stdio]
  dsimp only
  rcases hres : call fp with ⟨ok, fp'⟩
  rcases hl : l.outcome with ⟨ok', l'⟩
  rw [hres] at hcallOk hcallOuts hcallPos
  rw [hl] at hok houts hpos hfailed
  dsimp only at hok houts hpos hfailed hcallOk hcallOuts hcallPos
  rw [← hcallOk, hmin] at hcallPos
  obtain rfl : ok' = ok := hok.trans hcallOk.symm
  cases ok' with
  | true =>
      rw [if_pos rfl] at hcallPos
      refine hnext _ _ (h.withFile (hcallOuts.trans houts.symm) ?_ hfailed) ?_
      · rw [hcallPos, hpos]
      · rw [hpos]
  | false =>
      rw [if_neg (by decide), hmin, ← hpos] at hcallPos
      exact setError (h.withFile (hcallOuts.trans houts.symm) hcallPos hfailed) (by decide)

/-! ### Headers and setters -/

theorem header (h : Latched format s l) : Mirrors format s.wavWriteHeader l.header := by
  obtain ⟨size, hsize⟩ : ∃ size, s.wavWriteHeader
      = WavRecorder.stdio { s with riffChunk := { s.riffChunk with size } } (ByteFile.fseek 0)
          fun self => self.stdio
            (ByteFile.fwrite (self.riffChunk.toBytes ++ leBytes 4 self.waveId)) fun self =>
              self.writeFormatChunk WavRecorder.writeDataChunk := ⟨_, rfl⟩
  rw [hsize, Latch.header]
  refine (h.withSizes size s.dataHeader.size).stdio (fun fp _ => moves_fseek 0 fp) fun s l h _ => ?_
  refine h.stdio (fun fp _ => moves_fwrite (by simp [WavChunkHeader.toBytes]) fp) fun s l h _ => ?_
  have hformat : s.writeFormatChunk WavRecorder.writeDataChunk
      = s.stdio (ByteFile.fseek 12) fun self =>
          self.stdio (ByteFile.fwrite self.formatHeader.toBytes) fun self =>
            self.stdio (ByteFile.fwrite (self.format.toBytes.take self.formatHeader.size))
              WavRecorder.writeDataChunk := by
    rw [WavRecorder.writeFormatChunk, h.formatHeader, if_pos rfl, h.formatOffset]
    rfl
  rw [hformat]
  refine h.stdio (fun fp _ => moves_fseek 12 fp) fun s l h _ => ?_
  refine h.stdio (fun fp _ => moves_fwrite (by simp [WavChunkHeader.toBytes]) fp) fun s l h _ => ?_
  refine h.stdio (fun fp _ => moves_fwrite ?_ fp) fun s l h _ => ?_
  · rw [h.formatHeader, List.length_take]
    simp [WavFormat.toBytes]
  have hdata : s.writeDataChunk
      = s.stdio (ByteFile.fseek 36) fun self =>
          self.stdio (ByteFile.fwrite self.dataHeader.toBytes) .ok := by
    rw [WavRecorder.writeDataChunk, if_pos h.dataId, h.dataOffset]
    rfl
  rw [hdata]
  refine h.stdio (fun fp _ => moves_fseek 36 fp) fun s l h _ => ?_
  exact h.stdio (fun fp _ => moves_fwrite (by simp [WavChunkHeader.toBytes]) fp)
    fun s l h _ => .ok h

theorem setSampleSize {w : WavFile} (h : Latched w.format s l) (noBlock : Bool) (sampleSize : ℕ) :
    Mirrors (wavSetSampleSize w sampleSize).format (s.wavSetSampleSize sampleSize)
      (runCalls (Latch.step noBlock) l (if sampleSize < 1 then [.refusal] else [.header])) := by
  rw [WavRecorder.wavSetSampleSize, WavRecorder.ifWritable_eq h.mode, wavSetSampleSize, h.format]
  split
  · rw [runCalls_singleton]
    exact h.setError (by decide)
  · rw [runCalls_singleton]
    exact (h.withFormat (by exact h.tag)).header

theorem setNumChannels {w : WavFile} (h : Latched w.format s l) (noBlock : Bool)
    (numChannels : ℕ) :
    Mirrors (wavSetNumChannels w numChannels).format (s.wavSetNumChannels numChannels)
      (runCalls (Latch.step noBlock) l (if u16 numChannels < 1 then [.refusal]
        else if u16 numChannels = w.format.numChannels then [] else [.header])) := by
  rw [WavRecorder.wavSetNumChannels, wavSetNumChannels]
  dsimp only
  rw [WavRecorder.ifWritable_eq h.mode, h.format]
  split
  · rw [runCalls_singleton]
    exact h.setError (by decide)
  split
  · exact .ok h
  · rw [runCalls_singleton]
    exact (h.withFormat (by exact h.tag)).header

theorem setSampleRate {w : WavFile} (h : Latched w.format s l) (noBlock : Bool) (sampleRate : ℕ) :
    Mirrors (wavSetSampleRate w sampleRate).format (s.wavSetSampleRate sampleRate)
      (runCalls (Latch.step noBlock) l
        (if sampleRate = w.format.sampleRate then [] else [.header])) := by
  rw [WavRecorder.wavSetSampleRate, WavRecorder.ifWritable_eq h.mode, wavSetSampleRate, h.format]
  split
  · exact .ok h
  · rw [runCalls_singleton]
    exact (h.withFormat (by exact h.tag)).header

/-- PCM is the default, and the samples of a float file are made four bytes wide
first, which writes a header of its own. -/
theorem setFormat (h : Latched wavOpen.format s l) (noBlock : Bool) (bitDepth : ℕ) :
    Mirrors (wavSetFormat wavOpen
        (if bitDepth = 32 then wavFormatIeeeFloat else wavFormatPcm)).format
      (s.wavSetFormat (if bitDepth = 32 then wavFormatIeeeFloat else wavFormatPcm))
      (runCalls (Latch.step noBlock) l (if bitDepth = 32 then [.header, .header] else [])) := by
  rw [WavRecorder.wavSetFormat, WavRecorder.ifWritable_eq h.mode, h.format]
  by_cases hfloat : bitDepth = 32
  · have hnew : ¬ wavFormatIeeeFloat = wavOpen.format.formatTag := by decide
    rw [if_pos hfloat, if_pos hfloat, if_neg hnew]
    dsimp only
    rw [if_pos rfl, if_pos (by decide), runCalls_cons]
    have hself : Latched (WavFile.format ⟨{ wavOpen.format with
          formatTag := wavFormatIeeeFloat, extSize := 0 }, .ok⟩)
        { s with
          format := { wavOpen.format with formatTag := wavFormatIeeeFloat, extSize := 0 }
          formatHeader := { s.formatHeader with size := 16 } } l :=
      ⟨h.file, h.err, h.mode, by rw [h.formatHeader], h.formatOffset, h.dataId, h.dataOffset,
        by decide, rfl⟩
    have hsize := hself.setSampleSize noBlock 4
    rw [if_neg (by decide), runCalls_singleton] at hsize
    have hfirst : Mirrors (wavSetFormat wavOpen wavFormatIeeeFloat).format _ _ := hsize
    refine hfirst.bind fun s' l' h' => ?_
    rw [runCalls_singleton]
    exact h'.header
  · have hsame : wavFormatPcm = wavOpen.format.formatTag := rfl
    rw [if_neg hfloat, if_neg hfloat, if_pos hsame]
    exact .ok h

end Latched

/-! ### The whole recording -/

theorem latched_newFile (outcomes : List Bool) :
    Latched wavOpen.format (WavRecorder.newFile ⟨[], 0, outcomes⟩) ⟨false, 0, outcomes⟩ :=
  ⟨⟨_, rfl, rfl, rfl⟩, iff_of_true rfl rfl, rfl, rfl, rfl, rfl, rfl, by decide, rfl⟩

/-- `wav_init` opens the file and writes a header. -/
theorem latched_init {outcomes : List Bool} (h : outcomes.head? ≠ some false) :
    Mirrors wavOpen.format (WavRecorder.wavInit outcomes)
      (Latch.header ⟨false, 0, outcomes.tail⟩) := by
  have hinit : WavRecorder.wavInit outcomes
      = (WavRecorder.newFile ⟨[], 0, outcomes.tail⟩).wavWriteHeader := by
    rcases outcomes with - | ⟨_ | _, rest⟩
    · rfl
    · exact absurd rfl h
    · rfl
  rw [hinit]
  exact (latched_newFile outcomes.tail).header

theorem wavSetSampleSize_keeps (w : WavFile) (sampleSize : ℕ) :
    (wavSetSampleSize w sampleSize).format.numChannels = w.format.numChannels ∧
      (wavSetSampleSize w sampleSize).format.sampleRate = w.format.sampleRate := by
  rw [wavSetSampleSize]
  split <;> exact ⟨rfl, rfl⟩

theorem wavSetFormat_keeps (w : WavFile) (format : ℕ) :
    (wavSetFormat w format).format.numChannels = w.format.numChannels ∧
      (wavSetFormat w format).format.sampleRate = w.format.sampleRate := by
  rw [wavSetFormat]
  split
  · exact ⟨rfl, rfl⟩
  dsimp only
  split
  · split
    · exact wavSetSampleSize_keeps _ 4
    · exact ⟨rfl, rfl⟩
  · exact ⟨rfl, rfl⟩

theorem wavSetNumChannels_sampleRate (w : WavFile) (numChannels : ℕ) :
    (wavSetNumChannels w numChannels).format.sampleRate = w.format.sampleRate := by
  rw [wavSetNumChannels]
  dsimp only
  split
  · rfl
  split <;> rfl

/-- The setup of a file that has been opened. -/
theorem latched_setup {outcomes : List Bool} (h : outcomes.head? ≠ some false)
    (set : StreamSettings) (noBlock : Bool) :
    Mirrors (setupWavRecorder set).format (WavRecorder.setupWavRecorder outcomes set)
      (runCalls (Latch.step noBlock) ⟨false, 0, outcomes.tail⟩ (.header :: setupSteps set)) := by
  rw [runCalls_cons, setupSteps, List.append_assoc, List.append_assoc]
  refine Mirrors.bind (latched_init h) fun s l hs => ?_
  rw [runCalls_append]
  refine Mirrors.bind (hs.setFormat noBlock set.bitDepth) fun s l hs => ?_
  obtain ⟨hchannels, hrate⟩ := wavSetFormat_keeps wavOpen
    (if set.bitDepth = 32 then wavFormatIeeeFloat else wavFormatPcm)
  rw [runCalls_append]
  refine Mirrors.bind (hs.setSampleSize noBlock (sampleBytes set.bitDepth)) fun s l hs => ?_
  obtain ⟨hchannels', hrate'⟩ := wavSetSampleSize_keeps (wavSetFormat wavOpen
    (if set.bitDepth = 32 then wavFormatIeeeFloat else wavFormatPcm)) (sampleBytes set.bitDepth)
  rw [runCalls_append]
  have hsteps := hs.setNumChannels noBlock set.channels
  rw [hchannels', hchannels] at hsteps
  refine Mirrors.bind hsteps fun s l hs => ?_
  have hlast := hs.setSampleRate noBlock set.sampleRate
  rw [wavSetNumChannels_sampleRate, hrate', hrate] at hlast
  exact hlast

theorem wavErrSet_err {s s' : WavRecorder} {code : WavErrCode}
    (h : s.wavErrSet code = .ok s') : s'.err = code := by
  rw [WavRecorder.wavErrSet] at h
  split at h
  · rw [← Except.ok.inj h]
  · cases h

namespace Latched

variable {format : WavFormat} {s : WavRecorder} {l : Latch}

/-- `ftell` takes an outcome, and answers with the position. -/
theorem ftell (h : Latched format s l) :
    ∃ fp fp' told l', s.fp = some fp ∧ fp.ftell = (if told then some fp'.pos else none, fp') ∧
      l.outcome = (told, l') ∧ Latched format { s with fp := some fp' } l' ∧ l'.pos = l.pos ∧
      min fp'.pos 44 = l.pos ∧ l'.failed = l.failed := by
  obtain ⟨fp, hfp, -, -⟩ := h.file
  obtain ⟨hok, houts, hlpos, hfailed, hfpos, hmin⟩ := h.outcome_eq hfp
  rw [← hfpos] at hmin
  refine ⟨fp, fp.outcome.2, fp.outcome.1, l.outcome.2, hfp, ?_, Prod.ext hok rfl,
    h.withFile houts.symm (hmin.trans hlpos.symm) hfailed, hlpos, hmin, hfailed⟩
  rw [ByteFile.ftell]
  rcases fp.outcome with ⟨_ | _, fp'⟩ <;> rfl

/-- The seek back goes where the data have been written to. -/
theorem updateSizes (h : Latched format s l) (hpos : l.pos = 44) :
    Mirrors format s.wavUpdateSizes l.updateSizes := by
  obtain ⟨fp, fp', told, l', hfp, htell, hl, hnext, -, hmin, -⟩ := h.ftell
  have hback : ∀ s' l', Latched format s' l' →
      Mirrors format (s'.stdio (WavRecorder.seekBack (if told then some fp'.pos else none)) .ok)
        (if told then l'.stdio (fun _ => 44) .ok else l'.setError) := by
    intro s' l' hs
    cases told with
    | true => exact hs.stdio (fun fp _ => moves_seekBack (by omega) fp) fun _ _ h _ => .ok h
    | false =>
        obtain ⟨fp₀, hfp₀, -, -⟩ := hs.file
        have hsame : { s' with fp := some fp₀ } = s' := by rw [← hfp₀]
        have hset : Mirrors format (s'.wavErrSet .os) l'.setError := hs.setError (by decide)
        rw [← hsame] at hset
        rw [WavRecorder.stdio, hfp₀]
        exact hset
  simp only [WavRecorder.wavUpdateSizes, hfp, htell, Latch.updateSizes, hl]
  refine hnext.stdio (fun fp _ => moves_fseek _ fp) fun s l h _ => ?_
  refine h.stdio (fun fp _ => moves_fwrite (length_leBytes 4 _) fp) fun s l h _ => ?_
  rw [h.dataOffset]
  refine h.stdio (fun fp _ => moves_fseek _ fp) fun s l h _ => ?_
  exact h.stdio (fun fp _ => moves_fwrite (length_leBytes 4 _) fp) fun s l h _ => hback s l h

/-- `wav_write` looks at the error behind its first call. -/
theorem write (h : Latched format s l) (buffer : Bytes) {count : ℕ} (hcount : count ≠ 0) :
    Mirrors format (s.wavWrite buffer count) (l.write (decide (format.blockAlign = 0))) := by
  have hmode : ¬ (s.mode &&& wavOpenWrite = 0 ∧ s.mode &&& wavOpenAppend = 0) := by
    rw [h.mode]
    decide
  have htag : s.format.formatTag ≠ wavFormatExtensible := h.format ▸ h.tag
  obtain ⟨fp, fp', told, l', hfp, htell, hl, hnext, hpos, hmin, hfailed⟩ := h.ftell
  rw [WavRecorder.wavWrite]
  dsimp only
  rw [if_neg hmode, if_neg htag, if_neg hcount, WavRecorder.wavTell, Latch.write]
  simp only [hfp, htell, hl]
  cases told with
  | false =>
      have hset : Mirrors format (WavRecorder.wavErrSet { s with fp := some fp' } .os)
          l'.setError := hnext.setError (by decide)
      simp only [Bool.false_eq_true, if_false]
      rcases hset' : WavRecorder.wavErrSet { s with fp := some fp' } .os with f | s' <;>
        rw [hset'] at hset
      · exact hset
      · -- the error just set
        have herr : s'.err ≠ .ok := by
          rw [wavErrSet_err hset']
          decide
        dsimp only
        rwa [if_pos herr]
  | true =>
      have hother : ∀ f : WavFault, f = .posBeforeData ∨ f = .divisionByZero →
          Mirrors format (.error f) (.error .other) := by
        rintro f (rfl | rfl) <;> exact .other (by simp [WavFault.Fatal])
      have hoffset := h.dataOffset
      have hformat := h.format
      simp only [if_true]
      by_cases hbefore : fp'.pos < s.dataOffset
      · rw [if_pos hbefore, if_pos (Or.inl (by omega))]
        exact hother _ (Or.inl rfl)
      by_cases hblock : s.format.blockAlign = 0
      · rw [if_neg hbefore, if_pos hblock, if_pos (Or.inr (decide_eq_true (hformat ▸ hblock)))]
        exact hother _ (Or.inr rfl)
      have hnot : ¬ (l'.pos < 44 ∨ decide (format.blockAlign = 0) = true) := by
        rw [decide_eq_true_iff, ← hformat]
        omega
      rw [if_neg hbefore, if_neg hblock, if_neg hnot]
      dsimp only
      cases hpending : l'.failed with
      | true =>
          have herr : s.err ≠ .ok := fun hok => by
            have hclear := hnext.err.mp hok
            rw [hpending] at hclear
            cases hclear
          rw [if_pos herr, if_pos rfl]
          exact .ok hnext
      | false =>
          have hok : s.err = .ok := hnext.err.mpr hpending
          rw [if_neg (not_not.mpr hok), if_neg (by decide)]
          refine hnext.stdio (fun fp hfp' => moves_data _ ?_) fun s l h hl => ?_
          · obtain rfl := Option.some.inj hfp'
            omega
          · exact (h.withSizes _ _).updateSizes (by rw [hl, id, hpos]; omega)

end Latched

/-- The writes of a recording; those of no frames leave no trace. -/
theorem latched_writes {format : WavFormat} {s : WavRecorder} {l : Latch}
    (h : Latched format s l) (fragments : List (Bytes × ℕ)) :
    Mirrors format (runCalls WavRecorder.call s (fragments.map fun p => .write p.1 p.2))
      (runCalls (Latch.step (decide (format.blockAlign = 0))) l
        (List.replicate (writes fragments) .write)) := by
  induction fragments generalizing s l with
  | nil => exact .ok h
  | cons p rest ih =>
      rw [List.map_cons, runCalls_cons, writes, List.countP_cons]
      by_cases hcount : p.2 = 0
      · have hnothing : s.call (.write p.1 p.2) = .ok s := by
          have hmode : ¬ (s.mode &&& wavOpenWrite = 0 ∧ s.mode &&& wavOpenAppend = 0) := by
            rw [h.mode]
            decide
          have htag : s.format.formatTag ≠ wavFormatExtensible := h.format ▸ h.tag
          rw [WavRecorder.call, WavRecorder.wavWrite]
          dsimp only
          rw [if_neg hmode, if_neg htag, if_pos hcount]
        rw [hnothing, ok_bind, if_neg (by simpa using hcount), Nat.add_zero]
        exact ih h
      · rw [if_pos (by simpa using hcount), List.replicate_succ, runCalls_cons]
        exact Mirrors.bind (h.write p.1 hcount) fun s l hs => ih hs

end Tram
