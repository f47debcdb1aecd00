/-
Tram/ReadBack.lean

A recording read with the library that wrote it.

The recorder leaves a well-formed file: its one chunk before the data is the
format chunk of the stream.  What the file presents to a reader is then the
fragments played, cut into frames.

`recording_reads` is about every run of a stream, over any network.  Over a
network that loses nothing the file begins what was captured
(`recording_captured`).
-/
import Tram.Geometry
import Tram.Lossless
import Tram.WavFrames
import Tram.WavImage

namespace Tram

/-! ### What is recorded -/

variable {lib : Libavtp} {set : StreamSettings} {recording : Bool} {D : Discipline Bytes}

namespace WavRecorder

/-- The recorder on a log whose writes are whole fragments. -/
theorem recordLog_log {format : WavFormat} (hblock : format.blockAlign ≠ 0)
    (htag : format.formatTag ≠ wavFormatExtensible) {log : List Event} {data : Bytes}
    (hlen : ∀ buffer frames, .wavWrite buffer frames ∈ log →
      buffer.length = format.blockAlign / format.numChannels * (format.numChannels * frames))
    (htotal : 36 + (data ++ (recordedBuffers log).flatten).length < 2 ^ 32) :
    recordLog (recorded format data) log
      = .ok (recorded format (data ++ (recordedBuffers log).flatten)) := by
  induction log generalizing data with
  | nil =>
      have hnone : data ++ (recordedBuffers []).flatten = data := List.append_nil data
      rw [recordLog, hnone]
  | cons e rest ih =>
      have hrest : ∀ buffer frames, .wavWrite buffer frames ∈ rest → _ :=
        fun buffer frames hmem => hlen buffer frames (List.mem_cons_of_mem e hmem)
      cases e with
      | statsPush node pdu => exact ih hrest htotal
      | writei buffer frames rc => exact ih hrest htotal
      | prepare => exact ih hrest htotal
      | wavWrite buffer frames =>
          have hcons : (recordedBuffers (.wavWrite buffer frames :: rest)).flatten
              = buffer ++ (recordedBuffers rest).flatten := rfl
          rw [hcons, ← List.append_assoc] at htotal ⊢
          have hfits : 36 + (data ++ buffer).length < 2 ^ 32 := by
            rw [List.length_append] at htotal
            omega
          rw [recordLog, wavWrite_recorded hblock htag (hlen _ _ List.mem_cons_self) hfits]
          exact ih hrest htotal

end WavRecorder

/-- Every buffer is one fragment, and every buffer played has been recorded. -/
structure RecordInv (set : StreamSettings) (s : ListenerState) : Prop where
  fragments : FragmentsAgree set s
  recorded : recordedBuffers s.log = playedBuffers s.log

theorem RecordInv.socketStep {inp : IterInput} {s s' : ListenerState}
    (hsize : set.pduSize = lib.sizeofStreamPdu + set.dataLen) (h : RecordInv set s)
    (hcase : SocketCase lib set inp s s') : RecordInv set s' := by
  refine ⟨h.fragments.socketStep hsize hcase, ?_⟩
  have hrecorded := h.recorded
  cases hcase with
  | silent => exact hrecorded
  | packet _ hnew hrc =>
      cases newPacket_cases hnew with
      | nothing | rejected | noStamp | late | noNode => exact hrecorded
      | unscheduled | queued =>
          simp only [pushPacket, recordedBuffers_append, playedBuffers_append, hrecorded]
          rfl

theorem RecordInv.playStep {timerReadable : Bool} {inp : IterInput} {s s' : ListenerState}
    (h : RecordInv set s)
    (hcase : PlayCase true (u32 set.framesPerPdu) timerReadable inp s s') : RecordInv set s' := by
  refine ⟨h.fragments.playStep hcase, ?_⟩
  cases hcase with
  | idle => exact h.recorded
  | played =>
      simp only [recordedBuffers_append, playedBuffers_append, recordedBuffers_playEvents,
        playedBuffers_playEvents, h.recorded, if_true]

/-- A call of `new_packet` that fails has recorded nothing. -/
theorem RecordInv.newPacket_neg {inp : PacketInput} {s s' : ListenerState} {rc : ℤ}
    (h : RecordInv set s) (hnew : newPacket lib set inp s = .ok (rc, s')) (hrc : rc < 0) :
    RecordInv set s' := by
  cases newPacket_cases hnew with
  | nothing | noStamp | noNode => exact ⟨h.fragments, h.recorded⟩
  | unscheduled =>
      refine ⟨⟨h.fragments.1, fun e hmem buffer frames hfrag => ?_⟩, ?_⟩
      · rcases List.mem_append.mp hmem with hmem | hmem
        · exact h.fragments.2 e hmem buffer frames hfrag
        · rw [List.mem_singleton.mp hmem] at hfrag
          cases hfrag
      · simp only [pushPacket, recordedBuffers_append, playedBuffers_append, h.recorded]
        rfl
  | rejected | late | queued => exact absurd hrc (by decide)

theorem RecordInv.session {t t' : ListenerSession} {inp : IterInput}
    (hsize : set.pduSize = lib.sizeofStreamPdu + set.dataLen) (h : RecordInv set t.loop)
    (hstep : (listenerSession lib set true).step t inp t') : RecordInv set t'.loop := by
  have hthrough : (iteration lib set true inp t.loop = .next t'.loop ∨
      iteration lib set true inp t.loop = .brk t'.loop) → RecordInv set t'.loop := by
    intro hthrough
    obtain ⟨s₁, hsock, hplay⟩ := iteration_through hthrough
    have h₁ : RecordInv set s₁ :=
      RecordInv.socketStep (s := atPoll inp t.loop) hsize ⟨h.fragments, h.recorded⟩ hsock
    exact RecordInv.playStep (s := afterPoll inp s₁) ⟨h₁.fragments, h₁.recorded⟩ hplay
  obtain ⟨-, ⟨hnext, -⟩ | ⟨-, hbrk | ⟨res, hend⟩⟩⟩ := hstep
  · exact hthrough (Or.inl hnext)
  · exact hthrough (Or.inr hbrk)
  · have h₀ : RecordInv set (atPoll inp t.loop) := ⟨h.fragments, h.recorded⟩
    generalize t'.loop = s' at hend ⊢
    cases iteration_goEnd hend with
    | poll => exact h
    | socket hnew hrc => exact h₀.newPacket_neg hnew hrc
    | timer hsock =>
        have h₁ := h₀.socketStep hsize hsock
        exact ⟨h₁.fragments, h₁.recorded⟩

theorem recordInv_run (hsize : set.pduSize = lib.sizeofStreamPdu + set.dataLen)
    {tr : List (Observed ListenerSession Bytes × IterInput)} {o : Observed ListenerSession Bytes}
    (hrun : (hearingSession lib set true).Run tr o) : RecordInv set o.state.loop := by
  refine Machine.Run.invariant_of_step (I := fun o => RecordInv set o.state.loop) ?_ ?_ hrun
  · rintro o ⟨hinit, -⟩
    rw [show o.state = ⟨listenerInit, false⟩ from hinit]
    exact ⟨fragmentsAgree_init, rfl⟩
  · rintro o inp o' h ⟨hstep, -⟩
    exact h.session hsize hstep

/-! ### Reading it back -/

/-- The fragments are whole frames, as many as the period granted, and a frame
fits the format of a file. -/
structure WholeFrames (lib : Libavtp) (set : StreamSettings) : Prop where
  bits : set.bitDepth = 16 ∨ set.bitDepth = 24 ∨ set.bitDepth = 32
  channels : 1 ≤ set.channels
  block : sampleBytes set.bitDepth * set.channels < 2 ^ 16
  dataLen : set.dataLen = sampleBytes set.bitDepth * set.channels * set.framesPerPdu
  pduSize : set.pduSize = lib.sizeofStreamPdu + set.dataLen
  rate : set.sampleRate < 2 ^ 32

namespace WholeFrames

theorem sampleBytes_pos (h : WholeFrames lib set) : 1 ≤ sampleBytes set.bitDepth := by
  rcases h.bits with hb | hb | hb <;> rw [hb] <;> decide

theorem channels_lt (h : WholeFrames lib set) : set.channels < 2 ^ 16 :=
  Nat.lt_of_le_of_lt (Nat.le_mul_of_pos_left set.channels h.sampleBytes_pos) h.block

theorem supported :
    (streamFormat set.bitDepth set.channels set.sampleRate).formatTag ∈ supportedFormats := by
  show (if set.bitDepth = 32 then 3 else 1) ∈ supportedFormats
  split <;> decide

theorem fits (h : WholeFrames lib set) :
    (streamFormat set.bitDepth set.channels set.sampleRate).Fits where
  tag := by
    show (if set.bitDepth = 32 then 3 else 1) < 2 ^ 16
    split <;> decide
  channels := h.channels_lt
  rate := h.rate
  bytesPerSec := Nat.mod_lt _ (by decide)
  block := h.block
  bits := by
    show set.bitDepth < 2 ^ 16
    have hbits := h.bits
    omega
  ext := rfl

theorem readable (h : WholeFrames lib set) :
    (streamFormat set.bitDepth set.channels set.sampleRate).Readable where
  channels := h.channels
  block := Nat.mul_pos h.sampleBytes_pos h.channels
  samples := Nat.dvd_mul_left _ _
  tag := by
    show (if set.bitDepth = 32 then 3 else 1) ≠ wavFormatExtensible
    split <;> decide

end WholeFrames

/-- The bytes in an answer. -/
def WavAnswer.buffer : WavAnswer → Bytes
  | .frames buffer _ => buffer
  | _ => []

/-- The bytes of some reads, one after the other. -/
def WavReader.readBack (r : WavReader) (counts : List ℕ) : Bytes :=
  (collect WavReader.call r (counts.map .read)).1.flatMap WavAnswer.buffer

theorem buffer_answer (answers : List (StreamAnswer Bytes)) :
    (answers.map WavReader.answer).flatMap WavAnswer.buffer
      = (answers.flatMap FrameStream.dataOf).flatten := by
  induction answers with
  | nil => rfl
  | cons a rest ih =>
      have hfirst : (WavReader.answer a).buffer = (FrameStream.dataOf a).flatten := by
        cases a <;> rfl
      rw [List.map_cons, List.flatMap_cons, List.flatMap_cons, List.flatten_append, ih, hfirst]

/-- A read from among the frames stays there, and what is behind them does not
matter. -/
theorem read_follows {bytes rest : Bytes} {format : WavFormat} {offset : ℕ} {frames : List Bytes}
    (hf : format.Readable) (hp : Presents bytes format offset frames rest) (s : FrameStream Bytes)
    (r : WavReader) (c : StreamCall)
    (h : WavReader.Reads bytes format offset frames s r ∧ s.pos ≤ frames.length)
    (hc : ∃ count, c = .read count) :
    Follows WavReader.answer WavReader.faultOf
      (fun s r => WavReader.Reads bytes format offset frames s r ∧ s.pos ≤ frames.length)
      (s.call (lastFrame format offset) c) (r.call c) := by
  obtain ⟨count, rfl⟩ := hc
  obtain ⟨hreads, hpos⟩ := h
  obtain ⟨r', hread, h'⟩ := hreads.wavRead hf hp (Or.inl hpos) count
  have hstays : s.pos + (s.next count).length ≤ frames.length := by
    rw [FrameStream.next, hreads.frames]
    split
    · exact hpos
    · rw [List.length_take, List.length_drop]
      omega
  rw [WavReader.call, hread]
  exact .ok (a := StreamAnswer.frames (s.next count)) ⟨h', hstays⟩

/-- Whole frames are read back, however the reads divide them. -/
theorem readBack_eq {bytes rest : Bytes} {format : WavFormat} {offset size : ℕ}
    {frames : List Bytes} {r : WavReader} (hf : format.Readable)
    (hp : Presents bytes format offset frames rest)
    (hsize : size = frames.length * format.blockAlign)
    (hopen : WavReader.Opened bytes format offset size r) (counts : List ℕ) :
    r.readBack counts = frames.flatten.take (counts.sum * format.blockAlign) := by
  subst hsize
  have hreads : ∀ c ∈ counts.map StreamCall.read, ∃ count, c = .read count := by
    intro c hmem
    obtain ⟨n, -, rfl⟩ := List.mem_map.mp hmem
    exact ⟨n, rfl⟩
  rw [WavReader.readBack,
    (collect_follows (read_follows hf hp) ⟨hopen.reads, Nat.zero_le _⟩ hreads).1, buffer_answer,
    FrameStream.collect_reads, List.drop_zero, take_flatten_blocks hp.blocks]

/-- The fragments in the log of a run. -/
theorem RecordInv.length {s : ListenerState} (h : RecordInv set s) :
    ∀ buffer ∈ recordedBuffers s.log, buffer.length = set.dataLen := by
  intro buffer hmem
  obtain ⟨e, hlog, hbuffer⟩ := List.mem_filterMap.mp hmem
  cases e with
  | wavWrite buffer' frames =>
      obtain rfl := Option.some.inj hbuffer
      exact (h.fragments.2 _ hlog buffer' frames rfl).1
  | statsPush | writei | prepare => cases hbuffer

/-- The writes in the log of a run are of whole frames. -/
theorem RecordInv.wholeWrites (hset : WholeFrames lib set) {s : ListenerState}
    (h : RecordInv set s) (hfits : 36 + (recordedBuffers s.log).flatten.length < 2 ^ 32)
    {buffer : Bytes} {frames : ℕ} (hmem : .wavWrite buffer frames ∈ s.log) :
    buffer.length = sampleBytes set.bitDepth * set.channels / set.channels
      * (set.channels * frames) := by
  obtain ⟨hbuffer, hframes⟩ := h.fragments.2 _ hmem buffer frames rfl
  -- a fragment below `2 ^ 32` bytes has fewer frames than that
  have hsum : buffer.length ≤ (recordedBuffers s.log).flatten.length :=
    (List.sublist_flatten_of_mem (List.mem_filterMap.mpr ⟨_, hmem, rfl⟩)).length_le
  have hperiod : set.framesPerPdu ≤ buffer.length := by
    rw [hbuffer, hset.dataLen]
    exact Nat.le_mul_of_pos_left _ hset.readable.block
  rw [hframes, u32_of_lt (by omega), Nat.mul_div_cancel _ hset.channels, ← Nat.mul_assoc, hbuffer,
    hset.dataLen]

/-- The recorder on the log of a run. -/
theorem RecordInv.recordLog (hset : WholeFrames lib set) {s : ListenerState} (h : RecordInv set s)
    (hfits : 36 + (recordedBuffers s.log).flatten.length < 2 ^ 32) :
    (WavRecorder.recorded (streamFormat set.bitDepth set.channels set.sampleRate) []).recordLog s.log
      = .ok (WavRecorder.recorded (streamFormat set.bitDepth set.channels set.sampleRate)
          (recordedBuffers s.log).flatten) :=
  WavRecorder.recordLog_log (Nat.ne_of_gt hset.readable.block) hset.readable.tag
    (fun _ _ hmem => h.wholeWrites hset hfits hmem) hfits

/-- The library opens the file with the format of the stream, and reading it
gives `data`, however the reads divide it. -/
def PlaysBack (set : StreamSettings) (bytes data : Bytes) : Prop :=
  ∃ r, WavReader.wavInit (some bytes) [] = .ok r ∧ r.file.err = .ok ∧
    r.file.format = streamFormat set.bitDepth set.channels set.sampleRate ∧
    ∀ counts : List ℕ, r.readBack counts
      = data.take (counts.sum * (sampleBytes set.bitDepth * set.channels))

/-- The library opens the file with this format, and reading it gives `data`,
however the reads divide it. -/
def ReadsAs (format : WavFormat) (bytes data : Bytes) : Prop :=
  ∃ r, WavReader.wavInit (some bytes) [] = .ok r ∧ r.file.err = .ok ∧ r.file.format = format ∧
    ∀ counts : List ℕ, r.readBack counts = data.take (counts.sum * format.blockAlign)

/-- Whole frames are read back from behind the header, as far as the size of the
data goes. -/
theorem wavImage_reads {format : WavFormat} (hfits : format.Fits) (hread : format.Readable)
    (htag : format.formatTag ∈ supportedFormats) {data : Bytes}
    (hdata : format.blockAlign ∣ data.length) (hsize : 36 + data.length < 2 ^ 32) {riffSize : ℕ}
    (hriff : riffSize < 2 ^ 32) (rest : Bytes) :
    ReadsAs format (wavImage format riffSize data.length (data ++ rest)) data := by
  obtain ⟨count, hcount⟩ := hdata
  rw [Nat.mul_comm] at hcount
  have hflat := flatten_blocksOf hcount
  have hblocks := length_flatten_blocks (blocksOf_length hcount)
  rw [hflat] at hblocks
  set frames := blocksOf format.blockAlign count data with hframes
  have hp : Presents (wavImage format riffSize data.length (data ++ rest)) format 44 frames rest := by
    refine ⟨?_, blocksOf_length hcount, ?_, ?_⟩
    · rw [drop_wavImage, hflat]
    · exact hblocks ▸ by omega
    · exact hblocks ▸ by omega
  have hword : data.length < 2 ^ 32 := by omega
  obtain ⟨r, hinit, hopen⟩ := WavReader.wellFormed_opened
    (wavImage_wellFormed hfits htag hriff hword (data ++ rest))
  refine ⟨r, hinit, hopen.err, hopen.format, fun counts => ?_⟩
  rw [readBack_eq hread hp hblocks hopen counts, hflat]

/-- Whole fragments are read back. -/
theorem playsBack_fragments (hset : WholeFrames lib set) {buffers : List Bytes}
    (hlen : ∀ buffer ∈ buffers, buffer.length = set.dataLen)
    (hfits : 36 + buffers.flatten.length < 2 ^ 32) {riffSize : ℕ} (hriff : riffSize < 2 ^ 32)
    (rest : Bytes) :
    PlaysBack set (wavImage (streamFormat set.bitDepth set.channels set.sampleRate) riffSize
      buffers.flatten.length (buffers.flatten ++ rest)) buffers.flatten := by
  have hdata : sampleBytes set.bitDepth * set.channels ∣ buffers.flatten.length := by
    rw [length_flatten_blocks hlen, hset.dataLen]
    exact Dvd.dvd.mul_left (Nat.dvd_mul_right _ _) _
  exact wavImage_reads hset.fits hset.readable WholeFrames.supported hdata hfits hriff rest

/-- The recorder, fed with the fragments of `log`, leaves a file that plays back
as `data`. -/
def ReadsBack (set : StreamSettings) (log : List Event) (data : Bytes) : Prop :=
  ∃ fp fp' bytes, WavRecorder.setupWavRecorder [] set = .ok fp ∧ fp.recordLog log = .ok fp' ∧
    fp'.contents = some bytes ∧ PlaysBack set bytes data

theorem WholeFrames.setup (hset : WholeFrames lib set) :
    WavRecorder.setupWavRecorder [] set
      = .ok (.recorded (streamFormat set.bitDepth set.channels set.sampleRate) []) := by
  have hsetup := WavRecorder.setupWavRecorder_recorded hset.sampleBytes_pos
    (hset.channels.trans (Nat.mod_eq_of_lt hset.channels_lt).ge)
  rwa [setupWavRecorder_format hset.bits hset.channels hset.block] at hsetup

theorem RecordInv.readsBack (hset : WholeFrames lib set) {s : ListenerState}
    (h : RecordInv set s) (hfits : 36 + (playedBuffers s.log).flatten.length < 2 ^ 32) :
    ReadsBack set s.log (playedBuffers s.log).flatten := by
  rw [← h.recorded] at hfits ⊢
  have hplays := playsBack_fragments hset h.length hfits hfits []
  rw [List.append_nil, ← wavHeader_image] at hplays
  exact ⟨_, _, _, hset.setup, h.recordLog hset hfits, WavRecorder.contents_recorded _ _, hplays⟩

section Runs

variable {tr : List (Linked TalkerState Bytes ListenerSession × LinkLabel TalkerInput IterInput)}
  {g : Linked TalkerState Bytes ListenerSession}

/-- **A recording reads back.**  In every run of a stream of whole frames, over
any network, a recording of less than `2 ^ 32` bytes reads back as the fragments
played, byte for byte. -/
theorem recording_reads (hset : WholeFrames lib set) (hrun : (stream lib set true D).Run tr g)
    (hfits : 36 + (playedBuffers g.receiver.state.loop.log).flatten.length < 2 ^ 32) :
    ReadsBack set g.receiver.state.loop.log (playedBuffers g.receiver.state.loop.log).flatten :=
  (recordInv_run hset.pduSize (o := g.receiver) hrun.link_receiver).readsBack hset hfits

theorem recording_reads_mono :
    ∃ tr g, (stream ieee1722 monoSettings true .faithful).Run tr g ∧
      ReadsBack monoSettings g.receiver.state.loop.log [1, 2] := by
  obtain ⟨tr, g, hrun, -, -, hplayed, -⟩ := monoStream_run
  have hframes : WholeFrames ieee1722 monoSettings :=
    ⟨Or.inl rfl, by decide, by decide, by decide, by decide, by decide⟩
  have hback := recording_reads hframes hrun (by rw [hplayed]; decide)
  rw [hplayed] at hback
  exact ⟨tr, g, hrun, hback⟩

/-- The settings of a node with whole frames. -/
theorem wholeFrames_node (hlib : lib.Lawful) {o : Options} (ho : o.Admitted) {hw : AlsaGrant}
    (hset : nodeSettings lib o hw = some set) (hone : 1 ≤ set.channels)
    (hchannels : set.channels < 2 ^ 10) (hdata : set.dataLen < 2 ^ 16)
    (hperiod : set.dataLen = sampleBytes set.bitDepth * set.channels * set.framesPerPdu) :
    WholeFrames lib set := by
  have hspec := nodeSettings_spec hset
  have hbits : set.bitDepth = 16 ∨ set.bitDepth = 24 ∨ set.bitDepth = 32 := by
    rw [hspec.bitDepth]
    rcases ho.checked.bitDepth with h | h | h <;> rw [h] <;> decide
  refine ⟨hbits, hone, ?_, hperiod, ?_, ?_⟩
  · have hbytes : sampleBytes set.bitDepth ≤ 4 := by
      rcases hbits with h | h | h <;> rw [h] <;> decide
    have hprod := Nat.mul_le_mul_right set.channels hbytes
    omega
  · rw [hspec.pduSize, hlib.sizeofStreamPdu_eq]
    exact u32_of_lt (by omega)
  · rw [hspec.sampleRate]
    exact u32_lt _

/-- **From the microphone to the file.**  Over a network that loses no datagram,
with at least one channel, channels that fit 10 bits, a data length that fits 16
bits and the period granted as requested, in every run in which the talker sends
whole blocks and the listener neither fails nor discards a packet as late, a
recording of less than `2 ^ 32` bytes reads back as the first blocks captured, as
many as have been played. -/
theorem recording_captured (hlib : lib.Lawful) {o : Options} (ho : o.Admitted) {hw : AlsaGrant}
    (hset : nodeSettings lib o hw = some set) (hone : 1 ≤ set.channels)
    (hchannels : set.channels < 2 ^ 10) (hdata : set.dataLen < 2 ^ 16)
    (hperiod : set.dataLen = sampleBytes set.bitDepth * set.channels * set.framesPerPdu)
    (hrun : (stream lib set true .faithful).Run tr g)
    (hsends : Machine.All (Machine.OnSend (SendsBlock lib set)) tr)
    (hkeeps : Machine.All (Machine.OnReceive (LosesNothing lib set true)) tr)
    (hfits : 36 + (playedBuffers g.receiver.state.loop.log).flatten.length < 2 ^ 32) :
    ReadsBack set g.receiver.state.loop.log
      ((capturedBlocks set (Machine.plain (Machine.senderPart tr))).take
        (playedBuffers g.receiver.state.loop.log).length).flatten := by
  have hframes := wholeFrames_node hlib ho hset hone hchannels hdata hperiod
  rw [capturedBlocks_split hlib ho hset hchannels hdata hrun hsends hkeeps, List.append_assoc,
    List.take_left]
  exact (recordInv_run hframes.pduSize (o := g.receiver) hrun.link_receiver).readsBack hframes hfits

end Runs

/-- Of two blocks captured the first one has been played. -/
theorem recording_captured_mono :
    ∃ tr g, (stream ieee1722 monoSettings true .faithful).Run tr g ∧
      ReadsBack monoSettings g.receiver.state.loop.log ([[1, 2], [3, 4]].take 1).flatten := by
  obtain ⟨tr, g, hrun, hsends, hkeeps, hplayed, hqueue, hflight⟩ := monoStream_run
  have hback := recording_captured ieee1722_lawful monoOptions_admitted monoSettings_node
    (by decide) (by decide) (by decide) (by decide) hrun hsends hkeeps (by rw [hplayed]; decide)
  rw [capturedBlocks_split ieee1722_lawful monoOptions_admitted monoSettings_node (by decide)
    (by decide) hrun hsends hkeeps, hplayed, hqueue, hflight] at hback
  exact ⟨tr, g, hrun, hback⟩

end Tram
