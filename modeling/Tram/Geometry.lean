/-
Tram/Geometry.lean

The sizes of the buffers and the period of the sound card.

One period is one PDU: the payload, the queue entry, the capture and the two
writes of a fragment are all meant to be `frames_per_pdu` frames.  The data
length is computed from the requested period and never again, so the sizes
agree exactly when ALSA grants the requested period (`GeometryFits`, which
also lists the overflows).
-/
import Tram.Playback
import Tram.Talker
import Tram.Wav

namespace Tram

variable {lib : Libavtp} {set : StreamSettings} {recording : Bool}

/-! ### What is to agree -/

/-- Buffer and frame count of a fragment that is played or recorded. -/
def Event.fragment : Event → Option (Bytes × ℕ)
  | .writei buffer frames _ => some (buffer, frames)
  | .wavWrite buffer frames => some (buffer, frames)
  | _ => none

/-- The queue entries and the fragments of a state of the listener are of the
data length, and the fragments are of one period. -/
def FragmentsAgree (set : StreamSettings) (s : ListenerState) : Prop :=
  (∀ entry ∈ s.samples, entry.pcmSample.length = set.dataLen) ∧
    ∀ e ∈ s.log, ∀ buffer frames, e.fragment = some (buffer, frames) →
      buffer.length = set.dataLen ∧ frames = u32 set.framesPerPdu

/-- The sizes in the settings agree with each other and with every buffer the
talker and the listener use in a run. -/
structure GeometryAgrees (lib : Libavtp) (set : StreamSettings) : Prop where
  dataLen : set.dataLen = sampleBytes set.bitDepth * set.channels * set.framesPerPdu
  pduSize : set.pduSize = lib.sizeofStreamPdu + set.dataLen
  /-- The reads of the talker end exactly where the PDU ends. -/
  capture : ∀ tr s, (talkerLoop lib set).Run tr s →
    (∀ inp, talkerIteration lib set inp s ≠ .error .bufferOverflow) ∧
      ∀ extent rc, .readi extent rc ∈ s.log → lib.sizeofStreamPdu + extent = s.pdu.length
  /-- The buffers of the listener have the data length. -/
  fragments : ∀ recording tr s, (listenerLoop lib set recording).Run tr s → FragmentsAgree set s
  /-- `avb_alsa_write` reads the data length. -/
  playback : alsaFrameBytes set * u32 set.framesPerPdu = set.dataLen
  /-- `wav_write` reads the data length. -/
  recorder : wavWriteBytes (setupWavRecorder set) (u32 set.framesPerPdu) = set.dataLen

/-- The conditions on options and grant under which the sizes agree. -/
structure GeometryFits (lib : Libavtp) (o : Options) (hw : AlsaGrant) : Prop where
  /-- The data length of `main` is an `int`. -/
  conversion : IsInt ((o.bitDepth + 7) / 8 * o.channels)
  /-- The PDU size is a 32-bit word. -/
  size : lib.sizeofStreamPdu
    + sampleBytes (intToU32 o.bitDepth) * intToU32 o.channels * intToU32 o.hwLatency < 2 ^ 32
  /-- ALSA grants the requested period. -/
  period : intToU32 o.channels = 0 ∨ u64 hw.period = intToU32 o.hwLatency
  /-- One frame fits the 16-bit block size of a WAV file. -/
  block : intToU32 o.channels = 0 ∨ u64 hw.period = 0 ∨
    sampleBytes (intToU32 o.bitDepth) * intToU32 o.channels < 2 ^ 16

/-! ### The buffers of the listener -/

/-- A full PDU carries a payload of the data length. -/
theorem entryOf_length {inp : PacketInput} {arrival tspec : Timespec} {pdu : Bytes}
    (hsize : set.pduSize = lib.sizeofStreamPdu + set.dataLen)
    (hdel : Delivers set inp arrival pdu) :
    (entryOf lib set tspec pdu).pcmSample.length = set.dataLen := by
  have hlen := hdel.length
  simp only [entryOf, List.length_take, List.length_drop]
  omega

theorem fragmentsAgree_init : FragmentsAgree set listenerInit := by
  constructor
  · intro entry hmem
    cases hmem
  · intro e hmem
    cases hmem

theorem FragmentsAgree.socketStep {inp : IterInput} {s s' : ListenerState}
    (hsize : set.pduSize = lib.sizeofStreamPdu + set.dataLen) (h : FragmentsAgree set s)
    (hcase : SocketCase lib set inp s s') : FragmentsAgree set s' := by
  cases hcase with
  | silent => exact h
  | packet _ hnew hrc =>
      cases newPacket_cases hnew with
      | nothing | noStamp | noNode | unscheduled => exact absurd (by decide) hrc
      | rejected | late => exact h
      | queued hval =>
          constructor
          · intro entry hmem
            rcases List.mem_append.mp hmem with hmem | hmem
            · exact h.1 entry hmem
            · rw [List.mem_singleton.mp hmem]
              exact entryOf_length hsize hval.delivers
          · intro e hmem buffer frames hfrag
            rcases List.mem_append.mp hmem with hmem | hmem
            · exact h.2 e hmem buffer frames hfrag
            · rw [List.mem_singleton.mp hmem] at hfrag
              cases hfrag

/-- The fragments of one played entry. -/
theorem fragment_playEvents {rc : ℤ} {buffer buffer' : Bytes} {frames frames' : ℕ} {e : Event}
    (hmem : e ∈ playEvents recording rc buffer frames)
    (hfrag : e.fragment = some (buffer', frames')) : buffer' = buffer ∧ frames' = frames := by
  have hcase : e = .writei buffer frames rc ∨ e = .prepare ∨ e = .wavWrite buffer frames := by
    rw [playEvents, avbAlsaWrite] at hmem
    revert hmem
    cases recording <;> split <;> simp <;> tauto
  rcases hcase with rfl | rfl | rfl
  · obtain ⟨rfl, rfl⟩ := Prod.mk.inj (Option.some.inj hfrag)
    exact ⟨rfl, rfl⟩
  · cases hfrag
  · obtain ⟨rfl, rfl⟩ := Prod.mk.inj (Option.some.inj hfrag)
    exact ⟨rfl, rfl⟩

theorem FragmentsAgree.playStep {timerReadable : Bool} {inp : IterInput} {s s' : ListenerState}
    (h : FragmentsAgree set s)
    (hcase : PlayCase recording (u32 set.framesPerPdu) timerReadable inp s s') :
    FragmentsAgree set s' := by
  cases hcase with
  | idle => exact h
  | @played entry rest timer hs =>
      have hhead : entry.pcmSample.length = set.dataLen :=
        h.1 entry (hs ▸ List.mem_cons_self)
      constructor
      · intro e hmem
        exact h.1 e (hs ▸ List.mem_cons_of_mem entry hmem)
      · intro e hmem buffer frames hfrag
        rcases List.mem_append.mp hmem with hmem | hmem
        · exact h.2 e hmem buffer frames hfrag
        · obtain ⟨rfl, rfl⟩ := fragment_playEvents hmem hfrag
          exact ⟨hhead, rfl⟩

theorem fragmentsAgree_run (hsize : set.pduSize = lib.sizeofStreamPdu + set.dataLen)
    {tr : List (ListenerState × IterInput)} {s : ListenerState}
    (hrun : (listenerLoop lib set recording).Run tr s) : FragmentsAgree set s := by
  refine hrun.invariant_of_step ?_ ?_
  · rintro s rfl
    exact fragmentsAgree_init
  · intro s inp s' h hstep
    obtain ⟨s₁, hsock, hplay⟩ := iteration_next hstep
    have h₀ : FragmentsAgree set (atPoll inp s) := h
    have h₁ : FragmentsAgree set s₁ := h₀.socketStep hsize hsock
    have h₂ : FragmentsAgree set (afterPoll inp s₁) := h₁
    exact h₂.playStep hplay

/-! ### The buffer of the talker -/

/-- A read stores at most its extent. -/
theorem storedBytes_length_le (set : StreamSettings) (inp : TalkerInput) :
    (storedBytes set inp).length ≤ readExtent set := by
  have hmin : min inp.readiRc.toNat set.framesPerPdu ≤ set.framesPerPdu := Nat.min_le_right _ _
  calc (storedBytes set inp).length
      ≤ alsaFrameBytes set * min inp.readiRc.toNat set.framesPerPdu := List.length_take_le _ _
    _ ≤ readExtent set := Nat.mul_le_mul_left _ hmin

theorem talkerIteration_no_overflow {inp : TalkerInput} {s : TalkerState}
    (hroom : lib.sizeofStreamPdu + readExtent set = s.pdu.length) :
    talkerIteration lib set inp s ≠ .error .bufferOverflow := by
  have hle := storedBytes_length_le set inp
  rw [talkerIteration, avbAlsaRead]
  dsimp only
  rw [if_neg (by omega)]
  intro h
  cases h

/-! ### When everything agrees -/

/-- The sizes agree exactly when the data length is that of the granted period,
the PDU size does not wrap and a frame fits the WAV block. -/
theorem geometryAgrees_iff (hlib : lib.Lawful)
    (hbits : set.bitDepth = 16 ∨ set.bitDepth = 24 ∨ set.bitDepth = 32)
    (hlen : set.dataLen < 2 ^ 32) :
    GeometryAgrees lib set ↔
      set.dataLen = sampleBytes set.bitDepth * set.channels * set.framesPerPdu ∧
        set.pduSize = lib.sizeofStreamPdu + set.dataLen ∧
        (set.channels = 0 ∨ u32 set.framesPerPdu = 0 ∨
          sampleBytes set.bitDepth * set.channels < 2 ^ 16) := by
  have hpos : 0 < sampleBytes set.bitDepth := by
    rcases hbits with h | h | h <;> rw [h] <;> decide
  have hframe : alsaFrameBytes set = sampleBytes set.bitDepth * set.channels := by
    rw [alsaFrameBytes, bitDepthToAlsa_bytes hbits]
  -- a positive data length makes the period a 32-bit word
  have hword : set.dataLen = sampleBytes set.bitDepth * set.channels * set.framesPerPdu →
      sampleBytes set.bitDepth * set.channels * u32 set.framesPerPdu = set.dataLen := by
    intro hdata
    rcases Nat.eq_zero_or_pos (sampleBytes set.bitDepth * set.channels) with hz | hc
    · rw [hdata, hz, Nat.zero_mul, Nat.zero_mul]
    · have hle : set.framesPerPdu ≤ sampleBytes set.bitDepth * set.channels * set.framesPerPdu :=
        Nat.le_mul_of_pos_left _ hc
      rw [u32_of_lt (by omega), hdata]
  constructor
  · intro h
    refine ⟨h.dataLen, h.pduSize, ?_⟩
    have hrec := h.recorder
    rw [setupWavRecorder_bytes hbits, ← hword h.dataLen] at hrec
    exact (block_bytes_eq_iff hpos).mp hrec
  · rintro ⟨hdata, hsize, hblock⟩
    -- the runs are covered by the two invariants
    refine ⟨hdata, hsize, fun tr s hrun => ?_, fun recording tr s => fragmentsAgree_run hsize, ?_,
      ?_⟩
    · have hinv := talkerInv_run hlib (by omega) hrun
      have hroom : lib.sizeofStreamPdu + readExtent set = s.pdu.length := by
        rw [hinv.length, hsize, readExtent, hframe, hdata]
      refine ⟨fun inp => talkerIteration_no_overflow hroom, fun extent rc hmem => ?_⟩
      rw [hinv.reads extent rc hmem, hroom]
    · rw [hframe, hword hdata]
    · rw [setupWavRecorder_bytes hbits, ← hword hdata]
      exact (block_bytes_eq_iff hpos).mpr hblock

/-- **Geometry of the buffers.**  For admitted options and any grant of ALSA,
the setup succeeds with sizes that agree exactly when no size overflows, the
granted period is the requested one and a frame fits the WAV block. -/
theorem nodeSettings_geometry_iff (hlib : lib.Lawful) {o : Options} (ho : o.Admitted)
    {hw : AlsaGrant} (hopen : 0 ≤ hw.openRc) (hparams : 0 ≤ hw.hwParamsRc) :
    (∃ set, nodeSettings lib o hw = some set ∧ GeometryAgrees lib set) ↔
      GeometryFits lib o hw := by
  have hbits : intToU32 o.bitDepth = 16 ∨ intToU32 o.bitDepth = 24 ∨ intToU32 o.bitDepth = 32 := by
    rcases ho.checked.bitDepth with h | h | h <;> rw [h] <;> decide
  have hpos : 0 < sampleBytes (intToU32 o.bitDepth) := by
    rcases hbits with h | h | h <;> rw [h] <;> decide
  constructor
  · rintro ⟨set, hset, hgeo⟩
    have hspec := nodeSettings_spec hset
    obtain ⟨hconv, hlen⟩ := (nodeSettings_isSome_iff hopen hparams).mp ⟨set, hset⟩
    obtain ⟨hdata, hsize, hblock⟩ := (geometryAgrees_iff hlib (hspec.bitDepth ▸ hbits)
      hspec.dataLen_lt).mp hgeo
    rw [hspec.bitDepth, hspec.channels, hspec.framesPerPdu] at hdata hblock
    have hperiod : intToU32 o.channels = 0 ∨ u64 hw.period = intToU32 o.hwLatency := by
      -- the data length is that of the requested period: cancel the frame
      rw [hspec.dataLen] at hdata
      rcases Nat.eq_zero_or_pos (intToU32 o.channels) with hz | hc
      · exact Or.inl hz
      · exact Or.inr (Nat.eq_of_mul_eq_mul_left (Nat.mul_pos hpos hc) hdata).symm
    refine ⟨hconv, ?_, hperiod, ?_⟩
    · rw [hspec.pduSize] at hsize
      have hlt := u32_lt (lib.sizeofStreamPdu + set.dataLen)
      rw [← hspec.dataLen]
      omega
    · rcases hperiod with hz | hp
      · exact Or.inl hz
      · rwa [hp, u32_of_lt (intToU32_lt _), ← hp] at hblock
  · rintro ⟨hconv, hsize, hperiod, hblock⟩
    obtain ⟨set, hset, hspec⟩ := @exists_nodeSettings lib _ _ hopen hparams hconv (by omega)
    refine ⟨set, hset, (geometryAgrees_iff hlib (hspec.bitDepth ▸ hbits) hspec.dataLen_lt).mpr
      ⟨?_, ?_, ?_⟩⟩
    · rw [hspec.dataLen, hspec.bitDepth, hspec.channels, hspec.framesPerPdu]
      rcases hperiod with hz | hp
      · simp [hz]
      · rw [hp]
    · rw [hspec.pduSize, hspec.dataLen, u32_of_lt hsize]
    · rw [hspec.bitDepth, hspec.channels, hspec.framesPerPdu]
      rcases hperiod with hz | hp
      · exact Or.inl hz
      · rwa [hp, u32_of_lt (intToU32_lt _), ← hp]

/-! ### A period ALSA does not grant -/

/-- The defaults request 128 frames; ALSA grants 256. -/
theorem nodeSettings_geometry_otherPeriod :
    ¬ ∀ (o : Options) (hw : AlsaGrant), o.Admitted → 0 ≤ hw.openRc → 0 ≤ hw.hwParamsRc →
      ∃ set, nodeSettings ieee1722 o hw = some set ∧ GeometryAgrees ieee1722 set := by
  intro h
  obtain ⟨set, hset, hgeo⟩ :=
    h _ ⟨0, 0, 48000, 256⟩ (interfaceOptions_admitted "eth0") (by decide) (by decide)
  have hspec := nodeSettings_spec hset
  have hdata := hgeo.dataLen
  rw [hspec.dataLen, hspec.bitDepth, hspec.channels, hspec.framesPerPdu] at hdata
  exact absurd hdata (by decide)

theorem nodeSettings_geometry_defaults :
    ∃ set, nodeSettings ieee1722 (interfaceOptions "eth0") ⟨0, 0, 48000, 128⟩ = some set ∧
      GeometryAgrees ieee1722 set :=
  (nodeSettings_geometry_iff ieee1722_lawful (interfaceOptions_admitted "eth0") (by decide)
    (by decide)).mpr ⟨by decide, by decide, by decide, by decide⟩

end Tram
