/-
Tram/Agreement.lean

What it means for a listener to accept a talker's packets.

Both ends go from options through ALSA to settings on their own.  The talker
writes its settings into fields that mask them; the listener compares the
fields with its own settings at full width (`StreamHeader.accepted_iff`).  So
acceptance says that the listener's settings are the masked settings of the
talker, and a talker whose channels or data length do not fit their fields is
rejected even by a listener with the same settings.
-/
import Tram.Ieee1722
import Tram.Talker

namespace Tram

variable {lib : Libavtp} {set set' : StreamSettings}

/-! ### Acceptance of a header -/

/-- A packet of the stream `set` passes the checks of a listener configured as
`set'` exactly when the compared settings agree once masked. -/
theorem StreamHeader.accepted_iff (hlib : lib.Lawful) {pdu : Bytes} {seq : ℕ}
    (h : StreamHeader lib set pdu) (hseq : lib.aafPduGet pdu .seqNum = some seq) (e : ℕ) :
    (isValidPacket lib set' pdu e).1 = .ok () ↔
      set.streamId % 2 ^ 64 = set'.streamId ∧ set.aafBitDepth % 2 ^ 8 = set'.aafBitDepth ∧
        set.aafSampleRate % 2 ^ 4 = set'.aafSampleRate ∧ set.channels % 2 ^ 10 = set'.channels ∧
        set.bitDepth % 2 ^ 8 = set'.bitDepth ∧ set.dataLen % 2 ^ 16 = set'.dataLen := by
  have hsp : lib.spNormal % 2 ^ 1 = lib.spNormal := Nat.mod_eq_of_lt hlib.spNormal_lt
  -- every field compared is one that `init_pdu` set
  have hfield : ∀ f v w, (f, v) ∈ initFields lib set →
      (lib.aafPduGet pdu f = some w ↔ v % 2 ^ f.width = w) := by
    intro f v w hmem
    rw [h.fields f v hmem, Option.some_inj]
  rw [isValidPacket_eq_ok, checkStream_eq_ok, checkFormat_eq_ok,
    hfield .tv 1 _ (by simp [initFields]), hfield .sp lib.spNormal _ (by simp [initFields]),
    hfield .streamId set.streamId _ (by simp [initFields]),
    hfield .format set.aafBitDepth _ (by simp [initFields]),
    hfield .nsr set.aafSampleRate _ (by simp [initFields]),
    hfield .chanPerFrame set.channels _ (by simp [initFields]),
    hfield .bitDepth set.bitDepth _ (by simp [initFields]),
    hfield .streamDataLen set.dataLen _ (by simp [initFields])]
  simp only [h.subtype, h.version, hseq, AafField.width, hsp, true_and]
  constructor
  · rintro ⟨⟨-, hid⟩, -, hrest⟩
    exact ⟨hid, hrest⟩
  · rintro ⟨hid, hrest⟩
    exact ⟨⟨rfl, hid⟩, ⟨seq, rfl⟩, hrest⟩

/-- Such a packet makes its number the last one seen, accepted or not, when it
belongs to the stream. -/
theorem StreamHeader.checkStream_ok (hlib : lib.Lawful) {pdu : Bytes}
    (h : StreamHeader lib set pdu) (hid : set.streamId < 2 ^ 64) :
    checkStream lib set pdu = .ok () := by
  have htv := h.fields .tv 1 (by simp [initFields])
  have hsp := h.fields .sp lib.spNormal (by simp [initFields])
  have hstream := h.fields .streamId set.streamId (by simp [initFields])
  rw [Nat.mod_eq_of_lt hlib.spNormal_lt] at hsp
  rw [AafField.width, Nat.mod_eq_of_lt hid] at hstream
  exact checkStream_eq_ok.mpr ⟨h.subtype, h.version, htv, hsp, hstream⟩

/-! ### Settings of admitted options -/

/-- The settings of a node fit the fields they are stored in, except for the
channels and the data length. -/
structure FieldsFit (set : StreamSettings) : Prop where
  streamId : set.streamId < 2 ^ 64
  bitDepth : set.bitDepth < 2 ^ 8
  aafBitDepth : set.aafBitDepth < 2 ^ 8
  aafSampleRate : set.aafSampleRate < 2 ^ 4

theorem nodeSettings_fieldsFit (hlib : lib.Lawful) {o : Options} (ho : o.Admitted)
    {hw : AlsaGrant} (hset : nodeSettings lib o hw = some set) : FieldsFit set := by
  have hspec := nodeSettings_spec hset
  refine ⟨?_, ?_, ?_, ?_⟩
  · rw [hspec.streamId]
    exact ho.checked.streamId
  · rw [hspec.bitDepth]
    rcases ho.checked.bitDepth with h | h | h <;> rw [h] <;> decide
  · rw [hspec.aafBitDepth]
    exact bitDepthToAaf_lt hlib _
  · rw [hspec.aafSampleRate]
    exact sampleRateToAaf_lt hlib _

/-- The settings that a PDU carries are those of the listener, once channels
and data length are masked to their fields. -/
structure CarriedAs (set set' : StreamSettings) : Prop where
  streamId : set.streamId = set'.streamId
  aafBitDepth : set.aafBitDepth = set'.aafBitDepth
  aafSampleRate : set.aafSampleRate = set'.aafSampleRate
  channels : set.channels % 2 ^ 10 = set'.channels
  bitDepth : set.bitDepth = set'.bitDepth
  dataLen : set.dataLen % 2 ^ 16 = set'.dataLen

/-- For a talker whose settings fit their fields, acceptance is agreement of
the settings carried. -/
theorem StreamHeader.accepted_iff_of_fit (hlib : lib.Lawful) {pdu : Bytes} {seq : ℕ}
    (h : StreamHeader lib set pdu) (hseq : lib.aafPduGet pdu .seqNum = some seq)
    (hfit : FieldsFit set) (e : ℕ) :
    (isValidPacket lib set' pdu e).1 = .ok () ↔ CarriedAs set set' := by
  rw [h.accepted_iff hlib hseq, Nat.mod_eq_of_lt hfit.streamId, Nat.mod_eq_of_lt hfit.aafBitDepth,
    Nat.mod_eq_of_lt hfit.aafSampleRate, Nat.mod_eq_of_lt hfit.bitDepth]
  constructor
  · rintro ⟨hid, hformat, hrate, hchannels, hbits, hdata⟩
    exact ⟨hid, hformat, hrate, hchannels, hbits, hdata⟩
  · rintro ⟨hid, hformat, hrate, hchannels, hbits, hdata⟩
    exact ⟨hid, hformat, hrate, hchannels, hbits, hdata⟩

/-! ### A listener and its own talker -/

/-- **A talker and a listener with the same settings.**  Every packet the
talker sends is accepted when the channels fit 10 bits and the data length
fits 16 bits, and the expected number becomes the one after its own; when they
do not fit, every packet is rejected. -/
theorem talkerLoop_accepted (hlib : lib.Lawful) {o : Options} (ho : o.Admitted) {hw : AlsaGrant}
    (hset : nodeSettings lib o hw = some set) {tr : List (TalkerState × TalkerInput)}
    {s : TalkerState} (hrun : (talkerLoop lib set).Run tr s) {k : ℕ} {pdu : Bytes}
    (hsent : (sentPdus s.log)[k]? = some pdu) (e : ℕ) :
    (set.channels < 2 ^ 10 → set.dataLen < 2 ^ 16 →
        isValidPacket lib set pdu e = (.ok (), (k + 1) % 256)) ∧
      (lib.sizeofStreamPdu ≤ set.pduSize → ¬ (set.channels < 2 ^ 10 ∧ set.dataLen < 2 ^ 16) →
        (isValidPacket lib set pdu e).1 ≠ .ok ()) := by
  have hfields := nodeSettings_fieldsFit hlib ho hset
  have hspec := nodeSettings_spec hset
  constructor
  · intro hchannels hdata
    have hroom : lib.sizeofStreamPdu ≤ set.pduSize := by
      rw [hspec.pduSize, hlib.sizeofStreamPdu_eq, u32_of_lt (by omega)]
      omega
    obtain ⟨hheader, hseq⟩ := (talkerInv_run hlib hroom hrun).sent k pdu hsent
    have hok : (isValidPacket lib set pdu e).1 = .ok () := by
      rw [hheader.accepted_iff_of_fit hlib hseq hfields]
      exact ⟨rfl, rfl, rfl, Nat.mod_eq_of_lt hchannels, rfl, Nat.mod_eq_of_lt hdata⟩
    have hnext : (isValidPacket lib set pdu e).2 = (k + 1) % 256 := by
      rw [isValidPacket_seq (hheader.checkStream_ok hlib hfields.streamId) hseq, u8]
      omega
    exact Prod.ext hok hnext
  · intro hroom hwide hok
    obtain ⟨hheader, hseq⟩ := (talkerInv_run hlib hroom hrun).sent k pdu hsent
    rw [hheader.accepted_iff_of_fit hlib hseq hfields] at hok
    obtain ⟨-, -, -, hchannels, -, hdata⟩ := hok
    omega

/-- Some run sends a packet: a first iteration in which the sound card stores
nothing and the clock can be read. -/
theorem talkerLoop_sends (hlib : lib.Lawful) (hroom : lib.sizeofStreamPdu ≤ set.pduSize) :
    ∃ tr s pdu, (talkerLoop lib set).Run tr s ∧ (sentPdus s.log)[0]? = some pdu := by
  have hbuffer : (List.replicate set.pduSize (0 : UInt8)).length = set.pduSize :=
    List.length_replicate
  obtain ⟨pdu, hinit, hlen, -⟩ := initPdu_spec hlib set (hbuffer.symm ▸ hroom)
  have hstart : (talkerLoop lib set).Run [] ⟨pdu, 0, none, []⟩ := .start ⟨_, pdu, hbuffer, hinit, rfl⟩
  have hread : ∃ s₁, avbAlsaRead lib set ⟨0, [], some ⟨0, 0⟩, 0, none⟩ ⟨pdu, 0, none, []⟩ = .ok s₁ := by
    simp only [avbAlsaRead, storedBytes, List.take_nil, List.length_nil]
    rw [if_neg (by omega)]
    exact ⟨_, rfl⟩
  obtain ⟨s₁, hs₁⟩ := hread
  have hlen₁ : lib.sizeofStreamPdu ≤ s₁.pdu.length := by
    rw [(avbAlsaRead_ok hs₁).1]
    exact (hlen.trans hbuffer).symm ▸ hroom
  have hnone : sentPdus s₁.log = [] := (avbAlsaRead_ok hs₁).2.2.2.2.1
  have hiter : talkerIteration lib set ⟨0, [], some ⟨0, 0⟩, 0, none⟩ ⟨pdu, 0, none, []⟩
      = .ok (stampAndSend lib set ⟨0, [], some ⟨0, 0⟩, 0, none⟩ s₁) := by
    rw [talkerIteration, hs₁]
    rfl
  rcases stampAndSend_cases set hlib ⟨0, [], some ⟨0, 0⟩, 0, none⟩ hlen₁ with
    ⟨hclock, -⟩ | ⟨_, _, pdu₂, _, -, -, heq⟩
  · cases hclock
  · refine ⟨_, _, pdu₂, hstart.next ⟨rfl, hiter⟩, ?_⟩
    rw [heq, sentPdus_append, hnone]
    rfl

/-- A node with the defaults, granted what it requests. -/
theorem exists_interfaceSettings (name : String) :
    ∃ set, nodeSettings ieee1722 (interfaceOptions name) ⟨0, 0, 48000, 128⟩ = some set ∧
      NodeSettingsSpec ieee1722 (interfaceOptions name) ⟨0, 0, 48000, 128⟩ set :=
  exists_nodeSettings (by decide) (by decide) (by decide : IsInt ((16 + 7) / 8 * 2))
    (by decide : sampleBytes (intToU32 16) * intToU32 2 * intToU32 128 < 2 ^ 32)

/-- More channels than the field for them can carry. -/
def wideOptions : Options := { interfaceOptions "eth0" with channels := 1024, hwLatency := 1 }

theorem wideOptions_admitted : wideOptions.Admitted :=
  ⟨[.ifname "eth0", .channels 1024, .hwLatency 1], rfl⟩

/-- 1024 channels do not fit 10 bits. -/
theorem talkerLoop_accepted_wide :
    ¬ ∀ (o : Options) (hw : AlsaGrant) (set : StreamSettings), o.Admitted → 0 < o.channels →
      nodeSettings ieee1722 o hw = some set →
      ∀ (tr : List (TalkerState × TalkerInput)) (s : TalkerState),
        (talkerLoop ieee1722 set).Run tr s → ∀ (k : ℕ) (pdu : Bytes),
        (sentPdus s.log)[k]? = some pdu → ∀ e : ℕ,
        isValidPacket ieee1722 set pdu e = (.ok (), (k + 1) % 256) := by
  intro h
  obtain ⟨set, hset, hspec⟩ := @exists_nodeSettings ieee1722 wideOptions ⟨0, 0, 48000, 1⟩
    (by decide) (by decide) (by decide) (by decide)
  have hroom : ieee1722.sizeofStreamPdu ≤ set.pduSize := by
    rw [hspec.pduSize, hspec.dataLen]
    decide
  obtain ⟨tr, s, pdu, hrun, hsent⟩ := talkerLoop_sends ieee1722_lawful hroom
  have hok := congrArg Prod.fst
    (h wideOptions _ set wideOptions_admitted (by decide) hset tr s hrun 0 pdu hsent 0)
  obtain ⟨hheader, hseq⟩ := (talkerInv_run ieee1722_lawful hroom hrun).sent 0 pdu hsent
  obtain ⟨-, -, -, hchannels, -⟩ := (hheader.accepted_iff_of_fit ieee1722_lawful hseq
    (nodeSettings_fieldsFit ieee1722_lawful wideOptions_admitted hset) 0).mp hok
  rw [hspec.channels] at hchannels
  exact absurd hchannels (by decide)

theorem talkerLoop_accepted_defaults :
    ∃ set, nodeSettings ieee1722 (interfaceOptions "eth0") ⟨0, 0, 48000, 128⟩ = some set ∧
      ∃ tr s pdu, (talkerLoop ieee1722 set).Run tr s ∧ (sentPdus s.log)[0]? = some pdu ∧
        ∀ e, isValidPacket ieee1722 set pdu e = (.ok (), 1) := by
  obtain ⟨set, hset, hspec⟩ := exists_interfaceSettings "eth0"
  have hroom : ieee1722.sizeofStreamPdu ≤ set.pduSize := by
    rw [hspec.pduSize, hspec.dataLen]
    decide
  obtain ⟨tr, s, pdu, hrun, hsent⟩ := talkerLoop_sends ieee1722_lawful hroom
  refine ⟨set, hset, tr, s, pdu, hrun, hsent, fun e => ?_⟩
  refine (talkerLoop_accepted ieee1722_lawful (interfaceOptions_admitted "eth0") hset hrun hsent
    e).1 ?_ ?_
  · rw [hspec.channels]
    decide
  · rw [hspec.dataLen]
    decide

/-! ### Two ends with settings of their own -/

/-- The sample rates with a code of their own. -/
def standardRates : List ℤ := [44100, 48000, 96000, 192000]

/-- Standard rates have different codes. -/
theorem sampleRateToAaf_inj (hlib : lib.Lawful) {r r' : ℤ} (hr : r ∈ standardRates)
    (hr' : r' ∈ standardRates) (h : sampleRateToAaf lib r = sampleRateToAaf lib r') : r = r' := by
  have hnodup := hlib.nsr_nodup
  simp only [List.nodup_cons, List.mem_cons, List.not_mem_nil, or_false, not_or, not_false_eq_true,
    List.nodup_nil, and_true] at hnodup
  simp only [standardRates, List.mem_cons, List.not_mem_nil, or_false] at hr hr'
  rcases hr with rfl | rfl | rfl | rfl <;> rcases hr' with rfl | rfl | rfl | rfl <;>
    simp_all [sampleRateToAaf]

/-- ALSA granted the requested sample rate. -/
def RateGranted (o : Options) (hw : AlsaGrant) : Prop := (hw.rate : ℤ) = o.sampleRate

/-- ALSA granted the requested period. -/
def PeriodGranted (o : Options) (hw : AlsaGrant) : Prop := u64 hw.period = intToU32 o.hwLatency

/-- A stamped and numbered packet is still a packet of its stream. -/
theorem StreamHeader.stamped (hlib : lib.Lawful) {p q : Bytes} {stamp seq : ℕ}
    (h : StreamHeader lib set p) (hlen : lib.sizeofStreamPdu ≤ p.length)
    (hset : setFields lib p [(.timestamp, stamp), (.seqNum, seq)] = some q) :
    StreamHeader lib set q ∧ lib.aafPduGet q .seqNum = some (seq % 2 ^ 8) := by
  obtain ⟨q', hq', -, -, hget, hother, hcommon⟩ :=
    setFields_spec hlib [(.timestamp, stamp), (.seqNum, seq)] p hlen (by simp)
  obtain rfl : q' = q := Option.some.inj (hq'.symm.trans hset)
  refine ⟨⟨?_, ?_, fun f v hmem => ?_⟩, hget .seqNum seq (by simp)⟩
  · rw [hcommon, h.subtype]
  · rw [hcommon, h.version]
  · have hf : f ∉ [AafField.timestamp, AafField.seqNum] := by
      intro hf
      simp only [List.mem_cons, List.not_mem_nil, or_false] at hf
      rcases hf with rfl | rfl <;> simp [initFields] at hmem
    rw [hother f hf, h.fields f v hmem]

/-- **What acceptance says about two configurations.**  Stream id, bit depth
and rate code are equal, channels and data length are those of the talker
masked to their fields.  So the channels are equal when the talker's fit 10
bits, the sample rates when both are standard rates granted as requested, and
the periods when both are granted as requested and the talker's positive
channels and data length fit their fields. -/
theorem accepted_agreement (hlib : lib.Lawful) {o o' : Options} (ho : o.Admitted)
    {hw hw' : AlsaGrant} (hset : nodeSettings lib o hw = some set)
    (hset' : nodeSettings lib o' hw' = some set') {buffer pdu₀ pdu : Bytes} {stamp seq e : ℕ}
    (hbuffer : lib.sizeofStreamPdu ≤ buffer.length) (hinit : initPdu lib buffer set = some pdu₀)
    (hstamp : setFields lib pdu₀ [(.timestamp, stamp), (.seqNum, seq)] = some pdu)
    (hok : (isValidPacket lib set' pdu e).1 = .ok ()) :
    set'.streamId = set.streamId ∧ set'.bitDepth = set.bitDepth ∧
      set'.aafSampleRate = set.aafSampleRate ∧ set'.channels = set.channels % 2 ^ 10 ∧
      set'.dataLen = set.dataLen % 2 ^ 16 ∧
      (set.channels < 2 ^ 10 → set'.channels = set.channels) ∧
      (o.sampleRate ∈ standardRates → o'.sampleRate ∈ standardRates → RateGranted o hw →
        RateGranted o' hw' → set'.sampleRate = set.sampleRate) ∧
      (PeriodGranted o hw → PeriodGranted o' hw' → 0 < set.channels → set.channels < 2 ^ 10 →
        set.dataLen < 2 ^ 16 → set'.framesPerPdu = set.framesPerPdu) := by
  have hspec := nodeSettings_spec hset
  have hspec' := nodeSettings_spec hset'
  obtain ⟨q, hq, hlen, hheader⟩ := initPdu_spec hlib set hbuffer
  obtain rfl : q = pdu₀ := Option.some.inj (hq.symm.trans hinit)
  obtain ⟨hheader', hseq⟩ := hheader.stamped hlib (hlen.symm ▸ hbuffer) hstamp
  obtain ⟨hid, -, hrate, hchannels, hbits, hdata⟩ :=
    (hheader'.accepted_iff_of_fit hlib hseq (nodeSettings_fieldsFit hlib ho hset) e).mp hok
  refine ⟨hid.symm, hbits.symm, hrate.symm, hchannels.symm, hdata.symm, fun hlt => ?_,
    fun hr hr' hg hg' => ?_, fun hp hp' hpos hlt hfit => ?_⟩
  · rw [← hchannels, Nat.mod_eq_of_lt hlt]
  · rw [hspec.aafSampleRate, hspec'.aafSampleRate] at hrate
    have heq : (hw.rate : ℤ) = hw'.rate := by rw [hg, hg', sampleRateToAaf_inj hlib hr hr' hrate]
    rw [hspec.sampleRate, hspec'.sampleRate, Int.ofNat_inj.mp heq]
  · -- equal data lengths of equal, positive frames
    rw [Nat.mod_eq_of_lt hlt] at hchannels
    rw [Nat.mod_eq_of_lt hfit] at hdata
    have hframe : 0 < sampleBytes set.bitDepth * set.channels := by
      refine Nat.mul_pos ?_ hpos
      rw [hspec.bitDepth]
      rcases ho.checked.bitDepth with h | h | h <;> rw [h] <;> decide
    rw [hspec.dataLen, hspec'.dataLen, ← hspec.bitDepth, ← hspec'.bitDepth, ← hspec.channels,
      ← hspec'.channels, ← hbits, ← hchannels] at hdata
    rw [hspec.framesPerPdu, hspec'.framesPerPdu, hp, hp']
    exact (Nat.eq_of_mul_eq_mul_left hframe hdata).symm

/-- A talker whose masked settings are those of a listener builds a packet that
the listener accepts. -/
theorem exists_accepted (hlib : lib.Lawful) (hfit : FieldsFit set) (hcarried : CarriedAs set set')
    (stamp seq e : ℕ) :
    ∃ buffer pdu₀ pdu, lib.sizeofStreamPdu ≤ buffer.length ∧ initPdu lib buffer set = some pdu₀ ∧
      setFields lib pdu₀ [(.timestamp, stamp), (.seqNum, seq)] = some pdu ∧
      (isValidPacket lib set' pdu e).1 = .ok () := by
  have hbuffer : lib.sizeofStreamPdu ≤ (List.replicate lib.sizeofStreamPdu (0 : UInt8)).length :=
    List.length_replicate.ge
  obtain ⟨pdu₀, hinit, hlen, hheader⟩ := initPdu_spec hlib set hbuffer
  have hpdu₀ : lib.sizeofStreamPdu ≤ pdu₀.length := hlen.symm ▸ hbuffer
  obtain ⟨pdu, hpdu, -⟩ :=
    setFields_spec hlib [(.timestamp, stamp), (.seqNum, seq)] pdu₀ hpdu₀ (by simp)
  obtain ⟨hheader', hseq⟩ := hheader.stamped hlib hpdu₀ hpdu
  exact ⟨_, pdu₀, pdu, hbuffer, hinit, hpdu,
    (hheader'.accepted_iff_of_fit hlib hseq hfit e).mpr hcarried⟩

/-- Two nodes with the same stream, depth, rate code and latency, and few
channels. -/
theorem carriedAs_of_options {o o' : Options} {hw hw' : AlsaGrant}
    (hspec : NodeSettingsSpec lib o hw set) (hspec' : NodeSettingsSpec lib o' hw' set')
    (hid : o.streamId = o'.streamId) (hbits : o.bitDepth = o'.bitDepth)
    (hrate : sampleRateToAaf lib o.sampleRate = sampleRateToAaf lib o'.sampleRate)
    (hchannels : o.channels = o'.channels) (hlatency : o.hwLatency = o'.hwLatency)
    (hfew : intToU32 o.channels < 2 ^ 10)
    (hshort : sampleBytes (intToU32 o.bitDepth) * intToU32 o.channels * intToU32 o.hwLatency
      < 2 ^ 16) : CarriedAs set set' where
  streamId := by rw [hspec.streamId, hspec'.streamId, hid]
  aafBitDepth := by rw [hspec.aafBitDepth, hspec'.aafBitDepth, hbits]
  aafSampleRate := by rw [hspec.aafSampleRate, hspec'.aafSampleRate, hrate]
  channels := by rw [hspec.channels, hspec'.channels, Nat.mod_eq_of_lt hfew, hchannels]
  bitDepth := by rw [hspec.bitDepth, hspec'.bitDepth, hbits]
  dataLen := by
    rw [hspec.dataLen, hspec'.dataLen, Nat.mod_eq_of_lt hshort, hbits, hchannels, hlatency]

/-- A talker at a rate without a code of its own. -/
def otherRateOptions : Options := { interfaceOptions "eth0" with sampleRate := 22050 }

theorem otherRateOptions_admitted : otherRateOptions.Admitted :=
  ⟨[.ifname "eth0", .sampleRate 22050], rfl⟩

/-- 22050 Hz is sent with the code of 48 kHz. -/
theorem accepted_agreement_otherRate :
    ¬ ∀ (o o' : Options) (hw hw' : AlsaGrant) (set set' : StreamSettings), o.Admitted →
      o'.Admitted → nodeSettings ieee1722 o hw = some set → nodeSettings ieee1722 o' hw' = some set' →
      ∀ (buffer pdu₀ pdu : Bytes) (stamp seq e : ℕ), ieee1722.sizeofStreamPdu ≤ buffer.length →
        initPdu ieee1722 buffer set = some pdu₀ →
        setFields ieee1722 pdu₀ [(.timestamp, stamp), (.seqNum, seq)] = some pdu →
        (isValidPacket ieee1722 set' pdu e).1 = .ok () →
        set'.streamId = set.streamId ∧ set'.sampleRate = set.sampleRate ∧
          set'.bitDepth = set.bitDepth ∧ set'.channels = set.channels ∧
          set'.framesPerPdu = set.framesPerPdu := by
  intro h
  obtain ⟨set, hset, hspec⟩ := @exists_nodeSettings ieee1722 otherRateOptions ⟨0, 0, 22050, 128⟩
    (by decide) (by decide) (by decide) (by decide)
  obtain ⟨set', hset', hspec'⟩ := exists_interfaceSettings "eth0"
  obtain ⟨buffer, pdu₀, pdu, hbuffer, hinit, hpdu, hok⟩ := exists_accepted ieee1722_lawful
    (nodeSettings_fieldsFit ieee1722_lawful otherRateOptions_admitted hset)
    (carriedAs_of_options hspec hspec' rfl rfl (by decide) rfl rfl (by decide) (by decide)) 0 0 0
  obtain ⟨-, hrate, -⟩ := h _ _ _ _ set set' otherRateOptions_admitted
    (interfaceOptions_admitted "eth0") hset hset' buffer pdu₀ pdu 0 0 0 hbuffer hinit hpdu hok
  rw [hspec.sampleRate, hspec'.sampleRate] at hrate
  exact absurd hrate (by decide)

/-- A talker and a listener on two interfaces, both with the defaults. -/
theorem accepted_agreement_defaults :
    ∃ set set', nodeSettings ieee1722 (interfaceOptions "eth0") ⟨0, 0, 48000, 128⟩ = some set ∧
      nodeSettings ieee1722 (interfaceOptions "eth1") ⟨0, 0, 48000, 128⟩ = some set' ∧
      set'.streamId = set.streamId ∧ set'.sampleRate = set.sampleRate ∧
      set'.bitDepth = set.bitDepth ∧ set'.channels = set.channels ∧
      set'.framesPerPdu = set.framesPerPdu := by
  obtain ⟨set, hset, hspec⟩ := exists_interfaceSettings "eth0"
  obtain ⟨set', hset', hspec'⟩ := exists_interfaceSettings "eth1"
  have hadmitted := interfaceOptions_admitted "eth0"
  obtain ⟨buffer, pdu₀, pdu, hbuffer, hinit, hpdu, hok⟩ := exists_accepted ieee1722_lawful
    (nodeSettings_fieldsFit ieee1722_lawful hadmitted hset)
    (carriedAs_of_options hspec hspec' rfl rfl (by decide) rfl rfl (by decide) (by decide)) 0 0 0
  obtain ⟨hid, hbits, -, -, -, hchannels, hrate, hperiod⟩ :=
    accepted_agreement ieee1722_lawful hadmitted hset hset' hbuffer hinit hpdu hok
  have hfew : set.channels = 2 := hspec.channels.trans (by decide)
  have hshort : set.dataLen < 2 ^ 16 := by
    rw [hspec.dataLen]
    decide
  exact ⟨set, set', hset, hset', hid, hrate (by decide) (by decide) rfl rfl, hbits,
    hchannels (by omega), hperiod rfl rfl (by omega) (by omega) hshort⟩

end Tram
