/-
Tram/Alsa.lean

Setting up the sound card (`avb_alsa.c`).

ALSA may grant another sample rate and another period than requested, so
`avb_alsa_setup` rewrites the settings afterwards: it recomputes the buffer
sizes and then stores the granted period.  The sizes are computed from the
requested `hw_latency`, before that field is overwritten.
-/
import Tram.Settings

namespace Tram

/-! ### Sample formats -/

/-- The ALSA sample formats in use. -/
inductive AlsaFormat
  | s16Le
  | s24_3Le
  | floatLe
deriving DecidableEq, Repr

/-- `bit_depth_to_alsa`. -/
def bitDepthToAlsa (bitDepth : ℕ) : AlsaFormat :=
  if bitDepth = 16 then .s16Le
  else if bitDepth = 24 then .s24_3Le
  else if bitDepth = 32 then .floatLe
  else .s16Le

/-- Bytes one sample takes in the buffers of `snd_pcm_readi` and
`snd_pcm_writei`. -/
def AlsaFormat.bytes : AlsaFormat → ℕ
  | .s16Le => 2
  | .s24_3Le => 3
  | .floatLe => 4

/-- Bytes of one ALSA frame: a sample of every channel. -/
def alsaFrameBytes (set : StreamSettings) : ℕ :=
  (bitDepthToAlsa set.bitDepth).bytes * set.channels

/-- An admitted bit depth gives ALSA samples of `ceil(bit_depth/8.0)` bytes. -/
theorem bitDepthToAlsa_bytes {b : ℕ} (h : b = 16 ∨ b = 24 ∨ b = 32) :
    (bitDepthToAlsa b).bytes = sampleBytes b := by
  rcases h with rfl | rfl | rfl <;> rfl

/-- `EPIPE`, with which ALSA reports an overrun or an underrun. -/
def epipe : ℤ := 32

/-! ### The setup -/

/-- What ALSA answers during the setup: two return codes, the rate nearest
to the requested one and the period nearest to the requested one. -/
structure AlsaGrant where
  openRc : ℤ
  hwParamsRc : ℤ
  rate : ℕ
  period : ℕ
deriving DecidableEq, Repr

/-- Ways `avb_alsa_setup` does not come back with settings. -/
inductive SetupFailure
  /-- `exit(1)`: the device could not be opened. -/
  | openFailed
  /-- `exit(1)`: the hardware parameters were refused. -/
  | hwParamsFailed
  /-- The conversion of the new data length to `uint32_t` is undefined. -/
  | conversion
deriving DecidableEq, Repr

/-- `avb_alsa_setup`. -/
def avbAlsaSetup (hw : AlsaGrant) (set : StreamSettings) : Except SetupFailure StreamSettings :=
  if hw.openRc < 0 then .error .openFailed
  else
    let set := { set with sampleRate := u32 hw.rate }
    if hw.hwParamsRc < 0 then .error .hwParamsFailed
    else
      -- still the requested latency
      match doubleToU32 (sampleBytes set.bitDepth * set.channels * set.hwLatency) with
      | none => .error .conversion
      | some dataLen =>
          let pduSize := subU32 set.pduSize set.dataLen
          .ok { set with
            dataLen := dataLen
            pduSize := u32 (pduSize + dataLen)
            hwLatency := u32 hw.period
            framesPerPdu := u64 hw.period }

/-- Everything a successful setup says about the settings it leaves. -/
theorem avbAlsaSetup_ok {hw : AlsaGrant} {set set' : StreamSettings}
    (h : avbAlsaSetup hw set = .ok set') :
    sampleBytes set.bitDepth * set.channels * set.hwLatency < 2 ^ 32 ∧
      set' = { set with
        sampleRate := u32 hw.rate
        dataLen := sampleBytes set.bitDepth * set.channels * set.hwLatency
        pduSize := u32 (subU32 set.pduSize set.dataLen
          + sampleBytes set.bitDepth * set.channels * set.hwLatency)
        hwLatency := u32 hw.period
        framesPerPdu := u64 hw.period } := by
  unfold avbAlsaSetup doubleToU32 at h
  split at h
  · cases h
  dsimp only at h
  split at h
  · cases h
  split at h
  · cases h
  · rename_i dataLen hconv
    split at hconv
    · rename_i hlt
      obtain rfl := Option.some.inj hconv
      exact ⟨hlt, (Except.ok.inj h).symm⟩
    · cases hconv

/-- The setup succeeds when ALSA does and the data length is a 32-bit word. -/
theorem avbAlsaSetup_eq_ok {hw : AlsaGrant} {set : StreamSettings} (hopen : ¬ hw.openRc < 0)
    (hparams : ¬ hw.hwParamsRc < 0)
    (hlen : sampleBytes set.bitDepth * set.channels * set.hwLatency < 2 ^ 32) :
    ∃ set', avbAlsaSetup hw set = .ok set' := by
  simp only [avbAlsaSetup, if_neg hopen, if_neg hparams, doubleToU32, if_pos hlen]
  exact ⟨_, rfl⟩

/-! ### From the options to the settings in use -/

/-- The settings a node runs with: `main`, then `avb_alsa_setup`. -/
def nodeSettings (lib : Libavtp) (o : Options) (hw : AlsaGrant) : Option StreamSettings :=
  match mainSettings lib o with
  | none => none
  | some set => (avbAlsaSetup hw set).toOption

/-- What the settings of a running node are in terms of its options. -/
structure NodeSettingsSpec (lib : Libavtp) (o : Options) (hw : AlsaGrant)
    (set : StreamSettings) : Prop where
  streamId : set.streamId = o.streamId
  sampleRate : set.sampleRate = u32 hw.rate
  bitDepth : set.bitDepth = intToU32 o.bitDepth
  channels : set.channels = intToU32 o.channels
  dataLen : set.dataLen = sampleBytes (intToU32 o.bitDepth) * intToU32 o.channels
    * intToU32 o.hwLatency
  dataLen_lt : set.dataLen < 2 ^ 32
  pduSize : set.pduSize = u32 (lib.sizeofStreamPdu + set.dataLen)
  aafSampleRate : set.aafSampleRate = sampleRateToAaf lib o.sampleRate
  aafBitDepth : set.aafBitDepth = bitDepthToAaf lib o.bitDepth
  hwLatency : set.hwLatency = u32 hw.period
  framesPerPdu : set.framesPerPdu = u64 hw.period
  maxTransitTime : set.maxTransitTime = intToU32 o.maxTransitTime

/-- The size `main` starts from cancels out of the adjusted PDU size. -/
theorem pduSize_adjust (n : ℕ) (d : ℤ) (len : ℕ) :
    u32 (subU32 (intToU32 (i32 (n + d))) (intToU32 d) + len) = u32 (n + len) := by
  unfold u32 subU32 intToU32 i32
  omega

theorem nodeSettings_spec {lib : Libavtp} {o : Options} {hw : AlsaGrant} {set : StreamSettings}
    (h : nodeSettings lib o hw = some set) : NodeSettingsSpec lib o hw set := by
  rw [nodeSettings, mainSettings] at h
  rcases hconv : doubleToInt ((o.bitDepth + 7) / 8 * o.channels) with - | d
  · simp [hconv] at h
  · simp only [hconv] at h
    rcases hsetup : avbAlsaSetup hw _ with e | set'
    · rw [hsetup] at h
      cases h
    · rw [hsetup] at h
      obtain rfl := Option.some.inj h
      obtain ⟨hlt, rfl⟩ := avbAlsaSetup_ok hsetup
      -- apart from the PDU size each field is the value assigned last
      exact {
        streamId := rfl, sampleRate := rfl, bitDepth := rfl, channels := rfl, dataLen := rfl
        dataLen_lt := hlt, pduSize := pduSize_adjust _ _ _, aafSampleRate := rfl
        aafBitDepth := rfl, hwLatency := rfl, framesPerPdu := rfl, maxTransitTime := rfl }

/-- A node gets settings exactly when no size computation is undefined. -/
theorem nodeSettings_isSome_iff {lib : Libavtp} {o : Options} {hw : AlsaGrant}
    (hopen : 0 ≤ hw.openRc) (hparams : 0 ≤ hw.hwParamsRc) :
    (∃ set, nodeSettings lib o hw = some set) ↔
      IsInt ((o.bitDepth + 7) / 8 * o.channels) ∧
        sampleBytes (intToU32 o.bitDepth) * intToU32 o.channels * intToU32 o.hwLatency < 2 ^ 32 := by
  constructor
  · rintro ⟨set, hset⟩
    have hspec := nodeSettings_spec hset
    refine ⟨?_, hspec.dataLen ▸ hspec.dataLen_lt⟩
    by_contra hconv
    simp [nodeSettings, mainSettings, doubleToInt, hconv] at hset
  · rintro ⟨hconv, hlen⟩
    have hmain : ∃ set, mainSettings lib o = some set ∧ set.bitDepth = intToU32 o.bitDepth ∧
        set.channels = intToU32 o.channels ∧ set.hwLatency = intToU32 o.hwLatency := by
      simp only [mainSettings, doubleToInt, if_pos hconv]
      exact ⟨_, rfl, rfl, rfl, rfl⟩
    obtain ⟨set, hset, hbits, hchannels, hlatency⟩ := hmain
    obtain ⟨set', hset'⟩ := @avbAlsaSetup_eq_ok hw set (by omega) (by omega)
      (by rw [hbits, hchannels, hlatency]; exact hlen)
    refine ⟨set', ?_⟩
    simp only [nodeSettings, hset, hset']
    rfl

/-- The settings of a node whose size computations are defined. -/
theorem exists_nodeSettings {lib : Libavtp} {o : Options} {hw : AlsaGrant}
    (hopen : 0 ≤ hw.openRc) (hparams : 0 ≤ hw.hwParamsRc)
    (hconv : IsInt ((o.bitDepth + 7) / 8 * o.channels))
    (hlen : sampleBytes (intToU32 o.bitDepth) * intToU32 o.channels * intToU32 o.hwLatency
      < 2 ^ 32) :
    ∃ set, nodeSettings lib o hw = some set ∧ NodeSettingsSpec lib o hw set := by
  obtain ⟨set, hset⟩ := (nodeSettings_isSome_iff hopen hparams).mpr ⟨hconv, hlen⟩
  exact ⟨set, hset, nodeSettings_spec hset⟩

end Tram
