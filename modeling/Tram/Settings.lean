/-
Tram/Settings.lean

The stream settings and where they come from (`avbperf.c`): the command line
options, their parser, and the `settings` record `main` builds from them.

An option that is converted with `atoi` carries the integer its text denotes.
The parser checks the bit depth and the priority and nothing else, so apart
from these every `int` can end up in a settings record.
-/
import Tram.Avtp
import Tram.Words

namespace Tram

/-! ### `stream_settings_t` -/

/-- `stream_settings_t`; all fields are unsigned words. -/
structure StreamSettings where
  streamId : ℕ
  sampleRate : ℕ
  bitDepth : ℕ
  channels : ℕ
  dataLen : ℕ
  pduSize : ℕ
  aafSampleRate : ℕ
  aafBitDepth : ℕ
  hwLatency : ℕ
  framesPerPdu : ℕ
  maxTransitTime : ℕ
deriving DecidableEq, Repr

/-- `ceil(bit_depth/8.0)`, the bytes of one sample. -/
def sampleBytes (bitDepth : ℕ) : ℕ := (bitDepth + 7) / 8

/-! ### The command line -/

/-- The static variables of `avbperf.c`, with `got_iface` and `got_mac`. -/
structure Options where
  ifname : String := ""
  gotIface : Bool := false
  talkerMode : Bool := false
  streamId : ℕ := 0xAABBCCDDEEFF0001
  bitDepth : ℤ := 16
  sampleRate : ℤ := 48000
  channels : ℤ := 2
  device : String := "default"
  hwLatency : ℤ := 128
  macaddr : List ℕ := [0, 0, 0, 0, 0, 0]
  gotMac : Bool := false
  priority : ℤ := 2
  maxTransitTime : ℤ := 100
  recordTime : ℤ := 0
  recordFile : String := ""

/-- One option of the command line.  Integers are the values of the decimal
texts; `streamId` and `dstAddr` carry what `sscanf` converted. -/
inductive CliOption
  | ifname (arg : String)
  | audioDevice (arg : String)
  | hwLatency (arg : ℤ)
  | talker
  | streamId (arg : Option ℕ)
  | bitDepth (arg : ℤ)
  | sampleRate (arg : ℤ)
  | channels (arg : ℤ)
  | dstAddr (arg : List ℕ)
  | prio (arg : ℤ)
  | maxTransitTime (arg : ℤ)
  | transitTime (arg : ℤ)
  | timeout (arg : ℤ)
  | file (arg : String)

/-- `atoi` on the decimal text of `x`. -/
def atoi (x : ℤ) : ℤ := i32 x

/-- `strncpy` into a buffer of `n` bytes whose last byte stays zero. -/
def strncpy (arg : String) (n : ℕ) : String := String.ofList (arg.toList.take (n - 1))

/-- `parser`, `parser_talker` and `parser_listener` on one option; an error
is the message before `exit(EXIT_FAILURE)`. -/
def parser (o : Options) : CliOption → Except String Options
  | .ifname arg => .ok { o with ifname := strncpy arg 16, gotIface := true }
  | .audioDevice arg => .ok { o with device := strncpy arg 32 }
  | .hwLatency arg => .ok { o with hwLatency := atoi arg }
  | .talker => .ok { o with talkerMode := true }
  | .streamId none => .ok o
  | .streamId (some id) => .ok { o with streamId := u64 id }
  | .bitDepth arg =>
      if atoi arg ≠ 16 ∧ atoi arg ≠ 24 ∧ atoi arg ≠ 32 then .error "Invalid bit depth"
      else .ok { o with bitDepth := atoi arg }
  | .sampleRate arg => .ok { o with sampleRate := atoi arg }
  | .channels arg => .ok { o with channels := atoi arg }
  | .dstAddr bytes =>
      if bytes.length ≠ 6 then .error "Invalid address"
      else .ok { o with macaddr := bytes.map u8, gotMac := true }
  | .prio arg =>
      if atoi arg < 0 ∨ atoi arg ≥ 7 then .error "Invalid priority"
      else .ok { o with priority := atoi arg }
  | .maxTransitTime arg => .ok { o with maxTransitTime := atoi arg }
  | .transitTime arg => .ok { o with maxTransitTime := atoi arg }
  | .timeout arg => .ok { o with recordTime := atoi arg }
  | .file arg => .ok { o with recordFile := arg }

/-- The three parsers on `ARGP_KEY_END`, which argp passes to the children
before their parent, the last one first. -/
def parserEnd (o : Options) : Except String Options :=
  if o.recordFile ≠ "" ∧ o.recordTime = 0 then
    .error "Timeout is required when recording a WAV file."
  else if o.talkerMode && !o.gotMac then .error "Mac address is mandatory"
  else if !o.gotIface then .error "Network interface is mandatory"
  else .ok o

/-- The parsers on a list of options. -/
def parseOptions (o : Options) : List CliOption → Except String Options
  | [] => parserEnd o
  | a :: rest => (parser o a).bind fun o' => parseOptions o' rest

/-- `argp_parse`. -/
def argpParse (args : List CliOption) : Except String Options := parseOptions {} args

/-- Options the parser lets through. -/
def Options.Admitted (o : Options) : Prop := ∃ args, argpParse args = .ok o

/-! ### What the parser guarantees -/

/-- What holds of the option variables throughout parsing. -/
structure Options.Checked (o : Options) : Prop where
  bitDepth : o.bitDepth = 16 ∨ o.bitDepth = 24 ∨ o.bitDepth = 32
  streamId : o.streamId < 2 ^ 64
  sampleRate : IsInt o.sampleRate
  channels : IsInt o.channels
  hwLatency : IsInt o.hwLatency
  maxTransitTime : IsInt o.maxTransitTime

theorem Options.checked_default : ({} : Options).Checked where
  bitDepth := by decide
  streamId := by decide
  sampleRate := by decide
  channels := by decide
  hwLatency := by decide
  maxTransitTime := by decide

theorem parser_checked {o o' : Options} {a : CliOption} (ho : o.Checked)
    (h : parser o a = .ok o') : o'.Checked := by
  cases a with
  | ifname arg | audioDevice arg | timeout arg | file arg | talker =>
      obtain rfl := Except.ok.inj h
      exact { ho with }
  | hwLatency arg =>
      obtain rfl := Except.ok.inj h
      exact { ho with hwLatency := isInt_i32 arg }
  | sampleRate arg =>
      obtain rfl := Except.ok.inj h
      exact { ho with sampleRate := isInt_i32 arg }
  | channels arg =>
      obtain rfl := Except.ok.inj h
      exact { ho with channels := isInt_i32 arg }
  | maxTransitTime arg | transitTime arg =>
      obtain rfl := Except.ok.inj h
      exact { ho with maxTransitTime := isInt_i32 arg }
  | streamId arg =>
      rcases arg with - | id
      · obtain rfl := Except.ok.inj h
        exact ho
      · obtain rfl := Except.ok.inj h
        exact { ho with streamId := u64_lt id }
  | bitDepth arg =>
      -- the only check that the settings rely on
      simp only [parser] at h
      split at h
      · cases h
      · rename_i hb
        obtain rfl := Except.ok.inj h
        have hb' : atoi arg = 16 ∨ atoi arg = 24 ∨ atoi arg = 32 := by omega
        exact { ho with bitDepth := hb' }
  | dstAddr bytes | prio arg =>
      simp only [parser] at h
      split at h
      · cases h
      · obtain rfl := Except.ok.inj h
        exact { ho with }

theorem parserEnd_ok {o o' : Options} (h : parserEnd o = .ok o') : o' = o := by
  rw [parserEnd] at h
  split at h
  · cases h
  split at h
  · cases h
  split at h
  · cases h
  exact (Except.ok.inj h).symm

theorem parseOptions_checked {args : List CliOption} :
    ∀ {o o' : Options}, o.Checked → parseOptions o args = .ok o' → o'.Checked := by
  induction args with
  | nil =>
      intro o o' ho h
      rw [parserEnd_ok h]
      exact ho
  | cons a rest ih =>
      -- `o` is generalised: the rest is read on top of what `a` changed
      intro o o' ho h
      rcases hp : parser o a with e | o₁
      · simp [parseOptions, hp, Except.bind] at h
      · simp only [parseOptions, hp, Except.bind] at h
        exact ih (parser_checked ho hp) h

/-- Every admitted set of options went through the checks. -/
theorem Options.Admitted.checked {o : Options} (h : o.Admitted) : o.Checked := by
  obtain ⟨args, hargs⟩ := h
  exact parseOptions_checked Options.checked_default hargs

/-- The defaults of a listener, with the one mandatory option. -/
def interfaceOptions (name : String) : Options :=
  { ifname := strncpy name 16, gotIface := true }

theorem interfaceOptions_admitted (name : String) : (interfaceOptions name).Admitted :=
  ⟨[.ifname name], rfl⟩

/-! ### The codes carried in the PDU -/

/-- `bit_depth_to_aaf`. -/
def bitDepthToAaf (lib : Libavtp) (bitDepth : ℤ) : ℕ :=
  if bitDepth = 16 then lib.formatInt16
  else if bitDepth = 24 then lib.formatInt24
  else if bitDepth = 32 then lib.formatFloat32
  else lib.formatInt16

/-- `sample_rate_to_aaf`. -/
def sampleRateToAaf (lib : Libavtp) (sampleRate : ℤ) : ℕ :=
  if sampleRate = 44100 then lib.nsr44_1
  else if sampleRate = 48000 then lib.nsr48
  else if sampleRate = 96000 then lib.nsr96
  else if sampleRate = 192000 then lib.nsr192
  else lib.nsr48

theorem bitDepthToAaf_lt {lib : Libavtp} (hlib : lib.Lawful) (b : ℤ) :
    bitDepthToAaf lib b < 2 ^ AafField.format.width := by
  obtain ⟨h16, h24, h32⟩ := hlib.format_lt
  rw [bitDepthToAaf]
  repeat' split
  all_goals assumption

theorem sampleRateToAaf_lt {lib : Libavtp} (hlib : lib.Lawful) (r : ℤ) :
    sampleRateToAaf lib r < 2 ^ AafField.nsr.width := by
  obtain ⟨h44, h48, h96, h192⟩ := hlib.nsr_lt
  rw [sampleRateToAaf]
  repeat' split
  all_goals assumption

/-! ### The settings `main` starts from -/

/-- The `settings` record of `main`; `none` where the conversion of
`ceil(bit_depth/8.0) * channels` to `int` is undefined. -/
def mainSettings (lib : Libavtp) (o : Options) : Option StreamSettings :=
  match doubleToInt ((o.bitDepth + 7) / 8 * o.channels) with
  | none => none
  | some dataLen =>
      let pduSize := i32 (lib.sizeofStreamPdu + dataLen)
      some {
        streamId := o.streamId
        sampleRate := intToU32 o.sampleRate
        bitDepth := intToU32 o.bitDepth
        channels := intToU32 o.channels
        dataLen := intToU32 dataLen
        pduSize := intToU32 pduSize
        aafSampleRate := sampleRateToAaf lib o.sampleRate
        aafBitDepth := bitDepthToAaf lib o.bitDepth
        maxTransitTime := intToU32 o.maxTransitTime
        hwLatency := intToU32 o.hwLatency
        framesPerPdu := (o.hwLatency % 2 ^ 64).toNat }

end Tram
