/-
Tram/Pdu.lean

Building and checking a PDU (`init_pdu` and `is_valid_packet` of
`avb_aaf.c`).

`isValidPacket` is a chain of comparisons with the update of the expected
sequence number in the middle of it: the checks before the update
(`checkStream`) tell whether the packet belongs to the stream, the checks
after it (`checkFormat`) whether its format is the configured one.  A packet
that fails only the latter is rejected with the update already made.
-/
import Tram.Settings

namespace Tram

variable {lib : Libavtp} {set : StreamSettings}

/-! ### Writing a list of fields -/

/-- Set fields one after the other. -/
def setFields (lib : Libavtp) (pdu : Bytes) : List (AafField × ℕ) → Option Bytes
  | [] => some pdu
  | (f, v) :: rest => (lib.aafPduSet pdu f v).bind fun q => setFields lib q rest

/-- Setting distinct fields: each reads back masked to its width, and nothing
else changes. -/
theorem setFields_spec (hlib : lib.Lawful) (fs : List (AafField × ℕ)) :
    ∀ p : Bytes, lib.sizeofStreamPdu ≤ p.length → (fs.map Prod.fst).Nodup →
      ∃ q, setFields lib p fs = some q ∧ q.length = p.length ∧
        q.drop lib.sizeofStreamPdu = p.drop lib.sizeofStreamPdu ∧
        (∀ f v, (f, v) ∈ fs → lib.aafPduGet q f = some (v % 2 ^ f.width)) ∧
        (∀ f, f ∉ fs.map Prod.fst → lib.aafPduGet q f = lib.aafPduGet p f) ∧
        ∀ g, lib.pduGet q g = lib.pduGet p g := by
  induction fs with
  | nil =>
      intro p _ _
      exact ⟨p, rfl, rfl, rfl, by simp, fun _ _ => rfl, fun _ => rfl⟩
  | cons fv rest ih =>
      obtain ⟨f, v⟩ := fv
      intro p hp hnd
      rw [List.map_cons, List.nodup_cons] at hnd
      obtain ⟨hf, hrest⟩ := hnd
      obtain ⟨p₁, hset⟩ := hlib.set_isSome p f v hp
      have hp₁ : lib.sizeofStreamPdu ≤ p₁.length := by rw [hlib.set_length hset]; exact hp
      -- the rest does not touch `f`, so its value survives
      obtain ⟨q, hq, hlen, hdrop, hget, hother, hcommon⟩ := ih p₁ hp₁ hrest
      refine ⟨q, ?_, ?_, ?_, ?_, ?_, ?_⟩
      · rw [setFields, hset, Option.bind_some, hq]
      · rw [hlen, hlib.set_length hset]
      · rw [hdrop, hlib.set_payload hp hset]
      · intro g w hmem
        rcases List.mem_cons.mp hmem with heq | hmem
        · obtain ⟨rfl, rfl⟩ := Prod.mk.inj heq
          rw [hother g hf, hlib.get_set_same hp hset]
        · exact hget g w hmem
      · intro g hg
        rw [List.map_cons, List.mem_cons, not_or] at hg
        rw [hother g hg.2, hlib.get_set_other hp hg.1 hset]
      · intro g
        rw [hcommon g, hlib.pduGet_set g hp hset]

/-! ### The talker's PDU -/

/-- `init_pdu`. -/
def initPdu (lib : Libavtp) (pdu : Bytes) (set : StreamSettings) : Option Bytes := do
  let pdu ← lib.aafPduInit pdu
  let pdu ← lib.aafPduSet pdu .tv 1
  let pdu ← lib.aafPduSet pdu .streamId set.streamId
  let pdu ← lib.aafPduSet pdu .format set.aafBitDepth
  let pdu ← lib.aafPduSet pdu .nsr set.aafSampleRate
  let pdu ← lib.aafPduSet pdu .chanPerFrame set.channels
  let pdu ← lib.aafPduSet pdu .bitDepth set.bitDepth
  let pdu ← lib.aafPduSet pdu .streamDataLen set.dataLen
  lib.aafPduSet pdu .sp lib.spNormal

/-- The fields `init_pdu` sets, with their values. -/
def initFields (lib : Libavtp) (set : StreamSettings) : List (AafField × ℕ) :=
  [(.tv, 1), (.streamId, set.streamId), (.format, set.aafBitDepth), (.nsr, set.aafSampleRate),
    (.chanPerFrame, set.channels), (.bitDepth, set.bitDepth), (.streamDataLen, set.dataLen),
    (.sp, lib.spNormal)]

theorem initPdu_eq (lib : Libavtp) (pdu : Bytes) (set : StreamSettings) :
    initPdu lib pdu set
      = (lib.aafPduInit pdu).bind fun q => setFields lib q (initFields lib set) := by
  simp only [initPdu, initFields, setFields, Option.bind_eq_bind, Option.bind_fun_some]

/-- The header of a PDU of the stream `set`: every field but the time stamp
and the sequence number. -/
structure StreamHeader (lib : Libavtp) (set : StreamSettings) (pdu : Bytes) : Prop where
  subtype : lib.pduGet pdu .subtype = some lib.subtypeAaf
  version : lib.pduGet pdu .version = some 0
  fields : ∀ f v, (f, v) ∈ initFields lib set → lib.aafPduGet pdu f = some (v % 2 ^ f.width)

theorem initPdu_spec (hlib : lib.Lawful) (set : StreamSettings) {pdu : Bytes}
    (hlen : lib.sizeofStreamPdu ≤ pdu.length) :
    ∃ q, initPdu lib pdu set = some q ∧ q.length = pdu.length ∧ StreamHeader lib set q := by
  obtain ⟨p, hinit⟩ := hlib.init_isSome pdu hlen
  have hp : lib.sizeofStreamPdu ≤ p.length := by rw [hlib.init_length hinit]; exact hlen
  have hnd : ((initFields lib set).map Prod.fst).Nodup := by
    simp [initFields]
  obtain ⟨q, hq, hqlen, -, hget, -, hcommon⟩ := setFields_spec hlib (initFields lib set) p hp hnd
  refine ⟨q, ?_, ?_, ?_, ?_, hget⟩
  · rw [initPdu_eq, hinit, Option.bind_some, hq]
  · rw [hqlen, hlib.init_length hinit]
  · rw [hcommon, hlib.init_subtype hlen hinit]
  · rw [hcommon, hlib.init_version hlen hinit]

/-- The header does not depend on the payload. -/
theorem StreamHeader.congr (hlib : lib.Lawful) {p q : Bytes} (h : StreamHeader lib set p)
    (htake : q.take lib.sizeofStreamPdu = p.take lib.sizeofStreamPdu) :
    StreamHeader lib set q where
  subtype := by rw [hlib.pduGet_congr .subtype htake, h.subtype]
  version := by rw [hlib.pduGet_congr .version htake, h.version]
  fields := by
    intro f v hmem
    rw [hlib.get_congr f htake, h.fields f v hmem]

/-- Stamping or numbering a PDU keeps its header. -/
theorem StreamHeader.setField (hlib : lib.Lawful) {p q : Bytes} {f : AafField} {v : ℕ}
    (h : StreamHeader lib set p) (hlen : lib.sizeofStreamPdu ≤ p.length)
    (hf : f = .timestamp ∨ f = .seqNum) (hset : lib.aafPduSet p f v = some q) :
    StreamHeader lib set q where
  subtype := by rw [hlib.pduGet_set .subtype hlen hset, h.subtype]
  version := by rw [hlib.pduGet_set .version hlen hset, h.version]
  fields := by
    intro g w hmem
    have hne : g ≠ f := by
      rintro rfl
      rcases hf with rfl | rfl <;> simp [initFields] at hmem
    rw [hlib.get_set_other hlen hne hset, h.fields g w hmem]

/-! ### The listener's checks -/

/-- The field a check is about. -/
inductive PacketField
  | common (f : AvtpField)
  | aaf (f : AafField)
deriving DecidableEq, Repr

/-- The messages of `is_valid_packet` that end in a rejection. -/
inductive PacketFault
  /-- "Failed to get ... field". -/
  | getFailed (f : PacketField)
  /-- "... mismatch: expected ..., got ...". -/
  | mismatch (f : PacketField) (expected got : ℕ)
deriving DecidableEq, Repr

/-- One get-and-compare step of `is_valid_packet`. -/
def checkField (f : PacketField) (val : Option ℕ) (expected : ℕ) : Except PacketFault Unit :=
  match val with
  | none => .error (.getFailed f)
  | some v => if v ≠ expected then .error (.mismatch f expected v) else .ok ()

/-- The checks before the sequence number. -/
def checkStream (lib : Libavtp) (set : StreamSettings) (pdu : Bytes) :
    Except PacketFault Unit := do
  checkField (.common .subtype) (lib.pduGet pdu .subtype) lib.subtypeAaf
  checkField (.common .version) (lib.pduGet pdu .version) 0
  checkField (.aaf .tv) (lib.aafPduGet pdu .tv) 1
  checkField (.aaf .sp) (lib.aafPduGet pdu .sp) lib.spNormal
  checkField (.aaf .streamId) (lib.aafPduGet pdu .streamId) set.streamId

/-- The checks after the sequence number. -/
def checkFormat (lib : Libavtp) (set : StreamSettings) (pdu : Bytes) :
    Except PacketFault Unit := do
  checkField (.aaf .format) (lib.aafPduGet pdu .format) set.aafBitDepth
  checkField (.aaf .nsr) (lib.aafPduGet pdu .nsr) set.aafSampleRate
  checkField (.aaf .chanPerFrame) (lib.aafPduGet pdu .chanPerFrame) set.channels
  checkField (.aaf .bitDepth) (lib.aafPduGet pdu .bitDepth) set.bitDepth
  checkField (.aaf .streamDataLen) (lib.aafPduGet pdu .streamDataLen) set.dataLen

/-- `is_valid_packet`: the verdict and the new `*expected_seq`. -/
def isValidPacket (lib : Libavtp) (set : StreamSettings) (pdu : Bytes) (expectedSeq : ℕ) :
    Except PacketFault Unit × ℕ :=
  match checkStream lib set pdu with
  | .error e => (.error e, expectedSeq)
  | .ok () =>
      match lib.aafPduGet pdu .seqNum with
      | none => (.error (.getFailed (.aaf .seqNum)), expectedSeq)
      | some val =>
          -- a mismatch is only logged
          let expectedSeq := if val ≠ expectedSeq then u8 val else expectedSeq
          (checkFormat lib set pdu, u8 (expectedSeq + 1))

@[simp] theorem checkField_eq_ok {f : PacketField} {val : Option ℕ} {expected : ℕ} :
    checkField f val expected = .ok () ↔ val = some expected := by
  rcases val with - | v
  · simp [checkField]
  · by_cases h : v = expected <;> simp [checkField, h]

theorem except_bind_eq_ok {ε : Type} {x y : Except ε Unit} :
    (x >>= fun _ => y) = .ok () ↔ x = .ok () ∧ y = .ok () := by
  rcases x with e | ⟨⟩
  · constructor
    · intro h
      cases h
    · rintro ⟨h, -⟩
      cases h
  · exact ⟨fun h => ⟨rfl, h⟩, fun h => h.2⟩

theorem checkStream_eq_ok {pdu : Bytes} :
    checkStream lib set pdu = .ok () ↔
      lib.pduGet pdu .subtype = some lib.subtypeAaf ∧ lib.pduGet pdu .version = some 0 ∧
        lib.aafPduGet pdu .tv = some 1 ∧ lib.aafPduGet pdu .sp = some lib.spNormal ∧
        lib.aafPduGet pdu .streamId = some set.streamId := by
  simp only [checkStream, except_bind_eq_ok, checkField_eq_ok]

theorem checkFormat_eq_ok {pdu : Bytes} :
    checkFormat lib set pdu = .ok () ↔
      lib.aafPduGet pdu .format = some set.aafBitDepth ∧
        lib.aafPduGet pdu .nsr = some set.aafSampleRate ∧
        lib.aafPduGet pdu .chanPerFrame = some set.channels ∧
        lib.aafPduGet pdu .bitDepth = some set.bitDepth ∧
        lib.aafPduGet pdu .streamDataLen = some set.dataLen := by
  simp only [checkFormat, except_bind_eq_ok, checkField_eq_ok]

/-- A packet is accepted exactly when both groups of checks pass and the
sequence number can be read. -/
theorem isValidPacket_eq_ok {pdu : Bytes} {e : ℕ} :
    (isValidPacket lib set pdu e).1 = .ok () ↔
      checkStream lib set pdu = .ok () ∧ (∃ s, lib.aafPduGet pdu .seqNum = some s) ∧
        checkFormat lib set pdu = .ok () := by
  rw [isValidPacket]
  rcases hs : checkStream lib set pdu with f | ⟨⟩
  · simp
  · rcases hq : lib.aafPduGet pdu .seqNum with - | s
    · simp
    · simp

/-- Past the stream checks the expected number becomes the packet's number
plus one, whatever it was and whatever the remaining checks say. -/
theorem isValidPacket_seq {pdu : Bytes} {s : ℕ} (hs : checkStream lib set pdu = .ok ())
    (hq : lib.aafPduGet pdu .seqNum = some s) (e : ℕ) :
    (isValidPacket lib set pdu e).2 = u8 (s + 1) := by
  simp only [isValidPacket, hs, hq]
  by_cases h : s = e
  · simp [h]
  · simp only [ne_eq, h, not_false_eq_true, if_true, u8]
    omega

/-- A packet that fails the stream checks leaves the expected number alone. -/
theorem isValidPacket_foreign {pdu : Bytes} {f : PacketFault}
    (hs : checkStream lib set pdu = .error f) (e : ℕ) :
    isValidPacket lib set pdu e = (.error f, e) := by
  simp only [isValidPacket, hs]

end Tram
