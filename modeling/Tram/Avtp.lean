/-
Tram/Avtp.lean

The interface of libavtp that the talker and the listener program against.

The library itself is not part of the repository, so it is a parameter: a
`Libavtp` gives its constants and its four functions on raw PDU bytes, with
`none` for a negative return code.  `Libavtp.Lawful` collects what its
documentation promises: a field is stored masked to its width and read back
as stored, fields do not overlap, and everything but the payload lives in
the `sizeof(struct avtp_stream_pdu)` header bytes.
-/
import Mathlib.Tactic.Ring

namespace Tram

/-- A buffer. -/
abbrev Bytes := List UInt8

/-- The fields of an AAF stream PDU the sources get or set. -/
inductive AafField
  | tv
  | sp
  | streamId
  | seqNum
  | timestamp
  | format
  | nsr
  | chanPerFrame
  | bitDepth
  | streamDataLen
deriving DecidableEq, Repr

/-- The fields of the common AVTP header the sources get. -/
inductive AvtpField
  | subtype
  | version
deriving DecidableEq, Repr

/-- Width of an AAF field in bits. -/
def AafField.width : AafField → ℕ
  | .tv => 1
  | .sp => 1
  | .streamId => 64
  | .seqNum => 8
  | .timestamp => 32
  | .format => 8
  | .nsr => 4
  | .chanPerFrame => 10
  | .bitDepth => 8
  | .streamDataLen => 16

/-- The constants and functions of libavtp. -/
structure Libavtp where
  /-- `sizeof(struct avtp_stream_pdu)`. -/
  sizeofStreamPdu : ℕ
  /-- `AVTP_SUBTYPE_AAF`. -/
  subtypeAaf : ℕ
  /-- `AVTP_AAF_PCM_SP_NORMAL`. -/
  spNormal : ℕ
  /-- `AVTP_AAF_FORMAT_INT_16BIT`, `_INT_24BIT` and `_FLOAT_32BIT`. -/
  formatInt16 : ℕ
  formatInt24 : ℕ
  formatFloat32 : ℕ
  /-- `AVTP_AAF_PCM_NSR_44_1KHZ`, `_48KHZ`, `_96KHZ` and `_192KHZ`. -/
  nsr44_1 : ℕ
  nsr48 : ℕ
  nsr96 : ℕ
  nsr192 : ℕ
  /-- `avtp_aaf_pdu_init`. -/
  aafPduInit : Bytes → Option Bytes
  /-- `avtp_aaf_pdu_set`. -/
  aafPduSet : Bytes → AafField → ℕ → Option Bytes
  /-- `avtp_aaf_pdu_get`. -/
  aafPduGet : Bytes → AafField → Option ℕ
  /-- `avtp_pdu_get`. -/
  pduGet : Bytes → AvtpField → Option ℕ

namespace Libavtp

/-- What libavtp documents about its functions, for buffers that hold at
least the header. -/
structure Lawful (lib : Libavtp) : Prop where
  /-- Subtype data, stream id, time stamp, format specific word and packet info. -/
  sizeofStreamPdu_eq : lib.sizeofStreamPdu = 24
  init_isSome : ∀ p : Bytes, lib.sizeofStreamPdu ≤ p.length → ∃ q, lib.aafPduInit p = some q
  init_length : ∀ {p q : Bytes}, lib.aafPduInit p = some q → q.length = p.length
  init_subtype : ∀ {p q : Bytes}, lib.sizeofStreamPdu ≤ p.length → lib.aafPduInit p = some q →
    lib.pduGet q .subtype = some lib.subtypeAaf
  init_version : ∀ {p q : Bytes}, lib.sizeofStreamPdu ≤ p.length → lib.aafPduInit p = some q →
    lib.pduGet q .version = some 0
  set_isSome : ∀ (p : Bytes) f v, lib.sizeofStreamPdu ≤ p.length →
    ∃ q, lib.aafPduSet p f v = some q
  set_length : ∀ {p q : Bytes} {f v}, lib.aafPduSet p f v = some q → q.length = p.length
  set_payload : ∀ {p q : Bytes} {f v}, lib.sizeofStreamPdu ≤ p.length →
    lib.aafPduSet p f v = some q → q.drop lib.sizeofStreamPdu = p.drop lib.sizeofStreamPdu
  get_set_same : ∀ {p q : Bytes} {f v}, lib.sizeofStreamPdu ≤ p.length →
    lib.aafPduSet p f v = some q → lib.aafPduGet q f = some (v % 2 ^ f.width)
  get_set_other : ∀ {p q : Bytes} {f g v}, lib.sizeofStreamPdu ≤ p.length → g ≠ f →
    lib.aafPduSet p f v = some q → lib.aafPduGet q g = lib.aafPduGet p g
  pduGet_set : ∀ {p q : Bytes} {f v} g, lib.sizeofStreamPdu ≤ p.length →
    lib.aafPduSet p f v = some q → lib.pduGet q g = lib.pduGet p g
  /-- A field is read from the header bytes alone. -/
  get_congr : ∀ {p q : Bytes} f,
    p.take lib.sizeofStreamPdu = q.take lib.sizeofStreamPdu → lib.aafPduGet p f = lib.aafPduGet q f
  pduGet_congr : ∀ {p q : Bytes} f,
    p.take lib.sizeofStreamPdu = q.take lib.sizeofStreamPdu → lib.pduGet p f = lib.pduGet q f
  /-- The constants fit the fields they are stored in. -/
  spNormal_lt : lib.spNormal < 2 ^ AafField.sp.width
  format_lt : lib.formatInt16 < 2 ^ AafField.format.width ∧
    lib.formatInt24 < 2 ^ AafField.format.width ∧ lib.formatFloat32 < 2 ^ AafField.format.width
  nsr_lt : lib.nsr44_1 < 2 ^ AafField.nsr.width ∧ lib.nsr48 < 2 ^ AafField.nsr.width ∧
    lib.nsr96 < 2 ^ AafField.nsr.width ∧ lib.nsr192 < 2 ^ AafField.nsr.width
  /-- Different nominal sample rates have different codes. -/
  nsr_nodup : [lib.nsr44_1, lib.nsr48, lib.nsr96, lib.nsr192].Nodup

/-- A field that is read is a value of the field's width. -/
def InWidth (lib : Libavtp) : Prop :=
  ∀ (p : Bytes) f v, lib.aafPduGet p f = some v → v < 2 ^ f.width

end Libavtp

end Tram
