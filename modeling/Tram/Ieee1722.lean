/-
Tram/Ieee1722.lean

The AVTP stream header of IEEE 1722 as an instance of the libavtp interface.

The header has 24 bytes; a field is a range of bits in the number they form,
most significant byte first.  All fields are disjoint ranges, so the laws
`Libavtp.Lawful` asks for are the read-after-write laws of `Tram.BitField`.
-/
import Tram.Avtp
import Tram.BitField

namespace Tram

/-! ### The layout -/

/-- Lowest bit of an AAF field in the header. -/
def AafField.shift : AafField → ℕ
  | .tv => 176
  | .seqNum => 168
  | .streamId => 96
  | .timestamp => 64
  | .format => 56
  | .nsr => 52
  | .chanPerFrame => 40
  | .bitDepth => 32
  | .streamDataLen => 16
  | .sp => 12

/-- Lowest bit of a common field in the header. -/
def AvtpField.shift : AvtpField → ℕ
  | .subtype => 184
  | .version => 180

/-- Width of a common field in bits. -/
def AvtpField.width : AvtpField → ℕ
  | .subtype => 8
  | .version => 3

theorem AafField.shift_add_width_le (f : AafField) : f.shift + f.width ≤ 8 * 24 := by
  cases f <;> decide

theorem AafField.disjoint {f g : AafField} (h : g ≠ f) :
    BitsDisjoint f.shift f.width g.shift g.width := by
  rw [BitsDisjoint]
  cases f <;> cases g <;> first | exact absurd rfl h | decide

theorem AvtpField.disjoint (f : AafField) (g : AvtpField) :
    BitsDisjoint f.shift f.width g.shift g.width := by
  rw [BitsDisjoint]
  cases f <;> cases g <;> decide

/-! ### The functions -/

/-- The header of a PDU as a number. -/
def header (p : Bytes) : ℕ := beNat (p.take 24)

/-- Replace the header of a PDU. -/
def withHeader (p : Bytes) (h : ℕ) : Bytes := beBytes 24 h ++ p.drop 24

/-- The header after `avtp_aaf_pdu_init`: subtype AAF and the bit that marks
the stream id as valid. -/
def initHeader : ℕ := setBits (setBits 0 184 8 0x02) 183 1 1

/-- libavtp on the header of IEEE 1722. -/
def ieee1722 : Libavtp where
  sizeofStreamPdu := 24
  subtypeAaf := 0x02
  spNormal := 0
  formatInt16 := 4
  formatInt24 := 3
  formatFloat32 := 1
  nsr44_1 := 4
  nsr48 := 5
  nsr96 := 7
  nsr192 := 9
  aafPduInit p := if p.length < 24 then none else some (withHeader p initHeader)
  aafPduSet p f v :=
    if p.length < 24 then none
    else some (withHeader p (setBits (header p) f.shift f.width v))
  aafPduGet p f := if (p.take 24).length < 24 then none else some (getBits (header p) f.shift f.width)
  pduGet p f := if (p.take 24).length < 24 then none else some (getBits (header p) f.shift f.width)

theorem header_lt (p : Bytes) : header p < 2 ^ (8 * 24) := by
  refine (beNat_lt _).trans_le (Nat.pow_le_pow_right (by decide) ?_)
  rw [List.length_take]
  omega

theorem initHeader_lt : initHeader < 2 ^ (8 * 24) :=
  setBits_lt (setBits_lt (by decide) (by decide) _) (by decide) _

theorem initHeader_subtype :
    getBits initHeader AvtpField.subtype.shift AvtpField.subtype.width = 0x02 := by
  change getBits initHeader 184 8 = 0x02
  rw [initHeader, getBits_setBits_of_disjoint (Or.inl (by decide)), getBits_setBits_same]
  decide

theorem initHeader_version :
    getBits initHeader AvtpField.version.shift AvtpField.version.width = 0 := by
  change getBits initHeader 180 3 = 0
  rw [initHeader, getBits_setBits_of_disjoint (Or.inr (by decide)),
    getBits_setBits_of_disjoint (Or.inr (by decide))]
  decide

theorem take_withHeader (p : Bytes) (h : ℕ) : (withHeader p h).take 24 = beBytes 24 h := by
  rw [withHeader, List.take_append_of_le_length (by simp), List.take_of_length_le (by simp)]

theorem drop_withHeader (p : Bytes) (h : ℕ) : (withHeader p h).drop 24 = p.drop 24 := by
  rw [withHeader, List.drop_append_of_le_length (by simp), List.drop_of_length_le (by simp),
    List.nil_append]

theorem length_withHeader {p : Bytes} (hp : 24 ≤ p.length) (h : ℕ) :
    (withHeader p h).length = p.length := by
  rw [withHeader, List.length_append, length_beBytes, List.length_drop]
  omega

theorem header_withHeader (p : Bytes) {h : ℕ} (hh : h < 2 ^ (8 * 24)) :
    header (withHeader p h) = h := by
  rw [header, take_withHeader, beNat_beBytes hh]

/-- A successful set, spelled out. -/
theorem ieee1722_set {p q : Bytes} {f : AafField} {v : ℕ} (h : ieee1722.aafPduSet p f v = some q) :
    24 ≤ p.length ∧ q = withHeader p (setBits (header p) f.shift f.width v) := by
  simp only [ieee1722] at h
  split at h
  · cases h
  · exact ⟨by omega, (Option.some.inj h).symm⟩

theorem ieee1722_init {p q : Bytes} (h : ieee1722.aafPduInit p = some q) :
    24 ≤ p.length ∧ q = withHeader p initHeader := by
  simp only [ieee1722] at h
  split at h
  · cases h
  · exact ⟨by omega, (Option.some.inj h).symm⟩

theorem ieee1722_get {p : Bytes} (hp : 24 ≤ p.length) (f : AafField) :
    ieee1722.aafPduGet p f = some (getBits (header p) f.shift f.width) := by
  simp only [ieee1722]
  rw [if_neg]
  rw [List.length_take]
  omega

theorem ieee1722_pduGet {p : Bytes} (hp : 24 ≤ p.length) (f : AvtpField) :
    ieee1722.pduGet p f = some (getBits (header p) f.shift f.width) := by
  simp only [ieee1722]
  rw [if_neg]
  rw [List.length_take]
  omega

/-- The layout of IEEE 1722 satisfies the laws. -/
theorem ieee1722_lawful : ieee1722.Lawful where
  sizeofStreamPdu_eq := rfl
  init_isSome := by
    intro p hp
    exact ⟨_, if_neg (Nat.not_lt.mpr hp)⟩
  init_length := by
    intro p q h
    obtain ⟨hp, rfl⟩ := ieee1722_init h
    exact length_withHeader hp _
  init_subtype := by
    intro p q _ h
    obtain ⟨hp, rfl⟩ := ieee1722_init h
    rw [ieee1722_pduGet (by rw [length_withHeader hp]; exact hp),
      header_withHeader _ initHeader_lt, initHeader_subtype]
    rfl
  init_version := by
    intro p q _ h
    obtain ⟨hp, rfl⟩ := ieee1722_init h
    rw [ieee1722_pduGet (by rw [length_withHeader hp]; exact hp),
      header_withHeader _ initHeader_lt, initHeader_version]
  set_isSome := by
    intro p f v hp
    exact ⟨_, if_neg (Nat.not_lt.mpr hp)⟩
  set_length := by
    intro p q f v h
    obtain ⟨hp, hq⟩ := ieee1722_set h
    rw [hq, length_withHeader hp]
  set_payload := by
    intro p q f v _ h
    obtain ⟨-, hq⟩ := ieee1722_set h
    rw [hq]
    exact drop_withHeader p _
  get_set_same := by
    intro p q f v _ h
    obtain ⟨hp, hq⟩ := ieee1722_set h
    rw [hq, ieee1722_get (by rw [length_withHeader hp]; exact hp),
      header_withHeader _ (setBits_lt (header_lt p) f.shift_add_width_le v), getBits_setBits_same]
  get_set_other := by
    intro p q f g v _ hne h
    obtain ⟨hp, hq⟩ := ieee1722_set h
    rw [hq, ieee1722_get (by rw [length_withHeader hp]; exact hp), ieee1722_get hp,
      header_withHeader _ (setBits_lt (header_lt p) f.shift_add_width_le v),
      getBits_setBits_of_disjoint (AafField.disjoint hne)]
  pduGet_set := by
    intro p q f v g _ h
    obtain ⟨hp, hq⟩ := ieee1722_set h
    rw [hq, ieee1722_pduGet (by rw [length_withHeader hp]; exact hp), ieee1722_pduGet hp,
      header_withHeader _ (setBits_lt (header_lt p) f.shift_add_width_le v),
      getBits_setBits_of_disjoint (AvtpField.disjoint f g)]
  get_congr := by
    intro p q f h
    simp only [ieee1722, header] at h ⊢
    rw [h]
  pduGet_congr := by
    intro p q f h
    simp only [ieee1722, header] at h ⊢
    rw [h]
  spNormal_lt := by decide
  format_lt := by decide
  nsr_lt := by decide
  nsr_nodup := by decide

theorem ieee1722_inWidth : ieee1722.InWidth := by
  intro p f v h
  obtain ⟨-, hv⟩ := Option.ite_none_left_eq_some.mp h
  rw [← Option.some.inj hv, getBits]
  exact Nat.mod_lt _ (Nat.two_pow_pos _)

end Tram
