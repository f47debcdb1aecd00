/-
Tram/Clock.lean

Clock readings and the presentation time of a packet (`common.c`).

The talker sends the low 32 bits of its presentation time
(`calculateAvtpTime`); the listener completes them with the high bits of its
own arrival clock (`getPresentationTime`).  The code keeps the increment of
the high part in a comment, so the completion is the plain `splice` of
`Tram.Splice`: it is right exactly while arrival and presentation lie in the
same block of `2 ^ 32` ns (about 4.3 s).
-/
import Tram.Splice
import Tram.Words
import Mathlib.Tactic.NormNum

namespace Tram

/-- `NSEC_PER_SEC`. -/
def nsecPerSec : ℕ := 1000000000

/-- `NSEC_PER_MSEC`. -/
def nsecPerMsec : ℕ := 1000000

/-! ### `struct timespec` -/

/-- `struct timespec`.  `CLOCK_REALTIME` never reads a negative `tv_sec`. -/
structure Timespec where
  tvSec : ℕ
  tvNsec : ℕ
deriving DecidableEq, Repr

/-- The instant a `timespec` stands for, in ns past the epoch. -/
def Timespec.ns (t : Timespec) : ℕ := t.tvSec * nsecPerSec + t.tvNsec

/-- `timespec_to_ns`, which `common.c` also writes inline: the instant as a
`uint64_t`. -/
def Timespec.toNs (t : Timespec) : ℕ := u64 (t.tvSec * nsecPerSec + t.tvNsec)

/-- The division and remainder by which a count of ns is stored back into a
`timespec`. -/
def Timespec.ofNs (n : ℕ) : Timespec := ⟨n / nsecPerSec, n % nsecPerSec⟩

theorem Timespec.toNs_of_lt {t : Timespec} (h : t.ns < 2 ^ 64) : t.toNs = t.ns :=
  u64_of_lt h

@[simp] theorem Timespec.ns_ofNs (n : ℕ) : (Timespec.ofNs n).ns = n := by
  rw [Timespec.ns, Timespec.ofNs, Nat.mul_comm]
  exact Nat.div_add_mod n nsecPerSec

theorem Timespec.ofNs_tvNsec_lt (n : ℕ) : (Timespec.ofNs n).tvNsec < nsecPerSec :=
  Nat.mod_lt n (by decide)

/-! ### The two functions -/

/-- `calculate_avtp_time`; `clock` is the result of `clock_gettime`. -/
def calculateAvtpTime (clock : Option Timespec) (maxTransitTime : ℕ) : Option ℕ :=
  match clock with
  | none => none
  | some tspec =>
      let ptime := u64 (tspec.tvSec * nsecPerSec + maxTransitTime * nsecPerMsec + tspec.tvNsec)
      some (ptime % 2 ^ 32)

/-- `get_presentation_time`: the return value and the presentation time.
The increment by `2 ^ 32` of a `ptime` below `now` is commented out in the
source. -/
def getPresentationTime (avtpTime : ℕ) (now : Timespec) : ℤ × Timespec :=
  let nowAux := now.toNs
  let ptime := (nowAux &&& 0xFFFFFFFF00000000) ||| avtpTime
  (if ptime < nowAux then 1 else 0, .ofNs ptime)

theorem calculateAvtpTime_some (t : Timespec) (m : ℕ) :
    calculateAvtpTime (some t) m = some ((t.ns + m * nsecPerMsec) % 2 ^ 32) := by
  have hsum : t.tvSec * nsecPerSec + m * nsecPerMsec + t.tvNsec = t.ns + m * nsecPerMsec := by
    rw [Timespec.ns]
    omega
  have hmod : ∀ p : ℕ, u64 p % 2 ^ 32 = p % 2 ^ 32 := by
    intro p
    rw [u64]
    omega
  simp only [calculateAvtpTime, hsum, hmod]

/-- The completion the listener computes. -/
theorem getPresentationTime_eq {avtpTime : ℕ} (h : avtpTime < 2 ^ 32) (now : Timespec) :
    getPresentationTime avtpTime now
      = (if splice (2 ^ 32) now.toNs avtpTime < now.toNs then 1 else 0,
          .ofNs (splice (2 ^ 32) now.toNs avtpTime)) := by
  have hnow : now.toNs < 2 ^ (32 + 32) := u64_lt _
  simp only [getPresentationTime, ← and_highMask_or hnow h]
  rfl

/-- The late flag is the only possible non-zero result. -/
theorem getPresentationTime_fst (avtpTime : ℕ) (now : Timespec) :
    (getPresentationTime avtpTime now).1 = 0 ∨ (getPresentationTime avtpTime now).1 = 1 := by
  rw [getPresentationTime]
  dsimp only
  split
  · exact Or.inr rfl
  · exact Or.inl rfl

theorem splice_toNs_lt (now : Timespec) {low : ℕ} (h : low < 2 ^ 32) :
    splice (2 ^ 32) now.toNs low < 2 ^ 64 := by
  have hnow : now.toNs < 2 ^ 64 := u64_lt _
  rw [splice]
  omega

/-- A clock at least one block past the epoch never yields the zero
presentation time, the value that would disarm a timer. -/
theorem getPresentationTime_ne_zero (avtpTime : ℕ) {now : Timespec}
    (hnow : 2 ^ 32 ≤ now.toNs) : (getPresentationTime avtpTime now).2 ≠ ⟨0, 0⟩ := by
  intro hzero
  have hptime : (now.toNs &&& 0xFFFFFFFF00000000) ||| avtpTime = 0 := by
    rw [← Timespec.ns_ofNs ((now.toNs &&& 0xFFFFFFFF00000000) ||| avtpTime)]
    exact congrArg Timespec.ns hzero
  have hhigh : now.toNs &&& ((2 ^ 32 - 1) <<< 32) = 0 := (Nat.or_eq_zero_iff.mp hptime).1
  rw [and_highMask (u64_lt _)] at hhigh
  omega

/-! ### The round trip -/

/-- **Round trip of the timestamp.**  With synchronised clocks the listener
recovers the talker's presentation time, and takes the packet as on time,
exactly when its arrival clock and the presentation time lie in the same
block of `2 ^ 32` ns (and the presentation time is a 64-bit number).  Neither
a lower bound on the arrival nor a bound on the transit time is needed. -/
theorem presentationTime_roundTrip_iff (t now : Timespec) (m : ℕ)
    (hle : now.ns ≤ t.ns + m * nsecPerMsec) :
    (∃ avtpTime presentation, calculateAvtpTime (some t) m = some avtpTime ∧
        getPresentationTime avtpTime now = (0, presentation) ∧
        presentation.ns = t.ns + m * nsecPerMsec ∧ presentation.tvNsec < nsecPerSec) ↔
      now.ns / 2 ^ 32 = (t.ns + m * nsecPerMsec) / 2 ^ 32 ∧
        t.ns + m * nsecPerMsec < 2 ^ 64 := by
  set p := t.ns + m * nsecPerMsec with hp
  have hlow : p % 2 ^ 32 < 2 ^ 32 := Nat.mod_lt p (by decide)
  constructor
  · rintro ⟨avtpTime, presentation, hcalc, hget, hns, -⟩
    rw [calculateAvtpTime_some, ← hp] at hcalc
    obtain rfl := Option.some.inj hcalc
    rw [getPresentationTime_eq hlow, Prod.mk.injEq] at hget
    have hsplice : splice (2 ^ 32) now.toNs (p % 2 ^ 32) = p :=
      calc splice (2 ^ 32) now.toNs (p % 2 ^ 32)
          = (Timespec.ofNs (splice (2 ^ 32) now.toNs (p % 2 ^ 32))).ns := (Timespec.ns_ofNs _).symm
        _ = presentation.ns := congrArg Timespec.ns hget.2
        _ = p := hns
    have hp64 : p < 2 ^ 64 := hsplice ▸ splice_toNs_lt now hlow
    have hnow64 : now.toNs = now.ns := Timespec.toNs_of_lt (by omega)
    rw [hnow64] at hsplice
    exact ⟨(splice_mod_eq_iff (by decide) _ _).mp hsplice, hp64⟩
  · rintro ⟨hblock, hp64⟩
    have hnow64 : now.toNs = now.ns := Timespec.toNs_of_lt (by omega)
    have hsplice : splice (2 ^ 32) now.toNs (p % 2 ^ 32) = p := by
      rw [hnow64]
      exact (splice_mod_eq_iff (by decide) _ _).mpr hblock
    refine ⟨p % 2 ^ 32, .ofNs p, calculateAvtpTime_some t m, ?_, Timespec.ns_ofNs p,
      Timespec.ofNs_tvNsec_lt p⟩
    rw [getPresentationTime_eq hlow, hsplice, hnow64, if_neg (by omega)]

/-- Half a millisecond before a block boundary, with a transit time of 1 ms. -/
theorem presentationTime_roundTrip_boundary :
    ¬ ∀ (t now : Timespec) (m : ℕ), t.tvNsec < nsecPerSec → now.tvNsec < nsecPerSec →
      m * nsecPerMsec < 2 ^ 32 → t.ns ≤ now.ns → now.ns ≤ t.ns + m * nsecPerMsec →
      ∃ avtpTime presentation, calculateAvtpTime (some t) m = some avtpTime ∧
        getPresentationTime avtpTime now = (0, presentation) ∧
        presentation.ns = t.ns + m * nsecPerMsec ∧ presentation.tvNsec < nsecPerSec := by
  intro h
  obtain ⟨avtpTime, presentation, hcalc, hget, -, -⟩ :=
    h ⟨1717986918, 399500000⟩ ⟨1717986918, 399500000⟩ 1 (by decide) (by decide) (by decide)
      (by decide) (by decide)
  obtain rfl := Option.some.inj hcalc
  have hlate : (getPresentationTime 500000 ⟨1717986918, 399500000⟩).1 = 1 := by decide
  have hontime : (getPresentationTime 500000 ⟨1717986918, 399500000⟩).1 = 0 :=
    congrArg Prod.fst hget
  exact absurd (hlate.symm.trans hontime) (by decide)

theorem presentationTime_roundTrip_inBlock :
    (∃ avtpTime presentation, calculateAvtpTime (some ⟨1700000000, 0⟩) 100 = some avtpTime ∧
        getPresentationTime avtpTime ⟨1700000000, 2000000⟩ = (0, presentation) ∧
        presentation.ns = (⟨1700000000, 0⟩ : Timespec).ns + 100 * nsecPerMsec ∧
        presentation.tvNsec < nsecPerSec) ↔
      (⟨1700000000, 2000000⟩ : Timespec).ns / 2 ^ 32
          = ((⟨1700000000, 0⟩ : Timespec).ns + 100 * nsecPerMsec) / 2 ^ 32 ∧
        (⟨1700000000, 0⟩ : Timespec).ns + 100 * nsecPerMsec < 2 ^ 64 :=
  presentationTime_roundTrip_iff ⟨1700000000, 0⟩ ⟨1700000000, 2000000⟩ 100 (by decide)

end Tram
