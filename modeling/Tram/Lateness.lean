/-
Tram/Lateness.lean

When the listener recognises a late packet.

A packet that arrives after its presentation time while nothing is queued is
meant to be discarded.  The verdict comes from the completed presentation
time, so it depends on the block of `2 ^ 32` ns the talker's presentation time
lies in: one nanosecond before a block boundary is 4.3 s in the future for an
arrival one nanosecond after it.
-/
import Tram.LoopInvariant

namespace Tram

variable {lib : Libavtp} {set : StreamSettings}

/-! ### The verdict -/

/-- The completed time is late exactly when no block boundary lies between the
talker's presentation time and the arrival. -/
theorem getPresentationTime_late_iff {arrival : Timespec} {p : ℕ} (hlt : p < arrival.ns)
    (hnear : arrival.ns - p < 2 ^ 32) :
    (getPresentationTime (p % 2 ^ 32) arrival).1 = 1 ↔ arrival.ns / 2 ^ 32 = p / 2 ^ 32 := by
  have hlow : arrival.toNs % 2 ^ 32 = arrival.ns % 2 ^ 32 :=
    Nat.mod_mod_of_dvd arrival.ns (by decide)
  -- only the low halves are compared, and these are the same for `toNs`
  have hsplice : splice (2 ^ 32) arrival.toNs (p % 2 ^ 32) < arrival.toNs ↔
      arrival.ns / 2 ^ 32 = p / 2 ^ 32 := by
    rw [splice_lt_iff, hlow, mod_lt_mod_iff hlt hnear]
  rw [getPresentationTime_eq (Nat.mod_lt p (by decide)), ← hsplice]
  simp

/-! ### The discard -/

/-- With nothing queued, `new_packet` returns 1 on a valid packet exactly when
its completed presentation time is late. -/
theorem newPacket_eq_one_iff {inp : PacketInput} {s : ListenerState} {arrival : Timespec}
    {pdu : Bytes} {seq avtpTime : ℕ} (hval : Validated lib set inp s arrival pdu seq avtpTime)
    (hempty : s.samples = []) :
    (∃ s', newPacket lib set inp s = .ok (1, s')) ↔
      (getPresentationTime avtpTime arrival).1 = 1 := by
  constructor
  · rintro ⟨s', hnew⟩
    cases newPacket_cases hnew with
    | late hval' hlate =>
        obtain ⟨rfl, rfl⟩ := hval.delivers.unique hval'.delivers
        obtain rfl := Option.some.inj (hval'.stamp.symm.trans hval.stamp)
        exact hlate
  · intro hlate
    exact ⟨_, newPacket_late hval hlate hempty⟩

/-- **A late packet is discarded exactly within its block.**  With an empty
queue and a valid packet whose presentation time `p` passed less than `2 ^ 31`
ns ago, `new_packet` returns 1 and leaves queue, statistics and timer alone if
and only if the arrival clock and `p` lie in the same block of `2 ^ 32` ns. -/
theorem newPacket_discards_late_iff {inp : PacketInput} {s : ListenerState} {arrival : Timespec}
    {pdu : Bytes} {seq p : ℕ} (hval : Validated lib set inp s arrival pdu seq (p % 2 ^ 32))
    (hempty : s.samples = []) (hlt : p < arrival.ns) (hnear : arrival.ns - p < 2 ^ 31) :
    (∃ s', newPacket lib set inp s = .ok (1, s') ∧ s'.samples = [] ∧
        s'.stats.stackHead = s.stats.stackHead ∧ s'.timer = s.timer) ↔
      arrival.ns / 2 ^ 32 = p / 2 ^ 32 := by
  rw [← getPresentationTime_late_iff hlt (by omega)]
  constructor
  · rintro ⟨s', hnew, -⟩
    exact (newPacket_eq_one_iff hval hempty).mp ⟨s', hnew⟩
  · intro hlate
    exact ⟨_, newPacket_late hval hlate hempty, hempty, rfl, rfl⟩

/-- One millisecond late across a block boundary: the packet is queued. -/
theorem newPacket_discards_late_boundary :
    ¬ ∀ (inp : PacketInput) (s : ListenerState) (arrival : Timespec) (pdu : Bytes) (seq p : ℕ),
      Validated ieee1722 monoSettings inp s arrival pdu seq (p % 2 ^ 32) → s.samples = [] →
      p < arrival.ns → arrival.ns - p < 2 ^ 31 →
      ∃ s', newPacket ieee1722 monoSettings inp s = .ok (1, s') ∧ s'.samples = [] ∧
        s'.stats.stackHead = s.stats.stackHead ∧ s'.timer = s.timer := by
  intro h
  -- a boundary passes at 42949672960 ns; the packet was due 0.5 ms before it
  obtain ⟨s', hnew, -⟩ := h
    { clock := some ⟨42, 950172960⟩, recv := some (monoPacket 0 4294467296 [1, 2]) } listenerInit
    ⟨42, 950172960⟩ (monoPacket 0 4294467296 [1, 2]) 1 42949172960
    ⟨⟨rfl, ⟨monoPacket 0 4294467296 [1, 2], rfl, by decide +kernel⟩, by decide +kernel⟩,
      by decide +kernel, by decide +kernel⟩
    rfl (by decide) (by decide)
  have hzero : (newPacket ieee1722 monoSettings
      { clock := some ⟨42, 950172960⟩, recv := some (monoPacket 0 4294467296 [1, 2]) }
      listenerInit).toOption.map Prod.fst = some 0 := by
    decide +kernel
  rw [hnew] at hzero
  cases hzero

theorem newPacket_discards_late_inBlock :
    (∃ s', newPacket ieee1722 monoSettings
        { clock := some ⟨10, 2000000⟩, recv := some (monoPacket 0 1411065408 [1, 2]) }
        listenerInit = .ok (1, s') ∧ s'.samples = [] ∧
        s'.stats.stackHead = listenerInit.stats.stackHead ∧ s'.timer = listenerInit.timer) ↔
      (⟨10, 2000000⟩ : Timespec).ns / 2 ^ 32 = 10001000000 / 2 ^ 32 :=
  @newPacket_discards_late_iff _ _ _ _ ⟨10, 2000000⟩ (monoPacket 0 1411065408 [1, 2]) 1 10001000000
    ⟨⟨rfl, ⟨monoPacket 0 1411065408 [1, 2], rfl, by decide +kernel⟩, by decide +kernel⟩,
      by decide +kernel, by decide +kernel⟩
    rfl (by decide) (by decide)

end Tram
