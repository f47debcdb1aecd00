/-
Tram/StoredTimes.lean

The stored travel times and capture deltas against the integers they stand
for.

`avb_stats_process_stats` subtracts in `uint64_t`, so a stored value is the
true difference unless this is negative.  Whether it is depends on what was
accepted: the presentation time of a packet is the time stamp spliced into the
block of `2 ^ 32` ns of the arrival, and a late packet is accepted whenever
something is queued.

`storedTimes_true_iff` is the exact condition, on clock readings and time
stamps alone: no stamp further ahead of its arrival than the transit time, and
none behind the one before it.
-/
import Tram.ProcessStats
import Tram.SessionEnd
import Mathlib.Data.List.Chain

namespace Tram

/-! ### The true differences -/

/-- The travel time of a packet: arrival less the presentation time without
the transit time. -/
def trueTravel (set : StreamSettings) (node : StatNode) : ℤ :=
  node.arrival.toNs - (node.presentation.toNs - transitNs set)

/-- The capture time of a packet. -/
def trueCapture (hw : ℕ) (set : StreamSettings) (node : StatNode) : ℤ :=
  node.presentation.toNs - transitNs set - hw

/-- The capture deltas of a stack, newest first. -/
def trueDeltas (hw : ℕ) (set : StreamSettings) : List StatNode → List ℤ
  | [] => []
  | [_] => []
  | node :: next :: rest =>
      (trueCapture hw set node - trueCapture hw set next) :: trueDeltas hw set (next :: rest)

/-- The values are the differences, none of which is negative. -/
def AreDifferences (values : List ℕ) (differences : List ℤ) : Prop :=
  values.map (Nat.cast : ℕ → ℤ) = differences

/-- On allocated arrays, `avb_stats_process_stats` stores the true travel times
and the true capture deltas of the stack. -/
def StoresTrueTimes (hw : ℕ) (set : StreamSettings) (stack : List StatNode) : Prop :=
  ∀ travelArr deltaCapArr : HeapArray,
    travelArr.Filled [] stack.length → deltaCapArr.Filled [] (stack.length - 1) →
    ∃ travelArr' deltaCapArr' travels deltas,
      traverse hw set stack 0 travelArr deltaCapArr = .ok (travelArr', deltaCapArr') ∧
      travelArr'.Filled travels 0 ∧ deltaCapArr'.Filled deltas 0 ∧
      AreDifferences travels (stack.map (trueTravel set)) ∧
      AreDifferences deltas (trueDeltas hw set stack)

/-! ### The condition -/

/-- The stamp of a packet is at most the transit time ahead of its arrival. -/
def StampNear (lib : Libavtp) (set : StreamSettings) (p : StatNode × Bytes) : Prop :=
  ∀ avtpTime, lib.aafPduGet p.2 .timestamp = some avtpTime →
    avtpTime ≤ p.1.arrival.toNs % 2 ^ 32 + transitNs set

/-- A packet arrives in a later block than the one accepted before it, or in
the same block with a stamp not behind the other's. -/
def StampsOrdered (lib : Libavtp) (p q : StatNode × Bytes) : Prop :=
  ∀ avtpTime avtpTime', lib.aafPduGet p.2 .timestamp = some avtpTime →
    lib.aafPduGet q.2 .timestamp = some avtpTime' →
    p.1.arrival.toNs / 2 ^ 32 < q.1.arrival.toNs / 2 ^ 32 ∨
      p.1.arrival.toNs / 2 ^ 32 = q.1.arrival.toNs / 2 ^ 32 ∧ avtpTime ≤ avtpTime'

/-- Time stamps and arrivals of the accepted packets that leave no difference
negative. -/
structure TimesFit (lib : Libavtp) (set : StreamSettings) (packets : List (StatNode × Bytes)) :
    Prop where
  near : ∀ p ∈ packets, StampNear lib set p
  ordered : packets.IsChain (StampsOrdered lib)

instance (lib : Libavtp) (set : StreamSettings) (p : StatNode × Bytes) :
    Decidable (StampNear lib set p) :=
  inferInstanceAs (Decidable (∀ avtpTime ∈ lib.aafPduGet p.2 .timestamp, _))

instance (lib : Libavtp) : DecidableRel (StampsOrdered lib) := fun p q =>
  decidable_of_iff (∀ avtpTime ∈ lib.aafPduGet p.2 .timestamp,
      ∀ avtpTime' ∈ lib.aafPduGet q.2 .timestamp,
        p.1.arrival.toNs / 2 ^ 32 < q.1.arrival.toNs / 2 ^ 32 ∨
          p.1.arrival.toNs / 2 ^ 32 = q.1.arrival.toNs / 2 ^ 32 ∧ avtpTime ≤ avtpTime')
    ⟨fun h t t' ht ht' => h t ht t' ht', fun h t ht t' ht' => h t t' ht ht'⟩

instance (lib : Libavtp) (set : StreamSettings) (packets : List (StatNode × Bytes)) :
    Decidable (TimesFit lib set packets) :=
  decidable_of_iff ((∀ p ∈ packets, StampNear lib set p) ∧ packets.IsChain (StampsOrdered lib))
    ⟨fun h => ⟨h.1, h.2⟩, fun h => ⟨h.near, h.ordered⟩⟩

/-! ### One entry -/

variable {lib : Libavtp} {set : StreamSettings} {recording : Bool}

theorem transitNs_lt (set : StreamSettings) : transitNs set < 2 ^ 32 * nsecPerMsec :=
  Nat.mul_lt_mul_of_pos_right (u32_lt _) (by decide)

/-- Arrival and presentation time of a packet lie in the same block. -/
theorem Stamped.presentation_toNs {p : StatNode × Bytes} {avtpTime : ℕ} (hlib : lib.InWidth)
    (h : Stamped lib p) (hstamp : lib.aafPduGet p.2 .timestamp = some avtpTime) :
    p.1.presentation.toNs = splice (2 ^ 32) p.1.arrival.toNs avtpTime ∧ avtpTime < 2 ^ 32 := by
  obtain ⟨avtpTime', hstamp', hpres⟩ := h
  obtain rfl := Option.some.inj (hstamp'.symm.trans hstamp)
  have hlt : avtpTime' < 2 ^ 32 := hlib _ _ _ hstamp
  refine ⟨?_, hlt⟩
  rw [hpres, getPresentationTime_eq hlt, Timespec.toNs_of_lt, Timespec.ns_ofNs]
  rw [Timespec.ns_ofNs]
  exact splice_toNs_lt _ hlt

theorem travelTime_eq_iff {p : StatNode × Bytes} (hlib : lib.InWidth) (h : Stamped lib p) :
    (travelTime set p.1 : ℤ) = trueTravel set p.1 ↔ StampNear lib set p := by
  obtain ⟨avtpTime, hstamp, -⟩ := id h
  obtain ⟨hpres, hlt⟩ := h.presentation_toNs hlib hstamp
  have harrival : p.1.arrival.toNs < 2 ^ 64 := u64_lt _
  have hsplice := splice_toNs_lt p.1.arrival hlt
  have htransit : transitNs set < 2 ^ 52 := (transitNs_lt set).trans (by decide)
  have hnear : StampNear lib set p ↔
      avtpTime ≤ p.1.arrival.toNs % 2 ^ 32 + transitNs set := by
    refine ⟨fun hnear => hnear _ hstamp, fun hle avtpTime' hstamp' => ?_⟩
    rwa [← Option.some.inj (hstamp.symm.trans hstamp')]
  rw [hnear, travelTime, trueTravel, hpres]
  rw [splice] at hsplice ⊢
  rw [subU64, subU64]
  generalize transitNs set = transit at htransit ⊢
  omega

theorem captureDelta_eq_iff (hw : ℕ) (node next : StatNode) :
    (captureDelta hw set node next : ℤ) = trueCapture hw set node - trueCapture hw set next ↔
      next.presentation.toNs ≤ node.presentation.toNs := by
  have hnode : node.presentation.toNs < 2 ^ 64 := u64_lt _
  have hnext : next.presentation.toNs < 2 ^ 64 := u64_lt _
  rw [captureDelta, avbStatsGetCapTime_toNs, avbStatsGetCapTime_toNs, trueCapture, trueCapture]
  generalize transitNs set = transit
  simp only [subU64]
  omega

/-- The presentation times are ordered as blocks and stamps are. -/
theorem presentation_le_iff {p q : StatNode × Bytes} (hlib : lib.InWidth) (hp : Stamped lib p)
    (hq : Stamped lib q) :
    p.1.presentation.toNs ≤ q.1.presentation.toNs ↔ StampsOrdered lib p q := by
  obtain ⟨avtpTime, hstamp, -⟩ := id hp
  obtain ⟨avtpTime', hstamp', -⟩ := id hq
  obtain ⟨hpres, hlt⟩ := hp.presentation_toNs hlib hstamp
  obtain ⟨hpres', hlt'⟩ := hq.presentation_toNs hlib hstamp'
  have hordered : StampsOrdered lib p q ↔
      p.1.arrival.toNs / 2 ^ 32 < q.1.arrival.toNs / 2 ^ 32 ∨
        p.1.arrival.toNs / 2 ^ 32 = q.1.arrival.toNs / 2 ^ 32 ∧ avtpTime ≤ avtpTime' := by
    refine ⟨fun h => h _ _ hstamp hstamp', fun h t t' ht ht' => ?_⟩
    rwa [← Option.some.inj (hstamp.symm.trans ht), ← Option.some.inj (hstamp'.symm.trans ht')]
  rw [hordered, hpres, hpres', splice, splice]
  omega

/-! ### The whole stack -/

/-- What is stored are the differences as `uint64_t` subtractions. -/
theorem storesTrueTimes_iff (hw : ℕ) (stack : List StatNode) :
    StoresTrueTimes hw set stack ↔
      AreDifferences (stack.map (travelTime set)) (stack.map (trueTravel set)) ∧
        AreDifferences (captureDeltas hw set stack) (trueDeltas hw set stack) := by
  constructor
  · intro h
    have ht := HeapArray.filled_malloc (8 * stack.length)
    have hd := HeapArray.filled_malloc (8 * (stack.length - 1))
    rw [Nat.mul_div_cancel_left _ (by decide)] at ht hd
    obtain ⟨t, d, travels, deltas, htraverse, ht', hd', htravels, hdeltas⟩ := h _ _ ht hd
    obtain ⟨t₁, d₁, htraverse₁, ht₁, hd₁⟩ := traverse_filled hw set stack ht hd rfl
    obtain ⟨rfl, rfl⟩ := Prod.mk.inj (Except.ok.inj (htraverse.symm.trans htraverse₁))
    rw [ht'.unique ht₁] at htravels
    rw [hd'.unique hd₁] at hdeltas
    exact ⟨htravels, hdeltas⟩
  · rintro ⟨htravels, hdeltas⟩ t d ht hd
    obtain ⟨t', d', htraverse, ht', hd'⟩ := traverse_filled hw set stack ht hd rfl
    exact ⟨t', d', _, _, htraverse, ht', hd', htravels, hdeltas⟩

/-- The deltas of a stack are true when its presentation times go up. -/
theorem areDifferences_deltas_iff (hw : ℕ) (stack : List StatNode) :
    AreDifferences (captureDeltas hw set stack) (trueDeltas hw set stack) ↔
      stack.IsChain fun node next => next.presentation.toNs ≤ node.presentation.toNs := by
  induction stack with
  | nil => exact ⟨fun _ => .nil, fun _ => rfl⟩
  | cons node rest ih =>
      cases rest with
      | nil => exact ⟨fun _ => .singleton _, fun _ => rfl⟩
      | cons next rest =>
          rw [List.isChain_cons_cons, ← ih, AreDifferences, captureDeltas, trueDeltas,
            List.map_cons, List.cons.injEq, captureDelta_eq_iff]
          rfl

theorem areDifferences_travels_iff {packets : List (StatNode × Bytes)} (hlib : lib.InWidth)
    (h : ∀ p ∈ packets, Stamped lib p) :
    AreDifferences ((packets.map Prod.fst).reverse.map (travelTime set))
        ((packets.map Prod.fst).reverse.map (trueTravel set)) ↔
      ∀ p ∈ packets, StampNear lib set p := by
  rw [AreDifferences, List.map_map, List.map_inj_left]
  constructor
  · intro heq p hp
    exact (travelTime_eq_iff hlib (h p hp)).mp
      (heq p.1 (List.mem_reverse.mpr (List.mem_map_of_mem hp)))
  · intro hnear node hnode
    obtain ⟨p, hp, rfl⟩ := List.mem_map.mp (List.mem_reverse.mp hnode)
    exact (travelTime_eq_iff hlib (h p hp)).mpr (hnear p hp)

/-- **The stored times.**  However the loop is left: every travel time and
capture delta stored for the session is the true difference exactly when no
accepted time stamp is further ahead of its arrival than the transit time and
none, with its block, is behind the one accepted before it. -/
theorem storedTimes_true_iff (hlib : lib.InWidth) (hw : ℕ) {s : ListenerState}
    (hend : Ends lib set recording s) :
    StoresTrueTimes hw set s.stats.stackHead ↔ TimesFit lib set (pushedPackets s.log) := by
  have hinv := hend.statsInv
  rw [storesTrueTimes_iff, hinv.stack, pushedNodes, areDifferences_travels_iff hlib hinv.stamped,
    areDifferences_deltas_iff, List.isChain_reverse, List.isChain_map]
  have hchain : (pushedPackets s.log).IsChain
        (fun p q => p.1.presentation.toNs ≤ q.1.presentation.toNs) ↔
      (pushedPackets s.log).IsChain (StampsOrdered lib) := by
    constructor
    · intro h
      exact h.imp_of_mem_imp fun p q hp hq hle =>
        (presentation_le_iff hlib (hinv.stamped p hp) (hinv.stamped q hq)).mp hle
    · intro h
      exact h.imp_of_mem_imp fun p q hp hq hord =>
        (presentation_le_iff hlib (hinv.stamped p hp) (hinv.stamped q hq)).mpr hord
  rw [hchain]
  exact ⟨fun h => ⟨h.1, h.2⟩, fun h => ⟨h.near, h.ordered⟩⟩

/-- Two packets 1.5 ms apart, in order and sent with synchronised clocks; the
presentation time of the second lies behind the end of a block. -/
theorem storedTimes_true_boundary :
    ¬ ∀ s, Ends ieee1722 monoSettings false s →
      StoresTrueTimes 20833 monoSettings s.stats.stackHead := by
  intro h
  have hview : (runToBreak ieee1722 monoSettings false
      [receives ⟨12, 882000000⟩ (monoPacket 0 4294065408 [1, 2])]
      { receives ⟨12, 883500000⟩ (monoPacket 1 598112 [3, 4]) with sessionReadable := true }).map
      (fun s => s.stats.stackHead.map fun node => node.presentation.toNs)
        = some [8590532704, 12884000000] := by
    decide +kernel
  obtain ⟨s, hs, hstack⟩ := Option.map_eq_some_iff.mp hview
  have htrue := h s (runToBreak_ends hs)
  rw [storesTrueTimes_iff, areDifferences_deltas_iff] at htrue
  have hchain := (List.isChain_map (R := fun n m : ℕ => m ≤ n)
    fun node : StatNode => node.presentation.toNs).mpr htrue.2
  rw [hstack] at hchain
  revert hchain
  decide

/-- Two packets within a block. -/
theorem storedTimes_true_inBlock :
    ∃ s, Ends ieee1722 monoSettings false s ∧ (pushedNodes s).length = 2 ∧
      StoresTrueTimes 20833 monoSettings s.stats.stackHead := by
  have hview : (runToBreak ieee1722 monoSettings false
      [receives ⟨10, 0⟩ (monoPacket 0 1412065408 [1, 2])]
      { receives ⟨10, 20000⟩ (monoPacket 1 1412085408 [3, 4]) with sessionReadable := true }).map
      (fun s => ((pushedNodes s).length,
        decide (TimesFit ieee1722 monoSettings (pushedPackets s.log)))) = some (2, true) := by
    decide +kernel
  obtain ⟨s, hs, hfit⟩ := Option.map_eq_some_iff.mp hview
  obtain ⟨hlen, hfit⟩ := Prod.mk.inj hfit
  have hend := runToBreak_ends hs
  exact ⟨s, hend, hlen,
    (storedTimes_true_iff ieee1722_inWidth 20833 hend).mpr (of_decide_eq_true hfit)⟩

end Tram
