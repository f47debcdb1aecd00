/-
Tram/DropCount.lean

The drop counter under any order of delivery.

The gap before a packet is the 8-bit difference of the expected number and the
number of the packet, and the packet then sets the expected number, whichever
way the two differ.  A packet newer than the one delivered before it adds at
most the packets between the two, none of which has been delivered; a packet
delivered twice adds 255.

Beside the state of the loop, `Delivery` keeps the packets delivered, the one
delivered last first.
-/
import Tram.Accounting
import Mathlib.Data.Finset.Card
import Mathlib.Order.Interval.Finset.Nat

namespace Tram

variable {lib : Libavtp} {set : StreamSettings} {recording : Bool}

/-! ### The loop with the packets delivered -/

/-- The state of the loop with the packets delivered so far. -/
structure Delivery where
  loop : ListenerState
  delivered : List ℕ

/-- The listener loop on the packets of one talker, delivered in any order. -/
def deliveryLoop (lib : Libavtp) (set : StreamSettings) (recording : Bool) :
    Machine Delivery (IterInput × ℕ) where
  init := fun g => g = ⟨listenerInit, []⟩
  step := fun g l g' =>
    (l.1.sockReadable = true → Arrives lib set l.1.packet l.2) ∧
      ∃ s', iteration lib set recording l.1 g.loop = .next s' ∧
        g' = ⟨s', if l.1.sockReadable then l.2 :: g.delivered else g.delivered⟩

/-- `dropped` is at most the number of packets sent and not delivered, however
many have been sent. -/
def NotOverCounted (dropped : ℕ) (delivered : List ℕ) : Prop :=
  ∀ sent, (∀ k ∈ delivered, k < sent) →
    dropped ≤ (Finset.range sent \ delivered.toFinset).card

/-- Packet `k` has been sent after the packet delivered last. -/
def Newer (delivered : List ℕ) (k : ℕ) : Prop := ∀ r, delivered.head? = some r → r < k

/-- A packet received in the step has been sent after the one delivered before
it. -/
def InSendingOrder (g : Delivery) (l : IterInput × ℕ) : Prop :=
  l.1.sockReadable = true → Newer g.delivered l.2

/-! ### One call of new_packet -/

/-- What the gap before a newer packet adds is at most the number of packets
between the two. -/
theorem countGap_le {s : ListenerState} {r k : ℕ} (hexp : s.expectedSeq = (r + 1) % 256)
    (hlt : r < k) :
    (countGap s (u8 (k % 256 + 1))).droppedPackets ≤ s.stats.droppedPackets + (k - r - 1) := by
  have hgap : subU8 (u8 (k % 256 + 1)) (u8 (s.expectedSeq + 1)) ≤ k - r - 1 := by
    rw [hexp, subU8, u8, u8]
    omega
  have hadd : ∀ c, (avbStatsAddDropped s.stats c).droppedPackets ≤ s.stats.droppedPackets + c := by
    intro c
    rw [avbStatsAddDropped]
    split
    · exact Nat.le_add_right _ _
    · have hbyte : u8 c ≤ c := Nat.mod_le _ _
      exact (Nat.mod_le _ _).trans (Nat.add_le_add_left hbyte _)
  rw [countGap]
  split
  · exact (hadd _).trans (Nat.add_le_add_left hgap _)
  · exact Nat.le_add_right _ _

/-- A packet of the talker sets the expected number, and the counter stays or
counts the gap. -/
theorem newPacket_counts {inp : PacketInput} {k : ℕ} {s s' : ListenerState} {rc : ℤ}
    (harr : Arrives lib set inp k) (h : newPacket lib set inp s = .ok (rc, s')) :
    s'.expectedSeq = (k + 1) % 256 ∧
      (s'.stats.droppedPackets = s.stats.droppedPackets ∨
        s'.stats.droppedPackets = (countGap s (u8 (k % 256 + 1))).droppedPackets) := by
  obtain ⟨arrival, avtpTime, pdu, has⟩ := harr
  have hval := has.validated s
  have hseq : u8 (k % 256 + 1) = (k + 1) % 256 := by
    rw [u8]
    omega
  have hsame : ∀ {arrival' pdu' seq' avtpTime'},
      Validated lib set inp s arrival' pdu' seq' avtpTime' → seq' = u8 (k % 256 + 1) := by
    intro arrival' pdu' seq' avtpTime' hval'
    obtain ⟨rfl, rfl⟩ := has.delivers.unique hval'.delivers
    exact congrArg Prod.snd (hval'.valid.symm.trans hval.valid)
  cases newPacket_cases h with
  | nothing hnone => exact absurd has.delivers (hnone arrival pdu)
  | rejected hdel hbad =>
      obtain ⟨rfl, rfl⟩ := has.delivers.unique hdel
      cases hval.valid.symm.trans hbad
  | noStamp hdel _ hnone =>
      obtain ⟨rfl, rfl⟩ := has.delivers.unique hdel
      cases has.stamp.symm.trans hnone
  | late hval' =>
      obtain rfl := hsame hval'
      exact ⟨hseq, Or.inl rfl⟩
  | noNode hval' | unscheduled hval' | queued hval' =>
      obtain rfl := hsame hval'
      exact ⟨hseq, Or.inr rfl⟩

/-! ### The invariant -/

/-- Nothing is counted before a delivery; from then on the expected number is
behind the packet delivered last, all others are older, and what is counted is
missing among the older ones. -/
structure CountInv (s : ListenerState) (delivered : List ℕ) : Prop where
  fresh : delivered = [] → s.stats.stackHead = [] ∧ s.stats.droppedPackets = 0
  counted : ∀ r rest, delivered = r :: rest → s.expectedSeq = (r + 1) % 256 ∧
    (∀ d ∈ rest, d < r) ∧ s.stats.droppedPackets ≤ (Finset.range r \ rest.toFinset).card

theorem countInv_init : CountInv listenerInit [] where
  fresh := fun _ => ⟨rfl, rfl⟩
  counted := by
    intro r rest h
    cases h

theorem CountInv.congr {s s' : ListenerState} {delivered : List ℕ} (h : CountInv s delivered)
    (hstats : s'.stats = s.stats) (hexp : s'.expectedSeq = s.expectedSeq) :
    CountInv s' delivered := by
  refine ⟨?_, ?_⟩
  · rw [hstats]
    exact h.fresh
  · rw [hstats, hexp]
    exact h.counted

theorem CountInv.notOverCounted {s : ListenerState} {delivered : List ℕ}
    (h : CountInv s delivered) : NotOverCounted s.stats.droppedPackets delivered := by
  intro sent hsent
  rcases delivered with - | ⟨r, rest⟩
  · rw [(h.fresh rfl).2]
    exact Nat.zero_le _
  · obtain ⟨-, -, hle⟩ := h.counted r rest rfl
    have hr := hsent r List.mem_cons_self
    -- the packet delivered last is not among the older ones
    refine hle.trans (Finset.card_le_card fun d hd => ?_)
    simp only [Finset.mem_sdiff, Finset.mem_range, List.mem_toFinset, List.mem_cons] at hd ⊢
    exact ⟨by omega, fun hmem => hmem.elim (by omega) hd.2⟩

/-- The packets between two deliveries in sending order are missing too. -/
theorem missing_add_gap {r k : ℕ} {rest : List ℕ} (hrest : ∀ d ∈ rest, d < r) (hlt : r < k) :
    (Finset.range r \ rest.toFinset).card + (k - r - 1)
      ≤ (Finset.range k \ (r :: rest).toFinset).card := by
  have hgap : (Finset.Ico (r + 1) k).card = k - r - 1 := by
    rw [Nat.card_Ico]
    omega
  have hdisjoint : Disjoint (Finset.range r \ rest.toFinset) (Finset.Ico (r + 1) k) := by
    refine Finset.disjoint_left.mpr fun d hd hgap => ?_
    simp only [Finset.mem_sdiff, Finset.mem_range, Finset.mem_Ico] at hd hgap
    omega
  rw [← hgap, ← Finset.card_union_of_disjoint hdisjoint]
  refine Finset.card_le_card fun d hd => ?_
  simp only [Finset.mem_union, Finset.mem_sdiff, Finset.mem_range, Finset.mem_Ico,
    List.mem_toFinset, List.mem_cons] at hd ⊢
  rcases hd with ⟨hd, hnot⟩ | ⟨hd, hk⟩
  · exact ⟨by omega, fun hmem => hmem.elim (by omega) hnot⟩
  · refine ⟨hk, fun hmem => ?_⟩
    rcases hmem with heq | hmem
    · omega
    · have := hrest d hmem
      omega

/-- A newer packet keeps the invariant. -/
theorem CountInv.call {inp : PacketInput} {k : ℕ} {s s' : ListenerState} {rc : ℤ}
    {delivered : List ℕ} (h : CountInv s delivered) (hnewer : Newer delivered k)
    (harr : Arrives lib set inp k) (hcall : newPacket lib set inp s = .ok (rc, s')) :
    CountInv s' (k :: delivered) := by
  obtain ⟨hexp, hdropped⟩ := newPacket_counts harr hcall
  refine ⟨nofun, fun k' rest hcons => ?_⟩
  obtain ⟨rfl, rfl⟩ := List.cons.inj hcons
  refine ⟨hexp, ?_⟩
  rcases delivered with - | ⟨r, rest⟩
  · -- the first delivery: nothing has been pushed, and nothing is counted
    obtain ⟨hstack, hzero⟩ := h.fresh rfl
    refine ⟨nofun, ?_⟩
    rw [countGap_of_empty _ hstack, or_self] at hdropped
    rw [hdropped, hzero]
    exact Nat.zero_le _
  · obtain ⟨hold, hrest, hle⟩ := h.counted r rest rfl
    have hlt : r < k := hnewer r rfl
    refine ⟨fun d hd => ?_, ?_⟩
    · rcases List.mem_cons.mp hd with rfl | hd
      · exact hlt
      · exact (hrest d hd).trans hlt
    · have hgap := countGap_le hold hlt
      have hmissing := missing_add_gap hrest hlt
      rcases hdropped with hsame | hcount <;> omega

/-! ### Every run -/

theorem countInv_run {tr : List (Delivery × (IterInput × ℕ))} {g : Delivery}
    (hrun : (deliveryLoop lib set recording).Run tr g)
    (hgood : Machine.All InSendingOrder tr) : CountInv g.loop g.delivered := by
  refine Machine.Run.invariant (I := fun g => CountInv g.loop g.delivered) ?_ ?_ hrun hgood
  · rintro g rfl
    exact countInv_init
  · rintro g ⟨inp, k⟩ g' h hnewer ⟨harr, s', hiter, rfl⟩
    obtain ⟨s₁, hsocket, hplay⟩ := iteration_next hiter
    obtain ⟨hstats, hexp⟩ := hplay.keeps_stats
    have h₀ : CountInv (atPoll inp g.loop) g.delivered := h.congr rfl rfl
    cases hsocket with
    | silent hsock =>
        show CountInv s' (if inp.sockReadable = true then k :: g.delivered else g.delivered)
        rw [hsock]
        exact h₀.congr hstats hexp
    | packet hsock hnew _ =>
        show CountInv s' (if inp.sockReadable = true then k :: g.delivered else g.delivered)
        rw [if_pos hsock]
        exact (h₀.call (hnewer hsock) (harr hsock) hnew).congr hstats hexp

/-- **The drop counter under reordering.**  In every run whose packets are all
delivered in sending order, with any number of them lost, the dropped packets
counted are at most the packets sent and not delivered: at the top of the loop
and behind every further call of `new_packet`. -/
theorem droppedPackets_le_undelivered {tr : List (Delivery × (IterInput × ℕ))} {g : Delivery}
    (hrun : (deliveryLoop lib set recording).Run tr g)
    (hgood : Machine.All InSendingOrder tr) :
    NotOverCounted g.loop.stats.droppedPackets g.delivered ∧
      ∀ (inp : IterInput) (k : ℕ) (rc : ℤ) (s' : ListenerState),
        Arrives lib set inp.packet k → Newer g.delivered k →
        newPacket lib set inp.packet (atPoll inp g.loop) = .ok (rc, s') →
        NotOverCounted s'.stats.droppedPackets (k :: g.delivered) := by
  have h := countInv_run hrun hgood
  refine ⟨h.notOverCounted, fun inp k rc s' harr hnewer hcall => ?_⟩
  have h₀ : CountInv (atPoll inp g.loop) g.delivered := h.congr rfl rfl
  exact (h₀.call hnewer harr hcall).notOverCounted

/-! ### Two deliveries -/

/-- The loop after an iteration that receives packet `l.2` of the mono stream. -/
def monoDeliver (g : Delivery) (l : IterInput × ℕ) : Delivery :=
  ⟨((iteration ieee1722 monoSettings false l.1 g.loop).next?).getD g.loop,
    if l.1.sockReadable then l.2 :: g.delivered else g.delivered⟩

theorem monoDeliver_run {tr : List (Delivery × (IterInput × ℕ))} {g : Delivery}
    {l : IterInput × ℕ} (hrun : (deliveryLoop ieee1722 monoSettings false).Run tr g)
    (hnext : (iteration ieee1722 monoSettings false l.1 g.loop).next?.isSome = true)
    (harr : Arrives ieee1722 monoSettings l.1.packet l.2) :
    (deliveryLoop ieee1722 monoSettings false).Run (tr ++ [(g, l)]) (monoDeliver g l) := by
  refine hrun.next ⟨fun _ => harr, _, ?_, rfl⟩
  rcases hiter : iteration ieee1722 monoSettings false l.1 g.loop with s | s | s | f <;>
    rw [hiter] at hnext
  · rfl
  · cases hnext
  · cases hnext
  · cases hnext

/-- Packet 1 overtakes packet 0: both are delivered, and 254 count as
dropped. -/
theorem droppedPackets_le_undelivered_overtaken :
    ¬ ∀ (tr : List (Delivery × (IterInput × ℕ))) (g : Delivery),
      (deliveryLoop ieee1722 monoSettings false).Run tr g →
      NotOverCounted g.loop.stats.droppedPackets g.delivered := by
  intro h
  have hone := monoDeliver_run (l := (receives ⟨10, 0⟩ (monoPacket 1 1412065408 [1, 2]), 1))
    (.start rfl) (by decide +kernel) (@arrives_monoPacket 1 _ _ _ (by decide +kernel))
  have htwo := monoDeliver_run (l := (receives ⟨10, 1000⟩ (monoPacket 0 1412085408 [3, 4]), 0))
    hone (by decide +kernel) (@arrives_monoPacket 0 _ _ _ (by decide +kernel))
  have hcount := h _ _ htwo 2 (by decide)
  revert hcount
  decide +kernel

/-- Packet 1 is lost. -/
theorem droppedPackets_le_undelivered_lost :
    ∃ (tr : List (Delivery × (IterInput × ℕ))) (g : Delivery),
      (deliveryLoop ieee1722 monoSettings false).Run tr g ∧ g.delivered = [2, 0] ∧
        g.loop.stats.droppedPackets = 1 ∧
        NotOverCounted g.loop.stats.droppedPackets g.delivered := by
  have hone := monoDeliver_run (l := (receives ⟨10, 0⟩ (monoPacket 0 1412065408 [1, 2]), 0))
    (.start rfl) (by decide +kernel) (@arrives_monoPacket 0 _ _ _ (by decide +kernel))
  have htwo := monoDeliver_run (l := (receives ⟨10, 1000⟩ (monoPacket 2 1412085408 [3, 4]), 2))
    hone (by decide +kernel) (@arrives_monoPacket 2 _ _ _ (by decide +kernel))
  refine ⟨_, _, htwo, rfl, by decide +kernel, (droppedPackets_le_undelivered htwo ?_).1⟩
  refine Machine.all_snoc.mpr ⟨Machine.all_snoc.mpr ⟨Machine.All.nil, ?_⟩, ?_⟩
  · intro _ r hr
    cases hr
  · intro _ r hr
    obtain rfl : r = 0 := (Option.some.inj hr).symm
    decide

end Tram
