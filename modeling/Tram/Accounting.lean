/-
Tram/Accounting.lean

Packets received and packets dropped.

The talker numbers its packets; packet `k` carries `k % 256`.  Beside the
state of the loop, `Tracked` keeps the index of the packet received last and
the indices of the first and the last packet pushed to the statistics, and
the entries and the dropped packets of the statistics are compared with the
length of that span.

The gap before a packet is counted when the packet is pushed, from the
expected sequence number.  A late packet that is discarded moves the expected
number on without being counted, and the gap before it is not counted either:
what it passes over is missing for good as soon as another packet is pushed
(`AccountInv`).
-/
import Tram.LoopInvariant

namespace Tram

variable {lib : Libavtp} {set : StreamSettings} {recording : Bool}

/-! ### Packets with an index -/

/-- The packet received in an iteration is packet `k` of the talker, complete
and valid, with the given arrival and time stamp. -/
structure ArrivesAs (lib : Libavtp) (set : StreamSettings) (inp : PacketInput) (k : ℕ)
    (arrival : Timespec) (avtpTime : ℕ) (pdu : Bytes) : Prop where
  delivers : Delivers set inp arrival pdu
  valid : ∀ e, (isValidPacket lib set pdu e).1 = .ok ()
  seqNum : lib.aafPduGet pdu .seqNum = some (k % 256)
  stamp : lib.aafPduGet pdu .timestamp = some avtpTime

/-- Packet `k` of the talker arrives. -/
def Arrives (lib : Libavtp) (set : StreamSettings) (inp : PacketInput) (k : ℕ) : Prop :=
  ∃ arrival avtpTime pdu, ArrivesAs lib set inp k arrival avtpTime pdu

/-- The packet received is late and finds the queue empty. -/
def DiscardedLate (lib : Libavtp) (set : StreamSettings) (inp : PacketInput)
    (s : ListenerState) : Prop :=
  s.samples = [] ∧ ∃ arrival avtpTime pdu, Delivers set inp arrival pdu ∧
    lib.aafPduGet pdu .timestamp = some avtpTime ∧ (getPresentationTime avtpTime arrival).1 = 1

/-- In sending order, with fewer than 256 packets lost since the last one. -/
def InOrder (received : Option ℕ) (k : ℕ) : Prop :=
  k < 2 ^ 32 ∧ ∀ r, received = some r → r < k ∧ k - r ≤ 256

/-! ### The loop with its packet indices -/

/-- The state of the loop with the indices of its packets. -/
structure Tracked where
  loop : ListenerState
  /-- The packet received last. -/
  received : Option ℕ
  /-- The first and the last packet pushed to the statistics. -/
  span : Option (ℕ × ℕ)

/-- The indices once packet `k` has been received and the loop is in `s'`. -/
def Tracked.receive (g : Tracked) (k : ℕ) (s' : ListenerState) : Tracked where
  loop := s'
  received := some k
  span :=
    if s'.stats.stackHead = g.loop.stats.stackHead then g.span
    else
      match g.span with
      | none => some (k, k)
      | some (first, _) => some (first, k)

/-- The indices after an iteration that leaves the loop in `s'`. -/
def Tracked.advance (g : Tracked) (inp : IterInput) (k : ℕ) (s' : ListenerState) : Tracked :=
  if inp.sockReadable then g.receive k s' else { g with loop := s' }

/-- The listener loop on the packets of one talker. -/
def trackedLoop (lib : Libavtp) (set : StreamSettings) (recording : Bool) :
    Machine Tracked (IterInput × ℕ) where
  init := fun g => g = ⟨listenerInit, none, none⟩
  step := fun g l g' =>
    ∃ s', iteration lib set recording l.1 g.loop = .next s' ∧ g' = g.advance l.1 l.2 s' ∧
      (l.1.sockReadable = true → Arrives lib set l.1.packet l.2 ∧ InOrder g.received l.2)

/-- 'Received packets' plus 'Dropped packets' is the length of the span. -/
def Accounted (g : Tracked) : Prop :=
  ∀ first last, g.span = some (first, last) →
    g.loop.stats.stackHead.length + g.loop.stats.droppedPackets = last - first + 1

/-- A packet has been discarded since the last push. -/
def DiscardPending (g : Tracked) : Prop :=
  ∃ first last, g.span = some (first, last) ∧ g.received ≠ some last

/-- The step does not push a packet over a discarded one. -/
def NoneSkipped (lib : Libavtp) (set : StreamSettings) (g : Tracked) (l : IterInput × ℕ) : Prop :=
  l.1.sockReadable = true → DiscardPending g → DiscardedLate lib set l.1.packet g.loop

/-! ### One call of new_packet -/

/-- The 8-bit difference of the expected numbers is the number of lost
packets. -/
theorem seqGap {r k : ℕ} (hlt : r < k) (hnear : k - r ≤ 256) :
    subU8 (u8 (k % 256 + 1)) (u8 ((r + 1) % 256 + 1)) = k - r - 1 := by
  unfold subU8 u8
  omega

theorem ArrivesAs.validated {inp : PacketInput} {k : ℕ} {arrival : Timespec} {avtpTime : ℕ}
    {pdu : Bytes} (h : ArrivesAs lib set inp k arrival avtpTime pdu) (s : ListenerState) :
    Validated lib set inp s arrival pdu (u8 (k % 256 + 1)) avtpTime where
  delivers := h.delivers
  valid := by
    have hok := h.valid s.expectedSeq
    have hseq := isValidPacket_seq (isValidPacket_eq_ok.mp hok).1 h.seqNum s.expectedSeq
    exact Prod.ext hok hseq
  stamp := h.stamp

/-- A packet of the talker is either discarded or counted and pushed. -/
inductive CallCase (lib : Libavtp) (set : StreamSettings) (inp : PacketInput) (k : ℕ)
    (s s' : ListenerState) : Prop
  | discarded : DiscardedLate lib set inp s → s'.stats = s.stats →
      s'.expectedSeq = u8 (k % 256 + 1) → CallCase lib set inp k s s'
  | pushed {node} : ¬ DiscardedLate lib set inp s →
      s'.stats = { countGap s (u8 (k % 256 + 1)) with
        stackHead := node :: (countGap s (u8 (k % 256 + 1))).stackHead } →
      s'.expectedSeq = u8 (k % 256 + 1) → CallCase lib set inp k s s'

theorem newPacket_callCase {inp : PacketInput} {k : ℕ} {s s' : ListenerState} {rc : ℤ}
    (harr : Arrives lib set inp k) (halloc : inp.statMalloc = true ∨ ¬ rc < 0)
    (h : newPacket lib set inp s = .ok (rc, s')) : CallCase lib set inp k s s' := by
  obtain ⟨arrival, avtpTime, pdu, has⟩ := harr
  have hval := has.validated s
  by_cases hlate : DiscardedLate lib set inp s
  · obtain ⟨hempty, arrival', avtpTime', pdu', hdel, hstamp, hone⟩ := hlate
    obtain ⟨rfl, rfl⟩ := has.delivers.unique hdel
    obtain rfl : avtpTime' = avtpTime := Option.some.inj (hstamp.symm.trans has.stamp)
    rw [newPacket_late hval hone hempty] at h
    cases h
    exact .discarded ⟨hempty, arrival', avtpTime', pdu', hdel, hstamp, hone⟩ rfl rfl
  · -- every other outcome of the call is a push of this packet
    have hsame : ∀ {arrival' pdu' seq' avtpTime'},
        Validated lib set inp s arrival' pdu' seq' avtpTime' → seq' = u8 (k % 256 + 1) := by
      intro arrival' pdu' seq' avtpTime' hval'
      obtain ⟨rfl, rfl⟩ := has.delivers.unique hval'.delivers
      exact congrArg Prod.snd (hval'.valid.symm.trans hval.valid)
    cases newPacket_cases h with
    | nothing hnone => exact absurd has.delivers (hnone arrival pdu)
    | rejected hdel hbad =>
        obtain ⟨rfl, rfl⟩ := has.delivers.unique hdel
        cases hval.valid.symm.trans hbad
    | noStamp hdel _ hnone =>
        obtain ⟨rfl, rfl⟩ := has.delivers.unique hdel
        cases has.stamp.symm.trans hnone
    | late hval' hone hempty =>
        exact absurd ⟨hempty, _, _, _, hval'.delivers, hval'.stamp, hone⟩ hlate
    | noNode _ hfail => simp [hfail] at halloc
    | unscheduled hval' | queued hval' =>
        obtain rfl := hsame hval'
        exact .pushed hlate rfl rfl

/-- The gap before a packet, counted on a non-empty stack. -/
theorem countGap_droppedPackets {s : ListenerState} {r k : ℕ}
    (hexp : s.expectedSeq = (r + 1) % 256) (hlt : r < k) (hnear : k - r ≤ 256)
    (hstack : s.stats.stackHead ≠ []) (hroom : s.stats.droppedPackets + (k - r - 1) < 2 ^ 32) :
    (countGap s (u8 (k % 256 + 1))).droppedPackets = s.stats.droppedPackets + (k - r - 1) := by
  have hgap := seqGap hlt hnear
  have hbyte : u8 (k - r - 1) = k - r - 1 := Nat.mod_eq_of_lt (by omega)
  rw [countGap]
  rw [hexp]
  split
  · have hne : s.stats.stackHead.isEmpty = false := by simpa using hstack
    simp only [avbStatsAddDropped, hne, hgap, hbyte, Bool.false_eq_true, if_false]
    exact u32_of_lt hroom
  · rename_i heq
    have hzero : k - r - 1 = 0 := by
      rw [← hgap, not_not.mp heq]
      rw [subU8, u8]
      omega
    rw [hzero, Nat.add_zero]

/-- Nothing is counted before the first push. -/
theorem countGap_of_empty {s : ListenerState} (seq : ℕ) (hstack : s.stats.stackHead = []) :
    countGap s seq = s.stats := by
  rw [countGap, avbStatsAddDropped]
  simp [hstack]

/-! ### The invariant -/

/-- The statistics, the indices and the history agree: what is missing from
the statistics is missing because a packet was pushed over a discarded one. -/
structure AccountInv (lib : Libavtp) (set : StreamSettings)
    (tr : List (Tracked × (IterInput × ℕ))) (g : Tracked) : Prop where
  expected : ∀ r, g.received = some r → r < 2 ^ 32 ∧ g.loop.expectedSeq = (r + 1) % 256
  unpushed : g.span = none → g.loop.stats.stackHead = [] ∧ g.loop.stats.droppedPackets = 0 ∧
    Machine.All (NoneSkipped lib set) tr
  pushed : ∀ first last, g.span = some (first, last) →
    g.loop.stats.stackHead ≠ [] ∧ first ≤ last ∧ ∃ r missing, g.received = some r ∧ last ≤ r ∧
      g.loop.stats.stackHead.length + g.loop.stats.droppedPackets + missing + first = last + 1 ∧
      (missing = 0 ↔ Machine.All (NoneSkipped lib set) tr)

theorem accountInv_init : AccountInv lib set [] ⟨listenerInit, none, none⟩ where
  expected := by
    intro r hr
    cases hr
  unpushed := fun _ => ⟨rfl, rfl, Machine.All.nil⟩
  pushed := by
    intro first last hspan
    cases hspan

/-- The invariant reads the statistics and the expected number of the loop,
and nothing else of it. -/
theorem AccountInv.congr {tr : List (Tracked × (IterInput × ℕ))} {g g' : Tracked}
    (h : AccountInv lib set tr g) (hreceived : g'.received = g.received)
    (hspan : g'.span = g.span) (hstats : g'.loop.stats = g.loop.stats)
    (hexp : g'.loop.expectedSeq = g.loop.expectedSeq) : AccountInv lib set tr g' := by
  obtain ⟨loop, received, span⟩ := g'
  simp only at hreceived hspan hstats hexp
  subst hreceived hspan
  refine ⟨?_, ?_, ?_⟩
  · simpa only [hexp] using h.expected
  · simpa only [hstats] using h.unpushed
  · simpa only [hstats] using h.pushed

/-- A step without a packet of the talker skips nothing. -/
theorem AccountInv.silent {tr : List (Tracked × (IterInput × ℕ))} {g : Tracked}
    {l : IterInput × ℕ} (h : AccountInv lib set tr g) (hsock : l.1.sockReadable = false) :
    AccountInv lib set (tr ++ [(g, l)]) g := by
  have hall : Machine.All (NoneSkipped lib set) (tr ++ [(g, l)]) ↔
      Machine.All (NoneSkipped lib set) tr := by
    rw [Machine.all_snoc, and_iff_left]
    intro hread
    cases hsock.symm.trans hread
  refine ⟨h.expected, ?_, ?_⟩
  · simpa only [hall] using h.unpushed
  · simpa only [hall] using h.pushed

/-! ### One call keeps the invariant -/

theorem Tracked.receive_span_kept {g : Tracked} {s' : ListenerState} (k : ℕ)
    (hstats : s'.stats = g.loop.stats) : (g.receive k s').span = g.span := by
  rw [Tracked.receive, hstats]
  exact if_pos rfl

theorem Tracked.receive_span_grown {g : Tracked} {s' : ListenerState} {node : StatNode} (k : ℕ)
    (hhead : s'.stats.stackHead = node :: g.loop.stats.stackHead) :
    (g.receive k s').span =
      match g.span with
      | none => some (k, k)
      | some (first, _) => some (first, k) := by
  have hgrown : s'.stats.stackHead ≠ g.loop.stats.stackHead := by
    rw [hhead]
    exact List.cons_ne_self _ _
  rw [Tracked.receive, if_neg hgrown]

/-- A discarded packet leaves the statistics and the span alone. -/
theorem AccountInv.discard {tr : List (Tracked × (IterInput × ℕ))} {g : Tracked}
    {inp : IterInput} {k : ℕ} {s' : ListenerState} (h : AccountInv lib set tr g)
    (horder : InOrder g.received k) (hlate : DiscardedLate lib set inp.packet g.loop)
    (hstats : s'.stats = g.loop.stats) (hexp : s'.expectedSeq = (k + 1) % 256) :
    AccountInv lib set (tr ++ [(g, (inp, k))]) (g.receive k s') := by
  have hall : Machine.All (NoneSkipped lib set) (tr ++ [(g, (inp, k))]) ↔
      Machine.All (NoneSkipped lib set) tr := by
    rw [Machine.all_snoc, and_iff_left]
    exact fun _ _ => hlate
  -- only the packet received last moves on
  have hloop : (g.receive k s').loop.stats = g.loop.stats := hstats
  refine ⟨fun r hr => ?_, ?_, fun first last hsome => ?_⟩
  · obtain rfl := Option.some.inj hr
    exact ⟨horder.1, hexp⟩
  · rw [Tracked.receive_span_kept k hstats, hloop, hall]
    exact h.unpushed
  · rw [Tracked.receive_span_kept k hstats] at hsome
    obtain ⟨hstack, hle, r, missing, hr, hlast, hsum, hmissing⟩ := h.pushed first last hsome
    rw [hloop, hall]
    exact ⟨hstack, hle, k, missing, rfl, hlast.trans (horder.2 r hr).1.le, hsum, hmissing⟩

/-- The first push starts the span at its packet. -/
theorem AccountInv.firstPush {tr : List (Tracked × (IterInput × ℕ))} {g : Tracked}
    {inp : IterInput} {k : ℕ} {node : StatNode} {s' : ListenerState} (h : AccountInv lib set tr g)
    (horder : InOrder g.received k) (hspan : g.span = none)
    (hhead : s'.stats.stackHead = node :: g.loop.stats.stackHead)
    (hdropped : s'.stats.droppedPackets = (countGap g.loop (u8 (k % 256 + 1))).droppedPackets)
    (hexp : s'.expectedSeq = (k + 1) % 256) :
    AccountInv lib set (tr ++ [(g, (inp, k))]) (g.receive k s') := by
  obtain ⟨hempty, hzero, hall⟩ := h.unpushed hspan
  have hone : (g.receive k s').span = some (k, k) := by
    rw [Tracked.receive_span_grown k hhead, hspan]
  rw [countGap_of_empty _ hempty, hzero] at hdropped
  refine ⟨fun r hr => ?_, fun hnone => ?_, fun first last hsome => ?_⟩
  · obtain rfl := Option.some.inj hr
    exact ⟨horder.1, hexp⟩
  · cases hone.symm.trans hnone
  · obtain ⟨rfl, rfl⟩ := Prod.mk.inj (Option.some.inj (hone.symm.trans hsome))
    refine ⟨hhead ▸ List.cons_ne_nil _ _, le_rfl, k, 0, rfl, le_rfl, ?_, iff_of_true rfl ?_⟩
    · rw [show (g.receive k s').loop = s' from rfl, hhead, hempty, hdropped, List.length_singleton]
      omega
    · refine Machine.all_snoc.mpr ⟨hall, fun _ hpend => ?_⟩
      obtain ⟨first, last, hsome', -⟩ := hpend
      cases hspan.symm.trans hsome'

/-- A later push counts the gap to the packet received before it.  What was
passed over between that packet and the last push is missing from then on. -/
theorem AccountInv.push {tr : List (Tracked × (IterInput × ℕ))} {g : Tracked}
    {inp : IterInput} {k first last : ℕ} {node : StatNode} {s' : ListenerState}
    (h : AccountInv lib set tr g) (hsock : inp.sockReadable = true)
    (horder : InOrder g.received k) (hspan : g.span = some (first, last))
    (hkept : ¬ DiscardedLate lib set inp.packet g.loop)
    (hhead : s'.stats.stackHead = node :: g.loop.stats.stackHead)
    (hdropped : s'.stats.droppedPackets = (countGap g.loop (u8 (k % 256 + 1))).droppedPackets)
    (hexp : s'.expectedSeq = (k + 1) % 256) :
    AccountInv lib set (tr ++ [(g, (inp, k))]) (g.receive k s') := by
  obtain ⟨hstack, hle, r, missing, hr, hlast, hsum, hmissing⟩ := h.pushed first last hspan
  obtain ⟨hk, hnext⟩ := horder
  obtain ⟨hlt, hnear⟩ := hnext r hr
  have hone : (g.receive k s').span = some (first, k) := by
    rw [Tracked.receive_span_grown k hhead, hspan]
  rw [countGap_droppedPackets (h.expected r hr).2 hlt hnear hstack (by omega)] at hdropped
  -- this step skips nothing exactly when the packet before it was pushed too
  have hskip : NoneSkipped lib set g (inp, k) ↔ r = last := by
    constructor
    · intro hnone
      by_contra hne
      refine hkept (hnone hsock ⟨first, last, hspan, fun heq => hne ?_⟩)
      exact Option.some.inj (hr.symm.trans heq)
    · rintro rfl _ ⟨first', last', hsome', hne⟩
      obtain ⟨-, rfl⟩ := Prod.mk.inj (Option.some.inj (hspan.symm.trans hsome'))
      exact absurd hr hne
  refine ⟨fun r' hr' => ?_, fun hnone => ?_, fun first' last' hsome => ?_⟩
  · obtain rfl := Option.some.inj hr'
    exact ⟨hk, hexp⟩
  · cases hone.symm.trans hnone
  · obtain ⟨rfl, rfl⟩ := Prod.mk.inj (Option.some.inj (hone.symm.trans hsome))
    refine ⟨hhead ▸ List.cons_ne_nil _ _, by omega, k, missing + (r - last), rfl, le_rfl, ?_, ?_⟩
    · rw [show (g.receive k s').loop = s' from rfl, hhead, hdropped, List.length_cons]
      omega
    · rw [Machine.all_snoc, hskip, ← hmissing]
      omega

/-- One call of `new_packet` on the next packet of the talker. -/
theorem AccountInv.call {tr : List (Tracked × (IterInput × ℕ))} {g : Tracked} {inp : IterInput}
    {k : ℕ} {s' : ListenerState} (h : AccountInv lib set tr g) (hsock : inp.sockReadable = true)
    (horder : InOrder g.received k)
    (hcase : CallCase lib set inp.packet k (atPoll inp g.loop) s') :
    AccountInv lib set (tr ++ [(g, (inp, k))]) (g.receive k s') := by
  have hseq : u8 (k % 256 + 1) = (k + 1) % 256 := by
    rw [u8]
    omega
  cases hcase with
  | discarded hlate hstats hexp => exact h.discard horder hlate hstats (hexp.trans hseq)
  | @pushed node hkept hstats hexp =>
      have hhead : s'.stats.stackHead = node :: g.loop.stats.stackHead := by
        rw [hstats]
        exact congrArg (node :: ·) (countGap_stackHead g.loop _)
      have hdropped : s'.stats.droppedPackets
          = (countGap g.loop (u8 (k % 256 + 1))).droppedPackets := by
        rw [hstats]
        rfl
      rcases hspan : g.span with - | ⟨first, last⟩
      · exact h.firstPush horder hspan hhead hdropped (hexp.trans hseq)
      · exact h.push hsock horder hspan hkept hhead hdropped (hexp.trans hseq)

/-! ### Every run -/

theorem PlayCase.keeps_stats {frames : ℕ} {timerReadable : Bool} {inp : IterInput}
    {s s' : ListenerState} (h : PlayCase recording frames timerReadable inp s s') :
    s'.stats = s.stats ∧ s'.expectedSeq = s.expectedSeq := by
  cases h <;> exact ⟨rfl, rfl⟩

theorem accountInv_run {tr : List (Tracked × (IterInput × ℕ))} {g : Tracked}
    (hrun : (trackedLoop lib set recording).Run tr g) : AccountInv lib set tr g := by
  induction hrun with
  | start h =>
      obtain rfl := h
      exact accountInv_init
  | @next tr g l g' _ hstep ih =>
      obtain ⟨inp, k⟩ := l
      obtain ⟨s', hiter, rfl, harr⟩ := hstep
      obtain ⟨s₁, hsocket, hplay⟩ := iteration_next hiter
      obtain ⟨hstats, hexp⟩ := hplay.keeps_stats
      cases hsocket with
      | silent hsock =>
          rw [Tracked.advance, hsock]
          exact (ih.silent hsock).congr rfl rfl hstats hexp
      | packet hsock hnew hrc =>
          -- the statistics are those of the call: playback does not touch them
          obtain ⟨harrives, horder⟩ := harr hsock
          have hcall := ih.call hsock horder (newPacket_callCase harrives (Or.inr hrc) hnew)
          rw [Tracked.advance, if_pos hsock]
          refine hcall.congr rfl ?_ hstats hexp
          simp only [Tracked.receive, hstats]
          rfl

theorem AccountInv.accounted_iff {tr : List (Tracked × (IterInput × ℕ))} {g : Tracked}
    (h : AccountInv lib set tr g) : Accounted g ↔ Machine.All (NoneSkipped lib set) tr := by
  rcases hs : g.span with - | ⟨first, last⟩
  · refine iff_of_true (fun first last hsome => ?_) (h.unpushed hs).2.2
    cases hs.symm.trans hsome
  · obtain ⟨-, hle, r, missing, -, -, hsum, hmissing⟩ := h.pushed first last hs
    rw [← hmissing]
    constructor
    · intro hacc
      have := hacc first last hs
      omega
    · rintro rfl first' last' hs'
      obtain ⟨rfl, rfl⟩ := Prod.mk.inj (Option.some.inj (hs.symm.trans hs'))
      omega

/-- **Accounting of the packets.**  After every call of `new_packet`, from the
first push on, 'Received packets' plus 'Dropped packets' is the number of
packets the talker sent over the span of the statistics exactly when, in the
run so far, no packet has been pushed over one that was discarded as late
after an earlier push. -/
theorem newPacket_accounts_iff {tr : List (Tracked × (IterInput × ℕ))} {g : Tracked}
    {inp : IterInput} {k : ℕ} {rc : ℤ} {s' : ListenerState}
    (hrun : (trackedLoop lib set recording).Run tr g) (hsock : inp.sockReadable = true)
    (harr : Arrives lib set inp.packet k) (horder : InOrder g.received k)
    (halloc : inp.packet.statMalloc = true)
    (hcall : newPacket lib set inp.packet (atPoll inp g.loop) = .ok (rc, s')) :
    Accounted (g.receive k s') ↔
      Machine.All (NoneSkipped lib set) (tr ++ [(g, (inp, k))]) :=
  ((accountInv_run hrun).call hsock horder
    (newPacket_callCase harr (Or.inl halloc) hcall)).accounted_iff

/-! ### A discard between two pushes -/

/-- The loop and its indices after an iteration on the mono stream. -/
def monoAdvance (g : Tracked) (l : IterInput × ℕ) : Tracked :=
  g.advance l.1 l.2 (((iteration ieee1722 monoSettings false l.1 g.loop).next?).getD g.loop)

theorem monoAdvance_run {tr : List (Tracked × (IterInput × ℕ))} {g : Tracked} {l : IterInput × ℕ}
    (hrun : (trackedLoop ieee1722 monoSettings false).Run tr g)
    (hnext : (iteration ieee1722 monoSettings false l.1 g.loop).next?.isSome = true)
    (harr : l.1.sockReadable = true →
      Arrives ieee1722 monoSettings l.1.packet l.2 ∧ InOrder g.received l.2) :
    (trackedLoop ieee1722 monoSettings false).Run (tr ++ [(g, l)]) (monoAdvance g l) := by
  refine hrun.next ⟨_, ?_, rfl, harr⟩
  rcases hiter : iteration ieee1722 monoSettings false l.1 g.loop with s | s | s | f <;>
    rw [hiter] at hnext
  · rfl
  · cases hnext
  · cases hnext
  · cases hnext

theorem arrives_monoPacket {k stamp : ℕ} {t : Timespec} {sample : Bytes}
    (h : (monoPacket (k % 256) stamp sample).length = 26 ∧
      checkStream ieee1722 monoSettings (monoPacket (k % 256) stamp sample) = .ok () ∧
      checkFormat ieee1722 monoSettings (monoPacket (k % 256) stamp sample) = .ok () ∧
      ieee1722.aafPduGet (monoPacket (k % 256) stamp sample) .seqNum = some (k % 256) ∧
      ieee1722.aafPduGet (monoPacket (k % 256) stamp sample) .timestamp = some stamp) :
    Arrives ieee1722 monoSettings (receives t (monoPacket (k % 256) stamp sample)).packet k := by
  obtain ⟨hlen, hstream, hformat, hseq, hstamp⟩ := h
  have htake : (monoPacket (k % 256) stamp sample).take monoSettings.pduSize
      = monoPacket (k % 256) stamp sample := List.take_of_length_le hlen.le
  exact ⟨t, stamp, monoPacket (k % 256) stamp sample, ⟨rfl, ⟨_, rfl, htake.symm⟩, hlen⟩,
    fun e => isValidPacket_eq_ok.mpr ⟨hstream, ⟨_, hseq⟩, hformat⟩, hseq, hstamp⟩

/-- Packet 0 arrives on time. -/
def firstInput : IterInput × ℕ := (receives ⟨10, 0⟩ (monoPacket 0 1412065408 [1, 2]), 0)

theorem firstInput_run : (trackedLoop ieee1722 monoSettings false).Run
    [(⟨listenerInit, none, none⟩, firstInput)]
    (monoAdvance ⟨listenerInit, none, none⟩ firstInput) := by
  refine monoAdvance_run (.start rfl) (by decide +kernel) fun _ => ⟨?_, by decide, ?_⟩
  · exact @arrives_monoPacket 0 _ _ _ (by decide +kernel)
  · intro r hr
    cases hr

/-- The fragment of packet 0 is played, which empties the queue. -/
def drainInput : IterInput × ℕ := (timerFires, 0)

/-- Packet 1 comes a millisecond late. -/
def lateInput : IterInput × ℕ := (receives ⟨10, 5000000⟩ (monoPacket 1 1414065408 [3, 4]), 1)

/-- Packet 2 is on time again. -/
def resumeInput : IterInput × ℕ := (receives ⟨10, 5500000⟩ (monoPacket 2 1416065408 [5, 6]), 2)

/-- The loop when packet 2 arrives. -/
def afterDiscard : Tracked :=
  [firstInput, drainInput, lateInput].foldl monoAdvance ⟨listenerInit, none, none⟩

theorem afterDiscard_run :
    ∃ tr, (trackedLoop ieee1722 monoSettings false).Run tr afterDiscard := by
  have hdrain := monoAdvance_run (l := drainInput) firstInput_run (by decide +kernel)
    fun hread => absurd hread (by decide)
  refine ⟨_, monoAdvance_run (l := lateInput) hdrain (by decide +kernel) fun _ => ⟨?_, by decide, ?_⟩⟩
  · exact @arrives_monoPacket 1 _ _ _ (by decide +kernel)
  · intro r hr
    have hzero : some r = some 0 := hr.symm.trans (by decide +kernel)
    obtain rfl := Option.some.inj hzero
    decide

/-- Two entries and no dropped packet, for the packets 0 to 2. -/
theorem newPacket_accounts_discard :
    ¬ ∀ (tr : List (Tracked × (IterInput × ℕ))) (g : Tracked) (inp : IterInput) (k : ℕ) (rc : ℤ)
      (s' : ListenerState), (trackedLoop ieee1722 monoSettings false).Run tr g →
      inp.sockReadable = true → Arrives ieee1722 monoSettings inp.packet k →
      InOrder g.received k → inp.packet.statMalloc = true →
      newPacket ieee1722 monoSettings inp.packet (atPoll inp g.loop) = .ok (rc, s') →
      Accounted (g.receive k s') := by
  intro h
  obtain ⟨tr, hrun⟩ := afterDiscard_run
  have hreceived : afterDiscard.received = some 1 := by decide +kernel
  have hcall := h tr afterDiscard resumeInput.1 2 0
    ((newPacket ieee1722 monoSettings resumeInput.1.packet
      (atPoll resumeInput.1 afterDiscard.loop)).toOption.getD (0, listenerInit)).2 hrun rfl
    (@arrives_monoPacket 2 _ _ _ (by decide +kernel))
    ⟨by decide, fun r hr => by
      obtain rfl := Option.some.inj (hreceived.symm.trans hr)
      decide⟩ rfl (by decide +kernel)
  have hsum := hcall 0 2 (by decide +kernel)
  revert hsum
  decide +kernel

/-- Packets 0 and 1, both on time. -/
theorem newPacket_accounts_onTime :
    ∃ s', newPacket ieee1722 monoSettings
        (receives ⟨10, 1000⟩ (monoPacket 1 1412085408 [3, 4])).packet
        (monoAdvance ⟨listenerInit, none, none⟩ firstInput).loop = .ok (0, s') ∧
      Accounted ((monoAdvance ⟨listenerInit, none, none⟩ firstInput).receive 1 s') := by
  have hreceived : (monoAdvance ⟨listenerInit, none, none⟩ firstInput).received = some 0 := by
    decide +kernel
  have hspan : (monoAdvance ⟨listenerInit, none, none⟩ firstInput).span = some (0, 0) := by
    decide +kernel
  refine ⟨((newPacket ieee1722 monoSettings
    (receives ⟨10, 1000⟩ (monoPacket 1 1412085408 [3, 4])).packet
    (monoAdvance ⟨listenerInit, none, none⟩ firstInput).loop).toOption.getD (0, listenerInit)).2,
    by decide +kernel, ?_⟩
  refine (@newPacket_accounts_iff _ _ _ _ _ (receives ⟨10, 1000⟩ (monoPacket 1 1412085408 [3, 4]))
    1 0 _ firstInput_run rfl (@arrives_monoPacket 1 _ _ _ (by decide +kernel)) ⟨by decide, ?_⟩ rfl
    (by decide +kernel)).mpr ?_
  · intro r hr
    obtain rfl := Option.some.inj (hreceived.symm.trans hr)
    decide
  · -- nothing has been discarded
    refine Machine.all_snoc.mpr ⟨Machine.all_snoc.mpr ⟨Machine.All.nil, ?_⟩, ?_⟩
    · rintro - ⟨first, last, hsome, -⟩
      cases hsome
    · rintro - ⟨first, last, hsome, hne⟩
      obtain ⟨-, rfl⟩ := Prod.mk.inj (Option.some.inj (hspan.symm.trans hsome))
      exact absurd hreceived hne

end Tram
