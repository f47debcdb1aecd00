/-
Tram/Measurement.lean

What the statistics of a stream measure (`avb_aaf.c`, `avb_stats.c`).

The talker stamps a packet with its own clock, and the listener takes the stamp
apart again, on its own side of a network that loses packets.  Each entry of
the statistics belongs to a reading of the talker's clock, and the entries are
in the order of the readings (`exists_readings`).  The time stored for an entry is
the one from that reading to the arrival exactly when the presentation time and
the arrival lie in the same block of `2 ^ 32` ns (`stream_measures`).  A stamp says
which reading it was up to multiples of `2 ^ 32` ns, so what is stated of readings
is stated of all that fit.
-/
import Mathlib.Data.List.Forall2
import Tram.Lossless
import Tram.StoredTimes

namespace Tram

variable {lib : Libavtp} {set : StreamSettings} {recording : Bool}

/-! ### The stamps of the talker -/

/-- The readings of the clock in the iterations that came to `sendto`. -/
def sendClocks (tr : List (TalkerState × TalkerInput)) : List Timespec :=
  tr.filterMap fun p => p.2.clock

/-- The time stamp of a packet sent at `clock`. -/
def stampOf (set : StreamSettings) (clock : Timespec) : ℕ :=
  (clock.ns + set.maxTransitTime * nsecPerMsec) % 2 ^ 32

theorem stampOf_lt (set : StreamSettings) (clock : Timespec) : stampOf set clock < 2 ^ 32 :=
  Nat.mod_lt _ (by decide)

/-- A packet carries the stamp of its iteration. -/
theorem talkerIteration_stamp (hlib : lib.Lawful) {inp : TalkerInput} {s s' : TalkerState}
    (h : talkerIteration lib set inp s = .ok s') {clock : Timespec}
    (hclock : inp.clock = some clock) :
    lib.aafPduGet s'.pdu .timestamp = some (stampOf set clock) := by
  have hroom := (talkerIteration_sends hlib h).1
  rw [talkerIteration] at h
  rcases hread : avbAlsaRead lib set inp s with f | s₁
  · rw [hread] at h
    cases h
  rw [hread] at h
  obtain rfl := Except.ok.inj h
  obtain ⟨hlen, -⟩ := avbAlsaRead_ok hread
  have hheader : lib.sizeofStreamPdu ≤ s₁.pdu.length := by omega
  obtain ⟨pdu₁, hstamp⟩ := hlib.set_isSome s₁.pdu .timestamp (stampOf set clock) hheader
  have hheader₁ : lib.sizeofStreamPdu ≤ pdu₁.length := by rwa [hlib.set_length hstamp]
  obtain ⟨pdu₂, hnum⟩ := hlib.set_isSome pdu₁ .seqNum s₁.seqNum hheader₁
  have hget : lib.aafPduGet pdu₂ .timestamp = some (stampOf set clock) := by
    rw [hlib.get_set_other hheader₁ (by decide) hnum, hlib.get_set_same hheader hstamp]
    exact congrArg some (Nat.mod_eq_of_lt (stampOf_lt set clock))
  have htime : calculateAvtpTime (some clock) set.maxTransitTime = some (stampOf set clock) :=
    calculateAvtpTime_some clock set.maxTransitTime
  simp only [stampAndSend, hclock, htime, hstamp, hnum]
  split
  · exact hget
  split
  · exact hget
  · exact hget

/-- In every run the packets sent carry the stamps of the readings, in order. -/
theorem sentPdus_stamps (hlib : lib.Lawful) {tr : List (TalkerState × TalkerInput)}
    {s : TalkerState} (hrun : (talkerLoop lib set).Run tr s) :
    (sentPdus s.log).map (lib.aafPduGet · .timestamp)
      = (sendClocks tr).map fun clock => some (stampOf set clock) := by
  induction hrun with
  | start h =>
      obtain ⟨buffer, pdu, -, -, rfl⟩ := h
      rfl
  | @next tr s inp s' _ hstep ih =>
      obtain ⟨-, hiter⟩ := hstep
      rw [(talkerIteration_sentPdus hlib hiter).1, sendClocks, List.filterMap_append, List.map_append,
        List.map_append, ih]
      refine congrArg _ ?_
      rcases hclock : inp.clock with - | clock
      · simp [hclock]
      · simp [hclock, talkerIteration_stamp hlib hiter hclock]

/-! ### The packets of the listener -/

/-- The packets in the statistics are made of the datagrams received. -/
theorem gathers_packets : Gathers lib set recording (fun s => (pushedPackets s.log).map Prod.snd)
    (·.take set.pduSize) where
  init := rfl
  timer := fun _ _ => rfl
  running := fun _ _ => rfl
  play := by
    intro frames timerReadable inp s s' h
    cases h with
    | idle => rfl
    | played => rw [pushedPackets_append, pushedPackets_playEvents, List.append_nil]
  packet := by
    intro inp s s' rc hpoll hsock h
    cases newPacket_cases h with
    | nothing | rejected | noStamp | late | noNode => exact .same rfl
    | unscheduled hval | queued hval =>
        obtain ⟨datagram, hreceived, rfl⟩ := received_of_delivers hpoll hsock hval.delivers
        refine .grown hreceived (ofStream_of_valid hval.valid) ?_
        simp [pushPacket, pushedPackets]

theorem statsInv_session {tr : List (ListenerSession × IterInput)} {t : ListenerSession}
    (hrun : (listenerSession lib set recording).Run tr t) : StatsInv lib t.loop := by
  refine Machine.Run.invariant_of_step (I := fun t => StatsInv lib t.loop) ?_ ?_ hrun
  · rintro t rfl
    exact statsInv_init
  · rintro t inp t' h ⟨-, ⟨hnext, -⟩ | ⟨-, hbrk | ⟨res, hend⟩⟩⟩
    · exact h.through (Or.inl hnext)
    · exact h.through (Or.inr hbrk)
    · exact h.goEnd hend

/-! ### One entry -/

/-- The entry of a packet that has been stamped at `clock`. -/
def Measures (set : StreamSettings) (node : StatNode) (clock : Timespec) : Prop :=
  node.presentation.toNs = splice (2 ^ 32) node.arrival.toNs (stampOf set clock)

/-- The packet arrives in the block of its presentation time. -/
def SameBlock (set : StreamSettings) (node : StatNode) (clock : Timespec) : Prop :=
  node.arrival.toNs / 2 ^ 32 = u64 (clock.ns + transitNs set) / 2 ^ 32

instance (set : StreamSettings) (node : StatNode) (clock : Timespec) :
    Decidable (SameBlock set node clock) := inferInstanceAs (Decidable (_ = _))

/-- The time from a reading of the talker's clock to the arrival. -/
def elapsed (node : StatNode) (clock : Timespec) : ℕ := subU64 node.arrival.toNs clock.toNs

/-- The times between readings, the newest one first. -/
def clockDeltas : List Timespec → List ℕ
  | [] => []
  | [_] => []
  | clock :: next :: rest => subU64 clock.toNs next.toNs :: clockDeltas (next :: rest)

theorem Stamped.measures {p : StatNode × Bytes} (h : Stamped lib p) {clock : Timespec}
    (hstamp : lib.aafPduGet p.2 .timestamp = some (stampOf set clock)) :
    Measures set p.1 clock := by
  obtain ⟨avtpTime, hread, hpresentation⟩ := h
  obtain rfl := Option.some.inj (hread.symm.trans hstamp)
  have hlt := stampOf_lt set clock
  rw [Measures, hpresentation, getPresentationTime_eq hlt, Timespec.toNs_of_lt, Timespec.ns_ofNs]
  rw [Timespec.ns_ofNs]
  exact splice_toNs_lt _ hlt

theorem nodeSettings_transit {o : Options} {hw : AlsaGrant}
    (hset : nodeSettings lib o hw = some set) :
    set.maxTransitTime * nsecPerMsec = transitNs set := by
  rw [transitNs, u32_of_lt]
  rw [(nodeSettings_spec hset).maxTransitTime]
  exact intToU32_lt _

theorem subU64_right_inj {a b c : ℕ} : subU64 a b = subU64 a c ↔ u64 b = u64 c := by
  simp only [subU64, u64]
  omega

theorem u64_subU64_eq_iff {a b c : ℕ} : u64 (subU64 a b) = u64 c ↔ u64 a = u64 (c + b) := by
  simp only [subU64, u64]
  omega

theorem subU64_subU64 (a b c : ℕ) : subU64 (subU64 a c) (subU64 b c) = subU64 a b := by
  simp only [subU64]
  omega

/-- In terms of the presentation time as a `uint64_t`. -/
theorem Measures.presentation (htransit : set.maxTransitTime * nsecPerMsec = transitNs set)
    {node : StatNode} {clock : Timespec} (h : Measures set node clock) :
    node.presentation.toNs = u64 (clock.ns + transitNs set) ↔ SameBlock set node clock := by
  have hlow : stampOf set clock = u64 (clock.ns + transitNs set) % 2 ^ 32 := by
    rw [stampOf, htransit, u64]
    omega
  rw [h, hlow]
  exact splice_mod_eq_iff (by decide) _ _

/-- The travel time is the time elapsed exactly within one block. -/
theorem Measures.travelTime_eq_iff (htransit : set.maxTransitTime * nsecPerMsec = transitNs set)
    {node : StatNode} {clock : Timespec} (h : Measures set node clock) :
    travelTime set node = elapsed node clock ↔ SameBlock set node clock := by
  have hclock : u64 clock.toNs = u64 clock.ns := Nat.mod_mod _ _
  have hpresentation : u64 node.presentation.toNs = node.presentation.toNs := Nat.mod_mod _ _
  rw [travelTime, elapsed, subU64_right_inj, hclock, u64_subU64_eq_iff, hpresentation,
    h.presentation htransit]

/-- Within one block the difference of two entries is that of the readings. -/
theorem Measures.captureDelta_eq (htransit : set.maxTransitTime * nsecPerMsec = transitNs set)
    (hw : ℕ) {node next : StatNode} {clock clock' : Timespec} (h : Measures set node clock)
    (h' : Measures set next clock') (hsame : SameBlock set node clock)
    (hsame' : SameBlock set next clock') :
    captureDelta hw set node next = subU64 clock.toNs clock'.toNs := by
  have hcapture : ∀ t : Timespec, subU64 (u64 (t.ns + transitNs set)) (transitNs set) = t.toNs := by
    intro t
    have hsum : u64 (u64 (t.ns + transitNs set)) = u64 (t.ns + transitNs set) := Nat.mod_mod _ _
    exact (Nat.mod_mod _ _).symm.trans (u64_subU64_eq_iff.mpr hsum)
  rw [captureDelta, avbStatsGetCapTime_toNs, avbStatsGetCapTime_toNs,
    (h.presentation htransit).mpr hsame, (h'.presentation htransit).mpr hsame', hcapture, hcapture,
    subU64_subU64]

/-! ### The whole stack -/

/-- On allocated arrays, `avb_stats_process_stats` stores these travel times and
these capture deltas for the stack. -/
def StoresTimes (hw : ℕ) (set : StreamSettings) (stack : List StatNode) (travels deltas : List ℕ) :
    Prop :=
  ∀ travelArr deltaCapArr : HeapArray,
    travelArr.Filled [] stack.length → deltaCapArr.Filled [] (stack.length - 1) →
    ∃ travelArr' deltaCapArr',
      traverse hw set stack 0 travelArr deltaCapArr = .ok (travelArr', deltaCapArr') ∧
      travelArr'.Filled travels 0 ∧ deltaCapArr'.Filled deltas 0

theorem storesTimes_iff {hw : ℕ} {stack : List StatNode} {travels deltas : List ℕ} :
    StoresTimes hw set stack travels deltas ↔
      travels = stack.map (travelTime set) ∧ deltas = captureDeltas hw set stack := by
  constructor
  · intro h
    have ht := HeapArray.filled_malloc (8 * stack.length)
    have hd := HeapArray.filled_malloc (8 * (stack.length - 1))
    rw [Nat.mul_div_cancel_left _ (by decide)] at ht hd
    obtain ⟨t, d, htraverse, ht', hd'⟩ := h _ _ ht hd
    obtain ⟨t₁, d₁, htraverse₁, ht₁, hd₁⟩ := traverse_filled hw set stack ht hd rfl
    obtain ⟨rfl, rfl⟩ := Prod.mk.inj (Except.ok.inj (htraverse.symm.trans htraverse₁))
    exact ⟨ht'.unique ht₁, hd'.unique hd₁⟩
  · rintro ⟨rfl, rfl⟩ t d ht hd
    exact traverse_filled hw set stack ht hd rfl

theorem travelTimes_eq_iff (htransit : set.maxTransitTime * nsecPerMsec = transitNs set)
    {stack : List StatNode} {clocks : List Timespec}
    (h : List.Forall₂ (Measures set) stack clocks) :
    List.zipWith elapsed stack clocks = stack.map (travelTime set) ↔
      List.Forall₂ (SameBlock set) stack clocks := by
  induction h with
  | nil => exact iff_of_true rfl .nil
  | cons hfirst _ ih =>
      rw [List.zipWith_cons_cons, List.map_cons, List.cons.injEq, ih, List.forall₂_cons,
        ← hfirst.travelTime_eq_iff htransit]
      exact and_congr_left fun _ => eq_comm

theorem clockDeltas_eq (htransit : set.maxTransitTime * nsecPerMsec = transitNs set) (hw : ℕ)
    {stack : List StatNode} {clocks : List Timespec}
    (h : List.Forall₂ (Measures set) stack clocks)
    (hsame : List.Forall₂ (SameBlock set) stack clocks) :
    clockDeltas clocks = captureDeltas hw set stack := by
  induction h with
  | nil => rfl
  | cons hfirst hrest ih =>
      obtain ⟨hsame₁, hsames⟩ := List.forall₂_cons.mp hsame
      have ih := ih hsames
      cases hrest with
      | nil => rfl
      | cons hsecond hmore =>
          rw [clockDeltas, captureDeltas, ih, hfirst.captureDelta_eq htransit hw hsecond hsame₁
            (List.forall₂_cons.mp hsames).1]

/-- Elapsed times and differences of readings are stored exactly when every
packet arrives in the block of its presentation time. -/
theorem storesTimes_measured (htransit : set.maxTransitTime * nsecPerMsec = transitNs set) (hw : ℕ)
    {stack : List StatNode} {clocks : List Timespec}
    (h : List.Forall₂ (Measures set) stack clocks) :
    StoresTimes hw set stack (List.zipWith elapsed stack clocks) (clockDeltas clocks) ↔
      List.Forall₂ (SameBlock set) stack clocks := by
  rw [storesTimes_iff, travelTimes_eq_iff htransit h]
  exact and_iff_left_of_imp (clockDeltas_eq htransit hw h)

/-! ### Every run -/

section Runs

variable {tr : List (Linked TalkerState Bytes ListenerSession × LinkLabel TalkerInput IterInput)}
  {g : Linked TalkerState Bytes ListenerSession}

/-- The packets in the statistics are packets sent, in their order. -/
theorem pushedPackets_sent (hlib : lib.Lawful)
    (hrun : (stream lib set recording .lossy).Run tr g) :
    List.Sublist ((pushedPackets g.receiver.state.loop.log).map Prod.snd)
      (sentPdus g.sender.state.log) := by
  have hsent := sentInv_run hlib (o := g.sender) hrun.link_sender
  have hnet : List.Sublist ((g.receiver.seen ++ g.flight).filter (ofStream lib set))
      (g.sender.seen.filter (ofStream lib set)) := hrun.link_becomes
  have hheard : List.Sublist (g.receiver.seen.filter (ofStream lib set)) g.sender.seen := by
    rw [List.filter_append] at hnet
    exact ((List.sublist_append_left _ _).trans hnet).trans List.filter_sublist
  have hwhole : g.sender.seen.map (·.take set.pduSize) = g.sender.seen := by
    refine (List.map_congr_left fun pdu hpdu => ?_).trans (List.map_id _)
    exact List.take_of_length_le (hsent.sizes pdu hpdu).le
  calc List.Sublist ((pushedPackets g.receiver.state.loop.log).map Prod.snd)
        ((g.receiver.seen.filter (ofStream lib set)).map (·.take set.pduSize)) :=
          gathers_packets.sublist (o := g.receiver) hrun.link_receiver
    List.Sublist _ (g.sender.seen.map (·.take set.pduSize)) := hheard.map _
    List.Sublist _ (sentPdus g.sender.state.log) := by
      rw [hwhole]
      exact hsent.before.sublist

/-- Packets with the stamps of some readings are measured from these. -/
theorem stackHead_measures {s : ListenerState} (hinv : StatsInv lib s) {clocks : List Timespec}
    (hstamps : (pushedPackets s.log).map (fun p => lib.aafPduGet p.2 .timestamp)
      = clocks.map fun clock => some (stampOf set clock)) :
    List.Forall₂ (Measures set) s.stats.stackHead clocks.reverse := by
  have hpairs := (congrFun (congrFun List.forall₂_eq_eq_eq _) _).mpr hstamps
  rw [List.forall₂_map_left_iff, List.forall₂_map_right_iff] at hpairs
  rw [hinv.stack, List.forall₂_reverse_iff, pushedNodes, List.forall₂_map_left_iff]
  refine ((List.forall₂_and_left _ _).mpr ⟨hinv.stamped, hpairs⟩).imp ?_
  rintro p clock ⟨hstamped, hstamp⟩
  exact hstamped.measures hstamp

/-- The entries belong to readings, in their order. -/
theorem exists_readings (hlib : lib.Lawful)
    (hrun : (stream lib set recording .lossy).Run tr g) :
    ∃ clocks, List.Sublist clocks (sendClocks (Machine.plain (Machine.senderPart tr))).reverse ∧
      List.Forall₂ (Measures set) g.receiver.state.loop.stats.stackHead clocks := by
  have hsender : (sendingTalker lib set).Run (Machine.senderPart tr) g.sender := hrun.link_sender
  have hlistener : (hearingSession lib set recording).Run (Machine.receiverPart tr) g.receiver :=
    hrun.link_receiver
  have hpackets := (pushedPackets_sent hlib hrun).map (lib.aafPduGet · .timestamp)
  rw [sentPdus_stamps hlib hsender.unobserve, List.map_map] at hpackets
  obtain ⟨clocks, hclocks, hstamps⟩ := List.sublist_map_iff.mp hpackets
  exact ⟨clocks.reverse, hclocks.reverse,
    stackHead_measures (statsInv_session hlistener.unobserve) hstamps⟩

/-- The readings in a history, from its labels. -/
theorem sendClocks_labels
    (tr : List (Linked TalkerState Bytes ListenerSession × LinkLabel TalkerInput IterInput)) :
    sendClocks (Machine.plain (Machine.senderPart tr)) = (tr.map Prod.snd).filterMap fun
      | .send inp => inp.clock
      | _ => none := by
  induction tr with
  | nil => rfl
  | cons p rest ih =>
      rw [List.map_cons, List.filterMap_cons, ← ih]
      rcases p with ⟨g, inp | - | inp⟩
      · rfl
      · rfl
      · rfl

/-- The packets in the statistics are the first ones sent, if none is lost. -/
theorem pushedPackets_first (hlib : lib.Lawful) {o : Options} (ho : o.Admitted)
    {grant : AlsaGrant} (hset : nodeSettings lib o grant = some set)
    (hchannels : set.channels < 2 ^ 10) (hdata : set.dataLen < 2 ^ 16)
    (hrun : (stream lib set recording .faithful).Run tr g)
    (hkeeps : Machine.All (Machine.OnReceive (LosesNothing lib set recording)) tr) :
    (pushedPackets g.receiver.state.loop.log).map Prod.snd <+: sentPdus g.sender.state.log := by
  have hsender : (sendingTalker lib set).Run (Machine.senderPart tr) g.sender := hrun.link_sender
  have hlistener : (hearingSession lib set recording).Run (Machine.receiverPart tr) g.receiver :=
    hrun.link_receiver
  have hsent := sentInv_run hlib hsender
  have hheard := stream_heardInv hlib ho hset hchannels hdata hrun hkeeps
  obtain ⟨hown, -⟩ := numbered_sent hlib ho hset hchannels hdata hsender
  -- as many entries as packets heard
  have hall : (pushedPackets g.receiver.state.loop.log).map Prod.snd
      = (g.receiver.seen.filter (ofStream lib set)).map (·.take set.pduSize) := by
    refine (gathers_packets.sublist hlistener).eq_of_length ?_
    rw [List.length_map, List.length_map, ← hheard.stack,
      (statsInv_session hlistener.unobserve).stack, List.length_reverse, pushedNodes,
      List.length_map]
  have hfirst : g.receiver.seen.filter (ofStream lib set) <+: g.sender.seen := by
    have hnet := filter_sent hrun
    rw [List.filter_append, List.filter_eq_self.mpr hown] at hnet
    exact ⟨_, hnet⟩
  have hwhole : (g.receiver.seen.filter (ofStream lib set)).map (·.take set.pduSize)
      = g.receiver.seen.filter (ofStream lib set) := by
    refine (List.map_congr_left fun pdu hpdu => ?_).trans (List.map_id _)
    exact List.take_of_length_le (hsent.sizes pdu (hfirst.subset hpdu)).le
  rw [hall, hwhole]
  exact hfirst.trans hsent.before

/-- The entries belong to the first readings, one to each, if none is lost. -/
theorem exists_first_readings (hlib : lib.Lawful) {o : Options} (ho : o.Admitted)
    {grant : AlsaGrant} (hset : nodeSettings lib o grant = some set)
    (hchannels : set.channels < 2 ^ 10) (hdata : set.dataLen < 2 ^ 16)
    (hrun : (stream lib set recording .faithful).Run tr g)
    (hkeeps : Machine.All (Machine.OnReceive (LosesNothing lib set recording)) tr) :
    ∃ clocks, clocks <+: sendClocks (Machine.plain (Machine.senderPart tr)) ∧
      List.Forall₂ (Measures set) g.receiver.state.loop.stats.stackHead clocks.reverse := by
  have hsender : (sendingTalker lib set).Run (Machine.senderPart tr) g.sender := hrun.link_sender
  have hlistener : (hearingSession lib set recording).Run (Machine.receiverPart tr) g.receiver :=
    hrun.link_receiver
  have hpackets := (pushedPackets_first hlib ho hset hchannels hdata hrun hkeeps).map
    (lib.aafPduGet · .timestamp)
  rw [sentPdus_stamps hlib hsender.unobserve, List.map_map, List.prefix_iff_eq_take,
    ← List.map_take] at hpackets
  exact ⟨_, List.take_prefix _ _,
    stackHead_measures (statsInv_session hlistener.unobserve) hpackets⟩

end Runs

end Tram
