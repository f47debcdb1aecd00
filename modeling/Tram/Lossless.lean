/-
Tram/Lossless.lean

A stream over a network that loses nothing.

The packets of the talker reach the listener in their order, so each one comes
in its turn: the expected number is always its own, and no gap is counted
(`HeardInv`).  What is captured is then played, queued or under way, as long as
the listener discards no packet as late and neither end fails.
-/
import Tram.Accounting
import Tram.Stream

namespace Tram

variable {lib : Libavtp} {set : StreamSettings} {recording : Bool}

/-! ### What the listener hears -/

/-- The iteration ends the session with an error. -/
def LoopStep.failed : LoopStep → Bool
  | .goEnd _ _ => true
  | _ => false

/-- The datagram is no packet of the stream that is late and finds the queue
empty. -/
def NotDiscarded (lib : Libavtp) (set : StreamSettings) (s : ListenerState) (inp : PacketInput)
    (datagram : Bytes) : Prop :=
  ofStream lib set datagram = true → s.samples = [] → ∀ arrival ∈ inp.clock,
    ∀ avtpTime ∈ lib.aafPduGet (datagram.take set.pduSize) .timestamp,
      (getPresentationTime avtpTime arrival).1 ≠ 1

/-- The iteration goes on or ends the session as asked, and discards no packet
of the stream. -/
def LosesNothing (lib : Libavtp) (set : StreamSettings) (recording : Bool) (t : ListenerSession)
    (inp : IterInput) : Prop :=
  (iteration lib set recording inp t.loop).failed = false ∧
    ∀ datagram ∈ received inp, NotDiscarded lib set t.loop inp.packet datagram

instance (s : ListenerState) (inp : PacketInput) (datagram : Bytes) :
    Decidable (NotDiscarded lib set s inp datagram) :=
  inferInstanceAs (Decidable (_ → _ → ∀ arrival ∈ inp.clock,
    ∀ avtpTime ∈ lib.aafPduGet (datagram.take set.pduSize) .timestamp, _))

instance (t : ListenerSession) (inp : IterInput) :
    Decidable (LosesNothing lib set recording t inp) :=
  inferInstanceAs (Decidable (_ ∧ ∀ datagram ∈ received inp, _))

/-- The datagrams of the stream are accepted, and numbered from zero on. -/
def Numbered (lib : Libavtp) (set : StreamSettings) (datagrams : List Bytes) : Prop :=
  ∀ k datagram, (datagrams.filter (ofStream lib set))[k]? = some datagram →
    ∀ e, isValidPacket lib set (datagram.take set.pduSize) e = (.ok (), (k + 1) % 256)

theorem Numbered.before {ds ds' : List Bytes} (h : Numbered lib set (ds ++ ds')) :
    Numbered lib set ds := by
  intro k datagram hk
  refine h k datagram ?_
  rw [List.filter_append]
  exact List.getElem?_append_left (List.getElem?_eq_some_iff.mp hk).1 ▸ hk

theorem Numbered.last {ds : List Bytes} {datagram : Bytes}
    (h : Numbered lib set (ds ++ [datagram])) (hown : ofStream lib set datagram = true) (e : ℕ) :
    isValidPacket lib set (datagram.take set.pduSize) e
      = (.ok (), ((ds.filter (ofStream lib set)).length + 1) % 256) := by
  refine h _ datagram ?_ e
  rw [List.filter_append, List.filter_cons_of_pos hown]
  exact List.getElem?_concat_length

/-- The listener has kept every packet of the stream it has heard. -/
structure HeardInv (lib : Libavtp) (set : StreamSettings) (s : ListenerState)
    (heard : List Bytes) : Prop where
  buffers : buffers s = streamPayloads lib set heard
  expected : s.expectedSeq = (heard.filter (ofStream lib set)).length % 256
  stack : s.stats.stackHead.length = (heard.filter (ofStream lib set)).length
  dropped : s.stats.droppedPackets = 0

/-- The invariant does not look at the timer. -/
theorem HeardInv.congr {s s' : ListenerState} {heard : List Bytes} (h : HeardInv lib set s heard)
    (hbuffers : Tram.buffers s' = Tram.buffers s) (hexp : s'.expectedSeq = s.expectedSeq)
    (hstats : s'.stats = s.stats) : HeardInv lib set s' heard where
  buffers := hbuffers.trans h.buffers
  expected := hexp.trans h.expected
  stack := hstats ▸ h.stack
  dropped := hstats ▸ h.dropped

/-- A datagram of another stream leaves no trace. -/
theorem HeardInv.foreign {s : ListenerState} {heard : List Bytes} {datagram : Bytes}
    (h : HeardInv lib set s heard) (hother : ofStream lib set datagram = false) :
    HeardInv lib set s (heard ++ [datagram]) := by
  have hown : (heard ++ [datagram]).filter (ofStream lib set)
      = heard.filter (ofStream lib set) := by
    rw [List.filter_append, List.filter_cons_of_neg (by simp [hother]), List.filter_nil,
      List.append_nil]
  refine ⟨?_, hown ▸ h.expected, hown ▸ h.stack, h.dropped⟩
  rw [h.buffers, streamPayloads, streamPayloads, hown]

/-- A packet in its turn leaves no gap. -/
theorem HeardInv.countGap {s : ListenerState} {heard : List Bytes} (h : HeardInv lib set s heard) :
    countGap s (((heard.filter (ofStream lib set)).length + 1) % 256) = s.stats := by
  rw [Tram.countGap, if_neg]
  rw [h.expected, u8]
  omega

/-- One call of `new_packet`. -/
theorem HeardInv.newPacket {inp : IterInput} {s s' : ListenerState} {heard : List Bytes} {rc : ℤ}
    (h : HeardInv lib set s heard) (hpoll : inp.pollOk = true) (hsock : inp.sockReadable = true)
    (hnew : newPacket lib set inp.packet s = .ok (rc, s')) (hrc : ¬ rc < 0)
    (hkept : ∀ datagram ∈ received inp, NotDiscarded lib set s inp.packet datagram)
    (hnum : Numbered lib set (heard ++ (received inp).toList)) :
    HeardInv lib set s' (heard ++ (received inp).toList) := by
  cases newPacket_cases hnew with
  | nothing | noStamp | noNode | unscheduled => exact absurd (by decide) hrc
  | @rejected arrival pdu f seq hdel hbad =>
      obtain ⟨datagram, hreceived, rfl⟩ := received_of_delivers hpoll hsock hdel
      rw [hreceived, Option.toList] at hnum ⊢
      rcases hown : ofStream lib set datagram with - | -
      · -- of another stream: the expected number stays
        rcases hcheck : checkStream lib set (datagram.take set.pduSize) with e | ⟨⟩
        · rw [isValidPacket_foreign hcheck] at hbad
          obtain ⟨-, rfl⟩ := Prod.mk.inj hbad
          exact h.foreign hown
        · exact absurd (decide_eq_true hcheck) (by rw [← ofStream, hown]; decide)
      · rw [hnum.last hown] at hbad
        cases hbad
  | @late arrival pdu seq avtpTime hval hone hempty =>
      obtain ⟨datagram, hreceived, rfl⟩ := received_of_delivers hpoll hsock hval.delivers
      exact absurd hone (hkept datagram hreceived (ofStream_of_valid hval.valid) hempty
        arrival hval.delivers.clock _ hval.stamp)
  | @queued arrival pdu seq avtpTime timer hval =>
      obtain ⟨datagram, hreceived, rfl⟩ := received_of_delivers hpoll hsock hval.delivers
      have hown := ofStream_of_valid hval.valid
      rw [hreceived, Option.toList] at hnum ⊢
      obtain rfl : seq = _ := (congrArg Prod.snd (hval.valid.symm.trans (hnum.last hown _)))
      have hlength : ((heard ++ [datagram]).filter (ofStream lib set)).length
          = (heard.filter (ofStream lib set)).length + 1 := by
        rw [List.filter_append, List.filter_cons_of_pos hown]
        exact List.length_append
      refine ⟨?_, by rw [hlength]; rfl, ?_, ?_⟩
      · rw [streamPayloads_append, ← h.buffers, streamPayloads_own hown]
        simp [Tram.buffers, pushPacket, playedBuffers, entryOf, datagramPayload, payload]
      · show (Tram.countGap s _).stackHead.length + 1 = _
        rw [countGap_stackHead, hlength, h.stack]
      · simp only [pushPacket, h.countGap, h.dropped]

/-- One iteration. -/
theorem HeardInv.session {t t' : ListenerSession} {inp : IterInput} {heard : List Bytes}
    (h : HeardInv lib set t.loop heard) (hgood : LosesNothing lib set recording t inp)
    (hstep : (listenerSession lib set recording).step t inp t')
    (hnum : Numbered lib set (heard ++ (received inp).toList)) :
    HeardInv lib set t'.loop (heard ++ (received inp).toList) := by
  obtain ⟨hnoError, hkept⟩ := hgood
  have hthrough : iteration lib set recording inp t.loop = .next t'.loop ∨
      iteration lib set recording inp t.loop = .brk t'.loop := by
    obtain ⟨-, ⟨hnext, -⟩ | ⟨-, hbrk | ⟨res, hend⟩⟩⟩ := hstep
    · exact Or.inl hnext
    · exact Or.inr hbrk
    · rw [hend] at hnoError
      cases hnoError
  have hpoll : inp.pollOk = true := by
    by_contra hbad
    rw [iteration_poll (by simpa using hbad)] at hnoError
    cases hnoError
  obtain ⟨s₁, hsock, hplay⟩ := iteration_through hthrough
  have h₀ : HeardInv lib set (atPoll inp t.loop) heard := h.congr rfl rfl rfl
  have h₁ : HeardInv lib set (afterPoll inp s₁) (heard ++ (received inp).toList) := by
    cases hsock with
    | silent hsock =>
        have hnone : received inp = none := by
          rw [received, if_neg]
          rintro ⟨-, hread, -⟩
          cases hsock.symm.trans hread
        rw [hnone, Option.toList, List.append_nil]
        exact h₀.congr rfl rfl rfl
    | packet hsock hnew hrc =>
        exact (h₀.newPacket hpoll hsock hnew hrc hkept hnum).congr rfl rfl rfl
  obtain ⟨hstats, hexp⟩ := hplay.keeps_stats
  exact h₁.congr (playCase_buffers hplay) hexp hstats

/-- In a run that loses nothing every packet of the stream is kept. -/
theorem heardInv_run {tr : List (Observed ListenerSession Bytes × IterInput)}
    {o : Observed ListenerSession Bytes} (hrun : (hearingSession lib set recording).Run tr o)
    (hgood : Machine.All (LosesNothing lib set recording) (Machine.plain tr))
    (hnum : Numbered lib set o.seen) : HeardInv lib set o.state.loop o.seen := by
  induction hrun with
  | @start o h =>
      obtain ⟨hinit, hseen⟩ := h
      rw [hseen, show o.state = ⟨listenerInit, false⟩ from hinit]
      exact ⟨rfl, rfl, rfl, rfl⟩
  | @next tr o inp o' _ h ih =>
      obtain ⟨hstep, hseen⟩ := h
      obtain ⟨htr, hlast⟩ := Machine.all_snoc.mp (Machine.all_plain.mp hgood)
      rw [hseen] at hnum ⊢
      exact (ih (Machine.all_plain.mpr htr) hnum.before).session hlast hstep hnum

/-! ### What the talker sends -/

/-- The packets of a talker are accepted by a listener with the same settings,
when these fit the fields of a packet. -/
theorem numbered_sent (hlib : lib.Lawful) {o : Options} (ho : o.Admitted) {hw : AlsaGrant}
    (hset : nodeSettings lib o hw = some set) (hchannels : set.channels < 2 ^ 10)
    (hdata : set.dataLen < 2 ^ 16) {tr : List (Observed TalkerState Bytes × TalkerInput)}
    {s : Observed TalkerState Bytes} (hrun : (sendingTalker lib set).Run tr s) :
    (∀ datagram ∈ s.seen, ofStream lib set datagram = true) ∧ Numbered lib set s.seen := by
  have hroom : lib.sizeofStreamPdu ≤ set.pduSize := by
    rw [(nodeSettings_spec hset).pduSize, hlib.sizeofStreamPdu_eq, u32_of_lt (by omega)]
    omega
  have hfields := nodeSettings_fieldsFit hlib ho hset
  have hinv := talkerInv_run hlib hroom hrun.unobserve
  have hsent := sentInv_run hlib hrun
  have hpacket : ∀ {k pdu}, s.seen[k]? = some pdu →
      pdu.take set.pduSize = pdu ∧ StreamHeader lib set pdu ∧
        lib.aafPduGet pdu .seqNum = some (k % 256) := by
    intro k pdu hk
    have hlen := hsent.sizes pdu (List.mem_of_getElem? hk)
    obtain ⟨rest, hrest⟩ := hsent.before
    refine ⟨List.take_of_length_le hlen.le, hinv.sent k pdu ?_⟩
    rwa [← hrest, List.getElem?_append_left (List.getElem?_eq_some_iff.mp hk).1]
  have hown : ∀ datagram ∈ s.seen, ofStream lib set datagram = true := by
    intro datagram hmem
    obtain ⟨k, hk⟩ := List.mem_iff_getElem?.mp hmem
    obtain ⟨htake, hheader, -⟩ := hpacket hk
    rw [ofStream, htake]
    exact decide_eq_true (hheader.checkStream_ok hlib hfields.streamId)
  refine ⟨hown, fun k datagram hk e => ?_⟩
  rw [List.filter_eq_self.mpr hown] at hk
  obtain ⟨htake, hheader, hseq⟩ := hpacket hk
  have hok : (isValidPacket lib set datagram e).1 = .ok () := by
    rw [hheader.accepted_iff_of_fit hlib hseq hfields]
    exact ⟨rfl, rfl, rfl, Nat.mod_eq_of_lt hchannels, rfl, Nat.mod_eq_of_lt hdata⟩
  have hnext : (isValidPacket lib set datagram e).2 = (k + 1) % 256 := by
    rw [isValidPacket_seq (hheader.checkStream_ok hlib hfields.streamId) hseq, u8]
    omega
  rw [htake]
  exact Prod.ext hok hnext

/-- The iteration fills the payload of its packet, and `sendto` takes it. -/
def SendsBlock (lib : Libavtp) (set : StreamSettings) (s : TalkerState) (inp : TalkerInput) : Prop :=
  SendsFullRead lib set s inp ∧ 0 ≤ inp.sendRc

instance (s : TalkerState) (inp : TalkerInput) : Decidable (SendsBlock lib set s inp) :=
  inferInstanceAs (Decidable ((_ → _ = _) ∧ _))

/-- While no `sendto` fails, all PDUs are put on the network. -/
theorem seen_of_sends (hlib : lib.Lawful) {tr : List (Observed TalkerState Bytes × TalkerInput)}
    {s : Observed TalkerState Bytes} (hrun : (sendingTalker lib set).Run tr s)
    (hgood : Machine.All (SendsBlock lib set) (Machine.plain tr)) :
    s.seen = sentPdus s.state.log := by
  refine Machine.Run.invariant
    (I := fun o => o.seen = sentPdus o.state.log) ?_ ?_ hrun (Machine.all_plain.mp hgood)
  · rintro s ⟨⟨buffer, pdu, -, -, hstate⟩, hseen⟩
    rw [hseen, hstate]
    rfl
  · rintro s inp s' heq ⟨-, hrc⟩ ⟨⟨-, hiter⟩, hseen⟩
    obtain ⟨hsent, -⟩ := talkerIteration_sentPdus hlib hiter
    rw [hseen, transmitted_eq hsent, if_neg (by omega), heq, hsent]

/-! ### Every run -/

section Runs

variable {tr : List (Linked TalkerState Bytes ListenerSession × LinkLabel TalkerInput IterInput)}
  {g : Linked TalkerState Bytes ListenerSession}

/-- What is heard or under way is what was sent. -/
theorem filter_sent (hrun : (stream lib set recording .faithful).Run tr g) :
    (g.receiver.seen ++ g.flight).filter (ofStream lib set)
      = g.sender.seen.filter (ofStream lib set) :=
  hrun.link_becomes

theorem stream_heardInv (hlib : lib.Lawful) {o : Options} (ho : o.Admitted) {hw : AlsaGrant}
    (hset : nodeSettings lib o hw = some set) (hchannels : set.channels < 2 ^ 10)
    (hdata : set.dataLen < 2 ^ 16) (hrun : (stream lib set recording .faithful).Run tr g)
    (hkeeps : Machine.All (Machine.OnReceive (LosesNothing lib set recording)) tr) :
    HeardInv lib set g.receiver.state.loop g.receiver.seen := by
  obtain ⟨-, hnum⟩ := numbered_sent hlib ho hset hchannels hdata hrun.link_sender
  have hheard : Numbered lib set (g.receiver.seen ++ g.flight) := by
    intro k datagram hk
    rw [filter_sent hrun] at hk
    exact hnum k datagram hk
  exact heardInv_run hrun.link_receiver hkeeps.receiver hheard.before

/-- The payloads heard and those under way are the blocks captured. -/
theorem streamPayloads_captured (hlib : lib.Lawful) {o : Options} (ho : o.Admitted)
    {hw : AlsaGrant} (hset : nodeSettings lib o hw = some set) (hchannels : set.channels < 2 ^ 10)
    (hdata : set.dataLen < 2 ^ 16) (hrun : (stream lib set recording .faithful).Run tr g)
    (hsends : Machine.All (Machine.OnSend (SendsBlock lib set)) tr) :
    streamPayloads lib set (g.receiver.seen ++ g.flight)
      = capturedBlocks set (Machine.plain (Machine.senderPart tr)) := by
  have hsender : (sendingTalker lib set).Run (Machine.senderPart tr) g.sender := hrun.link_sender
  obtain ⟨hown, -⟩ := numbered_sent hlib ho hset hchannels hdata hsender
  calc streamPayloads lib set (g.receiver.seen ++ g.flight)
      = g.sender.seen.map (datagramPayload lib set) := by
        rw [streamPayloads, filter_sent hrun, List.filter_eq_self.mpr hown]
    _ = g.sender.seen.map fun pdu => pdu.drop lib.sizeofStreamPdu :=
        List.map_congr_left fun pdu hpdu => datagramPayload_eq (nodeSettings_room hset)
          ((sentInv_run hlib hsender).sizes pdu hpdu)
    _ = sentPayloads lib g.sender.state := by
        rw [seen_of_sends hlib hsender hsends.sender, sentPayloads]
    _ = capturedBlocks set (Machine.plain (Machine.senderPart tr)) :=
        sentPayloads_of_full hlib hsender.unobserve fun p hp => (hsends.sender p hp).1

/-- The blocks captured are played, queued or under way. -/
theorem capturedBlocks_split (hlib : lib.Lawful) {o : Options} (ho : o.Admitted) {hw : AlsaGrant}
    (hset : nodeSettings lib o hw = some set) (hchannels : set.channels < 2 ^ 10)
    (hdata : set.dataLen < 2 ^ 16) (hrun : (stream lib set recording .faithful).Run tr g)
    (hsends : Machine.All (Machine.OnSend (SendsBlock lib set)) tr)
    (hkeeps : Machine.All (Machine.OnReceive (LosesNothing lib set recording)) tr) :
    capturedBlocks set (Machine.plain (Machine.senderPart tr))
      = playedBuffers g.receiver.state.loop.log
        ++ g.receiver.state.loop.samples.map SampleEntry.pcmSample
        ++ streamPayloads lib set g.flight := by
  have hinv := stream_heardInv hlib ho hset hchannels hdata hrun hkeeps
  rw [← streamPayloads_captured hlib ho hset hchannels hdata hrun hsends, streamPayloads_append,
    ← hinv.buffers]
  rfl

/-- **All that is captured.**  Over a network that loses no datagram, with
channels that fit 10 bits and a data length that fits 16 bits, in every run in
which the talker sends whole blocks and the listener neither fails nor discards
a packet as late: the blocks captured are the buffers played, those queued and
the payloads still under way, in this order.  Every packet received
is in the statistics, and none is counted as dropped. -/
theorem stream_complete (hlib : lib.Lawful) {o : Options} (ho : o.Admitted) {hw : AlsaGrant}
    (hset : nodeSettings lib o hw = some set) (hchannels : set.channels < 2 ^ 10)
    (hdata : set.dataLen < 2 ^ 16) (hrun : (stream lib set recording .faithful).Run tr g)
    (hsends : Machine.All (Machine.OnSend (SendsBlock lib set)) tr)
    (hkeeps : Machine.All (Machine.OnReceive (LosesNothing lib set recording)) tr) :
    capturedBlocks set (Machine.plain (Machine.senderPart tr))
        = playedBuffers g.receiver.state.loop.log
          ++ g.receiver.state.loop.samples.map SampleEntry.pcmSample
          ++ streamPayloads lib set g.flight ∧
      g.receiver.state.loop.stats.stackHead.length
        + (g.flight.filter (ofStream lib set)).length
          = (capturedBlocks set (Machine.plain (Machine.senderPart tr))).length ∧
      g.receiver.state.loop.stats.droppedPackets = 0 := by
  have hinv := stream_heardInv hlib ho hset hchannels hdata hrun hkeeps
  refine ⟨capturedBlocks_split hlib ho hset hchannels hdata hrun hsends hkeeps, ?_, hinv.dropped⟩
  rw [← streamPayloads_captured hlib ho hset hchannels hdata hrun hsends, hinv.stack,
    ← List.length_append, ← List.filter_append, streamPayloads, List.length_map]

end Runs

/-- Two blocks of the mono stream are sent and received, and the first one is
played. -/
theorem monoStream_run :
    ∃ tr g, (stream ieee1722 monoSettings true .faithful).Run tr g ∧
      Machine.All (Machine.OnSend (SendsBlock ieee1722 monoSettings)) tr ∧
      Machine.All (Machine.OnReceive (LosesNothing ieee1722 monoSettings true)) tr ∧
      playedBuffers g.receiver.state.loop.log = [[1, 2]] ∧
      g.receiver.state.loop.samples.map SampleEntry.pcmSample = [[3, 4]] ∧
      streamPayloads ieee1722 monoSettings g.flight = [] := by
  have hexec : (Machine.execute (fun g l =>
      if Machine.OnSend (SendsBlock ieee1722 monoSettings) g l ∧
        Machine.OnReceive (LosesNothing ieee1722 monoSettings true) g l
      then monoStreamNext true g l else none) monoLink
      (monoSends ++ playInputs.map .receive)).map (fun g =>
        (playedBuffers g.receiver.state.loop.log,
          g.receiver.state.loop.samples.map SampleEntry.pcmSample,
          streamPayloads ieee1722 monoSettings g.flight)) = some ([[1, 2]], [[3, 4]], []) := by
    decide +kernel
  obtain ⟨g, hg, hview⟩ := Option.map_eq_some_iff.mp hexec
  obtain ⟨hplayed, hrest⟩ := Prod.mk.inj hview
  obtain ⟨hqueue, hflight⟩ := Prod.mk.inj hrest
  obtain ⟨tr, hrun, hgood, -⟩ := Machine.Run.execute_good
    (M := stream ieee1722 monoSettings true .faithful) (fun _ _ _ => monoStreamNext_step)
    (monoLink_init true .faithful) hg
  exact ⟨tr, g, hrun, fun p hp => (hgood p hp).1, fun p hp => (hgood p hp).2, hplayed, hqueue,
    hflight⟩

/-- One of the two blocks is played, the other one queued. -/
theorem stream_complete_played :
    ∃ tr g, (stream ieee1722 monoSettings true .faithful).Run tr g ∧
      playedBuffers g.receiver.state.loop.log = [[1, 2]] ∧
      capturedBlocks monoSettings (Machine.plain (Machine.senderPart tr))
        = [[1, 2]] ++ [[3, 4]] ++ [] ∧
      g.receiver.state.loop.stats.droppedPackets = 0 := by
  obtain ⟨tr, g, hrun, hsends, hkeeps, hplayed, hqueue, hflight⟩ := monoStream_run
  obtain ⟨hall, -, hdropped⟩ := stream_complete ieee1722_lawful monoOptions_admitted
    monoSettings_node (by decide) (by decide) hrun hsends hkeeps
  refine ⟨tr, g, hrun, hplayed, ?_, hdropped⟩
  rw [hall, hplayed, hqueue, hflight]

end Tram
