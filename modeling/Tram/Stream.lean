/-
Tram/Stream.lean

A whole stream: the talker, the network and the listener (`avb_aaf.c`).

The network is shared with other streams.  `OfStream` tells the datagrams of
this one; what the others put on the network, and when, is left open, and the
datagrams of the stream all come from its talker.

`buffers` are the payloads the listener has played or has queued.  An
iteration, however it ends, adds at most the payload of the packet it received
(`Gathers.session`), and a lossy network cannot bring back what it lost: so
what the listener plays is a subsequence of what the talker captured.
-/
import Tram.Agreement
import Tram.Channel
import Tram.Freshness
import Tram.Playback

namespace Tram

variable {lib : Libavtp} {set : StreamSettings} {recording : Bool} {D : Discipline Bytes}

/-! ### The two ends -/

/-- The listener at the top of its loop, or behind it. -/
structure ListenerSession where
  loop : ListenerState
  left : Bool
deriving DecidableEq, Repr

/-- The loop of `avb_aaf_listener` with the iteration that leaves it. -/
def listenerSession (lib : Libavtp) (set : StreamSettings) (recording : Bool) :
    Machine ListenerSession IterInput where
  init := fun t => t = ⟨listenerInit, false⟩
  step := fun t inp t' => t.left = false ∧
    (iteration lib set recording inp t.loop = .next t'.loop ∧ t'.left = false ∨
      t'.left = true ∧ (iteration lib set recording inp t.loop = .brk t'.loop ∨
        ∃ res, iteration lib set recording inp t.loop = .goEnd res t'.loop))

/-- What an iteration of the talker puts on the network: the PDU handed to
`sendto`, unless that fails. -/
def transmitted (s : TalkerState) (inp : TalkerInput) (s' : TalkerState) : List Bytes :=
  if inp.sendRc < 0 then [] else (sentPdus s'.log).drop (sentPdus s.log).length

/-- The datagram an iteration of the listener takes from its socket. -/
def received (inp : IterInput) : Option Bytes :=
  if inp.pollOk ∧ inp.sockReadable ∧ inp.packet.clock.isSome then inp.packet.recv else none

/-- The datagram carries the id of the stream. -/
def ofStream (lib : Libavtp) (set : StreamSettings) (datagram : Bytes) : Bool :=
  decide (checkStream lib set (datagram.take set.pduSize) = .ok ())

/-- Talker and listener of one stream, on a network of the discipline `D`. -/
def stream (lib : Libavtp) (set : StreamSettings) (recording : Bool) (D : Discipline Bytes) :
    Machine (Linked TalkerState Bytes ListenerSession) (LinkLabel TalkerInput IterInput) :=
  Machine.link (talkerLoop lib set) (listenerSession lib set recording)
    (D.shared (ofStream lib set)) transmitted received

/-- The listener with the datagrams it has taken. -/
def hearingSession (lib : Libavtp) (set : StreamSettings) (recording : Bool) :
    Machine (Observed ListenerSession Bytes) IterInput :=
  (listenerSession lib set recording).observe fun _ inp _ => (received inp).toList

/-- The talker with the PDUs it has put on the network. -/
def sendingTalker (lib : Libavtp) (set : StreamSettings) :
    Machine (Observed TalkerState Bytes) TalkerInput :=
  (talkerLoop lib set).observe transmitted

/-! ### Payloads -/

/-- The payload of a datagram. -/
def datagramPayload (lib : Libavtp) (set : StreamSettings) (datagram : Bytes) : Bytes :=
  payload lib set (datagram.take set.pduSize)

/-- The payloads of the datagrams of the stream. -/
def streamPayloads (lib : Libavtp) (set : StreamSettings) (datagrams : List Bytes) : List Bytes :=
  (datagrams.filter (ofStream lib set)).map (datagramPayload lib set)

@[simp] theorem streamPayloads_append (ds ds' : List Bytes) :
    streamPayloads lib set (ds ++ ds') = streamPayloads lib set ds ++ streamPayloads lib set ds' := by
  rw [streamPayloads, List.filter_append, List.map_append]
  rfl

/-- The buffers played and those in the queue. -/
def buffers (s : ListenerState) : List Bytes :=
  playedBuffers s.log ++ s.samples.map SampleEntry.pcmSample

/-! ### The listener -/

theorem ofStream_of_valid {datagram : Bytes} {e seq : ℕ}
    (h : isValidPacket lib set (datagram.take set.pduSize) e = (.ok (), seq)) :
    ofStream lib set datagram = true :=
  decide_eq_true (isValidPacket_eq_ok.mp (congrArg Prod.fst h)).1

/-- A call of `new_packet` that receives a datagram reads the clock first. -/
theorem received_of_delivers {inp : IterInput} {arrival : Timespec} {pdu : Bytes}
    (hpoll : inp.pollOk = true) (hsock : inp.sockReadable = true)
    (h : Delivers set inp.packet arrival pdu) :
    ∃ datagram, received inp = some datagram ∧ pdu = datagram.take set.pduSize := by
  obtain ⟨datagram, hrecv, hpdu⟩ := h.recv
  refine ⟨datagram, ?_, hpdu⟩
  rw [received, if_pos ⟨hpoll, hsock, by rw [h.clock]; rfl⟩, hrecv]

/-- The iteration adds to the sequence `f` at most one element, made of the
datagram of the stream it received. -/
inductive Grows {A : Type} (lib : Libavtp) (set : StreamSettings) (f : ListenerState → List A)
    (g : Bytes → A) (inp : IterInput) (s s' : ListenerState) : Prop
  | same : f s' = f s → Grows lib set f g inp s s'
  | grown {datagram} : received inp = some datagram → ofStream lib set datagram = true →
      f s' = f s ++ [g datagram] → Grows lib set f g inp s s'

/-- A sequence that `new_packet` adds to, and nothing else changes. -/
structure Gathers {A : Type} (lib : Libavtp) (set : StreamSettings) (recording : Bool)
    (f : ListenerState → List A) (g : Bytes → A) : Prop where
  init : f listenerInit = []
  timer : ∀ s timer, f { s with timer } = f s
  running : ∀ s isRunning, f { s with isRunning } = f s
  play : ∀ {frames timerReadable inp s s'},
    PlayCase recording frames timerReadable inp s s' → f s' = f s
  packet : ∀ {inp s s' rc}, inp.pollOk = true → inp.sockReadable = true →
    newPacket lib set inp.packet s = .ok (rc, s') → Grows lib set f g inp s s'

/-- An iteration without a poll result is left at once. -/
theorem iteration_poll {inp : IterInput} {s : ListenerState} (h : inp.pollOk = false) :
    iteration lib set recording inp s = .goEnd (-1) s := by
  rw [iteration, h]
  rfl

/-- The packet is not looked at when the socket is not readable. -/
theorem iteration_silent {inp : IterInput} (h : inp.sockReadable = false) (packet : PacketInput)
    (s : ListenerState) :
    iteration lib set recording { inp with packet } s = iteration lib set recording inp s := by
  simp only [iteration, socketStep, h]
  rfl

namespace Gathers

variable {A : Type} {f : ListenerState → List A} {g : Bytes → A} {inp : IterInput}
  {s s' : ListenerState}

theorem socketCase (hf : Gathers lib set recording f g) (hpoll : inp.pollOk = true)
    (h : SocketCase lib set inp (atPoll inp s) s') : Grows lib set f g inp s s' := by
  have hsame : f (atPoll inp s) = f s := hf.timer s _
  cases h with
  | silent => exact .same hsame
  | packet hsock hnew _ =>
      cases hf.packet hpoll hsock hnew with
      | same heq => exact .same (heq.trans hsame)
      | grown hreceived hown heq => exact .grown hreceived hown (hsame ▸ heq)

/-- The steps behind the socket branch. -/
theorem behind {s₁ : ListenerState} (h : Grows lib set f g inp s s₁) (hsame : f s' = f s₁) :
    Grows lib set f g inp s s' := by
  cases h with
  | same heq => exact .same (hsame.trans heq)
  | grown hreceived hown heq => exact .grown hreceived hown (hsame.trans heq)

/-- An iteration that gets through its body. -/
theorem through (hf : Gathers lib set recording f g)
    (h : iteration lib set recording inp s = .next s' ∨
      iteration lib set recording inp s = .brk s') : Grows lib set f g inp s s' := by
  have hpoll : inp.pollOk = true := by
    by_contra hbad
    rw [iteration_poll (by simpa using hbad)] at h
    rcases h with h | h <;> cases h
  obtain ⟨s₁, hsock, hplay⟩ := iteration_through h
  exact behind (hf.socketCase hpoll hsock) ((hf.play hplay).trans (hf.timer s₁ _))

/-- An iteration that ends the session with an error. -/
theorem goEnd (hf : Gathers lib set recording f g) {res : ℤ}
    (h : iteration lib set recording inp s = .goEnd res s') : Grows lib set f g inp s s' := by
  rcases hpoll : inp.pollOk with - | -
  · rw [iteration_poll hpoll] at h
    cases h
    exact .same rfl
  rcases hsock : inp.sockReadable with - | -
  · -- whatever is behind the socket, nothing is taken from it
    rw [← iteration_silent hsock { inp.packet with clock := none }] at h
    cases iteration_goEnd h with
    | poll => exact .same rfl
    | socket hnew =>
        cases hnew
        exact .same (hf.timer s _)
    | timer hsock' =>
        cases hsock' with
        | silent => exact .same ((hf.running _ _).trans ((hf.timer _ _).trans (hf.timer s _)))
        | packet hread => cases hsock.symm.trans hread
  · cases iteration_goEnd h with
    | poll => exact .same rfl
    | socket hnew =>
        have hsame : f (atPoll inp s) = f s := hf.timer s _
        cases hf.packet hpoll hsock hnew with
        | same heq => exact .same (heq.trans hsame)
        | grown hreceived hown heq => exact .grown hreceived hown (hsame ▸ heq)
    | timer hsock' =>
        exact behind (hf.socketCase hpoll hsock') ((hf.running _ _).trans (hf.timer _ _))

/-- However an iteration ends, it adds at most one element. -/
theorem session (hf : Gathers lib set recording f g) {t t' : ListenerSession}
    (h : (listenerSession lib set recording).step t inp t') :
    Grows lib set f g inp t.loop t'.loop := by
  obtain ⟨-, ⟨hnext, -⟩ | ⟨-, hbrk | ⟨res, hend⟩⟩⟩ := h
  · exact hf.through (Or.inl hnext)
  · exact hf.through (Or.inr hbrk)
  · exact hf.goEnd hend

/-- In every run the sequence is made of datagrams of the stream that have been
taken from the socket, in their order. -/
theorem sublist (hf : Gathers lib set recording f g)
    {tr : List (Observed ListenerSession Bytes × IterInput)} {o : Observed ListenerSession Bytes}
    (hrun : (hearingSession lib set recording).Run tr o) :
    List.Sublist (f o.state.loop) ((o.seen.filter (ofStream lib set)).map g) := by
  refine Machine.Run.invariant_of_step
    (I := fun o => List.Sublist (f o.state.loop) ((o.seen.filter (ofStream lib set)).map g))
    ?_ ?_ hrun
  · rintro o ⟨hinit, hseen⟩
    rw [hseen, show o.state = ⟨listenerInit, false⟩ from hinit, hf.init]
    exact List.Sublist.refl []
  · rintro o inp o' h ⟨hstep, hseen⟩
    rw [hseen, List.filter_append, List.map_append]
    dsimp only
    cases hf.session hstep with
    | same heq =>
        rw [heq]
        exact h.trans (List.sublist_append_left _ _)
    | grown hreceived hown heq =>
        rw [heq, hreceived, Option.toList, List.filter_cons_of_pos hown]
        exact h.append (List.Sublist.refl _)

end Gathers

/-- Playing moves a buffer from the queue to those played. -/
theorem playCase_buffers {frames : ℕ} {timerReadable : Bool} {inp : IterInput}
    {s s' : ListenerState} (h : PlayCase recording frames timerReadable inp s s') :
    buffers s' = buffers s := by
  cases h with
  | idle => rfl
  | played hs =>
      simp only [buffers, playedBuffers_append, playedBuffers_playEvents, hs, List.map_cons,
        List.append_assoc, List.singleton_append]

/-- The buffers are made of the payloads received. -/
theorem gathers_buffers : Gathers lib set recording buffers (datagramPayload lib set) where
  init := rfl
  timer := fun _ _ => rfl
  running := fun _ _ => rfl
  play := playCase_buffers
  packet := by
    intro inp s s' rc hpoll hsock h
    cases newPacket_cases h with
    | nothing | rejected | noStamp | late | noNode => exact .same rfl
    | unscheduled =>
        refine .same ?_
        simp [buffers, pushPacket, playedBuffers]
    | queued hval =>
        obtain ⟨datagram, hreceived, rfl⟩ := received_of_delivers hpoll hsock hval.delivers
        refine .grown hreceived (ofStream_of_valid hval.valid) ?_
        simp [buffers, pushPacket, playedBuffers, entryOf, datagramPayload, payload]

theorem streamPayloads_own {datagram : Bytes} (h : ofStream lib set datagram = true) :
    streamPayloads lib set [datagram] = [datagramPayload lib set datagram] := by
  rw [streamPayloads, List.filter_cons_of_pos h]
  rfl

/-! ### The talker -/

/-- An iteration sends the PDU it leaves behind, if it reads the clock. -/
theorem talkerIteration_sentPdus (hlib : lib.Lawful) {inp : TalkerInput} {s s' : TalkerState}
    (h : talkerIteration lib set inp s = .ok s') :
    sentPdus s'.log = sentPdus s.log ++ (if inp.clock.isSome then [s'.pdu] else []) ∧
      (inp.sendRc < 0 → s'.exit ≠ none) := by
  have hroom := (talkerIteration_sends hlib h).1
  rw [talkerIteration] at h
  rcases hread : avbAlsaRead lib set inp s with f | s₁
  · rw [hread] at h
    cases h
  rw [hread] at h
  obtain rfl := Except.ok.inj h
  obtain ⟨hlen, -, -, -, hsent, -⟩ := avbAlsaRead_ok hread
  have hheader : lib.sizeofStreamPdu ≤ s₁.pdu.length := by omega
  constructor
  · rcases stampAndSend_cases set hlib inp hheader with
      ⟨hclock, heq⟩ | ⟨avtpTime, pdu₁, pdu₂, exit, hstamp, hnum, heq⟩
    · rw [heq, hclock]
      exact hsent.trans (List.append_nil _).symm
    · rcases hclock : inp.clock with - | now
      · -- without a clock reading nothing is sent
        have hgiveUp : stampAndSend lib set inp s₁ = { s₁ with exit := some (.goEnd (-1)) } := by
          simp only [stampAndSend, hclock, calculateAvtpTime]
        exact absurd (congrArg TalkerState.log (hgiveUp.symm.trans heq)) (by simp)
      · rw [heq, sentPdus_append, hsent]
        rfl
  · intro hrc
    simp only [stampAndSend, hrc, if_true]
    split
    · exact Option.some_ne_none _
    split
    · exact Option.some_ne_none _
    split <;> exact Option.some_ne_none _

/-- The PDUs on the network are those handed to `sendto`, except that the last
one is missing when its `sendto` failed and the talker left its loop. -/
structure SentInv (set : StreamSettings) (o : Observed TalkerState Bytes) : Prop where
  length : o.state.pdu.length = set.pduSize
  sizes : ∀ pdu ∈ o.seen, pdu.length = set.pduSize
  before : o.seen <+: sentPdus o.state.log
  looping : o.state.exit = none → o.seen = sentPdus o.state.log

theorem transmitted_eq {s s' : TalkerState} {inp : TalkerInput} {new : List Bytes}
    (h : sentPdus s'.log = sentPdus s.log ++ new) :
    transmitted s inp s' = if inp.sendRc < 0 then [] else new := by
  rw [transmitted, h, List.drop_left]

theorem SentInv.step (hlib : lib.Lawful) {o o' : Observed TalkerState Bytes} {inp : TalkerInput}
    (h : SentInv set o) (hstep : (sendingTalker lib set).step o inp o') : SentInv set o' := by
  obtain ⟨⟨hexit, hiter⟩, hseen⟩ := hstep
  obtain ⟨hsent, hleft⟩ := talkerIteration_sentPdus hlib hiter
  have hlen : o'.state.pdu.length = set.pduSize :=
    (talkerIteration_sends hlib hiter).2.1.trans h.length
  have hsame := h.looping hexit
  rw [transmitted_eq hsent] at hseen
  by_cases hrc : inp.sendRc < 0
  · rw [if_pos hrc, List.append_nil] at hseen
    refine ⟨hlen, hseen ▸ h.sizes, ?_, fun hnone => absurd hnone (hleft hrc)⟩
    rw [hseen, hsame, hsent]
    exact List.prefix_append _ _
  · rw [if_neg hrc] at hseen
    have hall : o'.seen = sentPdus o'.state.log := by rw [hseen, hsame, hsent]
    refine ⟨hlen, fun pdu hpdu => ?_, hall ▸ List.prefix_rfl, fun _ => hall⟩
    rw [hseen] at hpdu
    rcases List.mem_append.mp hpdu with hpdu | hpdu
    · exact h.sizes pdu hpdu
    · split at hpdu
      · rw [List.mem_singleton.mp hpdu, hlen]
      · cases hpdu

theorem sentInv_run (hlib : lib.Lawful) {tr : List (Observed TalkerState Bytes × TalkerInput)}
    {o : Observed TalkerState Bytes} (hrun : (sendingTalker lib set).Run tr o) : SentInv set o := by
  refine hrun.invariant_of_step ?_ fun _ _ _ h hstep => h.step hlib hstep
  rintro o ⟨⟨buffer, pdu, hbuffer, hinit, hstate⟩, hseen⟩
  refine ⟨?_, ?_, ?_, fun _ => ?_⟩
  · rw [hstate]
    exact (initPdu_length hlib hinit).trans hbuffer
  · rw [hseen]
    nofun
  · rw [hseen]
    exact List.nil_prefix
  · rw [hseen, hstate]
    rfl

/-- Nothing but the payload is behind the header of a PDU. -/
theorem datagramPayload_eq {pdu : Bytes} (hroom : set.pduSize ≤ lib.sizeofStreamPdu + set.dataLen)
    (hlen : pdu.length = set.pduSize) :
    datagramPayload lib set pdu = pdu.drop lib.sizeofStreamPdu := by
  rw [datagramPayload, payload, List.take_of_length_le hlen.le]
  refine List.take_of_length_le ?_
  rw [List.length_drop]
  omega

/-- The payloads on the network are payloads sent. -/
theorem SentInv.payloads {o : Observed TalkerState Bytes} (h : SentInv set o)
    (hroom : set.pduSize ≤ lib.sizeofStreamPdu + set.dataLen) :
    o.seen.map (datagramPayload lib set) <+: sentPayloads lib o.state := by
  have hmap : o.seen.map (datagramPayload lib set)
      = o.seen.map fun pdu => pdu.drop lib.sizeofStreamPdu :=
    List.map_congr_left fun pdu hpdu => datagramPayload_eq hroom (h.sizes pdu hpdu)
  rw [hmap]
  exact h.before.map _

/-- While every read fills the payload, the payloads sent are the blocks
captured. -/
theorem sentPayloads_of_full (hlib : lib.Lawful) {tr : List (TalkerState × TalkerInput)}
    {s : TalkerState} (hrun : (talkerLoop lib set).Run tr s)
    (hfull : Machine.All (SendsFullRead lib set) tr) :
    sentPayloads lib s = capturedBlocks set tr := by
  have hinv := hrun.history_invariant
    (I := fun tr s => s.pdu.length = set.pduSize ∧ sentPayloads lib s = capturedBlocks set tr)
    ?_ ?_ hfull
  · exact hinv.2
  · rintro s ⟨buffer, pdu, hbuffer, hinit, rfl⟩
    exact ⟨(initPdu_length hlib hinit).trans hbuffer, rfl⟩
  · rintro tr s inp s' - - ⟨hlen, heq⟩ hgood ⟨-, hiter⟩
    exact ⟨(talkerIteration_sends hlib hiter).2.1.trans hlen,
      (sentPayloads_step hlib hlen hiter).mpr ⟨heq, hgood⟩⟩

/-! ### A lossy network -/

theorem nodeSettings_room {o : Options} {hw : AlsaGrant} (hset : nodeSettings lib o hw = some set) :
    set.pduSize ≤ lib.sizeofStreamPdu + set.dataLen := by
  rw [(nodeSettings_spec hset).pduSize]
  exact Nat.mod_le _ _

/-- **Nothing but what was sent, and in order.**  Over a network that loses
datagrams and carries those of other streams, in every run and at every moment:
the buffers played, those queued and the payloads still under way are, in this
order, a subsequence of the payloads sent, and of the blocks captured while
every read fills the payload. -/
theorem stream_safe (hlib : lib.Lawful) {o : Options} {hw : AlsaGrant}
    (hset : nodeSettings lib o hw = some set)
    {tr : List (Linked TalkerState Bytes ListenerSession × LinkLabel TalkerInput IterInput)}
    {g : Linked TalkerState Bytes ListenerSession}
    (hrun : (stream lib set recording .lossy).Run tr g) :
    List.Sublist (buffers g.receiver.state.loop ++ streamPayloads lib set g.flight)
        (sentPayloads lib g.sender.state) ∧
      (Machine.All (Machine.OnSend (SendsFullRead lib set)) tr →
        List.Sublist (buffers g.receiver.state.loop ++ streamPayloads lib set g.flight)
          (capturedBlocks set (Machine.plain (Machine.senderPart tr)))) := by
  have hsender : (sendingTalker lib set).Run (Machine.senderPart tr) g.sender := hrun.link_sender
  have hbuffers := gathers_buffers.sublist (o := g.receiver) hrun.link_receiver
  have hnet : List.Sublist ((g.receiver.seen ++ g.flight).filter (ofStream lib set))
      (g.sender.seen.filter (ofStream lib set)) := hrun.link_becomes
  have hsent : List.Sublist (buffers g.receiver.state.loop ++ streamPayloads lib set g.flight)
      (sentPayloads lib g.sender.state) :=
    calc List.Sublist (buffers g.receiver.state.loop ++ streamPayloads lib set g.flight)
          (streamPayloads lib set (g.receiver.seen ++ g.flight)) := by
            rw [streamPayloads_append]
            exact hbuffers.append (List.Sublist.refl _)
      List.Sublist _ (streamPayloads lib set g.sender.seen) := hnet.map _
      List.Sublist _ (g.sender.seen.map (datagramPayload lib set)) := List.filter_sublist.map _
      List.Sublist _ (sentPayloads lib g.sender.state) :=
        ((sentInv_run hlib hsender).payloads (nodeSettings_room hset)).sublist
  refine ⟨hsent, fun hfull => ?_⟩
  rwa [sentPayloads_of_full hlib hsender.unobserve hfull.sender] at hsent

/-! ### A packet lost -/

/-- One iteration of the listener, where it is possible. -/
def sessionNext (lib : Libavtp) (set : StreamSettings) (recording : Bool) (t : ListenerSession)
    (inp : IterInput) : Option ListenerSession :=
  if t.left then none
  else
    match iteration lib set recording inp t.loop with
    | .next s => some ⟨s, false⟩
    | .brk s => some ⟨s, true⟩
    | .goEnd _ s => some ⟨s, true⟩
    | .fault _ => none

theorem sessionNext_step {t t' : ListenerSession} {inp : IterInput}
    (h : sessionNext lib set recording t inp = some t') :
    (listenerSession lib set recording).step t inp t' := by
  rw [sessionNext] at h
  split at h
  · cases h
  · rename_i hleft
    refine ⟨by simpa using hleft, ?_⟩
    split at h
    · rename_i s hiter
      obtain rfl := Option.some.inj h
      exact Or.inl ⟨hiter, rfl⟩
    · rename_i s hiter
      obtain rfl := Option.some.inj h
      exact Or.inr ⟨rfl, Or.inl hiter⟩
    · rename_i res s hiter
      obtain rfl := Option.some.inj h
      exact Or.inr ⟨rfl, Or.inr ⟨res, hiter⟩⟩
    · cases h

/-- The options of a node of the mono stream. -/
def monoOptions : Options :=
  { interfaceOptions "eth0" with channels := 1, hwLatency := 1, maxTransitTime := 2 }

theorem monoOptions_admitted : monoOptions.Admitted :=
  ⟨[.ifname "eth0", .channels 1, .hwLatency 1, .maxTransitTime 2], rfl⟩

theorem monoSettings_node :
    nodeSettings ieee1722 monoOptions ⟨0, 0, 48000, 1⟩ = some monoSettings := by
  decide +kernel

/-- Talker and listener of the mono stream before their loops. -/
def monoLink : Linked TalkerState Bytes ListenerSession :=
  ⟨⟨monoTalker, []⟩, [], ⟨⟨listenerInit, false⟩, []⟩⟩

theorem monoLink_init (recording : Bool) (D : Discipline Bytes) :
    (stream ieee1722 monoSettings recording D).init monoLink :=
  ⟨⟨monoTalker_init, rfl⟩, rfl, rfl, rfl⟩

/-- One step of the mono stream in which the network does nothing. -/
def monoStreamNext (recording : Bool) (g : Linked TalkerState Bytes ListenerSession)
    (l : LinkLabel TalkerInput IterInput) : Option (Linked TalkerState Bytes ListenerSession) :=
  Machine.linkNext (talkerNext ieee1722 monoSettings) (sessionNext ieee1722 monoSettings recording)
    transmitted received g l

theorem monoStreamNext_step {g g' : Linked TalkerState Bytes ListenerSession}
    {l : LinkLabel TalkerInput IterInput} (h : monoStreamNext recording g l = some g') :
    (stream ieee1722 monoSettings recording D).step g l g' :=
  Machine.linkNext_step (fun _ _ _ => talkerNext_step) (fun _ _ _ => sessionNext_step) h

/-- Two blocks are captured and sent. -/
def monoSends : List (LinkLabel TalkerInput IterInput) :=
  [.send ⟨1, [1, 2], some ⟨10, 0⟩, 26, none⟩, .send ⟨1, [3, 4], some ⟨10, 20000⟩, 26, none⟩]

/-- The network loses the first datagram. -/
def loseFirst (g : Linked TalkerState Bytes ListenerSession) :
    Linked TalkerState Bytes ListenerSession := { g with flight := g.flight.tail }

theorem loseFirst_step (g : Linked TalkerState Bytes ListenerSession) :
    (stream lib set recording .lossy).step g .net (loseFirst g) :=
  ⟨rfl, (List.tail_sublist g.flight).filter _, rfl⟩

/-- The first packet is lost on the network; the second one is played. -/
theorem stream_safe_lost :
    ∃ tr g, (stream ieee1722 monoSettings true .lossy).Run tr g ∧
      playedBuffers g.receiver.state.loop.log = [[3, 4]] ∧
      List.Sublist (buffers g.receiver.state.loop ++ streamPayloads ieee1722 monoSettings g.flight)
        [[1, 2], [3, 4]] := by
  have hexec : ((Machine.execute (monoStreamNext true) monoLink monoSends).bind fun g =>
      Machine.execute (monoStreamNext true) (loseFirst g)
        [.receive (receives ⟨10, 1000⟩ (monoPacket 1 1412085408 [3, 4])), .receive timerFires]).map
      (fun g => (playedBuffers g.receiver.state.loop.log, sentPayloads ieee1722 g.sender.state))
        = some ([[3, 4]], [[1, 2], [3, 4]]) := by
    decide +kernel
  obtain ⟨g', hg', hview⟩ := Option.map_eq_some_iff.mp hexec
  obtain ⟨g, hg, hrest⟩ := Option.bind_eq_some_iff.mp hg'
  obtain ⟨hplayed, hsent⟩ := Prod.mk.inj hview
  obtain ⟨tr, hrun, -⟩ := Machine.Run.execute (fun _ _ _ => monoStreamNext_step)
    (.start (monoLink_init true .lossy)) hg
  obtain ⟨tr', hrun', -⟩ := Machine.Run.execute (fun _ _ _ => monoStreamNext_step)
    (hrun.next (loseFirst_step g)) hrest
  refine ⟨_, g', hrun', hplayed, ?_⟩
  have hsafe := (stream_safe ieee1722_lawful monoSettings_node hrun').1
  rwa [hsent] at hsafe

end Tram
