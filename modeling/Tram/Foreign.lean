/-
Tram/Foreign.lean

Datagrams that are no packet of the stream (`new_packet`).

`recv` cuts a longer datagram down to the size of the PDU, and what is left is
checked like any other packet.  A shorter datagram fails the comparison of the
lengths, and that failure is returned to the loop as an error: the session
ends.
-/
import Tram.Accounting

namespace Tram

variable {lib : Libavtp} {set : StreamSettings} {recording : Bool}

/-- The loop body behind the socket branch. -/
def behindSocket (set : StreamSettings) (recording : Bool) (inp : IterInput)
    (timerReadable : Bool) (s : ListenerState) : LoopStep :=
  match playStep recording (u32 set.framesPerPdu) timerReadable inp (afterPoll inp s) with
  | .error f => .fault f
  | .ok (res, s) =>
      if res < 0 then .goEnd res s
      else if inp.sessionReadable then .brk s
      else if inp.key = some keyEsc then .brk s
      else .next s

/-- A call of `new_packet` that returns no error goes on to the rest of the
loop body, and an error leaves through `end`. -/
theorem iteration_of_newPacket {inp : IterInput} {s s' : ListenerState} {rc : ℤ}
    (hpoll : inp.pollOk = true) (hsock : inp.sockReadable = true)
    (h : newPacket lib set inp.packet (atPoll inp s) = .ok (rc, s')) :
    iteration lib set recording inp s
      = if rc < 0 then .goEnd rc s'
        else behindSocket set recording inp (atPoll inp s).timer.readable s' := by
  have hsocket : socketStep lib set inp (atPoll inp s) = .ok (rc, s') := by
    rw [socketStep, if_pos hsock, h]
  rw [iteration, hpoll, Bool.not_true, if_neg Bool.false_ne_true]
  show (match socketStep lib set inp (atPoll inp s) with
    | .error f => LoopStep.fault f
    | .ok (res, s) => _) = _
  rw [hsocket]
  rfl

/-! ### Datagrams -/

/-- The bytes are accepted as a packet of the stream. -/
def Accepted (lib : Libavtp) (set : StreamSettings) (s : ListenerState) (pdu : Bytes) : Prop :=
  (isValidPacket lib set pdu s.expectedSeq).1 = .ok ()

instance (s : ListenerState) (pdu : Bytes) : Decidable (Accepted lib set s pdu) :=
  inferInstanceAs (Decidable (_ = _))

/-- The datagram is one valid packet of the stream, of the full length. -/
def IsStreamPacket (lib : Libavtp) (set : StreamSettings) (s : ListenerState)
    (datagram : Bytes) : Prop :=
  datagram.length = set.pduSize ∧ Accepted lib set s datagram

/-- `new_packet` leaves queue, timer and statistics alone, and the loop goes on
behind the socket branch. -/
def Harmless (lib : Libavtp) (set : StreamSettings) (recording : Bool) (inp : IterInput)
    (s : ListenerState) : Prop :=
  ∃ rc s', newPacket lib set inp.packet (atPoll inp s) = .ok (rc, s') ∧ 0 ≤ rc ∧
    s'.samples = s.samples ∧ s'.timer = (atPoll inp s).timer ∧ s'.stats = s.stats ∧
    iteration lib set recording inp s
      = behindSocket set recording inp (atPoll inp s).timer.readable s'

/-- What a datagram must be like to do no harm: not shorter than a packet, and
if its beginning is a packet of the stream, one that is discarded as late. -/
def DoesNoHarm (lib : Libavtp) (set : StreamSettings) (inp : PacketInput) (s : ListenerState)
    (datagram : Bytes) : Prop :=
  set.pduSize ≤ datagram.length ∧
    (Accepted lib set s (datagram.take set.pduSize) → DiscardedLate lib set inp s)

/-- A datagram that is long enough is received as its beginning. -/
theorem delivers_take {inp : PacketInput} {arrival : Timespec} {datagram : Bytes}
    (hclock : inp.clock = some arrival) (hrecv : inp.recv = some datagram)
    (hlen : set.pduSize ≤ datagram.length) :
    Delivers set inp arrival (datagram.take set.pduSize) :=
  ⟨hclock, ⟨datagram, hrecv, rfl⟩, by rw [List.length_take, Nat.min_eq_left hlen]⟩

/-- Bytes that are not accepted are dropped; only the expected number is what
`is_valid_packet` leaves. -/
theorem newPacket_rejected_eq {inp : PacketInput} {s : ListenerState} {arrival : Timespec}
    {pdu : Bytes} (hdel : Delivers set inp arrival pdu) (hbad : ¬ Accepted lib set s pdu) :
    newPacket lib set inp s
      = .ok (0, { s with expectedSeq := (isValidPacket lib set pdu s.expectedSeq).2 }) := by
  obtain ⟨hclock, ⟨datagram, hrecv, rfl⟩, hlen⟩ := hdel
  rcases hvalid : isValidPacket lib set (datagram.take set.pduSize) s.expectedSeq with ⟨f | ⟨⟩, seq⟩
  · simp only [newPacket, hclock, hrecv, if_neg (not_not.mpr hlen), hvalid]
  · exact absurd (congrArg Prod.fst hvalid) hbad

theorem newPacket_rejected {inp : PacketInput} {s : ListenerState} {arrival : Timespec}
    {pdu : Bytes} (hdel : Delivers set inp arrival pdu) (hbad : ¬ Accepted lib set s pdu) :
    ∃ seq, newPacket lib set inp s = .ok (0, { s with expectedSeq := seq }) :=
  ⟨_, newPacket_rejected_eq hdel hbad⟩

/-- A late packet of the stream on an empty queue is discarded. -/
theorem newPacket_discarded {inp : PacketInput} {s : ListenerState} {arrival : Timespec}
    {pdu : Bytes} (hdel : Delivers set inp arrival pdu) (hok : Accepted lib set s pdu)
    (hlate : DiscardedLate lib set inp s) :
    ∃ seq, newPacket lib set inp s = .ok (1, { s with expectedSeq := seq }) := by
  obtain ⟨hempty, arrival', avtpTime, pdu', hdel', hstamp, hone⟩ := hlate
  obtain ⟨rfl, rfl⟩ := hdel.unique hdel'
  rcases hvalid : isValidPacket lib set pdu' s.expectedSeq with ⟨f | ⟨⟩, seq⟩
  · rw [Accepted, hvalid] at hok
    cases hok
  · exact ⟨seq, newPacket_late ⟨hdel, hvalid, hstamp⟩ hone hempty⟩

/-- A call that neither fails nor touches the statistics is one of these two. -/
theorem doesNoHarm_of_newPacket {inp : PacketInput} {s s' : ListenerState} {datagram : Bytes}
    {rc : ℤ} (hrecv : inp.recv = some datagram) (h : newPacket lib set inp s = .ok (rc, s'))
    (hrc : 0 ≤ rc) (hstats : s'.stats = s.stats) : DoesNoHarm lib set inp s datagram := by
  have hpdu : ∀ {arrival pdu}, Delivers set inp arrival pdu →
      pdu = datagram.take set.pduSize ∧ set.pduSize ≤ datagram.length := by
    intro arrival pdu hdel
    obtain ⟨datagram', hrecv', rfl⟩ := hdel.recv
    obtain rfl := Option.some.inj (hrecv'.symm.trans hrecv)
    have hlen := hdel.length
    rw [List.length_take] at hlen
    exact ⟨rfl, by omega⟩
  cases newPacket_cases h with
  | nothing | noStamp | noNode | unscheduled => exact absurd hrc (by decide)
  | rejected hdel hbad =>
      obtain ⟨rfl, hlen⟩ := hpdu hdel
      refine ⟨hlen, fun hok => ?_⟩
      rw [Accepted, hbad] at hok
      cases hok
  | late hval hone hempty =>
      obtain ⟨rfl, hlen⟩ := hpdu hval.delivers
      exact ⟨hlen, fun _ => ⟨hempty, _, _, _, hval.delivers, hval.stamp, hone⟩⟩
  | @queued arrival pdu seq avtpTime timer =>
      -- the stack of the statistics has grown
      have hstack := congrArg StatsHandler.stackHead hstats
      rw [pushPacket, countGap_stackHead] at hstack
      exact absurd hstack (List.cons_ne_self _ _)

/-- **Foreign datagrams.**  In every state, whatever the datagram: `new_packet`
leaves queue, timer and statistics alone and the loop goes on exactly when the
datagram is at least as long as a packet and its beginning is not accepted as
a packet of the stream (or is discarded as late). -/
theorem foreign_harmless_iff {inp : IterInput} {s : ListenerState} {arrival : Timespec}
    {datagram : Bytes} (hpoll : inp.pollOk = true) (hsock : inp.sockReadable = true)
    (hclock : inp.packet.clock = some arrival) (hrecv : inp.packet.recv = some datagram) :
    Harmless lib set recording inp s ↔ DoesNoHarm lib set inp.packet s datagram := by
  constructor
  · rintro ⟨rc, s', hnew, hrc, -, -, hstats, -⟩
    exact doesNoHarm_of_newPacket (s := atPoll inp s) hrecv hnew hrc hstats
  · rintro ⟨hlen, hlate⟩
    have hdel := delivers_take hclock hrecv hlen
    have hgoes : ∀ {rc seq}, 0 ≤ rc →
        newPacket lib set inp.packet (atPoll inp s)
          = .ok (rc, { atPoll inp s with expectedSeq := seq }) →
        Harmless lib set recording inp s := by
      intro rc seq hrc hnew
      refine ⟨rc, _, hnew, hrc, rfl, rfl, rfl, ?_⟩
      rw [iteration_of_newPacket hpoll hsock hnew, if_neg (by omega)]
    by_cases hok : Accepted lib set s (datagram.take set.pduSize)
    · obtain ⟨seq, hnew⟩ := newPacket_discarded (s := atPoll inp s) hdel hok (hlate hok)
      exact hgoes (by decide) hnew
    · obtain ⟨seq, hnew⟩ := newPacket_rejected (s := atPoll inp s) hdel hok
      exact hgoes (by decide) hnew

/-- An empty datagram ends the session before a packet has arrived. -/
theorem foreign_harmless_short :
    ¬ ∀ (tr : List (ListenerState × IterInput)) (s : ListenerState) (inp : IterInput)
      (arrival : Timespec) (datagram : Bytes),
      (listenerLoop ieee1722 monoSettings false).Run tr s → inp.pollOk = true →
      inp.sockReadable = true → inp.packet.clock = some arrival →
      inp.packet.recv = some datagram → ¬ IsStreamPacket ieee1722 monoSettings s datagram →
      Harmless ieee1722 monoSettings false inp s := by
  intro h
  obtain ⟨rc, s', hnew, hrc, -, -, hstats, -⟩ := h [] listenerInit (receives ⟨10, 0⟩ []) ⟨10, 0⟩ []
    (.start rfl) rfl rfl rfl rfl (fun hpacket => absurd hpacket.1 (by decide))
  have hlen := (doesNoHarm_of_newPacket rfl hnew hrc hstats).1
  revert hlen
  decide

/-- A datagram of the right length with nothing of the stream in it. -/
theorem foreign_harmless_zeros :
    Harmless ieee1722 monoSettings false (receives ⟨10, 0⟩ (List.replicate 26 0)) listenerInit :=
  (@foreign_harmless_iff ieee1722 monoSettings false (receives ⟨10, 0⟩ (List.replicate 26 0))
    listenerInit ⟨10, 0⟩ (List.replicate 26 0) rfl rfl rfl rfl).mpr
    ⟨by decide, fun hok => absurd hok (by decide +kernel)⟩

end Tram
