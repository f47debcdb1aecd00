/-
Tram/Rejection.lean

Rejected packets and the expected sequence number (`is_valid_packet`).

The number is updated in the middle of the checks.  A packet that fails one of
the checks before the update leaves it alone; a packet of the stream that
fails one behind it has already set it to its own number plus one, and the
difference is counted as dropped when the next packet comes.

A rejected packet that leaves the number alone leaves the whole state alone,
so a run is the same without it (`withoutRejected`).
-/
import Tram.Foreign

namespace Tram

variable {lib : Libavtp} {set : StreamSettings} {recording : Bool}

/-! ### One packet -/

/-- A packet that passes the checks before the sequence number carries the
number before the expected. -/
def LeavesSequence (lib : Libavtp) (set : StreamSettings) (pdu : Bytes) (expectedSeq : ℕ) : Prop :=
  checkStream lib set pdu = .ok () →
    ∀ val, lib.aafPduGet pdu .seqNum = some val → u8 (val + 1) = expectedSeq

instance (pdu : Bytes) (expectedSeq : ℕ) : Decidable (LeavesSequence lib set pdu expectedSeq) :=
  inferInstanceAs (Decidable (_ → ∀ val ∈ lib.aafPduGet pdu .seqNum, _))

theorem isValidPacket_unchanged_iff (pdu : Bytes) (expectedSeq : ℕ) :
    (isValidPacket lib set pdu expectedSeq).2 = expectedSeq ↔
      LeavesSequence lib set pdu expectedSeq := by
  rcases hs : checkStream lib set pdu with f | ⟨⟩
  · rw [isValidPacket_foreign hs]
    exact ⟨fun _ hok => (by cases hs.symm.trans hok), fun _ => rfl⟩
  · rcases hq : lib.aafPduGet pdu .seqNum with - | val
    · have hval : isValidPacket lib set pdu expectedSeq
          = (.error (.getFailed (.aaf .seqNum)), expectedSeq) := by
        simp only [isValidPacket, hs, hq]
      rw [hval]
      exact ⟨fun _ _ val hval => (by cases hq.symm.trans hval), fun _ => rfl⟩
    · rw [isValidPacket_seq hs hq]
      constructor
      · intro heq _ val' hval'
        rw [← Option.some.inj (hq.symm.trans hval'), heq]
      · exact fun h => h hs val hq

/-- The call that drops such a packet leaves the whole state alone. -/
theorem newPacket_unchanged_iff {inp : PacketInput} {s : ListenerState} {arrival : Timespec}
    {pdu : Bytes} (hdel : Delivers set inp arrival pdu) (hbad : ¬ Accepted lib set s pdu) :
    newPacket lib set inp s = .ok (0, s) ↔ LeavesSequence lib set pdu s.expectedSeq := by
  rw [newPacket_rejected_eq hdel hbad, ← isValidPacket_unchanged_iff]
  constructor
  · intro h
    exact congrArg ListenerState.expectedSeq (Prod.mk.inj (Except.ok.inj h)).2
  · intro h
    rw [h]

/-! ### A run without its rejected packets -/

/-- The PDU an iteration receives and drops. -/
def rejectedPdu (lib : Libavtp) (set : StreamSettings) (s : ListenerState) (inp : IterInput) :
    Option Bytes :=
  match inp.sockReadable, inp.packet.clock, inp.packet.recv with
  | true, some _, some datagram =>
      let pdu := datagram.take set.pduSize
      if pdu.length = set.pduSize ∧ ¬ Accepted lib set s pdu then some pdu else none
  | _, _, _ => none

/-- The same iteration with nothing to receive, if what it receives is
dropped. -/
def withoutRejected (lib : Libavtp) (set : StreamSettings) (s : ListenerState) (inp : IterInput) :
    IterInput :=
  if (rejectedPdu lib set s inp).isSome then { inp with sockReadable := false } else inp

/-- A packet the iteration drops leaves the expected number alone. -/
def RejectsQuietly (lib : Libavtp) (set : StreamSettings) (s : ListenerState) (inp : IterInput) :
    Prop :=
  ∀ pdu, rejectedPdu lib set s inp = some pdu → LeavesSequence lib set pdu s.expectedSeq

instance : DecidableRel (RejectsQuietly lib set) := fun s inp =>
  inferInstanceAs (Decidable (∀ pdu ∈ rejectedPdu lib set s inp, _))

theorem rejectedPdu_some {s : ListenerState} {inp : IterInput} {pdu : Bytes}
    (h : rejectedPdu lib set s inp = some pdu) :
    inp.sockReadable = true ∧ (∃ arrival, Delivers set inp.packet arrival pdu) ∧
      ¬ Accepted lib set s pdu := by
  rw [rejectedPdu] at h
  split at h
  · rename_i arrival datagram hsock hclock hrecv
    obtain ⟨⟨hlen, hbad⟩, heq⟩ := Option.ite_none_right_eq_some.mp h
    obtain rfl := Option.some.inj heq
    exact ⟨hsock, ⟨arrival, hclock, ⟨datagram, hrecv, rfl⟩, hlen⟩, hbad⟩
  · cases h

/-- An iteration does the same without the packet it drops. -/
theorem iteration_withoutRejected {s : ListenerState} {inp : IterInput}
    (hquiet : RejectsQuietly lib set s inp) :
    iteration lib set recording (withoutRejected lib set s inp) s
      = iteration lib set recording inp s := by
  rcases hpdu : rejectedPdu lib set s inp with - | pdu
  · rw [withoutRejected, hpdu]
    rfl
  · obtain ⟨hsock, ⟨arrival, hdel⟩, hbad⟩ := rejectedPdu_some hpdu
    have hnew : newPacket lib set inp.packet (atPoll inp s) = .ok (0, atPoll inp s) :=
      (newPacket_unchanged_iff (s := atPoll inp s) hdel hbad).mpr (hquiet pdu hpdu)
    have hsocket : socketStep lib set inp (atPoll inp s)
        = socketStep lib set { inp with sockReadable := false } (atPoll inp s) := by
      rw [socketStep, if_pos hsock, hnew]
      rfl
    rw [atPoll] at hsocket
    rw [withoutRejected, hpdu]
    simp only [iteration, hsocket, Option.isSome_some, if_true]
    rfl

/-- **Rejected packets.**  A packet that is rejected leaves the expected number
alone exactly when it fails a check before the number's update or carries the
number before the expected; then the call leaves the whole state alone; and
every run in which all rejected packets are such ends in the same state
without them. -/
theorem rejected_keeps_sequence (lib : Libavtp) (set : StreamSettings) (recording : Bool) :
    (∀ pdu expectedSeq f, (isValidPacket lib set pdu expectedSeq).1 = .error f →
        ((isValidPacket lib set pdu expectedSeq).2 = expectedSeq ↔
          LeavesSequence lib set pdu expectedSeq)) ∧
      (∀ (inp : PacketInput) (s : ListenerState) arrival pdu, Delivers set inp arrival pdu →
        ¬ Accepted lib set s pdu →
        (newPacket lib set inp s = .ok (0, s) ↔ LeavesSequence lib set pdu s.expectedSeq)) ∧
      ∀ tr s, (listenerLoop lib set recording).Run tr s →
        Machine.All (RejectsQuietly lib set) tr →
        (listenerLoop lib set recording).Run
          (tr.map fun p => (p.1, withoutRejected lib set p.1 p.2)) s := by
  refine ⟨fun pdu expectedSeq _ _ => isValidPacket_unchanged_iff pdu expectedSeq,
    fun inp s arrival pdu hdel hbad => newPacket_unchanged_iff hdel hbad, ?_⟩
  intro tr s hrun hquiet
  refine hrun.relabel ?_ hquiet
  intro s inp s' hq hstep
  exact (iteration_withoutRejected hq).trans hstep

/-- A packet of the stream with another sample rate. -/
def otherRatePacket (seq : ℕ) : Bytes :=
  ((ieee1722.aafPduSet (monoPacket seq 1412065408 [1, 2]) .nsr 6)).getD []

/-- It is rejected and moves the expected number. -/
theorem rejected_keeps_sequence_otherRate :
    ¬ ∀ pdu expectedSeq f, (isValidPacket ieee1722 monoSettings pdu expectedSeq).1 = .error f →
      (isValidPacket ieee1722 monoSettings pdu expectedSeq).2 = expectedSeq := by
  intro h
  have hmoved := h (otherRatePacket 9) 1 (.mismatch (.aaf .nsr) 5 6) (by decide +kernel)
  revert hmoved
  decide +kernel

-- received between the packets 0 and 1, it makes 247 packets dropped
example : (runListener ieee1722 monoSettings false
    [receives ⟨10, 0⟩ (monoPacket 0 1412065408 [1, 2]), receives ⟨10, 500⟩ (otherRatePacket 9),
      receives ⟨10, 1000⟩ (monoPacket 1 1412085408 [3, 4])]).map
    (fun s => s.stats.droppedPackets) = some 247 := by
  decide +kernel

/-- A packet, and a datagram of zeros. -/
def zerosInputs : List IterInput :=
  [receives ⟨10, 0⟩ (monoPacket 0 1412065408 [1, 2]), receives ⟨10, 500⟩ (List.replicate 26 0)]

/-- The run is the same without the datagram. -/
theorem rejected_keeps_sequence_zeros :
    ∃ tr s, (listenerLoop ieee1722 monoSettings false).Run tr s ∧
      tr.map Prod.snd = zerosInputs ∧ s.expectedSeq = 1 ∧
      (listenerLoop ieee1722 monoSettings false).Run
        (tr.map fun p => (p.1, withoutRejected ieee1722 monoSettings p.1 p.2)) s := by
  have hexec : (Machine.execute (fun s inp =>
      if RejectsQuietly ieee1722 monoSettings s inp then
        (iteration ieee1722 monoSettings false inp s).next? else none)
      listenerInit zerosInputs).map (fun s => s.expectedSeq) = some 1 := by
    decide +kernel
  obtain ⟨s, hs, hseq⟩ := Option.map_eq_some_iff.mp hexec
  obtain ⟨tr, hrun, hquiet, hlabels⟩ :=
    Machine.Run.execute_good (M := listenerLoop ieee1722 monoSettings false)
      (fun _ _ _ => LoopStep.eq_of_next?) rfl hs
  exact ⟨tr, s, hrun, hlabels, hseq,
    (rejected_keeps_sequence ieee1722 monoSettings false).2.2 tr s hrun hquiet⟩

end Tram
