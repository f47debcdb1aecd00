/-
Tram/LoopInvariant.lean

The invariant of the listener loop.

At the top of the loop the packet timer, the sample queue and `is_running`
are tied together: while playback runs the queue is not empty and the timer
is at rest; while it does not, the timer is armed exactly when something is
queued, and for the presentation time of the head.

The delicate point is that the poll result used by the timer branch is taken
before a packet may be queued.  A timer that polled readable is armed, so the
queue was not empty, and a packet queued behind its head does not arm the
timer again (`socketStep_keeps_readable`).
-/
import Tram.Ieee1722
import Tram.ListenerSteps

namespace Tram

variable {lib : Libavtp} {set : StreamSettings} {recording : Bool}

/-- The arrival clock reads at least one block of `2 ^ 32` ns past the epoch,
in the 64-bit count the code works with. -/
def AfterEpoch (inp : IterInput) : Prop :=
  ∀ arrival, inp.packet.clock = some arrival → 2 ^ 32 ≤ arrival.toNs

/-- The invariant at the top of the loop. -/
structure LoopInv (s : ListenerState) : Prop where
  running : s.isRunning = true → s.samples ≠ [] ∧ s.timer = .disarmed
  waiting : s.isRunning = false → s.timer.armedFor = s.samples.head?.map SampleEntry.tspec

theorem loopInv_init : LoopInv listenerInit where
  running := by
    intro h
    cases h
  waiting := fun _ => rfl

/-- Time going by keeps the invariant. -/
theorem LoopInv.elapse {s : ListenerState} (h : LoopInv s) (expires : Bool) :
    LoopInv { s with timer := s.timer.elapse expires } where
  running := by
    intro hrun
    obtain ⟨hne, htimer⟩ := h.running hrun
    refine ⟨hne, ?_⟩
    rw [show s.timer = .disarmed from htimer, PacketTimer.elapse_disarmed]
  waiting := by
    intro hrun
    rw [PacketTimer.armedFor_elapse, h.waiting hrun]

/-- A readable timer means a non-empty queue and no playback. -/
theorem LoopInv.of_readable {s : ListenerState} (h : LoopInv s) (hr : s.timer.readable = true) :
    s.isRunning = false ∧ s.samples ≠ [] := by
  obtain ⟨tspec, htimer⟩ := PacketTimer.readable_iff.mp hr
  have hstop : s.isRunning = false := by
    by_contra hrun
    have hdis := (h.running (by simpa using hrun)).2
    rw [htimer] at hdis
    cases hdis
  refine ⟨hstop, fun hnil => ?_⟩
  have harmed := h.waiting hstop
  rw [htimer, hnil] at harmed
  cases harmed

/-! ### The socket branch -/

/-- Queueing a packet: `is_running` stays, and a timer that was armed is not
touched. -/
theorem socketStep_keeps_readable {inp : IterInput} {s s' : ListenerState} (h : LoopInv s)
    (hcase : SocketCase lib set inp s s') :
    s'.isRunning = s.isRunning ∧ (s.timer.readable = true → s'.timer.readable = true) := by
  cases hcase with
  | silent => exact ⟨rfl, id⟩
  | packet _ hnew hrc =>
      cases newPacket_cases hnew with
      | nothing | noStamp | noNode | unscheduled => exact absurd (by decide) hrc
      | rejected | late => exact ⟨rfl, id⟩
      | queued _ _ htimer =>
          refine ⟨rfl, fun hr => ?_⟩
          rcases htimer with ⟨hnil, -⟩ | ⟨-, rfl⟩
          · exact absurd hnil (h.of_readable hr).2
          · exact hr

theorem LoopInv.socketStep {inp : IterInput} {s s' : ListenerState} (h : LoopInv s)
    (hclock : AfterEpoch inp) (hcase : SocketCase lib set inp s s') : LoopInv s' := by
  cases hcase with
  | silent => exact h
  | packet _ hnew hrc =>
      cases newPacket_cases hnew with
      | nothing | noStamp | noNode | unscheduled => exact absurd (by decide) hrc
      | rejected | late => exact ⟨h.running, h.waiting⟩
      | @queued arrival pdu seq avtpTime timer hval _ htimer =>
          rcases htimer with ⟨hnil, harm⟩ | ⟨hne, rfl⟩
          · -- the first entry: playback is off, and the timer is armed for it
            have hpending : timer = .pending _ := armTimer_armedFor harm
              (getPresentationTime_ne_zero avtpTime (hclock arrival hval.delivers.clock))
            have hstop : s.isRunning = false := by
              by_contra hrun
              exact (h.running (by simpa using hrun)).1 hnil
            constructor
            · intro hrun
              exact absurd (hstop.symm.trans hrun) (by decide)
            · intro _
              rw [hpending, hnil]
              rfl
          · -- behind the head: neither the head nor the timer changes
            constructor
            · intro hrun
              exact ⟨by simp, (h.running hrun).2⟩
            · intro hrun
              rw [List.head?_append_of_ne_nil _ hne]
              exact h.waiting hrun

/-! ### The playback part -/

theorem LoopInv.playStep {frames : ℕ} {timerReadable : Bool} {inp : IterInput}
    {s s' : ListenerState} (h : LoopInv s)
    (hcase : PlayCase recording frames timerReadable inp s s') : LoopInv s' := by
  cases hcase with
  | idle => exact h
  | @played entry rest timer hs hhow =>
      -- both ways into playback leave the timer at rest
      have hdis : timer = .disarmed := by
        rcases hhow with ⟨hrun, rfl⟩ | ⟨-, -, -, rfl⟩
        · exact (h.running hrun).2
        · rfl
      cases rest with
      | nil =>
          constructor
          · intro hrun
            cases hrun
          · intro _
            rw [hdis]
            rfl
      | cons e rest =>
          constructor
          · intro _
            exact ⟨by simp, hdis⟩
          · intro hrun
            cases hrun

/-- One iteration keeps the invariant. -/
theorem LoopInv.iteration {inp : IterInput} {s s' : ListenerState} (h : LoopInv s)
    (hclock : AfterEpoch inp) (hstep : Tram.iteration lib set recording inp s = .next s') :
    LoopInv s' := by
  obtain ⟨s₁, hsock, hplay⟩ := iteration_next hstep
  have h₁ : LoopInv s₁ := (h.elapse inp.expiresBeforePoll).socketStep hclock hsock
  exact (h₁.elapse inp.expiresAfterPoll).playStep hplay

/-! ### Faults -/

theorem scheduleSample_fault {inp : PacketInput} {tspec : Timespec} {pcm : Bytes} {len : ℕ}
    {s : ListenerState} {f : Fault} (h : scheduleSample inp tspec pcm len s = .error f) :
    f = .nullMemcpy := by
  rw [scheduleSample] at h
  split at h
  · cases h
  split at h
  · cases h
    rfl
  dsimp only at h
  split at h
  · split at h <;> cases h
  · cases h

/-- The only fault of `new_packet` is the unchecked allocation. -/
theorem newPacket_fault {inp : PacketInput} {s : ListenerState} {f : Fault}
    (h : newPacket lib set inp s = .error f) : f = .nullMemcpy := by
  rw [newPacket] at h
  -- every branch before `schedule_sample` returns
  split at h
  · cases h
  split at h
  · cases h
  dsimp only at h
  split at h
  · cases h
  split at h
  · cases h
  split at h
  · cases h
  split at h
  · cases h
  split at h
  · cases h
  split at h
  · cases h
  split at h
  · rename_i hsched
    cases h
    exact scheduleSample_fault hsched
  · split at h <;> cases h

/-- Playback does not fault while the queue is not empty, or nothing is to be
played, and a timer that polled readable still is. -/
theorem playStep_no_fault {frames : ℕ} {timerReadable : Bool} {inp : IterInput}
    {s : ListenerState}
    (hne : s.isRunning = true ∨ timerReadable = true → s.samples ≠ [])
    (hready : s.isRunning = false → timerReadable = true → s.timer.readable = true) (f : Fault) :
    playStep recording frames timerReadable inp s ≠ .error f := by
  have hplay : ∀ t : ListenerState, t.samples = s.samples → s.samples ≠ [] →
      ∃ t', playFragment recording inp.writeiRc frames t = .ok t' := by
    intro t ht hs
    rw [playFragment]
    split
    · rename_i hnil
      exact absurd (ht ▸ hnil) hs
    · exact ⟨_, rfl⟩
  rw [playStep]
  by_cases hrun : s.isRunning = true
  · obtain ⟨t', ht'⟩ := hplay s rfl (hne (Or.inl hrun))
    simp [hrun, ht']
  · have hstop : s.isRunning = false := by simpa using hrun
    by_cases hr : timerReadable = true
    · obtain ⟨tspec, htimer⟩ := PacketTimer.readable_iff.mp (hready hstop hr)
      rcases hread : inp.timerReadOk with - | -
      · simp [hstop, hr, aafTimeout]
      · obtain ⟨t', ht'⟩ := hplay { s with isRunning := true, timer := .disarmed } rfl
          (hne (Or.inr hr))
        simp [hstop, hr, aafTimeout, htimer, PacketTimer.read, ht']
    · simp [hstop, hr]

/-- An iteration from a state of the invariant can only run into the unchecked
allocation. -/
theorem LoopInv.iteration_fault {inp : IterInput} {s : ListenerState} (h : LoopInv s)
    (hclock : AfterEpoch inp) {f : Fault}
    (hstep : Tram.iteration lib set recording inp s = .fault f) : f = .nullMemcpy := by
  have h₀ : LoopInv (atPoll inp s) := h.elapse inp.expiresBeforePoll
  rw [Tram.iteration] at hstep
  split at hstep
  · cases hstep
  dsimp only at hstep
  split at hstep
  · rename_i f' hsock
    cases hstep
    rw [Tram.socketStep] at hsock
    split at hsock
    · exact newPacket_fault hsock
    · cases hsock
  · rename_i rc s₁ hsock
    split at hstep
    · cases hstep
    · rename_i hrc
      have hcase : SocketCase lib set inp (atPoll inp s) s₁ := socketStep_cases hsock hrc
      have h₁ : LoopInv s₁ := h₀.socketStep hclock hcase
      -- the poll result is older than the packet, and still right
      obtain ⟨hrun, hkeep⟩ := socketStep_keeps_readable h₀ hcase
      split at hstep
      · rename_i f' hplay
        refine absurd hplay (playStep_no_fault ?_ ?_ _)
        · rintro (hr | hr)
          · exact (h₁.running hr).1
          · exact (h₁.of_readable (hkeep hr)).2
        · intro _ hr
          obtain ⟨tspec, htimer⟩ := PacketTimer.readable_iff.mp (hkeep hr)
          rw [htimer, PacketTimer.elapse_expired]
          rfl
      · split at hstep
        · cases hstep
        split at hstep
        · cases hstep
        split at hstep <;> cases hstep

/-! ### Every run -/

theorem loopInv_run {tr : List (ListenerState × IterInput)} {s : ListenerState}
    (hrun : (listenerLoop lib set recording).Run tr s)
    (hclock : Machine.All (fun _ inp => AfterEpoch inp) tr) : LoopInv s :=
  Machine.Run.invariant
    (by
      rintro s rfl
      exact loopInv_init)
    (fun _ _ _ h hc hstep => h.iteration hc hstep) hrun hclock

/-- **The loop invariant.**  In every state reached at the top of the loop:
playback means a non-empty queue and a timer at rest; otherwise the timer is
armed exactly when the queue is not empty, and for its head.  No iteration
from there fails an assertion or blocks on the timer. -/
theorem listenerLoop_invariant {tr : List (ListenerState × IterInput)} {s : ListenerState}
    (hrun : (listenerLoop lib set recording).Run tr s)
    (hclock : Machine.All (fun _ inp => AfterEpoch inp) tr) :
    (s.isRunning = true → s.samples ≠ [] ∧ s.timer = .disarmed) ∧
      (s.isRunning = false →
        ((∃ tspec, s.timer = .pending tspec ∨ s.timer = .expired tspec) ↔ s.samples ≠ []) ∧
          ∀ entry rest, s.samples = entry :: rest →
            s.timer = .pending entry.tspec ∨ s.timer = .expired entry.tspec) ∧
      ∀ inp, AfterEpoch inp →
        iteration lib set recording inp s ≠ .fault .emptyQueue ∧
          iteration lib set recording inp s ≠ .fault .expirations ∧
          iteration lib set recording inp s ≠ .fault .timerNotReadable := by
  have h := loopInv_run hrun hclock
  -- `armedFor` says both at once: armed when, and armed for what
  refine ⟨h.running, fun hstop => ?_, fun inp hc => ?_⟩
  · have harmed := h.waiting hstop
    rcases hs : s.samples with - | ⟨entry, rest⟩
    · rcases ht : s.timer with - | t | t <;> rw [ht, hs] at harmed
      · simp
      · cases harmed
      · cases harmed
    · rcases ht : s.timer with - | t | t <;> rw [ht, hs] at harmed
      · cases harmed
      · obtain rfl : t = entry.tspec := Option.some.inj harmed
        simp
      · obtain rfl : t = entry.tspec := Option.some.inj harmed
        simp
  · refine ⟨fun hf => ?_, fun hf => ?_, fun hf => ?_⟩ <;>
      exact absurd (h.iteration_fault hc hf) (by decide)

/-! ### A stream for the concrete runs -/

/-- Mono, 16 bit, one frame a packet. -/
def monoSettings : StreamSettings where
  streamId := 0xAABBCCDDEEFF0001
  sampleRate := 48000
  bitDepth := 16
  channels := 1
  dataLen := 2
  pduSize := 26
  aafSampleRate := ieee1722.nsr48
  aafBitDepth := ieee1722.formatInt16
  hwLatency := 1
  framesPerPdu := 1
  maxTransitTime := 2

/-- The packet of the stream with sequence number `seq`, time stamp `stamp`
and one sample. -/
def monoPacket (seq stamp : ℕ) (sample : Bytes) : Bytes :=
  ((initPdu ieee1722 (List.replicate 24 0 ++ sample) monoSettings).bind fun pdu =>
    setFields ieee1722 pdu [(.timestamp, stamp), (.seqNum, seq)]).getD []

/-- An iteration that receives a datagram at `arrival`. -/
def receives (arrival : Timespec) (datagram : Bytes) : IterInput :=
  { sockReadable := true
    packet := { clock := some arrival, recv := some datagram } }

/-- An iteration in which the packet timer has gone off. -/
def timerFires : IterInput := { expiresBeforePoll := true }

/-- Two packets arrive, and the first is played when its time comes. -/
def playInputs : List IterInput :=
  [receives ⟨10, 0⟩ (monoPacket 0 1412065408 [1, 2]),
    receives ⟨10, 1000⟩ (monoPacket 1 1412085408 [3, 4]), timerFires]

theorem listenerLoop_invariant_played :
    ∃ tr s, (listenerLoop ieee1722 monoSettings true).Run tr s ∧ s.isRunning = true ∧
      s.samples = [⟨⟨10, 2020000⟩, [3, 4]⟩] ∧ s.timer = .disarmed := by
  have hexec : (runListener ieee1722 monoSettings true playInputs).map
      (fun s => (s.isRunning, s.samples)) = some (true, [⟨⟨10, 2020000⟩, [3, 4]⟩]) := by
    decide +kernel
  obtain ⟨s, hs, hview⟩ := Option.map_eq_some_iff.mp hexec
  obtain ⟨hon, hqueue⟩ := Prod.mk.inj hview
  obtain ⟨tr, hrun, hlabels⟩ := runListener_run hs
  have hclock : Machine.All (fun _ inp => AfterEpoch inp) tr := by
    refine Machine.all_of_labels fun inp hinp arrival ha => ?_
    rw [hlabels] at hinp
    simp only [playInputs, List.mem_cons, List.not_mem_nil, or_false] at hinp
    rcases hinp with rfl | rfl | rfl
    · obtain rfl := Option.some.inj ha
      decide
    · obtain rfl := Option.some.inj ha
      decide
    · cases ha
  exact ⟨tr, s, hrun, hon, hqueue, ((listenerLoop_invariant hrun hclock).1 hon).2⟩

end Tram
