/-
Tram/ListenerSteps.lean

What one call of each listener function can do.

`NewPacketCase` lists the ways `new_packet` can return, with the state each
one leaves; `PlayCase` does the same for the playback part of an iteration.
`iteration_next` splits an iteration that reaches the next one into the two,
so every invariant of the loop is a pair of case analyses over these lists.
-/
import Tram.Listener

namespace Tram

variable {lib : Libavtp} {set : StreamSettings} {recording : Bool}

/-! ### new_packet -/

/-- The call reads the clock as `arrival` and receives the full PDU `pdu`. -/
structure Delivers (set : StreamSettings) (inp : PacketInput) (arrival : Timespec)
    (pdu : Bytes) : Prop where
  clock : inp.clock = some arrival
  recv : ∃ datagram, inp.recv = some datagram ∧ pdu = datagram.take set.pduSize
  length : pdu.length = set.pduSize

theorem Delivers.unique {inp : PacketInput} {arrival arrival' : Timespec} {pdu pdu' : Bytes}
    (h : Delivers set inp arrival pdu) (h' : Delivers set inp arrival' pdu') :
    arrival' = arrival ∧ pdu' = pdu := by
  obtain ⟨hclock, ⟨datagram, hrecv, rfl⟩, -⟩ := h
  obtain ⟨hclock', ⟨datagram', hrecv', rfl⟩, -⟩ := h'
  obtain rfl : datagram' = datagram := Option.some.inj (hrecv'.symm.trans hrecv)
  exact ⟨Option.some.inj (hclock'.symm.trans hclock), rfl⟩

/-- The call receives a valid packet with time stamp `avtpTime`, which makes
`seq` the next expected sequence number. -/
structure Validated (lib : Libavtp) (set : StreamSettings) (inp : PacketInput)
    (s : ListenerState) (arrival : Timespec) (pdu : Bytes) (seq avtpTime : ℕ) : Prop where
  delivers : Delivers set inp arrival pdu
  valid : isValidPacket lib set pdu s.expectedSeq = (.ok (), seq)
  stamp : lib.aafPduGet pdu .timestamp = some avtpTime

/-- The statistics after the sequence gap before a packet has been counted. -/
def countGap (s : ListenerState) (seq : ℕ) : StatsHandler :=
  if u8 (s.expectedSeq + 1) ≠ seq then
    avbStatsAddDropped s.stats (subU8 seq (u8 (s.expectedSeq + 1)))
  else s.stats

theorem countGap_stackHead (s : ListenerState) (seq : ℕ) :
    (countGap s seq).stackHead = s.stats.stackHead := by
  rw [countGap]
  split
  · exact avbStatsAddDropped_stackHead _ _
  · rfl

/-- The state after a packet has been counted and pushed to the statistics. -/
def pushPacket (s : ListenerState) (seq : ℕ) (node : StatNode) (pdu : Bytes) : ListenerState :=
  { s with
    expectedSeq := seq
    stats := { countGap s seq with stackHead := node :: (countGap s seq).stackHead }
    log := s.log ++ [.statsPush node pdu] }

/-- The queue entry made of a packet. -/
def entryOf (lib : Libavtp) (set : StreamSettings) (tspec : Timespec) (pdu : Bytes) :
    SampleEntry :=
  ⟨tspec, (pdu.drop lib.sizeofStreamPdu).take set.dataLen⟩

/-- The ways `new_packet` returns. -/
inductive NewPacketCase (lib : Libavtp) (set : StreamSettings) (inp : PacketInput)
    (s : ListenerState) : ℤ → ListenerState → Prop
  /-- No clock reading, or no datagram of the full length. -/
  | nothing : (∀ arrival pdu, ¬ Delivers set inp arrival pdu) → NewPacketCase lib set inp s (-1) s
  | rejected {arrival pdu f seq} :
      Delivers set inp arrival pdu → isValidPacket lib set pdu s.expectedSeq = (.error f, seq) →
      NewPacketCase lib set inp s 0 { s with expectedSeq := seq }
  /-- The time stamp of a valid packet cannot be read. -/
  | noStamp {arrival pdu seq} :
      Delivers set inp arrival pdu → isValidPacket lib set pdu s.expectedSeq = (.ok (), seq) →
      lib.aafPduGet pdu .timestamp = none →
      NewPacketCase lib set inp s (-1) { s with expectedSeq := seq }
  /-- The packet is late and the queue is empty. -/
  | late {arrival pdu seq avtpTime} :
      Validated lib set inp s arrival pdu seq avtpTime →
      (getPresentationTime avtpTime arrival).1 = 1 → s.samples = [] →
      NewPacketCase lib set inp s 1 { s with expectedSeq := seq }
  /-- `avb_stats_push` fails, after the gap has been counted. -/
  | noNode {arrival pdu seq avtpTime} :
      Validated lib set inp s arrival pdu seq avtpTime → inp.statMalloc = false →
      ¬ ((getPresentationTime avtpTime arrival).1 = 1 ∧ s.samples = []) →
      NewPacketCase lib set inp s (-1) { s with expectedSeq := seq, stats := countGap s seq }
  /-- `schedule_sample` fails, after the packet has been pushed. -/
  | unscheduled {arrival pdu seq avtpTime} :
      Validated lib set inp s arrival pdu seq avtpTime →
      ¬ ((getPresentationTime avtpTime arrival).1 = 1 ∧ s.samples = []) →
      NewPacketCase lib set inp s (-1)
        (pushPacket s seq ⟨arrival, (getPresentationTime avtpTime arrival).2⟩ pdu)
  /-- The packet is queued; the first one arms the timer. -/
  | queued {arrival pdu seq avtpTime timer} :
      Validated lib set inp s arrival pdu seq avtpTime →
      ¬ ((getPresentationTime avtpTime arrival).1 = 1 ∧ s.samples = []) →
      (s.samples = [] ∧ armTimer inp.settime (getPresentationTime avtpTime arrival).2 = some timer ∨
        s.samples ≠ [] ∧ timer = s.timer) →
      NewPacketCase lib set inp s 0
        { pushPacket s seq ⟨arrival, (getPresentationTime avtpTime arrival).2⟩ pdu with
          samples := s.samples ++ [entryOf lib set (getPresentationTime avtpTime arrival).2 pdu]
          timer := timer }

/-- `schedule_sample` either fails and leaves the state alone or appends the
entry, arming the timer for it if it is the first one. -/
theorem scheduleSample_ok {inp : PacketInput} {tspec : Timespec} {pcm : Bytes} {len : ℕ}
    {s s' : ListenerState} {rc : ℤ} (h : scheduleSample inp tspec pcm len s = .ok (rc, s')) :
    (rc = -1 ∧ s' = s) ∨
      0 ≤ rc ∧ ∃ timer, s' = { s with samples := s.samples ++ [⟨tspec, pcm.take len⟩], timer } ∧
        (s.samples = [] ∧ armTimer inp.settime tspec = some timer ∨
          s.samples ≠ [] ∧ timer = s.timer) := by
  rw [scheduleSample] at h
  split at h
  · cases h
    exact Or.inl ⟨rfl, rfl⟩
  split at h
  · cases h
  dsimp only at h
  split at h
  · rename_i hempty
    split at h
    · cases h
      exact Or.inl ⟨rfl, rfl⟩
    · rename_i timer harm
      cases h
      exact Or.inr ⟨by decide, timer, rfl, Or.inl ⟨List.isEmpty_iff.mp hempty, harm⟩⟩
  · rename_i hempty
    cases h
    refine Or.inr ⟨by decide, s.timer, rfl, Or.inr ⟨fun hnil => hempty ?_, rfl⟩⟩
    rw [hnil, List.isEmpty_nil]

/-- Every return of `new_packet` is one of the listed cases. -/
theorem newPacket_cases {inp : PacketInput} {s s' : ListenerState} {rc : ℤ}
    (h : newPacket lib set inp s = .ok (rc, s')) : NewPacketCase lib set inp s rc s' := by
  rw [newPacket] at h
  rcases hclock : inp.clock with - | arrival <;> simp only [hclock] at h
  · cases h
    refine .nothing fun arrival pdu hdel => ?_
    cases hclock.symm.trans hdel.clock
  rcases hrecv : inp.recv with - | datagram <;> simp only [hrecv] at h
  · cases h
    refine .nothing fun arrival pdu hdel => ?_
    obtain ⟨datagram, hsome, -⟩ := hdel.recv
    cases hrecv.symm.trans hsome
  split at h
  · rename_i hlen
    cases h
    refine .nothing fun arrival pdu hdel => ?_
    obtain ⟨datagram', hsome, rfl⟩ := hdel.recv
    obtain rfl : datagram' = datagram := Option.some.inj (hsome.symm.trans hrecv)
    exact hlen hdel.length
  rename_i hlen
  have hdel : Delivers set inp arrival (datagram.take set.pduSize) :=
    ⟨hclock, ⟨datagram, hrecv, rfl⟩, by simpa using hlen⟩
  -- from here on only the full PDU matters
  generalize datagram.take set.pduSize = pdu at h hdel
  rcases hvalid : isValidPacket lib set pdu s.expectedSeq with ⟨f | ⟨⟩, seq⟩ <;>
    simp only [hvalid] at h
  · cases h
    exact .rejected hdel hvalid
  rcases hstamp : lib.aafPduGet pdu .timestamp with - | avtpTime <;> simp only [hstamp] at h
  · cases h
    exact .noStamp hdel hvalid hstamp
  have hval : Validated lib set inp s arrival pdu seq avtpTime := ⟨hdel, hvalid, hstamp⟩
  split at h
  · rename_i hlate
    cases h
    exact .late hval hlate.1 (List.isEmpty_iff.mp hlate.2)
  rename_i hnotlate
  have hontime : ¬ ((getPresentationTime avtpTime arrival).1 = 1 ∧ s.samples = []) := by
    rintro ⟨h1, h2⟩
    exact hnotlate ⟨h1, List.isEmpty_iff.mpr h2⟩
  split at h
  · -- `get_presentation_time` never returns a negative code
    rename_i hneg
    rcases getPresentationTime_fst avtpTime arrival with h0 | h1 <;> omega
  split at h
  · rename_i hpush
    cases h
    refine .noNode hval ?_ hontime
    rw [avbStatsPush] at hpush
    split at hpush
    · cases hpush
    · rename_i hm
      simpa using hm
  · -- pushed: only `schedule_sample` can still fail
    rename_i stats hpush
    obtain rfl := avbStatsPush_some hpush
    split at h
    · cases h
    · rename_i rc₁ s₁ hsched
      rcases scheduleSample_ok hsched with ⟨rfl, rfl⟩ | ⟨hrc, timer, rfl, harm⟩
      · cases h
        exact .unscheduled hval hontime
      · rw [if_neg (by omega)] at h
        cases h
        exact .queued hval hontime harm

/-- A valid packet that is late while the queue is empty is discarded. -/
theorem newPacket_late {inp : PacketInput} {s : ListenerState} {arrival : Timespec} {pdu : Bytes}
    {seq avtpTime : ℕ} (hval : Validated lib set inp s arrival pdu seq avtpTime)
    (hlate : (getPresentationTime avtpTime arrival).1 = 1) (hempty : s.samples = []) :
    newPacket lib set inp s = .ok (1, { s with expectedSeq := seq }) := by
  obtain ⟨⟨hclock, ⟨datagram, hrecv, rfl⟩, hlen⟩, hvalid, hstamp⟩ := hval
  simp only [newPacket, hclock, hrecv, if_neg (not_not.mpr hlen), hvalid, hstamp, hempty,
    List.isEmpty_nil, hlate, and_self, if_true]

/-! ### Playback -/

/-- The events of playing one buffer. -/
def playEvents (recording : Bool) (rc : ℤ) (buffer : Bytes) (frames : ℕ) : List Event :=
  avbAlsaWrite rc buffer frames ++ if recording then [Event.wavWrite buffer frames] else []

/-- The ways the playback part of an iteration goes on. -/
inductive PlayCase (recording : Bool) (frames : ℕ) (timerReadable : Bool) (inp : IterInput)
    (s : ListenerState) : ListenerState → Prop
  | idle : s.isRunning = false → timerReadable = false →
      PlayCase recording frames timerReadable inp s s
  /-- One entry is played; playback stops on an empty queue.  The first
  fragment also takes the expiration from the timer. -/
  | played {entry rest timer} :
      s.samples = entry :: rest →
      (s.isRunning = true ∧ timer = s.timer ∨
        s.isRunning = false ∧ timerReadable = true ∧ s.timer.readable = true ∧
          timer = .disarmed) →
      PlayCase recording frames timerReadable inp s
        { s with
          samples := rest
          timer := timer
          isRunning := !rest.isEmpty
          log := s.log ++ playEvents recording inp.writeiRc entry.pcmSample frames }

theorem playFragment_ok {rc : ℤ} {frames : ℕ} {s s' : ListenerState}
    (h : playFragment recording rc frames s = .ok s') :
    ∃ entry rest, s.samples = entry :: rest ∧
      s' = { s with
        samples := rest, log := s.log ++ playEvents recording rc entry.pcmSample frames } := by
  rw [playFragment] at h
  split at h
  · cases h
  · rename_i entry rest hs
    refine ⟨entry, rest, hs, ?_⟩
    rw [← Except.ok.inj h, playEvents, List.append_assoc]

theorem stopOnEmpty_eq {s : ListenerState} (hrun : s.isRunning = true) :
    stopOnEmpty s = { s with isRunning := !s.samples.isEmpty } := by
  rcases s with ⟨samples, timer, seq, run, stats, log⟩
  simp only at hrun
  subst hrun
  cases samples <;> rfl

theorem aafTimeout_ok {readOk : Bool} {s s' : ListenerState} {rc : ℤ}
    (h : aafTimeout readOk s = .ok (rc, s')) :
    rc = -1 ∨ rc = 0 ∧ s.timer.readable = true ∧ s' = { s with timer := .disarmed } := by
  rw [aafTimeout] at h
  split at h
  · cases h
    exact Or.inl rfl
  · rcases htimer : s.timer with - | t | t <;> simp only [htimer, PacketTimer.read] at h
    · cases h
    · cases h
    · cases h
      exact Or.inr ⟨rfl, rfl, rfl⟩

theorem playStep_cases {frames : ℕ} {timerReadable : Bool} {inp : IterInput}
    {s s' : ListenerState} {rc : ℤ}
    (h : playStep recording frames timerReadable inp s = .ok (rc, s')) (hrc : ¬ rc < 0) :
    PlayCase recording frames timerReadable inp s s' := by
  rw [playStep] at h
  split at h
  · -- running: one more fragment, and the timer is not looked at
    rename_i hrun
    split at h
    · cases h
    · rename_i s₁ hplay
      obtain ⟨entry, rest, hs, rfl⟩ := playFragment_ok hplay
      cases h
      rw [stopOnEmpty_eq]
      · exact .played hs (Or.inl ⟨hrun, rfl⟩)
      · exact hrun
  · rename_i hrun
    have hstop : s.isRunning = false := by simpa using hrun
    split at h
    · -- the first fragment: the expiration is read before it is played
      rename_i hread
      dsimp only at h
      split at h
      · cases h
      · rename_i rc₁ s₁ htimeout
        split at h
        · rename_i hneg
          cases h
          exact absurd hneg hrc
        · rename_i hnonneg
          rcases aafTimeout_ok htimeout with rfl | ⟨-, hready, rfl⟩
          · exact absurd (by decide) hnonneg
          · split at h
            · cases h
            · rename_i s₂ hplay
              obtain ⟨entry, rest, hs, rfl⟩ := playFragment_ok hplay
              cases h
              rw [stopOnEmpty_eq rfl]
              exact .played hs (Or.inr ⟨hstop, hread, hready, rfl⟩)
    · rename_i hread
      cases h
      exact .idle hstop (by simpa using hread)

/-! ### One iteration -/

/-- The state in which an iteration calls `new_packet`: the packet timer may
have gone off since the iteration began. -/
def atPoll (inp : IterInput) (s : ListenerState) : ListenerState :=
  { s with timer := s.timer.elapse inp.expiresBeforePoll }

/-- The state in which an iteration reaches the playback part. -/
def afterPoll (inp : IterInput) (s : ListenerState) : ListenerState :=
  { s with timer := s.timer.elapse inp.expiresAfterPoll }

/-- What the socket branch of an iteration does, when it goes on. -/
inductive SocketCase (lib : Libavtp) (set : StreamSettings) (inp : IterInput)
    (s : ListenerState) : ListenerState → Prop
  | silent : inp.sockReadable = false → SocketCase lib set inp s s
  | packet {rc s'} : inp.sockReadable = true → newPacket lib set inp.packet s = .ok (rc, s') →
      ¬ rc < 0 → SocketCase lib set inp s s'

theorem socketStep_cases {inp : IterInput} {s s' : ListenerState} {rc : ℤ}
    (h : socketStep lib set inp s = .ok (rc, s')) (hrc : ¬ rc < 0) :
    SocketCase lib set inp s s' := by
  rw [socketStep] at h
  split at h
  · rename_i hsock
    exact .packet hsock h hrc
  · rename_i hsock
    cases h
    exact .silent (by simpa using hsock)

/-- An iteration that gets through its body, to the next one or to a `break`,
polls, goes through the socket branch and goes through the playback part. -/
theorem iteration_through {inp : IterInput} {s s' : ListenerState}
    (h : iteration lib set recording inp s = .next s' ∨
      iteration lib set recording inp s = .brk s') :
    ∃ s₁, SocketCase lib set inp (atPoll inp s) s₁ ∧
      PlayCase recording (u32 set.framesPerPdu) (atPoll inp s).timer.readable inp
        (afterPoll inp s₁) s' := by
  rw [iteration] at h
  -- every earlier way out is a `goto end` or a fault
  split at h
  · rcases h with h | h <;> cases h
  dsimp only at h
  split at h
  · rcases h with h | h <;> cases h
  · rename_i rc s₁ hsock
    split at h
    · rcases h with h | h <;> cases h
    · rename_i hrc
      split at h
      · rcases h with h | h <;> cases h
      · rename_i rc₂ s₂ hplay
        split at h
        · rcases h with h | h <;> cases h
        rename_i hrc₂
        obtain rfl : s₂ = s' := by
          split at h
          · rcases h with h | h <;> cases h
            rfl
          split at h <;> rcases h with h | h <;> cases h <;> rfl
        exact ⟨s₁, socketStep_cases hsock hrc, playStep_cases hplay hrc₂⟩

/-- An iteration that reaches the next one. -/
theorem iteration_next {inp : IterInput} {s s' : ListenerState}
    (h : iteration lib set recording inp s = .next s') :
    ∃ s₁, SocketCase lib set inp (atPoll inp s) s₁ ∧
      PlayCase recording (u32 set.framesPerPdu) (atPoll inp s).timer.readable inp
        (afterPoll inp s₁) s' :=
  iteration_through (Or.inl h)

/-- The ways an iteration takes to the label `end`, other than a `break`. -/
inductive GoEndCase (lib : Libavtp) (set : StreamSettings) (inp : IterInput)
    (s : ListenerState) : ListenerState → Prop
  /-- `poll` fails. -/
  | poll : inp.pollOk = false → GoEndCase lib set inp s s
  /-- `new_packet` fails. -/
  | socket {rc s'} : newPacket lib set inp.packet (atPoll inp s) = .ok (rc, s') → rc < 0 →
      GoEndCase lib set inp s s'
  /-- `aaf_timeout` fails. -/
  | timer {s₁} : SocketCase lib set inp (atPoll inp s) s₁ →
      GoEndCase lib set inp s { afterPoll inp s₁ with isRunning := true }

theorem aafTimeout_neg {readOk : Bool} {s s' : ListenerState} {rc : ℤ}
    (h : aafTimeout readOk s = .ok (rc, s')) (hrc : rc < 0) : s' = s := by
  rw [aafTimeout] at h
  split at h
  · cases h
    rfl
  · rcases htimer : s.timer with - | t | t <;> simp only [htimer, PacketTimer.read] at h
    · cases h
    · cases h
    · cases h
      exact absurd hrc (by decide)

/-- Playback only fails in the read of the timer. -/
theorem playStep_neg {frames : ℕ} {timerReadable : Bool} {inp : IterInput}
    {s s' : ListenerState} {rc : ℤ}
    (h : playStep recording frames timerReadable inp s = .ok (rc, s')) (hrc : rc < 0) :
    s' = { s with isRunning := true } := by
  rw [playStep] at h
  split at h
  · split at h <;> cases h
    exact absurd hrc (by decide)
  split at h
  · dsimp only at h
    split at h
    · cases h
    · rename_i rc₁ s₁ htimeout
      split at h
      · rename_i hneg
        cases h
        exact aafTimeout_neg htimeout hneg
      · split at h <;> cases h
        exact absurd hrc (by decide)
  · cases h
    exact absurd hrc (by decide)

theorem iteration_goEnd {inp : IterInput} {s s' : ListenerState} {res : ℤ}
    (h : iteration lib set recording inp s = .goEnd res s') : GoEndCase lib set inp s s' := by
  rw [iteration] at h
  split at h
  · rename_i hpoll
    cases h
    exact .poll (by simpa using hpoll)
  dsimp only at h
  split at h
  · cases h
  · rename_i rc s₁ hsock
    split at h
    · rename_i hrc
      cases h
      rw [socketStep] at hsock
      split at hsock
      · exact .socket hsock hrc
      · cases hsock
        exact absurd hrc (by decide)
    · rename_i hrc
      split at h
      · cases h
      · rename_i rc₂ s₂ hplay
        split at h
        · rename_i hneg
          cases h
          rw [playStep_neg hplay hneg]
          exact .timer (socketStep_cases hsock hrc)
        · split at h
          · cases h
          · split at h <;> cases h

end Tram
