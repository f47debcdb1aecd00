/-
Tram/Listener.lean

The listener (`avb_aaf.c`): receiving a packet, the sample queue with its
timer, playback, and one iteration of the `avb_aaf_listener` loop.

Everything the system answers in an iteration (poll results, the datagram,
clock readings, failing calls, the moments at which the timer expires) is an
input record, so the code itself is a function.  A failed assertion, a copy
to a null pointer and a read that would block are faults of their own.

The packet timer is a one-shot absolute timer: once armed it is pending, it
may expire at any later moment, and from then on it polls readable until it
is read or armed again.

The log is a history variable: it records the packets pushed to the
statistics and the buffers handed to the sound card and to the WAV file.
-/
import Tram.Alsa
import Tram.Pdu
import Tram.Runs
import Tram.Stats

namespace Tram

/-! ### The packet timer -/

/-- State of `timer_fd`. -/
inductive PacketTimer
  | disarmed
  | pending (tspec : Timespec)
  /-- Expired and not read yet. -/
  | expired (tspec : Timespec)
deriving DecidableEq, Repr

namespace PacketTimer

/-- The time the timer is armed for, pending or expired. -/
def armedFor : PacketTimer → Option Timespec
  | disarmed => none
  | pending t => some t
  | expired t => some t

/-- Whether `poll` reports the timer as readable. -/
def readable : PacketTimer → Bool
  | expired _ => true
  | _ => false

/-- Time goes by; with `expires` a pending timer goes off. -/
def elapse (expires : Bool) : PacketTimer → PacketTimer
  | pending t => if expires then expired t else pending t
  | t => t

/-- `read` on the timer: the number of expirations, one for a one-shot timer.
`none` where the call would block. -/
def read : PacketTimer → Option (ℕ × PacketTimer)
  | expired _ => some (1, disarmed)
  | _ => none

@[simp] theorem armedFor_elapse (expires : Bool) (t : PacketTimer) :
    (t.elapse expires).armedFor = t.armedFor := by
  cases t <;> cases expires <;> rfl

@[simp] theorem elapse_disarmed (expires : Bool) : elapse expires disarmed = disarmed := rfl

theorem elapse_expired (expires : Bool) (t : Timespec) : elapse expires (expired t) = expired t :=
  rfl

theorem readable_iff {t : PacketTimer} : t.readable = true ↔ ∃ tspec, t = expired tspec := by
  cases t <;> simp [readable]

end PacketTimer

/-- `arm_timer`; `ok` is the success of `timerfd_settime`.  A zero time
disarms the timer. -/
def armTimer (ok : Bool) (tspec : Timespec) : Option PacketTimer :=
  if ok then some (if tspec = ⟨0, 0⟩ then .disarmed else .pending tspec)
  else none

theorem armTimer_armedFor {ok : Bool} {tspec : Timespec} {timer : PacketTimer}
    (h : armTimer ok tspec = some timer) (hz : tspec ≠ ⟨0, 0⟩) : timer = .pending tspec := by
  rw [armTimer] at h
  rw [if_neg hz] at h
  split at h
  · exact (Option.some.inj h).symm
  · cases h

/-! ### State, inputs and faults -/

/-- `struct sample_entry`. -/
structure SampleEntry where
  tspec : Timespec
  pcmSample : Bytes
deriving DecidableEq, Repr

/-- What the listener did with a packet. -/
inductive Event
  /-- A packet was pushed to the statistics. -/
  | statsPush (node : StatNode) (pdu : Bytes)
  /-- `snd_pcm_writei` with its result. -/
  | writei (buffer : Bytes) (frames : ℕ) (rc : ℤ)
  /-- `snd_pcm_prepare`. -/
  | prepare
  /-- `wav_write`. -/
  | wavWrite (buffer : Bytes) (frames : ℕ)
deriving DecidableEq, Repr

/-- The variables of the loop. -/
structure ListenerState where
  samples : List SampleEntry
  timer : PacketTimer
  expectedSeq : ℕ
  isRunning : Bool
  stats : StatsHandler
  log : List Event
deriving DecidableEq, Repr

/-- The state before the first iteration. -/
def listenerInit : ListenerState := ⟨[], .disarmed, 0, false, avbStatsHandlerInit, []⟩

/-- What the system answers to the calls of `new_packet`: the clock, the
datagram `recv` delivers, the three allocations, arming the timer. -/
structure PacketInput where
  clock : Option Timespec
  recv : Option Bytes
  statMalloc : Bool := true
  entryMalloc : Bool := true
  pcmMalloc : Bool := true
  settime : Bool := true
deriving DecidableEq, Repr

/-- What the system answers in one iteration of the loop. -/
structure IterInput where
  pollOk : Bool := true
  /-- The packet timer goes off before `poll`. -/
  expiresBeforePoll : Bool := false
  sockReadable : Bool := false
  packet : PacketInput := ⟨none, none, true, true, true, true⟩
  /-- The packet timer goes off between `poll` and the timer branch. -/
  expiresAfterPoll : Bool := false
  timerReadOk : Bool := true
  writeiRc : ℤ := 0
  sessionReadable : Bool := false
  /-- The byte read from the terminal, if any. -/
  key : Option ℕ := none
deriving DecidableEq, Repr

/-- Ways an iteration does not get through its own code. -/
inductive Fault
  /-- `memcpy` to the null `pcm_sample` of a failed `malloc`. -/
  | nullMemcpy
  /-- `assert(entry != NULL)` in `play_fragment`. -/
  | emptyQueue
  /-- `assert(expirations == 1)` in `aaf_timeout`. -/
  | expirations
  /-- The read of the packet timer finds nothing to read and blocks. -/
  | timerNotReadable
deriving DecidableEq, Repr

/-! ### Receiving -/

/-- `schedule_sample`.  `data_len` is passed as an `int`, so a length from
`2 ^ 31` on is negative and its `malloc` fails. -/
def scheduleSample (inp : PacketInput) (tspec : Timespec) (pcmSample : Bytes) (dataLen : ℕ)
    (s : ListenerState) : Except Fault (ℤ × ListenerState) :=
  if !inp.entryMalloc then .ok (-1, s)
  else if !inp.pcmMalloc || 2 ^ 31 ≤ dataLen then .error .nullMemcpy
  else
    let entry : SampleEntry := ⟨tspec, pcmSample.take dataLen⟩
    let samples := s.samples ++ [entry]
    -- the first entry arms the timer
    if s.samples.isEmpty then
      match armTimer inp.settime tspec with
      | none => .ok (-1, s)
      | some timer => .ok (1, { s with samples, timer })
    else .ok (0, { s with samples })

/-- `new_packet`: the return value and the new state. -/
def newPacket (lib : Libavtp) (set : StreamSettings) (inp : PacketInput) (s : ListenerState) :
    Except Fault (ℤ × ListenerState) :=
  match inp.clock with
  | none => .ok (-1, s)
  | some arrival =>
    match inp.recv with
    | none => .ok (-1, s)
    | some datagram =>
      -- `recv` truncates to the size of the buffer
      let pdu := datagram.take set.pduSize
      if pdu.length ≠ set.pduSize then .ok (-1, s)
      else
        let expectedSeqAux := s.expectedSeq
        match isValidPacket lib set pdu s.expectedSeq with
        | (.error _, expectedSeq) => .ok (0, { s with expectedSeq })
        | (.ok (), expectedSeq) =>
          let s := { s with expectedSeq }
          match lib.aafPduGet pdu .timestamp with
          | none => .ok (-1, s)
          | some avtpTime =>
            let res := (getPresentationTime avtpTime arrival).1
            let presentation := (getPresentationTime avtpTime arrival).2
            -- late, and nothing is queued: wait for a better one
            if res = 1 ∧ s.samples.isEmpty then .ok (1, s)
            else if res < 0 then .ok (-1, s)
            else
              let expectedSeqAux := u8 (expectedSeqAux + 1)
              let stats :=
                if expectedSeqAux ≠ expectedSeq then
                  avbStatsAddDropped s.stats (subU8 expectedSeq expectedSeqAux)
                else s.stats
              match avbStatsPush inp.statMalloc stats arrival presentation with
              | none => .ok (-1, { s with stats })
              | some stats =>
                let log := s.log ++ [.statsPush ⟨arrival, presentation⟩ pdu]
                match scheduleSample inp presentation (pdu.drop lib.sizeofStreamPdu) set.dataLen
                    { s with stats, log } with
                | .error f => .error f
                | .ok (res, s) => if res < 0 then .ok (-1, s) else .ok (0, s)

/-! ### Playback -/

/-- `avb_alsa_write`, with the result `rc` of `snd_pcm_writei`. -/
def avbAlsaWrite (rc : ℤ) (buffer : Bytes) (frames : ℕ) : List Event :=
  if rc = -epipe then [.writei buffer frames rc, .prepare] else [.writei buffer frames rc]

/-- `play_fragment`; `recording` tells whether `fp` is not null. -/
def playFragment (recording : Bool) (rc : ℤ) (frames : ℕ) (s : ListenerState) :
    Except Fault ListenerState :=
  match s.samples with
  | [] => .error .emptyQueue
  | entry :: rest =>
      let wav := if recording then [Event.wavWrite entry.pcmSample frames] else []
      .ok { s with
        samples := rest
        log := s.log ++ avbAlsaWrite rc entry.pcmSample frames ++ wav }

/-- `aaf_timeout`. -/
def aafTimeout (readOk : Bool) (s : ListenerState) : Except Fault (ℤ × ListenerState) :=
  if !readOk then .ok (-1, s)
  else
    match s.timer.read with
    | none => .error .timerNotReadable
    | some (expirations, timer) =>
        if expirations ≠ 1 then .error .expirations else .ok (0, { s with timer })

/-- `if (STAILQ_EMPTY(&samples)) is_running = false`. -/
def stopOnEmpty (s : ListenerState) : ListenerState :=
  if s.samples.isEmpty then { s with isRunning := false } else s

/-- The playback part of the loop body.  `timerReadable` is the poll result,
which may be stale by now. -/
def playStep (recording : Bool) (frames : ℕ) (timerReadable : Bool) (inp : IterInput)
    (s : ListenerState) : Except Fault (ℤ × ListenerState) :=
  if s.isRunning then
    match playFragment recording inp.writeiRc frames s with
    | .error f => .error f
    | .ok s => .ok (0, stopOnEmpty s)
  else if timerReadable then
    let s := { s with isRunning := true }
    match aafTimeout inp.timerReadOk s with
    | .error f => .error f
    | .ok (res, s) =>
        if res < 0 then .ok (res, s)
        else
          match playFragment recording inp.writeiRc frames s with
          | .error f => .error f
          | .ok s => .ok (0, stopOnEmpty s)
  else .ok (0, s)

/-! ### The loop -/

/-- How one iteration ends. -/
inductive LoopStep
  | next (s : ListenerState)
  /-- `break`: session timeout or ESC. -/
  | brk (s : ListenerState)
  /-- `goto end` with the value of `res`. -/
  | goEnd (res : ℤ) (s : ListenerState)
  | fault (f : Fault)
deriving DecidableEq, Repr

/-- The socket branch of the loop body. -/
def socketStep (lib : Libavtp) (set : StreamSettings) (inp : IterInput) (s : ListenerState) :
    Except Fault (ℤ × ListenerState) :=
  if inp.sockReadable then newPacket lib set inp.packet s else .ok (0, s)

/-- The escape key. -/
def keyEsc : ℕ := 27

/-- One iteration of the loop of `avb_aaf_listener`. -/
def iteration (lib : Libavtp) (set : StreamSettings) (recording : Bool) (inp : IterInput)
    (s : ListenerState) : LoopStep :=
  if !inp.pollOk then .goEnd (-1) s
  else
    let s := { s with timer := s.timer.elapse inp.expiresBeforePoll }
    let timerReadable := s.timer.readable
    match socketStep lib set inp s with
    | .error f => .fault f
    | .ok (res, s) =>
      if res < 0 then .goEnd res s
      else
        let s := { s with timer := s.timer.elapse inp.expiresAfterPoll }
        match playStep recording (u32 set.framesPerPdu) timerReadable inp s with
        | .error f => .fault f
        | .ok (res, s) =>
          if res < 0 then .goEnd res s
          else if inp.sessionReadable then .brk s
          else if inp.key = some keyEsc then .brk s
          else .next s

/-- The loop as a machine; its states are those at the top of the loop. -/
def listenerLoop (lib : Libavtp) (set : StreamSettings) (recording : Bool) :
    Machine ListenerState IterInput where
  init s := s = listenerInit
  step s inp s' := iteration lib set recording inp s = .next s'

/-- The state at the top of the next iteration, if there is one. -/
def LoopStep.next? : LoopStep → Option ListenerState
  | .next s => some s
  | _ => none

theorem LoopStep.eq_of_next? {step : LoopStep} {s : ListenerState} (h : step.next? = some s) :
    step = .next s := by
  cases step with
  | next t => exact congrArg LoopStep.next (Option.some.inj h)
  | brk t => cases h
  | goEnd res t => cases h
  | fault f => cases h

/-- The loop on given inputs. -/
def runListener (lib : Libavtp) (set : StreamSettings) (recording : Bool)
    (inputs : List IterInput) : Option ListenerState :=
  Machine.execute (fun s inp => (iteration lib set recording inp s).next?) listenerInit inputs

/-- Running the loop on inputs gives a run with these inputs. -/
theorem runListener_run {lib : Libavtp} {set : StreamSettings} {recording : Bool}
    {inputs : List IterInput} {s : ListenerState}
    (h : runListener lib set recording inputs = some s) :
    ∃ tr, (listenerLoop lib set recording).Run tr s ∧ tr.map Prod.snd = inputs :=
  Machine.Run.execute (fun _ _ _ => LoopStep.eq_of_next?) (Machine.Run.start rfl) h

end Tram
