/-
Tram/Playback.lean

Nothing is lost, duplicated or reordered between the statistics, the sample
queue and the two sinks.

Reading the log of a run back gives three lists: the packets pushed to the
statistics, the buffers handed to the sound card and the buffers handed to
the WAV file.  `LogInv` ties them to the state: the played buffers followed
by the queued ones are the payloads of the pushed packets, in push order, and
the statistics stack holds the nodes of the same packets in reverse.
-/
import Tram.LoopInvariant

namespace Tram

variable {lib : Libavtp} {set : StreamSettings} {recording : Bool}

/-! ### Reading the log -/

/-- The packets pushed with `avb_stats_push`, oldest first. -/
def pushedPackets (log : List Event) : List (StatNode × Bytes) :=
  log.filterMap fun
    | .statsPush node pdu => some (node, pdu)
    | _ => none

/-- The buffers handed to `avb_alsa_write`, oldest first. -/
def playedBuffers (log : List Event) : List Bytes :=
  log.filterMap fun
    | .writei buffer _ _ => some buffer
    | _ => none

/-- The buffers handed to `wav_write`, oldest first. -/
def recordedBuffers (log : List Event) : List Bytes :=
  log.filterMap fun
    | .wavWrite buffer _ => some buffer
    | _ => none

/-- The payload of a PDU: `data_len` bytes from `avtp_payload` on. -/
def payload (lib : Libavtp) (set : StreamSettings) (pdu : Bytes) : Bytes :=
  (pdu.drop lib.sizeofStreamPdu).take set.dataLen

@[simp] theorem pushedPackets_append (l l' : List Event) :
    pushedPackets (l ++ l') = pushedPackets l ++ pushedPackets l' := List.filterMap_append

@[simp] theorem playedBuffers_append (l l' : List Event) :
    playedBuffers (l ++ l') = playedBuffers l ++ playedBuffers l' := List.filterMap_append

@[simp] theorem recordedBuffers_append (l l' : List Event) :
    recordedBuffers (l ++ l') = recordedBuffers l ++ recordedBuffers l' := List.filterMap_append

@[simp] theorem pushedPackets_playEvents (rc : ℤ) (buffer : Bytes) (frames : ℕ) :
    pushedPackets (playEvents recording rc buffer frames) = [] := by
  rw [playEvents, avbAlsaWrite]
  cases recording <;> split <;> rfl

@[simp] theorem playedBuffers_playEvents (rc : ℤ) (buffer : Bytes) (frames : ℕ) :
    playedBuffers (playEvents recording rc buffer frames) = [buffer] := by
  rw [playEvents, avbAlsaWrite]
  cases recording <;> split <;> rfl

@[simp] theorem recordedBuffers_playEvents (rc : ℤ) (buffer : Bytes) (frames : ℕ) :
    recordedBuffers (playEvents recording rc buffer frames)
      = if recording then [buffer] else [] := by
  rw [playEvents, avbAlsaWrite]
  cases recording <;> split <;> rfl

/-! ### The invariant -/

/-- Log, queue and statistics agree. -/
structure LogInv (lib : Libavtp) (set : StreamSettings) (recording : Bool)
    (s : ListenerState) : Prop where
  queue : playedBuffers s.log ++ s.samples.map SampleEntry.pcmSample
    = (pushedPackets s.log).map fun p => payload lib set p.2
  recorded : recordedBuffers s.log = if recording then playedBuffers s.log else []
  stats : s.stats.stackHead = ((pushedPackets s.log).map Prod.fst).reverse

theorem logInv_init : LogInv lib set recording listenerInit where
  queue := rfl
  recorded := by
    cases recording <;> rfl
  stats := rfl

theorem LogInv.socketStep {inp : IterInput} {s s' : ListenerState}
    (h : LogInv lib set recording s) (hcase : SocketCase lib set inp s s') :
    LogInv lib set recording s' := by
  cases hcase with
  | silent => exact h
  | packet _ hnew hrc =>
      cases newPacket_cases hnew with
      | nothing | noStamp | noNode | unscheduled => exact absurd (by decide) hrc
      | rejected | late => exact ⟨h.queue, h.recorded, h.stats⟩
      | @queued arrival pdu seq avtpTime timer =>
          -- one packet more at the end of both sides
          constructor
          · simp only [pushPacket, playedBuffers_append, pushedPackets_append, List.map_append]
            rw [← h.queue]
            simp [playedBuffers, pushedPackets, entryOf, payload]
          · simp only [pushPacket, playedBuffers_append, recordedBuffers_append, h.recorded]
            cases recording <;> simp [playedBuffers, recordedBuffers]
          · simp only [pushPacket, pushedPackets_append, countGap_stackHead, h.stats]
            simp [pushedPackets]

theorem LogInv.playStep {frames : ℕ} {timerReadable : Bool} {inp : IterInput}
    {s s' : ListenerState} (h : LogInv lib set recording s)
    (hcase : PlayCase recording frames timerReadable inp s s') :
    LogInv lib set recording s' := by
  cases hcase with
  | idle => exact h
  | @played entry rest timer hs =>
      -- the head of the queue moves over to the played buffers
      have hqueue := h.queue
      rw [hs, List.map_cons] at hqueue
      constructor
      · simp only [playedBuffers_append, pushedPackets_append, playedBuffers_playEvents,
          pushedPackets_playEvents, List.append_nil]
        rw [← hqueue, List.append_assoc, List.singleton_append]
      · simp only [playedBuffers_append, recordedBuffers_append, playedBuffers_playEvents,
          recordedBuffers_playEvents, h.recorded]
        cases recording <;> rfl
      · simp only [pushedPackets_append, pushedPackets_playEvents, List.append_nil]
        exact h.stats

theorem LogInv.through {inp : IterInput} {s s' : ListenerState}
    (h : LogInv lib set recording s)
    (hstep : iteration lib set recording inp s = .next s' ∨
      iteration lib set recording inp s = .brk s') :
    LogInv lib set recording s' := by
  obtain ⟨s₁, hsock, hplay⟩ := iteration_through hstep
  have h₀ : LogInv lib set recording (atPoll inp s) := ⟨h.queue, h.recorded, h.stats⟩
  have h₁ : LogInv lib set recording s₁ := h₀.socketStep hsock
  have h₂ : LogInv lib set recording (afterPoll inp s₁) := ⟨h₁.queue, h₁.recorded, h₁.stats⟩
  exact h₂.playStep hplay

theorem logInv_run {tr : List (ListenerState × IterInput)} {s : ListenerState}
    (hrun : (listenerLoop lib set recording).Run tr s) : LogInv lib set recording s :=
  Machine.Run.invariant_of_step
    (by
      rintro s rfl
      exact logInv_init)
    (fun _ _ _ h hstep => h.through (Or.inl hstep)) hrun

/-! ### Every run -/

/-- **Conservation inside the listener.**  In every state reached at the top
of the loop the played buffers followed by the queued ones are the payloads
of the pushed packets, in order; a recording gets the same buffers; the first
statistics node belongs to the first buffer played, and the last one to the
packet queued last. -/
theorem listenerLoop_conserves {tr : List (ListenerState × IterInput)} {s : ListenerState}
    (hrun : (listenerLoop lib set recording).Run tr s) :
    playedBuffers s.log ++ s.samples.map SampleEntry.pcmSample
        = (pushedPackets s.log).map (fun p => payload lib set p.2) ∧
      recordedBuffers s.log = (if recording then playedBuffers s.log else []) ∧
      (∀ buffer rest, playedBuffers s.log = buffer :: rest →
        ∃ node pdu, (pushedPackets s.log).head? = some (node, pdu) ∧
          avbStatsGetFirst s.stats = some node ∧ payload lib set pdu = buffer) ∧
      avbStatsGetLast s.stats = (pushedPackets s.log).getLast?.map Prod.fst := by
  have h := logInv_run hrun
  obtain ⟨hfirst, hlast⟩ := avbStatsGet_of_pushes h.stats
  refine ⟨h.queue, h.recorded, ?_, ?_⟩
  · intro buffer rest hplayed
    -- the first buffer played heads both sides of `queue`
    have hqueue := h.queue
    rw [hplayed] at hqueue
    rcases hpush : pushedPackets s.log with - | ⟨⟨node, pdu⟩, more⟩
    · rw [hpush] at hqueue
      cases hqueue
    · rw [hpush, List.map_cons, List.cons_append] at hqueue
      refine ⟨node, pdu, rfl, ?_, (List.cons.inj hqueue).1.symm⟩
      rw [hfirst, hpush]
      rfl
  · rw [hlast, List.getLast?_map]

theorem listenerLoop_conserves_played :
    ∃ tr s, (listenerLoop ieee1722 monoSettings true).Run tr s ∧
      playedBuffers s.log = [[1, 2]] ∧ recordedBuffers s.log = [[1, 2]] ∧
      (pushedPackets s.log).map (fun p => payload ieee1722 monoSettings p.2)
        = [[1, 2], [3, 4]] := by
  have hexec : (runListener ieee1722 monoSettings true playInputs).map
      (fun s => (playedBuffers s.log, s.samples.map SampleEntry.pcmSample))
        = some ([[1, 2]], [[3, 4]]) := by
    decide +kernel
  obtain ⟨s, hs, hview⟩ := Option.map_eq_some_iff.mp hexec
  obtain ⟨hplayed, hqueue⟩ := Prod.mk.inj hview
  obtain ⟨tr, hrun, -⟩ := runListener_run hs
  obtain ⟨hall, hrec, -, -⟩ := listenerLoop_conserves hrun
  refine ⟨tr, s, hrun, hplayed, ?_, ?_⟩
  · rw [hrec, hplayed]
    rfl
  · rw [← hall, hplayed, hqueue]
    rfl

end Tram
