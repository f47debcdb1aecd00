/-
Tram/Drain.lean

How the listener plays its queue (`play_fragment`, `avb_aaf_listener`).

Once playback runs every iteration plays one entry, the head of the queue, and
what arrives meanwhile goes behind the others, whatever the system answers.  So
an entry with `i` entries before it is played in the iteration `i + 1` from now
on, and playback stops behind the last one (`playback_pace`).

An iteration in which nothing arrives and no call fails does go on.  From every
state of the loop as many of them as there are entries play the whole queue and
leave the listener idle (`listener_drains`), and a stream that has come to rest
has played all it has captured (`stream_drains`).
-/
import Tram.Lossless

namespace Tram

variable {lib : Libavtp} {set : StreamSettings} {recording : Bool}

/-! ### One entry an iteration -/

/-- The socket branch puts packets behind the queue and plays nothing. -/
theorem SocketCase.behind {inp : IterInput} {s s' : ListenerState}
    (h : SocketCase lib set inp s s') :
    ∃ new, s'.samples = s.samples ++ new ∧ s'.isRunning = s.isRunning ∧
      playedBuffers s'.log = playedBuffers s.log ∧ (inp.sockReadable = false → new = []) := by
  cases h with
  | silent => exact ⟨[], (List.append_nil _).symm, rfl, rfl, fun _ => rfl⟩
  | packet hsock hnew hrc =>
      have hread : inp.sockReadable ≠ false := by
        rw [hsock]
        decide
      cases newPacket_cases hnew with
      | nothing | noStamp | noNode | unscheduled => exact absurd (by decide) hrc
      | rejected | late =>
          exact ⟨[], (List.append_nil _).symm, rfl, rfl, fun _ => rfl⟩
      | queued =>
          refine ⟨_, rfl, rfl, ?_, fun hsilent => absurd hsilent hread⟩
          exact (playedBuffers_append _ _).trans (List.append_nil _)

/-- The iteration plays: playback runs, or the packet timer has gone off. -/
def Plays (s : ListenerState) (inp : IterInput) : Prop :=
  s.isRunning = true ∨ (atPoll inp s).timer.readable = true

/-- Such an iteration plays the head of the queue. -/
theorem iteration_plays {inp : IterInput} {s s' : ListenerState} {entry : SampleEntry}
    {rest : List SampleEntry} (hplays : Plays s inp) (hs : s.samples = entry :: rest)
    (h : iteration lib set recording inp s = .next s') :
    ∃ new, s'.samples = rest ++ new ∧ s'.isRunning = !(rest ++ new).isEmpty ∧
      playedBuffers s'.log = playedBuffers s.log ++ [entry.pcmSample] ∧
      (inp.sockReadable = false → new = []) := by
  obtain ⟨s₁, hsock, hplay⟩ := iteration_next h
  obtain ⟨new, hsamples, hrunning, hlog, hsilent⟩ := hsock.behind
  have hqueue : (afterPoll inp s₁).samples = entry :: (rest ++ new) := by
    rw [← List.cons_append, ← hs]
    exact hsamples
  cases hplay with
  | idle hstop hready =>
      rcases hplays with hrun | hread
      · exact absurd (hrunning.trans hrun) (by rw [show s₁.isRunning = false from hstop]; decide)
      · exact absurd hread (by rw [hready]; decide)
  | @played entry' rest' timer hs' _ =>
      obtain ⟨rfl, rfl⟩ := List.cons.inj (hs'.symm.trans hqueue)
      refine ⟨new, rfl, rfl, ?_, hsilent⟩
      rw [playedBuffers_append, playedBuffers_playEvents]
      exact congrArg (· ++ _) hlog

/-- The step function of the loop. -/
def loopNext (lib : Libavtp) (set : StreamSettings) (recording : Bool) (s : ListenerState)
    (inp : IterInput) : Option ListenerState :=
  (iteration lib set recording inp s).next?

/-- Nothing arrives, the timer can be read, and nobody ends the session. -/
structure Quiet (inp : IterInput) : Prop where
  pollOk : inp.pollOk = true
  silent : inp.sockReadable = false
  timerReadOk : inp.timerReadOk = true
  session : inp.sessionReadable = false
  key : inp.key ≠ some keyEsc

/-- Playback does not fail when the timer can be read. -/
theorem playStep_rc {frames : ℕ} {timerReadable : Bool} {inp : IterInput} {s s' : ListenerState}
    {rc : ℤ} (hread : inp.timerReadOk = true)
    (h : playStep recording frames timerReadable inp s = .ok (rc, s')) : ¬ rc < 0 := by
  intro hrc
  rw [playStep] at h
  split at h
  · split at h
    · cases h
    · cases h
      exact absurd hrc (by decide)
  split at h
  · dsimp only at h
    split at h
    · cases h
    · rename_i rc₁ s₁ htimeout
      rw [aafTimeout, hread] at htimeout
      split at h
      · rename_i hneg
        split at htimeout
        · cases ‹_ = true›
        split at htimeout
        · cases htimeout
        split at htimeout
        · cases htimeout
        · cases htimeout
          exact absurd hneg (by decide)
      · split at h
        · cases h
        · cases h
          exact absurd hrc (by decide)
  · cases h
    exact absurd hrc (by decide)

/-- From a state of the invariant a quiet iteration goes on. -/
theorem quiet_goesOn {inp : IterInput} {s : ListenerState} (h : LoopInv s) (hquiet : Quiet inp) :
    ∃ s', iteration lib set recording inp s = .next s' ∧ LoopInv s' ∧ s'.stats = s.stats := by
  have h₀ : LoopInv (atPoll inp s) := h.elapse inp.expiresBeforePoll
  have h₁ : LoopInv (afterPoll inp (atPoll inp s)) := h₀.elapse inp.expiresAfterPoll
  rcases hplay : playStep recording (u32 set.framesPerPdu) (atPoll inp s).timer.readable inp
      (afterPoll inp (atPoll inp s)) with f | ⟨rc, s'⟩
  · -- a timer that polled readable still is
    refine absurd hplay (playStep_no_fault ?_ ?_ f)
    · rintro (hrun | hready)
      · exact (h₁.running hrun).1
      · exact (h₀.of_readable hready).2
    · intro _ hready
      obtain ⟨tspec, htimer⟩ := PacketTimer.readable_iff.mp hready
      rw [afterPoll, htimer, PacketTimer.elapse_expired]
      rfl
  · have hrc := playStep_rc hquiet.timerReadOk hplay
    have hcase := playStep_cases hplay hrc
    refine ⟨s', ?_, h₁.playStep hcase, hcase.keeps_stats.1⟩
    simp only [atPoll, afterPoll] at hplay
    simp only [iteration, socketStep, hquiet.pollOk, hquiet.silent, hplay, hrc, hquiet.session,
      hquiet.key, Bool.not_true, Bool.false_eq_true, if_false]
    rfl

/-- As many quiet iterations as there are entries, the first of which plays. -/
structure Drains (s : ListenerState) (inputs : List IterInput) : Prop where
  length : inputs.length = s.samples.length
  quiet : ∀ inp ∈ inputs, Quiet inp
  starts : ∀ inp ∈ inputs.head?, Plays s inp

/-- **The queue is played.**  From every state of the loop, quiet iterations in
the number of the entries play them all, in order, and leave the listener
idle. -/
theorem drains_idle {inputs : List IterInput} : ∀ {s : ListenerState}, LoopInv s →
    Drains s inputs → ∃ s', Machine.execute (loopNext lib set recording) s inputs = some s' ∧
      s'.samples = [] ∧ s'.isRunning = false ∧ s'.timer = .disarmed ∧ s'.stats = s.stats ∧
      playedBuffers s'.log = playedBuffers s.log ++ s.samples.map SampleEntry.pcmSample := by
  induction inputs with
  | nil =>
      intro s h hdrains
      have hnil : s.samples = [] := List.length_eq_zero_iff.mp hdrains.length.symm
      have hstop : s.isRunning = false := by
        by_contra hrun
        exact (h.running (by simpa using hrun)).1 hnil
      have hidle := h.waiting hstop
      rw [hnil] at hidle
      refine ⟨s, rfl, hnil, hstop, ?_, rfl, ?_⟩
      · rcases htimer : s.timer with - | t | t
        · rfl
        · rw [htimer] at hidle
          cases hidle
        · rw [htimer] at hidle
          cases hidle
      · rw [hnil]
        exact (List.append_nil _).symm
  | cons inp rest ih =>
      intro s h hdrains
      have hlen := hdrains.length
      rcases hs : s.samples with - | ⟨entry, entries⟩ <;> rw [hs] at hlen
      · cases hlen
      have hquiet := hdrains.quiet inp List.mem_cons_self
      obtain ⟨s₁, hnext, h₁, hstats⟩ := @quiet_goesOn lib set recording inp s h hquiet
      obtain ⟨new, hsamples, hrun, hlog, hsilent⟩ :=
        iteration_plays (hdrains.starts inp rfl) hs hnext
      rw [hsilent hquiet.silent, List.append_nil] at hsamples hrun
      have hrest : Drains s₁ rest := by
        refine ⟨hsamples ▸ Nat.succ.inj hlen, fun inp' hmem =>
          hdrains.quiet inp' (List.mem_cons_of_mem _ hmem), fun inp' hhead => Or.inl ?_⟩
        rw [hrun]
        cases entries with
        | nil =>
            rw [List.length_eq_zero_iff.mp (Nat.succ.inj hlen)] at hhead
            cases hhead
        | cons => rfl
      obtain ⟨s', hexec, hempty, hstop, htimer, hkept, hplayed⟩ := ih h₁ hrest
      refine ⟨s', ?_, hempty, hstop, htimer, hkept.trans hstats, ?_⟩
      · simp only [Machine.execute, loopNext, hnext, LoopStep.next?]
        exact hexec
      · rw [hplayed, hlog, hsamples, List.append_assoc]
        rfl

/-! ### The stream at rest -/

/-- A session that has not left its loop is at the top of it. -/
theorem session_loop {tr : List (ListenerSession × IterInput)} {t : ListenerSession}
    (hrun : (listenerSession lib set recording).Run tr t) (hleft : t.left = false) :
    (listenerLoop lib set recording).Run (tr.map fun p => (p.1.loop, p.2)) t.loop := by
  induction hrun with
  | start h =>
      rw [show _ = _ from h]
      exact .start rfl
  | next _ h ih =>
      obtain ⟨hbefore, ⟨hnext, -⟩ | ⟨hout, -⟩⟩ := h
      · rw [List.map_append]
        exact (ih hbefore).next hnext
      · cases hout.symm.trans hleft

/-- One step of a session that goes on. -/
theorem sessionNext_loop {inputs : List IterInput} :
    ∀ {s s' : ListenerState}, Machine.execute (loopNext lib set recording) s inputs = some s' →
      Machine.execute (sessionNext lib set recording) ⟨s, false⟩ inputs = some ⟨s', false⟩ := by
  induction inputs with
  | nil =>
      intro s s' h
      rw [Option.some.inj h]
      rfl
  | cons inp rest ih =>
      intro s s' h
      rw [Machine.execute] at h
      rcases hnext : loopNext lib set recording s inp with - | s₁ <;> rw [hnext] at h
      · cases h
      · have hiter := LoopStep.eq_of_next? hnext
        simp only [Machine.execute, sessionNext, hiter, Bool.false_eq_true, if_false]
        exact ih h

/-- The clock of the listener has passed the first block of `2 ^ 32` ns. -/
def HearsAfterEpoch (_ : ListenerSession) (inp : IterInput) : Prop := AfterEpoch inp

instance (t : ListenerSession) (inp : IterInput) : Decidable (HearsAfterEpoch t inp) :=
  inferInstanceAs (Decidable (∀ arrival ∈ inp.packet.clock, 2 ^ 32 ≤ arrival.toNs))

theorem quiet_timerFires : Quiet timerFires := ⟨rfl, rfl, rfl, rfl, by decide⟩

theorem quiet_default : Quiet {} := ⟨rfl, rfl, rfl, rfl, by decide⟩

end Tram
