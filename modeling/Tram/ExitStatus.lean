/-
Tram/ExitStatus.lean

The values the two nodes return.

`res` is the result of the last call that was assigned to it.  `sendto` is
not: when it fails, `res` is still the zero of the last `avtp_aaf_pdu_set`, and
the talker reports success.  Behind the `end` of the listener `res` is assigned
anew, by the statistics, whatever led there; without entries the statistics
fail, but so does everything behind them.
-/
import Tram.Foreign
import Tram.Freshness
import Tram.Nodes
import Tram.SessionStats

namespace Tram

/-- Zero after the escape key or the session timeout, and only then. -/
structure ExitTells (cause : Cause) (rc : ℤ) : Prop where
  zero : rc = 0 ↔ cause = .left
  nonzero : rc ≠ 0 ↔ cause = .failed

theorem exitTells_left {rc : ℤ} : ExitTells .left rc ↔ rc = 0 := by
  refine ⟨fun h => h.zero.mpr rfl, fun h => ⟨iff_of_true h rfl, ?_⟩⟩
  exact iff_of_false (fun hne => hne h) nofun

theorem exitTells_failed {rc : ℤ} : ExitTells .failed rc ↔ rc ≠ 0 := by
  refine ⟨fun h => h.nonzero.mpr rfl, fun h => ⟨?_, iff_of_true h rfl⟩⟩
  exact iff_of_false h nofun

theorem exitTells_one : ExitTells .failed 1 := exitTells_failed.mpr one_ne_zero

/-! ### The talker -/

section Talker

variable {lib : Libavtp} {set : StreamSettings}

/-- The iteration comes to `sendto`, and `sendto` fails. -/
def SendFails (lib : Libavtp) (set : StreamSettings) (s : TalkerState) (inp : TalkerInput) :
    Prop :=
  inp.sendRc < 0 ∧
    match avbAlsaRead lib set inp s with
    | .error _ => False
    | .ok s =>
        match calculateAvtpTime inp.clock set.maxTransitTime with
        | none => False
        | some avtpTime =>
            match lib.aafPduSet s.pdu .timestamp avtpTime with
            | none => False
            | some pdu => (lib.aafPduSet pdu .seqNum s.seqNum).isSome

instance (s : TalkerState) (inp : TalkerInput) : Decidable (SendFails lib set s inp) := by
  unfold SendFails
  refine @instDecidableAnd _ _ _ ?_
  split
  · infer_instance
  split
  · infer_instance
  split <;> infer_instance

/-- How an iteration may leave the loop. -/
theorem talkerIteration_exit {s s' : TalkerState} {inp : TalkerInput} (hexit : s.exit = none)
    (h : talkerIteration lib set inp s = .ok s') :
    (SendFails lib set s inp ∧ s'.exit = some (.goEnd 0)) ∨
      ¬ SendFails lib set s inp ∧
        (s'.exit = none ∨ s'.exit = some .brk ∨ s'.exit = some (.goEnd (-1))) := by
  rw [talkerIteration] at h
  rw [SendFails]
  rcases hread : avbAlsaRead lib set inp s with f | s₁ <;> rw [hread] at h
  · cases h
  obtain rfl := Except.ok.inj h
  have hexit₁ : s₁.exit = none := (avbAlsaRead_ok hread).2.2.2.1.trans hexit
  rcases htime : calculateAvtpTime inp.clock set.maxTransitTime with - | avtpTime
  · simp only [stampAndSend, htime]
    exact Or.inr ⟨fun hf => hf.2, Or.inr (Or.inr trivial)⟩
  rcases hstamp : lib.aafPduSet s₁.pdu .timestamp avtpTime with - | pdu
  · simp only [stampAndSend, htime, hstamp]
    exact Or.inr ⟨fun hf => hf.2, Or.inr (Or.inr trivial)⟩
  rcases hnum : lib.aafPduSet pdu .seqNum s₁.seqNum with - | pdu'
  · simp only [stampAndSend, htime, hstamp, hnum]
    exact Or.inr ⟨fun hf => Bool.false_ne_true hf.2, Or.inr (Or.inr trivial)⟩
  simp only [stampAndSend, htime, hstamp, hnum]
  by_cases hneg : inp.sendRc < 0
  · rw [if_pos hneg]
    exact Or.inl ⟨⟨hneg, rfl⟩, rfl⟩
  · rw [if_neg hneg]
    refine Or.inr ⟨fun hf => hneg hf.1, ?_⟩
    split
    · exact Or.inr (Or.inl rfl)
    · exact Or.inl hexit₁

/-- The loop is left with the result zero by a `break` or by a failing
`sendto`. -/
theorem talkerLoop_exit {tr : List (TalkerState × TalkerInput)} {s : TalkerState}
    (hrun : (talkerLoop lib set).Run tr s) :
    (Machine.All (fun s inp => ¬ SendFails lib set s inp) tr ∧
        (s.exit = none ∨ s.exit = some .brk ∨ s.exit = some (.goEnd (-1)))) ∨
      ¬ Machine.All (fun s inp => ¬ SendFails lib set s inp) tr ∧ s.exit = some (.goEnd 0) := by
  induction hrun with
  | start h =>
      obtain ⟨buffer, pdu, -, -, rfl⟩ := h
      exact Or.inl ⟨Machine.All.nil, Or.inl rfl⟩
  | @next tr s inp s' hrun hstep ih =>
      obtain ⟨hexit, hiter⟩ := hstep
      rcases ih with ⟨hall, -⟩ | ⟨-, hsent⟩
      · rw [Machine.all_snoc]
        rcases talkerIteration_exit hexit hiter with ⟨hfails, hend⟩ | ⟨hok, hend⟩
        · exact Or.inr ⟨fun h => h.2 hfails, hend⟩
        · exact Or.inl ⟨⟨hall, hok⟩, hend⟩
      · rw [hsent] at hexit
        cases hexit

/-- What a return of the talker tells. -/
theorem TalkerReturns.exitTells_iff {priority : ℤ} {calls : TalkerCalls}
    {tr : List (TalkerState × TalkerInput)} {cause : Cause} {r : ℤ × List (Use Resource)}
    (h : TalkerReturns lib priority set calls tr cause r) :
    ExitTells cause r.1 ↔ ∀ set', avbAlsaSetup calls.hw set = .ok set' →
      Machine.All (fun s inp => ¬ SendFails lib set' s inp) tr := by
  cases h with
  | early hstart =>
      obtain ⟨rfl, -⟩ := talkerStart_returns hstart
      exact iff_of_true exitTells_one fun _ _ => Machine.All.nil
  | noAddress hstart =>
      obtain ⟨rfl, -⟩ := talkerStart_goEnd hstart
      exact iff_of_true exitTells_one fun _ _ => Machine.All.nil
  | noPdu => exact iff_of_true exitTells_one fun _ _ => Machine.All.nil
  | @loop fd set' log _ s e hstart hrun he =>
      obtain ⟨-, -, hset, -⟩ := talkerStart_ready hstart
      have hall : (∀ set'', avbAlsaSetup calls.hw set = .ok set'' →
          Machine.All (fun s inp => ¬ SendFails lib set'' s inp) tr) ↔
            Machine.All (fun s inp => ¬ SendFails lib set' s inp) tr := by
        constructor
        · exact fun h => h set' hset
        · intro h set'' hset'
          rwa [← Except.ok.inj (hset.symm.trans hset')]
      rw [hall]
      rcases talkerLoop_exit hrun with ⟨hok, hnone | hbrk | hend⟩ | ⟨hfails, hend⟩
      · rw [he] at hnone
        cases hnone
      · obtain rfl := Option.some.inj (he.symm.trans hbrk)
        exact iff_of_true (exitTells_left.mpr rfl) hok
      · obtain rfl := Option.some.inj (he.symm.trans hend)
        exact iff_of_true exitTells_one hok
      · obtain rfl := Option.some.inj (he.symm.trans hend)
        exact iff_of_false (fun h => exitTells_failed.mp h rfl) hfails

end Talker

/-! ### The listener -/

section Listener

variable {lib : Libavtp} {set : StreamSettings} {recording : Bool}

/-- A call of `new_packet` fails: the clock or `recv`, or behind the checks of
the packet the reading of the time stamp, one of the allocations whose result
is looked at, or arming the timer. -/
def PacketFails (lib : Libavtp) (set : StreamSettings) (s : ListenerState) (inp : PacketInput) :
    Prop :=
  match inp.clock, inp.recv with
  | some arrival, some datagram =>
      let pdu := datagram.take set.pduSize
      pdu.length ≠ set.pduSize ∨ Accepted lib set s pdu ∧
        match lib.aafPduGet pdu .timestamp with
        | none => True
        | some avtpTime =>
            -- a late packet is discarded before anything is allocated
            ¬ ((getPresentationTime avtpTime arrival).1 = 1 ∧ s.samples = []) ∧
              (inp.statMalloc = false ∨ inp.entryMalloc = false ∨
                s.samples = [] ∧ inp.settime = false)
  | _, _ => True

instance (s : ListenerState) (inp : PacketInput) : Decidable (PacketFails lib set s inp) := by
  unfold PacketFails
  split
  · refine @instDecidableOr _ _ _ (@instDecidableAnd _ _ _ ?_)
    split <;> infer_instance
  · infer_instance

/-- A call of the loop body fails: `poll`, one of `new_packet`, or the read of
the packet timer. -/
def FailingCall (lib : Libavtp) (set : StreamSettings) (s : ListenerState) (inp : IterInput) :
    Prop :=
  inp.pollOk = false ∨ inp.sockReadable = true ∧ PacketFails lib set s inp.packet ∨
    s.isRunning = false ∧ (s.timer.elapse inp.expiresBeforePoll).readable = true ∧
      inp.timerReadOk = false

instance (s : ListenerState) (inp : IterInput) : Decidable (FailingCall lib set s inp) :=
  inferInstanceAs (Decidable (_ ∨ _))

theorem scheduleSample_neg_iff {inp : PacketInput} {tspec : Timespec} {pcm : Bytes} {len : ℕ}
    {s s' : ListenerState} {rc : ℤ} (h : scheduleSample inp tspec pcm len s = .ok (rc, s')) :
    rc < 0 ↔ inp.entryMalloc = false ∨ s.samples = [] ∧ inp.settime = false := by
  rw [scheduleSample] at h
  by_cases hentry : inp.entryMalloc = false
  · rw [hentry] at h
    cases h
    exact iff_of_true (by decide) (Or.inl hentry)
  rw [or_iff_right hentry, ← List.isEmpty_iff]
  rw [if_neg (by simpa using hentry)] at h
  split at h
  · cases h
  dsimp only at h
  by_cases hempty : s.samples.isEmpty = true
  · rw [if_pos hempty, armTimer] at h
    rcases hset : inp.settime with - | - <;> rw [hset] at h <;> cases h
    · exact iff_of_true (by decide) ⟨hempty, rfl⟩
    · exact iff_of_false (by decide) fun hno => Bool.false_ne_true hno.2.symm
  · rw [if_neg hempty] at h
    cases h
    exact iff_of_false (by decide) fun hno => hempty hno.1

/-- `new_packet` returns a negative number when one of its calls fails. -/
theorem newPacket_neg_iff {inp : PacketInput} {s s' : ListenerState} {rc : ℤ}
    (h : newPacket lib set inp s = .ok (rc, s')) : rc < 0 ↔ PacketFails lib set s inp := by
  rw [newPacket] at h
  rw [PacketFails]
  rcases hclock : inp.clock with - | arrival <;> simp only [hclock] at h ⊢
  · cases h
    exact iff_of_true (by decide) trivial
  rcases hrecv : inp.recv with - | datagram <;> simp only [hrecv] at h ⊢
  · cases h
    exact iff_of_true (by decide) trivial
  generalize datagram.take set.pduSize = pdu at h ⊢
  by_cases hlen : pdu.length ≠ set.pduSize
  · rw [if_pos hlen] at h
    cases h
    exact iff_of_true (by decide) (Or.inl hlen)
  rw [or_iff_right hlen]
  rw [if_neg hlen] at h
  rcases hvalid : isValidPacket lib set pdu s.expectedSeq with ⟨f | ⟨⟩, seq⟩ <;>
    simp only [hvalid] at h
  · cases h
    refine iff_of_false (by decide) fun hfails => ?_
    have hok := hfails.1
    rw [Accepted, hvalid] at hok
    cases hok
  rw [and_iff_right (show Accepted lib set s pdu from congrArg Prod.fst hvalid)]
  rcases hstamp : lib.aafPduGet pdu .timestamp with - | avtpTime <;> simp only [hstamp] at h ⊢
  · cases h
    exact iff_of_true (by decide) trivial
  rw [← List.isEmpty_iff]
  by_cases hlate : (getPresentationTime avtpTime arrival).1 = 1 ∧ s.samples.isEmpty = true
  · rw [if_pos hlate] at h
    cases h
    exact iff_of_false (by decide) fun hno => hno.1 hlate
  rw [and_iff_right hlate]
  rw [if_neg hlate, if_neg ?_] at h
  · rw [avbStatsPush] at h
    rcases hstat : inp.statMalloc with - | - <;> rw [hstat] at h
    · cases h
      exact iff_of_true (by decide) (Or.inl rfl)
    rw [or_iff_right Bool.noConfusion, List.isEmpty_iff]
    rw [if_pos rfl] at h
    dsimp only at h
    split at h
    · cases h
    · rename_i rc₁ s₁ hsched
      have hneg := scheduleSample_neg_iff hsched
      split at h
      · rename_i hrc₁
        cases h
        exact iff_of_true (by decide) (hneg.mp hrc₁)
      · rename_i hrc₁
        cases h
        exact iff_of_false (by decide) fun hno => hrc₁ (hneg.mpr hno)
  · -- `get_presentation_time` never returns a negative code
    rcases getPresentationTime_fst avtpTime arrival with h0 | h1 <;> omega

theorem socketStep_neg_iff {inp : IterInput} {s s' : ListenerState} {rc : ℤ}
    (h : socketStep lib set inp s = .ok (rc, s')) :
    rc < 0 ↔ inp.sockReadable = true ∧ PacketFails lib set s inp.packet := by
  rw [socketStep] at h
  by_cases hsock : inp.sockReadable = true
  · rw [if_pos hsock] at h
    rw [and_iff_right hsock]
    exact newPacket_neg_iff h
  · rw [if_neg hsock] at h
    cases h
    exact iff_of_false (by decide) fun hno => hsock hno.1

theorem aafTimeout_neg_iff {readOk : Bool} {s s' : ListenerState} {rc : ℤ}
    (h : aafTimeout readOk s = .ok (rc, s')) : rc < 0 ↔ readOk = false := by
  rw [aafTimeout] at h
  cases readOk with
  | false =>
      cases h
      exact iff_of_true (by decide) rfl
  | true =>
      rw [if_neg (by decide)] at h
      split at h
      · cases h
      · split at h <;> cases h
        exact iff_of_false (by decide) (by decide)

/-- Playback fails in the read of the timer only. -/
theorem playStep_neg_iff {frames : ℕ} {timerReadable : Bool} {inp : IterInput}
    {s s' : ListenerState} {rc : ℤ}
    (h : playStep recording frames timerReadable inp s = .ok (rc, s')) :
    rc < 0 ↔ s.isRunning = false ∧ timerReadable = true ∧ inp.timerReadOk = false := by
  rw [playStep] at h
  by_cases hrunning : s.isRunning = true
  · rw [if_pos hrunning] at h
    split at h <;> cases h
    exact iff_of_false (by decide) fun hno => Bool.false_ne_true (hno.1.symm.trans hrunning)
  rw [and_iff_right (Bool.eq_false_of_not_eq_true hrunning)]
  rw [if_neg hrunning] at h
  by_cases hreadable : timerReadable = true
  · rw [and_iff_right hreadable]
    rw [if_pos hreadable] at h
    dsimp only at h
    split at h
    · cases h
    · rename_i rc₁ s₁ htimeout
      have hneg := aafTimeout_neg_iff htimeout
      split at h
      · rename_i hrc₁
        cases h
        exact iff_of_true hrc₁ (hneg.mp hrc₁)
      · rename_i hrc₁
        split at h <;> cases h
        exact iff_of_false (by decide) fun hno => hrc₁ (hneg.mpr hno)
  · rw [if_neg hreadable] at h
    cases h
    exact iff_of_false (by decide) fun hno => hreadable hno.1

theorem SocketCase.isRunning {inp : IterInput} {s s' : ListenerState}
    (h : SocketCase lib set inp s s') : s'.isRunning = s.isRunning := by
  cases h with
  | silent => rfl
  | packet _ hnew => cases newPacket_cases hnew <;> rfl

/-- An iteration that gets through its code takes to `end`, other than by a
`break`, when one of its calls fails. -/
theorem iteration_goEnd_iff {s : ListenerState} {inp : IterInput}
    (hfault : ∀ f, iteration lib set recording inp s ≠ .fault f) :
    (∃ res s', iteration lib set recording inp s = .goEnd res s') ↔ FailingCall lib set s inp := by
  rw [iteration] at hfault ⊢
  rw [FailingCall]
  by_cases hpoll : inp.pollOk = false
  · rw [hpoll]
    exact iff_of_true ⟨-1, s, rfl⟩ (Or.inl rfl)
  have hpolled : ¬ (!inp.pollOk) = true := by simpa using hpoll
  rw [or_iff_right hpoll]
  rw [if_neg hpolled] at hfault ⊢
  dsimp only at hfault ⊢
  rcases hsock : socketStep lib set inp { s with timer := s.timer.elapse inp.expiresBeforePoll }
    with f | ⟨res, s₁⟩ <;> rw [hsock] at hfault
  · exact absurd rfl (hfault f)
  have hneg : res < 0 ↔ inp.sockReadable = true ∧ PacketFails lib set s inp.packet :=
    socketStep_neg_iff (s := atPoll inp s) hsock
  dsimp only at hfault ⊢
  by_cases hres : res < 0
  · rw [if_pos hres]
    exact iff_of_true ⟨res, s₁, rfl⟩ (Or.inl (hneg.mp hres))
  rw [or_iff_right fun hno => hres (hneg.mpr hno)]
  rw [if_neg hres] at hfault ⊢
  -- only the read of the timer is left
  have hrunning : s₁.isRunning = s.isRunning := (socketStep_cases hsock hres).isRunning
  rw [← hrunning]
  rcases hstep : playStep recording (u32 set.framesPerPdu) _ inp
    { s₁ with timer := s₁.timer.elapse inp.expiresAfterPoll } with f | ⟨rc, s₂⟩ <;>
    rw [hstep] at hfault
  · exact absurd rfl (hfault f)
  dsimp only
  by_cases hrc : rc < 0
  · rw [if_pos hrc]
    exact iff_of_true ⟨rc, s₂, rfl⟩ ((playStep_neg_iff hstep).mp hrc)
  · rw [if_neg hrc]
    refine iff_of_false ?_ fun hno => hrc ((playStep_neg_iff hstep).mpr hno)
    rintro ⟨res, s', h⟩
    split at h
    · cases h
    · split at h <;> cases h

/-- No call fails in an iteration that is followed by another one or left by a
`break`. -/
theorem not_failingCall {s s' : ListenerState} {inp : IterInput}
    (h : iteration lib set recording inp s = .next s' ∨
      iteration lib set recording inp s = .brk s') : ¬ FailingCall lib set s inp := by
  intro hfails
  have hfault : ∀ f, iteration lib set recording inp s ≠ .fault f := by
    intro f hf
    rcases h with h | h <;> cases h.symm.trans hf
  obtain ⟨res, s₁, hend⟩ := (iteration_goEnd_iff hfault).mpr hfails
  rcases h with h | h <;> cases h.symm.trans hend

/-- No call fails before an iteration that leaves the loop at its top. -/
theorem listenerLoop_calls {tr : List (ListenerState × IterInput)} {s : ListenerState}
    (hrun : (listenerLoop lib set recording).Run tr s) :
    Machine.All (fun s inp => ¬ FailingCall lib set s inp) tr := by
  induction hrun with
  | start => exact Machine.All.nil
  | next _ hstep ih => exact Machine.all_snoc.mpr ⟨ih, not_failingCall (Or.inl hstep)⟩

/-- What a return of the listener tells. -/
theorem ListenerReturns.exitTells_iff {ops : DoubleOps} {calls : ListenerCalls} {recTime : ℤ}
    {filename : String} {tr : List (ListenerState × IterInput)} {cause : Cause}
    {r : ℤ × List (Use Resource)}
    (h : ListenerReturns lib ops set calls recTime filename tr cause r) :
    ExitTells cause r.1 ↔ ∀ set', avbAlsaSetup calls.hw set = .ok set' →
      Machine.All (fun s inp => ¬ FailingCall lib set' s inp) tr := by
  cases h with
  | early hstart =>
      obtain ⟨rfl, -⟩ := listenerStart_returns hstart
      exact iff_of_true exitTells_one fun _ _ => Machine.All.nil
  | noSetup hstart hend =>
      -- nothing has been pushed, and `end` is not left
      exact absurd rfl (listenerEnd_some hend).1
  | @brk vars tr s inp s' _ hstart hrun hbrk hend =>
      obtain ⟨-, hset, -⟩ := listenerStart_holds (Or.inr hstart)
      rw [(listenerEnd_some hend).2]
      refine iff_of_true (exitTells_left.mpr rfl) fun set' hset' => ?_
      obtain rfl := Except.ok.inj (hset.symm.trans hset')
      exact Machine.all_snoc.mpr ⟨listenerLoop_calls hrun, not_failingCall (Or.inr hbrk)⟩
  | @goEnd vars tr s inp res s' _ hstart hrun hfail hend =>
      obtain ⟨-, hset, -⟩ := listenerStart_holds (Or.inr hstart)
      have hfault : ∀ f, iteration lib vars.set vars.recording inp s ≠ .fault f := by
        intro f hf
        cases hfail.symm.trans hf
      rw [(listenerEnd_some hend).2]
      refine iff_of_false (fun h => exitTells_failed.mp h rfl) fun h => ?_
      exact (Machine.all_snoc.mp (h vars.set hset)).2
        ((iteration_goEnd_iff hfault).mp ⟨res, s', hfail⟩)

end Listener

/-! ### Both nodes -/

/-- **Exit status.**  Whenever a node returns, its value tells success from
failure exactly when, in its loop, no `sendto` of the talker and no call of
the listener has failed. -/
theorem exit_status_iff (lib : Libavtp) (ops : DoubleOps) (set : StreamSettings) :
    (∀ priority calls tr cause r, TalkerReturns lib priority set calls tr cause r →
        (ExitTells cause r.1 ↔ ∀ set', avbAlsaSetup calls.hw set = .ok set' →
          Machine.All (fun s inp => ¬ SendFails lib set' s inp) tr)) ∧
      ∀ calls recTime filename tr cause r,
        ListenerReturns lib ops set calls recTime filename tr cause r →
        (ExitTells cause r.1 ↔ ∀ set', avbAlsaSetup calls.hw set = .ok set' →
          Machine.All (fun s inp => ¬ FailingCall lib set' s inp) tr) :=
  ⟨fun _ _ _ _ _ h => h.exitTells_iff, fun _ _ _ _ _ _ h => h.exitTells_iff⟩

/-- Everything succeeds before the loop of the talker. -/
def monoTalkerCalls : TalkerCalls := ⟨3, true, true, ⟨0, 0, 48000, 1⟩⟩

/-- A session of the talker: one iteration, which leaves the loop by `e`. -/
theorem monoTalker_returns {inp : TalkerInput} {e : LoopExit}
    (h : (talkerNext ieee1722 monoSettings monoTalker inp).bind TalkerState.exit = some e) :
    ∃ r, TalkerReturns ieee1722 2 monoSettings monoTalkerCalls [(monoTalker, inp)] e.cause r ∧
      r.1 = -e.res := by
  obtain ⟨s, hs, hexit⟩ := Option.bind_eq_some_iff.mp h
  have hrun : (talkerLoop ieee1722 monoSettings).Run [(monoTalker, inp)] s :=
    Machine.Run.next (.start monoTalker_init) (talkerNext_step hs)
  have hstart : talkerStart 2 monoSettings monoTalkerCalls = .ready 3 monoSettings
      [.acquire .terminal, .acquire (.descriptor 3), .acquire .pcm] := by
    decide
  exact ⟨_, .loop hstart hrun hexit, rfl⟩

/-- Everything succeeds outside the loop of the listener, which records
nothing and has no time limit. -/
def monoListenerCalls : ListenerCalls :=
  ⟨3, true, true, true, 4, 5, ⟨0, 0, 48000, 1⟩, 0, true, [], true, true, true, true, 262144⟩

/-- What the listener holds then. -/
def monoListenerVars : ListenerVars :=
  ⟨3, 4, 5, monoSettings, false, [.acquire .terminal, .acquire (.descriptor 3),
    .acquire (.descriptor 4), .acquire (.descriptor 5), .acquire .pcm]⟩

theorem monoListener_start :
    listenerStart monoSettings monoListenerCalls 0 "" = .ready monoListenerVars := by
  decide

/-- Two packets have arrived; the escape key would leave the loop, and the code
behind it gets through. -/
theorem monoListener_run :
    ∃ tr s, (listenerLoop ieee1722 monoSettings false).Run tr s ∧
      iteration ieee1722 monoSettings false { key := some keyEsc } s = .brk s ∧
      (listenerEnd natOps monoListenerCalls monoListenerVars s.stats).isSome = true := by
  have hexec : ∃ s ∈ runListener ieee1722 monoSettings false
      [receives ⟨10, 0⟩ (monoPacket 0 1412065408 [1, 2]),
        receives ⟨10, 1000⟩ (monoPacket 1 1412085408 [3, 4])],
      iteration ieee1722 monoSettings false { key := some keyEsc } s = .brk s ∧
        (listenerEnd natOps monoListenerCalls monoListenerVars s.stats).isSome = true := by
    decide +kernel
  obtain ⟨s, hs, hbrk, hend⟩ := hexec
  obtain ⟨tr, hrun, -⟩ := runListener_run hs
  exact ⟨tr, s, hrun, hbrk, hend⟩

/-- `sendto` fails in the first iteration of the talker, and `poll` behind two
packets in the listener. -/
theorem exit_status_unnoticed :
    (¬ ∀ set priority calls tr cause r,
        TalkerReturns ieee1722 priority set calls tr cause r → ExitTells cause r.1) ∧
      ¬ ∀ set calls recTime filename tr cause r,
        ListenerReturns ieee1722 natOps set calls recTime filename tr cause r →
          ExitTells cause r.1 := by
  constructor
  · intro h
    obtain ⟨r, hreturns, hrc⟩ := @monoTalker_returns ⟨1, [1, 2], some ⟨10, 0⟩, -1, none⟩ (.goEnd 0)
      (by decide +kernel)
    exact exitTells_failed.mp (h _ _ _ _ _ r hreturns) hrc
  · intro h
    obtain ⟨tr, s, hrun, -, hsome⟩ := monoListener_run
    obtain ⟨r, hend⟩ := Option.isSome_iff_exists.mp hsome
    have hpoll : iteration ieee1722 monoSettings false { pollOk := false } s = .goEnd (-1) s := rfl
    exact exitTells_failed.mp (h _ _ _ _ _ _ r (.goEnd monoListener_start hrun hpoll hend))
      (congrArg Prod.fst (listenerEnd_some hend).2)

/-- Both are left by the escape key. -/
theorem exit_status_escape :
    (∃ tr r, TalkerReturns ieee1722 2 monoSettings monoTalkerCalls tr .left r ∧
        ExitTells .left r.1) ∧
      ∃ tr r, ListenerReturns ieee1722 natOps monoSettings monoListenerCalls 0 "" tr .left r ∧
        ExitTells .left r.1 := by
  have hiff := exit_status_iff ieee1722 natOps monoSettings
  constructor
  · obtain ⟨r, hreturns, -⟩ := @monoTalker_returns ⟨1, [1, 2], some ⟨10, 0⟩, 26, some 27⟩ .brk
      (by decide +kernel)
    refine ⟨_, r, hreturns, (hiff.1 2 monoTalkerCalls _ _ r hreturns).mpr fun set' hset => ?_⟩
    obtain rfl : monoSettings = set' := Except.ok.inj ((by decide :
      avbAlsaSetup monoTalkerCalls.hw monoSettings = .ok monoSettings).symm.trans hset)
    intro p hp
    rw [List.mem_singleton.mp hp]
    decide +kernel
  · obtain ⟨tr, s, hrun, hbrk, hsome⟩ := monoListener_run
    obtain ⟨r, hend⟩ := Option.isSome_iff_exists.mp hsome
    have hreturns : ListenerReturns ieee1722 natOps monoSettings monoListenerCalls 0 "" _ .left r :=
      .brk monoListener_start hrun hbrk hend
    refine ⟨_, r, hreturns, (hiff.2 monoListenerCalls 0 "" _ _ r hreturns).mpr fun set' hset => ?_⟩
    obtain rfl : monoSettings = set' := Except.ok.inj ((by decide :
      avbAlsaSetup monoListenerCalls.hw monoSettings = .ok monoSettings).symm.trans hset)
    exact Machine.all_snoc.mpr ⟨listenerLoop_calls hrun, not_failingCall (Or.inr hbrk)⟩

end Tram
