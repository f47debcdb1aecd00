/-
Tram/Nodes.lean

The two nodes from their call to their return (`avb_aaf_talker`,
`avb_aaf_listener`).

A node acquires its resources in stages: the terminal attributes, one or three
descriptors, the sound card, the recording.  Some failures return at once,
others jump to the label `end`, and the sound card ends the program by itself.
What the system answers before the loop is a record; the loop is that of
`Tram.Talker` or `Tram.Listener`.

`TalkerReturns` and `ListenerReturns` collect the ways to a return: the
history of the loop, what ended the node, the value returned and the log of
the resources.  The results of `tcgetattr`, `tcsetattr` and `close` are not
looked at by the code, so the log records the calls.  A fault of the WAV
library, of the statistics or of the code behind `end` keeps the listener from
returning and is left out here.
-/
import Tram.Recorder
import Tram.Resources
import Tram.Talker
import Tram.Teardown

namespace Tram

/-! ### Resources and causes -/

/-- What a node acquires. -/
inductive Resource
  /-- The terminal attributes saved by `term_nonblock_setup`. -/
  | terminal
  | descriptor (fd : ℤ)
  /-- The PCM handle. -/
  | pcm
  /-- The recording, from `wav_open` to `wav_close`. -/
  | wavFile
deriving DecidableEq, Repr

/-- What ended a node. -/
inductive Cause
  /-- The escape key or the session timeout. -/
  | left
  /-- A step that failed. -/
  | failed
deriving DecidableEq, Repr

/-- `term_nonblock_setup`. -/
def termNonblockSetup : List (Use Resource) := [.acquire .terminal]

/-! ### The talker -/

/-- What the system answers before the loop of the talker: `socket`, then the
success of `setsockopt` and of the `ioctl` of `setup_socket_address`, and the
sound card. -/
structure TalkerCalls where
  socket : ℤ
  setsockoptOk : Bool
  ioctlOk : Bool
  hw : AlsaGrant
deriving DecidableEq, Repr

/-- `create_talker_socket`. -/
def createTalkerSocket (priority : ℤ) (calls : TalkerCalls) : ℤ × List (Use Resource) :=
  let fd := calls.socket
  if fd < 0 then (-1, [])
  else if priority ≠ -1 ∧ calls.setsockoptOk = false then
    (-1, [.acquire (.descriptor fd), .release (.descriptor fd)])
  else (fd, [.acquire (.descriptor fd)])

/-- How far the talker gets. -/
inductive TalkerStart
  | returns (rc : ℤ) (log : List (Use Resource))
  | goEnd (res : ℤ) (fd : ℤ) (log : List (Use Resource))
  /-- `avb_alsa_setup` does not come back. -/
  | exits
  /-- Up to `init_pdu`. -/
  | ready (fd : ℤ) (set : StreamSettings) (log : List (Use Resource))
deriving DecidableEq, Repr

/-- `avb_aaf_talker` up to `avb_alsa_setup`. -/
def talkerStart (priority : ℤ) (set : StreamSettings) (calls : TalkerCalls) : TalkerStart :=
  let log := termNonblockSetup
  let (fd, opened) := createTalkerSocket priority calls
  let log := log ++ opened
  if fd < 0 then .returns 1 log
  else if calls.ioctlOk = false then .goEnd (-1) fd log
  else
    match avbAlsaSetup calls.hw set with
    | .error _ => .exits
    | .ok set => .ready fd set (log ++ [.acquire .pcm])

/-- The code behind `end`: the value returned and the log. -/
def talkerEnd (res fd : ℤ) (log : List (Use Resource)) : ℤ × List (Use Resource) :=
  (-res, log ++ [.release .pcm, .release (.descriptor fd), .release .terminal])

/-- The value of `res` at `end`: a `break` leads over `res = 0`. -/
def LoopExit.res : LoopExit → ℤ
  | .brk => 0
  | .goEnd res => res

def LoopExit.cause : LoopExit → Cause
  | .brk => .left
  | .goEnd _ => .failed

/-- `avb_aaf_talker` returns. -/
inductive TalkerReturns (lib : Libavtp) (priority : ℤ) (set : StreamSettings)
    (calls : TalkerCalls) :
    List (TalkerState × TalkerInput) → Cause → ℤ × List (Use Resource) → Prop
  | early {rc log} : talkerStart priority set calls = .returns rc log →
      TalkerReturns lib priority set calls [] .failed (rc, log)
  | noAddress {res fd log} : talkerStart priority set calls = .goEnd res fd log →
      TalkerReturns lib priority set calls [] .failed (talkerEnd res fd log)
  | noPdu {fd set' log} {buffer : Bytes} : talkerStart priority set calls = .ready fd set' log →
      buffer.length = set'.pduSize → initPdu lib buffer set' = none →
      TalkerReturns lib priority set calls [] .failed (talkerEnd (-1) fd log)
  | loop {fd set' log tr s e} : talkerStart priority set calls = .ready fd set' log →
      (talkerLoop lib set').Run tr s → s.exit = some e →
      TalkerReturns lib priority set calls tr e.cause (talkerEnd e.res fd log)

/-! ### The listener -/

/-- What the system answers outside the loop of the listener: `socket` and the
success of the `ioctl`, `bind` and `setsockopt` on it, the two
`timerfd_create`, the sound card, the recording (`res` is the value of the
unassigned variable), the clock and the timer of `setup_session_timer`, the
allocations of `avb_stats_process_stats`, and the room on the call stack for
`avb_stats_delete_recursive`. -/
structure ListenerCalls where
  socket : ℤ
  ioctlOk : Bool
  bindOk : Bool
  setsockoptOk : Bool
  timer : ℤ
  sessionTimer : ℤ
  hw : AlsaGrant
  res : ℤ
  wavMalloc : Bool
  wavOutcomes : List Bool
  sessionClockOk : Bool
  sessionSettimeOk : Bool
  travelMalloc : Bool
  deltaMalloc : Bool
  stackFrames : ℕ
deriving DecidableEq, Repr

/-- `create_listener_socket`. -/
def createListenerSocket (calls : ListenerCalls) : ℤ × List (Use Resource) :=
  let fd := calls.socket
  let err := (-1, [Use.acquire (Resource.descriptor fd), .release (.descriptor fd)])
  if fd < 0 then (-1, [])
  else if calls.ioctlOk = false then err
  else if calls.bindOk = false then err
  else if calls.setsockoptOk = false then err
  else (fd, [.acquire (.descriptor fd)])

/-- `setup_session_timer`; when the timer expires is an input of the loop. -/
def setupSessionTimer (calls : ListenerCalls) : ℤ :=
  if calls.sessionClockOk = false then -1
  else if calls.sessionSettimeOk = false then -1
  else 0

/-- The variables of the listener that `end` reads, without the statistics. -/
structure ListenerVars where
  skFd : ℤ
  timerFd : ℤ
  sessionTimFd : ℤ
  set : StreamSettings
  /-- `wav_fp` is not null. -/
  recording : Bool
  log : List (Use Resource)
deriving DecidableEq, Repr

/-- How far the listener gets. -/
inductive ListenerStart
  | returns (rc : ℤ) (log : List (Use Resource))
  | goEnd (vars : ListenerVars)
  /-- `avb_alsa_setup` or the WAV library does not come back. -/
  | exits
  | ready (vars : ListenerVars)
deriving DecidableEq, Repr

/-- The part of `avb_aaf_listener` between the sound card and the loop. -/
def listenerSetup (calls : ListenerCalls) (recTime : ℤ) (filename : String)
    (vars : ListenerVars) : ListenerStart :=
  let session (vars : ListenerVars) : ListenerStart :=
    if recTime ≠ 0 ∧ setupSessionTimer calls < 0 then .goEnd vars else .ready vars
  if filename ≠ "" then
    match WavRecorder.openRecording calls.res calls.wavMalloc calls.wavOutcomes vars.set with
    | .error _ => .exits
    | .ok (leaves, fp) =>
        let vars := { vars with
          recording := fp.isSome
          log := vars.log ++ if fp.isSome then [.acquire .wavFile] else [] }
        if leaves then .goEnd vars else session vars
  else session vars

/-- `avb_aaf_listener` up to its loop. -/
def listenerStart (set : StreamSettings) (calls : ListenerCalls) (recTime : ℤ)
    (filename : String) : ListenerStart :=
  let log := termNonblockSetup
  let (skFd, opened) := createListenerSocket calls
  let log := log ++ opened
  if skFd < 0 then .returns 1 log
  else
    let timerFd := calls.timer
    if timerFd < 0 then .returns 1 (log ++ [.release (.descriptor skFd)])
    else
      let log := log ++ [.acquire (.descriptor timerFd)]
      let sessionTimFd := calls.sessionTimer
      if sessionTimFd < 0 then
        .returns 1 (log ++ [.release (.descriptor skFd), .release (.descriptor timerFd)])
      else
        let log := log ++ [.acquire (.descriptor sessionTimFd)]
        match avbAlsaSetup calls.hw set with
        | .error _ => .exits
        | .ok set =>
            listenerSetup calls recTime filename
              ⟨skFd, timerFd, sessionTimFd, set, false, log ++ [.acquire .pcm]⟩

/-- What the code behind `end` releases with a step of its. -/
def Cleanup.released (vars : ListenerVars) : Cleanup → Option (Use Resource)
  | .closeWav _ => some (.release .wavFile)
  | .alsaClose => some (.release .pcm)
  | .closeSocket => some (.release (.descriptor vars.skFd))
  | .closeTimer => some (.release (.descriptor vars.timerFd))
  | .closeSessionTimer => some (.release (.descriptor vars.sessionTimFd))
  | .restoreTerminal => some (.release .terminal)
  | .printStats => none
  | .free _ => none

/-- The code behind `end`: the value returned and the log.  `none` where it
does not get through. -/
def listenerEnd (ops : DoubleOps) (calls : ListenerCalls) (vars : ListenerVars)
    (stats : StatsHandler) : Option (ℤ × List (Use Resource)) :=
  match avbStatsProcessStats ops vars.set calls.travelMalloc calls.deltaMalloc stats with
  | .error _ => none
  | .ok (res, stats) =>
      match teardown (avbAafHwlatencyToNs ops vars.set) calls.stackFrames vars.set vars.recording
          res stats with
      | .error _ => none
      | .ok (rc, events) => some (rc, vars.log ++ events.filterMap (Cleanup.released vars))

/-- `avb_aaf_listener` returns. -/
inductive ListenerReturns (lib : Libavtp) (ops : DoubleOps) (set : StreamSettings)
    (calls : ListenerCalls) (recTime : ℤ) (filename : String) :
    List (ListenerState × IterInput) → Cause → ℤ × List (Use Resource) → Prop
  | early {rc log} : listenerStart set calls recTime filename = .returns rc log →
      ListenerReturns lib ops set calls recTime filename [] .failed (rc, log)
  | noSetup {vars r} : listenerStart set calls recTime filename = .goEnd vars →
      listenerEnd ops calls vars avbStatsHandlerInit = some r →
      ListenerReturns lib ops set calls recTime filename [] .failed r
  | brk {vars tr s inp s' r} : listenerStart set calls recTime filename = .ready vars →
      (listenerLoop lib vars.set vars.recording).Run tr s →
      iteration lib vars.set vars.recording inp s = .brk s' →
      listenerEnd ops calls vars s'.stats = some r →
      ListenerReturns lib ops set calls recTime filename (tr ++ [(s, inp)]) .left r
  | goEnd {vars tr s inp res s' r} : listenerStart set calls recTime filename = .ready vars →
      (listenerLoop lib vars.set vars.recording).Run tr s →
      iteration lib vars.set vars.recording inp s = .goEnd res s' →
      listenerEnd ops calls vars s'.stats = some r →
      ListenerReturns lib ops set calls recTime filename (tr ++ [(s, inp)]) .failed r

/-! ### How far the talker gets -/

/-- `create_talker_socket` succeeds. -/
def TalkerCalls.SocketOk (priority : ℤ) (calls : TalkerCalls) : Prop :=
  0 ≤ calls.socket ∧ (priority = -1 ∨ calls.setsockoptOk = true)

/-- A log on which the terminal is not restored. -/
def KeepsTerminal (log : List (Use Resource)) : Prop :=
  log.count (.acquire .terminal) = 1 ∧ log.count (.release .terminal) = 0

theorem talkerStart_cases (priority : ℤ) (set : StreamSettings) (calls : TalkerCalls) :
    (¬ calls.SocketOk priority ∧
        ∃ log, talkerStart priority set calls = .returns 1 log ∧ KeepsTerminal log) ∨
      (calls.SocketOk priority ∧ calls.ioctlOk = false ∧
        talkerStart priority set calls = .goEnd (-1) calls.socket
          [.acquire .terminal, .acquire (.descriptor calls.socket)]) ∨
      calls.SocketOk priority ∧ calls.ioctlOk = true ∧
        (talkerStart priority set calls = .exits ∨
          ∃ set', avbAlsaSetup calls.hw set = .ok set' ∧
            talkerStart priority set calls = .ready calls.socket set'
              [.acquire .terminal, .acquire (.descriptor calls.socket), .acquire .pcm]) := by
  rw [talkerStart, createTalkerSocket, termNonblockSetup, TalkerCalls.SocketOk]
  dsimp only
  by_cases hfd : calls.socket < 0
  · refine Or.inl ⟨fun hok => by omega, ?_⟩
    rw [if_pos hfd]
    exact ⟨_, rfl, rfl, rfl⟩
  rw [if_neg hfd]
  by_cases hprio : priority ≠ -1 ∧ calls.setsockoptOk = false
  · refine Or.inl ⟨?_, ?_⟩
    · rintro ⟨-, h | h⟩
      · exact hprio.1 h
      · rw [hprio.2] at h
        cases h
    · rw [if_pos hprio]
      exact ⟨_, rfl, rfl, rfl⟩
  right
  have hok : 0 ≤ calls.socket ∧ (priority = -1 ∨ calls.setsockoptOk = true) := by
    refine ⟨by omega, ?_⟩
    by_cases h : priority = -1
    · exact Or.inl h
    · exact Or.inr (Bool.eq_true_of_not_eq_false fun hopt => hprio ⟨h, hopt⟩)
  rw [if_neg hprio, if_neg hfd]
  by_cases hioctl : calls.ioctlOk = false
  · rw [if_pos hioctl]
    exact Or.inl ⟨hok, hioctl, rfl⟩
  right
  refine ⟨hok, Bool.eq_true_of_not_eq_false hioctl, ?_⟩
  rw [if_neg hioctl]
  rcases avbAlsaSetup calls.hw set with f | set'
  · exact Or.inl rfl
  · exact Or.inr ⟨set', rfl, rfl⟩

section Talker

variable {priority : ℤ} {set set' : StreamSettings} {calls : TalkerCalls} {res rc fd : ℤ}
  {log : List (Use Resource)}

/-- The early return is that of the socket. -/
theorem talkerStart_returns (h : talkerStart priority set calls = .returns rc log) :
    rc = 1 ∧ ¬ calls.SocketOk priority ∧ KeepsTerminal log := by
  rcases talkerStart_cases priority set calls with
    ⟨hno, log', heq, hkeeps⟩ | ⟨-, -, heq⟩ | ⟨-, -, heq | ⟨_, -, heq⟩⟩ <;> rw [heq] at h
  · obtain ⟨rfl, rfl⟩ := TalkerStart.returns.inj h
    exact ⟨rfl, hno, hkeeps⟩
  all_goals cases h

/-- The jump is that of the address, from before the sound card is opened. -/
theorem talkerStart_goEnd (h : talkerStart priority set calls = .goEnd res fd log) :
    res = -1 ∧ calls.ioctlOk = false ∧
      log = [.acquire .terminal, .acquire (.descriptor fd)] := by
  rcases talkerStart_cases priority set calls with
    ⟨-, _, heq, -⟩ | ⟨-, hno, heq⟩ | ⟨-, -, heq | ⟨_, -, heq⟩⟩ <;> rw [heq] at h
  · cases h
  · obtain ⟨rfl, rfl, rfl⟩ := TalkerStart.goEnd.inj h
    exact ⟨rfl, hno, rfl⟩
  all_goals cases h

theorem talkerStart_ready (h : talkerStart priority set calls = .ready fd set' log) :
    calls.SocketOk priority ∧ calls.ioctlOk = true ∧ avbAlsaSetup calls.hw set = .ok set' ∧
      log = [.terminal, .descriptor fd, .pcm].map Use.acquire := by
  rcases talkerStart_cases priority set calls with
    ⟨-, _, heq, -⟩ | ⟨-, -, heq⟩ | ⟨hok, hioctl, heq | ⟨_, hset, heq⟩⟩ <;> rw [heq] at h
  · cases h
  · cases h
  · cases h
  · obtain ⟨rfl, rfl, rfl⟩ := TalkerStart.ready.inj h
    exact ⟨hok, hioctl, hset, rfl⟩

end Talker

/-! ### How far the listener gets -/

/-- `create_listener_socket` and both `timerfd_create` succeed. -/
structure ListenerCalls.DescriptorsOk (calls : ListenerCalls) : Prop where
  socket : 0 ≤ calls.socket
  ioctl : calls.ioctlOk = true
  bind : calls.bindOk = true
  setsockopt : calls.setsockoptOk = true
  timer : 0 ≤ calls.timer
  sessionTimer : 0 ≤ calls.sessionTimer

/-- What the listener holds behind the sound card. -/
def ListenerVars.resources (vars : ListenerVars) : List Resource :=
  [.terminal, .descriptor vars.skFd, .descriptor vars.timerFd, .descriptor vars.sessionTimFd, .pcm]
    ++ if vars.recording then [.wavFile] else []

/-- The log is that of what is held. -/
def ListenerVars.Holds (vars : ListenerVars) : Prop :=
  vars.log = vars.resources.map Use.acquire

theorem listenerSetup_cases (calls : ListenerCalls) (recTime : ℤ) (filename : String)
    {vars : ListenerVars} (hrec : vars.recording = false) (h : vars.Holds) :
    listenerSetup calls recTime filename vars = .exits ∨
      ∃ vars', (listenerSetup calls recTime filename vars = .goEnd vars' ∨
        listenerSetup calls recTime filename vars = .ready vars') ∧
        vars'.set = vars.set ∧ vars'.Holds := by
  have hsession : ∀ vars' : ListenerVars, vars'.set = vars.set → vars'.Holds →
      ∀ r : ListenerStart,
      r = (if recTime ≠ 0 ∧ setupSessionTimer calls < 0 then .goEnd vars' else .ready vars') →
        r = .exits ∨ ∃ vars', (r = .goEnd vars' ∨ r = .ready vars') ∧
          vars'.set = vars.set ∧ vars'.Holds := by
    intro vars' hset hvars r hr
    right
    refine ⟨vars', ?_, hset, hvars⟩
    split at hr
    · exact Or.inl hr
    · exact Or.inr hr
  rw [listenerSetup]
  dsimp only
  split
  · rcases WavRecorder.openRecording calls.res calls.wavMalloc calls.wavOutcomes vars.set with
      f | ⟨leaves, fp⟩
    · exact Or.inl rfl
    have hholds : ListenerVars.Holds { vars with
        recording := fp.isSome
        log := vars.log ++ if fp.isSome then [.acquire .wavFile] else [] } := by
      rw [ListenerVars.Holds] at h ⊢
      rw [h, ListenerVars.resources, ListenerVars.resources, hrec]
      cases fp <;> rfl
    cases leaves with
    | true => exact Or.inr ⟨_, Or.inl rfl, rfl, hholds⟩
    | false =>
        exact hsession { vars with
          recording := fp.isSome
          log := vars.log ++ if fp.isSome then [.acquire .wavFile] else [] } rfl hholds _ rfl
  · exact hsession vars rfl h _ rfl

theorem listenerStart_cases (set : StreamSettings) (calls : ListenerCalls) (recTime : ℤ)
    (filename : String) :
    (¬ calls.DescriptorsOk ∧
        ∃ log, listenerStart set calls recTime filename = .returns 1 log ∧ KeepsTerminal log) ∨
      calls.DescriptorsOk ∧ (listenerStart set calls recTime filename = .exits ∨
        ∃ vars, (listenerStart set calls recTime filename = .goEnd vars ∨
          listenerStart set calls recTime filename = .ready vars) ∧
          avbAlsaSetup calls.hw set = .ok vars.set ∧ vars.Holds) := by
  rw [listenerStart, createListenerSocket, termNonblockSetup]
  dsimp only
  by_cases hfd : calls.socket < 0
  · rw [if_pos hfd]
    exact Or.inl ⟨fun h => absurd h.socket (by omega), _, rfl, rfl, rfl⟩
  rw [if_neg hfd]
  by_cases hioctl : calls.ioctlOk = false
  · rw [if_pos hioctl]
    exact Or.inl ⟨fun h => Bool.false_ne_true (hioctl.symm.trans h.ioctl), _, rfl, rfl, rfl⟩
  rw [if_neg hioctl]
  by_cases hbind : calls.bindOk = false
  · rw [if_pos hbind]
    exact Or.inl ⟨fun h => Bool.false_ne_true (hbind.symm.trans h.bind), _, rfl, rfl, rfl⟩
  rw [if_neg hbind]
  by_cases hopt : calls.setsockoptOk = false
  · rw [if_pos hopt]
    exact Or.inl ⟨fun h => Bool.false_ne_true (hopt.symm.trans h.setsockopt), _, rfl, rfl, rfl⟩
  rw [if_neg hopt]
  dsimp only
  rw [if_neg hfd]
  by_cases htimer : calls.timer < 0
  · rw [if_pos htimer]
    exact Or.inl ⟨fun h => absurd h.timer (by omega), _, rfl, rfl, rfl⟩
  rw [if_neg htimer]
  by_cases hsession : calls.sessionTimer < 0
  · rw [if_pos hsession]
    exact Or.inl ⟨fun h => absurd h.sessionTimer (by omega), _, rfl, rfl, rfl⟩
  rw [if_neg hsession]
  right
  refine ⟨⟨by omega, Bool.eq_true_of_not_eq_false hioctl, Bool.eq_true_of_not_eq_false hbind,
    Bool.eq_true_of_not_eq_false hopt, by omega, by omega⟩, ?_⟩
  rcases avbAlsaSetup calls.hw set with f | set'
  · exact Or.inl rfl
  · rcases @listenerSetup_cases calls recTime filename
      ⟨calls.socket, calls.timer, calls.sessionTimer, set', false,
        [.acquire .terminal, .acquire (.descriptor calls.socket),
          .acquire (.descriptor calls.timer), .acquire (.descriptor calls.sessionTimer),
          .acquire .pcm]⟩ rfl rfl with
      hexits | ⟨vars, hvars, hset, hholds⟩
    · exact Or.inl hexits
    · exact Or.inr ⟨vars, hvars, congrArg Except.ok hset.symm, hholds⟩

section Listener

variable {set : StreamSettings} {calls : ListenerCalls} {recTime : ℤ} {filename : String}

/-- The early returns are those of the descriptors. -/
theorem listenerStart_returns {rc : ℤ} {log : List (Use Resource)}
    (h : listenerStart set calls recTime filename = .returns rc log) :
    rc = 1 ∧ ¬ calls.DescriptorsOk ∧ KeepsTerminal log := by
  rcases listenerStart_cases set calls recTime filename with
    ⟨hno, log', heq, hkeeps⟩ | ⟨-, heq | ⟨_, heq | heq, -, -⟩⟩ <;> rw [heq] at h
  · obtain ⟨rfl, rfl⟩ := ListenerStart.returns.inj h
    exact ⟨rfl, hno, hkeeps⟩
  all_goals cases h

/-- Behind the sound card the listener holds everything. -/
theorem listenerStart_holds {vars : ListenerVars}
    (h : listenerStart set calls recTime filename = .goEnd vars ∨
      listenerStart set calls recTime filename = .ready vars) :
    calls.DescriptorsOk ∧ avbAlsaSetup calls.hw set = .ok vars.set ∧ vars.Holds := by
  rcases listenerStart_cases set calls recTime filename with
    ⟨-, _, heq, -⟩ | ⟨hok, heq | ⟨vars', heq | heq, hset, hholds⟩⟩ <;> rw [heq] at h <;>
    rcases h with h | h
  · cases h
  · cases h
  · cases h
  · cases h
  · rw [← ListenerStart.goEnd.inj h]
    exact ⟨hok, hset, hholds⟩
  · cases h
  · cases h
  · rw [← ListenerStart.ready.inj h]
    exact ⟨hok, hset, hholds⟩

end Listener

/-! ### The code behind `end` of the listener -/

/-- What is released behind `end`, in this order. -/
def ListenerVars.releases (vars : ListenerVars) : List Resource :=
  (if vars.recording then [.wavFile] else [])
    ++ [.pcm, .descriptor vars.skFd, .descriptor vars.timerFd, .descriptor vars.sessionTimFd,
      .terminal]

theorem filterMap_released_free (vars : ListenerVars) (nodes : List StatNode) :
    (nodes.map Cleanup.free).filterMap (Cleanup.released vars) = [] := by
  refine List.filterMap_eq_nil_iff.mpr fun e he => ?_
  obtain ⟨node, -, rfl⟩ := List.mem_map.mp he
  rfl

/-- The teardown gets through on entries only, with the result zero. -/
theorem teardown_ok {hw frames : ℕ} {set : StreamSettings} {recording : Bool}
    {stats : StatsHandler} {res rc : ℤ} {events : List Cleanup}
    (hres : res = if stats.stackHead.isEmpty then -1 else 0)
    (h : teardown hw frames set recording res stats = .ok (rc, events)) :
    rc = 0 ∧ stats.stackHead ≠ [] ∧ ∀ vars : ListenerVars, vars.recording = recording →
      events.filterMap (Cleanup.released vars) = vars.releases.map Use.release := by
  obtain ⟨hne, hframes⟩ := teardown_frees h
  obtain ⟨node, rest, hstack⟩ := List.exists_cons_of_ne_nil hne
  rw [hstack] at hres
  obtain rfl : res = 0 := hres
  have hfirst : avbStatsGetFirst stats = some (bottomEntry node rest) := by
    rw [avbStatsGetFirst, hstack]
  have hclear : avbStatsClear frames stats = .ok stats.stackHead.reverse :=
    avbStatsDeleteRecursive_eq hne hframes
  rw [teardown, closeRecording_eq hfirst, hclear] at h
  obtain ⟨rfl, rfl⟩ := Prod.mk.inj (Except.ok.inj h)
  refine ⟨rfl, hne, ?_⟩
  rintro vars rfl
  rw [List.filterMap_append, List.filterMap_append, List.filterMap_append,
    filterMap_released_free, ListenerVars.releases]
  cases vars.recording <;> rfl

/-- Whenever `end` is left by a return, the value is zero and everything is
released. -/
theorem listenerEnd_some {ops : DoubleOps} {calls : ListenerCalls} {vars : ListenerVars}
    {stats : StatsHandler} {r : ℤ × List (Use Resource)}
    (h : listenerEnd ops calls vars stats = some r) :
    stats.stackHead ≠ [] ∧ r = (0, vars.log ++ vars.releases.map Use.release) := by
  rw [listenerEnd] at h
  split at h
  · cases h
  · rename_i res stats' hprocess
    obtain ⟨hres, hstack⟩ := avbStatsProcessStats_ok hprocess
    split at h
    · cases h
    · rename_i rc events hdown
      rw [← hstack] at hres
      obtain ⟨rfl, hne, hreleased⟩ := teardown_ok hres hdown
      rw [hreleased vars rfl] at h
      exact ⟨hstack ▸ hne, (Option.some.inj h).symm⟩

end Tram
