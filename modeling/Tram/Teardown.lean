/-
Tram/Teardown.lean

The code behind the label `end` of the listener.

Every exit of the loop leads here: the statistics are processed, the recorder
is closed under the capture time of the first packet, the stack is freed, and
the devices and the terminal are given back.

`avb_stats_delete_recursive` looks at `next` before it looks at the node, and
the result of `avb_stats_get_first` is not looked at before `start_tspec` is
used.  Both go wrong on the empty stack.  The recursion takes a frame of the
call stack for every packet, and goes wrong on a session with more packets than
there are frames; on no other (`teardown_safe_iff`).
-/
import Tram.ProcessStats
import Tram.SessionEnd

namespace Tram

/-! ### The code -/

/-- What the code behind `end` does. -/
inductive Cleanup
  /-- `avb_stats_print_stats`. -/
  | printStats
  /-- `close_wav_recorder`; the name of the file is made of `start`. -/
  | closeWav (start : Timespec)
  | free (node : StatNode)
  | alsaClose
  | closeSocket
  | closeTimer
  | closeSessionTimer
  /-- `tcsetattr` with the old settings. -/
  | restoreTerminal
deriving DecidableEq, Repr

/-- Ways it does not get through. -/
inductive TeardownFault
  /-- `next` of a null node. -/
  | nullNode
  /-- `start_tspec` is used and has no value. -/
  | startUnassigned
  /-- A call with no frame left for it. -/
  | stackOverflow
deriving DecidableEq, Repr

/-- `avb_stats_delete_recursive`, with room for so many calls on the call stack:
the nodes in the order in which they are freed.  The empty list is the null
pointer. -/
def avbStatsDeleteRecursive : ℕ → List StatNode → Except TeardownFault (List StatNode)
  | 0, _ => .error .stackOverflow
  | _ + 1, [] => .error .nullNode
  | _ + 1, [node] => .ok [node]
  | frames + 1, node :: next :: rest =>
      -- `free` follows the call, so the frame is kept during it
      match avbStatsDeleteRecursive frames (next :: rest) with
      | .error e => .error e
      | .ok freed => .ok (freed ++ [node])

/-- `avb_stats_clear`. -/
def avbStatsClear (frames : ℕ) (self : StatsHandler) : Except TeardownFault (List StatNode) :=
  avbStatsDeleteRecursive frames self.stackHead

/-- The branch that closes the recorder, if there is one: the new value of
`res` and what is done. -/
def closeRecording (hw : ℕ) (set : StreamSettings) (recording : Bool) (res : ℤ)
    (stats : StatsHandler) : Except TeardownFault (ℤ × List Cleanup) :=
  if recording then
    let (res, startTspec) : ℤ × Option Timespec :=
      match avbStatsGetFirst stats with
      | none => (-1, none)
      | some startStatNode => (0, some (avbStatsGetCapTime hw set startStatNode))
    -- `close_wav_recorder` makes the file name of `start_tspec`
    match startTspec with
    | none => .error .startUnassigned
    | some start => .ok (res, [.closeWav start])
  else .ok (res, [])

/-- The code behind `end`, from the result `res` of `avb_stats_process_stats`
on: the return value and what is done. -/
def teardown (hw frames : ℕ) (set : StreamSettings) (recording : Bool) (res : ℤ)
    (stats : StatsHandler) : Except TeardownFault (ℤ × List Cleanup) :=
  let printed := if res = 0 then [Cleanup.printStats] else []
  match closeRecording hw set recording res stats with
  | .error e => .error e
  | .ok (res, closed) =>
      match avbStatsClear frames stats with
      | .error e => .error e
      | .ok freed =>
          .ok (-res, printed ++ closed ++ freed.map Cleanup.free ++
            [.alsaClose, .closeSocket, .closeTimer, .closeSessionTimer, .restoreTerminal])

/-! ### What is expected of it -/

/-- What is left of `avb_stats_process_stats` without its arithmetic. -/
structure Processed (stats : StatsHandler) (res : ℤ) (stats' : StatsHandler) : Prop where
  res_eq : res = if stats.stackHead.isEmpty then -1 else 0
  stack : stats'.stackHead = stats.stackHead

theorem processed_of_ok {ops : DoubleOps} {set : StreamSettings} {travelMalloc deltaMalloc : Bool}
    {stats stats' : StatsHandler} {res : ℤ}
    (h : avbStatsProcessStats ops set travelMalloc deltaMalloc stats = .ok (res, stats')) :
    Processed stats res stats' := by
  obtain ⟨hres, hstack⟩ := avbStatsProcessStats_ok h
  exact ⟨hres, hstack⟩

/-- The nodes freed, in order. -/
def freedNodes (events : List Cleanup) : List StatNode :=
  events.filterMap fun
    | .free node => some node
    | _ => none

/-- The code behind `end` gets through: it frees the pushed nodes, each of
them once, names a recording after the first packet, and closes the devices
and restores the terminal. -/
def TeardownSafe (hw frames : ℕ) (set : StreamSettings) (recording : Bool) (s : ListenerState) :
    Prop :=
  ∀ res stats, Processed s.stats res stats →
    ∃ rc events, teardown hw frames set recording res stats = .ok (rc, events) ∧
      freedNodes events = pushedNodes s ∧
      (∀ start, Cleanup.closeWav start ∈ events →
        (pushedNodes s).head?.map (avbStatsGetCapTime hw set) = some start) ∧
      [.alsaClose, .closeSocket, .closeTimer, .closeSessionTimer, .restoreTerminal] <:+ events

/-! ### The parts -/

/-- The recursion frees the stack from its bottom up. -/
theorem avbStatsDeleteRecursive_eq {nodes : List StatNode} {frames : ℕ} (h : nodes ≠ [])
    (hframes : nodes.length ≤ frames) :
    avbStatsDeleteRecursive frames nodes = .ok nodes.reverse := by
  induction nodes generalizing frames with
  | nil => exact absurd rfl h
  | cons node rest ih =>
      have hpos : 0 < frames := Nat.lt_of_lt_of_le (Nat.succ_pos _) hframes
      obtain ⟨frames, rfl⟩ := Nat.exists_eq_add_one.mpr hpos
      cases rest with
      | nil => rfl
      | cons next rest =>
          rw [avbStatsDeleteRecursive, ih (List.cons_ne_nil _ _) (Nat.le_of_succ_le_succ hframes)]
          exact congrArg Except.ok List.reverse_cons.symm

/-- It comes back from a stack with a node and a frame for each one only. -/
theorem avbStatsDeleteRecursive_ok {nodes freed : List StatNode} {frames : ℕ}
    (h : avbStatsDeleteRecursive frames nodes = .ok freed) :
    nodes ≠ [] ∧ nodes.length ≤ frames := by
  induction nodes generalizing frames freed with
  | nil => cases frames <;> cases h
  | cons node rest ih =>
      refine ⟨List.cons_ne_nil _ _, ?_⟩
      rcases frames with - | frames
      · cases h
      rcases rest with - | ⟨next, rest⟩
      · exact Nat.succ_le_succ (Nat.zero_le _)
      rw [avbStatsDeleteRecursive] at h
      split at h
      · cases h
      · rename_i hrest
        exact Nat.succ_le_succ (ih hrest).2

theorem closeRecording_eq {hw : ℕ} {set : StreamSettings} {stats : StatsHandler} {first : StatNode}
    (hfirst : avbStatsGetFirst stats = some first) (recording : Bool) :
    closeRecording hw set recording 0 stats
      = .ok (0, if recording then [.closeWav (avbStatsGetCapTime hw set first)] else []) := by
  cases recording with
  | false => rfl
  | true =>
      rw [closeRecording, if_pos rfl, hfirst]
      rfl

theorem freedNodes_map_free (nodes : List StatNode) :
    freedNodes (nodes.map Cleanup.free) = nodes := by
  induction nodes with
  | nil => rfl
  | cons node rest ih => exact congrArg (node :: ·) ih

theorem freedNodes_append (l l' : List Cleanup) :
    freedNodes (l ++ l') = freedNodes l ++ freedNodes l' := List.filterMap_append

/-! ### Every session -/

variable {lib : Libavtp} {set : StreamSettings} {recording : Bool}

theorem StatsInv.getFirst {s : ListenerState} {stats : StatsHandler} (h : StatsInv lib s)
    (hstack : stats.stackHead = s.stats.stackHead) :
    avbStatsGetFirst stats = (pushedNodes s).head? :=
  (avbStatsGet_of_pushes (hstack.trans h.stack)).1

/-- What gets through has freed the stack. -/
theorem teardown_frees {hw frames : ℕ} {res rc : ℤ} {stats : StatsHandler} {events : List Cleanup}
    (h : teardown hw frames set recording res stats = .ok (rc, events)) :
    stats.stackHead ≠ [] ∧ stats.stackHead.length ≤ frames := by
  rw [teardown] at h
  split at h
  · cases h
  split at h
  · cases h
  · rename_i hclear
    exact avbStatsDeleteRecursive_ok hclear

/-- **Teardown.**  However the loop is left, recording or not: the code behind
`end` gets through, frees the nodes pushed and gives everything back exactly
when a packet has been pushed, and no more packets than the call stack has room
for calls of `avb_stats_delete_recursive`. -/
theorem teardown_safe_iff (hw frames : ℕ) {s : ListenerState} (hend : Ends lib set recording s) :
    TeardownSafe hw frames set recording s ↔
      pushedNodes s ≠ [] ∧ (pushedNodes s).length ≤ frames := by
  have hinv := hend.statsInv
  have hempty : s.stats.stackHead.isEmpty = true ↔ pushedNodes s = [] := by
    rw [List.isEmpty_iff, hinv.stack, List.reverse_eq_nil_iff]
  constructor
  · intro h
    obtain ⟨rc, events, hok, -⟩ := h _ s.stats ⟨rfl, rfl⟩
    obtain ⟨hne, hle⟩ := teardown_frees hok
    rw [hinv.stack, List.length_reverse] at hle
    exact ⟨fun hnil => hne (List.isEmpty_iff.mp (hempty.mpr hnil)), hle⟩
  · rintro ⟨hne, hframes⟩ res stats ⟨hres, hstack⟩
    rw [if_neg (fun h => hne (hempty.mp h))] at hres
    subst hres
    obtain ⟨first, rest, hnodes⟩ := List.exists_cons_of_ne_nil hne
    have hfirst : avbStatsGetFirst stats = some first := by
      rw [hinv.getFirst hstack, hnodes]
      rfl
    have hclear : avbStatsClear frames stats = .ok (pushedNodes s) := by
      rw [avbStatsClear, hstack, hinv.stack, avbStatsDeleteRecursive_eq, List.reverse_reverse]
      · exact fun h => hne (List.reverse_eq_nil_iff.mp h)
      · rwa [List.length_reverse]
    rw [teardown, closeRecording_eq hfirst, hclear]
    refine ⟨_, _, rfl, ?_, ?_, List.suffix_append _ _⟩
    · rw [freedNodes_append, freedNodes_append, freedNodes_map_free]
      cases recording <;> exact List.append_nil _
    · intro start hstart
      rw [hnodes]
      cases recording <;> simp at hstart
      rw [hstart]
      rfl

/-- The session ends before a packet has arrived. -/
theorem teardown_safe_empty :
    ¬ ∀ s, Ends ieee1722 monoSettings false s →
      ∃ frames, TeardownSafe 20833 frames monoSettings false s := by
  intro h
  have hend : Ends ieee1722 monoSettings false listenerInit :=
    ⟨[], listenerInit, { sessionReadable := true }, .start rfl, Or.inl rfl⟩
  obtain ⟨frames, hsafe⟩ := h listenerInit hend
  obtain ⟨rc, events, hok, -⟩ := hsafe (-1) avbStatsHandlerInit ⟨rfl, rfl⟩
  exact (teardown_frees hok).1 rfl

/-- A recording of one packet. -/
theorem teardown_safe_packet :
    ∃ s, Ends ieee1722 monoSettings true s ∧ (pushedNodes s).length = 1 ∧
      TeardownSafe 20833 262144 monoSettings true s := by
  have hview : (runToBreak ieee1722 monoSettings true []
      { receives ⟨10, 0⟩ (monoPacket 0 1412065408 [1, 2]) with sessionReadable := true }).map
      (fun s => (pushedNodes s).length) = some 1 := by
    decide +kernel
  obtain ⟨s, hs, hlen⟩ := Option.map_eq_some_iff.mp hview
  have hend := runToBreak_ends hs
  exact ⟨s, hend, hlen, (teardown_safe_iff 20833 262144 hend).mpr
    ⟨List.ne_nil_of_length_pos (by omega), by omega⟩⟩

end Tram
