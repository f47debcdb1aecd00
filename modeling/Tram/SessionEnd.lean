/-
Tram/SessionEnd.lean

What the statistics hold when the listener leaves its loop.

The loop is left by a `break` or by a `goto end`, from any iteration, and some
of the latter have already changed the statistics: a packet whose
`schedule_sample` fails has been pushed.  So the invariant of this file
follows single calls of `new_packet`, whatever they return, and holds behind
every exit as well as at the top of the loop.
-/
import Tram.Playback

namespace Tram

variable {lib : Libavtp} {set : StreamSettings} {recording : Bool}

/-- The loop is left in the state `s`: some run reaches an iteration that
breaks out of the loop or goes to `end`. -/
def Ends (lib : Libavtp) (set : StreamSettings) (recording : Bool) (s : ListenerState) : Prop :=
  ∃ tr s₀ inp, (listenerLoop lib set recording).Run tr s₀ ∧
    (iteration lib set recording inp s₀ = .brk s ∨
      ∃ res, iteration lib set recording inp s₀ = .goEnd res s)

/-- The nodes pushed in a run, oldest first. -/
def pushedNodes (s : ListenerState) : List StatNode := (pushedPackets s.log).map Prod.fst

/-- A node holds the presentation time recovered from the packet's time
stamp. -/
def Stamped (lib : Libavtp) (p : StatNode × Bytes) : Prop :=
  ∃ avtpTime, lib.aafPduGet p.2 .timestamp = some avtpTime ∧
    p.1.presentation = (getPresentationTime avtpTime p.1.arrival).2

/-- The stack holds the nodes of the pushed packets. -/
structure StatsInv (lib : Libavtp) (s : ListenerState) : Prop where
  stack : s.stats.stackHead = (pushedNodes s).reverse
  stamped : ∀ p ∈ pushedPackets s.log, Stamped lib p

theorem statsInv_init : StatsInv lib listenerInit where
  stack := rfl
  stamped := nofun

theorem StatsInv.congr {s s' : ListenerState} (h : StatsInv lib s)
    (hstack : s'.stats.stackHead = s.stats.stackHead)
    (hlog : pushedPackets s'.log = pushedPackets s.log) : StatsInv lib s' := by
  constructor
  · rw [hstack, pushedNodes, hlog]
    exact h.stack
  · rw [hlog]
    exact h.stamped

/-! ### Steps -/

theorem StatsInv.push {inp : PacketInput} {s : ListenerState} {arrival : Timespec} {pdu : Bytes}
    {seq avtpTime : ℕ} (h : StatsInv lib s)
    (hval : Validated lib set inp s arrival pdu seq avtpTime) :
    StatsInv lib (pushPacket s seq ⟨arrival, (getPresentationTime avtpTime arrival).2⟩ pdu) := by
  set node : StatNode := ⟨arrival, (getPresentationTime avtpTime arrival).2⟩ with hnode
  have hlog : pushedPackets (pushPacket s seq node pdu).log
      = pushedPackets s.log ++ [(node, pdu)] := by
    rw [pushPacket, pushedPackets_append]
    rfl
  constructor
  · rw [pushedNodes, hlog, List.map_append, List.reverse_append, ← pushedNodes, ← h.stack]
    show node :: (countGap s seq).stackHead = node :: s.stats.stackHead
    rw [countGap_stackHead]
  · rw [hlog]
    intro p hp
    rcases List.mem_append.mp hp with hp | hp
    · exact h.stamped p hp
    · rw [List.mem_singleton.mp hp]
      exact ⟨avtpTime, hval.stamp, rfl⟩

/-- A call of `new_packet` keeps the invariant, whatever it returns. -/
theorem StatsInv.newPacket {inp : PacketInput} {s s' : ListenerState} {rc : ℤ}
    (h : StatsInv lib s) (hcall : Tram.newPacket lib set inp s = .ok (rc, s')) :
    StatsInv lib s' := by
  cases newPacket_cases hcall with
  | nothing => exact h
  | rejected | noStamp | late => exact h.congr rfl rfl
  | noNode => exact h.congr (countGap_stackHead _ _) rfl
  | unscheduled hval => exact h.push hval
  | queued hval => exact (h.push hval).congr rfl rfl

theorem StatsInv.socketStep {inp : IterInput} {s s' : ListenerState} (h : StatsInv lib s)
    (hcase : SocketCase lib set inp s s') : StatsInv lib s' := by
  cases hcase with
  | silent => exact h
  | packet _ hnew => exact h.newPacket hnew

theorem StatsInv.playStep {frames : ℕ} {timerReadable : Bool} {inp : IterInput}
    {s s' : ListenerState} (h : StatsInv lib s)
    (hcase : PlayCase recording frames timerReadable inp s s') : StatsInv lib s' := by
  cases hcase with
  | idle => exact h
  | played =>
      refine h.congr rfl ?_
      rw [pushedPackets_append, pushedPackets_playEvents, List.append_nil]

/-- An iteration that gets through its body keeps the invariant. -/
theorem StatsInv.through {inp : IterInput} {s s' : ListenerState} (h : StatsInv lib s)
    (hstep : iteration lib set recording inp s = .next s' ∨
      iteration lib set recording inp s = .brk s') : StatsInv lib s' := by
  obtain ⟨s₁, hsock, hplay⟩ := iteration_through hstep
  have h₀ : StatsInv lib (atPoll inp s) := h.congr rfl rfl
  have h₁ : StatsInv lib (afterPoll inp s₁) := (h₀.socketStep hsock).congr rfl rfl
  exact h₁.playStep hplay

/-- So does one that fails. -/
theorem StatsInv.goEnd {inp : IterInput} {s s' : ListenerState} {res : ℤ} (h : StatsInv lib s)
    (hstep : iteration lib set recording inp s = .goEnd res s') : StatsInv lib s' := by
  have h₀ : StatsInv lib (atPoll inp s) := h.congr rfl rfl
  cases iteration_goEnd hstep with
  | poll => exact h
  | socket hnew => exact h₀.newPacket hnew
  | timer hsock => exact (h₀.socketStep hsock).congr rfl rfl

/-! ### Every run -/

theorem statsInv_run {tr : List (ListenerState × IterInput)} {s : ListenerState}
    (hrun : (listenerLoop lib set recording).Run tr s) : StatsInv lib s := by
  refine Machine.Run.invariant_of_step (I := StatsInv lib) ?_ ?_ hrun
  · rintro s rfl
    exact statsInv_init
  · intro s inp s' h hstep
    exact h.through (Or.inl hstep)

/-- The listener on given inputs, the last of which ends the loop by `break`. -/
def runToBreak (lib : Libavtp) (set : StreamSettings) (recording : Bool)
    (inputs : List IterInput) (last : IterInput) : Option ListenerState :=
  (runListener lib set recording inputs).bind fun s =>
    match iteration lib set recording last s with
    | .brk s' => some s'
    | _ => none

theorem runToBreak_ends {inputs : List IterInput} {last : IterInput} {s : ListenerState}
    (h : runToBreak lib set recording inputs last = some s) : Ends lib set recording s := by
  obtain ⟨s₀, hs₀, hlast⟩ := Option.bind_eq_some_iff.mp h
  obtain ⟨tr, hrun, -⟩ := runListener_run hs₀
  refine ⟨tr, s₀, last, hrun, Or.inl ?_⟩
  split at hlast
  · rename_i s' hbrk
    rw [hbrk, Option.some.inj hlast]
  · cases hlast

theorem Ends.statsInv {s : ListenerState} (h : Ends lib set recording s) : StatsInv lib s := by
  obtain ⟨tr, s₀, inp, hrun, hbrk | ⟨res, hend⟩⟩ := h
  · exact (statsInv_run hrun).through (Or.inr hbrk)
  · exact (statsInv_run hrun).goEnd hend

end Tram
