/-
Tram/Stats.lean

The statistics handler (`avb_stats.c`): a linked stack of arrival and
presentation times, newest entry first, and the count of dropped packets.
-/
import Tram.Clock

namespace Tram

/-- `avb_stats_data_node_t`; `next` is the rest of the stack. -/
structure StatNode where
  arrival : Timespec
  presentation : Timespec
deriving DecidableEq, Repr

/-- `avb_stats_stat_t`. -/
structure Stat where
  min : ℕ
  max : ℕ
  mean : ℕ
  std : ℕ
  count : ℕ
deriving DecidableEq, Repr

/-- `avb_stats_handler_t`; the head of the list is `stack_head`. -/
structure StatsHandler where
  stackHead : List StatNode
  droppedPackets : ℕ
  deltaCap : Stat
  travel : Stat
deriving DecidableEq, Repr

/-- `avb_stats_stat_init`. -/
def avbStatsStatInit : Stat := ⟨2 ^ 64 - 1, 0, 0, 0, 0⟩

/-- `avb_stats_handler_init`. -/
def avbStatsHandlerInit : StatsHandler := ⟨[], 0, avbStatsStatInit, avbStatsStatInit⟩

/-- `avb_stats_add_dropped`: nothing is counted before the first push. -/
def avbStatsAddDropped (self : StatsHandler) (count : ℕ) : StatsHandler :=
  if self.stackHead.isEmpty then self
  else { self with droppedPackets := u32 (self.droppedPackets + u8 count) }

/-- `avb_stats_push`; `none` when `malloc` fails. -/
def avbStatsPush (mallocOk : Bool) (self : StatsHandler) (arrival presentation : Timespec) :
    Option StatsHandler :=
  if mallocOk then some { self with stackHead := ⟨arrival, presentation⟩ :: self.stackHead }
  else none

/-- The walk of `avb_stats_get_first` down to the bottom entry. -/
def bottomEntry (node : StatNode) : List StatNode → StatNode
  | [] => node
  | next :: rest => bottomEntry next rest

/-- `avb_stats_get_first`. -/
def avbStatsGetFirst (self : StatsHandler) : Option StatNode :=
  match self.stackHead with
  | [] => none
  | node :: rest => some (bottomEntry node rest)

/-- `avb_stats_get_last`. -/
def avbStatsGetLast (self : StatsHandler) : Option StatNode :=
  match self.stackHead with
  | [] => none
  | node :: _ => some node

/-! ### The stack and the order of the pushes -/

theorem bottomEntry_eq (node : StatNode) (rest : List StatNode) :
    some (bottomEntry node rest) = (node :: rest).getLast? := by
  induction rest generalizing node with
  | nil => rfl
  | cons next rest ih => rw [bottomEntry, ih, List.getLast?_cons_cons]

theorem avbStatsGetFirst_eq (self : StatsHandler) :
    avbStatsGetFirst self = self.stackHead.getLast? := by
  rw [avbStatsGetFirst]
  split
  · rename_i h
    rw [h]
    rfl
  · rename_i node rest h
    rw [h, bottomEntry_eq]

theorem avbStatsGetLast_eq (self : StatsHandler) :
    avbStatsGetLast self = self.stackHead.head? := by
  rw [avbStatsGetLast]
  split <;> simp_all

/-- After pushes in the order `nodes`, the first and the last of them are
found again. -/
theorem avbStatsGet_of_pushes {self : StatsHandler} {nodes : List StatNode}
    (h : self.stackHead = nodes.reverse) :
    avbStatsGetFirst self = nodes.head? ∧ avbStatsGetLast self = nodes.getLast? := by
  rw [avbStatsGetFirst_eq, avbStatsGetLast_eq, h, List.getLast?_reverse, List.head?_reverse]
  exact ⟨rfl, rfl⟩

@[simp] theorem avbStatsAddDropped_stackHead (self : StatsHandler) (count : ℕ) :
    (avbStatsAddDropped self count).stackHead = self.stackHead := by
  rw [avbStatsAddDropped]
  split <;> rfl

theorem avbStatsPush_some {ok : Bool} {self self' : StatsHandler} {a p : Timespec}
    (h : avbStatsPush ok self a p = some self') :
    self' = { self with stackHead := ⟨a, p⟩ :: self.stackHead } := by
  rw [avbStatsPush] at h
  split at h
  · exact (Option.some.inj h).symm
  · cases h

end Tram
