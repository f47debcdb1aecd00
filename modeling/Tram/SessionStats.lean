/-
Tram/SessionStats.lean

The statistics of a session, in the order of its pushes.

The stack holds the pushes newest first, and the stored capture deltas are
those of neighbours on the stack, so both come back reversed.  The hardware
latency is subtracted from every capture time and cancels in the deltas, which
add up to the difference of the last and the first presentation time.

Every subtraction is one of `uint64_t`: a difference that is a 64-bit word is
stored as itself, whatever wraps on the way.

Of more than `2 ^ 31` packets the loops of `process_stat` leave out the oldest,
which the stack holds last.
-/
import Tram.StatSummary

namespace Tram

/-! ### Pushes -/

/-- A fresh handler after pushes in the order `nodes`. -/
def pushAll (nodes : List StatNode) : Option StatsHandler :=
  nodes.foldlM (fun self node => avbStatsPush true self node.arrival node.presentation)
    avbStatsHandlerInit

theorem pushAll_eq (nodes : List StatNode) :
    pushAll nodes = some { avbStatsHandlerInit with stackHead := nodes.reverse } := by
  have hfold : ∀ self : StatsHandler,
      nodes.foldlM (fun self node => avbStatsPush true self node.arrival node.presentation) self
        = some { self with stackHead := nodes.reverse ++ self.stackHead } := by
    induction nodes with
    | nil =>
        intro self
        rfl
    | cons node rest ih =>
        intro self
        rw [List.foldlM_cons, avbStatsPush, if_pos rfl, List.reverse_cons, List.append_assoc]
        exact ih { self with stackHead := node :: self.stackHead }
  rw [pushAll, hfold]
  simp [avbStatsHandlerInit]

/-! ### The numbers of a session -/

/-- Arrival less the presentation time without the transit time. -/
def travelNs (set : StreamSettings) (node : StatNode) : ℤ :=
  node.arrival.ns - (node.presentation.ns - transitNs set)

/-- The presentation times, as integers. -/
def presentationsNs (nodes : List StatNode) : List ℤ :=
  nodes.map fun node => (node.presentation.ns : ℤ)

/-- The statistics are those of the pushes. -/
structure SessionSummary (set : StreamSettings) (nodes : List StatNode) (stats : StatsHandler) :
    Prop where
  travelCount : stats.travel.count = nodes.length
  travel : Summarises stats.travel (nodes.map (travelNs set))
  deltaCount : stats.deltaCap.count = nodes.length - 1
  deltaCap : Summarises stats.deltaCap (differences (presentationsNs nodes))
  /-- The deltas telescope. -/
  deltaMean : ∀ first last, nodes.head? = some first → nodes.getLast? = some last →
    (stats.deltaCap.mean : ℤ)
      = ((last.presentation.ns : ℤ) - first.presentation.ns) / ((nodes.length - 1 : ℕ) : ℤ)

/-! ### Stored values -/

variable {hw : ℕ} {set : StreamSettings}

theorem travelTime_eq {node : StatNode} (h : 0 ≤ travelNs set node)
    (hlt : travelNs set node < 2 ^ 64) : (travelTime set node : ℤ) = travelNs set node := by
  rw [travelNs] at h hlt ⊢
  rw [travelTime, Timespec.toNs, Timespec.toNs, ← Timespec.ns, ← Timespec.ns]
  simp only [subU64, u64]
  omega

/-- The latency cancels. -/
theorem captureDelta_eq (hw : ℕ) (set : StreamSettings) {node next : StatNode}
    (h : next.presentation.ns ≤ node.presentation.ns)
    (hlt : (node.presentation.ns : ℤ) - next.presentation.ns < 2 ^ 64) :
    (captureDelta hw set node next : ℤ) = node.presentation.ns - next.presentation.ns := by
  rw [captureDelta, avbStatsGetCapTime_toNs, avbStatsGetCapTime_toNs, Timespec.toNs,
    Timespec.toNs, ← Timespec.ns, ← Timespec.ns]
  generalize transitNs set = transit
  simp only [subU64, u64]
  omega

/-- The stored deltas of a stack, newest first. -/
theorem captureDeltas_eq (hw : ℕ) (set : StreamSettings) {stack : List StatNode}
    (h : ∀ d ∈ differences (presentationsNs stack), d ≤ 0 ∧ -2 ^ 64 < d) :
    (captureDeltas hw set stack).map (Nat.cast : ℕ → ℤ)
      = (differences (presentationsNs stack)).map Neg.neg := by
  induction stack with
  | nil => rfl
  | cons node rest ih =>
      rcases rest with - | ⟨next, rest⟩
      · rfl
      · have hrest := ih fun d hd => h d (List.mem_cons_of_mem _ hd)
        obtain ⟨hle, hlt⟩ := h ((next.presentation.ns : ℤ) - node.presentation.ns) List.mem_cons_self
        rw [captureDeltas, List.map_cons, hrest, captureDelta_eq hw set (by omega) (by omega)]
        show _ = (differences (_ :: _ :: _)).map Neg.neg
        rw [differences, List.map_cons, neg_sub]
        rfl

/-! ### A session -/

/-- A session whose differences are 64-bit words: the presentation times do
not go down, no packet arrives before its presentation time less the transit
time, and the sums are below `2 ^ 64`. -/
structure SessionFits (set : StreamSettings) (nodes : List StatNode) : Prop where
  ordered : nodes.IsChain fun node next => node.presentation.ns ≤ next.presentation.ns
  travels : ∀ node ∈ nodes, 0 ≤ travelNs set node
  travelSum : (nodes.map (travelNs set)).sum < 2 ^ 64
  deltaSum : (differences (presentationsNs nodes)).sum < 2 ^ 64

theorem SessionFits.deltas_nonneg {nodes : List StatNode} (h : SessionFits set nodes) :
    ∀ d ∈ differences (presentationsNs nodes), 0 ≤ d :=
  differences_nonneg (List.isChain_map_of_isChain (fun node => (node.presentation.ns : ℤ))
    (fun _ _ => Int.ofNat_le.mpr) h.ordered)

/-- The travel times stored for the stack are those of the pushes. -/
theorem SessionFits.storedTravels {nodes : List StatNode} (h : SessionFits set nodes) :
    (nodes.reverse.map (travelTime set)).map (Nat.cast : ℕ → ℤ)
      = (nodes.map (travelNs set)).reverse := by
  have hnonneg : ∀ t ∈ nodes.map (travelNs set), 0 ≤ t := by
    intro t ht
    obtain ⟨node, hnode, rfl⟩ := List.mem_map.mp ht
    exact h.travels node hnode
  have heach : nodes.map (fun node => (travelTime set node : ℤ)) = nodes.map (travelNs set) := by
    refine List.map_congr_left fun node hnode => ?_
    have hle := List.single_le_sum hnonneg _ (List.mem_map_of_mem hnode)
    exact travelTime_eq (h.travels node hnode) (Int.lt_of_le_of_lt hle h.travelSum)
  rw [List.map_map, List.map_reverse, ← heach]
  rfl

/-- So are the deltas. -/
theorem SessionFits.storedDeltas (hw : ℕ) {nodes : List StatNode} (h : SessionFits set nodes) :
    (captureDeltas hw set nodes.reverse).map (Nat.cast : ℕ → ℤ)
      = (differences (presentationsNs nodes)).reverse := by
  have hreverse : differences (presentationsNs nodes.reverse)
      = ((differences (presentationsNs nodes)).map Neg.neg).reverse := by
    rw [presentationsNs, List.map_reverse]
    exact differences_reverse _
  have hback : (differences (presentationsNs nodes.reverse)).map Neg.neg
      = (differences (presentationsNs nodes)).reverse := by
    rw [hreverse, List.map_reverse, List.map_map]
    simp
  refine (captureDeltas_eq hw set fun d hd => ?_).trans hback
  rw [hreverse, List.mem_reverse] at hd
  obtain ⟨e, he, rfl⟩ := List.mem_map.mp hd
  have hnonneg := h.deltas_nonneg e he
  have hle := List.single_le_sum h.deltas_nonneg e he
  have hsum := h.deltaSum
  omega

/-- The sum of the numbers stored is the sum of the integers. -/
theorem sum_lt_of_reverse {values : List ℕ} {l : List ℤ}
    (h : values.map (Nat.cast : ℕ → ℤ) = l.reverse) (hsum : l.sum < 2 ^ 64) :
    values.sum < 2 ^ 64 := by
  rw [← List.sum_reverse, ← h, ← Nat.cast_list_sum] at hsum
  exact_mod_cast hsum

/-- The mean of the deltas, from the ends of the session. -/
theorem sum_differences_presentations {nodes : List StatNode} {first last : StatNode}
    (hfirst : nodes.head? = some first) (hlast : nodes.getLast? = some last) :
    (differences (presentationsNs nodes)).sum
      = (last.presentation.ns : ℤ) - first.presentation.ns := by
  rcases nodes with - | ⟨node, rest⟩
  · cases hfirst
  · obtain rfl := Option.some.inj hfirst
    have hend : (node :: rest).getLast (List.cons_ne_nil _ _) = last :=
      Option.some.inj ((List.getLast?_eq_some_getLast _).symm.trans hlast)
    have hmap : ((node :: rest).map fun node => (node.presentation.ns : ℤ)).getLast
        (List.cons_ne_nil _ _) = last.presentation.ns := by
      rw [List.getLast_map, hend]
    rw [presentationsNs, List.map_cons, sum_differences]
    exact congrArg (· - (node.presentation.ns : ℤ)) hmap

/-- The oldest packets, which the loops do not get to, decide nothing. -/
def OldestDecideNothing (set : StreamSettings) (nodes : List StatNode) : Prop :=
  HeadDecides (2 ^ 31) (nodes.map (travelNs set)).reverse ∧
    HeadDecides (2 ^ 31) (differences (presentationsNs nodes)).reverse

theorem differences_presentationsNs_length (nodes : List StatNode) :
    (differences (presentationsNs nodes)).length = nodes.length - 1 := by
  rw [differences_length, presentationsNs, List.length_map]

/-- The loops get to every one of `2 ^ 31` packets. -/
theorem oldestDecideNothing_of_le {nodes : List StatNode} (hmin : 2 ≤ nodes.length)
    (hmax : nodes.length ≤ 2 ^ 31) : OldestDecideNothing set nodes := by
  have hdeltas := differences_presentationsNs_length nodes
  constructor
  · refine .of_length_le (List.ne_nil_of_length_pos ?_) ?_ <;>
      rw [List.length_reverse, List.length_map] <;> omega
  · refine .of_length_le (List.ne_nil_of_length_pos ?_) ?_ <;>
      rw [List.length_reverse, hdeltas] <;> omega

theorem Summarises.of_reverse {stat : Stat} {l : List ℤ} :
    Summarises stat l.reverse ↔ Summarises stat l :=
  ⟨fun h => h.perm (List.reverse_perm l), fun h => h.perm (List.reverse_perm l).symm⟩

/-- What the function leaves for a session, and when that is its summary. -/
theorem exists_sessionStats (ops : DoubleOps) {nodes : List StatNode} {self : StatsHandler}
    (hpush : pushAll nodes = some self) (hmin : 2 ≤ nodes.length) (hmax : nodes.length < 2 ^ 61)
    (h : SessionFits set nodes) :
    ∃ self', avbStatsProcessStats ops set true true self = .ok (0, self') ∧
      (SessionSummary set nodes self' ↔ OldestDecideNothing set nodes) := by
  obtain rfl := Option.some.inj ((pushAll_eq nodes).symm.trans hpush)
  have hlen : nodes.reverse.length = nodes.length := List.length_reverse
  have htravels := h.storedTravels
  have hdeltas := h.storedDeltas (avbAafHwlatencyToNs ops set)
  obtain ⟨t, d, htraverse, ht, hd⟩ := traverse_filled (avbAafHwlatencyToNs ops set) set
    nodes.reverse (travelArr_filled (hlen ▸ hmax)) (deltaCapArr_filled (by omega) (hlen ▸ hmax)) rfl
  rw [List.nil_append] at ht hd
  have htlen : (nodes.reverse.map (travelTime set)).length = nodes.length := by
    rw [List.length_map, hlen]
  have hdlen : (captureDeltas (avbAafHwlatencyToNs ops set) set nodes.reverse).length
      = nodes.length - 1 := by
    rw [captureDeltas_length, hlen]
  obtain ⟨travel, htravel, htsum⟩ := processStat_summarises_iff ops ht
    (List.ne_nil_of_length_pos (by omega)) (by omega) (sum_lt_of_reverse htravels h.travelSum)
  obtain ⟨deltaCap, hdelta, hdsum⟩ := processStat_summarises_iff ops hd
    (List.ne_nil_of_length_pos (by omega)) (by omega) (sum_lt_of_reverse hdeltas h.deltaSum)
  rw [htlen, ← hlen] at htravel
  rw [hdlen, ← hlen] at hdelta
  rw [htravels, Summarises.of_reverse] at htsum
  rw [hdeltas, Summarises.of_reverse] at hdsum
  refine ⟨{ avbStatsHandlerInit with stackHead := nodes.reverse, travel, deltaCap },
    avbStatsProcessStats_of_parts (List.ne_nil_of_length_pos (by rw [hlen]; omega))
    ⟨htraverse, htravel, hdelta, rfl⟩, ?_⟩
  constructor
  · intro hs
    exact ⟨htsum.mp hs.travel, hdsum.mp hs.deltaCap⟩
  · rintro ⟨hdecided, hdecidedDeltas⟩
    have hts := htsum.mpr hdecided
    have hds := hdsum.mpr hdecidedDeltas
    refine ⟨?_, hts, ?_, hds, fun first last hfirst hlast => ?_⟩
    · rw [hts.count, List.length_map]
    · rw [hds.count, differences_presentationsNs_length]
    · rw [hds.mean, sum_differences_presentations hfirst hlast, differences_presentationsNs_length]

/-- What a call that goes through says about the pushes. -/
theorem session_bounds {ops : DoubleOps} {travelMalloc deltaMalloc : Bool} {nodes : List StatNode}
    {self self' : StatsHandler} (hpush : pushAll nodes = some self)
    (hok : avbStatsProcessStats ops set travelMalloc deltaMalloc self = .ok (0, self')) :
    nodes.length < 2 ^ 61 ∧ travelMalloc = true ∧ deltaMalloc = true := by
  have hstack : self.stackHead = nodes.reverse := by
    rw [← Option.some.inj ((pushAll_eq nodes).symm.trans hpush)]
  rcases avbStatsProcessStats_cases hok with ⟨-, hrc, -⟩ | ⟨hempty, -, t, d, hparts⟩
  · exact absurd hrc (by decide)
  · obtain ⟨-, hmax, hmallocs⟩ := hparts.bounds (by simpa using hempty)
    rw [hstack, List.length_reverse] at hmax
    exact ⟨hmax, hmallocs⟩

/-- **The statistics of a session.**  For pushes whose differences are 64-bit
words, the counts, extremes and means are those of the travel times and of the
differences of the presentation times, whatever the hardware latency, exactly
when both allocations succeed and there are at most `2 ^ 31` packets, or the
oldest ones decide nothing. -/
theorem avbStatsProcessStats_session_iff (ops : DoubleOps) (set : StreamSettings)
    (travelMalloc deltaMalloc : Bool) {nodes : List StatNode} {self : StatsHandler}
    (hpush : pushAll nodes = some self) (hmin : 2 ≤ nodes.length) (h : SessionFits set nodes) :
    (∃ self', avbStatsProcessStats ops set travelMalloc deltaMalloc self = .ok (0, self') ∧
        SessionSummary set nodes self') ↔
      (nodes.length ≤ 2 ^ 31 ∨ nodes.length < 2 ^ 61 ∧ OldestDecideNothing set nodes) ∧
        travelMalloc = true ∧ deltaMalloc = true := by
  constructor
  · rintro ⟨self', hok, hsummary⟩
    obtain ⟨hmax, rfl, rfl⟩ := session_bounds hpush hok
    obtain ⟨self'', hok', hiff⟩ := exists_sessionStats ops hpush hmin hmax h
    rw [hok] at hok'
    obtain rfl := (Prod.mk.inj (Except.ok.inj hok')).2
    exact ⟨Or.inr ⟨hmax, hiff.mp hsummary⟩, rfl, rfl⟩
  · rintro ⟨hlength, rfl, rfl⟩
    have hdecided : nodes.length < 2 ^ 61 ∧ OldestDecideNothing set nodes := by
      rcases hlength with hle | hlong
      · exact ⟨by omega, oldestDecideNothing_of_le hmin hle⟩
      · exact hlong
    obtain ⟨self', hok, hiff⟩ := exists_sessionStats ops hpush hmin hdecided.1 h
    exact ⟨self', hok, hiff.mpr hdecided.2⟩

/-- A packet that arrives at its presentation time. -/
def sameNode : StatNode := ⟨⟨1700000000, 5000000⟩, ⟨1700000000, 5000000⟩⟩

/-- The same packet, a nanosecond later. -/
def slowNode : StatNode := ⟨⟨1700000000, 5000001⟩, ⟨1700000000, 5000000⟩⟩

theorem travelNs_sameNode : travelNs set sameNode = transitNs set := sub_sub_cancel _ _

theorem travelNs_slowNode : travelNs set slowNode = transitNs set + 1 := by
  rw [travelNs, show (slowNode.arrival.ns : ℤ) = slowNode.presentation.ns + 1 by decide]
  omega

/-- A slow packet, and then the same one over and over. -/
theorem sessionFits_slow {n : ℕ} (hpos : 0 < n) (hlt : (n + 1) * (transitNs set + 1) < 2 ^ 64) :
    SessionFits set (slowNode :: List.replicate n sameNode) := by
  obtain ⟨n, rfl⟩ := Nat.exists_eq_add_one.mpr hpos
  have hsame : (List.replicate (n + 1) sameNode).IsChain
      fun node next => node.presentation.ns ≤ next.presentation.ns :=
    List.isChain_replicate_of_rel _ le_rfl
  refine ⟨.cons_cons le_rfl hsame, ?_, ?_, ?_⟩
  · intro node hnode
    rcases List.mem_cons.mp hnode with rfl | hnode
    · rw [travelNs_slowNode]
      omega
    · rw [List.eq_of_mem_replicate hnode, travelNs_sameNode]
      exact Int.natCast_nonneg _
  · rw [List.map_cons, List.map_replicate, List.sum_cons, List.sum_replicate, travelNs_slowNode,
      travelNs_sameNode, nsmul_eq_mul]
    have hsum : transitNs set + 1 + (n + 1) * transitNs set
        ≤ (n + 1 + 1) * (transitNs set + 1) := by
      nlinarith
    exact_mod_cast hsum.trans_lt hlt
  · have hlast : (slowNode :: List.replicate (n + 1) sameNode).getLast? = some sameNode := by
      rw [List.replicate_succ', ← List.cons_append, List.getLast?_concat]
    rw [sum_differences_presentations rfl hlast]
    decide

/-- The slow packet is the one behind the first `n` of the stack. -/
theorem not_headDecides_slow (n : ℕ) :
    ¬ HeadDecides n ((slowNode :: List.replicate n sameNode).map (travelNs set)).reverse := by
  have hstored : ((slowNode :: List.replicate n sameNode).map (travelNs set)).reverse
      = List.replicate n (transitNs set : ℤ) ++ [(transitNs set : ℤ) + 1] := by
    rw [List.map_cons, List.map_replicate, List.reverse_cons, List.reverse_replicate,
      travelNs_slowNode, travelNs_sameNode]
  rw [hstored]
  intro h
  obtain ⟨y, hy, hle⟩ := h.greatest (transitNs set + 1) (by simp)
  rw [List.take_left' List.length_replicate] at hy
  rw [List.eq_of_mem_replicate hy] at hle
  omega

/-- The loops of `process_stat` end in front of the first packet, and the
greatest travel time is that of another one. -/
theorem avbStatsProcessStats_session_long :
    ¬ ∀ (ops : DoubleOps) (set : StreamSettings) (nodes : List StatNode) (self : StatsHandler),
      pushAll nodes = some self → 2 ≤ nodes.length → SessionFits set nodes →
      ∃ self', avbStatsProcessStats ops set true true self = .ok (0, self') ∧
        SessionSummary set nodes self' := by
  intro h
  have hlength : (slowNode :: List.replicate (2 ^ 31) sameNode).length = 2 ^ 31 + 1 := by
    rw [List.length_cons, List.length_replicate]
  have hfits : SessionFits stereoSettings (slowNode :: List.replicate (2 ^ 31) sameNode) :=
    sessionFits_slow (by norm_num) (by rw [transitNs]; decide)
  have hmissed : ¬ OldestDecideNothing stereoSettings
      (slowNode :: List.replicate (2 ^ 31) sameNode) :=
    fun hdecided => not_headDecides_slow (2 ^ 31) hdecided.1
  generalize slowNode :: List.replicate (2 ^ 31) sameNode = nodes at hlength hfits hmissed
  obtain ⟨self', hok, hiff⟩ := exists_sessionStats natOps (pushAll_eq nodes) (by omega) (by omega)
    hfits
  obtain ⟨self'', hok', hsummary⟩ :=
    h natOps stereoSettings nodes _ (pushAll_eq nodes) (by omega) hfits
  rw [hok] at hok'
  obtain rfl := (Prod.mk.inj (Except.ok.inj hok')).2
  exact hmissed (hiff.mp hsummary)

/-- A session of two packets. -/
theorem avbStatsProcessStats_session_pair :
    ∃ self self', pushAll [⟨⟨1700000000, 5000000⟩, ⟨1700000000, 90000000⟩⟩,
        ⟨⟨1700000000, 8000000⟩, ⟨1700000000, 94000000⟩⟩] = some self ∧
      avbStatsProcessStats natOps stereoSettings true true self = .ok (0, self') ∧
      self'.deltaCap.mean = 4000000 := by
  obtain ⟨self', hok, hsummary⟩ := (avbStatsProcessStats_session_iff natOps stereoSettings true true
    (pushAll_eq [⟨⟨1700000000, 5000000⟩, ⟨1700000000, 90000000⟩⟩,
        ⟨⟨1700000000, 8000000⟩, ⟨1700000000, 94000000⟩⟩]) (by decide)
    ⟨by decide, by decide, by decide, by decide⟩).mpr ⟨Or.inl (by decide), rfl, rfl⟩
  have hmean : (self'.deltaCap.mean : ℤ) = 4000000 :=
    (hsummary.deltaMean _ _ rfl rfl).trans (by decide)
  exact ⟨_, self', pushAll_eq _, hok, by exact_mod_cast hmean⟩

end Tram
