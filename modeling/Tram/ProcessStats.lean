/-
Tram/ProcessStats.lean

The statistics of a session (`avb_stats_process_stats`).

One traversal of the stack, newest entry first, fills two arrays: the travel
times, one for each entry, and the differences of the capture times of
neighbours, one fewer.  Then `process_stat` goes over each array.

The hardware latency is computed in single precision.  `pow`, `sqrt` and the
conversion of a quotient by zero are parameters (`DoubleOps`): nothing below
depends on their values.

`avbStatsProcessStats_completes_iff` says when the function returns: the
session of a single entry leaves no difference, and divides by their number.
-/
import Tram.HeapArray
import Tram.Settings
import Tram.Stats
import Mathlib.Data.Int.Log
import Mathlib.Data.Rat.Floor

namespace Tram

/-! ### Floating point -/

/-- The calls of `libm` in `process_stat`, with the conversions around them, and
the one conversion of a `float` that need not be finite.  A result that is no
`uint64_t` is some unspecified one. -/
structure DoubleOps where
  /-- `std += pow(d, 2)`. -/
  addPow : ℕ → ℕ → ℕ
  /-- `std = sqrt(q)`. -/
  sqrt : ℕ → ℕ
  /-- `(float)x / 0` as a `uint64_t`. -/
  byZero : ℕ → ℕ

/-- The integer nearest to `y`, the even one of two. -/
def roundEven (y : ℚ) : ℤ :=
  if y - ⌊y⌋ < 1 / 2 then ⌊y⌋
  else if 1 / 2 < y - ⌊y⌋ then ⌊y⌋ + 1
  else if ⌊y⌋ % 2 = 0 then ⌊y⌋ else ⌊y⌋ + 1

/-- The `float` nearest to a non-negative number: 24 significant bits.  The
numbers below are far from the ends of the exponent range. -/
def roundSingle (x : ℚ) : ℚ :=
  let ulp : ℚ := 2 ^ (Int.log 2 x - 23)
  roundEven (x / ulp) * ulp

/-- `avb_aaf_hwlatency_to_ns`.  A sample rate of zero makes the quotient
infinite or no number: nothing traps, and the conversion gives some value. -/
def avbAafHwlatencyToNs (ops : DoubleOps) (set : StreamSettings) : ℕ :=
  if set.sampleRate = 0 then u64 (ops.byZero set.hwLatency)
  else
    let seconds := roundSingle (roundSingle set.hwLatency / roundSingle set.sampleRate)
    ⌊roundSingle (seconds * nsecPerSec)⌋.toNat

/-- The two calls on natural numbers, and the value of an x86-64 conversion. -/
def natOps : DoubleOps := ⟨fun std d => std + d * d, Nat.sqrt, fun _ => 2 ^ 63⟩

/-- 128 frames of stereo, 16 bit, 44.1 kHz. -/
def stereoSettings : StreamSettings where
  streamId := 0xAABBCCDDEEFF0001
  sampleRate := 44100
  bitDepth := 16
  channels := 2
  dataLen := 512
  pduSize := 536
  aafSampleRate := 6
  aafBitDepth := 4
  hwLatency := 128
  framesPerPdu := 128
  maxTransitTime := 100

example : avbAafHwlatencyToNs natOps stereoSettings = 2902494 := by decide +kernel

/-! ### Capture times -/

/-- `max_transit_time` in ns. -/
def transitNs (set : StreamSettings) : ℕ := u32 set.maxTransitTime * nsecPerMsec

/-- `avb_stats_get_cap_time`, with the hardware latency `hw` in ns. -/
def avbStatsGetCapTime (hw : ℕ) (set : StreamSettings) (node : StatNode) : Timespec :=
  .ofNs (subU64 (subU64 node.presentation.toNs (transitNs set)) hw)

/-- The division into seconds and nanoseconds is undone when the time is read. -/
theorem avbStatsGetCapTime_toNs (hw : ℕ) (set : StreamSettings) (node : StatNode) :
    (avbStatsGetCapTime hw set node).toNs
      = subU64 (subU64 node.presentation.toNs (transitNs set)) hw := by
  rw [avbStatsGetCapTime, Timespec.toNs_of_lt, Timespec.ns_ofNs]
  rw [Timespec.ns_ofNs]
  exact Nat.mod_lt _ (by decide)

/-! ### process_stat -/

/-- The first loop of `process_stat`: extremes and sum. -/
def accumulate (stat : Stat) (x : ℕ) : Stat :=
  { stat with
    max := if x > stat.max then x else stat.max
    min := if x < stat.min then x else stat.min
    mean := u64 (stat.mean + x) }

/-- The second loop: the squared deviations. -/
def deviate (ops : DoubleOps) (stat : Stat) (x : ℕ) : Stat :=
  { stat with std := ops.addPow stat.std (subU64 x stat.mean) }

/-- `process_stat`. -/
def processStat (ops : DoubleOps) (data : HeapArray) (count : ℕ) (stat : Stat) :
    Except RuntimeFault Stat :=
  match data.forEach accumulate count stat with
  | .error e => .error e
  | .ok stat =>
      if count = 0 then .error .divisionByZero
      else
        let stat := { stat with count, mean := stat.mean / count }
        match data.forEach (deviate ops) count stat with
        | .error e => .error e
        | .ok stat => .ok { stat with std := ops.sqrt (stat.std / count) }

/-! ### avb_stats_process_stats -/

/-- The four statements on `travel_arr[entry_index]`. -/
def storeTravel (hw : ℕ) (set : StreamSettings) (node : StatNode) (entryIndex : ℕ)
    (travelArr : HeapArray) : Except RuntimeFault HeapArray := do
  let currentCapNs := (avbStatsGetCapTime hw set node).toNs
  -- travel = arrival - (capture + hw_latency)
  let travelArr ← travelArr.store entryIndex node.arrival.toNs
  let travelArr ← travelArr.update entryIndex (subU64 · (currentCapNs + hw))
  -- travel = arrival - (presentation - transit)
  let travelArr ← travelArr.store entryIndex node.arrival.toNs
  travelArr.update entryIndex (subU64 · (subU64 node.presentation.toNs (transitNs set)))

/-- The loop that traverses the list, from the entry with `entryIndex` on. -/
def traverse (hw : ℕ) (set : StreamSettings) :
    List StatNode → ℕ → HeapArray → HeapArray → Except RuntimeFault (HeapArray × HeapArray)
  | [], _, travelArr, deltaCapArr => .ok (travelArr, deltaCapArr)
  | [node], entryIndex, travelArr, deltaCapArr =>
      -- the last node: there is no next to calculate the delta
      match storeTravel hw set node entryIndex travelArr with
      | .error e => .error e
      | .ok travelArr => .ok (travelArr, deltaCapArr)
  | node :: next :: rest, entryIndex, travelArr, deltaCapArr =>
      match storeTravel hw set node entryIndex travelArr with
      | .error e => .error e
      | .ok travelArr =>
          let delta := subU64 (avbStatsGetCapTime hw set node).toNs
            (avbStatsGetCapTime hw set next).toNs
          match deltaCapArr.store entryIndex delta with
          | .error e => .error e
          | .ok deltaCapArr =>
              traverse hw set (next :: rest) (entryIndex + 1) travelArr deltaCapArr

/-- `avb_stats_process_stats`; the two arguments tell whether the allocations
of `travel_arr` and `delta_cap_arr` succeed. -/
def avbStatsProcessStats (ops : DoubleOps) (set : StreamSettings) (travelMalloc deltaMalloc : Bool)
    (self : StatsHandler) : Except RuntimeFault (ℤ × StatsHandler) :=
  if self.stackHead.isEmpty then .ok (-1, self)
  else
    let entryCount := self.stackHead.length
    let travelArr := HeapArray.malloc travelMalloc (u64 (8 * entryCount))
    let deltaCapArr := HeapArray.malloc deltaMalloc (subU64 (8 * entryCount) 1)
    let hw := avbAafHwlatencyToNs ops set
    match traverse hw set self.stackHead 0 travelArr deltaCapArr with
    | .error e => .error e
    | .ok (travelArr, deltaCapArr) =>
        match processStat ops travelArr entryCount self.travel with
        | .error e => .error e
        | .ok travel =>
            match processStat ops deltaCapArr (entryCount - 1) self.deltaCap with
            | .error e => .error e
            | .ok deltaCap => .ok (0, { self with travel, deltaCap })

/-! ### What the traversal stores -/

/-- The travel time stored for an entry. -/
def travelTime (set : StreamSettings) (node : StatNode) : ℕ :=
  subU64 node.arrival.toNs (subU64 node.presentation.toNs (transitNs set))

/-- The difference stored for an entry and the one pushed before it. -/
def captureDelta (hw : ℕ) (set : StreamSettings) (node next : StatNode) : ℕ :=
  subU64 (avbStatsGetCapTime hw set node).toNs (avbStatsGetCapTime hw set next).toNs

/-- The differences of a stack, newest first. -/
def captureDeltas (hw : ℕ) (set : StreamSettings) : List StatNode → List ℕ
  | [] => []
  | [_] => []
  | node :: next :: rest => captureDelta hw set node next :: captureDeltas hw set (next :: rest)

theorem captureDeltas_length (hw : ℕ) (set : StreamSettings) (nodes : List StatNode) :
    (captureDeltas hw set nodes).length = nodes.length - 1 := by
  induction nodes with
  | nil => rfl
  | cons node rest ih =>
      cases rest with
      | nil => rfl
      | cons next rest =>
          rw [captureDeltas, List.length_cons, ih]
          rfl

variable {hw : ℕ} {set : StreamSettings}

/-- The second formula for the travel time overwrites the first. -/
theorem storeTravel_filled (hw : ℕ) (set : StreamSettings) {a : HeapArray} {values : List ℕ}
    {k : ℕ} (node : StatNode) (h : a.Filled values (k + 1)) :
    ∃ a', storeTravel hw set node values.length a = .ok a' ∧
      a'.Filled (values ++ [travelTime set node]) k := by
  obtain ⟨a₁, hstore, h₁⟩ := h.store node.arrival.toNs
  obtain ⟨a₂, hsub, h₂⟩ :=
    h₁.update_last (subU64 · ((avbStatsGetCapTime hw set node).toNs + hw))
  obtain ⟨a₃, hagain, h₃⟩ := h₂.store_last node.arrival.toNs
  obtain ⟨a₄, hlast, h₄⟩ :=
    h₃.update_last (subU64 · (subU64 node.presentation.toNs (transitNs set)))
  refine ⟨a₄, ?_, h₄⟩
  simp only [storeTravel, hstore, hsub, hagain, bind, Except.bind]
  exact hlast

/-- The traversal fills both arrays to their ends. -/
theorem traverse_filled (hw : ℕ) (set : StreamSettings) (nodes : List StatNode) :
    ∀ {travelArr deltaCapArr : HeapArray} {travels deltas : List ℕ},
      travelArr.Filled travels nodes.length → deltaCapArr.Filled deltas (nodes.length - 1) →
      travels.length = deltas.length →
      ∃ travelArr' deltaCapArr',
        traverse hw set nodes travels.length travelArr deltaCapArr
          = .ok (travelArr', deltaCapArr') ∧
        travelArr'.Filled (travels ++ nodes.map (travelTime set)) 0 ∧
        deltaCapArr'.Filled (deltas ++ captureDeltas hw set nodes) 0 := by
  induction nodes with
  | nil =>
      intro t d travels deltas ht hd _
      exact ⟨t, d, rfl, by simpa using ht, by simpa [captureDeltas] using hd⟩
  | cons node rest ih =>
      intro t d travels deltas ht hd hlen
      obtain ⟨t₁, htravel, ht₁⟩ := storeTravel_filled hw set node ht
      cases rest with
      | nil =>
          refine ⟨t₁, d, ?_, ht₁, by simpa [captureDeltas] using hd⟩
          rw [traverse, htravel]
      | cons next rest =>
          obtain ⟨d₁, hdelta, hd₁⟩ := hd.store (captureDelta hw set node next)
          obtain ⟨t', d', hrest, ht', hd'⟩ := ih ht₁ hd₁ (by simp [hlen])
          refine ⟨t', d', ?_, by simpa using ht', by simpa [captureDeltas] using hd'⟩
          rw [traverse, htravel]
          dsimp only
          rw [← captureDelta, hlen, hdelta]
          rw [List.length_append, List.length_singleton, hlen] at hrest
          exact hrest

/-- The first store of a node is inside the block, whose size stays. -/
theorem storeTravel_bytes {node : StatNode} {i : ℕ} {a a' : HeapArray}
    (h : storeTravel hw set node i a = .ok a') : 8 * (i + 1) ≤ a.bytes ∧ a'.bytes = a.bytes := by
  rcases h₁ : a.store i node.arrival.toNs with e | a₁
  · simp only [storeTravel, h₁, bind, Except.bind] at h
    cases h
  rcases h₂ : a₁.update i (subU64 · ((avbStatsGetCapTime hw set node).toNs + hw)) with e | a₂
  · simp only [storeTravel, h₁, h₂, bind, Except.bind] at h
    cases h
  rcases h₃ : a₂.store i node.arrival.toNs with e | a₃
  · simp only [storeTravel, h₁, h₂, h₃, bind, Except.bind] at h
    cases h
  simp only [storeTravel, h₁, h₂, h₃, bind, Except.bind] at h
  obtain ⟨hfits, hsize⟩ := HeapArray.store_bytes h₁
  refine ⟨hfits, ?_⟩
  rw [HeapArray.update_bytes h, (HeapArray.store_bytes h₃).2, HeapArray.update_bytes h₂, hsize]

/-- A traversal that returns has had room for every travel time and every
difference. -/
theorem traverse_bytes {nodes : List StatNode} {i : ℕ} {t d t' d' : HeapArray}
    (h : traverse hw set nodes i t d = .ok (t', d')) :
    (nodes ≠ [] → 8 * (i + nodes.length) ≤ t.bytes) ∧ (2 ≤ nodes.length → 0 < d.bytes) := by
  induction nodes generalizing i t d with
  | nil => exact ⟨fun hne => absurd rfl hne, fun hlen => absurd hlen (by decide)⟩
  | cons node rest ih =>
      rcases rest with - | ⟨next, rest⟩
      · rw [traverse] at h
        split at h
        · cases h
        · rename_i t₁ hstore
          exact ⟨fun _ => (storeTravel_bytes hstore).1, fun hlen => absurd hlen (by simp)⟩
      · rw [traverse] at h
        split at h
        · cases h
        rename_i t₁ hstore
        dsimp only at h
        split at h
        · cases h
        rename_i d₁ hdelta
        obtain ⟨hroom, -⟩ := ih h
        have hlast := hroom (List.cons_ne_nil _ _)
        have hsize := (storeTravel_bytes hstore).2
        have hdfits := (HeapArray.store_bytes hdelta).1
        refine ⟨fun _ => ?_, fun _ => by omega⟩
        rw [List.length_cons, ← hsize]
        omega

/-! ### When process_stat returns -/

theorem processStat_filled (ops : DoubleOps) {data : HeapArray} {values : List ℕ} (stat : Stat)
    (h : data.Filled values 0) (hne : values ≠ []) (hlen : values.length < 2 ^ 61) :
    ∃ stat', processStat ops data values.length stat = .ok stat' := by
  have hcount : values.length ≠ 0 := fun h0 => hne (List.length_eq_zero_iff.mp h0)
  rw [processStat, h.forEach (by omega)]
  dsimp only
  rw [if_neg hcount, h.forEach (by omega)]
  exact ⟨_, rfl⟩

theorem processStat_ok {ops : DoubleOps} {data : HeapArray} {count : ℕ} {stat stat' : Stat}
    (h : processStat ops data count stat = .ok stat') : 0 < count := by
  rw [processStat] at h
  split at h
  · cases h
  · split at h
    · cases h
    · rename_i hcount
      exact Nat.pos_of_ne_zero hcount

/-! ### When the whole function returns -/

/-- The parts of a call that goes through the statistics of a session. -/
structure ProcessedAs (ops : DoubleOps) (set : StreamSettings) (travelMalloc deltaMalloc : Bool)
    (stats stats' : StatsHandler) (travelArr deltaCapArr : HeapArray) : Prop where
  traversed : traverse (avbAafHwlatencyToNs ops set) set stats.stackHead 0
      (.malloc travelMalloc (u64 (8 * stats.stackHead.length)))
      (.malloc deltaMalloc (subU64 (8 * stats.stackHead.length) 1)) = .ok (travelArr, deltaCapArr)
  travel : processStat ops travelArr stats.stackHead.length stats.travel = .ok stats'.travel
  deltaCap : processStat ops deltaCapArr (stats.stackHead.length - 1) stats.deltaCap
    = .ok stats'.deltaCap
  others : stats' = { stats with travel := stats'.travel, deltaCap := stats'.deltaCap }

variable {ops : DoubleOps} {travelMalloc deltaMalloc : Bool} {self self' : StatsHandler}

/-- The function returns -1 on an empty stack, and 0 after going through. -/
theorem avbStatsProcessStats_cases {rc : ℤ}
    (h : avbStatsProcessStats ops set travelMalloc deltaMalloc self = .ok (rc, self')) :
    self.stackHead.isEmpty = true ∧ rc = -1 ∧ self' = self ∨
      self.stackHead.isEmpty = false ∧ rc = 0 ∧ ∃ travelArr deltaCapArr,
        ProcessedAs ops set travelMalloc deltaMalloc self self' travelArr deltaCapArr := by
  rw [avbStatsProcessStats] at h
  split at h
  · rename_i hempty
    cases h
    exact Or.inl ⟨hempty, rfl, rfl⟩
  rename_i hempty
  dsimp only at h
  split at h
  · cases h
  rename_i t d htraverse
  split at h
  · cases h
  rename_i travel htravel
  split at h
  · cases h
  rename_i deltaCap hdelta
  cases h
  exact Or.inr ⟨by simpa using hempty, rfl, t, d, htraverse, htravel, hdelta, rfl⟩

theorem avbStatsProcessStats_of_parts {t d : HeapArray} (hne : self.stackHead ≠ [])
    (h : ProcessedAs ops set travelMalloc deltaMalloc self self' t d) :
    avbStatsProcessStats ops set travelMalloc deltaMalloc self = .ok (0, self') := by
  rw [avbStatsProcessStats, if_neg fun hempty => hne (List.isEmpty_iff.mp hempty)]
  simp only [h.traversed, h.travel, h.deltaCap]
  rw [← h.others]

/-- What a call that goes through says about the session and the allocations. -/
theorem ProcessedAs.bounds {t d : HeapArray} (hne : self.stackHead ≠ [])
    (h : ProcessedAs ops set travelMalloc deltaMalloc self self' t d) :
    2 ≤ self.stackHead.length ∧ self.stackHead.length < 2 ^ 61 ∧
      travelMalloc = true ∧ deltaMalloc = true := by
  have hmin := processStat_ok h.deltaCap
  obtain ⟨htbytes, hdbytes⟩ := traverse_bytes h.traversed
  have hroom := htbytes hne
  obtain ⟨htravel, hsize⟩ := HeapArray.malloc_of_bytes_pos (Nat.lt_of_lt_of_le (by omega) hroom)
  obtain ⟨hdelta, -⟩ := HeapArray.malloc_of_bytes_pos (hdbytes (by omega))
  rw [hsize] at hroom
  have hword := u64_lt (8 * self.stackHead.length)
  exact ⟨by omega, by omega, htravel, hdelta⟩

/-- What the function returns, and that it leaves the stack alone. -/
theorem avbStatsProcessStats_ok {rc : ℤ}
    (h : avbStatsProcessStats ops set travelMalloc deltaMalloc self = .ok (rc, self')) :
    rc = (if self.stackHead.isEmpty then -1 else 0) ∧ self'.stackHead = self.stackHead := by
  rcases avbStatsProcessStats_cases h with ⟨hempty, rfl, rfl⟩ | ⟨hempty, rfl, t, d, hparts⟩
  · rw [hempty]
    exact ⟨rfl, rfl⟩
  · rw [hempty, hparts.others]
    exact ⟨rfl, rfl⟩

/-- `8n` bytes are `n` cells. -/
theorem travelArr_filled {n : ℕ} (h : n < 2 ^ 61) :
    (HeapArray.malloc true (u64 (8 * n))).Filled [] n := by
  have hsize : u64 (8 * n) / 8 = n := by
    rw [u64]
    omega
  have hfilled := HeapArray.filled_malloc (u64 (8 * n))
  rwa [hsize] at hfilled

/-- `8n - 1` bytes are one cell fewer. -/
theorem deltaCapArr_filled {n : ℕ} (hpos : 0 < n) (h : n < 2 ^ 61) :
    (HeapArray.malloc true (subU64 (8 * n) 1)).Filled [] (n - 1) := by
  have hsize : subU64 (8 * n) 1 / 8 = n - 1 := by
    rw [subU64_of_le (by omega) (by omega)]
    omega
  have hfilled := HeapArray.filled_malloc (subU64 (8 * n) 1)
  rwa [hsize] at hfilled

/-- A session of two packets or more is gone through. -/
theorem exists_processedAs (ops : DoubleOps) (set : StreamSettings)
    (hmin : 2 ≤ self.stackHead.length) (hmax : self.stackHead.length < 2 ^ 61) :
    ∃ self' t d, ProcessedAs ops set true true self self' t d := by
  obtain ⟨t, d, htraverse, ht, hd⟩ := traverse_filled (avbAafHwlatencyToNs ops set) set
    self.stackHead (travelArr_filled hmax) (deltaCapArr_filled (by omega) hmax) rfl
  rw [List.nil_append] at ht hd
  have htlen : (self.stackHead.map (travelTime set)).length = self.stackHead.length :=
    List.length_map _
  have hdlen := captureDeltas_length (avbAafHwlatencyToNs ops set) set self.stackHead
  obtain ⟨travel, htravel⟩ := processStat_filled ops self.travel ht
    (List.ne_nil_of_length_pos (by omega)) (by omega)
  obtain ⟨deltaCap, hdelta⟩ := processStat_filled ops self.deltaCap hd
    (List.ne_nil_of_length_pos (by omega)) (by omega)
  rw [htlen] at htravel
  rw [hdlen] at hdelta
  exact ⟨{ self with travel, deltaCap }, t, d, htraverse, htravel, hdelta, rfl⟩

/-- **The statistics of a session.**  For a session with at least one packet
the function returns, with every access inside what was allocated and written,
exactly when there are two packets at least and both allocations succeed.  From
`2 ^ 61` packets on, more than an address space holds, `8n` is no `size_t`. -/
theorem avbStatsProcessStats_completes_iff (ops : DoubleOps) (set : StreamSettings)
    (travelMalloc deltaMalloc : Bool) (self : StatsHandler) (hne : self.stackHead ≠ []) :
    (∃ self', avbStatsProcessStats ops set travelMalloc deltaMalloc self = .ok (0, self')) ↔
      2 ≤ self.stackHead.length ∧ self.stackHead.length < 2 ^ 61 ∧
        travelMalloc = true ∧ deltaMalloc = true := by
  constructor
  · rintro ⟨self', h⟩
    rcases avbStatsProcessStats_cases h with ⟨-, hrc, -⟩ | ⟨-, -, t, d, hparts⟩
    · exact absurd hrc (by decide)
    exact hparts.bounds hne
  · rintro ⟨hmin, hmax, rfl, rfl⟩
    obtain ⟨self', t, d, hparts⟩ := exists_processedAs ops set hmin hmax
    exact ⟨self', avbStatsProcessStats_of_parts hne hparts⟩

/-- A session of one packet divides by the number of differences. -/
theorem avbStatsProcessStats_completes_single :
    ¬ ∀ (ops : DoubleOps) (set : StreamSettings) (self : StatsHandler), self.stackHead ≠ [] →
      ∃ self', avbStatsProcessStats ops set true true self = .ok (0, self') := by
  intro h
  let self : StatsHandler :=
    { avbStatsHandlerInit with stackHead := [⟨⟨1700000000, 5000000⟩, ⟨1700000000, 90000000⟩⟩] }
  have hfault : avbStatsProcessStats natOps stereoSettings true true self
      = .error .divisionByZero := by
    decide +kernel
  obtain ⟨self', hok⟩ := h natOps stereoSettings self (by decide)
  cases hfault.symm.trans hok

/-- A session of two packets. -/
theorem avbStatsProcessStats_completes_pair :
    ∃ self', avbStatsProcessStats natOps stereoSettings true true
      { avbStatsHandlerInit with
        stackHead := [⟨⟨1700000000, 8000000⟩, ⟨1700000000, 93000000⟩⟩,
          ⟨⟨1700000000, 5000000⟩, ⟨1700000000, 90000000⟩⟩] } = .ok (0, self') :=
  (avbStatsProcessStats_completes_iff natOps stereoSettings true true _ (by decide)).mpr
    ⟨by decide, by decide, rfl, rfl⟩

end Tram
