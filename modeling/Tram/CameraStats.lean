/-
Tram/CameraStats.lean

The statistics of a camera (`vimbastats.py`).

`process` divides by the difference of every two neighbouring stamps, and it
does so after it has set `frame_count`.  So two equal stamps in a row, of the
camera or of the host, raise `ZeroDivisionError`, and leave an object that
`print` takes for a processed one.

An attribute that has only been declared has no value.  Rounding to `float`
and the square root are parameters: nothing below depends on their values.
-/
import Tram.ListStats
import Mathlib.Data.Rat.Defs

namespace Tram

/-! ### Python -/

/-- The exceptions the module can raise. -/
inductive PyError
  | zeroDivisionError
  | valueError
  | indexError
  | attributeError
  | statisticsError
deriving DecidableEq, Repr

/-- The result of a `float` operation, rounded, and `math.sqrt`. -/
structure FloatOps where
  round : ℚ → ℚ
  sqrt : ℚ → ℚ

/-- `x / y`. -/
def trueDiv (ops : FloatOps) (x y : ℚ) : Except PyError ℚ :=
  if y = 0 then .error .zeroDivisionError else .ok (ops.round (x / y))

/-- `min` of a list. -/
def pyMin : List ℚ → Except PyError ℚ
  | [] => .error .valueError
  | x :: rest => .ok (rest.foldl min x)

/-- `max` of a list. -/
def pyMax : List ℚ → Except PyError ℚ
  | [] => .error .valueError
  | x :: rest => .ok (rest.foldl max x)

/-- `statistics.mean`. -/
def statisticsMean (ops : FloatOps) (data : List ℚ) : Except PyError ℚ :=
  if data.length < 1 then .error .statisticsError
  else .ok (ops.round (data.sum / data.length))

/-- `statistics.stdev`. -/
def statisticsStdev (ops : FloatOps) (data : List ℚ) : Except PyError ℚ :=
  if data.length < 2 then .error .statisticsError
  else
    let mean := data.sum / data.length
    .ok (ops.sqrt ((data.map fun x => (x - mean) ^ 2).sum / (data.length - 1)))

/-! ### The object -/

/-- `NSEC_IN_SEC`. -/
def nsecInSec : ℚ := 1000000000

/-- `NSEC_IN_MSEC`. -/
def nsecInMsec : ℚ := 1000000

namespace Camera

/-- `Stat`. -/
structure Stat where
  min : Option ℚ
  max : Option ℚ
  mean : Option ℚ
  std : Option ℚ
deriving DecidableEq, Repr

/-- `Stat()`: the class declares its attributes and gives them no values. -/
def statInit : Stat := ⟨none, none, none, none⟩

/-- `Stats`, without the counters read from the camera. -/
structure Stats where
  camStamps : List ℤ
  locStamps : List ℤ
  frameCount : ℕ
  camDelta : Stat
  camFps : Stat
  locDelta : Stat
  locFps : Stat
  travel : Stat
deriving DecidableEq, Repr

/-- `Stats.__init__`. -/
def statsInit : Stats := ⟨[], [], 0, statInit, statInit, statInit, statInit, statInit⟩

/-- `Stats.append`. -/
def Stats.append (stats : Stats) (locStamp camStamp : ℤ) : Stats :=
  { stats with
    camStamps := stats.camStamps ++ [camStamp]
    locStamps := stats.locStamps ++ [locStamp] }

/-! ### process -/

/-- The four assignments to a `Stat`, from `data` and in the unit of `scale`:
the exception that ends them, if any, and the object. -/
def Stat.assign (ops : FloatOps) (scale : ℚ → ℚ) (data : List ℚ) (stat : Stat) :
    Option PyError × Stat :=
  match pyMin data with
  | .error e => (some e, stat)
  | .ok x =>
    let stat := { stat with min := some (scale x) }
    match pyMax data with
    | .error e => (some e, stat)
    | .ok x =>
      let stat := { stat with max := some (scale x) }
      match statisticsMean ops data with
      | .error e => (some e, stat)
      | .ok x =>
        let stat := { stat with mean := some (scale x) }
        match statisticsStdev ops data with
        | .error e => (some e, stat)
        | .ok x => (none, { stat with std := some (scale x) })

/-- `x / NSEC_IN_MSEC`. -/
def inMsec (ops : FloatOps) (x : ℚ) : ℚ := ops.round (x / nsecInMsec)

/-- `[NSEC_IN_SEC/deltas[n] for n in ...]`. -/
def rates (ops : FloatOps) : List ℤ → Except PyError (List ℚ)
  | [] => .ok []
  | delta :: rest =>
      match trueDiv ops nsecInSec delta with
      | .error e => .error e
      | .ok rate =>
          match rates ops rest with
          | .error e => .error e
          | .ok fps => .ok (rate :: fps)

/-- `[self.loc_stamps[n]-self.cam_stamps[n] for n in ...]`, over the indices
of `cam_stamps`. -/
def travelTimes : List ℤ → List ℤ → Except PyError (List ℤ)
  | _, [] => .ok []
  | [], _ :: _ => .error .indexError
  | loc :: locStamps, cam :: camStamps =>
      match travelTimes locStamps camStamps with
      | .error e => .error e
      | .ok times => .ok ((loc - cam) :: times)

/-- The block of `process` for the stamps of one clock. -/
def processStamps (ops : FloatOps) (stamps : List ℤ) (delta fps : Stat) :
    Option PyError × Stat × Stat :=
  let deltas := differences stamps
  match rates ops deltas with
  | .error e => (some e, delta, fps)
  | .ok fpsList =>
      match delta.assign ops (inMsec ops) (deltas.map Int.cast) with
      | (some e, delta) => (some e, delta, fps)
      | (none, delta) =>
          match fps.assign ops id fpsList with
          | (e, fps) => (e, delta, fps)

/-- `Stats.process`: the exception it raises, if any, and the object. -/
def Stats.process (ops : FloatOps) (stats : Stats) : Option PyError × Stats :=
  if stats.camStamps.length ≤ 2 then (none, stats)
  else
    let stats := { stats with frameCount := stats.camStamps.length }
    match processStamps ops stats.camStamps stats.camDelta stats.camFps with
    | (some e, camDelta, camFps) => (some e, { stats with camDelta, camFps })
    | (none, camDelta, camFps) =>
        let stats := { stats with camDelta, camFps }
        match processStamps ops stats.locStamps stats.locDelta stats.locFps with
        | (some e, locDelta, locFps) => (some e, { stats with locDelta, locFps })
        | (none, locDelta, locFps) =>
            let stats := { stats with locDelta, locFps }
            match travelTimes stats.locStamps stats.camStamps with
            | .error e => (some e, stats)
            | .ok times =>
                match stats.travel.assign ops (inMsec ops) (times.map Int.cast) with
                | (e, travel) => (e, { stats with travel })

/-! ### print -/

/-- The attributes in the order in which they are printed. -/
def Stat.fields (stat : Stat) : List (Option ℚ) := [stat.min, stat.max, stat.mean, stat.std]

/-- Read attributes one after the other. -/
def readAll : List (Option ℚ) → Except PyError (List ℚ)
  | [] => .ok []
  | none :: _ => .error .attributeError
  | some x :: rest =>
      match readAll rest with
      | .error e => .error e
      | .ok values => .ok (x :: values)

/-- `Stats.print`: the values it prints behind the frame count. -/
def Stats.print (stats : Stats) : Except PyError (List ℚ) :=
  if stats.frameCount = 0 then .ok []
  else readAll (stats.camDelta.fields ++ stats.camFps.fields ++ stats.locDelta.fields
    ++ stats.locFps.fields ++ stats.travel.fields)

/-! ### What process does -/

/-- All attributes have a value. -/
def Stat.IsSet (stat : Stat) : Prop := ∀ x ∈ stat.fields, x ≠ none

instance (stat : Stat) : Decidable stat.IsSet := inferInstanceAs (Decidable (∀ x ∈ _, _))

/-- Two values are enough for all four functions. -/
theorem Stat.assign_isSet (ops : FloatOps) (scale : ℚ → ℚ) {data : List ℚ}
    (h : 2 ≤ data.length) (stat : Stat) :
    ∃ stat', stat.assign ops scale data = (none, stat') ∧ stat'.IsSet := by
  rcases data with - | ⟨x, rest⟩
  · exact absurd h (by decide)
  have hmean : ¬ (x :: rest).length < 1 := by omega
  have hstdev : ¬ (x :: rest).length < 2 := by omega
  simp only [Stat.assign, pyMin, pyMax, statisticsMean, statisticsStdev, if_neg hmean,
    if_neg hstdev]
  refine ⟨_, rfl, ?_⟩
  simp [Stat.IsSet, Stat.fields]

/-- A zero among the differences is divided by. -/
theorem rates_zero (ops : FloatOps) {deltas : List ℤ} (h : 0 ∈ deltas) :
    rates ops deltas = .error .zeroDivisionError := by
  induction deltas with
  | nil => cases h
  | cons delta rest ih =>
      rw [rates, trueDiv]
      by_cases hzero : delta = 0
      · rw [if_pos (by exact_mod_cast hzero)]
      · rw [if_neg (by exact_mod_cast hzero)]
        dsimp only
        rw [ih ((List.mem_cons.mp h).resolve_left fun heq => hzero heq.symm)]

theorem rates_ok (ops : FloatOps) {deltas : List ℤ} (h : 0 ∉ deltas) :
    ∃ fps, rates ops deltas = .ok fps ∧ fps.length = deltas.length := by
  induction deltas with
  | nil => exact ⟨[], rfl, rfl⟩
  | cons delta rest ih =>
      rw [List.mem_cons, not_or] at h
      obtain ⟨fps, hrest, hlen⟩ := ih h.2
      have hdelta : ¬ (delta : ℚ) = 0 := by exact_mod_cast Ne.symm h.1
      refine ⟨ops.round (nsecInSec / delta) :: fps, ?_, congrArg (· + 1) hlen⟩
      rw [rates, trueDiv, if_neg hdelta, hrest]

theorem travelTimes_ok {locStamps camStamps : List ℤ}
    (h : locStamps.length = camStamps.length) :
    ∃ times, travelTimes locStamps camStamps = .ok times ∧ times.length = camStamps.length := by
  induction camStamps generalizing locStamps with
  | nil => exact ⟨[], by rw [travelTimes], rfl⟩
  | cons cam rest ih =>
      rcases locStamps with - | ⟨loc, locRest⟩
      · cases h
      · obtain ⟨times, hrest, hlen⟩ := ih (Nat.succ.inj h)
        refine ⟨(loc - cam) :: times, ?_, congrArg (· + 1) hlen⟩
        rw [travelTimes, hrest]

/-- No two neighbouring stamps are equal. -/
abbrev NoRepeat (stamps : List ℤ) : Prop := stamps.IsChain (· ≠ ·)

/-- The block raises the exception of its divisions. -/
theorem processStamps_repeat (ops : FloatOps) {stamps : List ℤ} (h : ¬ NoRepeat stamps)
    (delta fps : Stat) :
    processStamps ops stamps delta fps = (some .zeroDivisionError, delta, fps) := by
  have hzero : 0 ∈ differences stamps := by
    by_contra hnot
    exact h (zero_notMem_differences.mp hnot)
  rw [processStamps]
  dsimp only
  rw [rates_zero ops hzero]

theorem processStamps_isSet (ops : FloatOps) {stamps : List ℤ} (h : NoRepeat stamps)
    (hlen : 2 < stamps.length) (delta fps : Stat) :
    ∃ delta' fps', processStamps ops stamps delta fps = (none, delta', fps') ∧
      delta'.IsSet ∧ fps'.IsSet := by
  have hcount : 2 ≤ (differences stamps).length := by
    rw [differences_length]
    omega
  obtain ⟨fpsList, hrates, hsame⟩ := rates_ok ops (zero_notMem_differences.mpr h)
  obtain ⟨delta', hdelta, hdeltaSet⟩ := Stat.assign_isSet ops (inMsec ops)
    (by rwa [List.length_map] : 2 ≤ ((differences stamps).map (Int.cast : ℤ → ℚ)).length) delta
  obtain ⟨fps', hfps, hfpsSet⟩ := Stat.assign_isSet ops id (hsame.symm ▸ hcount) fps
  refine ⟨delta', fps', ?_, hdeltaSet, hfpsSet⟩
  simp only [processStamps, hrates, hdelta, hfps]

/-- The five `Stat` objects are complete. -/
structure Stats.Printable (stats : Stats) : Prop where
  camDelta : stats.camDelta.IsSet
  camFps : stats.camFps.IsSet
  locDelta : stats.locDelta.IsSet
  locFps : stats.locFps.IsSet
  travel : stats.travel.IsSet

theorem readAll_ok_iff (fields : List (Option ℚ)) :
    (∃ values, readAll fields = .ok values) ↔ ∀ x ∈ fields, x ≠ none := by
  induction fields with
  | nil => exact iff_of_true ⟨[], rfl⟩ nofun
  | cons x rest ih =>
      rw [List.forall_mem_cons, ← ih]
      rcases x with - | x
      · exact iff_of_false (fun ⟨_, h⟩ => by cases h) fun h => h.1 rfl
      · rw [and_iff_right (Option.some_ne_none x), readAll]
        rcases readAll rest with e | values
        · exact iff_of_false (fun ⟨_, h⟩ => by cases h) fun ⟨_, h⟩ => by cases h
        · exact iff_of_true ⟨_, rfl⟩ ⟨_, rfl⟩

/-- `print` goes past its test on complete objects. -/
theorem Stats.print_ok_iff (stats : Stats) :
    (∃ values, stats.print = .ok values) ↔ (stats.frameCount ≠ 0 → stats.Printable) := by
  rw [Stats.print]
  by_cases hzero : stats.frameCount = 0
  · rw [if_pos hzero]
    exact iff_of_true ⟨[], rfl⟩ fun h => absurd hzero h
  · rw [if_neg hzero, readAll_ok_iff]
    simp only [List.forall_mem_append]
    constructor
    · rintro ⟨⟨⟨⟨h₁, h₂⟩, h₃⟩, h₄⟩, h₅⟩ -
      exact ⟨h₁, h₂, h₃, h₄, h₅⟩
    · intro h
      obtain ⟨h₁, h₂, h₃, h₄, h₅⟩ := h hzero
      exact ⟨⟨⟨⟨h₁, h₂⟩, h₃⟩, h₄⟩, h₅⟩

/-! ### Every recording -/

/-- A `Stats` object with the pairs of local and camera stamps appended. -/
def recorded (pairs : List (ℤ × ℤ)) : Stats :=
  pairs.foldl (fun stats p => stats.append p.1 p.2) statsInit

theorem foldl_append (pairs : List (ℤ × ℤ)) (stats : Stats) :
    pairs.foldl (fun stats p => stats.append p.1 p.2) stats
      = { stats with
          camStamps := stats.camStamps ++ pairs.map Prod.snd
          locStamps := stats.locStamps ++ pairs.map Prod.fst } := by
  induction pairs generalizing stats with
  | nil => simp
  | cons p rest ih =>
      rw [List.foldl_cons, ih]
      simp [Stats.append]

theorem recorded_eq (pairs : List (ℤ × ℤ)) :
    recorded pairs
      = { statsInit with camStamps := pairs.map Prod.snd, locStamps := pairs.map Prod.fst } :=
  foldl_append pairs statsInit

/-- `process` raises nothing, and `print` finds every attribute it reads. -/
structure ProcessSafe (r : Option PyError × Stats) : Prop where
  raises : r.1 = none
  printable : r.2.frameCount ≠ 0 → r.2.Printable

/-- Distinct neighbours: everything is set. -/
theorem process_safe (ops : FloatOps) {stats : Stats} (hlen : 2 < stats.camStamps.length)
    (hsame : stats.locStamps.length = stats.camStamps.length)
    (hcam : NoRepeat stats.camStamps) (hloc : NoRepeat stats.locStamps) :
    ProcessSafe (stats.process ops) := by
  obtain ⟨camDelta, camFps, hcamBlock, hcamDelta, hcamFps⟩ :=
    processStamps_isSet ops hcam hlen stats.camDelta stats.camFps
  obtain ⟨locDelta, locFps, hlocBlock, hlocDelta, hlocFps⟩ :=
    processStamps_isSet ops hloc (hsame ▸ hlen) stats.locDelta stats.locFps
  obtain ⟨times, htimes, hcount⟩ := travelTimes_ok hsame
  obtain ⟨travel, htravel, htravelSet⟩ := Stat.assign_isSet ops (inMsec ops)
    (by rw [List.length_map, hcount]; omega : 2 ≤ (times.map (Int.cast : ℤ → ℚ)).length)
    stats.travel
  have hok : ¬ stats.camStamps.length ≤ 2 := by omega
  simp only [Stats.process, if_neg hok, hcamBlock, hlocBlock, htimes, htravel]
  exact ⟨rfl, fun _ => ⟨hcamDelta, hcamFps, hlocDelta, hlocFps, htravelSet⟩⟩

/-- Equal neighbours: an exception. -/
theorem process_raises (ops : FloatOps) {stats : Stats} (hlen : 2 < stats.camStamps.length)
    (h : ¬ NoRepeat stats.camStamps ∨ ¬ NoRepeat stats.locStamps) :
    (stats.process ops).1 = some .zeroDivisionError := by
  have hok : ¬ stats.camStamps.length ≤ 2 := by omega
  rw [Stats.process, if_neg hok]
  dsimp only
  by_cases hcam : NoRepeat stats.camStamps
  · obtain ⟨camDelta, camFps, hcamBlock, -, -⟩ :=
      processStamps_isSet ops hcam hlen stats.camDelta stats.camFps
    rw [hcamBlock]
    dsimp only
    rw [processStamps_repeat ops (h.resolve_left (not_not.mpr hcam))]
  · rw [processStamps_repeat ops hcam]

/-- **Camera statistics.**  Whatever has been appended: `process` raises
nothing and `print` finds its attributes exactly when there are at most two
pairs or no two stamps in a row are equal, of the host and of the camera. -/
theorem stats_process_safe_iff (ops : FloatOps) (pairs : List (ℤ × ℤ)) :
    ProcessSafe ((recorded pairs).process ops) ↔
      pairs.length ≤ 2 ∨ NoRepeat (pairs.map Prod.fst) ∧ NoRepeat (pairs.map Prod.snd) := by
  rw [recorded_eq]
  set stats : Stats :=
    { statsInit with camStamps := pairs.map Prod.snd, locStamps := pairs.map Prod.fst }
  have hlength : stats.camStamps.length = pairs.length := List.length_map _
  have hsame : stats.locStamps.length = stats.camStamps.length := by
    rw [hlength]
    exact List.length_map _
  by_cases hshort : pairs.length ≤ 2
  · refine iff_of_true ?_ (Or.inl hshort)
    rw [Stats.process, if_pos (hlength ▸ hshort)]
    exact ⟨rfl, fun h => absurd rfl h⟩
  have hlen : 2 < stats.camStamps.length := by omega
  rw [or_iff_right hshort]
  constructor
  · intro h
    by_contra hrepeat
    have hraises := process_raises ops hlen (not_and_or.mp fun hboth => hrepeat hboth.symm)
    rw [h.raises] at hraises
    cases hraises
  · exact fun h => process_safe ops hlen hsame h.2 h.1

/-- Numbers that are not rounded. -/
def exactFloats : FloatOps := ⟨id, id⟩

/-- Two frames with one camera stamp. -/
theorem stats_process_safe_repeat :
    ¬ ∀ ops pairs, ProcessSafe ((recorded pairs).process ops) := by
  intro h
  have hraises := (h exactFloats [(10, 1), (20, 1), (30, 2)]).raises
  revert hraises
  decide +kernel

-- and `print` stumbles over the object that is left
example : ((recorded [(10, 1), (20, 1), (30, 2)]).process exactFloats).2.print
    = .error .attributeError := by
  decide +kernel

end Camera

end Tram
