/-
Tram/RecorderErrors.lean

Failing calls under the recorder.

Nothing between `setup_wav_recorder` and the last `wav_write` looks at the error
of the library or clears it, so the second one of a session, wherever it is set,
ends the program: on a refused argument, on a failing call on the file, or, when
the file could not be opened, in the first setter.

`Bearable` says of the settings, the number of writes and the outcomes of the
calls that there is at most one error.  Behind it, every header has to be
written without a failure, and every write begins with a `wav_tell` that has to
succeed; unless the program ends in `wav_tell`, on a position before the data or
on a block size of zero.
-/
import Tram.ErrorLatch
import Tram.LoopInvariant

namespace Tram

/-! ### The condition -/

/-- The headers that `wav_open` and the setters write, of seven calls each. -/
def setupHeaders (set : StreamSettings) : ℕ :=
  1 + (if set.bitDepth = 32 then 2 else 0) + (if sampleBytes set.bitDepth < 1 then 0 else 1)
    + (if u16 set.channels < 1 ∨ u16 set.channels = 2 then 0 else 1)
    + (if set.sampleRate = 44100 then 0 else 1)

/-- The setters that refuse their argument. -/
def setupRefusals (set : StreamSettings) : ℕ :=
  (if sampleBytes set.bitDepth < 1 then 1 else 0) + (if u16 set.channels < 1 then 1 else 0)

/-- The blocks of the file have no bytes. -/
def noBlock (set : StreamSettings) : Bool := decide ((setupWavRecorder set).format.blockAlign = 0)

/-- Of `n` calls of `wav_tell`, those there will be: where `ends` holds, the
first one to get its position ends the program. -/
def tells (ends : Prop) [Decidable ends] (n : ℕ) : ℕ := if ends then min 1 n else n

/-- Call `i` of a write has failed, `left` more writes are to come, and no call
behind sets a second error.  The eight calls are those of `wav_tell`, the
`fwrite` of the data and the six of `wav_update_sizes`. -/
def BehindWrite (i left : ℕ) (rest : List Bool) : Prop :=
  if i = 2 then
    -- the position to go back to is not looked at: there are four calls before it is used
    (∀ j rest', j < 4 → rest = List.replicate j true ++ false :: rest' →
        false ∉ rest'.take (tells (0 < j) left)) ∧
      (false ∉ rest.take 4 → false ∉ (rest.drop 4).take left)
  else
    -- a write of a size that fails leaves the file before its data
    false ∉ rest.take (tells (4 ≤ i ∧ i ≤ 6) left)

/-- Call `k` behind `fopen` is the first one to fail, and no call behind it sets
a second error. -/
def BehindFailure (headers writes : ℕ) (noBlock : Bool) (k : ℕ) (rest : List Bool) : Prop :=
  if k < 7 * headers then
    -- in the last header it leaves the file before its data, but for the first call
    false ∉ rest.take
      (7 * (headers - 1 - k / 7) + tells (7 * (headers - 1) < k ∨ noBlock = true) writes)
  else if noBlock = true then
    k = 7 * headers → false ∉ rest.take (min 1 (writes - 1))
  else BehindWrite ((k - 7 * headers) % 8) (writes - 1 - (k - 7 * headers) / 8) rest

/-- The file is opened, and there is no second error. -/
structure Bearable (set : StreamSettings) (writes : ℕ) (outcomes : List Bool) : Prop where
  opened : outcomes.head? ≠ some false
  refused : setupRefusals set ≤ 1
  behindRefusal : setupRefusals set = 1 →
    false ∉ outcomes.tail.take (7 * setupHeaders set + tells (noBlock set = true) writes)
  behindFailure : setupRefusals set = 0 → ∀ k rest,
    outcomes.tail = List.replicate k true ++ false :: rest →
      BehindFailure (setupHeaders set) writes (noBlock set) k rest

/-! ### Outcomes -/

theorem exists_first_false {n : ℕ} {o : List Bool} (h : false ∈ o.take n) :
    ∃ i < n, ∃ rest, o = List.replicate i true ++ false :: rest := by
  induction o generalizing n with
  | nil =>
      rw [List.take_nil] at h
      exact absurd h List.not_mem_nil
  | cons ok o ih =>
      rcases n with - | n
      · exact absurd h List.not_mem_nil
      cases ok with
      | false => exact ⟨0, Nat.succ_pos n, o, rfl⟩
      | true =>
          obtain ⟨i, hi, rest, rfl⟩ := ih (by simpa using h)
          exact ⟨i + 1, Nat.succ_lt_succ hi, rest, rfl⟩

/-- The first calls succeed, and then the others do. -/
theorem notMem_take_add {m n : ℕ} {o : List Bool} :
    false ∉ o.take (m + n) ↔ false ∉ o.take m ∧ false ∉ (o.drop m).take n := by
  rw [List.take_add, List.mem_append, not_or]

theorem notMem_take_replicate {m k : ℕ} (h : m ≤ k) (rest : List Bool) :
    false ∉ (List.replicate k true ++ false :: rest).take m := by
  intro hmem
  rw [List.take_append_of_le_length (by rwa [List.length_replicate]), List.take_replicate] at hmem
  cases List.eq_of_mem_replicate hmem

theorem drop_replicate_append {m k : ℕ} (h : m ≤ k) (rest : List Bool) :
    (List.replicate k true ++ rest).drop m = List.replicate (k - m) true ++ rest := by
  rw [List.drop_append_of_le_length (by rwa [List.length_replicate]), List.drop_replicate]

/-! ### One step -/

namespace Latch

variable {l : Latch} {noBlock : Bool}

theorem setError_of_failed (h : l.failed = true) : l.setError = .error .second := if_pos h

theorem setError_of_clean (h : l.failed = false) : l.setError = .ok { l with failed := true } :=
  if_neg (by rw [h]; decide)

/-- A header given up at a call leaves the file before its data, but for the
first call. -/
theorem header_fails {i : ℕ} (hi : i < 7) (failed : Bool) (pos : ℕ) (rest : List Bool) :
    ∃ q, (q < 44 ↔ 0 < i ∨ pos < 44) ∧
      header ⟨failed, pos, List.replicate i true ++ false :: rest⟩
        = setError ⟨failed, q, rest⟩ := by
  obtain rfl | rfl | rfl | rfl | rfl | rfl | rfl :
      i = 0 ∨ i = 1 ∨ i = 2 ∨ i = 3 ∨ i = 4 ∨ i = 5 ∨ i = 6 := by omega
  · exact ⟨pos, by simp, rfl⟩
  · exact ⟨0, by simp, rfl⟩
  · exact ⟨12, by simp, rfl⟩
  · exact ⟨12, by simp, rfl⟩
  · exact ⟨20, by simp, rfl⟩
  · exact ⟨36, by simp, rfl⟩
  · exact ⟨36, by simp, rfl⟩

/-- A header whose seven calls succeed, or fails at one of them. -/
theorem header_cases (l : Latch) :
    (false ∉ l.outcomes.take 7 ∧
        l.header = .ok { l with pos := 44, outcomes := l.outcomes.drop 7 }) ∨
      false ∈ l.outcomes.take 7 ∧ ∃ q rest, l.header = setError ⟨l.failed, q, rest⟩ := by
  rcases l with ⟨failed, pos, o⟩
  by_cases hclear : false ∈ o.take 7
  · obtain ⟨i, hi, rest, rfl⟩ := exists_first_false hclear
    obtain ⟨q, -, heq⟩ := header_fails hi failed pos rest
    exact Or.inr ⟨hclear, q, rest, heq⟩
  · refine Or.inl ⟨hclear, ?_⟩
    rcases o with - | ⟨_ | _, - | ⟨_ | _, - | ⟨_ | _, - | ⟨_ | _, - | ⟨_ | _, - | ⟨_ | _,
      - | ⟨_ | _, o⟩⟩⟩⟩⟩⟩⟩
    all_goals first | rfl | exact absurd (by simp) hclear

/-- A write that ends or does not get further than `wav_tell`. -/
theorem write_failed (h : l.failed = true) :
    l.write noBlock = if false ∈ l.outcomes.take 1 then .error .second
      else if l.pos < 44 ∨ noBlock = true then .error .other
      else .ok { l with outcomes := l.outcomes.drop 1 } := by
  rcases l with ⟨failed, pos, o⟩
  obtain rfl : failed = true := h
  rcases o with - | ⟨_ | _, o⟩
  · rfl
  · rfl
  · have hclear : ¬ false ∈ (true :: o).take 1 := by simp
    exact (if_neg hclear).symm

/-- A write whose eight calls succeed. -/
theorem write_clear (h : l.failed = false) (hpos : l.pos = 44)
    (hclear : false ∉ l.outcomes.take 8) :
    l.write false = .ok { l with outcomes := l.outcomes.drop 8 } := by
  rcases l with ⟨failed, pos, o⟩
  obtain rfl : failed = false := h
  obtain rfl : pos = 44 := hpos
  rcases o with - | ⟨_ | _, - | ⟨_ | _, - | ⟨_ | _, - | ⟨_ | _, - | ⟨_ | _, - | ⟨_ | _,
    - | ⟨_ | _, - | ⟨_ | _, o⟩⟩⟩⟩⟩⟩⟩⟩
  all_goals first | rfl | exact absurd (by simp) hclear

/-- A write that fails at a call it looks at. -/
theorem write_fails {i : ℕ} (hi : i < 8) (htwo : i ≠ 2) (rest : List Bool) :
    ∃ q, (q < 44 ↔ 4 ≤ i ∧ i ≤ 6) ∧
      write false ⟨false, 44, List.replicate i true ++ false :: rest⟩ = .ok ⟨true, q, rest⟩ := by
  obtain rfl | rfl | rfl | rfl | rfl | rfl | rfl :
      i = 0 ∨ i = 1 ∨ i = 3 ∨ i = 4 ∨ i = 5 ∨ i = 6 ∨ i = 7 := by omega
  · exact ⟨44, by decide, rfl⟩
  · exact ⟨44, by decide, rfl⟩
  · exact ⟨44, by decide, rfl⟩
  · exact ⟨4, by decide, rfl⟩
  · exact ⟨8, by decide, rfl⟩
  · exact ⟨40, by decide, rfl⟩
  · exact ⟨44, by decide, rfl⟩

/-- A write without a position to go back to, and another failing call. -/
theorem write_untold {j : ℕ} (hj : j < 4) (rest : List Bool) :
    ∃ q, (q < 44 ↔ 0 < j) ∧
      write false ⟨false, 44, [true, true, false] ++ (List.replicate j true ++ false :: rest)⟩
        = .ok ⟨true, q, rest⟩ := by
  obtain rfl | rfl | rfl | rfl : j = 0 ∨ j = 1 ∨ j = 2 ∨ j = 3 := by omega
  · exact ⟨44, by decide, rfl⟩
  · exact ⟨4, by decide, rfl⟩
  · exact ⟨8, by decide, rfl⟩
  · exact ⟨40, by decide, rfl⟩

/-- A write without a position to go back to, up to the seek. -/
theorem write_unsought {rest : List Bool} (h : false ∉ rest.take 4) :
    write false ⟨false, 44, [true, true, false] ++ rest⟩ = .ok ⟨true, 44, rest.drop 4⟩ := by
  rcases rest with - | ⟨_ | _, - | ⟨_ | _, - | ⟨_ | _, - | ⟨_ | _, rest⟩⟩⟩⟩
  all_goals first | rfl | exact absurd (by simp) h

/-! ### Behind the first error -/

/-- The writes behind an error. -/
theorem failed_writes (h : l.failed = true) (n : ℕ) :
    runCalls (step noBlock) l (List.replicate n .write) ≠ .error .second ↔
      false ∉ l.outcomes.take (tells (l.pos < 44 ∨ noBlock = true) n) := by
  induction n generalizing l with
  | zero => simp [runCalls, tells]
  | succ n ih =>
      rw [List.replicate_succ, runCalls_cons, step_write, write_failed h]
      by_cases hbad : false ∈ l.outcomes.take 1
      · rw [if_pos hbad]
        refine iff_of_false (fun hne => hne rfl) fun hall => hall ?_
        refine List.take_subset_take_left l.outcomes ?_ hbad
        rw [tells]
        split <;> omega
      rw [if_neg hbad]
      by_cases hends : l.pos < 44 ∨ noBlock = true
      · rw [if_pos hends, tells, if_pos hends, Nat.min_eq_left (Nat.le_add_left 1 n)]
        exact iff_of_true (by simp [Except.bind]) hbad
      · have hrest := @ih { l with outcomes := l.outcomes.drop 1 } h
        rw [tells, if_neg (by exact hends)] at hrest
        rw [if_neg hends, ok_bind, hrest, tells, if_neg hends, Nat.add_comm n 1, notMem_take_add]
        exact (and_iff_right hbad).symm

theorem tells_congr {p q : Prop} [Decidable p] [Decidable q] (h : p ↔ q) (n : ℕ) :
    tells p n = tells q n := by
  rw [tells, tells]
  exact if_congr h rfl rfl

/-- The headers behind an error, and the writes behind them. -/
theorem failed_headers (h : l.failed = true) (headers n : ℕ) :
    runCalls (step noBlock) l (List.replicate headers .header ++ List.replicate n .write)
        ≠ .error .second ↔
      false ∉ l.outcomes.take
        (7 * headers + tells (headers = 0 ∧ l.pos < 44 ∨ noBlock = true) n) := by
  induction headers generalizing l with
  | zero =>
      have hends : l.pos < 44 ∨ noBlock = true ↔ 0 = 0 ∧ l.pos < 44 ∨ noBlock = true := by simp
      rw [List.replicate_zero, List.nil_append, failed_writes h, tells_congr hends, Nat.mul_zero,
        Nat.zero_add]
  | succ headers ih =>
      have hsplit : ∀ t, 7 * (headers + 1) + t = 7 + (7 * headers + t) := by omega
      rw [List.replicate_succ, List.cons_append, runCalls_cons, step_header, hsplit,
        notMem_take_add]
      rcases header_cases l with ⟨hclear, hok⟩ | ⟨hbad, q, rest, hfails⟩
      · have hends : headers = 0 ∧ 44 < 44 ∨ noBlock = true ↔
            headers + 1 = 0 ∧ l.pos < 44 ∨ noBlock = true := by simp
        have hrest := @ih { l with pos := 44, outcomes := l.outcomes.drop 7 } h
        rw [hok, ok_bind, hrest, tells_congr hends]
        exact (and_iff_right hclear).symm
      · have hset : setError ⟨l.failed, q, rest⟩ = .error .second := setError_of_failed h
        rw [hfails, hset]
        exact iff_of_false (fun hne => hne rfl) fun hall => hall.1 hbad

/-- Two errors, one of them pending or not. -/
theorem refused_twice {steps : List RecorderStep} (hwrite : .write ∉ steps)
    (h : 2 ≤ (if l.failed then 1 else 0) + steps.count .refusal) (tail : List RecorderStep) :
    runCalls (step noBlock) l (steps ++ tail) = .error .second := by
  induction steps generalizing l with
  | nil =>
      rw [List.count_nil] at h
      split at h <;> omega
  | cons first steps ih =>
      have hrest : RecorderStep.write ∉ steps := fun hmem => hwrite (List.mem_cons_of_mem _ hmem)
      have herror : ∀ l' : Latch, l'.failed = l.failed →
          2 ≤ 1 + steps.count .refusal + (if l.failed then 1 else 0) →
          (l'.setError.bind fun l' => runCalls (step noBlock) l' (steps ++ tail))
            = .error .second := by
        intro l' hl' hcount
        cases hfailed : l.failed with
        | true => rw [setError_of_failed (hl'.trans hfailed), Except.bind]
        | false =>
            rw [hfailed] at hcount
            rw [setError_of_clean (hl'.trans hfailed), ok_bind]
            exact ih hrest hcount
      rw [List.cons_append, runCalls_cons]
      cases first with
      | write => exact absurd List.mem_cons_self hwrite
      | refusal =>
          rw [List.count_cons_self] at h
          rw [step_refusal]
          exact herror l rfl (by omega)
      | header =>
          have hcount : (RecorderStep.header :: steps).count .refusal = steps.count .refusal :=
            List.count_cons_of_ne (by decide)
          rw [hcount] at h
          rw [step_header]
          rcases header_cases l with ⟨-, hok⟩ | ⟨-, q, rest, hfails⟩
          · rw [hok, ok_bind]
            exact ih hrest h
          · rw [hfails]
            exact herror _ rfl (by omega)

theorem headers_only {steps : List RecorderStep} (hwrite : .write ∉ steps)
    (hrefusal : .refusal ∉ steps) : steps = List.replicate (steps.count .header) .header := by
  have hall : ∀ s ∈ steps, s = .header := by
    intro s hs
    cases s with
    | header => rfl
    | refusal => exact absurd hs hrefusal
    | write => exact absurd hs hwrite
  rw [List.count_eq_length.mpr fun s hs => (hall s hs).symm]
  exact List.eq_replicate_of_mem hall

/-- A refused argument behind headers that are written. -/
theorem refused_once {steps : List RecorderStep} (hwrite : .write ∉ steps) (h : l.failed = false)
    (hpos : l.pos = 44 ∨ steps.head? = some .header) (hone : steps.count .refusal = 1) (n : ℕ) :
    runCalls (step noBlock) l (steps ++ List.replicate n .write) ≠ .error .second ↔
      false ∉ l.outcomes.take (7 * steps.count .header + tells (noBlock = true) n) := by
  induction steps generalizing l with
  | nil => cases hone
  | cons first steps ih =>
      have hrest : RecorderStep.write ∉ steps := fun hmem => hwrite (List.mem_cons_of_mem _ hmem)
      rw [List.cons_append, runCalls_cons]
      cases first with
      | write => exact absurd List.mem_cons_self hwrite
      | refusal =>
          rw [List.count_cons_self] at hone
          have hnone : .refusal ∉ steps := List.count_eq_zero.mp (by omega)
          have hcount : (RecorderStep.refusal :: steps).count .header = steps.count .header :=
            List.count_cons_of_ne (by decide)
          have hpos' : l.pos = 44 := hpos.resolve_right (by simp)
          have hends : steps.count .header = 0 ∧ l.pos < 44 ∨ noBlock = true ↔ noBlock = true := by
            simp [hpos']
          have hheaders := @failed_headers { l with failed := true } noBlock rfl
            (steps.count .header) n
          rw [← headers_only hrest hnone, tells_congr hends] at hheaders
          rw [step_refusal, setError_of_clean h, ok_bind, hcount]
          exact hheaders
      | header =>
          have hcount : (RecorderStep.header :: steps).count .refusal = steps.count .refusal :=
            List.count_cons_of_ne (by decide)
          have hsplit : ∀ t, 7 * (steps.count .header + 1) + t
              = 7 + (7 * steps.count .header + t) := by omega
          rw [hcount] at hone
          rw [List.count_cons_self, hsplit, notMem_take_add, step_header]
          rcases header_cases l with ⟨hclear, hok⟩ | ⟨hbad, q, rest, hfails⟩
          · have hbehind := @ih { l with pos := 44, outcomes := l.outcomes.drop 7 } hrest h
              (Or.inl rfl) hone
            rw [hok, ok_bind, hbehind]
            exact (and_iff_right hclear).symm
          · have hclean : setError ⟨l.failed, q, rest⟩ = .ok ⟨true, q, rest⟩ := setError_of_clean h
            have htwo : 2 ≤ (if true = true then 1 else 0) + steps.count .refusal := by
              rw [hone]
              decide
            rw [hfails, hclean, ok_bind, refused_twice hrest htwo]
            exact iff_of_false (fun hne => hne rfl) fun hall => hall.1 hbad

/-! ### Up to the first error -/

theorem clear_headers {headers : ℕ} {o : List Bool} (h : false ∉ o.take (7 * headers))
    (failed : Bool) (pos : ℕ) (tail : List RecorderStep) :
    runCalls (step noBlock) ⟨failed, pos, o⟩ (List.replicate headers .header ++ tail)
      = runCalls (step noBlock)
          ⟨failed, if headers = 0 then pos else 44, o.drop (7 * headers)⟩ tail := by
  induction headers generalizing pos o with
  | zero => rfl
  | succ headers ih =>
      rw [Nat.mul_succ, Nat.add_comm, notMem_take_add] at h
      rw [List.replicate_succ, List.cons_append, runCalls_cons, step_header]
      rcases header_cases ⟨failed, pos, o⟩ with ⟨-, hok⟩ | ⟨hbad, -⟩
      · rw [hok, ok_bind, ih h.2, List.drop_drop, if_neg (Nat.succ_ne_zero headers), ite_self,
          Nat.mul_succ, Nat.add_comm]
      · exact absurd hbad h.1

theorem clear_writes {n : ℕ} {o : List Bool} (h : false ∉ o.take (8 * n))
    (tail : List RecorderStep) :
    runCalls (step false) ⟨false, 44, o⟩ (List.replicate n .write ++ tail)
      = runCalls (step false) ⟨false, 44, o.drop (8 * n)⟩ tail := by
  induction n generalizing o with
  | zero => rfl
  | succ n ih =>
      rw [Nat.mul_succ, Nat.add_comm, notMem_take_add] at h
      rw [List.replicate_succ, List.cons_append, runCalls_cons, step_write,
        write_clear rfl rfl h.1, ok_bind, ih h.2, List.drop_drop, Nat.mul_succ, Nat.add_comm]

/-- The writes, one of whose calls fails first. -/
theorem behindWrite_iff {i : ℕ} (hi : i < 8) (left : ℕ) (rest : List Bool) :
    runCalls (step false) ⟨false, 44, List.replicate i true ++ false :: rest⟩
        (List.replicate (left + 1) .write) ≠ .error .second ↔ BehindWrite i left rest := by
  rw [List.replicate_succ, runCalls_cons, step_write, BehindWrite]
  have hbehind : ∀ (q : ℕ) (p : Prop) [Decidable p] (rest' : List Bool), (q < 44 ↔ p) →
      (runCalls (step false) ⟨true, q, rest'⟩ (List.replicate left .write) ≠ .error .second ↔
        false ∉ rest'.take (tells p left)) := by
    intro q p _ rest' hq
    have hends : q < 44 ∨ false = true ↔ p := by simpa using hq
    rw [failed_writes rfl, tells_congr hends]
  by_cases htwo : i = 2
  · subst htwo
    rw [if_pos rfl]
    have huntold : ∀ {j rest'}, j < 4 → rest = List.replicate j true ++ false :: rest' →
        ((write false ⟨false, 44, [true, true, false] ++ rest⟩).bind (fun l =>
            runCalls (step false) l (List.replicate left .write)) ≠ .error .second ↔
          false ∉ rest'.take (tells (0 < j) left)) := by
      rintro j rest' hj rfl
      obtain ⟨q, hq, heq⟩ := write_untold hj rest'
      rw [heq, ok_bind, hbehind q (0 < j) rest' hq]
    have hunsought : false ∉ rest.take 4 →
        ((write false ⟨false, 44, [true, true, false] ++ rest⟩).bind (fun l =>
            runCalls (step false) l (List.replicate left .write)) ≠ .error .second ↔
          false ∉ (rest.drop 4).take left) := by
      intro hclear
      have hnever := hbehind 44 False (rest.drop 4) (by simp)
      rw [write_unsought hclear, ok_bind, hnever, tells, if_neg not_false]
    refine ⟨fun hne => ⟨fun j rest' hj hrest => (huntold hj hrest).mp hne, fun hclear =>
      (hunsought hclear).mp hne⟩, fun hall => ?_⟩
    by_cases hclear : false ∈ rest.take 4
    · obtain ⟨j, hj, rest', hrest⟩ := exists_first_false hclear
      exact (huntold hj hrest).mpr (hall.1 j rest' hj hrest)
    · exact (hunsought hclear).mpr (hall.2 hclear)
  · rw [if_neg htwo]
    obtain ⟨q, hq, heq⟩ := write_fails hi htwo rest
    rw [heq, ok_bind, hbehind q _ rest hq]

/-- Headers and writes, one of whose calls fails first. -/
theorem behindFailure_iff {headers : ℕ} (hheaders : 2 ≤ headers) (n k : ℕ) (rest : List Bool) :
    runCalls (step noBlock) ⟨false, 0, List.replicate k true ++ false :: rest⟩
        (List.replicate headers .header ++ List.replicate n .write) ≠ .error .second ↔
      BehindFailure headers n noBlock k rest := by
  rw [BehindFailure]
  by_cases hin : k < 7 * headers
  · -- in the header `k / 7`, at its call `k % 7`
    obtain ⟨left, hleft⟩ : ∃ left, headers = k / 7 + (left + 1) := ⟨headers - 1 - k / 7, by omega⟩
    have hle : 7 * (k / 7) ≤ k := Nat.mul_div_le k 7
    have hrest : k - 7 * (k / 7) = k % 7 := by omega
    rw [if_pos hin, hleft, List.replicate_add, List.append_assoc,
      clear_headers (notMem_take_replicate hle rest), drop_replicate_append hle, hrest,
      List.replicate_succ, List.cons_append, runCalls_cons, step_header]
    obtain ⟨q, hq, heq⟩ := header_fails (Nat.mod_lt k (by decide)) false
      (if k / 7 = 0 then 0 else 44) rest
    have hends : left = 0 ∧ q < 44 ∨ noBlock = true ↔
        7 * (k / 7 + (left + 1) - 1) < k ∨ noBlock = true := by
      -- the last header is not the first one
      refine or_congr_left ?_
      rw [hq]
      split <;> omega
    have hcount : k / 7 + (left + 1) - 1 - k / 7 = left := by omega
    rw [heq, setError_of_clean rfl, ok_bind, failed_headers rfl, tells_congr hends, hcount]
  rw [if_neg hin, clear_headers (notMem_take_replicate (by omega) rest),
    drop_replicate_append (by omega), if_neg (by omega : headers ≠ 0)]
  cases noBlock with
  | true =>
      rw [if_pos rfl]
      cases n with
      | zero => exact iff_of_true (by simp [runCalls]) fun _ => by simp
      | succ n =>
          rw [List.replicate_succ, runCalls_cons]
          rcases Nat.eq_zero_or_pos (k - 7 * headers) with hlast | hbehind
          · -- the first `wav_tell` fails, and the second one ends the program
            have hends : 44 < 44 ∨ true = true ↔ True := by simp
            rw [hlast]
            show ((Except.ok (Latch.mk true 44 rest)).bind _) ≠ _ ↔ _
            rw [ok_bind, failed_writes rfl, tells_congr hends, tells, if_pos trivial]
            exact ⟨fun hall _ => hall, fun hall => hall (by omega)⟩
          · obtain ⟨j, hj⟩ : ∃ j, k - 7 * headers = j + 1 := ⟨k - 7 * headers - 1, by omega⟩
            rw [hj, List.replicate_succ]
            refine iff_of_true ?_ fun hk => by omega
            show (Except.error Halt.other : Except Halt Latch) ≠ _
            simp
  | false =>
      rw [if_neg (by decide)]
      rcases Nat.lt_or_ge ((k - 7 * headers) / 8) n with hwrite | hall
      · -- in the write `(k - 7 * headers) / 8`, at its call `(k - 7 * headers) % 8`
        obtain ⟨left, hleft⟩ : ∃ left, n = (k - 7 * headers) / 8 + (left + 1) :=
          ⟨n - 1 - (k - 7 * headers) / 8, by omega⟩
        have hle : 8 * ((k - 7 * headers) / 8) ≤ k - 7 * headers := Nat.mul_div_le _ 8
        have hrest : k - 7 * headers - 8 * ((k - 7 * headers) / 8) = (k - 7 * headers) % 8 := by
          omega
        have hcount : (k - 7 * headers) / 8 + (left + 1) - 1 - (k - 7 * headers) / 8 = left := by
          omega
        rw [hleft, List.replicate_add, clear_writes (notMem_take_replicate hle rest),
          drop_replicate_append hle, hrest, hcount]
        exact behindWrite_iff (Nat.mod_lt _ (by decide)) left rest
      · -- the writes are over before
        have hnone : n - 1 - (k - 7 * headers) / 8 = 0 := by omega
        have hwrites := clear_writes (notMem_take_replicate (k := k - 7 * headers)
          (m := 8 * n) (by omega) rest) []
        rw [List.append_nil] at hwrites
        rw [hwrites, hnone]
        refine iff_of_true (by simp [runCalls]) ?_
        rw [BehindWrite]
        split <;> simp [tells]

/-- No call fails, and no argument is refused. -/
theorem clear_run {headers : ℕ} (hheaders : headers ≠ 0) {o : List Bool} (h : false ∉ o) (n : ℕ) :
    runCalls (step noBlock) ⟨false, 0, o⟩
      (List.replicate headers .header ++ List.replicate n .write) ≠ .error .second := by
  have htake : ∀ {m o'}, o' <:+ o → false ∉ o'.take m := fun hsuffix hmem =>
    h (hsuffix.subset (List.mem_of_mem_take hmem))
  have hsuffix : o.drop (7 * headers) <:+ o := List.drop_suffix _ o
  rw [clear_headers (htake List.suffix_rfl), if_neg hheaders]
  cases noBlock with
  | true =>
      cases n with
      | zero => simp [runCalls]
      | succ n =>
          rw [List.replicate_succ, runCalls_cons]
          rcases hout : o.drop (7 * headers) with - | ⟨_ | _, rest⟩
          · show (Except.error Halt.other : Except Halt Latch) ≠ _
            simp
          · have hmem : false ∈ o.drop (7 * headers) := hout ▸ List.mem_cons_self
            exact absurd (hsuffix.subset hmem) h
          · show (Except.error Halt.other : Except Halt Latch) ≠ _
            simp
  | false =>
      have hwrites := clear_writes (htake hsuffix (m := 8 * n)) []
      rw [List.append_nil] at hwrites
      rw [hwrites]
      simp [runCalls]

end Latch

/-! ### Every session -/

theorem setupSteps_write (set : StreamSettings) : RecorderStep.write ∉ setupSteps set := by
  rw [setupSteps]
  split <;> split <;> split <;> split <;> (try split) <;> decide

theorem setupSteps_count (set : StreamSettings) :
    (RecorderStep.header :: setupSteps set).count .header = setupHeaders set ∧
      (setupSteps set).count .refusal = setupRefusals set := by
  rw [setupSteps, setupHeaders, setupRefusals]
  by_cases hchannels : u16 set.channels < 1
  · rw [if_pos hchannels, if_pos (Or.inl hchannels), if_pos hchannels]
    split <;> split <;> split <;> exact ⟨rfl, rfl⟩
  by_cases htwo : u16 set.channels = 2
  · rw [if_neg hchannels, if_pos htwo, if_pos (Or.inr htwo), if_neg hchannels]
    split <;> split <;> split <;> exact ⟨rfl, rfl⟩
  · rw [if_neg hchannels, if_neg htwo, if_neg (not_or.mpr ⟨hchannels, htwo⟩), if_neg hchannels]
    split <;> split <;> split <;> exact ⟨rfl, rfl⟩

/-- Without a refused argument there is a header behind that of `wav_open`. -/
theorem two_le_setupHeaders {set : StreamSettings} (h : setupRefusals set = 0) :
    2 ≤ setupHeaders set := by
  have hsample : ¬ sampleBytes set.bitDepth < 1 := by
    intro hsample
    rw [setupRefusals, if_pos hsample] at h
    omega
  rw [setupHeaders, if_neg hsample]
  omega

/-- The latch of a session whose file has been opened. -/
theorem latch_bearable_iff {set : StreamSettings} {outcomes : List Bool}
    (h : outcomes.head? ≠ some false) (n : ℕ) :
    runCalls (Latch.step (noBlock set)) ⟨false, 0, outcomes.tail⟩
        (.header :: setupSteps set ++ List.replicate n .write) ≠ .error .second ↔
      Bearable set n outcomes := by
  obtain ⟨hheaders, hrefusals⟩ := setupSteps_count set
  have hwrite : RecorderStep.write ∉ RecorderStep.header :: setupSteps set := by
    simpa using setupSteps_write set
  have hcount : (RecorderStep.header :: setupSteps set).count .refusal = setupRefusals set :=
    (List.count_cons_of_ne (by decide)).trans hrefusals
  rcases Nat.lt_or_ge 1 (setupRefusals set) with htwo | hone
  · -- two arguments are refused
    have hsecond := @Latch.refused_twice ⟨false, 0, outcomes.tail⟩ (noBlock set) _ hwrite
      (by rw [hcount]; exact le_add_left htwo) (List.replicate n .write)
    exact iff_of_false (fun hne => hne hsecond) fun hall => by
      have hle := hall.refused
      omega
  obtain hrefused | hrefused : setupRefusals set = 1 ∨ setupRefusals set = 0 := by omega
  · have honce := @Latch.refused_once ⟨false, 0, outcomes.tail⟩ (noBlock set) _ hwrite rfl
      (Or.inr rfl) (hcount.trans hrefused) n
    rw [hheaders] at honce
    rw [honce]
    refine ⟨fun hclear => ⟨h, hone, fun _ => hclear, fun hzero => ?_⟩, fun hall =>
      hall.behindRefusal hrefused⟩
    omega
  · have hnone := List.count_eq_zero.mp (hcount.trans hrefused)
    have hfailure := @Latch.behindFailure_iff (noBlock set) _ (two_le_setupHeaders hrefused) n
    rw [Latch.headers_only hwrite hnone, hheaders]
    constructor
    · refine fun hne => ⟨h, hone, fun hone' => ?_, fun _ k rest hrest => ?_⟩
      · omega
      · exact (hfailure k rest).mp (hrest ▸ hne)
    · intro hall
      by_cases hmem : false ∈ outcomes.tail
      · rw [← List.take_length (l := outcomes.tail)] at hmem
        obtain ⟨k, -, rest, hrest⟩ := exists_first_false hmem
        rw [hrest]
        exact (hfailure k rest).mpr (hall.behindFailure hrefused k rest hrest)
      · have htwo := two_le_setupHeaders hrefused
        exact Latch.clear_run (by omega) hmem n

/-- Setting up a recorder and writing the fragments. -/
def recordSession (outcomes : List Bool) (set : StreamSettings) (fragments : List (Bytes × ℕ)) :
    Except WavFault WavRecorder :=
  (WavRecorder.setupWavRecorder outcomes set).bind fun fp =>
    runCalls WavRecorder.call fp (fragments.map fun p => .write p.1 p.2)

/-- `fopen` fails: the first setter sets a second error. -/
theorem recordSession_noFile (rest : List Bool) (set : StreamSettings)
    (fragments : List (Bytes × ℕ)) :
    recordSession (false :: rest) set fragments = .error .errPending := rfl

/-- No fault of the error handling, whatever fails, and a file that cannot be
opened is reported by `setup_wav_recorder` and makes the listener leave. -/
structure RecorderSafe (res : ℤ) (outcomes : List Bool) (set : StreamSettings)
    (fragments : List (Bytes × ℕ)) : Prop where
  avoids : Avoids WavFault.Fatal (recordSession outcomes set fragments)
  reported : outcomes.head? = some false →
    ∃ fp, WavRecorder.setupWavRecorderRc true outcomes set = .ok (-1, fp) ∧
      WavRecorder.openRecording res true outcomes set = .ok (true, fp)

/-- **Failing calls of the recorder.**  The file is opened, and there is no
second error. -/
theorem recorder_safe_iff (res : ℤ) (outcomes : List Bool) (set : StreamSettings)
    (fragments : List (Bytes × ℕ)) :
    RecorderSafe res outcomes set fragments ↔ Bearable set (writes fragments) outcomes := by
  by_cases hfile : outcomes.head? = some false
  · obtain ⟨rest, rfl⟩ := List.head?_eq_some_iff.mp hfile
    refine iff_of_false (fun h => ?_) fun h => h.opened hfile
    exact h.avoids _ (recordSession_noFile rest set fragments) (Or.inl rfl)
  rw [← latch_bearable_iff hfile, runCalls_append]
  have hmirrors : Mirrors (setupWavRecorder set).format (recordSession outcomes set fragments) _ :=
    Mirrors.bind (latched_setup hfile set (noBlock set)) fun s l hs => latched_writes hs fragments
  refine Iff.trans ⟨fun h => h.avoids, fun h => ⟨h, fun hno => absurd hno hfile⟩⟩ ?_
  exact hmirrors.avoids_iff

/-- The file cannot be opened. -/
theorem recorder_safe_noFile :
    ¬ ∀ res outcomes set fragments, RecorderSafe res outcomes set fragments := by
  intro h
  exact (h 0 [false] monoSettings []).avoids _ (recordSession_noFile [] monoSettings [])
    (Or.inl rfl)

-- two calls fail behind the first header
example : recordSession (List.replicate 7 true ++ [true, false, false]) monoSettings []
    = .error .errPending := by
  decide +kernel

end Tram
