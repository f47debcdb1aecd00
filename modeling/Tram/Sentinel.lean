/-
Tram/Sentinel.lean

How the recording ends: a grabber that is done puts a `None` entry, and the
displayer leaves its loop after taking one.

The final put ignores a full queue like every other put, so the entry can be
lost.  Whether the displayer is going to stop is then a matter of history:
`Stopping` holds in a state exactly when some earlier step put such an entry
into a queue with room, or saw a closed window (`stopping_iff`).
-/
import Tram.VimbaSteps

namespace Tram

variable {ι : Type*} {cfg : VimbaConfig}

/-! ### The condition on a step -/

/-- The displayer has an end entry before it, or has seen its reason to stop. -/
def Stopping (s : VimbaState ι) : Prop :=
  (∃ i, (i, none) ∈ s.queue.items) ∨ s.alive = false

/-- A step after which the displayer is going to stop: a final put that finds
room, or a frame handled while its window is closed. -/
def EndsRecording (cfg : VimbaConfig) (s : VimbaState ι) : VimbaLabel ι → Prop
  | .putSentinel _ => s.queue.items.length < frameQueueSize
  | .getFrame visible => cfg.stealth = false ∧ visible = false ∧
      ∃ i frame, s.queue.items.head? = some (i, some frame)
  | _ => False

/-- Every grabber thread has finished `run`, and the displayer is in its loop. -/
def Waiting (s : VimbaState ι) : Prop :=
  (∀ i, (s.grabber i).phase = .finished) ∧ s.displayer ≠ .returned

/-! ### One step -/

theorem stopping_congr {s s' : VimbaState ι} (hqueue : s'.queue = s.queue)
    (halive : s'.alive = s.alive) : Stopping s' ↔ Stopping s := by
  rw [Stopping, Stopping, hqueue, halive]

/-- An entry appended to the queue: the displayer is going to stop if it was,
or if this is an end entry. -/
theorem stopping_put {s s' : VimbaState ι} {i : ι} {frame : Option Frame}
    (hitems : s'.queue.items = s.queue.items ++ [(i, frame)]) (halive : s'.alive = s.alive) :
    Stopping s' ↔ Stopping s ∨ frame = none := by
  have hmem : (∃ j, (j, none) ∈ s'.queue.items) ↔
      (∃ j, (j, none) ∈ s.queue.items) ∨ frame = none := by
    constructor
    · rintro ⟨j, hj⟩
      rw [hitems, List.mem_append, List.mem_singleton] at hj
      rcases hj with hj | hj
      · exact Or.inl ⟨j, hj⟩
      · exact Or.inr (Prod.mk.inj hj).2.symm
    · rintro (⟨j, hj⟩ | rfl)
      · exact ⟨j, hitems ▸ List.mem_append_left _ hj⟩
      · exact ⟨i, hitems ▸ List.mem_append_right _ (List.mem_singleton_self _)⟩
  rw [Stopping, Stopping, hmem, halive]
  tauto

variable [DecidableEq ι]

/-- Taking an entry of a frame. -/
theorem stopping_handleFrame {s : VimbaState ι} {i : ι} {frame : Frame} {n : ℕ}
    {queue : BoundedQueue (ι × Option Frame) frameQueueSize} (visible : Bool)
    (hitems : s.queue.items = (i, some frame) :: queue.items) :
    Stopping ({ s with queue, displayer := .batch n }.handleEntry cfg visible i (some frame)) ↔
      Stopping s ∨ cfg.stealth = false ∧ visible = false := by
  have hmem : (∃ j, (j, none) ∈ s.queue.items) ↔ ∃ j, (j, none) ∈ queue.items := by
    simp [hitems]
  rw [Stopping, Stopping, hmem]
  rcases hs : cfg.stealth with - | - <;> rcases visible with - | - <;>
    rcases hr : cfg.recording with - | - <;> simp [VimbaState.handleEntry, hs, hr]

/-- One step changes whether the displayer is going to stop exactly when it
ends the recording. -/
theorem stopping_step {s s' : VimbaState ι} {l : VimbaLabel ι}
    (h : vimbaNext cfg s l = some s') : Stopping s' ↔ Stopping s ∨ EndsRecording cfg s l := by
  -- most steps touch neither the queue nor `alive`
  have hquiet : ∀ t : VimbaState ι, t.queue = s.queue → t.alive = s.alive →
      (Stopping t ↔ Stopping s ∨ False) := by
    intro t hqueue halive
    rw [or_false, stopping_congr hqueue halive]
  cases vimbaNext_cases h with
  | startStreaming | cameraError | stopStreaming | call | testFull | frameLost | storeStats
  | readSize | endBatch | leaveLoop =>
      exact hquiet _ rfl rfl
  | sentinelPut _ hroom hitems =>
      refine Iff.trans (b := Stopping s ∨ (none : Option Frame) = none) (stopping_put hitems rfl) ?_
      exact or_congr_right (iff_of_true rfl hroom)
  | sentinelLost _ hfull =>
      exact (hquiet _ rfl rfl).trans (or_congr_right (iff_of_false id hfull))
  | @framePut i frame localTime queue _ _ hitems =>
      refine Iff.trans (b := Stopping s ∨ some frame = none) (stopping_put hitems rfl) ?_
      exact or_congr_right (iff_of_false (by simp) id)
  | getNothing _ hempty =>
      refine (hquiet _ rfl rfl).trans (or_congr_right (iff_of_false id ?_))
      rintro ⟨-, -, i, frame, hhead⟩
      simp [hempty] at hhead
  | @getEntry visible n i e queue _ hitems =>
      rcases e with - | frame
      · -- the end entry leaves the queue, and `alive` is cleared
        refine iff_of_true (Or.inr rfl) (Or.inl (Or.inl ⟨i, ?_⟩))
        exact hitems ▸ List.mem_cons_self
      · rw [stopping_handleFrame visible hitems]
        refine or_congr_right ⟨fun ⟨hs, hv⟩ => ⟨hs, hv, i, frame, by simp [hitems]⟩, ?_⟩
        rintro ⟨hs, hv, -⟩
        exact ⟨hs, hv⟩

/-! ### Every run -/

/-- The displayer is going to stop exactly when some step so far ended the
recording. -/
theorem stopping_iff {tr : List (VimbaState ι × VimbaLabel ι)} {s : VimbaState ι}
    (hrun : (vimbaperf ι cfg).Run tr s) :
    Stopping s ↔ ∃ p ∈ tr, EndsRecording cfg p.1 p.2 := by
  induction hrun with
  | start h =>
      obtain rfl := h
      simp [Stopping, vimbaInit, BoundedQueue.empty]
  | @next tr s l s' _ hstep ih =>
      rw [stopping_step hstep, ih]
      simp only [List.mem_append, List.mem_singleton, or_and_right, exists_or, exists_eq_left]

/-- **The end entry.**  In every reachable state in which all grabbers have
finished and the displayer is in its loop, an end entry is queued or `alive`
has been cleared, exactly when some final put of the run found room in the
queue or a window was seen closed. -/
theorem sentinel_kept_iff {tr : List (VimbaState ι × VimbaLabel ι)} {s : VimbaState ι}
    (hrun : (vimbaperf ι cfg).Run tr s) :
    (Waiting s → (∃ i, (i, none) ∈ s.queue.items) ∨ s.alive = false) ↔
      (Waiting s → ∃ p ∈ tr, EndsRecording cfg p.1 p.2) :=
  imp_congr_right fun _ => stopping_iff hrun

/-! ### A camera that outruns the displayer -/

/-- One camera, without windows and with a time limit. -/
def lonelyConfig : VimbaConfig := ⟨true, true, true⟩

/-- The camera is streaming and the displayer has not started yet. -/
def capturing (queue : BoundedQueue (Unit × Option Frame) frameQueueSize) (cam loc : List ℕ) :
    VimbaState Unit where
  queue := queue
  grabber := fun _ => ⟨.streaming, .idle, 1, cam, loc⟩
  displayer := .top
  alive := true
  video := fun _ => []

theorem update_unit {α : Type*} (f : Unit → α) (a : α) : Function.update f () a = fun _ => a :=
  funext fun _ => Function.update_self () a f

/-- What the threads do on given steps is a run. -/
theorem execute_run {tr : List (VimbaState Unit × VimbaLabel Unit)} {s s' : VimbaState Unit}
    (ls : List (VimbaLabel Unit)) (hrun : (vimbaperf Unit lonelyConfig).Run tr s)
    (h : Machine.execute (vimbaNext lonelyConfig) s ls = some s') :
    ∃ tr', (vimbaperf Unit lonelyConfig).Run tr' s' := by
  obtain ⟨tr', hrun', -⟩ := Machine.Run.execute (fun _ _ _ hstep => hstep) hrun h
  exact ⟨_, hrun'⟩

theorem capturing_start :
    ∃ tr, (vimbaperf Unit lonelyConfig).Run tr (capturing .empty [] []) := by
  refine execute_run [.startStreaming (), .call () ⟨true, 1, 0⟩ 1] (Machine.Run.start rfl) ?_
  simp [Machine.execute, vimbaNext, vimbaInit, VimbaState.setGrabber, update_unit, Grabber.call,
    capturing]

/-- One more frame, while there is room. -/
theorem capturing_frame {tr : List (VimbaState Unit × VimbaLabel Unit)}
    {queue : BoundedQueue (Unit × Option Frame) frameQueueSize} {cam loc : List ℕ}
    (hrun : (vimbaperf Unit lonelyConfig).Run tr (capturing queue cam loc))
    (hroom : queue.items.length < frameQueueSize) :
    ∃ tr' queue' cam' loc', (vimbaperf Unit lonelyConfig).Run tr' (capturing queue' cam' loc') ∧
      queue'.items = queue.items ++ [((), some ⟨true, 2, 0⟩)] := by
  obtain ⟨queue', hput, hitems⟩ := BoundedQueue.putNowait_of_room ((), some ⟨true, 2, 0⟩) hroom
  have hfull : queue.full = false := by
    rw [← Bool.not_eq_true, BoundedQueue.full_iff, not_not]
    exact hroom
  have hexec : Machine.execute (vimbaNext lonelyConfig) (capturing queue cam loc)
      [.call () ⟨true, 2, 0⟩ 2, .testFull (), .putFrame (), .storeStats ()]
        = some (capturing queue' (cam ++ [2]) (loc ++ [2])) := by
    simp [Machine.execute, vimbaNext, VimbaState.setGrabber, VimbaState.tryPutFrame, update_unit,
      Grabber.call, Grabber.storeStats, capturing, lonelyConfig, hfull, hput]
  obtain ⟨tr', hrun'⟩ := execute_run _ hrun hexec
  exact ⟨tr', queue', _, _, hrun', hitems⟩

/-- The camera fills the queue up to any length within the bound. -/
theorem capturing_fill (n : ℕ) (hn : n ≤ frameQueueSize) :
    ∃ tr queue cam loc, (vimbaperf Unit lonelyConfig).Run tr (capturing queue cam loc) ∧
      queue.items = List.replicate n ((), some ⟨true, 2, 0⟩) := by
  induction n with
  | zero =>
      obtain ⟨tr, hrun⟩ := capturing_start
      exact ⟨tr, .empty, [], [], hrun, rfl⟩
  | succ n ih =>
      obtain ⟨tr, queue, cam, loc, hrun, hitems⟩ := ih (by omega)
      have hlen : queue.items.length = n := by rw [hitems, List.length_replicate]
      obtain ⟨tr', queue', cam', loc', hrun', hitems'⟩ := capturing_frame hrun (by omega)
      refine ⟨tr', queue', cam', loc', hrun', ?_⟩
      rw [hitems', hitems, ← List.replicate_succ']

/-- The camera stops on a full queue: its end entry is lost, and the displayer
waits forever. -/
theorem sentinel_kept_fullQueue :
    ¬ ∀ (tr : List (VimbaState Unit × VimbaLabel Unit)) (s : VimbaState Unit),
      (vimbaperf Unit lonelyConfig).Run tr s → Waiting s →
      (∃ i, (i, none) ∈ s.queue.items) ∨ s.alive = false := by
  intro h
  obtain ⟨tr, queue, cam, loc, hrun, hitems⟩ := capturing_fill frameQueueSize (Nat.le_refl _)
  have hfull : queue.putNowait ((), none) = none := by
    refine BoundedQueue.putNowait_of_full _ ?_
    rw [hitems, List.length_replicate]
    exact Nat.lt_irrefl _
  have hexec : Machine.execute (vimbaNext lonelyConfig) (capturing queue cam loc)
      [.stopStreaming (), .putSentinel ()]
        = some { capturing queue cam loc with grabber := fun _ => ⟨.finished, .idle, 1, cam, loc⟩ } := by
    simp [Machine.execute, vimbaNext, VimbaState.setGrabber, VimbaState.tryPutFrame, update_unit,
      capturing, lonelyConfig, hfull]
  obtain ⟨tr', hrun'⟩ := execute_run _ hrun hexec
  rcases h tr' _ hrun' ⟨fun _ => rfl, by simp [capturing]⟩ with ⟨i, hmem⟩ | hdead
  · have hframes : ((i, none) : Unit × Option Frame) ∈ queue.items := hmem
    rw [hitems, List.mem_replicate] at hframes
    cases hframes.2
  · cases hdead

/-- The camera stops at once: the end entry finds room. -/
theorem sentinel_kept_emptyQueue :
    ∃ (tr : List (VimbaState Unit × VimbaLabel Unit)) (s : VimbaState Unit),
      (vimbaperf Unit lonelyConfig).Run tr s ∧ Waiting s ∧
        ((∃ i, (i, none) ∈ s.queue.items) ∨ s.alive = false) := by
  obtain ⟨tr, hrun⟩ := capturing_start
  obtain ⟨queue, hput, hitems⟩ :=
    @BoundedQueue.putNowait_of_room _ frameQueueSize .empty (((), none) : Unit × Option Frame)
      (by decide)
  have hstop : (vimbaperf Unit lonelyConfig).step (capturing .empty [] []) (.stopStreaming ())
      { capturing .empty [] [] with grabber := fun _ => ⟨.stopped, .idle, 1, [], []⟩ } := by
    simp [vimbaperf, vimbaNext, VimbaState.setGrabber, update_unit, capturing, lonelyConfig]
  have hend : (vimbaperf Unit lonelyConfig).step
      { capturing .empty [] [] with grabber := fun _ => ⟨.stopped, .idle, 1, [], []⟩ }
      (.putSentinel ())
      { capturing queue [] [] with grabber := fun _ => ⟨.finished, .idle, 1, [], []⟩ } := by
    simp [vimbaperf, vimbaNext, VimbaState.setGrabber, VimbaState.tryPutFrame, update_unit,
      capturing, hput]
  have hwait : Waiting { capturing queue [] [] with
      grabber := fun _ => ⟨.finished, .idle, 1, [], []⟩ } := ⟨fun _ => rfl, by simp [capturing]⟩
  refine ⟨_, _, (hrun.next hstop).next hend, hwait, (sentinel_kept_iff
    ((hrun.next hstop).next hend)).mpr (fun _ => ⟨_, List.mem_concat_self, ?_⟩) hwait⟩
  show 0 < frameQueueSize
  decide

end Tram
