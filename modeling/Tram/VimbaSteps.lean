/-
Tram/VimbaSteps.lean

What one step of the threads can do.

`VimbaCase` lists the steps with their guards and the states they leave; the
two puts are split by whether the queue had room.  Along the way the frames of
a camera only move: from the callback into the queue, and from the queue into
the video (`framesOf_run`).
-/
import Tram.Vimba

namespace Tram

variable {ι : Type*} {cfg : VimbaConfig}

/-- Whether the queue has room for another entry. -/
def VimbaState.HasRoom (s : VimbaState ι) : Prop := s.queue.items.length < frameQueueSize

instance (s : VimbaState ι) : Decidable s.HasRoom := inferInstanceAs (Decidable (_ < _))

theorem hasRoom_iff {s : VimbaState ι} : s.HasRoom ↔ s.queue.full = false := by
  rw [← Bool.not_eq_true, BoundedQueue.full_iff, not_not]
  rfl

/-- No callback is under way for a camera that does not stream. -/
def CallbacksStream (s : VimbaState ι) : Prop :=
  ∀ i, (s.grabber i).phase ≠ .streaming → (s.grabber i).callback = .idle

theorem CallbacksStream.streaming {s : VimbaState ι} (h : CallbacksStream s) {i : ι}
    (hbusy : (s.grabber i).callback ≠ .idle) : (s.grabber i).phase = .streaming := by
  by_contra hphase
  exact hbusy (h i hphase)

variable [DecidableEq ι]

/-! ### The fields after an update -/

@[simp] theorem setGrabber_queue (s : VimbaState ι) (i : ι) (g : Grabber) :
    (s.setGrabber i g).queue = s.queue := rfl

@[simp] theorem setGrabber_displayer (s : VimbaState ι) (i : ι) (g : Grabber) :
    (s.setGrabber i g).displayer = s.displayer := rfl

@[simp] theorem setGrabber_alive (s : VimbaState ι) (i : ι) (g : Grabber) :
    (s.setGrabber i g).alive = s.alive := rfl

@[simp] theorem setGrabber_video (s : VimbaState ι) (i : ι) (g : Grabber) :
    (s.setGrabber i g).video = s.video := rfl

@[simp] theorem setGrabber_grabber_self (s : VimbaState ι) (i : ι) (g : Grabber) :
    (s.setGrabber i g).grabber i = g := by
  rw [VimbaState.setGrabber]
  exact Function.update_self i g s.grabber

theorem setGrabber_grabber_ne (s : VimbaState ι) {i j : ι} (g : Grabber) (h : j ≠ i) :
    (s.setGrabber i g).grabber j = s.grabber j := by
  rw [VimbaState.setGrabber]
  exact Function.update_of_ne h g s.grabber

@[simp] theorem handleEntry_queue (s : VimbaState ι) (visible : Bool) (i : ι) (e : Option Frame) :
    (s.handleEntry cfg visible i e).queue = s.queue := by
  rcases e with - | frame
  · rfl
  · rw [VimbaState.handleEntry]
    split <;> rfl

@[simp] theorem handleEntry_displayer (s : VimbaState ι) (visible : Bool) (i : ι)
    (e : Option Frame) : (s.handleEntry cfg visible i e).displayer = s.displayer := by
  rcases e with - | frame
  · rfl
  · rw [VimbaState.handleEntry]
    split <;> rfl

@[simp] theorem handleEntry_grabber (s : VimbaState ι) (visible : Bool) (i : ι)
    (e : Option Frame) : (s.handleEntry cfg visible i e).grabber = s.grabber := by
  rcases e with - | frame
  · rfl
  · rw [VimbaState.handleEntry]
    split <;> rfl

/-- Without windows only an end entry clears `alive`. -/
theorem handleEntry_alive (hstealth : cfg.stealth = true) (s : VimbaState ι) (visible : Bool)
    (i : ι) (e : Option Frame) :
    (s.handleEntry cfg visible i e).alive = (s.alive && e.isSome) := by
  rcases e with - | frame
  · show false = (s.alive && false)
    rw [Bool.and_false]
  · rw [VimbaState.handleEntry, hstealth]
    split <;> simp

/-- With videos every frame is written to the video of its camera. -/
theorem handleEntry_video (hrec : cfg.recording = true) (s : VimbaState ι) (visible : Bool)
    (i j : ι) (e : Option Frame) :
    (s.handleEntry cfg visible i e).video j
      = s.video j ++ (if i = j then e else none).toList := by
  rcases e with - | frame
  · show s.video j = s.video j ++ (if i = j then none else none).toList
    simp
  · rw [VimbaState.handleEntry, hrec, Bool.or_true, if_pos rfl]
    show Function.update s.video i (s.video i ++ [frame]) j = _
    by_cases hij : i = j
    · subst hij
      simp
    · rw [Function.update_of_ne (Ne.symm hij), if_neg hij]
      simp

/-! ### The steps -/

/-- The ways a step of the threads goes. -/
inductive VimbaCase (cfg : VimbaConfig) (s : VimbaState ι) : VimbaLabel ι → VimbaState ι → Prop
  | startStreaming {i} : (s.grabber i).phase = .starting →
      VimbaCase cfg s (.startStreaming i)
        (s.setGrabber i { s.grabber i with phase := .streaming })
  | cameraError {i} : (s.grabber i).phase = .starting →
      VimbaCase cfg s (.cameraError i) (s.setGrabber i { s.grabber i with phase := .stopped })
  | stopStreaming {i} : (s.grabber i).phase = .streaming → (s.grabber i).callback = .idle →
      (cfg.timed = true ∨ s.displayer = .returned) →
      VimbaCase cfg s (.stopStreaming i) (s.setGrabber i { s.grabber i with phase := .stopped })
  | sentinelPut {i queue} : (s.grabber i).phase = .stopped → s.HasRoom →
      queue.items = s.queue.items ++ [(i, none)] →
      VimbaCase cfg s (.putSentinel i)
        ({ s with queue }.setGrabber i { s.grabber i with phase := .finished })
  | sentinelLost {i} : (s.grabber i).phase = .stopped → ¬ s.HasRoom →
      VimbaCase cfg s (.putSentinel i) (s.setGrabber i { s.grabber i with phase := .finished })
  | call {i frame localTime} : (s.grabber i).phase = .streaming →
      (s.grabber i).callback = .idle →
      VimbaCase cfg s (.call i frame localTime)
        (s.setGrabber i ((s.grabber i).call frame localTime))
  | testFull {i frame localTime} : (s.grabber i).callback = .checking frame localTime →
      VimbaCase cfg s (.testFull i) (s.setGrabber i { s.grabber i with
        callback := if s.HasRoom then .putting frame localTime else .storing frame localTime })
  | framePut {i frame localTime queue} : (s.grabber i).callback = .putting frame localTime →
      s.HasRoom → queue.items = s.queue.items ++ [(i, some frame)] →
      VimbaCase cfg s (.putFrame i)
        ({ s with queue }.setGrabber i { s.grabber i with callback := .storing frame localTime })
  | frameLost {i frame localTime} : (s.grabber i).callback = .putting frame localTime →
      ¬ s.HasRoom →
      VimbaCase cfg s (.putFrame i)
        (s.setGrabber i { s.grabber i with callback := .storing frame localTime })
  | storeStats {i frame localTime} : (s.grabber i).callback = .storing frame localTime →
      VimbaCase cfg s (.storeStats i)
        (s.setGrabber i ((s.grabber i).storeStats cfg frame localTime))
  | readSize : s.displayer = .top → s.alive = true →
      VimbaCase cfg s .readSize { s with displayer := .batch s.queue.items.length }
  | getNothing {visible n} : s.displayer = .batch (n + 1) → s.queue.items = [] →
      VimbaCase cfg s (.getFrame visible) { s with displayer := .top }
  | getEntry {visible n i e queue} : s.displayer = .batch (n + 1) →
      s.queue.items = (i, e) :: queue.items →
      VimbaCase cfg s (.getFrame visible)
        ({ s with queue, displayer := .batch n }.handleEntry cfg visible i e)
  | endBatch : s.displayer = .batch 0 → VimbaCase cfg s .endBatch { s with displayer := .top }
  | leaveLoop : s.displayer = .top → s.alive = false →
      VimbaCase cfg s .leaveLoop { s with displayer := .returned }

/-- Every step is one of the listed cases. -/
theorem vimbaNext_cases {s s' : VimbaState ι} {l : VimbaLabel ι}
    (h : vimbaNext cfg s l = some s') : VimbaCase cfg s l s' := by
  cases l with
  | startStreaming i =>
      simp only [vimbaNext, Option.ite_none_right_eq_some, Option.some.injEq] at h
      obtain ⟨hphase, rfl⟩ := h
      exact .startStreaming hphase
  | cameraError i =>
      simp only [vimbaNext, Option.ite_none_right_eq_some, Option.some.injEq] at h
      obtain ⟨hphase, rfl⟩ := h
      exact .cameraError hphase
  | stopStreaming i =>
      simp only [vimbaNext, Option.ite_none_right_eq_some, Option.some.injEq] at h
      obtain ⟨⟨hphase, hidle, hwhy⟩, rfl⟩ := h
      exact .stopStreaming hphase hidle hwhy
  | putSentinel i =>
      simp only [vimbaNext, Option.ite_none_right_eq_some, Option.some.injEq] at h
      obtain ⟨hphase, rfl⟩ := h
      rcases tryPutFrame_cases s i none with ⟨hroom, queue, hput, hitems⟩ | ⟨hfull, hput⟩
      · rw [hput]
        exact .sentinelPut hphase hroom hitems
      · rw [hput]
        exact .sentinelLost hphase hfull
  | call i frame localTime =>
      simp only [vimbaNext, Option.ite_none_right_eq_some, Option.some.injEq] at h
      obtain ⟨⟨hphase, hidle⟩, rfl⟩ := h
      exact .call hphase hidle
  | testFull i =>
      simp only [vimbaNext] at h
      split at h
      · rename_i frame localTime hcall
        obtain rfl := Option.some.inj h
        have hbranch : (if s.queue.full = true then Callback.storing frame localTime
            else .putting frame localTime)
              = if s.HasRoom then .putting frame localTime else .storing frame localTime := by
          by_cases hroom : s.HasRoom
          · rw [if_pos hroom, hasRoom_iff.mp hroom]
            rfl
          · have hfull : s.queue.full = true := BoundedQueue.full_iff.mpr hroom
            rw [if_neg hroom, hfull, if_pos rfl]
        rw [hbranch]
        exact .testFull hcall
      · cases h
  | putFrame i =>
      simp only [vimbaNext] at h
      split at h
      · rename_i frame localTime hcall
        obtain rfl := Option.some.inj h
        rcases tryPutFrame_cases s i (some frame) with ⟨hroom, queue, hput, hitems⟩ | ⟨hfull, hput⟩
        · rw [hput]
          exact .framePut hcall hroom hitems
        · rw [hput]
          exact .frameLost hcall hfull
      · cases h
  | storeStats i =>
      simp only [vimbaNext] at h
      split at h
      · rename_i frame localTime hcall
        obtain rfl := Option.some.inj h
        exact .storeStats hcall
      · cases h
  | readSize =>
      simp only [vimbaNext, Option.ite_none_right_eq_some, Option.some.injEq] at h
      obtain ⟨⟨htop, halive⟩, rfl⟩ := h
      exact .readSize htop halive
  | getFrame visible =>
      simp only [vimbaNext] at h
      split at h
      · rename_i n hbatch
        split at h
        · rename_i hnone
          obtain rfl := Option.some.inj h
          exact .getNothing hbatch (BoundedQueue.getNowait_none hnone)
        · rename_i i e queue hget
          obtain rfl := Option.some.inj h
          exact .getEntry hbatch (BoundedQueue.getNowait_some hget)
      · cases h
  | endBatch =>
      simp only [vimbaNext, Option.ite_none_right_eq_some, Option.some.injEq] at h
      obtain ⟨hbatch, rfl⟩ := h
      exact .endBatch hbatch
  | leaveLoop =>
      simp only [vimbaNext, Option.ite_none_right_eq_some, Option.some.injEq] at h
      obtain ⟨⟨htop, hdead⟩, rfl⟩ := h
      exact .leaveLoop htop hdead

/-! ### Callbacks -/

theorem CallbacksStream.setGrabber {s : VimbaState ι} (h : CallbacksStream s) (i : ι) {g : Grabber}
    (hg : g.phase ≠ .streaming → g.callback = .idle) : CallbacksStream (s.setGrabber i g) := by
  intro j
  by_cases hji : j = i
  · subst hji
    rw [setGrabber_grabber_self]
    exact hg
  · rw [setGrabber_grabber_ne s g hji]
    exact h j

theorem Grabber.call_phase (g : Grabber) (frame : Frame) (localTime : ℕ) :
    (g.call frame localTime).phase = g.phase := by
  rw [Grabber.call]
  split
  · rfl
  split <;> rfl

theorem CallbacksStream.step {s s' : VimbaState ι} {l : VimbaLabel ι} (h : CallbacksStream s)
    (hcase : VimbaCase cfg s l s') : CallbacksStream s' := by
  cases hcase with
  | startStreaming => exact h.setGrabber _ fun hphase => absurd rfl hphase
  | @cameraError i hphase => exact h.setGrabber i fun _ => h i (by rw [hphase]; nofun)
  | stopStreaming _ hidle => exact h.setGrabber _ fun _ => hidle
  | @sentinelPut i queue hphase =>
      exact CallbacksStream.setGrabber (s := { s with queue }) h i
        fun _ => h i (by rw [hphase]; nofun)
  | @sentinelLost i hphase => exact h.setGrabber i fun _ => h i (by rw [hphase]; nofun)
  | @call i frame localTime hphase =>
      exact h.setGrabber i fun hne => absurd ((Grabber.call_phase _ _ _).trans hphase) hne
  | @testFull i _ _ hcall | @frameLost i _ _ hcall =>
      exact h.setGrabber i fun hne => absurd (h.streaming (by rw [hcall]; nofun)) hne
  | @framePut i _ _ queue hcall =>
      exact CallbacksStream.setGrabber (s := { s with queue }) h i
        fun hne => absurd (h.streaming (by rw [hcall]; nofun)) hne
  | storeStats => exact h.setGrabber _ fun _ => rfl
  | readSize | getNothing | endBatch | leaveLoop => exact h
  | getEntry =>
      intro j
      rw [handleEntry_grabber]
      exact h j

theorem callbacksStream_run {tr : List (VimbaState ι × VimbaLabel ι)} {s : VimbaState ι}
    (hrun : (vimbaperf ι cfg).Run tr s) : CallbacksStream s := by
  refine hrun.invariant_of_step ?_ fun s l s' h hstep => h.step (vimbaNext_cases hstep)
  rintro s rfl
  intro i _
  rfl

/-! ### The frames of a camera -/

/-- The frames of a camera among queue entries. -/
def queuedOf (j : ι) (items : List (ι × Option Frame)) : List Frame :=
  items.filterMap fun e => if e.1 = j then e.2 else none

@[simp] theorem queuedOf_append (j : ι) (items items' : List (ι × Option Frame)) :
    queuedOf j (items ++ items') = queuedOf j items ++ queuedOf j items' := List.filterMap_append

theorem queuedOf_cons (j i : ι) (e : Option Frame) (items : List (ι × Option Frame)) :
    queuedOf j ((i, e) :: items) = (if i = j then e else none).toList ++ queuedOf j items := by
  by_cases hij : i = j <;> rcases e with - | frame <;> simp [queuedOf, hij]

theorem queuedOf_singleton (j i : ι) (e : Option Frame) :
    queuedOf j [(i, e)] = (if i = j then e else none).toList := by
  rw [queuedOf_cons]
  exact List.append_nil _

/-- The frames of a camera that got into the queue: those written, then those
still queued. -/
def framesOf (s : VimbaState ι) (j : ι) : List Frame := s.video j ++ queuedOf j s.queue.items

/-- The frame of camera `j` that a step puts into the queue. -/
def puts (s : VimbaState ι) (l : VimbaLabel ι) (j : ι) : Option Frame :=
  match l with
  | .putFrame i =>
      match (s.grabber i).callback with
      | .putting frame _ => if s.HasRoom ∧ i = j then some frame else none
      | _ => none
  | _ => none

/-- The frames of camera `j` put into the queue in a run, in order. -/
def queuedFrames (j : ι) (tr : List (VimbaState ι × VimbaLabel ι)) : List Frame :=
  tr.filterMap fun p => puts p.1 p.2 j

/-- A step adds the frame it puts, and loses none. -/
theorem framesOf_step (hrec : cfg.recording = true) {s s' : VimbaState ι} {l : VimbaLabel ι}
    (h : VimbaCase cfg s l s') (j : ι) :
    framesOf s' j = framesOf s j ++ (puts s l j).toList := by
  cases h with
  | startStreaming | cameraError | stopStreaming | sentinelLost | call | testFull | storeStats
  | readSize | getNothing | endBatch | leaveLoop =>
      show framesOf s j = framesOf s j ++ []
      rw [List.append_nil]
  | @sentinelPut i queue _ _ hitems =>
      simp [framesOf, puts, hitems, queuedOf_singleton]
  | @framePut i frame localTime queue hcall hroom hitems =>
      simp [framesOf, puts, hcall, hroom, hitems, queuedOf_singleton]
  | frameLost hcall hfull =>
      simp [framesOf, puts, hcall, hfull]
  | @getEntry visible n i e queue _ hitems =>
      -- the entry moves from the head of the queue to the end of its video
      simp [framesOf, puts, handleEntry_video hrec, hitems, queuedOf_cons]

/-- **Frames only move.**  In every reachable state the frames of a camera in
its video, followed by those in the queue, are the frames put so far, in the
order of the puts. -/
theorem framesOf_run (hrec : cfg.recording = true) {tr : List (VimbaState ι × VimbaLabel ι)}
    {s : VimbaState ι} (hrun : (vimbaperf ι cfg).Run tr s) (j : ι) :
    framesOf s j = queuedFrames j tr := by
  induction hrun with
  | start h =>
      obtain rfl := h
      rfl
  | @next tr s l s' _ hstep ih =>
      rw [framesOf_step hrec (vimbaNext_cases hstep) j, ih, queuedFrames, queuedFrames,
        List.filterMap_append]
      rcases hput : puts s l j with - | frame <;> simp [hput]

/-- A camera puts frames only while it streams, so before its end entry. -/
theorem puts_streaming {tr : List (VimbaState ι × VimbaLabel ι)} {s : VimbaState ι}
    (hrun : (vimbaperf ι cfg).Run tr s) {l : VimbaLabel ι} {j : ι} {frame : Frame}
    (h : puts s l j = some frame) : (s.grabber j).phase = .streaming := by
  simp only [puts] at h
  split at h
  · rename_i i
    split at h
    · rename_i hcall
      obtain ⟨⟨-, rfl⟩, -⟩ := Option.ite_none_right_eq_some.mp h
      exact (callbacksStream_run hrun).streaming (by rw [hcall]; nofun)
    · cases h
  · cases h

/-! ### Two cameras -/

/-- No windows, videos and a time limit. -/
def pairConfig : VimbaConfig := ⟨true, true, true⟩

/-- The two cameras `true` and `false` start, each with the frame that is
ignored. -/
def startSteps : List (VimbaLabel Bool) :=
  [.startStreaming true, .call true ⟨true, 1, 0⟩ 1, .startStreaming false,
    .call false ⟨true, 1, 0⟩ 1]

/-- A frame of camera `i` with stamp `t` goes into the queue. -/
def frameSteps (i : Bool) (t : ℕ) : List (VimbaLabel Bool) :=
  [.call i ⟨true, t, 0⟩ t, .testFull i, .putFrame i, .storeStats i]

/-- Camera `i` comes to its time limit. -/
def stopSteps (i : Bool) : List (VimbaLabel Bool) := [.stopStreaming i, .putSentinel i]

/-- The displayer handles a batch of `n` entries. -/
def batchSteps (n : ℕ) : List (VimbaLabel Bool) :=
  .readSize :: List.replicate n (.getFrame true) ++ [.endBatch]

end Tram
