/-
Tram/VideoStart.lean

The time stamp in the name of a video (`main` of `vimbaperf`).

`main` names a video by `cam_stamps[0]` of its camera, the stamp of the first
frame recorded in the statistics.  A frame is recorded whether or not it got
into the queue, so this is the stamp of the first frame of the video as long
as the first frame of the camera to get into the queue is also the first one
recorded (`StartsVideo`).

A frame is put before it is recorded.  The invariant therefore counts the
stamp of a frame between the two as recorded already (`stampsDue`).
-/
import Tram.VimbaSteps

namespace Tram

variable {ι : Type*} {cfg : VimbaConfig}

/-! ### The name and the condition -/

/-- `main` has joined all threads. -/
def Joined (s : VimbaState ι) : Prop :=
  s.displayer = .returned ∧ ∀ i, (s.grabber i).phase = .finished

/-- The first frame of every video carries the stamp its name is made of. -/
def NamedByFirst (s : VimbaState ι) : Prop :=
  ∀ i frame rest, s.video i = frame :: rest →
    (s.grabber i).camStamps.head? = some frame.timestamp

/-- The stamp of the frame whose statistics are still to come. -/
def Callback.dueStamp : Callback → List ℕ
  | .storing frame _ => [frame.timestamp]
  | _ => []

/-- The stamps recorded, with the one still to come. -/
def stampsDue (g : Grabber) : List ℕ := g.camStamps ++ g.callback.dueStamp

theorem stampsDue_call {g : Grabber} (frame : Frame) (localTime : ℕ) (h : g.callback = .idle) :
    stampsDue (g.call frame localTime) = stampsDue g := by
  rw [Grabber.call]
  split
  · rfl
  split
  · rfl
  · rw [stampsDue, stampsDue, h]
    rfl

variable [DecidableEq ι]

/-- The step does not put the first frame of a camera into the queue after a
frame of the camera has been recorded. -/
def StartsVideo (s : VimbaState ι) : VimbaLabel ι → Prop
  | .putFrame i => s.HasRoom → framesOf s i = [] → (s.grabber i).camStamps = []
  | _ => True

instance (s : VimbaState ι) : (l : VimbaLabel ι) → Decidable (StartsVideo s l)
  | .putFrame _ => inferInstanceAs (Decidable (_ → _ → _))
  | .startStreaming _ | .cameraError _ | .stopStreaming _ | .putSentinel _ | .call _ _ _
  | .testFull _ | .storeStats _ | .readSize | .getFrame _ | .endBatch | .leaveLoop =>
      inferInstanceAs (Decidable True)

/-! ### The invariant -/

/-- The first frame of a camera to get into the queue is the first one
recorded. -/
def FirstRecorded (s : VimbaState ι) : Prop :=
  ∀ i frame rest, framesOf s i = frame :: rest →
    (stampsDue (s.grabber i)).head? = some frame.timestamp

theorem FirstRecorded.congr {s s' : VimbaState ι} (h : FirstRecorded s)
    (hframes : ∀ j, framesOf s' j = framesOf s j) (hgrabber : s'.grabber = s.grabber) :
    FirstRecorded s' := by
  intro i frame rest hf
  rw [hgrabber]
  rw [hframes] at hf
  exact h i frame rest hf

/-- A step of one grabber that puts nothing may record more stamps behind the
ones it has. -/
theorem FirstRecorded.grab {s : VimbaState ι} (h : FirstRecorded s) {i : ι} {g : Grabber}
    (more : List ℕ) (hdue : stampsDue g = stampsDue (s.grabber i) ++ more) :
    FirstRecorded (s.setGrabber i g) := by
  intro j frame rest hf
  have hfirst := h j frame rest hf
  by_cases hji : j = i
  · subst hji
    rw [setGrabber_grabber_self, hdue, List.head?_append, hfirst]
    rfl
  · rw [setGrabber_grabber_ne s g hji]
    exact hfirst

/-- A put with room: the frame is the first of its camera only if nothing of
the camera has been recorded. -/
theorem FirstRecorded.put {s : VimbaState ι} (h : FirstRecorded s) {i : ι} {frame : Frame}
    {localTime : ℕ} {queue : BoundedQueue (ι × Option Frame) frameQueueSize}
    (hcall : (s.grabber i).callback = .putting frame localTime)
    (hitems : queue.items = s.queue.items ++ [(i, some frame)])
    (hgood : framesOf s i = [] → (s.grabber i).camStamps = []) :
    FirstRecorded ({ s with queue }.setGrabber i
      { s.grabber i with callback := .storing frame localTime }) := by
  have hframes : ∀ (g : Grabber) (j : ι), framesOf ({ s with queue }.setGrabber i g) j
      = framesOf s j ++ (if i = j then some frame else none).toList := by
    intro g j
    simp [framesOf, hitems, queuedOf_singleton]
  intro j f rest hf
  rw [hframes] at hf
  by_cases hji : j = i
  · subst hji
    rw [setGrabber_grabber_self]
    rw [if_pos rfl] at hf
    rcases hold : framesOf s j with - | ⟨f₀, rest₀⟩
    · -- the first frame of the camera, and its stamp is the first one
      rw [hold] at hf
      obtain ⟨rfl, -⟩ := List.cons.inj hf
      simp [stampsDue, Callback.dueStamp, hgood hold]
    · rw [hold] at hf
      obtain ⟨rfl, -⟩ := List.cons.inj hf
      have hfirst := h j f₀ rest₀ hold
      rw [stampsDue, hcall] at hfirst
      have hhead : (s.grabber j).camStamps.head? = some f₀.timestamp := by
        simpa [Callback.dueStamp] using hfirst
      rw [stampsDue, List.head?_append]
      show (s.grabber j).camStamps.head?.or _ = _
      rw [hhead]
      rfl
  · rw [setGrabber_grabber_ne _ _ hji]
    rw [if_neg (Ne.symm hji), Option.toList_none, List.append_nil] at hf
    exact h j f rest hf

/-- One step that starts a video properly keeps the invariant. -/
theorem FirstRecorded.step (hrec : cfg.recording = true) {s s' : VimbaState ι} {l : VimbaLabel ι}
    (h : FirstRecorded s) (hgood : StartsVideo s l) (hcase : VimbaCase cfg s l s') :
    FirstRecorded s' := by
  have hframes := framesOf_step hrec hcase
  have hnil : ∀ g : Grabber, stampsDue g = stampsDue g ++ [] := fun g =>
    (List.append_nil _).symm
  cases hcase with
  | startStreaming | cameraError | stopStreaming | sentinelLost => exact h.grab [] (hnil _)
  | @sentinelPut i queue _ _ hitems =>
      have hqueue : FirstRecorded { s with queue } := by
        refine h.congr (fun j => ?_) rfl
        simp [framesOf, hitems, queuedOf_singleton]
      exact hqueue.grab [] (hnil _)
  | call _ hidle =>
      refine h.grab [] ?_
      rw [stampsDue_call _ _ hidle]
      exact hnil _
  | @testFull i frame localTime hcall =>
      -- a full queue makes the stamp due without a put
      by_cases hroom : s.HasRoom
      · rw [if_pos hroom]
        refine h.grab [] ?_
        simp [stampsDue, Callback.dueStamp, hcall]
      · rw [if_neg hroom]
        refine h.grab [frame.timestamp] ?_
        simp [stampsDue, Callback.dueStamp, hcall]
  | framePut hcall hroom hitems => exact h.put hcall hitems (hgood hroom)
  | @frameLost i frame localTime hcall =>
      refine h.grab [frame.timestamp] ?_
      simp [stampsDue, Callback.dueStamp, hcall]
  | storeStats hcall =>
      refine h.grab [] ?_
      simp [stampsDue, Callback.dueStamp, Grabber.storeStats, hcall]
  | readSize | getNothing | endBatch | leaveLoop => exact h.congr (fun _ => rfl) rfl
  | getEntry =>
      refine h.congr (fun j => ?_) (handleEntry_grabber _ _ _ _)
      rw [hframes j]
      exact List.append_nil _

/-! ### Every run -/

theorem firstRecorded_run (hrec : cfg.recording = true)
    {tr : List (VimbaState ι × VimbaLabel ι)} {s : VimbaState ι}
    (hrun : (vimbaperf ι cfg).Run tr s) (hgood : Machine.All StartsVideo tr) : FirstRecorded s :=
  Machine.Run.invariant
    (by
      rintro s rfl i frame rest hf
      cases hf)
    (fun _ _ _ h hg hstep => h.step hrec hg (vimbaNext_cases hstep)) hrun hgood

/-- **The name of a video.**  In every run that never queues the first frame
of a camera after one of its frames has been recorded, each video `main` finds
written begins with the frame whose stamp names it. -/
theorem video_named_by_first (hrec : cfg.recording = true)
    {tr : List (VimbaState ι × VimbaLabel ι)} {s : VimbaState ι}
    (hrun : (vimbaperf ι cfg).Run tr s) (hgood : Machine.All StartsVideo tr) (hjoin : Joined s) :
    NamedByFirst s := by
  intro i frame rest hvideo
  have hframes : framesOf s i = frame :: (rest ++ queuedOf i s.queue.items) := by
    rw [framesOf, hvideo, List.cons_append]
  have hfirst := firstRecorded_run hrec hrun hgood i _ _ hframes
  -- nothing is due any more once the threads have been joined
  have hidle : (s.grabber i).callback = .idle :=
    callbacksStream_run hrun i (fun hstreaming => by
      rw [hjoin.2 i] at hstreaming
      cases hstreaming)
  rw [stampsDue, hidle] at hfirst
  rwa [← List.append_nil (s.grabber i).camStamps]

/-- Camera `true` fills the queue before the first frame of camera `false`
comes; the second one finds room again. -/
def crowdedSteps : List (VimbaLabel Bool) :=
  startSteps ++ (List.replicate 50 (frameSteps true 2)).flatten
    ++ [.call false ⟨true, 2, 0⟩ 2, .testFull false, .storeStats false]
    ++ batchSteps 50 ++ frameSteps false 3 ++ stopSteps false ++ stopSteps true
    ++ batchSteps 3 ++ [.leaveLoop]

/-- The video is named by a frame that is not in it. -/
theorem video_named_by_first_crowded :
    ¬ ∀ (tr : List (VimbaState Bool × VimbaLabel Bool)) (s : VimbaState Bool),
      (vimbaperf Bool pairConfig).Run tr s → Joined s → NamedByFirst s := by
  intro h
  have hexec : (Machine.execute (vimbaNext pairConfig) vimbaInit crowdedSteps).map
      (fun s => (s.displayer, (s.grabber true).phase, (s.grabber false).phase, s.video false,
        (s.grabber false).camStamps))
        = some (.returned, .finished, .finished, [⟨true, 3, 0⟩], [2, 3]) := by
    decide +kernel
  obtain ⟨s, hs, hview⟩ := Option.map_eq_some_iff.mp hexec
  simp only [Prod.mk.injEq] at hview
  obtain ⟨hreturned, htrue, hfalse, hvideo, hstamps⟩ := hview
  obtain ⟨tr, hrun, -⟩ := Machine.Run.execute (M := vimbaperf Bool pairConfig)
    (fun _ _ _ hstep => hstep) (.start rfl) hs
  have hnamed := h _ s hrun ⟨hreturned, Bool.forall_bool.mpr ⟨hfalse, htrue⟩⟩ false _ _ hvideo
  rw [hstamps] at hnamed
  cases hnamed

/-- Both cameras get their first frames into the queue. -/
theorem video_named_by_first_quiet :
    ∃ (tr : List (VimbaState Bool × VimbaLabel Bool)) (s : VimbaState Bool),
      (vimbaperf Bool pairConfig).Run tr s ∧ s.video true = [⟨true, 2, 0⟩] ∧
        s.video false = [⟨true, 3, 0⟩, ⟨true, 4, 0⟩] ∧ NamedByFirst s := by
  have hexec : (Machine.execute
      (fun s l => if StartsVideo s l then vimbaNext pairConfig s l else none) vimbaInit
      (startSteps ++ frameSteps true 2 ++ frameSteps false 3 ++ frameSteps false 4
        ++ stopSteps false ++ stopSteps true ++ batchSteps 5 ++ [.leaveLoop])).map
      (fun s => (s.displayer, (s.grabber true).phase, (s.grabber false).phase, s.video true,
        s.video false))
        = some (.returned, .finished, .finished, [⟨true, 2, 0⟩],
          [⟨true, 3, 0⟩, ⟨true, 4, 0⟩]) := by
    decide +kernel
  obtain ⟨s, hs, hview⟩ := Option.map_eq_some_iff.mp hexec
  simp only [Prod.mk.injEq] at hview
  obtain ⟨hreturned, htrue, hfalse, hvideo, hvideo'⟩ := hview
  obtain ⟨tr, hrun, hgood, -⟩ := Machine.Run.execute_good (M := vimbaperf Bool pairConfig)
    (fun _ _ _ hstep => hstep) rfl hs
  exact ⟨tr, s, hrun, hvideo, hvideo', video_named_by_first rfl hrun hgood
    ⟨hreturned, Bool.forall_bool.mpr ⟨hfalse, htrue⟩⟩⟩

end Tram
