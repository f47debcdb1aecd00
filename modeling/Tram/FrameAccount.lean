/-
Tram/FrameAccount.lean

What becomes of the frames of a camera (`FrameGrabber.__call__`).

A frame that is complete, and not ignored as the first one, is recorded in the
statistics of its camera whether or not it gets into the queue.  In a run each
such frame is decided on once: it is put, or the queue is full.  The stamps and
the local times of a camera are those of the frames decided on, in the order of
the calls, and its video and the queue hold those that were put, however the
cameras and the displayer interleave.
-/
import Tram.VimbaSteps

namespace Tram

variable {ι : Type*} {cfg : VimbaConfig}

/-! ### Accepted and decided -/

/-- The frame before its put, with its local time. -/
def Callback.undecided : Callback → List (Frame × ℕ)
  | .checking frame localTime => [(frame, localTime)]
  | .putting frame localTime => [(frame, localTime)]
  | _ => []

/-- The frame behind its put whose statistics are still to come. -/
def Callback.unstored : Callback → List (Frame × ℕ)
  | .storing frame localTime => [(frame, localTime)]
  | _ => []

variable [DecidableEq ι]

/-- The frame of camera `j` that a step takes from the camera and does not
ignore. -/
def accepts (s : VimbaState ι) (l : VimbaLabel ι) (j : ι) : Option (Frame × ℕ) :=
  match l with
  | .call i frame localTime =>
      if i = j ∧ frame.complete = true ∧ (s.grabber i).lastTime ≠ 0 then some (frame, localTime)
      else none
  | _ => none

/-- The frame of camera `j` that a step decides on, and whether it is put. -/
def decides (s : VimbaState ι) (l : VimbaLabel ι) (j : ι) : Option ((Frame × ℕ) × Bool) :=
  match l with
  | .testFull i =>
      match (s.grabber i).callback with
      | .checking frame localTime =>
          if i = j ∧ ¬ s.HasRoom then some ((frame, localTime), false) else none
      | _ => none
  | .putFrame i =>
      match (s.grabber i).callback with
      | .putting frame localTime =>
          if i = j then some ((frame, localTime), decide s.HasRoom) else none
      | _ => none
  | _ => none

/-- The frames of camera `j` accepted in a run, in the order of the calls. -/
def acceptedFrames (j : ι) (tr : List (VimbaState ι × VimbaLabel ι)) : List (Frame × ℕ) :=
  tr.filterMap fun p => accepts p.1 p.2 j

/-- The frames of camera `j` decided on in a run. -/
def decidedFrames (j : ι) (tr : List (VimbaState ι × VimbaLabel ι)) : List ((Frame × ℕ) × Bool) :=
  tr.filterMap fun p => decides p.1 p.2 j

theorem acceptedFrames_concat (j : ι) (tr : List (VimbaState ι × VimbaLabel ι))
    (s : VimbaState ι) (l : VimbaLabel ι) :
    acceptedFrames j (tr ++ [(s, l)]) = acceptedFrames j tr ++ (accepts s l j).toList := by
  rw [acceptedFrames, List.filterMap_append]
  rcases haccepts : accepts s l j with - | f <;> simp [acceptedFrames, haccepts]

theorem decidedFrames_concat (j : ι) (tr : List (VimbaState ι × VimbaLabel ι))
    (s : VimbaState ι) (l : VimbaLabel ι) :
    decidedFrames j (tr ++ [(s, l)]) = decidedFrames j tr ++ (decides s l j).toList := by
  rw [decidedFrames, List.filterMap_append]
  rcases hdecides : decides s l j with - | d <;> simp [decidedFrames, hdecides]

/-- The frames that were put, among those decided on. -/
def keptFrames (decided : List ((Frame × ℕ) × Bool)) : List Frame :=
  decided.filterMap fun d => if d.2 then some d.1.1 else none

/-- The frames that found the queue full. -/
def lostFrames (decided : List ((Frame × ℕ) × Bool)) : List Frame :=
  decided.filterMap fun d => if d.2 then none else some d.1.1

theorem length_kept_lost (decided : List ((Frame × ℕ) × Bool)) :
    decided.length = (keptFrames decided).length + (lostFrames decided).length := by
  induction decided with
  | nil => rfl
  | cons d rest ih =>
      rcases d with ⟨f, _ | _⟩
      · show rest.length + 1 = (keptFrames rest).length + ((lostFrames rest).length + 1)
        omega
      · show rest.length + 1 = (keptFrames rest).length + 1 + (lostFrames rest).length
        omega

/-- The puts of a step are among its decisions. -/
theorem puts_eq (s : VimbaState ι) (l : VimbaLabel ι) (j : ι) :
    puts s l j = (decides s l j).bind fun d => if d.2 then some d.1.1 else none := by
  cases l with
  | putFrame i =>
      simp only [puts, decides]
      rcases (s.grabber i).callback with - | ⟨f, t⟩ | ⟨f, t⟩ | ⟨f, t⟩
      · rfl
      · rfl
      · by_cases hij : i = j <;> by_cases hroom : s.HasRoom <;> simp [hij, hroom]
      · rfl
  | testFull i =>
      simp only [puts, decides]
      rcases (s.grabber i).callback with - | ⟨f, t⟩ | ⟨f, t⟩ | ⟨f, t⟩
      · rfl
      · by_cases hij : i = j <;> by_cases hroom : s.HasRoom <;> simp [hij, hroom]
      · rfl
      · rfl
  | startStreaming | cameraError | stopStreaming | putSentinel | call | storeStats | readSize
  | getFrame | endBatch | leaveLoop => rfl

theorem queuedFrames_eq (j : ι) (tr : List (VimbaState ι × VimbaLabel ι)) :
    queuedFrames j tr = keptFrames (decidedFrames j tr) := by
  rw [keptFrames, decidedFrames, List.filterMap_filterMap, queuedFrames]
  exact List.filterMap_congr fun p _ => puts_eq p.1 p.2 j

/-! ### The invariant -/

/-- The account of a camera: the frames accepted are decided on, but for the one
under way, and the statistics are those of the frames decided on, but for the
one still to come. -/
structure FrameAccount (g : Grabber) (accepted decided : List (Frame × ℕ)) : Prop where
  accepted : accepted = decided ++ g.callback.undecided
  stored : ∃ stored, decided = stored ++ g.callback.unstored ∧
    g.camStamps = stored.map (fun p => p.1.timestamp) ∧ g.locStamps = stored.map Prod.snd

section
omit [DecidableEq ι]

variable {g : Grabber} {accepted decided : List (Frame × ℕ)} {frame : Frame} {localTime : ℕ}

/-- A change of the phase alone keeps the account. -/
theorem FrameAccount.setPhase (h : FrameAccount g accepted decided) (phase : GrabberPhase) :
    FrameAccount { g with phase } accepted decided := ⟨h.accepted, h.stored⟩

/-- A call accepts its frame, or returns at once. -/
theorem FrameAccount.call (h : FrameAccount g accepted decided) (hidle : g.callback = .idle) :
    FrameAccount (g.call frame localTime)
      (accepted ++
        (if frame.complete = true ∧ g.lastTime ≠ 0 then some (frame, localTime) else none).toList)
      decided := by
  rw [Grabber.call]
  cases hcomplete : frame.complete
  · -- an incomplete frame is not looked at
    simpa using h
  by_cases hlast : g.lastTime = 0
  · -- the first one only sets `last_time`
    simp only [hlast, Bool.not_true, Bool.false_eq_true, if_false, if_true, ne_eq, not_true,
      and_false, Option.toList_none, List.append_nil]
    exact ⟨h.accepted, h.stored⟩
  · obtain ⟨haccepted, hstored⟩ := h
    rw [hidle] at haccepted hstored
    simp only [hlast, Bool.not_true, Bool.false_eq_true, if_false, ne_eq, not_false_eq_true,
      and_self, if_true, Option.toList_some]
    refine ⟨?_, hstored⟩
    rw [haccepted]
    simp [Callback.undecided]

/-- A full queue is seen by the test, and the put is skipped. -/
theorem FrameAccount.skip (h : FrameAccount g accepted decided)
    (hcall : g.callback = .checking frame localTime) :
    FrameAccount { g with callback := .storing frame localTime } accepted
      (decided ++ [(frame, localTime)]) := by
  obtain ⟨haccepted, stored, hdecided, hcam, hloc⟩ := h
  rw [hcall] at haccepted hdecided
  refine ⟨?_, stored, ?_, hcam, hloc⟩
  · simpa [Callback.undecided] using haccepted
  · simpa [Callback.unstored] using hdecided

/-- Behind the test the frame is still undecided. -/
theorem FrameAccount.test (h : FrameAccount g accepted decided)
    (hcall : g.callback = .checking frame localTime) :
    FrameAccount { g with callback := .putting frame localTime } accepted decided := by
  obtain ⟨haccepted, hstored⟩ := h
  rw [hcall] at haccepted hstored
  exact ⟨haccepted, hstored⟩

/-- The put decides, whether or not there is still room. -/
theorem FrameAccount.put (h : FrameAccount g accepted decided)
    (hcall : g.callback = .putting frame localTime) :
    FrameAccount { g with callback := .storing frame localTime } accepted
      (decided ++ [(frame, localTime)]) := by
  obtain ⟨haccepted, stored, hdecided, hcam, hloc⟩ := h
  rw [hcall] at haccepted hdecided
  refine ⟨?_, stored, ?_, hcam, hloc⟩
  · simpa [Callback.undecided] using haccepted
  · simpa [Callback.unstored] using hdecided

/-- The statistics of the frame decided on last. -/
theorem FrameAccount.store (h : FrameAccount g accepted decided)
    (hcall : g.callback = .storing frame localTime) :
    FrameAccount (g.storeStats cfg frame localTime) accepted decided := by
  obtain ⟨haccepted, stored, hdecided, hcam, hloc⟩ := h
  rw [hcall] at haccepted hdecided
  refine ⟨haccepted, decided, (List.append_nil decided).symm, ?_, ?_⟩
  · show g.camStamps ++ [frame.timestamp] = _
    rw [hcam, hdecided]
    simp [Callback.unstored]
  · show g.locStamps ++ [localTime] = _
    rw [hloc, hdecided]
    simp [Callback.unstored]

end

/-! ### One step -/

/-- Whether a step belongs to the grabber of camera `j`. -/
def VimbaLabel.Of (j : ι) : VimbaLabel ι → Prop
  | .startStreaming i | .cameraError i | .stopStreaming i | .putSentinel i | .call i _ _
  | .testFull i | .putFrame i | .storeStats i => j = i
  | .readSize | .getFrame _ | .endBatch | .leaveLoop => False

/-- The steps of the other threads leave a grabber as it is. -/
theorem VimbaCase.other {s s' : VimbaState ι} {l : VimbaLabel ι} (h : VimbaCase cfg s l s')
    {j : ι} (hj : ¬ l.Of j) :
    s'.grabber j = s.grabber j ∧ accepts s l j = none ∧ decides s l j = none := by
  cases h with
  | startStreaming | cameraError | stopStreaming | sentinelPut | sentinelLost | storeStats =>
      exact ⟨setGrabber_grabber_ne _ _ hj, rfl, rfl⟩
  | call => exact ⟨setGrabber_grabber_ne _ _ hj, if_neg fun h => hj h.1.symm, rfl⟩
  | @testFull i _ _ hcall | @framePut i _ _ _ hcall | @frameLost i _ _ hcall =>
      have hne : ¬ i = j := fun h => hj h.symm
      refine ⟨setGrabber_grabber_ne _ _ hj, rfl, ?_⟩
      simp only [decides, hcall]
      simp [hne]
  | readSize | getNothing | endBatch | leaveLoop => exact ⟨rfl, rfl, rfl⟩
  | getEntry => exact ⟨by rw [handleEntry_grabber], rfl, rfl⟩

theorem FrameAccount.step {s s' : VimbaState ι} {l : VimbaLabel ι} {j : ι}
    {accepted decided : List (Frame × ℕ)} (h : FrameAccount (s.grabber j) accepted decided)
    (hcase : VimbaCase cfg s l s') :
    FrameAccount (s'.grabber j) (accepted ++ (accepts s l j).toList)
      (decided ++ ((decides s l j).map Prod.fst).toList) := by
  by_cases hj : l.Of j
  · cases hcase with
    | startStreaming | cameraError | stopStreaming | sentinelPut | sentinelLost =>
        obtain rfl := hj
        simpa [accepts, decides] using h.setPhase _
    | call _ hidle =>
        obtain rfl := hj
        simpa [accepts, decides] using h.call hidle
    | testFull hcall =>
        obtain rfl := hj
        by_cases hroom : s.HasRoom
        · simpa [accepts, decides, hcall, hroom] using h.test hcall
        · simpa [accepts, decides, hcall, hroom] using h.skip hcall
    | framePut hcall | frameLost hcall =>
        obtain rfl := hj
        simpa [accepts, decides, hcall] using h.put hcall
    | storeStats hcall =>
        obtain rfl := hj
        simpa [accepts, decides] using h.store hcall
    | readSize | getNothing | getEntry | endBatch | leaveLoop => exact hj.elim
  · obtain ⟨hsame, haccepts, hdecides⟩ := hcase.other hj
    simpa [hsame, haccepts, hdecides] using h

/-! ### Every run -/

theorem frameAccount_run {tr : List (VimbaState ι × VimbaLabel ι)} {s : VimbaState ι}
    (hrun : (vimbaperf ι cfg).Run tr s) (j : ι) :
    FrameAccount (s.grabber j) (acceptedFrames j tr) ((decidedFrames j tr).map Prod.fst) := by
  induction hrun with
  | start h =>
      obtain rfl := h
      exact ⟨rfl, [], rfl, rfl, rfl⟩
  | @next tr s l s' _ hstep ih =>
      rw [acceptedFrames_concat, decidedFrames_concat, List.map_append]
      have h := ih.step (vimbaNext_cases hstep)
      rcases hdecides : decides s l j with - | d
      · simpa [hdecides] using h
      · simpa [hdecides] using h

/-- **What becomes of the frames of a camera.**  In every run, whenever the
callback of a camera is not under way: each frame accepted has been put or
found the queue full, once and in the order of the calls; the stamps and the
local times are those of all of them; the video, followed by the queue, holds
those that were put; and what is missing in the video is counted by the frames
that found the queue full. -/
theorem camera_accounts (hrec : cfg.recording = true) {tr : List (VimbaState ι × VimbaLabel ι)}
    {s : VimbaState ι} (hrun : (vimbaperf ι cfg).Run tr s) {j : ι}
    (hidle : (s.grabber j).callback = .idle) :
    acceptedFrames j tr = (decidedFrames j tr).map Prod.fst ∧
      (s.grabber j).camStamps = (acceptedFrames j tr).map (fun p => p.1.timestamp) ∧
      (s.grabber j).locStamps = (acceptedFrames j tr).map Prod.snd ∧
      s.video j ++ queuedOf j s.queue.items = keptFrames (decidedFrames j tr) ∧
      (s.grabber j).camStamps.length = (s.video j).length + (queuedOf j s.queue.items).length
        + (lostFrames (decidedFrames j tr)).length := by
  obtain ⟨haccepted, stored, hstored, hcam, hloc⟩ := frameAccount_run hrun j
  rw [hidle] at haccepted hstored
  have haccepted : acceptedFrames j tr = (decidedFrames j tr).map Prod.fst :=
    haccepted.trans (List.append_nil _)
  have hstored : stored = acceptedFrames j tr := by
    rw [haccepted, hstored]
    exact (List.append_nil _).symm
  have hframes : s.video j ++ queuedOf j s.queue.items = keptFrames (decidedFrames j tr) := by
    rw [← queuedFrames_eq]
    exact framesOf_run hrec hrun j
  rw [hstored] at hcam hloc
  refine ⟨haccepted, hcam, hloc, hframes, ?_⟩
  have hlength := congrArg List.length hframes
  rw [List.length_append] at hlength
  rw [hcam, haccepted, List.length_map, List.length_map, length_kept_lost, hlength]

/-- The queue is full for the first frame of camera `false`, which is in the
statistics only; the second one waits behind those of camera `true`. -/
theorem camera_accounts_crowded :
    ∃ (tr : List (VimbaState Bool × VimbaLabel Bool)) (s : VimbaState Bool),
      (vimbaperf Bool pairConfig).Run tr s ∧ (s.grabber false).camStamps = [2, 3] ∧
        keptFrames (decidedFrames false tr) = [⟨true, 3, 0⟩] ∧
        (lostFrames (decidedFrames false tr)).length = 1 := by
  have hexec : (Machine.execute (vimbaNext pairConfig) vimbaInit
      (startSteps ++ (List.replicate 50 (frameSteps true 2)).flatten
        ++ [.call false ⟨true, 2, 0⟩ 2, .testFull false, .storeStats false]
        ++ [.readSize, .getFrame true] ++ frameSteps false 3)).map
      (fun s => ((s.grabber false).callback, (s.grabber false).camStamps, s.video false,
        queuedOf false s.queue.items))
        = some (.idle, [2, 3], [], [⟨true, 3, 0⟩]) := by
    decide +kernel
  obtain ⟨s, hs, hview⟩ := Option.map_eq_some_iff.mp hexec
  simp only [Prod.mk.injEq] at hview
  obtain ⟨hidle, hstamps, hvideo, hqueue⟩ := hview
  obtain ⟨tr, hrun, -⟩ := Machine.Run.execute (M := vimbaperf Bool pairConfig)
    (fun _ _ _ hstep => hstep) (.start rfl) hs
  obtain ⟨-, -, -, hkept, hlength⟩ := camera_accounts rfl hrun hidle
  rw [hvideo, hqueue] at hkept
  rw [hstamps, hvideo, hqueue] at hlength
  refine ⟨tr, s, hrun, hstamps, hkept.symm, ?_⟩
  simp at hlength
  omega

end Tram
