/-
Tram/Vimba.lean

The camera recorder (`vimbacamperf.py`): one grabber thread and one stream of
callbacks for each camera, and the displayer thread, over one shared bounded
queue.

The threads interleave at every access to the queue.  A callback is therefore
three steps beside its start (the test of `full`, the put, the statistics),
and an inner iteration of the displayer is one step: what it does with the
entry it takes touches only its own variables and the videos.

`queue.Queue` is an atomic bounded queue, and no callback of a camera runs
once `stop_streaming` has returned.
-/
import Tram.BoundedQueue
import Tram.Runs
import Mathlib.Logic.Function.Basic

namespace Tram

/-- `FRAME_QUEUE_SIZE`. -/
def frameQueueSize : ℕ := 50

/-- A frame of a camera: `complete` is `FrameStatus.Complete`. -/
structure Frame where
  complete : Bool
  timestamp : ℕ
  image : ℕ
deriving DecidableEq, Repr

/-- What the command line decides: `stealth_mode`, whether there are videos
(`outputFile`) and whether the grabbers have a time limit (`time`). -/
structure VimbaConfig where
  stealth : Bool
  recording : Bool
  timed : Bool
deriving DecidableEq, Repr

/-! ### State -/

/-- Where `FrameGrabber.run` is. -/
inductive GrabberPhase
  | starting
  | streaming
  /-- Behind `stop_streaming`, before the final `try_put_frame(None)`. -/
  | stopped
  | finished
deriving DecidableEq, Repr

/-- Where the callback of a camera is, with its frame and its local time. -/
inductive Callback
  | idle
  /-- Before the test of `full`. -/
  | checking (frame : Frame) (localTime : ℕ)
  /-- Before the put. -/
  | putting (frame : Frame) (localTime : ℕ)
  /-- Before the statistics. -/
  | storing (frame : Frame) (localTime : ℕ)
deriving DecidableEq, Repr

/-- A `FrameGrabber` with the stamps of its camera's `Stats`. -/
structure Grabber where
  phase : GrabberPhase
  callback : Callback
  lastTime : ℕ
  camStamps : List ℕ
  locStamps : List ℕ
deriving DecidableEq, Repr

/-- Where `FrameDisplayer.run` is. -/
inductive Displayer
  /-- At the head of the outer loop. -/
  | top
  /-- At the head of the inner loop. -/
  | batch (framesLeft : ℕ)
  | returned
deriving DecidableEq, Repr

variable {ι : Type*}

/-- The state of all threads; `ι` is the set of cameras. -/
structure VimbaState (ι : Type*) where
  queue : BoundedQueue (ι × Option Frame) frameQueueSize
  grabber : ι → Grabber
  displayer : Displayer
  alive : Bool
  video : ι → List Frame

/-- The state when the threads are started. -/
def vimbaInit : VimbaState ι where
  queue := .empty
  grabber := fun _ => ⟨.starting, .idle, 0, [], []⟩
  displayer := .top
  alive := true
  video := fun _ => []

/-! ### The grabbers -/

/-- `FrameGrabber.__call__` up to the test of `full`. -/
def Grabber.call (g : Grabber) (frame : Frame) (localTime : ℕ) : Grabber :=
  if !frame.complete then g
  -- the first frame may have a wrong time stamp
  else if g.lastTime = 0 then { g with lastTime := frame.timestamp }
  else { g with callback := .checking frame localTime }

/-- The statistics part of the callback. -/
def Grabber.storeStats (cfg : VimbaConfig) (g : Grabber) (frame : Frame) (localTime : ℕ) :
    Grabber :=
  { g with
    callback := .idle
    camStamps := g.camStamps ++ [frame.timestamp]
    locStamps := g.locStamps ++ [localTime]
    lastTime := if cfg.stealth then g.lastTime else frame.timestamp }

/-- `try_put_frame`: a full queue is ignored. -/
def VimbaState.tryPutFrame (s : VimbaState ι) (i : ι) (frame : Option Frame) : VimbaState ι :=
  match s.queue.putNowait (i, frame) with
  | none => s
  | some queue => { s with queue }

/-- `try_put_frame` appends its entry when there is room and does nothing
otherwise. -/
theorem tryPutFrame_cases (s : VimbaState ι) (i : ι) (frame : Option Frame) :
    (s.queue.items.length < frameQueueSize ∧
        ∃ queue, s.tryPutFrame i frame = { s with queue } ∧
          queue.items = s.queue.items ++ [(i, frame)]) ∨
      (¬ s.queue.items.length < frameQueueSize ∧ s.tryPutFrame i frame = s) := by
  by_cases hroom : s.queue.items.length < frameQueueSize
  · left
    obtain ⟨queue, hput, hitems⟩ := BoundedQueue.putNowait_of_room (i, frame) hroom
    refine ⟨hroom, queue, ?_, hitems⟩
    rw [VimbaState.tryPutFrame, hput]
  · right
    refine ⟨hroom, ?_⟩
    rw [VimbaState.tryPutFrame, BoundedQueue.putNowait_of_full _ hroom]

variable [DecidableEq ι]

/-- Change one grabber. -/
def VimbaState.setGrabber (s : VimbaState ι) (i : ι) (g : Grabber) : VimbaState ι :=
  { s with grabber := Function.update s.grabber i g }

/-! ### The displayer -/

/-- What the inner loop does with an entry; `visible` is the window property. -/
def VimbaState.handleEntry (cfg : VimbaConfig) (s : VimbaState ι) (visible : Bool) (i : ι) :
    Option Frame → VimbaState ι
  | some frame =>
      if !cfg.stealth || cfg.recording then
        { s with
          alive := if !cfg.stealth && !visible then false else s.alive
          video := if cfg.recording then Function.update s.video i (s.video i ++ [frame])
            else s.video }
      else s
  | none => { s with alive := false }

/-! ### Steps -/

/-- The steps of the threads. -/
inductive VimbaLabel (ι : Type*)
  | startStreaming (i : ι)
  /-- `VimbaCameraError` before a frame has arrived. -/
  | cameraError (i : ι)
  | stopStreaming (i : ι)
  | putSentinel (i : ι)
  | call (i : ι) (frame : Frame) (localTime : ℕ)
  | testFull (i : ι)
  | putFrame (i : ι)
  | storeStats (i : ι)
  | readSize
  | getFrame (visible : Bool)
  | endBatch
  | leaveLoop
deriving DecidableEq, Repr

/-- One step, where it is possible. -/
def vimbaNext (cfg : VimbaConfig) (s : VimbaState ι) : VimbaLabel ι → Option (VimbaState ι)
  | .startStreaming i =>
      if (s.grabber i).phase = .starting then
        some (s.setGrabber i { s.grabber i with phase := .streaming })
      else none
  | .cameraError i =>
      if (s.grabber i).phase = .starting then
        some (s.setGrabber i { s.grabber i with phase := .stopped })
      else none
  -- the time limit, or `main` after the displayer has returned
  | .stopStreaming i =>
      if (s.grabber i).phase = .streaming ∧ (s.grabber i).callback = .idle ∧
          (cfg.timed = true ∨ s.displayer = .returned) then
        some (s.setGrabber i { s.grabber i with phase := .stopped })
      else none
  | .putSentinel i =>
      if (s.grabber i).phase = .stopped then
        some ((s.tryPutFrame i none).setGrabber i { s.grabber i with phase := .finished })
      else none
  | .call i frame localTime =>
      if (s.grabber i).phase = .streaming ∧ (s.grabber i).callback = .idle then
        some (s.setGrabber i ((s.grabber i).call frame localTime))
      else none
  | .testFull i =>
      match (s.grabber i).callback with
      | .checking frame localTime =>
          some (s.setGrabber i { s.grabber i with
            callback := if s.queue.full then .storing frame localTime
              else .putting frame localTime })
      | _ => none
  | .putFrame i =>
      match (s.grabber i).callback with
      | .putting frame localTime =>
          some ((s.tryPutFrame i (some frame)).setGrabber i { s.grabber i with
            callback := .storing frame localTime })
      | _ => none
  | .storeStats i =>
      match (s.grabber i).callback with
      | .storing frame localTime =>
          some (s.setGrabber i ((s.grabber i).storeStats cfg frame localTime))
      | _ => none
  | .readSize =>
      if s.displayer = .top ∧ s.alive = true then
        some { s with displayer := .batch s.queue.qsize }
      else none
  | .getFrame visible =>
      match s.displayer with
      | .batch (framesLeft + 1) =>
          match s.queue.getNowait with
          | none => some { s with displayer := .top }
          | some ((i, frame), queue) =>
              some ({ s with queue, displayer := .batch framesLeft }.handleEntry cfg visible i frame)
      | _ => none
  | .endBatch => if s.displayer = .batch 0 then some { s with displayer := .top } else none
  | .leaveLoop =>
      if s.displayer = .top ∧ s.alive = false then some { s with displayer := .returned }
      else none

/-- The threads as a machine. -/
def vimbaperf (ι : Type*) [DecidableEq ι] (cfg : VimbaConfig) :
    Machine (VimbaState ι) (VimbaLabel ι) where
  init := fun s => s = vimbaInit
  step := fun s l s' => vimbaNext cfg s l = some s'

end Tram
