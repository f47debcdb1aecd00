/-
Tram/Shutdown.lean

What the displayer has written when it returns (`FrameDisplayer.run`).

The displayer handles its entries in batches, each as long as the queue was
when the batch began, and stops behind the batch in which it meets an end
entry of any camera.  The last batch can be told when it begins: it has an end
entry among its own (`Closing`).  A frame put after that moment is behind the
last batch and is never taken, and every other frame is.

The entries of the queue are therefore split into those of the current batch
(`ahead`) and the others (`behind`).
-/
import Tram.VimbaSteps

namespace Tram

variable {ι : Type*} {cfg : VimbaConfig}

/-! ### The current batch -/

/-- The queued entries that belong to the current batch. -/
def ahead (s : VimbaState ι) : List (ι × Option Frame) :=
  match s.displayer with
  | .batch n => s.queue.items.take n
  | _ => []

/-- The queued entries behind the current batch. -/
def behind (s : VimbaState ι) : List (ι × Option Frame) :=
  match s.displayer with
  | .batch n => s.queue.items.drop n
  | _ => s.queue.items

/-- The last batch of the displayer has begun. -/
def Closing (s : VimbaState ι) : Prop := s.alive = false ∨ ∃ e ∈ ahead s, e.2 = none

instance (s : VimbaState ι) : Decidable (Closing s) := inferInstanceAs (Decidable (_ ∨ _))

/-- There is no frame behind the current batch. -/
def NoFrameBehind (s : VimbaState ι) : Prop := ∀ e ∈ behind s, e.2 = none

/-- The step does not put a frame into the queue behind the last batch. -/
def NoLatePut (s : VimbaState ι) : VimbaLabel ι → Prop
  | .putFrame _ => s.HasRoom → ¬ Closing s
  | _ => True

instance (s : VimbaState ι) : (l : VimbaLabel ι) → Decidable (NoLatePut s l)
  | .putFrame _ => inferInstanceAs (Decidable (_ → _))
  | .startStreaming _ | .cameraError _ | .stopStreaming _ | .putSentinel _ | .call _ _ _
  | .testFull _ | .storeStats _ | .readSize | .getFrame _ | .endBatch | .leaveLoop =>
      inferInstanceAs (Decidable True)

/-- The current batch is not longer than the queue. -/
def BatchFits (s : VimbaState ι) : Prop :=
  ∀ n, s.displayer = .batch n → n ≤ s.queue.items.length

/-- An entry put into the queue goes behind the current batch. -/
theorem ahead_behind_put {s s' : VimbaState ι} {e : ι × Option Frame} (hfits : BatchFits s)
    (hdisplayer : s'.displayer = s.displayer) (hitems : s'.queue.items = s.queue.items ++ [e]) :
    ahead s' = ahead s ∧ behind s' = behind s ++ [e] := by
  rw [ahead, ahead, behind, behind, hdisplayer, hitems]
  rcases hd : s.displayer with - | n | -
  · exact ⟨rfl, rfl⟩
  · have hn := hfits n hd
    exact ⟨List.take_append_of_le_length hn, List.drop_append_of_le_length hn⟩
  · exact ⟨rfl, rfl⟩

theorem closing_congr {s s' : VimbaState ι} (halive : s'.alive = s.alive)
    (hahead : ahead s' = ahead s) : Closing s' ↔ Closing s := by
  rw [Closing, Closing, halive, hahead]

/-! ### The invariant -/

/-- The history of a run says whether a frame has been put behind the last
batch, and so does the queue once that batch has begun. -/
structure DrainInv (tr : List (VimbaState ι × VimbaLabel ι)) (s : VimbaState ι) : Prop where
  fits : BatchFits s
  returned : s.displayer = .returned → s.alive = false
  early : ¬ Closing s → Machine.All NoLatePut tr
  closing : Closing s → (NoFrameBehind s ↔ Machine.All NoLatePut tr)

theorem drainInv_init : DrainInv [] (vimbaInit : VimbaState ι) where
  fits := by
    intro n hn
    cases hn
  returned := by
    intro hreturned
    cases hreturned
  early := fun _ => Machine.All.nil
  closing := by
    rintro (halive | ⟨e, he, -⟩)
    · cases halive
    · cases he

/-- A step that is no late put and changes neither the batch nor what matters
behind it. -/
theorem DrainInv.keep {tr : List (VimbaState ι × VimbaLabel ι)} {s s' : VimbaState ι}
    {l : VimbaLabel ι} (h : DrainInv tr s) (hgood : NoLatePut s l) (hfits : BatchFits s')
    (hreturned : s'.displayer = .returned → s'.alive = false)
    (hclosing : Closing s' ↔ Closing s) (hbehind : NoFrameBehind s' ↔ NoFrameBehind s) :
    DrainInv (tr ++ [(s, l)]) s' := by
  have hall : Machine.All NoLatePut (tr ++ [(s, l)]) ↔ Machine.All NoLatePut tr := by
    rw [Machine.all_snoc, and_iff_left hgood]
  refine ⟨hfits, hreturned, ?_, ?_⟩
  · rw [hclosing, hall]
    exact h.early
  · rw [hclosing, hall, hbehind]
    exact h.closing

/-- A frame put into the queue: behind the last batch it stays for good. -/
theorem DrainInv.put {tr : List (VimbaState ι × VimbaLabel ι)} {s s' : VimbaState ι} {i : ι}
    {frame : Frame} (h : DrainInv tr s) (hroom : s.HasRoom)
    (hdisplayer : s'.displayer = s.displayer) (halive : s'.alive = s.alive)
    (hitems : s'.queue.items = s.queue.items ++ [(i, some frame)]) :
    DrainInv (tr ++ [(s, .putFrame i)]) s' := by
  obtain ⟨hahead, hbehind⟩ := ahead_behind_put h.fits hdisplayer hitems
  have hclosing := closing_congr halive hahead
  refine ⟨fun n hn => ?_, ?_, fun hopen => ?_, fun hclosed => ?_⟩
  · have hn' := h.fits n (hdisplayer.symm.trans hn)
    rw [hitems, List.length_append]
    omega
  · rw [hdisplayer, halive]
    exact h.returned
  · rw [hclosing] at hopen
    exact Machine.all_snoc.mpr ⟨h.early hopen, fun _ => hopen⟩
  · rw [hclosing] at hclosed
    refine iff_of_false (fun hnone => ?_) fun hall => ?_
    · have hframe : (i, some frame) ∈ behind s' := by
        rw [hbehind]
        exact List.mem_concat_self
      cases hnone _ hframe
    · exact (Machine.all_snoc.mp hall).2 hroom hclosed

/-- A new batch takes everything that is queued. -/
theorem DrainInv.readSize {tr : List (VimbaState ι × VimbaLabel ι)} {s : VimbaState ι}
    (h : DrainInv tr s) (htop : s.displayer = .top) (halive : s.alive = true) :
    DrainInv (tr ++ [(s, .readSize)])
      { s with displayer := .batch s.queue.items.length } := by
  have hopen : ¬ Closing s := by
    rintro (hdead | ⟨e, he, -⟩)
    · cases halive.symm.trans hdead
    · rw [ahead, htop] at he
      cases he
  have hall : Machine.All NoLatePut (tr ++ [(s, .readSize)]) :=
    Machine.all_snoc.mpr ⟨h.early hopen, trivial⟩
  refine ⟨?_, fun hreturned => (by cases hreturned), fun _ => hall, fun _ => iff_of_true ?_ hall⟩
  · intro n hn
    cases hn
    exact Nat.le_refl _
  · intro e he
    have hnil : behind { s with displayer := .batch s.queue.items.length } = [] :=
      List.drop_length
    rw [hnil] at he
    cases he

variable [DecidableEq ι]

/-- Taking an entry of the batch; an end entry closes it by `alive`. -/
theorem DrainInv.getEntry (hstealth : cfg.stealth = true)
    {tr : List (VimbaState ι × VimbaLabel ι)} {s : VimbaState ι} {visible : Bool} {n : ℕ} {i : ι}
    {e : Option Frame} {queue : BoundedQueue (ι × Option Frame) frameQueueSize}
    (h : DrainInv tr s) (hbatch : s.displayer = .batch (n + 1))
    (hitems : s.queue.items = (i, e) :: queue.items) :
    DrainInv (tr ++ [(s, .getFrame visible)])
      ({ s with queue, displayer := .batch n }.handleEntry cfg visible i e) := by
  have hahead : ahead s = (i, e) :: queue.items.take n := by
    rw [ahead, hbatch, hitems]
    rfl
  have hbehind : behind s = queue.items.drop n := by
    rw [behind, hbatch, hitems]
    rfl
  refine h.keep trivial ?_ ?_ ?_ ?_
  · intro m hm
    rw [handleEntry_displayer] at hm
    rw [handleEntry_queue]
    cases hm
    have hfits := h.fits _ hbatch
    rw [hitems, List.length_cons] at hfits
    exact Nat.le_of_succ_le_succ hfits
  · rw [handleEntry_displayer]
    intro hreturned
    cases hreturned
  · rw [Closing, Closing, handleEntry_alive hstealth, hahead, ahead, handleEntry_displayer,
      handleEntry_queue]
    rcases e with - | frame <;> simp
  · rw [NoFrameBehind, NoFrameBehind, hbehind, behind, handleEntry_displayer, handleEntry_queue]

theorem DrainInv.step (hstealth : cfg.stealth = true)
    {tr : List (VimbaState ι × VimbaLabel ι)} {s s' : VimbaState ι} {l : VimbaLabel ι}
    (h : DrainInv tr s) (hcase : VimbaCase cfg s l s') : DrainInv (tr ++ [(s, l)]) s' := by
  cases hcase with
  | startStreaming | cameraError | stopStreaming | sentinelLost | call | testFull | storeStats =>
      exact h.keep trivial h.fits h.returned Iff.rfl Iff.rfl
  | frameLost _ hfull =>
      exact h.keep (fun hroom => absurd hroom hfull) h.fits h.returned Iff.rfl Iff.rfl
  | @sentinelPut i queue _ _ hitems =>
      obtain ⟨hahead, hbehind⟩ := @ahead_behind_put _ s { s with queue } _ h.fits rfl hitems
      refine h.keep trivial (fun n hn => ?_) h.returned (closing_congr rfl hahead) ?_
      · have hn' := h.fits n hn
        rw [setGrabber_queue, hitems, List.length_append]
        omega
      · -- an end entry is no frame
        show (∀ e ∈ behind { s with queue }, e.2 = none) ↔ _
        rw [hbehind]
        simp [NoFrameBehind, or_imp, forall_and]
  | framePut _ hroom hitems => exact h.put hroom rfl rfl hitems
  | readSize htop halive => exact h.readSize htop halive
  | getNothing hbatch hnil =>
      have hfits := h.fits _ hbatch
      rw [hnil] at hfits
      exact absurd hfits (Nat.not_succ_le_zero _)
  | getEntry hbatch hitems => exact h.getEntry hstealth hbatch hitems
  | endBatch hbatch =>
      refine h.keep trivial (fun n hn => by cases hn) (fun hreturned => by cases hreturned) ?_ ?_
      · exact closing_congr rfl (by rw [ahead, ahead, hbatch]; rfl)
      · rw [NoFrameBehind, NoFrameBehind, behind, behind, hbatch]
        rfl
  | leaveLoop htop hdead =>
      refine h.keep trivial (fun n hn => by cases hn) (fun _ => hdead) ?_ ?_
      · exact closing_congr rfl (by rw [ahead, ahead, htop])
      · rw [NoFrameBehind, NoFrameBehind, behind, behind, htop]

/-! ### Every run -/

theorem drainInv_run (hstealth : cfg.stealth = true) {tr : List (VimbaState ι × VimbaLabel ι)}
    {s : VimbaState ι} (hrun : (vimbaperf ι cfg).Run tr s) : DrainInv tr s := by
  induction hrun with
  | start h =>
      obtain rfl := h
      exact drainInv_init
  | next _ hstep ih => exact ih.step hstealth (vimbaNext_cases hstep)

/-- What is written of a camera is always the beginning of what was queued. -/
theorem video_prefix (hrec : cfg.recording = true) {tr : List (VimbaState ι × VimbaLabel ι)}
    {s : VimbaState ι} (hrun : (vimbaperf ι cfg).Run tr s) (i : ι) :
    s.video i <+: queuedFrames i tr :=
  ⟨queuedOf i s.queue.items, framesOf_run hrec hrun i⟩

/-- **What is written at the end.**  When the displayer has returned, the
videos consist of all frames put into the queue, in the order of the puts,
exactly when no frame was put once the last batch had begun. -/
theorem displayer_drains_iff (hstealth : cfg.stealth = true) (hrec : cfg.recording = true)
    {tr : List (VimbaState ι × VimbaLabel ι)} {s : VimbaState ι}
    (hrun : (vimbaperf ι cfg).Run tr s) (hreturned : s.displayer = .returned) :
    (∀ i, s.video i = queuedFrames i tr) ↔ Machine.All NoLatePut tr := by
  have h := drainInv_run hstealth hrun
  rw [← h.closing (Or.inl (h.returned hreturned)), NoFrameBehind, behind, hreturned]
  -- the videos and the rest of the queue make up all frames
  have hrest : ∀ i, s.video i = queuedFrames i tr ↔ queuedOf i s.queue.items = [] := by
    intro i
    rw [← framesOf_run hrec hrun i, framesOf, List.self_eq_append_right]
  simp only [hrest]
  constructor
  · rintro hempty ⟨i, e⟩ he
    rcases e with - | frame
    · rfl
    · have hmem : frame ∈ queuedOf i s.queue.items :=
        List.mem_filterMap.mpr ⟨(i, some frame), he, by simp⟩
      rw [hempty i] at hmem
      cases hmem
  · intro hnone i
    refine List.filterMap_eq_nil_iff.mpr fun e he => ?_
    rw [hnone e he]
    exact ite_self none

/-- Camera `false` comes to its time limit first; while the displayer handles
its end entry, camera `true` goes on. -/
def unevenSteps : List (VimbaLabel Bool) :=
  startSteps ++ stopSteps false ++ [.readSize, .getFrame true] ++ frameSteps true 2
    ++ [.endBatch, .leaveLoop]

/-- A frame of the other camera stays in the queue. -/
theorem displayer_drains_uneven :
    ¬ ∀ (tr : List (VimbaState Bool × VimbaLabel Bool)) (s : VimbaState Bool),
      (vimbaperf Bool pairConfig).Run tr s → s.displayer = .returned →
      ∀ i, s.video i = queuedFrames i tr := by
  intro h
  have hexec : (Machine.execute (vimbaNext pairConfig) vimbaInit unevenSteps).map
      (fun s => (s.displayer, s.video true, framesOf s true))
        = some (.returned, [], [⟨true, 2, 0⟩]) := by
    decide +kernel
  obtain ⟨s, hs, hview⟩ := Option.map_eq_some_iff.mp hexec
  simp only [Prod.mk.injEq] at hview
  obtain ⟨hreturned, hvideo, hframes⟩ := hview
  obtain ⟨tr, hrun, -⟩ := Machine.Run.execute (M := vimbaperf Bool pairConfig)
    (fun _ _ _ hstep => hstep) (.start rfl) hs
  have hall := h _ s hrun hreturned true
  rw [← framesOf_run rfl hrun, hvideo, hframes] at hall
  cases hall

/-- Both cameras come to their limits before the last batch. -/
theorem displayer_drains_even :
    ∃ (tr : List (VimbaState Bool × VimbaLabel Bool)) (s : VimbaState Bool),
      (vimbaperf Bool pairConfig).Run tr s ∧ s.video true = [⟨true, 2, 0⟩] ∧
        s.video false = [⟨true, 3, 0⟩] ∧ ∀ i, s.video i = queuedFrames i tr := by
  have hexec : (Machine.execute
      (fun s l => if NoLatePut s l then vimbaNext pairConfig s l else none) vimbaInit
      (startSteps ++ frameSteps true 2 ++ batchSteps 1 ++ frameSteps false 3 ++ stopSteps false
        ++ stopSteps true ++ batchSteps 3 ++ [.leaveLoop])).map
      (fun s => (s.displayer, s.video true, s.video false))
        = some (.returned, [⟨true, 2, 0⟩], [⟨true, 3, 0⟩]) := by
    decide +kernel
  obtain ⟨s, hs, hview⟩ := Option.map_eq_some_iff.mp hexec
  simp only [Prod.mk.injEq] at hview
  obtain ⟨hreturned, hvideo, hvideo'⟩ := hview
  obtain ⟨tr, hrun, hgood, -⟩ := Machine.Run.execute_good (M := vimbaperf Bool pairConfig)
    (fun _ _ _ hstep => hstep) rfl hs
  exact ⟨tr, s, hrun, hvideo, hvideo', (displayer_drains_iff rfl rfl hrun hreturned).mpr hgood⟩

end Tram
