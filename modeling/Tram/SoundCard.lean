/-
Tram/SoundCard.lean

What the sound card takes (`play_fragment`, `avb_alsa_write`).

`snd_pcm_writei` may take only the first frames of a fragment, or none at all
after an underrun.  `avb_alsa_write` prints a message and, after an underrun,
prepares the device; the rest of the fragment is not written again, and the
entry is freed.

The bytes taken by a write are listed with their positions in the buffer, so
that a position behind its end is no byte of the payload.  What the card takes
in a run is then what left the sample queue exactly when every write takes its
whole fragment.
-/
import Tram.Playback
import Mathlib.Algebra.Order.BigOperators.Group.List

namespace Tram

variable {lib : Libavtp} {set : StreamSettings} {recording : Bool}

/-! ### What the card takes -/

/-- The writes of a log: the fragments, with the results of
`snd_pcm_writei`. -/
def cardWrites (log : List Event) : List (Bytes × ℤ) :=
  log.filterMap fun
    | .writei buffer _ rc => some (buffer, rc)
    | _ => none

/-- The bytes of the first `rc` frames at `buffer`; `none` behind its end. -/
def takenBytes (set : StreamSettings) (buffer : Bytes) (rc : ℤ) : List (Option UInt8) :=
  (List.range (alsaFrameBytes set * rc.toNat)).map fun k => buffer[k]?

/-- The bytes the sound card took, in order. -/
def cardBytes (set : StreamSettings) (log : List Event) : List (Option UInt8) :=
  (cardWrites log).flatMap fun p => takenBytes set p.1 p.2

/-- The payloads that left the sample queue: those of the pushed packets
without those still queued. -/
def dequeued (lib : Libavtp) (set : StreamSettings) (s : ListenerState) : List Bytes :=
  ((pushedPackets s.log).map fun p => payload lib set p.2).take
    ((pushedPackets s.log).length - s.samples.length)

/-- The sound card, and the WAV file if there is one, got what left the sample
queue. -/
def ReachesCard (lib : Libavtp) (set : StreamSettings) (recording : Bool)
    (s : ListenerState) : Prop :=
  cardBytes set s.log = (dequeued lib set s).flatten.map some ∧
    (recording = true → cardBytes set s.log = (recordedBuffers s.log).flatten.map some)

/-- Every write takes all frames of its fragment, and these are the whole
fragment. -/
def TakenWhole (set : StreamSettings) (log : List Event) : Prop :=
  ∀ p ∈ cardWrites log, alsaFrameBytes set * p.2.toNat = p.1.length

theorem playedBuffers_eq (log : List Event) :
    playedBuffers log = (cardWrites log).map Prod.fst := by
  rw [playedBuffers, cardWrites, List.map_filterMap]
  congr 1
  funext e
  cases e <;> rfl

theorem LogInv.dequeued_eq {s : ListenerState} (h : LogInv lib set recording s) :
    dequeued lib set s = playedBuffers s.log := by
  have hlen := congrArg List.length h.queue
  rw [List.length_append, List.length_map, List.length_map] at hlen
  rw [dequeued, ← h.queue, ← hlen, Nat.add_sub_cancel, List.take_left]

/-! ### Fragments and what is taken of them -/

theorem takenBytes_length (set : StreamSettings) (buffer : Bytes) (rc : ℤ) :
    (takenBytes set buffer rc).length = alsaFrameBytes set * rc.toNat := by
  rw [takenBytes, List.length_map, List.length_range]

theorem takenBytes_whole {buffer : Bytes} {rc : ℤ}
    (h : alsaFrameBytes set * rc.toNat = buffer.length) :
    takenBytes set buffer rc = buffer.map some := by
  refine List.ext_getElem ?_ fun k hk hk' => ?_
  · rw [takenBytes_length, h, List.length_map]
  · rw [List.length_map] at hk'
    simp [takenBytes, hk']

/-- A write beyond the end of the fragment takes bytes that are not its own. -/
theorem none_mem_takenBytes {buffer : Bytes} {rc : ℤ}
    (h : buffer.length < alsaFrameBytes set * rc.toNat) : none ∈ takenBytes set buffer rc :=
  List.mem_map.mpr ⟨buffer.length, List.mem_range.mpr h, List.getElem?_eq_none (Nat.le_refl _)⟩

/-- Sums of pairwise smaller numbers are equal only if all of them are. -/
theorem eq_of_sum_eq {α : Type*} {f g : α → ℕ} {l : List α} (hle : ∀ a ∈ l, f a ≤ g a)
    (hsum : (l.map f).sum = (l.map g).sum) : ∀ a ∈ l, f a = g a := by
  induction l with
  | nil => nofun
  | cons b rest ih =>
      simp only [List.map_cons, List.sum_cons] at hsum
      have hb := hle b List.mem_cons_self
      have hrest : ∀ a ∈ rest, f a ≤ g a := fun a ha => hle a (List.mem_cons_of_mem _ ha)
      have hrestSum : (rest.map f).sum ≤ (rest.map g).sum := List.sum_le_sum hrest
      intro a ha
      rcases List.mem_cons.mp ha with rfl | ha
      · omega
      · exact ih hrest (by omega) a ha

/-- What is taken of some fragments is the fragments exactly when each of them
is taken whole. -/
theorem flatMap_takenBytes_iff (writes : List (Bytes × ℤ)) :
    (writes.flatMap fun p => takenBytes set p.1 p.2) = (writes.map Prod.fst).flatten.map some ↔
      ∀ p ∈ writes, alsaFrameBytes set * p.2.toNat = p.1.length := by
  constructor
  · intro heq
    refine eq_of_sum_eq (fun p hp => ?_) ?_
    · -- nothing taken is behind the end of its fragment
      by_contra hlong
      have hnone : none ∈ writes.flatMap fun p => takenBytes set p.1 p.2 :=
        List.mem_flatMap.mpr ⟨p, hp, none_mem_takenBytes (by omega)⟩
      rw [heq] at hnone
      obtain ⟨b, -, hb⟩ := List.mem_map.mp hnone
      cases hb
    · have hlen := congrArg List.length heq
      rw [List.length_flatMap, List.length_map, List.length_flatten, List.map_map] at hlen
      simp only [takenBytes_length] at hlen
      exact hlen
  · intro hwhole
    induction writes with
    | nil => rfl
    | cons p rest ih =>
        rw [List.flatMap_cons, takenBytes_whole (hwhole p List.mem_cons_self),
          ih fun q hq => hwhole q (List.mem_cons_of_mem _ hq)]
        simp

/-! ### Every run -/

theorem LogInv.reachesCard_iff {s : ListenerState} (h : LogInv lib set recording s) :
    ReachesCard lib set recording s ↔ TakenWhole set s.log := by
  have hcard : cardBytes set s.log = (playedBuffers s.log).flatten.map some ↔
      TakenWhole set s.log := by
    rw [playedBuffers_eq]
    exact flatMap_takenBytes_iff _
  rw [ReachesCard, h.dequeued_eq, h.recorded, hcard]
  refine and_iff_left_of_imp fun hwhole hrec => ?_
  rw [if_pos hrec]
  exact hcard.mpr hwhole

/-- **What reaches the sound card.**  At the top of the loop, and when it is
left by `break`: the bytes the card took are the payloads that left the sample
queue, and the bytes of the recording, exactly when every write of the run
took its whole fragment. -/
theorem listenerLoop_reachesCard_iff {tr : List (ListenerState × IterInput)} {s : ListenerState}
    (hrun : (listenerLoop lib set recording).Run tr s) :
    (ReachesCard lib set recording s ↔ TakenWhole set s.log) ∧
      ∀ (inp : IterInput) (s' : ListenerState), iteration lib set recording inp s = .brk s' →
        (ReachesCard lib set recording s' ↔ TakenWhole set s'.log) := by
  have h := logInv_run hrun
  exact ⟨h.reachesCard_iff, fun inp s' hbrk => (h.through (Or.inr hbrk)).reachesCard_iff⟩

/-- The fragment played meets an underrun: it is gone for the card, and in the
recording. -/
theorem listenerLoop_reachesCard_underrun :
    ¬ ∀ (tr : List (ListenerState × IterInput)) (s : ListenerState),
      (listenerLoop ieee1722 monoSettings true).Run tr s →
      (∀ p ∈ cardWrites s.log,
        p.2 = -epipe ∨ 0 ≤ p.2 ∧ p.2 ≤ u32 monoSettings.framesPerPdu) →
      ReachesCard ieee1722 monoSettings true s := by
  intro h
  have hexec : (runListener ieee1722 monoSettings true
      [receives ⟨10, 0⟩ (monoPacket 0 1412065408 [1, 2]),
        { timerFires with writeiRc := -epipe }]).map
      (fun s => (cardWrites s.log, dequeued ieee1722 monoSettings s))
        = some ([([1, 2], -epipe)], [[1, 2]]) := by
    decide +kernel
  obtain ⟨s, hs, hview⟩ := Option.map_eq_some_iff.mp hexec
  obtain ⟨hwrites, hgone⟩ := Prod.mk.inj hview
  obtain ⟨tr, hrun, -⟩ := runListener_run hs
  have hcard := (h tr s hrun (by rw [hwrites]; decide)).1
  rw [cardBytes, hwrites, hgone] at hcard
  revert hcard
  decide

/-- The card takes the whole fragment. -/
theorem listenerLoop_reachesCard_whole :
    ∃ tr s, (listenerLoop ieee1722 monoSettings true).Run tr s ∧
      dequeued ieee1722 monoSettings s = [[1, 2]] ∧
      ReachesCard ieee1722 monoSettings true s := by
  have hexec : (runListener ieee1722 monoSettings true
      [receives ⟨10, 0⟩ (monoPacket 0 1412065408 [1, 2]), { timerFires with writeiRc := 1 }]).map
      (fun s => (cardWrites s.log, dequeued ieee1722 monoSettings s))
        = some ([([1, 2], 1)], [[1, 2]]) := by
    decide +kernel
  obtain ⟨s, hs, hview⟩ := Option.map_eq_some_iff.mp hexec
  obtain ⟨hwrites, hgone⟩ := Prod.mk.inj hview
  obtain ⟨tr, hrun, -⟩ := runListener_run hs
  refine ⟨tr, s, hrun, hgone, (listenerLoop_reachesCard_iff hrun).1.mpr ?_⟩
  rw [TakenWhole, hwrites]
  decide

end Tram
