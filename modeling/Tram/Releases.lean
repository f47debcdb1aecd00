/-
Tram/Releases.lean

What the two nodes release before they return.

Behind the label `end` everything is released, so a node cleans up when it
gets there with everything acquired.  The early returns close the descriptors
but leave the terminal as it is; and the talker jumps to `end` from before the
sound card is opened when it finds no interface.
-/
import Tram.ExitStatus

namespace Tram

theorem KeepsTerminal.not_matched {log : List (Use Resource)} (h : KeepsTerminal log) :
    ¬ Matched log := by
  refine not_matched_of_count .terminal ?_
  rw [h.1, h.2]
  decide

/-- The three releases of the talker, of what it has acquired. -/
theorem talkerEnd_matched (res fd : ℤ) :
    Matched (talkerEnd res fd ([.terminal, .descriptor fd, .pcm].map Use.acquire)).2 :=
  matched_of_perm (List.reverse_perm [Resource.terminal, .descriptor fd, .pcm])

/-- The sound card is closed without having been opened. -/
theorem talkerEnd_not_matched (res fd : ℤ) :
    ¬ Matched (talkerEnd res fd [.acquire .terminal, .acquire (.descriptor fd)]).2 :=
  not_matched_of_count .pcm (by simp [talkerEnd])

theorem ListenerVars.releases_perm (vars : ListenerVars) :
    vars.releases.Perm vars.resources := by
  rw [List.perm_iff_count]
  intro r
  simp only [ListenerVars.releases, ListenerVars.resources, List.count_append, List.count_cons,
    List.count_nil]
  omega

variable {lib : Libavtp} {ops : DoubleOps} {set : StreamSettings}

theorem TalkerReturns.matched_iff {priority : ℤ} {calls : TalkerCalls}
    {tr : List (TalkerState × TalkerInput)} {cause : Cause} {r : ℤ × List (Use Resource)}
    (h : TalkerReturns lib priority set calls tr cause r) :
    Matched r.2 ↔ calls.SocketOk priority ∧ calls.ioctlOk = true := by
  cases h with
  | early hstart =>
      obtain ⟨-, hno, hkeeps⟩ := talkerStart_returns hstart
      exact iff_of_false hkeeps.not_matched fun hok => hno hok.1
  | noAddress hstart =>
      obtain ⟨-, hno, rfl⟩ := talkerStart_goEnd hstart
      exact iff_of_false (talkerEnd_not_matched _ _) fun hok =>
        Bool.false_ne_true (hno.symm.trans hok.2)
  | noPdu hstart =>
      obtain ⟨hok, hioctl, -, rfl⟩ := talkerStart_ready hstart
      exact iff_of_true (talkerEnd_matched _ _) ⟨hok, hioctl⟩
  | loop hstart =>
      obtain ⟨hok, hioctl, -, rfl⟩ := talkerStart_ready hstart
      exact iff_of_true (talkerEnd_matched _ _) ⟨hok, hioctl⟩

/-- Every way through `end` releases what the listener holds. -/
theorem listenerEnd_matched {calls : ListenerCalls} {vars : ListenerVars} {stats : StatsHandler}
    {r : ℤ × List (Use Resource)} (hholds : vars.Holds)
    (h : listenerEnd ops calls vars stats = some r) : Matched r.2 := by
  rw [(listenerEnd_some h).2, hholds]
  exact matched_of_perm vars.releases_perm

theorem ListenerReturns.matched_iff {calls : ListenerCalls} {recTime : ℤ} {filename : String}
    {tr : List (ListenerState × IterInput)} {cause : Cause} {r : ℤ × List (Use Resource)}
    (h : ListenerReturns lib ops set calls recTime filename tr cause r) :
    Matched r.2 ↔ calls.DescriptorsOk := by
  have hthrough : ∀ {vars : ListenerVars} {stats : StatsHandler},
      listenerStart set calls recTime filename = .goEnd vars ∨
        listenerStart set calls recTime filename = .ready vars →
      listenerEnd ops calls vars stats = some r → (Matched r.2 ↔ calls.DescriptorsOk) := by
    intro vars stats hstart hend
    obtain ⟨hok, -, hholds⟩ := listenerStart_holds hstart
    exact iff_of_true (listenerEnd_matched hholds hend) hok
  cases h with
  | early hstart =>
      obtain ⟨-, hno, hkeeps⟩ := listenerStart_returns hstart
      exact iff_of_false hkeeps.not_matched hno
  | noSetup hstart hend => exact hthrough (Or.inl hstart) hend
  | brk hstart _ _ hend => exact hthrough (Or.inr hstart) hend
  | goEnd hstart _ _ hend => exact hthrough (Or.inr hstart) hend

/-- **Cleanup.**  Whenever a node returns, it has released what it has
acquired, each resource once and the PCM handle only if it was opened, exactly
when its socket was set up and, for the talker, the interface found, for the
listener, both timers created. -/
theorem node_releases_iff (lib : Libavtp) (ops : DoubleOps) (set : StreamSettings) :
    (∀ priority calls tr cause r, TalkerReturns lib priority set calls tr cause r →
        (Matched r.2 ↔ calls.SocketOk priority ∧ calls.ioctlOk = true)) ∧
      ∀ calls recTime filename tr cause r,
        ListenerReturns lib ops set calls recTime filename tr cause r →
        (Matched r.2 ↔ calls.DescriptorsOk) :=
  ⟨fun _ _ _ _ _ h => h.matched_iff, fun _ _ _ _ _ _ h => h.matched_iff⟩

/-- The talker finds no interface; the listener gets no timer. -/
theorem node_releases_noInterface :
    (¬ ∀ priority set calls tr cause r,
        TalkerReturns ieee1722 priority set calls tr cause r → Matched r.2) ∧
      ¬ ∀ set calls recTime filename tr cause r,
        ListenerReturns ieee1722 natOps set calls recTime filename tr cause r → Matched r.2 := by
  constructor
  · intro h
    have hstart : talkerStart 2 monoSettings { monoTalkerCalls with ioctlOk := false }
        = .goEnd (-1) 3 [.acquire .terminal, .acquire (.descriptor 3)] := by
      decide
    exact talkerEnd_not_matched (-1) 3 (h _ _ _ _ _ _ (.noAddress hstart))
  · intro h
    have hstart : listenerStart monoSettings { monoListenerCalls with timer := -1 } 0 ""
        = .returns 1 [.acquire .terminal, .acquire (.descriptor 3), .release (.descriptor 3)] := by
      decide
    exact (KeepsTerminal.not_matched ⟨by decide, by decide⟩) (h _ _ _ _ _ _ _ (.early hstart))

/-- Both are left by the escape key. -/
theorem node_releases_escape :
    (∃ tr r, TalkerReturns ieee1722 2 monoSettings monoTalkerCalls tr .left r ∧ Matched r.2) ∧
      ∃ tr r, ListenerReturns ieee1722 natOps monoSettings monoListenerCalls 0 "" tr .left r ∧
        Matched r.2 := by
  have hiff := node_releases_iff ieee1722 natOps monoSettings
  constructor
  · obtain ⟨r, hreturns, -⟩ := @monoTalker_returns ⟨1, [1, 2], some ⟨10, 0⟩, 26, some 27⟩ .brk
      (by decide +kernel)
    exact ⟨_, r, hreturns, (hiff.1 2 monoTalkerCalls _ _ r hreturns).mpr
      ⟨⟨by decide, Or.inr rfl⟩, rfl⟩⟩
  · obtain ⟨tr, s, hrun, hbrk, hsome⟩ := monoListener_run
    obtain ⟨r, hend⟩ := Option.isSome_iff_exists.mp hsome
    have hreturns : ListenerReturns ieee1722 natOps monoSettings monoListenerCalls 0 "" _ .left r :=
      .brk monoListener_start hrun hbrk hend
    exact ⟨_, r, hreturns, (hiff.2 monoListenerCalls 0 "" _ _ r hreturns).mpr
      ⟨by decide, rfl, rfl, rfl, by decide, by decide⟩⟩

end Tram
