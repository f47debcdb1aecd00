/-
Tram/Runs.lean

Runs of a labelled transition system, with their history.

A run records, for every step, the state it was taken from and its label, so
that a condition on the steps of a run is a condition on the pairs in its
history, and a count or a log kept beside the state is a function of the
history.  `Run.invariant` is the invariant rule under such a condition;
`Run.history_invariant` is the same rule for a relation between the history
and the state reached.
-/
import Mathlib.Data.List.Basic

namespace Tram

/-- A labelled transition system. -/
structure Machine (S L : Type*) where
  init : S → Prop
  step : S → L → S → Prop

namespace Machine

variable {S L : Type*} {M : Machine S L}

/-- `M.Run tr s`: some run of `M` with history `tr` ends in `s`. -/
inductive Run (M : Machine S L) : List (S × L) → S → Prop
  | start {s : S} : M.init s → Run M [] s
  | next {tr : List (S × L)} {s : S} {l : L} {s' : S} :
      Run M tr s → M.step s l s' → Run M (tr ++ [(s, l)]) s'

/-- Every step of a history satisfies `Good`. -/
def All (Good : S → L → Prop) (tr : List (S × L)) : Prop := ∀ p ∈ tr, Good p.1 p.2

theorem All.nil {Good : S → L → Prop} : All Good [] := by
  intro p hp
  cases hp

theorem all_append {Good : S → L → Prop} {tr tr' : List (S × L)} :
    All Good (tr ++ tr') ↔ All Good tr ∧ All Good tr' := by
  constructor
  · intro h
    exact ⟨fun p hp => h p (List.mem_append_left _ hp),
      fun p hp => h p (List.mem_append_right _ hp)⟩
  · rintro ⟨h, h'⟩ p hp
    exact (List.mem_append.mp hp).elim (h p) (h' p)

theorem all_snoc {Good : S → L → Prop} {tr : List (S × L)} {s : S} {l : L} :
    All Good (tr ++ [(s, l)]) ↔ All Good tr ∧ Good s l := by
  rw [all_append]
  refine and_congr_right fun _ => ⟨fun h => h (s, l) (List.mem_singleton_self _), ?_⟩
  intro h p hp
  rw [List.mem_singleton.mp hp]
  exact h

/-! ### Invariant rules -/

/-- A relation between history and state that holds at the start and is kept
by every good step holds at the end of every run of good steps. -/
theorem Run.history_invariant {Good : S → L → Prop} {I : List (S × L) → S → Prop}
    (hinit : ∀ s, M.init s → I [] s)
    (hstep : ∀ tr s l s', M.Run tr s → All Good tr → I tr s → Good s l → M.step s l s' →
      I (tr ++ [(s, l)]) s')
    {tr : List (S × L)} {s : S} (hrun : M.Run tr s) (hgood : All Good tr) : I tr s := by
  induction hrun with
  | start h => exact hinit _ h
  | next hrun h ih =>
      obtain ⟨htr, hlast⟩ := all_snoc.mp hgood
      exact hstep _ _ _ _ hrun htr (ih htr) hlast h

/-- The invariant rule for runs of good steps. -/
theorem Run.invariant {Good : S → L → Prop} {I : S → Prop}
    (hinit : ∀ s, M.init s → I s)
    (hstep : ∀ s l s', I s → Good s l → M.step s l s' → I s')
    {tr : List (S × L)} {s : S} (hrun : M.Run tr s) (hgood : All Good tr) : I s :=
  Run.history_invariant (I := fun _ s => I s) hinit
    (fun _ s l s' _ _ hI hg h => hstep s l s' hI hg h) hrun hgood

/-- The invariant rule without a condition on the steps. -/
theorem Run.invariant_of_step {I : S → Prop} (hinit : ∀ s, M.init s → I s)
    (hstep : ∀ s l s', I s → M.step s l s' → I s')
    {tr : List (S × L)} {s : S} (hrun : M.Run tr s) : I s := by
  induction hrun with
  | start h => exact hinit _ h
  | next _ h ih => exact hstep _ _ _ ih h

/-- A run whose good steps can be taken under other labels too is a run under
these labels. -/
theorem Run.relabel {Good : S → L → Prop} {f : S → L → L}
    (hstep : ∀ s l s', Good s l → M.step s l s' → M.step s (f s l) s')
    {tr : List (S × L)} {s : S} (hrun : M.Run tr s) (hgood : All Good tr) :
    M.Run (tr.map fun p => (p.1, f p.1 p.2)) s := by
  induction hrun with
  | start h => exact .start h
  | next _ h ih =>
      obtain ⟨htr, hlast⟩ := all_snoc.mp hgood
      rw [List.map_append]
      exact (ih htr).next (hstep _ _ _ hlast h)

/-! ### Executing a list of labels -/

/-- Follow a step function along a list of labels. -/
def execute (next : S → L → Option S) : S → List L → Option S
  | s, [] => some s
  | s, l :: rest =>
      match next s l with
      | none => none
      | some s' => execute next s' rest

/-- An execution extends a run, with the executed labels in its history. -/
theorem Run.execute {next : S → L → Option S}
    (hnext : ∀ s l s', next s l = some s' → M.step s l s') {ls : List L} :
    ∀ {tr : List (S × L)} {s s' : S}, M.Run tr s → Machine.execute next s ls = some s' →
      ∃ tr', M.Run (tr ++ tr') s' ∧ tr'.map Prod.snd = ls := by
  induction ls with
  | nil =>
      intro tr s s' hrun h
      obtain rfl := Option.some.inj h
      exact ⟨[], by rwa [List.append_nil], rfl⟩
  | cons l rest ih =>
      intro tr s s' hrun h
      rcases hs : next s l with - | s₁
      · simp [Machine.execute, hs] at h
      · simp only [Machine.execute, hs] at h
        obtain ⟨tr', hrun', hls⟩ := ih (hrun.next (hnext s l s₁ hs)) h
        refine ⟨(s, l) :: tr', ?_, ?_⟩
        · rwa [List.append_assoc] at hrun'
        · rw [List.map_cons, hls]

/-- The machine with the good steps only. -/
def restrict (M : Machine S L) (Good : S → L → Prop) : Machine S L where
  init := M.init
  step := fun s l s' => Good s l ∧ M.step s l s'

/-- Its runs are the runs of good steps. -/
theorem Run.of_restrict {Good : S → L → Prop} {tr : List (S × L)} {s : S}
    (h : (M.restrict Good).Run tr s) : M.Run tr s ∧ All Good tr := by
  induction h with
  | start h => exact ⟨.start h, All.nil⟩
  | next _ hstep ih => exact ⟨ih.1.next hstep.2, all_snoc.mpr ⟨ih.2, hstep.1⟩⟩

/-- An execution that checks every step is a run of good steps. -/
theorem Run.execute_good {next : S → L → Option S} {Good : S → L → Prop}
    [∀ s l, Decidable (Good s l)] (hnext : ∀ s l s', next s l = some s' → M.step s l s')
    {ls : List L} {s s' : S} (hinit : M.init s)
    (h : Machine.execute (fun s l => if Good s l then next s l else none) s ls = some s') :
    ∃ tr, M.Run tr s' ∧ All Good tr ∧ tr.map Prod.snd = ls := by
  have hstep : ∀ s l s', (if Good s l then next s l else none) = some s' →
      (M.restrict Good).step s l s' := by
    intro s l s' hs
    obtain ⟨hgood, hs⟩ := Option.ite_none_right_eq_some.mp hs
    exact ⟨hgood, hnext s l s' hs⟩
  obtain ⟨tr, hrun, hls⟩ := Run.execute hstep (M := M.restrict Good) (.start hinit) h
  obtain ⟨hrun', hgood⟩ := hrun.of_restrict
  exact ⟨tr, hrun', hgood, hls⟩

/-- A condition on the labels of a history. -/
theorem all_of_labels {P : L → Prop} {tr : List (S × L)} (h : ∀ l ∈ tr.map Prod.snd, P l) :
    All (fun _ l => P l) tr :=
  fun p hp => h p.2 (List.mem_map_of_mem hp)

end Machine

end Tram
