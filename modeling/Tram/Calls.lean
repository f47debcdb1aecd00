/-
Tram/Calls.lean

Sequences of calls that may fail.

`runCalls` makes the calls one after the other and stops at the first error;
`Avoids` says of a result that it is none of the bad ones.

Calls that answer are made by `collect`.  Two systems whose single calls
correspond give corresponding answers (`collect_follows`).
-/
import Mathlib.Data.List.Basic

namespace Tram

/-- A call that follows another one has been made on its result. -/
theorem except_bind_ok {E S T : Type*} {x : Except E S} {f : S → Except E T} {t : T}
    (h : x.bind f = .ok t) : ∃ s, x = .ok s ∧ f s = .ok t := by
  rcases x with e | s
  · cases h
  · exact ⟨s, rfl, h⟩

theorem ok_bind {E S T : Type*} (a : S) (f : S → Except E T) : (Except.ok a).bind f = f a := rfl

theorem except_map_ok {E S T : Type*} {x : Except E S} {f : S → T} {t : T}
    (h : x.map f = .ok t) : ∃ s, x = .ok s ∧ f s = t := by
  rcases x with e | s
  · cases h
  · exact ⟨s, rfl, Except.ok.inj h⟩

/-! ### Sequences -/

section Sequences

variable {S C E : Type*} {run : S → C → Except E S}

/-- Make the calls one after the other. -/
def runCalls (run : S → C → Except E S) : S → List C → Except E S
  | s, [] => .ok s
  | s, c :: rest =>
      match run s c with
      | .error e => .error e
      | .ok s => runCalls run s rest

/-- The result is no bad error. -/
def Avoids (bad : E → Prop) (r : Except E S) : Prop := ∀ e, r = .error e → ¬ bad e

theorem avoids_ok {bad : E → Prop} (s : S) : Avoids bad (.ok s : Except E S) := by
  intro e he
  cases he

theorem avoids_error {bad : E → Prop} {e : E} :
    Avoids bad (.error e : Except E S) ↔ ¬ bad e := by
  constructor
  · exact fun h => h e rfl
  · intro h e' he
    cases he
    exact h

theorem runCalls_cons (s : S) (c : C) (rest : List C) :
    runCalls run s (c :: rest) = (run s c).bind fun s' => runCalls run s' rest := by
  rw [runCalls]
  rcases run s c with e | s' <;> rfl

theorem runCalls_singleton (s : S) (c : C) : runCalls run s [c] = run s c := by
  rw [runCalls]
  rcases run s c with e | s' <;> rfl

theorem bind_runCalls_nil (r : Except E S) : (r.bind fun s => runCalls run s []) = r := by
  rcases r with e | s <;> rfl

theorem runCalls_append (s : S) (calls calls' : List C) :
    runCalls run s (calls ++ calls')
      = (runCalls run s calls).bind fun s' => runCalls run s' calls' := by
  induction calls generalizing s with
  | nil => rfl
  | cons c rest ih =>
      rw [List.cons_append, runCalls_cons, runCalls_cons]
      rcases run s c with e | s'
      · rfl
      · exact ih s'

end Sequences

/-! ### Answers -/

section Answers

variable {S T A B C E F : Type*} {call : S → C → Except E (A × S)} {call' : T → C → Except F (B × T)}

/-- Make the calls one after the other, up to the first error, and collect the
answers. -/
def collect (call : S → C → Except E (A × S)) : S → List C → List A × Except E S
  | s, [] => ([], .ok s)
  | s, c :: rest =>
      match call s c with
      | .error e => ([], .error e)
      | .ok (a, s) => (a :: (collect call s rest).1, (collect call s rest).2)

/-- Both calls end, in the answers `a` and `f a` and in related states, or in
the errors `e` and `g e`. -/
inductive Follows (f : A → B) (g : E → F) (R : S → T → Prop) :
    Except E (A × S) → Except F (B × T) → Prop
  | ok {a s t} : R s t → Follows f g R (.ok (a, s)) (.ok (f a, t))
  | error {e} : Follows f g R (.error e) (.error (g e))

theorem Follows.map {f : A → B} {g : E → F} {R : S → T → Prop} {x : Except E (A × S)}
    {y : Except F (B × T)} (h : Follows f g R x y) {A' B' : Type*} {f' : A' → B'} (k : A → A')
    (k' : B → B') (hk : ∀ a, k' (f a) = f' (k a)) :
    Follows f' g R (x.map fun p => (k p.1, p.2)) (y.map fun p => (k' p.1, p.2)) := by
  cases h with
  | @ok a s t hR =>
      show Follows f' g R (.ok (k a, s)) (.ok (k' (f a), t))
      rw [hk]
      exact .ok hR
  | error => exact .error

/-- Calls that correspond one by one do so in sequences. -/
theorem collect_follows {f : A → B} {g : E → F} {R : S → T → Prop} {K : C → Prop}
    (hcall : ∀ s t c, R s t → K c → Follows f g R (call s c) (call' t c)) :
    ∀ {s : S} {t : T} {calls : List C}, R s t → (∀ c ∈ calls, K c) →
      (collect call' t calls).1 = (collect call s calls).1.map f ∧
        ((∃ s' t', (collect call s calls).2 = .ok s' ∧ (collect call' t calls).2 = .ok t' ∧
            R s' t') ∨
          ∃ e, (collect call s calls).2 = .error e ∧ (collect call' t calls).2 = .error (g e)) := by
  intro s t calls
  induction calls generalizing s t with
  | nil => exact fun hR _ => ⟨rfl, .inl ⟨s, t, rfl, rfl, hR⟩⟩
  | cons c rest ih =>
      intro hR hK
      have hfirst := hcall s t c hR (hK c List.mem_cons_self)
      rcases hs : call s c with e | ⟨a, s₁⟩ <;> rcases ht : call' t c with e' | ⟨b, t₁⟩ <;>
        rw [hs, ht] at hfirst <;> cases hfirst
      · simp only [collect, hs, ht]
        exact ⟨rfl, .inr ⟨e, rfl, rfl⟩⟩
      · rename_i hR₁
        obtain ⟨hanswers, hend⟩ := ih hR₁ fun c' hc' => hK c' (List.mem_cons_of_mem _ hc')
        simp only [collect, hs, ht]
        exact ⟨congrArg (f a :: ·) hanswers, hend⟩

end Answers

end Tram
