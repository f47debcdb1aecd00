/-
Tram/Channel.lean

Two machines with a channel between them.

The sender puts messages behind those in flight, the receiver takes the first
one, and in between the channel does what its discipline allows.  A discipline
is a preorder on sequences of messages that is kept by putting sequences one
behind the other, so it relates all that was ever sent to what has been heard
and what is still in flight (`link_becomes`).

What a machine sends or takes is observed beside its state, and a run of the
two is a run of each of them (`link_sender`, `link_receiver`): what is known of
their own runs holds here too.
-/
import Tram.Runs

namespace Tram

/-! ### Observed machines -/

/-- A state with the messages seen so far. -/
structure Observed (S M : Type*) where
  state : S
  seen : List M

namespace Machine

variable {S L M : Type*}

/-- The machine with the messages `out` of its steps. -/
def observe (A : Machine S L) (out : S → L → S → List M) : Machine (Observed S M) L where
  init := fun o => A.init o.state ∧ o.seen = []
  step := fun o l o' => A.step o.state l o'.state ∧ o'.seen = o.seen ++ out o.state l o'.state

/-- The history without the observations. -/
def plain (tr : List (Observed S M × L)) : List (S × L) := tr.map fun p => (p.1.state, p.2)

theorem all_plain {Good : S → L → Prop} {tr : List (Observed S M × L)} :
    All Good (plain tr) ↔ All (fun o l => Good o.state l) tr := by
  rw [plain, All, List.forall_mem_map]
  exact Iff.rfl

/-- Observing does not change the runs. -/
theorem Run.unobserve {A : Machine S L} {out : S → L → S → List M}
    {tr : List (Observed S M × L)} {o : Observed S M} (hrun : (A.observe out).Run tr o) :
    A.Run (plain tr) o.state := by
  induction hrun with
  | start h => exact .start h.1
  | next _ h ih =>
      rw [plain, List.map_append]
      exact ih.next h.1

end Machine

/-! ### Disciplines -/

/-- What may become of a sequence of messages. -/
structure Discipline (M : Type*) where
  Becomes : List M → List M → Prop
  refl : ∀ ms, Becomes ms ms
  trans : ∀ {a b c}, Becomes a b → Becomes b c → Becomes a c
  append : ∀ {a b a' b'}, Becomes a a' → Becomes b b' → Becomes (a ++ b) (a' ++ b')

namespace Discipline

variable {M : Type*}

/-- Every message arrives, in order. -/
def faithful : Discipline M where
  Becomes := fun a b => b = a
  refl := fun _ => rfl
  trans := fun h h' => h'.trans h
  append := by
    rintro _ _ _ _ rfl rfl
    rfl

/-- Messages get lost; the others stay in order. -/
def lossy : Discipline M where
  Becomes := fun a b => List.Sublist b a
  refl := List.Sublist.refl
  trans := fun h h' => h'.trans h
  append := List.Sublist.append

/-- The discipline on a medium used by others too: it holds for the messages
of one's own. -/
def shared (D : Discipline M) (own : M → Bool) : Discipline M where
  Becomes := fun a b => D.Becomes (a.filter own) (b.filter own)
  refl := fun _ => D.refl _
  trans := D.trans
  append := by
    intro a b a' b' h h'
    rw [List.filter_append, List.filter_append]
    exact D.append h h'

end Discipline

/-! ### The link -/

/-- Sender, messages in flight and receiver. -/
structure Linked (S M R : Type*) where
  sender : Observed S M
  flight : List M
  receiver : Observed R M

/-- The party that moves. -/
inductive LinkLabel (LS LR : Type*)
  | send (l : LS)
  /-- The channel. -/
  | net
  | receive (l : LR)

namespace Machine

variable {S M R LS LR : Type*} {A : Machine S LS} {B : Machine R LR} {D : Discipline M}
  {emits : S → LS → S → List M} {takes : LR → Option M}

/-- The machine of a sender and a receiver over a channel.  `emits` are the
messages a step of the sender puts on the channel, `takes` is the one a step of
the receiver takes from it. -/
def link (A : Machine S LS) (B : Machine R LR) (D : Discipline M) (emits : S → LS → S → List M)
    (takes : LR → Option M) : Machine (Linked S M R) (LinkLabel LS LR) where
  init := fun g => (A.observe emits).init g.sender ∧ g.flight = [] ∧
    (B.observe fun _ l _ => (takes l).toList).init g.receiver
  step := fun g l g' =>
    match l with
    | .send l =>
        (A.observe emits).step g.sender l g'.sender ∧
          g'.flight = g.flight ++ emits g.sender.state l g'.sender.state ∧
          g'.receiver = g.receiver
    | .net => g'.sender = g.sender ∧ D.Becomes g.flight g'.flight ∧ g'.receiver = g.receiver
    | .receive l =>
        g'.sender = g.sender ∧ g.flight = (takes l).toList ++ g'.flight ∧
          (B.observe fun _ l _ => (takes l).toList).step g.receiver l g'.receiver

/-- The steps of the sender. -/
def senderPart (tr : List (Linked S M R × LinkLabel LS LR)) : List (Observed S M × LS) :=
  tr.filterMap fun p =>
    match p.2 with
    | .send l => some (p.1.sender, l)
    | _ => none

/-- The steps of the receiver. -/
def receiverPart (tr : List (Linked S M R × LinkLabel LS LR)) : List (Observed R M × LR) :=
  tr.filterMap fun p =>
    match p.2 with
    | .receive l => some (p.1.receiver, l)
    | _ => none

/-- A condition on the steps of the sender. -/
def OnSend (Good : S → LS → Prop) : Linked S M R → LinkLabel LS LR → Prop
  | g, .send l => Good g.sender.state l
  | _, _ => True

/-- A condition on the steps of the receiver. -/
def OnReceive (Good : R → LR → Prop) : Linked S M R → LinkLabel LS LR → Prop
  | g, .receive l => Good g.receiver.state l
  | _, _ => True

instance {Good : S → LS → Prop} [∀ s l, Decidable (Good s l)] (g : Linked S M R) :
    (l : LinkLabel LS LR) → Decidable (OnSend Good g l)
  | .send l => inferInstanceAs (Decidable (Good g.sender.state l))
  | .net | .receive _ => inferInstanceAs (Decidable True)

instance {Good : R → LR → Prop} [∀ r l, Decidable (Good r l)] (g : Linked S M R) :
    (l : LinkLabel LS LR) → Decidable (OnReceive Good g l)
  | .receive l => inferInstanceAs (Decidable (Good g.receiver.state l))
  | .net | .send _ => inferInstanceAs (Decidable True)

theorem All.sender {Good : S → LS → Prop} {tr : List (Linked S M R × LinkLabel LS LR)}
    (h : All (OnSend Good) tr) : All Good (plain (senderPart tr)) := by
  refine all_plain.mpr fun p hp => ?_
  obtain ⟨⟨g, l⟩, hmem, hl⟩ := List.mem_filterMap.mp hp
  cases l with
  | send l =>
      obtain rfl := Option.some.inj hl
      exact h _ hmem
  | net | receive => cases hl

theorem All.receiver {Good : R → LR → Prop} {tr : List (Linked S M R × LinkLabel LS LR)}
    (h : All (OnReceive Good) tr) : All Good (plain (receiverPart tr)) := by
  refine all_plain.mpr fun p hp => ?_
  obtain ⟨⟨g, l⟩, hmem, hl⟩ := List.mem_filterMap.mp hp
  cases l with
  | receive l =>
      obtain rfl := Option.some.inj hl
      exact h _ hmem
  | net | send => cases hl

/-- The sender runs as it does alone. -/
theorem Run.link_sender {tr : List (Linked S M R × LinkLabel LS LR)} {g : Linked S M R}
    (hrun : (link A B D emits takes).Run tr g) :
    (A.observe emits).Run (senderPart tr) g.sender := by
  induction hrun with
  | start h => exact .start h.1
  | @next tr g l g' _ h ih =>
      rw [senderPart, List.filterMap_append]
      cases l with
      | send l => exact ih.next h.1
      | net | receive =>
          rw [h.1]
          exact (List.append_nil (senderPart tr)).symm ▸ ih

/-- The receiver runs as it does alone. -/
theorem Run.link_receiver {tr : List (Linked S M R × LinkLabel LS LR)} {g : Linked S M R}
    (hrun : (link A B D emits takes).Run tr g) :
    (B.observe fun _ l _ => (takes l).toList).Run (receiverPart tr) g.receiver := by
  induction hrun with
  | start h => exact .start h.2.2
  | @next tr g l g' _ h ih =>
      rw [receiverPart, List.filterMap_append]
      cases l with
      | receive l => exact ih.next h.2.2
      | net | send =>
          rw [h.2.2]
          exact (List.append_nil (receiverPart tr)).symm ▸ ih

/-- **What becomes of the messages.**  In every run the messages heard and
those in flight are what the discipline lets become of the messages sent. -/
theorem Run.link_becomes {tr : List (Linked S M R × LinkLabel LS LR)} {g : Linked S M R}
    (hrun : (link A B D emits takes).Run tr g) :
    D.Becomes g.sender.seen (g.receiver.seen ++ g.flight) := by
  induction hrun with
  | @start g h =>
      obtain ⟨⟨-, hsent⟩, hflight, -, hheard⟩ := h
      rw [hsent, hflight, hheard]
      exact D.refl []
  | @next tr g l g' _ h ih =>
      cases l with
      | send l =>
          obtain ⟨⟨-, hsent⟩, hflight, hreceiver⟩ := h
          rw [hsent, hflight, hreceiver, ← List.append_assoc]
          exact D.append ih (D.refl _)
      | net =>
          obtain ⟨hsender, hflight, hreceiver⟩ := h
          rw [hsender, hreceiver]
          exact D.trans ih (D.append (D.refl _) hflight)
      | receive l =>
          obtain ⟨hsender, hflight, -, hheard⟩ := h
          rw [hsender, hheard, List.append_assoc, ← hflight]
          exact ih

/-- The receiver may go on alone as long as it takes no message. -/
theorem Run.link_alone {next : R → LR → Option R} (hnext : ∀ r l r', next r l = some r' → B.step r l r')
    {ls : List LR} (hnone : ∀ l ∈ ls, takes l = none) :
    ∀ {tr : List (Linked S M R × LinkLabel LS LR)} {g : Linked S M R} {r : R},
      (link A B D emits takes).Run tr g → Machine.execute next g.receiver.state ls = some r →
      ∃ tr', (link A B D emits takes).Run (tr ++ tr')
          { g with receiver := ⟨r, g.receiver.seen⟩ } ∧ senderPart tr' = [] := by
  induction ls with
  | nil =>
      intro tr g r hrun h
      obtain rfl := Option.some.inj h
      exact ⟨[], by rwa [List.append_nil], rfl⟩
  | cons l rest ih =>
      intro tr g r hrun h
      rcases hs : next g.receiver.state l with - | r₁
      · simp [Machine.execute, hs] at h
      · simp only [Machine.execute, hs] at h
        have hl : (takes l).toList = [] := by
          rw [hnone l List.mem_cons_self]
          rfl
        have hstep : (link A B D emits takes).step g (.receive l)
            { g with receiver := ⟨r₁, g.receiver.seen⟩ } := by
          refine ⟨rfl, ?_, hnext _ _ _ hs, ?_⟩
          · rw [hl]
            rfl
          · show g.receiver.seen = g.receiver.seen ++ (takes l).toList
            rw [hl, List.append_nil]
        obtain ⟨tr', hrun', hsender⟩ := ih (fun l' hl' => hnone l' (List.mem_cons_of_mem _ hl'))
          (hrun.next hstep) h
        refine ⟨(g, .receive l) :: tr', ?_, hsender⟩
        rwa [List.append_assoc] at hrun'

/-! ### Executing a link -/

/-- One step of the link, where both ends have step functions and the channel
does nothing. -/
def linkNext [DecidableEq M] (nextA : S → LS → Option S) (nextB : R → LR → Option R)
    (emits : S → LS → S → List M) (takes : LR → Option M) (g : Linked S M R) :
    LinkLabel LS LR → Option (Linked S M R)
  | .send l =>
      (nextA g.sender.state l).map fun s =>
        { g with
          sender := ⟨s, g.sender.seen ++ emits g.sender.state l s⟩
          flight := g.flight ++ emits g.sender.state l s }
  | .net => some g
  | .receive l =>
      if (takes l).toList <+: g.flight then
        (nextB g.receiver.state l).map fun r =>
          { g with
            flight := g.flight.drop (takes l).toList.length
            receiver := ⟨r, g.receiver.seen ++ (takes l).toList⟩ }
      else none

theorem linkNext_step [DecidableEq M] {nextA : S → LS → Option S} {nextB : R → LR → Option R}
    (hA : ∀ s l s', nextA s l = some s' → A.step s l s')
    (hB : ∀ r l r', nextB r l = some r' → B.step r l r') {g g' : Linked S M R}
    {l : LinkLabel LS LR} (h : linkNext nextA nextB emits takes g l = some g') :
    (link A B D emits takes).step g l g' := by
  cases l with
  | send l =>
      obtain ⟨s, hs, rfl⟩ := Option.map_eq_some_iff.mp h
      exact ⟨⟨hA _ _ _ hs, rfl⟩, rfl, rfl⟩
  | net =>
      obtain rfl := Option.some.inj h
      exact ⟨rfl, D.refl _, rfl⟩
  | receive l =>
      obtain ⟨hbegin, h⟩ := Option.ite_none_right_eq_some.mp h
      obtain ⟨r, hr, rfl⟩ := Option.map_eq_some_iff.mp h
      obtain ⟨rest, hrest⟩ := hbegin
      refine ⟨rfl, ?_, hB _ _ _ hr, rfl⟩
      rw [← hrest, List.drop_left]

end Machine

end Tram
