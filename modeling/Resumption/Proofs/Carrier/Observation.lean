/-
Observation — when two computations are the same to whoever runs them.

Two computations of a carrier may be built differently and still do the same
things.  A carrier is observed by a relation `Same` on what building a
computation came to: a panic or a computation, in some world.  For an eager
carrier this is equality; a lazy one is run on, and there a panic while building
is the failure that it becomes in the computation around it.

`Agree h h'` says that two runs of the host build the same computation in this
sense, from every world.  A lawful carrier has the laws of sequencing up to
`Agree`, and a lawful loop is its first turn followed by the rest of the loop:

| law            | says                                                          |
|----------------|---------------------------------------------------------------|
| `map_eq`       | a mapped computation hands its value to the closure           |
| `pure_bind`    | a value goes straight to what comes next                      |
| `bind_pure`    | going on with the value alone changes nothing                 |
| `bind_assoc`   | only the order of the steps matters                           |
| `chain_congr`  | the same steps in the same order are the same computation     |
| `iterate_eq`   | a loop is its first turn and then the loop from the next state |
-/
import Resumption.Carrier.Effects

namespace Resumption

universe u v w

/-- A carrier whose computations can be told apart by running them. -/
class Observed (σ : Type) (M : Type → Type u) where
  Same {α : Type} : Except Panic (M α) × σ → Except Panic (M α) × σ → Prop
  refl {α : Type} (x : Except Panic (M α) × σ) : Same x x
  symm {α : Type} {x y : Except Panic (M α) × σ} : Same x y → Same y x
  trans {α : Type} {x y z : Except Panic (M α) × σ} : Same x y → Same y z → Same x z

section Agreement

variable {σ : Type} {M : Type → Type u} [Observed σ M] {α β : Type}

/-- The two runs build the same computation, from every world. -/
def Agree (h h' : Host σ (M α)) : Prop :=
  ∀ w, Observed.Same (h w) (h' w)

namespace Agree

theorem refl (h : Host σ (M α)) : Agree h h :=
  fun w => Observed.refl (h w)

theorem of_eq {h h' : Host σ (M α)} (e : h = h') : Agree h h' :=
  e ▸ refl h

theorem symm {h h' : Host σ (M α)} (e : Agree h h') : Agree h' h :=
  fun w => Observed.symm (e w)

theorem trans {h h' h'' : Host σ (M α)} (e : Agree h h') (e' : Agree h' h'') : Agree h h'' :=
  fun w => Observed.trans (e w) (e' w)

instance : Trans (Agree (σ := σ) (M := M) (α := α)) Agree Agree := ⟨trans⟩

/-- What is built after the same run of the host is compared where that run ends. -/
theorem bind {X : Type v} (h : Host σ X) {f f' : X → Host σ (M α)}
    (e : ∀ x, Agree (f x) (f' x)) : Agree (h.bind f) (h.bind f') := by
  intro w
  unfold Host.bind
  rcases h w with ⟨p | x, w'⟩
  · exact Observed.refl _
  · exact e x w'

end Agree

/-- Builds a computation and goes on with its value. -/
def Host.chain [Carrier σ M] (h : Host σ (M α)) (k : α → Host σ (M β)) : Host σ (M β) :=
  h.bind fun m => Carrier.bind m k

/-- What a loop does with a turn: it ends, or awaits the computation of the turn
and then goes on as `again` says. -/
def Turn.proceed [Carrier σ M] {S : Type w} (again : S → Host σ (M β)) :
    Turn σ M S β → Host σ (M β)
  | .finish b => .pure (Carrier.pure σ b)
  | .await m next => Carrier.bind m fun a => (next a).bind fun
      | .left s => again s
      | .right b => .pure (Carrier.pure σ b)

end Agreement

/-- A carrier that sequences its computations lawfully, as far as can be observed. -/
class LawfulCarrier (σ : Type) (M : Type → Type u) [Carrier σ M] [Observed σ M] : Prop where
  map_eq {α β : Type} (m : M α) (f : α → Host σ β) :
    Agree (Mappable.map m f) (Carrier.bind m fun a => (f a).map (Carrier.pure σ))
  pure_bind {α β : Type} (a : α) (k : α → Host σ (M β)) :
    Agree (Carrier.bind (Carrier.pure σ a) k) (k a)
  bind_pure {α : Type} (m : M α) :
    Agree (Carrier.bind m fun a => Host.pure (σ := σ) (Carrier.pure σ a)) (.pure m)
  bind_assoc {α β γ : Type} (m : M α) (k : α → Host σ (M β)) (l : β → Host σ (M γ)) :
    Agree ((Carrier.bind m k).chain l) (Carrier.bind m fun a => (k a).chain l)
  chain_congr {α β : Type} {h h' : Host σ (M α)} {k k' : α → Host σ (M β)} :
    Agree h h' → (∀ a, Agree (k a) (k' a)) → Agree (h.chain k) (h'.chain k')

/-- A carrier whose loop is its turns one after another. -/
class LawfulLoop (σ : Type) (M : Type → Type u) [Carrier σ M] [Observed σ M]
    [Loop.{u, w} σ M] : Prop where
  iterate_eq {S : Type w} {R : S → S → Prop} {β : Type} (maps : Nat) (wf : WellFounded R)
    (step : (s : S) → Host σ (Turn σ M {t // R t s} β)) (s : S) :
    Agree (Loop.iterate maps wf step s)
      ((step s).bind (Turn.proceed fun t => Loop.iterate maps wf step t.1))

section Laws

variable {σ : Type} {M : Type → Type u} [Carrier σ M] [Observed σ M] [LawfulCarrier σ M]
  {α β γ : Type}

theorem Agree.pure_chain (a : α) (k : α → Host σ (M β)) :
    Agree ((Host.pure (Carrier.pure σ a)).chain k) (k a) :=
  LawfulCarrier.pure_bind a k

theorem Agree.chain_pure (h : Host σ (M α)) :
    Agree (h.chain fun a => Host.pure (Carrier.pure σ a)) h :=
  (Agree.bind h LawfulCarrier.bind_pure).trans (.of_eq (Host.bind_pure h))

theorem Agree.chain_assoc (h : Host σ (M α)) (k : α → Host σ (M β)) (l : β → Host σ (M γ)) :
    Agree ((h.chain k).chain l) (h.chain fun a => (k a).chain l) :=
  (Agree.of_eq (Host.bind_assoc ..)).trans (Agree.bind h fun m => LawfulCarrier.bind_assoc m k l)

theorem Agree.chain_left {h h' : Host σ (M α)} (e : Agree h h') (k : α → Host σ (M β)) :
    Agree (h.chain k) (h'.chain k) :=
  LawfulCarrier.chain_congr e fun a => .refl (k a)

theorem Agree.chain_right (h : Host σ (M α)) {k k' : α → Host σ (M β)}
    (e : ∀ a, Agree (k a) (k' a)) : Agree (h.chain k) (h.chain k') :=
  LawfulCarrier.chain_congr (.refl h) e

/-- Mapping what was built hands its value to the closure. -/
theorem Agree.bind_map (h : Host σ (M α)) (f : α → Host σ β) :
    Agree (h.bind fun m => Mappable.map m f) (h.chain fun a => (f a).map (Carrier.pure σ)) :=
  Agree.bind h fun m => LawfulCarrier.map_eq m f

/-- The same, from what the first computation came to in one world each. -/
theorem Observed.chain_left (h h' : Host σ (M α)) (w w' : σ) (e : Same (h w) (h' w'))
    (k : α → Host σ (M β)) : Same (h.chain k w) (h'.chain k w') :=
  have agree : Agree (fun _ => h w) fun _ => h' w' := fun _ => e
  agree.chain_left k w

/-- Mapping what was built and going on is going on from what the closure ends with. -/
theorem Agree.bind_map_chain (h : Host σ (M α)) (f : α → Host σ β) (k : β → Host σ (M γ)) :
    Agree ((h.bind fun m => Mappable.map m f).chain k) (h.chain fun a => (f a).bind k) := by
  refine (Agree.chain_left (Agree.bind_map h f) k).trans ?_
  refine (Agree.chain_assoc h _ k).trans (Agree.chain_right h fun a => ?_)
  refine (Agree.of_eq (Host.bind_assoc ..)).trans ?_
  exact Agree.bind (f a) fun b => Agree.pure_chain b k

/-- Mapping by a plain function and going on is going on at the function's value. -/
theorem Agree.map_chain (m : M α) (f : α → β) (k : β → Host σ (M γ)) :
    Agree ((Mappable.map m fun a => Host.pure (σ := σ) (f a)).chain k)
      (Carrier.bind m fun a => k (f a)) :=
  Agree.bind_map_chain (.pure m) (fun a => .pure (f a)) k

end Laws

/-! ## Worlds -/

/-- A world that nothing is told. -/
instance : Observer Unit where
  note _ w := w
  setClock _ w := w

/-- A world that keeps the events that it is told of. -/
structure Journal where
  events : List Event
deriving DecidableEq

instance : Observer Journal where
  note e j := ⟨j.events ++ [e]⟩
  setClock _ j := j

end Resumption
