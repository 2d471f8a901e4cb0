/-
Layered — a layer of early exits over a base carrier.

A layered computation is a base computation whose value says whether it exited
early (left) or went on (right).  A route says how raised errors travel:

| route   | `raise e`            | `handle`                                    |
|---------|----------------------|---------------------------------------------|
| `layer` | a left of the layer  | sees lefts of the layer                     |
| `base`  | an error of the base | sees errors of the base, lefts pass through |

Layers of either route hold the same computations; `Layered.rerouted` changes
the route and nothing else.
-/
import Resumption.Carrier.Errors
import Resumption.Carrier.Perform

namespace Resumption

universe u w

/-- How raised errors travel through a layered computation. -/
inductive Route where
  | layer
  | base
deriving DecidableEq

/-- The other way. -/
def Route.other : Route → Route
  | layer => base
  | base => layer

/-- A computation of `M` that may exit early with an `ε`. -/
structure Layered (route : Route) (M : Type → Type u) (ε α : Type) : Type u where
  base : M (Either ε α)

namespace Layered

variable {σ : Type} {route : Route} {M : Type → Type u} {ε ε' α β γ : Type}

/-- The same computation with another route for errors. -/
def rerouted (route' : Route) (m : Layered route M ε α) : Layered route' M ε α :=
  ⟨m.base⟩

section Mapping

variable [Mappable σ M]

/-- Transforms both sides of the value. -/
def bimap (m : Layered route M ε α) (f : ε → Host σ ε') (g : α → Host σ β) :
    Host σ (Layered route M ε' β) :=
  (Mappable.map m.base (Either.bimap f g)).map mk

/-- Transforms the value of a computation that went on. -/
def map (m : Layered route M ε α) (f : α → Host σ β) : Host σ (Layered route M ε β) :=
  m.bimap (σ := σ) .pure f

/-- Transforms the value of an early exit. -/
def mapLeft (m : Layered route M ε α) (f : ε → Host σ ε') : Host σ (Layered route M ε' α) :=
  m.bimap (σ := σ) f .pure

/-- Exchanges early exits and values. -/
def swap (m : Layered route M ε α) : Host σ (Layered route M α ε) :=
  (Mappable.map m.base fun e => Host.pure (σ := σ) e.swap).map mk

/-- A base computation; its value went on. -/
def lift (m : M α) : Host σ (Layered route M ε α) :=
  (Mappable.map m fun a => Host.pure (σ := σ) (Either.right a)).map mk

/-- Collapses both sides into a value of the base. -/
def fold (m : Layered route M ε α) (f : ε → Host σ β) (g : α → Host σ β) : Host σ (M β) :=
  Mappable.map m.base (Either.fold f g)

/-- The value, or one computed from the early exit. -/
def getOrElse (m : Layered route M ε α) (f : ε → Host σ α) : Host σ (M α) :=
  m.fold f .pure

end Mapping

section Binding

variable [Carrier σ M]

variable (σ) in
/-- A plain value of either side. -/
def ofEither (e : Either ε α) : Layered route M ε α :=
  ⟨Carrier.pure σ e⟩

/-- Goes on with a function into the base. -/
def bindBase (m : Layered route M ε α) (k : α → Host σ (M (Either ε β))) :
    Host σ (Layered route M ε β) :=
  (Carrier.bind m.base (Either.fold (fun e => .pure (Carrier.pure σ (.left e))) k)).map mk

/-- Goes on with the value; an early exit stays. -/
def bind (m : Layered route M ε α) (k : α → Host σ (Layered route M ε β)) :
    Host σ (Layered route M ε β) :=
  m.bindBase fun a => (k a).map base

instance : Carrier σ (Layered route M ε) where
  map := map
  pure a := ofEither σ (.right a)
  bind := bind

instance : ErrorChannel σ (Layered .layer M ε) ε where
  raise e := ofEither σ (.left e)
  handle m f := (Carrier.bind m.base (Either.fold (fun e => (f e).map base)
    fun a => .pure (Carrier.pure σ (.right a)))).map mk

/-- A turn of a loop in the layer, as a turn of a loop in the base: an early exit
ends the loop. -/
def baseTurn {S : Type w} :
    Turn σ (Layered route M ε) S β → Turn σ M S (Either ε β)
  | .finish b => .finish (.right b)
  | .await m next => .await m.base (Either.fold (fun e => .pure (.right (.left e)))
      fun a => (next a).map fun
        | .left s => .left s
        | .right b => .right (.right b))

instance [Loop.{u, w} σ M] : Loop.{u, w} σ (Layered route M ε) where
  iterate maps wf step s := (Loop.iterate (maps + 1) wf (fun s => (step s).map baseTurn) s).map mk

end Binding

instance [ErrorChannel σ M ε] : ErrorChannel σ (Layered .base M ε) ε where
  raise e := ⟨ErrorChannel.raise σ e⟩
  handle m f := (ErrorChannel.handle m.base fun e => (f e).map base).map mk

instance [Deferrable σ M] : Deferrable σ (Layered route M ε) where
  defer s := (Deferrable.defer (s.map base)).map mk

instance [Mappable σ M] [Sleeper σ M] : Sleeper σ (Layered route M ε) where
  sleep ms := (Sleeper.sleep ms).bind lift

instance {μ : Type} [Runnable.{w} σ M μ] : Runnable.{w} σ (Layered route M ε) (Either μ ε) where
  perform {_ β} m next :=
    (Runnable.perform (β := Except ε β) m.base (Either.fold (fun e => .pure (.error e))
      fun a => (next a).map .ok)).map fun
        | .error e => .error (.left e)
        | .ok (.error e) => .error (.right e)
        | .ok (.ok b) => .ok b

end Layered

end Resumption
