/-
Perform — running a single effect at once.

An effect is runnable when it can be performed outside of any program, to hand
its value to a closure that says how to go on.  It may fail instead.  The closure
belongs to the effect: where the effect catches panics, it catches those of the
closure too.
-/
import Resumption.Carrier.Eager

namespace Resumption

universe u v w

/-- Effects that can be run at once, and fail with an `ε`. -/
class Runnable (σ : Type) (F : Type → Type v) (ε : outParam Type) where
  perform {α : Type} {β : Type u} (e : F α) (next : α → Host σ β) :
    Host σ (Except ε β)

variable {σ : Type}

instance : Runnable.{u} σ Identity Empty where
  perform e next := (next e.value).map .ok

instance : Runnable.{u} σ Option Unit where
  perform
    | some a, next => (next a).map .ok
    | none, _ => .pure (.error ())

instance {ε : Type} : Runnable.{u} σ (Except ε) ε where
  perform
    | .ok a, next => (next a).map .ok
    | .error e, _ => .pure (.error e)

/-- Runs a closure where panics are caught: a panic is a failure. -/
def performInside {β : Type u} (next : Host σ β) : Host σ (Except Failure β) :=
  fun w =>
    match (next.map Except.ok).caught w with
    | (r, w) => (.ok r, w)

end Resumption
