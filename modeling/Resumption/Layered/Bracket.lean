/-
Bracket — releasing resources through layers.

A layered bracket is a bracket of the base that acquires a resource or a left.
A left of the acquisition skips use and release and takes the route of its
layer.  Otherwise the base tells the release how the use ended, and a left of
the release

| where the use          | is                                                    |
|------------------------|-------------------------------------------------------|
| ended with a right     | returned as the verdict of this layer, and becomes the left of the whole |
| ended with a left      | reported and dropped                                  |
| failed in the base     | raised in the base, whose rules then apply            |

Verdicts of the layers above travel through the base one level further down.
-/
import Resumption.Carrier.Effects
import Resumption.Layered.Basic

namespace Resumption

universe u

namespace Layered

variable {σ : Type} {M : Type → Type u} {ρ β : Type}

/-- What a bracket whose acquisition exited early comes to. -/
def failedAcquire [Carrier σ M] [ErrorChannel σ M Failure] (e : Failure) :
    Route → M (Either Failure β)
  | .layer => Carrier.pure σ (.left e)
  | .base => ErrorChannel.raise σ e

/-- The base's verdict on a release of the layers above. -/
def deepen : Verdict → Verdict
  | .clean => .clean
  | .failed e d => .failed e (d + 1)

/-- How a release ended in the base, from how it ended in the layer and from the
value of the use. -/
def releaseVerdict [Observer σ] [Carrier σ M] [ErrorChannel σ M Failure]
    (used : Option (Either Failure β)) : Either Failure Verdict → Host σ (M Verdict)
  | .right v => .pure (Carrier.pure σ (deepen v))
  | .left e =>
    match used with
    | some (.left _) => fun w => (.ok (Carrier.pure σ .clean), note (.releaseLeftDropped e) w)
    | some (.right _) => .pure (Carrier.pure σ (.failed e 0))
    | none => .pure (ErrorChannel.raise σ e)

/-- The value of the layer, from the base's value and verdict. -/
def surface : Either Failure β × Verdict → Either Failure (β × Verdict)
  | (.left e, _) => .left e
  | (.right b, .clean) => .right (b, .clean)
  | (.right _, .failed e 0) => .left e
  | (.right b, .failed e (d + 1)) => .right (b, .failed e d)

instance {route : Route} [Observer σ] [Carrier σ M] [ErrorChannel σ M Failure]
    [Bracketing σ M] : Bracketing σ (Layered route M Failure) where
  bracketWith acquire use release :=
    (Bracketing.bracketWith acquire.base
      (Either.fold (fun e => .pure (failedAcquire (σ := σ) e route)) fun r => (use r).map base)
      (Either.fold (fun _ _ => .pure (Carrier.pure σ .clean)) fun r used =>
        (release r (used.bind Either.right?)).bind fun m =>
          Carrier.bind m.base (releaseVerdict used))).bind fun m =>
      (Mappable.map m fun p => Host.pure (σ := σ) (surface p)).map mk

end Layered

end Resumption
