/-
Effects — what every carrier of suspended effects can do.

Such a carrier fails with a `Failure`, puts computations off, sleeps and
releases what it acquires.
-/
import Resumption.Carrier.Errors

namespace Resumption

universe u

section Effects

variable {σ : Type} {M : Type → Type u} {ρ α β : Type}

/-- Runs a closure when the computation runs. -/
def delay [Carrier σ M] [Deferrable σ M] (h : Host σ α) : Host σ (M α) :=
  Deferrable.defer (h.bind fun a => .pure (Carrier.pure σ a))

/-- Fails with a message. -/
def raiseMessage [ErrorChannel σ M Failure] (message : String) : M α :=
  ErrorChannel.raise σ (.raised message)

variable [Carrier σ M] [Bracketing σ M]

/-- Acquires a resource, uses it, and releases it however the use ended. -/
def bracket (acquire : M ρ) (use : ρ → Host σ (M β)) (release : ρ → Host σ (M Unit)) :
    Host σ (M β) :=
  (Bracketing.bracketWith acquire use fun r _ => (release r).bind fun m =>
    Mappable.map m fun _ => .pure Verdict.clean).bind fun m =>
      Mappable.map m fun (b, _) => .pure b

/-- Runs a finalizer however a computation ends. -/
def guarantee (m : M α) (finalizer : M Unit) : Host σ (M α) :=
  bracket (Carrier.pure σ ()) (fun _ => .pure m) fun _ => .pure finalizer

end Effects

end Resumption
