/-
Fresh — futures that have not begun.

Whoever builds a future uses the constructors of the first table of
`Resumption.Future.Basic`; those of the second one are made by polls.  A future
is fresh if neither it nor anything that its closures return was polled.
-/
import Resumption.Future.Basic

namespace Resumption

namespace Future

variable {σ : Type}

mutual

/-- No part of the future was polled yet, and the same holds of all that its closures
return. -/
def Fresh {α : Type} : Future σ α → Prop
  | ready _ | perform _ | sleep _ | pause | never => True
  | suspend s => ∀ w, (s w).Fresh
  | conclude a _ => a.Fresh
  | bind a k => a.Fresh ∧ ∀ x w, (k x w).Fresh
  | rescue a k => a.Fresh ∧ ∀ e w, (k e w).Fresh
  | bracket acquire use release =>
    acquire.Fresh ∧ (∀ x w, (use x w).Fresh) ∧ ∀ x o w, (release x o w).Fresh
  | both a b _ => a.Fresh ∧ b.Fresh
  | within _ a => a.Fresh
  | inUse .. | releasing .. | sleeping _ | paused | timing .. | draining .. => False

/-- What a call returned has not begun. -/
def Call.Fresh {α : Type} : Call σ α → Prop
  | .returned a _ => a.Fresh
  | .panicked .. => True

end

end Future

end Resumption
