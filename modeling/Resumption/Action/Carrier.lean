/-
Carrier — actions as a carrier of suspended effects.

Every operation builds a description; the closures are called when the action
runs, inside the action that they belong to.
-/
import Resumption.Action.Basic
import Resumption.Carrier.Perform

namespace Resumption

universe w

namespace Action

variable {σ : Type} {α β γ : Type}

/-- Runs a closure for the value. -/
def ofHost (h : Host σ α) : Action σ α :=
  perform (h.map .ok)

/-- Fails. -/
def fail (e : Failure) : Action σ α :=
  ready (.error e)

/-- Hands a value to a closure and keeps a failure. -/
def onValue (f : α → Host σ β) : Except Failure α → Host σ (Except Failure β)
  | .ok a => (f a).map .ok
  | .error e => .pure (.error e)

instance : Carrier σ (Action σ) where
  pure a := ready (.ok a)
  map a f := .pure (conclude a (onValue f))
  bind a k := .pure (bind a fun x w => .ofRun (k x w))

instance : ErrorChannel σ (Action σ) Failure where
  raise := fail
  handle a k := .pure (rescue a fun e w => .ofRun (k e w))

instance : Deferrable σ (Action σ) where
  defer s := .pure (suspend fun w => .ofRun (s w))

/-- Blocks for a while; a synchronous run has no clock to show it. -/
instance : Sleeper σ (Action σ) where
  sleep _ := .pure (ready (.ok ()))

instance : Bracketing σ (Action σ) where
  bracketWith acquire use release :=
    .pure (bracket acquire (fun r w => .ofRun (use r w)) fun r b w => .ofRun (release r b w))

/-- Exposes the outcome as a value. -/
def outcome (a : Action σ α) : Action σ (Either Failure α) :=
  conclude a fun r => .pure (.ok (.ofExcept r))

/-- A loop of actions: each round runs inside the one action that this is. -/
def iterate {S : Type w} {R : S → S → Prop} (wf : WellFounded R)
    (step : (s : S) → Host σ (Turn σ (Action σ) {t // R t s} β)) (s : S) : Action σ β :=
  suspend fun w =>
    match step s w with
    | (.error p, w) => .panicked p w
    | (.ok (.finish b), w) => .returned (ready (.ok b)) w
    | (.ok (.await a next), w) => .returned (bind a fun x w =>
        match next x w with
        | (.error p, w) => .panicked p w
        | (.ok (.right b), w) => .returned (ready (.ok b)) w
        | (.ok (.left ⟨t, _⟩), w) => .returned (iterate wf step t) w) w
termination_by wf.wrap s

instance : Loop.{1, w} σ (Action σ) where
  iterate _ wf step s := .pure (iterate wf step s)

instance [Observer σ] : Runnable.{w} σ (Action σ) Failure where
  perform a next := fun w =>
    match a.run w with
    | (.ok x, w) => performInside (next x) w
    | (.error e, w) => (.ok (.error e), w)

end Action

end Resumption
