/-
Carrier — futures as a carrier of suspended effects.

Every operation builds a description; the closures are called by polls, inside
the future that they belong to.
-/
import Resumption.Future.Basic

namespace Resumption

universe w

namespace Future

variable {σ : Type} {α β γ : Type}

/-- Runs a closure for the value. -/
def ofHost (h : Host σ α) : Future σ α :=
  perform (h.map .ok)

/-- Fails. -/
def fail (e : Failure) : Future σ α :=
  ready (.error e)

/-- Runs an action within one poll. -/
def ofAction [Observer σ] (a : Action σ α) : Future σ α :=
  perform fun w =>
    match a.run w with
    | (r, w) => (.ok r, w)

/-- Hands a value to a closure and keeps a failure. -/
def onValue (f : α → Host σ β) : Except Failure α → Host σ (Except Failure β)
  | .ok a => (f a).map .ok
  | .error e => .pure (.error e)

instance : Carrier σ (Future σ) where
  pure a := ready (.ok a)
  map a f := .pure (conclude a (onValue f))
  bind a k := .pure (bind a fun x w => .ofRun (k x w))

instance : ErrorChannel σ (Future σ) Failure where
  raise := fail
  handle a k := .pure (rescue a fun e w => .ofRun (k e w))

instance : Deferrable σ (Future σ) where
  defer s := .pure (suspend fun w => .ofRun (s w))

instance : Sleeper σ (Future σ) where
  sleep ms := .pure (sleep ms)

instance : Bracketing σ (Future σ) where
  bracketWith acquire use release :=
    .pure (bracket acquire (fun r w => .ofRun (use r w)) fun r b w => .ofRun (release r b w))

/-- Exposes the outcome as a value. -/
def outcome (a : Future σ α) : Future σ (Either Failure α) :=
  conclude a fun r => .pure (.ok (.ofExcept r))

/-- Waits for the next turn and then runs a closure for the value. -/
def pauseThen (h : Host σ α) : Future σ α :=
  conclude pause fun _ => h.map .ok

/-- A loop of futures. -/
def iterate {S : Type w} {R : S → S → Prop} (wf : WellFounded R)
    (step : (s : S) → Host σ (Turn σ (Future σ) {t // R t s} β)) (s : S) : Future σ β :=
  suspend fun w =>
    match step s w with
    | (.error p, w) => .panicked p w
    | (.ok (.finish b), w) => .returned (ready (.ok b)) w
    | (.ok (.await a next), w) => .returned (bind a fun x w =>
        match next x w with
        | (.error p, w) => .panicked p w
        | (.ok (.right b), w) => .returned (ready (.ok b)) w
        | (.ok (.left ⟨t, _⟩), w) => .returned (iterate wf step t) w) w
termination_by wf.wrap s

instance : Loop.{1, w} σ (Future σ) where
  iterate _ wf step s := .pure (iterate wf step s)

end Future

end Resumption
