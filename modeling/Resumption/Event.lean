/-
Event — what the library reports while computations run.

Brackets report that a resource was acquired and released, which of two
competing errors was dropped, and what happens to a release whose bracket was
cancelled; time-outs report that they wait and that they fired; folding a
program reports each of its steps.  An observing world receives every event at
the moment it happens, and the virtual time whenever it moves.
-/
import Resumption.Failure

namespace Resumption

/-- How important an event is. -/
inductive Level where
  | trace
  | debug
  | warn
deriving DecidableEq

/-- How one step of a folded program ends: before a continuation, with nothing
left to do after the effect, or with a value and no effect. -/
inductive FoldStep where
  | effect
  | finalEffect
  | finished
deriving DecidableEq

/-- The library's events. -/
inductive Event where
  | folded (step : FoldStep)
  | acquired
  | released (useFailed releaseFailed : Bool)
  | releaseFailureDropped (useFailure releaseFailure : Failure)
  | releaseLeftDropped (releaseFailure : Failure)
  | bracketCancelled
  | orphanFailed (failure : Failure)
  | awaitingReleases (count : Nat)
  | timeoutElapsed (after : Duration)
deriving DecidableEq

namespace Event

/-- Dropped errors and failed background releases are warnings; the steps of a
fold are traces. -/
def level : Event → Level
  | folded _ => .trace
  | acquired => .debug
  | released .. => .debug
  | releaseFailureDropped .. => .warn
  | releaseLeftDropped _ => .warn
  | bracketCancelled => .debug
  | orphanFailed _ => .warn
  | awaitingReleases _ => .debug
  | timeoutElapsed _ => .debug

/-- A message followed by its named values. -/
def withFields (message : String) (fields : List (String × String)) : String :=
  fields.foldl (fun text (name, value) => text ++ " " ++ name ++ "=" ++ value) message

/-- The text of an event. -/
def message : Event → String
  | folded .effect => "interpreting effect"
  | folded .finalEffect => "interpreting final effect"
  | folded .finished => "program finished"
  | acquired => "resource acquired"
  | released u r =>
      withFields "resource released" [("use_failed", toString u), ("release_failed", toString r)]
  | releaseFailureDropped u r =>
      withFields "release failed after use failed; keeping the use error"
        [("error", toString u), ("release_error", toString r)]
  | releaseLeftDropped e =>
      withFields "release returned Left after use returned Left; keeping the use Left"
        [("error", toString e)]
  | bracketCancelled => "bracket cancelled before release finished; releasing resource"
  | orphanFailed e => withFields "release after cancellation failed" [("error", toString e)]
  | awaitingReleases n =>
      withFields "waiting for cancelled releases" [("releases", toString n)]
  | timeoutElapsed d => withFields "AsyncIO timed out; cancelled" [("duration", d.describe)]

end Event

/-- A world that is told of events, and of the virtual time: `none` outside any
executor, else milliseconds since the executor started. -/
class Observer (σ : Type) where
  note : Event → σ → σ
  setClock : Option Nat → σ → σ

export Observer (note setClock)

end Resumption
