/-
Reactor — what futures share while an executor drives them.

The reactor tells the time, names tasks and scopes, and keeps account of the
releases that were moved off cancelled brackets: which tasks they became, with
which scopes they are registered, and which of them have finished.
-/
import Resumption.Future.Basic

namespace Resumption

/-- The shared state of the futures of one executor.  `spawned` holds the tasks that
the executor has not taken over yet, oldest first. -/
structure Reactor (σ : Type) where
  now : Nat
  nextTask : TaskId
  nextScope : ScopeId
  registered : List (ScopeId × TaskId)
  finished : List TaskId
  spawned : List (TaskId × Future σ Unit)

namespace Reactor

variable {σ : Type}

/-- The reactor of an executor that has just started. -/
def initial : Reactor σ where
  now := 0
  nextTask := 0
  nextScope := 0
  registered := []
  finished := []
  spawned := []

/-- A scope that no one has used. -/
def freshScope (r : Reactor σ) : ScopeId × Reactor σ :=
  (r.nextScope, { r with nextScope := r.nextScope + 1 })

/-- Spawns a task and registers it with some scopes. -/
def spawn (r : Reactor σ) (scopes : Scopes) (task : Future σ Unit) : Reactor σ :=
  { r with
    nextTask := r.nextTask + 1
    registered := r.registered ++ scopes.map fun s => (s, r.nextTask)
    spawned := r.spawned ++ [(r.nextTask, task)] }

/-- The tasks registered with a scope, which are no longer registered with it. -/
def takeRegistered (r : Reactor σ) (scope : ScopeId) : List TaskId × Reactor σ :=
  ((r.registered.filter fun x => x.1 == scope).map Prod.snd,
    { r with registered := r.registered.filter fun x => x.1 != scope })

/-- Has the task finished? -/
def hasFinished (r : Reactor σ) (task : TaskId) : Bool :=
  r.finished.contains task

/-- Spawns the releases of dropped brackets, in order. -/
def adopt [Observer σ] : List (Future.Orphan σ) → σ → Reactor σ → σ × Reactor σ
  | [], w, r => (w, r)
  | o :: os, w, r => adopt os (note .bracketCancelled w) (r.spawn o.scopes o.task)

end Reactor

end Resumption
