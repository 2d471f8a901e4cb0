/-
Stage — how far an action has come, in the hands of who polls it.

An action is a state machine around its future.  An outcome that is known from the start,
and the thunk that builds the future, are held in slots; a poll takes what is in the slot
and leaves the stage.

| stage        | a poll                                                      |
|--------------|-------------------------------------------------------------|
| `ready`      | takes the outcome and completes                             |
| `deferred`   | takes the thunk, calls it, and polls the future it builds   |
| `running`    | polls the future, and completes when it ends                |
| `completed`  | panics                                                      |

A poll that finds an empty slot panics, too.  A `Handle` has no slots: it holds what is
left to be run.
-/
import Resumption.Future.Handle

namespace Resumption

variable {σ : Type} {α : Type}

/-- The stage that an action is in. -/
inductive Stage (σ : Type) (α : Type) : Type 1 where
  | ready (slot : Option (Except Failure α))
  | deferred (slot : Option (Host σ (Future σ α)))
  | running (a : Future σ α)
  | completed

namespace Stage

/-- The panic of a poll that finds no outcome. -/
def outcomeConsumed : Panic :=
  .text "AsyncIO internal error: Ready outcome was already consumed"

/-- The panic of a poll that finds no thunk. -/
def thunkConsumed : Panic :=
  .text "AsyncIO internal error: Defer thunk was already consumed"

/-- Calls the closure that supplies an action; a panic makes it an action that fails. -/
def supplied (s : σ → Future.Call σ α) : Host σ (Future σ α) :=
  fun w =>
    match s w with
    | .returned a w => (.ok a, w)
    | .panicked p w => (.ok (.ready (.error (.ofPanic p))), w)

/-- The stage of an action that is put together and not polled yet. -/
def new : Future σ α → Stage σ α
  | .ready o => ready (some o)
  | .suspend s => deferred (some (supplied s))
  | a => deferred (some (.pure a))

section Polls

variable [Observer σ]

/-- Polls a running future. -/
def pollRunning (scopes : Scopes) (a : Future σ α) (w : σ) (r : Option (Reactor σ)) :
    Answer α × Stage σ α × σ × Option (Reactor σ) :=
  match a.poll scopes w r with
  | ⟨.ended o, w, r⟩ => (.outcome o, completed, w, r)
  | ⟨.pending a, w, r⟩ => (.pending, running a, w, r)

/-- Polls an action that is in some scopes.  A thunk that unwinds has left its slot. -/
def poll (scopes : Scopes) (s : Stage σ α) (w : σ) (r : Option (Reactor σ)) :
    Answer α × Stage σ α × σ × Option (Reactor σ) :=
  match s with
  | ready (some o) => (.outcome o, completed, w, r)
  | ready none => (.panicked outcomeConsumed, ready none, w, r)
  | deferred (some thunk) =>
    match thunk w with
    | (.ok a, w) => pollRunning scopes a w r
    | (.error p, w) => (.panicked p, deferred none, w, r)
  | deferred none => (.panicked thunkConsumed, deferred none, w, r)
  | running a => pollRunning scopes a w r
  | completed => (.panicked Handle.polledTooLate, completed, w, r)

end Polls

end Stage

end Resumption
