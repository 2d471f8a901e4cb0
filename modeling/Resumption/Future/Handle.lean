/-
Handle — a future in someone's hands.

A handle holds a future until its outcome has been handed out.  Polling it after
that panics.
-/
import Resumption.Future.Poll

namespace Resumption

variable {σ : Type} {α : Type}

/-- A future that is not finished, or one whose outcome is gone. -/
inductive Handle (σ : Type) (α : Type) : Type 1 where
  | live (a : Future σ α)
  | completed

/-- The answer to a poll by hand. -/
inductive Answer (α : Type) where
  | pending
  | outcome (r : Except Failure α)
  | panicked (p : Panic)

namespace Handle

/-- The panic of a poll that comes too late. -/
def polledTooLate : Panic :=
  .text "AsyncIO polled after completion"

/-- Polls the future, if there still is one. -/
def poll [Observer σ] (h : Handle σ α) (w : σ) (r : Option (Reactor σ)) :
    Answer α × Handle σ α × σ × Option (Reactor σ) :=
  match h with
  | completed => (.panicked polledTooLate, completed, w, r)
  | live a =>
    match a.poll [] w r with
    | ⟨.ended o, w, r⟩ => (.outcome o, completed, w, r)
    | ⟨.pending a, w, r⟩ => (.pending, live a, w, r)

/-- The releases that are left when the handle is dropped. -/
def orphans : Handle σ α → List (Future.Orphan σ)
  | live a => a.orphans
  | completed => []

/-- Is there a reason to poll the handle again? -/
def woken (now : Nat) (finished : TaskId → Bool) : Handle σ α → Bool
  | live a => a.woken now finished
  | completed => true

/-- Does the future in the handle wait for its next turn? -/
def yielding : Handle σ α → Bool
  | live a => a.yielding
  | completed => false

/-- The next time that the future waits for. -/
def nextDeadline : Handle σ α → Option Nat
  | live a => a.nextDeadline
  | completed => none

end Handle

/-! ## Without an executor -/

namespace Future

/-- Polls a future again and again until it ends, at most `polls` times, and stops
where nothing would wake it. -/
def blockOn [Observer σ] (polls : Nat) (a : Future σ α) (w : σ) : Option (Except Failure α) × σ :=
  match polls with
  | 0 => (none, w)
  | polls + 1 =>
    match a.poll [] w none with
    | ⟨.ended r, w, _⟩ => (some r, w)
    | ⟨.pending a, w, _⟩ =>
      if a.yielding then a.blockOn polls w else (none, w)

/-- Runs the orphaned releases on the spot, in order. -/
def releaseHere [Observer σ] (polls : Nat) : List (Orphan σ) → σ → σ
  | [], w => w
  | o :: os, w => releaseHere polls os (o.task.blockOn polls (note .bracketCancelled w)).2

end Future

/-- Drops the handle; the releases that this leaves run on the spot. -/
def Handle.dropHere [Observer σ] (polls : Nat) (h : Handle σ α) : σ → σ :=
  Future.releaseHere polls h.orphans

end Resumption
