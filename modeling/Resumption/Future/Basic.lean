/-
Future — an asynchronous computation and how far it has come.

A future is advanced by polling it.  A poll runs it until it has an outcome or
has to wait, and then leaves the future that is still to be run, so a value of
this type is a computation not begun yet or one that is under way.  The second
table lists the constructors that only a poll makes.

| future             | polled                                                     |
|--------------------|------------------------------------------------------------|
| `ready r`          | ends with `r`                                              |
| `perform h`        | calls `h` and ends as it says                              |
| `suspend s`        | calls `s` for a future and goes on as it                   |
| `conclude a f`     | runs `a` and hands its outcome to `f`                      |
| `bind a k`         | runs `a`, then what `k` makes of its value                 |
| `rescue a k`       | runs `a`, then what `k` makes of its failure               |
| `bracket a u r`    | acquires by `a`, uses by `u`, and releases by `r` in any case |
| `sleep ms`         | waits for `ms` milliseconds                                |
| `pause`            | waits for the next turn                                    |
| `never`            | waits for ever                                             |
| `both a b f`       | runs `a` and `b` side by side and hands their values to `f` |
| `within d a`       | runs `a`, but cancels it after the time `d`                |

| under way          | is                                                         |
|--------------------|------------------------------------------------------------|
| `inUse`            | a bracket whose resource is in use                         |
| `releasing`        | a bracket that is releasing, with the outcome of its use   |
| `sleeping t`       | a sleep until the time `t`                                 |
| `paused`           | a pause whose turn has come                                |
| `timing`           | a time-out whose action runs                               |
| `draining`         | a time-out that waits for releases, with its outcome       |
-/
import Resumption.Action.Basic

namespace Resumption

/-- The name of a task of an executor. -/
abbrev TaskId := Nat

/-- The name of a scope: the time-out that waits for the releases registered with it. -/
abbrev ScopeId := Nat

/-- A scope and those around it, innermost first. -/
abbrev Scopes := List ScopeId

mutual

/-- An asynchronous computation with a value of the given type. -/
inductive Future (σ : Type) : Type → Type 1 where
  | ready {α : Type} (r : Except Failure α) : Future σ α
  | perform {α : Type} (h : Host σ (Except Failure α)) : Future σ α
  | suspend {α : Type} (s : σ → Future.Call σ α) : Future σ α
  | conclude {α β : Type} (a : Future σ α) (f : Except Failure α → Host σ (Except Failure β)) :
      Future σ β
  | bind {α β : Type} (a : Future σ α) (k : α → σ → Future.Call σ β) : Future σ β
  | rescue {α : Type} (a : Future σ α) (k : Failure → σ → Future.Call σ α) : Future σ α
  | bracket {ρ β : Type} (acquire : Future σ ρ) (use : ρ → σ → Future.Call σ β)
      (release : ρ → Option β → σ → Future.Call σ Verdict) : Future σ (β × Verdict)
  | sleep (ms : Nat) : Future σ Unit
  | pause : Future σ Unit
  | never {α : Type} : Future σ α
  | both {α β γ : Type} (a : Future σ α) (b : Future σ β) (f : α → β → Host σ γ) : Future σ γ
  | within {α : Type} (limit : Duration) (a : Future σ α) : Future σ α
  | inUse {β : Type} (scopes : Scopes) (use : Future σ β)
      (release : Option β → σ → Future.Call σ Verdict) : Future σ (β × Verdict)
  | releasing {β : Type} (scopes : Scopes) (used : Except Failure β) (release : Future σ Verdict) :
      Future σ (β × Verdict)
  | sleeping (deadline : Nat) : Future σ Unit
  | paused : Future σ Unit
  | timing {α : Type} (scope : ScopeId) (around : Scopes) (limit : Duration) (deadline : Nat)
      (a : Future σ α) : Future σ α
  | draining {α : Type} (tasks : List TaskId) (limit : Duration)
      (outcome : Option (Except Failure α)) : Future σ α

/-- How the call of a closure ends: with a future or with a panic, in some world. -/
inductive Future.Call (σ : Type) : Type → Type 1 where
  | returned {α : Type} (a : Future σ α) (world : σ) : Future.Call σ α
  | panicked {α : Type} (p : Panic) (world : σ) : Future.Call σ α

end

namespace Future

variable {σ : Type} {α : Type}

/-- Cancels a future that is not finished after some milliseconds. -/
def timeout (ms : Nat) (a : Future σ α) : Future σ α :=
  within (.ofMillis ms) a

/-- The call that a closure's run amounts to. -/
def Call.ofRun : Except Panic (Future σ α) × σ → Call σ α
  | (.ok a, w) => .returned a w
  | (.error p, w) => .panicked p w

/-! ## Cancellation

Dropping a future calls nothing, but a bracket whose resource is still held
leaves an orphan: the release, as far as it has come, and the scopes that the
bracket was opened in.  Orphans are listed in the order in which their brackets
are dropped, an inner one before the one around it. -/

/-- A release whose bracket was dropped. -/
structure Orphan (σ : Type) where
  scopes : Scopes
  release : Future σ Verdict

/-- The releases that are left when the future is dropped. -/
def orphans {α : Type} : Future σ α → List (Orphan σ)
  | conclude a _ => a.orphans
  | bind a _ => a.orphans
  | rescue a _ => a.orphans
  | bracket acquire _ _ => acquire.orphans
  | both a b _ => a.orphans ++ b.orphans
  | within _ a => a.orphans
  | timing _ _ _ _ a => a.orphans
  | inUse scopes use release => use.orphans ++ [⟨scopes, suspend (release none)⟩]
  | releasing scopes _ release => [⟨scopes, release⟩]
  | ready _ | perform _ | suspend _ | sleep _ | pause | never | sleeping _ | paused
  | draining .. => []

/-- The number of brackets whose resource is held, those of a release that has begun
included. -/
def held {α : Type} : Future σ α → Nat
  | conclude a _ => a.held
  | bind a _ => a.held
  | rescue a _ => a.held
  | bracket acquire _ _ => acquire.held
  | both a b _ => a.held + b.held
  | within _ a => a.held
  | timing _ _ _ _ a => a.held
  | inUse _ use _ => use.held + 1
  | releasing _ _ release => release.held + 1
  | ready _ | perform _ | suspend _ | sleep _ | pause | never | sleeping _ | paused
  | draining .. => 0

/-- The failure of a release that ended, if it failed in this layer or above. -/
def releaseFailure? : Except Failure Verdict → Option Failure
  | .ok .clean => none
  | .ok (.failed e _) => some e
  | .error e => some e

/-- The task that finishes an orphan's release and warns if that fails. -/
def Orphan.task [Observer σ] (o : Orphan σ) : Future σ Unit :=
  conclude o.release fun r w =>
    match releaseFailure? r with
    | none => (.ok (.ok ()), w)
    | some e => (.ok (.ok ()), note (.orphanFailed e) w)

/-! ## Waiting -/

/-- Has something that the future waits for come about, at this time and after these
tasks?  The turn of a pause does not count; see `yielding`. -/
def woken (now : Nat) (finished : TaskId → Bool) {α : Type} : Future σ α → Bool
  | conclude a _ => a.woken now finished
  | bind a _ => a.woken now finished
  | rescue a _ => a.woken now finished
  | bracket acquire _ _ => acquire.woken now finished
  | both a b _ => a.woken now finished || b.woken now finished
  | timing _ _ _ deadline a => deadline ≤ now || a.woken now finished
  | inUse _ use _ => use.woken now finished
  | releasing _ _ release => release.woken now finished
  | sleeping t => t ≤ now
  | draining tasks _ _ => tasks.all finished
  | ready _ | perform _ | suspend _ | sleep _ | pause | paused | never | within .. => false

/-- Does the future wait for its next turn? -/
def yielding {α : Type} : Future σ α → Bool
  | conclude a _ => a.yielding
  | bind a _ => a.yielding
  | rescue a _ => a.yielding
  | bracket acquire _ _ => acquire.yielding
  | both a b _ => a.yielding || b.yielding
  | timing _ _ _ _ a => a.yielding
  | inUse _ use _ => use.yielding
  | releasing _ _ release => release.yielding
  | paused => true
  | ready _ | perform _ | suspend _ | sleep _ | sleeping _ | pause | never | within ..
  | draining .. => false

/-- The earlier of two times, where there are two. -/
def earlier : Option Nat → Option Nat → Option Nat
  | some a, some b => some (min a b)
  | some a, none => some a
  | none, b => b

/-- The next time that a future waits for. -/
def nextDeadline {α : Type} : Future σ α → Option Nat
  | conclude a _ => a.nextDeadline
  | bind a _ => a.nextDeadline
  | rescue a _ => a.nextDeadline
  | bracket acquire _ _ => acquire.nextDeadline
  | both a b _ => earlier a.nextDeadline b.nextDeadline
  | timing _ _ _ deadline a => earlier (some deadline) a.nextDeadline
  | inUse _ use _ => use.nextDeadline
  | releasing _ _ release => release.nextDeadline
  | sleeping t => some t
  | ready _ | perform _ | suspend _ | sleep _ | pause | never | within .. | paused
  | draining .. => none

end Future

end Resumption
