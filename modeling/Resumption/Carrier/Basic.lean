/-
Carrier — the kinds of computation that programs are interpreted into.

A carrier `M` turns a type of values into a type of computations.  Its
operations take closures of the host; an eager carrier calls them while the
computation is being built, a lazy one when it runs, which is why building is
itself a run of the host.

| capability       | operations                   | carriers that have it            |
|------------------|------------------------------|----------------------------------|
| `Mappable`       | `map`                        | every effect and every carrier   |
| `Carrier`        | `pure`, `bind`               | every carrier                    |
| `Loop`           | `iterate`                    | every carrier                    |
| `ErrorChannel`   | `raise`, `handle`            | those that can fail              |
| `Deferrable`     | `defer`                      | lazy ones                        |
| `Sleeper`        | `sleep`                      | those with a clock               |
| `Bracketing`     | `bracketWith`                | those that release resources     |

All other operations are defined from these, once for every carrier.
-/
import Resumption.Either
import Resumption.Event

namespace Resumption

universe u v w

/-- The values of a computation can be transformed. -/
class Mappable (σ : Type) (M : Type → Type u) where
  map {α β : Type} : M α → (α → Host σ β) → Host σ (M β)

/-- A computation can go on with one that depends on its value. -/
class Carrier (σ : Type) (M : Type → Type u) extends Mappable σ M where
  pure {α : Type} : α → M α
  bind {α β : Type} : M α → (α → Host σ (M β)) → Host σ (M β)

/-- One turn of a loop: it ends with a result, or awaits a computation and then
goes round again from a new state (left) or ends (right). -/
inductive Turn (σ : Type) (M : Type → Type u) (S : Type w) (β : Type) : Type (max 1 u w)
  | finish (b : β)
  | await {α : Type} (m : M α) (next : α → Host σ (Either S β))

/-- A loop whose states descend along a well-founded relation.  It uses constant
stack, however often it goes round.  The answer to the awaited computation of a turn
is that computation mapped `maps` times over, which a carrier sees that keeps maps. -/
class Loop (σ : Type) (M : Type → Type u) where
  iterate {S : Type w} {R : S → S → Prop} {β : Type} (maps : Nat) (wf : WellFounded R)
    (step : (s : S) → Host σ (Turn σ M {t // R t s} β)) (start : S) : Host σ (M β)

/-- A carrier whose computations can fail with an `ε` and recover from it. -/
class ErrorChannel (σ : Type) (M : Type → Type u) (ε : outParam Type) where
  raise {α : Type} : ε → M α
  handle {α : Type} : M α → (ε → Host σ (M α)) → Host σ (M α)

/-- A carrier that can put off building a computation until it runs. -/
class Deferrable (σ : Type) (M : Type → Type u) where
  defer {α : Type} : Host σ (M α) → Host σ (M α)

/-- A carrier that can pause for some milliseconds. -/
class Sleeper (σ : Type) (M : Type → Type u) where
  sleep : Nat → Host σ (M Unit)

/-- How a release ended, as a layer of error handling above its carrier sees it:
`failed e d` is a failure in the layer `d` levels up, where the resource was
used without an error. -/
inductive Verdict where
  | clean
  | failed (failure : Failure) (layer : Nat)
deriving DecidableEq

/-- A carrier that releases every resource it acquires.  The release is told the
value that the use ended with, if it ended with one, and its verdict is
returned beside that value. -/
class Bracketing (σ : Type) (M : Type → Type u) where
  bracketWith {ρ β : Type} (acquire : M ρ) (use : ρ → Host σ (M β))
    (release : ρ → Option β → Host σ (M Verdict)) : Host σ (M (β × Verdict))

/-! ## Sequencing -/

section Sequencing

variable {σ : Type} {M : Type → Type u} {α β γ : Type}

/-- Puts a value in the place of the computed one. -/
def replace [Mappable σ M] (m : M α) (b : β) : Host σ (M β) :=
  Mappable.map m fun _ => .pure b

/-- Discards the computed value. -/
def void [Mappable σ M] (m : M α) : Host σ (M Unit) :=
  replace m ()

variable [Carrier σ M]

/-- Runs a second computation after the first, whose value is dropped. -/
def andThen (m : M α) (next : M β) : Host σ (M β) :=
  Carrier.bind m fun _ => .pure next

/-- Runs two computations in order and combines their values. -/
def map2 (m : M α) (n : M β) (f : α → β → Host σ γ) : Host σ (M γ) :=
  Carrier.bind m fun a => Mappable.map n fun b => f a b

/-- Goes on with the computation that a computation produces, given by a name. -/
def flatten {κ : Type} (m : M κ) (inner : κ → Host σ (M β)) : Host σ (M β) :=
  Carrier.bind m inner

end Sequencing

/-! ## Loops with a bound -/

section TailRec

variable {σ : Type} {M : Type → Type u} {S β : Type}

/-- The states of a bounded loop descend by the rounds that are left. -/
def Rounds (S : Type) (t s : Nat × S) : Prop :=
  t.1 < s.1

theorem rounds_wf (S : Type) : WellFounded (Rounds S) :=
  InvImage.wf Prod.fst Nat.lt_wfRel.wf

/-- The panic of a loop that needs more rounds than it was given. -/
def outOfRounds : Panic :=
  .text "loop bound exceeded"

/-- A turn of a bounded loop, from the computation of one round. -/
def boundedTurn (step : S → Host σ (M (Either S β))) :
    (s : Nat × S) → Host σ (Turn σ M {t // Rounds S t s} β)
  | (0, _) => .panic outOfRounds
  | (rounds + 1, s) => (step s).bind fun m => .pure <| .await m fun
      | .left t => .pure (.left ⟨(rounds, t), Nat.lt_succ_self rounds⟩)
      | .right b => .pure (.right b)

/-- Goes round from `start`, at most `rounds` times, until a round answers right. -/
def tailRec [Loop.{u, 0} σ M] (rounds : Nat) (step : S → Host σ (M (Either S β))) (start : S) :
    Host σ (M β) :=
  Loop.iterate 0 (rounds_wf S) (boundedTurn step) (rounds, start)

end TailRec

end Resumption
