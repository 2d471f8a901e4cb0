/-
Calmed — when one future stands for another one that may panic.

`CalmedBy a b` says that `b` does what `a` does, and that where a closure of `a` panics,
`b` fails with this panic.  It compares the two part by part, so it can be said of what
polls leave, too.  Where `a` hands its outcome to a closure that computes a value, `b`
may use one that returns a future: all that counts is how `b` goes on.

| the future       | is calmed by                                                 |
|------------------|--------------------------------------------------------------|
| `perform h`      | `perform h'` where both end alike                            |
| `conclude a f`   | what concludes a future that calms `a` as `f` does           |
| `both a b f`     | what concludes both values of the two sides as `f` does      |
| any other one    | the same of what calms the parts, with paired calls          |
-/
import Resumption.Proofs.Carrier.Future
import Resumption.Proofs.Future.Bisimulation
import Resumption.Proofs.Future.Context

namespace Resumption

open List (Forall₂)

namespace Future

variable {σ : Type} [Observer σ] {α β γ : Type}

/-- Fails with a panic as soon as it is polled. -/
def Crashing (p : Panic) (a : Future σ α) : Prop :=
  ∀ scopes w r, a.poll scopes w r = ⟨.ended (.error (.ofPanic p)), w, r⟩

/-- Calls that both return, in one world; or a call that panics and one that returns what
crashes. -/
inductive Call.Paired : Call σ α → Call σ α → Prop
  | returned (a b : Future σ α) (w : σ) : Paired (.returned a w) (.returned b w)
  | panicked {p : Panic} {b : Future σ α} (w : σ) : Crashing p b →
      Paired (.panicked p w) (.returned b w)

/-- What two calls return. -/
inductive Call.Return : Call σ α → Call σ α → Future σ α → Future σ α → Prop
  | mk (a b : Future σ α) (w w' : σ) : Return (.returned a w) (.returned b w') a b

/-- `K` runs a future to its end and then ends as `f` says, as `conclude _ f` does. -/
structure Concludes (f : Except Failure α → Host σ (Except Failure β))
    (K : Future σ α → Future σ β) : Prop where
  akin : ∀ a, Akin (K a) a
  runs : ∀ scopes, Runs scopes K fun o w r => .ofHost (f o) w r

theorem concludes_conclude (f : Except Failure α → Host σ (Except Failure β)) :
    Concludes f fun a => conclude a f where
  akin a := .conclude_source a f
  runs scopes := runs_conclude scopes f

/-- The values of both sides. -/
def pairing (a : α) (b : β) : Host σ (α × β) :=
  .pure (a, b)

/-- The second future does what the first one does, and fails where that one panics. -/
inductive CalmedBy : {α : Type} → Future σ α → Future σ α → Prop
  | ready {α : Type} (o : Except Failure α) : CalmedBy (ready o) (ready o)
  | perform {α : Type} {h h' : Host σ (Except Failure α)} : (∀ w, h.caught w = h'.caught w) →
      CalmedBy (perform h) (perform h')
  -- Calls are compared in two parts, how they end and what they return, since a relation
  -- between calls would have to be defined by recursion with this one.
  | suspend {α : Type} {s s' : σ → Call σ α} : (∀ w, (s w).Paired (s' w)) →
      (∀ w a b, (s w).Return (s' w) a b → CalmedBy a b) → CalmedBy (suspend s) (suspend s')
  | conclude {α β : Type} {a b : Future σ α} {f : Except Failure α → Host σ (Except Failure β)}
      {K : Future σ α → Future σ β} : CalmedBy a b → Concludes f K →
      CalmedBy (conclude a f) (K b)
  | bind {α β : Type} {a b : Future σ α} {k l : α → σ → Call σ β} : CalmedBy a b →
      (∀ x w, (k x w).Paired (l x w)) →
      (∀ x w c d, (k x w).Return (l x w) c d → CalmedBy c d) → CalmedBy (bind a k) (bind b l)
  | rescue {α : Type} {a b : Future σ α} {k l : Failure → σ → Call σ α} : CalmedBy a b →
      (∀ e w, (k e w).Paired (l e w)) →
      (∀ e w c d, (k e w).Return (l e w) c d → CalmedBy c d) → CalmedBy (rescue a k) (rescue b l)
  | bracket {ρ β : Type} {a b : Future σ ρ} {use use' : ρ → σ → Call σ β}
      {release release' : ρ → Option β → σ → Call σ Verdict} : CalmedBy a b →
      (∀ x w, (use x w).Paired (use' x w)) →
      (∀ x w c d, (use x w).Return (use' x w) c d → CalmedBy c d) →
      (∀ x o w, (release x o w).Paired (release' x o w)) →
      (∀ x o w c d, (release x o w).Return (release' x o w) c d → CalmedBy c d) →
      CalmedBy (bracket a use release) (bracket b use' release')
  | inUse {β : Type} (scopes : Scopes) {a b : Future σ β}
      {release release' : Option β → σ → Call σ Verdict} : CalmedBy a b →
      (∀ o w, (release o w).Paired (release' o w)) →
      (∀ o w c d, (release o w).Return (release' o w) c d → CalmedBy c d) →
      CalmedBy (inUse scopes a release) (inUse scopes b release')
  | releasing {β : Type} (scopes : Scopes) (used : Except Failure β) {a b : Future σ Verdict} :
      CalmedBy a b → CalmedBy (releasing scopes used a) (releasing scopes used b)
  | both {α β γ : Type} {a a' : Future σ α} {b b' : Future σ β} {f : α → β → Host σ γ}
      {K : Future σ (α × β) → Future σ γ} : CalmedBy a a' → CalmedBy b b' →
      Concludes (onValue fun x => f x.1 x.2) K → CalmedBy (both a b f) (K (both a' b' pairing))
  | within {α : Type} (limit : Duration) {a b : Future σ α} : CalmedBy a b →
      CalmedBy (within limit a) (within limit b)
  | timing {α : Type} (scope : ScopeId) (around : Scopes) (limit : Duration) (deadline : Nat)
      {a b : Future σ α} : CalmedBy a b →
      CalmedBy (timing scope around limit deadline a) (timing scope around limit deadline b)
  | draining {α : Type} (tasks : List TaskId) (limit : Duration)
      (outcome : Option (Except Failure α)) :
      CalmedBy (draining tasks limit outcome) (draining tasks limit outcome)
  | sleep (ms : Nat) : CalmedBy (sleep ms) (sleep ms)
  | pause : CalmedBy pause pause
  | never {α : Type} : CalmedBy (never (α := α)) never
  | sleeping (t : Nat) : CalmedBy (sleeping t) (sleeping t)
  | paused : CalmedBy paused paused

/-- The relation of being calmed, at every type. -/
abbrev Calmed (σ : Type) [Observer σ] : Relation σ :=
  fun _ a b => CalmedBy a b

namespace CalmedBy

variable {a b : Future σ α}

/-! ## Waiting -/

theorem woken (calmed : CalmedBy a b) (now : Nat) (finished : TaskId → Bool) :
    a.woken now finished = b.woken now finished := by
  induction calmed with
  | ready | perform | suspend | within | draining | sleep | pause | never | sleeping | paused => rfl
  | conclude _ follows ih => exact ih.trans ((follows.akin _).woken now finished).symm
  | bind _ _ _ ih => exact ih
  | rescue _ _ _ ih => exact ih
  | bracket _ _ _ _ _ ih => exact ih
  | inUse _ _ _ _ ih => exact ih
  | releasing _ _ _ ih => exact ih
  | both _ _ follows left right =>
    rw [(follows.akin _).woken now finished, Future.woken, Future.woken, left, right]
  | timing _ _ _ _ _ ih => rw [Future.woken, Future.woken, ih]

theorem yielding (calmed : CalmedBy a b) : a.yielding = b.yielding := by
  induction calmed with
  | ready | perform | suspend | within | draining | sleep | pause | never | sleeping | paused => rfl
  | conclude _ follows ih => exact ih.trans (follows.akin _).yielding.symm
  | bind _ _ _ ih => exact ih
  | rescue _ _ _ ih => exact ih
  | bracket _ _ _ _ _ ih => exact ih
  | inUse _ _ _ _ ih => exact ih
  | releasing _ _ _ ih => exact ih
  | both _ _ follows left right =>
    rw [(follows.akin _).yielding, Future.yielding, Future.yielding, left, right]
  | timing _ _ _ _ _ ih => exact ih

theorem nextDeadline (calmed : CalmedBy a b) : a.nextDeadline = b.nextDeadline := by
  induction calmed with
  | ready | perform | suspend | within | draining | sleep | pause | never | sleeping | paused => rfl
  | conclude _ follows ih => exact ih.trans (follows.akin _).nextDeadline.symm
  | bind _ _ _ ih => exact ih
  | rescue _ _ _ ih => exact ih
  | bracket _ _ _ _ _ ih => exact ih
  | inUse _ _ _ _ ih => exact ih
  | releasing _ _ _ ih => exact ih
  | both _ _ follows left right =>
    rw [(follows.akin _).nextDeadline, Future.nextDeadline, Future.nextDeadline, left, right]
  | timing _ _ _ _ _ ih => rw [Future.nextDeadline, Future.nextDeadline, ih]

theorem held (calmed : CalmedBy a b) : a.held = b.held := by
  induction calmed with
  | ready | perform | suspend | draining | sleep | pause | never | sleeping | paused => rfl
  | conclude _ follows ih => exact ih.trans (follows.akin _).held.symm
  | bind _ _ _ ih => exact ih
  | rescue _ _ _ ih => exact ih
  | bracket _ _ _ _ _ ih => exact ih
  | inUse _ _ _ _ ih => rw [Future.held, Future.held, ih]
  | releasing _ _ _ ih => rw [Future.held, Future.held, ih]
  | both _ _ follows left right =>
    rw [(follows.akin _).held, Future.held, Future.held, left, right]
  | within _ _ ih => exact ih
  | timing _ _ _ _ _ ih => exact ih

/-! ## Dropping -/

theorem orphans (calmed : CalmedBy a b) :
    Forall₂ (Orphan.Related (Calmed σ)) a.orphans b.orphans := by
  induction calmed with
  | ready | perform | suspend | draining | sleep | pause | never | sleeping | paused => exact .nil
  | conclude _ follows ih =>
    rw [(follows.akin _).orphans]
    exact ih
  | bind _ _ _ ih => exact ih
  | rescue _ _ _ ih => exact ih
  | bracket _ _ _ _ _ ih => exact ih
  | inUse scopes _ paired returned ih =>
    exact List.rel_append ih (.cons ⟨rfl, .suspend (paired none) (returned none)⟩ .nil)
  | releasing scopes _ inner _ => exact .cons ⟨rfl, inner⟩ .nil
  | both _ _ follows left right =>
    rw [(follows.akin _).orphans]
    exact List.rel_append left right
  | within _ _ ih => exact ih
  | timing _ _ _ _ _ ih => exact ih

/-- The task of an orphan. -/
theorem task (o o' : Orphan σ) (related : o.Related (Calmed σ) o') : CalmedBy o.task o'.task :=
  .conclude related.release (concludes_conclude _)

end CalmedBy

end Future

end Resumption
