/-
Recipe — computations as they were put together, for any carrier.

A recipe records which operations were applied to what, and `Recipe.build` applies
those of a carrier.  So one recipe is built in several carriers, and whether they
do the same is a question about recipes.

A closure that goes on with a computation comes in two parts: the run of the
host, which ends with a name, and the recipes by name.  Every closure is of this
kind, with its argument and the world in which it ends as the name.

A kit says what may be used:

| kit       | operations                                    | closures        |
|-----------|-----------------------------------------------|-----------------|
| `full`    | all that actions and futures have in common    | may panic       |
| `neutral` | those that every layer over a carrier has, too | never panic     |

Tail recursion is of either kit as a `loop`, whose states descend along any
well-founded relation.  A `tailRec` descends on its rounds, and panics when they are
spent; so only the full kit has it.
-/
import Resumption.Action.Carrier
import Resumption.Future.Carrier
import Resumption.Program.Fold

namespace Resumption

universe u v

/-- What recipes may use. -/
inductive Kit where
  | full
  | neutral

/-- A closure that panics only if the kit says that closures may. -/
def Host.Calm (kit : Kit) {σ : Type} {α : Type u} (h : Host σ α) : Prop :=
  ∀ w p w', h w = (.error p, w') → kit = .full

/-- A closure for recipes of the kit. -/
structure Closure (kit : Kit) (σ : Type) (α : Type u) where
  call : Host σ α
  calm : call.Calm kit

/-- The operations of the full kit that no capability gives: closures that are run as
computations of their own, the outcome of a computation, and the folds of programs. -/
class Native (kit : Kit) (σ : Type) (M : Type → Type u) where
  ofHost {α : Type} : kit = .full → Host σ α → M α
  perform {α : Type} : kit = .full → Host σ (Except Failure α) → M α
  outcome {α : Type} : kit = .full → M α → M (Either Failure α)
  fold {τ α : Type} {F : Type → Type v} : kit = .full → Interpreter σ τ F M → τ →
    Program σ F α → Host σ (M α)

section Natives

variable {σ : Type} [Observer σ]

instance : Native .full σ (Action σ) where
  ofHost _ := .ofHost
  perform _ := .perform
  outcome _ := .outcome
  fold _ n t p := p.fold n t

instance : Native .full σ (Future σ) where
  ofHost _ := .ofHost
  perform _ := .perform
  outcome _ := .outcome
  fold _ n t p := p.fold n t

end Natives

instance {σ : Type} {M : Type → Type u} : Native .neutral σ M where
  ofHost := nofun
  perform := nofun
  outcome := nofun
  fold := nofun

/-- A computation with a value of the given type, as it was put together. -/
inductive Recipe (kit : Kit) (σ : Type) : Type → Type (v + 1) where
  | pure {α : Type} (a : α) : Recipe kit σ α
  | raise {α : Type} (e : Failure) : Recipe kit σ α
  | raiseMessage {α : Type} (message : String) : Recipe kit σ α
  | fromEither {α : Type} (x : Either Failure α) : Recipe kit σ α
  | map {α β : Type} (a : Recipe kit σ α) (f : α → Closure kit σ β) : Recipe kit σ β
  | bind {α β ι : Type} (a : Recipe kit σ α) (k : α → Closure kit σ ι)
      (named : ι → Recipe kit σ β) : Recipe kit σ β
  | andThen {α β : Type} (a : Recipe kit σ α) (b : Recipe kit σ β) : Recipe kit σ β
  | map2 {α β γ : Type} (a : Recipe kit σ α) (b : Recipe kit σ β)
      (f : α → β → Closure kit σ γ) : Recipe kit σ γ
  | handle {α ι : Type} (a : Recipe kit σ α) (k : Failure → Closure kit σ ι)
      (named : ι → Recipe kit σ α) : Recipe kit σ α
  | handleError {α : Type} (a : Recipe kit σ α) (f : Failure → Closure kit σ α) : Recipe kit σ α
  | attempt {α : Type} (a : Recipe kit σ α) : Recipe kit σ (Either Failure α)
  | recoverWith {α ι : Type} (a : Recipe kit σ α) (k : Failure → Closure kit σ (Option ι))
      (named : ι → Recipe kit σ α) : Recipe kit σ α
  | recover {α : Type} (a : Recipe kit σ α) (f : Failure → Closure kit σ (Option α)) :
      Recipe kit σ α
  | redeem {α β : Type} (a : Recipe kit σ α) (onError : Failure → Closure kit σ β)
      (onValue : α → Closure kit σ β) : Recipe kit σ β
  | ensure {α : Type} (a : Recipe kit σ α) (test : α → Closure kit σ Bool)
      (error : Closure kit σ Failure) : Recipe kit σ α
  | defer {α ι : Type} (s : Closure kit σ ι) (named : ι → Recipe kit σ α) : Recipe kit σ α
  | delay {α : Type} (h : Closure kit σ α) : Recipe kit σ α
  | sleep (ms : Nat) : Recipe kit σ Unit
  | bracket {ρ β ι κ : Type} (acquire : Recipe kit σ ρ) (use : ρ → Closure kit σ ι)
      (used : ι → Recipe kit σ β) (release : ρ → Closure kit σ κ)
      (released : κ → Recipe kit σ Unit) : Recipe kit σ β
  | guarantee {α : Type} (a : Recipe kit σ α) (finalizer : Recipe kit σ Unit) : Recipe kit σ α
  | loop {S ι β : Type} {R : S → S → Prop} (wf : WellFounded R) (step : S → Closure kit σ ι)
      (named : (s : S) → ι → Recipe kit σ (Either {t // R t s} β)) (start : S) : Recipe kit σ β
  | tailRec {S ι β : Type} (whole : kit = .full) (rounds : Nat) (step : S → Closure kit σ ι)
      (named : ι → Recipe kit σ (Either S β)) (start : S) : Recipe kit σ β
  | ofHost {α : Type} (whole : kit = .full) (h : Closure kit σ α) : Recipe kit σ α
  | perform {α : Type} (whole : kit = .full) (h : Closure kit σ (Except Failure α)) :
      Recipe kit σ α
  | outcome {α : Type} (whole : kit = .full) (a : Recipe kit σ α) : Recipe kit σ (Either Failure α)
  | fold {τ ι α : Type} {F : Type → Type v} (whole : kit = .full)
      (apply : {β : Type} → F β → τ → Closure kit σ (ι × τ))
      (named : {β : Type} → F β → ι → Recipe kit σ β) (t : τ) (p : Program σ F α) : Recipe kit σ α

namespace Recipe

variable {kit : Kit} {σ : Type} (M : Type → Type u) [Carrier σ M] [ErrorChannel σ M Failure]
  [Deferrable σ M] [Sleeper σ M] [Bracketing σ M] [Loop.{u, 0} σ M] [Native.{u, v} kit σ M]

/-- Applies the operations of a carrier. -/
def build {α : Type} : Recipe.{v} kit σ α → Host σ (M α)
  | pure a => .pure (Carrier.pure σ a)
  | raise e => .pure (ErrorChannel.raise σ e)
  | raiseMessage message => .pure (Resumption.raiseMessage (σ := σ) message)
  | fromEither x => .pure (Resumption.fromEither (σ := σ) x)
  | map a f => a.build.bind fun m => Mappable.map m fun x => (f x).call
  | bind a k named => a.build.bind fun m =>
      Carrier.bind m fun x => (k x).call.bind fun i => (named i).build
  | andThen a b => a.build.bind fun m => b.build.bind fun n => Resumption.andThen m n
  | map2 a b f => a.build.bind fun m => b.build.bind fun n =>
      Resumption.map2 m n fun x y => (f x y).call
  | handle a k named => a.build.bind fun m =>
      ErrorChannel.handle m fun e => (k e).call.bind fun i => (named i).build
  | handleError a f => a.build.bind fun m => Resumption.handleError m fun e => (f e).call
  | attempt a => a.build.bind Resumption.attempt
  | recoverWith a k named => a.build.bind fun m =>
      Resumption.recoverWith m fun e => (k e).call.bind fun
        | some i => (named i).build.map some
        | none => .pure none
  | recover a f => a.build.bind fun m => Resumption.recover m fun e => (f e).call
  | redeem a onError onValue => a.build.bind fun m =>
      Resumption.redeem m (fun e => (onError e).call) fun x => (onValue x).call
  | ensure a test error => a.build.bind fun m =>
      Resumption.ensure m (fun x => (test x).call) error.call
  | defer s named => Deferrable.defer (s.call.bind fun i => (named i).build)
  | delay h => Resumption.delay h.call
  | sleep ms => Sleeper.sleep ms
  | bracket acquire use used release released => acquire.build.bind fun m =>
      Resumption.bracket m (fun x => (use x).call.bind fun i => (used i).build)
        fun x => (release x).call.bind fun i => (released i).build
  | guarantee a finalizer => a.build.bind fun m => finalizer.build.bind fun n =>
      Resumption.guarantee m n
  | loop wf step named start => Loop.iterate 0 wf (fun s => (step s).call.bind fun i =>
      (named s i).build.map fun m => .await m .pure) start
  | tailRec _ rounds step named start =>
      Resumption.tailRec rounds (fun s => (step s).call.bind fun i => (named i).build) start
  | ofHost whole h => .pure (Native.ofHost.{u, v} whole h.call)
  | perform whole h => .pure (Native.perform.{u, v} whole h.call)
  | outcome whole a => a.build.map (Native.outcome.{u, v} σ whole)
  | fold whole apply named t p => Native.fold whole ⟨fun e t => (apply e t).call.bind fun (i, t) =>
      (named e i).build.map fun m => (m, t)⟩ t p

end Recipe

/-! ## Names

A closure that returns recipes names them by its argument and the world that it is
called in. -/

namespace Closure

variable {kit : Kit} {σ α β : Type} (k : α → Closure kit σ (Recipe.{v} kit σ β))

/-- The closure, with the name of what it returned. -/
def naming (a : α) : Closure kit σ (α × σ) where
  call w := match (k a).call w with
    | (.ok _, w') => (.ok (a, w), w')
    | (.error p, w') => (.error p, w')
  calm := by
    intro w p w' ended
    rcases called : (k a).call w with ⟨q | t, w''⟩
    · exact (k a).calm w q w'' called
    · simp only [called, Prod.mk.injEq, reduceCtorEq, false_and] at ended

/-- The recipe that was returned under a name. -/
def returned (i : α × σ) : Recipe.{v} kit σ β :=
  match ((k i.1).call i.2).1 with
  | .ok a => a
  | .error _ => .raise .cancelled

/-- Going by names is going on with the recipes that the closure returns. -/
theorem naming_build {M : Type → Type u} [Carrier σ M] [ErrorChannel σ M Failure] [Deferrable σ M]
    [Sleeper σ M] [Bracketing σ M] [Loop.{u, 0} σ M] [Native.{u, v} kit σ M] (a : α) :
    ((naming k a).call.bind fun i => (returned k i).build M) =
      (k a).call.bind fun t => t.build M := by
  funext w
  simp only [naming, returned, Host.bind]
  rcases called : (k a).call w with ⟨q | t, w'⟩
  · rfl
  · simp only [called]

end Closure

end Resumption
