/-
Assembly — computations put together over any number of layers.

An assembly records which operations were applied to what, over actions or futures
with any layers above them, and `Assembly.build` applies them.  Its closures may
panic at any place.  A closure that goes on with a computation ends with a name, and
the computations are given by name, as in a `Recipe`; every closure is of this kind
(`naming_build`).

Not every operation is there for every stack of layers:

| operations                    | need                                               |
|-------------------------------|----------------------------------------------------|
| those that raise and handle   | a channel through the layers, by their routes      |
| brackets                      | layers that all exit with a `Failure`              |
| `base`, `bimap`, `fold`, …    | a layer                                            |
| `ofHost`, `perform`, `both`, … | none, and the last ones futures at the bottom      |

`Assembly.calmed` is the same computation in which no closure panics: where a closure
of the assembly panics, the step goes on with a computation that fails with that panic
in the bottom carrier.

| closure                   | calmed                                                     |
|---------------------------|------------------------------------------------------------|
| names what comes next     | names it, or the failing computation                       |
| computes the value        | names that value as a computation, or the failing one      |
| answers a partial handler | answers alike, or with the failing computation             |
-/
import Resumption.Layered.Bracket
import Resumption.Proofs.Carrier.Layered
import Resumption.Proofs.Recipe.Basic

namespace Resumption

universe u

/-! ## Stacks of layers -/

namespace Layers

variable {σ : Type} {M : Type → Type u}

instance instDeferrable [Deferrable σ M] :
    (layers : List (Route × Type)) → Deferrable σ (Layers M layers)
  | [] => inferInstanceAs (Deferrable σ M)
  | (route, ε) :: layers =>
    letI := instDeferrable layers
    inferInstanceAs (Deferrable σ (Layered route (Layers M layers) ε))

instance instSleeper [Carrier σ M] [Sleeper σ M] :
    (layers : List (Route × Type)) → Sleeper σ (Layers M layers)
  | [] => inferInstanceAs (Sleeper σ M)
  | (route, ε) :: layers =>
    letI := instSleeper layers
    inferInstanceAs (Sleeper σ (Layered route (Layers M layers) ε))

end Layers

/-- The way of an `ε` that is raised above the layers: to a layer, through layers of the
base route, or to the bottom. -/
inductive Channel : List (Route × Type) → Type → Type 1
  | bottom : Channel [] Failure
  | layer (ε : Type) (layers : List (Route × Type)) : Channel ((.layer, ε) :: layers) ε
  | base {ε : Type} {layers : List (Route × Type)} : Channel layers ε →
      Channel ((.base, ε) :: layers) ε

/-- Layers that all exit with a `Failure`. -/
inductive Plain : List (Route × Type) → Type 1
  | bottom : Plain []
  | layer (route : Route) {layers : List (Route × Type)} : Plain layers →
      Plain ((route, Failure) :: layers)

/-- Failures are raised through such layers. -/
def Plain.channel : {layers : List (Route × Type)} → Plain layers → Channel layers Failure
  | _, .bottom => .bottom
  | _, .layer .layer _ => .layer ..
  | _, .layer .base plain => .base plain.channel

section Instances

variable (σ : Type) (M : Type → Type u) [Carrier σ M] [ErrorChannel σ M Failure]

/-- The error channel of a stack. -/
@[reducible]
def Channel.through : {layers : List (Route × Type)} → {ε : Type} → Channel layers ε →
    ErrorChannel σ (Layers M layers) ε
  | _, _, .bottom => inferInstanceAs (ErrorChannel σ M Failure)
  | _, _, .layer ε layers => inferInstanceAs (ErrorChannel σ (Layered .layer (Layers M layers) ε) ε)
  | (_, ε) :: layers, _, .base channel =>
    letI := channel.through
    inferInstanceAs (ErrorChannel σ (Layered .base (Layers M layers) ε) ε)

/-- Brackets of a stack. -/
@[reducible]
def Plain.bracketing [Observer σ] [Bracketing σ M] :
    {layers : List (Route × Type)} → Plain layers → Bracketing σ (Layers M layers)
  | _, .bottom => inferInstanceAs (Bracketing σ M)
  | _ :: layers, .layer route plain =>
    letI := plain.channel.through σ M
    letI := plain.bracketing
    inferInstanceAs (Bracketing σ (Layered route (Layers M layers) Failure))

end Instances

/-- What lies under the layers. -/
inductive Bottom where
  | action
  | future

/-- The operations of futures alone. -/
class Concurrent (bottom : Bottom) (σ : Type) (M : Type → Type u) where
  pauseThen {α : Type} : bottom = .future → Host σ α → M α
  never {α : Type} : bottom = .future → M α
  both {α β γ : Type} : bottom = .future → M α → M β → (α → β → Host σ γ) → M γ
  within {α : Type} : bottom = .future → Duration → M α → M α

instance {σ : Type} {M : Type → Type u} : Concurrent .action σ M where
  pauseThen := nofun
  never := nofun
  both := nofun
  within := nofun

instance {σ : Type} : Concurrent .future σ (Future σ) where
  pauseThen _ := .pauseThen
  never _ := .never
  both _ := .both
  within _ := .within

namespace Host

variable {σ : Type} {α β : Type u}

/-- A closure that never panics. -/
def Returns (h : Host σ α) : Prop :=
  ∀ w, ∃ a w', h w = (.ok a, w')

theorem Returns.pure (a : α) : (Host.pure (σ := σ) a).Returns :=
  fun w => ⟨a, w, rfl⟩

theorem Returns.settled (h : Host σ α) : h.settled.Returns :=
  fun w => ⟨(h w).1, (h w).2, rfl⟩

theorem Returns.map {h : Host σ α} (returns : h.Returns) (f : α → β) : (h.map f).Returns := by
  intro w
  obtain ⟨a, w', ended⟩ := returns w
  refine ⟨f a, w', ?_⟩
  simp only [Host.map, Host.bind, ended, Host.pure]

end Host

/-! ## Assemblies -/

/-- A computation over some layers with a value of the given type, as it was put together. -/
inductive Assembly (bottom : Bottom) (σ : Type) : List (Route × Type) → Type → Type 1 where
  | pure {layers} {α : Type} (a : α) : Assembly bottom σ layers α
  | map {layers} {α β : Type} (t : Assembly bottom σ layers α) (f : α → Host σ β) :
      Assembly bottom σ layers β
  | bind {layers} {α β ι : Type} (t : Assembly bottom σ layers α) (k : α → Host σ ι)
      (named : ι → Assembly bottom σ layers β) : Assembly bottom σ layers β
  | replace {layers} {α β : Type} (t : Assembly bottom σ layers α) (b : β) :
      Assembly bottom σ layers β
  | void {layers} {α : Type} (t : Assembly bottom σ layers α) : Assembly bottom σ layers Unit
  | andThen {layers} {α β : Type} (t : Assembly bottom σ layers α)
      (t' : Assembly bottom σ layers β) : Assembly bottom σ layers β
  | map2 {layers} {α β γ : Type} (t : Assembly bottom σ layers α)
      (t' : Assembly bottom σ layers β) (f : α → β → Host σ γ) : Assembly bottom σ layers γ
  | defer {layers} {α ι : Type} (h : Host σ ι) (named : ι → Assembly bottom σ layers α) :
      Assembly bottom σ layers α
  | delay {layers} {α : Type} (h : Host σ α) : Assembly bottom σ layers α
  | sleep {layers} (ms : Nat) : Assembly bottom σ layers Unit
  | loop {layers} {S ι β : Type} {R : S → S → Prop} (wf : WellFounded R) (step : S → Host σ ι)
      (named : (s : S) → ι → Assembly bottom σ layers (Either {t // R t s} β)) (start : S) :
      Assembly bottom σ layers β
  | raise {layers} {ε α : Type} (channel : Channel layers ε) (e : ε) : Assembly bottom σ layers α
  | raiseMessage {layers} {α : Type} (channel : Channel layers Failure) (message : String) :
      Assembly bottom σ layers α
  | fromEither {layers} {ε α : Type} (channel : Channel layers ε) (x : Either ε α) :
      Assembly bottom σ layers α
  | handle {layers} {ε α ι : Type} (channel : Channel layers ε) (t : Assembly bottom σ layers α)
      (k : ε → Host σ ι) (named : ι → Assembly bottom σ layers α) : Assembly bottom σ layers α
  | handleError {layers} {ε α : Type} (channel : Channel layers ε)
      (t : Assembly bottom σ layers α) (f : ε → Host σ α) : Assembly bottom σ layers α
  | attempt {layers} {ε α : Type} (channel : Channel layers ε) (t : Assembly bottom σ layers α) :
      Assembly bottom σ layers (Either ε α)
  | recoverWith {layers} {ε α ι : Type} (channel : Channel layers ε)
      (t : Assembly bottom σ layers α) (k : ε → Host σ (Option ι))
      (named : ι → Assembly bottom σ layers α) : Assembly bottom σ layers α
  | recover {layers} {ε α : Type} (channel : Channel layers ε) (t : Assembly bottom σ layers α)
      (f : ε → Host σ (Option α)) : Assembly bottom σ layers α
  | redeem {layers} {ε α β : Type} (channel : Channel layers ε) (t : Assembly bottom σ layers α)
      (onError : ε → Host σ β) (onValue : α → Host σ β) : Assembly bottom σ layers β
  | ensure {layers} {ε α : Type} (channel : Channel layers ε) (t : Assembly bottom σ layers α)
      (test : α → Host σ Bool) (error : Host σ ε) : Assembly bottom σ layers α
  | bracket {layers} {ρ β ι κ : Type} (plain : Plain layers) (acquire : Assembly bottom σ layers ρ)
      (use : ρ → Host σ ι) (used : ι → Assembly bottom σ layers β) (release : ρ → Host σ κ)
      (released : κ → Assembly bottom σ layers Unit) : Assembly bottom σ layers β
  | guarantee {layers} {α : Type} (plain : Plain layers) (t : Assembly bottom σ layers α)
      (finalizer : Assembly bottom σ layers Unit) : Assembly bottom σ layers α
  | ofBase {layers} {route : Route} {ε α : Type} (t : Assembly bottom σ layers (Either ε α)) :
      Assembly bottom σ ((route, ε) :: layers) α
  | base {layers} {route : Route} {ε α : Type} (t : Assembly bottom σ ((route, ε) :: layers) α) :
      Assembly bottom σ layers (Either ε α)
  | rerouted {layers} {route : Route} {ε α : Type} (route' : Route)
      (t : Assembly bottom σ ((route, ε) :: layers) α) : Assembly bottom σ ((route', ε) :: layers) α
  | lift {layers} {route : Route} {ε α : Type} (t : Assembly bottom σ layers α) :
      Assembly bottom σ ((route, ε) :: layers) α
  | ofEither {layers} {route : Route} {ε α : Type} (x : Either ε α) :
      Assembly bottom σ ((route, ε) :: layers) α
  | bindBase {layers} {route : Route} {ε α β ι : Type}
      (t : Assembly bottom σ ((route, ε) :: layers) α) (k : α → Host σ ι)
      (named : ι → Assembly bottom σ layers (Either ε β)) :
      Assembly bottom σ ((route, ε) :: layers) β
  | bimap {layers} {route : Route} {ε ε' α β : Type}
      (t : Assembly bottom σ ((route, ε) :: layers) α) (f : ε → Host σ ε') (g : α → Host σ β) :
      Assembly bottom σ ((route, ε') :: layers) β
  | mapLeft {layers} {route : Route} {ε ε' α : Type}
      (t : Assembly bottom σ ((route, ε) :: layers) α) (f : ε → Host σ ε') :
      Assembly bottom σ ((route, ε') :: layers) α
  | swap {layers} {route : Route} {ε α : Type} (t : Assembly bottom σ ((route, ε) :: layers) α) :
      Assembly bottom σ ((route, α) :: layers) ε
  | fold {layers} {route : Route} {ε α β : Type} (t : Assembly bottom σ ((route, ε) :: layers) α)
      (f : ε → Host σ β) (g : α → Host σ β) : Assembly bottom σ layers β
  | getOrElse {layers} {route : Route} {ε α : Type}
      (t : Assembly bottom σ ((route, ε) :: layers) α) (f : ε → Host σ α) :
      Assembly bottom σ layers α
  | ofHost {α : Type} (h : Host σ α) : Assembly bottom σ [] α
  | perform {α : Type} (h : Host σ (Except Failure α)) : Assembly bottom σ [] α
  | outcome {α : Type} (t : Assembly bottom σ [] α) : Assembly bottom σ [] (Either Failure α)
  | pauseThen {α : Type} (waits : bottom = .future) (h : Host σ α) : Assembly bottom σ [] α
  | never {α : Type} (waits : bottom = .future) : Assembly bottom σ [] α
  | both {α β γ : Type} (waits : bottom = .future) (t : Assembly bottom σ [] α)
      (t' : Assembly bottom σ [] β) (f : α → β → Host σ γ) : Assembly bottom σ [] γ
  | within {α : Type} (waits : bottom = .future) (limit : Duration) (t : Assembly bottom σ [] α) :
      Assembly bottom σ [] α

namespace Assembly

variable {bottom : Bottom} {σ : Type} {layers : List (Route × Type)} {α β ε ι : Type}

/-! ## Building -/

/-- Offers the computation that a partial handler named, if it named one. -/
def offered {M : Type → Type u} (named : ι → Host σ (M α)) : Option ι → Host σ (Option (M α))
  | some i => (named i).map some
  | none => .pure none

section Build

variable [Observer σ] (M : Type → Type u) [Carrier σ M] [ErrorChannel σ M Failure] [Deferrable σ M]
  [Sleeper σ M] [Bracketing σ M] [Loop.{u, 0} σ M] [Native.{u, 0} .full σ M]
  [Concurrent bottom σ M]

/-- Applies the operations of the bottom carrier and of the layers. -/
def build {layers : List (Route × Type)} {α : Type} :
    Assembly bottom σ layers α → Host σ (Layers M layers α)
  | pure a => .pure (Carrier.pure σ a)
  | map t f => t.build.bind fun m => Mappable.map m f
  | bind t k named => t.build.bind fun m =>
      Carrier.bind m fun x => (k x).bind fun i => (named i).build
  | replace t b => t.build.bind fun m => Resumption.replace m b
  | void t => t.build.bind fun m => Resumption.void m
  | andThen t t' => t.build.bind fun m => t'.build.bind fun n => Resumption.andThen m n
  | map2 t t' f => t.build.bind fun m => t'.build.bind fun n => Resumption.map2 m n f
  | defer h named => Deferrable.defer (h.bind fun i => (named i).build)
  | delay h => Resumption.delay h
  | sleep ms => Sleeper.sleep ms
  | loop wf step named start => Loop.iterate 0 wf (fun s => (step s).bind fun i =>
      (named s i).build.map fun m => .await m .pure) start
  | raise channel e =>
    letI := channel.through σ M
    .pure (ErrorChannel.raise σ e)
  | raiseMessage channel message =>
    letI := channel.through σ M
    .pure (Resumption.raiseMessage (σ := σ) message)
  | fromEither channel x =>
    letI := channel.through σ M
    .pure (Resumption.fromEither (σ := σ) x)
  | handle channel t k named =>
    letI := channel.through σ M
    t.build.bind fun m => ErrorChannel.handle m fun e => (k e).bind fun i => (named i).build
  | handleError channel t f =>
    letI := channel.through σ M
    t.build.bind fun m => Resumption.handleError m f
  | attempt channel t =>
    letI := channel.through σ M
    t.build.bind Resumption.attempt
  | recoverWith channel t k named =>
    letI := channel.through σ M
    t.build.bind fun m =>
      Resumption.recoverWith m fun e => (k e).bind (offered fun i => (named i).build)
  | recover channel t f =>
    letI := channel.through σ M
    t.build.bind fun m => Resumption.recover m f
  | redeem channel t onError onValue =>
    letI := channel.through σ M
    t.build.bind fun m => Resumption.redeem m onError onValue
  | ensure channel t test error =>
    letI := channel.through σ M
    t.build.bind fun m => Resumption.ensure m test error
  | bracket plain acquire use used release released =>
    letI := plain.bracketing σ M
    acquire.build.bind fun m =>
      Resumption.bracket m (fun x => (use x).bind fun i => (used i).build)
        fun x => (release x).bind fun i => (released i).build
  | guarantee plain t finalizer =>
    letI := plain.bracketing σ M
    t.build.bind fun m => finalizer.build.bind fun n => Resumption.guarantee m n
  | ofBase t => t.build.map Layered.mk
  | base t => t.build.map Layered.base
  | rerouted route' t => t.build.map (Layered.rerouted route')
  | lift t => t.build.bind Layered.lift
  | ofEither x => .pure (Layered.ofEither σ x)
  | bindBase t k named => t.build.bind fun m =>
      Layered.bindBase m fun x => (k x).bind fun i => (named i).build
  | bimap t f g => t.build.bind fun m => Layered.bimap m f g
  | mapLeft t f => t.build.bind fun m => Layered.mapLeft m f
  | swap t => t.build.bind Layered.swap
  | fold t f g => t.build.bind fun m => Layered.fold m f g
  | getOrElse t f => t.build.bind fun m => Layered.getOrElse m f
  | ofHost h => .pure (Native.ofHost.{u, 0} rfl h : M _)
  | perform h => .pure (Native.perform.{u, 0} rfl h : M _)
  | outcome t => t.build.map fun (m : M _) => (Native.outcome.{u, 0} σ rfl m : M _)
  | pauseThen waits h => .pure (Concurrent.pauseThen waits h : M _)
  | never waits => .pure (Concurrent.never σ waits : M _)
  | both waits t t' f => t.build.bind fun (m : M _) => t'.build.map fun (n : M _) =>
      (Concurrent.both waits m n f : M _)
  | within waits limit t => t.build.map fun (m : M _) => (Concurrent.within σ waits limit m : M _)

end Build

/-! ## Calming -/

/-- Fails in the bottom carrier. -/
def crash : (layers : List (Route × Type)) → Failure → Assembly bottom σ layers α
  | [], e => raise .bottom e
  | _ :: layers, e => lift (crash layers e)

/-- Goes on with what a closure named; after a panic, the step fails in the bottom carrier. -/
def after (named : ι → Assembly bottom σ layers α) : Except Panic ι → Assembly bottom σ layers α
  | .ok i => named i
  | .error p => crash layers (.ofPanic p)

/-- Goes on as a partial handler answered, a panic being an answer. -/
def answer : Except Panic (Option ι) → Option (Except Panic ι)
  | .ok (some i) => some (.ok i)
  | .ok none => none
  | .error p => some (.error p)

/-- The failure of a closure that has failures, a panic being one. -/
def failing : Except Panic (Except Failure α) → Except Failure α
  | .ok r => r
  | .error p => .error (.ofPanic p)

/-- A test of a value as one closure: it ends with the error, or with the value. -/
def tested (test : α → Host σ Bool) (error : Host σ ε) (a : α) : Host σ (Either ε α) :=
  (test a).bind fun passed => if passed then .pure (.right a) else error.map .left

/-- The same computation, in which no closure panics: the step fails instead. -/
def calmed {layers : List (Route × Type)} {α : Type} :
    Assembly bottom σ layers α → Assembly bottom σ layers α
  | pure a => pure a
  | map t f => bind t.calmed (fun x => (f x).settled) (after pure)
  | bind t k named => bind t.calmed (fun x => (k x).settled) (after fun i => (named i).calmed)
  | replace t b => replace t.calmed b
  | void t => void t.calmed
  | andThen t t' => andThen t.calmed t'.calmed
  | map2 t t' f => bind t.calmed .pure fun x =>
      bind t'.calmed (fun y => (f x y).settled) (after pure)
  | defer h named => defer h.settled (after fun i => (named i).calmed)
  | delay h => defer h.settled (after pure)
  | sleep ms => sleep ms
  | loop wf step named start =>
    loop wf (fun s => (step s).settled) (fun s => after fun i => (named s i).calmed) start
  | raise channel e => raise channel e
  | raiseMessage channel message => raiseMessage channel message
  | fromEither channel x => fromEither channel x
  | handle channel t k named =>
    handle channel t.calmed (fun e => (k e).settled) (after fun i => (named i).calmed)
  | handleError channel t f => handle channel t.calmed (fun e => (f e).settled) (after pure)
  | attempt channel t => attempt channel t.calmed
  | recoverWith channel t k named =>
    recoverWith channel t.calmed (fun e => (k e).settled.map answer)
      (after fun i => (named i).calmed)
  | recover channel t f =>
    recoverWith channel t.calmed (fun e => (f e).settled.map answer) (after pure)
  | redeem channel t onError onValue =>
    bind (attempt channel t.calmed) (fun x => (x.fold onError onValue).settled) (after pure)
  | ensure channel t test error =>
    bind t.calmed (fun a => (tested test error a).settled) (after (fromEither channel))
  | bracket plain acquire use used release released =>
    bracket plain acquire.calmed (fun x => (use x).settled) (after fun i => (used i).calmed)
      (fun x => (release x).settled) (after fun i => (released i).calmed)
  | guarantee plain t finalizer => guarantee plain t.calmed finalizer.calmed
  | ofBase t => ofBase t.calmed
  | base t => base t.calmed
  | rerouted route' t => rerouted route' t.calmed
  | lift t => lift t.calmed
  | ofEither x => ofEither x
  | bindBase t k named =>
    bindBase t.calmed (fun x => (k x).settled) (after fun i => (named i).calmed)
  | bimap t f g => ofBase (bind (base t.calmed)
      (fun x => (x.fold (fun e => (f e).map .left) fun a => (g a).map .right).settled) (after pure))
  | mapLeft t f => ofBase (bind (base t.calmed)
      (fun x => (x.fold (fun e => (f e).map .left) fun a => .pure (.right a)).settled) (after pure))
  | swap t => swap t.calmed
  | fold t f g => bind (base t.calmed) (fun x => (x.fold f g).settled) (after pure)
  | getOrElse t f => bind (base t.calmed) (fun x => (x.fold f .pure).settled) (after pure)
  | ofHost h => perform ((h.map .ok).settled.map failing)
  | perform h => perform (h.settled.map failing)
  | outcome t => outcome t.calmed
  | pauseThen waits h => bind (pauseThen waits h.settled) .pure (after pure)
  | never waits => never waits
  | both waits t t' f => bind (both waits t.calmed t'.calmed fun a b => .pure (a, b))
      (fun x => (f x.1 x.2).settled) (after pure)
  | within waits limit t => within waits limit t.calmed

/-- None of the closures panics. -/
def Calm {layers : List (Route × Type)} {α : Type} : Assembly bottom σ layers α → Prop
  | map t f => t.Calm ∧ ∀ x, (f x).Returns
  | bind t k named => t.Calm ∧ (∀ x, (k x).Returns) ∧ ∀ i, (named i).Calm
  | map2 t t' f => t.Calm ∧ t'.Calm ∧ ∀ x y, (f x y).Returns
  | defer h named => h.Returns ∧ ∀ i, (named i).Calm
  | delay h => h.Returns
  | loop _ step named _ => (∀ s, (step s).Returns) ∧ ∀ s i, (named s i).Calm
  | handle _ t k named => t.Calm ∧ (∀ e, (k e).Returns) ∧ ∀ i, (named i).Calm
  | handleError _ t f => t.Calm ∧ ∀ e, (f e).Returns
  | recoverWith _ t k named => t.Calm ∧ (∀ e, (k e).Returns) ∧ ∀ i, (named i).Calm
  | recover _ t f => t.Calm ∧ ∀ e, (f e).Returns
  | redeem _ t onError onValue => t.Calm ∧ (∀ e, (onError e).Returns) ∧ ∀ x, (onValue x).Returns
  | ensure _ t test error => t.Calm ∧ (∀ x, (test x).Returns) ∧ error.Returns
  | bracket _ acquire use used release released => acquire.Calm ∧ (∀ x, (use x).Returns) ∧
      (∀ i, (used i).Calm) ∧ (∀ x, (release x).Returns) ∧ ∀ i, (released i).Calm
  | bindBase t k named => t.Calm ∧ (∀ x, (k x).Returns) ∧ ∀ i, (named i).Calm
  | bimap t f g => t.Calm ∧ (∀ e, (f e).Returns) ∧ ∀ x, (g x).Returns
  | mapLeft t f => t.Calm ∧ ∀ e, (f e).Returns
  | fold t f g => t.Calm ∧ (∀ e, (f e).Returns) ∧ ∀ x, (g x).Returns
  | getOrElse t f => t.Calm ∧ ∀ e, (f e).Returns
  | ofHost h => h.Returns
  | perform h => h.Returns
  | pauseThen _ h => h.Returns
  | both _ t t' f => t.Calm ∧ t'.Calm ∧ ∀ x y, (f x y).Returns
  | andThen t t' => t.Calm ∧ t'.Calm
  | guarantee _ t finalizer => t.Calm ∧ finalizer.Calm
  | replace t _ => t.Calm
  | void t => t.Calm
  | attempt _ t => t.Calm
  | ofBase t => t.Calm
  | base t => t.Calm
  | rerouted _ t => t.Calm
  | lift t => t.Calm
  | swap t => t.Calm
  | outcome t => t.Calm
  | within _ _ t => t.Calm
  | pure _ | sleep _ | raise .. | raiseMessage .. | fromEither .. | ofEither _ | never _ => True

theorem crash_calm : (layers : List (Route × Type)) → (e : Failure) →
    (crash layers e : Assembly bottom σ layers α).Calm
  | [], _ => trivial
  | _ :: layers, e => crash_calm layers e

theorem after_calm {named : ι → Assembly bottom σ layers α} (calm : ∀ i, (named i).Calm) :
    (i : Except Panic ι) → (after named i).Calm
  | .ok i => calm i
  | .error p => crash_calm layers (.ofPanic p)

/-- No closure of a calmed computation panics. -/
theorem calmed_calm (t : Assembly bottom σ layers α) : t.calmed.Calm := by
  induction t with
  | pure | sleep | raise | raiseMessage | fromEither | ofEither | never => trivial
  | map t f ih => exact ⟨ih, fun x => .settled _, after_calm fun _ => trivial⟩
  | bind t k named ih ihn => exact ⟨ih, fun x => .settled _, after_calm ihn⟩
  | replace t b ih => exact ih
  | void t ih => exact ih
  | andThen t t' ih ih' => exact ⟨ih, ih'⟩
  | map2 t t' f ih ih' =>
    exact ⟨ih, .pure, fun x => ⟨ih', fun y => .settled _, after_calm fun _ => trivial⟩⟩
  | defer h named ihn => exact ⟨.settled h, after_calm ihn⟩
  | delay h => exact ⟨.settled h, after_calm fun _ => trivial⟩
  | loop wf step named start ihn => exact ⟨fun s => .settled _, fun s => after_calm (ihn s)⟩
  | handle channel t k named ih ihn => exact ⟨ih, fun e => .settled _, after_calm ihn⟩
  | handleError channel t f ih => exact ⟨ih, fun e => .settled _, after_calm fun _ => trivial⟩
  | attempt channel t ih => exact ih
  | recoverWith channel t k named ih ihn =>
    exact ⟨ih, fun e => .map (.settled _) answer, after_calm ihn⟩
  | recover channel t f ih =>
    exact ⟨ih, fun e => .map (.settled _) answer, after_calm fun _ => trivial⟩
  | redeem channel t onError onValue ih =>
    exact ⟨ih, fun x => .settled _, after_calm fun _ => trivial⟩
  | ensure channel t test error ih => exact ⟨ih, fun x => .settled _, after_calm fun _ => trivial⟩
  | bracket plain acquire use used release released ih ihu ihr =>
    exact ⟨ih, fun x => .settled _, after_calm ihu, fun x => .settled _, after_calm ihr⟩
  | guarantee plain t finalizer ih ihf => exact ⟨ih, ihf⟩
  | ofBase t ih => exact ih
  | base t ih => exact ih
  | rerouted route' t ih => exact ih
  | lift t ih => exact ih
  | bindBase t k named ih ihn => exact ⟨ih, fun x => .settled _, after_calm ihn⟩
  | bimap t f g ih => exact ⟨ih, fun x => .settled _, after_calm fun _ => trivial⟩
  | mapLeft t f ih => exact ⟨ih, fun x => .settled _, after_calm fun _ => trivial⟩
  | swap t ih => exact ih
  | fold t f g ih => exact ⟨ih, fun x => .settled _, after_calm fun _ => trivial⟩
  | getOrElse t f ih => exact ⟨ih, fun x => .settled _, after_calm fun _ => trivial⟩
  | ofHost h => exact .map (.settled _) failing
  | perform h => exact .map (.settled _) failing
  | outcome t ih => exact ih
  | pauseThen waits h => exact ⟨.settled h, .pure, after_calm fun _ => trivial⟩
  | both waits t t' f ih ih' =>
    exact ⟨⟨ih, ih', fun x y => .pure _⟩, fun x => .settled _, after_calm fun _ => trivial⟩
  | within waits limit t ih => exact ih

/-! ## Names

A closure that returns assemblies names them by its argument and the world that it is
called in. -/

section Names

variable (k : α → Host σ (Assembly bottom σ layers β))

/-- The closure, with the name of what it returned. -/
def naming (a : α) : Host σ (α × σ) :=
  fun w =>
    match k a w with
    | (.ok _, w') => (.ok (a, w), w')
    | (.error p, w') => (.error p, w')

/-- The assembly that was returned under a name. -/
def returned (i : α × σ) : Assembly bottom σ layers β :=
  match (k i.1 i.2).1 with
  | .ok t => t
  | .error p => crash layers (.ofPanic p)

/-- Going by names is going on with the assemblies that the closure returns. -/
theorem naming_build [Observer σ] {M : Type → Type u} [Carrier σ M] [ErrorChannel σ M Failure]
    [Deferrable σ M] [Sleeper σ M] [Bracketing σ M] [Loop.{u, 0} σ M] [Native.{u, 0} .full σ M]
    [Concurrent bottom σ M] (a : α) :
    ((naming k a).bind fun i => (returned k i).build M) = (k a).bind fun t => t.build M := by
  funext w
  simp only [naming, returned, Host.bind]
  rcases called : k a w with ⟨p | t, w'⟩
  · rfl
  · simp only [called]

end Names

end Assembly

end Resumption
