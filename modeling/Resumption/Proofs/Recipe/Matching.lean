/-
Matching — what one recipe comes to in two carriers.

A matching of two carriers relates computations that are held to do the same.  It
is lawful if every operation of the capabilities, applied to matching computations
and to closures that keep in step, builds matching computations; the derived
operations then do so, too.  So a recipe builds matching computations
(`Recipe.build_matches`), by induction on the recipe.

| in step, from one world     | means that                                           |
|-----------------------------|------------------------------------------------------|
| both closures end           | they end in one world, with related values           |
| both closures panic         | they panic alike, in one world, and the kit lets them |
-/
import Resumption.Proofs.Recipe.Basic

namespace Resumption

universe u v w x y

/-! ## Closures in step -/

section Steps

variable {kit : Kit} {σ : Type}

/-- How two runs of the host end that keep in step. -/
inductive Meet (kit : Kit) {X : Type x} {Y : Type y} (R : X → Y → Prop) :
    Except Panic X × σ → Except Panic Y × σ → Prop
  | ok {a : X} {b : Y} {w : σ} : R a b → Meet kit R (.ok a, w) (.ok b, w)
  | panic {p : Panic} {w : σ} : kit = .full → Meet kit R (.error p, w) (.error p, w)

namespace Host

/-- Two runs of the host that keep in step, from every world. -/
def InStep (kit : Kit) {X : Type x} {Y : Type y} (R : X → Y → Prop) (h : Host σ X)
    (h' : Host σ Y) : Prop :=
  ∀ w, Meet kit R (h w) (h' w)

variable {X : Type u} {Y : Type v} {Z : Type w} {U : Type x} {R : X → Y → Prop} {S : Z → U → Prop}

theorem InStep.pure {a : X} {b : Y} (related : R a b) :
    InStep kit R (Host.pure (σ := σ) a) (Host.pure b) :=
  fun _ => .ok related

theorem InStep.bind {h : Host σ X} {h' : Host σ Y} {f : X → Host σ Z} {f' : Y → Host σ U}
    (first : InStep kit R h h') (next : ∀ a b, R a b → InStep kit S (f a) (f' b)) :
    InStep kit S (h.bind f) (h'.bind f') := by
  intro w
  have met := first w
  unfold Host.bind
  generalize h w = end₁ at met ⊢
  generalize h' w = end₂ at met ⊢
  cases met with
  | ok related => exact next _ _ related _
  | panic may => exact .panic may

theorem InStep.map {h : Host σ X} {h' : Host σ Y} {f : X → Z} {f' : Y → U}
    (first : InStep kit R h h') (next : ∀ a b, R a b → S (f a) (f' b)) :
    InStep kit S (h.map f) (h'.map f') :=
  first.bind fun a b related => .pure (next a b related)

/-- A closure keeps in step with itself. -/
theorem Calm.inStep {h : Host σ X} (calm : h.Calm kit) : InStep kit Eq h h := by
  intro w
  rcases ended : h w with ⟨p | a, w'⟩
  · exact .panic (calm w p w' ended)
  · exact .ok rfl

/-- After one closure, two runs that keep in step. -/
theorem Calm.bind_inStep {h : Host σ X} (calm : h.Calm kit) {f : X → Host σ Z}
    {f' : X → Host σ U} (next : ∀ a, InStep kit S (f a) (f' a)) :
    InStep kit S (h.bind f) (h.bind f') :=
  calm.inStep.bind fun a _ same => same ▸ next a

theorem Calm.pure (a : X) : (Host.pure (σ := σ) a).Calm kit := by
  intro w p w' ended
  cases ended

end Host

end Steps

/-! ## Matchings -/

/-- Two carriers and which of their computations are held to do the same. -/
class Matching (M N : Type → Type u) where
  Match {α : Type} : M α → N α → Prop

export Matching (Match)

section Matching

variable {σ : Type} {M N : Type → Type u} [Matching M N]

/-- Building runs nothing, and what is built matches. -/
def Built {α : Type} (h : Host σ (M α)) (h' : Host σ (N α)) : Prop :=
  ∃ m n, h = .pure m ∧ h' = .pure n ∧ Match m n

/-- Turns that end alike, or await matching computations and go on alike. -/
inductive TurnMatch (kit : Kit) {S : Type w} {β : Type} : Turn σ M S β → Turn σ N S β → Prop
  | finish (b : β) : TurnMatch kit (.finish b) (.finish b)
  | await {α : Type} {m : M α} {n : N α} {next : α → Host σ (Either S β)} : Match m n →
      (∀ a, (next a).Calm kit) → TurnMatch kit (.await m next) (.await n next)

variable {kit : Kit} {α β : Type} {h : Host σ (M α)} {h' : Host σ (N α)}

theorem Built.of_match {m : M α} {n : N α} (matched : Match m n) :
    Built (Host.pure (σ := σ) m) (Host.pure n) :=
  ⟨m, n, rfl, rfl, matched⟩

theorem Built.bind (built : Built h h') {f : M α → Host σ (M β)} {f' : N α → Host σ (N β)}
    (next : ∀ m n, Match m n → Built (f m) (f' n)) : Built (h.bind f) (h'.bind f') := by
  obtain ⟨m, n, rfl, rfl, matched⟩ := built
  exact next m n matched

theorem Built.inStep (built : Built h h') : Host.InStep kit Match h h' := by
  obtain ⟨m, n, rfl, rfl, matched⟩ := built
  exact .pure matched

end Matching

section Laws

variable (kit : Kit) (σ : Type) (M N : Type → Type u) [Matching M N]

/-- A matching that loops respect. -/
structure LawfulMatchingLoop [Loop.{u, w} σ M] [Loop.{u, w} σ N] : Prop where
  iterate {S : Type w} {R : S → S → Prop} {β : Type} (maps : Nat) (wf : WellFounded R)
    {step : (s : S) → Host σ (Turn σ M {t // R t s} β)}
    {step' : (s : S) → Host σ (Turn σ N {t // R t s} β)} :
    (∀ s, (step s).InStep kit (TurnMatch kit) (step' s)) → ∀ s,
    Built (Loop.iterate maps wf step s) (Loop.iterate maps wf step' s)

/-- A matching that the operations of both carriers respect. -/
structure LawfulMatching [Carrier σ M] [Carrier σ N] [ErrorChannel σ M Failure]
    [ErrorChannel σ N Failure] [Deferrable σ M] [Deferrable σ N] [Sleeper σ M] [Sleeper σ N]
    [Bracketing σ M] [Bracketing σ N] [Loop.{u, 0} σ M] [Loop.{u, 0} σ N]
    [Native.{u, v} kit σ M] [Native.{u, v} kit σ N] : Prop extends
    LawfulMatchingLoop.{u, 0} kit σ M N where
  pure {α : Type} (a : α) : Match (Carrier.pure σ a : M α) (Carrier.pure σ a : N α)
  raise {α : Type} (e : Failure) :
    Match (ErrorChannel.raise σ e : M α) (ErrorChannel.raise σ e : N α)
  map {α β : Type} {m : M α} {n : N α} {f : α → Host σ β} : Match m n →
    (∀ a, (f a).Calm kit) → Built (Mappable.map m f) (Mappable.map n f)
  bind {α β : Type} {m : M α} {n : N α} {k : α → Host σ (M β)} {l : α → Host σ (N β)} :
    Match m n → (∀ a, (k a).InStep kit Match (l a)) → Built (Carrier.bind m k) (Carrier.bind n l)
  handle {α : Type} {m : M α} {n : N α} {k : Failure → Host σ (M α)}
    {l : Failure → Host σ (N α)} : Match m n → (∀ e, (k e).InStep kit Match (l e)) →
    Built (ErrorChannel.handle m k) (ErrorChannel.handle n l)
  defer {α : Type} {h : Host σ (M α)} {h' : Host σ (N α)} : h.InStep kit Match h' →
    Built (Deferrable.defer h) (Deferrable.defer h')
  sleep (ms : Nat) : Built (Sleeper.sleep ms : Host σ (M Unit)) (Sleeper.sleep ms : Host σ (N Unit))
  bracketWith {ρ β : Type} {m : M ρ} {n : N ρ} {use : ρ → Host σ (M β)} {use' : ρ → Host σ (N β)}
    {release : ρ → Option β → Host σ (M Verdict)} {release' : ρ → Option β → Host σ (N Verdict)} :
    Match m n → (∀ r, (use r).InStep kit Match (use' r)) →
    (∀ r o, (release r o).InStep kit Match (release' r o)) →
    Built (Bracketing.bracketWith m use release) (Bracketing.bracketWith n use' release')
  ofHost {α : Type} (whole : kit = .full) (h : Host σ α) :
    Match (Native.ofHost.{u, v} whole h : M α) (Native.ofHost.{u, v} whole h : N α)
  perform {α : Type} (whole : kit = .full) (h : Host σ (Except Failure α)) :
    Match (Native.perform.{u, v} whole h : M α) (Native.perform.{u, v} whole h : N α)
  outcome {α : Type} (whole : kit = .full) {m : M α} {n : N α} : Match m n →
    Match (Native.outcome.{u, v} σ whole m : M (Either Failure α)) (Native.outcome.{u, v} σ whole n)
  fold {τ α : Type} {F : Type → Type v} (whole : kit = .full) {n : Interpreter σ τ F M}
    {n' : Interpreter σ τ F N} :
    (∀ {γ} (e : F γ) t,
      (n.apply e t).InStep kit (fun x y => Match x.1 y.1 ∧ x.2 = y.2) (n'.apply e t)) →
    ∀ (t : τ) (p : Program σ F α), Built (Native.fold whole n t p) (Native.fold whole n' t p)

end Laws

/-! ## Derived operations -/

namespace LawfulMatching

variable {kit : Kit} {σ : Type} {M N : Type → Type u} [Matching M N] [Carrier σ M] [Carrier σ N]
  [ErrorChannel σ M Failure] [ErrorChannel σ N Failure] [Deferrable σ M] [Deferrable σ N]
  [Sleeper σ M] [Sleeper σ N] [Bracketing σ M] [Bracketing σ N] [Loop.{u, 0} σ M]
  [Loop.{u, 0} σ N] [Native.{u, v} kit σ M] [Native.{u, v} kit σ N]
  (laws : LawfulMatching kit σ M N) {α β γ ρ : Type} {m : M α} {n : N α}

include laws

theorem fromEither : (x : Either Failure α) →
    Match (Resumption.fromEither (σ := σ) x : M α) (Resumption.fromEither (σ := σ) x : N α)
  | .left e => laws.raise e
  | .right a => laws.pure a

theorem andThen (first : Match m n) {m' : M β} {n' : N β} (second : Match m' n') :
    Built (Resumption.andThen (σ := σ) m m') (Resumption.andThen n n') :=
  laws.bind first fun _ => .pure second

theorem map2 (first : Match m n) {m' : M β} {n' : N β} (second : Match m' n')
    {f : α → β → Host σ γ} (calm : ∀ a b, (f a b).Calm kit) :
    Built (Resumption.map2 m m' f) (Resumption.map2 n n' f) :=
  laws.bind first fun a => (laws.map second (calm a)).inStep

theorem handleError (matched : Match m n) {f : Failure → Host σ α} (calm : ∀ e, (f e).Calm kit) :
    Built (Resumption.handleError m f) (Resumption.handleError n f) :=
  laws.handle matched fun e => (calm e).bind_inStep fun a => .pure (laws.pure a)

theorem attempt (matched : Match m n) :
    Built (Resumption.attempt (σ := σ) m) (Resumption.attempt n) := by
  refine (laws.map matched fun a => .pure (Either.right a)).bind fun m n mapped => ?_
  exact laws.handle mapped fun e => .pure (laws.pure (Either.left e))

theorem recoverWith (matched : Match m n) {k : Failure → Host σ (Option (M α))}
    {l : Failure → Host σ (Option (N α))}
    (offers : ∀ e, (k e).InStep kit (Option.Rel Match) (l e)) :
    Built (Resumption.recoverWith m k) (Resumption.recoverWith n l) := by
  refine laws.handle matched fun e => (offers e).bind fun offer offer' related => ?_
  cases related with
  | some matched => exact .pure matched
  | none => exact .pure (laws.raise e)

theorem recover (matched : Match m n) {f : Failure → Host σ (Option α)}
    (calm : ∀ e, (f e).Calm kit) :
    Built (Resumption.recover m f) (Resumption.recover n f) := by
  refine laws.recoverWith matched fun e => (calm e).bind_inStep fun offer => .pure ?_
  cases offer with
  | some a => exact .some (laws.pure a)
  | none => exact .none

theorem redeem (matched : Match m n) {onError : Failure → Host σ β} {onValue : α → Host σ β}
    (calmError : ∀ e, (onError e).Calm kit) (calmValue : ∀ a, (onValue a).Calm kit) :
    Built (Resumption.redeem m onError onValue) (Resumption.redeem n onError onValue) := by
  refine (laws.attempt matched).bind fun m n attempted => laws.map attempted fun x => ?_
  cases x with
  | left e => exact calmError e
  | right a => exact calmValue a

theorem ensure (matched : Match m n) {test : α → Host σ Bool} {error : Host σ Failure}
    (calmTest : ∀ a, (test a).Calm kit) (calmError : error.Calm kit) :
    Built (Resumption.ensure m test error) (Resumption.ensure n test error) := by
  refine laws.bind matched fun a => (calmTest a).bind_inStep fun passed => ?_
  cases passed with
  | true => exact .pure (laws.pure a)
  | false => exact calmError.bind_inStep fun e => .pure (laws.raise e)

theorem delay {h : Host σ α} (calm : h.Calm kit) :
    Built (Resumption.delay h : Host σ (M α)) (Resumption.delay h : Host σ (N α)) :=
  laws.defer (calm.bind_inStep fun a => .pure (laws.pure a))

theorem bracket (matched : Match m n) {use : α → Host σ (M β)} {use' : α → Host σ (N β)}
    {release : α → Host σ (M Unit)} {release' : α → Host σ (N Unit)}
    (uses : ∀ a, (use a).InStep kit Match (use' a))
    (releases : ∀ a, (release a).InStep kit Match (release' a)) :
    Built (Resumption.bracket m use release) (Resumption.bracket n use' release') := by
  refine (laws.bracketWith matched uses fun a _ => ?_).bind fun m n bracketed => ?_
  · exact (releases a).bind fun m n released =>
      (laws.map released fun _ => .pure Verdict.clean).inStep
  · exact laws.map bracketed fun x => .pure x.1

theorem guarantee (matched : Match m n) {finalizer : M Unit} {finalizer' : N Unit}
    (finalizes : Match finalizer finalizer') :
    Built (Resumption.guarantee (σ := σ) m finalizer) (Resumption.guarantee n finalizer') :=
  laws.bracket (laws.pure ()) (fun _ => .pure matched) fun _ => .pure finalizes

theorem tailRec (whole : kit = .full) {S : Type} {step : S → Host σ (M (Either S β))}
    {step' : S → Host σ (N (Either S β))} (steps : ∀ s, (step s).InStep kit Match (step' s))
    (rounds : Nat) (start : S) :
    Built (Resumption.tailRec rounds step start) (Resumption.tailRec rounds step' start) := by
  refine laws.iterate 0 _ (fun s => ?_) _
  obtain ⟨rounds, s⟩ := s
  cases rounds with
  | zero => exact fun w => .panic whole
  | succ rounds =>
    refine (steps s).bind fun m n matched => .pure (.await matched fun x => ?_)
    exact fun _ _ _ _ => whole

end LawfulMatching

/-! ## Folds -/

section Folds

variable {kit : Kit} {σ : Type} [Observer σ] {M N : Type → Type u} [Matching M N] {τ α : Type}
  {F : Type → Type v} {n : Interpreter σ τ F M} {n' : Interpreter σ τ F N}

/-- The turns of a fold match if the interpreters keep in step. -/
theorem foldTurn_inStep (whole : kit = .full) (applies : ∀ {γ} (e : F γ) t,
      (n.apply e t).InStep kit (fun x y => Match x.1 y.1 ∧ x.2 = y.2) (n'.apply e t))
    (s : τ × Program σ F α) :
    (Program.foldTurn n s).InStep kit (TurnMatch kit) (Program.foldTurn n' s) := by
  intro w
  unfold Program.foldTurn
  dsimp only
  split
  · exact .panic whole
  · exact .ok (.finish _)
  · refine (applies _ s.1).map (fun x y related => ?_) _
    exact .await related.1 fun _ _ _ _ _ => whole
  · refine (applies _ s.1).map (fun x y related => ?_) _
    obtain ⟨m, t⟩ := x
    obtain ⟨n, t'⟩ := y
    obtain ⟨matched, rfl⟩ := related
    exact .await matched fun _ _ _ _ _ => whole

theorem LawfulMatchingLoop.fold [Loop.{u, max 1 v} σ M] [Loop.{u, max 1 v} σ N]
    (loops : LawfulMatchingLoop.{u, max 1 v} kit σ M N) (whole : kit = .full) (applies : ∀ {γ} (e : F γ) t,
      (n.apply e t).InStep kit (fun x y => Match x.1 y.1 ∧ x.2 = y.2) (n'.apply e t))
    (t : τ) (p : Program σ F α) : Built (p.fold n t) (p.fold n' t) :=
  loops.iterate 1 _ (foldTurn_inStep whole applies) _

end Folds

/-! ## Recipes -/

/-- A closure keeps in step that names one of some computations. -/
theorem Closure.named_inStep {kit : Kit} {σ : Type} {M N : Type → Type u} [Matching M N]
    {α ι : Type} (k : Closure kit σ ι) {named : ι → Host σ (M α)} {named' : ι → Host σ (N α)}
    (built : ∀ i, Built (named i) (named' i)) :
    (k.call.bind named).InStep kit Match (k.call.bind named') :=
  k.calm.bind_inStep fun i => (built i).inStep

/-- One recipe builds matching computations in two carriers. -/
theorem Recipe.build_matches {kit : Kit} {σ : Type} {M N : Type → Type u} [Matching M N]
    [Carrier σ M] [Carrier σ N] [ErrorChannel σ M Failure] [ErrorChannel σ N Failure]
    [Deferrable σ M] [Deferrable σ N] [Sleeper σ M] [Sleeper σ N] [Bracketing σ M]
    [Bracketing σ N] [Loop.{u, 0} σ M] [Loop.{u, 0} σ N] [Native.{u, v} kit σ M]
    [Native.{u, v} kit σ N] (laws : LawfulMatching kit σ M N) {α : Type} (a : Recipe kit σ α) :
    Built (a.build M) (a.build N) := by
  induction a with
  | pure a => exact .of_match (laws.pure a)
  | raise e => exact .of_match (laws.raise e)
  | raiseMessage message => exact .of_match (laws.raise (.raised message))
  | fromEither x => exact .of_match (laws.fromEither x)
  | map a f iha => exact iha.bind fun m n matched => laws.map matched fun x => (f x).calm
  | bind a k named iha ihn =>
    exact iha.bind fun m n matched => laws.bind matched fun x => (k x).named_inStep ihn
  | andThen a b iha ihb =>
    exact iha.bind fun m n first => ihb.bind fun m' n' second => laws.andThen first second
  | map2 a b f iha ihb =>
    exact iha.bind fun m n first => ihb.bind fun m' n' second =>
      laws.map2 first second fun x y => (f x y).calm
  | handle a k named iha ihn =>
    exact iha.bind fun m n matched => laws.handle matched fun e => (k e).named_inStep ihn
  | handleError a f iha =>
    exact iha.bind fun m n matched => laws.handleError matched fun e => (f e).calm
  | attempt a iha => exact iha.bind fun m n matched => laws.attempt matched
  | recoverWith a k named iha ihn =>
    rw [Recipe.build, Recipe.build]
    refine iha.bind fun m n matched => laws.recoverWith matched fun e => ?_
    refine (k e).calm.bind_inStep fun offer => ?_
    cases offer with
    | some i => exact (ihn i).inStep.map fun _ _ matched => .some matched
    | none => exact .pure .none
  | recover a f iha => exact iha.bind fun m n matched => laws.recover matched fun e => (f e).calm
  | redeem a onError onValue iha =>
    exact iha.bind fun m n matched =>
      laws.redeem matched (fun e => (onError e).calm) fun x => (onValue x).calm
  | ensure a test error iha =>
    exact iha.bind fun m n matched => laws.ensure matched (fun x => (test x).calm) error.calm
  | defer s named ihn => exact laws.defer (s.named_inStep ihn)
  | delay h => exact laws.delay h.calm
  | sleep ms => exact laws.sleep ms
  | bracket acquire use used release released iha ihu ihr =>
    exact iha.bind fun m n matched => laws.bracket matched
      (fun x => (use x).named_inStep ihu) fun x => (release x).named_inStep ihr
  | guarantee a finalizer iha ihf =>
    exact iha.bind fun m n matched => ihf.bind fun m' n' finalizes =>
      laws.guarantee matched finalizes
  | loop wf step named start ihn =>
    refine laws.iterate 0 wf (fun s => (step s).calm.bind_inStep fun i => ?_) start
    exact (ihn s i).inStep.map fun m n matched => .await matched fun x => .pure x
  | tailRec whole rounds step named start ihn =>
    exact laws.tailRec whole (fun s => (step s).named_inStep ihn) rounds start
  | ofHost whole h => exact .of_match (laws.ofHost whole h.call)
  | perform whole h => exact .of_match (laws.perform whole h.call)
  | outcome whole a iha =>
    exact iha.bind fun m n matched => .of_match (laws.outcome whole matched)
  | fold whole apply named t p ihn =>
    refine laws.fold whole (fun e t => ?_) t p
    refine (apply e t).calm.bind_inStep fun x => ?_
    exact (ihn e x.1).inStep.map fun m n matched => ⟨matched, rfl⟩

end Resumption
