/-
Calming — when one computation stands for another one that may panic.

A calming of a carrier relates computations of which the second does what the first
does, without panics: where a closure of the first panics, the second fails with the
failure of that panic.  So two runs of the host are compared where both have ended:

| the first            | the second                                          |
|----------------------|-----------------------------------------------------|
| ends with a value    | ends with a related one, in the same world          |
| panics               | ends with what crashes with this panic, in that world |

A calming is lawful if the operations of the carrier respect it.  Then so do the
derived operations; and an operation whose closure computes a value may be replaced
by one whose closure returns a computation (`map_bind`), which can crash.
-/
import Resumption.Proofs.Panics.Assembly

namespace Resumption

universe u w x y

/-! ## Runs of the host -/

section Runs

variable {σ : Type} {X : Type u} {Y : Type w} {Z : Type x} {U : Type y}

/-- How two runs of the host end of which the second one never panics. -/
inductive Settled (R : X → Y → Prop) (C : Panic → Y → Prop) :
    Except Panic X × σ → Except Panic Y × σ → Prop
  | ok {a : X} {b : Y} {w : σ} : R a b → Settled R C (.ok a, w) (.ok b, w)
  | panic {p : Panic} {b : Y} {w : σ} : C p b → Settled R C (.error p, w) (.ok b, w)

namespace Host

/-- The second run does what the first one does, and goes on where that one panics. -/
def SettledBy (R : X → Y → Prop) (C : Panic → Y → Prop) (h : Host σ X) (h' : Host σ Y) : Prop :=
  ∀ w, Settled R C (h w) (h' w)

variable {R : X → Y → Prop} {C : Panic → Y → Prop} {S : Z → U → Prop} {D : Panic → U → Prop}
  {h : Host σ X} {h' : Host σ Y}

theorem SettledBy.pure {a : X} {b : Y} (related : R a b) :
    SettledBy (σ := σ) R C (Host.pure a) (Host.pure b) :=
  fun _ => .ok related

theorem SettledBy.bind {f : X → Host σ Z} {f' : Y → Host σ U} (first : h.SettledBy R C h')
    (next : ∀ a b, R a b → (f a).SettledBy S D (f' b))
    (crash : ∀ p b, C p b → ∃ c, f' b = Host.pure c ∧ D p c) :
    (h.bind f).SettledBy S D (h'.bind f') := by
  intro w
  have ends := first w
  unfold Host.bind
  generalize h w = x at ends ⊢
  generalize h' w = y at ends ⊢
  cases ends with
  | ok related => exact next _ _ related _
  | panic crashes =>
    obtain ⟨c, same, crashes⟩ := crash _ _ crashes
    dsimp only
    rw [same]
    exact .panic crashes

theorem SettledBy.map {f : X → Z} {f' : Y → U} (first : h.SettledBy R C h')
    (next : ∀ a b, R a b → S (f a) (f' b)) (crash : ∀ p b, C p b → D p (f' b)) :
    (h.map f).SettledBy S D (h'.map f') :=
  first.bind (fun a b related => .pure (next a b related)) fun p b crashes =>
    ⟨f' b, rfl, crash p b crashes⟩

/-- A closure is settled by itself, its panic being a value. -/
theorem settledBy_settled (h : Host σ X) :
    h.SettledBy (fun a r => r = .ok a) (fun p r => r = .error p) h.settled := by
  intro w
  unfold settled
  rcases h w with ⟨p | a, w'⟩
  · exact .panic rfl
  · exact .ok rfl

/-- After a closure that is settled, the second run goes on with its panic, too. -/
theorem settledBy_after (h : Host σ X) {f : X → Host σ Z} {f' : Except Panic X → Host σ U}
    (next : ∀ a, (f a).SettledBy S D (f' (.ok a)))
    (crash : ∀ p, ∃ c, f' (.error p) = Host.pure c ∧ D p c) :
    (h.bind f).SettledBy S D (h.settled.bind f') := by
  refine (settledBy_settled h).bind (fun a r same => ?_) fun p r same => ?_
  · rw [same]
    exact next a
  · rw [same]
    exact crash p

end Host

end Runs

/-! ## Calmings -/

/-- A carrier with stand-ins: `StandIn m n` says that `n` does what `m` does, without its
panics.  A computation crashes if it fails with the failure of a panic. -/
class Calming (M : Type → Type u) where
  StandIn {α : Type} : M α → M α → Prop
  Crashes {α : Type} : Panic → M α → Prop

export Calming (StandIn Crashes)

section Calming

variable {σ : Type} {M : Type → Type u} [Calming M] {α β : Type}

/-- What the second run builds stands for what the first one builds. -/
abbrev Host.CalmedBy (h h' : Host σ (M α)) : Prop :=
  h.SettledBy StandIn Crashes h'

/-- Building runs nothing, and what is built second stands for what is built first. -/
def CalmlyBuilt (h h' : Host σ (M α)) : Prop :=
  ∃ m n, h = .pure m ∧ h' = .pure n ∧ StandIn m n

/-- Building runs nothing, and what is built crashes. -/
def CrashBuilt (p : Panic) (h : Host σ (M α)) : Prop :=
  ∃ m, h = .pure m ∧ Crashes p m

/-- Turns that end alike, or await computations of which one stands for the other. -/
inductive TurnStands {S : Type w} {β : Type} : Turn σ M S β → Turn σ M S β → Prop
  | finish (b : β) : TurnStands (.finish b) (.finish b)
  | await {α : Type} {m n : M α} {next : α → Host σ (Either S β)} : StandIn m n →
      (∀ a, (next a).Returns) → TurnStands (.await m next) (.await n next)

/-- A turn that awaits what crashes. -/
inductive TurnCrashes {S : Type w} {β : Type} (p : Panic) : Turn σ M S β → Prop
  | await {α : Type} {m : M α} {next : α → Host σ (Either S β)} : Crashes p m →
      TurnCrashes p (.await m next)

variable {h h' : Host σ (M α)}

theorem CalmlyBuilt.of_stands {m n : M α} (stands : StandIn m n) :
    CalmlyBuilt (Host.pure (σ := σ) m) (Host.pure n) :=
  ⟨m, n, rfl, rfl, stands⟩

theorem CalmlyBuilt.bind {N : Type → Type w} [Calming N] (built : CalmlyBuilt h h')
    {f f' : M α → Host σ (N β)}
    (next : ∀ m n, StandIn m n → CalmlyBuilt (f m) (f' n)) :
    CalmlyBuilt (h.bind f) (h'.bind f') := by
  obtain ⟨m, n, rfl, rfl, stands⟩ := built
  exact next m n stands

theorem CalmlyBuilt.calmedBy (built : CalmlyBuilt h h') : h.CalmedBy h' := by
  obtain ⟨m, n, rfl, rfl, stands⟩ := built
  exact .pure stands

/-- What is made of a computation that crashes. -/
theorem CrashBuilt.map {p : Panic} (built : CrashBuilt p h) {Y : Type w} {D : Panic → Y → Prop}
    {f : M α → Y} (crash : ∀ m, Crashes p m → D p (f m)) :
    ∃ c, h.map f = .pure c ∧ D p c := by
  obtain ⟨m, rfl, crashes⟩ := built
  exact ⟨f m, rfl, crash m crashes⟩

end Calming

/-! ## Laws -/

/-- A calming that sequencing respects. -/
class LawfulCalming (σ : Type) (M : Type → Type u) [Calming M] [Carrier σ M] : Prop where
  pure {α : Type} (a : α) : StandIn (Carrier.pure σ a : M α) (Carrier.pure σ a)
  map {α β : Type} {m n : M α} {f : α → Host σ β} : StandIn m n → (∀ a, (f a).Returns) →
    CalmlyBuilt (Mappable.map m f) (Mappable.map n f)
  map_bind {α β : Type} {m n : M α} {f : α → Host σ β} {k : α → Host σ (M β)} : StandIn m n →
    (∀ a, ((f a).map (Carrier.pure σ)).CalmedBy (k a)) →
    CalmlyBuilt (Mappable.map m f) (Carrier.bind n k)
  bind {α β : Type} {m n : M α} {k l : α → Host σ (M β)} : StandIn m n →
    (∀ a, (k a).CalmedBy (l a)) → CalmlyBuilt (Carrier.bind m k) (Carrier.bind n l)
  crash_map {α β : Type} {p : Panic} {m : M α} (f : α → Host σ β) : Crashes p m →
    CrashBuilt p (Mappable.map m f)
  crash_bind {α β : Type} {p : Panic} {m : M α} (k : α → Host σ (M β)) : Crashes p m →
    CrashBuilt p (Carrier.bind m k)

/-- A calming that loops and the effects of a suspended carrier respect. -/
class CalmEffects (σ : Type) (M : Type → Type u) [Calming M] [Loop.{u, 0} σ M] [Deferrable σ M]
    [Sleeper σ M] : Prop where
  defer {α : Type} {h h' : Host σ (M α)} : h.CalmedBy h' →
    CalmlyBuilt (Deferrable.defer h) (Deferrable.defer h')
  sleep (ms : Nat) : CalmlyBuilt (M := M) (σ := σ) (Sleeper.sleep ms) (Sleeper.sleep ms)
  iterate {S β : Type} {R : S → S → Prop} (maps : Nat) (wf : WellFounded R)
    {step step' : (s : S) → Host σ (Turn σ M {t // R t s} β)} :
    (∀ s, (step s).SettledBy TurnStands TurnCrashes (step' s)) → ∀ s,
    CalmlyBuilt (Loop.iterate maps wf step s) (Loop.iterate maps wf step' s)

/-- A calming that an error channel respects. -/
class CalmChannel (σ : Type) (M : Type → Type u) {ε : Type} [Calming M] [ErrorChannel σ M ε] :
    Prop where
  raise {α : Type} (e : ε) : StandIn (ErrorChannel.raise σ e : M α) (ErrorChannel.raise σ e)
  handle {α : Type} {m n : M α} {k l : ε → Host σ (M α)} : StandIn m n →
    (∀ e, (k e).CalmedBy (l e)) → CalmlyBuilt (ErrorChannel.handle m k) (ErrorChannel.handle n l)

/-- A calming that brackets respect. -/
class CalmBracketing (σ : Type) (M : Type → Type u) [Calming M] [Bracketing σ M] : Prop where
  bracketWith {ρ β : Type} {m n : M ρ} {use use' : ρ → Host σ (M β)}
    {release release' : ρ → Option β → Host σ (M Verdict)} : StandIn m n →
    (∀ r, (use r).CalmedBy (use' r)) → (∀ r o, (release r o).CalmedBy (release' r o)) →
    CalmlyBuilt (Bracketing.bracketWith m use release) (Bracketing.bracketWith n use' release')

/-! ## Derived operations -/

section Derived

variable {σ : Type} {M : Type → Type u} [Calming M] {α β γ ρ ε : Type} {m n : M α}

namespace CalmlyBuilt

/-- A partial handler that panics answers with what crashes. -/
theorem recoverWith [Carrier σ M] [ErrorChannel σ M ε] [CalmChannel σ M] (stands : StandIn m n)
    {k l : ε → Host σ (Option (M α))}
    (calmed : ∀ e, (k e).SettledBy (Option.Rel StandIn) (fun p o => ∃ c, o = some c ∧ Crashes p c)
      (l e)) :
    CalmlyBuilt (Resumption.recoverWith m k) (Resumption.recoverWith n l) := by
  refine CalmChannel.handle stands fun e => (calmed e).bind (fun o o' related => ?_) ?_
  · cases related with
    | some stands => exact .pure stands
    | none => exact .pure (CalmChannel.raise e)
  · rintro p _ ⟨c, rfl, crashes⟩
    exact ⟨c, rfl, crashes⟩

variable [Carrier σ M] [LawfulCalming σ M]

theorem replace (stands : StandIn m n) (b : β) :
    CalmlyBuilt (Resumption.replace (σ := σ) m b) (Resumption.replace n b) :=
  LawfulCalming.map stands fun _ => .pure b

theorem andThen (first : StandIn m n) {m' n' : M β} (second : StandIn m' n') :
    CalmlyBuilt (Resumption.andThen (σ := σ) m m') (Resumption.andThen n n') :=
  LawfulCalming.bind first fun _ => .pure second

/-- The second computation is mapped by a closure that may panic. -/
theorem map2 (first : StandIn m n) {m' n' : M β} (second : StandIn m' n') {f : α → β → Host σ γ}
    {k : α → β → Host σ (M γ)}
    (calmed : ∀ a b, ((f a b).map (Carrier.pure σ)).CalmedBy (k a b)) :
    CalmlyBuilt (Resumption.map2 m m' f) (Carrier.bind n fun a => Carrier.bind n' (k a)) :=
  LawfulCalming.bind first fun a => (LawfulCalming.map_bind second (calmed a)).calmedBy

theorem attempt [ErrorChannel σ M ε] [CalmChannel σ M] (stands : StandIn m n) :
    CalmlyBuilt (Resumption.attempt (σ := σ) (ε := ε) m) (Resumption.attempt n) := by
  have mapped : CalmlyBuilt (Mappable.map m fun a => Host.pure (σ := σ) (Either.right (α := ε) a))
      (Mappable.map n fun a => Host.pure (σ := σ) (Either.right a)) :=
    LawfulCalming.map stands fun a => .pure _
  refine mapped.bind fun m n stands => CalmChannel.handle stands fun e => ?_
  exact .pure (LawfulCalming.pure (Either.left e))

variable [Bracketing σ M] [CalmBracketing σ M]

theorem bracket (stands : StandIn m n) {use use' : α → Host σ (M β)}
    {release release' : α → Host σ (M Unit)} (uses : ∀ a, (use a).CalmedBy (use' a))
    (releases : ∀ a, (release a).CalmedBy (release' a)) :
    CalmlyBuilt (Resumption.bracket m use release) (Resumption.bracket n use' release') := by
  refine (CalmBracketing.bracketWith stands uses fun a _ => ?_).bind fun m n stands => ?_
  · refine (releases a).bind (fun m n stands => ?_) fun p m crashes => ?_
    · exact (LawfulCalming.map stands fun _ => .pure Verdict.clean).calmedBy
    · exact LawfulCalming.crash_map _ crashes
  · exact LawfulCalming.map stands fun x => .pure x.1

theorem guarantee (stands : StandIn m n) {finalizer finalizer' : M Unit}
    (finalizes : StandIn finalizer finalizer') :
    CalmlyBuilt (Resumption.guarantee (σ := σ) m finalizer)
      (Resumption.guarantee n finalizer') :=
  bracket (LawfulCalming.pure ()) (fun _ => .pure stands) fun _ => .pure finalizes

end CalmlyBuilt

/-- Turns of a loop that goes on alike. -/
theorem TurnStands.proceed [Carrier σ M] [LawfulCalming σ M] {S : Type w}
    {again again' : S → Host σ (M β)} (calmed : ∀ s, CalmlyBuilt (again s) (again' s))
    {t t' : Turn σ M S β} (stands : TurnStands t t') :
    CalmlyBuilt (Turn.proceed again t) (Turn.proceed again' t') := by
  cases stands with
  | finish b => exact .of_stands (LawfulCalming.pure b)
  | await stands returns =>
    refine LawfulCalming.bind stands fun a w => ?_
    obtain ⟨x, w', ended⟩ := returns a w
    simp only [Host.bind, ended]
    cases x with
    | left s => exact (calmed s).calmedBy w'
    | right b => exact .ok (LawfulCalming.pure b)

theorem Host.SettledBy.proceed [Carrier σ M] [LawfulCalming σ M] {S : Type w}
    {again again' : S → Host σ (M β)} {step step' : Host σ (Turn σ M S β)}
    (settled : step.SettledBy TurnStands TurnCrashes step')
    (calmed : ∀ s, CalmlyBuilt (again s) (again' s)) :
    (step.bind (Turn.proceed again)).CalmedBy (step'.bind (Turn.proceed again')) := by
  refine settled.bind (fun t t' stands => (stands.proceed calmed).calmedBy) ?_
  rintro p _ ⟨crashes⟩
  exact LawfulCalming.crash_bind _ crashes

theorem StandIn.fromEither [Carrier σ M] [LawfulCalming σ M] [ErrorChannel σ M ε]
    [CalmChannel σ M] : (x : Either ε α) →
    StandIn (Resumption.fromEither (σ := σ) x : M α) (Resumption.fromEither (σ := σ) x)
  | .left e => CalmChannel.raise e
  | .right a => LawfulCalming.pure a

end Derived

end Resumption
