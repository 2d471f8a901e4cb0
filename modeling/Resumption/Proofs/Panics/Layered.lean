/-
Layered — layers over a lawful calming have one.

A layered computation stands for another one if its base stands for the other's base,
and crashes if its base does: a panic is a failure of the bottom carrier, which no
layer sees.  Each law of a layer is a law of its base, at closures that keep an early
exit.
-/
import Resumption.Proofs.Panics.Calming

namespace Resumption

universe u

namespace Layered

variable {σ : Type} {route : Route} {M : Type → Type u} {ε α β : Type} [Calming M]

instance : Calming (Layered route M ε) where
  StandIn m n := StandIn m.base n.base
  Crashes p m := Crashes p m.base

theorem calmedBy_base {h h' : Host σ (Layered route M ε α)} (calmed : h.CalmedBy h') :
    (h.map base).CalmedBy (h'.map base) :=
  calmed.map (fun _ _ stands => stands) fun _ _ crashes => crashes

theorem calmlyBuilt_mk {h h' : Host σ (M (Either ε α))} (built : CalmlyBuilt h h') :
    CalmlyBuilt (h.map (mk : _ → Layered route M ε α)) (h'.map mk) := by
  obtain ⟨m, n, rfl, rfl, stands⟩ := built
  exact ⟨⟨m⟩, ⟨n⟩, rfl, rfl, stands⟩

theorem crashBuilt_mk {p : Panic} {h : Host σ (M (Either ε α))} (built : CrashBuilt p h) :
    CrashBuilt p (h.map (mk : _ → Layered route M ε α)) := by
  obtain ⟨m, rfl, crashes⟩ := built
  exact ⟨⟨m⟩, rfl, crashes⟩

/-- Mapping a side keeps a closure from panicking. -/
theorem sides_return {f : α → Host σ β} (returns : ∀ a, (f a).Returns) (x : Either ε α) :
    (x.map f).Returns := by
  cases x with
  | left e => exact .map (.pure e) Either.left
  | right a => exact (returns a).map Either.right

section Sequencing

variable [Carrier σ M] [LawfulCalming σ M]

/-- An early exit is kept on both sides. -/
theorem onRight_calmed {k l : α → Host σ (Layered route M ε β)}
    (calmed : ∀ a, (k a).CalmedBy (l a)) (x : Either ε α) :
    (onRight (fun a => (k a).map base) x).CalmedBy (onRight (fun a => (l a).map base) x) := by
  cases x with
  | left e => exact .pure (LawfulCalming.pure (Either.left e))
  | right a => exact calmedBy_base (calmed a)

instance : LawfulCalming σ (Layered route M ε) where
  pure a := LawfulCalming.pure (Either.right a)
  map stands returns := calmlyBuilt_mk (LawfulCalming.map stands (sides_return returns))
  map_bind {α β m n f k} stands calmed := by
    refine calmlyBuilt_mk (LawfulCalming.map_bind stands fun x => ?_)
    have sides := onRight_calmed calmed x
    rw [← onRight_pure f] at sides
    exact sides
  bind stands calmed := calmlyBuilt_mk (LawfulCalming.bind stands (onRight_calmed calmed))
  crash_map f crashes := crashBuilt_mk (LawfulCalming.crash_map _ crashes)
  crash_bind k crashes := crashBuilt_mk (LawfulCalming.crash_bind _ crashes)

theorem bindBase_calmlyBuilt {m n : Layered route M ε α} (stands : StandIn m n)
    {k l : α → Host σ (M (Either ε β))} (calmed : ∀ a, (k a).CalmedBy (l a)) :
    CalmlyBuilt (m.bindBase k) (n.bindBase l) := by
  refine calmlyBuilt_mk (LawfulCalming.bind stands fun x => ?_)
  cases x with
  | left e => exact .pure (LawfulCalming.pure (Either.left e))
  | right a => exact calmed a

theorem swap_calmlyBuilt {m n : Layered route M ε α} (stands : StandIn m n) :
    CalmlyBuilt (m.swap (σ := σ)) n.swap :=
  calmlyBuilt_mk (LawfulCalming.map stands fun x => .pure x.swap)

theorem lift_calmlyBuilt {m n : M α} (stands : StandIn m n) :
    CalmlyBuilt (lift (σ := σ) m : Host σ (Layered route M ε α)) (lift n) :=
  calmlyBuilt_mk (LawfulCalming.map stands fun a => .pure (Either.right a))

theorem lift_crashBuilt {p : Panic} {m : M α} (crashes : Crashes p m) :
    CrashBuilt p (lift (σ := σ) m : Host σ (Layered route M ε α)) :=
  crashBuilt_mk (LawfulCalming.crash_map _ crashes)

instance : CalmChannel σ (Layered .layer M ε) where
  raise e := LawfulCalming.pure (Either.left e)
  handle stands calmed := by
    refine calmlyBuilt_mk (LawfulCalming.bind stands fun x => ?_)
    cases x with
    | left e => exact calmedBy_base (calmed e)
    | right a => exact .pure (LawfulCalming.pure (Either.right a))

end Sequencing

instance [ErrorChannel σ M ε] [CalmChannel σ M] : CalmChannel σ (Layered .base M ε) where
  raise e := CalmChannel.raise (M := M) e
  handle stands calmed :=
    calmlyBuilt_mk (CalmChannel.handle (M := M) stands fun e => calmedBy_base (calmed e))

/-! ## Loops and effects -/

/-- Turns of the layer are turns of the base. -/
theorem baseTurn_stands [Carrier σ M] {S : Type} {turn turn' : Turn σ (Layered route M ε) S β}
    (stands : TurnStands turn turn') : TurnStands (baseTurn turn) (baseTurn turn') := by
  cases stands with
  | finish b => exact .finish (Either.right b)
  | await stands returns =>
    refine .await stands fun x => ?_
    cases x with
    | left e => exact .pure _
    | right a => exact (returns a).map _

theorem baseTurn_crashes {S : Type} {p : Panic} {turn : Turn σ (Layered route M ε) S β}
    (crashes : TurnCrashes p turn) : TurnCrashes p (baseTurn turn) := by
  cases crashes with
  | await crashes => exact .await crashes

instance [Carrier σ M] [LawfulCalming σ M] [Loop.{u, 0} σ M] [Deferrable σ M] [Sleeper σ M]
    [CalmEffects σ M] : CalmEffects σ (Layered route M ε) where
  defer calmed := calmlyBuilt_mk (CalmEffects.defer (calmedBy_base calmed))
  sleep ms := by
    have slept : CalmlyBuilt (M := M) (σ := σ) (Sleeper.sleep ms) (Sleeper.sleep ms) :=
      CalmEffects.sleep ms
    exact slept.bind fun m n stands => lift_calmlyBuilt stands
  iterate maps wf _ _ turns s := by
    refine calmlyBuilt_mk (CalmEffects.iterate (maps + 1) wf (fun s => ?_) s)
    exact (turns s).map (fun _ _ => baseTurn_stands) fun _ _ => baseTurn_crashes

/-! ## Brackets -/

section Brackets

variable [Carrier σ M] [LawfulCalming σ M] [ErrorChannel σ M Failure] [CalmChannel σ M]

theorem failedAcquire_stands (e : Failure) : (route : Route) →
    StandIn (failedAcquire (σ := σ) e route : M (Either Failure β)) (failedAcquire (σ := σ) e route)
  | .layer => LawfulCalming.pure (Either.left e)
  | .base => CalmChannel.raise e

variable [Observer σ]

/-- The library's closure after a release never panics. -/
theorem releaseVerdict_calmed (used : Option (Either Failure β)) (x : Either Failure Verdict) :
    (releaseVerdict (σ := σ) (M := M) used x).CalmedBy (releaseVerdict used x) := by
  intro w
  rcases x with e | v
  · rcases used with _ | _ | _
    · exact .ok (CalmChannel.raise e)
    · exact .ok (LawfulCalming.pure _)
    · exact .ok (LawfulCalming.pure _)
  · exact .ok (LawfulCalming.pure _)

instance [Bracketing σ M] [CalmBracketing σ M] : CalmBracketing σ (Layered route M Failure) where
  bracketWith stands uses releases := by
    refine (CalmBracketing.bracketWith (M := M) (σ := σ) stands (fun x => ?_) fun x used => ?_).bind
      fun m n stands => ?_
    · cases x with
      | left e => exact .pure (failedAcquire_stands e route)
      | right r => exact calmedBy_base (uses r)
    · cases x with
      | left e => exact .pure (LawfulCalming.pure Verdict.clean)
      | right r =>
        refine (releases r _).bind (fun m n stands => ?_) fun p m crashes => ?_
        · exact (LawfulCalming.bind (m := m.base) (n := n.base) stands
            (releaseVerdict_calmed used)).calmedBy
        · exact LawfulCalming.crash_bind _ crashes
    · exact calmlyBuilt_mk (LawfulCalming.map stands fun x => .pure (surface x))

end Brackets

end Layered

/-! ## Any number of layers -/

namespace Layers

variable {σ : Type} {M : Type → Type u} [Calming M]

instance instCalming : (layers : List (Route × Type)) → Calming (Layers M layers)
  | [] => inferInstanceAs (Calming M)
  | (route, ε) :: layers =>
    letI := instCalming layers
    inferInstanceAs (Calming (Layered route (Layers M layers) ε))

variable [Carrier σ M] [LawfulCalming σ M]

instance instLawfulCalming : (layers : List (Route × Type)) → LawfulCalming σ (Layers M layers)
  | [] => inferInstanceAs (LawfulCalming σ M)
  | (route, ε) :: layers =>
    haveI := instLawfulCalming layers
    inferInstanceAs (LawfulCalming σ (Layered route (Layers M layers) ε))

instance instCalmEffects [Loop.{u, 0} σ M] [Deferrable σ M] [Sleeper σ M] [CalmEffects σ M] :
    (layers : List (Route × Type)) → CalmEffects σ (Layers M layers)
  | [] => inferInstanceAs (CalmEffects σ M)
  | (route, ε) :: layers =>
    haveI := instCalmEffects layers
    inferInstanceAs (CalmEffects σ (Layered route (Layers M layers) ε))

end Layers

section Evidence

variable {σ : Type} {M : Type → Type u} [Calming M] [Carrier σ M] [LawfulCalming σ M]
  [ErrorChannel σ M Failure] [CalmChannel σ M]

/-- The channel of a stack respects the calming of the stack. -/
theorem Channel.calm : {layers : List (Route × Type)} → {ε : Type} →
    (channel : Channel layers ε) →
      letI := channel.through σ M
      CalmChannel σ (Layers M layers)
  | _, _, .bottom => inferInstanceAs (CalmChannel σ M)
  | _, _, .layer ε layers => inferInstanceAs (CalmChannel σ (Layered .layer (Layers M layers) ε))
  | (_, ε) :: layers, _, .base channel =>
    letI := channel.through σ M
    haveI := channel.calm
    inferInstanceAs (CalmChannel σ (Layered .base (Layers M layers) ε))

/-- So do its brackets. -/
theorem Plain.calm [Observer σ] [Bracketing σ M] [CalmBracketing σ M] :
    {layers : List (Route × Type)} → (plain : Plain layers) →
      letI := plain.bracketing σ M
      CalmBracketing σ (Layers M layers)
  | _, .bottom => inferInstanceAs (CalmBracketing σ M)
  | _ :: layers, .layer route plain =>
    letI := plain.channel.through σ M
    haveI := plain.channel.calm (σ := σ) (M := M)
    letI := plain.bracketing σ M
    haveI := plain.calm
    inferInstanceAs (CalmBracketing σ (Layered route (Layers M layers) Failure))

end Evidence

end Resumption
