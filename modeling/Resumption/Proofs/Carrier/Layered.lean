/-
Layered — layers over a lawful carrier are lawful.

A layered computation is observed through its base.  Each law of a layer comes
from the same law of the base, at the continuation that keeps an early exit and
goes on with a value (`Layered.onRight`).

`Layers M` puts any number of layers over `M`, of any routes and with early exits
of any types.
-/
import Resumption.Layered.Basic
import Resumption.Proofs.Carrier.Observation

namespace Resumption

universe u w

namespace Layered

variable {σ : Type} {route : Route} {M : Type → Type u} {ε α β γ : Type}

/-- The base of what was built. -/
def inner (x : Except Panic (Layered route M ε α) × σ) : Except Panic (M (Either ε α)) × σ :=
  (x.1.map base, x.2)

theorem inner_apply (h : Host σ (Layered route M ε α)) (v : σ) : inner (h v) = h.map base v := by
  unfold Host.map Host.bind inner
  rcases h v with ⟨_ | _, _⟩ <;> rfl

theorem inner_mk (h : Host σ (M (Either ε α))) (v : σ) :
    inner (h.map (mk : _ → Layered route M ε α) v) = h v := by
  unfold Host.map Host.bind inner
  rcases h v with ⟨_ | _, _⟩ <;> rfl

theorem map_mk_base (h : Host σ (M (Either ε α))) :
    (h.map (mk : _ → Layered route M ε α)).map base = h := by
  funext v
  rw [← inner_apply, inner_mk]

instance [Observed σ M] : Observed σ (Layered route M ε) where
  Same x y := Observed.Same (inner x) (inner y)
  refl _ := Observed.refl _
  symm h := Observed.symm h
  trans h h' := Observed.trans h h'

/-- Layered computations are built alike if their bases are. -/
theorem agree_iff [Observed σ M] {h h' : Host σ (Layered route M ε α)} :
    Agree h h' ↔ Agree (h.map base) (h'.map base) := by
  constructor <;> intro agree v
  · rw [← inner_apply, ← inner_apply]
    exact agree v
  · have same := agree v
    rwa [← inner_apply, ← inner_apply] at same

variable [Carrier σ M]

/-- Keeps an early exit and goes on with a value. -/
def onRight (k : α → Host σ (M (Either ε β))) : Either ε α → Host σ (M (Either ε β)) :=
  Either.fold (fun e => .pure (Carrier.pure σ (.left e))) k

/-- Going on in the layer is going on in the base, where there is a value. -/
theorem map_base_bind (m : Layered route M ε α) (k : α → Host σ (Layered route M ε β)) :
    (Carrier.bind m k).map base = Carrier.bind m.base (onRight fun a => (k a).map base) :=
  map_mk_base _

theorem map_base_chain (h : Host σ (Layered route M ε α))
    (k : α → Host σ (Layered route M ε β)) :
    (h.chain k).map base = (h.map base).chain (onRight fun a => (k a).map base) := by
  funext v
  unfold Host.chain Host.map Host.bind
  rcases h v with ⟨p | m, v'⟩
  · rfl
  · exact congrFun (map_base_bind m k) v'

/-- A value of the layer is mapped as the base's value on the right is. -/
theorem onRight_pure (f : α → Host σ β) :
    (fun x => (Either.map f x).map (Carrier.pure σ (M := M))) =
    onRight (ε := ε) fun a => ((f a).map (Carrier.pure σ (M := Layered route M ε))).map base := by
  funext x v
  rcases x with e | a
  · rfl
  · simp only [Either.map, Either.bimap, Either.fold, onRight, Host.map, Host.bind]
    rcases f a v with ⟨_ | _, _⟩ <;> rfl

variable [Observed σ M] [LawfulCarrier σ M]

instance : LawfulCarrier σ (Layered route M ε) where
  map_eq m f := by
    rw [agree_iff, map_base_bind, ← onRight_pure f]
    refine (Agree.of_eq (map_mk_base _)).trans ?_
    exact LawfulCarrier.map_eq m.base _
  pure_bind a k := by
    rw [agree_iff, map_base_bind]
    exact LawfulCarrier.pure_bind (Either.right a) _
  bind_pure {α} m := by
    rw [agree_iff, map_base_bind]
    have steps : (onRight (σ := σ) fun a =>
        (Host.pure (Carrier.pure σ a : Layered route M ε α)).map base) =
          fun x => Host.pure (Carrier.pure σ x) := by
      funext x
      cases x <;> rfl
    exact steps ▸ LawfulCarrier.bind_pure m.base
  bind_assoc m k l := by
    rw [agree_iff, map_base_chain, map_base_bind, map_base_bind]
    refine (LawfulCarrier.bind_assoc m.base _ _).trans ?_
    refine Agree.chain_right (.pure m.base) fun x => ?_
    cases x with
    | left e => exact LawfulCarrier.pure_bind (Either.left e) _
    | right a => exact .of_eq (map_base_chain (k a) l).symm
  chain_congr {_ _ h h' k k'} e e' := by
    rw [agree_iff, map_base_chain, map_base_chain]
    refine LawfulCarrier.chain_congr (agree_iff.mp e) fun x => ?_
    cases x with
    | left e => exact .refl _
    | right a => exact agree_iff.mp (e' a)

omit [Observed σ M] [LawfulCarrier σ M] in
/-- A turn of a loop in the layer goes on as the turn of the base's loop does. -/
theorem map_base_proceed {S : Type w} (again : S → Host σ (Layered route M ε β)) :
    (turn : Turn σ (Layered route M ε) S β) →
      (turn.proceed again).map base = (baseTurn turn).proceed fun s => (again s).map base
  | .finish b => rfl
  | .await m next => by
      refine (map_base_bind m _).trans ?_
      show Carrier.bind _ _ = Carrier.bind _ _
      congr 1
      funext x v
      rcases x with e | a
      · rfl
      · simp only [onRight, Either.fold, Host.map, Host.bind]
        rcases next a v with ⟨_ | _ | _, _⟩ <;> rfl

instance [Loop.{u, w} σ M] [LawfulLoop.{u, w} σ M] : LawfulLoop.{u, w} σ (Layered route M ε) where
  iterate_eq maps wf step s := by
    rw [agree_iff]
    refine (Agree.of_eq (map_mk_base _)).trans ?_
    refine (LawfulLoop.iterate_eq (maps + 1) wf (fun s => (step s).map baseTurn) s).trans (.of_eq ?_)
    funext v
    unfold Host.map Host.bind
    rcases step s v with ⟨p | turn, v'⟩
    · rfl
    · have turned := congrFun (map_base_proceed (fun t => Loop.iterate maps wf step t.1) turn) v'
      refine Eq.trans ?_ turned.symm
      exact congrArg (fun again => Turn.proceed again (baseTurn turn) v')
        (funext fun t => (map_mk_base _).symm)

end Layered

/-! ## Any number of layers -/

/-- Layers over `M`, one over the other, the outermost first: its route, and the type of
its early exits. -/
def Layers (M : Type → Type u) : List (Route × Type) → Type → Type u
  | [] => M
  | (route, ε) :: layers => Layered route (Layers M layers) ε

namespace Layers

variable {σ : Type} {M : Type → Type u} [Carrier σ M]

instance instCarrier : (layers : List (Route × Type)) → Carrier σ (Layers M layers)
  | [] => inferInstanceAs (Carrier σ M)
  | (route, ε) :: layers =>
    letI := instCarrier layers
    inferInstanceAs (Carrier σ (Layered route (Layers M layers) ε))

instance instLoop [Loop.{u, w} σ M] :
    (layers : List (Route × Type)) → Loop.{u, w} σ (Layers M layers)
  | [] => inferInstanceAs (Loop.{u, w} σ M)
  | (route, ε) :: layers =>
    letI := instLoop layers
    inferInstanceAs (Loop.{u, w} σ (Layered route (Layers M layers) ε))

instance instObserved [Observed σ M] :
    (layers : List (Route × Type)) → Observed σ (Layers M layers)
  | [] => inferInstanceAs (Observed σ M)
  | (route, ε) :: layers =>
    letI := instObserved layers
    inferInstanceAs (Observed σ (Layered route (Layers M layers) ε))

variable [Observed σ M] [LawfulCarrier σ M]

instance instLawfulCarrier :
    (layers : List (Route × Type)) → LawfulCarrier σ (Layers M layers)
  | [] => inferInstanceAs (LawfulCarrier σ M)
  | (route, ε) :: layers =>
    haveI := instLawfulCarrier layers
    inferInstanceAs (LawfulCarrier σ (Layered route (Layers M layers) ε))

instance instLawfulLoop [Loop.{u, w} σ M] [LawfulLoop.{u, w} σ M] :
    (layers : List (Route × Type)) → LawfulLoop.{u, w} σ (Layers M layers)
  | [] => inferInstanceAs (LawfulLoop.{u, w} σ M)
  | (route, ε) :: layers =>
    haveI := instLawfulLoop layers
    inferInstanceAs (LawfulLoop.{u, w} σ (Layered route (Layers M layers) ε))

end Layers

end Resumption
