/-
Sequencing — the monad laws, on every carrier.

Two computations are told apart by how their runs halt: with which outcome, and in
which world.  A world that records what closures do makes it a log of effects, so
computations that halt alike have done the same things in the same order.

| law          | the runs of                  | halt like those of               |
|--------------|------------------------------|----------------------------------|
| `assoc`      | `bind (bind m f) g`          | `bind m (x ↦ bind (f x) g)`      |
| `rightUnit`  | `bind m pure`                | `m`                              |
| `leftUnit`   | `bind (pure a) f`            | `f a`, built when it is reached  |
| `map_eq`     | `map m f`                    | `bind m (x ↦ pure (f x))`        |

Closures may panic in each of them.

A carrier is a plain one, or programs over a carrier, or a layer over a carrier, to
any depth.  Programs are compared in worlds that are not told of the steps of folds
(see `Resumption.Proofs.Program.Carrier`).
-/
import Resumption.Proofs.Halting.Carriers
import Resumption.Proofs.Program.Carrier

namespace Resumption

universe u

/-- The monad laws of a carrier whose computations are run until they halt. -/
structure MonadLaws (σ : Type) (M : Type → Type u) [Carrier σ M] [Halting σ M] : Prop where
  assoc {α β γ : Type} (m : M α) (f : α → Host σ (M β)) (g : β → Host σ (M γ)) :
    HaltAlike ((Carrier.bind m f).chain g) (Carrier.bind m fun x => (f x).chain g)
  rightUnit {α : Type} (m : M α) :
    HaltAlike (Carrier.bind m fun x => Host.pure (σ := σ) (Carrier.pure σ x)) (Host.pure m)
  leftUnit {α β : Type} (a : α) (f : α → Host σ (M β)) :
    HaltAlike (Carrier.bind (Carrier.pure σ a) f) (f a)
  map_eq {α β : Type} (m : M α) (f : α → Host σ β) :
    HaltAlike (Mappable.map m f) (Carrier.bind m fun x => (f x).map (Carrier.pure σ))

theorem MonadLaws.of_lawful {σ : Type} {M : Type → Type u} [Carrier σ M] [Observed σ M]
    [LawfulCarrier σ M] [Halting σ M] [FaithfulHalting σ M] : MonadLaws σ M where
  assoc m f g := (LawfulCarrier.bind_assoc m f g).haltAlike
  rightUnit m := (LawfulCarrier.bind_pure m).haltAlike
  leftUnit a f := (LawfulCarrier.pure_bind a f).haltAlike
  map_eq m f := (LawfulCarrier.map_eq m f).haltAlike

/-! ## Towers -/

/-- What is built on a carrier: a layer, or the programs over it. -/
inductive Storey where
  | layer (route : Route) (ε : Type)
  | programs

/-- Storeys on the carrier `P`, the highest first. -/
def Tower (σ : Type) (P : Type → Type 1) : List Storey → Type → Type 1
  | [] => P
  | .layer route ε :: storeys => Layered route (Tower σ P storeys) ε
  | .programs :: storeys => Program σ (Tower σ P storeys)

namespace Tower

section Instances

variable {σ : Type} {P : Type → Type 1} [Carrier σ P]

instance instCarrier : (storeys : List Storey) → Carrier σ (Tower σ P storeys)
  | [] => inferInstanceAs (Carrier σ P)
  | .layer route ε :: storeys =>
    letI := instCarrier storeys
    inferInstanceAs (Carrier σ (Layered route (Tower σ P storeys) ε))
  | .programs :: storeys => inferInstanceAs (Carrier σ (Program σ (Tower σ P storeys)))

variable [Loop.{1, 1} σ P]

instance instLoop : (storeys : List Storey) → Loop.{1, 1} σ (Tower σ P storeys)
  | [] => inferInstanceAs (Loop.{1, 1} σ P)
  | .layer route ε :: storeys =>
    letI := instLoop storeys
    inferInstanceAs (Loop.{1, 1} σ (Layered route (Tower σ P storeys) ε))
  | .programs :: storeys => inferInstanceAs (Loop.{1, 1} σ (Program σ (Tower σ P storeys)))

variable [Observer σ]

instance instObserved [Observed σ P] : (storeys : List Storey) → Observed σ (Tower σ P storeys)
  | [] => inferInstanceAs (Observed σ P)
  | .layer route ε :: storeys =>
    letI := instObserved storeys
    inferInstanceAs (Observed σ (Layered route (Tower σ P storeys) ε))
  | .programs :: storeys =>
    letI := instObserved storeys
    inferInstanceAs (Observed σ (Program σ (Tower σ P storeys)))

instance instHalting [Halting σ P] : (storeys : List Storey) → Halting σ (Tower σ P storeys)
  | [] => inferInstanceAs (Halting σ P)
  | .layer route ε :: storeys =>
    letI := instHalting storeys
    inferInstanceAs (Halting σ (Layered route (Tower σ P storeys) ε))
  | .programs :: storeys =>
    letI := instHalting storeys
    inferInstanceAs (Halting σ (Program σ (Tower σ P storeys)))

instance instFaithfulHalting [Observed σ P] [Halting σ P] [FaithfulHalting σ P] :
    (storeys : List Storey) → FaithfulHalting σ (Tower σ P storeys)
  | [] => inferInstanceAs (FaithfulHalting σ P)
  | .layer route ε :: storeys =>
    haveI := instFaithfulHalting storeys
    inferInstanceAs (FaithfulHalting σ (Layered route (Tower σ P storeys) ε))
  | .programs :: storeys =>
    haveI := instFaithfulHalting storeys
    inferInstanceAs (FaithfulHalting σ (Program σ (Tower σ P storeys)))

end Instances

section Lawful

variable {σ : Type} [Observer σ] {P : Type → Type 1} [Carrier (Untraced σ) P]
  [Loop.{1, 1} (Untraced σ) P] [Observed (Untraced σ) P] [LawfulCarrier (Untraced σ) P]
  [LawfulLoop.{1, 1} (Untraced σ) P]

/-- Every storey is as lawful as what it stands on; programs need its loop for that. -/
theorem lawful : (storeys : List Storey) →
    LawfulCarrier (Untraced σ) (Tower (Untraced σ) P storeys) ∧
      LawfulLoop.{1, 1} (Untraced σ) (Tower (Untraced σ) P storeys)
  | [] => ⟨inferInstanceAs (LawfulCarrier (Untraced σ) P),
      inferInstanceAs (LawfulLoop.{1, 1} (Untraced σ) P)⟩
  | .layer route ε :: storeys =>
    have ⟨_, _⟩ := lawful storeys
    ⟨inferInstanceAs (LawfulCarrier _ (Layered route (Tower (Untraced σ) P storeys) ε)),
      inferInstanceAs (LawfulLoop.{1, 1} _ (Layered route (Tower (Untraced σ) P storeys) ε))⟩
  | .programs :: storeys =>
    have ⟨_, _⟩ := lawful storeys
    ⟨inferInstanceAs (LawfulCarrier _ (Program (Untraced σ) (Tower (Untraced σ) P storeys))),
      inferInstanceAs (LawfulLoop.{1, 1} _ (Program (Untraced σ) (Tower (Untraced σ) P storeys)))⟩

/-- Every storey halts as its parts do. -/
theorem lawfulHalting [Halting (Untraced σ) P] [LawfulHalting (Untraced σ) P] :
    (storeys : List Storey) → LawfulHalting (Untraced σ) (Tower (Untraced σ) P storeys)
  | [] => inferInstanceAs (LawfulHalting (Untraced σ) P)
  | .layer route ε :: storeys =>
    haveI := lawfulHalting storeys
    inferInstanceAs (LawfulHalting _ (Layered route (Tower (Untraced σ) P storeys) ε))
  | .programs :: storeys =>
    have ⟨_, _⟩ := lawful (σ := σ) (P := P) storeys
    haveI := lawfulHalting storeys
    inferInstanceAs (LawfulHalting _ (Program (Untraced σ) (Tower (Untraced σ) P storeys)))

end Lawful

end Tower

/-! ## The laws -/

/-- The laws hold of any layers over the carrier `M`. -/
def LayerLaws (σ : Type) (M : Type → Type u) [Carrier σ M] [Halting σ M] : Prop :=
  ∀ layers : List (Route × Type), MonadLaws σ (Layers M layers)

/-- The laws hold of any layers over programs over layers over the carrier `P`, to any
depth. -/
def TowerLaws (σ : Type) (P : Type → Type 1) [Observer σ] [Carrier σ P] [Loop.{1, 1} σ P]
    [Halting σ P] : Prop :=
  ∀ storeys : List Storey, MonadLaws σ (Tower σ P storeys)

section Laws

variable {σ : Type}

theorem layerLaws {M : Type → Type u} [Carrier σ M] [Observed σ M] [LawfulCarrier σ M]
    [Halting σ M] [FaithfulHalting σ M] : LayerLaws σ M :=
  fun _ => .of_lawful

variable [Observer σ]

theorem towerLaws {P : Type → Type 1} [Carrier (Untraced σ) P] [Loop.{1, 1} (Untraced σ) P]
    [Observed (Untraced σ) P] [LawfulCarrier (Untraced σ) P] [LawfulLoop.{1, 1} (Untraced σ) P]
    [Halting (Untraced σ) P] [FaithfulHalting (Untraced σ) P] : TowerLaws (Untraced σ) P :=
  fun storeys =>
    have ⟨_, _⟩ := Tower.lawful (σ := σ) (P := P) storeys
    .of_lawful

end Laws

/-- The monad laws hold of every carrier: of values, optional values, results, actions
and futures, of programs over them, and of any stack of layers and programs. -/
theorem monad_laws (σ : Type) [Observer σ] :
    (LayerLaws σ Identity ∧ LayerLaws σ Option ∧ (∀ ε, LayerLaws σ (Except ε)) ∧
      LayerLaws σ (Action σ) ∧ LayerLaws σ (Future σ)) ∧
    ∀ layers : List (Route × Type),
      TowerLaws (Untraced σ) (Program (Untraced σ) (Layers Identity layers)) ∧
      TowerLaws (Untraced σ) (Program (Untraced σ) (Layers Option layers)) ∧
      (∀ ε, TowerLaws (Untraced σ) (Program (Untraced σ) (Layers (Except ε) layers))) ∧
      TowerLaws (Untraced σ) (Program (Untraced σ) (Layers (Action (Untraced σ)) layers)) ∧
      TowerLaws (Untraced σ) (Program (Untraced σ) (Layers (Future (Untraced σ)) layers)) :=
  ⟨⟨layerLaws, layerLaws, fun _ => layerLaws, layerLaws, layerLaws⟩, fun _ =>
    ⟨towerLaws, towerLaws, fun _ => towerLaws, towerLaws, towerLaws⟩⟩

end Resumption
