/-
Channel — the error channels, on every stack.

A stack has an error channel if there is one below its layers that route errors to the
base: that of a plain carrier, or that of a layer, which may stand on anything.

| below layers that route to it | the channel carries                  |
|-------------------------------|--------------------------------------|
| `Option`, `Except ε`          | absent values, errors                |
| `Action`, `Future`            | failures, of panics too              |
| a `.layer` over anything      | the early exits of that layer        |

What follows from the laws of a carrier and of its channel holds of all of these
(`OnEveryChannel.of_lawful`).  Programs have no channel of their own, but a layer over
them has; they are compared in worlds that are not told of the steps of folds.
-/
import Resumption.Proofs.Carrier.Sequencing
import Resumption.Proofs.Halting.Errors

namespace Resumption

universe u

/-! ## Stacks -/

/-- `M` below some layers that route errors of type `ε` to it. -/
def Routed (M : Type → Type u) (ε : Type) (depth : Nat) : Type → Type u :=
  Layers M (.replicate depth (.base, ε))

namespace Routed

variable {σ : Type} {M : Type → Type u} {ε : Type} [Carrier σ M]

instance (depth : Nat) : Carrier σ (Routed M ε depth) :=
  Layers.instCarrier _

instance [Observed σ M] (depth : Nat) : Observed σ (Routed M ε depth) :=
  Layers.instObserved _

instance [Observed σ M] [LawfulCarrier σ M] (depth : Nat) : LawfulCarrier σ (Routed M ε depth) :=
  Layers.instLawfulCarrier _

instance instErrorChannel [ErrorChannel σ M ε] : (depth : Nat) → ErrorChannel σ (Routed M ε depth) ε
  | 0 => inferInstanceAs (ErrorChannel σ M ε)
  | depth + 1 =>
    letI := instErrorChannel depth
    inferInstanceAs (ErrorChannel σ (Layered .base (Routed M ε depth) ε) ε)

variable [Halting σ M]

instance (depth : Nat) : Halting σ (Routed M ε depth) :=
  Layers.instHalting _

instance [Observed σ M] [LawfulHalting σ M] (depth : Nat) : LawfulHalting σ (Routed M ε depth) :=
  Layers.instLawfulHalting _

instance instErrorHalting [ErrorChannel σ M ε] [ErrorHalting σ M ε] :
    (depth : Nat) → ErrorHalting σ (Routed M ε depth) ε
  | 0 => inferInstanceAs (ErrorHalting σ M ε)
  | depth + 1 =>
    letI := instErrorHalting depth
    inferInstanceAs (ErrorHalting σ (Layered .base (Routed M ε depth) ε) ε)

instance instLawfulErrors [Observed σ M] [LawfulHalting σ M] [ErrorChannel σ M ε]
    [ErrorHalting σ M ε] [LawfulErrors σ M ε] :
    (depth : Nat) → LawfulErrors σ (Routed M ε depth) ε
  | 0 => inferInstanceAs (LawfulErrors σ M ε)
  | depth + 1 =>
    haveI := instLawfulErrors depth
    inferInstanceAs (LawfulErrors σ (Layered .base (Routed M ε depth) ε) ε)

end Routed

/-! ## Mapping by plain functions -/

/-- A computation that is mapped by a plain function is built. -/
class PlainMaps (σ : Type) (M : Type → Type u) [Mappable σ M] : Prop where
  built {α β : Type} (m : M α) (f : α → β) :
    ∃ n : M β, Mappable.map m (fun a => Host.pure (σ := σ) (f a)) = Host.pure n

section Plain

variable {σ ε : Type}

instance : PlainMaps σ Identity where
  built _ _ := ⟨_, rfl⟩

instance : PlainMaps σ Option where
  built m _ := by cases m <;> exact ⟨_, rfl⟩

instance : PlainMaps σ (Except ε) where
  built m _ := by cases m <;> exact ⟨_, rfl⟩

instance : PlainMaps σ (Action σ) where
  built _ _ := ⟨_, rfl⟩

instance : PlainMaps σ (Future σ) where
  built _ _ := ⟨_, rfl⟩

instance {F : Type → Type u} : PlainMaps σ (Program σ F) where
  built _ _ := ⟨_, rfl⟩

variable {M : Type → Type u}

instance {route : Route} [Carrier σ M] [PlainMaps σ M] : PlainMaps σ (Layered route M ε) where
  built {α β} m f := by
    -- the base maps by the same function on the right, and keeps a left
    obtain ⟨n, built⟩ := PlainMaps.built (σ := σ) m.base (Either.rename id f)
    rw [← funext (Either.bimap_pure id f)] at built
    exact ⟨⟨n⟩, congrArg (Host.map Layered.mk) built⟩

variable [Carrier σ M]

instance Layers.instPlainMaps [PlainMaps σ M] :
    (layers : List (Route × Type)) → PlainMaps σ (Layers M layers)
  | [] => inferInstanceAs (PlainMaps σ M)
  | (route, ε) :: layers =>
    haveI := instPlainMaps layers
    inferInstanceAs (PlainMaps σ (Layered route (Layers M layers) ε))

instance [PlainMaps σ M] (depth : Nat) : PlainMaps σ (Routed M ε depth) :=
  Layers.instPlainMaps _

instance Tower.instPlainMaps {P : Type → Type 1} [Carrier σ P] [PlainMaps σ P] :
    (storeys : List Storey) → PlainMaps σ (Tower σ P storeys)
  | [] => inferInstanceAs (PlainMaps σ P)
  | .layer route ε :: storeys =>
    haveI := instPlainMaps (P := P) storeys
    inferInstanceAs (PlainMaps σ (Layered route (Tower σ P storeys) ε))
  | .programs :: storeys => inferInstanceAs (PlainMaps σ (Program σ (Tower σ P storeys)))

end Plain

/-! ## Every channel -/

/-- A property of carriers with an error channel. -/
def ChannelProperty (σ : Type) : Type (max 2 (u + 1)) :=
  (M : Type → Type u) → (ε : Type) → [Carrier σ M] → [ErrorChannel σ M ε] → [Halting σ M] →
    [ErrorHalting σ M ε] → Prop

namespace ChannelProperty

section Below

variable {σ : Type} (Laws : ChannelProperty.{u} σ) (M : Type → Type u) [Carrier σ M] [Halting σ M]

/-- It holds of the channel of `M`, below any number of layers that route to it. -/
def Below (ε : Type) [ErrorChannel σ M ε] [ErrorHalting σ M ε] : Prop :=
  ∀ depth, Laws (Routed M ε depth) ε

/-- It holds of the channel of a layer over any layers over `M`. -/
def OverLayers : Prop :=
  ∀ (layers : List (Route × Type)) (ε : Type), Laws.Below (Layered .layer (Layers M layers) ε) ε

/-- It follows from the laws of the carrier and of its channel. -/
def Follows : Prop :=
  ∀ {M : Type → Type u} {ε : Type} [Carrier σ M] [Observed σ M] [LawfulCarrier σ M]
    [PlainMaps σ M] [ErrorChannel σ M ε] [Halting σ M] [LawfulHalting σ M] [ErrorHalting σ M ε]
    [LawfulErrors σ M ε], Laws M ε

end Below

/-- It holds of the channel of a layer over any layers and programs over `P`. -/
def OverTowers {σ : Type} [Observer σ] (Laws : ChannelProperty.{1} σ) (P : Type → Type 1)
    [Carrier σ P] [Loop.{1, 1} σ P] [Halting σ P] : Prop :=
  ∀ (storeys : List Storey) (ε : Type), Laws.Below (Layered .layer (Tower σ P storeys) ε) ε

end ChannelProperty

section Lawful

variable {σ : Type}

theorem ChannelProperty.Follows.below {Laws : ChannelProperty.{u} σ} (follows : Laws.Follows)
    {M : Type → Type u} {ε : Type} [Carrier σ M] [Observed σ M] [LawfulCarrier σ M]
    [PlainMaps σ M] [ErrorChannel σ M ε] [Halting σ M] [LawfulHalting σ M] [ErrorHalting σ M ε]
    [LawfulErrors σ M ε] : Laws.Below M ε :=
  fun _ => follows

theorem ChannelProperty.Follows.overLayers {Laws : ChannelProperty.{u} σ}
    (follows : Laws.Follows) {M : Type → Type u} [Carrier σ M] [Observed σ M] [LawfulCarrier σ M]
    [PlainMaps σ M] [Halting σ M] [LawfulHalting σ M] : Laws.OverLayers M :=
  fun _ _ => follows.below

theorem ChannelProperty.Follows.overTowers [Observer σ] {Laws : ChannelProperty.{1} (Untraced σ)}
    (follows : Laws.Follows) {P : Type → Type 1} [Carrier (Untraced σ) P]
    [Loop.{1, 1} (Untraced σ) P] [Observed (Untraced σ) P] [LawfulCarrier (Untraced σ) P]
    [LawfulLoop.{1, 1} (Untraced σ) P] [PlainMaps (Untraced σ) P] [Halting (Untraced σ) P]
    [LawfulHalting (Untraced σ) P] : Laws.OverTowers P :=
  fun storeys _ =>
    have ⟨_, _⟩ := Tower.lawful (σ := σ) (P := P) storeys
    have := Tower.lawfulHalting (σ := σ) (P := P) storeys
    follows.below

end Lawful

/-- A property holds of every error channel.  It is given for carriers of values, for those
of descriptions, and for the latter in worlds that are not told of the steps of folds. -/
structure OnEveryChannel (σ : Type) [Observer σ] (Eager : ChannelProperty.{0} σ)
    (Lazy : ChannelProperty.{1} σ) (Untold : ChannelProperty.{1} (Untraced σ)) : Prop where
  option : Eager.Below Option Unit
  except (ε : Type) : Eager.Below (Except ε) ε
  action : Lazy.Below (Action σ) Failure
  future : Lazy.Below (Future σ) Failure
  overIdentity : Eager.OverLayers Identity
  overOption : Eager.OverLayers Option
  overExcept (ε : Type) : Eager.OverLayers (Except ε)
  overAction : Lazy.OverLayers (Action σ)
  overFuture : Lazy.OverLayers (Future σ)
  overPrograms (layers : List (Route × Type)) :
    Untold.OverTowers (Program (Untraced σ) (Layers Identity layers)) ∧
    Untold.OverTowers (Program (Untraced σ) (Layers Option layers)) ∧
    (∀ ε, Untold.OverTowers (Program (Untraced σ) (Layers (Except ε) layers))) ∧
    Untold.OverTowers (Program (Untraced σ) (Layers (Action (Untraced σ)) layers)) ∧
    Untold.OverTowers (Program (Untraced σ) (Layers (Future (Untraced σ)) layers))

theorem OnEveryChannel.of_lawful {σ : Type} [Observer σ] {Eager : ChannelProperty.{0} σ}
    {Lazy : ChannelProperty.{1} σ} {Untold : ChannelProperty.{1} (Untraced σ)}
    (eager : Eager.Follows) (lazy : Lazy.Follows) (untold : Untold.Follows) :
    OnEveryChannel σ Eager Lazy Untold where
  option := eager.below
  except _ := eager.below
  action := lazy.below
  future := lazy.below
  overIdentity := eager.overLayers
  overOption := eager.overLayers
  overExcept _ := eager.overLayers
  overAction := lazy.overLayers
  overFuture := lazy.overLayers
  overPrograms _ :=
    ⟨untold.overTowers, untold.overTowers, fun _ => untold.overTowers, untold.overTowers,
      untold.overTowers⟩

end Resumption
