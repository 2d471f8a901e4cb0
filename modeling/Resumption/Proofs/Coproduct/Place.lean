/-
Place — where an interpreter stands in a nest.

A nest `n₁.either (n₂.either (… nₖ))` interprets the coproduct of the effects of its
interpreters, and its state is the tuple of their states.  A place in a nest says how an
effect gets there and is found again, and what of the state belongs there.

| the place       | is that of                                 | the others                   |
|-----------------|--------------------------------------------|------------------------------|
| `here`          | the nest as a whole                        | none                         |
| `left`          | its first interpreter                      | those behind it              |
| `s.right`       | `s`, in the nest behind the first          | the first, and those of `s`  |

`Serves` says what it means that an interpreter has a place, and it has it however far the
place is to the right (`Stands.serves`).  Mapping keeps an effect at its place, however often
it is done, and a coproduct has the laws of a functor if its sides have them
(`FunctorLaws.coproduct`).
-/
import Resumption.Proofs.Carrier.Observation
import Resumption.Program.Interpreter

namespace Resumption

universe u v w x y

variable {σ τ υ ρ : Type} {M : Type → Type u} {α β γ : Type}

/-! ## Places -/

/-- A place for the effect `E` in the effect `G`, and for a state `τ` in the state `υ`,
beside the states of the others. -/
structure Place (E : Type → Type x) (G : Type → Type y) (τ υ : Type) where
  injection : Injection E G
  effect? {α : Type} : G α → Option (E α)
  Others : Type
  get : υ → τ
  others : υ → Others
  join : τ → Others → υ

namespace Place

variable {E : Type → Type x} {F : Type → Type v} {G : Type → Type y}

/-- The place of the whole. -/
def here : Place E E τ τ where
  injection := .here
  effect? := some
  Others := Unit
  get := id
  others _ := ()
  join t _ := t

/-- The place of the first interpreter. -/
def left : Place E (Coproduct E G) τ (τ × υ) where
  injection := .left
  effect? := Either.left?
  Others := υ
  get := Prod.fst
  others := Prod.snd
  join := Prod.mk

/-- A place behind the first interpreter. -/
def right (s : Place E G τ υ) : Place E (Coproduct F G) τ (ρ × υ) where
  injection := s.injection.right
  effect? g := g.right?.bind s.effect?
  Others := ρ × s.Others
  get u := s.get u.2
  others u := (u.1, s.others u.2)
  join t o := (o.1, s.join t o.2)

/-! ## Serving at a place -/

/-- At this place the interpreter `n` serves in the nest `m`.

* The effects of the place are those that are injected, and mapping keeps them there:
  `effect_inject`, `inject_effect`, `map_inject`.
* To such an effect the nest applies `n`, with the state of the place, and leaves the
  states of the others alone: `apply_inject`.
* An effect of another place leaves the state of this one alone: `apply_other`.
* A state is that of the place beside those of the others: `get_join`, `others_join`,
  `join_get_others`. -/
structure Serves [Mappable σ E] [Mappable σ G] (s : Place E G τ υ) (n : Interpreter σ τ E M)
    (m : Interpreter σ υ G M) : Prop where
  effect_inject {α : Type} (e : E α) : s.effect? (s.injection.inject e) = some e
  inject_effect {α : Type} {g : G α} {e : E α} :
    s.effect? g = some e → s.injection.inject e = g
  map_inject {α β : Type} (e : E α) (f : α → Host σ β) :
    Mappable.map (s.injection.inject e) f = (Mappable.map e f).map s.injection.inject
  apply_inject {α : Type} (e : E α) (t : τ) (o : s.Others) :
    m.apply (s.injection.inject e) (s.join t o) =
      (n.apply e t).map fun (r, t') => (r, s.join t' o)
  apply_other {α : Type} {g : G α} {u u' : υ} {r : M α} {w w' : σ} : s.effect? g = none →
    m.apply g u w = (.ok (r, u'), w') → s.get u' = s.get u
  get_join (t : τ) (o : s.Others) : s.get (s.join t o) = t
  others_join (t : τ) (o : s.Others) : s.others (s.join t o) = o
  join_get_others (u : υ) : s.join (s.get u) (s.others u) = u

variable [Mappable σ E] [Mappable σ F] [Mappable σ G]

theorem serves_here (n : Interpreter σ τ E M) : here.Serves n n where
  effect_inject _ := rfl
  inject_effect h := (Option.some.inj h).symm
  map_inject _ _ := (Host.bind_pure _).symm
  apply_inject _ _ _ := (Host.bind_pure _).symm
  apply_other := nofun
  get_join _ _ := rfl
  others_join _ _ := rfl
  join_get_others _ := rfl

theorem serves_left (n : Interpreter σ τ E M) (k : Interpreter σ υ G M) :
    left.Serves n (n.either k) where
  effect_inject _ := rfl
  inject_effect {α g e} h := by
    rcases g with e' | g
    · exact congrArg Either.left (Option.some.inj h).symm
    · cases h
  map_inject _ _ := rfl
  apply_inject _ _ _ := rfl
  apply_other {α g u u' r w w'} h applied := by
    rcases g with e | g
    · cases h
    · obtain ⟨⟨r', v⟩, -, kept⟩ := Host.map_eq_ok.mp applied
      cases kept
      rfl
  get_join _ _ := rfl
  others_join _ _ := rfl
  join_get_others _ := rfl

theorem Serves.right {s : Place E G τ υ} {n : Interpreter σ τ E M} {k : Interpreter σ υ G M}
    (serves : s.Serves n k) (l : Interpreter σ ρ F M) : s.right.Serves n (l.either k) where
  effect_inject e := serves.effect_inject e
  inject_effect {α g e} h := by
    rcases g with e' | g
    · cases h
    · exact congrArg Either.right (serves.inject_effect h)
  map_inject e f := by
    show (Mappable.map (s.injection.inject e) f).map Either.right = _
    rw [serves.map_inject, Host.map_map]
    rfl
  apply_inject e t o := by
    show (k.apply (s.injection.inject e) (s.join t o.2)).map _ = _
    rw [serves.apply_inject, Host.map_map]
    rfl
  apply_other {α g u u' r w w'} h applied := by
    rcases g with e | g
    · obtain ⟨⟨r', v⟩, -, kept⟩ := Host.map_eq_ok.mp applied
      cases kept
      rfl
    · obtain ⟨⟨r', v⟩, behind, kept⟩ := Host.map_eq_ok.mp applied
      cases kept
      exact serves.apply_other h behind
  get_join t o := serves.get_join t o.2
  others_join t o := congrArg (Prod.mk o.1) (serves.others_join t o.2)
  join_get_others u := congrArg (Prod.mk u.1) (serves.join_get_others u.2)

/-- The interpreter `n` stands at this place in the nest `m`: as a whole nest or as its first
interpreter, behind any number of others. -/
inductive Stands {σ : Type} {M : Type → Type u} : {E G : Type → Type v} → {τ υ : Type} →
    [Mappable σ E] → [Mappable σ G] → Place E G τ υ → Interpreter σ τ E M →
    Interpreter σ υ G M → Prop
  | here {E : Type → Type v} {τ : Type} [Mappable σ E] (n : Interpreter σ τ E M) :
      Stands here n n
  | left {E G : Type → Type v} {τ υ : Type} [Mappable σ E] [Mappable σ G]
      (n : Interpreter σ τ E M) (k : Interpreter σ υ G M) : Stands left n (n.either k)
  | right {E F G : Type → Type v} {τ υ ρ : Type} [Mappable σ E] [Mappable σ F] [Mappable σ G]
      {s : Place E G τ υ} {n : Interpreter σ τ E M} {k : Interpreter σ υ G M} :
      Stands s n k → (l : Interpreter σ ρ F M) → Stands s.right n (l.either k)

/-- It serves there. -/
theorem Stands.serves {E G : Type → Type v} [Mappable σ E] [Mappable σ G] {s : Place E G τ υ}
    {n : Interpreter σ τ E M} {m : Interpreter σ υ G M} (stands : s.Stands n m) :
    s.Serves n m := by
  induction stands with
  | here n => exact serves_here n
  | left n k => exact serves_left n k
  | right _ l ih => exact ih.right l

end Place

/-! ## Mapping -/

/-- Closures to map by, one after another. -/
inductive Mapping (σ : Type) : Type → Type → Type 1 where
  | nil {α : Type} : Mapping σ α α
  | cons {α β γ : Type} (f : α → Host σ β) (rest : Mapping σ β γ) : Mapping σ α γ

/-- Maps an effect by each of the closures. -/
def Mapping.apply {F : Type → Type v} [Mappable σ F] {α β : Type} :
    Mapping σ α β → F α → Host σ (F β)
  | nil, e => .pure e
  | cons f rest, e => (Mappable.map e f).bind rest.apply

namespace Place.Serves

variable {E : Type → Type x} {G : Type → Type y} [Mappable σ E] [Mappable σ G]
  {s : Place E G τ υ} {n : Interpreter σ τ E M} {m : Interpreter σ υ G M}

/-- However often it is mapped, an injected effect stays at its place. -/
theorem mapping_inject (serves : s.Serves n m) {α β : Type} (fs : Mapping σ α β) (e : E α) :
    fs.apply (s.injection.inject e) = (fs.apply e).map s.injection.inject := by
  induction fs with
  | nil => rfl
  | cons f fs ih =>
    show (Mappable.map (s.injection.inject e) f).bind fs.apply = _
    rw [serves.map_inject]
    exact Host.map_bind_map ih

/-- So the nest applies the interpreter of the place to what mapping made of the effect. -/
theorem apply_mapping (serves : s.Serves n m) {α β : Type} (fs : Mapping σ α β) (e : E α)
    (t : τ) (o : s.Others) :
    ((fs.apply (s.injection.inject e)).bind fun g => m.apply g (s.join t o)) =
      ((fs.apply e).bind fun e' => n.apply e' t).map fun (r, t') => (r, s.join t' o) := by
  rw [serves.mapping_inject]
  exact Host.map_bind_map fun e' => serves.apply_inject e' t o

end Place.Serves

/-! ## Laws of mapping -/

/-- Mapping by the identity changes nothing, and mapping twice is mapping once, by one closure
and then the other. -/
structure FunctorLaws (F : Type → Type v) [Mappable σ F]
    (Alike : {α : Type} → Host σ (F α) → Host σ (F α) → Prop) : Prop where
  map_pure {α : Type} (e : F α) : Alike (Mappable.map e fun a => .pure a) (.pure e)
  map_map {α β γ : Type} (e : F α) (f : α → Host σ β) (g : β → Host σ γ) :
    Alike ((Mappable.map e f).bind fun e' => Mappable.map e' g)
      (Mappable.map e fun a => (f a).bind g)

/-- Carriers have them, as far as can be observed. -/
theorem functorLaws [Carrier σ M] [Observed σ M] [LawfulCarrier σ M] :
    FunctorLaws (σ := σ) M Agree where
  map_pure m := (LawfulCarrier.map_eq m _).trans (LawfulCarrier.bind_pure m)
  map_map m f g :=
    calc (Mappable.map m f).bind fun m' => Mappable.map m' g
      Agree _ ((Mappable.map m f).chain fun b => (g b).map (Carrier.pure σ)) := .bind_map _ g
      Agree _ ((Host.pure m).chain fun a => (f a).bind fun b => (g b).map (Carrier.pure σ)) :=
        .bind_map_chain (.pure m) f _
      Agree _ ((Host.pure m).chain fun a => ((f a).bind g).map (Carrier.pure σ)) :=
        .of_eq (congrArg (Host.chain _) (funext fun _ => (Host.bind_assoc ..).symm))
      Agree _ (Mappable.map m fun a => (f a).bind g) := (LawfulCarrier.map_eq m _).symm

section Coproduct

variable {F : Type → Type v} {G : Type → Type w}

/-- Two effects of a coproduct are built alike: on the same side, and alike there. -/
inductive Coproduct.Alike (A : {α : Type} → Host σ (F α) → Host σ (F α) → Prop)
    (B : {α : Type} → Host σ (G α) → Host σ (G α) → Prop) {α : Type} :
    Host σ (Coproduct F G α) → Host σ (Coproduct F G α) → Prop
  | left {h h' : Host σ (F α)} : A h h' → Coproduct.Alike A B (h.map .left) (h'.map .left)
  | right {h h' : Host σ (G α)} : B h h' → Coproduct.Alike A B (h.map .right) (h'.map .right)

/-- A coproduct has the laws of mapping if its sides have them. -/
theorem FunctorLaws.coproduct [Mappable σ F] [Mappable σ G]
    {A : {α : Type} → Host σ (F α) → Host σ (F α) → Prop}
    {B : {α : Type} → Host σ (G α) → Host σ (G α) → Prop} (first : FunctorLaws F A)
    (second : FunctorLaws G B) : FunctorLaws (σ := σ) (Coproduct F G) (Coproduct.Alike A B) where
  map_pure
    | .left e => .left (first.map_pure e)
    | .right e => .right (second.map_pure e)
  map_map
    | .left e, f, g => by
      have mapped : ((Mappable.map (M := Coproduct F G) (.left e) f).bind fun e' =>
          Mappable.map e' g) = ((Mappable.map e f).bind fun e' => Mappable.map e' g).map .left :=
        Host.map_bind_map fun _ => rfl
      exact mapped ▸ .left (first.map_map e f g)
    | .right e, f, g => by
      have mapped : ((Mappable.map (M := Coproduct F G) (.right e) f).bind fun e' =>
          Mappable.map e' g) = ((Mappable.map e f).bind fun e' => Mappable.map e' g).map .right :=
        Host.map_bind_map fun _ => rfl
      exact mapped ▸ .right (second.map_map e f g)

end Coproduct

end Resumption
