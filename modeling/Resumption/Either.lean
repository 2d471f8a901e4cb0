/-
Either — a value on one of two sides.

The right side is the one that computations go on with: `map` and `bind` act on
it and leave a left value alone.  Loops answer `left` to go round again and
`right` to stop; error layers keep their errors on the left; coproducts of
effects keep the first effect on the left.

| operation       | on `left a`              | on `right b`             |
|-----------------|--------------------------|--------------------------|
| `bimap f g`     | `left` of what `f a` is  | `right` of what `g b` is |
| `bind f`        | `left a`                 | `f b`                    |
| `rightOrElse f` | `f a`                    | `b`                      |
| `swap`          | `right a`                | `left b`                 |
| `fold f g`      | `f a`                    | `g b`                    |
| `toExcept`      | `.error a`               | `.ok b`                  |

The functions are closures of the host, and only that of the side at hand is called.
-/
import Resumption.Host

namespace Resumption

universe u v w x

/-- A value on the left or on the right; every left comes before every right. -/
inductive Either (α : Type u) (β : Type v) where
  | left (a : α)
  | right (b : β)
deriving DecidableEq, Ord

namespace Either

variable {σ : Type} {α : Type u} {β : Type v} {γ : Type w} {δ : Type x}

/-- Collapses both sides into one value. -/
def fold (f : α → γ) (g : β → γ) : Either α β → γ
  | left a => f a
  | right b => g b

/-- Transforms both sides. -/
def bimap (f : α → Host σ γ) (g : β → Host σ δ) : Either α β → Host σ (Either γ δ) :=
  fold (fun a => (f a).map left) fun b => (g b).map right

/-- Transforms the right side. -/
def map (f : β → Host σ γ) : Either α β → Host σ (Either α γ) :=
  bimap .pure f

/-- Transforms the left side. -/
def mapLeft (f : α → Host σ γ) : Either α β → Host σ (Either γ β) :=
  bimap f .pure

/-- Goes on with a right value and keeps a left one. -/
def bind (e : Either α β) (f : β → Host σ (Either α γ)) : Host σ (Either α γ) :=
  e.fold (fun a => .pure (left a)) f

/-- Renames the values of both sides, which calls nothing. -/
def rename (f : α → γ) (g : β → δ) : Either α β → Either γ δ :=
  fold (fun a => left (f a)) fun b => right (g b)

/-- Exchanges the sides. -/
def swap : Either α β → Either β α
  | left a => right a
  | right b => left b

/-- Is the value on the left? -/
def isLeft : Either α β → Bool
  | left _ => true
  | right _ => false

/-- Is the value on the right? -/
def isRight (e : Either α β) : Bool :=
  !e.isLeft

/-- The left value, if there is one. -/
def left? : Either α β → Option α
  | left a => some a
  | right _ => none

/-- The right value, if there is one. -/
def right? : Either α β → Option β
  | left _ => none
  | right b => some b

/-- The right value, or one computed from the left value. -/
def rightOrElse (f : α → Host σ β) : Either α β → Host σ β :=
  fold f .pure

/-- A left value as an error, a right value as a success. -/
def toExcept : Either α β → Except α β
  | left a => .error a
  | right b => .ok b

/-- An error on the left, a success on the right. -/
def ofExcept : Except α β → Either α β
  | .error a => left a
  | .ok b => right b

/-! ## Small laws -/

/-- Closures that only rename transform the sides by renaming them. -/
theorem bimap_pure (f : α → γ) (g : β → δ) (e : Either α β) :
    e.bimap (fun a => Host.pure (σ := σ) (f a)) (fun b => .pure (g b)) = .pure (e.rename f g) := by
  cases e <;> rfl

@[simp] theorem swap_swap (e : Either α β) : e.swap.swap = e := by
  cases e <;> rfl

@[simp] theorem ofExcept_toExcept (e : Either α β) : ofExcept e.toExcept = e := by
  cases e <;> rfl

@[simp] theorem toExcept_ofExcept (r : Except α β) : (ofExcept r).toExcept = r := by
  cases r <;> rfl

end Either

end Resumption
