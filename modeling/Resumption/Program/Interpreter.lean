/-
Interpreter — the meaning of one effect in terms of another.

An interpreter turns an effect `F α` into a computation `M α` for every type of
values at once.  It may keep a private state of type `τ`, which every
application takes and hands on.  Effects are joined by `Coproduct`; an injection
puts an effect at its place in a coproduct and `Interpreter.either` sends it
from there to the interpreter of that place.
-/
import Resumption.Carrier.Perform
import Resumption.Program.Basic

namespace Resumption

universe u v w

variable {σ τ υ : Type}

/-- The meaning of every effect of `F` in `M`, with a private state. -/
structure Interpreter (σ τ : Type) (F : Type → Type v) (M : Type → Type u) where
  apply {α : Type} : F α → τ → Host σ (M α × τ)

namespace Interpreter

variable {F : Type → Type v} {G : Type → Type w} {M : Type → Type u}

/-- Leaves every effect as it is. -/
def identity : Interpreter σ Unit F F where
  apply e t := .pure (e, t)

/-- Makes a program of one step from the meaning of every effect. -/
def lifted [Mappable σ M] (n : Interpreter σ τ F M) : Interpreter σ τ F (Program σ M) where
  apply e t := (n.apply e t).bind fun (m, t) => (Program.lift m).map fun p => (p, t)

/-- Interprets by the first interpreter, then by the second. -/
def andThen (n : Interpreter σ τ F G) (m : Interpreter σ υ G M) :
    Interpreter σ (τ × υ) F M where
  apply e
    | (t, u) => (n.apply e t).bind fun (g, t) => (m.apply g u).map fun (r, u) => (r, (t, u))

end Interpreter

/-! ## Coproducts -/

/-- An effect of `F` or an effect of `G`. -/
def Coproduct (F : Type → Type v) (G : Type → Type w) (α : Type) : Type (max v w) :=
  Either (F α) (G α)

section Coproduct

variable {F : Type → Type v} {G : Type → Type w} {M : Type → Type u}

instance [Mappable σ F] [Mappable σ G] : Mappable σ (Coproduct F G) where
  map
    | .left e, f => (Mappable.map e f).map Either.left
    | .right e, f => (Mappable.map e f).map Either.right

/-- A place for the effect `F` in the effect `G`. -/
structure Injection (F : Type → Type v) (G : Type → Type w) where
  inject {α : Type} : F α → G α

namespace Injection

/-- The effect itself. -/
def here : Injection F F := ⟨id⟩

/-- The first effect of a coproduct. -/
def left : Injection F (Coproduct F G) := ⟨.left⟩

/-- A place in the second effect of a coproduct. -/
def right (i : Injection M G) : Injection M (Coproduct F G) := ⟨fun e => .right (i.inject e)⟩

end Injection

/-- Sends each side of a coproduct to its own interpreter. -/
def Interpreter.either (n : Interpreter σ τ F M) (m : Interpreter σ υ G M) :
    Interpreter σ (τ × υ) (Coproduct F G) M where
  apply
    | .left e, (t, u) => (n.apply e t).map fun (r, t) => (r, (t, u))
    | .right e, (t, u) => (m.apply e u).map fun (r, u) => (r, (t, u))

/-- One step of a smaller effect. -/
def Program.inject [Mappable σ G] (i : Injection F G) {α : Type} (e : F α) :
    Host σ (Program σ G α) :=
  lift (i.inject e)

end Coproduct

end Resumption
