/-
Describe — computations and their values as text, for a reader who debugs.

A value is its constructor with its fields in parentheses.  What is put off is
not looked into: an action, a future or a thunk shows that it is deferred, and a
program shows its outermost constructor.
-/
import Resumption.Action.Basic
import Resumption.Future.Basic
import Resumption.Layered.Basic
import Resumption.Trampoline

namespace Resumption

universe u v

/-- Values with a text for debugging. -/
class Describe (α : Type u) where
  describe : α → String

export Describe (describe)

/-- A constructor with one field. -/
def applied (name field : String) : String :=
  name ++ "(" ++ field ++ ")"

variable {σ : Type} {α : Type u} {β : Type v}

instance : Describe Unit := ⟨fun _ => "()"⟩

instance : Describe Failure := ⟨Failure.describe⟩

instance [Describe α] [Describe β] : Describe (Either α β) :=
  ⟨Either.fold (fun a => applied "Left" (describe a)) fun b => applied "Right" (describe b)⟩

instance [Describe α] : Describe (Identity α) :=
  ⟨fun m => applied "Identity" (describe m.value)⟩

instance [Describe α] : Describe (Option α) where
  describe
    | some a => applied "Some" (describe a)
    | none => "None"

instance [Describe α] [Describe β] : Describe (Except α β) where
  describe
    | .ok b => applied "Ok" (describe b)
    | .error a => applied "Err" (describe a)

instance {α : Type} : Describe (Action σ α) := ⟨fun _ => applied "IO" "<deferred>"⟩

instance {α : Type} : Describe (Future σ α) := ⟨fun _ => applied "AsyncIO" "<deferred>"⟩

instance : Describe (Thunked σ α) := ⟨fun _ => applied "Thunk" "<deferred>"⟩

instance {route : Route} {M : Type → Type u} {ε α : Type} [Describe (M (Either ε α))] :
    Describe (Layered route M ε α) :=
  ⟨fun m => applied "EitherT" (describe m.base)⟩

instance : Describe Program.Shape where
  describe
    | .done => "Done"
    | .suspend => "Suspend"
    | .bound => "Bind"

instance {F : Type → Type v} {α : Type} : Describe (Program σ F α) :=
  ⟨fun p => applied "Program" (describe p.shape)⟩

instance {α : Type} : Describe (Trampoline σ α) :=
  ⟨fun t => applied "Trampoline" (describe t.program)⟩

end Resumption
