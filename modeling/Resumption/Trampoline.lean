/-
Trampoline — stack-safe recursion.

A trampoline is a program whose effects are thunks.  Running it forces them one
after another; recursion that goes through `suspend` or `delay` grows the
queue of a program and not the stack.

| trampoline      | comes to                            |
|-----------------|-------------------------------------|
| `done a`        | `a`                                 |
| `delay h`       | the value of `h`                    |
| `suspend h`     | the value of the trampoline of `h`  |
| `bind t k`      | the value of `k` at that of `t`     |
-/
import Resumption.Program.Drive

namespace Resumption

universe u

variable {σ : Type} {α β : Type}

/-- A computation that is not called yet. -/
structure Thunked (σ : Type) (α : Type u) where
  force : Host σ α

instance : Mappable σ (Thunked σ) where
  map e f := .pure ⟨e.force.bind f⟩

instance : Runnable.{u} σ (Thunked σ) Empty where
  perform e next := (e.force.bind next).map .ok

/-- Calls every thunk. -/
def forcing : Interpreter σ Unit (Thunked σ) Identity where
  apply e t := e.force.map fun a => (⟨a⟩, t)

/-- A program over thunks. -/
structure Trampoline (σ : Type) (α : Type) where
  program : Program σ (Thunked σ) α

namespace Trampoline

/-- A finished computation. -/
def done (a : α) : Trampoline σ α :=
  ⟨.done a⟩

/-- Calls a closure for the value. -/
def delay (h : Host σ α) : Host σ (Trampoline σ α) :=
  (Program.lift (⟨h⟩ : Thunked σ α)).map mk

/-- Goes on with what a program makes of the value. -/
def bind (t : Trampoline σ α) (k : α → Host σ (Trampoline σ β)) : Trampoline σ β :=
  ⟨t.program.bind fun a => (k a).map program⟩

/-- Calls a closure for the rest of the computation, which is the value of the thunk. -/
def suspend (h : Host σ (Trampoline σ α)) : Host σ (Trampoline σ α) :=
  (Program.lift (⟨Named.call (fun _ => h) ()⟩ : Thunked σ (Named fun _ : Unit => h))).map
    fun p => bind ⟨p⟩ fun i => .pure i.get

/-- Transforms the value. -/
def map (t : Trampoline σ α) (f : α → Host σ β) : Trampoline σ β :=
  ⟨t.program.map f⟩

/-- Runs a second trampoline after the first, whose value is dropped. -/
def andThen (t : Trampoline σ α) (next : Trampoline σ β) : Trampoline σ β :=
  ⟨t.program.andThen next.program⟩

/-- Forces every thunk up to the value. -/
def run [Observer σ] (t : Trampoline σ α) : Host σ α :=
  (t.program.fold forcing ()).map Identity.value

/-- The next thunk, which makes the rest of the trampoline, or the value. -/
def resume (t : Trampoline σ α) : Host σ (Either (Thunked σ (Trampoline σ α)) α) :=
  t.program.resume.map fun
    | .finished a => .right a
    | .waiting e rest => .left ⟨e.force.bind fun a => (rest a).map mk⟩

instance : Carrier σ (Trampoline σ) where
  pure := done
  map t f := .pure (t.map f)
  bind t k := .pure (t.bind k)

end Trampoline

end Resumption
