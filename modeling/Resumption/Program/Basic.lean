/-
Program — an effectful computation as data.

A program over an effect `F` is done, is one suspended effect, or binds a
source program to a queue of arrows, each of which takes the value before it to
the program after it.  Building a program calls nothing; an arrow is a closure
of the host and is called when its turn comes.

The types between the arrows of a queue line up by construction, and a queue is
never empty.  A queue is a tree, so that joining two queues takes constant
time; `Arrows.view` finds the first arrow and the queue that stays.

| built by          | is                                                |
|-------------------|---------------------------------------------------|
| `done a`          | the value `a`                                     |
| `lift e`          | the effect `e`                                    |
| `bind p k`        | `p`, then the program that `k` makes of its value |
| `defer s`         | the program that `s` makes when it is reached     |
-/
import Resumption.Carrier.Basic

namespace Resumption

universe u v

mutual

/-- A computation over the effect `F` with a value of the given type. -/
inductive Program (σ : Type) (F : Type → Type v) : Type → Type (max 1 v) where
  | done {α : Type} (a : α) : Program σ F α
  | suspend {α : Type} (e : F α) : Program σ F α
  | bound {α β : Type} (source : Program σ F α) (queue : Arrows σ F α β) : Program σ F β

/-- A queue of arrows, from the value it takes to the value it ends with. -/
inductive Arrows (σ : Type) (F : Type → Type v) : Type → Type → Type (max 1 v) where
  | one {α β : Type} (arrow : α → σ → Program.Call σ F β) : Arrows σ F α β
  | append {α β γ : Type} (front : Arrows σ F α β) (back : Arrows σ F β γ) : Arrows σ F α γ

/-- How the call of an arrow ends: with a program or with a panic, in some world. -/
inductive Program.Call (σ : Type) (F : Type → Type v) : Type → Type (max 1 v) where
  | returned {α : Type} (p : Program σ F α) (world : σ) : Program.Call σ F α
  | panicked {α : Type} (p : Panic) (world : σ) : Program.Call σ F α

end

variable {σ : Type} {F : Type → Type v} {α β γ : Type}

/-! ## Calls -/

namespace Program.Call

/-- The call that a closure's run amounts to. -/
def ofRun : Except Panic (Program σ F α) × σ → Program.Call σ F α
  | (.ok p, w) => returned p w
  | (.error p, w) => panicked p w

/-- The closure's run that a call stands for. -/
def run : Program.Call σ F α → Except Panic (Program σ F α) × σ
  | returned p w => (.ok p, w)
  | panicked p w => (.error p, w)

@[simp] theorem run_ofRun (r : Except Panic (Program σ F α) × σ) : (ofRun r).run = r := by
  rcases r with ⟨_ | _, _⟩ <;> rfl

end Program.Call

/-! ## Queues -/

namespace Arrows

/-- The queue of a single closure. -/
def ofHost (k : α → Host σ (Program σ F β)) : Arrows σ F α β :=
  one fun a w => .ofRun (k a w)

/-- A queue as its first arrow and the arrows after it. -/
inductive View (σ : Type) (F : Type → Type v) (α γ : Type) : Type (max 1 v) where
  | last (arrow : α → σ → Program.Call σ F γ)
  | more {β : Type} (arrow : α → σ → Program.Call σ F β) (rest : Arrows σ F β γ)

/-- The view of a queue with a further one behind it. -/
def viewBefore {α β γ : Type} : Arrows σ F α β → Arrows σ F β γ → View σ F α γ
  | one f, rest => .more f rest
  | append a b, rest => a.viewBefore (append b rest)

/-- The first arrow of a queue and the arrows after it. -/
def view : Arrows σ F α γ → View σ F α γ
  | one f => .last f
  | append a b => a.viewBefore b

/-- Calls the first arrow and binds the program it returns to the others. -/
def apply (q : Arrows σ F α γ) (a : α) (w : σ) : Program.Call σ F γ :=
  match q.view with
  | .last f => f a w
  | .more f rest =>
    match f a w with
    | .returned p w => .returned (.bound p rest) w
    | .panicked p w => .panicked p w

/-- The number of arrows. -/
def length {α γ : Type} : Arrows σ F α γ → Nat
  | one _ => 1
  | append a b => a.length + b.length

theorem length_pos {α γ : Type} : (q : Arrows σ F α γ) → 0 < q.length
  | one _ => Nat.one_pos
  | append a _ => Nat.lt_of_lt_of_le a.length_pos (Nat.le_add_right ..)

/-- Only the order of the arrows matters to a view, not how the tree is built. -/
theorem view_append_append {δ : Type} (a : Arrows σ F α β) (b : Arrows σ F β γ)
    (c : Arrows σ F γ δ) : (append (append a b) c).view = (append a (append b c)).view :=
  rfl

end Arrows

/-! ## Building programs -/

namespace Program

/-- A single effect. -/
def lift [Mappable σ F] (e : F α) : Host σ (Program σ F α) :=
  (Mappable.map e fun a => Host.pure (σ := σ) a).map suspend

/-- Goes on with the program that `k` makes of the value. -/
def bind (p : Program σ F α) (k : α → Host σ (Program σ F β)) : Program σ F β :=
  bound p (.ofHost k)

/-- Builds the rest of the program only when it is reached. -/
def defer (s : Host σ (Program σ F α)) : Program σ F α :=
  (done ()).bind fun _ => s

/-- Transforms the value. -/
def map (p : Program σ F α) (f : α → Host σ β) : Program σ F β :=
  p.bind fun a => (f a).map done

/-- Runs a second program after the first, whose value is dropped. -/
def andThen (p : Program σ F α) (q : Program σ F β) : Program σ F β :=
  p.bind fun _ => .pure q

/-- Runs two programs in order and combines their values. -/
def map2 (p : Program σ F α) (q : Program σ F β) (f : α → β → Host σ γ) : Program σ F γ :=
  p.bind fun a => .pure (q.map fun b => f a b)

/-- Discards the value. -/
def void (p : Program σ F α) : Program σ F Unit :=
  p.map fun _ => .pure ()

/-! ## Shape -/

/-- The outermost constructor of a program. -/
inductive Shape where
  | done
  | suspend
  | bound
deriving DecidableEq

/-- The outermost constructor of this program. -/
def shape : Program σ F α → Shape
  | done _ => .done
  | suspend _ => .suspend
  | bound _ _ => .bound

end Program

end Resumption
