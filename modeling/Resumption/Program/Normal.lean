/-
Normal — a program up to its next effect.

A normal program is done, is one effect, or binds an effect to a queue.
`normalize` gets there by calling the arrows that need no effect first; it
interprets nothing.  It ends because every step reduces the program
(`Program.reduces_wf`), and a normal program hands on a simpler one for every
value of its effect (`Normal.follows`).
-/
import Resumption.Program.Descent

namespace Resumption

universe u v

variable {σ : Type} {F : Type → Type v} {α β γ : Type}

/-- A program with no bind and no finished program in source position. -/
inductive Normal (σ : Type) (F : Type → Type v) (α : Type) : Type (max 1 v) where
  | done (a : α)
  | suspend (e : F α)
  | bound {β : Type} (e : F β) (queue : Arrows σ F β α)

/-- A normal program as a program. -/
def Normal.toProgram : Normal σ F α → Program σ F α
  | done a => .done a
  | suspend e => .suspend e
  | bound e q => .bound (.suspend e) q

namespace Program

/-- One turn after another until the program is normal. -/
def normalize {α : Type} (p : Program σ F α) (w : σ) : Except Panic (Normal σ F α) × σ :=
  match p with
  | .done a => (.ok (.done a), w)
  | .suspend e => (.ok (.suspend e), w)
  | .bound (.suspend e) q => (.ok (.bound e q), w)
  | .bound (.bound p q) r => normalize (.bound p (.append q r)) w
  | .bound (.done a) q =>
    match _h : q.apply a w with
    | .returned p w => normalize p w
    | .panicked e w => (.error e, w)
termination_by reduces_wf.wrap p
decreasing_by
  · exact .bound
  · exact .done _h

/-- Calls the arrows before the next effect. -/
def step (p : Program σ F α) : Host σ (Program σ F α) :=
  fun w => match p.normalize w with
    | (.ok n, w) => (.ok n.toProgram, w)
    | (.error e, w) => (.error e, w)

/-- How a program goes on: it is finished, or it waits for an effect whose value
yields the rest of it. -/
inductive Resumed (σ : Type) (F : Type → Type v) (α : Type) : Type (max 1 v) where
  | finished (a : α)
  | waiting {β : Type} (e : F β) (rest : β → Host σ (Program σ F α))

/-- A normal program as what it waits for. -/
def Resumed.ofNormal : Normal σ F α → Resumed σ F α
  | .done a => .finished a
  | .suspend e => .waiting e fun a => .pure (.done a)
  | .bound e q => .waiting e fun a w => (q.apply a w).run

/-- Advances a program to its next effect. -/
def resume (p : Program σ F α) : Host σ (Resumed σ F α) :=
  fun w => match p.normalize w with
    | (.ok n, w) => (.ok (.ofNormal n), w)
    | (.error e, w) => (.error e, w)

/-! ## Descent across effects -/

/-- The first program is left of the second after one or more steps. -/
def Follows (p q : Program σ F α) : Prop :=
  Relation.TransGen Reduces p q

theorem follows_wf : WellFounded (Follows (σ := σ) (F := F) (α := α)) :=
  reduces_wf.transGen

/-- The programs that `q` reduces to are left of `p`. -/
theorem Follows.of_reduces {p q r : Program σ F α} (h : Reduces q p) (hr : Follows r q) :
    Follows r p :=
  hr.tail h

/-- What is left after the effect of the normal form is left of the program. -/
theorem follows_of_normalize {p : Program σ F α} {w w' : σ} {n : Normal σ F α}
    (h : p.normalize w = (.ok n, w')) {e : F β} {q : Arrows σ F β α} (hn : n = .bound e q)
    {b : β} {v v' : σ} {r : Program σ F α} (hr : q.apply b v = .returned r v') : Follows r p := by
  fun_induction normalize p w with
  | case1 | case2 => cases h; cases hn
  | case3 w e q => cases h; cases hn; exact .single (.suspend hr)
  | case4 w _ _ p q r ih => exact .of_reduces .bound (ih h)
  | case5 w _ a q p w' e ih => exact .of_reduces (.done e) (ih h)
  | case6 => cases h

end Program

end Resumption
