/-
Fold — the meaning of an erased program in a carrier.

A fold takes the same turns as that of a program (`Resumption.Program.Fold`): it
normalizes the program, interprets the effect, and goes round with what the queue makes
of the value.  Effects are interpreted at boxed values, and the value that ends the fold
is revealed.
-/
import Resumption.Erased.Normal
import Resumption.Program.Fold

namespace Resumption

universe u v

variable {σ τ : Type} {F : Type → Type v} {M : Type → Type u} {Ty : Type} {El : Ty → Type}

namespace Erased

/-- An advance as a run of the host: a fault is a panic. -/
def unwind {X : Type u} : Except Fault X × σ → Except Panic X × σ
  | (r, w) => (r.mapError Fault.panic, w)

variable [DecidableEq Ty]

/-- The states of a fold descend with the program; the interpreter's state is free. -/
def FoldOrder (τ : Type) : τ × Erased σ F El → τ × Erased σ F El → Prop :=
  InvImage Follows Prod.snd

theorem foldOrder_wf : WellFounded (FoldOrder τ : τ × Erased σ F El → τ × Erased σ F El → Prop) :=
  InvImage.wf Prod.snd follows_wf

/-- One turn of a fold. -/
def foldTurn [Observer σ] (n : Interpreter σ τ F M) (t : Ty) (s : τ × Erased σ F El) :
    Host σ (Turn σ M {r // FoldOrder τ r s} (El t)) :=
  fun w =>
    match h : s.2.normalize w with
    | (.error e, w) => (.error e.panic, w)
    | (.ok (.done v), w) => unwind ((reveal t v).map .finish, note (.folded .finished) w)
    | (.ok (.suspend e), w) =>
      (n.apply e s.1).map (fun (m, _) => .await m fun v u => unwind ((reveal t v).map .right, u))
        (note (.folded .finalEffect) w)
    | (.ok (.bound e q), w) =>
      (n.apply e s.1).map (fun (m, s) => .await m fun v u =>
        match hq : q.apply v u with
        | (.ok r, u) => (.ok (.left ⟨(s, r), follows_of_normalize h hq⟩), u)
        | (.error e, u) => (.error e.panic, u))
        (note (.folded .effect) w)

/-- Interprets an erased program of the type `t` into the carrier `M`. -/
def fold [Observer σ] [Loop.{u, max 1 v} σ M] (n : Interpreter σ τ F M) (s : τ) (t : Ty)
    (p : Erased σ F El) : Host σ (M (El t)) :=
  Loop.iterate 1 foldOrder_wf (foldTurn n t) (s, p)

end Erased

end Resumption
