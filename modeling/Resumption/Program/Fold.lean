/-
Fold — the meaning of a program in a carrier.

`Program.fold` interprets every effect that a program reaches and sequences the
results by the carrier's loop.  A turn of the loop normalizes the program and

| finds a normal form   | and                                                    |
|-----------------------|--------------------------------------------------------|
| `done a`              | ends with `a`                                          |
| `suspend e`           | interprets `e` and ends with its value                 |
| `bound e q`           | interprets `e` and goes round with what `q` makes of it |

The loop ends because what `q` makes of a value is left of the program
(`Program.follows_of_normalize`).
-/
import Resumption.Named
import Resumption.Program.Interpreter
import Resumption.Program.Normal

namespace Resumption

universe u v w x

variable {σ τ : Type} {F : Type → Type v} {M : Type → Type u} {α β : Type}

namespace Program

/-- The states of a fold descend with the program; the interpreter's state is free. -/
def FoldOrder (τ : Type) : τ × Program σ F α → τ × Program σ F α → Prop :=
  InvImage Follows Prod.snd

theorem foldOrder_wf : WellFounded (FoldOrder (σ := σ) (F := F) (α := α) τ) :=
  InvImage.wf Prod.snd follows_wf

/-- One turn of a fold. -/
def foldTurn [Observer σ] (n : Interpreter σ τ F M) (s : τ × Program σ F α) :
    Host σ (Turn σ M {t // FoldOrder τ t s} α) :=
  fun w =>
    match h : s.2.normalize w with
    | (.error p, w) => (.error p, w)
    | (.ok (.done a), w) => (.ok (.finish a), note (.folded .finished) w)
    | (.ok (.suspend e), w) =>
      (n.apply e s.1).map (fun (m, _) => .await m fun a => .pure (.right a))
        (note (.folded .finalEffect) w)
    | (.ok (.bound e q), w) =>
      (n.apply e s.1).map (fun (m, t) => .await m fun b v =>
        match hq : q.apply b v with
        | .returned r v => (.ok (.left ⟨(t, r), follows_of_normalize h rfl hq⟩), v)
        | .panicked p v => (.error p, v))
        (note (.folded .effect) w)

/-- Interprets a program into the carrier `M`, from a state of the interpreter. -/
def fold [Observer σ] [Loop.{u, max 1 v} σ M] (n : Interpreter σ τ F M) (t : τ)
    (p : Program σ F α) : Host σ (M α) :=
  Loop.iterate 1 foldOrder_wf (foldTurn n) (t, p)

/-- Interprets a program in its own effect. -/
def run [Observer σ] [Loop.{v, max 1 v} σ F] (p : Program σ F α) : Host σ (F α) :=
  p.fold .identity ()

/-! ## Programs as a carrier -/

instance : Carrier σ (Program σ F) where
  pure := .done
  map p f := .pure (p.map f)
  bind p k := .pure (p.bind k)

instance : Deferrable σ (Program σ F) where
  defer s := .pure (.defer s)

/-- Hands the value on by a number of maps. -/
def handOn (p : Program σ F α) : Nat → Program σ F α
  | 0 => p
  | maps + 1 => (p.handOn maps).map .pure

/-- Goes on with the answer to a program: the value itself, or what the first of the maps
makes of it.  The answer is too large for a value, so the maps hand on its name. -/
def answered {X : Type w} (p : Program σ F α) (maps : Nat) (next : α → Host σ X)
    (goOn : X → Host σ (Program σ F β)) : Program σ F β :=
  match maps with
  | 0 => p.bind fun a => (next a).bind goOn
  | maps + 1 => ((p.map (Named.call next)).handOn maps).bind fun i => goOn i.get

/-- Only what is gone on with matters to an answered program, not how the answer shows it. -/
theorem answered_congr {X : Type w} {X' : Type x} (p : Program σ F α) (maps : Nat)
    {next : α → Host σ X} {next' : α → Host σ X'} {goOn : X → Host σ (Program σ F β)}
    {goOn' : X' → Host σ (Program σ F β)} (same : ∀ a, (next a).map goOn = (next' a).map goOn') :
    p.answered maps next goOn = p.answered maps next' goOn' := by
  cases maps with
  | zero =>
    refine congrArg p.bind (funext fun a => ?_)
    calc (next a).bind goOn
      _ = ((next a).map goOn).bind id := (Host.map_bind_id ..).symm
      _ = ((next' a).map goOn').bind id := by rw [same]
      _ = (next' a).bind goOn' := Host.map_bind_id ..
  | succ maps =>
    exact Named.build_congr same fun _ call goOn => ((p.map call).handOn maps).bind goOn

/-- A loop that takes its first turn when it is built and each later one when the
program reaches it. -/
def iterate {S : Type w} {R : S → S → Prop} (maps : Nat) (wf : WellFounded R)
    (step : (s : S) → Host σ (Turn σ (Program σ F) {t // R t s} β)) (s : S) :
    Host σ (Program σ F β) :=
  (step s).map fun
    | .finish b => ((done b).handOn (maps - 1)).bind fun b => .pure (done b)
    | .await p next => p.answered maps next fun
        | .left ⟨t, _⟩ => iterate maps wf step t
        | .right b => .pure (done b)
termination_by wf.wrap s

instance : Loop.{max 1 v, w} σ (Program σ F) := ⟨iterate⟩

end Program

end Resumption
