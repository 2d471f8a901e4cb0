/-
Drive — running a program by hand, one effect after another.

Driving resumes a program, performs the effect that it waits for, and goes on
with the rest, until the program is finished or an effect fails.  It counts the
effects, a failing one included.  No interpreter and no carrier take part.
-/
import Resumption.Program.Fold

namespace Resumption

universe u v w

variable {σ : Type} {α ε : Type}

namespace Program

/-- Performs the effects of a program; `n` have been performed before. -/
def driveFrom {F : Type → Type v} [Runnable.{max 1 v} σ F ε] (n : Nat) (p : Program σ F α) (w : σ) :
    Except Panic (Nat × Except ε α) × σ :=
  match h : p.normalize w with
  | (.error e, w) => (.error e, w)
  | (.ok (.done a), w) => (.ok (n, .ok a), w)
  | (.ok (.suspend e), w) =>
    match Runnable.perform (σ := σ) e (fun a => .pure (ULift.up a)) w with
    | (.error e, w) => (.error e, w)
    | (.ok (.error e), w) => (.ok (n + 1, .error e), w)
    | (.ok (.ok a), w) => (.ok (n + 1, .ok a.down), w)
  | (.ok (.bound e q), w) =>
    let next : _ → Host σ {r // Follows r p} := fun b v =>
      match hq : q.apply b v with
      | .returned r v => (.ok ⟨r, follows_of_normalize h rfl hq⟩, v)
      | .panicked e v => (.error e, v)
    match Runnable.perform e next w with
    | (.error e, w) => (.error e, w)
    | (.ok (.error e), w) => (.ok (n + 1, .error e), w)
    | (.ok (.ok ⟨r, _⟩), w) => driveFrom (n + 1) r w
termination_by follows_wf.wrap p

/-- Performs the effects of a program: how many there were, and how it ended. -/
def drive {F : Type → Type v} [Runnable.{max 1 v} σ F ε] (p : Program σ F α) :
    Host σ (Nat × Except ε α) :=
  p.driveFrom 0

instance {F : Type → Type v} [Runnable.{max 1 v} σ F ε] : Runnable.{u} σ (Program σ F) ε where
  perform p next := p.drive.bind fun
    | (_, .ok a) => (next a).map .ok
    | (_, .error e) => .pure (.error e)

end Program

/-- Each side of a coproduct is performed as its own effect. -/
instance {F : Type → Type v} {G : Type → Type w} {μ : Type} [Runnable.{u} σ F ε]
    [Runnable.{u} σ G μ] : Runnable.{u} σ (Coproduct F G) (Either ε μ) where
  perform
    | .left e, next => (Runnable.perform e next).map (Except.mapError .left)
    | .right e, next => (Runnable.perform e next).map (Except.mapError .right)

end Resumption
