/-
Stepping — a step finds the normal form of a program and changes nothing else.

A program is normal if it is done, is one effect, or binds an effect to a queue.  A step
makes the calls of the opening and ends with a normal program; it panics only if one of
those calls does.  What is done with the program that was stepped, in the world that the
step left, is what would have been done with the program:

| of the stepped program     | is                                                       |
|----------------------------|----------------------------------------------------------|
| another step               | the program itself, and nothing is called                |
| `resume`                   | what resuming the program gives                          |
| a fold                     | the fold of the program, with the same effects and steps |

A fold whose carrier builds at once takes its first turn while it is built
(`PromptLoop`), so it is equal to the fold of the stepped program; a carrier that suspends
the first turn agrees with it, as far as it can be observed.
-/
import Resumption.Proofs.Program.Meaning
import Resumption.Proofs.Program.Opening

namespace Resumption

universe u v w

/-! ## Loops that take their first turn at once -/

section Prompt

variable {σ : Type} {M : Type → Type u} {S : Type v} {S' : Type w} {β : Type}

/-- A loop that is built from its first turn. -/
class PromptLoop (σ : Type) (M : Type → Type u) [Loop.{u, w} σ M] : Prop where
  iterate_eq {S : Type w} {R : S → S → Prop} {β : Type} (maps : Nat) (wf : WellFounded R)
    (step : (s : S) → Host σ (Turn σ M {t // R t s} β)) :
    ∃ build : Turn σ M S β → Host σ (M β), ∀ s,
      Loop.iterate maps wf step s = ((step s).map (Turn.along Subtype.val)).bind build

/-- Where a loop equals its turns one after another, the first one is taken at once. -/
theorem PromptLoop.of_turns [Carrier σ M] [Loop.{u, w} σ M]
    (turns : ∀ {S : Type w} {R : S → S → Prop} {β : Type} (maps : Nat) (wf : WellFounded R)
      (step : (s : S) → Host σ (Turn σ M {t // R t s} β)) (s : S), Loop.iterate maps wf step s =
        (step s).bind (Turn.proceed fun t => Loop.iterate maps wf step t.1)) :
    PromptLoop.{u, w} σ M where
  iterate_eq maps wf step := by
    refine ⟨Turn.proceed (Loop.iterate maps wf step), fun s => ?_⟩
    rw [turns, Host.map, Host.bind_assoc]
    exact congrArg (step s).bind (funext fun turn => (turn.proceed_along Subtype.val _).symm)

instance : PromptLoop.{0, w} σ Identity :=
  .of_turns fun maps wf step s => funext (LawfulLoop.iterate_eq maps wf step s)

instance : PromptLoop.{0, w} σ Option :=
  .of_turns fun maps wf step s => funext (LawfulLoop.iterate_eq maps wf step s)

instance {ε : Type} : PromptLoop.{0, w} σ (Except ε) :=
  .of_turns fun maps wf step s => funext (LawfulLoop.iterate_eq maps wf step s)

instance {G : Type → Type v} : PromptLoop.{max 1 v, w} σ (Program σ G) where
  iterate_eq {S R β} maps wf step := by
    refine ⟨fun turn => .pure (match turn with
      | .finish b => ((Program.done b).handOn (maps - 1)).bind fun b => .pure (.done b)
      | .await p next => p.answered maps next fun
          | .left t => Loop.iterate maps wf step t
          | .right b => .pure (.done b)), fun s => ?_⟩
    show Program.iterate maps wf step s = _
    rw [Program.iterate, Host.map, Host.map, Host.bind_assoc]
    refine congrArg (step s).bind (funext fun turn => congrArg Host.pure ?_)
    rcases turn with b | ⟨p, next⟩
    · rfl
    · refine p.answered_congr maps fun a => Eq.trans ?_ (Host.map_map ..).symm
      refine congrArg (fun goOn => (next a).map goOn) (funext fun x => ?_)
      cases x <;> rfl

instance {route : Route} {ε : Type} [Loop.{u, w} σ M] [PromptLoop.{u, w} σ M] [Carrier σ M] :
    PromptLoop.{u, w} σ (Layered route M ε) where
  iterate_eq maps wf step := by
    obtain ⟨build, built⟩ := PromptLoop.iterate_eq (M := M) (maps + 1) wf
      fun s => (step s).map Layered.baseTurn
    refine ⟨fun turn => (build (Layered.baseTurn turn)).map Layered.mk, fun s => ?_⟩
    refine (congrArg (Host.map Layered.mk) (built s)).trans ?_
    simp only [Host.map, Host.bind_assoc]
    refine congrArg (step s).bind (funext fun turn => ?_)
    exact congrArg (fun turn => (build turn).bind fun a => Host.pure (Layered.mk a))
      (Layered.baseTurn_along _ turn)

instance Layers.instPromptLoop [Carrier σ M] [Loop.{u, w} σ M] [PromptLoop.{u, w} σ M] :
    (layers : List (Route × Type)) → PromptLoop.{u, w} σ (Layers M layers)
  | [] => inferInstanceAs (PromptLoop.{u, w} σ M)
  | (route, ε) :: layers =>
    haveI := instPromptLoop layers
    inferInstanceAs (PromptLoop.{u, w} σ (Layered route (Layers M layers) ε))

end Prompt

/-! ## Normal programs -/

namespace Program

section Steps

variable {σ : Type} {F : Type → Type v} {α : Type}

/-- A program that is done, is one effect, or binds an effect. -/
inductive IsNormal : {α : Type} → Program σ F α → Prop
  | done {α : Type} (a : α) : IsNormal (.done a)
  | suspend {α : Type} (e : F α) : IsNormal (.suspend e)
  | bound {α β : Type} (e : F β) (q : Arrows σ F β α) : IsNormal (.bound (.suspend e) q)

theorem isNormal_toProgram (m : Normal σ F α) : m.toProgram.IsNormal := by
  cases m with
  | done a => exact .done a
  | suspend e => exact .suspend e
  | bound e q => exact .bound e q

/-- A normal form is found again, and nothing is called. -/
theorem normalize_toProgram (m : Normal σ F α) (w : σ) : m.toProgram.normalize w = (.ok m, w) := by
  cases m <;> simp only [Normal.toProgram, normalize]

/-- What is done with a stepped program is done with the normal form. -/
theorem step_then {X : Type w} (p : Program σ F α) (k : Program σ F α → Host σ X) (w : σ) :
    p.step.bind k w = match p.normalize w with
      | (.ok m, v) => k m.toProgram v
      | (.error e, v) => (.error e, v) := by
  unfold step Host.bind
  dsimp only
  rcases p.normalize w with ⟨_ | _, _⟩ <;> rfl

/-- A step that returns has found a normal form. -/
theorem step_eq_ok {p q : Program σ F α} {w v : σ} (h : p.step w = (.ok q, v)) :
    ∃ m, p.normalize w = (.ok m, v) ∧ q = m.toProgram := by
  unfold step at h
  rcases hn : p.normalize w with ⟨e | m, u⟩ <;> rw [hn] at h <;> cases h
  exact ⟨m, rfl, rfl⟩

theorem step_toProgram (m : Normal σ F α) (w : σ) : m.toProgram.step w = (.ok m.toProgram, w) := by
  unfold step
  rw [normalize_toProgram]

/-- A step panics if and only if a call before the first effect does. -/
theorem step_panics_iff {p : Program σ F α} {w v : σ} {e : Panic} :
    p.step w = (.error e, v) ↔ p.behavior w = .panicked e v := by
  rw [← shown_normalize]
  unfold step
  rcases p.normalize w with ⟨e' | a | e' | ⟨e', q⟩, u⟩ <;> simp [shown]

/-- Resuming the stepped program is resuming the program. -/
theorem step_resume (p : Program σ F α) : p.step.bind resume = p.resume := by
  funext w
  rw [step_then]
  unfold resume
  rcases p.normalize w with ⟨e | m, v⟩
  · rfl
  · simp only [normalize_toProgram]

/-- A step logs the opening. -/
theorem step_logged {L : Type} (label : Invocation σ F → L) (p : Program σ F α) (w : σ)
    (l : List L) : (p.logged label).step ⟨w, l⟩ =
      ((p.step w).1.map (Program.logged label), ⟨(p.step w).2, l ++ (p.opening w).map label⟩) := by
  unfold step
  rw [normalize_logged]
  rcases p.normalize w with ⟨e | m, v⟩
  · rfl
  · simp only [Except.map, Normal.toProgram_logged]

end Steps

/-! ## Folds -/

section Folds

variable {σ τ : Type} [Observer σ] {F : Type → Type v} {M : Type → Type u} {α : Type}

/-- Where the first turn is taken at once, the stepped program is folded to the same. -/
theorem step_fold_eq [Loop.{u, max 1 v} σ M] [PromptLoop.{u, max 1 v} σ M]
    (n : Interpreter σ τ F M) (t : τ) (p : Program σ F α) :
    (p.step.bind fun q => q.fold n t) = p.fold n t := by
  obtain ⟨build, built⟩ := PromptLoop.iterate_eq (M := M) 1 foldOrder_wf (foldTurn n (α := α))
  have turns (q : Program σ F α) (w : σ) : q.fold n t w =
      Host.bind (fun _ => normalTurn n t (q.normalize w)) build w :=
    (congrFun (built (t, q)) w).trans (foldTurn_bind n t q build w)
  funext w
  rw [step_then, turns p w]
  rcases p.normalize w with ⟨e | m, v⟩
  · rfl
  · refine (turns m.toProgram v).trans ?_
    rw [normalize_toProgram]
    rfl

/-- Where it is suspended, the folds agree. -/
theorem step_fold_agrees [Carrier σ M] [Observed σ M] [Loop.{u, max 1 v} σ M]
    [LawfulLoop.{u, max 1 v} σ M] (n : Interpreter σ τ F M) (t : τ) (p : Program σ F α) :
    Agree (p.step.bind fun q => q.fold n t) (p.fold n t) := by
  intro w
  refine Observed.trans ?_ (Observed.symm (fold_turn n t p w))
  rw [step_then]
  rcases p.normalize w with ⟨e | m, v⟩
  · exact Observed.refl _
  · have turn := fold_turn n t m.toProgram v
    rwa [normalize_toProgram] at turn

/-- Finds that no effect is there to be had, so that a fold ends at the first one. -/
def declining : Interpreter σ Unit F Option where
  apply _ t := .pure (none, t)

/-- What a fold logs before its first effect is the opening. -/
theorem fold_declining_logged {L : Type} (label : Invocation σ F → L) (p : Program σ F α) (w : σ)
    (l : List L) : ((p.logged label).fold declining () ⟨w, l⟩).2.log =
      l ++ (p.opening w).map label := by
  rw [fold_turn declining () (p.logged label) ⟨w, l⟩, normalize_logged]
  rcases p.normalize w with ⟨e | a | e | ⟨e, q⟩, v⟩ <;> rfl

end Folds

end Program

/-! ## Stepping is normalizing -/

section Statement

variable {σ : Type} [Observer σ]

/-- A step brings the program into its normal form and calls no more than that takes.

* It panics if and only if a call before the first effect does: `panics`.
* What it returns is normal, and stepping that calls nothing and gives it back: `normal`.
* Its calls are the opening, in order, which are the calls that a fold makes before its first
  effect: `calls`, `before`.
* Resuming what it returns is resuming the program: `resumes`. -/
structure Program.StepsToNormal {F : Type → Type v} {α : Type} (p : Program σ F α) : Prop where
  panics {w v : σ} {e : Panic} : p.step w = (.error e, v) ↔ p.behavior w = .panicked e v
  normal {w v : σ} {q : Program σ F α} :
    p.step w = (.ok q, v) → q.IsNormal ∧ ∀ u, q.step u = (.ok q, u)
  calls {L : Type} (label : Invocation σ F → L) (w : σ) (l : List L) :
    (p.logged label).step ⟨w, l⟩ =
      ((p.step w).1.map (Program.logged label), ⟨(p.step w).2, l ++ (p.opening w).map label⟩)
  before {L : Type} (label : Invocation σ F → L) (w : σ) (l : List L) :
    ((p.logged label).fold Program.declining () ⟨w, l⟩).2.log = l ++ (p.opening w).map label
  resumes : p.step.bind Program.resume = p.resume

theorem Program.stepsToNormal {F : Type → Type v} {α : Type} (p : Program σ F α) :
    p.StepsToNormal where
  panics := step_panics_iff
  normal h := by
    obtain ⟨m, -, rfl⟩ := step_eq_ok h
    exact ⟨isNormal_toProgram m, step_toProgram m⟩
  calls label w l := step_logged label p w l
  before label w l := fold_declining_logged label p w l
  resumes := step_resume p

/-- Into the carrier `M`, a stepped program is folded to the same computation. -/
def FoldsStepped (σ : Type) (M : Type → Type u) [Observer σ] [Loop.{u, max 1 v} σ M] : Prop :=
  ∀ {τ : Type} {F : Type → Type v} (n : Interpreter σ τ F M) (t : τ) {α : Type}
    (p : Program σ F α), (p.step.bind fun q => q.fold n t) = p.fold n t

/-- Into the carrier `M`, a stepped program is folded to a computation that is the same to
whoever runs it. -/
def FoldsSteppedAlike (σ : Type) (M : Type → Type u) [Observer σ] [Observed σ M]
    [Loop.{u, max 1 v} σ M] : Prop :=
  ∀ {τ : Type} {F : Type → Type v} (n : Interpreter σ τ F M) (t : τ) {α : Type}
    (p : Program σ F α), Agree (p.step.bind fun q => q.fold n t) (p.fold n t)

theorem foldsStepped {M : Type → Type u} [Loop.{u, max 1 v} σ M]
    [PromptLoop.{u, max 1 v} σ M] : FoldsStepped.{u, v} σ M :=
  fun n t _ p => p.step_fold_eq n t

theorem foldsSteppedAlike {M : Type → Type u} [Carrier σ M] [Observed σ M]
    [Loop.{u, max 1 v} σ M] [LawfulLoop.{u, max 1 v} σ M] : FoldsSteppedAlike.{u, v} σ M :=
  fun n t _ p => p.step_fold_agrees n t

/-- A step finds the normal form of a program and changes nothing else, into whatever
carrier the program is folded. -/
theorem step_normalizes (σ : Type) [Observer σ] :
    (∀ {F : Type → Type v} {α : Type} (p : Program σ F α), p.StepsToNormal) ∧
    ∀ layers : List (Route × Type),
      FoldsStepped.{0, v} σ (Layers Identity layers) ∧
      FoldsStepped.{0, v} σ (Layers Option layers) ∧
      (∀ ε, FoldsStepped.{0, v} σ (Layers (Except ε) layers)) ∧
      (∀ G : Type → Type w, FoldsStepped.{max 1 w, v} σ (Layers (Program σ G) layers)) ∧
      FoldsSteppedAlike.{1, v} σ (Layers (Action σ) layers) ∧
      FoldsSteppedAlike.{1, v} σ (Layers (Future σ) layers) :=
  ⟨Program.stepsToNormal, fun _ => ⟨foldsStepped, foldsStepped, fun _ => foldsStepped,
    fun _ => foldsStepped, foldsSteppedAlike, foldsSteppedAlike⟩⟩

end Statement

end Resumption
