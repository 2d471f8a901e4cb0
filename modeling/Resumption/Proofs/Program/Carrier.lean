/-
Carrier — programs are a lawful carrier, observed by running them.

A program over a lawful carrier is run in that carrier, and is what its run shows.
A bind of programs runs as the bind of their runs (`Program.run_chain`), so each law
of programs is the law of the carrier that they are run in.

A run reports its steps, and programs that do the same may take different steps: a
program that goes on with its value alone reports that it has finished.  The laws
are therefore those of worlds that are not told of steps.
-/
import Resumption.Proofs.Halting.Basic
import Resumption.Proofs.Program.Draft

namespace Resumption

universe u v w

/-! ## Steps that are not told -/

section Untold

variable {σ τ : Type} [Observer σ] {F : Type → Type v} {M : Type → Type u}
  [Carrier (Untraced σ) M]

mutual

/-- Where steps are not told, it does not matter which one is the last. -/
theorem Program.meaning_untold (n : Interpreter (Untraced σ) τ F M) (t : τ) {α : Type} :
    (p : Program (Untraced σ) F α) → p.meaning n false t = p.meaning n true t
  | .done a => by
      simp only [Program.meaning, note_folded, ite_self]
      rfl
  | .suspend e => by
      simp only [Program.meaning, note_folded]
      rfl
  | .bound p q => by
      simp only [Program.meaning]
      exact congrArg _ (funext fun x => Arrows.meaning_untold n x.2 q x.1)

theorem Arrows.meaning_untold (n : Interpreter (Untraced σ) τ F M) (t : τ) {α β : Type} :
    (q : Arrows (Untraced σ) F α β) → (a : α) → q.meaning n false a t = q.meaning n true a t
  | .one f, a => by
      simp only [Arrows.meaning]
      exact funext fun w => Program.Call.meaning_untold n t (f a w)
  | .append q r, a => by
      simp only [Arrows.meaning]
      exact congrArg _ (funext fun x => Arrows.meaning_untold n x.2 r x.1)

theorem Program.Call.meaning_untold (n : Interpreter (Untraced σ) τ F M) (t : τ) {α : Type} :
    (c : Program.Call (Untraced σ) F α) → c.meaning n false t = c.meaning n true t
  | .returned p w => by
      simp only [Program.Call.meaning]
      rw [Program.meaning_untold n t p]
  | .panicked p w => by
      simp only [Program.Call.meaning]

end

end Untold

/-! ## Programs as their runs -/

namespace Program

section Observed

variable {σ : Type} [Observer σ] {F : Type → Type v} [Loop.{v, max 1 v} σ F] {α : Type}

/-- Runs what the building of a program came to. -/
def ran (x : Except Panic (Program σ F α) × σ) : Except Panic (F α) × σ :=
  Host.bind (fun _ => x) run x.2

theorem ran_apply (h : Host σ (Program σ F α)) (w : σ) : ran (h w) = h.bind run w := by
  unfold ran Host.bind
  rfl

instance [Observed σ F] : Observed σ (Program σ F) where
  Same x y := Observed.Same (ran x) (ran y)
  refl _ := Observed.refl _
  symm h := Observed.symm h
  trans h h' := Observed.trans h h'

/-- Programs are built alike if their runs are. -/
theorem agree_iff [Observed σ F] {h h' : Host σ (Program σ F α)} :
    Agree h h' ↔ Agree (h.bind run) (h'.bind run) := by
  constructor <;> intro agree w
  · rw [← ran_apply, ← ran_apply]
    exact agree w
  · have same := agree w
    rwa [← ran_apply, ← ran_apply] at same

instance [Halting σ F] : Halting σ (Program σ F) where
  Setting := Halting.Setting σ F
  Halt := Halting.Halt σ F
  ofPanic := Halting.ofPanic
  Halts c x o w' c' := Halting.Halts c (ran x) o w' c'

instance [Observed σ F] [Halting σ F] [FaithfulHalting σ F] : FaithfulHalting σ (Program σ F) where
  congr same halted := FaithfulHalting.congr (M := F) same halted

end Observed

/-! ## Lawfulness -/

variable {σ : Type} [Observer σ] {F : Type → Type v} [Carrier (Untraced σ) F]
  [Observed (Untraced σ) F] [LawfulCarrier (Untraced σ) F]
  [Loop.{v, max 1 v} (Untraced σ) F] [LawfulLoop.{v, max 1 v} (Untraced σ) F] {α β γ : Type}

/-- A run is the meaning of the program in its own effect. -/
theorem run_agrees (p : Program (Untraced σ) F α) :
    Agree p.run ((p.meaning .identity false ()).chain dropState) := by
  rw [meaning_untold]
  exact fold_agrees .identity () p

omit [LawfulCarrier (Untraced σ) F] in
theorem run_done (a : α) :
    Agree (done a : Program (Untraced σ) F α).run (.pure (Carrier.pure (Untraced σ) a)) :=
  fold_done .identity () a

/-- A bind runs its source and then what the continuation builds. -/
theorem run_bind (p : Program (Untraced σ) F α)
    (k : α → Host (Untraced σ) (Program (Untraced σ) F β)) :
    Agree (p.bind k).run (p.run.chain fun a => (k a).bind run) :=
  calc (p.bind k).run
    Agree _ ((p.meaning .identity false ()).chain fun x => (k x.1).bind run) :=
      fold_bind .identity () p k
    Agree _ (((p.meaning .identity false ()).chain dropState).chain fun a => (k a).bind run) := by
      refine ((Agree.chain_assoc _ _ _).trans (Agree.chain_right _ fun x => ?_)).symm
      exact Agree.pure_chain x.1 _
    Agree _ (p.run.chain fun a => (k a).bind run) := (Agree.chain_left (run_agrees p) _).symm

/-- So does what was built. -/
theorem run_chain (h : Host (Untraced σ) (Program (Untraced σ) F α))
    (k : α → Host (Untraced σ) (Program (Untraced σ) F β)) :
    Agree ((h.chain k).bind run) ((h.bind run).chain fun a => (k a).bind run) :=
  (Agree.of_eq (Host.bind_assoc ..)).trans
    ((Agree.bind h fun p => run_bind p k).trans (.of_eq (Host.bind_assoc ..).symm))

instance : LawfulCarrier (Untraced σ) (Program (Untraced σ) F) where
  map_eq p f := .refl _
  pure_bind a k := by
    rw [agree_iff]
    refine (run_bind (done a) k).trans ((Agree.chain_left (run_done a) _).trans ?_)
    exact Agree.pure_chain a _
  bind_pure p := by
    rw [agree_iff]
    refine (run_bind p _).trans ?_
    exact (Agree.chain_right p.run fun a => run_done a).trans (Agree.chain_pure p.run)
  bind_assoc p k l := by
    rw [agree_iff]
    refine (run_chain _ l).trans ((Agree.chain_left (run_bind p k) _).trans ?_)
    refine (Agree.chain_assoc _ _ _).trans ?_
    refine ((run_bind p _).trans (Agree.chain_right p.run fun a => run_chain (k a) l)).symm
  chain_congr {_ _ h h' k k'} e e' := by
    rw [agree_iff]
    refine (run_chain h k).trans (Agree.trans ?_ (run_chain h' k').symm)
    exact LawfulCarrier.chain_congr (agree_iff.mp e) fun a => agree_iff.mp (e' a)

instance : LawfulLoop.{max 1 v, w} (Untraced σ) (Program (Untraced σ) F) where
  iterate_eq maps wf step s := by
    show Agree (iterate maps wf step s) _
    rw [iterate]
    refine Agree.bind (step s) fun turn => agree_iff.mpr ?_
    rcases turn with b | ⟨p, next⟩
    · refine (fold_handOn_bind .identity () (done b) _ (maps - 1)).trans ?_
      have unit := LawfulCarrier.bind_pure (σ := Untraced σ) (M := Program (Untraced σ) F) (done b)
      exact agree_iff.mp unit
    · refine (fold_answered .identity () p maps next _).trans (.of_eq ?_)
      refine congrArg (fun k => (p.bind k).fold .identity ()) (funext fun a => ?_)
      refine congrArg (next a).bind (funext fun x => ?_)
      rcases x with _ | _ <;> rfl

/-! ## How programs halt -/

section Halting

variable [Halting (Untraced σ) F] [LawfulHalting (Untraced σ) F]

open Halting LawfulHalting

omit [Carrier (Untraced σ) F] [Observed (Untraced σ) F] [LawfulCarrier (Untraced σ) F]
  [LawfulLoop.{v, max 1 v} (Untraced σ) F] [LawfulHalting (Untraced σ) F] in
/-- What was built halts as its run does. -/
theorem halts_built {h : Host (Untraced σ) (Program (Untraced σ) F α)} {w w' : Untraced σ}
    {c c' : Setting (Untraced σ) F} {o : Except (Halt (Untraced σ) F) α} :
    Halts (M := Program (Untraced σ) F) c (h w) o w' c' ↔
      Halts (M := F) c (h.bind run w) o w' c' := by
  rw [← ran_apply]
  rfl

instance : LawfulHalting (Untraced σ) (Program (Untraced σ) F) where
  halts_panic := halts_panic (M := F)
  halts_pure {α a w w' c c' o} := by
    have ran : HaltAlike (M := F) (done a).run (.pure (Carrier.pure (Untraced σ) a)) :=
      (run_done a).haltAlike
    exact (ran w c o w' c').trans halts_pure
  halts_bind {α β m k w w' c c' o} := by
    have ran : HaltAlike (m.bind k).run (m.run.chain fun a => (k a).bind run) :=
      (run_bind m k).haltAlike
    refine (ran w c o w' c').trans ((halts_chain (M := F)).trans (or_congr ?_ Iff.rfl))
    refine exists_congr fun a => exists_congr fun w₁ => exists_congr fun c₁ => ?_
    exact and_congr Iff.rfl halts_built.symm

end Halting

end Program

end Resumption
