/-
Translation — interpreting a translated program is interpreting it once.

A program over `F` is translated into one over `G` by folding it into programs, and
then interpreted in a carrier.  The translated program is unfolded as its run needs it:
a turn of the fold by `n.lifted` is a bind of programs, and its continuation takes the
next turn when the fold by `m` calls it.

| a turn of the fold by `n.lifted`   | and then the fold by `m`                         |
|------------------------------------|--------------------------------------------------|
| ends with a value                  | ends with that value                             |
| interprets an effect of `F`        | interprets the effect of `G` that this gave, and |
|                                    | calls for the next turn                          |

So the turns of the two alternate, and a turn of each is a turn of the fold by
`n.andThen m` (`Program.fold_translated`).  Nothing is asked of `n`; of `m`, that it
takes a lifted effect as it would take the effect itself.
-/
import Resumption.Proofs.Program.Chronicle
import Resumption.Proofs.Program.Resuming

namespace Resumption

universe u v w

namespace Program

/-! ## Translating and interpreting -/

section Interpreting

variable {σ τ υ : Type} [Observer σ] {F : Type → Type v} {G : Type → Type w} {M : Type → Type u}
  [Mappable (Untraced σ) G] [Carrier (Untraced σ) M] [Observed (Untraced σ) M]
  [LawfulCarrier (Untraced σ) M] [Loop.{u, max 1 w} (Untraced σ) M]
  [LawfulLoop.{u, max 1 w} (Untraced σ) M] (n : Interpreter (Untraced σ) τ F G)
  {m : Interpreter (Untraced σ) υ G M} {α β : Type}

omit [Mappable (Untraced σ) G] in
/-- Folding a loop of programs is folding its first turn and what it goes on with. -/
theorem fold_iterate {S : Type v} {R : S → S → Prop} (maps : Nat) (wf : WellFounded R)
    (step : (s : S) → Host (Untraced σ) (Turn (Untraced σ) (Program (Untraced σ) G) {t // R t s} α))
    (s : S) (u : υ) :
    Agree ((iterate maps wf step s).bind fun q => q.fold m u)
      (((step s).bind (Turn.proceed fun t => iterate maps wf step t.1)).bind fun q => q.fold m u) := by
  rw [iterate, Host.map, Host.bind_assoc, Host.bind_assoc]
  refine Agree.bind (step s) fun turn => ?_
  rcases turn with b | ⟨p, next⟩
  · -- a finished turn is a bind of programs
    refine (fold_handOn_bind m u (done b) _ (maps - 1)).trans ((fold_bind m u (done b) _).trans ?_)
    simp only [meaning, note_folded, ite_self]
    exact Agree.pure_chain (b, u) _
  · refine (fold_answered m u p maps next _).trans (.of_eq ?_)
    refine congrArg (fun k => (p.bind k).fold m u) (funext fun a => ?_)
    refine congrArg (next a).bind (funext fun x => ?_)
    rcases x with _ | _ <;> rfl

/-- A lifted effect is interpreted as the effect that it was lifted from. -/
theorem fold_lifted_step (hm : m.Natural) (e : F β) (t : τ) (u : υ)
    (k : β × τ → Host (Untraced σ) (Program (Untraced σ) G α)) :
    Agree (((n.lifted.apply e t).bind fun x => Carrier.bind x.1 fun b => k (b, x.2)).bind
        fun q => q.fold m u)
      (((n.andThen m).apply e (t, u)).bind fun x => Carrier.bind x.1 fun b =>
        (k (b, x.2.1)).bind fun q => q.fold m x.2.2) := by
  simp only [Interpreter.lifted, Interpreter.andThen, Host.map, Host.bind_assoc]
  refine Agree.bind (n.apply e t) fun x => ?_
  obtain ⟨g, lifted, meaning⟩ := hm.lift_eq x.1
  rw [lifted]
  show Agree (((suspend g).bind fun b => k (b, x.2)).fold m u) _
  refine (fold_bind m u _ _).trans ?_
  simp only [Program.meaning, note_folded]
  refine (Agree.chain_left (meaning u) _).trans ?_
  exact carry_chain m x.1 u fun y => (k (y.1, x.2)).bind fun q => q.fold m y.2

/-- Folding a translated program gives the meaning of the program by both interpreters
at once. -/
theorem fold_translated (hm : m.Natural) (p : Program (Untraced σ) F α) (t : τ) (u : υ) :
    Agree ((p.fold n.lifted t).bind fun q => q.fold m u)
      ((p.meaning (n.andThen m) true (t, u)).chain dropState) := by
  induction p using follows_wf.induction generalizing t u with
  | _ p ih =>
    intro w
    refine Observed.trans (fold_iterate 1 foldOrder_wf (foldTurn n.lifted) (t, p) u w) ?_
    refine Observed.trans ?_ (Observed.symm (meaning_turn (n.andThen m) (t, u) p w))
    rw [Host.bind, foldTurn_proceed n.lifted t p
      (fun s => iterate 1 foldOrder_wf (foldTurn n.lifted) s) w]
    rcases h : p.normalize w with ⟨e | a | e | ⟨e, q⟩, v⟩
    · exact Observed.refl _
    · exact fold_done m u a v
    · have step := fold_lifted_step n hm e t u fun x => .pure (done x.1)
      refine (step.trans (Agree.bind _ fun x => Agree.chain_right (.pure x.1) fun b => ?_)) v
      exact fold_done m x.2.2 b
    · have step := fold_lifted_step n hm e t u fun x v => match q.apply x.1 v with
        | .returned r v => r.fold n.lifted x.2 v
        | .panicked e v => (.error e, v)
      refine (step.trans (Agree.bind _ fun x => Agree.chain_right (.pure x.1) fun b v => ?_)) v
      simp only [Host.bind]
      rcases hr : q.apply b v with ⟨r, v'⟩ | ⟨e, v'⟩
      · exact ih r (follows_of_normalize h rfl hr) x.2.1 x.2.2 v'
      · exact Observed.refl _

end Interpreting

/-! ## What translating calls -/

section Translating

variable {σ τ : Type} {F : Type → Type v} {G : Type → Type w} {α β : Type}

/-- A loop of programs is built by its first turn alone. -/
theorem iterate_built {S : Type v} {R : S → S → Prop} {maps : Nat} {wf : WellFounded R}
    {step : (s : S) → Host σ (Turn σ (Program σ G) {t // R t s} α)} {s : S} {w w' : σ}
    {q : Program σ G α}
    (h : ((step s).bind (Turn.proceed fun t => iterate maps wf step t.1)) w = (.ok q, w')) :
    ∃ q, iterate maps wf step s w = (.ok q, w') := by
  rw [iterate]
  unfold Host.map Host.bind at *
  rcases hs : step s w with ⟨e | b | ⟨p, next⟩, v⟩ <;> rw [hs] at h <;> cases h <;> exact ⟨_, rfl⟩

variable [Observer σ] [Mappable (Untraced σ) G] {n : Interpreter (Untraced σ) τ F G} {t t' : τ}
  {p : Program (Untraced σ) F α} {w v v' : Untraced σ}

/-- A program that needs no effect is translated by the calls that find that out. -/
theorem translates_finished {a : α} (h : p.resume w = (.ok (.finished a), v)) :
    ∃ q, p.fold n.lifted t w = (.ok q, v) := by
  unfold resume at h
  have turn := foldTurn_proceed n.lifted t p
    (fun s => iterate 1 foldOrder_wf (foldTurn n.lifted) s) w
  rcases hn : p.normalize w with ⟨e | a | e | ⟨e, q⟩, v⟩ <;> rw [hn] at h turn <;> cases h
  exact iterate_built turn

/-- A program that waits for an effect is translated by the calls up to there and by
interpreting that effect; nothing more is called. -/
theorem translates_waiting {M : Type → Type u} {υ : Type} [Carrier (Untraced σ) M]
    [Observed (Untraced σ) M] [LawfulCarrier (Untraced σ) M] {m : Interpreter (Untraced σ) υ G M}
    (hm : m.Natural) {e : F β} {rest : β → Host (Untraced σ) (Program (Untraced σ) F α)} {g : G β}
    (h : p.resume w = (.ok (.waiting e rest), v)) (applied : n.apply e t v = (.ok (g, t'), v')) :
    ∃ q, p.fold n.lifted t w = (.ok q, v') := by
  obtain ⟨g', lifted, -⟩ := hm.lift_eq g
  have built : n.lifted.apply e t v = (.ok (suspend g', t'), v') := by
    simp only [Interpreter.lifted, Host.bind, applied, lifted]
    rfl
  unfold resume at h
  have turn := foldTurn_proceed n.lifted t p
    (fun s => iterate 1 foldOrder_wf (foldTurn n.lifted) s) w
  rcases hn : p.normalize w with ⟨e | a | e | ⟨e, q⟩, v⟩ <;> rw [hn] at h turn <;> cases h
  · simp only [note_folded, Host.bind, built] at turn
    exact iterate_built turn
  · simp only [note_folded, Host.bind, built] at turn
    exact iterate_built turn

end Translating

end Program

/-! ## Interpreting once -/

section Once

open Halting

section Statement

variable {σ τ υ α : Type} {F : Type → Type v} {G : Type → Type w} {M : Type → Type u}
  [Observer σ] [Mappable σ G] [Carrier σ M] [Halting σ M]

/-- Translates a program by the first interpreter, and interprets what comes of it by the
second. -/
def Program.foldVia [Loop.{u, max 1 w} σ M] (n : Interpreter σ τ F G) (m : Interpreter σ υ G M)
    (t : τ) (u : υ) (p : Program σ F α) : Host σ (M α) :=
  (p.fold n.lifted t).bind fun q => q.fold m u

/-- Translating the program by `n` and interpreting what comes of it by `m` is interpreting
it once.

* Translating calls what is called before the first effect, interprets that by `n`, and
  returns a program: `finished`, `waiting`.
* The runs halt as those of the fold by both interpreters at once, with the same outcomes
  and from the same calls in the same order: `alike`.
* They halt as the passages through the program say, which apply `n` and then `m` once to
  each effect that is reached: `passes`.
* A passage is orderly up to its end, so that nothing comes after an effect that halts
  without a value: `chronicle`. -/
structure InterpretedOnce (loopF : Loop.{u, max 1 v} σ M) [Loop.{u, max 1 w} σ M]
    (n : Interpreter σ τ F G) (m : Interpreter σ υ G M) (t : τ) (u : υ) (p : Program σ F α) :
    Prop where
  finished {a : α} {w v : σ} : p.resume w = (.ok (.finished a), v) →
    ∃ q, p.fold n.lifted t w = (.ok q, v)
  waiting {β : Type} {e : F β} {rest : β → Host σ (Program σ F α)} {g : G β} {t' : τ} {w v v' : σ} :
    p.resume w = (.ok (.waiting e rest), v) → n.apply e t v = (.ok (g, t'), v') →
      ∃ q, p.fold n.lifted t w = (.ok q, v')
  alike : HaltAlike (p.foldVia n m t u) (letI _ := loopF; p.fold (n.andThen m) (t, u))
  passes (c : Setting σ M) (w : σ) (o : Except (Halt σ M) α) (w' : σ) (c' : Setting σ M) :
    Halts c (p.foldVia n m t u w) o w' c' ↔
      ∃ tr x, p.Passes (n.andThen m) true (t, u) c w tr x w' c' ∧
        (x.map Prod.fst).mapError Break.toHalt = o
  chronicle {c : Setting σ M} {w : σ} {tr : List (Moment F (τ × υ))}
    {x : Except (Break (Halt σ M)) (α × (τ × υ))} {w' : σ} {c' : Setting σ M} :
    p.Passes (n.andThen m) true (t, u) c w tr x w' c' →
      Chronicle true (t, u) tr x ∨ Idle true (t, u) tr x

end Statement

/-- Into the carrier `M`, interpreting a translated program is interpreting the program
once, whenever the second interpreter is natural. -/
def TranslatesOnce (σ : Type) (M : Type → Type u) [Observer σ] [Carrier σ M] [Observed σ M]
    [Halting σ M] (loopF : Loop.{u, max 1 v} σ M) [Loop.{u, max 1 w} σ M] : Prop :=
  ∀ {τ υ : Type} {F : Type → Type v} {G : Type → Type w} [Mappable σ G]
    (n : Interpreter σ τ F G) {m : Interpreter σ υ G M}, m.Natural →
    ∀ {α : Type} (p : Program σ F α) (t : τ) (u : υ), InterpretedOnce loopF n m t u p

theorem translatesOnce {σ : Type} {M : Type → Type u} [Observer σ] [Carrier (Untraced σ) M]
    [Observed (Untraced σ) M] [LawfulCarrier (Untraced σ) M] [Halting (Untraced σ) M]
    [LawfulHalting (Untraced σ) M] [loopF : Loop.{u, max 1 v} (Untraced σ) M]
    [LawfulLoop.{u, max 1 v} (Untraced σ) M] [Loop.{u, max 1 w} (Untraced σ) M]
    [LawfulLoop.{u, max 1 w} (Untraced σ) M] :
    TranslatesOnce.{u, v, w} (Untraced σ) M loopF := by
  intro τ υ F G _ n m hm α p t u
  have once : Agree (p.foldVia n m t u) (letI _ := loopF; p.fold (n.andThen m) (t, u)) :=
    (p.fold_translated n hm t u).trans (letI _ := loopF; p.fold_agrees (n.andThen m) (t, u)).symm
  exact {
    finished := Program.translates_finished
    waiting := Program.translates_waiting hm
    alike := once.haltAlike
    passes := fun c w o w' c' => (once.haltAlike w c o w' c').trans
      (letI _ := loopF; p.halts_fold (n.andThen m) (t, u) c w o w' c')
    chronicle := p.chronicle (n.andThen m) true (t, u) _ _ _ _ _ _ }

/-- Interpreting a translated program is interpreting it once, in every carrier. -/
theorem translation_folds_once (σ : Type) [Observer σ] :
    TranslatesOnce.{0, v, w} (Untraced σ) Identity inferInstance ∧
    TranslatesOnce.{0, v, w} (Untraced σ) Option inferInstance ∧
    (∀ ε, TranslatesOnce.{0, v, w} (Untraced σ) (Except ε) inferInstance) ∧
    TranslatesOnce.{1, v, w} (Untraced σ) (Action (Untraced σ)) inferInstance ∧
    TranslatesOnce.{1, v, w} (Untraced σ) (Future (Untraced σ)) inferInstance :=
  ⟨translatesOnce, translatesOnce, fun _ => translatesOnce, translatesOnce, translatesOnce⟩

/-! ## Two effects, translated and numbered -/

/-- Makes the effect take a number from a decade of its own. -/
def decades {σ : Type} : Interpreter σ Nat (Numbered σ) (Numbered σ) where
  apply e i := .pure (⟨fun j => e.take (10 * i + j)⟩, i + 1)

theorem foldVia_twoTaken : ∃ q, twoTaken.fold decades.lifted 1 () = (.ok q, ()) ∧
    Action.runBuilt (twoTaken.foldVia decades numbering 1 3 ()) = (.ok 1324, ()) := by
  have once := (translation_folds_once Unit).2.2.2.1 decades numbering_natural twoTaken 1 3
  obtain ⟨q, built⟩ := once.waiting (Program.resume_bind ..) rfl
  have first : Program.Passes (σ := Untraced Unit) (decades.andThen numbering) false
      (.suspend ⟨.pure⟩) (1, 3) PUnit.unit () _ (.ok (13, (2, 4))) () PUnit.unit := .effect rfl rfl
  exact ⟨q, built, (once.passes PUnit.unit () (.ok 1324) () PUnit.unit).mpr
    ⟨_, .ok (1324, (3, 5)), .bound first (.called rfl (.effect rfl rfl)), rfl⟩⟩

end Once

end Resumption
