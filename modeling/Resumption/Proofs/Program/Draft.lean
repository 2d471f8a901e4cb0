/-
Draft — programs as they were built, and what plain recursion makes of them.

A draft is the record of how a program was put together: values, lifted effects
and binds, before anything is re-associated or boxed.  `Draft.build` does what
was recorded and gets the program; `Draft.eval` interprets the draft by recursion
along it and never makes a program.

| draft        | is built as       | evaluates to                                    |
|--------------|-------------------|-------------------------------------------------|
| `pure a`     | `Program.done a`  | the value `a`                                   |
| `lift e`     | `Program.lift e`  | the meaning of the effect `e`                   |
| `bind d k`   | `Program.bind`    | the value of `d`, then of what `k` makes of it  |

The other ways to build a program come down to these three, in the draft as in
the program.  Folding the program that was built is evaluating the draft
(`FoldIsRecursion`), for every natural interpreter and every lawful carrier.

Evaluating reports no steps, so the two are compared in an untraced world, which
is told of every event but those.
-/
import Resumption.Proofs.Program.Meaning
import Resumption.Proofs.Carrier.Action
import Resumption.Proofs.Carrier.Eager
import Resumption.Proofs.Carrier.Future

namespace Resumption

universe u v w

/-! ## Worlds that are not told of the steps of folds -/

/-- A world of `σ` that hears of every event but the steps of folds. -/
def Untraced (σ : Type) : Type := σ

instance {σ : Type} [Observer σ] : Observer (Untraced σ) where
  note
    | .folded _, w => w
    | e, w => note (σ := σ) e w
  setClock := setClock (σ := σ)

theorem note_folded {σ : Type} [Observer σ] (s : FoldStep) (w : Untraced σ) :
    note (.folded s) w = w :=
  rfl

/-! ## Drafts -/

mutual

/-- How a program over the effect `F` was put together. -/
inductive Draft (σ : Type) (F : Type → Type v) : Type → Type (max 1 v) where
  | pure {α : Type} (a : α) : Draft σ F α
  | lift {α : Type} (e : F α) : Draft σ F α
  | bind {α β : Type} (d : Draft σ F α) (k : α → σ → Draft.Call σ F β) : Draft σ F β

/-- How the call of a continuation ends: with a draft or with a panic, in some world. -/
inductive Draft.Call (σ : Type) (F : Type → Type v) : Type → Type (max 1 v) where
  | returned {α : Type} (d : Draft σ F α) (world : σ) : Draft.Call σ F α
  | panicked {α : Type} (p : Panic) (world : σ) : Draft.Call σ F α

end

variable {σ τ : Type} {F : Type → Type v} {M : Type → Type u} {α β γ : Type}

namespace Draft

mutual

/-- Builds the program that was recorded. -/
def build [Mappable σ F] {α : Type} : Draft σ F α → Host σ (Program σ F α)
  | pure a => .pure (.done a)
  | lift e => Program.lift e
  | bind d k => d.build.map fun p => p.bind fun a w => (k a w).build

/-- Builds what a continuation returned. -/
def Call.build [Mappable σ F] {α : Type} :
    Call σ F α → Except Panic (Program σ F α) × σ
  | .returned d w => d.build w
  | .panicked p w => (.error p, w)

end

mutual

/-- The recursive meaning of a draft: its value, with the state that the interpreter
is left in. -/
def eval [Carrier σ M] (n : Interpreter σ τ F M) {α : Type} :
    Draft σ F α → τ → Host σ (M (α × τ))
  | pure a, t => .pure (Carrier.pure σ (a, t))
  | lift e, t => n.carry e t
  | bind d k, t => (d.eval n t).chain fun (a, t) w => (k a w).eval n t

/-- The meaning of what a continuation returned. -/
def Call.eval [Carrier σ M] (n : Interpreter σ τ F M) {α : Type} :
    Call σ F α → τ → Except Panic (M (α × τ)) × σ
  | .returned d w, t => d.eval n t w
  | .panicked p w, _ => (.error p, w)

end

/-- The value of a draft, without the state of the interpreter. -/
def value [Carrier σ M] (n : Interpreter σ τ F M) (t : τ) (d : Draft σ F α) : Host σ (M α) :=
  (d.eval n t).bind fun m => Mappable.map m fun x => .pure x.1

/-! ## The other ways to build -/

/-- A closure that returns a draft. -/
def Call.ofHost (h : Host σ (Draft σ F α)) (w : σ) : Call σ F α :=
  match h w with
  | (.ok d, w) => .returned d w
  | (.error p, w) => .panicked p w

/-- Puts off building the rest. -/
def defer (s : σ → Call σ F α) : Draft σ F α :=
  (pure ()).bind fun _ => s

/-- Transforms the value. -/
def map (d : Draft σ F α) (f : α → Host σ β) : Draft σ F β :=
  d.bind fun a => .ofHost ((f a).map pure)

/-- Goes on with a second draft. -/
def andThen (d : Draft σ F α) (d' : Draft σ F β) : Draft σ F β :=
  d.bind fun _ => .returned d'

/-- Combines the values of two drafts. -/
def map2 (d : Draft σ F α) (d' : Draft σ F β) (f : α → β → Host σ γ) : Draft σ F γ :=
  d.bind fun a => .returned (d'.map fun b => f a b)

/-- Discards the value. -/
def void (d : Draft σ F α) : Draft σ F Unit :=
  d.map fun _ => .pure ()

section Building

variable [Mappable σ F]

theorem build_bind {d : Draft σ F α} {p : Program σ F α} (h : d.build = .pure p)
    (k : α → σ → Call σ F β) :
    (d.bind k).build = .pure (p.bind fun a w => (k a w).build) := by
  rw [build, h]
  rfl

theorem build_defer (s : σ → Call σ F α) :
    (defer s).build = .pure (Program.defer fun w => (s w).build) :=
  build_bind (by rw [build]) _

theorem build_map {d : Draft σ F α} {p : Program σ F α} (h : d.build = .pure p)
    (f : α → Host σ β) : (d.map f).build = .pure (p.map f) := by
  refine (build_bind h _).trans (congrArg (fun k => Host.pure (p.bind k)) ?_)
  funext a w
  simp only [Call.ofHost, Host.map, Host.bind]
  rcases f a w with ⟨e | b, w'⟩
  · simp only [Call.build]
  · simp only [Host.pure, Call.build, build]

theorem build_andThen {d : Draft σ F α} {d' : Draft σ F β} {p : Program σ F α}
    {q : Program σ F β} (h : d.build = .pure p) (h' : d'.build = .pure q) :
    (d.andThen d').build = .pure (p.andThen q) := by
  refine (build_bind h _).trans (congrArg (fun k => Host.pure (p.bind k)) ?_)
  funext a w
  rw [Call.build, h']

theorem build_map2 {d : Draft σ F α} {d' : Draft σ F β} {p : Program σ F α}
    {q : Program σ F β} (h : d.build = .pure p) (h' : d'.build = .pure q)
    (f : α → β → Host σ γ) : (d.map2 d' f).build = .pure (p.map2 q f) := by
  refine (build_bind h _).trans (congrArg (fun k => Host.pure (p.bind k)) ?_)
  funext a w
  rw [Call.build, build_map h']

theorem build_void {d : Draft σ F α} {p : Program σ F α} (h : d.build = .pure p) :
    d.void.build = .pure p.void :=
  build_map h _

end Building

end Draft

/-! ## Natural interpreters -/

/-- An interpreter that commutes with mapping by plain functions: a mapped effect is
a value, and it means the mapped meaning of the effect. -/
structure Interpreter.Natural [Mappable σ F] [Carrier σ M] [Observed σ M]
    (n : Interpreter σ τ F M) : Prop where
  map_eq {α β : Type} (e : F α) (f : α → β) : ∃ e',
    Mappable.map e (fun a => Host.pure (σ := σ) (f a)) = .pure e' ∧
      ∀ t, Agree (n.carry e' t)
        ((n.carry e t).bind fun m => Mappable.map m fun x => .pure (f x.1, x.2))

section Laws

variable [Carrier σ M] [Observed σ M] [LawfulCarrier σ M]

/-- Mapping by the identity changes nothing. -/
theorem Agree.map_id (h : Host σ (M α)) :
    Agree (h.bind fun m => Mappable.map m fun a => Host.pure a) h :=
  (Agree.bind_map h _).trans (Agree.chain_pure h)

/-- Lifting an effect builds an effect that means the same. -/
theorem Interpreter.Natural.lift_eq [Mappable σ F] {n : Interpreter σ τ F M} (hn : n.Natural)
    (e : F α) : ∃ e', Program.lift e = Host.pure (σ := σ) (Program.suspend e') ∧
      ∀ t, Agree (n.carry e' t) (n.carry e t) := by
  obtain ⟨e', mapped, meaning⟩ := hn.map_eq e id
  refine ⟨e', ?_, fun t => (meaning t).trans (Agree.map_id _)⟩
  show Host.map _ (Mappable.map e fun a => Host.pure (id a)) = _
  rw [mapped]
  rfl

end Laws

namespace Draft

/-! ## What was built means what was recorded -/

variable [Observer σ] [Mappable (Untraced σ) F] [Carrier (Untraced σ) M] [Observed (Untraced σ) M]

mutual

/-- Building runs nothing, and the program means what the draft evaluates to. -/
theorem meaning_built [LawfulCarrier (Untraced σ) M] {n : Interpreter (Untraced σ) τ F M}
    (hn : n.Natural) {α : Type} : (d : Draft (Untraced σ) F α) → ∃ p, d.build = .pure p ∧
      ∀ last t, Agree (p.meaning n last t) (d.eval n t)
  | pure a => by
      refine ⟨.done a, by rw [build], fun last t w => ?_⟩
      simp only [Program.meaning, eval, note_folded, ite_self]
      exact Observed.refl _
  | lift e => by
      obtain ⟨e', built, meaning⟩ := hn.lift_eq e
      refine ⟨.suspend e', by rw [build, built], fun last t w => ?_⟩
      simp only [Program.meaning, eval, note_folded]
      exact meaning t w
  | bind d k => by
      obtain ⟨p, built, meaning⟩ := meaning_built hn d
      refine ⟨_, build_bind built k, fun last t => ?_⟩
      simp only [Program.bind, Arrows.ofHost, Program.meaning, Arrows.meaning, eval]
      exact LawfulCarrier.chain_congr (meaning false t)
        fun x w => Call.meaning_built hn last x.2 (k x.1 w)

/-- What a continuation builds means what it evaluates to. -/
theorem Call.meaning_built [LawfulCarrier (Untraced σ) M] {n : Interpreter (Untraced σ) τ F M}
    (hn : n.Natural) {α : Type} (last : Bool) (t : τ) : (c : Call (Untraced σ) F α) →
      Observed.Same ((Program.Call.ofRun c.build).meaning n last t) (c.eval n t)
  | .returned d w => by
      obtain ⟨p, built, meaning⟩ := Draft.meaning_built hn d
      simp only [Call.build, built, Host.pure, Program.Call.ofRun, Program.Call.meaning, Call.eval]
      exact meaning last t w
  | .panicked p w => by
      simp only [Call.build, Program.Call.ofRun, Program.Call.meaning, Call.eval]
      exact Observed.refl _

end

end Draft

/-! ## Folding what was built -/

/-- Into the carrier `M`, folding is plain recursion: building a program runs nothing,
and its fold by a natural interpreter does what evaluating its draft does. -/
def FoldIsRecursion (σ : Type) (M : Type → Type u) [Observer σ] [Carrier σ M] [Observed σ M]
    [Loop.{u, max 1 v} σ M] : Prop :=
  ∀ {τ : Type} {F : Type → Type v} [Mappable σ F] {n : Interpreter σ τ F M}, n.Natural →
    ∀ {α : Type} (d : Draft σ F α), ∃ p, d.build = .pure p ∧
      ∀ t, Agree (p.fold n t) (d.value n t)

theorem foldIsRecursion [Observer σ] [Carrier (Untraced σ) M] [Observed (Untraced σ) M]
    [LawfulCarrier (Untraced σ) M] [Loop.{u, max 1 v} (Untraced σ) M]
    [LawfulLoop.{u, max 1 v} (Untraced σ) M] : FoldIsRecursion.{u, v} (Untraced σ) M := by
  intro τ F _ n hn α d
  obtain ⟨p, built, meaning⟩ := Draft.meaning_built hn d
  refine ⟨p, built, fun t => (Program.fold_agrees n t p).trans ?_⟩
  refine (Agree.chain_left (meaning true t) Program.dropState).trans ?_
  exact (Agree.bind_map (d.eval n t) fun x => Host.pure x.1).symm

/-- Folding is plain recursion into every carrier that runs or is a value, however the
program is built: every step of either is a step of the other, in the same order, and
so is a panic. -/
theorem fold_eq_recursion (σ : Type) [Observer σ] :
    FoldIsRecursion.{0, v} (Untraced σ) Identity ∧
    FoldIsRecursion.{0, v} (Untraced σ) Option ∧
    (∀ ε, FoldIsRecursion.{0, v} (Untraced σ) (Except ε)) ∧
    FoldIsRecursion.{1, v} (Untraced σ) (Action (Untraced σ)) ∧
    FoldIsRecursion.{1, v} (Untraced σ) (Future (Untraced σ)) :=
  ⟨foldIsRecursion, foldIsRecursion, fun _ => foldIsRecursion, foldIsRecursion, foldIsRecursion⟩

/-! ## An interpreter that numbers the effects -/

/-- An effect that takes the next number. -/
structure Numbered (σ : Type) (α : Type) where
  take : Nat → Host σ α

instance {σ : Type} : Mappable σ (Numbered σ) where
  map e f := .pure ⟨fun i => (e.take i).bind f⟩

/-- Numbers the effects in the order in which they are applied. -/
def numbering {σ : Type} : Interpreter σ Nat (Numbered σ) (Action σ) where
  apply e i := .pure (.ofHost (e.take i), i + 1)

theorem numbering_natural {σ : Type} [Observer σ] : (numbering (σ := σ)).Natural where
  map_eq e f := by
    refine ⟨_, rfl, fun i w => ?_⟩
    show Action.runBuilt (.ok _, w) = Action.runBuilt (.ok _, w)
    rw [Action.runBuilt_ok, Action.runBuilt_ok]
    simp only [Action.ofHost, Action.run, Host.caught, Host.map, Host.bind]
    rcases e.take i w with ⟨q | a, w'⟩ <;> rfl

/-- The number that a draft takes at each of two steps, the second in a continuation. -/
def twoNumbers : Draft (Untraced Unit) (Numbered (Untraced Unit)) Nat :=
  .bind (.bind (.lift ⟨.pure⟩) fun a => .returned (.lift ⟨fun b => .pure (10 * a + b)⟩))
    fun c => .returned (.pure c)

theorem fold_twoNumbers : ∃ p, twoNumbers.build = .pure p ∧
    Action.runBuilt (p.fold numbering 3 ()) = (.ok 34, ()) := by
  obtain ⟨p, built, meaning⟩ := (fold_eq_recursion Unit).2.2.2.1 numbering_natural twoNumbers
  exact ⟨p, built, (meaning 3 ()).trans rfl⟩

end Resumption
