/-
Regrouping — how the binds of a program are grouped makes no difference.

A program `m` and continuations `k₁ … kₙ` are bound in many ways, from the left,
`m.bind k₁ |>.bind k₂ …`, to the right, `m.bind (x ↦ (k₁ x).bind …)`.  A way of binding
them is a tree: `Grouped` trees make one continuation of several, and `Binds` trees bind
the program to such continuations.  The leaves of a tree are its `steps`.

Trees with the same steps are folded to the same (`regrouping_exact`): not only do runs
of both end alike, but every carrier is handed the same computation.  So they apply the
interpreter to the same effects, call the same continuations in the same order and report
the same steps of the fold, in every world.
-/
import Resumption.Proofs.Program.Behavior
import Resumption.Proofs.Program.Draft

namespace Resumption

universe u v w

variable {σ τ : Type} {F : Type → Type v} {α β γ : Type}

/-! ## Ways of binding -/

/-- Continuations, each of which takes the value of the one before it. -/
inductive Chain (σ : Type) (F : Type → Type v) : Type → Type → Type (max 1 v) where
  | nil {α : Type} : Chain σ F α α
  | cons {α β γ : Type} (k : α → Host σ (Program σ F β)) (rest : Chain σ F β γ) : Chain σ F α γ

/-- One chain after another. -/
def Chain.append {α β γ : Type} : Chain σ F α β → Chain σ F β γ → Chain σ F α γ
  | .nil, c => c
  | .cons k rest, c => .cons k (rest.append c)

/-- Continuations that are grouped into one. -/
inductive Grouped (σ : Type) (F : Type → Type v) : Type → Type → Type (max 1 v) where
  | one {α β : Type} (k : α → Host σ (Program σ F β)) : Grouped σ F α β
  | pair {α β γ : Type} (g : Grouped σ F α β) (h : Grouped σ F β γ) : Grouped σ F α γ

namespace Grouped

/-- The continuation of a group: a pair binds what the first makes to the second. -/
def call {α β : Type} : Grouped σ F α β → α → Host σ (Program σ F β)
  | one k, a => k a
  | pair g h, a => (g.call a).map fun p => p.bind h.call

/-- The continuations of a group, in order. -/
def steps {α β : Type} : Grouped σ F α β → Chain σ F α β
  | one k => .cons k .nil
  | pair g h => g.steps.append h.steps

/-- Each continuation binds what it makes to all that come after it. -/
def rightNested {α β γ : Type} (k : α → Host σ (Program σ F β)) :
    Chain σ F β γ → Grouped σ F α γ
  | .nil => one k
  | .cons l rest => pair (one k) (rightNested l rest)

end Grouped

/-- Ways of binding a program to continuations. -/
inductive Binds {α : Type} (m : Program σ F α) : Type → Type (max 1 v) where
  | source : Binds m α
  | bind {β γ : Type} (b : Binds m β) (g : Grouped σ F β γ) : Binds m γ

namespace Binds

variable {m : Program σ F α}

/-- The program that is bound in this way. -/
def program {β : Type} : Binds m β → Program σ F β
  | source => m
  | bind b g => b.program.bind g.call

/-- The continuations that the program is bound to, in order. -/
def steps {β : Type} : Binds m β → Chain σ F α β
  | source => .nil
  | bind b g => b.steps.append g.steps

/-- Binds the continuations of a chain one by one. -/
def bindAll {β γ : Type} (b : Binds m β) : Chain σ F β γ → Binds m γ
  | .nil => b
  | .cons k rest => (b.bind (.one k)).bindAll rest

variable (m) in
/-- From the left: every bind has the one before it as its source. -/
def leftNested (c : Chain σ F α β) : Binds m β :=
  source.bindAll c

variable (m) in
/-- From the right: every bind but the first is made by a continuation. -/
def rightNested : Chain σ F α β → Binds m β
  | .nil => source
  | .cons k rest => source.bind (.rightNested k rest)

end Binds

/-! ### Steps -/

theorem Chain.append_nil {α β : Type} : (c : Chain σ F α β) → c.append .nil = c
  | .nil => rfl
  | .cons k rest => congrArg (Chain.cons k) rest.append_nil

theorem Chain.append_assoc {α β γ δ : Type} : (c : Chain σ F α β) → (d : Chain σ F β γ) →
    (e : Chain σ F γ δ) → (c.append d).append e = c.append (d.append e)
  | .nil, _, _ => rfl
  | .cons k rest, d, e => congrArg (Chain.cons k) (rest.append_assoc d e)

theorem Grouped.steps_rightNested {α β γ : Type} (k : α → Host σ (Program σ F β)) :
    (c : Chain σ F β γ) → (rightNested k c).steps = .cons k c
  | .nil => rfl
  | .cons l rest => congrArg (Chain.cons k) (steps_rightNested l rest)

namespace Binds

variable {m : Program σ F α}

theorem steps_bindAll {β γ : Type} : (b : Binds m β) → (c : Chain σ F β γ) →
    (b.bindAll c).steps = b.steps.append c
  | b, .nil => b.steps.append_nil.symm
  | b, .cons k rest => by
      rw [bindAll, steps_bindAll _ rest]
      exact Chain.append_assoc b.steps (.cons k .nil) rest

theorem steps_leftNested (c : Chain σ F α β) : (leftNested m c).steps = c :=
  steps_bindAll source c

theorem steps_rightNested : (c : Chain σ F α β) → (rightNested m c).steps = c
  | .nil => rfl
  | .cons k rest => Grouped.steps_rightNested k rest

end Binds

/-! ## The behavior of the steps -/

/-- Goes on through the continuations of a chain. -/
def Behavior.through {α β : Type} (b : Behavior σ F α) : Chain σ F α β → Behavior σ F β
  | .nil => b
  | .cons k rest => (b.andThen (Arrows.ofHost k).behavior).through rest

theorem Behavior.through_append {α β γ : Type} (b : Behavior σ F α) : (c : Chain σ F α β) →
    (d : Chain σ F β γ) → b.through (c.append d) = (b.through c).through d
  | .nil, _ => rfl
  | .cons _ rest, d => through_append _ rest d

/-- A group of continuations goes on as its steps do. -/
theorem Grouped.behavior_call {α β : Type} : (g : Grouped σ F α β) → (b : Behavior σ F α) →
    b.andThen (Arrows.ofHost g.call).behavior = b.through g.steps
  | one k, b => rfl
  | pair g h, b => by
      rw [steps, Behavior.through_append, ← behavior_call g, ← behavior_call h,
        Behavior.andThen_assoc]
      refine congrArg b.andThen (funext fun a => funext fun w => ?_)
      simp only [Arrows.ofHost, Arrows.behavior, call, Host.map, Host.bind]
      rcases g.call a w with ⟨p | p, v⟩ <;> rfl

/-- However a program is bound, it behaves as itself and then as the steps. -/
theorem Binds.behavior_program {m : Program σ F α} {β : Type} (w : σ) : (b : Binds m β) →
    b.program.behavior w = (m.behavior w).through b.steps
  | source => rfl
  | bind b g => by
      rw [steps, Behavior.through_append, ← behavior_program w b, ← g.behavior_call]
      rfl

/-! ## Folds -/

/-- Into the carrier `M`, a program that is bound to some continuations is folded to the
same, however the binds are grouped. -/
def FoldsRegrouped (σ : Type) (M : Type → Type u) [Observer σ] [Loop.{u, max 1 v} σ M] : Prop :=
  ∀ {τ : Type} {F : Type → Type v} (n : Interpreter σ τ F M) (t : τ) {α β : Type}
    (m : Program σ F α) (b b' : Binds m β), b.steps = b'.steps →
    b.program.fold n t = b'.program.fold n t

theorem foldsRegrouped [Observer σ] {M : Type → Type u} [Loop.{u, max 1 v} σ M]
    [UniformLoop.{u, max 1 v} σ M] : FoldsRegrouped.{u, v} σ M := by
  intro τ F n t α β m b b' same
  refine Program.fold_congr (funext fun w => ?_) n t
  rw [b.behavior_program, b'.behavior_program, same]

/-- Grouping is exact into every carrier, programs among them, through any layers. -/
theorem regrouping_exact (σ : Type) [Observer σ] (layers : List (Route × Type)) :
    FoldsRegrouped.{0, v} σ (Layers Identity layers) ∧
    FoldsRegrouped.{0, v} σ (Layers Option layers) ∧
    (∀ ε, FoldsRegrouped.{0, v} σ (Layers (Except ε) layers)) ∧
    FoldsRegrouped.{1, v} σ (Layers (Action σ) layers) ∧
    FoldsRegrouped.{1, v} σ (Layers (Future σ) layers) ∧
    ∀ G : Type → Type w, FoldsRegrouped.{max 1 w, v} σ (Layers (Program σ G) layers) :=
  ⟨foldsRegrouped, foldsRegrouped, fun _ => foldsRegrouped, foldsRegrouped, foldsRegrouped,
    fun _ => foldsRegrouped⟩

/-- Takes the next number as a further digit. -/
def takeDigit (a : Nat) : Host Journal (Program Journal (Numbered Journal) Nat) :=
  .pure (.suspend ⟨fun i => .pure (10 * a + i)⟩)

/-- Takes three digits. -/
def threeDigits : Chain Journal (Numbered Journal) Nat Nat :=
  .cons takeDigit (.cons takeDigit (.cons takeDigit .nil))

theorem threeDigits_regrouped :
    (Binds.leftNested (.done 0) threeDigits).steps =
      (Binds.rightNested (.done 0) threeDigits).steps ∧
    (Binds.leftNested (.done 0) threeDigits).program.fold numbering 3 =
      (Binds.rightNested (.done 0) threeDigits).program.fold numbering 3 ∧
    Action.runBuilt ((Binds.leftNested (.done 0) threeDigits).program.fold numbering 3 ⟨[]⟩) =
      (.ok 345, ⟨[.folded .effect, .folded .effect, .folded .finalEffect]⟩) := by
  have same : (Binds.leftNested (.done 0) threeDigits).steps =
      (Binds.rightNested (.done 0) threeDigits).steps := by
    rw [Binds.steps_leftNested, Binds.steps_rightNested]
  have regrouped : FoldsRegrouped.{1, 0} Journal (Action Journal) :=
    (regrouping_exact.{0, 0} Journal []).2.2.2.1
  have folds := regrouped numbering 3 (.done 0) _ _ same
  refine ⟨same, folds, ?_⟩
  rw [folds]
  exact Eq.trans (Program.fold_agrees (M := Action Journal) numbering 3 _ ⟨[]⟩) rfl

end Resumption
