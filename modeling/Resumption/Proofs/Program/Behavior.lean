/-
Behavior — all that a fold sees of a program.

The behavior of a program in a world is what it does up to its next effect, and for
every value of that effect what it does then.  A queue behaves as the call of its first
arrow does: it returns a program, known by its behavior in every world, or it panics.

| a program          | behaves                                                    |
|--------------------|------------------------------------------------------------|
| `done a`           | `finished a`                                               |
| `suspend e`        | `final e`: nothing is called after this effect             |
| `bound p q`        | as `p`, and then as `q` from the value that `p` ends with  |

Going on is associative (`Behavior.andThen_assoc`), so it does not matter to a behavior
how the arrows of a program are grouped; nor does it to a fold, which is a loop whose
turns see the behavior and nothing else (`Program.fold_congr`).
-/
import Resumption.Proofs.Carrier.Uniform

namespace Resumption

universe u v

mutual

/-- What a program does up to its next effect, and after it. -/
inductive Behavior (σ : Type) (F : Type → Type v) : Type → Type (max 1 v) where
  | finished {α : Type} (a : α) (world : σ) : Behavior σ F α
  | final {α : Type} (e : F α) (world : σ) : Behavior σ F α
  | effect {α β : Type} (e : F β) (rest : β → σ → Behavior.Call σ F α) (world : σ) :
      Behavior σ F α
  | panicked {α : Type} (p : Panic) (world : σ) : Behavior σ F α

/-- How the call of an arrow ends, up to the behavior of the program that it returns. -/
inductive Behavior.Call (σ : Type) (F : Type → Type v) : Type → Type (max 1 v) where
  | returned {α : Type} (behavior : σ → Behavior σ F α) (world : σ) : Behavior.Call σ F α
  | panicked {α : Type} (p : Panic) (world : σ) : Behavior.Call σ F α

end

variable {σ τ : Type} {F : Type → Type v} {α β γ δ : Type}

/-! ## Going on -/

/-- What was returned behaves in the world that the call left. -/
def Behavior.Call.run : Behavior.Call σ F α → Behavior σ F α
  | .returned b w => b w
  | .panicked p w => .panicked p w

mutual

/-- Goes on from the value that a behavior ends with. -/
def Behavior.andThen {α β : Type} :
    Behavior σ F α → (α → σ → Behavior.Call σ F β) → Behavior σ F β
  | .finished a w, k => (k a w).run
  | .final e w, k => .effect e k w
  | .effect e rest w, k => .effect e (fun b v => (rest b v).andThen k) w
  | .panicked p w, _ => .panicked p w

/-- Goes on from the value that the returned program ends with. -/
def Behavior.Call.andThen {α β : Type} :
    Behavior.Call σ F α → (α → σ → Behavior.Call σ F β) → Behavior.Call σ F β
  | .returned b w, k => .returned (fun v => (b v).andThen k) w
  | .panicked p w, _ => .panicked p w

end

/-- Going on from a call is going on from what it returned, in the world that it left. -/
theorem Behavior.Call.run_andThen (k : α → σ → Behavior.Call σ F β) (c : Behavior.Call σ F α) :
    (c.andThen k).run = c.run.andThen k := by
  cases c <;> rfl

mutual

theorem Behavior.andThen_assoc {α β γ : Type} (k : α → σ → Behavior.Call σ F β)
    (l : β → σ → Behavior.Call σ F γ) :
    (b : Behavior σ F α) → (b.andThen k).andThen l = b.andThen fun a w => (k a w).andThen l
  | .finished a w => (Behavior.Call.run_andThen l (k a w)).symm
  | .final _ _ => rfl
  | .effect e rest w => by
      simp only [Behavior.andThen]
      exact congrArg (Behavior.effect e · w) (funext fun x => funext fun v =>
        Behavior.Call.andThen_assoc k l (rest x v))
  | .panicked _ _ => rfl

theorem Behavior.Call.andThen_assoc {α β γ : Type} (k : α → σ → Behavior.Call σ F β)
    (l : β → σ → Behavior.Call σ F γ) : (c : Behavior.Call σ F α) →
      (c.andThen k).andThen l = c.andThen fun a w => (k a w).andThen l
  | .returned b w => congrArg (Behavior.Call.returned · w) (funext fun v =>
      Behavior.andThen_assoc k l (b v))
  | .panicked _ _ => rfl

end

/-! ## The behavior of programs and queues -/

mutual

/-- The behavior of a program. -/
def Program.behavior {α : Type} : Program σ F α → σ → Behavior σ F α
  | .done a, w => .finished a w
  | .suspend e, w => .final e w
  | .bound p q, w => (p.behavior w).andThen q.behavior

/-- The behavior of a queue at a value. -/
def Arrows.behavior {α β : Type} : Arrows σ F α β → α → σ → Behavior.Call σ F β
  | .one f, a, w => (f a w).behavior
  | .append q r, a, w => (q.behavior a w).andThen r.behavior

/-- The behavior of what an arrow returned. -/
def Program.Call.behavior {α : Type} : Program.Call σ F α → Behavior.Call σ F α
  | .returned p w => .returned p.behavior w
  | .panicked p w => .panicked p w

end

namespace Arrows

/-- The behavior of a queue that is known by its view. -/
def View.behavior : View σ F α γ → α → σ → Behavior.Call σ F γ
  | .last f, a, w => (f a w).behavior
  | .more f rest, a, w => (f a w).behavior.andThen rest.behavior

theorem behavior_viewBefore {α β γ : Type} : (q : Arrows σ F α β) → (rest : Arrows σ F β γ) →
    (a : α) → (w : σ) → (q.viewBefore rest).behavior a w = (append q rest).behavior a w
  | one _, _, _, _ => rfl
  | append q r, rest, a, w => by
      rw [viewBefore, behavior_viewBefore q (append r rest) a w]
      exact (Behavior.Call.andThen_assoc r.behavior rest.behavior (q.behavior a w)).symm

theorem behavior_view (q : Arrows σ F α γ) (a : α) (w : σ) :
    q.view.behavior a w = q.behavior a w := by
  cases q with
  | one f => rfl
  | append q r => exact behavior_viewBefore q r a w

/-- A queue behaves as what it makes of a value. -/
theorem behavior_apply (q : Arrows σ F α γ) (a : α) (w : σ) :
    (q.apply a w).behavior = q.behavior a w := by
  rw [← behavior_view]
  unfold apply
  cases q.view with
  | last f => rfl
  | more f rest =>
    simp only [View.behavior]
    cases f a w <;> rfl

end Arrows

namespace Program

/-- The behavior that a normal form in some world shows. -/
def shown : Except Panic (Normal σ F α) × σ → Behavior σ F α
  | (.error p, w) => .panicked p w
  | (.ok (.done a), w) => .finished a w
  | (.ok (.suspend e), w) => .final e w
  | (.ok (.bound e q), w) => .effect e q.behavior w

/-- Normalizing shows the behavior. -/
theorem shown_normalize (p : Program σ F α) (w : σ) : shown (p.normalize w) = p.behavior w := by
  fun_induction normalize p w with
  | case1 | case2 | case3 => rfl
  | case4 w _ _ p q r ih =>
    rw [ih]
    exact (Behavior.andThen_assoc q.behavior r.behavior (p.behavior w)).symm
  | case5 w _ a q p w' e ih =>
    rw [ih]
    show _ = (q.behavior a w).run
    rw [← Arrows.behavior_apply, e]
    rfl
  | case6 w _ a q e w' h =>
    show _ = (q.behavior a w).run
    rw [← Arrows.behavior_apply, h]
    rfl

end Program

/-! ## Folds -/

section Folds

variable {M : Type → Type u} [Observer σ]

/-- The turn of a fold, as far as the behavior of the program shows it. -/
def Behavior.turn (n : Interpreter σ τ F M) (t : τ) :
    Behavior σ F α → Except Panic (Turn σ M (τ × (σ → Behavior σ F α)) α) × σ
  | .panicked p w => (.error p, w)
  | .finished a w => (.ok (.finish a), note (.folded .finished) w)
  | .final e w =>
    (n.apply e t).map (fun (m, _) => .await m fun a => .pure (.right a))
      (note (.folded .finalEffect) w)
  | .effect e rest w =>
    (n.apply e t).map (fun (m, t) => .await m fun b v =>
      match rest b v with
      | .returned c v => (.ok (.left (t, c)), v)
      | .panicked p v => (.error p, v))
      (note (.folded .effect) w)

/-- A turn of a fold sees the behavior of the program and the state of the interpreter. -/
theorem Program.foldTurn_along (n : Interpreter σ τ F M) (t : τ) (p : Program σ F α) (w : σ) :
    (foldTurn n (t, p)).map (Turn.along fun s => (s.1.1, s.1.2.behavior)) w =
      (p.behavior w).turn n t := by
  calc (foldTurn n (t, p)).map (Turn.along fun s => (s.1.1, s.1.2.behavior)) w
    _ = ((foldTurn n (t, p)).map (Turn.along Subtype.val)).map
          (Turn.along fun s => (s.1, s.2.behavior)) w := by
      rw [Host.map_map]
      exact congrArg (fun f => (foldTurn n (t, p)).map f w)
        (funext fun turn =>
          (turn.along_along Subtype.val fun s => (s.1, s.2.behavior)).symm)
    _ = Host.map (Turn.along fun s => (s.1, s.2.behavior))
          (fun _ => normalTurn n t (p.normalize w)) w := foldTurn_bind n t p _ w
    _ = (shown (p.normalize w)).turn n t := by
      rcases p.normalize w with ⟨e | a | e | ⟨e, q⟩, v⟩
      · rfl
      · rfl
      · exact congrFun (Host.map_map ..) _
      · refine (congrFun (Host.map_map ..) _).trans ?_
        refine congrArg (fun f => Host.map f _ _) (funext fun x => ?_)
        refine congrArg (Turn.await x.1) (funext fun b => funext fun u => ?_)
        refine (Host.map_apply ..).trans ?_
        dsimp only
        rw [← Arrows.behavior_apply]
        rcases q.apply b u with ⟨r, u'⟩ | ⟨e, u'⟩ <;> rfl
    _ = (p.behavior w).turn n t := by rw [shown_normalize]

variable [Loop.{u, max 1 v} σ M] [UniformLoop.{u, max 1 v} σ M]

/-- Programs of one behavior are folded to the same. -/
theorem Program.fold_congr {p p' : Program σ F α} (same : p.behavior = p'.behavior)
    (n : Interpreter σ τ F M) (t : τ) : p.fold n t = p'.fold n t := by
  refine UniformLoop.iterate_congr 1 foldOrder_wf (foldTurn n)
    (fun s => (s.1, s.2.behavior)) ?_ (by rw [same])
  rintro ⟨t, p⟩ ⟨t', p'⟩ same
  obtain ⟨rfl, same⟩ := Prod.mk.inj same
  funext w
  rw [foldTurn_along, foldTurn_along]
  exact congrArg _ (congrFun same w)

end Folds

end Resumption
