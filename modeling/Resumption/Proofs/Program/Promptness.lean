/-
Promptness — translating a program calls its opening at once.

A program is translated by folding it into programs.  That loop takes its first turn when it
is built: it normalizes the program, which makes the calls of the opening, interprets the
first effect and binds what comes of it.  Everything after that effect is left to the
translated program.

| a program                            | when it is translated                            |
|--------------------------------------|--------------------------------------------------|
| awaits an effect before any call     | calls nothing                                    |
| `done a`                             | calls nothing                                    |
| any other                            | calls its opening, and nothing after it          |

So a translation is lazy only for the programs of the first two rows
(`translation_calls_opening`); a deferred program is in neither (`deferredNine_called`).
-/
import Resumption.Proofs.Program.Stepping

namespace Resumption

universe u v w

variable {σ τ : Type} {F : Type → Type v} {α β γ : Type}

/-! ## Programs that call nothing before their first effect -/

namespace Program

/-- The innermost source is an effect. -/
def AwaitsEffect {α : Type} : Program σ F α → Prop
  | done _ => False
  | suspend _ => True
  | bound p _ => p.AwaitsEffect

/-- Where an effect is awaited, no value is come to without it. -/
theorem AwaitsEffect.fromValue {X : Type u} {α : Type} : {p : Program σ F α} → p.AwaitsEffect →
    (w : σ) → (l : α → σ → List X) → (p.behavior w).fromValue l = []
  | .suspend _, _, _, _ => rfl
  | .bound p q, awaits, w, l => by
      rw [behavior, Behavior.fromValue_andThen]
      exact AwaitsEffect.fromValue (p := p) awaits w _

/-- A bind calls nothing before its first effect if and only if its source awaits one. -/
theorem opening_bound_eq_nil_iff {α β : Type} (w : σ) : (p : Program σ F α) →
    (q : Arrows σ F α β) → ((bound p q).opening w = [] ↔ p.AwaitsEffect)
  | .done a, q => by
      rw [opening_done_bound]
      exact ⟨nofun, nofun⟩
  | .suspend e, q => ⟨fun _ => trivial, fun _ => rfl⟩
  | .bound p r, q => by
      rw [opening, List.append_eq_nil_iff, opening_bound_eq_nil_iff w p r]
      refine ⟨And.left, fun awaits => ⟨awaits, ?_⟩⟩
      exact AwaitsEffect.fromValue (p := bound p r) awaits w _

theorem opening_eq_nil_iff (p : Program σ F α) (w : σ) :
    p.opening w = [] ↔ p.shape = .done ∨ p.AwaitsEffect := by
  cases p with
  | done a => exact ⟨fun _ => .inl rfl, fun _ => rfl⟩
  | suspend e => exact ⟨fun _ => .inr trivial, fun _ => rfl⟩
  | bound p q =>
    refine (opening_bound_eq_nil_iff w p q).trans ⟨.inr, ?_⟩
    rintro (⟨⟨⟩⟩ | awaits)
    exact awaits

end Program

/-! ## Translating -/

section Translating

variable [Observer σ] {G : Type → Type w}

/-- Folding a program into programs leaves the world of its first turn. -/
theorem Program.fold_into_program (n : Interpreter σ τ F (Program σ G)) (t : τ)
    (p : Program σ F α) (w : σ) : (p.fold n t w).2 = (normalTurn n t (p.normalize w)).2 := by
  rw [← foldTurn_eq]
  show (iterate 1 foldOrder_wf (foldTurn n) (t, p) w).2 = _
  rw [iterate]
  unfold Host.map Host.bind
  rcases foldTurn n (t, p) w with ⟨_ | _, _⟩ <;> rfl

/-- An interpreter that leaves the log of a world to others. -/
def Interpreter.KeepsLog {L : Type} {M : Type → Type u} (n : Interpreter (WithLog σ L) τ F M) :
    Prop :=
  ∀ {α : Type} (e : F α) (t : τ) (w : WithLog σ L), (n.apply e t w).2.log = w.log

/-- Translating logs the opening and nothing else. -/
theorem Program.fold_logged {L : Type} {n : Interpreter (WithLog σ L) τ F (Program (WithLog σ L) G)}
    (keeps : n.KeepsLog) (label : Invocation σ F → L) (p : Program σ F α) (t : τ) (w : σ)
    (l : List L) : ((p.logged label).fold n t ⟨w, l⟩).2.log = l ++ (p.opening w).map label := by
  -- mapping what the interpreter built does not touch the world
  have applied {β : Type} {X : Type (max 1 v w)} (e : F β)
      (f : Program (WithLog σ L) G β × τ → X) (x : WithLog σ L) :
      ((n.apply e t).map f x).2.log = x.log := by
    rw [← keeps e t x]
    unfold Host.map Host.bind
    rcases n.apply e t x with ⟨_ | _, _⟩ <;> rfl
  rw [fold_into_program, normalize_logged]
  rcases p.normalize w with ⟨e | a | e | ⟨e, q⟩, v⟩
  · rfl
  · rfl
  · exact applied e _ _
  · exact applied e _ _

/-- Translating a program calls its opening and nothing else; so it calls nothing if and only
if the program is done or awaits an effect before any call.  The log is that of the
program's arrows: neither the interpreter nor mapping its effects writes to it. -/
theorem translation_calls_opening {L : Type} [Mappable (WithLog σ L) G]
    (n : Interpreter (WithLog σ L) τ F G) (keeps : n.lifted.KeepsLog) (p : Program σ F α)
    (label : Invocation σ F → L) (t : τ) (w : σ) (l : List L) :
    ((p.logged label).fold n.lifted t ⟨w, l⟩).2.log = l ++ (p.opening w).map label ∧
    (((p.logged label).fold n.lifted t ⟨w, l⟩).2.log = l ↔ p.shape = .done ∨ p.AwaitsEffect) := by
  have logs := p.fold_logged keeps label t w l
  refine ⟨logs, ?_⟩
  rw [logs, List.append_right_eq_self, List.map_eq_nil_iff]
  exact p.opening_eq_nil_iff w

end Translating

theorem identity_keepsLog {L : Type} :
    (Interpreter.identity : Interpreter (WithLog σ L) Unit Identity Identity).lifted.KeepsLog :=
  fun _ _ _ => rfl

/-! ## Deferred programs -/

/-- A deferred effect and one more call after it. -/
def deferredThenCalled : Program Unit Identity Nat :=
  (Program.defer (.pure (.suspend ⟨1⟩))).bind fun a => .pure (.done (a + 1))

theorem deferredThenCalled_translated :
    (.identity : Interpreter (WithLog Unit Unit) Unit Identity Identity).lifted.KeepsLog ∧
    ((deferredThenCalled.logged fun _ => ()).fold Interpreter.identity.lifted () ⟨(), []⟩).2.log =
      [()] :=
  ⟨identity_keepsLog, (translation_calls_opening .identity identity_keepsLog deferredThenCalled
    (fun _ => ()) () () []).1⟩

/-- A program that is finished, but deferred. -/
def deferredNine : Program Unit Identity Nat :=
  .defer (.pure (.done 9))

/-- Translating it is not lazy: its supplier is called. -/
theorem deferredNine_called :
    ((deferredNine.logged fun _ => ()).fold Interpreter.identity.lifted () ⟨(), []⟩).2.log ≠
      [] := by
  rw [Program.fold_logged identity_keepsLog]
  exact nofun

end Resumption
