/-
Opening — what a program calls before its first effect.

The opening of a program is found by recursion along the program as it was built.  A
bind calls what its source calls, and if the source comes to a value without an effect,
what its queue calls at that value; a queue calls its arrows one after another, and in
between what is called by the programs that they return.

| a program       | calls before its first effect                            |
|-----------------|----------------------------------------------------------|
| `done a`        | nothing                                                  |
| `suspend e`     | nothing                                                  |
| `bound p q`     | what `p` calls, and then what `q` calls at its value     |
| `defer s`       | `s`, and then what the program of `s` calls              |

Which arrows a run calls is seen by letting them write it down: in the program
`p.logged label`, every arrow adds a label of its call to a log before it is run.  The
labels are arbitrary, so they may tell arrows, arguments and worlds apart.  Normalizing a
program logs its opening and nothing else (`Program.normalize_logged`).
-/
import Resumption.Proofs.Program.Behavior

namespace Resumption

universe u v

/-- A call of an arrow: with this argument, and in this world. -/
structure Invocation (σ : Type) (F : Type → Type v) : Type (max 1 v) where
  {α β : Type}
  arrow : α → σ → Program.Call σ F β
  argument : α
  world : σ

variable {σ : Type} {F : Type → Type v} {α β γ : Type}

/-! ## The opening -/

/-- What is listed from the value that a behavior comes to without an effect. -/
def Behavior.fromValue {X : Type u} : Behavior σ F α → (α → σ → List X) → List X
  | .finished a w, l => l a w
  | _, _ => []

theorem Behavior.fromValue_andThen {X : Type u} (b : Behavior σ F α)
    (k : α → σ → Behavior.Call σ F β) (l : β → σ → List X) :
    (b.andThen k).fromValue l = b.fromValue fun a w => (k a w).run.fromValue l := by
  cases b <;> rfl

theorem Behavior.fromValue_append {X : Type u} (b : Behavior σ F α) (k l : α → σ → List X) :
    (b.fromValue fun a w => k a w ++ l a w) = b.fromValue k ++ b.fromValue l := by
  cases b <;> rfl

mutual

/-- The calls before the first effect, in order. -/
def Program.opening {α : Type} : Program σ F α → σ → List (Invocation σ F)
  | .done _, _ => []
  | .suspend _, _ => []
  | .bound p q, w => p.opening w ++ (p.behavior w).fromValue q.opening

/-- The calls of a queue at a value before its first effect, in order. -/
def Arrows.opening {α β : Type} : Arrows σ F α β → α → σ → List (Invocation σ F)
  | .one f, a, w => ⟨f, a, w⟩ :: (f a w).opening
  | .append q r, a, w => q.opening a w ++ (q.behavior a w).run.fromValue r.opening

/-- The calls of the program that an arrow returned. -/
def Program.Call.opening {α : Type} : Program.Call σ F α → List (Invocation σ F)
  | .returned p w => p.opening w
  | .panicked _ _ => []

end

namespace Arrows

/-- The call of the first arrow. -/
def View.invocation : View σ F α γ → α → σ → Invocation σ F
  | .last f, a, w => ⟨f, a, w⟩
  | .more f _, a, w => ⟨f, a, w⟩

/-- The opening of a queue that is known by its view. -/
def View.opening : View σ F α γ → α → σ → List (Invocation σ F)
  | .last f, a, w => ⟨f, a, w⟩ :: (f a w).opening
  | .more f rest, a, w =>
    ⟨f, a, w⟩ :: (f a w).opening ++ (f a w).behavior.run.fromValue rest.opening

theorem opening_viewBefore {α β γ : Type} : (q : Arrows σ F α β) → (rest : Arrows σ F β γ) →
    (a : α) → (w : σ) → (q.viewBefore rest).opening a w = (append q rest).opening a w
  | one _, _, _, _ => rfl
  | append q r, rest, a, w => by
      rw [viewBefore, opening_viewBefore q (append r rest) a w]
      simp only [opening, behavior, Behavior.Call.run_andThen, Behavior.fromValue_andThen,
        Behavior.fromValue_append, List.append_assoc]

/-- A queue calls its first arrow, and then what is called by what it made of the value. -/
theorem opening_apply (q : Arrows σ F α γ) (a : α) (w : σ) :
    q.opening a w = q.view.invocation a w :: (q.apply a w).opening := by
  have view : q.view.opening a w = q.opening a w := by
    cases q with
    | one f => rfl
    | append q r => exact opening_viewBefore q r a w
  rw [← view]
  unfold apply
  cases q.view with
  | last f => rfl
  | more f rest =>
    simp only [View.opening, View.invocation]
    rcases f a w with ⟨p, v⟩ | ⟨e, v⟩ <;> rfl

end Arrows

namespace Program

/-- Turning a bind over onto the queue changes no call. -/
theorem opening_bound_bound (p : Program σ F α) (q : Arrows σ F α β) (r : Arrows σ F β γ) (w : σ) :
    (bound (bound p q) r).opening w = (bound p (.append q r)).opening w := by
  simp only [opening, Arrows.opening, behavior, Behavior.fromValue_andThen,
    Behavior.fromValue_append, List.append_assoc]

/-- A value is handed to the first arrow at once. -/
theorem opening_done_bound (a : α) (q : Arrows σ F α β) (w : σ) :
    (bound (done a) q).opening w = q.view.invocation a w :: (q.apply a w).opening :=
  q.opening_apply a w

end Program

/-! ## Logs -/

/-- A world that keeps a log. -/
structure WithLog (σ L : Type) where
  world : σ
  log : List L

instance {L : Type} [Observer σ] : Observer (WithLog σ L) where
  note e w := { w with world := note e w.world }
  setClock t w := { w with world := setClock t w.world }

section Logging

variable {L : Type} (label : Invocation σ F → L)

mutual

/-- The program whose arrows log their calls. -/
def Program.logged {α : Type} : Program σ F α → Program (WithLog σ L) F α
  | .done a => .done a
  | .suspend e => .suspend e
  | .bound p q => .bound p.logged q.logged

/-- The queue whose arrows log their calls. -/
def Arrows.logged {α β : Type} : Arrows σ F α β → Arrows (WithLog σ L) F α β
  | .one f => .one fun a w => (f a w.world).logged (w.log ++ [label ⟨f, a, w.world⟩])
  | .append q r => .append q.logged r.logged

/-- What an arrow returned, with the log as it is then. -/
def Program.Call.logged {α : Type} :
    Program.Call σ F α → List L → Program.Call (WithLog σ L) F α
  | .returned p w, l => .returned p.logged ⟨w, l⟩
  | .panicked p w, l => .panicked p ⟨w, l⟩

end

namespace Arrows

/-- The view of a queue whose arrows log their calls. -/
def View.logged : View σ F α γ → View (WithLog σ L) F α γ
  | .last f => .last fun a w => (f a w.world).logged label (w.log ++ [label ⟨f, a, w.world⟩])
  | .more f rest => .more
    (fun a w => (f a w.world).logged label (w.log ++ [label ⟨f, a, w.world⟩])) (rest.logged label)

theorem viewBefore_logged {α β γ : Type} : (q : Arrows σ F α β) → (rest : Arrows σ F β γ) →
    (q.logged label).viewBefore (rest.logged label) = (q.viewBefore rest).logged label
  | one _, _ => rfl
  | append q r, rest => viewBefore_logged q (append r rest)

theorem view_logged (q : Arrows σ F α γ) : (q.logged label).view = q.view.logged label := by
  cases q with
  | one f => rfl
  | append q r => exact viewBefore_logged label q r

/-- Applying a queue logs the call of its first arrow. -/
theorem apply_logged (q : Arrows σ F α γ) (a : α) (w : σ) (l : List L) :
    (q.logged label).apply a ⟨w, l⟩ =
      (q.apply a w).logged label (l ++ [label (q.view.invocation a w)]) := by
  unfold apply
  rw [view_logged]
  cases q.view with
  | last f => rfl
  | more f rest =>
    simp only [View.logged, View.invocation]
    rcases f a w with ⟨p, v⟩ | ⟨e, v⟩ <;> rfl

end Arrows

/-- The normal form of a program whose arrows log their calls. -/
def Normal.logged : Normal σ F α → Normal (WithLog σ L) F α
  | .done a => .done a
  | .suspend e => .suspend e
  | .bound e q => .bound e (q.logged label)

theorem Normal.toProgram_logged (m : Normal σ F α) :
    (m.logged label).toProgram = m.toProgram.logged label := by
  cases m <;> rfl

theorem Program.normalize_returned {q : Arrows σ F α γ} {a : α} {w v : σ} {p : Program σ F γ}
    (called : q.apply a w = .returned p v) : (bound (done a) q).normalize w = p.normalize v := by
  rw [normalize]
  split <;> rename_i h <;> cases called.symm.trans h
  rfl

theorem Program.normalize_panicked {q : Arrows σ F α γ} {a : α} {w v : σ} {e : Panic}
    (called : q.apply a w = .panicked e v) :
    (bound (done a) q).normalize w = (.error e, v) := by
  rw [normalize]
  split <;> rename_i h <;> cases called.symm.trans h
  rfl

/-- Normalizing logs the opening. -/
theorem Program.normalize_logged (p : Program σ F α) (w : σ) (l : List L) :
    (p.logged label).normalize ⟨w, l⟩ = ((p.normalize w).1.map (Normal.logged label),
      ⟨(p.normalize w).2, l ++ (p.opening w).map label⟩) := by
  fun_induction normalize p w generalizing l with
  | case1 w a =>
    simp only [logged, normalize, opening, List.map_nil, List.append_nil]
    rfl
  | case2 w e =>
    simp only [logged, normalize, opening, List.map_nil, List.append_nil]
    rfl
  | case3 w _ e q =>
    simp only [logged, normalize, opening, behavior, Behavior.fromValue, List.append_nil,
      List.map_nil]
    rfl
  | case4 w _ _ p q r ih =>
    rw [opening_bound_bound, ← ih l]
    simp only [logged, Arrows.logged, normalize]
  | case5 w _ a q p w' e ih =>
    have called := q.apply_logged label a w l
    rw [e] at called
    rw [opening_done_bound, e, List.map_cons, List.append_cons]
    exact (normalize_returned called).trans (ih _)
  | case6 w _ a q e w' h =>
    have called := q.apply_logged label a w l
    rw [h] at called
    rw [opening_done_bound, h]
    exact normalize_panicked called

end Logging

end Resumption
