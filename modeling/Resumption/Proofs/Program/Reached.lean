/-
Reached — the effects that a run reaches, up to the next one.

`Program.Reaches` forgets of a passage all but the effects that the interpreter is
applied to.  Calling a continuation reaches nothing by itself, so a program reaches what
is reached by what normalizing turns it into:

| program                | turns into                                             |
|------------------------|--------------------------------------------------------|
| `bound (done a) q`     | what the queue makes of `a` (`Arrows.reaches_apply`)   |
| `bound (bound p q) r`  | `p` bound to both queues (`Onward.assoc`)              |

So normalizing keeps what is reached (`Program.reaches_normalize`), and a program that
is resumed reaches the effect that it waits for, and then what the rest of it reaches
(`Program.reaches_resume`).
-/
import Resumption.Proofs.Program.Draft
import Resumption.Proofs.Program.Passage

namespace Resumption

universe u v w

/-! ## The effects of a passage -/

section Moments

variable {F : Type → Type v} {τ : Type}

/-- The effect that the interpreter is applied to at this moment. -/
def Moment.effect? : Moment F τ → Option ((β : Type) × F β)
  | .applied e _ _ => some ⟨_, e⟩
  | _ => none

/-- The effects that the interpreter is applied to, in order. -/
def reached (tr : List (Moment F τ)) : List ((β : Type) × F β) :=
  tr.filterMap Moment.effect?

end Moments

/-- What is kept of one passage after another is kept of each. -/
theorem Onward.kept {σ B α β : Type} {E : Type v} {E' : Type w} {S : Type 1}
    (g : E → Option E') {first : List E → Except B α → σ → S → Prop}
    {next : α → S → σ → List E → Except B β → σ → S → Prop} {l : List E'} {x : Except B β} {w' : σ}
    {c' : S} : (∃ tr, Onward first next tr x w' c' ∧ tr.filterMap g = l) ↔
      Onward (fun l x w c => ∃ tr, first tr x w c ∧ tr.filterMap g = l)
        (fun a c w l x w' c' => ∃ tr, next a c w tr x w' c' ∧ tr.filterMap g = l) l x w' c' := by
  constructor
  · rintro ⟨tr, on | off, rfl⟩
    · rw [List.filterMap_append]
      exact .on ⟨_, ‹_›, rfl⟩ ⟨_, ‹_›, rfl⟩
    · exact .off ⟨_, ‹_›, rfl⟩
  · rintro (⟨⟨tr, one, rfl⟩, ⟨tr', two, rfl⟩⟩ | ⟨tr, one, rfl⟩)
    · exact ⟨_, .on one two, List.filterMap_append ..⟩
    · exact ⟨_, .off one, rfl⟩

/-! ## Reaching -/

open Halting

section Reaching

variable {σ τ : Type} {F : Type → Type v} {M : Type → Type u} [Observer σ] [Halting σ M]

/-- A run may pass through the program and reach these effects. -/
def Program.Reaches (n : Interpreter σ τ F M) (last : Bool) {α : Type} (p : Program σ F α) (t : τ)
    (c : Setting σ M) (w : σ) (l : List ((β : Type) × F β))
    (x : Except (Break (Halt σ M)) (α × τ)) (w' : σ) (c' : Setting σ M) : Prop :=
  ∃ tr, p.Passes n last t c w tr x w' c' ∧ reached tr = l

/-- A run may pass through the queue and reach these effects. -/
def Arrows.Reaches (n : Interpreter σ τ F M) (last : Bool) {α β : Type} (q : Arrows σ F α β)
    (a : α) (t : τ) (c : Setting σ M) (w : σ) (l : List ((β : Type) × F β))
    (x : Except (Break (Halt σ M)) (β × τ)) (w' : σ) (c' : Setting σ M) : Prop :=
  ∃ tr, q.Passes n last a t c w tr x w' c' ∧ reached tr = l

/-- A run breaks off here with a panic. -/
def Panics {H α : Type} {S : Type 1} (p : Panic) (c : S) (w : σ) (l : List ((β : Type) × F β))
    (x : Except (Break H) α) (w' : σ) (c' : S) : Prop :=
  l = [] ∧ x = .error (.panicked p) ∧ w' = w ∧ c' = c

/-- A run may reach these effects after the call. -/
def Program.Call.Reaches (n : Interpreter σ τ F M) (last : Bool) {α : Type} :
    Program.Call σ F α → τ → Setting σ M → List ((β : Type) × F β) →
      Except (Break (Halt σ M)) (α × τ) → σ → Setting σ M → Prop
  | .returned p w, t, c => p.Reaches n last t c w
  | .panicked e w, _, c => Panics e c w

variable {n : Interpreter σ τ F M} {last : Bool} {α β γ : Type} {t : τ} {c : Setting σ M} {w : σ}

theorem Program.reaches_bound (p : Program σ F α) (q : Arrows σ F α β) :
    (Program.bound p q).Reaches n last t c w =
      Onward (p.Reaches n false t c w) fun y => q.Reaches n last y.1 y.2 := by
  funext l x w' c'
  simp only [Reaches, passes_bound]
  exact propext (Onward.kept Moment.effect?)

theorem Arrows.reaches_append (q : Arrows σ F α β) (r : Arrows σ F β γ) (a : α) :
    (Arrows.append q r).Reaches n last a t =
      fun c w => Onward (q.Reaches n false a t c w) fun y => r.Reaches n last y.1 y.2 := by
  funext c w l x w' c'
  simp only [Reaches, passes_append]
  exact propext (Onward.kept Moment.effect?)

theorem Arrows.reaches_one (f : α → σ → Program.Call σ F β) (a : α) :
    (Arrows.one f).Reaches n last a t c w = (f a w).Reaches n last t c := by
  funext l x w' c'
  refine propext ⟨?_, ?_⟩
  · rintro ⟨tr, passes, rfl⟩
    cases passes with
    | called called passes =>
      rw [called]
      exact ⟨_, passes, rfl⟩
    | panicked called =>
      rw [called]
      exact ⟨rfl, rfl, rfl, rfl⟩
  · rcases called : f a w with ⟨p, v⟩ | ⟨e, v⟩
    · rintro ⟨tr, passes, rfl⟩
      exact ⟨_, .called called passes, rfl⟩
    · rintro ⟨rfl, rfl, rfl, rfl⟩
      exact ⟨_, .panicked called, rfl⟩

/-- An effect reaches itself. -/
theorem Program.reached_suspend {e : F α} {l : List ((β : Type) × F β)}
    {x : Except (Break (Halt σ M)) (α × τ)} {w' : σ} {c' : Setting σ M}
    (reaches : (Program.suspend e).Reaches n last t c w l x w' c') : l = [⟨α, e⟩] := by
  obtain ⟨tr, passes, rfl⟩ := reaches
  cases passes <;> rfl

/-- A value is handed on at once. -/
theorem Program.reaches_done_bound (a : α) (q : Arrows σ F α β) :
    (Program.bound (.done a) q).Reaches n last t c w = q.Reaches n last a t c w := by
  rw [reaches_bound]
  funext l x w' c'
  refine propext ⟨?_, fun reaches => ?_⟩
  · rintro (⟨⟨tr, passes, rfl⟩, rest⟩ | ⟨tr, passes, rfl⟩) <;> cases passes
    exact rest
  · have value : (Program.done a).Reaches n false t c w [] (.ok (a, t)) w c := ⟨[], .done, rfl⟩
    exact .on value reaches

/-! ## Up to the next effect -/

/-- What is reached after a queue that is known by its view. -/
def Arrows.View.Reaches (n : Interpreter σ τ F M) (last : Bool) :
    View σ F α γ → α → τ → Setting σ M → σ → List ((β : Type) × F β) →
      Except (Break (Halt σ M)) (γ × τ) → σ → Setting σ M → Prop
  | .last f, a, t, c, w => (f a w).Reaches n last t c
  | .more f rest, a, t, c, w =>
    Onward ((f a w).Reaches n false t c) fun y => rest.Reaches n last y.1 y.2

theorem Arrows.reaches_viewBefore (n : Interpreter σ τ F M) (last : Bool) (t : τ) (c : Setting σ M)
    (w : σ) {α β γ : Type} : (q : Arrows σ F α β) → (rest : Arrows σ F β γ) → (a : α) →
      (q.viewBefore rest).Reaches n last a t c w = (append q rest).Reaches n last a t c w
  | one f, rest, a => by
      simp only [reaches_append, reaches_one]
      rfl
  | append q r, rest, a => by
      rw [viewBefore, reaches_viewBefore n last t c w q (append r rest) a]
      simp only [reaches_append]
      funext l x w' c'
      exact propext Onward.assoc.symm

/-- What a queue makes of a value reaches what the queue reaches there. -/
theorem Arrows.reaches_apply (q : Arrows σ F α γ) (a : α) :
    (q.apply a w).Reaches n last t c = q.Reaches n last a t c w := by
  have view : q.view.Reaches n last a t c w = q.Reaches n last a t c w := by
    cases q with
    | one f => exact (reaches_one f a).symm
    | append q r => exact reaches_viewBefore n last t c w q r a
  refine Eq.trans ?_ view
  unfold Arrows.apply
  rcases q.view with f | ⟨f, rest⟩
  · rfl
  · simp only [View.Reaches]
    rcases f a w with ⟨p, v⟩ | ⟨e, v⟩
    · exact Program.reaches_bound p rest
    · funext l x w' c'
      refine propext ⟨?_, ?_⟩
      · rintro ⟨rfl, rfl, rfl, rfl⟩
        exact .off ⟨rfl, rfl, rfl, rfl⟩
      · rintro (⟨⟨-, ⟨⟩, -, -⟩, -⟩ | ⟨rfl, ⟨⟩, rfl, rfl⟩)
        exact ⟨rfl, rfl, rfl, rfl⟩

/-- A program reaches what its normal form reaches. -/
theorem Program.reaches_normalize (n : Interpreter σ τ F M) (last : Bool) (t : τ) (c : Setting σ M)
    (p : Program σ F α) (w : σ) :
    p.Reaches n last t c w = match p.normalize w with
      | (.ok m, w) => m.toProgram.Reaches n last t c w
      | (.error e, w) => Panics e c w := by
  fun_induction normalize p w with
  | case1 | case2 | case3 => rfl
  | case4 w _ _ p q r ih =>
    rw [← ih]
    simp only [reaches_bound, Arrows.reaches_append]
    funext l x w' c'
    exact propext Onward.assoc
  | case5 w _ a q p w' e ih =>
    rw [← ih, reaches_done_bound, ← Arrows.reaches_apply, e]
    rfl
  | case6 w _ a q e w' h =>
    rw [reaches_done_bound, ← Arrows.reaches_apply, h]
    rfl

end Reaching

/-! ## Reaching one effect after another -/

namespace Program

variable {σ τ : Type} [Observer σ] {F : Type → Type v} {M : Type → Type u} [Halting (Untraced σ) M]
  {α : Type}

/-- A finished program reaches nothing. -/
theorem reaches_done {n : Interpreter (Untraced σ) τ F M} {a : α} {t : τ}
    {c c' : Setting (Untraced σ) M} {w w' : Untraced σ} {l : List ((β : Type) × F β)}
    {x : Except (Break (Halt (Untraced σ) M)) (α × τ)} :
    (done a).Reaches n true t c w l x w' c' ↔ l = [] ∧ x = .ok (a, t) ∧ w' = w ∧ c' = c := by
  constructor
  · rintro ⟨tr, ⟨⟩, rfl⟩
    exact ⟨rfl, rfl, rfl, rfl⟩
  · rintro ⟨rfl, rfl, rfl, rfl⟩
    exact ⟨_, .finished, rfl⟩

/-- A resumed program reaches the effect that it waits for, and then what the rest of it
reaches. -/
theorem reaches_resume (n : Interpreter (Untraced σ) τ F M) (t : τ) (c : Setting (Untraced σ) M)
    (p : Program (Untraced σ) F α) (w : Untraced σ) :
    p.Reaches n true t c w = match p.resume w with
      | (.error e, v) => Panics e c v
      | (.ok (.finished a), v) => (done a).Reaches n true t c v
      | (.ok (.waiting e rest), v) => Onward ((suspend e).Reaches n false t c v)
          fun y c w => (Call.ofRun (rest y.1 w)).Reaches n true y.2 c := by
  rw [reaches_normalize]
  unfold resume
  rcases p.normalize w with ⟨e | a | e | ⟨e, q⟩, v⟩
  · rfl
  · rfl
  · -- nothing is bound after the effect, and its value is handed on
    funext l x w' c'
    refine propext ⟨?_, ?_⟩
    · rintro ⟨tr, passes, rfl⟩
      cases passes with
      | effect applied halted =>
        have effect : (suspend e).Reaches n false t c v [⟨_, e⟩] _ w' c' :=
          ⟨_, .effect applied halted, rfl⟩
        exact .on effect (reaches_done.mpr ⟨rfl, rfl, rfl, rfl⟩)
      | halted applied halted => exact .off ⟨_, .halted applied halted, rfl⟩
      | refused applied => exact .off ⟨_, .refused applied, rfl⟩
    · rintro (⟨⟨tr, passes, rfl⟩, value⟩ | ⟨tr, passes, rfl⟩)
      · obtain ⟨rfl, rfl, rfl, rfl⟩ := reaches_done.mp value
        cases passes with
        | effect applied halted => exact ⟨_, .effect applied halted, rfl⟩
      · cases passes with
        | halted applied halted => exact ⟨_, .halted applied halted, rfl⟩
        | refused applied => exact ⟨_, .refused applied, rfl⟩
  · simp only [Normal.toProgram, Resumed.ofNormal, reaches_bound]
    refine congrArg _ (funext fun y => funext fun c => funext fun w => ?_)
    rw [← Arrows.reaches_apply]
    rcases q.apply y.1 w with ⟨r, u⟩ | ⟨p, u⟩ <;> rfl

end Program

end Resumption
