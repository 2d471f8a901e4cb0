/-
Normal — an erased program up to its next effect.

Normalizing takes one step after another: a bind in the source position is turned over
onto the queue, and a finished source hands its value to the first arrow.  There is no
infinite sequence of such steps (`Erased.reduces_wf`), since programs are built from
below.

| erased program            | goes on as                                    |
|---------------------------|-----------------------------------------------|
| a bind of `bound p q`     | `p` bound to `q` and then the outer queue     |
| a bind of `done v`        | what the queue makes of `v`                   |
| any other one             | itself: it is normal                          |
-/
import Resumption.Erased.Basic

namespace Resumption

universe u v

variable {σ : Type} {F : Type → Type v} {Ty : Type} {El : Ty → Type}

namespace Erased

variable [DecidableEq Ty]

/-- One step in the life of an erased program. -/
inductive Reduces : Erased σ F El → Erased σ F El → Prop where
  | done {v : Boxed El} {q : Queue σ F El} {p : Erased σ F El} {w w' : σ} :
      q.apply v w = (.ok p, w') → Reduces p (bound (done v) q)
  | suspend {e : F (Boxed El)} {v : Boxed El} {q : Queue σ F El} {p : Erased σ F El} {w w' : σ} :
      q.apply v w = (.ok p, w') → Reduces p (bound (suspend e) q)
  | bound {p : Erased σ F El} {q r : Queue σ F El} :
      Reduces (bound p (q.andThen r)) (bound (bound p q) r)

/-! ## There is no infinite descent -/

/-- All that the queue makes of a value comes to an end. -/
def Settles (q : Queue σ F El) : Prop :=
  ∀ v w p w', q.apply v w = (.ok p, w') → Acc Reduces p

/-- The program comes to an end, alone and before every queue that settles. -/
def Ends (p : Erased σ F El) : Prop :=
  Acc Reduces p ∧ ∀ q : Queue σ F El, Settles q → Acc Reduces (bound p q)

/-- All that the arrow makes of a value comes to an end. -/
def Arrow.Ends (f : Arrow σ F El) : Prop :=
  ∀ v w p w', f.run v w = (.ok p, w') → p.Ends

theorem acc_done (v : Boxed El) : Acc Reduces (done v : Erased σ F El) :=
  .intro _ fun _ r => nomatch r

theorem settles_nil : Settles ([] : Queue σ F El) := by
  intro v w p w' e
  cases e
  exact acc_done v

theorem settles_cons {f : Arrow σ F El} {q : Queue σ F El} (hf : f.Ends) (hq : Settles q) :
    Settles (f :: q) := by
  intro v w p w' e
  rw [Queue.apply_cons] at e
  rcases returned : f.run v w with ⟨p₀ | e₀, w₀⟩ <;> rw [returned] at e <;> cases e
  have ends := hf _ _ _ _ returned
  cases q with
  | nil => exact ends.1
  | cons g q => exact ends.2 _ hq

/-- An arrow that makes a program was called on the value in the box. -/
theorem Arrow.exists_of_run {takes makes : Ty} {closure : El takes → σ → Call σ F El}
    {v : Boxed El} {w w' : σ} {p : Erased σ F El}
    (h : (Arrow.mk takes makes closure).run v w = (.ok p, w')) :
    ∃ a, closure a w = .returned p w' := by
  rw [Arrow.run] at h
  rcases revealed : reveal takes v with e₀ | a <;> rw [revealed] at h
  · cases h
  · dsimp only at h
    rcases called : closure a w with ⟨p₀, w₀⟩ | ⟨e₀, w₀⟩ <;> rw [called] at h <;> cases h
    exact ⟨a, called⟩

theorem ends_of_closure {takes makes : Ty} {closure : El takes → σ → Call σ F El}
    (h : ∀ a w p w', closure a w = .returned p w' → p.Ends) :
    (Arrow.mk takes makes closure).Ends := by
  intro v w p w' e
  obtain ⟨a, called⟩ := Arrow.exists_of_run e
  exact h _ _ _ _ called

/-- Every erased program ends. -/
theorem ends (p : Erased σ F El) : Ends p := by
  refine Erased.rec
    (motive_1 := fun p => Ends p)
    (motive_2 := fun f => f.Ends)
    (motive_3 := fun c => ∀ p w, c = .returned p w → Ends p)
    (motive_4 := fun q => ∀ r, Settles r → Settles (q ++ r))
    ?_ ?_ ?_ ?_ ?_ ?_ ?_ ?_ p
  · refine fun v => ⟨acc_done v, fun q hq => .intro _ fun _ r => ?_⟩
    cases r with
    | done e => exact hq _ _ _ _ e
  · refine fun e => ⟨.intro _ fun _ r => (nomatch r), fun q hq => .intro _ fun _ r => ?_⟩
    cases r with
    | suspend e => exact hq _ _ _ _ e
  · intro p q ihp ihq
    have settles : Settles q := by
      have alone := ihq [] settles_nil
      rwa [List.append_nil] at alone
    refine ⟨ihp.2 q settles, fun r hr => .intro _ fun _ h => ?_⟩
    cases h with
    | bound =>
      rw [Queue.andThen_eq]
      exact ihp.2 _ (ihq r hr)
  · exact fun takes makes closure ih => ends_of_closure fun a w p w' e => ih a w p w' e
  · intro p w ih p' w' e
    cases e
    exact ih
  · intro p w p' w' e
    cases e
  · exact fun r hr => hr
  · exact fun f q ihf ihq r hr => settles_cons ihf (ihq r hr)

/-- No erased program reduces forever. -/
theorem reduces_wf : WellFounded (Reduces : Erased σ F El → Erased σ F El → Prop) :=
  ⟨fun p => (ends p).1⟩

/-! ## Normal forms -/

/-- An erased program with no bind and no finished program in source position. -/
inductive Normal (σ : Type) (F : Type → Type v) {Ty : Type} (El : Ty → Type) : Type (max 1 v) where
  | done (value : Boxed El)
  | suspend (effect : F (Boxed El))
  | bound (effect : F (Boxed El)) (queue : Queue σ F El)

/-- A normal form as an erased program. -/
def Normal.toErased : Normal σ F El → Erased σ F El
  | done v => .done v
  | suspend e => .suspend e
  | bound e q => .bound (.suspend e) q

/-- One step after another until the program is normal. -/
def normalize (p : Erased σ F El) (w : σ) : Except Fault (Normal σ F El) × σ :=
  match p with
  | .done v => (.ok (.done v), w)
  | .suspend e => (.ok (.suspend e), w)
  | .bound (.suspend e) q => (.ok (.bound e q), w)
  | .bound (.bound p q) r => normalize (.bound p (Queue.andThen q r)) w
  | .bound (.done v) q =>
    match _h : Queue.apply q v w with
    | (.ok p, w) => normalize p w
    | (.error e, w) => (.error e, w)
termination_by reduces_wf.wrap p
decreasing_by
  · exact .bound
  · exact .done _h

/-- Calls the arrows before the next effect. -/
def step (p : Erased σ F El) (w : σ) : Except Fault (Erased σ F El) × σ :=
  ((p.normalize w).1.map Normal.toErased, (p.normalize w).2)

/-- How an erased program goes on: it is finished, or it waits for an effect whose value
yields the rest of it. -/
inductive Resumed (σ : Type) (F : Type → Type v) {Ty : Type} (El : Ty → Type) (t : Ty) :
    Type (max 1 v) where
  | finished (a : El t)
  | waiting (effect : F (Boxed El)) (rest : Boxed El → σ → Except Fault (Erased σ F El) × σ)

/-- A normal form as what it waits for; a value is revealed. -/
def Resumed.ofNormal (t : Ty) : Normal σ F El → Except Fault (Resumed σ F El t)
  | .done v => (reveal t v).map .finished
  | .suspend e => .ok (.waiting e fun v w => (.ok (.done v), w))
  | .bound e q => .ok (.waiting e q.apply)

/-- Advances an erased program of the type `t` to its next effect. -/
def resume (t : Ty) (p : Erased σ F El) (w : σ) : Except Fault (Resumed σ F El t) × σ :=
  ((p.normalize w).1.bind (Resumed.ofNormal t), (p.normalize w).2)

/-! ## Descent across effects -/

/-- The first program is left of the second after one or more steps. -/
def Follows (p q : Erased σ F El) : Prop :=
  Relation.TransGen Reduces p q

theorem follows_wf : WellFounded (Follows : Erased σ F El → Erased σ F El → Prop) :=
  reduces_wf.transGen

/-- What is left after the effect of the normal form is left of the program. -/
theorem follows_of_normalize {p : Erased σ F El} {w w' : σ} {e : F (Boxed El)}
    {q : Queue σ F El} (h : p.normalize w = (.ok (.bound e q), w')) {v : Boxed El} {u u' : σ}
    {r : Erased σ F El} (hr : q.apply v u = (.ok r, u')) : Follows r p := by
  fun_induction normalize p w with
  | case1 | case2 => cases h
  | case3 w e q => cases h; exact .single (.suspend hr)
  | case4 w p q r ih => exact (ih h).tail .bound
  | case5 w v q p w' e ih => exact (ih h).tail (.done e)
  | case6 => cases h

end Erased

end Resumption
