/-
Descent — a program comes to its end by ever simpler programs.

`Program.Reduces p' p` says that `p'` is what `p` turns into by one step: its
source handed a value to the first arrow, or a bind in the source position was
turned over onto the queue.  There is no infinite sequence of such steps,
because programs are built from below: `Program.reduces_wf`.

| program                   | reduces to                                 |
|---------------------------|--------------------------------------------|
| a bind of `done a`        | what the first arrow makes of `a`          |
| a bind of `suspend e`     | what it makes of any value of the effect   |
| a bind of `bound p q`     | `p` bound to `q` and then the outer queue  |
-/
import Resumption.Program.Basic

namespace Resumption

universe u v

variable {σ : Type} {F : Type → Type v} {α β γ : Type}

namespace Program

/-- One step in the life of a program. -/
inductive Reduces : {γ : Type} → Program σ F γ → Program σ F γ → Prop where
  | done {α γ : Type} {a : α} {q : Arrows σ F α γ} {p : Program σ F γ} {w w' : σ} :
      q.apply a w = .returned p w' → Reduces p (bound (done a) q)
  | suspend {α γ : Type} {e : F α} {a : α} {q : Arrows σ F α γ} {p : Program σ F γ} {w w' : σ} :
      q.apply a w = .returned p w' → Reduces p (bound (suspend e) q)
  | bound {α β γ : Type} {p : Program σ F α} {q : Arrows σ F α β} {r : Arrows σ F β γ} :
      Reduces (bound p (.append q r)) (bound (bound p q) r)

/-! ## There is no infinite descent -/

/-- All that the queue makes of a value comes to an end. -/
def Settles (q : Arrows σ F α γ) : Prop :=
  ∀ {a : α} {w w' : σ} {p : Program σ F γ}, q.apply a w = .returned p w' → Acc Reduces p

/-- The program comes to an end, alone and before every queue that settles. -/
def Ends (p : Program σ F α) : Prop :=
  Acc Reduces p ∧ ∀ {γ : Type} (q : Arrows σ F α γ), Settles q → Acc Reduces (bound p q)

theorem acc_of_settles_done {q : Arrows σ F α γ} (a : α) (h : Settles q) :
    Acc Reduces (bound (done a) q) :=
  .intro _ fun _ r => by cases r with | done e => exact h e

theorem acc_of_settles_suspend {q : Arrows σ F α γ} (e : F α) (h : Settles q) :
    Acc Reduces (bound (suspend e) q) :=
  .intro _ fun _ r => by cases r with | suspend e => exact h e

theorem settles_one {f : α → σ → Call σ F γ} (h : ∀ a w p w', f a w = .returned p w' → Ends p) :
    Settles (.one f) :=
  fun {_ _ _ _} e => (h _ _ _ _ e).1

theorem settles_append_one {f : α → σ → Call σ F β} {r : Arrows σ F β γ}
    (h : ∀ a w p w', f a w = .returned p w' → Ends p) (hr : Settles r) :
    Settles (.append (.one f) r) := by
  intro a w w' p e
  simp only [Arrows.apply, Arrows.view, Arrows.viewBefore] at e
  split at e
  · rename_i p₀ w₀ hf
    cases e
    exact (h _ _ _ _ hf).2 r hr
  · cases e

/-- Every program ends. -/
theorem ends (p : Program σ F α) : Ends p := by
  refine Program.rec
    (motive_1 := fun _ p => Ends p)
    (motive_2 := fun α β q => Settles q ∧
      ∀ {γ : Type} (r : Arrows σ F β γ), Settles r → Settles (Arrows.append q r))
    (motive_3 := fun _ c => ∀ p w, c = .returned p w → Ends p)
    ?_ ?_ ?_ ?_ ?_ ?_ ?_ p
  · exact fun a => ⟨.intro _ (fun _ r => by cases r), fun q => acc_of_settles_done a⟩
  · exact fun e => ⟨.intro _ (fun _ r => by cases r), fun q => acc_of_settles_suspend e⟩
  · intro α β p q ihp ihq
    refine ⟨ihp.2 q ihq.1, fun r hr => .intro _ fun _ h => ?_⟩
    cases h with
    | bound => exact ihp.2 _ (ihq.2 r hr)
  · intro α β f ih
    have h : ∀ a w p w', f a w = .returned p w' → Ends p := fun a w p w' e => ih a w p w' e
    exact ⟨settles_one h, fun r hr => settles_append_one h hr⟩
  · intro α β γ a b iha ihb
    exact ⟨iha.2 b ihb.1, fun r hr => iha.2 _ (ihb.2 r hr)⟩
  · intro α p w ih p' w' e
    cases e
    exact ih
  · intro α p w p' w' e
    cases e

/-- No program reduces forever. -/
theorem reduces_wf : WellFounded (Reduces (σ := σ) (F := F) (γ := γ)) :=
  ⟨fun p => (ends p).1⟩

end Program

end Resumption
