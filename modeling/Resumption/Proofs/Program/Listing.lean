/-
Listing — the queue of a program as the list of its arrows.

A queue is a tree, and the same arrows can be joined into many trees.  `Arrows.list`
forgets the tree, and `Program.form` is the normal form of a program with its queue as a
list.

| queue or program               | as a list, in normal form                           |
|--------------------------------|-----------------------------------------------------|
| `append a b`                   | the arrows of `a`, then those of `b`                |
| what `append a b` makes of `x` | what `a` makes of `x`, bound to `b`                 |
| a bind to `q`                  | depends on the list of `q` only                     |
-/
import Resumption.Program.Normal

namespace Resumption

universe u v

variable {σ : Type} {F : Type → Type v} {α β γ : Type}

/-- An arrow with the types of the value that it takes and of the program that it makes. -/
abbrev SomeArrow (σ : Type) (F : Type → Type v) : Type (max 1 v) :=
  Σ α β : Type, α → σ → Program.Call σ F β

/-- Binds what an arrow returned to a queue. -/
def Program.Call.boundTo (q : Arrows σ F α β) : Program.Call σ F α → Program.Call σ F β
  | returned p w => .returned (.bound p q) w
  | panicked e w => .panicked e w

namespace Arrows

/-- The arrows of a queue, in the order of their calls. -/
def list {α γ : Type} : Arrows σ F α γ → List (SomeArrow σ F)
  | one f => [⟨_, _, f⟩]
  | append a b => a.list ++ b.list

theorem list_ne_nil {α γ : Type} : (q : Arrows σ F α γ) → q.list ≠ []
  | one _ => List.cons_ne_nil _ _
  | append a _ => List.append_ne_nil_of_left_ne_nil a.list_ne_nil _

/-! ## Views -/

namespace View

/-- The arrows of a queue that is known by its view. -/
def list : View σ F α γ → List (SomeArrow σ F)
  | last f => [⟨_, _, f⟩]
  | more f rest => ⟨_, _, f⟩ :: rest.list

/-- The view of a queue of which another view is known, with a further queue behind it. -/
def before : View σ F α β → Arrows σ F β γ → View σ F α γ
  | last f, b => more f b
  | more f rest, b => more f (append rest b)

/-- Calls the first arrow and binds the program it returns to the others. -/
def call : View σ F α γ → α → σ → Program.Call σ F γ
  | last f, a, w => f a w
  | more f rest, a, w => (f a w).boundTo rest

/-- Both views have the same first arrow, and the same list of arrows after it. -/
inductive Alike : View σ F α γ → View σ F α γ → Prop where
  | last (f : α → σ → Program.Call σ F γ) : Alike (last f) (last f)
  | more {β : Type} (f : α → σ → Program.Call σ F β) {rest rest' : Arrows σ F β γ} :
      rest.list = rest'.list → Alike (more f rest) (more f rest')

theorem list_before (v : View σ F α β) (b : Arrows σ F β γ) :
    (v.before b).list = v.list ++ b.list := by
  cases v <;> rfl

theorem alike_of_list {v v' : View σ F α γ} (h : v.list = v'.list) : v.Alike v' := by
  cases v with
  | last f =>
    cases v' with
    | last g =>
      cases h
      exact .last f
    | more g rest => exact absurd (List.cons.inj h).2.symm rest.list_ne_nil
  | more f rest =>
    cases v' with
    | last g => exact absurd (List.cons.inj h).2 rest.list_ne_nil
    | more g rest' =>
      obtain ⟨first, others⟩ := List.cons.inj h
      cases first
      exact .more f others

end View

theorem list_viewBefore {α β γ : Type} : (q : Arrows σ F α β) → (rest : Arrows σ F β γ) →
    (q.viewBefore rest).list = q.list ++ rest.list
  | one _, _ => rfl
  | append a b, rest => by
    rw [viewBefore, list_viewBefore a, list, list, List.append_assoc]

theorem list_view (q : Arrows σ F α γ) : q.view.list = q.list := by
  cases q with
  | one f => rfl
  | append a b => exact list_viewBefore a b

theorem apply_eq_call (q : Arrows σ F α γ) (a : α) (w : σ) : q.apply a w = q.view.call a w := by
  unfold apply View.call
  cases q.view with
  | last f => rfl
  | more f rest => cases f a w <;> rfl

theorem view_alike {q r : Arrows σ F α γ} (h : q.list = r.list) : q.view.Alike r.view :=
  View.alike_of_list (by rw [list_view, list_view, h])

/-- A joined queue has the first arrow of its front. -/
theorem view_append (a : Arrows σ F α β) (b : Arrows σ F β γ) :
    (append a b).view.Alike (a.view.before b) :=
  View.alike_of_list (by rw [list_view, View.list_before, list_view, list])

end Arrows

/-! ## Normal forms -/

/-- A normal form whose queue is known by its list. -/
inductive Listed (σ : Type) (F : Type → Type v) (α : Type) : Type (max 1 v) where
  | done (a : α)
  | suspend (e : F α)
  | bound {β : Type} (e : F β) (arrows : List (SomeArrow σ F))

/-- Forgets how the tree of the queue is built. -/
def Normal.listed : Normal σ F α → Listed σ F α
  | .done a => .done a
  | .suspend e => .suspend e
  | .bound e q => .bound e q.list

namespace Program

/-- The normal form of a program, with its queue as a list. -/
def form (p : Program σ F α) (w : σ) : Except Panic (Listed σ F α) × σ :=
  ((p.normalize w).1.map Normal.listed, (p.normalize w).2)

/-- The normal form of what an arrow returned. -/
def Call.form : Call σ F α → Except Panic (Listed σ F α) × σ
  | returned p w => p.form w
  | panicked e w => (.error e, w)

theorem form_bound_bound (p : Program σ F α) (q : Arrows σ F α β) (r : Arrows σ F β γ) (w : σ) :
    (bound (bound p q) r).form w = (bound p (.append q r)).form w := by
  rw [form, normalize, form]

theorem form_bound_done (a : α) (q : Arrows σ F α β) (w : σ) :
    (bound (done a) q).form w = (q.apply a w).form := by
  rw [form, normalize]
  rcases q.apply a w with ⟨p, w⟩ | ⟨e, w⟩ <;> rfl

/-- Only the list of its arrows matters in a queue that a program is bound to. -/
theorem form_bound_congr {p : Program σ F α} {q r : Arrows σ F α β} (h : q.list = r.list)
    (w : σ) : (bound p q).form w = (bound p r).form w := by
  -- by induction along the steps of the bind, of which `q` and `r` take the same
  suffices ∀ n : Program σ F β, ∀ {α} (p : Program σ F α) (q r : Arrows σ F α β) (w : σ),
      n = bound p q → q.list = r.list → n.form w = (bound p r).form w from
    this _ p q r w rfl h
  intro n
  induction n using reduces_wf.induction with
  | _ n ih =>
    rintro α p q r w rfl same
    cases p with
    | suspend e =>
      rw [form, form, normalize, normalize]
      exact congrArg (fun l => (Except.ok (Listed.bound e l), w)) same
    | bound p s =>
      rw [form_bound_bound, form_bound_bound]
      refine ih _ .bound p (.append s q) (.append s r) w rfl ?_
      rw [Arrows.list, Arrows.list, same]
    | done a =>
      rw [form_bound_done, form_bound_done]
      have reduces : ∀ p w', q.apply a w = .returned p w' → Reduces p (bound (done a) q) :=
        fun p w' e => .done e
      have alike := Arrows.view_alike same
      rw [Arrows.apply_eq_call] at reduces ⊢
      rw [Arrows.apply_eq_call]
      generalize q.view = v at reduces alike
      generalize r.view = v' at alike
      cases alike with
      | last f => rfl
      | more f rest =>
        dsimp only [Arrows.View.call] at reduces ⊢
        rcases called : f a w with ⟨p, w'⟩ | ⟨e, w'⟩
        · rw [called] at reduces
          exact ih _ (reduces _ w' rfl) p _ _ w' rfl rest
        · rfl

end Program

/-! ## Joining queues -/

namespace Arrows

open Program

/-- A joined queue calls the first arrow of its front; what is left of the front is bound
before the other queue. -/
theorem form_apply_append (a : Arrows σ F α β) (b : Arrows σ F β γ) (x : α) (w : σ) :
    ((append a b).apply x w).form = ((a.apply x w).boundTo b).form := by
  rw [apply_eq_call, apply_eq_call]
  have joined := view_append a b
  generalize (append a b).view = v at joined
  generalize a.view = first at joined
  cases first with
  | last f =>
    cases joined with
    | more _ same =>
      dsimp only [View.call]
      rcases f x w with ⟨p, w'⟩ | ⟨e, w'⟩
      · exact form_bound_congr same w'
      · rfl
  | more f others =>
    cases joined with
    | more _ same =>
      dsimp only [View.call]
      rcases f x w with ⟨p, w'⟩ | ⟨e, w'⟩
      · exact (form_bound_congr same w').trans (form_bound_bound p others b w').symm
      · rfl

end Arrows

end Resumption
