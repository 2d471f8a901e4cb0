/-
Joining — two queues after one another compose what they make of a value.

`Queue.andThen` moves the arrows of the shorter queue, from the back of the first one or
from the front of the second one.  Either way its list is the first list and then the
second, so a call of the joined queue is a call of the first arrow of the first queue, and
the normal form of what it makes is that of what the first queue makes, bound to the
second.

The queues that are bound to programs start from a single arrow and are never empty.  An
effect bound to an empty queue is a normal form too, which goes on like the effect alone;
`Normal.trimmed` does not tell them apart.  With a second queue that is not empty there is
nothing to trim.

The queues of `Program` are trees, joined by a node, and compose in the same way.
-/
import Resumption.Erased.Normal
import Resumption.Proofs.Program.Listing

namespace Resumption

universe v

variable {σ : Type} {F : Type → Type v} {Ty : Type} {El : Ty → Type} [DecidableEq Ty]

namespace Erased

/-- What the call of a queue ends with: an erased program or a fault, in some world. -/
abbrev Made (σ : Type) (F : Type → Type v) {Ty : Type} (El : Ty → Type) : Type (max 1 v) :=
  Except Fault (Erased σ F El) × σ

namespace Made

/-- Binds what a queue made to another queue. -/
def boundTo (b : Queue σ F El) (m : Made σ F El) : Made σ F El :=
  (m.1.map (bound · b), m.2)

/-- The normal form of what a queue made. -/
def normalized : Made σ F El → Except Fault (Normal σ F El) × σ
  | (.ok p, w) => p.normalize w
  | (.error e, w) => (.error e, w)

end Made

/-- Takes an effect bound to an empty queue for the effect. -/
def Normal.trimmed : Normal σ F El → Normal σ F El
  | .bound e [] => .suspend e
  | n => n

/-- The normal form of what a queue made, up to an empty queue. -/
def Made.trimmed (m : Made σ F El) : Except Fault (Normal σ F El) × σ :=
  (m.normalized.1.map Normal.trimmed, m.normalized.2)

/-! ## Normalizing a bind -/

theorem normalize_bound_bound (p : Erased σ F El) (q r : Queue σ F El) (w : σ) :
    (bound (bound p q) r).normalize w = (bound p (q ++ r)).normalize w := by
  rw [normalize, Queue.andThen_eq]

theorem normalize_bound_done (v : Boxed El) (q : Queue σ F El) (w : σ) :
    (bound (done v) q).normalize w = Made.normalized (q.apply v w) := by
  rw [normalize]
  rcases q.apply v w with ⟨e | p, w⟩ <;> rfl

/-- Bound to an empty queue, a program normalizes as it does alone. -/
theorem trimmed_bound_nil (p : Erased σ F El) (w : σ) :
    Made.trimmed (.ok (bound p []), w) = Made.trimmed (.ok p, w) := by
  cases p with
  | suspend e =>
    rw [Made.trimmed, Made.trimmed, Made.normalized, Made.normalized, normalize, normalize]
    rfl
  | bound p q =>
    rw [Made.trimmed, Made.trimmed, Made.normalized, Made.normalized, normalize_bound_bound,
      List.append_nil]
  | done v =>
    rw [Made.trimmed, Made.trimmed, Made.normalized, Made.normalized, normalize_bound_done]
    rfl

namespace Queue

/-! ## Joined queues -/

omit [DecidableEq Ty] in
theorem andThen_assoc (a b c : Queue σ F El) :
    Queue.andThen (a.andThen b) c = a.andThen (b.andThen c) := by
  simp only [andThen_eq, List.append_assoc]

/-- A joined queue calls the first arrow of the first queue and nothing else. -/
theorem apply_andThen (f : Arrow σ F El) (q b : Queue σ F El) (v : Boxed El) (w : σ) :
    (Queue.andThen (f :: q) b).apply v w =
      ((f.run v w).1.map (resting · (q ++ b)), (f.run v w).2) := by
  rw [andThen_eq, List.cons_append, apply_cons]

/-- What is left of the first queue is bound before the second one. -/
theorem normalize_resting (p : Erased σ F El) (q : Queue σ F El) {b : Queue σ F El} (hb : b ≠ [])
    (w : σ) : (resting p (q ++ b)).normalize w = (bound (resting p q) b).normalize w := by
  obtain ⟨g, r, rfl⟩ := List.exists_cons_of_ne_nil hb
  cases q with
  | nil => rfl
  | cons f q => exact (normalize_bound_bound p (f :: q) (g :: r) w).symm

/-- With a second queue that is not empty, the normal forms are equal. -/
theorem normalized_andThen (a : Queue σ F El) {b : Queue σ F El} (hb : b ≠ []) (v : Boxed El)
    (w : σ) :
    Made.normalized ((a.andThen b).apply v w) = ((Made.boundTo b (a.apply v w)).normalized) := by
  cases a with
  | nil =>
    rw [andThen_eq]
    exact (normalize_bound_done v b w).symm
  | cons f q =>
    rw [apply_andThen, apply_cons]
    rcases f.run v w with ⟨e | p, w⟩
    · rfl
    · exact normalize_resting p q hb w

/-- For every two queues, the normal forms are equal up to an empty queue. -/
theorem trimmed_andThen (a b : Queue σ F El) (v : Boxed El) (w : σ) :
    Made.trimmed ((a.andThen b).apply v w) = (Made.boundTo b (a.apply v w)).trimmed := by
  cases b with
  | nil =>
    rw [andThen_eq, List.append_nil]
    rcases a.apply v w with ⟨e | p, w⟩
    · rfl
    · exact (trimmed_bound_nil p w).symm
  | cons g r => rw [Made.trimmed, Made.trimmed, normalized_andThen a (List.cons_ne_nil g r)]

end Queue

end Erased

/-! ## Composition -/

open Resumption.Erased in
/-- Joining queues is composition, for queues of any length.  The joined queue has the
arrows of the first and then those of the second; it calls the first arrow of the first
queue, with the others left; and what it makes of a value has the normal form of what the
first queue makes of it, bound to the second.  So joining is associative.

The same for the queues of programs with types, whose normal forms are compared with their
queues as lists. -/
theorem queues_compose :
    (∀ a b : Queue σ F El, a.andThen b = a ++ b) ∧
    (∀ (f : Arrow σ F El) (q b : Queue σ F El) (v : Boxed El) (w : σ),
      (Queue.andThen (f :: q) b).apply v w =
        ((f.run v w).1.map (Queue.resting · (q ++ b)), (f.run v w).2)) ∧
    (∀ (a : Queue σ F El) (g : Arrow σ F El) (r : Queue σ F El) (v : Boxed El) (w : σ),
      Made.normalized ((a.andThen (g :: r)).apply v w) =
        (Made.boundTo (g :: r) (a.apply v w)).normalized) ∧
    (∀ (a b : Queue σ F El) (v : Boxed El) (w : σ),
      Made.trimmed ((a.andThen b).apply v w) = (Made.boundTo b (a.apply v w)).trimmed) ∧
    (∀ a b c : Queue σ F El, Queue.andThen (a.andThen b) c = a.andThen (b.andThen c)) ∧
    (∀ {α β γ : Type} (a : Arrows σ F α β) (b : Arrows σ F β γ),
      (Arrows.append a b).list = a.list ++ b.list ∧
      (Arrows.append a b).view.Alike (a.view.before b) ∧
      ∀ x w, ((Arrows.append a b).apply x w).form = ((a.apply x w).boundTo b).form) :=
  ⟨Queue.andThen_eq, Queue.apply_andThen,
    fun a g r => Queue.normalized_andThen a (List.cons_ne_nil g r), Queue.trimmed_andThen,
    Queue.andThen_assoc,
    fun a b => ⟨rfl, Arrows.view_append a b, Arrows.form_apply_append a b⟩⟩

end Resumption
