/-
Named — what a closure returns, by name.

The values of a computation are small, and some of what the library passes through
computations is not: a program that is the value of an effect, the state of a loop that
goes round from a program.  Such a thing goes by a name: the argument and the world of the
call that returned it.

| operation    | does                                                 |
|--------------|------------------------------------------------------|
| `call k b`   | calls the closure and names what it returns          |
| `get i`      | what was returned under the name                     |
-/
import Resumption.Host

namespace Resumption

universe u v w x

/-- What a closure returns, by name: its argument, and the world that it is called in. -/
def Named {σ β : Type} {X : Type u} (k : β → Host σ X) : Type :=
  {i : β × σ // ∃ x v, k i.1 i.2 = (.ok x, v)}

namespace Named

section Calling

variable {σ β : Type} {X : Type u} {k : β → Host σ X}

/-- What was returned under the name. -/
def get (i : Named k) : X :=
  match h : k i.1.1 i.1.2 with
  | (.ok x, _) => x
  | (.error _, _) => absurd i.2 fun ⟨_, _, e⟩ => nomatch h.symm.trans e

/-- Calls the closure and names what it returns. -/
def call (k : β → Host σ X) (b : β) : Host σ (Named k) := fun w =>
  match h : k b w with
  | (.ok x, v) => (.ok ⟨(b, w), x, v, h⟩, v)
  | (.error p, v) => (.error p, v)

theorem get_eq {b : β} {w v : σ} {x : X} (named : ∃ x v, k b w = (.ok x, v))
    (h : k b w = (.ok x, v)) : get (k := k) ⟨(b, w), named⟩ = x := by
  unfold get
  split <;> rename_i e <;> cases h.symm.trans e
  rfl

theorem call_eq {b : β} {w v : σ} {x : X} (h : k b w = (.ok x, v)) :
    call k b w = (.ok ⟨(b, w), x, v, h⟩, v) := by
  unfold call
  split <;> rename_i e <;> cases h.symm.trans e
  rfl

theorem call_ok {b : β} {w v : σ} {x : X} (h : k b w = (.ok x, v)) :
    ∃ i, call k b w = (.ok i, v) ∧ i.get = x :=
  ⟨_, call_eq h, get_eq _ h⟩

theorem call_error {b : β} {w v : σ} {p : Panic} (h : k b w = (.error p, v)) :
    call k b w = (.error p, v) := by
  unfold call
  split <;> rename_i e <;> cases h.symm.trans e
  rfl

theorem of_call_ok {b : β} {w v : σ} {i : Named k} (h : call k b w = (.ok i, v)) :
    k b w = (.ok i.get, v) := by
  rcases e : k b w with ⟨p | x, u⟩
  · cases (call_error e).symm.trans h
  · obtain ⟨j, called, got⟩ := call_ok e
    cases called.symm.trans h
    rw [got]

theorem of_call_error {b : β} {w v : σ} {p : Panic} (h : call k b w = (.error p, v)) :
    k b w = (.error p, v) := by
  rcases e : k b w with ⟨p | x, u⟩
  · cases (call_error e).symm.trans h
    rfl
  · obtain ⟨j, called, -⟩ := call_ok e
    cases called.symm.trans h

/-- Going by names is going on with what the closure returns. -/
theorem call_bind {Y : Type v} (l : X → Host σ Y) (b : β) :
    ((call k b).bind fun i => l i.get) = (k b).bind l := by
  funext w
  unfold Host.bind
  rcases h : k b w with ⟨p | x, v⟩
  · rw [call_error h]
  · obtain ⟨i, called, got⟩ := call_ok h
    rw [called, ← got]

end Calling

/-! ## Closures that return alike -/

section Alike

variable {σ β : Type} {X : Type u} {X' : Type v} {Y : Type w} {Z : Sort x}

/-- Names of the same pairs, called alike and read alike, are as good as each other. -/
theorem build_names {P Q : β × σ → Prop} (build : (ι : Type) → (β → Host σ ι) → (ι → Y) → Z)
    {c : β → Host σ (Subtype P)} {c' : β → Host σ (Subtype Q)} {g : Subtype P → Y}
    {g' : Subtype Q → Y} (names : ∀ i, P i ↔ Q i)
    (called : ∀ b w, (∃ p v, c b w = (.error p, v) ∧ c' b w = (.error p, v)) ∨
      ∃ i j v, c b w = (.ok i, v) ∧ c' b w = (.ok j, v) ∧ i.1 = j.1)
    (read : ∀ i j, i.1 = j.1 → g i = g' j) : build (Subtype P) c g = build (Subtype Q) c' g' := by
  obtain rfl : P = Q := funext fun i => propext (names i)
  obtain rfl : g = g' := funext fun i => read i i rfl
  refine congrArg (build _ · g) (funext fun b => funext fun w => ?_)
  rcases called b w with ⟨p, v, left, right⟩ | ⟨i, j, v, left, right, same⟩
  · exact left.trans right.symm
  · obtain rfl : i = j := Subtype.ext same
    exact left.trans right.symm

/-- What is built from the names of a closure and from what is shown under them is built so
from every closure that shows the same. -/
theorem build_congr {k : β → Host σ X} {k' : β → Host σ X'} {l : X → Y} {l' : X' → Y}
    (same : ∀ b, (k b).map l = (k' b).map l')
    (build : (ι : Type) → (β → Host σ ι) → (ι → Y) → Z) :
    build (Named k) (call k) (fun i => l i.get) = build (Named k') (call k') fun i => l' i.get := by
  have ends b w : (∃ p v, k b w = (.error p, v) ∧ k' b w = (.error p, v)) ∨
      ∃ x x' v, k b w = (.ok x, v) ∧ k' b w = (.ok x', v) ∧ l x = l' x' := by
    have shown := congrFun (same b) w
    unfold Host.map Host.bind Host.pure at shown
    rcases left : k b w with ⟨p | x, v⟩ <;> rcases right : k' b w with ⟨p' | x', v'⟩ <;>
      rw [left, right] at shown <;> simp only [Prod.mk.injEq, Except.error.injEq, Except.ok.injEq,
        reduceCtorEq, false_and] at shown <;> obtain ⟨shown, rfl⟩ := shown
    · exact .inl ⟨p, v, rfl, by rw [shown]⟩
    · exact .inr ⟨x, x', v, rfl, rfl, shown⟩
  refine build_names build (fun i => ?_) (fun b w => ?_) fun i j named => ?_
  · rcases ends i.1 i.2 with ⟨p, v, left, right⟩ | ⟨x, x', v, left, right, -⟩ <;>
      rw [left, right] <;> simp
  · rcases ends b w with ⟨p, v, left, right⟩ | ⟨x, x', v, left, right, -⟩
    · exact .inl ⟨p, v, call_error left, call_error right⟩
    · exact .inr ⟨⟨(b, w), x, v, left⟩, ⟨(b, w), x', v, right⟩, v, call_eq left, call_eq right, rfl⟩
  · obtain ⟨⟨b, w⟩, x, v, left⟩ := i
    obtain ⟨_, x', v', right⟩ := j
    cases named
    rcases ends b w with ⟨p, v, none, -⟩ | ⟨y, y', u, one, other, shown⟩
    · cases none.symm.trans left
    · exact (congrArg l (get_eq _ one)).trans (shown.trans (congrArg l' (get_eq _ other)).symm)

end Alike

end Named

end Resumption
