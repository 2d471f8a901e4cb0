/-
Erased — programs kept as plain data, in which no type shows.

A program hides the types of its intermediate values, and a representation by plain
data has to forget them: a value is boxed, with an id of its type, and a queue is a
sequence of arrows from boxed values to erased programs.  Whoever takes a boxed value
says which type he expects, and finds out whether it is the one.

`Program` is the same with the types left in, and there nothing can go wrong.

| in a program       | in an erased program                                       |
|--------------------|------------------------------------------------------------|
| a value `a`        | `⟨t, a⟩`, with the id `t` of its type                      |
| an arrow           | an arrow that opens the box it is given                    |
| a tree of arrows   | a sequence of them, from the first one to the last         |

Types are given by ids: `El t` is the type with the id `t`, and ids can be compared.
-/
import Resumption.Program.Interpreter

namespace Resumption

universe u v

/-- A value that hides its type, of which only the id is kept. -/
structure Boxed {Ty : Type} (El : Ty → Type) where
  type : Ty
  value : El type

mutual

/-- A computation over the effect `F` whose values are boxed. -/
inductive Erased (σ : Type) (F : Type → Type v) {Ty : Type} (El : Ty → Type) : Type (max 1 v) where
  | done (value : Boxed El) : Erased σ F El
  | suspend (effect : F (Boxed El)) : Erased σ F El
  | bound (source : Erased σ F El) (queue : List (Erased.Arrow σ F El)) : Erased σ F El

/-- An arrow: the type that it takes values of, the type of the program that it makes,
and its closure. -/
inductive Erased.Arrow (σ : Type) (F : Type → Type v) {Ty : Type} (El : Ty → Type) : Type (max 1 v) where
  | mk (takes makes : Ty) (closure : El takes → σ → Erased.Call σ F El) : Erased.Arrow σ F El

/-- How the call of a closure ends: with a program or with a panic, in some world. -/
inductive Erased.Call (σ : Type) (F : Type → Type v) {Ty : Type} (El : Ty → Type) : Type (max 1 v) where
  | returned (p : Erased σ F El) (world : σ) : Erased.Call σ F El
  | panicked (p : Panic) (world : σ) : Erased.Call σ F El

end

namespace Erased

/-- How the advance of an erased program goes wrong: a closure panics, or a box holds a
value of another type than the expected one. -/
inductive Fault where
  | panicked (p : Panic)
  | mismatch
deriving DecidableEq

/-- The panic of a fault. -/
def Fault.panic : Fault → Panic
  | panicked p => p
  | mismatch => .text "Type mismatch in program continuation"

variable {σ : Type} {F : Type → Type v} {Ty : Type} {El : Ty → Type}

/-! ## Calls -/

namespace Call

/-- The call that a closure's run amounts to. -/
def ofRun : Except Panic (Erased σ F El) × σ → Call σ F El
  | (.ok p, w) => returned p w
  | (.error p, w) => panicked p w

/-- The advance that a call amounts to. -/
def advance : Call σ F El → Except Fault (Erased σ F El) × σ
  | returned p w => (.ok p, w)
  | panicked p w => (.error (.panicked p), w)

end Call

/-- The type that an arrow takes values of. -/
def Arrow.takes : Arrow σ F El → Ty
  | .mk takes _ _ => takes

/-- The type of the program that an arrow makes. -/
def Arrow.makes : Arrow σ F El → Ty
  | .mk _ makes _ => makes

section Opening

variable [DecidableEq Ty]

/-- The value in the box, if it has the expected type. -/
def reveal (t : Ty) (v : Boxed El) : Except Fault (El t) :=
  if same : v.type = t then .ok (same ▸ v.value) else .error .mismatch

/-- Opens the box and calls the closure. -/
def Arrow.run : Arrow σ F El → Boxed El → σ → Except Fault (Erased σ F El) × σ
  | .mk takes _ closure, v, w =>
    match reveal takes v with
    | .ok a => (closure a w).advance
    | .error e => (.error e, w)

end Opening

/-! ## Queues -/

/-- Arrows, the first one in front. -/
abbrev Queue (σ : Type) (F : Type → Type v) {Ty : Type} (El : Ty → Type) : Type (max 1 v) :=
  List (Arrow σ F El)

namespace Queue

/-- Moves the arrows of the first queue to the front of the second one, the last one first. -/
def moveBack (a b : Queue σ F El) : Queue σ F El :=
  match _last : a.getLast? with
  | none => b
  | some f => moveBack a.dropLast (f :: b)
termination_by a.length
decreasing_by
  have some : a ≠ [] := by
    rintro rfl
    cases _last
  rw [List.length_dropLast]
  exact Nat.sub_lt (List.length_pos_iff.mpr some) Nat.one_pos

/-- One queue after the other; the arrows of the shorter one are moved. -/
def andThen (a b : Queue σ F El) : Queue σ F El :=
  if a.length ≤ b.length then a.moveBack b else a ++ b

/-- Binds what an arrow returned to the arrows after it, if there are any. -/
def resting (p : Erased σ F El) : Queue σ F El → Erased σ F El
  | [] => p
  | f :: q => .bound p (f :: q)

/-- Calls the first arrow and binds the program it returns to the others. -/
def apply [DecidableEq Ty] : Queue σ F El → Boxed El → σ → Except Fault (Erased σ F El) × σ
  | [], v, w => (.ok (.done v), w)
  | f :: q, v, w =>
    match f.run v w with
    | (.ok p, w) => (.ok (resting p q), w)
    | (.error e, w) => (.error e, w)

theorem apply_cons [DecidableEq Ty] (f : Arrow σ F El) (q : Queue σ F El) (v : Boxed El) (w : σ) :
    (Queue.apply (f :: q) v w) = ((f.run v w).1.map (resting · q), (f.run v w).2) := by
  rw [Queue.apply]
  rcases f.run v w with ⟨e | p, w⟩ <;> rfl

theorem moveBack_eq (a b : Queue σ F El) : a.moveBack b = a ++ b := by
  fun_induction moveBack a b with
  | case1 a b last =>
    rw [List.getLast?_eq_none_iff.mp last]
    rfl
  | case2 a b f last ih =>
    obtain ⟨front, rfl⟩ := List.getLast?_eq_some_iff.mp last
    rw [ih, List.dropLast_concat, List.append_assoc, List.singleton_append]

/-- Whichever queue is moved, the arrows of the first one come first, in their order. -/
theorem andThen_eq (a b : Queue σ F El) : a.andThen b = a ++ b := by
  unfold andThen
  split
  · exact moveBack_eq a b
  · rfl

end Queue

/-! ## Building -/

/-- A finished program of the type `t`. -/
def pure (t : Ty) (a : El t) : Erased σ F El :=
  done ⟨t, a⟩

/-- A single effect with a value of the type `t`. -/
def lift [Mappable σ F] (t : Ty) (e : F (El t)) : Host σ (Erased σ F El) :=
  (Mappable.map e fun a => Host.pure (σ := σ) (Boxed.mk t a)).map suspend

/-- A single step of a smaller effect. -/
def inject {G : Type → Type u} [Mappable σ F] (i : Injection G F) (t : Ty) (e : G (El t)) :
    Host σ (Erased σ F El) :=
  lift t (i.inject e)

/-- Goes on from a value of the type `s` with the program of the type `t` that `k` makes. -/
def bind (s t : Ty) (p : Erased σ F El) (k : El s → Host σ (Erased σ F El)) : Erased σ F El :=
  bound p [.mk s t fun a w => .ofRun (k a w)]

/-- Builds the rest only when it is reached.  A value of the type `u` stands for nothing. -/
def defer (u t : Ty) (nothing : El u) (h : Host σ (Erased σ F El)) : Erased σ F El :=
  bind u t (pure u nothing) fun _ => h

/-- Transforms the value. -/
def map (s t : Ty) (p : Erased σ F El) (f : El s → Host σ (El t)) : Erased σ F El :=
  bind s t p fun a => (f a).map (pure t)

/-- Runs a second program after the first, whose value is dropped. -/
def andThen (s t : Ty) (p q : Erased σ F El) : Erased σ F El :=
  bind s t p fun _ => .pure q

/-- Runs two programs in order and combines their values. -/
def map2 (r s t : Ty) (p q : Erased σ F El) (f : El r → El s → Host σ (El t)) : Erased σ F El :=
  bind r t p fun a => .pure (map s t q (f a))

/-- Discards the value. -/
def void (s u : Ty) (nothing : El u) (p : Erased σ F El) : Erased σ F El :=
  map s u p fun _ => .pure nothing

/-- Goes round from a state, at most `rounds` times.  The value of a round tells the next
state or the result.  The first round is built at once, and each later one when the program
reaches it. -/
def tailRec {S : Type} (s t : Ty) (told : El s → Either S (El t))
    (step : S → Host σ (Erased σ F El)) : (rounds : Nat) → S → Host σ (Erased σ F El)
  | 0, _ => .panic outOfRounds
  | rounds + 1, x => (step x).map fun p => bind s t p fun a => match told a with
    | .left y => tailRec s t told step rounds y
    | .right b => .pure (pure t b)

end Erased

end Resumption
