/-
Knotted — erased programs whose arrows may come round again.

An erased program is built from below: what an arrow makes is there before the arrow.  A
closure of the host need not be like that.  It may make a program in which it stands
again, after an effect or at once, so a program need not come to an end, and normalizing
one need not either.  A closure may also fail to return.

A knotted program holds names of arrows, and a table says what becomes of a call.  Only
the part of a program that is there without a call is data, so names may come round.
`Knotted.round` is one round of the loop that normalizes, and `Knotted.normalize` goes on
round by round, with no reason given why that ends: it has no value where it does not.

| erased program                | knotted program                                |
|-------------------------------|------------------------------------------------|
| an arrow with its closure     | a name                                         |
| a call: a program or a fault  | what the table says, if the call returns       |
| a queue of arrows             | a list of names                                |
| `Erased.normalize`            | `Knotted.normalize`, if the rounds end         |

An erased program is a knotted one whose names are its arrows (`Erased.knotted`), and
there the loop ends with its normal form (`Erased.normalize_knotted`).
-/
import Mathlib.Data.PFun
import Resumption.Erased.Normal

namespace Resumption

universe u v

/-- A computation over the effect `F` whose values are boxed and whose arrows have names
in `κ`. -/
inductive Knotted (F : Type → Type v) {Ty : Type} (El : Ty → Type) (κ : Type u) :
    Type (max u v) where
  | done (value : Boxed El) : Knotted F El κ
  | suspend (effect : F (Boxed El)) : Knotted F El κ
  | bound (source : Knotted F El κ) (queue : List κ) : Knotted F El κ

variable {σ : Type} {F : Type → Type v} {Ty : Type} {El : Ty → Type} {κ : Type u}

namespace Knotted

/-- What becomes of the call of a named arrow on a boxed value: a program or a fault, in
some world, if the call returns. -/
abbrev Table (σ : Type) (F : Type → Type v) {Ty : Type} (El : Ty → Type) (κ : Type u) :
    Type (max u v) :=
  κ → Boxed El → σ → Part (Except Erased.Fault (Knotted F El κ) × σ)

/-! ## Queues -/

/-- One queue after the other.  If the first one is not longer, its names are moved to the
front of the second one, the last one first. -/
def andThen (a b : List κ) : List κ :=
  if a.length ≤ b.length then a.foldr List.cons b else a ++ b

theorem andThen_eq (a b : List κ) : andThen a b = a ++ b := by
  unfold andThen
  split
  · exact List.foldr_cons_eq_append'
  · rfl

/-- Binds what an arrow returned to the arrows after it, if there are any. -/
def resting (p : Knotted F El κ) : List κ → Knotted F El κ
  | [] => p
  | f :: q => .bound p (f :: q)

/-- Calls the first arrow and binds the program it returns to the others. -/
def apply (t : Table σ F El κ) :
    List κ → Boxed El → σ → Part (Except Erased.Fault (Knotted F El κ) × σ)
  | [], v, w => .some (.ok (.done v), w)
  | f :: q, v, w => (t f v w).map fun r => (r.1.map (resting · q), r.2)

/-! ## Normal forms -/

/-- A knotted program with no bind and no finished program in source position. -/
inductive Normal (F : Type → Type v) {Ty : Type} (El : Ty → Type) (κ : Type u) :
    Type (max u v) where
  | done (value : Boxed El)
  | suspend (effect : F (Boxed El))
  | bound (effect : F (Boxed El)) (queue : List κ)

/-- One round: the end of the loop, or the program and the world of the next round. -/
def round (t : Table σ F El κ) : Knotted F El κ × σ →
    Part ((Except Erased.Fault (Normal F El κ) × σ) ⊕ (Knotted F El κ × σ))
  | (.done v, w) => .some (.inl (.ok (.done v), w))
  | (.suspend e, w) => .some (.inl (.ok (.suspend e), w))
  | (.bound (.suspend e) q, w) => .some (.inl (.ok (.bound e q), w))
  | (.bound (.bound p q) r, w) => .some (.inr (.bound p (andThen q r), w))
  | (.bound (.done v) q, w) =>
    (apply t q v w).map fun
      | (.ok p, w) => .inr (p, w)
      | (.error e, w) => .inl (.error e, w)

/-- One round after another.  There is a value if the rounds end, and none if they go on
for ever or a call does not return. -/
def normalize (t : Table σ F El κ) (p : Knotted F El κ) (w : σ) :
    Part (Except Erased.Fault (Normal F El κ) × σ) :=
  PFun.fix (round t) (p, w)

section Rounds

variable (t : Table σ F El κ)

theorem normalize_done (v : Boxed El) (w : σ) :
    (done v).normalize t w = .some (.ok (.done v), w) :=
  Part.eq_some_iff.mpr (PFun.fix_stop (Part.mem_some _))

theorem normalize_suspend (e : F (Boxed El)) (w : σ) :
    (suspend e).normalize t w = .some (.ok (.suspend e), w) :=
  Part.eq_some_iff.mpr (PFun.fix_stop (Part.mem_some _))

theorem normalize_bound_suspend (e : F (Boxed El)) (q : List κ) (w : σ) :
    (bound (suspend e) q).normalize t w = .some (.ok (.bound e q), w) :=
  Part.eq_some_iff.mpr (PFun.fix_stop (Part.mem_some _))

theorem normalize_bound_bound (p : Knotted F El κ) (q r : List κ) (w : σ) :
    (bound (bound p q) r).normalize t w = (bound p (q ++ r)).normalize t w := by
  rw [← andThen_eq]
  exact PFun.fix_fwd_eq (Part.mem_some _)

variable {t} {v : Boxed El} {q : List κ} {w u : σ}

/-- A call that returns a program is followed by normalizing that. -/
theorem normalize_of_returned {p : Knotted F El κ} (h : (.ok p, u) ∈ apply t q v w) :
    (bound (done v) q).normalize t w = p.normalize t u :=
  PFun.fix_fwd_eq ((Part.mem_map_iff _).mpr ⟨_, h, rfl⟩)

/-- A fault of a call is the end. -/
theorem normalize_of_fault {e : Erased.Fault} (h : (.error e, u) ∈ apply t q v w) :
    (bound (done v) q).normalize t w = .some (.error e, u) :=
  Part.eq_some_iff.mpr (PFun.fix_stop ((Part.mem_map_iff _).mpr ⟨_, h, rfl⟩))

end Rounds

/-! ## The spine of a program -/

/-- The value of the innermost source, if that is finished. -/
def value? : Knotted F El κ → Option (Boxed El)
  | .done v => some v
  | .suspend _ => none
  | .bound p _ => p.value?

/-- The arrows bound along the spine of a program, the innermost ones first. -/
def arrows : Knotted F El κ → List κ
  | .bound p q => p.arrows ++ q
  | _ => []

theorem value?_resting (p : Knotted F El κ) (q : List κ) : (resting p q).value? = p.value? := by
  cases q <;> rfl

theorem arrows_resting (p : Knotted F El κ) (q : List κ) :
    (resting p q).arrows = p.arrows ++ q := by
  cases q with
  | nil => exact (List.append_nil _).symm
  | cons f q => rfl

end Knotted

/-! ## Programs built from below -/

namespace Erased

/-- The program with every arrow for its own name. -/
def knotted : Erased σ F El → Knotted F El (Arrow σ F El)
  | .done v => .done v
  | .suspend e => .suspend e
  | .bound p q => .bound p.knotted q

/-- The normal form with every arrow for its own name. -/
def Normal.knotted : Normal σ F El → Knotted.Normal F El (Arrow σ F El)
  | .done v => .done v
  | .suspend e => .suspend e
  | .bound e q => .bound e q

variable [DecidableEq Ty]

/-- The call of an arrow is the call of its closure, which returns. -/
def table : Knotted.Table σ F El (Arrow σ F El) :=
  fun f v w => .some ((f.run v w).1.map knotted, (f.run v w).2)

omit [DecidableEq Ty] in
theorem knotted_resting (p : Erased σ F El) (q : Queue σ F El) :
    (Queue.resting p q).knotted = Knotted.resting p.knotted q := by
  cases q <;> rfl

theorem apply_knotted (q : Queue σ F El) (v : Boxed El) (w : σ) :
    Knotted.apply table q v w = .some ((q.apply v w).1.map knotted, (q.apply v w).2) := by
  cases q with
  | nil => rfl
  | cons f q =>
    rw [Knotted.apply, Queue.apply_cons, table, Part.map_some]
    rcases f.run v w with ⟨e | p, w⟩
    · rfl
    · exact congrArg (fun p => Part.some (Except.ok p, w)) (knotted_resting p q).symm

/-- The loop comes to the end that normalizing an erased program comes to. -/
theorem normalize_knotted (p : Erased σ F El) (w : σ) :
    p.knotted.normalize table w =
      .some ((p.normalize w).1.map Normal.knotted, (p.normalize w).2) := by
  fun_induction normalize p w with
  | case1 w v => exact Knotted.normalize_done table v w
  | case2 w e => exact Knotted.normalize_suspend table e w
  | case3 w e q => exact Knotted.normalize_bound_suspend table e q w
  | case4 w p q r ih =>
    rw [knotted, knotted, Knotted.normalize_bound_bound, Queue.andThen_eq]
    rwa [Queue.andThen_eq, knotted] at ih
  | case5 w v q p w' called ih =>
    refine (Knotted.normalize_of_returned ?_).trans ih
    rw [apply_knotted, called]
    exact Part.mem_some _
  | case6 w v q e w' called =>
    refine Knotted.normalize_of_fault ?_
    rw [apply_knotted, called]
    exact Part.mem_some _

end Erased

end Resumption
