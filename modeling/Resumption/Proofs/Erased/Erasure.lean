/-
Erasure — an erased program as a program without its types.

`Erases t p n` says that the erased program `n` is the program `p`, whose values are of
the type `t`, with its types left out.  Both go on in the same way (`Erases.normalize`):
they call the same closures, panic alike, and end in normal forms of which one is the
erasure of the other.  Opening a box never fails on this way.

| of the program     | the erasure                                             |
|--------------------|---------------------------------------------------------|
| `done a`           | the value in a box                                      |
| `suspend e`        | the effect that yields the value of `e` in a box        |
| `bound p q`        | the erasure of `p`, bound to the list of the arrows     |
| an arrow           | a closure that makes the erasure of what the arrow makes |
-/
import Resumption.Erased.Normal
import Resumption.Program.Normal

namespace Resumption

universe u v w

variable {σ : Type} {F : Type → Type v} {Ty : Type} {El : Ty → Type} [Mappable σ F]

namespace Erased

variable (σ) in
/-- The effect `e'` is the effect `e` with its value in a box. -/
def Boxes (t : Ty) (e : F (El t)) (e' : F (Boxed El)) : Prop :=
  ∃ w w', Mappable.map e (fun a => Host.pure (σ := σ) (Boxed.mk t a)) w = (.ok e', w')

mutual

/-- The erased program is the program without its types. -/
inductive Erases : (t : Ty) → Program σ F (El t) → Erased σ F El → Prop where
  | done {t : Ty} (a : El t) : Erases t (.done a) (.done ⟨t, a⟩)
  | suspend {t : Ty} {e : F (El t)} {e' : F (Boxed El)} :
      Boxes σ t e e' → Erases t (.suspend e) (.suspend e')
  | bound {s t : Ty} {p : Program σ F (El s)} {n : Erased σ F El}
      {q : Arrows σ F (El s) (El t)} {l : Queue σ F El} :
      Erases s p n → ErasesQueue s t q l → Erases t (.bound p q) (.bound n l)

/-- The arrows of the list are those of the tree without their types. -/
inductive ErasesQueue : (s t : Ty) → Arrows σ F (El s) (El t) → Queue σ F El → Prop where
  | one {s t : Ty} {f : El s → σ → Program.Call σ F (El t)} {g : El s → σ → Call σ F El} :
      (∀ a w, ErasesCall t (f a w) (g a w)) → ErasesQueue s t (.one f) [.mk s t g]
  | append {r s t : Ty} {a : Arrows σ F (El r) (El s)} {b : Arrows σ F (El s) (El t)}
      {l m : Queue σ F El} :
      ErasesQueue r s a l → ErasesQueue s t b m → ErasesQueue r t (.append a b) (l ++ m)

/-- Both calls end in the same world, with a program and its erasure or with one panic. -/
inductive ErasesCall : (t : Ty) → Program.Call σ F (El t) → Call σ F El → Prop where
  | returned {t : Ty} {p : Program σ F (El t)} {n : Erased σ F El} (w : σ) :
      Erases t p n → ErasesCall t (.returned p w) (.returned n w)
  | panicked {t : Ty} (e : Panic) (w : σ) : ErasesCall t (.panicked e w) (.panicked e w)

end

/-! ## Queues -/

/-- The view of a tree and the list of its arrows without their types. -/
inductive ErasesView (s t : Ty) :
    Arrows.View σ F (El s) (El t) → Queue σ F El → Prop where
  | last {f : El s → σ → Program.Call σ F (El t)} {g : El s → σ → Call σ F El} :
      (∀ a w, ErasesCall t (f a w) (g a w)) → ErasesView s t (.last f) [.mk s t g]
  | more {r : Ty} {f : El s → σ → Program.Call σ F (El r)} {g : El s → σ → Call σ F El}
      {q : Arrows σ F (El r) (El t)} {h : Arrow σ F El} {l : Queue σ F El} :
      (∀ a w, ErasesCall r (f a w) (g a w)) → ErasesQueue r t q (h :: l) →
      ErasesView s t (.more f q) (.mk s r g :: h :: l)

theorem ErasesQueue.exists_cons {s t : Ty} : {q : Arrows σ F (El s) (El t)} →
    {l : Queue σ F El} → ErasesQueue s t q l → ∃ f r, l = f :: r
  | _, _, .one _ => ⟨_, _, rfl⟩
  | _, _, .append a _ => by
    obtain ⟨f, r, rfl⟩ := a.exists_cons
    exact ⟨f, _, rfl⟩

theorem ErasesQueue.viewBefore {r s t : Ty} {a : Arrows σ F (El r) (El s)} {l : Queue σ F El}
    {b : Arrows σ F (El s) (El t)} {m : Queue σ F El} (h : ErasesQueue r s a l)
    (hb : ErasesQueue s t b m) : ErasesView r t (a.viewBefore b) (l ++ m) := by
  cases h with
  | one called =>
    obtain ⟨h, m, rfl⟩ := hb.exists_cons
    exact .more called hb
  | append ha ha' =>
    rw [Arrows.viewBefore, List.append_assoc]
    exact ha.viewBefore (.append ha' hb)

theorem ErasesQueue.view {s t : Ty} {q : Arrows σ F (El s) (El t)} {l : Queue σ F El}
    (h : ErasesQueue s t q l) : ErasesView s t q.view l := by
  cases h with
  | one called => exact .last called
  | append ha hb => exact ha.viewBefore hb

/-! ## Runs -/

/-- Both runs end in the same world, with related results or with one panic. -/
inductive Alike {X : Type u} {Y : Type w} (R : X → Y → Prop) :
    Except Panic X × σ → Except Fault Y × σ → Prop where
  | returned {x : X} {y : Y} (w : σ) : R x y → Alike R (.ok x, w) (.ok y, w)
  | panicked (e : Panic) (w : σ) : Alike R (.error e, w) (.error (.panicked e), w)

theorem Alike.exists_left {X : Type u} {Y : Type w} {R : X → Y → Prop} {x : Except Panic X × σ}
    {y : Y} {w : σ} (h : Alike R x (.ok y, w)) : ∃ a, R a y := by
  cases h with
  | returned _ related => exact ⟨_, related⟩

variable [DecidableEq Ty]

theorem reveal_boxed (t : Ty) (a : El t) : reveal t ⟨t, a⟩ = .ok a :=
  dif_pos rfl

omit [Mappable σ F] in
/-- Opening the box is a call of the closure. -/
theorem Arrow.run_boxed {s t : Ty} {g : El s → σ → Call σ F El} (a : El s) (w : σ) :
    (Arrow.mk s t g).run ⟨s, a⟩ w = (g a w).advance := by
  rw [Arrow.run, reveal_boxed]

/-- A queue calls the closure of the first arrow on the value in the box. -/
theorem ErasesQueue.apply {s t : Ty} {q : Arrows σ F (El s) (El t)} {l : Queue σ F El}
    (h : ErasesQueue s t q l) (a : El s) (w : σ) :
    Alike (Erases t) (q.apply a w).run (l.apply ⟨s, a⟩ w) := by
  unfold Arrows.apply
  have view := h.view
  generalize q.view = v at view
  cases view with
  | @last f g called =>
    rw [Queue.apply_cons, Arrow.run_boxed]
    have call := called a w
    dsimp only
    generalize f a w = c, g a w = c' at call
    cases call with
    | returned w' same => exact .returned w' same
    | panicked e w' => exact .panicked e w'
  | @more _ f g _ _ _ called rest =>
    rw [Queue.apply_cons, Arrow.run_boxed]
    have call := called a w
    dsimp only
    generalize f a w = c, g a w = c' at call
    cases call with
    | returned w' same => exact .returned w' (.bound same rest)
    | panicked e w' => exact .panicked e w'

/-! ## Normal forms -/

/-- The normal form and its erasure. -/
inductive ErasesNormal (t : Ty) : Resumption.Normal σ F (El t) → Normal σ F El → Prop where
  | done (a : El t) : ErasesNormal t (.done a) (.done ⟨t, a⟩)
  | suspend {e : F (El t)} {e' : F (Boxed El)} :
      Boxes σ t e e' → ErasesNormal t (.suspend e) (.suspend e')
  | bound {s : Ty} {e : F (El s)} {e' : F (Boxed El)} {q : Arrows σ F (El s) (El t)}
      {l : Queue σ F El} :
      Boxes σ s e e' → ErasesQueue s t q l → ErasesNormal t (.bound e q) (.bound e' l)

omit [DecidableEq Ty] in
theorem ErasesNormal.toErased {t : Ty} {m : Resumption.Normal σ F (El t)} {n : Normal σ F El}
    (h : ErasesNormal t m n) : Erases t m.toProgram n.toErased := by
  cases h with
  | done a => exact .done a
  | suspend boxes => exact .suspend boxes
  | bound boxes queue => exact .bound (.suspend boxes) queue

/-- A program and its erasure call the same closures before their next effect, and end
there in a normal form and its erasure. -/
theorem Erases.normalize {t : Ty} {p : Program σ F (El t)} {n : Erased σ F El}
    (h : Erases t p n) (w : σ) : Alike (ErasesNormal t) (p.normalize w) (n.normalize w) := by
  fun_induction Erased.normalize n w generalizing p with
  | case1 w v =>
    cases h with
    | done a => rw [Program.normalize]; exact .returned w (.done a)
  | case2 w e =>
    cases h with
    | suspend boxes => rw [Program.normalize]; exact .returned w (.suspend boxes)
  | case3 w e l =>
    cases h with
    | bound source queue =>
      cases source with
      | suspend boxes => rw [Program.normalize]; exact .returned w (.bound boxes queue)
  | case4 w n l m ih =>
    cases h with
    | bound source queue =>
      cases source with
      | bound source inner =>
        rw [Program.normalize]
        refine ih (.bound source ?_)
        rw [Queue.andThen_eq]
        exact .append inner queue
  | case5 w v l n w' called ih =>
    cases h with
    | bound source queue =>
      cases source with
      | @done _ a =>
        have alike := queue.apply a w
        rw [called] at alike
        rw [Program.normalize]
        rcases applied : Arrows.apply _ a w with ⟨p, v⟩ | ⟨e, v⟩ <;> rw [applied] at alike
        · cases alike with
          | returned _ same => exact ih same
        · cases alike
  | case6 w v l e w' called =>
    cases h with
    | bound source queue =>
      cases source with
      | @done _ a =>
        have alike := queue.apply a w
        rw [called] at alike
        rw [Program.normalize]
        rcases applied : Arrows.apply _ a w with ⟨p, v⟩ | ⟨e, v⟩ <;> rw [applied] at alike
        · cases alike
        · cases alike with
          | panicked e => exact .panicked e w'

/-! ## Advancing -/

theorem Erases.step {t : Ty} {p : Program σ F (El t)} {n : Erased σ F El} (h : Erases t p n)
    (w : σ) : Alike (Erases t) (p.step w) (n.step w) := by
  unfold Program.step Erased.step
  have normal := h.normalize w
  generalize p.normalize w = x, n.normalize w = y at normal
  cases normal with
  | returned w related => exact .returned w related.toErased
  | panicked e w => exact .panicked e w

/-- Both are finished with the same value, or wait for the same effect, with its value in a
box, and go on alike. -/
inductive ErasesResumed (t : Ty) : Program.Resumed σ F (El t) → Resumed σ F El t → Prop where
  | finished (a : El t) : ErasesResumed t (.finished a) (.finished a)
  | waiting {s : Ty} {e : F (El s)} {e' : F (Boxed El)}
      {rest : El s → Host σ (Program σ F (El t))}
      {rest' : Boxed El → σ → Except Fault (Erased σ F El) × σ} :
      Boxes σ s e e' → (∀ a w, Alike (Erases t) (rest a w) (rest' ⟨s, a⟩ w)) →
      ErasesResumed t (.waiting e rest) (.waiting e' rest')

theorem Erases.resume {t : Ty} {p : Program σ F (El t)} {n : Erased σ F El} (h : Erases t p n)
    (w : σ) : Alike (ErasesResumed t) (p.resume w) (n.resume t w) := by
  unfold Program.resume Erased.resume
  have normal := h.normalize w
  generalize p.normalize w = x, n.normalize w = y at normal
  cases normal with
  | panicked e w => exact .panicked e w
  | returned w related =>
    cases related with
    | done a =>
      simp only [Resumed.ofNormal, Except.bind, reveal_boxed]
      exact .returned w (.finished a)
    | suspend boxes => exact .returned w (.waiting boxes fun a w => .returned w (.done a))
    | bound boxes queue => exact .returned w (.waiting boxes queue.apply)

end Erased

end Resumption
