/-
Halting — how the runs of a carrier's computations may come to a halt.

`Halts c x o w c'` says that a run of `x`, which is what the building of a
computation came to, may halt with `o`: with a value, or with one of the carrier's
ways to end without one.  It leaves the world `w`.  Whatever else surrounds a run
is its setting; an eager carrier has none, and for a future it is the executor
that polls it.  The others that live there may change it between two polls, which
is why halting is a relation.

| a run of               | halts                                               |
|------------------------|-----------------------------------------------------|
| what panicked          | as the panic says                                   |
| `pure a`               | with `a`, at once                                   |
| `bind m k`             | as what `k` makes of the value of `m`, or as `m`    |

Two runs of the host that agree build computations that halt alike
(`FaithfulHalting`).
-/
import Resumption.Proofs.Carrier.Observation

namespace Resumption

universe u

/-- A carrier whose computations are run until they halt. -/
class Halting (σ : Type) (M : Type → Type u) where
  Setting : Type 1
  Halt : Type
  ofPanic : Panic → Halt
  Halts {α : Type} : Setting → Except Panic (M α) × σ → Except Halt α → σ → Setting → Prop

section Laws

variable {σ : Type} {M : Type → Type u} {α β : Type}

/-- What is observed of a computation determines how it halts. -/
class FaithfulHalting (σ : Type) (M : Type → Type u) [Observed σ M] [Halting σ M] : Prop where
  congr {α : Type} {x y : Except Panic (M α) × σ} {c c' : Halting.Setting σ M}
    {o : Except (Halting.Halt σ M) α} {w' : σ} :
    Observed.Same x y → Halting.Halts c x o w' c' → Halting.Halts c y o w' c'

/-- Computations halt as their parts do. -/
class LawfulHalting (σ : Type) (M : Type → Type u) [Carrier σ M] [Observed σ M] [Halting σ M] :
    Prop extends FaithfulHalting σ M where
  halts_panic {α : Type} {p : Panic} {w w' : σ} {c c' : Halting.Setting σ M}
    {o : Except (Halting.Halt σ M) α} :
    Halting.Halts c (.error p, w) o w' c' ↔
      o = .error (Halting.ofPanic p) ∧ w' = w ∧ c' = c
  halts_pure {α : Type} {a : α} {w w' : σ} {c c' : Halting.Setting σ M}
    {o : Except (Halting.Halt σ M) α} :
    Halting.Halts c (.ok (Carrier.pure σ a : M α), w) o w' c' ↔ o = .ok a ∧ w' = w ∧ c' = c
  halts_bind {α β : Type} {m : M α} {k : α → Host σ (M β)} {w w' : σ}
    {c c' : Halting.Setting σ M} {o : Except (Halting.Halt σ M) β} :
    Halting.Halts c (Carrier.bind m k w) o w' c' ↔
      (∃ a w₁ c₁, Halting.Halts c (.ok m, w) (.ok a) w₁ c₁ ∧ Halting.Halts c₁ (k a w₁) o w' c') ∨
      ∃ h, o = .error h ∧ Halting.Halts c (.ok m, w) (.error h) w' c'

/-- The two runs build computations that halt alike: from every world and in every
setting, with the same outcomes and leaving the same worlds. -/
def HaltAlike [Halting σ M] (h h' : Host σ (M α)) : Prop :=
  ∀ (w : σ) (c : Halting.Setting σ M) (o : Except (Halting.Halt σ M) α) (w' : σ)
    (c' : Halting.Setting σ M), Halting.Halts c (h w) o w' c' ↔ Halting.Halts c (h' w) o w' c'

theorem Agree.haltAlike [Observed σ M] [Halting σ M] [FaithfulHalting σ M] {h h' : Host σ (M α)}
    (agree : Agree h h') : HaltAlike h h' :=
  fun w _ _ _ _ => ⟨FaithfulHalting.congr (agree w),
    FaithfulHalting.congr (Observed.symm (agree w))⟩

namespace Halting

open LawfulHalting

variable [Carrier σ M] [Observed σ M] [Halting σ M] [LawfulHalting σ M] {w w' : σ}
  {c c' : Setting σ M}

/-- What was built halts, or goes on with its value. -/
theorem halts_chain {h : Host σ (M α)} {k : α → Host σ (M β)} {o : Except (Halt σ M) β} :
    Halts c (h.chain k w) o w' c' ↔
      (∃ a w₁ c₁, Halts c (h w) (.ok a) w₁ c₁ ∧ Halts c₁ (k a w₁) o w' c') ∨
      ∃ s, o = .error s ∧ Halts c (h w) (.error s) w' c' := by
  unfold Host.chain Host.bind
  rcases h w with ⟨p | m, v⟩
  · simp only [halts_panic]
    constructor
    · rintro ⟨rfl, rfl, rfl⟩
      exact .inr ⟨_, rfl, rfl, rfl, rfl⟩
    · rintro (⟨a, w₁, c₁, ⟨⟨⟩, -, -⟩, -⟩ | ⟨s, rfl, ⟨⟩, rfl, rfl⟩)
      exact ⟨rfl, rfl, rfl⟩
  · exact halts_bind

variable [LawfulCarrier σ M]

/-- A closure is called with the value and says how the computation ends. -/
theorem halts_map {h : Host σ (M α)} {f : α → Host σ β} {o : Except (Halt σ M) β} :
    Halts c (h.bind (fun m => Mappable.map m f) w) o w' c' ↔
      (∃ a w₁ r, Halts c (h w) (.ok a) w₁ c' ∧ f a w₁ = (r, w') ∧ o = r.mapError ofPanic) ∨
      ∃ s, o = .error s ∧ Halts c (h w) (.error s) w' c' := by
  refine ((Agree.bind_map h f).haltAlike w c o w' c').trans (halts_chain.trans (or_congr_left ?_))
  -- the closure's value is returned as it is, and a panic of it ends the run
  have ends (a : α) (w₁ : σ) (c₁ : Setting σ M) :
      Halts c₁ ((f a).map (Carrier.pure σ) w₁) o w' c' ↔
        ∃ r, f a w₁ = (r, w') ∧ o = r.mapError ofPanic ∧ c' = c₁ := by
    unfold Host.map Host.bind
    rcases f a w₁ with ⟨p | b, w₂⟩
    · refine halts_panic.trans ⟨?_, ?_⟩
      · rintro ⟨rfl, rfl, rfl⟩
        exact ⟨_, rfl, rfl, rfl⟩
      · rintro ⟨_, ⟨⟩, rfl, rfl⟩
        exact ⟨rfl, rfl, rfl⟩
    · refine halts_pure.trans ⟨?_, ?_⟩
      · rintro ⟨rfl, rfl, rfl⟩
        exact ⟨_, rfl, rfl, rfl⟩
      · rintro ⟨_, ⟨⟩, rfl, rfl⟩
        exact ⟨rfl, rfl, rfl⟩
  constructor
  · rintro ⟨a, w₁, c₁, halted, rest⟩
    obtain ⟨r, called, rfl, rfl⟩ := (ends a w₁ c₁).mp rest
    exact ⟨a, w₁, r, halted, called, rfl⟩
  · rintro ⟨a, w₁, r, halted, called, rfl⟩
    exact ⟨a, w₁, c', halted, (ends a w₁ c').mpr ⟨r, called, rfl, rfl⟩⟩

/-- A plain function of the value changes only the value. -/
theorem halts_mapped {h : Host σ (M α)} {f : α → β} {o : Except (Halt σ M) β} :
    Halts c (h.bind (fun m => Mappable.map m fun a => Host.pure (f a)) w) o w' c' ↔
      ∃ o₁, Halts c (h w) o₁ w' c' ∧ o = o₁.map f := by
  rw [halts_map]
  constructor
  · rintro (⟨a, w₁, _, halted, ⟨⟩, rfl⟩ | ⟨s, rfl, halted⟩)
    · exact ⟨_, halted, rfl⟩
    · exact ⟨_, halted, rfl⟩
  · rintro ⟨s | a, halted, rfl⟩
    · exact .inr ⟨s, rfl, halted⟩
    · exact .inl ⟨a, w', .ok (f a), halted, rfl, rfl⟩

end Halting

end Laws

/-! ## Carriers whose runs are functions -/

section Functions

variable {σ : Type} {M : Type → Type u} {H : Type} (ofPanic : Panic → H)
  (run : (α : Type) → Except Panic (M α) × σ → Except H α × σ)

/-- A carrier that is run at once halts as its runs say, whatever surrounds it. -/
@[reducible] def Halting.ofRun : Halting σ M where
  Setting := PUnit
  Halt := H
  ofPanic := ofPanic
  Halts {α} _ x o w' _ := run α x = (o, w')

/-- What a run ends with, it halts with at once. -/
theorem Halting.ofRun_at_once {α : Type} {x : Except Panic (M α) × σ} {o₁ o : Except H α}
    {w w' : σ} {c c' : PUnit} (ends : run α x = (o₁, w)) :
    (Halting.ofRun ofPanic run).Halts c x o w' c' ↔ o = o₁ ∧ w' = w ∧ c' = c := by
  show run _ _ = _ ↔ _
  rw [ends, Prod.mk.injEq]
  exact ⟨fun ⟨ho, hw⟩ => ⟨ho.symm, hw.symm, rfl⟩, fun ⟨ho, hw, _⟩ => ⟨ho.symm, hw.symm⟩⟩

variable [Carrier σ M] [Observed σ M]

theorem LawfulHalting.ofRun
    (run_same : ∀ {α : Type} {x y : Except Panic (M α) × σ},
      Observed.Same x y → run α x = run α y)
    (run_panic : ∀ {α : Type} (p : Panic) (w : σ), run α (.error p, w) = (.error (ofPanic p), w))
    (run_pure : ∀ {α : Type} (a : α) (w : σ), run α (.ok (Carrier.pure σ a), w) = (.ok a, w))
    (run_bind : ∀ {α β : Type} (m : M α) (k : α → Host σ (M β)) (w : σ),
      run β (Carrier.bind m k w) = match run α (.ok m, w) with
        | (.ok a, w) => run β (k a w)
        | (.error h, w) => (.error h, w)) :
    @LawfulHalting σ M _ _ (Halting.ofRun ofPanic run) :=
  letI := Halting.ofRun ofPanic run
  { congr := fun same halted => (run_same same).symm.trans halted
    halts_panic := Halting.ofRun_at_once _ _ (run_panic ..)
    halts_pure := Halting.ofRun_at_once _ _ (run_pure ..)
    halts_bind := by
      intro α β m k w w' c c' o
      show run _ _ = _ ↔ (∃ a w₁ _, run _ _ = _ ∧ run _ _ = _) ∨ ∃ h, _ ∧ run _ _ = _
      rw [run_bind]
      rcases run α (.ok m, w) with ⟨h | a, v⟩
      · constructor
        · rintro ⟨⟩
          exact .inr ⟨h, rfl, rfl⟩
        · rintro (⟨a, w₁, c₁, ⟨⟩, -⟩ | ⟨h', rfl, ⟨⟩⟩)
          rfl
      · constructor
        · intro halted
          exact .inl ⟨a, v, c, rfl, halted⟩
        · rintro (⟨a', w₁, c₁, ⟨⟩, halted⟩ | ⟨h, rfl, ⟨⟩⟩)
          exact halted }

end Functions

end Resumption
