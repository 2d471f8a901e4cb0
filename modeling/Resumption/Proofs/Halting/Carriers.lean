/-
Carriers — how each carrier halts.

| carrier      | halts without a value                                        |
|--------------|--------------------------------------------------------------|
| `Identity`   | if a closure panicked                                        |
| `Option`     | if a closure panicked, or the value is absent                |
| `Except ε`   | if a closure panicked, or with an error                      |
| `Action`     | with a failure, a panic included                             |
| `Future`     | with a failure, or left at a poll and never polled again     |
| `Layered`    | as its base does, or by an early exit                        |

A future that is left is one that was dropped between two polls, for instance by a
time-out.  So what holds of every halting run holds of a cancelled one as well.
-/
import Resumption.Proofs.Carrier.Action
import Resumption.Proofs.Carrier.Eager
import Resumption.Proofs.Carrier.Layered
import Resumption.Proofs.Endings.Bottom
import Resumption.Proofs.Halting.Basic

namespace Resumption

universe u

/-! ## Eager carriers -/

/-- How an eager computation ends without a value. -/
inductive Stop (ε : Type) where
  | panicked (p : Panic)
  | failed (e : ε)
deriving DecidableEq

section Eager

variable {σ ε α : Type}

/-- The outcome of what was built of plain values, whose outcomes are known. -/
def eagerRun {M : Type → Type} (outcome : M α → Except ε α) :
    Except Panic (M α) × σ → Except (Stop ε) α × σ
  | (.ok m, w) => ((outcome m).mapError .failed, w)
  | (.error p, w) => (.error (.panicked p), w)

instance : Halting σ Identity :=
  .ofRun .panicked fun _ => eagerRun fun m => (.ok m.value : Except Empty _)

instance : LawfulHalting σ Identity :=
  .ofRun _ _ (congrArg _) (fun _ _ => rfl) (fun _ _ => rfl) (fun _ _ _ => rfl)

instance : Halting σ Option :=
  .ofRun .panicked fun _ => eagerRun fun
    | some a => .ok a
    | none => .error ()

instance : LawfulHalting σ Option :=
  .ofRun _ _ (congrArg _) (fun _ _ => rfl) (fun _ _ => rfl) fun m _ _ => by cases m <;> rfl

instance : Halting σ (Except ε) :=
  .ofRun .panicked fun _ => eagerRun id

instance : LawfulHalting σ (Except ε) :=
  .ofRun _ _ (congrArg _) (fun _ _ => rfl) (fun _ _ => rfl) fun m _ _ => by cases m <;> rfl

end Eager

variable {σ : Type} [Observer σ]

/-! ## Actions -/

instance : Halting σ (Action σ) :=
  .ofRun .ofPanic fun _ => Action.runBuilt

instance : LawfulHalting σ (Action σ) :=
  .ofRun _ _ id Action.runBuilt_panic
    (fun _ _ => by rw [Action.runBuilt_ok]; exact Action.run.eq_1 ..)
    fun m k w => by
      have chained := Action.runBuilt_chain (.pure m) k w
      refine chained.trans ?_
      rw [show (Host.pure m : Host σ _) w = (.ok m, w) from rfl]
      rcases Action.runBuilt (.ok m, w) with ⟨e | a, v⟩ <;> rfl

/-! ## Futures -/

namespace Future

variable {α β : Type}

/-- Why a future has no value: it failed, or it was left before it ended. -/
inductive Halt where
  | failed (e : Failure)
  | dropped
deriving DecidableEq

/-- A poll that leaves a future which is never polled again, or is left at a later poll. -/
inductive LeftAt (scopes : Scopes) : Polled σ α → σ → Option (Reactor σ) → Prop
  | here (a : Future σ α) (w : σ) (r : Option (Reactor σ)) : LeftAt scopes ⟨.pending a, w, r⟩ w r
  | later {a : Future σ α} {w w₁ w' : σ} {r r₁ r' : Option (Reactor σ)} :
      LeftAt scopes (a.poll scopes w₁ r₁) w' r' → LeftAt scopes ⟨.pending a, w, r⟩ w' r'

/-- A context is left where the future inside it is, or after that has ended. -/
theorem leftAt_around {scopes : Scopes} {K : Future σ α → Future σ β}
    {F : Except Failure α → σ → Option (Reactor σ) → Polled σ β} (hK : Runs scopes K F)
    {p : Polled σ α} {w' : σ} {r' : Option (Reactor σ)} :
    LeftAt scopes (around K F p) w' r' ↔
      LeftAt scopes p w' r' ∨
      ∃ o₁ w₁ r₁, Reaches scopes p o₁ w₁ r₁ ∧ LeftAt scopes (F o₁ w₁ r₁) w' r' := by
  constructor
  · intro left
    generalize hq : around K F p = q at left
    induction left generalizing p with
    | here a w r =>
      rcases p with ⟨o₁ | b, w₁, r₁⟩
      · refine .inr ⟨o₁, w₁, r₁, .ended .., ?_⟩
        rw [show F o₁ w₁ r₁ = _ from hq]
        exact .here ..
      · cases hq
        exact .inl (.here ..)
    | later rest ih =>
      rcases p with ⟨o₁ | b, w₁, r₁⟩
      · refine .inr ⟨o₁, w₁, r₁, .ended .., ?_⟩
        rw [show F o₁ w₁ r₁ = _ from hq]
        exact .later rest
      · cases hq
        rcases ih (hK b ..).symm with left | ⟨o₁, w₁, r₁, inner, left⟩
        · exact .inl (.later left)
        · exact .inr ⟨o₁, w₁, r₁, .pending inner, left⟩
  · rintro (left | ⟨o₁, w₁, r₁, inner, left⟩)
    · induction left with
      | here a w r => exact .here ..
      | later _ ih => exact .later ((hK ..).symm ▸ ih)
    · induction inner with
      | ended => exact left
      | pending _ ih => exact .later ((hK ..).symm ▸ ih left)

/-- Polls that go alike are left alike. -/
theorem LeftAt.congr {scopes : Scopes} {p q : Polled σ α} {w : σ} {r : Option (Reactor σ)}
    (left : LeftAt scopes p w r) (e : ∀ n, Polled.Alike (SamePolls n) p q) :
    LeftAt scopes q w r := by
  induction left generalizing q with
  | here a w r =>
    cases e 0 with
    | pending => exact .here ..
  | @later a w w₁ w' r r₁ r' _ ih =>
    rcases q with ⟨_ | b, w₂, r₂⟩
    · cases e 0
    · have next : LeftAt scopes (b.poll scopes w₁ r₁) w' r' := by
        refine ih fun n => ?_
        cases e (n + 1) with
        | pending _ _ _ same => exact same scopes w₁ r₁
      exact .later next

theorem leftAt_ended {scopes : Scopes} {o : Except Failure α} {w w' : σ}
    {r r' : Option (Reactor σ)} : ¬ LeftAt scopes ⟨.ended o, w, r⟩ w' r' := by
  rintro ⟨⟩

instance : Halting σ (Future σ) where
  Setting := Scopes × Option (Reactor σ)
  Halt := Halt
  ofPanic p := .failed (.ofPanic p)
  Halts c x o w' c' := c'.1 = c.1 ∧
    ((∃ o₁, Reaches c.1 (pollBuilt c.1 x c.2) o₁ w' c'.2 ∧ o = o₁.mapError .failed) ∨
      LeftAt c.1 (pollBuilt c.1 x c.2) w' c'.2 ∧ o = .error .dropped)

/-- A poll after which a future halts: it ends at this poll or at a later one, or it is
left. -/
def HaltsFrom (s : Scopes) (p : Polled σ α) (o : Except Halt α) (w' : σ)
    (c' : Scopes × Option (Reactor σ)) : Prop :=
  c'.1 = s ∧ ((∃ o₁, Reaches s p o₁ w' c'.2 ∧ o = o₁.mapError .failed) ∨
    LeftAt s p w' c'.2 ∧ o = .error .dropped)

/-- What was built halts from its first poll. -/
theorem halts_iff {s : Scopes} {r : Option (Reactor σ)} {x : Except Panic (Future σ α) × σ}
    {o : Except Halt α} {w' : σ} {c' : Scopes × Option (Reactor σ)} :
    Halting.Halts (M := Future σ) (s, r) x o w' c' ↔ HaltsFrom s (pollBuilt s x r) o w' c' :=
  Iff.rfl

section From

variable {s : Scopes} {p : Polled σ α} {w w' : σ} {r : Option (Reactor σ)}
  {c' : Scopes × Option (Reactor σ)}

theorem haltsFrom_ok {a : α} :
    HaltsFrom s p (.ok a) w' c' ↔ c'.1 = s ∧ Reaches s p (.ok a) w' c'.2 := by
  refine and_congr_right fun _ => ⟨?_, fun reached => .inl ⟨_, reached, rfl⟩⟩
  rintro (⟨e | b, reached, ⟨⟩⟩ | ⟨-, ⟨⟩⟩)
  exact reached

theorem haltsFrom_failed {e : Failure} :
    HaltsFrom s p (.error (.failed e)) w' c' ↔ c'.1 = s ∧ Reaches s p (.error e) w' c'.2 := by
  refine and_congr_right fun _ => ⟨?_, fun reached => .inl ⟨_, reached, rfl⟩⟩
  rintro (⟨e | b, reached, ⟨⟩⟩ | ⟨-, ⟨⟩⟩)
  exact reached

theorem haltsFrom_dropped :
    HaltsFrom s p (.error .dropped) w' c' ↔ c'.1 = s ∧ LeftAt s p w' c'.2 := by
  refine and_congr_right fun _ => ⟨?_, fun left => .inr ⟨left, rfl⟩⟩
  rintro (⟨e | b, -, ⟨⟩⟩ | ⟨left, -⟩)
  exact left

/-- A poll that ended has halted. -/
theorem haltsFrom_ended {o₁ : Except Failure α} {o : Except Halt α} :
    HaltsFrom s ⟨.ended o₁, w, r⟩ o w' c' ↔ o = o₁.mapError .failed ∧ w' = w ∧ c' = (s, r) := by
  obtain ⟨s', r'⟩ := c'
  simp only [HaltsFrom, reaches_ended, leftAt_ended, false_and, or_false]
  constructor
  · rintro ⟨rfl, o₁, ⟨rfl, rfl, rfl⟩, rfl⟩
    exact ⟨rfl, rfl, rfl⟩
  · rintro ⟨rfl, rfl, ⟨⟩⟩
    exact ⟨rfl, _, ⟨rfl, rfl, rfl⟩, rfl⟩

/-- A context goes on when the future inside it has ended, and is left while it has not. -/
theorem haltsFrom_around {K : Future σ α → Future σ β}
    {F : Except Failure α → σ → Option (Reactor σ) → Polled σ β} (hK : Runs s K F)
    {o : Except Halt β} :
    HaltsFrom s (around K F p) o w' c' ↔
      (∃ o₁ w₁ r₁, Reaches s p o₁ w₁ r₁ ∧ HaltsFrom s (F o₁ w₁ r₁) o w' c') ∨
      (c'.1 = s ∧ LeftAt s p w' c'.2 ∧ o = .error .dropped) := by
  unfold HaltsFrom
  simp only [reaches_around hK, leftAt_around hK]
  constructor
  · rintro ⟨same, ⟨o₁, ⟨o₂, w₁, r₁, inner, rest⟩, rfl⟩ |
      ⟨left | ⟨o₂, w₁, r₁, inner, left⟩, rfl⟩⟩
    · exact .inl ⟨o₂, w₁, r₁, inner, same, .inl ⟨o₁, rest, rfl⟩⟩
    · exact .inr ⟨same, left, rfl⟩
    · exact .inl ⟨o₂, w₁, r₁, inner, same, .inr ⟨left, rfl⟩⟩
  · rintro (⟨o₂, w₁, r₁, inner, same, ⟨o₁, rest, rfl⟩ | ⟨left, rfl⟩⟩ | ⟨same, left, rfl⟩)
    · exact ⟨same, .inl ⟨o₁, ⟨o₂, w₁, r₁, inner, rest⟩, rfl⟩⟩
    · exact ⟨same, .inr ⟨.inr ⟨o₂, w₁, r₁, inner, left⟩, rfl⟩⟩
    · exact ⟨same, .inr ⟨.inl left, rfl⟩⟩

end From

end Future

open Future in
instance : LawfulHalting σ (Future σ) where
  congr := by
    rintro α x y ⟨s, r⟩ ⟨s', r'⟩ o w' same ⟨rfl, ⟨o₁, reached, rfl⟩ | ⟨left, rfl⟩⟩
    · exact ⟨rfl, .inl ⟨o₁, reached.congr fun n => same n _ _, rfl⟩⟩
    · exact ⟨rfl, .inr ⟨left.congr fun n => same n _ _, rfl⟩⟩
  halts_panic := by
    rintro α p w w' ⟨s, r⟩ c' o
    rw [halts_iff, pollBuilt_panic]
    exact haltsFrom_ended
  halts_pure := by
    rintro α a w w' ⟨s, r⟩ c' o
    rw [halts_iff, pollBuilt_ok, Carrier.pure, instCarrier, poll]
    exact haltsFrom_ended
  halts_bind := by
    rintro α β m k w w' ⟨s, r⟩ c' o
    rw [show Carrier.bind m k w = (.ok (Future.bind m fun x w => .ofRun (k x w)), w) from rfl,
      halts_iff, pollBuilt_ok, runs_bind s _ m w r, haltsFrom_around (runs_bind s _),
      ← pollBuilt_ok]
    constructor
    · rintro (⟨e | x, w₁, r₁, inner, rest⟩ | ⟨same, left, rfl⟩)
      · obtain ⟨rfl, rfl, rfl⟩ := haltsFrom_ended.mp rest
        exact .inr ⟨_, rfl, haltsFrom_failed.mpr ⟨rfl, inner⟩⟩
      · exact .inl ⟨x, w₁, (s, r₁), haltsFrom_ok.mpr ⟨rfl, inner⟩, rest⟩
      · exact .inr ⟨_, rfl, haltsFrom_dropped.mpr ⟨same, left⟩⟩
    · rintro (⟨x, w₁, ⟨s₁, r₁⟩, hm, rest⟩ | ⟨e | -, rfl, hm⟩)
      · obtain ⟨rfl, inner⟩ := haltsFrom_ok.mp hm
        exact .inl ⟨.ok x, w₁, r₁, inner, rest⟩
      · obtain ⟨same, inner⟩ := haltsFrom_failed.mp hm
        exact .inl ⟨.error e, w', c'.2, inner, haltsFrom_ended.mpr ⟨rfl, rfl, Prod.ext same rfl⟩⟩
      · obtain ⟨same, left⟩ := haltsFrom_dropped.mp hm
        exact .inr ⟨same, left, rfl⟩

/-! ## Layers -/

namespace Layered

variable {σ : Type} {route : Route} {M : Type → Type u} {ε α β : Type}

/-- How a layered computation ends, from how its base does. -/
def ending {H : Type} : Except H (Either ε α) → Except (Either H ε) α
  | .ok (.right a) => .ok a
  | .ok (.left e) => .error (.right e)
  | .error h => .error (.left h)

instance [Halting σ M] : Halting σ (Layered route M ε) where
  Setting := Halting.Setting σ M
  Halt := Either (Halting.Halt σ M) ε
  ofPanic p := .left (Halting.ofPanic p)
  Halts c x o w' c' := ∃ o₁, Halting.Halts c (inner x) o₁ w' c' ∧ ending o₁ = o

instance [Observed σ M] [Halting σ M] [FaithfulHalting σ M] :
    FaithfulHalting σ (Layered route M ε) where
  congr := by
    rintro α x y c c' o w' same ⟨o₁, halted, rfl⟩
    exact ⟨o₁, FaithfulHalting.congr same halted, rfl⟩

variable [Carrier σ M] [Observed σ M] [Halting σ M]

open Halting LawfulHalting

omit [Carrier σ M] [Observed σ M] in
theorem halts_iff {x : Except Panic (Layered route M ε α) × σ} {w' : σ}
    {c c' : Setting σ M} {o : Except (Either (Halt σ M) ε) α} :
    Halts (M := Layered route M ε) c x o w' c' ↔
      ∃ o₁, Halts (M := M) c (inner x) o₁ w' c' ∧ ending o₁ = o :=
  Iff.rfl

omit [Carrier σ M] [Observed σ M] in
/-- What ends at once in the base, with one outcome, does so in the layer. -/
theorem halts_at_once {x : Except Panic (Layered route M ε α) × σ} {w w' : σ}
    {c c' : Setting σ M} {o : Except (Either (Halt σ M) ε) α} (o₁ : Except (Halt σ M) (Either ε α))
    (once : ∀ {o w' c'}, Halts (M := M) c (inner x) o w' c' ↔ o = o₁ ∧ w' = w ∧ c' = c) :
    Halts (M := Layered route M ε) c x o w' c' ↔ o = ending o₁ ∧ w' = w ∧ c' = c := by
  rw [halts_iff]
  constructor
  · rintro ⟨o₂, halted, rfl⟩
    obtain ⟨rfl, rfl, rfl⟩ := once.mp halted
    exact ⟨rfl, rfl, rfl⟩
  · rintro ⟨rfl, rfl, rfl⟩
    exact ⟨_, once.mpr ⟨rfl, rfl, rfl⟩, rfl⟩

instance [LawfulHalting σ M] : LawfulHalting σ (Layered route M ε) where
  halts_panic := halts_at_once (.error _) halts_panic
  halts_pure := halts_at_once (.ok (.right _)) halts_pure
  halts_bind := by
    intro α β m k w w' c c' o
    refine halts_iff.trans ?_
    rw [inner_apply (Carrier.bind m k) w, map_base_bind]
    constructor
    · rintro ⟨o₁, halted, rfl⟩
      rcases halts_bind.mp halted with ⟨e | a, w₁, c₁, first, rest⟩ | ⟨h, rfl, first⟩
      · obtain ⟨rfl, rfl, rfl⟩ := halts_pure.mp rest
        exact .inr ⟨_, rfl, _, first, rfl⟩
      · refine .inl ⟨a, w₁, c₁, ⟨_, first, rfl⟩, o₁, ?_, rfl⟩
        rw [inner_apply]
        exact rest
      · exact .inr ⟨.left h, rfl, .error h, first, rfl⟩
    · rintro (⟨a, w₁, c₁, ⟨h | e | a, halted, ⟨⟩⟩, o₁, rest, rfl⟩ |
        ⟨s, rfl, h | e | a, halted, ⟨⟩⟩)
      · rw [inner_apply] at rest
        exact ⟨o₁, halts_bind.mpr (.inl ⟨_, w₁, c₁, halted, rest⟩), rfl⟩
      · exact ⟨_, halts_bind.mpr (.inr ⟨h, rfl, halted⟩), rfl⟩
      · exact ⟨_, halts_bind.mpr (.inl ⟨_, _, _, halted, halts_pure.mpr ⟨rfl, rfl, rfl⟩⟩), rfl⟩

end Layered

namespace Layers

variable {σ : Type} {M : Type → Type u} [Halting σ M]

instance instHalting : (layers : List (Route × Type)) → Halting σ (Layers M layers)
  | [] => inferInstanceAs (Halting σ M)
  | (route, ε) :: layers =>
    letI := instHalting layers
    inferInstanceAs (Halting σ (Layered route (Layers M layers) ε))

instance instFaithfulHalting [Observed σ M] [FaithfulHalting σ M] :
    (layers : List (Route × Type)) → FaithfulHalting σ (Layers M layers)
  | [] => inferInstanceAs (FaithfulHalting σ M)
  | (route, ε) :: layers =>
    haveI := instFaithfulHalting layers
    inferInstanceAs (FaithfulHalting σ (Layered route (Layers M layers) ε))

instance instLawfulHalting [Carrier σ M] [Observed σ M] [LawfulHalting σ M] :
    (layers : List (Route × Type)) → LawfulHalting σ (Layers M layers)
  | [] => inferInstanceAs (LawfulHalting σ M)
  | (route, ε) :: layers =>
    haveI := instLawfulHalting layers
    inferInstanceAs (LawfulHalting σ (Layered route (Layers M layers) ε))

end Layers

end Resumption
