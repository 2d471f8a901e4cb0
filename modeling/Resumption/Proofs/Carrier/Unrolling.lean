/-
Unrolling — a loop is its rounds, one after another.

A round calls the step once, at a state and in a world, and runs the computation that
the call returned until it halts.  The recursive unrolling of a loop (`Unrolled`) goes
round as the rounds say:

| a round              | and the unrolling                                      |
|----------------------|--------------------------------------------------------|
| answers `left t`     | goes round again from `t`, in the world that was left  |
| answers `right b`    | ends with `b`                                          |
| halts without either | halts in the same way, in the same layer               |

The list of states beside it are those that the step was called at, in order; no rule
calls the step after the loop has ended.

The loop of a carrier is this unrolling (`halts_tailRec`), for every number of rounds
that it is given: a loop that needs more of them goes round as often as it may
(`Going`) and then panics.
-/
import Resumption.Proofs.Carrier.Sequencing

namespace Resumption

universe u

open Halting

/-! ## Rounds -/

section Rounds

variable {σ : Type} {M : Type → Type u} {S β : Type} [Halting σ M]
  (step : S → Host σ (M (Either S β)))

/-- A round from the state `s`: the call of the step panics, or it returns a computation
and that halts. -/
inductive Round (s : S) (c : Setting σ M) (w : σ) :
    Except (Halt σ M) (Either S β) → σ → Setting σ M → Prop
  | refused {p : Panic} {w' : σ} :
      step s w = (.error p, w') → Round s c w (.error (ofPanic p)) w' c
  | ran {m : M (Either S β)} {o : Except (Halt σ M) (Either S β)} {w₁ w' : σ} {c' : Setting σ M} :
      step s w = (.ok m, w₁) → Halts c (.ok m, w₁) o w' c' → Round s c w o w' c'

/-- The unrolling from a state, in a setting and from a world: it halts with an outcome,
leaves a world and a setting, and the step has been called at the listed states. -/
inductive Unrolled : List S → S → Setting σ M → σ → Except (Halt σ M) β → σ → Setting σ M → Prop
  | finished {s : S} {b : β} {c c' : Setting σ M} {w w' : σ} :
      Round step s c w (.ok (.right b)) w' c' → Unrolled [s] s c w (.ok b) w' c'
  | stopped {s : S} {h : Halt σ M} {c c' : Setting σ M} {w w' : σ} :
      Round step s c w (.error h) w' c' → Unrolled [s] s c w (.error h) w' c'
  | again {s t : S} {l : List S} {o : Except (Halt σ M) β} {c c₁ c' : Setting σ M} {w w₁ w' : σ} :
      Round step s c w (.ok (.left t)) w₁ c₁ → Unrolled l t c₁ w₁ o w' c' →
      Unrolled (s :: l) s c w o w' c'

/-- The rounds at the listed states have all answered left, and the next one would start
from the state `t`. -/
inductive Going : List S → S → Setting σ M → σ → S → σ → Setting σ M → Prop
  | start {s : S} {c : Setting σ M} {w : σ} : Going [] s c w s w c
  | again {s t t' : S} {l : List S} {c c₁ c' : Setting σ M} {w w₁ w' : σ} :
      Round step s c w (.ok (.left t)) w₁ c₁ → Going l t c₁ w₁ t' w' c' →
      Going (s :: l) s c w t' w' c'

/-- Every round leaves a note of the state that it starts from, and nothing else. -/
def Noted (notes : σ → List S) : Prop :=
  ∀ {s : S} {c : Setting σ M} {w : σ} {o : Except (Halt σ M) (Either S β)} {w' : σ}
    {c' : Setting σ M}, Round step s c w o w' c' → notes w' = notes w ++ [s]

variable {step} {l : List S} {s t : S} {o : Except (Halt σ M) β} {c c' : Setting σ M} {w w' : σ}

theorem Unrolled.noted {notes : σ → List S} (noted : Noted step notes)
    (unrolled : Unrolled step l s c w o w' c') : notes w' = notes w ++ l := by
  induction unrolled with
  | finished round => exact noted round
  | stopped round => exact noted round
  | again round _ ih => rw [ih, noted round, List.append_assoc]; rfl

theorem Going.noted {notes : σ → List S} (noted : Noted step notes)
    (going : Going step l s c w t w' c') : notes w' = notes w ++ l := by
  induction going with
  | start => rw [List.append_nil]
  | again round _ ih => rw [ih, noted round, List.append_assoc]; rfl

end Rounds

/-! ## The loop -/

section Loop

variable {σ : Type} {M : Type → Type u} {S β : Type} [Carrier σ M]

/-- What a loop makes of the answer of a round. -/
def answered (again : S → Host σ (M β)) : Either S β → Host σ (M β)
  | .left t => again t
  | .right b => .pure (Carrier.pure σ b)

variable [Observed σ M] [Loop.{u, 0} σ M] [LawfulLoop.{u, 0} σ M]
  (step : S → Host σ (M (Either S β)))

theorem tailRec_zero (s : S) : Agree (tailRec 0 step s) (.panic outOfRounds) :=
  LawfulLoop.iterate_eq 0 (rounds_wf S) (boundedTurn step) (0, s)

/-- A loop is its first round, and then the loop from there with one round less. -/
theorem tailRec_succ (rounds : Nat) (s : S) :
    Agree (tailRec (rounds + 1) step s) ((step s).chain (answered (tailRec rounds step))) := by
  refine (LawfulLoop.iterate_eq 0 (rounds_wf S) (boundedTurn step) (rounds + 1, s)).trans ?_
  refine .of_eq ((Host.bind_assoc ..).trans (congrArg (Host.bind (step s)) (funext fun m => ?_)))
  refine congrArg (Carrier.bind m) (funext fun x => ?_)
  cases x <;> rfl

variable [Halting σ M] [LawfulHalting σ M]

open LawfulHalting

variable {step} {s : S} {c c' : Setting σ M} {w w' : σ}

omit [Loop.{u, 0} σ M] [LawfulLoop.{u, 0} σ M] in
/-- A round is a run of what the step builds. -/
theorem round_iff {o : Except (Halt σ M) (Either S β)} :
    Round step s c w o w' c' ↔ Halts c (step s w) o w' c' := by
  constructor
  · rintro (called | ⟨called, halted⟩)
    · rw [called]
      exact halts_panic.mpr ⟨rfl, rfl, rfl⟩
    · rw [called]
      exact halted
  · intro halted
    rcases called : step s w with ⟨p | m, w₁⟩ <;> rw [called] at halted
    · obtain ⟨rfl, rfl, rfl⟩ := halts_panic.mp halted
      exact .refused called
    · exact .ran called halted

variable {o : Except (Halt σ M) β}

theorem halts_tailRec_zero :
    Halts c (tailRec 0 step s w) o w' c' ↔ o = .error (ofPanic outOfRounds) ∧ w' = w ∧ c' = c :=
  ((tailRec_zero step s).haltAlike w c o w' c').trans halts_panic

/-- A loop halts by its first round, or as the loop does from the state of its answer. -/
theorem halts_tailRec_succ {rounds : Nat} :
    Halts c (tailRec (rounds + 1) step s w) o w' c' ↔
      (∃ t w₁ c₁, Round step s c w (.ok (.left t)) w₁ c₁ ∧
        Halts c₁ (tailRec rounds step t w₁) o w' c') ∨
      (∃ b, o = .ok b ∧ Round step s c w (.ok (.right b)) w' c') ∨
      ∃ h, o = .error h ∧ Round step s c w (.error h) w' c' := by
  refine ((tailRec_succ step rounds s).haltAlike w c o w' c').trans (halts_chain.trans ?_)
  simp only [← round_iff]
  constructor
  · rintro (⟨t | b, w₁, c₁, round, rest⟩ | stopped)
    · exact .inl ⟨t, w₁, c₁, round, rest⟩
    · obtain ⟨rfl, rfl, rfl⟩ := halts_pure.mp rest
      exact .inr (.inl ⟨b, rfl, round⟩)
    · exact .inr (.inr stopped)
  · rintro (⟨t, w₁, c₁, round, rest⟩ | ⟨b, rfl, round⟩ | stopped)
    · exact .inl ⟨.left t, w₁, c₁, round, rest⟩
    · exact .inl ⟨.right b, w', c', round, halts_pure.mpr ⟨rfl, rfl, rfl⟩⟩
    · exact .inr stopped

/-- A loop halts as its unrolling does, if that takes no more rounds than the loop is
given; if it takes more, the loop panics after as many rounds as it may take. -/
theorem halts_tailRec {rounds : Nat} :
    Halts c (tailRec rounds step s w) o w' c' ↔
      (∃ l, l.length ≤ rounds ∧ Unrolled step l s c w o w' c') ∨
      ∃ l t, l.length = rounds ∧ Going step l s c w t w' c' ∧
        o = .error (ofPanic outOfRounds) := by
  induction rounds generalizing s c w with
  | zero =>
    rw [halts_tailRec_zero]
    constructor
    · rintro ⟨rfl, rfl, rfl⟩
      exact .inr ⟨[], s, rfl, .start, rfl⟩
    · rintro (⟨l, none, unrolled⟩ | ⟨l, t, none, going, rfl⟩)
      · cases unrolled <;> cases none
      · cases going with
        | start => exact ⟨rfl, rfl, rfl⟩
        | again => cases none
  | succ rounds ih =>
    rw [halts_tailRec_succ]
    constructor
    · rintro (⟨t, w₁, c₁, round, rest⟩ | ⟨b, rfl, round⟩ | ⟨h, rfl, round⟩)
      · rcases ih.mp rest with ⟨l, few, unrolled⟩ | ⟨l, t', many, going, rfl⟩
        · exact .inl ⟨s :: l, Nat.succ_le_succ few, .again round unrolled⟩
        · exact .inr ⟨s :: l, t', congrArg Nat.succ many, .again round going, rfl⟩
      · exact .inl ⟨[s], Nat.succ_le_succ (Nat.zero_le _), .finished round⟩
      · exact .inl ⟨[s], Nat.succ_le_succ (Nat.zero_le _), .stopped round⟩
    · rintro (⟨l, few, unrolled⟩ | ⟨l, t', many, going, rfl⟩)
      · cases unrolled with
        | finished round => exact .inr (.inl ⟨_, rfl, round⟩)
        | stopped round => exact .inr (.inr ⟨_, rfl, round⟩)
        | again round rest =>
          exact .inl ⟨_, _, _, round, ih.mpr (.inl ⟨_, Nat.le_of_succ_le_succ few, rest⟩)⟩
      · cases going with
        | start => cases many
        | again round rest =>
          exact .inl ⟨_, _, _, round, ih.mpr (.inr ⟨_, _, Nat.succ.inj many, rest, rfl⟩)⟩

end Loop

/-! ## Loops of every carrier -/

section Carriers

variable {σ : Type} {M : Type → Type u}

/-- The loop is its unrolling.

* It halts as its unrolling does, if that takes no more rounds than it is given, and
  otherwise it goes round as often as it may and panics: `halts`.
* The step is called once in each round: where every round leaves a note of its state,
  the notes that a run has left are those of its rounds, in order: `calls`. -/
structure Unrolls {S β : Type} [Carrier σ M] [Halting σ M] [Loop.{u, 0} σ M]
    (step : S → Host σ (M (Either S β))) (rounds : Nat) (s : S) : Prop where
  halts (c : Setting σ M) (w : σ) (o : Except (Halt σ M) β) (w' : σ) (c' : Setting σ M) :
    Halts c (tailRec rounds step s w) o w' c' ↔
      (∃ l, l.length ≤ rounds ∧ Unrolled step l s c w o w' c') ∨
      ∃ l t, l.length = rounds ∧ Going step l s c w t w' c' ∧
        o = .error (ofPanic outOfRounds)
  calls {notes : σ → List S} {c : Setting σ M} {w : σ} {o : Except (Halt σ M) β} {w' : σ}
    {c' : Setting σ M} : Noted step notes → Halts c (tailRec rounds step s w) o w' c' →
      ∃ l, l.length ≤ rounds ∧ notes w' = notes w ++ l ∧
        (Unrolled step l s c w o w' c' ∨ ∃ t, Going step l s c w t w' c')

/-- In the carrier `M`, every loop is its unrolling. -/
def UnrollsLoops (σ : Type) (M : Type → Type u) [Carrier σ M] [Halting σ M] [Loop.{u, 0} σ M] :
    Prop :=
  ∀ {S β : Type} (step : S → Host σ (M (Either S β))) (rounds : Nat) (s : S),
    Unrolls step rounds s

theorem unrollsLoops [Carrier σ M] [Observed σ M] [Loop.{u, 0} σ M] [LawfulLoop.{u, 0} σ M]
    [Halting σ M] [LawfulHalting σ M] : UnrollsLoops σ M := by
  intro S β step rounds s
  refine ⟨fun c w o w' c' => halts_tailRec, fun noted halted => ?_⟩
  rcases halts_tailRec.mp halted with ⟨l, few, unrolled⟩ | ⟨l, t, many, going, -⟩
  · exact ⟨l, few, unrolled.noted noted, .inl unrolled⟩
  · exact ⟨l, Nat.le_of_eq many, going.noted noted, .inr ⟨t, going⟩⟩

/-- So are the loops of any layers over `M`. -/
def UnrollsInLayers (σ : Type) (M : Type → Type u) [Carrier σ M] [Halting σ M]
    [Loop.{u, 0} σ M] : Prop :=
  ∀ layers : List (Route × Type), UnrollsLoops σ (Layers M layers)

theorem unrollsInLayers [Carrier σ M] [Observed σ M] [LawfulCarrier σ M] [Loop.{u, 0} σ M]
    [LawfulLoop.{u, 0} σ M] [Halting σ M] [LawfulHalting σ M] : UnrollsInLayers σ M :=
  fun _ => unrollsLoops

variable [Observer σ]

/-- So are those of any layers over programs over a tower on `P`. -/
def UnrollsInTowers (σ : Type) [Observer σ] (P : Type → Type 1) [Carrier (Untraced σ) P]
    [Loop.{1, 1} (Untraced σ) P] [Halting (Untraced σ) P] : Prop :=
  ∀ storeys : List Storey,
    UnrollsInLayers (Untraced σ) (Program (Untraced σ) (Tower (Untraced σ) P storeys))

theorem unrollsInTowers {P : Type → Type 1} [Carrier (Untraced σ) P] [Observed (Untraced σ) P]
    [LawfulCarrier (Untraced σ) P] [Loop.{1, 1} (Untraced σ) P] [LawfulLoop.{1, 1} (Untraced σ) P]
    [Halting (Untraced σ) P] [LawfulHalting (Untraced σ) P] : UnrollsInTowers σ P :=
  fun storeys =>
    have ⟨_, _⟩ := Tower.lawful (σ := σ) (P := P) storeys
    haveI := Tower.lawfulHalting (σ := σ) (P := P) storeys
    unrollsInLayers

end Carriers

/-! ## Panics in layers -/

/-- A halt of the carrier that layers stand on, as a halt of the layers. -/
def Layers.beneath {σ : Type} {M : Type → Type u} [Halting σ M] :
    (layers : List (Route × Type)) → Halt σ M → Halt σ (Layers M layers)
  | [], h => h
  | _ :: layers, h => Either.left (beneath layers h)

theorem Layers.ofPanic_eq {σ : Type} {M : Type → Type u} [Halting σ M] (p : Panic) :
    (layers : List (Route × Type)) →
      (ofPanic p : Halt σ (Layers M layers)) = beneath layers (ofPanic p)
  | [] => rfl
  | _ :: layers => congrArg Either.left (ofPanic_eq p layers)

/-- Loops are their unrollings in every carrier: of values, optional values, results,
actions and futures, of programs over layers over them, of programs over towers on those,
and in any layers over all of these.  A panic of the step is a failure of the action or
the future that layers stand on. -/
theorem tailRec_unrolls (σ : Type) [Observer σ] :
    (UnrollsInLayers σ Identity ∧ UnrollsInLayers σ Option ∧
      (∀ ε, UnrollsInLayers σ (Except ε)) ∧ UnrollsInLayers σ (Action σ) ∧
      UnrollsInLayers σ (Future σ)) ∧
    (∀ layers : List (Route × Type),
      UnrollsInLayers (Untraced σ) (Program (Untraced σ) (Layers Identity layers)) ∧
      UnrollsInLayers (Untraced σ) (Program (Untraced σ) (Layers Option layers)) ∧
      (∀ ε, UnrollsInLayers (Untraced σ) (Program (Untraced σ) (Layers (Except ε) layers))) ∧
      UnrollsInLayers (Untraced σ) (Program (Untraced σ) (Layers (Action (Untraced σ)) layers)) ∧
      UnrollsInLayers (Untraced σ) (Program (Untraced σ) (Layers (Future (Untraced σ)) layers)) ∧
      UnrollsInTowers σ (Program (Untraced σ) (Layers Identity layers)) ∧
      UnrollsInTowers σ (Program (Untraced σ) (Layers Option layers)) ∧
      (∀ ε, UnrollsInTowers σ (Program (Untraced σ) (Layers (Except ε) layers))) ∧
      UnrollsInTowers σ (Program (Untraced σ) (Layers (Action (Untraced σ)) layers)) ∧
      UnrollsInTowers σ (Program (Untraced σ) (Layers (Future (Untraced σ)) layers))) ∧
    ∀ (layers : List (Route × Type)) (p : Panic),
      (ofPanic p : Halt σ (Layers (Action σ) layers)) =
        Layers.beneath layers (Failure.panicked p.message) ∧
      (ofPanic p : Halt σ (Layers (Future σ) layers)) =
        Layers.beneath layers (Future.Halt.failed (.panicked p.message)) :=
  ⟨⟨unrollsInLayers, unrollsInLayers, fun _ => unrollsInLayers, unrollsInLayers, unrollsInLayers⟩,
    fun _ => ⟨unrollsInLayers, unrollsInLayers, fun _ => unrollsInLayers, unrollsInLayers,
      unrollsInLayers, unrollsInTowers, unrollsInTowers, fun _ => unrollsInTowers,
      unrollsInTowers, unrollsInTowers⟩,
    fun layers p => ⟨Layers.ofPanic_eq p layers, Layers.ofPanic_eq p layers⟩⟩

end Resumption
