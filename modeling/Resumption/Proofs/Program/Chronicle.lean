/-
Chronicle — every effect that is reached is interpreted once, in order.

The moments of a passage up to some point are orderly: continuations are called,
and effects are reported and then interpreted, each with the state that the one
before it left.  How a passage ends shows in its last moments:

| the last moments                  | the passage                                            |
|-----------------------------------|--------------------------------------------------------|
| `called`, `told finished`         | ended with a value after its last effect               |
| `told finalEffect`, `applied`     | ended with the value of its last effect                |
| `told`, `applied`                 | broke off, for the effect halted without a value       |
| `called`                          | broke off, for the continuation panicked               |

So nothing is interpreted or called after the effect that stopped a run, and the
steps that a fold reports count the effects.
-/
import Resumption.Proofs.Program.Passage

namespace Resumption

universe u v

section Moments

variable {F : Type → Type v} {τ : Type}

/-- The moments lead from one state of the interpreter to another. -/
inductive Orderly : τ → List (Moment F τ) → τ → Prop
  | nil (t : τ) : Orderly t [] t
  | called {t t' : τ} {tr : List (Moment F τ)} : Orderly t tr t' → Orderly t (.called :: tr) t'
  | effect {β : Type} (e : F β) {t t₁ t' : τ} {tr : List (Moment F τ)} :
      Orderly t₁ tr t' → Orderly t (.told .effect :: .applied e t (some t₁) :: tr) t'

theorem Orderly.append {t t₁ t' : τ} {tr tr' : List (Moment F τ)} (one : Orderly t tr t₁)
    (two : Orderly t₁ tr' t') : Orderly t (tr ++ tr') t' := by
  induction one with
  | nil => exact two
  | called _ ih => exact .called (ih two)
  | effect e _ ih => exact .effect e (ih two)

/-- Orderly moments, and the last moments that go with how a passage ended.  `last` says
that nothing is bound after it. -/
inductive Chronicle {H α : Type} :
    Bool → τ → List (Moment F τ) → Except (Break H) (α × τ) → Prop
  | value {a : α} {t t' : τ} {tr : List (Moment F τ)} :
      Orderly t tr t' → Chronicle false t tr (.ok (a, t'))
  | finished {a : α} {t t' : τ} {tr : List (Moment F τ)} :
      Orderly t tr t' → Chronicle true t (tr ++ [.called, .told .finished]) (.ok (a, t'))
  | final {β : Type} {e : F β} {a : α} {t t₁ t' : τ} {tr : List (Moment F τ)} :
      Orderly t tr t₁ →
      Chronicle true t (tr ++ [.told .finalEffect, .applied e t₁ (some t')]) (.ok (a, t'))
  | halted {β : Type} {e : F β} {last final : Bool} {h : H} {t t₁ t' : τ}
      {tr : List (Moment F τ)} :
      Orderly t tr t₁ →
      Chronicle last t (tr ++ [.told (effectStep final), .applied e t₁ (some t')])
        (.error (.halted h))
  | refused {β : Type} {e : F β} {last final : Bool} {p : Panic} {t t₁ : τ}
      {tr : List (Moment F τ)} :
      Orderly t tr t₁ →
      Chronicle last t (tr ++ [.told (effectStep final), .applied e t₁ none])
        (.error (.panicked p))
  | panicked {last : Bool} {p : Panic} {t t₁ : τ} {tr : List (Moment F τ)} :
      Orderly t tr t₁ → Chronicle last t (tr ++ [.called]) (.error (.panicked p))

theorem Chronicle.after {H α : Type} {last : Bool} {t t₁ : τ} {tr tr' : List (Moment F τ)}
    {x : Except (Break H) (α × τ)} (before : Orderly t tr t₁)
    (chronicle : Chronicle last t₁ tr' x) :
    Chronicle last t (tr ++ tr') x := by
  cases chronicle with
  | value h => exact .value (before.append h)
  | finished h => exact List.append_assoc .. ▸ .finished (before.append h)
  | final h => exact List.append_assoc .. ▸ .final (before.append h)
  | halted h => exact List.append_assoc .. ▸ .halted (before.append h)
  | refused h => exact List.append_assoc .. ▸ .refused (before.append h)
  | panicked h => exact List.append_assoc .. ▸ .panicked (before.append h)

/-- A passage that broke off has the same chronicle whatever is bound after it. -/
theorem Chronicle.broken {H α β : Type} {last last' : Bool} {t : τ} {tr : List (Moment F τ)}
    {b : Break H} (chronicle : Chronicle last t tr (.error b : Except (Break H) (α × τ))) :
    Chronicle last' t tr (.error b : Except (Break H) (β × τ)) := by
  cases chronicle with
  | halted h => exact .halted h
  | refused h => exact .refused h
  | panicked h => exact .panicked h

/-- What follows a value of orderly moments, or nothing after a break. -/
theorem Chronicle.onward {σ H α β : Type} {S : Type 1} {last : Bool} {t : τ}
    {first : List (Moment F τ) → Except (Break H) (α × τ) → σ → S → Prop}
    {next : α × τ → S → σ → List (Moment F τ) → Except (Break H) (β × τ) → σ → S → Prop}
    {tr : List (Moment F τ)} {x : Except (Break H) (β × τ)} {w' : σ} {c' : S}
    (one : ∀ {tr x w c}, first tr x w c → Chronicle false t tr x)
    (two : ∀ {y c w tr x w' c'}, next y c w tr x w' c' → Chronicle last y.2 tr x)
    (passes : Onward first next tr x w' c') : Chronicle last t tr x := by
  cases passes with
  | on source rest =>
    cases one source with
    | value before => exact .after before (two rest)
  | off source => exact (one source).broken

end Moments

/-! ## The chronicle of a passage -/

section Passages

variable {σ τ : Type} {F : Type → Type v} {M : Type → Type u} [Observer σ] [Halting σ M]

open Halting

/-- The program is finished as it stands, and there is nothing but to report it. -/
structure Idle {H α : Type} (last : Bool) (t : τ) (tr : List (Moment F τ))
    (x : Except (Break H) (α × τ)) : Prop where
  last : last = true
  moments : tr = [.told .finished]
  value : ∃ a, x = .ok (a, t)

mutual

/-- A passage through a program is orderly up to its end, or the program is finished as
it stands. -/
theorem Program.chronicle (n : Interpreter σ τ F M) (last : Bool) {α : Type} :
    (p : Program σ F α) → ∀ t c w tr x w' c', p.Passes n last t c w tr x w' c' →
      Chronicle last t tr x ∨ Idle last t tr x
  | .done a => by
      rintro t c w tr x w' c' (_ | _)
      · exact .inl (.value (.nil t))
      · exact .inr ⟨rfl, rfl, a, rfl⟩
  | .suspend e => by
      intro t c w tr x w' c' passes
      refine .inl ?_
      cases passes with
      | effect =>
        cases last with
        | false => exact .value (.effect e (.nil _))
        | true =>
          show Chronicle _ t ([] ++ _) _
          exact .final (.nil t)
      | halted =>
        show Chronicle _ t ([] ++ _) _
        exact .halted (.nil t)
      | refused =>
        show Chronicle _ t ([] ++ _) _
        exact .refused (.nil t)
  | .bound p q => by
      intro t c w tr x w' c' passes
      refine .inl (.onward (fun {tr x w' c'} source => ?_) (fun {y c w tr x w' c'} rest => ?_)
        (Program.passes_bound.mp passes))
      · -- a source is not the last part, so it is not idle
        rcases Program.chronicle n false p _ _ _ _ _ _ _ source with chronicle | ⟨⟨⟩, -, -⟩
        exact chronicle
      · exact Arrows.chronicle n last q _ _ _ _ _ _ _ _ rest

/-- So is a passage through a queue. -/
theorem Arrows.chronicle (n : Interpreter σ τ F M) (last : Bool) {α β : Type} :
    (q : Arrows σ F α β) → ∀ a t c w tr x w' c', q.Passes n last a t c w tr x w' c' →
      Chronicle last t tr x
  | .one f => by
      intro a t c w tr x w' c' passes
      cases passes with
      | called called passes =>
        rcases Program.Call.chronicle n last (f a w) _ _ called _ _ _ _ _ _ passes with
          chronicle | ⟨rfl, rfl, b, rfl⟩
        · exact .after (.called (.nil t)) chronicle
        · show Chronicle _ t ([] ++ _) _
          exact .finished (.nil t)
      | panicked =>
        show Chronicle _ t ([] ++ _) _
        exact .panicked (.nil t)
  | .append q r => by
      intro a t c w tr x w' c' passes
      refine .onward (fun {tr x w' c'} source => ?_) (fun {y c w tr x w' c'} rest => ?_)
        (Arrows.passes_append.mp passes)
      · exact Arrows.chronicle n false q _ _ _ _ _ _ _ _ source
      · exact Arrows.chronicle n last r _ _ _ _ _ _ _ _ rest

/-- And one through the program that an arrow returns. -/
theorem Program.Call.chronicle (n : Interpreter σ τ F M) (last : Bool) {α : Type} :
    (r : Program.Call σ F α) → ∀ p w, r = .returned p w → ∀ t c tr x w' c',
      p.Passes n last t c w tr x w' c' → Chronicle last t tr x ∨ Idle last t tr x
  | .returned p w => by
      rintro p' w' ⟨⟩ t c tr x w'' c' passes
      exact Program.chronicle n last p _ _ _ _ _ _ _ passes
  | .panicked e w => by
      rintro p' w' ⟨⟩

end

end Passages

/-! ## Steps and effects -/

section Counts

variable {F : Type → Type v} {τ : Type}

namespace Moment

/-- Is this moment the report of the step? -/
def tells (step : FoldStep) : Moment F τ → Bool
  | told s => s = step
  | _ => false

/-- Is this moment an application of the interpreter? -/
def applies : Moment F τ → Bool
  | applied .. => true
  | _ => false

end Moment

/-- How often the step was reported. -/
def reports (step : FoldStep) (tr : List (Moment F τ)) : Nat :=
  tr.countP (Moment.tells step)

/-- How often the interpreter was applied. -/
def applications (tr : List (Moment F τ)) : Nat :=
  tr.countP Moment.applies

/-- No continuation was called after the last effect: nothing is bound after it. -/
def EndsWithEffect (tr : List (Moment F τ)) : Prop :=
  ∃ (tr₁ : List (Moment F τ)) (β : Type) (e : F β) (took : τ) (left : Option τ),
    tr = tr₁ ++ [.applied e took left]

@[simp] theorem reports_append (step : FoldStep) (tr tr' : List (Moment F τ)) :
    reports step (tr ++ tr') = reports step tr + reports step tr' :=
  List.countP_append

@[simp] theorem applications_append (tr tr' : List (Moment F τ)) :
    applications (tr ++ tr') = applications tr + applications tr' :=
  List.countP_append

/-- Orderly moments report each application as an effect, and nothing else. -/
theorem Orderly.reports_eq {t t' : τ} {tr : List (Moment F τ)} (orderly : Orderly t tr t') :
    reports .effect tr = applications tr ∧ reports .finalEffect tr = 0 ∧
      reports .finished tr = 0 := by
  induction orderly with
  | nil => exact ⟨rfl, rfl, rfl⟩
  | called _ ih => exact ih
  | effect e _ ih =>
    obtain ⟨effects, finals, finishes⟩ := ih
    simp only [reports, applications, List.countP_cons] at effects finals finishes ⊢
    simp [Moment.tells, Moment.applies, effects, finals, finishes]

/-- After orderly moments, the steps count their effects, and what the last moments report. -/
theorem Orderly.reports_before {t t' : τ} {tr : List (Moment F τ)} (orderly : Orderly t tr t')
    (lasts : List (Moment F τ)) :
    reports .effect (tr ++ lasts) = applications tr + reports .effect lasts ∧
      reports .finalEffect (tr ++ lasts) = reports .finalEffect lasts ∧
      reports .finished (tr ++ lasts) = reports .finished lasts := by
  obtain ⟨effects, finals, finishes⟩ := orderly.reports_eq
  simp only [reports_append, effects, finals, finishes, Nat.zero_add, and_self]

/-- What the steps that a fold reports say of the effects of its run. -/
structure StepsCount {H α : Type} (tr : List (Moment F τ)) (x : Except (Break H) α) : Prop where
  value : ∀ a, x = .ok a →
    (¬ EndsWithEffect tr ∧ reports .effect tr = applications tr ∧ reports .finalEffect tr = 0 ∧
      reports .finished tr = 1) ∨
    (EndsWithEffect tr ∧ reports .effect tr + 1 = applications tr ∧ reports .finalEffect tr = 1 ∧
      reports .finished tr = 0)
  halted : ∀ h, x = .error (.halted h) → EndsWithEffect tr ∧
    reports .effect tr + reports .finalEffect tr = applications tr ∧ reports .finished tr = 0

theorem not_endsWithEffect {tr : List (Moment F τ)} :
    ¬ EndsWithEffect (tr ++ [.called, .told .finished]) := by
  rintro ⟨tr₁, β, e, took, left, same⟩
  have lasts := congrArg List.getLast? same
  simp at lasts

theorem endsWithEffect (s : FoldStep) {β : Type} (e : F β) (took : τ) (left : Option τ)
    (tr : List (Moment F τ)) : EndsWithEffect (tr ++ [.told s, .applied e took left]) :=
  ⟨tr ++ [.told s], β, e, took, left, by simp⟩

theorem Chronicle.stepsCount {H α : Type} {t : τ} {tr : List (Moment F τ)}
    {x : Except (Break H) (α × τ)} (chronicle : Chronicle true t tr x) : StepsCount tr x := by
  cases chronicle with
  | finished orderly =>
    obtain ⟨effects, finals, finishes⟩ := orderly.reports_before [.called, .told .finished]
    refine ⟨fun _ _ => .inl ⟨not_endsWithEffect, ?_, finals, finishes⟩, nofun⟩
    rw [effects, applications_append]
    rfl
  | @final _ e _ _ t₁ t' _ orderly =>
    obtain ⟨effects, finals, finishes⟩ :=
      orderly.reports_before [.told .finalEffect, .applied e t₁ (some t')]
    refine ⟨fun _ _ => .inr ⟨endsWithEffect .., ?_, finals, finishes⟩, nofun⟩
    rw [effects, applications_append]
    rfl
  | @halted _ e _ final _ _ t₁ t' _ orderly =>
    obtain ⟨effects, finals, finishes⟩ :=
      orderly.reports_before [.told (effectStep final), .applied e t₁ (some t')]
    refine ⟨nofun, fun _ _ => ⟨endsWithEffect .., ?_, ?_⟩⟩
    · rw [effects, finals, applications_append]
      cases final <;> rfl
    · rw [finishes]
      cases final <;> rfl
  | refused => exact ⟨nofun, nofun⟩
  | panicked => exact ⟨nofun, nofun⟩

/-- A finished program reports that and nothing else. -/
theorem Idle.stepsCount {H α : Type} {last : Bool} {t : τ} {tr : List (Moment F τ)}
    {x : Except (Break H) (α × τ)} (idle : Idle last t tr x) : StepsCount tr x := by
  obtain ⟨-, rfl, a, rfl⟩ := idle
  refine ⟨fun _ _ => .inl ⟨?_, rfl, rfl, rfl⟩, nofun⟩
  rintro ⟨tr₁, β, e, took, left, same⟩
  have lasts := congrArg List.getLast? same
  simp at lasts

end Counts

/-! ## Folding interprets in order -/

section Fold

open Halting

/-- Into the carrier `M`, a fold interprets every effect that it reaches once and in
order.  Its runs halt as the passages through the program say; every passage is orderly
up to its end, so each effect is interpreted once, with the state that the effect before
it left, and nothing comes after an effect that halts without a value; and the steps
that the fold reports count the effects. -/
def FoldsInOrder (σ : Type) (M : Type → Type u) [Observer σ] [Carrier σ M] [Halting σ M]
    [Loop.{u, max 1 v} σ M] : Prop :=
  ∀ {τ : Type} {F : Type → Type v} (n : Interpreter σ τ F M) {α : Type} (p : Program σ F α)
    (t : τ) (c : Setting σ M) (w : σ),
    (∀ o w' c', Halts c (p.fold n t w) o w' c' ↔ ∃ tr x, p.Passes n true t c w tr x w' c' ∧
      (x.map Prod.fst).mapError Break.toHalt = o) ∧
    ∀ tr x w' c', p.Passes n true t c w tr x w' c' →
      (Chronicle true t tr x ∨ Idle true t tr x) ∧ StepsCount tr x

theorem foldsInOrder {σ : Type} {M : Type → Type u} [Observer σ] [Carrier σ M] [Observed σ M]
    [LawfulCarrier σ M] [Halting σ M] [LawfulHalting σ M] [Loop.{u, max 1 v} σ M]
    [LawfulLoop.{u, max 1 v} σ M] : FoldsInOrder.{u, v} σ M := by
  intro τ F n α p t c w
  refine ⟨p.halts_fold n t c w, fun tr x w' c' passes => ?_⟩
  have chronicle := p.chronicle n true t c w tr x w' c' passes
  refine ⟨chronicle, ?_⟩
  rcases chronicle with chronicle | idle
  · exact chronicle.stepsCount
  · exact idle.stepsCount

/-- Folding interprets in order into every carrier, through any layers over it. -/
theorem fold_interprets_once (σ : Type) [Observer σ] (layers : List (Route × Type)) :
    FoldsInOrder.{0, v} σ (Layers Identity layers) ∧
    FoldsInOrder.{0, v} σ (Layers Option layers) ∧
    (∀ ε, FoldsInOrder.{0, v} σ (Layers (Except ε) layers)) ∧
    FoldsInOrder.{1, v} σ (Layers (Action σ) layers) ∧
    FoldsInOrder.{1, v} σ (Layers (Future σ) layers) :=
  ⟨foldsInOrder, foldsInOrder, fun _ => foldsInOrder, foldsInOrder, foldsInOrder⟩

end Fold

end Resumption
