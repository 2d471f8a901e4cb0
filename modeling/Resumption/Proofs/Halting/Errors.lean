/-
Errors — the errors of a channel among the ways to halt.

An error channel of a carrier shows in how its computations halt: `failed e` is how one
halts that raised `e`, and `error?` tells the halts of the channel from all others.

| carrier            | halts of its channel     | all others                              |
|--------------------|--------------------------|-----------------------------------------|
| `Option`           | the absent value         | panics                                  |
| `Except ε`         | errors                   | panics                                  |
| `Action`           | failures, of panics too  | none                                    |
| `Future`           | failures, of panics too  | being left                              |
| `Layered .layer`   | early exits of the layer | the halts of its base                   |
| `Layered .base`    | those of the base's      | early exits, the base's other halts     |

A handler takes over where a computation halts in the channel, and what it returns is
run as it is; everything else passes the handler by (`LawfulErrors.halts_handle`).
-/
import Resumption.Proofs.Halting.Carriers

namespace Resumption

universe u

/-- The halts of a carrier that are errors of its channel. -/
class ErrorHalting (σ : Type) (M : Type → Type u) (ε : outParam Type) [Halting σ M] where
  failed : ε → Halting.Halt σ M
  error? : Halting.Halt σ M → Option ε
  error?_eq_some {h : Halting.Halt σ M} {e : ε} : error? h = some e ↔ h = failed e

namespace ErrorHalting

variable {σ : Type} {M : Type → Type u} {ε α : Type} [Halting σ M] [ErrorHalting σ M ε]

/-- The outcome is no error of the channel. -/
def Passing : Except (Halting.Halt σ M) α → Prop
  | .ok _ => True
  | .error h => error? h = none

theorem error?_failed (e : ε) : error? (failed e : Halting.Halt σ M) = some e :=
  error?_eq_some.mpr rfl

theorem failed_inj {e e' : ε} (same : (failed e : Halting.Halt σ M) = failed e') : e = e' := by
  have found := error?_failed (σ := σ) (M := M) e
  rw [same, error?_failed] at found
  exact (Option.some.inj found).symm

theorem not_passing_failed {e : ε} :
    ¬ Passing (.error (failed e) : Except (Halting.Halt σ M) α) := by
  intro passing
  have found := error?_failed (σ := σ) (M := M) e
  rw [show error? _ = none from passing] at found
  cases found

/-- Passing is a matter of the halt and not of the value. -/
theorem passing_map {β : Type} {f : α → β} {o : Except (Halting.Halt σ M) α} :
    Passing (o.map f) ↔ Passing o := by
  cases o <;> rfl

/-- An outcome is an error of the channel, or it passes. -/
theorem failed_or_passing (o : Except (Halting.Halt σ M) α) :
    (∃ e, o = .error (failed e)) ∨ Passing o := by
  rcases o with h | a
  · rcases found : error? h with _ | e
    · exact .inr found
    · exact .inl ⟨e, congrArg _ (error?_eq_some.mp found)⟩
  · exact .inr trivial

end ErrorHalting

open Halting LawfulHalting ErrorHalting

/-- An error is raised and handled in the channel that it halts in. -/
class LawfulErrors (σ : Type) (M : Type → Type u) (ε : outParam Type) [ErrorChannel σ M ε]
    [Halting σ M] [ErrorHalting σ M ε] : Prop where
  halts_raise {α : Type} {e : ε} {w w' : σ} {c c' : Setting σ M} {o : Except (Halt σ M) α} :
    Halts c (.ok (ErrorChannel.raise σ e), w) o w' c' ↔ o = .error (failed e) ∧ w' = w ∧ c' = c
  halts_handle {α : Type} {m : M α} {k : ε → Host σ (M α)} {w w' : σ} {c c' : Setting σ M}
    {o : Except (Halt σ M) α} :
    Halts c (ErrorChannel.handle m k w) o w' c' ↔
      (∃ e w₁ c₁, Halts c (.ok m, w) (.error (failed e)) w₁ c₁ ∧ Halts c₁ (k e w₁) o w' c') ∨
      (Halts c (.ok m, w) o w' c' ∧ Passing o)

/-! ## Carriers whose runs are functions -/

section Functions

variable {σ : Type} {M : Type → Type u} {H ε : Type} {ofPanic : Panic → H}
  {run : (α : Type) → Except Panic (M α) × σ → Except H α × σ} [ErrorChannel σ M ε]

theorem LawfulErrors.ofRun :
    letI := Halting.ofRun ofPanic run
    ∀ [ErrorHalting σ M ε],
    (∀ {α : Type} (e : ε) (w : σ),
      run α (.ok (ErrorChannel.raise σ e), w) = (.error (failed (σ := σ) (M := M) e), w)) →
    (∀ {α : Type} (m : M α) (k : ε → Host σ (M α)) (w : σ),
      run α (ErrorChannel.handle m k w) = match run α (.ok m, w) with
        | (.ok a, w) => (.ok a, w)
        | (.error h, w) =>
          match error? (σ := σ) (M := M) h with
          | some e => run α (k e w)
          | none => (.error h, w)) →
    LawfulErrors σ M ε := by
  intro _ run_raise run_handle
  let _ := Halting.ofRun ofPanic run
  constructor
  · intro α e w w' c c' o
    exact Halting.ofRun_at_once _ _ (run_raise e w)
  · intro α m k w w' c c' o
    show run _ _ = _ ↔ (∃ e w₁ _, run _ _ = _ ∧ run _ _ = _) ∨ (run _ _ = _ ∧ _)
    rw [run_handle]
    rcases run α (.ok m, w) with ⟨h | a, v⟩
    · dsimp only
      rcases found : error? (σ := σ) (M := M) h with _ | e
      · constructor
        · rintro ⟨⟩
          exact .inr ⟨rfl, found⟩
        · rintro (⟨e, w₁, c₁, ⟨⟩, -⟩ | ⟨⟨⟩, -⟩)
          · rw [error?_failed] at found
            cases found
          · rfl
      · obtain rfl := error?_eq_some.mp found
        constructor
        · intro handled
          exact .inl ⟨e, v, c, rfl, handled⟩
        · rintro (⟨e', w₁, c₁, same, handled⟩ | ⟨⟨⟩, passing⟩)
          · obtain ⟨failing, rfl⟩ := Prod.mk.inj same
            rw [Except.error.injEq] at failing
            obtain rfl := failed_inj failing
            exact handled
          · exact absurd passing not_passing_failed
    · constructor
      · rintro ⟨⟩
        exact .inr ⟨rfl, trivial⟩
      · rintro (⟨e, w₁, c₁, ⟨⟩, -⟩ | ⟨⟨⟩, -⟩)
        rfl

end Functions

section Eager

variable {σ ε : Type}

instance : ErrorHalting σ Option Unit where
  failed := Stop.failed
  error?
    | .failed e => some e
    | .panicked _ => none
  error?_eq_some {h e} := by cases h <;> simp

instance : LawfulErrors σ Option Unit :=
  .ofRun (fun _ _ => rfl) fun m k w => by cases m <;> rfl

instance : ErrorHalting σ (Except ε) ε where
  failed := Stop.failed
  error?
    | .failed e => some e
    | .panicked _ => none
  error?_eq_some {h e} := by
    cases h
    · simp
    · rw [Option.some_inj, Stop.failed.injEq]

instance : LawfulErrors σ (Except ε) ε :=
  .ofRun (fun _ _ => rfl) fun m k w => by cases m <;> rfl

end Eager

section Action

variable {σ : Type} [Observer σ]

instance : ErrorHalting σ (Action σ) Failure where
  failed := id
  error? := some
  error?_eq_some := Option.some_inj

instance : LawfulErrors σ (Action σ) Failure :=
  .ofRun (fun e w => by
      rw [Action.runBuilt_ok]
      exact Action.run.eq_1 ..) fun m k w => by
    show Action.runBuilt (.ok (Action.rescue m _), w) =
      match Action.runBuilt (.ok m, w) with | _ => _
    rw [Action.runBuilt_ok, Action.runBuilt_ok, Action.run]
    rcases m.run w with ⟨_ | _, _⟩ <;> rfl

end Action

/-! ## Futures -/

section Future

variable {σ : Type} [Observer σ]

instance : ErrorHalting σ (Future σ) Failure where
  failed := Future.Halt.failed
  error?
    | .failed e => some e
    | .dropped => none
  error?_eq_some {h e} := by
    cases h
    · rw [Option.some_inj, Future.Halt.failed.injEq]
    · simp

open Future in
instance : LawfulErrors σ (Future σ) Failure where
  halts_raise := by
    rintro α e w w' ⟨s, r⟩ c' o
    rw [show (ErrorChannel.raise σ e : Future σ α) = ready (.error e) from rfl, halts_iff,
      pollBuilt_ok, poll]
    exact haltsFrom_ended
  halts_handle := by
    rintro α m k w w' ⟨s, r⟩ c' o
    rw [show ErrorChannel.handle m k w = (.ok (rescue m fun e w => .ofRun (k e w)), w) from rfl,
      halts_iff, pollBuilt_ok, runs_rescue s _ m w r, haltsFrom_around (runs_rescue s _),
      ← pollBuilt_ok]
    constructor
    · rintro (⟨e | x, w₁, r₁, inner, rest⟩ | ⟨same, left, rfl⟩)
      · exact .inl ⟨e, w₁, (s, r₁), haltsFrom_failed.mpr ⟨rfl, inner⟩, rest⟩
      · obtain ⟨rfl, rfl, rfl⟩ := haltsFrom_ended.mp rest
        exact .inr ⟨haltsFrom_ok.mpr ⟨rfl, inner⟩, trivial⟩
      · exact .inr ⟨haltsFrom_dropped.mpr ⟨same, left⟩, rfl⟩
    · rintro (⟨e, w₁, ⟨s₁, r₁⟩, hm, rest⟩ | ⟨hm, passing⟩)
      · obtain ⟨rfl, inner⟩ := haltsFrom_failed.mp hm
        exact .inl ⟨.error e, w₁, r₁, inner, rest⟩
      · rcases o with (e | -) | x
        · exact absurd passing not_passing_failed
        · obtain ⟨same, left⟩ := haltsFrom_dropped.mp hm
          exact .inr ⟨same, left, rfl⟩
        · obtain ⟨same, inner⟩ := haltsFrom_ok.mp hm
          exact .inl ⟨.ok x, w', c'.2, inner, haltsFrom_ended.mpr ⟨rfl, rfl, Prod.ext same rfl⟩⟩

end Future

/-! ## Layers -/

namespace Layered

variable {σ : Type} {M : Type → Type u} {ε : Type} [Carrier σ M] [Halting σ M]

instance : ErrorHalting σ (Layered .layer M ε) ε where
  failed := Either.right
  error?
    | .right e => some e
    | .left _ => none
  error?_eq_some {h e} := by
    cases h
    · simp
    · rw [Option.some_inj, Either.right.injEq]

omit [Halting σ M] in
/-- A handler of the layer goes on in the base, where there was an early exit. -/
theorem inner_handle {α : Type} (m : Layered .layer M ε α)
    (k : ε → Host σ (Layered .layer M ε α)) (w : σ) :
    inner (ErrorChannel.handle m k w) = Carrier.bind m.base
      (Either.fold (fun e => (k e).map base) fun a => .pure (Carrier.pure σ (.right a))) w :=
  inner_mk _ w

instance [Observed σ M] [LawfulHalting σ M] : LawfulErrors σ (Layered .layer M ε) ε where
  halts_raise := halts_at_once (.ok (.left _)) halts_pure
  halts_handle := by
    intro α m k w w' c c' o
    refine halts_iff.trans ?_
    rw [inner_handle]
    constructor
    · rintro ⟨o₁, halted, rfl⟩
      rcases halts_bind.mp halted with ⟨e | a, w₁, c₁, first, rest⟩ | ⟨h, rfl, first⟩
      · refine .inl ⟨e, w₁, c₁, ⟨_, first, rfl⟩, o₁, ?_, rfl⟩
        rw [inner_apply]
        exact rest
      · obtain ⟨rfl, rfl, rfl⟩ := halts_pure.mp rest
        exact .inr ⟨⟨_, first, rfl⟩, trivial⟩
      · exact .inr ⟨⟨_, first, rfl⟩, rfl⟩
    · rintro (⟨e, w₁, c₁, ⟨h | e | a, halted, ⟨⟩⟩, o₁, rest, rfl⟩ |
        ⟨⟨h | e | a, halted, rfl⟩, passing⟩)
      · rw [inner_apply] at rest
        exact ⟨o₁, halts_bind.mpr (.inl ⟨_, w₁, c₁, halted, rest⟩), rfl⟩
      · exact ⟨_, halts_bind.mpr (.inr ⟨h, rfl, halted⟩), rfl⟩
      · exact absurd passing not_passing_failed
      · exact ⟨_, halts_bind.mpr (.inl ⟨_, _, _, halted, halts_pure.mpr ⟨rfl, rfl, rfl⟩⟩), rfl⟩

variable [ErrorChannel σ M ε] [ErrorHalting σ M ε]

instance : ErrorHalting σ (Layered .base M ε) ε where
  failed e := Either.left (failed e)
  error?
    | .left h => error? h
    | .right _ => none
  error?_eq_some {h e} := by
    cases h
    · rw [Either.left.injEq]
      exact error?_eq_some
    · simp

omit [Carrier σ M] [Halting σ M] [ErrorHalting σ M ε] in
/-- A handler of a layer that routes to the base is one of the base. -/
theorem inner_handle_base {α : Type} (m : Layered .base M ε α)
    (k : ε → Host σ (Layered .base M ε α)) (w : σ) :
    inner (ErrorChannel.handle m k w) = ErrorChannel.handle m.base (fun e => (k e).map base) w :=
  inner_mk _ w

instance [LawfulErrors σ M ε] : LawfulErrors σ (Layered .base M ε) ε where
  halts_raise := halts_at_once (.error _) LawfulErrors.halts_raise
  halts_handle := by
    intro α m k w w' c c' o
    refine halts_iff.trans ?_
    rw [inner_handle_base]
    constructor
    · rintro ⟨o₁, halted, rfl⟩
      rcases LawfulErrors.halts_handle.mp halted with ⟨e, w₁, c₁, first, rest⟩ | ⟨first, passing⟩
      · refine .inl ⟨e, w₁, c₁, ⟨_, first, rfl⟩, o₁, ?_, rfl⟩
        rw [inner_apply]
        exact rest
      · refine .inr ⟨⟨_, first, rfl⟩, ?_⟩
        rcases o₁ with h | e | a
        · exact passing
        · rfl
        · trivial
    · rintro (⟨e, w₁, c₁, ⟨h | e | a, halted, same⟩, o₁, rest, rfl⟩ |
        ⟨⟨o₁, halted, rfl⟩, passing⟩)
      · cases same
        rw [inner_apply] at rest
        exact ⟨o₁, LawfulErrors.halts_handle.mpr (.inl ⟨_, w₁, c₁, halted, rest⟩), rfl⟩
      · cases same
      · cases same
      · refine ⟨o₁, LawfulErrors.halts_handle.mpr (.inr ⟨halted, ?_⟩), rfl⟩
        rcases o₁ with h | e | a
        · exact passing
        · trivial
        · trivial

end Layered

end Resumption
