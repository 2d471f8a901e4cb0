/-
Exposing — outcomes as values, on every error channel.

`attempt` exposes a value on the right and an error of the channel on the left, and
lets every other way to halt through.

| computation    | halts                                      | calls                       |
|----------------|--------------------------------------------|-----------------------------|
| `attempt m`    | as `exposed` makes of how `m` does         | nothing                     |
| `redeem m f g` | as `Redeemed` lists                        | `f` or `g` once, or neither |
| `m.outcome`    | as `attempt m`, at every poll of a future  | nothing                     |

`attempt` maps before it handles, so mapping by a plain function must not panic when
the computation is built (`PlainMaps`): a handler does not see what was never built.
-/
import Resumption.Proofs.Carrier.Channel

namespace Resumption

universe u

open Halting LawfulHalting ErrorHalting LawfulErrors

/-! ## Exposed outcomes -/

section Exposed

variable {σ : Type} {M : Type → Type u} {ε α : Type} [Halting σ M] [ErrorHalting σ M ε]

/-- The outcome as a value, unless it is of no concern to the channel. -/
def exposed : Except (Halt σ M) α → Except (Halt σ M) (Either ε α)
  | .ok a => .ok (.right a)
  | .error h =>
    match error? h with
    | some e => .ok (.left e)
    | none => .error h

theorem exposed_failed (e : ε) :
    exposed (.error (failed e) : Except (Halt σ M) α) = .ok (.left e) := by
  rw [exposed, error?_failed]

theorem exposed_passing {o : Except (Halt σ M) α} (passing : Passing o) :
    exposed o = o.map .right := by
  rcases o with h | a
  · rw [exposed, show error? h = none from passing]
    rfl
  · rfl

/-- The outcome that was exposed as a value. -/
def unexposed : Either ε α → Except (Halt σ M) α :=
  Either.fold (fun e => .error (failed e)) .ok

theorem exposed_eq_ok {o : Except (Halt σ M) α} {x : Either ε α} :
    exposed o = .ok x ↔ o = unexposed x := by
  constructor
  · intro same
    rcases failed_or_passing o with ⟨e, rfl⟩ | passing
    · rw [exposed_failed] at same
      cases same
      rfl
    · rw [exposed_passing passing] at same
      cases o <;> cases same
      rfl
  · rintro rfl
    cases x
    · exact exposed_failed _
    · rfl

theorem exposed_eq_error {o : Except (Halt σ M) α} {h : Halt σ M} :
    exposed o = .error h ↔ o = .error h ∧ error? h = none := by
  constructor
  · intro same
    rcases failed_or_passing o with ⟨e, rfl⟩ | passing
    · rw [exposed_failed] at same
      cases same
    · rw [exposed_passing passing] at same
      cases o <;> cases same
      exact ⟨rfl, passing⟩
  · rintro ⟨rfl, passing⟩
    exact exposed_passing passing

end Exposed

/-! ## The laws -/

section Laws

variable {σ : Type} {M : Type → Type u} {ε α β : Type} [Carrier σ M] [ErrorChannel σ M ε]
  [Halting σ M] [ErrorHalting σ M ε]

/-- How a computation halts that folds error and value into one: one of the closures is
called, once, and its own panic is the outcome; or neither is. -/
inductive Redeemed (m : M α) (onError : ε → Host σ β) (onValue : α → Host σ β) (w : σ)
    (c : Setting σ M) : Except (Halt σ M) β → σ → Setting σ M → Prop
  | value {a : α} {r : Except Panic β} {w₁ w' : σ} {c' : Setting σ M} :
      Halts c (.ok m, w) (.ok a) w₁ c' → onValue a w₁ = (r, w') →
      Redeemed m onError onValue w c (r.mapError ofPanic) w' c'
  | error {e : ε} {r : Except Panic β} {w₁ w' : σ} {c' : Setting σ M} :
      Halts c (.ok m, w) (.error (failed e)) w₁ c' → onError e w₁ = (r, w') →
      Redeemed m onError onValue w c (r.mapError ofPanic) w' c'
  | neither {h : Halt σ M} {w' : σ} {c' : Setting σ M} :
      Halts c (.ok m, w) (.error h) w' c' → error? h = none →
      Redeemed m onError onValue w c (.error h) w' c'

variable (σ M ε) in
/-- What exposing the outcomes of an error channel guarantees. -/
structure ExposureLaws : Prop where
  attempts {α : Type} (m : M α) {w w' : σ} {c c' : Setting σ M}
    {o : Except (Halt σ M) (Either ε α)} :
    Halts c (attempt m w) o w' c' ↔ ∃ o₁, Halts c (.ok m, w) o₁ w' c' ∧ o = exposed o₁
  never_fails {α : Type} (m : M α) {e : ε} {w w' : σ} {c c' : Setting σ M} :
    ¬ Halts c (attempt m w) (.error (failed e)) w' c'
  restored {α : Type} (m : M α) :
    HaltAlike ((attempt (σ := σ) m).chain fun x => Host.pure (fromEither (σ := σ) x)) (Host.pure m)
  redeems {α β : Type} (m : M α) (onError : ε → Host σ β) (onValue : α → Host σ β) {w w' : σ}
    {c c' : Setting σ M} {o : Except (Halt σ M) β} :
    Halts c (redeem m onError onValue w) o w' c' ↔ Redeemed m onError onValue w c o w' c'

variable [Observed σ M] [LawfulHalting σ M] [LawfulErrors σ M ε]

/-- Either side as a computation, which ends with it at once. -/
theorem halts_fromEither {x : Either ε α} {w w' : σ} {c c' : Setting σ M}
    {o : Except (Halt σ M) α} :
    Halts c (.ok (fromEither (σ := σ) x : M α), w) o w' c' ↔
      o = unexposed x ∧ w' = w ∧ c' = c := by
  cases x
  · exact halts_raise
  · exact halts_pure

variable [LawfulCarrier σ M] [PlainMaps σ M]

/-- A value is mapped to the right and an error handled into the left; the rest passes. -/
theorem halts_attempt {m : M α} {w w' : σ} {c c' : Setting σ M}
    {o : Except (Halt σ M) (Either ε α)} :
    Halts c (attempt m w) o w' c' ↔ ∃ o₁, Halts c (.ok m, w) o₁ w' c' ∧ o = exposed o₁ := by
  obtain ⟨n, built⟩ := PlainMaps.built (σ := σ) m fun a => (Either.right a : Either ε α)
  have mapped {o : Except (Halt σ M) (Either ε α)} {w' : σ} {c' : Setting σ M} :
      Halts c (.ok n, w) o w' c' ↔ ∃ o₁, Halts c (.ok m, w) o₁ w' c' ∧ o = o₁.map .right := by
    rw [show ((.ok n, w) : Except Panic (M (Either ε α)) × σ) = _ from (congrFun built w).symm]
    exact halts_mapped (h := Host.pure m)
  rw [attempt, built]
  refine halts_handle.trans ?_
  simp only [mapped]
  constructor
  · rintro (⟨e, w₁, c₁, ⟨h | a, halted, same⟩, rest⟩ | ⟨⟨o₁, halted, rfl⟩, passing⟩)
    · cases same
      obtain ⟨rfl, rfl, rfl⟩ := halts_pure.mp rest
      exact ⟨_, halted, (exposed_failed e).symm⟩
    · cases same
    · exact ⟨_, halted, (exposed_passing (passing_map.mp passing)).symm⟩
  · rintro ⟨o₁, halted, rfl⟩
    rcases failed_or_passing o₁ with ⟨e, rfl⟩ | passing
    · rw [exposed_failed]
      exact .inl ⟨e, w', c', ⟨_, halted, rfl⟩, halts_pure.mpr ⟨rfl, rfl, rfl⟩⟩
    · rw [exposed_passing passing]
      exact .inr ⟨⟨_, halted, rfl⟩, passing_map.mpr passing⟩

/-- `attempt` ends with what it exposed, -/
theorem halts_attempt_ok {m : M α} {x : Either ε α} {w w' : σ} {c c' : Setting σ M} :
    Halts c (attempt m w) (.ok x) w' c' ↔ Halts c (.ok m, w) (unexposed x) w' c' := by
  simp only [halts_attempt, eq_comm (a := Except.ok x), exposed_eq_ok, exists_eq_right]

/-- or as the computation does, where the channel does not see it. -/
theorem halts_attempt_error {m : M α} {h : Halt σ M} {w w' : σ} {c c' : Setting σ M} :
    Halts c (attempt m w) (.error h) w' c' ↔
      Halts c (.ok m, w) (.error h) w' c' ∧ error? h = none := by
  simp only [halts_attempt, eq_comm (a := Except.error h), exposed_eq_error]
  constructor
  · rintro ⟨o₁, halted, rfl, passing⟩
    exact ⟨halted, passing⟩
  · rintro ⟨halted, passing⟩
    exact ⟨_, halted, rfl, passing⟩

theorem attempt_never_failed (m : M α) {e : ε} {w w' : σ} {c c' : Setting σ M} :
    ¬ Halts c (attempt m w) (.error (failed e)) w' c' :=
  fun halted => not_passing_failed (α := α) (halts_attempt_error.mp halted).2

/-- Going on from what was exposed restores the outcome. -/
theorem attempt_fromEither (m : M α) :
    HaltAlike ((attempt (σ := σ) m).chain fun x => Host.pure (fromEither (σ := σ) x))
      (Host.pure m) := by
  intro w c o w' c'
  simp only [halts_chain, halts_attempt_ok, halts_attempt_error]
  constructor
  · rintro (⟨x, w₁, c₁, halted, rest⟩ | ⟨s, rfl, halted, -⟩)
    · obtain ⟨rfl, rfl, rfl⟩ := halts_fromEither.mp rest
      exact halted
    · exact halted
  · intro halted
    rcases failed_or_passing o with ⟨e, rfl⟩ | passing
    · exact .inl ⟨.left e, w', c', halted, halts_fromEither.mpr ⟨rfl, rfl, rfl⟩⟩
    · rcases o with h | a
      · exact .inr ⟨h, rfl, halted, passing⟩
      · exact .inl ⟨.right a, w', c', halted, halts_fromEither.mpr ⟨rfl, rfl, rfl⟩⟩

theorem halts_redeem {m : M α} {onError : ε → Host σ β} {onValue : α → Host σ β} {w w' : σ}
    {c c' : Setting σ M} {o : Except (Halt σ M) β} :
    Halts c (redeem m onError onValue w) o w' c' ↔ Redeemed m onError onValue w c o w' c' := by
  refine halts_map.trans ?_
  simp only [halts_attempt_ok, halts_attempt_error]
  constructor
  · rintro (⟨e | a, w₁, r, halted, called, rfl⟩ | ⟨s, rfl, halted, passing⟩)
    · exact .error halted called
    · exact .value halted called
    · exact .neither halted passing
  · rintro (⟨halted, called⟩ | ⟨halted, called⟩ | ⟨halted, passing⟩)
    · exact .inl ⟨.right _, _, _, halted, called, rfl⟩
    · exact .inl ⟨.left _, _, _, halted, called, rfl⟩
    · exact .inr ⟨_, rfl, halted, passing⟩

theorem ExposureLaws.of_lawful : ExposureLaws σ M ε where
  attempts _ := halts_attempt
  never_fails := attempt_never_failed
  restored := attempt_fromEither
  redeems _ _ _ := halts_redeem

end Laws

/-! ## The outcome of actions and futures -/

/-- An action's outcome is exposed by handling it, too. -/
theorem Action.outcome_agree {σ α : Type} [Observer σ] (a : Action σ α) :
    Agree (Host.pure (σ := σ) a.outcome) (attempt a) := by
  intro w
  show runBuilt (.ok a.outcome, w) = runBuilt (.ok (rescue (conclude a (onValue _)) _), w)
  rw [runBuilt_ok, runBuilt_ok, outcome, run, run, run]
  rcases a.run w with ⟨e | x, w'⟩
  · simp only [Host.caught, Host.pure, Either.ofExcept, onValue, Call.ofRun, Call.run,
      Carrier.pure, run]
  · rfl

namespace Future

variable {σ α : Type} [Observer σ]

/-- An outcome is polled as what is mapped to the right and then rescued into the left. -/
theorem SamePolls.outcome : ∀ (n : Nat) (a : Future σ α),
    SamePolls n a.outcome (rescue (conclude a (onValue fun x => .pure (.right x)))
      fun e w => .ofRun (.ok (ready (.ok (.left e))), w))
  | 0, _ => trivial
  | n + 1, a => fun scopes w r => by
      rw [Future.outcome, poll, poll, poll]
      rcases a.poll scopes w r with ⟨(e | x) | a', w', r'⟩
      · simp only [Polled.ofHost, Host.caught, onValue, Host.pure, Either.ofExcept, Call.ofRun,
          Call.poll, poll]
        exact .ended _ w' r'
      · exact .ended _ w' r'
      · exact .pending w' r' ((Akin.conclude_source a' _).trans
          ((Akin.rescue_source _ _).trans (Akin.conclude_source a' _)).symm)
          (SamePolls.outcome n a')

/-- A future's outcome is exposed by handling it, too, at every poll. -/
theorem outcome_agree (a : Future σ α) : Agree (Host.pure (σ := σ) a.outcome) (attempt a) :=
  agree_of_samePolls fun n => SamePolls.outcome n a

end Future

/-- Exposing an outcome loses nothing and folding it calls one closure at most, on every
error channel; what actions and futures expose by themselves is the same. -/
theorem exposure_laws (σ : Type) [Observer σ] :
    OnEveryChannel σ (@ExposureLaws σ) (@ExposureLaws σ) (@ExposureLaws (Untraced σ)) ∧
    (∀ {α : Type} (a : Action σ α), Agree (Host.pure (σ := σ) a.outcome) (attempt a)) ∧
    ∀ {α : Type} (a : Future σ α), Agree (Host.pure (σ := σ) a.outcome) (attempt a) :=
  ⟨.of_lawful .of_lawful .of_lawful .of_lawful, Action.outcome_agree, Future.outcome_agree⟩

end Resumption
