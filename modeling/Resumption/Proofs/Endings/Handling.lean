/-
Handling — how computations end whose errors are handled.

A handler sees the failures at the level where errors are raised and goes on from
there.  All other endings are those of the computation that it stands around.

| the computation ends with              | and handled                                |
|----------------------------------------|--------------------------------------------|
| a value                                | with the value                             |
| a failure at the level of raised errors | as what the handler makes of it does      |
| a failure at another level             | with that failure                          |

Suspended computations are built without a call of a closure (`Suspending`), so what
stands around one is there before anything can fail.
-/
import Resumption.Proofs.Endings.Stack

namespace Resumption

universe u

/-- The level at which errors are raised. -/
def Endings.raised (σ : Type) (M : Type → Type u) [Endings σ M] : Nat :=
  channel σ M (depth σ M)

/-- A handler goes on from the failures at the level of raised errors, and from no other. -/
class LawfulHandling (σ : Type) (M : Type → Type u) [ErrorChannel σ M Failure] [Endings σ M] :
    Prop where
  ends_handle {α : Type} {m : M α} {k : Failure → Host σ (M α)} {w w' : σ}
    {c c' : Endings.Setting σ M} {o : Except Fault α} :
    Endings.Ends c (ErrorChannel.handle m k w) o w' c' ↔
      (∃ e w₁ c₁, Endings.Ends c (.ok m, w) (.error ⟨Endings.raised σ M, e⟩) w₁ c₁ ∧
        Endings.Ends c₁ (k e w₁) o w' c') ∨
      (Endings.Ends c (.ok m, w) o w' c' ∧ ∀ e, o ≠ .error ⟨Endings.raised σ M, e⟩)

/-- A carrier that builds its computations without calling closures. -/
class Suspending (σ : Type) (M : Type → Type u) [Carrier σ M] [ErrorChannel σ M Failure] :
    Prop where
  bind_built {α β : Type} (m : M α) (k : α → Host σ (M β)) : ∃ n, Carrier.bind m k = Host.pure n
  handle_built {α : Type} (m : M α) (k : Failure → Host σ (M α)) :
    ∃ n, ErrorChannel.handle m k = Host.pure n

/-! ## The bottom -/

section Bottom

variable {σ : Type} [Observer σ]

/-- At the bottom there is one level, and every failure is at it. -/
theorem atBottom_ne_error {α : Type} {r : Except Failure α} :
    (∀ e, atBottom r ≠ .error ⟨0, e⟩) ↔ ∃ x, r = .ok x := by
  rcases r with e | x
  · exact ⟨fun other => absurd rfl (other e), nofun⟩
  · exact ⟨fun _ => ⟨x, rfl⟩, nofun⟩

instance : Suspending σ (Action σ) where
  bind_built _ _ := ⟨_, rfl⟩
  handle_built _ _ := ⟨_, rfl⟩

instance : Suspending σ (Future σ) where
  bind_built _ _ := ⟨_, rfl⟩
  handle_built _ _ := ⟨_, rfl⟩

instance : LawfulHandling σ (Action σ) where
  ends_handle := by
    intro α m k w w' c c' o
    rw [show ErrorChannel.handle m k w =
      (.ok (Action.rescue m fun e w => .ofRun (k e w)), w) from rfl]
    simp only [Action.ends_ok, Action.ends_call, Action.run]
    rcases m.run w with ⟨e | x, v⟩
    · constructor
      · intro handled
        exact .inl ⟨e, v, c, rfl, handled⟩
      · rintro (⟨_, _, _, ⟨⟩, handled⟩ | ⟨⟨⟩, other⟩)
        · exact handled
        · exact absurd rfl (other e)
    · constructor
      · rintro ⟨⟩
        exact .inr ⟨rfl, nofun⟩
      · rintro (⟨_, _, _, ⟨⟩, _⟩ | ⟨⟨⟩, _⟩)
        rfl

open Future in
instance : LawfulHandling σ (Future σ) where
  ends_handle := by
    rintro α m k w w' ⟨s, r⟩ ⟨s', r'⟩ o
    rw [show ErrorChannel.handle m k w =
      (.ok (Future.rescue m fun e w => .ofRun (k e w)), w) from rfl]
    rw [ends_ok, runs_rescue s _ m w r]
    simp only [reaches_around (runs_rescue s _)]
    constructor
    · rintro ⟨rfl, o₁, ⟨e | x, w₁, r₁, inner, rest⟩, rfl⟩
      · exact .inl ⟨e, w₁, (_, r₁), ends_ok.mpr ⟨rfl, _, inner, rfl⟩,
          ends_call.mpr ⟨rfl, o₁, rest, rfl⟩⟩
      · obtain ⟨rfl, rfl, rfl⟩ := reaches_ended.mp rest
        exact .inr ⟨ends_ok.mpr ⟨rfl, _, inner, rfl⟩, nofun⟩
    · rintro (⟨e, w₁, ⟨s₁, r₁⟩, failed, handled⟩ | ⟨ended, other⟩)
      · obtain ⟨rfl, e' | y, inner, hx⟩ := ends_ok.mp failed <;> cases hx
        obtain ⟨rfl, o₁, rest, rfl⟩ := ends_call.mp handled
        exact ⟨rfl, o₁, ⟨_, _, _, inner, rest⟩, rfl⟩
      · obtain ⟨rfl, o₁, inner, rfl⟩ := ends_ok.mp ended
        obtain ⟨x, rfl⟩ := atBottom_ne_error.mp other
        exact ⟨rfl, _, ⟨_, _, _, inner, .ended ..⟩, rfl⟩

end Bottom

/-! ## A layer -/

namespace Layered

section Built

variable {σ : Type} {M : Type → Type u} [Carrier σ M] [ErrorChannel σ M Failure] [Suspending σ M]
  {route : Route} {α β : Type}

theorem bind_built (m : Layered route M Failure α)
    (k : α → Host σ (Layered route M Failure β)) : ∃ n, m.bind k = Host.pure n := by
  obtain ⟨n, built⟩ := Suspending.bind_built m.base
    (Either.fold (fun e => .pure (Carrier.pure σ (.left e))) fun a => (k a).map base)
  exact ⟨⟨n⟩, congrArg (Host.map mk) built⟩

instance : Suspending σ (Layered .base M Failure) where
  bind_built := bind_built
  handle_built m k := by
    obtain ⟨n, built⟩ := Suspending.handle_built m.base fun e => (k e).map base
    exact ⟨⟨n⟩, congrArg (Host.map mk) built⟩

instance : Suspending σ (Layered .layer M Failure) where
  bind_built := bind_built
  handle_built m k := by
    obtain ⟨n, built⟩ := Suspending.bind_built m.base
      (Either.fold (fun e => (k e).map base) fun a => .pure (Carrier.pure σ (.right a)))
    exact ⟨⟨n⟩, congrArg (Host.map mk) built⟩

end Built

variable {σ : Type} {M : Type → Type u} [Observer σ] [Carrier σ M] [ErrorChannel σ M Failure]
  [Bracketing σ M] [Endings σ M] [LawfulEndings σ M]

open LawfulEndings Endings

omit [Observer σ] [Carrier σ M] [ErrorChannel σ M Failure] [Bracketing σ M]
  [LawfulEndings σ M] in
theorem raised_layer : raised σ (Layered .layer M Failure) = depth σ M + 1 :=
  channel_depth

omit [Observer σ] [Carrier σ M] [ErrorChannel σ M Failure] [Bracketing σ M]
  [LawfulEndings σ M] in
theorem raised_base : raised σ (Layered .base M Failure) = raised σ M :=
  channel_depth

/-- A left of the layer is above all levels of the base. -/
theorem surfaced_eq_raised {α : Type} {o : Except Fault (Either Failure α)} {e : Failure} :
    surfaced (depth σ M) o = .error ⟨raised σ M, e⟩ ↔ o = .error ⟨raised σ M, e⟩ := by
  have below : raised σ M ≤ depth σ M := channel_le _
  rcases o with f | e' | a
  · simp only [surfaced, Except.error.injEq]
  · have above : depth σ M + 1 ≠ raised σ M := by omega
    simp [surfaced, above]
  · simp [surfaced]

variable {α : Type} {w w' : σ} {c c' : Setting σ M} {o : Except Fault α}

theorem ends_handle_base [LawfulHandling σ M] {m : Layered .base M Failure α}
    {k : Failure → Host σ (Layered .base M Failure α)} :
    Ends (M := Layered .base M Failure) c (ErrorChannel.handle m k w) o w' c' ↔
      (∃ e w₁ c₁, Ends (M := Layered .base M Failure) c (.ok m, w) (.error ⟨raised σ M, e⟩) w₁ c₁ ∧
        Ends (M := Layered .base M Failure) c₁ (k e w₁) o w' c') ∨
      (Ends (M := Layered .base M Failure) c (.ok m, w) o w' c' ∧
        ∀ e, o ≠ .error ⟨raised σ M, e⟩) := by
  rw [show ErrorChannel.handle m k =
    (ErrorChannel.handle m.base fun e => (k e).map base).map mk from rfl, ends_mk]
  simp only [LawfulHandling.ends_handle]
  constructor
  · rintro ⟨o₁, ⟨e, w₁, c₁, failed, handled⟩ | ⟨ended, other⟩, rfl⟩
    · rw [map_base] at handled
      exact .inl ⟨e, w₁, c₁, ⟨_, failed, rfl⟩, o₁, handled, rfl⟩
    · exact .inr ⟨⟨o₁, ended, rfl⟩, fun e same => other e (surfaced_eq_raised.mp same)⟩
  · rintro (⟨e, w₁, c₁, ⟨o₂, failed, same⟩, o₁, handled, rfl⟩ | ⟨⟨o₁, ended, rfl⟩, other⟩)
    · obtain rfl := surfaced_eq_raised.mp same
      rw [← map_base] at handled
      exact ⟨o₁, .inl ⟨e, w₁, c₁, failed, handled⟩, rfl⟩
    · exact ⟨o₁, .inr ⟨ended, fun e same => other e (surfaced_eq_raised.mpr same)⟩, rfl⟩

theorem ends_handle_layer {m : Layered .layer M Failure α}
    {k : Failure → Host σ (Layered .layer M Failure α)} :
    Ends (M := Layered .layer M Failure) c (ErrorChannel.handle m k w) o w' c' ↔
      (∃ e w₁ c₁,
        Ends (M := Layered .layer M Failure) c (.ok m, w) (.error ⟨depth σ M + 1, e⟩) w₁ c₁ ∧
          Ends (M := Layered .layer M Failure) c₁ (k e w₁) o w' c') ∨
      (Ends (M := Layered .layer M Failure) c (.ok m, w) o w' c' ∧
        ∀ e, o ≠ .error ⟨depth σ M + 1, e⟩) := by
  rw [show ErrorChannel.handle m k = (Carrier.bind m.base (Either.fold (fun e => (k e).map base)
    fun a => .pure (Carrier.pure σ (.right a)))).map mk from rfl, ends_mk]
  simp only [ends_bind]
  constructor
  · rintro ⟨o₁, ⟨e | a, w₁, c₁, ended, rest⟩ | ⟨f, rfl, failed⟩, rfl⟩
    · replace rest : Ends c₁ ((k e).map base w₁) o₁ w' c' := rest
      rw [map_base] at rest
      exact .inl ⟨e, w₁, c₁, ⟨_, ended, rfl⟩, o₁, rest, rfl⟩
    · obtain ⟨rfl, rfl, rfl⟩ := ends_pure.mp rest
      exact .inr ⟨⟨_, ended, rfl⟩, nofun⟩
    · have below : f.level ≤ depth σ M := level_le failed
      refine .inr ⟨⟨_, failed, rfl⟩, fun e same => ?_⟩
      cases same
      exact Nat.not_succ_le_self _ below
  · rintro (⟨e, w₁, c₁, ⟨f | e' | a, ended, ⟨⟩⟩, o₁, handled, rfl⟩ |
      ⟨⟨f | e | a, ended, rfl⟩, other⟩)
    · exact absurd (level_le ended) (Nat.not_succ_le_self _)
    · rw [← map_base] at handled
      exact ⟨o₁, .inl ⟨_, w₁, c₁, ended, handled⟩, rfl⟩
    · exact ⟨_, .inr ⟨f, rfl, ended⟩, rfl⟩
    · exact absurd rfl (other e)
    · exact ⟨_, .inl ⟨_, _, _, ended, ends_pure.mpr ⟨rfl, rfl, rfl⟩⟩, rfl⟩

instance [LawfulHandling σ M] : LawfulHandling σ (Layered .base M Failure) where
  ends_handle := by
    rw [raised_base]
    exact ends_handle_base

instance : LawfulHandling σ (Layered .layer M Failure) where
  ends_handle := by
    rw [raised_layer]
    exact ends_handle_layer

end Layered

/-! ## Stacks -/

namespace Stack

variable {σ : Type} {M : Type → Type u} [Carrier σ M] [ErrorChannel σ M Failure]

instance instSuspending [Suspending σ M] : (routes : List Route) → Suspending σ (Stack M routes)
  | [] => inferInstanceAs (Suspending σ M)
  | .layer :: routes =>
    haveI := instSuspending routes
    inferInstanceAs (Suspending σ (Layered .layer (Stack M routes) Failure))
  | .base :: routes =>
    haveI := instSuspending routes
    inferInstanceAs (Suspending σ (Layered .base (Stack M routes) Failure))

instance instLawfulHandling [Observer σ] [Bracketing σ M] [Endings σ M] [LawfulEndings σ M]
    [LawfulHandling σ M] : (routes : List Route) → LawfulHandling σ (Stack M routes)
  | [] => inferInstanceAs (LawfulHandling σ M)
  | .layer :: routes =>
    inferInstanceAs (LawfulHandling σ (Layered .layer (Stack M routes) Failure))
  | .base :: routes =>
    haveI := instLawfulHandling routes
    inferInstanceAs (LawfulHandling σ (Layered .base (Stack M routes) Failure))

end Stack

end Resumption
