/-
Single — one bracket from end to end.

On a bottom carrier there is one way to fail.  A bracket whose acquisition fails
calls nothing else and fails with it.  Any other bracket runs its use to its end,
then its release to its end, and then closes:

| course          | use   | release | outcome                | the bracket notes      |
|-----------------|-------|---------|------------------------|------------------------|
| `succeeded`     | value | ends    | the value              | `released false false` |
| `releaseFailed` | value | fails   | the release's failure  | `released false true`  |
| `useFailed`     | fails | ends    | the use's failure      | `released true false`  |
| `bothFailed`    | fails | fails   | the use's failure      | `released true true`, then `releaseFailureDropped` |

A use or a release that panics, before it has built its computation or in it, has
failed with the panic.
-/
import Resumption.Proofs.Endings.Bottom

namespace Resumption

universe u

/-! ## Closing -/

section Closing

variable {σ : Type} [Observer σ] {β : Type}

/-- Notes some events, one after another. -/
def noteAll : List Event → σ → σ
  | [], w => w
  | event :: events, w => noteAll events (note event w)

/-- How a bracket closes on a bottom carrier, from how its use and its release ended: its
outcome, and what it notes. -/
inductive Closes :
    Except Failure β → Except Failure Unit → Except Failure β → List Event → Prop
  | succeeded (b : β) : Closes (.ok b) (.ok ()) (.ok b) [.released false false]
  | releaseFailed (b : β) (g : Failure) :
      Closes (.ok b) (.error g) (.error g) [.released false true]
  | useFailed (e : Failure) : Closes (.error e) (.ok ()) (.error e) [.released true false]
  | bothFailed (e g : Failure) :
      Closes (.error e) (.error g) (.error e) [.released true true, .releaseFailureDropped e g]

theorem bracketClosing_iff {used : Except Failure β} {released : Except Failure Unit} {w w' : σ}
    {o : Except Fault β} :
    bracketClosing (fun _ => 0) (atBottom used) (atBottom released) w = (o, w') ↔
      ∃ o' events, Closes used released o' events ∧ o = atBottom o' ∧ w' = noteAll events w := by
  constructor
  · intro closed
    rcases used with e | b <;> rcases released with g | ⟨⟨⟩⟩ <;> cases closed
    · exact ⟨_, _, .bothFailed e g, rfl, rfl⟩
    · exact ⟨_, _, .useFailed e, rfl, rfl⟩
    · exact ⟨_, _, .releaseFailed b g, rfl, rfl⟩
    · exact ⟨_, _, .succeeded b, rfl, rfl⟩
  · rintro ⟨_, _, ⟨⟩, rfl, rfl⟩ <;> rfl

end Closing

/-- The warnings of a bracket: one if its use and its release have failed, with the
failure of the release. -/
def warnings {β : Type} : Except Failure β → Except Failure Unit → List Event
  | .error e, .error g => [.releaseFailureDropped e g]
  | _, _ => []

theorem Closes.warnings_eq {β : Type} {used : Except Failure β} {released : Except Failure Unit}
    {o : Except Failure β} {events : List Event} (closes : Closes used released o events) :
    (Event.acquired :: events).filter (fun event => event.level = .warn) =
      warnings used released := by
  cases closes <;> rfl

theorem atBottom_injective {α : Type} : Function.Injective (atBottom (α := α)) := by
  rintro (e | a) (e' | a') ⟨⟩ <;> rfl

/-! ## Brackets of a bottom carrier -/

/-- Brackets and finalizers of the bottom carrier `M`, in every run. -/
structure SingleBrackets (σ : Type) (M : Type → Type u) [Observer σ] [Carrier σ M]
    [ErrorChannel σ M Failure] [Bracketing σ M] [Endings σ M] : Prop where
  /-- A bracket acquires nothing and ends, or uses and releases what it acquired. -/
  bracket {ρ β : Type} (acquire : M ρ) (use : ρ → Host σ (M β)) (release : ρ → Host σ (M Unit))
    (w w' : σ) (c c' : Endings.Setting σ M) (o : Except Failure β) :
    Endings.Ends c (bracket acquire use release w) (atBottom o) w' c' ↔
      (∃ e, o = .error e ∧ Endings.Ends c (.ok acquire, w) (atBottom (.error e)) w' c') ∨
      ∃ r w₁ c₁ used w₂ c₂ released w₃ events,
        Endings.Ends c (.ok acquire, w) (atBottom (.ok r)) w₁ c₁ ∧
        Endings.Ends c₁ (use r (note .acquired w₁)) (atBottom used) w₂ c₂ ∧
        Endings.Ends c₂ (release r w₂) (atBottom released) w₃ c' ∧
        Closes used released o events ∧ w' = noteAll events w₃
  /-- A finalizer runs after the computation that it belongs to. -/
  guarantee {β : Type} (m : M β) (finalizer : M Unit) (w w' : σ) (c c' : Endings.Setting σ M)
    (o : Except Failure β) :
    Endings.Ends c (guarantee m finalizer w) (atBottom o) w' c' ↔
      ∃ used w₂ c₂ released w₃ events,
        Endings.Ends c (.ok m, note .acquired w) (atBottom used) w₂ c₂ ∧
        Endings.Ends c₂ (.ok finalizer, w₂) (atBottom released) w₃ c' ∧
        Closes used released o events ∧ w' = noteAll events w₃
  /-- A closure that panics before it has built a computation has failed. -/
  panic {α : Type} (p : Panic) (w w' : σ) (c c' : Endings.Setting σ M) (o : Except Failure α) :
    Endings.Ends (M := M) c (.error p, w) (atBottom o) w' c' ↔
      o = .error (.ofPanic p) ∧ w' = w ∧ c' = c

section

variable {σ : Type} {M : Type → Type u} [Observer σ] [Carrier σ M] [ErrorChannel σ M Failure]
  [Bracketing σ M] [Endings σ M] [LawfulEndings σ M]

/-- Where nothing fails above the bottom, every ending is one of the bottom. -/
theorem exists_atBottom {α : Type} (bottom : Endings.depth σ M = 0)
    {x : Except Panic (M α) × σ} {o : Except Fault α} {w' : σ} {c c' : Endings.Setting σ M}
    (ended : Endings.Ends c x o w' c') : ∃ o', o = atBottom o' := by
  rcases o with ⟨level, e⟩ | a
  · obtain rfl : level = 0 := Nat.le_zero.mp (bottom ▸ LawfulEndings.level_le ended)
    exact ⟨.error e, rfl⟩
  · exact ⟨.ok a, rfl⟩

theorem ends_single_bracket (bottom : Endings.depth σ M = 0)
    (flat : Endings.channel σ M = fun _ => 0) {ρ β : Type} {acquire : M ρ}
    {use : ρ → Host σ (M β)} {release : ρ → Host σ (M Unit)} {w w' : σ}
    {c c' : Endings.Setting σ M} {o : Except Failure β} :
    Endings.Ends c (bracket acquire use release w) (atBottom o) w' c' ↔
      (∃ e, o = .error e ∧ Endings.Ends c (.ok acquire, w) (atBottom (.error e)) w' c') ∨
      ∃ r w₁ c₁ used w₂ c₂ released w₃ events,
        Endings.Ends c (.ok acquire, w) (atBottom (.ok r)) w₁ c₁ ∧
        Endings.Ends c₁ (use r (note .acquired w₁)) (atBottom used) w₂ c₂ ∧
        Endings.Ends c₂ (release r w₂) (atBottom released) w₃ c' ∧
        Closes used released o events ∧ w' = noteAll events w₃ := by
  rw [Endings.ends_bracket, flat]
  constructor
  · rintro (⟨f, w₁, failed, closed⟩ | ⟨used, released, w₃, phases, closed⟩)
    · obtain ⟨e | r, hf⟩ := exists_atBottom bottom failed <;> cases hf
      rcases o with e' | b <;> cases closed
      exact .inl ⟨e, rfl, failed⟩
    · obtain ⟨acquired, ran, finished⟩ := phases
      obtain ⟨used, rfl⟩ := exists_atBottom bottom ran
      obtain ⟨released, rfl⟩ := exists_atBottom bottom finished
      obtain ⟨o', events, closes, same, rfl⟩ := bracketClosing_iff.mp closed
      cases atBottom_injective same
      exact .inr ⟨_, _, _, used, _, _, released, w₃, events, acquired, ran, finished, closes, rfl⟩
  · rintro (⟨e, rfl, failed⟩ |
      ⟨r, w₁, c₁, used, w₂, c₂, released, w₃, events, acquired, ran, finished, closes, rfl⟩)
    · exact .inl ⟨⟨0, e⟩, w', failed, rfl⟩
    · exact .inr ⟨_, _, w₃, .intro acquired ran finished,
        bracketClosing_iff.mpr ⟨o, events, closes, rfl, rfl⟩⟩

theorem singleBrackets (bottom : Endings.depth σ M = 0)
    (flat : Endings.channel σ M = fun _ => 0) : SingleBrackets σ M where
  bracket _ _ _ _ _ _ _ _ := ends_single_bracket bottom flat
  guarantee := by
    intro β m finalizer w w' c c' o
    refine (ends_single_bracket bottom flat).trans ?_
    constructor
    · rintro (⟨e, _, failed⟩ |
        ⟨r, w₁, c₁, used, w₂, c₂, released, w₃, events, acquired, ran, finished, closes, rfl⟩)
      · cases (LawfulEndings.ends_pure.mp failed).1
      · obtain ⟨_, rfl, rfl⟩ := LawfulEndings.ends_pure.mp acquired
        exact ⟨used, w₂, c₂, released, w₃, events, ran, finished, closes, rfl⟩
    · rintro ⟨used, w₂, c₂, released, w₃, events, ran, finished, closes, rfl⟩
      have acquired : Endings.Ends c (.ok (Carrier.pure σ () : M Unit), w) (.ok ()) w c :=
        LawfulEndings.ends_pure.mpr ⟨rfl, rfl, rfl⟩
      exact .inr ⟨(), w, c, used, w₂, c₂, released, w₃, events, acquired, ran, finished, closes,
        rfl⟩
  panic := by
    intro α p w w' c c' o
    rw [LawfulEndings.ends_panic]
    constructor
    · rintro ⟨same, rest⟩
      have same' : atBottom o = atBottom (.error (.ofPanic p)) := same
      exact ⟨atBottom_injective same', rest⟩
    · rintro ⟨rfl, rest⟩
      exact ⟨rfl, rest⟩

end

/-- One bracket of actions or of futures from end to end.  If the acquisition fails, so
does the bracket, and nothing else is called.  Otherwise the use is called with the
resource, then, when its computation has ended in any way, the release with the same
resource, and when that has ended the bracket closes; so does a finalizer, around a
computation that acquires nothing.  What a bracket notes holds one warning if both the use
and the release have failed, whose text ends with the failure of the release, and else
none.  A bracket of actions always ends. -/
theorem single_bracket (σ : Type) [Observer σ] :
    SingleBrackets σ (Action σ) ∧ SingleBrackets σ (Future σ) ∧
    (∀ {β : Type} (used : Except Failure β) (released : Except Failure Unit)
      (o : Except Failure β) (events : List Event), Closes used released o events →
        (Event.acquired :: events).filter (fun event => event.level = .warn) =
          warnings used released) ∧
    (∀ e g, ∃ text, (Event.releaseFailureDropped e g).message = text ++ toString g) ∧
    ∀ {ρ β : Type} (acquire : Action σ ρ) (use : ρ → Host σ (Action σ β))
      (release : ρ → Host σ (Action σ Unit)) (w : σ) (c : Endings.Setting σ (Action σ)),
      ∃ o w' c', Endings.Ends c (bracket acquire use release w) (atBottom o) w' c' := by
  refine ⟨singleBrackets rfl rfl, singleBrackets rfl rfl, ?_, ?_, ?_⟩
  · intro β used released o events closes
    exact closes.warnings_eq
  · intro e g
    exact ⟨_, rfl⟩
  · intro ρ β acquire use release w c
    exact ⟨_, _, c, Action.ends_iff.mpr rfl⟩

end Resumption
