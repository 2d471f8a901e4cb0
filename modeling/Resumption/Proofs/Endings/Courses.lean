/-
Courses — the courses that a bracket through layers can take.

The layers of a stack may be of either route, in any order.  A bracket of the
outermost layer takes one of these courses, and no other:

| course          | acquisition                | use      | release | the bracket ends with           |
|-----------------|----------------------------|----------|---------|---------------------------------|
| `released`      | a resource                 | a value  | ends    | the value of the use            |
| `releaseFailed` | a resource                 | a value  | fails   | the failure of the release      |
| `useFailed`     | a resource                 | fails    | either  | see `afterFailedUse`            |
| `exited`        | a left, on the layer route | no call  | no call | the left                        |
| `raised`        | a left, on the base route  | no call  | no call | what raising it in the base does |
| `notAcquired`   | a failure further down     | no call  | no call | that failure, or its channel's  |

A failure is a level and a cause, so the failure of a release comes out of the
bracket at the level at which it arose, whatever routes it was carried through.
The world goes through the phases of a course one after another.  A phase that a
course lists runs once, therefore, and one that it does not list does not run.
-/
import Resumption.Proofs.Endings.Stack

namespace Resumption

universe u

variable {σ : Type} {M : Type → Type u} {route : Route} {routes : List Route} {ρ β : Type}

theorem Stack.depth_eq [Endings σ M] (bottom : Endings.depth σ M = 0) :
    (routes : List Route) → Endings.depth σ (Stack M routes) = routes.length
  | [] => bottom
  | _ :: routes => congrArg (· + 1) (depth_eq bottom routes)

variable [Observer σ] [Carrier σ M] [ErrorChannel σ M Failure] [Bracketing σ M] [Endings σ M]

open Endings in
/-- The courses of a bracket whose outermost layer stands on the layers `routes`.  The
lefts of the outermost layer are at the level after those of `routes`. -/
inductive Course (acquire : Stack M (route :: routes) ρ)
    (use : ρ → Host σ (Stack M (route :: routes) β))
    (release : ρ → Host σ (Stack M (route :: routes) Unit)) (w : σ)
    (c : Setting σ (Stack M (route :: routes))) :
    Except Fault β → σ → Setting σ (Stack M (route :: routes)) → Prop
  | released {b : β} {w₃ : σ} {c₃ : Setting σ (Stack M (route :: routes))} :
      Bracketed acquire use release w c (.ok b) (.ok ()) w₃ c₃ →
      Course acquire use release w c (.ok b) (note (.released false false) w₃) c₃
  | releaseFailed {b : β} {g : Fault} {w₃ : σ} {c₃ : Setting σ (Stack M (route :: routes))} :
      Bracketed acquire use release w c (.ok b) (.error g) w₃ c₃ →
      Course acquire use release w c (.error g) (note (.released false true) w₃) c₃
  | useFailed {f : Fault} {released : Except Fault Unit} {w₃ : σ}
      {c₃ : Setting σ (Stack M (route :: routes))} {o : Except Fault β} {w' : σ} :
      Bracketed acquire use release w c (.error f) released w₃ c₃ →
      failedWith (afterFailedUse (channel σ (Stack M (route :: routes))) f
        (released.map fun _ => .clean) w₃) = (o, w') →
      Course acquire use release w c o w' c₃
  | exited {e : Failure} {w₁ : σ} {c₁ : Setting σ (Stack M (route :: routes))} :
      route = .layer →
      Ends c (.ok acquire, w) (.error ⟨routes.length + 1, e⟩) w₁ c₁ →
      Course acquire use release w c (.error ⟨routes.length + 1, e⟩)
        (note (.released false false) (note .acquired w₁)) c₁
  | raised {e : Failure} {g : Fault} {w₁ w₂ : σ}
      {c₁ c₂ : Setting σ (Stack M (route :: routes))} :
      route = .base →
      Ends c (.ok acquire, w) (.error ⟨routes.length + 1, e⟩) w₁ c₁ →
      Ends (M := Stack M routes) c₁
        (.ok (ErrorChannel.raise σ e : Stack M routes (Either Failure β)), note .acquired w₁)
        (.error g) w₂ c₂ →
      Course acquire use release w c (.error g) (note (.released (g.level = 0) false) w₂) c₂
  | notAcquired {f : Fault} {o : Except Fault β} {w₁ w' : σ}
      {c₁ : Setting σ (Stack M (route :: routes))} :
      f.level ≤ routes.length →
      Ends c (.ok acquire, w) (.error f) w₁ c₁ →
      failedWith (Resumption.notAcquired (channel σ (Stack M (route :: routes))) f w₁) = (o, w') →
      Course acquire use release w c o w' c₁

/-- Brackets through any layers over the bottom carrier `M` take the courses listed, and
each of them, in every run. -/
def BracketCourses (σ : Type) (M : Type → Type u) [Observer σ] [Carrier σ M]
    [ErrorChannel σ M Failure] [Bracketing σ M] [Endings σ M] : Prop :=
  ∀ (route : Route) (routes : List Route) {ρ β : Type} (acquire : Stack M (route :: routes) ρ)
    (use : ρ → Host σ (Stack M (route :: routes) β))
    (release : ρ → Host σ (Stack M (route :: routes) Unit)) (w w' : σ)
    (c c' : Endings.Setting σ (Stack M (route :: routes))) (o : Except Fault β),
    Endings.Ends c (bracket acquire use release w) o w' c' ↔
      Course acquire use release w c o w' c'

section Courses

variable {acquire : Stack M (route :: routes) ρ} {use : ρ → Host σ (Stack M (route :: routes) β)}
  {release : ρ → Host σ (Stack M (route :: routes) Unit)} {w w' : σ}
  {c c' : Endings.Setting σ (Stack M (route :: routes))} {o : Except Fault β}

omit [Observer σ] [Carrier σ M] [ErrorChannel σ M Failure] [Bracketing σ M] in
/-- Where an early exit of the outermost layer is raised. -/
theorem channel_outermost (bottom : Endings.depth σ M = 0) (route : Route) :
    Endings.channel σ (Stack M (route :: routes)) (routes.length + 1) =
      match route with
      | .layer => routes.length + 1
      | .base => Endings.channel σ (Stack M routes) routes.length := by
  have above := Layered.channelOver_above route (Endings.channel σ (Stack M routes))
    (Endings.depth σ (Stack M routes))
  rw [Stack.depth_eq bottom] at above
  refine Eq.trans ?_ above
  show Layered.channelOver _ _ _ _ = _
  rw [Stack.depth_eq bottom]

variable [LawfulEndings σ M]

/-- A failed acquisition takes one of the three courses without a use. -/
theorem course_of_notAcquired (bottom : Endings.depth σ M = 0) {f : Fault} {w₁ : σ}
    (acquired : Endings.Ends c (.ok acquire, w) (.error f) w₁ c')
    (closed : failedWith (notAcquired (Endings.channel σ (Stack M (route :: routes))) f w₁) =
      (o, w')) : Course acquire use release w c o w' c' := by
  obtain ⟨level, e⟩ := f
  have within : level ≤ routes.length + 1 := by
    have level_le := LawfulEndings.level_le acquired
    rwa [Stack.depth_eq bottom] at level_le
  rcases Nat.lt_or_eq_of_le within with below | rfl
  · exact .notAcquired (Nat.le_of_lt_succ below) acquired closed
  · rw [notAcquired, if_neg (Nat.succ_ne_zero _), channel_outermost bottom] at closed
    cases route with
    | layer =>
      cases closed
      exact .exited rfl acquired
    | base =>
      cases closed
      refine .raised rfl acquired (LawfulEndings.ends_raise.mpr ⟨?_, rfl, rfl⟩)
      rw [Stack.depth_eq bottom]

/-- Every course is the closing of a bracket that acquired nothing, or whose use and
release have ended. -/
theorem closing_of_course (bottom : Endings.depth σ M = 0)
    (course : Course acquire use release w c o w' c') :
    (∃ f w₁, Endings.Ends c (.ok acquire, w) (.error f) w₁ c' ∧
      failedWith (notAcquired (Endings.channel σ (Stack M (route :: routes))) f w₁) = (o, w')) ∨
    ∃ used released w₃, Bracketed acquire use release w c used released w₃ c' ∧
      bracketClosing (Endings.channel σ (Stack M (route :: routes))) used released w₃ =
        (o, w') := by
  cases course with
  | released phases => exact .inr ⟨_, _, _, phases, rfl⟩
  | releaseFailed phases => exact .inr ⟨_, _, _, phases, rfl⟩
  | @useFailed f released w₃ _ o w' phases closed =>
    refine .inr ⟨_, _, _, phases, ?_⟩
    cases closed
    rfl
  | exited on acquired =>
    subst on
    refine .inl ⟨_, _, acquired, ?_⟩
    rw [notAcquired, if_neg (Nat.succ_ne_zero _), channel_outermost bottom]
    rfl
  | raised on acquired raised =>
    subst on
    obtain ⟨fault, rfl, rfl⟩ := LawfulEndings.ends_raise.mp raised
    cases fault
    refine .inl ⟨_, _, acquired, ?_⟩
    rw [notAcquired, if_neg (Nat.succ_ne_zero _), channel_outermost bottom, Stack.depth_eq bottom]
    rfl
  | notAcquired _ acquired closed => exact .inl ⟨_, _, acquired, closed⟩

end Courses

theorem bracketCourses [LawfulEndings σ M] (bottom : Endings.depth σ M = 0) :
    BracketCourses σ M := by
  intro route routes ρ β acquire use release w w' c c' o
  rw [Endings.ends_bracket]
  constructor
  · rintro (⟨f, w₁, acquired, closed⟩ | ⟨used, released, w₃, phases, closed⟩)
    · exact course_of_notAcquired bottom acquired closed
    · rcases used with f | b
      · cases closed
        exact .useFailed phases rfl
      · rcases released with g | ⟨⟨⟩⟩
        · cases closed
          exact .releaseFailed phases
        · cases closed
          exact .released phases
  · exact closing_of_course bottom

/-- A bracket through layers of any routes over actions or over futures calls its use and
its release once each if its acquisition yields a resource, and neither otherwise; a
release that fails after a use that did not is the failure of the bracket, at its own
level. -/
theorem bracket_courses (σ : Type) [Observer σ] :
    BracketCourses σ (Action σ) ∧ BracketCourses σ (Future σ) :=
  ⟨bracketCourses rfl, bracketCourses rfl⟩

end Resumption
