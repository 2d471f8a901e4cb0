/-
Stack — brackets through any number of layers.

A stack is layers over a bottom carrier.  Its endings are those of its layers, so
the closing of brackets is known for every stack.  Where all layers are of the
layer route, an early exit is raised where it stands, and only the levels at
which the use and the release failed decide:

| use failed at | release failed at   | the bracket ends with          | reported      |
|---------------|---------------------|--------------------------------|---------------|
| `k`           | no level            | the failure of the use         |               |
| no level      | `l`                 | the failure of the release     |               |
| `k`           | `l`, with `k ≤ l`   | the failure of the use         | the release's |
| `k`           | `l`, with `l < k`   | the failure of the release     | nothing       |

So the failure of the use wins unless the release failed further down: there the
value of the use, an early exit, still looks like a success.
-/
import Resumption.Proofs.Endings.Bottom
import Resumption.Proofs.Endings.Layered

namespace Resumption

universe u

variable {σ : Type} {M : Type → Type u} {α β ρ : Type}

/-- Layers of early exits with a failure, one over the other, the outermost route first. -/
def Stack (M : Type → Type u) : List Route → Type → Type u
  | [] => M
  | route :: routes => Layered route (Stack M routes) Failure

namespace Stack

instance instCarrier [Carrier σ M] : (routes : List Route) → Carrier σ (Stack M routes)
  | [] => inferInstanceAs (Carrier σ M)
  | route :: routes =>
    letI := instCarrier routes
    inferInstanceAs (Carrier σ (Layered route (Stack M routes) Failure))

instance instErrorChannel [Carrier σ M] [ErrorChannel σ M Failure] :
    (routes : List Route) → ErrorChannel σ (Stack M routes) Failure
  | [] => inferInstanceAs (ErrorChannel σ M Failure)
  | .layer :: routes =>
    inferInstanceAs (ErrorChannel σ (Layered .layer (Stack M routes) Failure) Failure)
  | .base :: routes =>
    letI := instErrorChannel routes
    inferInstanceAs (ErrorChannel σ (Layered .base (Stack M routes) Failure) Failure)

instance instEndings [Endings σ M] : (routes : List Route) → Endings σ (Stack M routes)
  | [] => inferInstanceAs (Endings σ M)
  | route :: routes =>
    letI := instEndings routes
    inferInstanceAs (Endings σ (Layered route (Stack M routes) Failure))

variable [Observer σ] [Carrier σ M] [ErrorChannel σ M Failure] [Bracketing σ M]

instance instBracketing : (routes : List Route) → Bracketing σ (Stack M routes)
  | [] => inferInstanceAs (Bracketing σ M)
  | route :: routes =>
    letI := instBracketing routes
    inferInstanceAs (Bracketing σ (Layered route (Stack M routes) Failure))

instance instLawfulEndings [Endings σ M] [LawfulEndings σ M] :
    (routes : List Route) → LawfulEndings σ (Stack M routes)
  | [] => inferInstanceAs (LawfulEndings σ M)
  | .layer :: routes =>
    haveI := instLawfulEndings routes
    inferInstanceAs (LawfulEndings σ (Layered .layer (Stack M routes) Failure))
  | .base :: routes =>
    haveI := instLawfulEndings routes
    inferInstanceAs (LawfulEndings σ (Layered .base (Stack M routes) Failure))

end Stack

/-! ## Stacks of the layer route -/

/-- `n` layers of the layer route. -/
abbrev Exits (M : Type → Type u) (n : Nat) : Type → Type u :=
  Stack M (List.replicate n .layer)

namespace Exits

/-- Errors are raised where they stand, if they are in the bottom carrier. -/
theorem channel_eq [Endings σ M]
    (bottom : ∀ k, k ≤ Endings.depth σ M → Endings.channel σ M k = k) : (n : Nat) → {k : Nat} →
      k ≤ Endings.depth σ (Exits M n) → Endings.channel σ (Exits M n) k = k
  | 0, k, h => bottom k h
  | n + 1, k, h => by
      rcases Nat.lt_or_ge (Endings.depth σ (Exits M n)) k with above | below
      · obtain rfl : k = Endings.depth σ (Exits M n) + 1 := Nat.le_antisymm h above
        exact Layered.channelOver_above .layer _ _
      · refine (Layered.channelOver_of_le .layer below).trans ?_
        exact channel_eq bottom n below

end Exits

/-! ## Brackets through exits -/

/-- What a bracket reports when it drops the failure of its release. -/
def droppedReport (used released : Fault) : Event :=
  if used.level = 0 then .releaseFailureDropped used.failure released.failure
  else .releaseLeftDropped released.failure

theorem droppedReport_level (f g : Fault) : (droppedReport f g).level = .warn := by
  unfold droppedReport
  split <;> rfl

variable [Observer σ]

/-- How a bracket through exits ends whose acquisition failed: an early exit is the
resource of the bottom's bracket. -/
def exitUnacquired (f : Fault) (w : σ) : Except Fault β × σ :=
  (.error f, if f.level = 0 then w else note (.released false false) (note .acquired w))

/-- How a bracket through exits ends, from how its use and its release ended. -/
def exitClosing : Except Fault β → Except Fault Unit → σ → Except Fault β × σ
  | .ok b, .ok _, w => (.ok b, note (.released false false) w)
  | .ok _, .error g, w => (.error g, note (.released false true) w)
  | .error f, .ok _, w => (.error f, note (.released (f.level = 0) false) w)
  | .error f, .error g, w =>
    if f.level ≤ g.level then
      (.error f, if f.level = 0 then note (droppedReport f g) (note (.released true true) w)
        else note (.released false false) (note (droppedReport f g) w))
    else (.error g, note (.released false true) w)

/-- A failure of the release comes to be seen where the use failed, or further down. -/
theorem seenAt_exits {channel : Nat → Nat} {k : Nat} (raised : channel k = k) (l : Nat) :
    seenAt channel k l = min k l := by
  unfold seenAt
  split <;> omega

theorem bracketClosing_exits {channel : Nat → Nat} {depth : Nat}
    (raised : ∀ k, k ≤ depth → channel k = k) {used : Except Fault β}
    (hu : ∀ f, used = .error f → f.level ≤ depth) (released : Except Fault Unit) (w : σ) :
    bracketClosing channel used released w = exitClosing used released w := by
  rcases used with f | b
  · have seen := seenAt_exits (raised f.level (hu f rfl))
    rcases released with g | u
    · simp only [bracketClosing, closing, Except.map, afterFailedUse, exitClosing, seen]
      by_cases wins : f.level ≤ g.level
      · rw [if_neg (by omega), if_pos wins]
        by_cases bottom : f.level = 0
        · simp only [if_pos bottom, failedWith, droppedReport]
        · simp only [if_neg bottom, failedWith, droppedReport]
      · rw [if_pos (by omega), if_neg wins, Nat.min_eq_right (by omega)]
        rfl
    · rfl
  · rcases released with g | u <;> rfl

/-- Brackets through exits over the bottom carrier `M` end in this way, in every run:
with the failure of the acquisition, or as `exitClosing` says from the endings of the
use and the release. -/
def ExitPrecedence (σ : Type) (M : Type → Type u) [Observer σ] [Carrier σ M]
    [ErrorChannel σ M Failure] [Bracketing σ M] [Endings σ M] : Prop :=
  ∀ (n : Nat) {ρ β : Type} (acquire : Exits M n ρ) (use : ρ → Host σ (Exits M n β))
    (release : ρ → Host σ (Exits M n Unit)) (w w' : σ) (c c' : Endings.Setting σ (Exits M n))
    (o : Except Fault β),
    Endings.Ends c (bracket acquire use release w) o w' c' ↔
      (∃ f w₁, Endings.Ends c (.ok acquire, w) (.error f) w₁ c' ∧
        exitUnacquired f w₁ = (o, w')) ∨
      ∃ used released w₃, Bracketed acquire use release w c used released w₃ c' ∧
        exitClosing used released w₃ = (o, w')

theorem exitPrecedence [Carrier σ M] [ErrorChannel σ M Failure] [Bracketing σ M] [Endings σ M]
    [LawfulEndings σ M] (bottom : ∀ k, k ≤ Endings.depth σ M → Endings.channel σ M k = k) :
    ExitPrecedence σ M := by
  intro n ρ β acquire use release w w' c c' o
  have raised : ∀ k, k ≤ Endings.depth σ (Exits M n) → Endings.channel σ (Exits M n) k = k :=
    fun k => Exits.channel_eq bottom n
  rw [Endings.ends_bracket]
  refine or_congr ?_ ?_
  · refine exists_congr fun f => exists_congr fun w₁ => and_congr_right fun acquired => ?_
    have here := raised f.level (LawfulEndings.level_le acquired)
    rw [notAcquired, here]
    by_cases bottom : f.level = 0
    · simp only [if_pos bottom, failedWith, exitUnacquired]
    · simp only [if_neg bottom, failedWith, exitUnacquired, decide_eq_false bottom]
  · refine exists_congr fun used => exists_congr fun released => exists_congr fun w₃ =>
      and_congr_right fun phases => ?_
    obtain ⟨-, ran, -⟩ := phases
    rw [bracketClosing_exits raised]
    rintro f rfl
    exact LawfulEndings.level_le ran

/-- Through any number of exits over actions or over futures, a bracket ends with the
failure of its use, and reports that of its release, exactly if the release did not
fail further down than the use. -/
theorem bracket_precedence (σ : Type) [Observer σ] :
    ExitPrecedence σ (Action σ) ∧ ExitPrecedence σ (Future σ) :=
  ⟨exitPrecedence fun _ h => (Nat.le_zero.mp h).symm,
    exitPrecedence fun _ h => (Nat.le_zero.mp h).symm⟩

/-- A use that exits early and a release that fails in the bottom carrier. -/
def lostExit : Host Journal (Exits (Action Journal) 1 Unit) :=
  bracket (Carrier.pure Journal ()) (fun _ => .pure (ErrorChannel.raise Journal (.raised "use")))
    fun _ => Layered.lift (Action.fail (.raised "release"))

/-- The failure of the use is lost, and nothing is reported. -/
theorem lostExit_ends : Endings.Ends (M := Exits (Action Journal) 1) PUnit.unit (lostExit ⟨[]⟩)
    (.error ⟨0, .raised "release"⟩) ⟨[.acquired, .released false true]⟩ PUnit.unit :=
  ⟨.error ⟨0, .raised "release"⟩, rfl, rfl⟩

end Resumption
