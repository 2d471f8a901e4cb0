/-
Action — a synchronous computation that is put off.

An action is a description of effects that ends with a value or a `Failure`
when it is run.  Building one calls nothing.  Where a closure of the host
panics while an action runs, the action around it fails with that panic.

| action             | run                                                       |
|--------------------|-----------------------------------------------------------|
| `ready r`          | ends with `r`                                             |
| `perform h`        | calls `h` and ends as it says                             |
| `suspend s`        | calls `s` for an action and runs it                       |
| `conclude a f`     | runs `a` and hands its outcome to `f`                     |
| `bind a k`         | runs `a`, then what `k` makes of its value                |
| `rescue a k`       | runs `a`, then what `k` makes of its failure              |
| `bracket a u r`    | acquires by `a`, uses by `u`, and releases by `r` in any case |
-/
import Resumption.Carrier.Effects

namespace Resumption

mutual

/-- A synchronous computation with a value of the given type. -/
inductive Action (σ : Type) : Type → Type 1 where
  | ready {α : Type} (r : Except Failure α) : Action σ α
  | perform {α : Type} (h : Host σ (Except Failure α)) : Action σ α
  | suspend {α : Type} (s : σ → Action.Call σ α) : Action σ α
  | conclude {α β : Type} (a : Action σ α) (f : Except Failure α → Host σ (Except Failure β)) :
      Action σ β
  | bind {α β : Type} (a : Action σ α) (k : α → σ → Action.Call σ β) : Action σ β
  | rescue {α : Type} (a : Action σ α) (k : Failure → σ → Action.Call σ α) : Action σ α
  | bracket {ρ β : Type} (acquire : Action σ ρ) (use : ρ → σ → Action.Call σ β)
      (release : ρ → Option β → σ → Action.Call σ Verdict) : Action σ (β × Verdict)

/-- How the call of a closure ends: with an action or with a panic, in some world. -/
inductive Action.Call (σ : Type) : Type → Type 1 where
  | returned {α : Type} (a : Action σ α) (world : σ) : Action.Call σ α
  | panicked {α : Type} (p : Panic) (world : σ) : Action.Call σ α

end

/-- Joins how a use ended with how its release ended.  The failure of the use
wins over that of the release, which is then reported and dropped. -/
def settle {σ : Type} [Observer σ] {β : Type} :
    Except Failure β → Except Failure Verdict → σ → Except Failure (β × Verdict) × σ
  | .ok b, .ok v, w => (.ok (b, v), w)
  | .ok _, .error e, w => (.error e, w)
  | .error e, .ok _, w => (.error e, w)
  | .error e, .error e', w => (.error e, note (.releaseFailureDropped e e') w)

/-- Did the use, or the release, fail? -/
def failedOutcome {α : Type} : Except Failure α → Bool
  | .ok _ => false
  | .error _ => true

/-- Did the release fail, in this layer or in one above? -/
def failedVerdict : Except Failure Verdict → Bool
  | .ok .clean => false
  | .ok (.failed ..) => true
  | .error _ => true

/-- The end of a bracket: its event, then its outcome. -/
def closeBracket {σ : Type} [Observer σ] {β : Type} (used : Except Failure β)
    (released : Except Failure Verdict) (w : σ) : Except Failure (β × Verdict) × σ :=
  settle used released (note (.released (failedOutcome used) (failedVerdict released)) w)

namespace Action

variable {σ : Type} {α β : Type}

/-- The call that a closure's run amounts to. -/
def Call.ofRun : Except Panic (Action σ α) × σ → Call σ α
  | (.ok a, w) => .returned a w
  | (.error p, w) => .panicked p w

mutual

/-- Runs an action. -/
def run [Observer σ] {α : Type} : Action σ α → σ → Except Failure α × σ
  | ready r, w => (r, w)
  | perform h, w => h.caught w
  | suspend s, w => (s w).run
  | conclude a f, w =>
    match a.run w with
    | (r, w) => (f r).caught w
  | bind a k, w =>
    match a.run w with
    | (.ok x, w) => (k x w).run
    | (.error e, w) => (.error e, w)
  | rescue a k, w =>
    match a.run w with
    | (.ok x, w) => (.ok x, w)
    | (.error e, w) => (k e w).run
  | bracket acquire use release, w =>
    match acquire.run w with
    | (.error e, w) => (.error e, w)
    | (.ok r, w) =>
      match (use r (note .acquired w)).run with
      | (used, w) =>
        match (release r used.toOption w).run with
        | (released, w) => closeBracket used released w

/-- Runs what a call returned; a panic is a failure. -/
def Call.run [Observer σ] {α : Type} : Call σ α → Except Failure α × σ
  | .returned a w => a.run w
  | .panicked p w => (.error (.ofPanic p), w)

end

/-- Runs an action on the spot; its outcome is the value of the run. -/
def runHere [Observer σ] (a : Action σ α) : Host σ (Except Failure α) :=
  fun w =>
    match a.run w with
    | (r, w) => (.ok r, w)

end Action

end Resumption
