/-
Poll — one attempt to bring a future to its end.

A poll goes on until the future has an outcome or everything in it waits.  It is
given the scopes around the future and the reactor of the executor, if one is
active; sleeps and time-outs fail without an executor.

A time-out polls its action before it looks at the clock, so an action that ends
at the deadline is in time.  When the deadline has passed, the action is
dropped, its orphaned releases are spawned, and the time-out waits for those
registered with its scope before it fails.
-/
import Resumption.Future.Reactor

namespace Resumption

namespace Future

variable {σ : Type} {α β : Type}

/-- How a poll leaves a future. -/
inductive Progress (σ : Type) (α : Type) : Type 1 where
  | ended (r : Except Failure α)
  | pending (a : Future σ α)

/-- The future that is left; one that has ended is ready. -/
def Progress.future : Progress σ α → Future σ α
  | ended r => ready r
  | pending a => a

/-- The outcome of a poll, with the world and the reactor after it. -/
structure Polled (σ : Type) (α : Type) : Type 1 where
  progress : Progress σ α
  world : σ
  reactor : Option (Reactor σ)

/-- The poll that ends with what a closure says; a panic is a failure. -/
def Polled.ofHost (h : Host σ (Except Failure α)) (w : σ) (r : Option (Reactor σ)) : Polled σ α :=
  match h.caught w with
  | (o, w) => ⟨.ended o, w, r⟩

/-- The failure of an operation that needs an executor and finds none. -/
def noExecutor : Failure :=
  .panicked "there is no reactor running, must be called from the context of a Tokio 1.x runtime"

/-- The values of both sides go to `f`; of two failures the first one counts. -/
def joined {γ : Type} (f : α → β → Host σ γ) :
    Except Failure α → Except Failure β → Host σ (Except Failure γ)
  | .ok a, .ok b => (f a b).map .ok
  | .error e, _ => .pure (.error e)
  | .ok _, .error e => .pure (.error e)

/-- The end of a time-out, with the outcome of its action if that was in time. -/
def endTimeout [Observer σ] (limit : Duration) (outcome : Option (Except Failure α)) (w : σ)
    (r : Option (Reactor σ)) : Polled σ α :=
  match outcome with
  | some o => ⟨.ended o, w, r⟩
  | none =>
    ⟨.ended (.error (.timedOut limit)), note (.timeoutElapsed limit) w, r⟩

/-- Waits for the tasks of a time-out. -/
def awaitTasks [Observer σ] (tasks : List TaskId) (limit : Duration)
    (outcome : Option (Except Failure α)) (w : σ) (r : Reactor σ) : Polled σ α :=
  if tasks.all r.hasFinished then endTimeout limit outcome w (some r)
  else ⟨.pending (draining tasks limit outcome), w, some r⟩

/-- Waits for the releases that are registered with the scope of a time-out. -/
def drainScope [Observer σ] (scope : ScopeId) (limit : Duration) (outcome : Option (Except Failure α))
    (w : σ) (r : Reactor σ) : Polled σ α :=
  match r.takeRegistered scope with
  | ([], r) => endTimeout limit outcome w (some r)
  | (tasks, r) => awaitTasks tasks limit outcome (note (.awaitingReleases tasks.length) w) r

/-- A time-out after a poll of its action. -/
def afterTimed [Observer σ] (scope : ScopeId) (around : Scopes) (limit : Duration) (deadline : Nat) :
    Polled σ α → Polled σ α
  | ⟨.ended o, w, none⟩ => ⟨.ended o, w, none⟩
  | ⟨.ended o, w, some r⟩ => drainScope scope limit (some o) w r
  | ⟨.pending a, w, none⟩ => ⟨.pending (timing scope around limit deadline a), w, none⟩
  | ⟨.pending a, w, some r⟩ =>
    if deadline ≤ r.now then
      match r.adopt a.orphans w with
      | (w, r) => drainScope scope limit none w r
    else ⟨.pending (timing scope around limit deadline a), w, some r⟩

/-- A bracket after a poll of its release. -/
def afterRelease [Observer σ] (scopes : Scopes) (used : Except Failure β) :
    Polled σ Verdict → Polled σ (β × Verdict)
  | ⟨.pending a, w, r⟩ => ⟨.pending (releasing scopes used a), w, r⟩
  | ⟨.ended released, w, r⟩ =>
    match closeBracket used released w with
    | (o, w) => ⟨.ended o, w, r⟩

mutual

/-- Polls a future. -/
def poll [Observer σ] {α : Type} (scopes : Scopes) :
    Future σ α → σ → Option (Reactor σ) → Polled σ α
  | ready o, w, r => ⟨.ended o, w, r⟩
  | perform h, w, r => .ofHost h w r
  | suspend s, w, r => (s w).poll scopes r
  | conclude a f, w, r =>
    match a.poll scopes w r with
    | ⟨.ended o, w, r⟩ => .ofHost (f o) w r
    | ⟨.pending a, w, r⟩ => ⟨.pending (conclude a f), w, r⟩
  | bind a k, w, r =>
    match a.poll scopes w r with
    | ⟨.ended (.ok x), w, r⟩ => (k x w).poll scopes r
    | ⟨.ended (.error e), w, r⟩ => ⟨.ended (.error e), w, r⟩
    | ⟨.pending a, w, r⟩ => ⟨.pending (bind a k), w, r⟩
  | rescue a k, w, r =>
    match a.poll scopes w r with
    | ⟨.ended (.ok x), w, r⟩ => ⟨.ended (.ok x), w, r⟩
    | ⟨.ended (.error e), w, r⟩ => (k e w).poll scopes r
    | ⟨.pending a, w, r⟩ => ⟨.pending (rescue a k), w, r⟩
  | bracket acquire use release, w, r =>
    match acquire.poll scopes w r with
    | ⟨.ended (.error e), w, r⟩ => ⟨.ended (.error e), w, r⟩
    | ⟨.pending a, w, r⟩ => ⟨.pending (bracket a use release), w, r⟩
    | ⟨.ended (.ok x), w, r⟩ =>
      match (use x (note .acquired w)).poll scopes r with
      | ⟨.pending u, w, r⟩ => ⟨.pending (inUse scopes u (release x)), w, r⟩
      | ⟨.ended o, w, r⟩ => afterRelease scopes o ((release x o.toOption w).poll scopes r)
  | inUse opened use release, w, r =>
    match use.poll scopes w r with
    | ⟨.pending u, w, r⟩ => ⟨.pending (inUse opened u release), w, r⟩
    | ⟨.ended o, w, r⟩ => afterRelease opened o ((release o.toOption w).poll scopes r)
  | releasing opened o release, w, r => afterRelease opened o (release.poll scopes w r)
  | sleep _, w, none => ⟨.ended (.error noExecutor), w, none⟩
  | sleep ms, w, some r =>
    if ms = 0 then ⟨.ended (.ok ()), w, some r⟩
    else ⟨.pending (sleeping (r.now + ms)), w, some r⟩
  | sleeping t, w, none => ⟨.pending (sleeping t), w, none⟩
  | sleeping t, w, some r =>
    if t ≤ r.now then ⟨.ended (.ok ()), w, some r⟩ else ⟨.pending (sleeping t), w, some r⟩
  | pause, w, r => ⟨.pending paused, w, r⟩
  | paused, w, r => ⟨.ended (.ok ()), w, r⟩
  | never, w, r => ⟨.pending never, w, r⟩
  | both a b f, w, r =>
    match a.poll scopes w r with
    | ⟨pa, w, r⟩ =>
      match b.poll scopes w r with
      | ⟨pb, w, r⟩ =>
        match pa, pb with
        | .ended x, .ended y => .ofHost (joined f x y) w r
        | pa, pb => ⟨.pending (both pa.future pb.future f), w, r⟩
  | within _ _, w, none => ⟨.ended (.error noExecutor), w, none⟩
  | within limit a, w, some r =>
    match r.freshScope with
    | (scope, r) =>
      afterTimed scope scopes limit (r.now + limit.wholeMillis) (a.poll (scope :: scopes) w (some r))
  | timing scope around limit deadline a, w, r =>
    afterTimed scope around limit deadline (a.poll (scope :: around) w r)
  | draining tasks limit outcome, w, none => ⟨.pending (draining tasks limit outcome), w, none⟩
  | draining tasks limit outcome, w, some r => awaitTasks tasks limit outcome w r

/-- Polls what a call returned; a panic is a failure. -/
def Call.poll [Observer σ] {α : Type} (scopes : Scopes) :
    Call σ α → Option (Reactor σ) → Polled σ α
  | .returned a w, r => a.poll scopes w r
  | .panicked p w, r => ⟨.ended (.error (.ofPanic p)), w, r⟩

end

end Future

end Resumption
