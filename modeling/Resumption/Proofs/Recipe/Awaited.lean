/-
Awaited — running an action and awaiting a future of one recipe.

An action and a future of one recipe do the same, as far as a world can tell that
the clock does not reach: a run of the action and the polls that bring the future
to its end leave the same outcome in the same world.

A future of a recipe that is not ended waits for one time, since it sleeps at one
place at most.  `Settles r p x` says that after the poll `p` the future comes to
the outcome and the world of `x`, by polls at the times it waits for; the reactor
is left as it is.

| the future is                | and settles                                      |
|------------------------------|--------------------------------------------------|
| ended                        | with its outcome, in the world of the poll       |
| waiting until the time `t`   | as every later poll does, from the same world    |
-/
import Resumption.Future.Executor
import Resumption.Proofs.Future.Context
import Resumption.Proofs.Recipe.Matching

namespace Resumption

universe v w

/-! ## Worlds without a clock -/

/-- A world of `σ` that is told of events, but not of the time. -/
def Timeless (σ : Type) : Type := σ

instance {σ : Type} [Observer σ] : Observer (Timeless σ) where
  note := note (σ := σ)
  setClock _ w := w

namespace Future

variable {σ : Type} {α β ρ : Type}

/-! ## Polls up to the end -/

/-- The future waits for the time `t` and for nothing else. -/
structure WaitsUntil (t : Nat) (a : Future σ α) : Prop where
  deadline : a.nextDeadline = some t
  woken : ∀ now finished, a.woken now finished = decide (t ≤ now)
  still : a.yielding = false

variable [Observer σ]

/-- After this poll, the future comes to an outcome and a world by polls alone. -/
inductive Settles : Reactor σ → Polled σ α → Except Failure α × σ → Prop
  | ended {r : Reactor σ} {o : Except Failure α} {w : σ} : Settles r ⟨.ended o, w, some r⟩ (o, w)
  | pending {r : Reactor σ} {a : Future σ α} {w : σ} {t : Nat} {x : Except Failure α × σ} :
      a.WaitsUntil t → r.now < t →
      (∀ r' : Reactor σ, t ≤ r'.now → Settles r' (a.poll [] w (some r')) x) →
      Settles r ⟨.pending a, w, some r⟩ x

namespace Settles

variable {r : Reactor σ}

/-- A context settles if it goes on to settle where the future inside it does.  Every
context here waits for just what the future inside it waits for. -/
theorem around {p : Polled σ α} {x : Except Failure α × σ} {y : Except Failure β × σ}
    {K : Future σ α → Future σ β} {F : Except Failure α → σ → Option (Reactor σ) → Polled σ β}
    (settles : Settles r p x) (runs : Runs [] K F)
    (goesOn : ∀ r', Settles r' (F x.1 x.2 (some r')) y)
    (waits : ∀ {t a}, WaitsUntil t a → WaitsUntil t (K a) := by
      exact fun waiting => ⟨waiting.deadline, waiting.woken, waiting.still⟩) :
    Settles r (Future.around K F p) y := by
  induction settles with
  | ended => exact goesOn _
  | pending waiting later _ ih =>
    refine .pending (waits waiting) later fun r' late => ?_
    rw [runs]
    exact ih r' late goesOn

theorem ofHost (h : Host σ (Except Failure α)) (w : σ) :
    Settles r (.ofHost h w (some r)) (h.caught w) := by
  unfold Polled.ofHost
  exact .ended

theorem afterRelease {used : Except Failure β} {p : Polled σ Verdict}
    {x : Except Failure Verdict × σ} (released : Settles r p x) :
    Settles r (Future.afterRelease [] used p) (closeBracket used x.1 x.2) := by
  rw [afterRelease_eq]
  exact released.around (runs_releasing [] [] used) fun r' => .ended

end Settles

end Future

/-! ## The matching -/

section Awaited

variable {σ : Type} [Observer σ] {α β ρ : Type}

open Future

/-- The future comes to what the action comes to, from every world and at any time. -/
instance : Matching (Action (Timeless σ)) (Future (Timeless σ)) where
  Match a b := ∀ w r, Settles r (b.poll [] w (some r)) (a.run w)

/-- The calls of two closures come to the same. -/
def CallMatch (c : Action.Call (Timeless σ) α) (d : Future.Call (Timeless σ) α) : Prop :=
  ∀ r, Settles r (d.poll [] (some r)) c.run

theorem callMatch_ofRun {x : Except Panic (Action (Timeless σ) α) × Timeless σ}
    {y : Except Panic (Future (Timeless σ) α) × Timeless σ} (met : Meet .full Match x y) :
    CallMatch (.ofRun x) (.ofRun y) := by
  intro r
  cases met with
  | ok matched => exact matched _ r
  | panic => exact .ended

variable {a : Action (Timeless σ) α} {b : Future (Timeless σ) α}

theorem conclude_matches (matched : Match a b)
    (f : Except Failure α → Host (Timeless σ) (Except Failure β)) :
    Match (Action.conclude a f) (Future.conclude b f) := by
  intro w r
  rw [Action.run, runs_conclude [] f b w (some r)]
  exact (matched w r).around (runs_conclude [] f) fun r' => .ofHost _ _

theorem bind_matches (matched : Match a b)
    {k : α → Timeless σ → Action.Call (Timeless σ) β}
    {l : α → Timeless σ → Future.Call (Timeless σ) β} (calls : ∀ x w, CallMatch (k x w) (l x w)) :
    Match (Action.bind a k) (Future.bind b l) := by
  intro w r
  have settles : Settles r (b.poll [] w (some r)) (a.run w) := matched w r
  rw [Action.run, runs_bind [] l b w (some r)]
  generalize a.run w = x at settles ⊢
  obtain ⟨o, w'⟩ := x
  refine settles.around (runs_bind [] l) fun r' => ?_
  cases o with
  | error e => exact .ended
  | ok x => exact calls x w' r'

theorem rescue_matches (matched : Match a b)
    {k : Failure → Timeless σ → Action.Call (Timeless σ) α}
    {l : Failure → Timeless σ → Future.Call (Timeless σ) α}
    (calls : ∀ e w, CallMatch (k e w) (l e w)) :
    Match (Action.rescue a k) (Future.rescue b l) := by
  intro w r
  have settles : Settles r (b.poll [] w (some r)) (a.run w) := matched w r
  rw [Action.run, runs_rescue [] l b w (some r)]
  generalize a.run w = x at settles ⊢
  obtain ⟨o, w'⟩ := x
  refine settles.around (runs_rescue [] l) fun r' => ?_
  cases o with
  | error e => exact calls e w' r'
  | ok x => exact .ended

theorem bracket_matches (matched : Match a b)
    {use : α → Timeless σ → Action.Call (Timeless σ) β}
    {use' : α → Timeless σ → Future.Call (Timeless σ) β}
    {release : α → Option β → Timeless σ → Action.Call (Timeless σ) Verdict}
    {release' : α → Option β → Timeless σ → Future.Call (Timeless σ) Verdict}
    (uses : ∀ x w, CallMatch (use x w) (use' x w))
    (releases : ∀ x o w, CallMatch (release x o w) (release' x o w)) :
    Match (Action.bracket a use release) (Future.bracket b use' release') := by
  intro w r
  have settles : Settles r (b.poll [] w (some r)) (a.run w) := matched w r
  rw [Action.run, runs_bracket [] use' release' b w (some r)]
  generalize a.run w = x at settles ⊢
  obtain ⟨o, w'⟩ := x
  refine settles.around (runs_bracket [] use' release') fun r' => ?_
  cases o with
  | error e => exact .ended
  | ok x =>
    refine (uses x (note .acquired w') r').around (runs_inUse [] [] (release' x)) fun r'' => ?_
    exact (releases x _ _ r'').afterRelease

theorem suspend_matches {s : Timeless σ → Action.Call (Timeless σ) α}
    {s' : Timeless σ → Future.Call (Timeless σ) α} (calls : ∀ w, CallMatch (s w) (s' w)) :
    Match (Action.suspend s) (Future.suspend s') := by
  intro w r
  rw [Action.run, Future.poll]
  exact calls w r

theorem sleep_matches (ms : Nat) :
    Match (Action.ready (.ok ()) : Action (Timeless σ) Unit) (Future.sleep ms : Future (Timeless σ) Unit) := by
  intro w r
  rw [Action.run, Future.poll]
  split
  · exact .ended
  · rename_i some
    refine .pending ⟨rfl, fun _ _ => rfl, rfl⟩ (by omega) fun r' late => ?_
    rw [Future.poll, if_pos late]
    exact .ended

theorem perform_matches (h : Host (Timeless σ) (Except Failure α)) :
    Match (Action.perform h) (Future.perform h) := by
  intro w r
  rw [Action.run, Future.poll]
  exact .ofHost h w

/-- Loops match whose turns do, by induction along the relation that they descend on. -/
theorem iterate_matches {S : Type w} {R : S → S → Prop} (wf : WellFounded R)
    {step : (s : S) → Host (Timeless σ) (Turn (Timeless σ) (Action (Timeless σ)) {t // R t s} β)}
    {step' : (s : S) → Host (Timeless σ) (Turn (Timeless σ) (Future (Timeless σ)) {t // R t s} β)}
    (turns : ∀ s, (step s).InStep .full (TurnMatch .full) (step' s)) (s : S) :
    Match (Action.iterate wf step s) (Future.iterate wf step' s) := by
  induction s using wf.induction with
  | _ s ih =>
    rw [Action.iterate, Future.iterate]
    refine suspend_matches fun w => ?_
    have met := turns s w
    generalize step s w = x at met ⊢
    generalize step' s w = y at met ⊢
    intro r
    cases met with
    | panic => exact .ended
    | ok turn =>
      cases turn with
      | finish b => exact .ended
      | @await _ a b next matched _ =>
        refine bind_matches matched (fun x w r => ?_) _ r
        rcases next x w with ⟨p | ⟨⟨t, descends⟩⟩ | b, w'⟩
        · exact .ended
        · exact ih t descends w' r
        · exact .ended

/-! ## The operations -/

theorem awaited_loops : LawfulMatchingLoop.{1, w} .full (Timeless σ) (Action (Timeless σ))
    (Future (Timeless σ)) where
  iterate _ wf := fun turns s => ⟨_, _, rfl, rfl, iterate_matches wf turns s⟩

theorem awaited_lawful : LawfulMatching.{1, v} .full (Timeless σ) (Action (Timeless σ))
    (Future (Timeless σ)) where
  toLawfulMatchingLoop := awaited_loops
  pure _ := fun _ _ => .ended
  raise _ := fun _ _ => .ended
  map matched _ := ⟨_, _, rfl, rfl, conclude_matches matched _⟩
  bind matched steps :=
    ⟨_, _, rfl, rfl, bind_matches matched fun x w => callMatch_ofRun (steps x w)⟩
  handle matched steps :=
    ⟨_, _, rfl, rfl, rescue_matches matched fun e w => callMatch_ofRun (steps e w)⟩
  defer steps := ⟨_, _, rfl, rfl, suspend_matches fun w => callMatch_ofRun (steps w)⟩
  sleep ms := ⟨_, _, rfl, rfl, sleep_matches ms⟩
  bracketWith matched uses releases :=
    ⟨_, _, rfl, rfl, bracket_matches matched (fun x w => callMatch_ofRun (uses x w))
      fun x o w => callMatch_ofRun (releases x o w)⟩
  ofHost _ _ := perform_matches _
  perform _ h := perform_matches h
  outcome _ := fun matched => conclude_matches matched _
  fold whole := fun applies t p => awaited_loops.fold whole applies t p

end Awaited

/-! ## Executors -/

namespace Executor

open Future

variable {σ : Type} {α : Type}

/-- An executor that has nothing but its main activity. -/
def alone (w : σ) (r : Reactor σ) : Executor σ α :=
  ⟨w, r, [], [], [], [], []⟩

section Alone

variable {w : σ} {r : Reactor σ} {t : Nat} {a : Future σ α}

theorem collect_alone (quiet : r.spawned = []) : (alone w r : Executor σ α).collect = alone w r := by
  obtain ⟨now, nextTask, nextScope, registered, finished, spawned⟩ := r
  obtain rfl : spawned = [] := quiet
  rfl

theorem isWoken_alone (waiting : a.WaitsUntil t) :
    (alone w r).isWoken (.handle (.live a)) = decide (t ≤ r.now) := by
  simp only [isWoken, alone, Handle.yielding, Handle.woken, waiting.still, waiting.woken,
    Bool.false_or]

variable [Observer σ]

theorem endRound_alone (limit : Nat) :
    ((alone w r : Executor σ α).turns limit).endRound = alone w r := by
  cases limit with
  | zero => rfl
  | succ limit => rfl

end Alone

variable [Observer σ]

/-- The clock moves on to the time that the future waits for. -/
theorem advance_alone {w : Timeless σ} {r : Reactor (Timeless σ)} {t : Nat}
    {a : Future (Timeless σ) α} (quiet : r.spawned = []) (waiting : a.WaitsUntil t) :
    (alone w r).advance (.handle (.live a)) = some (alone w { r with now := max r.now t }) := by
  simp only [advance, alone, mainDeadline, Handle.nextDeadline, List.foldl_nil, waiting.deadline,
    Option.map_some, Option.some.injEq]
  exact collect_alone quiet

/-- An executor brings a future to its end that settles. -/
theorem rounds_alone {r : Reactor (Timeless σ)} {p : Polled (Timeless σ) α}
    {x : Except Failure α × Timeless σ} (settles : Settles r p x) (quiet : r.spawned = [])
    {b : Future (Timeless σ) α} {w : Timeless σ} (polled : b.poll [] w (some r) = p) :
    ∃ n r', ∀ more, (alone w r).rounds (n + more) true (.handle (.live b)) =
      (some (.outcome x.1), .handle .completed, alone x.2 r') := by
  induction settles generalizing b w with
  | @ended r o w' =>
    refine ⟨1, r, fun more => ?_⟩
    rw [Nat.add_comm, rounds]
    simp only [pollIf, pollMain, pollHandle, alone, Handle.poll, polled, ↓reduceIte, Option.getD_some]
    rw [← alone, collect_alone quiet]
  | @pending r a w' t x waiting later _ ih =>
    -- one round polls the future and moves the clock, the others are those of the later poll
    obtain ⟨n, r', ends⟩ := ih { r with now := max r.now t } (Nat.le_max_right ..) quiet rfl
    refine ⟨n + 1, r', fun more => ?_⟩
    rw [Nat.add_right_comm, rounds, ← ends more]
    simp only [pollIf, pollMain, pollHandle, alone, Handle.poll, polled, ↓reduceIte, Option.getD_some]
    rw [← alone, collect_alone quiet, endRound_alone, isWoken_alone waiting,
      if_neg (by simpa using later), advance_alone quiet waiting]
    simp only [isWoken_alone waiting, Nat.le_max_right, decide_true]
    rfl

end Executor

/-- Running an action and awaiting a future of one recipe give the same outcome and leave
the same world, whatever closures fail or panic; so closures ran and events were told in
the same order. -/
theorem awaited_eq_run {σ : Type} [Observer σ] {α : Type} (a : Recipe.{v} .full (Timeless σ) α) :
    ∃ action future, a.build (Action (Timeless σ)) = .pure action ∧
      a.build (Future (Timeless σ)) = .pure future ∧ ∀ w, ∃ n time, ∀ more,
        future.run (n + more) w = (some (.outcome (action.run w).1), time, (action.run w).2) := by
  obtain ⟨action, future, built, built', matched⟩ := a.build_matches awaited_lawful
  refine ⟨action, future, built, built', fun w => ?_⟩
  obtain ⟨n, r, ends⟩ := Executor.rounds_alone (matched w .initial) rfl rfl
  refine ⟨n, r.now, fun more => ?_⟩
  have rounds : (Executor.start w).rounds (n + more) true (.handle (.live future)) = _ := ends more
  simp only [Future.run, Executor.await, Executor.drive, rounds]
  rfl

end Resumption
