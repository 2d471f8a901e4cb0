/-
Run — panics are failures, and building runs nothing.

What an assembly builds is run in its bottom carrier, so layers are taken off first
(`Layers.ground`).  Then the built computation is driven beside the one that the calmed
form builds:

| driven by              | what is the same                                            |
|------------------------|-------------------------------------------------------------|
| a run of an action     | the outcome and the world                                   |
| an executor            | the outcome, the time and the world, to its end or a drop   |
| polls by hand          | the answers, the world, and what a drop leaves behind       |

No closure of the calmed form panics, and none of these ways to drive a computation
unwinds.
-/
import Resumption.Proofs.Panics.Action
import Resumption.Proofs.Panics.Future

namespace Resumption

universe u

/-! ## Taking layers off -/

namespace Layers

variable {M : Type → Type u}

/-- The values under some layers: the early exits of each layer beside its values. -/
def Grounded : List (Route × Type) → Type → Type
  | [], α => α
  | (_, ε) :: layers, α => Grounded layers (Either ε α)

/-- A layered computation as one of the bottom carrier. -/
def ground : {layers : List (Route × Type)} → {α : Type} → Layers M layers α →
    M (Grounded layers α)
  | [], _, m => m
  | (_, _) :: layers, _, m => @ground layers _ (Layered.base m)

theorem stands_ground [Calming M] : {layers : List (Route × Type)} → {α : Type} →
    {m n : Layers M layers α} → StandIn m n → StandIn (ground m) (ground n)
  | [], _, _, _, stands => stands
  | (_, _) :: layers, _, _, _, stands => @stands_ground _ layers _ _ _ stands

end Layers

/-! ## Driving futures -/

section Driving

variable {σ : Type} [Observer σ] {α : Type}

/-- Polls by hand, outside of an executor, until there is an answer: as often as there are
entries, each of which says what becomes of the world before its poll. -/
def Handle.pollsHere : List (σ → σ) → Handle σ α → σ → Answer α × Handle σ α × σ
  | [], h, w => (.pending, h, w)
  | before :: rest, h, w =>
    match h.poll (before w) none with
    | (.pending, h, w, _) => pollsHere rest h w
    | (answer, h, w, _) => (answer, h, w)

namespace Future

/-- No way to drive the future to its end unwinds: polls by hand, awaiting it on an
executor, and awaiting it for some time. -/
structure NeverUnwinds (a : Future σ α) : Prop where
  polls : ∀ l w p, (Handle.pollsHere l (.live a) w).1 ≠ .panicked p
  run : ∀ limit w p, (a.run limit w).1 ≠ some (.panicked p)
  race : ∀ limit ms w p, ((Executor.start w).race limit (.live a) ms).1 ≠ some (.panicked p)

/-- All ways to drive two futures go alike, and leave the same world. -/
structure DrivenAlike (a b : Future σ α) : Prop where
  bisimilar : ∃ R, Bisimulation R ∧ R α a b
  polls : ∀ l w, (Handle.pollsHere l (.live a) w).1 = (Handle.pollsHere l (.live b) w).1 ∧
    (Handle.pollsHere l (.live a) w).2.2 = (Handle.pollsHere l (.live b) w).2.2
  drops : ∀ l w polls w', (Handle.pollsHere l (.live a) w).2.1.dropHere polls w' =
    (Handle.pollsHere l (.live b) w).2.1.dropHere polls w'
  run : ∀ limit w, a.run limit w = b.run limit w
  race : ∀ limit ms w,
    ((Executor.start w).race limit (.live a) ms).1 = ((Executor.start w).race limit (.live b) ms).1 ∧
      ((Executor.start w).race limit (.live a) ms).2.stop =
        ((Executor.start w).race limit (.live b) ms).2.stop

end Future

/-! ### Nothing unwinds -/

/-- A future answers, or it is polled again. -/
theorem Handle.poll_answers (a : Future σ α) (w : σ) (r : Option (Reactor σ)) :
    (∃ o v s, (Handle.live a).poll w r = (.outcome o, .completed, v, s)) ∨
      ∃ b v s, (Handle.live a).poll w r = (.pending, .live b, v, s) := by
  rw [Handle.poll]
  rcases a.poll [] w r with ⟨o | b, v, s⟩
  · exact .inl ⟨o, v, s, rfl⟩
  · exact .inr ⟨b, v, s, rfl⟩

theorem Handle.pollsHere_live (l : List (σ → σ)) (a : Future σ α) (w : σ) (p : Panic) :
    (Handle.pollsHere l (.live a) w).1 ≠ .panicked p := by
  induction l generalizing a w with
  | nil =>
    intro unwound
    cases unwound
  | cons before rest ih =>
    rw [Handle.pollsHere]
    obtain ⟨o, v, s, polled⟩ | ⟨b, v, s, polled⟩ := Handle.poll_answers a (before w) none
    · rw [polled]
      intro unwound
      cases unwound
    · rw [polled]
      exact ih b v

/-- Awaits a handle whose outcome is not gone. -/
inductive Awaited.Live : Awaited σ α → Prop
  | handle (a : Future σ α) : Live (.handle (.live a))
  | race (a : Future σ α) (t : Nat) : Live (.race (.live a) t)

/-- What the main activity answered, if it did: no panic. -/
def Reply.Regular : Option (Reply α) → Prop
  | some (.panicked _) => False
  | _ => True

namespace Executor

theorem pollHandle_answers (a : Future σ α) (ex : Executor σ α) :
    (∃ o ex', ex.pollHandle (.live a) = (.outcome o, .completed, ex')) ∨
      ∃ b ex', ex.pollHandle (.live a) = (.pending, .live b, ex') := by
  obtain ⟨w, r, jobs, queue, pausing, aborted, ended⟩ := ex
  rw [pollHandle]
  obtain ⟨o, v, s, polled⟩ | ⟨b, v, s, polled⟩ := Handle.poll_answers a w (some r)
  · rw [polled]
    exact .inl ⟨o, _, rfl⟩
  · rw [polled]
    exact .inr ⟨b, _, rfl⟩

variable {a : Awaited σ α}

/-- The main activity replies, or it is live still. -/
theorem pollMain_live (live : a.Live) (ex : Executor σ α) :
    (∃ reply a' ex', ex.pollMain a = (some reply, a', ex') ∧ Reply.Regular (some reply)) ∨
      ∃ a' ex', ex.pollMain a = (none, a', ex') ∧ a'.Live := by
  cases live with
  | handle a =>
    rw [pollMain]
    obtain ⟨o, ex', polled⟩ | ⟨b, ex', polled⟩ := pollHandle_answers a ex
    · rw [polled]
      exact .inl ⟨_, _, _, rfl, trivial⟩
    · rw [polled]
      exact .inr ⟨_, _, rfl, .handle b⟩
  | race a t =>
    rw [pollMain]
    obtain ⟨o, ex', polled⟩ | ⟨b, ex', polled⟩ := pollHandle_answers a ex
    · rw [polled]
      exact .inl ⟨_, _, _, rfl, trivial⟩
    · rw [polled]
      dsimp only
      split
      · exact .inl ⟨_, _, _, rfl, trivial⟩
      · exact .inr ⟨_, _, rfl, .race b t⟩

theorem rounds_live (live : a.Live) (limit : Nat) (due : Bool) (ex : Executor σ α) :
    Reply.Regular (ex.rounds limit due a).1 := by
  -- What is awaited stays live for as long as there is no reply.
  induction limit generalizing a due ex with
  | zero => trivial
  | succ limit ih =>
    have polled : (∃ reply a' ex', ex.pollIf due a = (some reply, a', ex') ∧
        Reply.Regular (some reply)) ∨ ∃ a' ex', ex.pollIf due a = (none, a', ex') ∧ a'.Live := by
      cases due with
      | true => exact pollMain_live live ex
      | false => exact .inr ⟨a, ex, rfl, live⟩
    rw [rounds]
    obtain ⟨reply, a', ex', polled, regular⟩ | ⟨a', ex', polled, live⟩ := polled
    · rw [polled]
      exact regular
    · rw [polled]
      dsimp only
      split
      · exact ih live true _
      · split
        · exact ih live false _
        · split
          · exact ih live _ _
          · trivial

end Executor

theorem Reply.Regular.ne {reply : Option (Reply α)} (regular : Reply.Regular reply) (p : Panic) :
    reply ≠ some (.panicked p) := by
  rintro rfl
  exact regular

theorem Future.neverUnwinds (a : Future σ α) : a.NeverUnwinds where
  polls l w p := Handle.pollsHere_live l a w p
  run limit w p := by
    have regular := (Executor.rounds_live (.handle a) limit true (Executor.start w)).ne p
    unfold Future.run Executor.await Executor.drive
    generalize (Executor.start w).rounds limit true (.handle (.live a)) = x at regular ⊢
    obtain ⟨reply, h | _, ex⟩ := x
    all_goals exact regular
  race limit ms w p := (Executor.rounds_live (.race a _) limit true (Executor.start w)).ne p

/-! ### Calmed futures -/

namespace Bisimulation

variable {R : Future.Relation σ} (sim : Bisimulation R)

include sim

theorem pollsHere {h k : Handle σ α} (related : h.Related R k) (l : List (σ → σ)) (w : σ) :
    (Handle.pollsHere l h w).1 = (Handle.pollsHere l k w).1 ∧
      (Handle.pollsHere l h w).2.1.Related R (Handle.pollsHere l k w).2.1 ∧
      (Handle.pollsHere l h w).2.2 = (Handle.pollsHere l k w).2.2 := by
  induction l generalizing h k w with
  | nil => exact ⟨rfl, related, rfl⟩
  | cons before rest ih =>
    obtain ⟨answer, h', k', v, s, s', polled, polled', kept, -⟩ :=
      related.poll sim (before w) .none
    rw [Handle.pollsHere, Handle.pollsHere, polled, polled']
    cases answer with
    | pending => exact ih kept v
    | outcome | panicked => exact ⟨rfl, kept, rfl⟩

theorem drivenAlike {a b : Future σ α} (related : R α a b) : a.DrivenAlike b where
  bisimilar := ⟨R, sim, related⟩
  polls l w := ⟨(sim.pollsHere (.live related) l w).1, (sim.pollsHere (.live related) l w).2.2⟩
  drops l w := sim.dropHere_eq (sim.pollsHere (.live related) l w).2.1
  run := sim.run_eq related
  race := sim.race_eq related

end Bisimulation

end Driving

/-! ## Panics -/

/-- Building an assembly runs nothing and running what it builds never unwinds, over
actions and over futures with any layers.  All of it goes as with the calmed form, in
which no closure panics: a step whose closure would panic fails in the bottom carrier,
with the panic as its failure. -/
theorem panics_are_failures (σ : Type) [Observer σ] :
    (∀ {layers : List (Route × Type)} {α : Type} (t : Assembly .action σ layers α),
      t.calmed.Calm ∧ ∃ m n : Layers (Action σ) layers α,
        t.build (Action σ) = .pure m ∧ t.calmed.build (Action σ) = .pure n ∧
        (Layers.ground m).runHere.Returns ∧
        (Layers.ground m).runHere = (Layers.ground n).runHere) ∧
    ∀ {layers : List (Route × Type)} {α : Type} (t : Assembly .future σ layers α),
      t.calmed.Calm ∧ ∃ m n : Layers (Future σ) layers α,
        t.build (Future σ) = .pure m ∧ t.calmed.build (Future σ) = .pure n ∧
        (Layers.ground m).NeverUnwinds ∧ (Layers.ground m).DrivenAlike (Layers.ground n) := by
  refine ⟨fun t => ⟨t.calmed_calm, ?_⟩, fun t => ⟨t.calmed_calm, ?_⟩⟩
  · obtain ⟨m, n, built, calmed, stands⟩ := t.calmlyBuilt (M := Action σ)
    have alike := Layers.stands_ground stands
    refine ⟨m, n, built, calmed, fun w => ⟨_, _, rfl⟩, funext fun w => ?_⟩
    rw [Action.runHere, Action.runHere, alike w]
  · obtain ⟨m, n, built, calmed, stands⟩ := t.calmlyBuilt (M := Future σ)
    exact ⟨m, n, built, calmed, Future.neverUnwinds _,
      Future.calmed_bisimulation.drivenAlike (Layers.stands_ground stands)⟩

/-- A handler sees the panic of a closure before it. -/
example :
    let handled : Assembly .action Unit [] Nat :=
      .handleError .bottom (.map (.pure 1) fun _ => .panic (.text "boom"))
        fun e => .pure (if e = .panicked "boom" then 7 else 0)
    (handled.build (Action Unit)).bind (fun a : Action Unit Nat => a.runHere) () =
      (.ok (.ok 7), ()) := by
  rfl

end Resumption
