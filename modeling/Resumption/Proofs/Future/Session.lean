/-
Session — a handle and the executor that it is polled on.

A program that holds a handle may poll it, drop it, or leave it alone while the
executor gives its tasks their turns and time goes on.  It may do so in any
order and at any time, and it may also poll and drop the handle outside the
executor.  Each of these is a step; what an executor does to bring a handle to
its end is a sequence of such steps.

| a move        | is                                                          |
|---------------|-------------------------------------------------------------|
| `poll`        | a poll of the handle on the executor                        |
| `turn`        | meanwhile, the turn of one task                             |
| `collect`     | meanwhile, a look for tasks that were woken                 |
| `elsewhere`   | whatever others do meanwhile, and the passing of time       |

| another step  | is                                                          |
|---------------|-------------------------------------------------------------|
| `pollOutside` | a poll of the handle without an executor                    |
| `drop`        | the handle's cancellation on the executor                   |
| `dropOutside` | its cancellation without an executor                        |
-/
import Mathlib.Logic.Relation
import Resumption.Future.Executor

namespace Resumption

variable {σ : Type} {α : Type}

/-- A handle and the executor that it is polled on. -/
structure Session (σ : Type) (α : Type) : Type 1 where
  handle : Handle σ α
  executor : Executor σ α

/-- The handle that is left after a poll. -/
def Handle.after : Future.Progress σ α → Handle σ α
  | .ended _ => .completed
  | .pending a => .live a

namespace Session

/-- A future in hand on an executor that has just started. -/
def start [Observer σ] (a : Future σ α) (w : σ) : Session σ α :=
  ⟨.live a, .start w⟩

/-- Neither the handle nor any task has something left to run. -/
def Quiet (s : Session σ α) : Prop :=
  s.handle = .completed ∧ s.executor.jobs = [] ∧ s.executor.reactor.spawned = []

/-- Run on the spot, the releases of these orphans come to their ends. -/
def Completes [Observer σ] (polls : Nat) : List (Future.Orphan σ) → σ → Prop
  | [], _ => True
  | o :: os, w => ∃ r w', o.task.blockOn polls (note .bracketCancelled w) = (some r, w') ∧
    Completes polls os w'

variable [Observer σ]

/-- What happens between two polls of a handle.  `others` says what the rest of the
program may do to the world. -/
inductive Meanwhile (others : σ → σ → Prop) : Session σ α → Session σ α → Prop
  | turn (h : Handle σ α) (ex : Executor σ α) (id : TaskId) :
      Meanwhile others ⟨h, ex⟩ ⟨h, (ex.turn id).collect⟩
  | collect (h : Handle σ α) (ex : Executor σ α) : Meanwhile others ⟨h, ex⟩ ⟨h, ex.collect⟩
  | elsewhere (h : Handle σ α) (ex : Executor σ α) {w : σ} {now : Nat}
      {queue pausing : List TaskId} : others ex.world w → ex.reactor.now ≤ now →
      Meanwhile others ⟨h, ex⟩ ⟨h, { ex with
        world := w
        reactor := { ex.reactor with now := now }
        queue := queue
        pausing := pausing }⟩

/-- The session after a poll of its handle. -/
def polled (s : Session σ α) : Session σ α :=
  ⟨(s.executor.pollHandle s.handle).2.1, (s.executor.pollHandle s.handle).2.2⟩

/-- What happens to a session while its handle is kept on the executor. -/
inductive Move (others : σ → σ → Prop) : Session σ α → Session σ α → Prop
  | poll (s : Session σ α) : Move others s s.polled
  | meanwhile {s t : Session σ α} : Meanwhile others s t → Move others s t

/-- One step of a program that holds a handle. -/
inductive Step (others : σ → σ → Prop) : Session σ α → Session σ α → Prop
  | move {s t : Session σ α} : Move others s t → Step others s t
  | pollOutside (h : Handle σ α) (ex : Executor σ α) :
      Step others ⟨h, ex⟩
        ⟨(h.poll ex.world none).2.1, { ex with world := (h.poll ex.world none).2.2.1 }⟩
  | drop (h : Handle σ α) (ex : Executor σ α) : Step others ⟨h, ex⟩ ⟨.completed, ex.dropHandle h⟩
  | dropOutside (h : Handle σ α) (ex : Executor σ α) {polls : Nat} :
      Completes polls h.orphans ex.world →
      Step others ⟨h, ex⟩ ⟨.completed, { ex with world := h.dropHere polls ex.world }⟩

/-- Any number of moves. -/
abbrev Moves (others : σ → σ → Prop) : Session σ α → Session σ α → Prop :=
  Relation.ReflTransGen (Move others)

/-- Any number of steps. -/
abbrev Steps (others : σ → σ → Prop) : Session σ α → Session σ α → Prop :=
  Relation.ReflTransGen (Step others)

theorem steps_of_moves {others : σ → σ → Prop} {s t : Session σ α} (moves : Moves others s t) :
    Steps others s t :=
  moves.lift id fun _ _ => .move

end Session

/-! ## What a poll does -/

namespace Executor

variable [Observer σ]

/-- A poll of a future in hand. -/
theorem pollHandle_live (ex : Executor σ α) (a : Future σ α) :
    (ex.pollHandle (.live a)).2 =
      (.after (a.poll [] ex.world (some ex.reactor)).progress, collect { ex with
        world := (a.poll [] ex.world (some ex.reactor)).world
        reactor := (a.poll [] ex.world (some ex.reactor)).reactor.getD ex.reactor }) := by
  simp only [pollHandle, Handle.poll]
  rcases a.poll [] ex.world (some ex.reactor) with ⟨_ | _, _, _⟩ <;> rfl

/-- The outcome is handed out by the poll that ends with it. -/
theorem pollHandle_outcome {ex : Executor σ α} {a : Future σ α} {o : Except Failure α} :
    (ex.pollHandle (.live a)).1 = .outcome o ↔
      (a.poll [] ex.world (some ex.reactor)).progress = .ended o := by
  simp only [pollHandle, Handle.poll]
  rcases a.poll [] ex.world (some ex.reactor) with ⟨_ | _, _, _⟩ <;> simp

/-! ## The executor's own steps -/

/-- The main activity has this handle in hand, or leaves it alone. -/
inductive InHand : Awaited σ α → Handle σ α → Prop
  | handle (h : Handle σ α) : InHand (.handle h) h
  | race (h : Handle σ α) (t : Nat) : InHand (.race h t) h
  | time (h : Handle σ α) (t : Nat) : InHand (.time t) h
  | task (h : Handle σ α) (id : TaskId) : InHand (.task id) h

section Runs

open Session

variable {others : σ → σ → Prop} (idle : ∀ w, others w w)
  (clock : ∀ t w, others w (setClock t w))

include idle in
theorem turns_moves (limit : Nat) (h : Handle σ α) (ex : Executor σ α) :
    Moves others ⟨h, ex⟩ ⟨h, ex.turns limit⟩ := by
  induction limit generalizing ex with
  | zero => exact .refl
  | succ limit ih =>
    rw [turns.eq_def]
    cases ex.queue with
    | nil => exact .refl
    | cons id rest =>
      have popped : Move others ⟨h, ex⟩ ⟨h, { ex with queue := rest }⟩ :=
        .meanwhile (.elsewhere h ex (idle _) (Nat.le_refl _))
      exact (Relation.ReflTransGen.single popped).trans (.head (.meanwhile (.turn h _ id)) (ih _))

include idle in
theorem endRound_moves (h : Handle σ α) (ex : Executor σ α) :
    Moves others ⟨h, ex⟩ ⟨h, ex.endRound⟩ :=
  .single (.meanwhile (.elsewhere h ex (idle _) (Nat.le_refl _)))

include clock in
theorem advance_moves {a : Awaited σ α} (h : Handle σ α) {ex ex' : Executor σ α}
    (advanced : ex.advance a = some ex') : Moves others ⟨h, ex⟩ ⟨h, ex'⟩ := by
  obtain ⟨t, -, rfl⟩ := Option.map_eq_some_iff.mp advanced
  have later : Move others ⟨h, ex⟩ ⟨h, { ex with
      world := setClock (some (max ex.reactor.now t)) ex.world
      reactor := { ex.reactor with now := max ex.reactor.now t } }⟩ :=
    .meanwhile (.elsewhere h ex (clock _ _) (Nat.le_max_left _ _))
  exact .tail (.single later) (.meanwhile (.collect h _))

/-- What a main activity does when it is polled. -/
theorem pollMain_steps {a : Awaited σ α} {h : Handle σ α} (hand : InHand a h) (ex : Executor σ α) :
    ∃ h', InHand (ex.pollMain a).2.1 h' ∧ Steps others ⟨h, ex⟩ ⟨h', (ex.pollMain a).2.2⟩ := by
  cases hand with
  | time h t => exact ⟨h, .time h t, .refl⟩
  | task h id => exact ⟨h, .task h id, .refl⟩
  | handle h =>
    have polled : Steps others ⟨h, ex⟩ ⟨(ex.pollHandle h).2.1, (ex.pollHandle h).2.2⟩ :=
      .single (.move (.poll ⟨h, ex⟩))
    rw [pollMain]
    revert polled
    rcases ex.pollHandle h with ⟨_ | _ | _, h', ex'⟩
    all_goals exact fun polled => ⟨h', .handle h', polled⟩
  | race h t =>
    have polled : Steps others ⟨h, ex⟩ ⟨(ex.pollHandle h).2.1, (ex.pollHandle h).2.2⟩ :=
      .single (.move (.poll ⟨h, ex⟩))
    rw [pollMain]
    revert polled
    rcases ex.pollHandle h with ⟨_ | o | p, h', ex'⟩
    · intro polled
      dsimp only
      split
      · exact ⟨.completed, .race .completed t, polled.tail (.drop h' ex')⟩
      · exact ⟨h', .race h' t, polled⟩
    · exact fun polled => ⟨h', .race h' t, polled⟩
    · exact fun polled => ⟨h', .race h' t, polled⟩

include idle clock in
/-- What an executor does with a handle, in a race or not, is a sequence of steps. -/
theorem rounds_steps (limit : Nat) (due : Bool) {a : Awaited σ α} {h : Handle σ α}
    (hand : InHand a h) (ex : Executor σ α) :
    ∃ h', InHand (ex.rounds limit due a).2.1 h' ∧
      Steps others ⟨h, ex⟩ ⟨h', (ex.rounds limit due a).2.2⟩ := by
  induction limit generalizing due a h ex with
  | zero => exact ⟨h, hand, .refl⟩
  | succ limit ih =>
    have first : ∃ h', InHand (ex.pollIf due a).2.1 h' ∧
        Steps others ⟨h, ex⟩ ⟨h', (ex.pollIf due a).2.2⟩ := by
      cases due with
      | true => exact pollMain_steps hand ex
      | false => exact ⟨h, hand, .refl⟩
    rw [rounds]
    revert first
    rcases ex.pollIf due a with ⟨_ | reply, a', ex'⟩
    · rintro ⟨h', hand', first⟩
      have round : Steps others ⟨h', ex'⟩ ⟨h', (ex'.turns turnsPerRound).endRound⟩ :=
        steps_of_moves ((turns_moves idle _ h' ex').trans (endRound_moves idle h' _))
      have polled := first.trans round
      dsimp only
      split
      · obtain ⟨h'', hand'', rest⟩ := ih true hand' (ex'.turns turnsPerRound).endRound
        exact ⟨h'', hand'', polled.trans rest⟩
      · split
        · obtain ⟨h'', hand'', rest⟩ := ih false hand' (ex'.turns turnsPerRound).endRound
          exact ⟨h'', hand'', polled.trans rest⟩
        · split
          · next ex'' advanced =>
            obtain ⟨h'', hand'', rest⟩ := ih (ex''.isWoken a') hand' ex''
            have later := steps_of_moves (advance_moves clock h' advanced)
            exact ⟨h'', hand'', polled.trans (later.trans rest)⟩
          · exact ⟨h', hand', polled⟩
    · exact fun first => first

end Runs

end Executor

end Resumption
