/-
Vacant — an executor on which nothing runs.

While a handle is kept on its executor, every task is awaited, whatever moves are made.
So when its outcome was handed out, the executor is vacant: nothing is left to run, and it
is ready for another future.  Time may have passed on it, and scopes may have been opened.
-/
import Resumption.Proofs.Timeout.Session

namespace Resumption

open Future

variable {σ : Type} {α : Type}

/-! ## Turns and rounds -/

namespace Executor

variable [Observer σ] {ex : Executor σ α}

theorem turns_idle (limit : Nat) (idle : ex.queue = []) : ex.turns limit = ex := by
  rw [turns.eq_def, idle]
  cases limit <;> rfl

theorem turns_next (limit : Nat) {id : TaskId} {rest : List TaskId}
    (next : ex.queue = id :: rest) :
    ex.turns (limit + 1) = ({ ex with queue := rest }.turn id).collect.turns limit := by
  rw [turns.eq_def, next]

/-- A round in which the main activity is polled goes on, if there is no reply, as one in which
it is not polled. -/
theorem rounds_polled (limit : Nat) (a : Awaited σ α) (ex : Executor σ α) :
    ex.rounds (limit + 1) true a = match ex.pollMain a with
      | (some reply, a, ex) => (some reply, a, ex)
      | (none, a, ex) => ex.rounds (limit + 1) false a := by
  rw [rounds, pollIf, if_pos rfl]
  rcases ex.pollMain a with ⟨_ | _, _, _⟩ <;> rfl

/-- A round in which the main activity is not polled. -/
theorem rounds_unpolled (limit : Nat) (a : Awaited σ α) (ex : Executor σ α) :
    ex.rounds (limit + 1) false a =
      let e := (ex.turns turnsPerRound).endRound
      if e.isWoken a then e.rounds limit true a
      else if !e.queue.isEmpty then e.rounds limit false a
      else
        match e.advance a with
        | some e => e.rounds limit (e.isWoken a) a
        | none => (none, a, e) := by
  rw [rounds]
  rfl

end Executor

/-! ## Sessions -/

namespace Session

variable {μ : Nesting} {m : TaskId} {l : List (TaskId × Future σ Unit)} {h : Handle σ α}
  {ex : Executor σ α} {s t : Session σ α}

/-- Every task of the session is awaited. -/
def AllAwaited (s : Session σ α) : Prop :=
  ∃ μ m l, Attended μ m l s

/-- When the handle's outcome was handed out, nothing is left to run. -/
theorem AllAwaited.quiet (awaited : s.AllAwaited) (gone : s.handle = .completed) : s.Quiet := by
  obtain ⟨_, _, l, attended⟩ := awaited
  obtain ⟨rfl, empty⟩ := List.append_eq_nil_iff.mp (attended.no_tasks gone)
  exact ⟨gone, attended.orderly.jobs, empty⟩

/-- Where there is no task, all registered releases have finished. -/
theorem AllAwaited.idle (awaited : AllAwaited ⟨h, ex⟩) (jobs : ex.jobs = [])
    (spawned : ex.reactor.spawned = []) {id : TaskId} (old : id < ex.reactor.nextTask) :
    id ∈ ex.reactor.finished := by
  obtain ⟨_, _, l, attended⟩ := awaited
  have none : tasks l ⟨h, ex⟩ = [] := by
    obtain rfl : l = [] := List.map_eq_nil_iff.mp (attended.orderly.jobs.symm.trans jobs)
    exact spawned
  exact attended.all_finished none id old

/-- Another future can be taken in hand when the handle's outcome was handed out. -/
theorem Attended.next (attended : Attended μ m l ⟨.completed, ex⟩) {a : Future σ α}
    (fresh : a.Fresh) : Attended μ m l ⟨.live a, ex⟩ := by
  have none := attended.no_tasks rfl
  refine ⟨attended.orderly, attended.sound, fresh.placed _ _ _, attended.placed, ?_,
    attended.alive, ?_, attended.known⟩
  · intro T
    show a.timers.count T + _ ≤ 1
    rw [fresh.timers]
    exact attended.timers T
  · intro x mem
    have absent : x ∈ tasks l ⟨.completed, ex⟩ := mem
    rw [none] at absent
    cases absent

variable [Observer σ]

/-- Every task stays awaited, whatever others do to the world. -/
theorem AllAwaited.moves (awaited : s.AllAwaited) (moves : Moves (fun _ _ => True) s t) :
    t.AllAwaited := by
  induction moves with
  | refl => exact awaited
  | tail _ move ih =>
    obtain ⟨_, _, _, attended⟩ := ih
    exact attended.move move

theorem AllAwaited.poll (awaited : s.AllAwaited) : s.polled.AllAwaited :=
  awaited.moves (.single (.poll s))

theorem AllAwaited.popped (awaited : AllAwaited ⟨h, ex⟩) (rest : List TaskId) :
    AllAwaited ⟨h, { ex with queue := rest }⟩ :=
  awaited.moves (.single (.meanwhile (.elsewhere h ex trivial (Nat.le_refl _))))

theorem AllAwaited.turn (awaited : AllAwaited ⟨h, ex⟩) (id : TaskId) :
    AllAwaited ⟨h, (ex.turn id).collect⟩ :=
  awaited.moves (.single (.meanwhile (.turn h ex id)))

/-- The turns of a round. -/
theorem round_moves (h : Handle σ α) (ex : Executor σ α) :
    Moves (fun _ _ => True) ⟨h, ex⟩ ⟨h, (ex.turns turnsPerRound).endRound⟩ :=
  (ex.turns_moves (fun _ => trivial) turnsPerRound h).trans
    (Executor.endRound_moves (fun _ => trivial) h _)

theorem AllAwaited.round (awaited : AllAwaited ⟨h, ex⟩) :
    AllAwaited ⟨h, (ex.turns turnsPerRound).endRound⟩ :=
  awaited.moves (round_moves h ex)

/-- The passing of time. -/
theorem AllAwaited.advance (awaited : AllAwaited ⟨h, ex⟩) {i : Awaited σ α} {ex' : Executor σ α}
    (advanced : ex.advance i = some ex') : AllAwaited ⟨h, ex'⟩ :=
  awaited.moves (Executor.advance_moves (fun _ _ => trivial) h advanced)

/-! ## The clock between two polls -/

theorem Attended.turn_now (attended : Attended μ m l ⟨h, ex⟩) (id : TaskId) :
    (ex.turn id).reactor.now = ex.reactor.now := by
  by_cases mem : id ∈ l.map Prod.fst
  · obtain ⟨l₁, a, l₂, rfl⟩ := Executor.split_of_name mem
    obtain ⟨_, r', _, active, tended⟩ := tends attended.site a attended.task_stands ex.world
    obtain ⟨-, -, reactor⟩ := attended.orderly.turn rfl active
      (tended.spawns.numbered attended.orderly.numbered)
    rw [reactor, ← tended.still.now]
    cases (a.poll [] ex.world (some ex.reactor)).progress <;> rfl
  · have absent : id ∉ ex.jobs.map Prod.fst := by
      rw [attended.orderly.jobs, Executor.releases_names]
      exact mem
    rw [ex.turn_of_not_mem absent]

/-- Turns take no time. -/
theorem AllAwaited.turns_now (limit : Nat) (awaited : AllAwaited ⟨h, ex⟩) :
    (ex.turns limit).reactor.now = ex.reactor.now := by
  induction limit generalizing ex with
  | zero => rw [Executor.turns]
  | succ limit ih =>
    cases queue : ex.queue with
    | nil => rw [Executor.turns_idle _ queue]
    | cons id rest =>
      obtain ⟨_, _, _, attended⟩ := awaited.popped rest
      rw [Executor.turns_next limit queue, ih ((awaited.popped rest).turn id)]
      exact attended.turn_now id

end Session

/-! ## Awaiting a handle -/

namespace Session

variable [Observer σ]

/-- What becomes of the session when its handle is awaited: nothing is left of the handle when
there is a reply. -/
inductive Brings (s : Session σ α) : Option (Reply α) × Awaited σ α × Executor σ α → Prop
  | replied {reply : Reply α} {ex : Executor σ α} : Moves (fun _ _ => True) s ⟨.completed, ex⟩ →
      Brings s (some reply, .handle .completed, ex)
  | waiting {h : Handle σ α} {ex : Executor σ α} : Moves (fun _ _ => True) s ⟨h, ex⟩ →
      Brings s (none, .handle h, ex)

variable {s t : Session σ α} {x : Option (Reply α) × Awaited σ α × Executor σ α}

theorem Brings.after (moves : Moves (fun _ _ => True) s t) (brings : t.Brings x) : s.Brings x := by
  cases brings with
  | replied rest => exact .replied (moves.trans rest)
  | waiting rest => exact .waiting (moves.trans rest)

theorem brings_pollMain (h : Handle σ α) (ex : Executor σ α) :
    Brings ⟨h, ex⟩ (ex.pollMain (.handle h)) := by
  have polled : Moves (fun _ _ => True) ⟨h, ex⟩ (polled ⟨h, ex⟩) := .single (.poll _)
  cases h with
  | completed => exact .replied polled
  | live a =>
    rw [Session.polled, Executor.pollHandle, Handle.poll] at polled
    rw [Executor.pollMain, Executor.pollHandle, Handle.poll]
    revert polled
    rcases a.poll [] ex.world (some ex.reactor) with ⟨_ | _, _, _⟩
    · exact .replied
    · exact .waiting

/-- Awaiting a handle is a sequence of moves. -/
theorem brings_rounds (limit : Nat) (due : Bool) (h : Handle σ α) (ex : Executor σ α) :
    Brings ⟨h, ex⟩ (ex.rounds limit due (.handle h)) := by
  induction limit generalizing due h ex with
  | zero => exact .waiting .refl
  | succ limit ih =>
    have unpolled (h : Handle σ α) (ex : Executor σ α) :
        Brings ⟨h, ex⟩ (ex.rounds (limit + 1) false (.handle h)) := by
      rw [Executor.rounds_unpolled]
      refine .after (round_moves h ex) ?_
      generalize (ex.turns turnsPerRound).endRound = e
      dsimp only
      split
      · exact ih true h e
      · split
        · exact ih false h e
        · split
          · next e' advanced =>
            exact .after (Executor.advance_moves (fun _ _ => trivial) h advanced) (ih _ h e')
          · exact .waiting .refl
    cases due with
    | false => exact unpolled h ex
    | true =>
      have polled := brings_pollMain h ex
      rw [Executor.rounds_polled]
      generalize ex.pollMain (.handle h) = x at polled
      cases polled with
      | replied moves => exact .replied moves
      | @waiting h' e moves => exact .after moves (unpolled h' e)

end Session

/-! ## Vacancy -/

open Session

variable [Observer σ]

/-- Nothing runs on the executor: it is new, or it has brought a future to its end. -/
inductive Executor.Vacant : Executor σ α → Prop
  | start (w : σ) : Vacant (.start w)
  | after {a : Future σ α} {ex ex' : Executor σ α} : Vacant ex → a.Fresh →
      Moves (fun _ _ => True) ⟨.live a, ex⟩ ⟨.completed, ex'⟩ → Vacant ex'

namespace Executor.Vacant

variable {ex : Executor σ α} {a : Future σ α}

/-- While a future is run on the executor, every task is awaited. -/
theorem allAwaited (vacant : ex.Vacant) (fresh : a.Fresh) : AllAwaited ⟨.live a, ex⟩ := by
  induction vacant generalizing a with
  | start w => exact ⟨_, _, _, attended_start fresh w⟩
  | after _ fresh' run ih =>
    obtain ⟨_, _, _, attended⟩ := (ih fresh').moves run
    exact ⟨_, _, _, attended.next fresh⟩

theorem empty (vacant : ex.Vacant) : ex.jobs = [] ∧ ex.reactor.spawned = [] := by
  cases vacant with
  | start w => exact ⟨rfl, rfl⟩
  | after before fresh run => exact (((before.allAwaited fresh).moves run).quiet rfl).2

/-- An executor that has awaited a future to its end is vacant again. -/
theorem await (vacant : ex.Vacant) (fresh : a.Fresh) {limit : Nat}
    (replied : (ex.await limit (.live a)).1.isSome) : (ex.await limit (.live a)).2.2.Vacant := by
  have brings : Brings ⟨.live a, ex⟩ (ex.drive limit (.handle (.live a))) :=
    brings_rounds limit true _ ex
  unfold Executor.await at replied ⊢
  generalize ex.drive limit (.handle (.live a)) = x at brings replied
  cases brings with
  | replied moves => exact .after vacant fresh moves
  | waiting _ => cases replied

/-- What is registered was spawned. -/
theorem registered (vacant : ex.Vacant) :
    ∀ x ∈ ex.reactor.registered, x.1 < ex.reactor.nextScope ∧ x.2 < ex.reactor.nextTask := by
  obtain ⟨_, _, _, attended⟩ := vacant.allAwaited (a := .never) trivial
  exact attended.sound.registered

end Executor.Vacant

end Resumption
