/-
Executor — one thread that drives futures in virtual time.

An executor polls one main activity and a queue of tasks.  A round polls the main
activity if it was woken and then lets the queued tasks have their turns, oldest
first, at most `turnsPerRound` of them; a task that is spawned or woken
meanwhile goes to the back of the queue.  A task that pauses goes there at the
end of the round, after the tasks that paused later.  When nothing can run, the
clock jumps to the earliest time that anything waits for.

A task that was aborted is dropped when its turn comes.  Releases orphaned by a
drop are spawned as tasks.
-/
import Resumption.Carrier.Perform
import Resumption.Future.Handle

namespace Resumption

variable {σ : Type} {α : Type}

/-- What a task runs: an orphaned release, or a future given to the executor. -/
inductive Job (σ : Type) (α : Type) : Type 1 where
  | release (a : Future σ Unit)
  | hosted (h : Handle σ α)

/-- How an activity ended. -/
inductive Reply (α : Type) where
  | outcome (r : Except Failure α)
  | panicked (p : Panic)
  | cancelled
  | lost
  | slept

/-- What the main activity waits for. -/
inductive Awaited (σ : Type) (α : Type) : Type 1 where
  | handle (h : Handle σ α)
  | time (deadline : Nat)
  | race (h : Handle σ α) (deadline : Nat)
  | task (id : TaskId)

/-- An executor between two polls.  `queue` holds the tasks whose turn is to come, and
`pausing` those that wait for the end of the round. -/
structure Executor (σ : Type) (α : Type) : Type 1 where
  world : σ
  reactor : Reactor σ
  jobs : List (TaskId × Job σ α)
  queue : List TaskId
  pausing : List TaskId
  aborted : List TaskId
  ended : List (TaskId × Reply α)

/-- How many tasks have a turn before the main activity is looked at again. -/
def turnsPerRound : Nat := 61

namespace Job

/-- Is there a reason to poll the task again? -/
def woken (r : Reactor σ) : Job σ α → Bool
  | release a => a.woken r.now r.hasFinished
  | hosted h => h.woken r.now r.hasFinished

/-- Does the task wait for its next turn? -/
def yielding : Job σ α → Bool
  | release a => a.yielding
  | hosted h => h.yielding

/-- The next time that the task waits for. -/
def nextDeadline : Job σ α → Option Nat
  | release a => a.nextDeadline
  | hosted h => h.nextDeadline

/-- The releases that are left when the task is dropped. -/
def orphans : Job σ α → List (Future.Orphan σ)
  | release a => a.orphans
  | hosted h => h.orphans

/-- The number of brackets whose resource the task holds. -/
def held : Job σ α → Nat
  | release a => a.held
  | hosted (.live a) => a.held
  | hosted .completed => 0

/-- Polls the task; it goes on as a task or ends with a reply. -/
def poll [Observer σ] (j : Job σ α) (w : σ) (r : Reactor σ) :
    Except (Reply α) (Job σ α) × σ × Reactor σ :=
  match j with
  | release a =>
    match a.poll [] w (some r) with
    | ⟨.ended _, w, r'⟩ => (.error .slept, w, r'.getD r)
    | ⟨.pending a, w, r'⟩ => (.ok (release a), w, r'.getD r)
  | hosted h =>
    match h.poll w (some r) with
    | (.outcome o, _, w, r') => (.error (.outcome o), w, r'.getD r)
    | (.panicked p, _, w, r') => (.error (.panicked p), w, r'.getD r)
    | (.pending, h, w, r') => (.ok (hosted h), w, r'.getD r)

end Job

namespace Executor

/-- An executor at time zero. -/
def start [Observer σ] (w : σ) : Executor σ α where
  world := setClock (some 0) w
  reactor := .initial
  jobs := []
  queue := []
  pausing := []
  aborted := []
  ended := []

/-- The world that an executor leaves.  Its tasks are dropped with it; what they hold
is cancelled, but there is nothing left to run the releases. -/
def stop [Observer σ] (ex : Executor σ α) : σ :=
  Nat.repeat (note .bracketCancelled) (ex.jobs.foldl (fun n (_, j) => n + j.held) 0)
    (setClock none ex.world)

/-- Takes over the spawned tasks and queues every task that has been woken. -/
def collect (ex : Executor σ α) : Executor σ α :=
  let jobs := ex.jobs ++ ex.reactor.spawned.map fun (id, a) => (id, .release a)
  let queue := ex.queue ++ ex.reactor.spawned.map Prod.fst
  let woken := jobs.filter fun (id, j) => !queue.contains id && j.woken ex.reactor
  { ex with
    reactor := { ex.reactor with spawned := [] }
    jobs := jobs
    queue := queue ++ woken.map Prod.fst }

/-- Queues the tasks that paused in the round, the latest first. -/
def endRound (ex : Executor σ α) : Executor σ α :=
  { ex with
    queue := ex.queue ++ ex.pausing.reverse.eraseDups.filter fun id => !ex.queue.contains id
    pausing := [] }

/-- Removes a task that has ended. -/
def close (id : TaskId) (reply : Reply α) (ex : Executor σ α) : Executor σ α :=
  { ex with
    reactor := { ex.reactor with finished := id :: ex.reactor.finished }
    jobs := ex.jobs.filter fun x => x.1 != id
    ended := (id, reply) :: ex.ended }

/-- Puts a polled task back. -/
def keep (id : TaskId) (job : Job σ α) (ex : Executor σ α) : Executor σ α :=
  { ex with
    jobs := ex.jobs.map fun x => if x.1 == id then (id, job) else x
    pausing := if job.yielding then ex.pausing ++ [id] else ex.pausing }

/-- Drops something in the executor: its orphans are spawned. -/
def discard [Observer σ] (orphans : List (Future.Orphan σ)) (ex : Executor σ α) : Executor σ α :=
  match ex.reactor.adopt orphans ex.world with
  | (w, r) => { ex with world := w, reactor := r }

/-- The turn of one task. -/
def turn [Observer σ] (id : TaskId) (ex : Executor σ α) : Executor σ α :=
  match ex.jobs.lookup id with
  | none => ex
  | some job =>
    if ex.aborted.contains id then (ex.discard job.orphans).close id .cancelled
    else
      match ex with
      | ⟨w, r, jobs, queue, pausing, aborted, ended⟩ =>
        match job.poll w r with
        | (.ok job, w, r) => keep id job ⟨w, r, jobs, queue, pausing, aborted, ended⟩
        | (.error reply, w, r) => close id reply ⟨w, r, jobs, queue, pausing, aborted, ended⟩

/-- Lets queued tasks have their turns, at most `limit` of them. -/
def turns [Observer σ] (limit : Nat) (ex : Executor σ α) : Executor σ α :=
  match limit, ex.queue with
  | 0, _ => ex
  | _, [] => ex
  | limit + 1, id :: rest => turns limit ({ ex with queue := rest }.turn id).collect

/-- Is the main activity to be polled again? -/
def isWoken (ex : Executor σ α) : Awaited σ α → Bool
  | .handle h => h.yielding || h.woken ex.reactor.now ex.reactor.hasFinished
  | .time t => t ≤ ex.reactor.now
  | .race h t =>
    t ≤ ex.reactor.now || h.yielding || h.woken ex.reactor.now ex.reactor.hasFinished
  | .task id => (ex.ended.lookup id).isSome

/-- The next time that the main activity waits for. -/
def mainDeadline : Awaited σ α → Option Nat
  | .handle h => h.nextDeadline
  | .time t => some t
  | .race h t => Future.earlier (some t) h.nextDeadline
  | .task _ => none

/-- Polls a handle from the main activity. -/
def pollHandle [Observer σ] (h : Handle σ α) (ex : Executor σ α) :
    Answer α × Handle σ α × Executor σ α :=
  match ex with
  | ⟨w, r, jobs, queue, pausing, aborted, ended⟩ =>
    match h.poll w (some r) with
    | (a, h, w, r') => (a, h, collect ⟨w, r'.getD r, jobs, queue, pausing, aborted, ended⟩)

/-- Drops a handle from the main activity. -/
def dropHandle [Observer σ] (h : Handle σ α) (ex : Executor σ α) : Executor σ α :=
  (ex.discard h.orphans).collect

/-- The world that an executor leaves when its main activity ends with a handle. -/
def leave [Observer σ] (h : Handle σ α) (ex : Executor σ α) : σ :=
  (ex.dropHandle h).stop

/-- Polls the main activity; a race prefers its future and drops it when it is lost. -/
def pollMain [Observer σ] (a : Awaited σ α) (ex : Executor σ α) :
    Option (Reply α) × Awaited σ α × Executor σ α :=
  match a with
  | .time t => (if t ≤ ex.reactor.now then some .slept else none, a, ex)
  | .task id => (ex.ended.lookup id, a, ex)
  | .handle h =>
    match ex.pollHandle h with
    | (.outcome o, h, ex) => (some (.outcome o), .handle h, ex)
    | (.panicked p, h, ex) => (some (.panicked p), .handle h, ex)
    | (.pending, h, ex) => (none, .handle h, ex)
  | .race h t =>
    match ex.pollHandle h with
    | (.outcome o, h, ex) => (some (.outcome o), .race h t, ex)
    | (.panicked p, h, ex) => (some (.panicked p), .race h t, ex)
    | (.pending, h, ex) =>
      if t ≤ ex.reactor.now then (some .lost, .race .completed t, ex.dropHandle h)
      else (none, .race h t, ex)

/-- Moves the clock to the next time that anything waits for. -/
def advance [Observer σ] (a : Awaited σ α) (ex : Executor σ α) : Option (Executor σ α) :=
  let deadline := ex.jobs.foldl (fun t (_, j) => Future.earlier t j.nextDeadline) (mainDeadline a)
  deadline.map fun t =>
    let now := max ex.reactor.now t
    collect { ex with
      world := setClock (some now) ex.world
      reactor := { ex.reactor with now := now } }

/-- Polls the main activity if it is due. -/
def pollIf [Observer σ] (due : Bool) (a : Awaited σ α) (ex : Executor σ α) :
    Option (Reply α) × Awaited σ α × Executor σ α :=
  if due then ex.pollMain a else (none, a, ex)

/-- Rounds until the main activity ends, at most `limit` of them; there is no
reply if it cannot end.  `due` says whether the main activity is polled in the
first of them. -/
def rounds [Observer σ] (limit : Nat) (due : Bool) (a : Awaited σ α) (ex : Executor σ α) :
    Option (Reply α) × Awaited σ α × Executor σ α :=
  match limit with
  | 0 => (none, a, ex)
  | limit + 1 =>
    match ex.pollIf due a with
    | (some reply, a, ex) => (some reply, a, ex)
    | (none, a, ex) =>
      let ex := (ex.turns turnsPerRound).endRound
      if ex.isWoken a then rounds limit true a ex
      else if !ex.queue.isEmpty then rounds limit false a ex
      else
        match ex.advance a with
        | some ex => rounds limit (ex.isWoken a) a ex
        | none => (none, a, ex)

/-- Polls the main activity at once and then drives the executor until it ends. -/
def drive [Observer σ] (limit : Nat) (a : Awaited σ α) (ex : Executor σ α) :
    Option (Reply α) × Awaited σ α × Executor σ α :=
  ex.rounds limit true a

/-! ## Main activities -/

/-- Awaits a handle. -/
def await [Observer σ] (limit : Nat) (h : Handle σ α) (ex : Executor σ α) :
    Option (Reply α) × Handle σ α × Executor σ α :=
  match ex.drive limit (.handle h) with
  | (reply, .handle h, ex) => (reply, h, ex)
  | (reply, _, ex) => (reply, .completed, ex)

/-- Sleeps for some milliseconds. -/
def sleep [Observer σ] (limit : Nat) (ms : Nat) (ex : Executor σ α) : Executor σ α :=
  (ex.drive limit (.time (ex.reactor.now + ms))).2.2

/-- Awaits a handle for at most some milliseconds and then drops it. -/
def race [Observer σ] (limit : Nat) (h : Handle σ α) (ms : Nat) (ex : Executor σ α) :
    Option (Reply α) × Executor σ α :=
  match ex.drive limit (.race h (ex.reactor.now + ms)) with
  | (reply, _, ex) => (reply, ex)

/-- Gives a handle to the executor as a task. -/
def spawn (h : Handle σ α) (ex : Executor σ α) : TaskId × Executor σ α :=
  (ex.reactor.nextTask,
    { ex with
      reactor := { ex.reactor with nextTask := ex.reactor.nextTask + 1 }
      jobs := ex.jobs ++ [(ex.reactor.nextTask, .hosted h)]
      queue := ex.queue ++ [ex.reactor.nextTask] })

/-- Has a task dropped when its turn comes. -/
def abort (id : TaskId) (ex : Executor σ α) : Executor σ α :=
  { ex with
    aborted := id :: ex.aborted
    queue := if ex.queue.contains id then ex.queue else ex.queue ++ [id] }

/-- Awaits the end of a task. -/
def join [Observer σ] (limit : Nat) (id : TaskId) (ex : Executor σ α) :
    Option (Reply α) × Executor σ α :=
  match ex.drive limit (.task id) with
  | (reply, _, ex) => (reply, ex)

end Executor

/-- Runs a future on an executor of its own: the outcome and the time it took. -/
def Future.run [Observer σ] (limit : Nat) (a : Future σ α) (w : σ) :
    Option (Reply α) × Nat × σ :=
  match (Executor.start w).await limit (.live a) with
  | (reply, _, ex) => (reply, ex.reactor.now, ex.stop)

/-- Performs a future on an executor of its own, which also runs what comes next.
There is no failure to show for a future that does not end. -/
@[reducible] def Future.runnable.{u} [Observer σ] (limit : Nat) :
    Runnable.{u} σ (Future σ) (Option Failure) where
  perform a next := fun w =>
    let (reply, _, ex) := (Executor.start w).await limit (.live a)
    match reply with
    | some (.outcome (.ok x)) =>
      match ((next x).map Except.ok).caught ex.world with
      | (r, w) => (.ok (r.mapError some), { ex with world := w }.stop)
    | some (.outcome (.error e)) => (.ok (.error (some e)), ex.stop)
    | _ => (.ok (.error none), ex.stop)

end Resumption
