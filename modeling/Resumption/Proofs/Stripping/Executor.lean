/-
Executor — an executor without some scopes.

While a handle runs the time-outs of these scopes, no task runs one of them.  So what the
executor does with its tasks and with the clock is the same, step by step, without them:

| step        | commutes with stripping because                            |
|-------------|------------------------------------------------------------|
| `collect`   | tasks are woken alike, and queued under the same names     |
| `turn`      | polls do, and no task runs one of the time-outs            |
| `endRound`  | it looks at names alone                                    |
| `advance`   | tasks wait for the same times                              |
-/
import Resumption.Proofs.Stripping.Polls
import Resumption.Proofs.Timeout.Vacant

namespace Resumption

open Future

variable {σ : Type} {α : Type} {k n : Nat}

/-- The task without these scopes; a future given to the executor stays as it is. -/
def Job.stripped (k n : Nat) : Job σ α → Job σ α
  | release a => release (a.stripped k n)
  | hosted h => hosted h

namespace Job

theorem woken_stripped (k n : Nat) (r : Reactor σ) (j : Job σ α) :
    (j.stripped k n).woken (r.stripped k n) = j.woken r := by
  cases j with
  | release a => exact a.woken_stripped k n r.now r.hasFinished
  | hosted h => rfl

theorem yielding_stripped (k n : Nat) (j : Job σ α) : (j.stripped k n).yielding = j.yielding := by
  cases j with
  | release a => exact a.yielding_stripped k n
  | hosted h => rfl

theorem nextDeadline_stripped (k n : Nat) (j : Job σ α) :
    (j.stripped k n).nextDeadline = j.nextDeadline := by
  cases j with
  | release a => exact a.nextDeadline_stripped k n
  | hosted h => rfl

/-- The poll of a release is the same without these scopes. -/
theorem poll_stripped [Observer σ] {a : Future σ Unit} (beyond : a.Beyond k n) (w : σ)
    {r : Reactor σ} (past : r.Past k n) :
    (release (a.stripped k n) : Job σ α).poll w (r.stripped k n) =
      match (release a : Job σ α).poll w r with
      | (left, w, r) => (left.map (stripped k n), w, r.stripped k n) := by
  have polls := a.poll_stripped k n beyond [] w (some r) fun _ mem => Option.some.inj mem ▸ past
  have same : (a.stripped k n).poll [] w (some (r.stripped k n)) = _ := polls.eq
  rw [poll, poll, same]
  rcases a.poll [] w (some r) with ⟨_ | _, _, _ | _⟩ <;> rfl

end Job

namespace Executor

/-- The tasks without these scopes, under the names that they have. -/
def strippedJobs (k n : Nat) (l : List (TaskId × Job σ α)) : List (TaskId × Job σ α) :=
  l.map fun x => (x.1, x.2.stripped k n)

/-- The executor without these scopes. -/
def stripped (k n : Nat) (ex : Executor σ α) : Executor σ α :=
  { ex with reactor := ex.reactor.stripped k n, jobs := strippedJobs k n ex.jobs }

theorem lookup_stripped (k n : Nat) (l : List (TaskId × Job σ α)) (id : TaskId) :
    (strippedJobs k n l).lookup id = (l.lookup id).map (Job.stripped k n) := by
  induction l with
  | nil => rfl
  | cons x l ih =>
    rw [strippedJobs, List.map_cons, List.lookup_cons, List.lookup_cons]
    split
    · rfl
    · exact ih

/-! ## Steps that only look at names and times -/

theorem collect_stripped (k n : Nat) (ex : Executor σ α) :
    (ex.stripped k n).collect = ex.collect.stripped k n := by
  have names : (ex.reactor.stripped k n).spawned.map Prod.fst = ex.reactor.spawned.map Prod.fst :=
    List.map_map
  have jobs : strippedJobs k n ex.jobs ++ releases (ex.reactor.stripped k n).spawned =
      strippedJobs k n (ex.jobs ++ releases ex.reactor.spawned) := by
    unfold strippedJobs releases Reactor.stripped
    rw [List.map_append, List.map_map, List.map_map]
    rfl
  unfold releases at jobs
  simp only [collect, stripped, names, jobs]
  simp only [strippedJobs, List.filter_map, List.map_map, Function.comp_def, Job.woken_stripped]
  rfl

theorem endRound_stripped (k n : Nat) (ex : Executor σ α) :
    (ex.stripped k n).endRound = ex.endRound.stripped k n :=
  rfl

theorem close_stripped (k n : Nat) (id : TaskId) (reply : Reply α) (ex : Executor σ α) :
    (ex.stripped k n).close id reply = (ex.close id reply).stripped k n := by
  simp only [close, stripped, strippedJobs, List.filter_map]
  rfl

theorem keep_stripped (k n : Nat) (id : TaskId) (j : Job σ α) (ex : Executor σ α) :
    (ex.stripped k n).keep id (j.stripped k n) = (ex.keep id j).stripped k n := by
  have put (x : TaskId × Job σ α) :
      (if x.1 == id then (id, j.stripped k n) else (x.1, x.2.stripped k n)) =
        ((if x.1 == id then (id, j) else x).1,
          (if x.1 == id then (id, j) else x).2.stripped k n) := by
    split <;> rfl
  simp only [keep, stripped, strippedJobs, j.yielding_stripped, List.map_map, Function.comp_def,
    put]

/-- The turn of a task that was not aborted. -/
theorem turn_of_lookup [Observer σ] {id : TaskId} {j : Job σ α} {ex : Executor σ α}
    (found : ex.jobs.lookup id = some j) (kept : ex.aborted = []) :
    ex.turn id = match j.poll ex.world ex.reactor with
      | (.ok job, w, r) => keep id job { ex with world := w, reactor := r }
      | (.error reply, w, r) => close id reply { ex with world := w, reactor := r } := by
  obtain ⟨w, r, jobs, queue, pausing, aborted, ended⟩ := ex
  obtain rfl : aborted = [] := kept
  rw [turn, found]
  rfl

/-- The clock moves alike for main activities that wait for the same time. -/
theorem advance_stripped [Observer σ] (k n : Nat) {a a' : Awaited σ α} (ex : Executor σ α)
    (same : mainDeadline a' = mainDeadline a) :
    (ex.stripped k n).advance a' = (ex.advance a).map (stripped k n) := by
  have waits : (strippedJobs k n ex.jobs).foldl
      (fun t x => Future.earlier t x.2.nextDeadline) (mainDeadline a') =
        ex.jobs.foldl (fun t x => Future.earlier t x.2.nextDeadline) (mainDeadline a) := by
    rw [same, strippedJobs, List.foldl_map]
    simp only [Job.nextDeadline_stripped]
  unfold advance
  rw [Option.map_map]
  simp only [stripped, waits]
  refine congrArg (Option.map · _) (funext fun t => ?_)
  exact collect_stripped k n { ex with
    world := setClock (some (max ex.reactor.now t)) ex.world
    reactor := { ex.reactor with now := max ex.reactor.now t } }

end Executor

/-! ## Turns -/

namespace Session

variable {μ : Nesting} {m : TaskId} {l : List (TaskId × Future σ Unit)} {h : Handle σ α}
  {ex : Executor σ α}

/-- The time-outs of these scopes run in the handle. -/
structure Holds (k n : Nat) (h : Handle σ α) : Prop where
  some : 0 < n
  timers : ∀ T, k ≤ T → T < k + n → T ∈ h.timers

/-- The scopes of time-outs that run in the handle were opened. -/
theorem Attended.handle_timers_lt (attended : Attended μ m l ⟨h, ex⟩) {T : ScopeId}
    (timed : T ∈ h.timers) : T < ex.reactor.nextScope := by
  cases h with
  | completed => cases timed
  | live a => exact attended.sound.named ▸ Placed.timers_lt attended.handle timed

theorem Attended.past (attended : Attended μ m l ⟨h, ex⟩) (holds : Holds k n h) :
    ex.reactor.Past k n where
  scopes := by
    have some := holds.some
    have last : k + n - 1 < ex.reactor.nextScope :=
      attended.handle_timers_lt (holds.timers (k + n - 1) (by omega) (by omega))
    omega
  registered x mem := (attended.sound.registered x mem).2

/-- A task runs none of the time-outs that run in the handle. -/
theorem Attended.task_beyond (attended : Attended μ m l ⟨h, ex⟩) (holds : Holds k n h)
    {id : TaskId} {a : Future σ Unit} (task : (id, a) ∈ l) : a.Beyond k n where
  placed := ⟨μ, ex.reactor, [], attended.placed _ (List.mem_append_left _ task)⟩
  timers T timed := by
    refine apart_of_not_inside fun here before => ?_
    have once : h.timers.count T + _ ≤ 1 := attended.timers T
    have inHandle : 0 < h.timers.count T := List.count_pos_iff.mpr (holds.timers T here before)
    have inTask : T ∈ tasksTimers (tasks l ⟨h, ex⟩) :=
      List.mem_flatMap.mpr ⟨_, List.mem_append_left _ task, timed⟩
    have inTasks := List.count_pos_iff.mpr inTask
    omega

/-- Every task is a release. -/
theorem Attended.release_of_lookup (attended : Attended μ m l ⟨h, ex⟩) {id : TaskId}
    {j : Job σ α} (found : ex.jobs.lookup id = some j) : ∃ a, j = .release a ∧ (id, a) ∈ l := by
  obtain ⟨l₁, l₂, split, -⟩ := List.lookup_eq_some_iff.mp found
  have mem : (id, j) ∈ Executor.releases l := by
    rw [← attended.orderly.jobs, split]
    exact List.mem_append_right _ List.mem_cons_self
  obtain ⟨⟨_, a⟩, task, same⟩ := List.mem_map.mp mem
  cases same
  exact ⟨a, rfl, task⟩

variable [Observer σ]

/-- The turn of a task is the same without these scopes. -/
theorem Attended.turn_stripped (attended : Attended μ m l ⟨h, ex⟩) (holds : Holds k n h)
    (id : TaskId) : (ex.stripped k n).turn id = (ex.turn id).stripped k n := by
  have found : (ex.stripped k n).jobs.lookup id = _ := Executor.lookup_stripped k n ex.jobs id
  have kept := attended.orderly.kept
  cases looked : ex.jobs.lookup id with
  | none =>
    rw [looked, Option.map_none] at found
    rw [Executor.turn, Executor.turn, found, looked]
  | some j =>
    obtain ⟨a, rfl, task⟩ := attended.release_of_lookup looked
    have polled : (Job.release (a.stripped k n) : Job σ α).poll ex.world
        (ex.reactor.stripped k n) = _ :=
      Job.poll_stripped (attended.task_beyond holds task) ex.world (attended.past holds)
    rw [looked, Option.map_some] at found
    rw [Executor.turn_of_lookup found kept, Executor.turn_of_lookup looked kept]
    simp only [Job.stripped, Executor.stripped, polled]
    rcases (Job.release a : Job σ α).poll ex.world ex.reactor with ⟨reply | job, w, r⟩
    · exact Executor.close_stripped k n id reply { ex with world := w, reactor := r }
    · exact Executor.keep_stripped k n id job { ex with world := w, reactor := r }

/-- So are the turns of the tasks, one after another. -/
theorem AllAwaited.turns_stripped (holds : Holds k n h) (limit : Nat)
    (awaited : AllAwaited ⟨h, ex⟩) :
    (ex.stripped k n).turns limit = (ex.turns limit).stripped k n := by
  induction limit generalizing ex with
  | zero => rw [Executor.turns, Executor.turns]
  | succ limit ih =>
    cases queue : ex.queue with
    | nil =>
      have idle : (ex.stripped k n).queue = [] := queue
      rw [Executor.turns_idle _ queue, Executor.turns_idle _ idle]
    | cons id rest =>
      have next : (ex.stripped k n).queue = id :: rest := queue
      obtain ⟨_, _, _, attended⟩ := awaited.popped rest
      have turned := attended.turn_stripped holds id
      rw [Executor.turns_next limit queue, Executor.turns_next limit next]
      rw [← ih ((awaited.popped rest).turn id), ← Executor.collect_stripped, ← turned]
      rfl

end Session

/-! ## Vacant executors -/

namespace Executor.Vacant

variable [Observer σ] {ex : Executor σ α}

/-- What is opened on a vacant executor can be taken away again. -/
theorem opened_stripped (vacant : ex.Vacant) (n j : Nat) (atMost : j ≤ n) :
    (ex.reactor.opened j).stripped ex.reactor.nextScope n = ex.reactor :=
  Reactor.opened_stripped n j atMost (fun x mem => (vacant.registered x mem).1) vacant.empty.2

theorem stripped (vacant : ex.Vacant) (n : Nat) : ex.stripped ex.reactor.nextScope n = ex := by
  have reactor : ex.reactor.stripped ex.reactor.nextScope n = ex.reactor :=
    vacant.opened_stripped n 0 (Nat.zero_le n)
  rw [Executor.stripped, reactor, vacant.empty.1]
  show { ex with jobs := [] } = ex
  rw [← vacant.empty.1]

end Executor.Vacant

end Resumption
