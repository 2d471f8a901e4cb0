/-
Turns — the order in which an executor gives its tasks their turns.

Whatever else an executor does, it takes the next turn from the front of its
queue and adds to the back.  A poll adds tasks to those that wait to be taken
over, so every task gets a name that no other one has, and its turns come in the
order of the queue.

| an executor            | which                                                |
|------------------------|------------------------------------------------------|
| `Step.poll`, `Step.drop` | has its main activity poll a future or drop it     |
| `Step.spawn`           | is given a future as a task                          |
| `Step.abort`           | has a task aborted that is no release                |
| `Step.endRound`        | ends a round                                         |
| `Step.advance`         | has the clock moved                                  |
| `Runs.turn`            | gives the first task of its queue a turn             |
-/
import Resumption.Proofs.Future.Context
import Resumption.Proofs.Future.Tasks

namespace Resumption

/-! ## Polls add tasks -/

namespace Future

variable {σ : Type} {α β γ ρ : Type}

/-- A poll that was given this reactor left it with some tasks more. -/
def Polled.Adds (r : Reactor σ) (p : Polled σ α) : Prop :=
  ∃ r' new, p.reactor = some r' ∧ r.Spawns new r'

namespace Polled.Adds

variable {r : Reactor σ} {w : σ}

theorem same (p : Progress σ α) (w : σ) (r : Reactor σ) : Polled.Adds r ⟨p, w, some r⟩ :=
  ⟨r, [], rfl, .nil rfl rfl⟩

theorem ofHost (h : Host σ (Except Failure α)) (w : σ) (r : Reactor σ) :
    (Polled.ofHost h w (some r)).Adds r := by
  rw [Polled.ofHost]
  rcases h.caught w with ⟨o, w'⟩
  exact same ..

theorem trans {r₁ : Reactor σ} {new : List (TaskId × Future σ Unit)} {p : Polled σ α}
    (first : r.Spawns new r₁) (second : p.Adds r₁) : p.Adds r := by
  obtain ⟨r', new', active, spawns⟩ := second
  exact ⟨r', _, active, first.trans spawns⟩

theorem around {K : Future σ α → Future σ β}
    {F : Except Failure α → σ → Option (Reactor σ) → Polled σ β} {p : Polled σ α} (adds : p.Adds r)
    (goesOn : ∀ o w r', (F o w (some r')).Adds r') : (around K F p).Adds r := by
  obtain ⟨r', new, active, spawns⟩ := adds
  obtain ⟨progress, w, _⟩ := p
  obtain rfl : _ = some r' := active
  cases progress with
  | ended o => exact (goesOn o w r').trans spawns
  | pending a => exact ⟨r', new, rfl, spawns⟩

theorem sides {f : α → β → Host σ γ} {pa : Progress σ α} {p : Polled σ β} (adds : p.Adds r) :
    (sides f pa p).Adds r := by
  obtain ⟨r', new, active, spawns⟩ := adds
  obtain ⟨pb, w, _⟩ := p
  obtain rfl : _ = some r' := active
  rcases pa with x | a
  · rcases pb with y | b
    · exact (ofHost _ w r').trans spawns
    · exact ⟨r', new, rfl, spawns⟩
  · exact ⟨r', new, rfl, spawns⟩

/-! ### Time-outs -/

variable [Observer σ]

theorem endTimeout (limit : Duration) (outcome : Option (Except Failure α)) (w : σ)
    (r : Reactor σ) : (endTimeout limit outcome w (some r)).Adds r := by
  cases outcome <;> exact same ..

theorem awaitTasks (tasks : List TaskId) (limit : Duration)
    (outcome : Option (Except Failure α)) (w : σ) (r : Reactor σ) :
    (awaitTasks tasks limit outcome w r).Adds r := by
  rw [Future.awaitTasks]
  split
  · exact endTimeout ..
  · exact same ..

theorem drainScope (scope : ScopeId) (limit : Duration) (outcome : Option (Except Failure α))
    (w : σ) (r : Reactor σ) : (drainScope scope limit outcome w r).Adds r := by
  have taken : r.Spawns [] (r.takeRegistered scope).2 := .nil rfl rfl
  rw [Future.drainScope]
  rcases h : r.takeRegistered scope with ⟨_ | _, r'⟩
  · rw [h] at taken
    exact (endTimeout limit outcome w r').trans taken
  · rw [h] at taken
    exact (awaitTasks ..).trans taken

end Polled.Adds

end Future

/-- Adopted orphans become tasks, in order. -/
theorem Reactor.adopt_spawns {σ : Type} [Observer σ] (os : List (Future.Orphan σ)) (w : σ)
    (r : Reactor σ) :
    ∃ new, r.Spawns new (r.adopt os w).2 ∧ new.map Prod.snd = os.map Future.Orphan.task := by
  induction os generalizing w r with
  | nil => exact ⟨[], .nil rfl rfl, rfl⟩
  | cons o os ih =>
    obtain ⟨new, spawns, tasks⟩ := ih (note .bracketCancelled w) (r.spawn o.scopes o.task)
    exact ⟨_, (Reactor.Spawns.spawn r o.scopes o.task).trans spawns, congrArg (o.task :: ·) tasks⟩

namespace Future

variable {σ : Type} {α β γ ρ : Type} [Observer σ]

theorem Polled.Adds.afterTimed (scope : ScopeId) (around : Scopes) (limit : Duration)
    (deadline : Nat) {r : Reactor σ} {p : Polled σ α} (adds : p.Adds r) :
    (afterTimed scope around limit deadline p).Adds r := by
  obtain ⟨r', new, active, spawns⟩ := adds
  obtain ⟨progress, w, _⟩ := p
  obtain rfl : _ = some r' := active
  rcases progress with o | a
  · exact (Polled.Adds.drainScope scope limit (some o) w r').trans spawns
  · rw [Future.afterTimed]
    split
    · obtain ⟨adopted, more, -⟩ := r'.adopt_spawns a.orphans w
      exact ((Polled.Adds.drainScope ..).trans more).trans spawns
    · exact (Polled.Adds.same ..).trans spawns

theorem Polled.Adds.released (opened : Scopes) (used : Except Failure β) {r : Reactor σ}
    {p : Polled σ Verdict} (adds : p.Adds r) : (afterRelease opened used p).Adds r := by
  rw [afterRelease_eq]
  exact adds.around fun o w r' => .same ..

mutual

/-- A poll only adds tasks. -/
theorem poll_adds {α : Type} (scopes : Scopes) :
    (a : Future σ α) → (w : σ) → (r : Reactor σ) → (a.poll scopes w (some r)).Adds r
  | ready o, w, r => by
    rw [poll]
    exact .same ..
  | perform h, w, r => by
    rw [poll]
    exact .ofHost ..
  | suspend s, w, r => by
    rw [poll]
    exact (s w).poll_adds scopes r
  | conclude a f, w, r => by
    rw [runs_conclude scopes f a]
    exact (a.poll_adds scopes w r).around fun o w r' => .ofHost ..
  | bind a k, w, r => by
    rw [runs_bind scopes k a]
    refine (a.poll_adds scopes w r).around fun o w r' => ?_
    cases o with
    | ok x => exact (k x w).poll_adds scopes r'
    | error e => exact .same ..
  | rescue a k, w, r => by
    rw [runs_rescue scopes k a]
    refine (a.poll_adds scopes w r).around fun o w r' => ?_
    cases o with
    | ok x => exact .same ..
    | error e => exact (k e w).poll_adds scopes r'
  | bracket acquire use release, w, r => by
    rw [runs_bracket scopes use release acquire]
    refine (acquire.poll_adds scopes w r).around fun o w r' => ?_
    cases o with
    | error e => exact .same ..
    | ok x =>
      refine ((use x (note .acquired w)).poll_adds scopes r').around fun o w r' => ?_
      exact ((release x o.toOption w).poll_adds scopes r').released scopes o
  | inUse opened use release, w, r => by
    rw [runs_inUse scopes opened release use]
    refine (use.poll_adds scopes w r).around fun o w r' => ?_
    exact ((release o.toOption w).poll_adds scopes r').released opened o
  | releasing opened o release, w, r => by
    rw [runs_releasing scopes opened o release]
    exact (release.poll_adds scopes w r).around fun o w r' => .same ..
  | sleep ms, w, r => by
    rw [poll]
    split <;> exact .same ..
  | sleeping t, w, r => by
    rw [poll]
    split <;> exact .same ..
  | pause, w, r => by
    rw [poll]
    exact .same ..
  | paused, w, r => by
    rw [poll]
    exact .same ..
  | never, w, r => by
    rw [poll]
    exact .same ..
  | both a b f, w, r => by
    rw [poll_both]
    obtain ⟨r', new, active, spawns⟩ := a.poll_adds scopes w r
    rw [active]
    exact (b.poll_adds scopes _ r').sides.trans spawns
  | within limit a, w, r => by
    rw [poll]
    have fresh : r.Spawns [] r.freshScope.2 := .nil rfl rfl
    exact ((a.poll_adds (r.freshScope.1 :: scopes) w r.freshScope.2).afterTimed ..).trans fresh
  | timing scope around limit deadline a, w, r => by
    rw [poll]
    exact (a.poll_adds _ w r).afterTimed ..
  | draining tasks limit outcome, w, r => by
    rw [poll]
    exact .awaitTasks ..

/-- So does a poll of what a call returned. -/
theorem Call.poll_adds {α : Type} (scopes : Scopes) :
    (c : Call σ α) → (r : Reactor σ) → (c.poll scopes (some r)).Adds r
  | .returned a w, r => by
    rw [Call.poll]
    exact a.poll_adds scopes w r
  | .panicked p w, r => by
    rw [Call.poll]
    exact .same ..

end

end Future

/-! ## Names -/

namespace Executor

variable {σ : Type} {α : Type}

/-- Every name that this executor knows is below `m`, and the tasks that it has not taken
over are numbered from there. -/
structure Named (m : TaskId) (ex : Executor σ α) : Prop where
  queue : ∀ id ∈ ex.queue, id < m
  pausing : ∀ id ∈ ex.pausing, id < m
  jobs : ∀ id ∈ ex.jobs.map Prod.fst, id < m
  aborted : ∀ id ∈ ex.aborted, id < m
  numbered : ex.reactor.NumberedFrom m

namespace Named

variable {m : TaskId} {ex : Executor σ α}

theorem start [Observer σ] (w : σ) : (Executor.start w : Executor σ α).Named 0 where
  queue _ mem := nomatch mem
  pausing _ mem := nomatch mem
  jobs _ mem := nomatch mem
  aborted _ mem := nomatch mem
  numbered := ⟨rfl, rfl⟩

theorem le (named : Named m ex) : m ≤ ex.reactor.nextTask := by
  rw [named.numbered.2]
  exact Nat.le_add_right ..

/-- The names of an executor that has taken over what was spawned. -/
theorem collect (named : Named m ex) : Named ex.reactor.nextTask ex.collect := by
  have old : ∀ id, id < m → id < ex.reactor.nextTask := fun id lt => Nat.lt_of_lt_of_le lt named.le
  have new : ∀ id ∈ ex.reactor.spawned.map Prod.fst, id < ex.reactor.nextTask :=
    fun id mem => (named.numbered.mem mem).2
  have jobs : ∀ id ∈ ex.collect.jobs.map Prod.fst, id < ex.reactor.nextTask := by
    intro id mem
    have mem' : id ∈ (ex.jobs ++ releases ex.reactor.spawned).map Prod.fst := mem
    rw [List.map_append, releases_names, List.mem_append] at mem'
    exact mem'.elim (fun mem => old id (named.jobs id mem)) (new id)
  refine ⟨?_, fun id mem => old id (named.pausing id mem), jobs,
    fun id mem => old id (named.aborted id mem), ⟨rfl, rfl⟩⟩
  intro id mem
  simp only [Executor.collect, List.mem_append] at mem
  rcases mem with (mem | mem) | woken
  · exact old id (named.queue id mem)
  · exact new id mem
  · exact jobs id ((List.filter_sublist.map Prod.fst).subset woken)

end Named

/-! ## One turn -/

section Turn

variable {β : Type 1} {id j : TaskId}

theorem lookup_filter_ne (other : j ≠ id) (l : List (TaskId × β)) :
    (l.filter fun x => x.1 != id).lookup j = l.lookup j := by
  induction l with
  | nil => rfl
  | cons x l ih =>
    obtain ⟨k, b⟩ := x
    rw [List.filter_cons, List.lookup_cons]
    by_cases same : k = id
    · have apart : (j == k) = false := beq_eq_false_iff_ne.mpr (same ▸ other)
      rw [if_neg (by simp [same]), ih, apart]
    · rw [if_pos (by simpa using same), List.lookup_cons, ih]

theorem lookup_filter_self (id : TaskId) (l : List (TaskId × β)) :
    (l.filter fun x => x.1 != id).lookup id = none := by
  rw [List.lookup_eq_none_iff]
  intro x mem
  rw [bne_iff_ne]
  exact (bne_iff_ne.mp (List.mem_filter.mp mem).2).symm

theorem lookup_replace_ne (other : j ≠ id) (b : β) (l : List (TaskId × β)) :
    (l.map fun x => if x.1 == id then (id, b) else x).lookup j = l.lookup j := by
  induction l with
  | nil => rfl
  | cons x l ih =>
    obtain ⟨k, b'⟩ := x
    rw [List.map_cons, List.lookup_cons]
    by_cases same : k = id
    · have apart : (j == id) = false := beq_eq_false_iff_ne.mpr other
      rw [if_pos (by simpa using same), List.lookup_cons, ih, same, apart]
    · rw [if_neg (by simpa using same), List.lookup_cons, ih]

theorem lookup_replace_self {b' : β} (b : β) {l : List (TaskId × β)}
    (here : l.lookup id = some b') :
    (l.map fun x => if x.1 == id then (id, b) else x).lookup id = some b := by
  induction l with
  | nil => cases here
  | cons x l ih =>
    obtain ⟨k, b''⟩ := x
    rw [List.map_cons]
    by_cases same : k = id
    · rw [if_pos (by simpa using same), List.lookup_cons, beq_self_eq_true]
    · have apart : (id == k) = false := beq_eq_false_iff_ne.mpr (Ne.symm same)
      rw [List.lookup_cons, apart] at here
      rw [if_neg (by simpa using same), List.lookup_cons, apart]
      exact ih here

theorem names_replace (id : TaskId) (b : β) (l : List (TaskId × β)) :
    (l.map fun x => if x.1 == id then (id, b) else x).map Prod.fst = l.map Prod.fst := by
  rw [List.map_map]
  refine List.map_congr_left fun x _ => ?_
  rw [Function.comp_apply]
  split
  · next same => exact (beq_iff_eq.mp same).symm
  · rfl

end Turn

/-- What a turn does to the tasks: a task that there is not has no turn, and another one
is closed or put back. -/
inductive Turned (id : TaskId) (ex : Executor σ α) : Executor σ α → Prop
  | absent : ex.jobs.lookup id = none → Turned id ex ex
  | closed {w : σ} {r : Reactor σ} {new : List (TaskId × Future σ Unit)} {job : Job σ α}
      (reply : Reply α) : ex.jobs.lookup id = some job → ex.reactor.Spawns new r →
      Turned id ex (close id reply { ex with world := w, reactor := r })
  | kept {w : σ} {r : Reactor σ} {new : List (TaskId × Future σ Unit)} {job : Job σ α}
      (job' : Job σ α) : ex.jobs.lookup id = some job → ex.reactor.Spawns new r →
      Turned id ex (keep id job' { ex with world := w, reactor := r })

/-- The other tasks are not changed by a turn. -/
theorem Turned.lookup_ne {id j : TaskId} {ex ex' : Executor σ α} (turned : Turned id ex ex')
    (other : j ≠ id) : ex'.jobs.lookup j = ex.jobs.lookup j := by
  cases turned with
  | absent => rfl
  | closed => exact lookup_filter_ne other _
  | kept job' => exact lookup_replace_ne other _ _

theorem Turned.queue {id : TaskId} {ex ex' : Executor σ α} (turned : Turned id ex ex') :
    ex'.queue = ex.queue := by
  cases turned <;> rfl

theorem Turned.aborted {id : TaskId} {ex ex' : Executor σ α} (turned : Turned id ex ex') :
    ex'.aborted = ex.aborted := by
  cases turned <;> rfl

theorem Turned.names {id : TaskId} {ex ex' : Executor σ α} (turned : Turned id ex ex') :
    ex.reactor.nextTask ≤ ex'.reactor.nextTask := by
  cases turned with
  | absent => exact Nat.le_refl _
  | closed _ _ spawns =>
    refine Nat.le_trans ?_ (Nat.le_of_eq spawns.next.symm)
    exact Nat.le_add_right ..
  | kept _ _ spawns =>
    refine Nat.le_trans ?_ (Nat.le_of_eq spawns.next.symm)
    exact Nat.le_add_right ..

theorem mem_names {β : Type 1} {l : List (TaskId × β)} {id : TaskId} {b : β}
    (here : l.lookup id = some b) : id ∈ l.map Prod.fst := by
  obtain ⟨l₁, l₂, rfl, -⟩ := List.lookup_eq_some_iff.mp here
  simp

theorem Turned.named {m : TaskId} {id : TaskId} {ex ex' : Executor σ α}
    (turned : Turned id ex ex') (named : Named m ex) : Named m ex' := by
  cases turned with
  | absent => exact named
  | closed reply here spawns =>
    exact ⟨named.queue, named.pausing,
      fun id mem => named.jobs id ((List.filter_sublist.map Prod.fst).subset mem), named.aborted,
      spawns.numbered named.numbered⟩
  | kept job' here spawns =>
    refine ⟨named.queue, fun id' mem => ?_, fun id' mem => ?_, named.aborted,
      spawns.numbered named.numbered⟩
    · simp only [keep] at mem
      split at mem
      · rcases List.mem_append.mp mem with old | new
        · exact named.pausing id' old
        · rw [List.mem_singleton.mp new]
          exact named.jobs id (mem_names here)
      · exact named.pausing id' mem
    · refine named.jobs id' ?_
      have mem' : id' ∈ (ex.jobs.map fun x => if x.1 == id then (id, job') else x).map Prod.fst :=
        mem
      rwa [names_replace] at mem'

/-- What is left of a release after a poll of its task. -/
def left : Future.Progress σ Unit → Option (Job σ α)
  | .ended _ => none
  | .pending a => some (.release a)

/-! ## What a step spares -/

/-- An executor that has taken over what was spawned, with names of its own. -/
abbrev Tidy (ex : Executor σ α) : Prop :=
  Named ex.reactor.nextTask ex

/-- This task is left as it was, no name is given twice, and the queue has only grown at
the back. -/
structure Spares (j : TaskId) (ex ex' : Executor σ α) : Prop where
  queue : ∃ more, ex'.queue = ex.queue ++ more
  names : ex.reactor.nextTask ≤ ex'.reactor.nextTask
  job : ex'.jobs.lookup j = ex.jobs.lookup j
  aborted : (∃ a, ex.jobs.lookup j = some (.release a)) → j ∈ ex'.aborted → j ∈ ex.aborted

theorem Named.lookup_collect {m : TaskId} {ex : Executor σ α} (named : Named m ex) {j : TaskId}
    (old : j < m) : ex.collect.jobs.lookup j = ex.jobs.lookup j := by
  show (ex.jobs ++ releases ex.reactor.spawned).lookup j = _
  have unknown : (releases (α := α) ex.reactor.spawned).lookup j = none := by
    rw [List.lookup_eq_none_iff]
    intro x mem
    have spawned : x.1 ∈ ex.reactor.spawned.map Prod.fst := by
      rw [← releases_names (α := α)]
      exact List.mem_map_of_mem mem
    rw [bne_iff_ne]
    exact Nat.ne_of_lt (Nat.lt_of_lt_of_le old (named.numbered.mem spawned).1)
  rw [List.lookup_append, unknown, Option.or_none]

/-- An executor takes over what is spawned. -/
theorem Named.spares_collect {m : TaskId} {ex : Executor σ α} (named : Named m ex) {j : TaskId}
    (old : j < m) : Spares j ex ex.collect where
  queue := by
    simp only [Executor.collect, List.append_assoc]
    exact ⟨_, rfl⟩
  names := Nat.le_refl _
  job := named.lookup_collect old
  aborted _ mem := mem

theorem Tidy.takes {ex : Executor σ α} (tidy : Tidy ex) {r : Reactor σ}
    {new : List (TaskId × Future σ Unit)} (spawns : ex.reactor.Spawns new r) (w : σ) :
    Tidy (collect { ex with world := w, reactor := r }) ∧ ∀ j < ex.reactor.nextTask,
      Spares j ex (collect { ex with world := w, reactor := r }) := by
  have named : Named ex.reactor.nextTask { ex with world := w, reactor := r } :=
    ⟨tidy.queue, tidy.pausing, tidy.jobs, tidy.aborted, spawns.numbered tidy.numbered⟩
  refine ⟨named.collect, fun j old => ?_⟩
  obtain ⟨queue, names, job, aborted⟩ := named.spares_collect old
  have later : ex.reactor.nextTask ≤ r.nextTask := by
    rw [spawns.next]
    exact Nat.le_add_right ..
  exact ⟨queue, Nat.le_trans later names, job, aborted⟩

theorem Tidy.popped {ex : Executor σ α} (tidy : Tidy ex) {id : TaskId} {rest : List TaskId}
    (next : ex.queue = id :: rest) : Tidy { ex with queue := rest } :=
  ⟨fun j mem => tidy.queue j (next ▸ List.mem_cons_of_mem id mem), tidy.pausing, tidy.jobs,
    tidy.aborted, tidy.numbered⟩

theorem Tidy.spawned {ex : Executor σ α} (tidy : Tidy ex) : ex.reactor.spawned = [] := by
  have none : ex.reactor.nextTask = ex.reactor.nextTask + ex.reactor.spawned.length :=
    tidy.numbered.2
  exact List.length_eq_zero_iff.mp (Nat.left_eq_add.mp none)

/-- Names of tasks that there are, and one more. -/
theorem below_append {n : Nat} {ids : List TaskId} {id : TaskId} (old : ∀ i ∈ ids, i < n)
    (given : id < n) : ∀ i ∈ ids ++ [id], i < n := by
  intro i mem
  rcases List.mem_append.mp mem with mem | new
  · exact old i mem
  · rw [List.mem_singleton.mp new]
    exact given

theorem spawn_spares {ex : Executor σ α} (tidy : Tidy ex) (h : Handle σ α) :
    Tidy (ex.spawn h).2 ∧ ∀ j < ex.reactor.nextTask, Spares j ex (ex.spawn h).2 := by
  have mono : ∀ id < ex.reactor.nextTask, id < ex.reactor.nextTask + 1 :=
    fun id => Nat.lt_succ_of_lt
  have last : ex.reactor.nextTask < ex.reactor.nextTask + 1 := Nat.lt_succ_self _
  refine ⟨⟨?_, fun id mem => mono id (tidy.pausing id mem), ?_,
    fun id mem => mono id (tidy.aborted id mem), ?_⟩, fun j old =>
    ⟨⟨_, rfl⟩, Nat.le_succ _, ?_, fun _ mem => mem⟩⟩
  · exact below_append (fun id mem => mono id (tidy.queue id mem)) last
  · rw [Executor.spawn, List.map_append]
    exact below_append (fun id mem => mono id (tidy.jobs id mem)) last
  · simp only [Executor.spawn, Reactor.NumberedFrom, tidy.spawned]
    exact ⟨rfl, rfl⟩
  · have apart : (j == ex.reactor.nextTask) = false := beq_eq_false_iff_ne.mpr (Nat.ne_of_lt old)
    simp only [Executor.spawn, List.lookup_append, List.lookup_cons, apart, List.lookup_nil,
      Option.or_none]

theorem abort_spares {ex : Executor σ α} (tidy : Tidy ex) {id : TaskId}
    (given : id < ex.reactor.nextTask) (notRelease : ∀ a, ex.jobs.lookup id ≠ some (.release a)) :
    Tidy (ex.abort id) ∧ ∀ j < ex.reactor.nextTask, Spares j ex (ex.abort id) := by
  refine ⟨⟨?_, tidy.pausing, tidy.jobs, ?_, tidy.numbered⟩, fun j old =>
    ⟨?_, Nat.le_refl _, rfl, ?_⟩⟩
  · simp only [Executor.abort]
    split
    · exact tidy.queue
    · exact below_append tidy.queue given
  · intro id' mem
    rcases List.mem_cons.mp mem with rfl | old
    · exact given
    · exact tidy.aborted id' old
  · simp only [Executor.abort]
    split
    · exact ⟨[], (List.append_nil _).symm⟩
    · exact ⟨_, rfl⟩
  · -- What is aborted is no release, so a release among the aborted tasks was there before.
    rintro ⟨a, here⟩ mem
    rcases List.mem_cons.mp mem with rfl | old
    · exact absurd here (notRelease a)
    · exact old

theorem endRound_spares {ex : Executor σ α} (tidy : Tidy ex) :
    Tidy ex.endRound ∧ ∀ j < ex.reactor.nextTask, Spares j ex ex.endRound := by
  have noPause : ∀ id ∈ ex.endRound.pausing, id < ex.endRound.reactor.nextTask :=
    fun id mem => absurd mem List.not_mem_nil
  refine ⟨⟨?_, noPause, tidy.jobs, tidy.aborted, tidy.numbered⟩,
    fun j old => ⟨⟨_, rfl⟩, Nat.le_refl _, rfl, fun _ mem => mem⟩⟩
  intro id mem
  rcases List.mem_append.mp mem with old | paused
  · exact tidy.queue id old
  · have listed := List.mem_eraseDups.mp (List.mem_filter.mp paused).1
    exact tidy.pausing id (List.mem_reverse.mp listed)

variable [Observer σ]

theorem job_poll_adds (job : Job σ α) (w : σ) (r : Reactor σ) :
    ∃ new, r.Spawns new (job.poll w r).2.2 := by
  have adds : ∀ {β : Type} {p : Future.Polled σ β}, p.Adds r → ∃ new, r.Spawns new (p.reactor.getD r) := by
    rintro β p ⟨r', new, active, spawns⟩
    rw [active]
    exact ⟨new, spawns⟩
  cases job with
  | release a =>
    obtain ⟨new, spawns⟩ := adds (a.poll_adds [] w r)
    rw [Job.poll]
    rcases h : a.poll [] w (some r) with ⟨_ | _, _, _⟩ <;> rw [h] at spawns <;> exact ⟨new, spawns⟩
  | hosted h =>
    cases h with
    | completed => exact ⟨[], .nil rfl rfl⟩
    | live a =>
      obtain ⟨new, spawns⟩ := adds (a.poll_adds [] w r)
      rw [Job.poll, Handle.poll]
      rcases h : a.poll [] w (some r) with ⟨_ | _, _, _⟩ <;> rw [h] at spawns <;> exact ⟨new, spawns⟩

theorem turned (id : TaskId) (ex : Executor σ α) : Turned id ex (ex.turn id) := by
  rw [turn]
  rcases here : ex.jobs.lookup id with _ | job
  · exact .absent here
  · dsimp only
    split
    · obtain ⟨new, spawns, -⟩ := ex.reactor.adopt_spawns job.orphans ex.world
      rw [discard]
      exact .closed .cancelled here spawns
    · obtain ⟨w, r, jobs, queue, pausing, aborted, ended⟩ := ex
      obtain ⟨new, spawns⟩ := job_poll_adds job w r
      revert spawns
      dsimp only
      rcases job.poll w r with ⟨reply | job', w', r'⟩
      · exact fun spawns => .closed reply here spawns
      · exact fun spawns => .kept job' here spawns

/-- The turn of a release is a poll of it. -/
theorem turn_release {ex : Executor σ α} {id : TaskId} {a : Future σ Unit}
    (here : ex.jobs.lookup id = some (.release a)) (kept : id ∉ ex.aborted) :
    (ex.turn id).jobs.lookup id = left (a.poll [] ex.world (some ex.reactor)).progress := by
  obtain ⟨w, r, jobs, queue, pausing, aborted, ended⟩ := ex
  rw [turn, here]
  dsimp only at kept ⊢
  rw [if_neg (by simpa using kept), Job.poll]
  rcases a.poll [] w (some r) with ⟨o | a', w', r'⟩
  · exact lookup_filter_self id jobs
  · exact lookup_replace_self _ here

/-! ## Runs -/

/-- What an executor does besides giving turns. -/
inductive Step : Executor σ α → Executor σ α → Prop
  | poll (h : Handle σ α) (ex : Executor σ α) : Step ex (ex.pollHandle h).2.2
  | drop (h : Handle σ α) (ex : Executor σ α) : Step ex (ex.dropHandle h)
  | spawn (h : Handle σ α) (ex : Executor σ α) : Step ex (ex.spawn h).2
  | abort {id : TaskId} {ex : Executor σ α} : id < ex.reactor.nextTask →
      (∀ a, ex.jobs.lookup id ≠ some (.release a)) → Step ex (ex.abort id)
  | endRound (ex : Executor σ α) : Step ex ex.endRound
  | advance {a : Awaited σ α} {ex ex' : Executor σ α} : ex.advance a = some ex' → Step ex ex'

/-- The executor gave these turns, one after another, each in the state that stands
beside the name of the task. -/
inductive Runs : Executor σ α → List (TaskId × Executor σ α) → Executor σ α → Prop
  | stop (ex : Executor σ α) : Runs ex [] ex
  | turn {ex ex' : Executor σ α} {id : TaskId} {rest : List TaskId}
      {turns : List (TaskId × Executor σ α)} : ex.queue = id :: rest →
      Runs ({ ex with queue := rest }.turn id).collect turns ex' →
      Runs ex ((id, ex) :: turns) ex'
  | step {ex ex₁ ex' : Executor σ α} {turns : List (TaskId × Executor σ α)} :
      Step ex ex₁ → Runs ex₁ turns ex' → Runs ex turns ex'

namespace Runs

variable {ex ex₁ ex₂ : Executor σ α} {turns turns' : List (TaskId × Executor σ α)}

theorem trans (first : Runs ex turns ex₁) (second : Runs ex₁ turns' ex₂) :
    Runs ex (turns ++ turns') ex₂ := by
  induction first with
  | stop => exact second
  | turn next _ ih => exact .turn next (ih second)
  | step did _ ih => exact .step did (ih second)

theorem single (step : Step ex ex₁) : Runs ex [] ex₁ :=
  .step step (.stop ex₁)

end Runs

/-! ### Every step spares the tasks -/

theorem pollHandle_spares {ex : Executor σ α} (tidy : Tidy ex) (h : Handle σ α) :
    Tidy (ex.pollHandle h).2.2 ∧
      ∀ j < ex.reactor.nextTask, Spares j ex (ex.pollHandle h).2.2 := by
  obtain ⟨w, r, jobs, queue, pausing, aborted, ended⟩ := ex
  cases h with
  | completed => exact tidy.takes (.nil rfl rfl) w
  | live a =>
    obtain ⟨r', new, active, spawns⟩ := a.poll_adds [] w r
    rw [pollHandle, Handle.poll]
    revert active
    rcases a.poll [] w (some r) with ⟨_ | _, w', _⟩
    all_goals
      rintro rfl
      exact tidy.takes spawns w'

/-- A step leaves an executor tidy, and every task that there was before it as it was. -/
theorem Step.spares {ex ex' : Executor σ α} (step : Step ex ex') (tidy : Tidy ex) :
    Tidy ex' ∧ ∀ j < ex.reactor.nextTask, Spares j ex ex' := by
  cases step with
  | poll h => exact pollHandle_spares tidy h
  | drop h =>
    obtain ⟨new, spawns, -⟩ := ex.reactor.adopt_spawns h.orphans ex.world
    exact tidy.takes spawns _
  | spawn h => exact spawn_spares tidy h
  | abort given notRelease => exact abort_spares tidy given notRelease
  | endRound => exact endRound_spares tidy
  | @advance a _ _ advanced =>
    obtain ⟨t, -, rfl⟩ := Option.map_eq_some_iff.mp advanced
    have later : ex.reactor.Spawns [] { ex.reactor with now := max ex.reactor.now t } :=
      .nil rfl rfl
    exact tidy.takes later _

/-- A turn spares the other tasks. -/
theorem turn_spares {ex : Executor σ α} (tidy : Tidy ex) {id : TaskId} {rest : List TaskId}
    (next : ex.queue = id :: rest) : Tidy ({ ex with queue := rest }.turn id).collect ∧
      ∀ j < ex.reactor.nextTask, j ≠ id →
        Spares j { ex with queue := rest } ({ ex with queue := rest }.turn id).collect := by
  have turned := { ex with queue := rest }.turned id
  have named := turned.named (tidy.popped next)
  refine ⟨named.collect, fun j old other => ?_⟩
  obtain ⟨queue, names, job, aborted⟩ := named.spares_collect old
  rw [turned.queue] at queue
  rw [turned.lookup_ne other] at job
  rw [turned.lookup_ne other, turned.aborted] at aborted
  exact ⟨queue, Nat.le_trans turned.names names, job, aborted⟩

/-- An executor that has taken over what was spawned stays so. -/
theorem Runs.tidy {ex ex' : Executor σ α} {turns : List (TaskId × Executor σ α)}
    (runs : Runs ex turns ex') (tidy : Tidy ex) : Tidy ex' := by
  induction runs with
  | stop => exact tidy
  | turn next _ ih => exact ih (turn_spares tidy next).1
  | step did _ ih => exact ih (did.spares tidy).1

theorem turns_runs (limit : Nat) (ex : Executor σ α) : ∃ turns, Runs ex turns (ex.turns limit) := by
  induction limit generalizing ex with
  | zero => exact ⟨[], .stop ex⟩
  | succ limit ih =>
    rw [turns.eq_def]
    rcases next : ex.queue with _ | ⟨id, rest⟩
    · exact ⟨[], .stop ex⟩
    · obtain ⟨turns, runs⟩ := ih ({ ex with queue := rest }.turn id).collect
      exact ⟨_, .turn next runs⟩

theorem pollMain_runs (a : Awaited σ α) (ex : Executor σ α) : Runs ex [] (ex.pollMain a).2.2 := by
  cases a with
  | time t => exact .stop ex
  | task id => exact .stop ex
  | handle h =>
    have polled : Runs ex [] (ex.pollHandle h).2.2 := .single (.poll h ex)
    rw [pollMain]
    revert polled
    rcases ex.pollHandle h with ⟨_ | _ | _, h', ex'⟩ <;> exact fun polled => polled
  | race h t =>
    have polled : Runs ex [] (ex.pollHandle h).2.2 := .single (.poll h ex)
    rw [pollMain]
    revert polled
    rcases ex.pollHandle h with ⟨_ | _ | _, h', ex'⟩
    · intro polled
      dsimp only
      split
      · exact polled.trans (.single (.drop h' ex'))
      · exact polled
    · exact fun polled => polled
    · exact fun polled => polled

/-- What an executor does to bring its main activity to an end is a run. -/
theorem rounds_runs (limit : Nat) (due : Bool) (a : Awaited σ α) (ex : Executor σ α) :
    ∃ turns, Runs ex turns (ex.rounds limit due a).2.2 := by
  induction limit generalizing due a ex with
  | zero => exact ⟨[], .stop ex⟩
  | succ limit ih =>
    have first : Runs ex [] (ex.pollIf due a).2.2 := by
      cases due with
      | true => exact pollMain_runs a ex
      | false => exact .stop ex
    rw [rounds]
    revert first
    rcases ex.pollIf due a with ⟨_ | reply, a', ex'⟩
    · intro first
      obtain ⟨turns, gave⟩ := ex'.turns_runs turnsPerRound
      have round := first.trans (gave.trans (.single (.endRound _)))
      dsimp only
      split
      · obtain ⟨turns', rest⟩ := ih true a' (ex'.turns turnsPerRound).endRound
        exact ⟨_, round.trans rest⟩
      · split
        · obtain ⟨turns', rest⟩ := ih false a' (ex'.turns turnsPerRound).endRound
          exact ⟨_, round.trans rest⟩
        · split
          · next ex'' advanced =>
            obtain ⟨turns', rest⟩ := ih (ex''.isWoken a') a' ex''
            exact ⟨_, round.trans ((Runs.single (.advance advanced)).trans rest)⟩
          · exact ⟨_, round⟩
    · exact fun first => ⟨[], first⟩

end Executor

end Resumption
