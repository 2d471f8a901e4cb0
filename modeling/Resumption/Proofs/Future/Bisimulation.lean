/-
Bisimulation — futures that no executor can tell apart.

A bisimulation relates futures that wait for the same things, owe related
releases, and are left related by every poll.  Reactors are related if they differ
in the spawned tasks alone, and those are related one by one; so an executor goes
on with related futures as with the same one, step by step:

| step                    | keeps executors related because                         |
|-------------------------|---------------------------------------------------------|
| `collect`               | related tasks have one name and are woken alike         |
| `turn`                  | related tasks end with one reply or stay related        |
| `pollMain`              | related handles answer alike                            |
| `dropHandle`            | related futures leave related orphans                   |
| `advance`               | related futures wait for one time                       |

The world is the same on both sides all along, so whatever closures and events
have made of it is the same.
-/
import Mathlib.Data.List.Forall2
import Resumption.Future.Executor

namespace Resumption

open List (Forall₂)

variable {σ : Type} {α β : Type}

/-! ## Related futures, and what is made of them -/

/-- A relation between futures with values of one type. -/
abbrev Future.Relation (σ : Type) :=
  (α : Type) → Future σ α → Future σ α → Prop

variable {R : Future.Relation σ}

/-- Orphans of one bracket's scopes, with related releases. -/
structure Future.Orphan.Related (R : Future.Relation σ) (o o' : Future.Orphan σ) : Prop where
  scopes : o.scopes = o'.scopes
  release : R Verdict o.release o'.release

/-- Tasks of one name that run related futures. -/
inductive TaskRelated (R : Future.Relation σ) :
    TaskId × Future σ Unit → TaskId × Future σ Unit → Prop
  | mk (id : TaskId) {a b : Future σ Unit} : R Unit a b → TaskRelated R (id, a) (id, b)

/-- Reactors that differ in the spawned tasks alone, which are related one by one. -/
inductive Reactor.Related (R : Future.Relation σ) (r : Reactor σ) : Reactor σ → Prop
  | mk {l : List (TaskId × Future σ Unit)} : Forall₂ (TaskRelated R) r.spawned l →
      Related R r { r with spawned := l }

/-- Polls that end alike, or leave related futures. -/
inductive Future.Polled.Related (R : Future.Relation σ) : Polled σ α → Polled σ α → Prop
  | ended (o : Except Failure α) (w : σ) {r r' : Option (Reactor σ)} :
      Option.Rel (Reactor.Related R) r r' → Related R ⟨.ended o, w, r⟩ ⟨.ended o, w, r'⟩
  | pending {a b : Future σ α} (w : σ) {r r' : Option (Reactor σ)} : R α a b →
      Option.Rel (Reactor.Related R) r r' → Related R ⟨.pending a, w, r⟩ ⟨.pending b, w, r'⟩

/-- A relation between futures that polls and drops respect. -/
structure Bisimulation [Observer σ] (R : Future.Relation σ) : Prop where
  woken {α : Type} {a b : Future σ α} : R α a b → ∀ now finished,
    a.woken now finished = b.woken now finished
  yielding {α : Type} {a b : Future σ α} : R α a b → a.yielding = b.yielding
  nextDeadline {α : Type} {a b : Future σ α} : R α a b → a.nextDeadline = b.nextDeadline
  held {α : Type} {a b : Future σ α} : R α a b → a.held = b.held
  orphans {α : Type} {a b : Future σ α} : R α a b →
    Forall₂ (Future.Orphan.Related R) a.orphans b.orphans
  task {o o' : Future.Orphan σ} : o.Related R o' → R Unit o.task o'.task
  poll {α : Type} {a b : Future σ α} : R α a b → ∀ scopes w r r',
    Option.Rel (Reactor.Related R) r r' →
      (a.poll scopes w r).Related R (b.poll scopes w r')

/-! ## Reactors -/

namespace Reactor.Related

variable {r r' : Reactor σ}

theorem now (related : r.Related R r') : r.now = r'.now := by
  cases related
  rfl

theorem finished (related : r.Related R r') : r.hasFinished = r'.hasFinished := by
  cases related
  rfl

theorem freshScope (related : r.Related R r') :
    r.freshScope.1 = r'.freshScope.1 ∧ r.freshScope.2.Related R r'.freshScope.2 := by
  obtain ⟨tasks⟩ := related
  exact ⟨rfl, .mk tasks⟩

theorem takeRegistered (related : r.Related R r') (scope : ScopeId) :
    (r.takeRegistered scope).1 = (r'.takeRegistered scope).1 ∧
      (r.takeRegistered scope).2.Related R (r'.takeRegistered scope).2 := by
  obtain ⟨tasks⟩ := related
  exact ⟨rfl, .mk tasks⟩

theorem spawn (related : r.Related R r') (scopes : Scopes) {a b : Future σ Unit}
    (task : R Unit a b) : (r.spawn scopes a).Related R (r'.spawn scopes b) := by
  obtain ⟨tasks⟩ := related
  exact .mk (List.rel_append tasks (.cons (.mk _ task) .nil))

/-- Time goes on. -/
theorem later (related : r.Related R r') (now : Nat) :
    Related R { r with now := now } { r' with now := now } := by
  obtain ⟨tasks⟩ := related
  exact .mk tasks

theorem finish (related : r.Related R r') (id : TaskId) :
    Related R { r with finished := id :: r.finished } { r' with finished := id :: r'.finished } := by
  obtain ⟨tasks⟩ := related
  exact .mk tasks

/-- The spawned tasks are taken over. -/
theorem taken (related : r.Related R r') : Forall₂ (TaskRelated R) r.spawned r'.spawned ∧
    Related R { r with spawned := [] } { r' with spawned := [] } := by
  obtain ⟨tasks⟩ := related
  exact ⟨tasks, .mk .nil⟩

/-- The releases of related orphans are spawned alike. -/
theorem adopt [Observer σ] (task : ∀ o o', Future.Orphan.Related R o o' → R Unit o.task o'.task)
    {os os' : List (Future.Orphan σ)} (orphans : Forall₂ (Future.Orphan.Related R) os os') (w : σ)
    (related : r.Related R r') :
    (r.adopt os w).1 = (r'.adopt os' w).1 ∧
      (r.adopt os w).2.Related R (r'.adopt os' w).2 := by
  induction orphans generalizing r r' w with
  | nil => exact ⟨rfl, related⟩
  | @cons o o' _ _ same _ ih =>
    rw [Reactor.adopt, Reactor.adopt, same.scopes]
    exact ih _ (related.spawn o'.scopes (task _ _ same))

theorem getD {s s' : Option (Reactor σ)} (left : Option.Rel (Reactor.Related R) s s')
    (related : r.Related R r') : (s.getD r).Related R (s'.getD r') := by
  cases left with
  | some left => exact left
  | none => exact related

end Reactor.Related

/-! ## Handles and tasks -/

/-- Handles of related futures, or handles whose outcome is gone. -/
inductive Handle.Related (R : Future.Relation σ) : Handle σ α → Handle σ α → Prop
  | live {a b : Future σ α} : R α a b → Related R (.live a) (.live b)
  | completed : Related R .completed .completed

/-- Tasks that run related futures. -/
inductive Job.Related (R : Future.Relation σ) : Job σ α → Job σ α → Prop
  | release {a b : Future σ Unit} : R Unit a b → Related R (.release a) (.release b)
  | hosted {h h' : Handle σ α} : h.Related R h' → Related R (.hosted h) (.hosted h')

section Handles

variable [Observer σ] (sim : Bisimulation R) {h h' : Handle σ α} {j j' : Job σ α}

include sim

namespace Handle.Related

theorem woken (related : h.Related R h') (now : Nat) (finished : TaskId → Bool) :
    h.woken now finished = h'.woken now finished := by
  cases related with
  | live inner => exact sim.woken inner now finished
  | completed => rfl

theorem yielding (related : h.Related R h') : h.yielding = h'.yielding := by
  cases related with
  | live inner => exact sim.yielding inner
  | completed => rfl

theorem nextDeadline (related : h.Related R h') : h.nextDeadline = h'.nextDeadline := by
  cases related with
  | live inner => exact sim.nextDeadline inner
  | completed => rfl

theorem orphans (related : h.Related R h') :
    Forall₂ (Future.Orphan.Related R) h.orphans h'.orphans := by
  cases related with
  | live inner => exact sim.orphans inner
  | completed => exact .nil

/-- Related handles answer alike. -/
theorem poll (related : h.Related R h') (w : σ) {r r' : Option (Reactor σ)}
    (here : Option.Rel (Reactor.Related R) r r') :
    ∃ answer k k' v s s', h.poll w r = (answer, k, v, s) ∧ h'.poll w r' = (answer, k', v, s') ∧
      k.Related R k' ∧ Option.Rel (Reactor.Related R) s s' := by
  cases related with
  | completed => exact ⟨_, _, _, _, _, _, rfl, rfl, .completed, here⟩
  | @live a b inner =>
    have polls := sim.poll inner [] w r r' here
    rw [Handle.poll, Handle.poll]
    generalize a.poll [] w r = P at polls ⊢
    generalize b.poll [] w r' = P' at polls ⊢
    cases polls with
    | ended o v left => exact ⟨_, _, _, _, _, _, rfl, rfl, .completed, left⟩
    | pending v inner left => exact ⟨_, _, _, _, _, _, rfl, rfl, .live inner, left⟩

end Handle.Related

namespace Job.Related

theorem woken (related : j.Related R j') {r r' : Reactor σ} (here : r.Related R r') :
    j.woken r = j'.woken r' := by
  cases related with
  | release inner =>
    rw [Job.woken, Job.woken, here.now, here.finished]
    exact sim.woken inner _ _
  | hosted inner =>
    rw [Job.woken, Job.woken, here.now, here.finished]
    exact inner.woken sim _ _

theorem yielding (related : j.Related R j') : j.yielding = j'.yielding := by
  cases related with
  | release inner => exact sim.yielding inner
  | hosted inner => exact inner.yielding sim

theorem nextDeadline (related : j.Related R j') : j.nextDeadline = j'.nextDeadline := by
  cases related with
  | release inner => exact sim.nextDeadline inner
  | hosted inner => exact inner.nextDeadline sim

theorem orphans (related : j.Related R j') :
    Forall₂ (Future.Orphan.Related R) j.orphans j'.orphans := by
  cases related with
  | release inner => exact sim.orphans inner
  | hosted inner => exact inner.orphans sim

theorem held (related : j.Related R j') : j.held = j'.held := by
  cases related with
  | release inner => exact sim.held inner
  | hosted inner =>
    cases inner with
    | live inner => exact sim.held inner
    | completed => rfl

/-- Related tasks end with one reply, or go on as related tasks. -/
theorem poll (related : j.Related R j') (w : σ) {r r' : Reactor σ} (here : r.Related R r') :
    (∃ reply v s s', j.poll w r = (.error reply, v, s) ∧ j'.poll w r' = (.error reply, v, s') ∧
      s.Related R s') ∨
    ∃ k k' v s s', j.poll w r = (.ok k, v, s) ∧ j'.poll w r' = (.ok k', v, s') ∧
      k.Related R k' ∧ s.Related R s' := by
  cases related with
  | @release a b inner =>
    have polls := sim.poll inner [] w _ _ (.some here)
    rw [Job.poll, Job.poll]
    generalize a.poll [] w (some r) = P at polls ⊢
    generalize b.poll [] w (some r') = P' at polls ⊢
    cases polls with
    | ended o v left => exact .inl ⟨_, v, _, _, rfl, rfl, here.getD left⟩
    | pending v inner left => exact .inr ⟨_, _, v, _, _, rfl, rfl, .release inner, here.getD left⟩
  | hosted inner =>
    obtain ⟨answer, k, k', v, s, s', polled, polled', kept, left⟩ :=
      inner.poll sim w (.some here)
    rw [Job.poll, Job.poll, polled, polled']
    cases answer with
    | pending => exact .inr ⟨_, _, v, _, _, rfl, rfl, .hosted kept, here.getD left⟩
    | outcome o => exact .inl ⟨_, v, _, _, rfl, rfl, here.getD left⟩
    | panicked p => exact .inl ⟨_, v, _, _, rfl, rfl, here.getD left⟩

end Job.Related

end Handles

/-! ## Executors -/

/-- Entries of one name with related tasks. -/
inductive JobRelated (R : Future.Relation σ) : TaskId × Job σ α → TaskId × Job σ α → Prop
  | mk (id : TaskId) {j j' : Job σ α} : j.Related R j' → JobRelated R (id, j) (id, j')

/-- Executors in one world whose tasks and reactors are related; all else is the same. -/
inductive Executor.Related (R : Future.Relation σ) : Executor σ α → Executor σ α → Prop
  | mk {w : σ} {r r' : Reactor σ} {jobs jobs' : List (TaskId × Job σ α)}
      {queue pausing aborted : List TaskId} {ended : List (TaskId × Reply α)} : r.Related R r' →
      Forall₂ (JobRelated R) jobs jobs' →
      Related R ⟨w, r, jobs, queue, pausing, aborted, ended⟩
        ⟨w, r', jobs', queue, pausing, aborted, ended⟩

section Entries

/-- Related entries have the same names. -/
theorem names_eq {X Y : Type 1} {S : TaskId × X → TaskId × Y → Prop}
    (name : ∀ x y, S x y → x.1 = y.1) {l : List (TaskId × X)} {l' : List (TaskId × Y)}
    (entries : Forall₂ S l l') : l.map Prod.fst = l'.map Prod.fst := by
  induction entries with
  | nil => rfl
  | cons same _ ih => rw [List.map_cons, List.map_cons, name _ _ same, ih]

theorem TaskRelated.name (x y : TaskId × Future σ Unit) (same : TaskRelated R x y) : x.1 = y.1 := by
  cases same
  rfl

theorem JobRelated.name (x y : TaskId × Job σ α) (same : JobRelated R x y) : x.1 = y.1 := by
  cases same
  rfl

variable {l l' : List (TaskId × Job σ α)}

/-- A task is found on both sides or on none. -/
theorem lookup_related (jobs : Forall₂ (JobRelated R) l l') (id : TaskId) :
    Option.Rel (Job.Related R) (l.lookup id) (l'.lookup id) := by
  induction jobs with
  | nil => exact .none
  | cons same _ ih =>
    cases same with
    | mk name job =>
      rw [List.lookup_cons, List.lookup_cons]
      split
      · exact .some job
      · exact ih

/-- Tasks are picked out alike. -/
theorem filter_related (jobs : Forall₂ (JobRelated R) l l') {p q : TaskId × Job σ α → Bool}
    (same : ∀ id j j', j.Related R j' → p (id, j) = q (id, j')) :
    Forall₂ (JobRelated R) (l.filter p) (l'.filter q) := by
  refine List.rel_filter (fun x y related => iff_of_eq (congrArg (· = true) ?_)) jobs
  obtain ⟨id, job⟩ := related
  exact same id _ _ job

end Entries

/-- What the main activity waits for, on both sides. -/
inductive Awaited.Related (R : Future.Relation σ) : Awaited σ α → Awaited σ α → Prop
  | handle {h h' : Handle σ α} : h.Related R h' → Related R (.handle h) (.handle h')
  | time (t : Nat) : Related R (.time t) (.time t)
  | race {h h' : Handle σ α} (t : Nat) : h.Related R h' → Related R (.race h t) (.race h' t)
  | task (id : TaskId) : Related R (.task id) (.task id)

/-- Main activities that answered alike and go on alike. -/
structure Executor.RelatedMain (R : Future.Relation σ)
    (x y : Option (Reply α) × Awaited σ α × Executor σ α) : Prop where
  reply : x.1 = y.1
  awaited : x.2.1.Related R y.2.1
  executor : x.2.2.Related R y.2.2

namespace Executor.Related

variable {ex ex' : Executor σ α}

theorem queue (related : ex.Related R ex') : ex.queue = ex'.queue := by
  cases related
  rfl

theorem ended (related : ex.Related R ex') : ex.ended = ex'.ended := by
  cases related
  rfl

theorem world (related : ex.Related R ex') : ex.world = ex'.world := by
  cases related
  rfl

theorem reactor (related : ex.Related R ex') : ex.reactor.Related R ex'.reactor := by
  cases related with
  | mk reactor _ => exact reactor

theorem jobs (related : ex.Related R ex') : Forall₂ (JobRelated R) ex.jobs ex'.jobs := by
  cases related with
  | mk _ jobs => exact jobs

theorem setQueue (related : ex.Related R ex') (queue : List TaskId) :
    Related R { ex with queue := queue } { ex' with queue := queue } := by
  cases related with
  | mk reactor jobs => exact .mk reactor jobs

theorem endRound (related : ex.Related R ex') : ex.endRound.Related R ex'.endRound := by
  cases related with
  | mk reactor jobs => exact .mk reactor jobs

theorem close (related : ex.Related R ex') (id : TaskId) (reply : Reply α) :
    (ex.close id reply).Related R (ex'.close id reply) := by
  cases related with
  | mk reactor jobs =>
    exact .mk (reactor.finish id) (filter_related jobs fun _ _ _ _ => rfl)

/-- Only the queue is compared. -/
theorem of_queue {w : σ} {r r' : Reactor σ} {jobs jobs' : List (TaskId × Job σ α)}
    {queue queue' pausing aborted : List TaskId} {ended : List (TaskId × Reply α)}
    (same : queue = queue') (reactor : r.Related R r') (entries : Forall₂ (JobRelated R) jobs jobs') :
    Related R ⟨w, r, jobs, queue, pausing, aborted, ended⟩
      ⟨w, r', jobs', queue', pausing, aborted, ended⟩ := by
  subst same
  exact .mk reactor entries

/-- What is made of one time, if there is one. -/
theorem rel_map_of_eq {t t' : Option Nat} (same : t = t') {f f' : Nat → Executor σ α}
    (related : ∀ t, (f t).Related R (f' t)) :
    Option.Rel (Executor.Related R) (t.map f) (t'.map f') := by
  subst same
  cases t with
  | none => exact .none
  | some t => exact .some (related t)

variable [Observer σ]

theorem start (w : σ) : Related R (Executor.start w : Executor σ α) (Executor.start w) :=
  .mk (.mk .nil) .nil

variable (sim : Bisimulation R)

include sim

theorem keep (related : ex.Related R ex') (id : TaskId) {j j' : Job σ α} (job : j.Related R j') :
    (ex.keep id j).Related R (ex'.keep id j') := by
  cases related with
  | mk reactor jobs =>
    unfold Executor.keep
    rw [job.yielding sim]
    refine .mk reactor (List.rel_map (fun x y same => ?_) jobs)
    obtain ⟨name, other⟩ := same
    dsimp only
    split
    · exact .mk id job
    · exact .mk name other

/-- Related tasks are taken over under one name, and are woken alike. -/
theorem collect (related : ex.Related R ex') : ex.collect.Related R ex'.collect := by
  cases related with
  | @mk w r r' jobs jobs' queue pausing aborted ended reactor entries =>
    obtain ⟨spawned, emptied⟩ := reactor.taken
    have names := names_eq TaskRelated.name spawned
    have taken : Forall₂ (JobRelated R)
        (jobs ++ r.spawned.map fun x => (x.1, .release x.2))
        (jobs' ++ r'.spawned.map fun x => (x.1, .release x.2)) := by
      refine List.rel_append entries (List.rel_map (fun x y same => ?_) spawned)
      obtain ⟨id, task⟩ := same
      exact .mk id (.release task)
    refine .of_queue (congrArg₂ (· ++ ·) (congrArg _ names) (names_eq (JobRelated.name (R := R)) ?_))
      emptied taken
    refine filter_related taken fun id j j' job => ?_
    dsimp only
    rw [names, job.woken sim reactor]

/-- Related orphans are spawned alike. -/
theorem discard (related : ex.Related R ex') {os os' : List (Future.Orphan σ)}
    (orphans : Forall₂ (Future.Orphan.Related R) os os') :
    (ex.discard os).Related R (ex'.discard os') := by
  cases related with
  | @mk w r r' _ _ _ _ _ _ reactor jobs =>
    obtain ⟨world, adopted⟩ := reactor.adopt (fun _ _ => sim.task) orphans w
    unfold Executor.discard
    generalize r.adopt os w = x at world adopted ⊢
    generalize r'.adopt os' w = x' at world adopted ⊢
    obtain ⟨v, s⟩ := x
    obtain ⟨v', s'⟩ := x'
    obtain rfl : v = v' := world
    exact .mk adopted jobs

/-- The turn of a task. -/
theorem turn (related : ex.Related R ex') (id : TaskId) : (ex.turn id).Related R (ex'.turn id) := by
  have found := lookup_related related.jobs id
  unfold Executor.turn
  generalize ex.jobs.lookup id = x at found ⊢
  generalize ex'.jobs.lookup id = x' at found ⊢
  cases found with
  | none => exact related
  | @some j j' job =>
    cases related with
    | @mk w r r' jobs jobs' queue pausing aborted ended reactor entries =>
      dsimp only
      split
      · exact (discard sim (.mk reactor entries) (job.orphans sim)).close id .cancelled
      · rcases job.poll sim w reactor with
          ⟨reply, v, s, s', polled, polled', left⟩ | ⟨k, k', v, s, s', polled, polled', kept, left⟩
        · rw [polled, polled']
          exact close (.mk left entries) id reply
        · rw [polled, polled']
          exact keep sim (.mk left entries) id kept

theorem turns (limit : Nat) (related : ex.Related R ex') :
    (ex.turns limit).Related R (ex'.turns limit) := by
  induction limit generalizing ex ex' with
  | zero =>
    rw [Executor.turns, Executor.turns]
    exact related
  | succ limit ih =>
    unfold Executor.turns
    rw [← related.queue]
    cases ex.queue with
    | nil => exact related
    | cons id rest => exact ih (((related.setQueue rest).turn sim id).collect sim)

/-! ### The main activity -/

variable {a a' : Awaited σ α} {h h' : Handle σ α}

theorem isWoken (related : ex.Related R ex') (awaited : a.Related R a') :
    ex.isWoken a = ex'.isWoken a' := by
  cases awaited with
  | handle inner =>
    rw [Executor.isWoken, Executor.isWoken, related.reactor.now, related.reactor.finished,
      inner.yielding sim, inner.woken sim]
  | time t => rw [Executor.isWoken, Executor.isWoken, related.reactor.now]
  | race t inner =>
    rw [Executor.isWoken, Executor.isWoken, related.reactor.now, related.reactor.finished,
      inner.yielding sim, inner.woken sim]
  | task id => rw [Executor.isWoken, Executor.isWoken, related.ended]

/-- A handle is polled from the main activity. -/
theorem pollHandle (related : ex.Related R ex') (handle : h.Related R h') :
    ∃ answer k k' e e', ex.pollHandle h = (answer, k, e) ∧ ex'.pollHandle h' = (answer, k', e') ∧
      k.Related R k' ∧ e.Related R e' := by
  cases related with
  | @mk w r r' _ _ _ _ _ _ reactor jobs =>
    obtain ⟨answer, k, k', v, s, s', polled, polled', kept, left⟩ := handle.poll sim w (.some reactor)
    simp only [Executor.pollHandle, polled, polled']
    exact ⟨answer, k, k', _, _, rfl, rfl, kept, collect sim (.mk (reactor.getD left) jobs)⟩

theorem dropHandle (related : ex.Related R ex') (handle : h.Related R h') :
    (ex.dropHandle h).Related R (ex'.dropHandle h') :=
  (related.discard sim (handle.orphans sim)).collect sim

theorem pollMain (related : ex.Related R ex') (awaited : a.Related R a') :
    RelatedMain R (ex.pollMain a) (ex'.pollMain a') := by
  cases awaited with
  | time t =>
    rw [Executor.pollMain, Executor.pollMain, related.reactor.now]
    exact ⟨rfl, .time t, related⟩
  | task id =>
    rw [Executor.pollMain, Executor.pollMain, related.ended]
    exact ⟨rfl, .task id, related⟩
  | handle inner =>
    obtain ⟨answer, k, k', e, e', polled, polled', kept, left⟩ := related.pollHandle sim inner
    rw [Executor.pollMain, Executor.pollMain, polled, polled']
    cases answer <;> exact ⟨rfl, .handle kept, left⟩
  | race t inner =>
    obtain ⟨answer, k, k', e, e', polled, polled', kept, left⟩ := related.pollHandle sim inner
    rw [Executor.pollMain, Executor.pollMain, polled, polled']
    cases answer with
    | outcome o => exact ⟨rfl, .race t kept, left⟩
    | panicked p => exact ⟨rfl, .race t kept, left⟩
    | pending =>
      simp only [left.reactor.now]
      split
      · exact ⟨rfl, .race t .completed, left.dropHandle sim kept⟩
      · exact ⟨rfl, .race t kept, left⟩

theorem pollIf (due : Bool) (related : ex.Related R ex') (awaited : a.Related R a') :
    RelatedMain R (ex.pollIf due a) (ex'.pollIf due a') := by
  unfold Executor.pollIf
  split
  · exact related.pollMain sim awaited
  · exact ⟨rfl, awaited, related⟩

theorem mainDeadline (awaited : a.Related R a') :
    Executor.mainDeadline a = Executor.mainDeadline a' := by
  cases awaited with
  | handle inner => exact inner.nextDeadline sim
  | time t => rfl
  | race t inner => exact congrArg (Future.earlier (some t)) (inner.nextDeadline sim)
  | task id => rfl

/-- The clock moves to the same time, or to none. -/
theorem advance (related : ex.Related R ex') (awaited : a.Related R a') :
    Option.Rel (Executor.Related R) (ex.advance a) (ex'.advance a') := by
  refine rel_map_of_eq ?_ fun t => ?_
  · refine List.rel_foldl (P := Eq) (fun t t' same x y entry => ?_) (mainDeadline sim awaited)
      related.jobs
    obtain ⟨id, job⟩ := entry
    dsimp only
    rw [same, job.nextDeadline sim]
  · refine collect sim ?_
    rw [related.reactor.now, related.world]
    cases related with
    | mk reactor jobs => exact .mk (reactor.later _) jobs

/-- Rounds keep executors related, and end with one reply. -/
theorem rounds (limit : Nat) (due : Bool) (related : ex.Related R ex') (awaited : a.Related R a') :
    RelatedMain R (ex.rounds limit due a) (ex'.rounds limit due a') := by
  induction limit generalizing due a a' ex ex' with
  | zero => exact ⟨rfl, awaited, related⟩
  | succ limit ih =>
    have polled := related.pollIf sim due awaited
    rw [Executor.rounds, Executor.rounds]
    generalize ex.pollIf due a = x at polled ⊢
    generalize ex'.pollIf due a' = x' at polled ⊢
    obtain ⟨reply, b, e⟩ := x
    obtain ⟨reply', b', e'⟩ := x'
    obtain ⟨same, awaited, related⟩ := polled
    obtain rfl : reply = reply' := same
    cases reply with
    | some reply => exact ⟨rfl, awaited, related⟩
    | none =>
      have turned : Related R (e.turns turnsPerRound).endRound (e'.turns turnsPerRound).endRound :=
        (related.turns sim turnsPerRound).endRound
      dsimp only at awaited ⊢
      rw [turned.isWoken sim awaited, turned.queue]
      split
      · exact ih true turned awaited
      · split
        · exact ih false turned awaited
        · have moved := turned.advance sim awaited
          generalize (e.turns turnsPerRound).endRound.advance b = x at moved ⊢
          generalize (e'.turns turnsPerRound).endRound.advance b' = x' at moved ⊢
          cases moved with
          | none => exact ⟨rfl, awaited, turned⟩
          | some later =>
            dsimp only
            rw [later.isWoken sim awaited]
            exact ih _ later awaited

/-- The executors leave one world. -/
theorem stop (related : ex.Related R ex') : ex.stop = ex'.stop := by
  unfold Executor.stop
  rw [related.world]
  refine congrArg (Nat.repeat (note .bracketCancelled) · _) ?_
  refine List.rel_foldl (P := Eq) (fun n n' same x y entry => ?_) rfl related.jobs
  obtain ⟨id, job⟩ := entry
  dsimp only
  rw [same, job.held sim]

end Executor.Related

/-! ## Runs -/

namespace Bisimulation

variable [Observer σ] (sim : Bisimulation R) {a b : Future σ α}

include sim

theorem drive (related : R α a b) (limit : Nat) (w : σ) :
    Executor.RelatedMain R ((Executor.start w).drive limit (.handle (.live a)))
      ((Executor.start w).drive limit (.handle (.live b))) :=
  Executor.Related.rounds sim limit true (.start w) (.handle (.live related))

/-- Run on an executor, related futures have one outcome, after one time, in one world. -/
theorem run_eq (related : R α a b) (limit : Nat) (w : σ) : a.run limit w = b.run limit w := by
  obtain ⟨reply, awaited, executor⟩ := sim.drive related limit w
  unfold Future.run Executor.await
  generalize (Executor.start w).drive limit (.handle (.live a)) = x at reply awaited executor ⊢
  generalize (Executor.start w).drive limit (.handle (.live b)) = x' at reply awaited executor ⊢
  obtain ⟨r, m, e⟩ := x
  obtain ⟨r', m', e'⟩ := x'
  obtain rfl : r = r' := reply
  cases awaited with
  | handle | time | race | task =>
    dsimp only
    rw [executor.reactor.now, executor.stop sim]

/-- The same holds where they are dropped after some time. -/
theorem race_eq (related : R α a b) (limit ms : Nat) (w : σ) :
    ((Executor.start w).race limit (.live a) ms).1 = ((Executor.start w).race limit (.live b) ms).1 ∧
      ((Executor.start w).race limit (.live a) ms).2.stop =
        ((Executor.start w).race limit (.live b) ms).2.stop := by
  obtain ⟨reply, -, executor⟩ := Executor.Related.rounds sim limit true
    (Executor.Related.start w) (.race ((Executor.start w : Executor σ α).reactor.now + ms)
      (.live related))
  exact ⟨reply, executor.stop sim⟩

/-- Polled by hand until they wait for something, they do the same. -/
theorem blockOn_eq (related : R α a b) (polls : Nat) (w : σ) :
    a.blockOn polls w = b.blockOn polls w := by
  induction polls generalizing a b w with
  | zero => rfl
  | succ polls ih =>
    have polled := sim.poll related [] w none none .none
    rw [Future.blockOn, Future.blockOn]
    generalize a.poll [] w none = P at polled ⊢
    generalize b.poll [] w none = P' at polled ⊢
    cases polled with
    | ended o v _ => rfl
    | pending v left _ =>
      dsimp only
      rw [sim.yielding left]
      split
      · exact ih left v
      · rfl

/-- Dropped outside of an executor, they leave one world. -/
theorem dropHere_eq {h h' : Handle σ α} (related : h.Related R h') (polls : Nat) (w : σ) :
    h.dropHere polls w = h'.dropHere polls w := by
  have orphans := related.orphans sim
  unfold Handle.dropHere
  generalize h.orphans = os at orphans ⊢
  generalize h'.orphans = os' at orphans ⊢
  induction orphans generalizing w with
  | nil => rfl
  | cons same _ ih =>
    rw [Future.releaseHere, Future.releaseHere, sim.blockOn_eq (sim.task same)]
    exact ih _

end Bisimulation

end Resumption
