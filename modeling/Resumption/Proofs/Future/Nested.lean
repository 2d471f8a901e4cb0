/-
Nested — the releases of nested brackets after a cancellation.

When a future is dropped on an executor, each bracket in it that holds its
resource leaves its release as a task of its own.  The tasks are queued from the
inside out, and get their first turns in that order.  So the release of an inner
bracket has begun before the one around it is called, but whether it is over by
then depends on itself alone:

| the inner release in its first turn | when the outer release is called   |
|-------------------------------------|------------------------------------|
| ends                                | it is over                         |
| waits for something                 | it is where its first turn left it |

A release that waits is overtaken, therefore, while in a run that is not cancelled
the outer bracket waits for it (`Future.reaches_bracket`).
-/
import Resumption.Proofs.Future.Turns

namespace Resumption

namespace Future

variable {σ : Type} {α β : Type}

/-! ## Brackets inside a bracket -/

/-- The first orphan is left by a bracket inside the use of the one that leaves the second. -/
inductive Nested (inner outer : Orphan σ) : {α : Type} → Future σ α → Prop
  | inUse {β : Type} {scopes : Scopes} {use : Future σ β}
      {release : Option β → σ → Call σ Verdict} : inner ∈ use.orphans →
      outer = ⟨scopes, suspend (release none)⟩ → Nested inner outer (.inUse scopes use release)
  | used {β : Type} {scopes : Scopes} {use : Future σ β}
      {release : Option β → σ → Call σ Verdict} : Nested inner outer use →
      Nested inner outer (.inUse scopes use release)
  | conclude {α β : Type} {a : Future σ α} {f : Except Failure α → Host σ (Except Failure β)} :
      Nested inner outer a → Nested inner outer (.conclude a f)
  | bind {α β : Type} {a : Future σ α} {k : α → σ → Call σ β} :
      Nested inner outer a → Nested inner outer (.bind a k)
  | rescue {α : Type} {a : Future σ α} {k : Failure → σ → Call σ α} :
      Nested inner outer a → Nested inner outer (.rescue a k)
  | acquiring {ρ β : Type} {a : Future σ ρ} {use : ρ → σ → Call σ β}
      {release : ρ → Option β → σ → Call σ Verdict} :
      Nested inner outer a → Nested inner outer (.bracket a use release)
  | first {α β γ : Type} {a : Future σ α} {b : Future σ β} {f : α → β → Host σ γ} :
      Nested inner outer a → Nested inner outer (.both a b f)
  | second {α β γ : Type} {a : Future σ α} {b : Future σ β} {f : α → β → Host σ γ} :
      Nested inner outer b → Nested inner outer (.both a b f)
  | within {α : Type} {limit : Duration} {a : Future σ α} :
      Nested inner outer a → Nested inner outer (.within limit a)
  | timing {α : Type} {scope : ScopeId} {around : Scopes} {limit : Duration} {deadline : Nat}
      {a : Future σ α} : Nested inner outer a →
      Nested inner outer (.timing scope around limit deadline a)

/-- An inner orphan stands before the outer one. -/
theorem Nested.orphans {inner outer : Orphan σ} {a : Future σ α} (nested : Nested inner outer a) :
    ∃ os₁ os₂ os₃, a.orphans = os₁ ++ inner :: (os₂ ++ outer :: os₃) := by
  induction nested with
  | inUse mem around =>
    obtain ⟨os₁, os₂, split⟩ := List.append_of_mem mem
    refine ⟨os₁, os₂, [], ?_⟩
    rw [Future.orphans, split, ← around, List.append_assoc, List.cons_append]
  | @used _ scopes _ release _ ih =>
    obtain ⟨os₁, os₂, os₃, split⟩ := ih
    refine ⟨os₁, os₂, os₃ ++ [⟨scopes, suspend (release none)⟩], ?_⟩
    simp only [Future.orphans, split, List.append_assoc, List.cons_append]
  | @first _ _ _ _ b _ _ ih =>
    obtain ⟨os₁, os₂, os₃, split⟩ := ih
    refine ⟨os₁, os₂, os₃ ++ b.orphans, ?_⟩
    simp only [Future.orphans, split, List.append_assoc, List.cons_append]
  | @second _ _ _ a _ _ _ ih =>
    obtain ⟨os₁, os₂, os₃, split⟩ := ih
    refine ⟨a.orphans ++ os₁, os₂, os₃, ?_⟩
    rw [Future.orphans, split, List.append_assoc]
  | conclude _ ih => exact ih
  | bind _ ih => exact ih
  | rescue _ ih => exact ih
  | acquiring _ ih => exact ih
  | within _ ih => exact ih
  | timing _ ih => exact ih

end Future

/-! ## Cancellation -/

/-- In between, something was dropped that left these orphans. -/
def Reactor.Dropped {σ : Type} [Observer σ] (os : List (Future.Orphan σ)) (r r' : Reactor σ) :
    Prop :=
  ∃ r₁ w before after, r.Spawns before r₁ ∧ (r₁.adopt os w).2.Spawns after r'

/-- The releases of the orphans are among the new tasks, in order. -/
theorem Reactor.Dropped.tasks {σ : Type} [Observer σ] {os : List (Future.Orphan σ)}
    {r r' : Reactor σ} (dropped : Reactor.Dropped os r r') :
    ∃ before tasks after, r.Spawns (before ++ tasks ++ after) r' ∧
      tasks.map Prod.snd = os.map Future.Orphan.task := by
  obtain ⟨r₁, w, before, after, earlier, later⟩ := dropped
  obtain ⟨tasks, adopted, releases⟩ := r₁.adopt_spawns os w
  exact ⟨before, tasks, after, (earlier.trans adopted).trans later, releases⟩

/-- A time-out whose time is over when its action is pending drops the action. -/
theorem Future.lapsed_drops {σ : Type} [Observer σ] {α : Type} (scopes : Scopes)
    {scope : ScopeId} {around : Scopes} {limit : Duration} {deadline : Nat} {a a' : Future σ α} {w w' : σ}
    {r r' : Reactor σ} (polled : a.poll (scope :: around) w (some r) = ⟨.pending a', w', some r'⟩)
    (late : deadline ≤ r'.now) :
    ∃ r'', ((timing scope around limit deadline a).poll scopes w (some r)).reactor = some r'' ∧
      r.Dropped a'.orphans r'' := by
  obtain ⟨_, before, active, earlier⟩ := a.poll_adds (scope :: around) w r
  rw [polled] at active
  obtain rfl := Option.some.inj active
  rw [poll, polled, afterTimed]
  dsimp only
  rw [if_pos late]
  obtain ⟨r'', after, active', later⟩ :=
    Polled.Adds.drainScope (α := α) scope limit none (r'.adopt a'.orphans w').1
      (r'.adopt a'.orphans w').2
  exact ⟨r'', active', r', w', before, after, earlier, later⟩

namespace Executor

variable {σ : Type} {α : Type}

section Cancellation

variable [Observer σ]

/-- In this step or turn, the executor drops something that leaves these orphans: a future
of its main activity, a task that was aborted, or the action of a time-out, in a poll of
its main activity or in the turn of a task. -/
inductive Cancels (os : List (Future.Orphan σ)) (ex : Executor σ α) : Executor σ α → Prop
  | drop (h : Handle σ α) : h.orphans = os → Cancels os ex (ex.dropHandle h)
  | abort {id : TaskId} {rest : List TaskId} {job : Job σ α} : ex.queue = id :: rest →
      ex.jobs.lookup id = some job → id ∈ ex.aborted → job.orphans = os →
      Cancels os ex ({ ex with queue := rest }.turn id).collect
  | poll (a : Future σ α) {r : Reactor σ} :
      (a.poll [] ex.world (some ex.reactor)).reactor = some r → ex.reactor.Dropped os r →
      Cancels os ex (ex.pollHandle (.live a)).2.2
  | turn {id : TaskId} {rest : List TaskId} {job : Job σ α} : ex.queue = id :: rest →
      ex.jobs.lookup id = some job → id ∉ ex.aborted →
      ex.reactor.Dropped os (job.poll ex.world ex.reactor).2.2 →
      Cancels os ex ({ ex with queue := rest }.turn id).collect

/-- A time-out in hand drops its action when its time is over. -/
theorem Cancels.lapse {ex : Executor σ α} {scope : ScopeId} {around : Scopes} {limit : Duration}
    {deadline : Nat} {a a' : Future σ α} {w' : σ} {r' : Reactor σ}
    (polled : a.poll (scope :: around) ex.world (some ex.reactor) = ⟨.pending a', w', some r'⟩)
    (late : deadline ≤ r'.now) : Cancels a'.orphans ex
      (ex.pollHandle (.live (.timing scope around limit deadline a))).2.2 := by
  obtain ⟨r'', active, dropped⟩ := Future.lapsed_drops [] polled late
  exact .poll _ active dropped

/-- The executor takes over tasks that release the orphans, in order. -/
theorem Cancels.takes {os : List (Future.Orphan σ)} {ex ex' : Executor σ α}
    (cancels : Cancels os ex ex') (tidy : Tidy ex) :
    ∃ (ex₁ : Executor σ α) (before tasks after : List (TaskId × Future σ Unit)),
      Named ex.reactor.nextTask ex₁ ∧ ex₁.reactor.spawned = before ++ tasks ++ after ∧
        tasks.map Prod.snd = os.map Future.Orphan.task ∧ ex' = ex₁.collect := by
  have spawned : ∀ {new r}, ex.reactor.Spawns new r → r.spawned = new := by
    intro new r spawns
    rw [spawns.spawned, tidy.spawned, List.nil_append]
  cases cancels with
  | drop h left =>
    obtain ⟨tasks, adopted, releases⟩ := ex.reactor.adopt_spawns h.orphans ex.world
    refine ⟨ex.discard h.orphans, [], tasks, [], ?_, ?_, left ▸ releases, rfl⟩
    · exact ⟨tidy.queue, tidy.pausing, tidy.jobs, tidy.aborted, adopted.numbered tidy.numbered⟩
    · rw [List.append_nil]
      exact spawned adopted
  | @abort id rest job next here aborted left =>
    obtain ⟨tasks, adopted, releases⟩ := ex.reactor.adopt_spawns job.orphans ex.world
    refine ⟨_, [], tasks, [], ({ ex with queue := rest }.turned id).named (tidy.popped next), ?_,
      left ▸ releases, rfl⟩
    rw [List.append_nil, Executor.turn, here]
    dsimp only
    rw [if_pos (by simpa using aborted)]
    show (ex.reactor.adopt job.orphans ex.world).2.spawned = tasks
    exact spawned adopted
  | @poll a r active dropped =>
    obtain ⟨before, tasks, after, spawns, releases⟩ := dropped.tasks
    obtain ⟨w, r₀, jobs, queue, pausing, aborted, ended⟩ := ex
    refine ⟨⟨(a.poll [] w (some r₀)).world, r, jobs, queue, pausing, aborted, ended⟩, before, tasks,
      after, ?_, spawned spawns, releases, ?_⟩
    · exact ⟨tidy.queue, tidy.pausing, tidy.jobs, tidy.aborted, spawns.numbered tidy.numbered⟩
    · revert active
      rw [pollHandle, Handle.poll]
      dsimp only
      rcases a.poll [] w (some r₀) with ⟨_ | _, _, _⟩
      all_goals
        rintro rfl
        rfl
  | @turn id rest job next here kept dropped =>
    obtain ⟨before, tasks, after, spawns, releases⟩ := dropped.tasks
    refine ⟨_, before, tasks, after, ({ ex with queue := rest }.turned id).named (tidy.popped next), ?_,
      releases, rfl⟩
    rw [Executor.turn, here]
    dsimp only
    rw [if_neg (by simpa using kept)]
    have polled := spawned spawns
    revert polled
    rcases job.poll ex.world ex.reactor with ⟨_ | _, _, _⟩ <;> exact fun polled => polled

end Cancellation

/-! ## The order of two tasks -/

/-- Two releases that have had no turn yet, the first of which will have it first. -/
structure Ahead (i o : TaskId) (a b : Future σ Unit) (ex : Executor σ α) : Prop where
  tidy : Tidy ex
  order : ∃ q₁ q₂ q₃, ex.queue = q₁ ++ i :: (q₂ ++ o :: q₃) ∧ i ∉ q₁ ∧ o ∉ q₁ ∧ i ≠ o ∧
    i ∉ q₂ ∧ o ∉ q₂
  first : ex.jobs.lookup i = some (.release a)
  second : ex.jobs.lookup o = some (.release b)
  kept : i ∉ ex.aborted ∧ o ∉ ex.aborted

/-- A release that has had no turn yet, and will have it before the other task has one. -/
structure Next (i o : TaskId) (job : Option (Job σ α)) (b : Future σ Unit) (ex : Executor σ α) :
    Prop where
  tidy : Tidy ex
  order : ∃ q₁ q₂, ex.queue = q₁ ++ o :: q₂ ∧ i ∉ q₁ ∧ o ∉ q₁ ∧ i ≠ o
  given : i < ex.reactor.nextTask
  first : ex.jobs.lookup i = job
  second : ex.jobs.lookup o = some (.release b)

theorem given_of_lookup {ex : Executor σ α} (tidy : Tidy ex) {id : TaskId} {job : Job σ α}
    (here : ex.jobs.lookup id = some job) : id < ex.reactor.nextTask :=
  tidy.jobs id (mem_names here)

/-- A task that is taken over is new. -/
theorem Named.spawned {m : TaskId} {ex : Executor σ α} (named : Named m ex) {id : TaskId}
    {a : Future σ Unit} {l₁ l₂ : List (TaskId × Future σ Unit)}
    (spawned : ex.reactor.spawned = l₁ ++ (id, a) :: l₂) :
    m ≤ id ∧ id ∉ l₁.map Prod.fst ∧ id ∉ l₂.map Prod.fst ∧
      ex.collect.jobs.lookup id = some (.release a) := by
  have names := named.numbered.nodup
  have mem : id ∈ ex.reactor.spawned.map Prod.fst := by
    rw [spawned]
    simp
  have least := (named.numbered.mem mem).1
  rw [spawned] at names
  have once : id ∉ l₁.map Prod.fst ∧ id ∉ l₂.map Prod.fst := by
    rw [List.map_append, List.map_cons, List.nodup_middle, List.nodup_cons, List.mem_append,
      not_or] at names
    exact names.1
  refine ⟨least, once.1, once.2, ?_⟩
  · have unknown : ex.jobs.lookup id = none := by
      rw [List.lookup_eq_none_iff]
      intro x mem
      rw [bne_iff_ne]
      exact (Nat.ne_of_lt (Nat.lt_of_lt_of_le (named.jobs x.1 (List.mem_map_of_mem mem)) least)).symm
    show (ex.jobs ++ releases ex.reactor.spawned).lookup id = _
    rw [List.lookup_append, unknown, Option.none_or, spawned, releases_split]
    refine lookup_split ?_
    rw [← releases_split, releases_names]
    exact names

/-- The tasks that an executor takes over stand in the order in which they were spawned. -/
theorem ahead_collect {m i o : TaskId} {a b : Future σ Unit} {ex : Executor σ α}
    (named : Named m ex) {l₁ l₂ l₃ : List (TaskId × Future σ Unit)}
    (spawned : ex.reactor.spawned = l₁ ++ (i, a) :: (l₂ ++ (o, b) :: l₃)) :
    Ahead i o a b ex.collect := by
  have spawned' : ex.reactor.spawned = (l₁ ++ (i, a) :: l₂) ++ (o, b) :: l₃ := by
    rw [spawned, List.append_assoc, List.cons_append]
  obtain ⟨least, newFirst, onlyFirst, first⟩ := named.spawned spawned
  obtain ⟨least', newSecond, -, second⟩ := named.spawned spawned'
  rw [List.map_append, List.mem_append, not_or] at onlyFirst
  rw [List.map_append, List.map_cons, List.mem_append, List.mem_cons, not_or, not_or] at newSecond
  have unqueued : ∀ {id}, m ≤ id → id ∉ ex.queue := fun le mem =>
    Nat.not_lt.mpr le (named.queue _ mem)
  have unaborted : ∀ {id}, m ≤ id → id ∉ ex.aborted := fun le mem =>
    Nat.not_lt.mpr le (named.aborted _ mem)
  obtain ⟨more, grown⟩ : ∃ more, ex.collect.queue =
      ex.queue ++ (ex.reactor.spawned.map Prod.fst ++ more) :=
    ⟨_, by rw [Executor.collect, List.append_assoc]⟩
  refine ⟨named.collect, ⟨ex.queue ++ l₁.map Prod.fst, l₂.map Prod.fst,
    l₃.map Prod.fst ++ more, ?_, ?_, ?_,
    fun same => newSecond.2.1 same.symm, onlyFirst.1, newSecond.2.2⟩, first, second, unaborted least,
    unaborted least'⟩
  · rw [grown, spawned]
    simp only [List.map_append, List.map_cons, List.append_assoc, List.cons_append]
  · exact fun mem => (List.mem_append.mp mem).elim (unqueued least) newFirst
  · exact fun mem => (List.mem_append.mp mem).elim (unqueued least') newSecond.1

theorem Ahead.spares {i o : TaskId} {a b : Future σ Unit} {ex ex' : Executor σ α}
    (ahead : Ahead i o a b ex) (tidy : Tidy ex') (inner : Spares i ex ex') (outer : Spares o ex ex') :
    Ahead i o a b ex' := by
  obtain ⟨-, ⟨q₁, q₂, q₃, order, apart⟩, first, second, kept⟩ := ahead
  obtain ⟨more, grown⟩ := inner.queue
  refine ⟨tidy, ⟨q₁, q₂, q₃ ++ more, ?_, apart⟩, inner.job.trans first, outer.job.trans second, ?_⟩
  · rw [grown, order]
    simp only [List.append_assoc, List.cons_append]
  · exact ⟨fun mem => kept.1 (inner.aborted ⟨a, first⟩ mem),
      fun mem => kept.2 (outer.aborted ⟨b, second⟩ mem)⟩

theorem Next.spares {i o : TaskId} {job : Option (Job σ α)} {b : Future σ Unit}
    {ex ex' : Executor σ α} (next : Next i o job b ex) (tidy : Tidy ex') (inner : Spares i ex ex')
    (outer : Spares o ex ex') : Next i o job b ex' := by
  obtain ⟨-, ⟨q₁, q₂, order, apart⟩, given, first, second⟩ := next
  obtain ⟨more, grown⟩ := inner.queue
  refine ⟨tidy, ⟨q₁, q₂ ++ more, ?_, apart⟩, Nat.lt_of_lt_of_le given inner.names,
    inner.job.trans first, outer.job.trans second⟩
  rw [grown, order]
  simp only [List.append_assoc, List.cons_append]

variable [Observer σ]

/-- The second task has its first turn after the first one was left alone. -/
theorem Next.runs {i o : TaskId} {job : Option (Job σ α)} {b : Future σ Unit}
    {ex ex' : Executor σ α} {turns : List (TaskId × Executor σ α)} (runs : Runs ex turns ex')
    (next : Next i o job b ex) {t₁ t₂ : List (TaskId × Executor σ α)} {x : Executor σ α}
    (split : turns = t₁ ++ (o, x) :: t₂) (first : o ∉ t₁.map Prod.fst) :
    i ∉ t₁.map Prod.fst ∧ x.jobs.lookup o = some (.release b) ∧ x.jobs.lookup i = job := by
  induction runs generalizing t₁ with
  | stop => simp at split
  | step did _ ih =>
    obtain ⟨tidy, spares⟩ := did.spares next.tidy
    exact ih (next.spares tidy (spares i next.given)
      (spares o (given_of_lookup next.tidy next.second))) split first
  | @turn ex _ id rest turns head _ ih =>
    obtain ⟨tidy, spares⟩ := turn_spares next.tidy head
    obtain ⟨tidy₀, ⟨q₁, q₂, order, notFirst, notYet, apart⟩, given, inner, second⟩ := next
    rw [head] at order
    cases q₁ with
    | nil =>
      obtain ⟨rfl, rfl⟩ := List.cons.inj order
      cases t₁ with
      | nil =>
        cases split
        exact ⟨List.not_mem_nil, second, inner⟩
      | cons t t₁ =>
        cases split
        exact absurd (List.mem_cons_self ..) first
    | cons id' q₁ =>
      obtain ⟨rfl, rfl⟩ := List.cons.inj order
      rw [List.mem_cons, not_or] at notFirst notYet
      cases t₁ with
      | nil =>
        cases split
        exact absurd rfl notYet.1
      | cons t t₁ =>
        obtain ⟨rfl, split'⟩ := List.cons.inj split
        rw [List.map_cons, List.mem_cons, not_or] at first
        have popped : Next i o job b { ex with queue := q₁ ++ o :: q₂ } :=
          ⟨tidy₀.popped head, ⟨q₁, q₂, rfl, notFirst.2, notYet.2, apart⟩, given, inner, second⟩
        obtain ⟨others, outer, inner'⟩ := ih (popped.spares tidy (spares i given notFirst.1)
          (spares o (given_of_lookup tidy₀ second) notYet.1)) split' first.2
        rw [List.map_cons, List.mem_cons, not_or]
        exact ⟨⟨notFirst.1, others⟩, outer, inner'⟩

/-- The turn of the first task leaves it as the poll of its release did, and the second one
is still to have its turn. -/
theorem Ahead.turned {i o : TaskId} {a b : Future σ Unit} {ex : Executor σ α} {rest : List TaskId}
    (ahead : Ahead i o a b ex) (head : ex.queue = i :: rest) :
    Next i o (left (a.poll [] ex.world (some ex.reactor)).progress) b
      ({ ex with queue := rest }.turn i).collect := by
  obtain ⟨tidy, spares⟩ := turn_spares ahead.tidy head
  obtain ⟨tidy₀, ⟨q₁, q₂, q₃, order, notFirst, -, apart, between⟩, inner, outer, kept⟩ := ahead
  have given := given_of_lookup tidy₀ inner
  have spareOuter := spares o (given_of_lookup tidy₀ outer) apart.symm
  rw [head] at order
  cases q₁ with
  | nil =>
    obtain ⟨-, rfl⟩ := List.cons.inj order
    have named := ({ ex with queue := q₂ ++ o :: q₃ }.turned i).named (tidy₀.popped head)
    obtain ⟨more, grown⟩ := spareOuter.queue
    refine ⟨tidy, ⟨q₂, q₃ ++ more, ?_, between.1, between.2, apart⟩,
      Nat.lt_of_lt_of_le given spareOuter.names, ?_, spareOuter.job.trans outer⟩
    · rw [grown]
      simp only [List.append_assoc, List.cons_append]
    · exact (named.lookup_collect given).trans (turn_release inner kept.1)
  | cons id q₁ =>
    obtain ⟨rfl, -⟩ := List.cons.inj order
    exact absurd (List.mem_cons_self ..) notFirst

/-- The first task has its first turn before the second one, which finds it as that turn
left it. -/
theorem Ahead.runs {i o : TaskId} {a b : Future σ Unit} {ex ex' : Executor σ α}
    {turns : List (TaskId × Executor σ α)} (runs : Runs ex turns ex') (ahead : Ahead i o a b ex)
    {t₁ t₂ : List (TaskId × Executor σ α)} {x : Executor σ α} (split : turns = t₁ ++ (o, x) :: t₂)
    (first : o ∉ t₁.map Prod.fst) :
    ∃ u₁ y u₂, t₁ = u₁ ++ (i, y) :: u₂ ∧ i ∉ u₁.map Prod.fst ∧ i ∉ u₂.map Prod.fst ∧
      y.jobs.lookup i = some (.release a) ∧ x.jobs.lookup o = some (.release b) ∧
      x.jobs.lookup i = left (a.poll [] y.world (some y.reactor)).progress := by
  induction runs generalizing t₁ with
  | stop => simp at split
  | step did _ ih =>
    obtain ⟨tidy, spares⟩ := did.spares ahead.tidy
    exact ih (ahead.spares tidy (spares i (given_of_lookup ahead.tidy ahead.first))
      (spares o (given_of_lookup ahead.tidy ahead.second))) split first
  | @turn ex _ id rest turns head rest' ih =>
    obtain ⟨tidy, spares⟩ := turn_spares ahead.tidy head
    have whole := ahead
    obtain ⟨tidy₀, ⟨q₁, q₂, q₃, order, notFirst, notYet, apart, between⟩, inner, outer, kept⟩ :=
      ahead
    rw [head] at order
    cases t₁ with
    | nil =>
      obtain ⟨⟨rfl, rfl⟩, -⟩ := by simpa using split
      cases q₁ with
      | nil => exact absurd (List.cons.inj order).1.symm apart
      | cons => exact absurd (by simp [(List.cons.inj order).1]) notYet
    | cons t t₁ =>
      obtain ⟨rfl, split'⟩ := List.cons.inj split
      rw [List.map_cons, List.mem_cons, not_or] at first
      cases q₁ with
      | nil =>
        obtain ⟨rfl, rfl⟩ := List.cons.inj order
        obtain ⟨others, outer', inner'⟩ := (whole.turned head).runs rest' split' first.2
        exact ⟨[], ex, t₁, rfl, List.not_mem_nil, others, inner, outer', inner'⟩
      | cons id' q₁ =>
        obtain ⟨rfl, rfl⟩ := List.cons.inj order
        rw [List.mem_cons, not_or] at notFirst notYet
        have popped : Ahead i o a b { ex with queue := q₁ ++ i :: (q₂ ++ o :: q₃) } :=
          ⟨tidy₀.popped head, ⟨q₁, q₂, q₃, rfl, notFirst.2, notYet.2, apart, between⟩, inner,
            outer, kept⟩
        obtain ⟨u₁, y, u₂, rfl, before, after, facts⟩ :=
          ih (popped.spares tidy (spares i (given_of_lookup tidy₀ inner) notFirst.1)
            (spares o (given_of_lookup tidy₀ outer) first.1)) split' first.2
        refine ⟨_ :: u₁, y, u₂, rfl, ?_, after, facts⟩
        rw [List.map_cons, List.mem_cons, not_or]
        exact ⟨notFirst.1, before⟩

/-- The task of an orphan ends with its release. -/
theorem task_ends {o : Future.Orphan σ} {scopes : Scopes} {w : σ} {r : Option (Reactor σ)} :
    left (α := α) (o.task.poll scopes w r).progress = none ↔
      ∃ x, (o.release.poll scopes w r).progress = .ended x := by
  rw [show o.task.poll scopes w r = _ from Future.runs_task scopes o.scopes o.release w r]
  rcases o.release.poll scopes w r with ⟨x | a, w', r'⟩
  · refine ⟨fun _ => ⟨x, rfl⟩, fun _ => ?_⟩
    rw [Future.around]
    cases Future.releaseFailure? x <;> rfl
  · constructor
    · intro none
      cases none
    · rintro ⟨x, ended⟩
      cases ended

/-- The releases of nested brackets begin from the inside out.  When a future is cancelled
on an executor, the release of an inner bracket and that of the one around it become tasks.
Whatever the executor does from then on, the outer release has its first turn, in which it
is called, after the inner one has had exactly one turn, and nothing in between has touched
the inner one: it is over by then if and only if it ended in that turn. -/
theorem nested_releases_begin_inside_out {w : σ} {ex ex' ex'' : Executor σ α}
    {earlier turns : List (TaskId × Executor σ α)} {β : Type} {a : Future σ β}
    {inner outer : Future.Orphan σ} (reached : Runs (start w) earlier ex)
    (nested : Future.Nested inner outer a) (cancelled : Cancels a.orphans ex ex')
    (run : Runs ex' turns ex'') :
    ∃ i o, ex'.jobs.lookup i = some (.release inner.task) ∧
      ex'.jobs.lookup o = some (.release outer.task) ∧
      ∀ t₁ x t₂, turns = t₁ ++ (o, x) :: t₂ → o ∉ t₁.map Prod.fst →
        x.jobs.lookup o = some (.release outer.task) ∧
        ∃ u₁ y u₂, t₁ = u₁ ++ (i, y) :: u₂ ∧ i ∉ u₁.map Prod.fst ∧ i ∉ u₂.map Prod.fst ∧
          y.jobs.lookup i = some (.release inner.task) ∧
          (x.jobs.lookup i = none ↔
            ∃ r, (inner.release.poll [] y.world (some y.reactor)).progress = .ended r) := by
  have tidy : Tidy ex := reached.tidy (.start w)
  obtain ⟨os₁, os₂, os₃, orphans⟩ := nested.orphans
  obtain ⟨ex₁, before, tasks, after, named, spawned, releases, rfl⟩ := cancelled.takes tidy
  rw [orphans, List.map_append, List.map_cons, List.map_append, List.map_cons] at releases
  obtain ⟨l₁, _, rfl, -, fromInner⟩ := List.map_eq_append_iff.mp releases
  obtain ⟨⟨i, _⟩, _, rfl, rfl, afterInner⟩ := List.map_eq_cons_iff.mp fromInner
  obtain ⟨l₂, _, rfl, -, fromOuter⟩ := List.map_eq_append_iff.mp afterInner
  obtain ⟨⟨o, _⟩, l₃, rfl, rfl, -⟩ := List.map_eq_cons_iff.mp fromOuter
  have split : ex₁.reactor.spawned =
      (before ++ l₁) ++ (i, inner.task) :: (l₂ ++ (o, outer.task) :: (l₃ ++ after)) := by
    rw [spawned]
    simp only [List.append_assoc, List.cons_append]
  have ahead := ahead_collect named split
  refine ⟨i, o, ahead.first, ahead.second, fun t₁ x t₂ split first => ?_⟩
  obtain ⟨u₁, y, u₂, rfl, once, nothing, begun, called, left⟩ := ahead.runs run split first
  refine ⟨called, u₁, y, u₂, rfl, once, nothing, begun, ?_⟩
  rw [left, task_ends]

end Executor

/-! ## An inner release that is overtaken -/

/-- A world that keeps what is written down. -/
structure Diary where
  lines : List String
deriving DecidableEq

namespace Diary

instance : Observer Diary where
  note _ d := d
  setClock _ d := d

/-- Writes something down; a release that does so is clean. -/
def write (line : String) : Host Diary (Except Failure Verdict) :=
  fun d => (.ok (.ok .clean), ⟨d.lines ++ [line]⟩)

open Future Executor

/-- A release that takes five milliseconds. -/
def releaseSlowly (d : Diary) : Call Diary Verdict :=
  .returned (conclude (sleep 5) fun _ => write "inner") d

/-- A release that does not wait. -/
def releaseAtOnce (d : Diary) : Call Diary Verdict :=
  .returned (perform (write "outer")) d

/-- A bracket inside another one, whose use does not end. -/
def nestedBrackets : Future Diary ((Unit × Verdict) × Verdict) :=
  .bracket (ready (.ok ())) (fun _ d => .returned (.bracket (ready (.ok ()))
    (fun _ d => .returned never d) fun _ _ => releaseSlowly) d) fun _ _ => releaseAtOnce

/-- Cancelled after ten milliseconds, the outer bracket has released its resource before
the inner one has. -/
theorem outer_overtakes :
    ((timeout 10 nestedBrackets).run 10 ⟨[]⟩).2 = (15, ⟨["outer", "inner"]⟩) := by
  decide +kernel

/-- The brackets as their first poll leaves them. -/
def held : Future Diary ((Unit × Verdict) × Verdict) :=
  inUse [0] (inUse [0] never fun _ => releaseSlowly) fun _ => releaseAtOnce

/-- The time-out around them. -/
def timed : Future Diary ((Unit × Verdict) × Verdict) :=
  timing 0 [] (.ofMillis 10) 10 held

/-- The executor after that poll. -/
def begun : Executor Diary ((Unit × Verdict) × Verdict) :=
  ((Executor.start ⟨[]⟩).pollHandle (.live (timeout 10 nestedBrackets))).2.2

/-- The executor when the time is over. -/
def due : Executor Diary ((Unit × Verdict) × Verdict) :=
  (begun.advance (.handle (.live timed))).get (by decide +kernel)

/-- The executor when the brackets were cancelled. -/
def cancelled : Executor Diary ((Unit × Verdict) × Verdict) :=
  (due.pollHandle (.live timed)).2.2

/-- The executor after the first turn of the inner release. -/
def waiting : Executor Diary ((Unit × Verdict) × Verdict) :=
  ({ cancelled with queue := [1] }.turn 0).collect

theorem nestedBrackets_begin : ∃ i o : TaskId,
    cancelled.jobs.lookup i = some (.release (Orphan.task ⟨[0], suspend releaseSlowly⟩)) ∧
      cancelled.jobs.lookup o = some (.release (Orphan.task ⟨[0], suspend releaseAtOnce⟩)) ∧
      ∀ t₁ x t₂, [(0, cancelled), (1, waiting)] = t₁ ++ (o, x) :: t₂ → o ∉ t₁.map Prod.fst →
        ∃ u₁ y u₂, t₁ = u₁ ++ (i, y) :: u₂ := by
  have later : begun.advance (.handle (.live timed)) = some due := (Option.some_get _).symm
  have reached : Runs (Executor.start ⟨[]⟩) [] due :=
    .step (.poll (.live (timeout 10 nestedBrackets)) _) (.step (.advance later) (.stop due))
  have nested : Nested ⟨[0], suspend releaseSlowly⟩ ⟨[0], suspend releaseAtOnce⟩ held :=
    .inUse (List.mem_singleton.mpr rfl) rfl
  have polled : held.poll [0] due.world (some due.reactor) =
      ⟨.pending held, due.world, some due.reactor⟩ := rfl
  have lapsed : Cancels held.orphans due cancelled := .lapse polled (by decide +kernel)
  have first : cancelled.queue = [0, 1] := by decide +kernel
  have second : waiting.queue = [1] := by decide +kernel
  have run : Runs cancelled [(0, cancelled), (1, waiting)]
      ({ waiting with queue := [] }.turn 1).collect := .turn first (.turn second (.stop _))
  obtain ⟨i, o, inner, outer, begins⟩ := nested_releases_begin_inside_out reached nested lapsed run
  refine ⟨i, o, inner, outer, fun t₁ x t₂ split first => ?_⟩
  obtain ⟨-, u₁, y, u₂, before, -⟩ := begins t₁ x t₂ split first
  exact ⟨u₁, y, u₂, before⟩

end Diary

end Resumption
