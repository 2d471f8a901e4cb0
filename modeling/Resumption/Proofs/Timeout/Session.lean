/-
Session — no release outlives the handle that it is for.

While a handle is kept on its executor, every task is awaited: by the handle, or
by a task that was there before it.  So when the handle's outcome is handed out
and it awaits nothing, there are no tasks.
-/
import Resumption.Proofs.Future.Session
import Resumption.Proofs.Future.Tasks
import Resumption.Proofs.Timeout.Poll

namespace Resumption

open Reactor

variable {σ : Type} {α : Type}

namespace Handle

/-- The scopes of the time-outs that run in the handle. -/
def timers : Handle σ α → List ScopeId
  | live a => a.timers
  | completed => []

/-- The handle waits for the release that this task runs. -/
def Awaits (r : Reactor σ) (id : TaskId) : Handle σ α → Prop
  | live a => a.Awaits r id
  | completed => False

/-- What is left in the handle stands on its own. -/
def Placed (n : Nesting) (r : Reactor σ) : Handle σ α → Prop
  | live a => a.Placed n r []
  | completed => True

theorem timers_after (p : Future.Progress σ α) : (after p).timers = p.future.timers := by
  cases p <;> rfl

theorem awaits_after {r : Reactor σ} {id : TaskId} {p : Future.Progress σ α} :
    (after p).Awaits r id ↔ p.future.Awaits r id := by
  cases p <;> exact .rfl

theorem placed_after {n : Nesting} {r : Reactor σ} {p : Future.Progress σ α}
    (placed : p.future.Placed n r []) : (after p).Placed n r := by
  cases p with
  | ended _ => trivial
  | pending _ => exact placed

end Handle

namespace Future

variable {n n' : Nesting} {r r' : Reactor σ} {ts : List ScopeId} {aw : TaskId → Prop}
  {p : Progress σ α} {new : List (TaskId × Future σ Unit)}

/-- What a poll leaves does not run a time-out that runs elsewhere. -/
theorem Tended.timers_le (tended : Tended n r [] ts aw p n' r' new) {T : ScopeId} {c : Nat}
    (once : ts.count T + c ≤ 1) (old : 0 < c → T < r.nextScope) (own : T ∈ ts → T < r.nextScope) :
    p.future.timers.count T + (tasksTimers new).count T + c ≤ 1 := by
  have counted := tended.timers T
  rw [List.count_append] at counted
  by_cases before : T < r.nextScope
  · rw [between_below before] at counted
    omega
  · have none : c = 0 := Nat.eq_zero_of_not_pos fun some => before (old some)
    have other : ts.count T = 0 := List.count_eq_zero_of_not_mem fun mem => before (own mem)
    have once : between r.nextScope r'.nextScope T ≤ 1 := by
      unfold between
      split <;> omega
    omega

/-- A future elsewhere stays as it is. -/
theorem Tended.elsewhere {β : Type} {b : Future σ β} (tended : Tended n r [] ts aw p n' r' new)
    (sound : r.Sound n) (placed : b.Placed n r []) (apart : ∀ T ∈ b.timers, T ∉ ts) :
    b.Placed n' r' [] ∧ ∀ id, b.Awaits r id → b.Awaits r' id := by
  have left : ∀ T ∈ b.timers, T < r.nextScope ∧ T ∉ ts := fun T mem =>
    ⟨sound.named ▸ placed.timers_lt mem, apart T mem⟩
  exact ⟨placed.later tended.later left fun _ none => absurd none List.not_mem_nil,
    fun _ awaits => awaits.later tended.later left⟩

end Future

namespace Session

open Future

/-- The tasks of the session: those that the executor runs, and those that were spawned. -/
def tasks (l : List (TaskId × Future σ Unit)) (s : Session σ α) : List (TaskId × Future σ Unit) :=
  l ++ s.executor.reactor.spawned

/-- Every task of the session is awaited. -/
structure Attended (n : Nesting) (m : TaskId) (l : List (TaskId × Future σ Unit))
    (s : Session σ α) : Prop where
  orderly : s.executor.Orderly m l
  sound : s.executor.reactor.Sound n
  handle : s.handle.Placed n s.executor.reactor
  placed : ∀ x ∈ s.tasks l, x.2.Placed n s.executor.reactor []
  timers : ∀ T, s.handle.timers.count T + (tasksTimers (s.tasks l)).count T ≤ 1
  alive : ∀ x ∈ s.tasks l, x.1 ∉ s.executor.reactor.finished
  awaited : ∀ x ∈ s.tasks l, s.handle.Awaits s.executor.reactor x.1 ∨
    ∃ y ∈ s.tasks l, y.1 < x.1 ∧ y.2.Awaits s.executor.reactor x.1
  known : ∀ id < s.executor.reactor.nextTask,
    id ∈ s.executor.reactor.finished ∨ id ∈ (s.tasks l).map Prod.fst

theorem attended_start [Observer σ] {a : Future σ α} (fresh : a.Fresh) (w : σ) :
    Attended [] 0 [] (start a w) where
  orderly := .start w
  sound := by
    refine ⟨rfl, ?_, ?_, ?_⟩
    all_goals
      intro x mem
      cases mem
  handle := fresh.placed _ _ _
  placed _ mem := absurd mem List.not_mem_nil
  timers T := by
    show a.timers.count T + 0 ≤ 1
    rw [fresh.timers]
    exact Nat.zero_le _
  alive _ mem := absurd mem List.not_mem_nil
  awaited _ mem := absurd mem List.not_mem_nil
  known id given := absurd given (Nat.not_lt_zero id)

/-- When the handle's outcome was handed out, there is no task. -/
theorem Attended.no_tasks {n : Nesting} {m : TaskId} {l : List (TaskId × Future σ Unit)}
    {s : Session σ α} (attended : Attended n m l s) (gone : s.handle = .completed) :
    s.tasks l = [] := by
  have awaited : ∀ x ∈ s.tasks l, ∃ y ∈ s.tasks l, y.1 < x.1 := by
    intro x mem
    rcases attended.awaited x mem with handle | ⟨y, mem, lt, -⟩
    · rw [gone] at handle
      exact handle.elim
    · exact ⟨y, mem, lt⟩
  -- Otherwise the first of the tasks would be awaited by an earlier one.
  have none : ∀ k, ∀ x ∈ s.tasks l, x.1 ≠ k := by
    intro k
    induction k using Nat.strongRecOn with
    | ind k ih =>
      rintro x mem rfl
      obtain ⟨y, mem, lt⟩ := awaited x mem
      exact ih y.1 lt y mem rfl
  exact List.eq_nil_iff_forall_not_mem.mpr fun x mem => none x.1 x mem rfl

/-- Where there is no task, every task that was ever spawned has finished. -/
theorem Attended.all_finished {n : Nesting} {m : TaskId} {l : List (TaskId × Future σ Unit)}
    {s : Session σ α} (attended : Attended n m l s) (none : s.tasks l = []) :
    ∀ id < s.executor.reactor.nextTask, id ∈ s.executor.reactor.finished := by
  intro id given
  rcases attended.known id given with done | task
  · exact done
  · rw [none] at task
    cases task

section Preserved

variable {n : Nesting} {m : TaskId} {l : List (TaskId × Future σ Unit)} {h : Handle σ α}
  {ex : Executor σ α}

/-- What neither registers a release nor finishes one changes nothing. -/
theorem Attended.same {m' : TaskId} {l' : List (TaskId × Future σ Unit)} {ex' : Executor σ α}
    (attended : Attended n m l ⟨h, ex⟩) (orderly : ex'.Orderly m' l')
    (tasks : tasks l' ⟨h, ex'⟩ = tasks l ⟨h, ex⟩)
    (registered : ex'.reactor.registered = ex.reactor.registered)
    (finished : ex'.reactor.finished = ex.reactor.finished)
    (scopes : ex'.reactor.nextScope = ex.reactor.nextScope)
    (next : ex'.reactor.nextTask = ex.reactor.nextTask) : Attended n m' l' ⟨h, ex'⟩ := by
  have later : Later (fun _ => True) n ex.reactor n ex'.reactor :=
    .of_same registered (finished ▸ List.Subset.refl _) (Nat.le_of_eq scopes.symm)
      (Nat.le_of_eq next.symm)
  have placed : ∀ {β : Type} {a : Future σ β}, a.Placed n ex.reactor [] →
      a.Placed n ex'.reactor [] := fun placed =>
    placed.later later (fun _ _ => trivial) fun _ _ => trivial
  have awaits : ∀ {β : Type} {a : Future σ β} {id : TaskId}, a.Awaits ex.reactor id →
      a.Awaits ex'.reactor id := fun awaits => awaits.later later fun _ _ => trivial
  have handleAwaits : ∀ {id : TaskId}, h.Awaits ex.reactor id → h.Awaits ex'.reactor id := by
    intro id waits
    cases h with
    | completed => exact waits
    | live a => exact awaits waits
  refine ⟨orderly, ?_, ?_, ?_, ?_, ?_, ?_, ?_⟩
  · obtain ⟨named, nested, known, done⟩ := attended.sound
    refine ⟨scopes ▸ named, nested, ?_, ?_⟩
    · rw [registered, scopes, next]
      exact known
    · rw [finished, next]
      exact done
  · have handle := attended.handle
    cases h with
    | completed => trivial
    | live a => exact placed handle
  · rw [tasks]
    exact fun x mem => placed (attended.placed x mem)
  · rw [tasks]
    exact attended.timers
  · rw [tasks, finished]
    exact attended.alive
  · rw [tasks]
    intro x mem
    rcases attended.awaited x mem with handle | ⟨y, mem, lt, waits⟩
    · exact .inl (handleAwaits handle)
    · exact .inr ⟨y, mem, lt, awaits waits⟩
  · rw [tasks, finished, next]
    exact attended.known

/-- The handle's time-outs are not those of a task. -/
theorem Attended.apart {a : Future σ α} (attended : Attended n m l ⟨.live a, ex⟩) {T : ScopeId}
    (own : T ∈ a.timers) : T ∉ tasksTimers (tasks l ⟨.live a, ex⟩) := by
  intro other
  have once : a.timers.count T + _ ≤ 1 := attended.timers T
  have here : 0 < a.timers.count T := List.count_pos_iff.mpr own
  have there := List.count_pos_iff.mpr other
  omega

theorem Attended.timers_lt (attended : Attended n m l ⟨h, ex⟩) {T : ScopeId}
    (mem : T ∈ tasksTimers (tasks l ⟨h, ex⟩)) : T < ex.reactor.nextScope := by
  obtain ⟨x, task, timed⟩ := List.mem_flatMap.mp mem
  exact attended.sound.named ▸ (attended.placed x task).timers_lt timed

theorem Attended.collect (attended : Attended n m l ⟨h, ex⟩) :
    Attended n ex.reactor.nextTask (l ++ ex.reactor.spawned) ⟨h, ex.collect⟩ :=
  attended.same attended.orderly.collect (List.append_nil _) rfl rfl rfl rfl

/-- The future in hand stands on its own. -/
theorem Attended.stands {a : Future σ α} (attended : Attended n m l ⟨.live a, ex⟩) :
    Stands n ex.reactor [] a := by
  refine ⟨attended.handle, ?_, fun _ none => absurd none List.not_mem_nil⟩
  rw [List.nodup_iff_count_le_one]
  exact fun T => Nat.le_trans (Nat.le_add_right _ _) (attended.timers T)

theorem Attended.site (attended : Attended n m l ⟨h, ex⟩) : Site n ex.reactor [] [] :=
  ⟨attended.sound, .nil n, List.Subset.refl _⟩

section Polled

variable {a : Future σ α} {p : Future.Progress σ α} {n' : Nesting} {r' : Reactor σ} {w : σ}
  {new : List (TaskId × Future σ Unit)} {x : TaskId × Future σ Unit}
  (attended : Attended n m l ⟨.live a, ex⟩)
  (tended : Tended n ex.reactor [] a.timers (fun id => a.Awaits ex.reactor id) p n' r' new)

include tended

/-- The tasks after a poll of the handle are the old ones and the new ones. -/
theorem tasks_polled : tasks l ⟨.after p, { ex with world := w, reactor := r' }⟩ =
    tasks l ⟨.live a, ex⟩ ++ new := by
  show l ++ r'.spawned = l ++ ex.reactor.spawned ++ new
  rw [tended.spawns.spawned, List.append_assoc]

include attended

theorem Attended.tasks_stay (mem : x ∈ tasks l ⟨.live a, ex⟩) :
    x.2.Placed n' r' [] ∧ ∀ id, x.2.Awaits ex.reactor id → x.2.Awaits r' id :=
  tended.elsewhere attended.sound (attended.placed x mem) fun _ timed own =>
    attended.apart own (List.mem_flatMap.mpr ⟨x, mem, timed⟩)

theorem Attended.placed_polled (mem : x ∈ tasks l ⟨.live a, ex⟩ ++ new) :
    x.2.Placed n' r' [] := by
  rcases List.mem_append.mp mem with old | new
  · exact (attended.tasks_stay tended old).1
  · exact tended.tasks x new

theorem Attended.timers_polled (T : ScopeId) : (Handle.after p).timers.count T +
    (tasksTimers (tasks l ⟨.live a, ex⟩ ++ new)).count T ≤ 1 := by
  have once := tended.timers_le (attended.timers T)
    (fun some => attended.timers_lt (List.count_pos_iff.mp some))
    fun own => attended.stands.timers_lt attended.sound own
  rw [Handle.timers_after, tasksTimers_append, List.count_append]
  omega

theorem Attended.alive_polled (mem : x ∈ tasks l ⟨.live a, ex⟩ ++ new) :
    x.1 ∉ r'.finished := by
  rw [tended.still.finished]
  rcases List.mem_append.mp mem with old | new
  · exact attended.alive x old
  · exact tended.unfinished attended.sound new

theorem Attended.awaited_polled (mem : x ∈ tasks l ⟨.live a, ex⟩ ++ new) :
    (Handle.after p).Awaits r' x.1 ∨
      ∃ y ∈ tasks l ⟨.live a, ex⟩ ++ new, y.1 < x.1 ∧ y.2.Awaits r' x.1 := by
  rcases List.mem_append.mp mem with old | new
  · rcases attended.awaited x old with handle | ⟨y, other, lt, awaits⟩
    · exact .inl (Handle.awaits_after.mpr
        ((tended.awaits x.1 handle).resolve_left (attended.alive x old)))
    · exact .inr ⟨y, List.mem_append_left _ other, lt,
        (attended.tasks_stay tended other).2 x.1 awaits⟩
  · exact .inl (Handle.awaits_after.mpr (tended.awaitsNew x new))

theorem Attended.known_polled {id : TaskId} (given : id < r'.nextTask) :
    id ∈ r'.finished ∨ id ∈ (tasks l ⟨.live a, ex⟩ ++ new).map Prod.fst := by
  rw [tended.still.finished, List.map_append]
  rcases tended.spawns.named given with old | new
  · exact (attended.known id old).imp_right fun mem => List.mem_append_left _ mem
  · exact .inr (List.mem_append_right _ new)

end Polled

variable [Observer σ]

/-- A poll of the handle leaves every task attended. -/
theorem Attended.poll (attended : Attended n m l ⟨h, ex⟩) :
    ∃ n' m' l', Attended n' m' l' (polled ⟨h, ex⟩) := by
  cases h with
  | completed => exact ⟨_, _, _, attended.collect⟩
  | live a =>
    obtain ⟨n', r', new, active, tended⟩ := tends attended.site a attended.stands ex.world
    rw [polled, Executor.pollHandle_live, active]
    generalize a.poll [] ex.world (some ex.reactor) = P at active tended
    have polled : Attended n' m l
        ⟨.after P.progress, { ex with world := P.world, reactor := r' }⟩ := {
      orderly := ⟨attended.orderly.jobs, attended.orderly.names, attended.orderly.below,
        tended.spawns.numbered attended.orderly.numbered, attended.orderly.kept⟩
      sound := tended.sound
      handle := Handle.placed_after tended.placed
      placed := by
        rw [tasks_polled tended]
        exact fun _ mem => attended.placed_polled tended mem
      timers := by
        rw [tasks_polled tended]
        exact attended.timers_polled tended
      alive := by
        rw [tasks_polled tended]
        exact fun _ mem => attended.alive_polled tended mem
      awaited := by
        rw [tasks_polled tended]
        exact fun _ mem => attended.awaited_polled tended mem
      known := by
        rw [tasks_polled tended]
        exact fun _ given => attended.known_polled tended given }
    exact ⟨n', _, _, polled.collect⟩

end Preserved

/-! ## The turn of a task -/

section Turn

variable {n n' : Nesting} {m id : TaskId} {a : Future σ Unit}
  {l₁ l₂ new : List (TaskId × Future σ Unit)} {h : Handle σ α} {ex : Executor σ α}
  {p : Progress σ Unit} {r r' : Reactor σ} {ts : List ScopeId} {aw : TaskId → Prop}

/-- The time-outs that run in what is left of a task. -/
theorem remaining_timers (id : TaskId) (p : Progress σ Unit) :
    tasksTimers (Executor.remaining id p) = p.future.timers := by
  cases p with
  | ended _ => rfl
  | pending a => exact List.append_nil _

theorem later_reported (id : TaskId) (p : Progress σ Unit) :
    Later (fun _ => True) n r n (Executor.reported id p r) := by
  cases p with
  | ended _ => exact .of_same rfl (List.subset_cons_self _ _) (Nat.le_refl _) (Nat.le_refl _)
  | pending _ => exact .refl _ n r

theorem sound_reported (sound : r.Sound n) (old : id < r.nextTask) (p : Progress σ Unit) :
    (Executor.reported id p r).Sound n := by
  cases p with
  | pending _ => exact sound
  | ended _ =>
    obtain ⟨named, nested, known, done⟩ := sound
    refine ⟨named, nested, known, fun k mem => ?_⟩
    rcases List.mem_cons.mp mem with rfl | mem
    · exact old
    · exact done k mem

/-- Only a task that has ended is reported as finished. -/
theorem mem_finished_reported {k : TaskId} (done : k ∈ (Executor.reported id p r).finished) :
    k ∈ r.finished ∨ k = id ∧ ∃ o, p = .ended o := by
  cases p with
  | pending _ => exact .inl done
  | ended o => exact (List.mem_cons.mp done).symm.imp_right fun same => ⟨same, o, rfl⟩

/-- A future elsewhere stays as it is in the turn of a task. -/
theorem stays_reported {β : Type} {b : Future σ β} (tended : Tended n r [] ts aw p n' r' new)
    (sound : r.Sound n) (placed : b.Placed n r []) (apart : ∀ T ∈ b.timers, T ∉ ts) :
    b.Placed n' (Executor.reported id p r') [] ∧
      ∀ k, b.Awaits r k → b.Awaits (Executor.reported id p r') k := by
  have ⟨there, waits⟩ := tended.elsewhere sound placed apart
  have reported := later_reported (n := n') (r := r') id p
  exact ⟨there.later reported (fun _ _ => trivial) fun _ _ => trivial,
    fun k waited => (waits k waited).later reported fun _ _ => trivial⟩

/-- The tasks of a session beside one of them. -/
def others (l₁ l₂ : List (TaskId × Future σ Unit)) (ex : Executor σ α) :
    List (TaskId × Future σ Unit) :=
  l₁ ++ (l₂ ++ ex.reactor.spawned)

theorem mem_tasks_split {x : TaskId × Future σ Unit} :
    x ∈ tasks (l₁ ++ (id, a) :: l₂) ⟨h, ex⟩ ↔ x = (id, a) ∨ x ∈ others l₁ l₂ ex := by
  simp only [tasks, others, List.mem_append, List.mem_cons]
  tauto

theorem Attended.other_names (attended : Attended n m (l₁ ++ (id, a) :: l₂) ⟨h, ex⟩) :
    ∀ x ∈ others l₁ l₂ ex, x.1 ≠ id := by
  have nodup := attended.orderly.collect.names
  rw [List.append_assoc, List.cons_append] at nodup
  exact Executor.ne_of_split nodup

/-- A time-out runs once, in the task, in the handle or in another task. -/
theorem Attended.once (attended : Attended n m (l₁ ++ (id, a) :: l₂) ⟨h, ex⟩) (T : ScopeId) :
    a.timers.count T + (h.timers.count T + (tasksTimers (others l₁ l₂ ex)).count T) ≤ 1 := by
  have total : h.timers.count T + _ ≤ 1 := attended.timers T
  simp only [tasksTimers, tasks, others, List.flatMap_append, List.flatMap_cons,
    List.count_append] at total ⊢
  omega

theorem Attended.task_stands (attended : Attended n m (l₁ ++ (id, a) :: l₂) ⟨h, ex⟩) :
    Stands n ex.reactor [] a := by
  refine ⟨attended.placed _ (mem_tasks_split.mpr (.inl rfl)), ?_,
    fun _ none => absurd none List.not_mem_nil⟩
  rw [List.nodup_iff_count_le_one]
  exact fun T => Nat.le_trans (Nat.le_add_right _ _) (attended.once T)

/-- What runs in the handle or in another task does not run in the task. -/
theorem Attended.task_apart (attended : Attended n m (l₁ ++ (id, a) :: l₂) ⟨h, ex⟩) {T : ScopeId}
    (elsewhere : T ∈ h.timers ∨ T ∈ tasksTimers (others l₁ l₂ ex)) : T ∉ a.timers := by
  intro own
  have total := attended.once T
  have here := List.count_pos_iff.mpr own
  rcases elsewhere with there | there
  all_goals
    have there := List.count_pos_iff.mpr there
    omega

theorem Attended.elsewhere_lt (attended : Attended n m (l₁ ++ (id, a) :: l₂) ⟨h, ex⟩) {T : ScopeId}
    (elsewhere : T ∈ h.timers ∨ T ∈ tasksTimers (others l₁ l₂ ex)) : T < ex.reactor.nextScope := by
  rcases elsewhere with timed | timed
  · cases h with
    | completed => cases timed
    | live b => exact attended.sound.named ▸ Placed.timers_lt attended.handle timed
  · obtain ⟨x, mem, timed⟩ := List.mem_flatMap.mp timed
    exact attended.timers_lt
      (List.mem_flatMap.mpr ⟨x, mem_tasks_split.mpr (.inr mem), timed⟩)

/-- What awaits a release is left as the task. -/
theorem awaits_remaining (id : TaskId) {k : TaskId} (waits : p.future.Awaits r k) :
    ∃ y ∈ Executor.remaining id p, y.1 = id ∧ y.2.Awaits r k := by
  cases p with
  | ended _ => exact waits.elim
  | pending a => exact ⟨(id, a), List.mem_singleton_self _, rfl, waits⟩

theorem spawned_reported (id : TaskId) (p : Progress σ Unit) (r : Reactor σ) :
    (Executor.reported id p r).spawned = r.spawned := by
  cases p <;> rfl

theorem next_reported (id : TaskId) (p : Progress σ Unit) (r : Reactor σ) :
    (Executor.reported id p r).nextTask = r.nextTask := by
  cases p <;> rfl

/-- A task whose poll is over has ended, or something is left of it. -/
theorem ended_or_remaining (id : TaskId) (p : Progress σ Unit) (r : Reactor σ) :
    id ∈ (Executor.reported id p r).finished ∨ ∃ a, (id, a) ∈ Executor.remaining id p := by
  cases p with
  | ended _ => exact .inl List.mem_cons_self
  | pending a => exact .inr ⟨a, List.mem_singleton_self _⟩

section After

variable {ex' : Executor σ α} {x : TaskId × Future σ Unit}
  (attended : Attended n m (l₁ ++ (id, a) :: l₂) ⟨h, ex⟩)
  (tended : Tended n ex.reactor [] a.timers (fun k => a.Awaits ex.reactor k) p n' r' new)
  (reactor : ex'.reactor = Executor.reported id p r')

include attended

theorem Attended.task_old : id < ex.reactor.nextTask := by
  have below := attended.orderly.below id
  rw [List.map_append, List.map_cons] at below
  rw [attended.orderly.numbered.2]
  exact Nat.lt_add_right _ (below (List.mem_append_right _ List.mem_cons_self))

include tended reactor

omit attended in
/-- The tasks after the turn of one: what is left of it, the others, and new ones. -/
theorem mem_tasks_after : x ∈ tasks (l₁ ++ (Executor.remaining id p ++ l₂)) ⟨h, ex'⟩ ↔
    x ∈ Executor.remaining id p ∨ x ∈ others l₁ l₂ ex ∨ x ∈ new := by
  simp only [tasks, others, reactor, spawned_reported, tended.spawns.spawned, List.mem_append]
  tauto

omit attended in
/-- What is left of the task waits for what the poll left waiting. -/
theorem leftover_awaits {k : TaskId} (waits : p.future.Awaits r' k) :
    ∃ y ∈ tasks (l₁ ++ (Executor.remaining id p ++ l₂)) ⟨h, ex'⟩, y.1 = id ∧
      y.2.Awaits ex'.reactor k := by
  have waits := waits.later (later_reported (n := n') id p) fun _ _ => trivial
  obtain ⟨y, left, named, waits⟩ := awaits_remaining id waits
  rw [reactor]
  exact ⟨y, (mem_tasks_after tended reactor).mpr (.inl left), named, waits⟩

theorem Attended.others_stay (other : x ∈ others l₁ l₂ ex) :
    x.2.Placed n' ex'.reactor [] ∧ ∀ k, x.2.Awaits ex.reactor k → x.2.Awaits ex'.reactor k := by
  have placed := attended.placed x (mem_tasks_split.mpr (.inr other))
  rw [reactor]
  exact stays_reported tended attended.sound placed fun T timed =>
    attended.task_apart (.inr (List.mem_flatMap.mpr ⟨x, other, timed⟩))

theorem Attended.handle_stays : h.Placed n' ex'.reactor ∧
    ∀ k, h.Awaits ex.reactor k → h.Awaits ex'.reactor k := by
  rw [reactor]
  cases h with
  | completed => exact ⟨trivial, fun _ none => none.elim⟩
  | live b =>
    exact stays_reported tended attended.sound attended.handle fun T timed =>
      attended.task_apart (.inl timed)

theorem Attended.placed_after
    (mem : x ∈ tasks (l₁ ++ (Executor.remaining id p ++ l₂)) ⟨h, ex'⟩) :
    x.2.Placed n' ex'.reactor [] := by
  have later := later_reported (n := n') (r := r') id p
  rcases (mem_tasks_after tended reactor).mp mem with left | other | new
  · obtain ⟨a', pending, rfl⟩ := Executor.mem_remaining left
    have placed := tended.placed.later later (fun _ _ => trivial) fun _ _ => trivial
    rw [← reactor, pending] at placed
    exact placed
  · exact (attended.others_stay tended reactor other).1
  · rw [reactor]
    exact (tended.tasks x new).later later (fun _ _ => trivial) fun _ _ => trivial

theorem Attended.timers_after (T : ScopeId) : h.timers.count T +
    (tasksTimers (tasks (l₁ ++ (Executor.remaining id p ++ l₂)) ⟨h, ex'⟩)).count T ≤ 1 := by
  have once := tended.timers_le (attended.once T) (fun some => attended.elsewhere_lt ?_)
    fun own => attended.task_stands.timers_lt attended.sound own
  · rw [← remaining_timers id p] at once
    simp only [tasksTimers, tasks, others, reactor, spawned_reported, tended.spawns.spawned,
      List.flatMap_append, List.count_append] at once ⊢
    omega
  · rcases Nat.add_pos_iff_pos_or_pos.mp some with timed | timed
    · exact .inl (List.count_pos_iff.mp timed)
    · exact .inr (List.count_pos_iff.mp timed)

theorem Attended.alive_after
    (mem : x ∈ tasks (l₁ ++ (Executor.remaining id p ++ l₂)) ⟨h, ex'⟩) :
    x.1 ∉ ex'.reactor.finished := by
  intro done
  rw [reactor] at done
  have done := mem_finished_reported done
  rw [tended.still.finished] at done
  rcases (mem_tasks_after tended reactor).mp mem with left | other | new
  · obtain ⟨a', pending, rfl⟩ := Executor.mem_remaining left
    rcases done with done | ⟨-, o, ended⟩
    · exact attended.alive _ (mem_tasks_split.mpr (.inl rfl)) done
    · rw [pending] at ended
      cases ended
  · rcases done with done | ⟨same, -⟩
    · exact attended.alive x (mem_tasks_split.mpr (.inr other)) done
    · exact attended.other_names x other same
  · have fresh := (tended.spawns.mem new).1
    rcases done with done | ⟨same, -⟩
    · exact Nat.not_le_of_lt (attended.sound.finished x.1 done) fresh
    · exact Nat.not_le_of_lt attended.task_old (same ▸ fresh)

theorem Attended.awaited_after
    (mem : x ∈ tasks (l₁ ++ (Executor.remaining id p ++ l₂)) ⟨h, ex'⟩) :
    h.Awaits ex'.reactor x.1 ∨
      ∃ y ∈ tasks (l₁ ++ (Executor.remaining id p ++ l₂)) ⟨h, ex'⟩,
        y.1 < x.1 ∧ y.2.Awaits ex'.reactor x.1 := by
  have handle := (attended.handle_stays tended reactor).2
  have stay {y : TaskId × Future σ Unit} {k : TaskId} (other : y ∈ others l₁ l₂ ex)
      (waits : y.2.Awaits ex.reactor k) :=
    (attended.others_stay tended reactor other).2 k waits
  have still {y : TaskId × Future σ Unit} (other : y ∈ others l₁ l₂ ex) :
      y ∈ tasks (l₁ ++ (Executor.remaining id p ++ l₂)) ⟨h, ex'⟩ :=
    (mem_tasks_after tended reactor).mpr (.inr (.inl other))
  rcases (mem_tasks_after tended reactor).mp mem with left | other | new
  · obtain ⟨a', -, rfl⟩ := Executor.mem_remaining left
    rcases attended.awaited _ (mem_tasks_split.mpr (.inl rfl)) with waits | ⟨y, task, lt, waits⟩
    · exact .inl (handle id waits)
    · rcases mem_tasks_split.mp task with rfl | other
      · exact absurd lt (Nat.lt_irrefl _)
      · exact .inr ⟨y, still other, lt, stay other waits⟩
  · have task : x ∈ tasks (l₁ ++ (id, a) :: l₂) ⟨h, ex⟩ := mem_tasks_split.mpr (.inr other)
    rcases attended.awaited x task with waits | ⟨y, task', lt, waits⟩
    · exact .inl (handle x.1 waits)
    · rcases mem_tasks_split.mp task' with rfl | other'
      · have waits := (tended.awaits x.1 waits).resolve_left (attended.alive x task)
        obtain ⟨y, task, named, waits⟩ := leftover_awaits tended reactor waits
        exact .inr ⟨y, task, named ▸ lt, waits⟩
      · exact .inr ⟨y, still other', lt, stay other' waits⟩
  · obtain ⟨y, task, named, waits⟩ := leftover_awaits tended reactor (tended.awaitsNew x new)
    refine .inr ⟨y, task, ?_, waits⟩
    rw [named]
    exact Nat.lt_of_lt_of_le attended.task_old (tended.spawns.mem new).1

theorem Attended.known_after {k : TaskId} (given : k < ex'.reactor.nextTask) :
    k ∈ ex'.reactor.finished ∨
      k ∈ (tasks (l₁ ++ (Executor.remaining id p ++ l₂)) ⟨h, ex'⟩).map Prod.fst := by
  have isTask {x : TaskId × Future σ Unit}
      (found : x ∈ Executor.remaining id p ∨ x ∈ others l₁ l₂ ex ∨ x ∈ new) :
      x.1 ∈ (tasks (l₁ ++ (Executor.remaining id p ++ l₂)) ⟨h, ex'⟩).map Prod.fst :=
    List.mem_map_of_mem ((mem_tasks_after tended reactor).mpr found)
  rw [reactor, next_reported] at given
  rcases tended.spawns.named given with old | new
  · rcases attended.known k old with done | named
    · rw [reactor]
      refine .inl ((later_reported (n := n') id p).finished ?_)
      rw [tended.still.finished]
      exact done
    · obtain ⟨x, task, rfl⟩ := List.mem_map.mp named
      rcases mem_tasks_split.mp task with rfl | other
      · rw [reactor]
        exact (ended_or_remaining id p r').imp_right fun ⟨b, left⟩ =>
          isTask (x := (id, b)) (.inl left)
      · exact .inr (isTask (.inr (.inl other)))
  · obtain ⟨x, mem, rfl⟩ := List.mem_map.mp new
    exact .inr (isTask (.inr (.inr mem)))

end After

variable [Observer σ]

/-- The turn of a task leaves every task attended. -/
theorem Attended.turn {l : List (TaskId × Future σ Unit)} (attended : Attended n m l ⟨h, ex⟩)
    (id : TaskId) : ∃ n' m' l', Attended n' m' l' ⟨h, (ex.turn id).collect⟩ := by
  by_cases mem : id ∈ l.map Prod.fst
  · obtain ⟨l₁, a, l₂, rfl⟩ := Executor.split_of_name mem
    obtain ⟨n', r', new, active, tended⟩ := tends attended.site a attended.task_stands ex.world
    generalize ran : a.poll [] ex.world (some ex.reactor) = P at active tended
    obtain ⟨orderly, -, reactor⟩ :=
      attended.orderly.turn ran active (tended.spawns.numbered attended.orderly.numbered)
    have old := Nat.lt_of_lt_of_le attended.task_old tended.later.tasks
    have turned : Attended n' m (l₁ ++ (Executor.remaining id P.progress ++ l₂))
        ⟨h, ex.turn id⟩ := {
      orderly := orderly
      sound := reactor ▸ sound_reported tended.sound old P.progress
      handle := (attended.handle_stays tended reactor).1
      placed := fun _ mem => attended.placed_after tended reactor mem
      timers := attended.timers_after tended reactor
      alive := fun _ mem => attended.alive_after tended reactor mem
      awaited := fun _ mem => attended.awaited_after tended reactor mem
      known := fun _ given => attended.known_after tended reactor given }
    exact ⟨_, _, _, turned.collect⟩
  · have absent : id ∉ ex.jobs.map Prod.fst := by
      rw [attended.orderly.jobs, Executor.releases_names]
      exact mem
    rw [ex.turn_of_not_mem absent]
    exact ⟨_, _, _, attended.collect⟩

end Turn

/-! ## Runs -/

section Runs

variable [Observer σ] {others : σ → σ → Prop} {s s' : Session σ α}

/-- Every move leaves every task attended. -/
theorem Attended.move {n : Nesting} {m : TaskId} {l : List (TaskId × Future σ Unit)}
    (attended : Attended n m l s) (move : Move others s s') : ∃ n' m' l', Attended n' m' l' s' := by
  cases move with
  | poll => exact attended.poll
  | meanwhile meanwhile =>
    cases meanwhile with
    | turn h ex id => exact attended.turn id
    | collect h ex => exact ⟨_, _, _, attended.collect⟩
    | elsewhere h ex _ _ =>
      have ⟨jobs, names, below, numbered, kept⟩ := attended.orderly
      exact ⟨_, _, _, attended.same ⟨jobs, names, below, numbered, kept⟩ rfl rfl rfl rfl rfl⟩

/-- So does every run, from the first poll on. -/
theorem attended_of_moves {a : Future σ α} (fresh : a.Fresh) {w : σ}
    (run : Moves others (start a w) s) : ∃ n m l, Attended n m l s := by
  induction run with
  | refl => exact ⟨_, _, _, attended_start fresh w⟩
  | tail _ move ih =>
    obtain ⟨_, _, _, attended⟩ := ih
    exact attended.move move

/-- When the handle's outcome was handed out, nothing is left to run. -/
theorem quiet_of_moves {a : Future σ α} (fresh : a.Fresh) {w : σ}
    (run : Moves others (start a w) s) (gone : s.handle = .completed) : s.Quiet := by
  obtain ⟨n, m, l, attended⟩ := attended_of_moves fresh run
  obtain ⟨rfl, empty⟩ := List.append_eq_nil_iff.mp (attended.no_tasks gone)
  exact ⟨gone, attended.orderly.jobs, empty⟩

end Runs

end Session

end Resumption
