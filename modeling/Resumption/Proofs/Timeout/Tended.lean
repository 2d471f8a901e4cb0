/-
Tended — a poll keeps waiting for what the future waited for.

When a poll is over, each release that the future waited for is finished or what
is left of the future waits for it, and what is left waits for every release that
the poll moved to a task.  So a future that has ended waited for all of them.

The poll touches no scopes but those of the time-outs that run in the future and
new ones (`Worked`).  A scope is handed on (`HandedOn`): of the time-outs that run in
what is left and in the new tasks, each ran in the future or was opened by the poll,
and none runs twice.
-/
import Mathlib.Data.List.Perm.Subperm
import Resumption.Proofs.Future.Context
import Resumption.Proofs.Future.Reactor
import Resumption.Proofs.Timeout.Placed

namespace Resumption

open Reactor

namespace Future

variable {σ : Type} {α β : Type}

/-! ## Scopes that are handed on -/

/-- The time-outs that run in some tasks. -/
def tasksTimers (l : List (TaskId × Future σ Unit)) : List ScopeId :=
  l.flatMap fun x => x.2.timers

theorem tasksTimers_append (l l' : List (TaskId × Future σ Unit)) :
    tasksTimers (l ++ l') = tasksTimers l ++ tasksTimers l' :=
  List.flatMap_append

/-- How often the scope `T` is among those from `a` on and before `b`. -/
def between (a b T : Nat) : Nat :=
  if a ≤ T ∧ T < b then 1 else 0

theorem between_add {a b c : Nat} (low : a ≤ b) (high : b ≤ c) (T : Nat) :
    between a b T + between b c T = between a c T := by
  unfold between
  split <;> split <;> split <;> omega

theorem between_succ (a T : Nat) : between a (a + 1) T = [a].count T := by
  rw [List.count_singleton, between]
  refine if_congr ?_ rfl rfl
  rw [beq_iff_eq]
  omega

theorem between_below {a b T : Nat} (below : T < a) : between a b T = 0 :=
  if_neg fun inside => Nat.not_le_of_lt below inside.1

/-- The scopes `ts` are handed on as `l`: each of `l` was one of `ts` or was opened in the
meantime, and none is handed on twice. -/
def HandedOn (ts : List ScopeId) (r r' : Reactor σ) (l : List ScopeId) : Prop :=
  ∀ T, l.count T ≤ ts.count T + between r.nextScope r'.nextScope T

/-- The scope was there, and it is none of `ts`. -/
def Elsewhere (r : Reactor σ) (ts : List ScopeId) (T : ScopeId) : Prop :=
  T < r.nextScope ∧ T ∉ ts

namespace HandedOn

variable {ts us l l' : List ScopeId} {r r₁ r₂ : Reactor σ} {T : ScopeId}

theorem nil : HandedOn ts r r₁ [] := fun _ =>
  Nat.zero_le _

theorem of_subperm (handed : HandedOn ts r r₁ l) (sub : l'.Subperm l) : HandedOn ts r r₁ l' :=
  fun T => Nat.le_trans (sub.count_le T) (handed T)

theorem append (first : HandedOn ts r r₁ l) (second : HandedOn us r₁ r₂ l')
    (low : r.nextScope ≤ r₁.nextScope) (high : r₁.nextScope ≤ r₂.nextScope) :
    HandedOn (ts ++ us) r r₂ (l ++ l') := by
  intro T
  have one := first T
  have two := second T
  have both := between_add low high T
  rw [List.count_append, List.count_append]
  omega

/-- A scope that runs on is handed on. -/
theorem cons (handed : HandedOn ts r r₁ l) (T : ScopeId) : HandedOn (T :: ts) r r₁ (T :: l) := by
  intro S
  rw [List.count_cons, List.count_cons, Nat.add_right_comm]
  exact Nat.add_le_add_right (handed S) _

/-- A scope that is over is not. -/
theorem dropped (handed : HandedOn ts r r₁ l) (T : ScopeId) : HandedOn (T :: ts) r r₁ l :=
  (handed.cons T).of_subperm (List.sublist_cons_self T l).subperm

theorem mem (handed : HandedOn ts r r₁ l) (mem : T ∈ l) :
    T ∈ ts ∨ r.nextScope ≤ T ∧ T < r₁.nextScope := by
  have here : 0 < l.count T := List.count_pos_iff.mpr mem
  by_cases own : T ∈ ts
  · exact .inl own
  · refine .inr (Decidable.byContradiction fun outside => ?_)
    have counted := handed T
    rw [List.count_eq_zero_of_not_mem own, between, if_neg outside] at counted
    exact Nat.not_le_of_lt here counted

/-- What is handed on stays apart from scopes that were there. -/
theorem elsewhere (handed : HandedOn ts r r₁ l) (grown : r.nextScope ≤ r₁.nextScope)
    (old : ∀ T ∈ us, T < r.nextScope) (apart : ∀ T ∈ ts, Elsewhere r us T) (mem : T ∈ l) :
    Elsewhere r₁ us T := by
  rcases handed.mem mem with own | ⟨low, high⟩
  · exact (apart T own).imp_left fun before => Nat.lt_of_lt_of_le before grown
  · exact ⟨high, fun other => Nat.not_le_of_lt (old T other) low⟩

end HandedOn

/-! ## What a poll does to the reactor -/

/-- The reactor was at work, spawned the tasks `new` and left the scopes in `X` alone. -/
structure Worked (X : ScopeId → Prop) (n : Nesting) (r : Reactor σ) (n' : Nesting)
    (r' : Reactor σ) (new : List (TaskId × Future σ Unit)) : Prop where
  later : Later X n r n' r'
  still : r.Still r'
  sound : r'.Sound n'
  spawns : r.Spawns new r'
  tasks : ∀ x ∈ new, x.2.Placed n' r' []

namespace Worked

variable {X Y : ScopeId → Prop} {n n₁ n₂ : Nesting} {r r₁ r₂ : Reactor σ}
  {new new' : List (TaskId × Future σ Unit)}

/-- No task was spawned. -/
theorem alone (later : Later X n r n₁ r₁) (still : r.Still r₁) (sound : r₁.Sound n₁)
    (spawned : r₁.spawned = r.spawned) (next : r₁.nextTask = r.nextTask) :
    Worked X n r n₁ r₁ [] where
  later := later
  still := still
  sound := sound
  spawns := .nil spawned next
  tasks _ mem := absurd mem List.not_mem_nil

theorem refl (X : ScopeId → Prop) (sound : r.Sound n) : Worked X n r n r [] :=
  .alone (.refl X n r) (.refl r) sound rfl rfl

theorem mono (worked : Worked Y n r n₁ r₁ new) (sub : ∀ T, X T → Y T) : Worked X n r n₁ r₁ new where
  later := worked.later.mono sub
  still := worked.still
  sound := worked.sound
  spawns := worked.spawns
  tasks := worked.tasks

/-- The second step has to leave alone what the first one was to, and the time-outs that run
in the tasks that the first one spawned. -/
theorem trans (first : Worked X n r n₁ r₁ new) (second : Worked Y n₁ r₁ n₂ r₂ new')
    (sub : ∀ T, X T → Y T) (left : ∀ T ∈ tasksTimers new, Y T) :
    Worked X n r n₂ r₂ (new ++ new') where
  later := first.later.trans (second.later.mono sub)
  still := first.still.trans second.still
  sound := second.sound
  spawns := first.spawns.trans second.spawns
  tasks x mem := by
    rcases List.mem_append.mp mem with mem | mem
    · refine (first.tasks x mem).later second.later (fun T timed => ?_) fun _ none =>
        absurd none List.not_mem_nil
      exact left T (List.mem_flatMap.mpr ⟨x, mem, timed⟩)
    · exact second.tasks x mem

/-- A new task has not finished. -/
theorem unfinished (worked : Worked X n r n₁ r₁ new) (sound : r.Sound n)
    {x : TaskId × Future σ Unit} (mem : x ∈ new) : x.1 ∉ r.finished := fun done =>
  Nat.not_le_of_lt (sound.finished x.1 done) (worked.spawns.mem mem).1

theorem freshScope {L : Scopes} (sound : r.Sound n) (closed : n.Closed L) :
    Worked (fun _ => True) n r (n ++ [L]) r.freshScope.2 [] :=
  .alone later_freshScope ⟨rfl, rfl⟩ (sound.freshScope closed) rfl rfl

theorem takeRegistered (sound : r.Sound n) (T : ScopeId) :
    Worked (fun S => S ≠ T) n r n (r.takeRegistered T).2 [] :=
  .alone (later_takeRegistered T) ⟨rfl, rfl⟩ (sound.takeRegistered T) rfl rfl

theorem spawn {L : Scopes} {a : Future σ Unit} (sound : r.Sound n) (closed : n.Closed L)
    (placed : a.Placed n r []) :
    Worked (fun _ => True) n r n (r.spawn L a) [(r.nextTask, a)] where
  later := later_spawn closed a
  still := ⟨rfl, rfl⟩
  sound := sound.spawn closed a
  spawns := .spawn r L a
  tasks x mem := by
    obtain rfl := List.mem_singleton.mp mem
    exact placed.later (later_spawn closed a) (fun _ _ => trivial) fun _ _ => trivial

end Worked

/-- A place to poll a future in: the scopes `E` are around it, and brackets are opened
in `L`. -/
structure Site (n : Nesting) (r : Reactor σ) (E L : Scopes) : Prop where
  sound : r.Sound n
  closed : n.Closed L
  inside : E ⊆ L

/-- What a poll of a future that stands inside `E` comes to, in which the time-outs `ts`
run and which awaits the tasks `aw`. -/
structure Tended (n : Nesting) (r : Reactor σ) (E : Scopes) (ts : List ScopeId)
    (aw : TaskId → Prop) (p : Progress σ α) (n' : Nesting) (r' : Reactor σ)
    (new : List (TaskId × Future σ Unit)) : Prop
    extends Worked (Elsewhere r ts) n r n' r' new where
  timers : HandedOn ts r r' (p.future.timers ++ tasksTimers new)
  placed : p.future.Placed n' r' E
  awaits : ∀ id, aw id → id ∈ r.finished ∨ p.future.Awaits r' id
  awaitsNew : ∀ x ∈ new, p.future.Awaits r' x.1

/-- A poll on a reactor tends to what the future awaits. -/
def Tends (n : Nesting) (r : Reactor σ) (E : Scopes) (ts : List ScopeId) (aw : TaskId → Prop)
    (P : Polled σ α) : Prop :=
  ∃ n' r' new, P.reactor = some r' ∧ Tended n r E ts aw P.progress n' r' new

variable {n n' : Nesting} {r r' : Reactor σ} {E : Scopes} {ts : List ScopeId} {aw : TaskId → Prop}

/-- A poll on a reactor takes no time. -/
theorem Tends.now {P : Polled σ α} (tends : Tends n r E ts aw P) :
    ∃ r', P.reactor = some r' ∧ r'.now = r.now := by
  obtain ⟨_, r', _, active, tended⟩ := tends
  exact ⟨r', active, tended.still.now⟩

/-- A poll that leaves the reactor alone. -/
theorem Tended.idle {p : Progress σ α} (sound : r.Sound n) (quiet : p.future.timers = [])
    (placed : p.future.Placed n r E)
    (awaits : ∀ id, aw id → id ∈ r.finished ∨ p.future.Awaits r id) :
    Tended n r E ts aw p n r [] where
  toWorked := .refl _ sound
  timers := by
    rw [quiet]
    exact .nil
  placed := placed
  awaits := awaits
  awaitsNew _ mem := absurd mem List.not_mem_nil

theorem Tends.idle {w : σ} {p : Progress σ α} (sound : r.Sound n) (quiet : p.future.timers = [])
    (placed : p.future.Placed n r E)
    (awaits : ∀ id, aw id → id ∈ r.finished ∨ p.future.Awaits r id) :
    Tends n r E ts aw ⟨p, w, some r⟩ :=
  ⟨n, r, [], rfl, .idle sound quiet placed awaits⟩

/-- A poll that ends and had nothing to tend to. -/
theorem Tends.ended {w : σ} (sound : r.Sound n) (o : Except Failure α) :
    Tends n r E ts (fun _ => False) ⟨.ended o, w, some r⟩ :=
  .idle sound rfl trivial fun _ none => none.elim

theorem Tends.ofHost {h : Host σ (Except Failure α)} {w : σ} (sound : r.Sound n) :
    Tends n r E ts (fun _ => False) (.ofHost h w (some r)) :=
  .ended sound _

/-- A poll that ends leaves nothing behind, and what comes next is on its own. -/
theorem Tended.andThen {o : Except Failure α} {new : List (TaskId × Future σ Unit)}
    {P : Polled σ β} (first : Tended n r E ts aw (.ended o) n' r' new)
    (second : Tends n' r' E [] (fun _ => False) P) : Tends n r E ts aw P := by
  obtain ⟨n'', r'', new', active, second⟩ := second
  have none : new = [] := List.eq_nil_iff_forall_not_mem.mpr first.awaitsNew
  subst none
  have timers := first.timers.append second.timers first.later.scopes second.later.scopes
  rw [List.append_nil] at timers
  refine ⟨n'', r'', new', active, {
    toWorked := first.toWorked.trans second.toWorked (fun T old => ?_) fun _ none =>
      absurd none List.not_mem_nil
    timers := timers
    placed := second.placed
    awaits := fun id waited => .inl ((first.awaits id waited).elim (fun done => done) False.elim)
    awaitsNew := second.awaitsNew }⟩
  exact ⟨Nat.lt_of_lt_of_le old.1 first.later.scopes, List.not_mem_nil⟩

/-- A future that waits for nothing more can end. -/
theorem Tended.concluded {p : Progress σ α} {new : List (TaskId × Future σ Unit)}
    (tended : Tended n r E ts aw p n' r' new) (sound : r.Sound n)
    (none : ∀ id, p.future.Awaits r' id → id ∈ r.finished) (o : Except Failure β) :
    Tended n r E ts aw (.ended o) n' r' new where
  toWorked := tended.toWorked
  timers := tended.timers.of_subperm (List.sublist_append_right _ _).subperm
  placed := trivial
  awaits id waited := .inl ((tended.awaits id waited).elim (fun done => done) (none id))
  awaitsNew x mem := tended.unfinished sound mem (none x.1 (tended.awaitsNew x mem))

/-- Contexts that hold no time-out of their own tend to what the future inside them
awaits. -/
theorem Tends.around {K : Future σ α → Future σ β}
    {F : Except Failure α → σ → Option (Reactor σ) → Polled σ β} {P : Polled σ α}
    (tends : Tends n r E ts aw P) (timers : ∀ a, (K a).timers = a.timers)
    (awaits : ∀ a r id, (K a).Awaits r id ↔ a.Awaits r id)
    (placed : ∀ a n' r', n <+: n' → a.Placed n' r' E → (K a).Placed n' r' E)
    (next : ∀ o w n' r', n <+: n' → r'.Sound n' →
      Tends n' r' E [] (fun _ => False) (F o w (some r'))) :
    Tends n r E ts aw (around K F P) := by
  obtain ⟨n', r', new, active, tended⟩ := tends
  obtain ⟨progress, w, _⟩ := P
  obtain rfl := active
  cases progress with
  | ended o => exact tended.andThen (next o w n' r' tended.later.nesting tended.sound)
  | pending a =>
    have handed : HandedOn ts r r' ((K a).timers ++ tasksTimers new) := by
      rw [timers]
      exact tended.timers
    exact ⟨n', r', new, rfl, {
      toWorked := tended.toWorked
      timers := handed
      placed := placed a n' r' tended.later.nesting tended.placed
      awaits := fun id waited => (tended.awaits id waited).imp_right (awaits a r' id).mpr
      awaitsNew := fun x mem => (awaits a r' x.1).mpr (tended.awaitsNew x mem) }⟩

/-! ## What a time-out gathers -/

/-- What a time-out with scope `T` has before it waits: everything that it and its action
awaited, and every new task, is registered with its scope.  The time-outs `rest` run in what
is left of the action. -/
structure Gathered (n : Nesting) (r : Reactor σ) (E : Scopes) (ts : List ScopeId)
    (aw : TaskId → Prop) (T : ScopeId) (rest : List ScopeId) (n' : Nesting) (r' : Reactor σ)
    (new : List (TaskId × Future σ Unit)) : Prop
    extends Worked (Elsewhere r (T :: ts)) n r n' r' new where
  timers : HandedOn ts r r' (rest ++ tasksTimers new)
  covered : r'.Covered T E
  awaits : ∀ id, aw id → id ∈ r.finished ∨ (T, id) ∈ r'.registered
  awaitsNew : ∀ x ∈ new, (T, x.1) ∈ r'.registered

section Timed

variable {T : ScopeId} {A : Scopes} {rest : List ScopeId} {new : List (TaskId × Future σ Unit)}
  {limit : Duration} {deadline : Nat}

/-- The time-outs in the new tasks are others than the one that waits. -/
theorem Gathered.timers_ne (gathered : Gathered n r E ts aw T rest n' r' new)
    (enclosing : Elsewhere r ts T) {S : ScopeId} (mem : S ∈ tasksTimers new) : S ≠ T := by
  rintro rfl
  rcases gathered.timers.mem (List.mem_append_right rest mem) with own | ⟨new, -⟩
  · exact enclosing.2 own
  · exact Nat.not_le_of_lt enclosing.1 new

section Action

variable {p : Progress σ α} (tended : Tended n r (T :: E) ts aw p n' r' new)
  (opened : n[T]? = some A) (inside : E ⊆ A) (covered : r.Covered T E)
  (enclosing : ∀ S ∈ T :: E, Elsewhere r ts S)

include tended

theorem Tended.outside : Worked (Elsewhere r (T :: ts)) n r n' r' new :=
  tended.toWorked.mono fun _ left =>
    left.imp_right fun none own => none (List.mem_cons_of_mem T own)

/-- What is left of the action waits for releases that are registered with the scope. -/
theorem Tended.registered {id : TaskId} (waited : p.future.Awaits r' id) :
    id ∈ r.finished ∨ (T, id) ∈ r'.registered := by
  rw [← tended.still.finished]
  exact (Placed.registered tended.placed waited).imp_right fun all => all T List.mem_cons_self

include opened inside covered enclosing

theorem Tended.stays_covered : r'.Covered T E :=
  tended.later.covered covered opened inside fun S mem => enclosing S (List.mem_cons_of_mem T mem)

/-- After a poll of its action a time-out has gathered what it and the action awaited. -/
theorem Tended.gathered (sound : r.Sound n) :
    Gathered n r E ts (fun id => (T, id) ∈ r.registered ∨ aw id) T p.future.timers n' r' new where
  toWorked := tended.outside
  timers := tended.timers
  covered := tended.stays_covered opened inside covered enclosing
  awaits id waited := by
    rcases waited with here | inner
    · exact .inr (tended.later.kept T id (enclosing T List.mem_cons_self) here)
    · exact (tended.awaits id inner).elim .inl tended.registered
  awaitsNew x mem :=
    (tended.registered (tended.awaitsNew x mem)).resolve_left (tended.unfinished sound mem)

end Action

/-- A time-out whose time is not up runs on around what is left of its action. -/
theorem Tended.timing {a : Future σ α} (tended : Tended n r (T :: E) ts aw (.pending a) n' r' new)
    (opened : n[T]? = some A) (inside : E ⊆ A) (covered : r.Covered T E)
    (enclosing : ∀ S ∈ T :: E, Elsewhere r ts S) :
    Tended n r E (T :: ts) (fun id => (T, id) ∈ r.registered ∨ aw id)
      (.pending (timing T A limit deadline a)) n' r' new where
  toWorked := tended.outside
  timers := tended.timers.cons T
  placed := ⟨tended.placed, Nesting.getElem?_of_prefix tended.later.nesting opened, inside,
    tended.stays_covered opened inside covered enclosing⟩
  awaits id waited := by
    rcases waited with here | inner
    · exact .inr (.inl (tended.later.kept T id (enclosing T List.mem_cons_self) here))
    · exact (tended.awaits id inner).imp_right .inr
  awaitsNew x mem := .inr (tended.awaitsNew x mem)

/-! ## Moving releases to tasks -/

variable [Observer σ]

/-- What taking over the orphans of a future that stood inside `E` comes to. -/
structure Adopted (n : Nesting) (r : Reactor σ) (E : Scopes) (os : List (Orphan σ))
    (r' : Reactor σ) (new : List (TaskId × Future σ Unit)) : Prop
    extends Worked (fun _ => True) n r n r' new where
  scopes : r'.nextScope = r.nextScope
  timers : tasksTimers new = os.flatMap fun o => o.release.timers
  registered : ∀ x ∈ new, ∀ S ∈ E, (S, x.1) ∈ r'.registered

theorem adopted (os : List (Orphan σ)) (w : σ) (sound : r.Sound n)
    (orphans : ∀ o ∈ os, n.Closed o.scopes ∧ E ⊆ o.scopes ∧ o.release.Placed n r []) :
    ∃ new, Adopted n r E os (r.adopt os w).2 new := by
  induction os generalizing r w with
  | nil => exact ⟨[], .refl _ sound, rfl, rfl, fun _ mem => absurd mem List.not_mem_nil⟩
  | cons o os ih =>
    obtain ⟨closed, inside, release⟩ := orphans o List.mem_cons_self
    have first : Worked (fun _ => True) n r n (r.spawn o.scopes o.task) [(r.nextTask, o.task)] :=
      .spawn sound closed release
    obtain ⟨new, rest⟩ := ih (note .bracketCancelled w) first.sound fun o' mem =>
      have ⟨closed, inside, release⟩ := orphans o' (List.mem_cons_of_mem o mem)
      ⟨closed, inside, release.later first.later (fun _ _ => trivial) fun _ _ => trivial⟩
    refine ⟨(r.nextTask, o.task) :: new, first.trans rest.toWorked (fun _ left => left)
      fun _ _ => trivial, rest.scopes, ?_, ?_⟩
    · rw [tasksTimers, List.flatMap_cons, List.flatMap_cons]
      exact congrArg _ rest.timers
    · intro x mem S enclosing
      rcases List.mem_cons.mp mem with rfl | mem
      · refine rest.later.kept S _ trivial (List.mem_append_right _ ?_)
        exact List.mem_map_of_mem (f := fun S => (S, r.nextTask)) (inside enclosing)
      · exact rest.registered x mem S enclosing

/-! ## Waiting for the releases of a scope -/

/-- A time-out that waits for tasks ends when they have finished, and then it leaves
nothing behind. -/
theorem Tended.awaitTasks {tasks : List TaskId} {limit : Duration}
    {outcome : Option (Except Failure α)} {new : List (TaskId × Future σ Unit)} (w : σ)
    (sound : r.Sound n)
    (tended : Tended n r E ts aw (.pending (draining tasks limit outcome)) n' r' new) :
    Tends n r E ts aw (awaitTasks tasks limit outcome w r') := by
  unfold Future.awaitTasks
  split
  · next all =>
    have finished : ∀ id ∈ tasks, id ∈ r.finished := by
      intro id mem
      have done : r'.hasFinished id = true := List.all_eq_true.mp all id mem
      rw [← tended.still.finished]
      exact List.contains_iff_mem.mp done
    have ends : ∀ o : Except Failure α, Tended n r E ts aw (.ended o) n' r' new :=
      tended.concluded sound finished
    cases outcome with
    | some o => exact ⟨n', r', new, rfl, ends o⟩
    | none => exact ⟨n', r', new, rfl, ends _⟩
  · exact ⟨n', r', new, rfl, tended⟩

/-- A time-out that waits for its scope tends to what it awaits. -/
theorem Gathered.drainScope {outcome : Option (Except Failure α)} (w : σ) (sound : r.Sound n)
    (enclosing : Elsewhere r ts T) (apart : T ∉ E)
    (gathered : Gathered n r E ts aw T rest n' r' new) :
    Tends n r E (T :: ts) aw (drainScope T limit outcome w r') := by
  have taken : Worked (fun S => S ≠ T) n' r' n' (r'.takeRegistered T).2 [] :=
    .takeRegistered gathered.sound T
  have worked := gathered.toWorked.trans taken
    (fun S left same => left.2 (same ▸ List.mem_cons_self)) fun S mem =>
      gathered.timers_ne enclosing mem
  rw [List.append_nil] at worked
  have handed : HandedOn ts r r' (tasksTimers new) :=
    gathered.timers.of_subperm (List.sublist_append_right rest _).subperm
  have waiting : Tended n r E (T :: ts) aw
      (.pending (draining (r'.takeRegistered T).1 limit outcome)) n'
      (r'.takeRegistered T).2 new := {
    toWorked := worked
    timers := handed.dropped T
    placed := fun id mem => by
      have here := mem_takeRegistered.mp mem
      refine ⟨(gathered.sound.registered _ here).2, .inr fun S enclosing => ?_⟩
      exact taken.later.kept S id (fun same => apart (same ▸ enclosing))
        (gathered.covered id here S enclosing)
    awaits := fun id waited => (gathered.awaits id waited).imp_right mem_takeRegistered.mpr
    awaitsNew := fun x mem => mem_takeRegistered.mpr (gathered.awaitsNew x mem) }
  unfold Future.drainScope
  split
  · next empty =>
    rw [empty] at waiting
    exact waiting.awaitTasks w sound
  · next some =>
    rw [some] at waiting
    exact waiting.awaitTasks _ sound

/-- A time-out that takes over the orphans of its action gathers their releases as well. -/
theorem Gathered.adopt {os : List (Orphan σ)} (w : σ)
    (gathered : Gathered n r E ts aw T rest n' r' new) (opened : n'[T]? = some A) (inside : E ⊆ A)
    (orphans : ∀ o ∈ os, n'.Closed o.scopes ∧ T :: E ⊆ o.scopes ∧ o.release.Placed n' r' [])
    (own : (os.flatMap fun o => o.release.timers).Sublist rest) :
    ∃ more, Gathered n r E ts aw T [] n' (r'.adopt os w).2 (new ++ more) := by
  obtain ⟨more, adopted⟩ := adopted os w gathered.sound orphans
  have handed : HandedOn ts r (r'.adopt os w).2 (tasksTimers new ++ tasksTimers more) := by
    rw [adopted.timers]
    have sub := List.perm_append_comm.subperm.trans (own.append_right (tasksTimers new)).subperm
    have counted := gathered.timers.of_subperm sub
    rwa [HandedOn, ← adopted.scopes] at counted
  refine ⟨more, {
    toWorked := gathered.toWorked.trans adopted.toWorked (fun _ _ => trivial) fun _ _ => trivial
    timers := by
      rw [List.nil_append, tasksTimers_append]
      exact handed
    covered := adopted.later.covered gathered.covered opened inside fun _ _ => trivial
    awaits := fun id waited =>
      (gathered.awaits id waited).imp_right (adopted.later.kept T id trivial)
    awaitsNew := fun x mem => ?_ }⟩
  rcases List.mem_append.mp mem with first | second
  · exact adopted.later.kept T x.1 trivial (gathered.awaitsNew x first)
  · exact adopted.registered x second T List.mem_cons_self

/-- A time-out with scope `T` tends to what it and its action await. -/
theorem Tends.afterTimed {P : Polled σ α} (tends : Tends n r (T :: E) ts aw P) (sound : r.Sound n)
    (opened : n[T]? = some A) (inside : E ⊆ A) (covered : r.Covered T E) (apart : T ∉ E)
    (enclosing : ∀ S ∈ T :: E, S < r.nextScope ∧ S ∉ ts) :
    Tends n r E (T :: ts) (fun id => (T, id) ∈ r.registered ∨ aw id)
      (afterTimed T A limit deadline P) := by
  obtain ⟨n', r', new, active, tended⟩ := tends
  obtain ⟨progress, w, _⟩ := P
  obtain rfl := active
  have gathered := tended.gathered opened inside covered enclosing sound
  cases progress with
  | ended o => exact gathered.drainScope w sound (enclosing T List.mem_cons_self) apart
  | pending a =>
    simp only [Future.afterTimed]
    split
    · have opened' := Nesting.getElem?_of_prefix tended.later.nesting opened
      obtain ⟨more, gathered⟩ := gathered.adopt w opened' inside (Placed.orphans tended.placed)
        (orphans_timers a)
      exact gathered.drainScope _ sound (enclosing T List.mem_cons_self) apart
    · exact ⟨n', r', new, rfl, tended.timing opened inside covered enclosing⟩

end Timed

end Future

end Resumption
