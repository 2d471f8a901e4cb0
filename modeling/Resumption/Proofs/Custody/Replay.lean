/-
Replay — every run can be had with a book.

Beside each session stands one that takes the same steps in a world with a book.
Whatever a program does with a future, it can do with its ticketed form, and the
two sessions go on as mirrors of each other: their handles, their tasks and their
reactors differ only in the book.
-/
import Resumption.Proofs.Custody.Mirroring
import Resumption.Proofs.Future.Session
import Resumption.Proofs.Future.Tasks

namespace Resumption

open Future

variable {σ : Type} {α : Type}

/-- Handles of mirrored futures, or handles whose outcome is gone. -/
inductive Handle.MirroredBy : Handle σ α → Handle (Booked σ) α → Prop
  | completed : MirroredBy .completed .completed
  | live {a : Future σ α} {a' : Future (Booked σ) α} : Future.MirroredBy a a' →
      MirroredBy (.live a) (.live a')

theorem Handle.MirroredBy.orphans {h : Handle σ α} {h' : Handle (Booked σ) α}
    (mirrored : h.MirroredBy h') : List.Forall₂ Orphan.MirroredBy h.orphans h'.orphans := by
  cases mirrored with
  | completed => exact .nil
  | live inner => exact inner.orphans

variable [Observer σ] {m : TaskId}

namespace Future

variable {l l₁ l₂ : List (TaskId × Future σ Unit)} {l' : List (TaskId × Future (Booked σ) Unit)}

theorem taskPairs_names (pairs : List.Forall₂ TaskPair l l') :
    l'.map Prod.fst = l.map Prod.fst := by
  induction pairs with
  | nil => rfl
  | cons same _ ih => rw [List.map_cons, List.map_cons, ih, same.1]

theorem taskPairs_split {x : TaskId × Future σ Unit}
    (pairs : List.Forall₂ TaskPair (l₁ ++ x :: l₂) l') :
    ∃ l₁' x' l₂', l' = l₁' ++ x' :: l₂' ∧ List.Forall₂ TaskPair l₁ l₁' ∧ TaskPair x x' ∧
      List.Forall₂ TaskPair l₂ l₂' := by
  induction l₁ generalizing l' with
  | nil =>
    obtain ⟨x', l₂', same, rest, rfl⟩ := List.forall₂_cons_left_iff.mp pairs
    exact ⟨[], x', l₂', rfl, .nil, same, rest⟩
  | cons y l₁ ih =>
    obtain ⟨y', l'', first, rest, rfl⟩ := List.forall₂_cons_left_iff.mp pairs
    obtain ⟨l₁', x', l₂', rfl, before, same, after⟩ := ih rest
    exact ⟨y' :: l₁', x', l₂', rfl, .cons first before, same, after⟩

/-! ## Releases on the spot -/

/-- Run on the spot, a task and its mirror come to the same. -/
theorem TaskMirroredBy.blockOn {a : Future σ Unit} {a' : Future (Booked σ) Unit}
    (task : TaskMirroredBy a a') (polls : Nat) (b : Booked σ) :
    (a'.blockOn polls b).1 = (a.blockOn polls b.world).1 ∧
      (a'.blockOn polls b).2.world = (a.blockOn polls b.world).2 := by
  induction polls generalizing a a' b with
  | zero => exact ⟨rfl, rfl⟩
  | succ polls ih =>
    have alike := task.polls [] b none none .outside
    rw [Future.blockOn, Future.blockOn]
    generalize a.poll [] b.world none = P at alike ⊢
    generalize a'.poll [] b none = P' at alike ⊢
    cases alike with
    | ended o b' _ => exact ⟨rfl, rfl⟩
    | pending b' left _ =>
      simp only [left.yielding]
      split
      · exact ih left b'
      · exact ⟨rfl, rfl⟩

/-- So do the releases of mirrored orphans. -/
theorem releaseHere_mirrored {os : List (Orphan σ)} {os' : List (Orphan (Booked σ))} {polls : Nat}
    (orphans : List.Forall₂ Orphan.MirroredBy os os') (b : Booked σ)
    (done : Session.Completes polls os b.world) :
    Session.Completes polls os' b ∧
      (releaseHere polls os' b).world = releaseHere polls os b.world := by
  induction orphans generalizing b with
  | nil => exact ⟨trivial, rfl⟩
  | @cons o o' _ _ same _ ih =>
    obtain ⟨r, w, first, rest⟩ := done
    have task : TaskMirroredBy o.task o'.task := .task same.2
    have ⟨ended, world⟩ := task.blockOn polls (note .bracketCancelled b)
    generalize ran : o'.task.blockOn polls (note .bracketCancelled b) = x at ended world
    obtain ⟨r', b'⟩ := x
    have noted : (note .bracketCancelled b : Booked σ).world = note .bracketCancelled b.world := rfl
    rw [noted, first] at ended world
    obtain rfl : r' = some r := ended
    obtain rfl : b'.world = w := world
    obtain ⟨done, rest⟩ := ih b' rest
    rw [releaseHere, releaseHere, ran, first]
    exact ⟨⟨r, b', ran, done⟩, rest⟩

end Future

namespace Reactor.MirroredBy

variable {r : Reactor σ} {r' : Reactor (Booked σ)}

theorem numbered (mirrored : r.MirroredBy m r') : r.NumberedFrom m ∧ r'.NumberedFrom m := by
  cases mirrored with
  | mk tasks numbered =>
    refine ⟨numbered, ?_⟩
    obtain ⟨names, next⟩ := numbered
    unfold Reactor.NumberedFrom
    rw [taskPairs_names tasks, ← tasks.length_eq]
    exact ⟨names, next⟩

theorem spawned (mirrored : r.MirroredBy m r') :
    List.Forall₂ TaskPair r.spawned r'.spawned := by
  cases mirrored with
  | mk tasks _ => exact tasks

/-- The spawned tasks are taken over. -/
theorem collected (mirrored : r.MirroredBy m r') : r'.nextTask = r.nextTask ∧
    ({ r with spawned := [] } : Reactor σ).MirroredBy r.nextTask { r' with spawned := [] } := by
  cases mirrored with
  | mk _ _ => exact ⟨rfl, .mk .nil ⟨rfl, rfl⟩⟩

theorem now (mirrored : r.MirroredBy m r') : r'.now = r.now := by
  cases mirrored
  rfl

/-- Time goes on. -/
theorem later (mirrored : r.MirroredBy m r') (now : Nat) :
    ({ r with now := now } : Reactor σ).MirroredBy m { r' with now := now } := by
  cases mirrored with
  | mk tasks numbered => exact .mk tasks numbered

theorem reported (mirrored : r.MirroredBy m r') (id : TaskId) {P : Polled σ Unit}
    {P' : Polled (Booked σ) Unit} {q : Option TaskId}
    (polled : P.MirroredBy q TaskMirroredBy P') :
    (Executor.reported id P.progress r).MirroredBy m (Executor.reported id P'.progress r') := by
  cases polled with
  | pending => exact mirrored
  | ended =>
    cases mirrored with
    | mk tasks numbered => exact .mk tasks numbered

end Reactor.MirroredBy

namespace Session

/-- Sessions whose handles, tasks and reactors differ only in the book. -/
structure Mirrors (m : TaskId) (l : List (TaskId × Future σ Unit))
    (l' : List (TaskId × Future (Booked σ) Unit)) (s : Session σ α) (s' : Session (Booked σ) α) :
    Prop where
  orderly : s.executor.Orderly m l
  orderly' : s'.executor.Orderly m l'
  tasks : List.Forall₂ TaskPair l l'
  handle : s.handle.MirroredBy s'.handle
  world : s'.executor.world.world = s.executor.world
  reactor : s.executor.reactor.MirroredBy m s'.executor.reactor

/-- The second session is the first one with a book. -/
def MirroredBy (s : Session σ α) (s' : Session (Booked σ) α) : Prop :=
  ∃ m l l', Mirrors m l l' s s'

theorem mirrored_start {a : Future σ α} (fresh : a.Fresh) (w : σ) :
    (start a w).MirroredBy (start a.ticketed (.blank w)) :=
  ⟨0, [], [], .start w, .start _, .nil, .live (a.ticketed_mirrored fresh), rfl,
    .mk .nil ⟨rfl, rfl⟩⟩

/-- Where nothing is left to run, nothing is left in the mirror. -/
theorem MirroredBy.quiet {s : Session σ α} {s' : Session (Booked σ) α} (mirrored : s.MirroredBy s')
    (quiet : s.Quiet) : s'.Quiet := by
  obtain ⟨m, l, l', orderly, orderly', tasks, handle, -, reactor⟩ := mirrored
  obtain ⟨completed, jobs, empty⟩ := quiet
  refine ⟨?_, ?_, ?_⟩
  · rw [completed] at handle
    generalize s'.handle = h at handle
    cases handle
    rfl
  · rw [orderly.jobs] at jobs
    obtain rfl := List.map_eq_nil_iff.mp jobs
    obtain rfl := List.forall₂_nil_left_iff.mp tasks
    exact orderly'.jobs
  · have spawned := reactor.spawned
    rw [empty] at spawned
    exact List.forall₂_nil_left_iff.mp spawned

section Steps

variable {l : List (TaskId × Future σ Unit)} {l' : List (TaskId × Future (Booked σ) Unit)}
  {h : Handle σ α} {h' : Handle (Booked σ) α} {ex : Executor σ α} {ex' : Executor (Booked σ) α}

theorem MirroredBy.collect (mirrored : MirroredBy ⟨h, ex⟩ ⟨h', ex'⟩) :
    MirroredBy ⟨h, ex.collect⟩ ⟨h', ex'.collect⟩ := by
  obtain ⟨m, l, l', orderly, orderly', tasks, handle, world, reactor⟩ := mirrored
  obtain ⟨next, collected⟩ := reactor.collected
  have orderly' := orderly'.collect
  rw [next] at orderly'
  exact ⟨_, _, _, orderly.collect, orderly', List.rel_append tasks reactor.spawned, handle, world,
    collected⟩

/-- The tasks stay as they are. -/
theorem Mirrors.update (mirrors : Mirrors m l l' ⟨h, ex⟩ ⟨h', ex'⟩) {k : Handle σ α}
    {k' : Handle (Booked σ) α} {e : Executor σ α} {e' : Executor (Booked σ) α}
    (jobs : e.jobs = ex.jobs) (kept : e.aborted = ex.aborted) (jobs' : e'.jobs = ex'.jobs)
    (kept' : e'.aborted = ex'.aborted) (handle : k.MirroredBy k')
    (world : e'.world.world = e.world) (reactor : e.reactor.MirroredBy m e'.reactor) :
    Mirrors m l l' ⟨k, e⟩ ⟨k', e'⟩ := by
  obtain ⟨orderly, orderly', tasks, -, -, -⟩ := mirrors
  obtain ⟨numbered, numbered'⟩ := reactor.numbered
  refine ⟨?_, ?_, tasks, handle, world, reactor⟩
  · exact ⟨jobs.trans orderly.jobs, orderly.names, orderly.below, numbered,
      kept.trans orderly.kept⟩
  · exact ⟨jobs'.trans orderly'.jobs, orderly'.names, orderly'.below, numbered',
      kept'.trans orderly'.kept⟩

/-- A poll of the handle, on the executor. -/
theorem Mirrors.poll (mirrors : Mirrors m l l' ⟨h, ex⟩ ⟨h', ex'⟩) :
    (polled ⟨h, ex⟩).MirroredBy (polled ⟨h', ex'⟩) := by
  have ⟨_, _, _, handle, world, reactor⟩ := mirrors
  cases handle with
  | completed => exact MirroredBy.collect ⟨_, _, _, mirrors⟩
  | @live a a' inner =>
    have polls := inner.polls [] ex'.world _ _ (.inside reactor)
    rw [polled, polled, Executor.pollHandle_live, Executor.pollHandle_live]
    rw [show ex'.world.world = ex.world from world] at polls
    generalize a.poll [] ex.world (some ex.reactor) = P at polls ⊢
    generalize a'.poll [] ex'.world (some ex'.reactor) = P' at polls ⊢
    cases polls with
    | ended o b here =>
      cases here with
      | inside here =>
        refine MirroredBy.collect ⟨m, l, l', ?_⟩
        exact mirrors.update rfl rfl rfl rfl .completed rfl here
    | pending b left here =>
      cases here with
      | inside here =>
        refine MirroredBy.collect ⟨m, l, l', ?_⟩
        exact mirrors.update rfl rfl rfl rfl (.live left) rfl here

/-- A poll of the handle outside the executor. -/
theorem Mirrors.pollOutside (mirrors : Mirrors m l l' ⟨h, ex⟩ ⟨h', ex'⟩) :
    MirroredBy ⟨(h.poll ex.world none).2.1, { ex with world := (h.poll ex.world none).2.2.1 }⟩
      ⟨(h'.poll ex'.world none).2.1, { ex' with world := (h'.poll ex'.world none).2.2.1 }⟩ := by
  have ⟨_, _, _, handle, world, reactor⟩ := mirrors
  cases handle with
  | completed => exact ⟨m, l, l', mirrors⟩
  | @live a a' inner =>
    have polls := inner.polls [] ex'.world _ _ .outside
    rw [Handle.poll, Handle.poll]
    rw [show ex'.world.world = ex.world from world] at polls
    generalize a.poll [] ex.world none = P at polls ⊢
    generalize a'.poll [] ex'.world none = P' at polls ⊢
    cases polls with
    | ended o b _ => exact ⟨m, l, l', mirrors.update rfl rfl rfl rfl .completed rfl reactor⟩
    | pending b left _ =>
      exact ⟨m, l, l', mirrors.update rfl rfl rfl rfl (.live left) rfl reactor⟩

/-- The turn of a task. -/
theorem Mirrors.turn (mirrors : Mirrors m l l' ⟨h, ex⟩ ⟨h', ex'⟩) (id : TaskId) :
    MirroredBy ⟨h, (ex.turn id).collect⟩ ⟨h', (ex'.turn id).collect⟩ := by
  have ⟨orderly, orderly', tasks, handle, world, reactor⟩ := mirrors
  have names := taskPairs_names tasks
  by_cases mem : id ∈ l.map Prod.fst
  · obtain ⟨l₁, a, l₂, rfl⟩ := Executor.split_of_name mem
    obtain ⟨l₁', ⟨id', a'⟩, l₂', rfl, before, ⟨same, task⟩, after⟩ := taskPairs_split tasks
    obtain rfl : id = id' := same
    have polls := task.polls [] ex'.world _ _ (.inside reactor)
    rw [show ex'.world.world = ex.world from world] at polls
    generalize ran : a.poll [] ex.world (some ex.reactor) = P at polls
    generalize ran' : a'.poll [] ex'.world (some ex'.reactor) = P' at polls
    obtain ⟨r, r', active, active', here⟩ : ∃ r r', P.reactor = some r ∧ P'.reactor = some r' ∧
        r.MirroredBy m r' := by
      cases polls with
      | ended _ _ here | pending _ _ here =>
        cases here with
        | inside here => exact ⟨_, _, rfl, rfl, here⟩
    obtain ⟨numbered, numbered'⟩ := here.numbered
    obtain ⟨turned, world, next⟩ := orderly.turn ran active numbered
    obtain ⟨turned', world', next'⟩ := orderly'.turn ran' active' numbered'
    have left : List.Forall₂ TaskPair (Executor.remaining id P.progress)
        (Executor.remaining id P'.progress) := by
      cases polls with
      | ended => exact .nil
      | pending _ left _ => exact .cons ⟨rfl, left⟩ .nil
    have mirrors : Mirrors m _ _ ⟨h, ex.turn id⟩ ⟨h', ex'.turn id⟩ := {
      orderly := turned
      orderly' := turned'
      tasks := List.rel_append before (List.rel_append left after)
      handle := handle
      world := by
        rw [world, world']
        cases polls <;> rfl
      reactor := by
        rw [next, next']
        exact here.reported id polls }
    exact MirroredBy.collect ⟨_, _, _, mirrors⟩
  · have absent : id ∉ ex.jobs.map Prod.fst := by
      rw [orderly.jobs, Executor.releases_names]
      exact mem
    have absent' : id ∉ ex'.jobs.map Prod.fst := by
      rw [orderly'.jobs, Executor.releases_names, names]
      exact mem
    rw [ex.turn_of_not_mem absent, ex'.turn_of_not_mem absent']
    exact MirroredBy.collect ⟨_, _, _, mirrors⟩

/-- The handle's cancellation on the executor. -/
theorem Mirrors.drop (mirrors : Mirrors m l l' ⟨h, ex⟩ ⟨h', ex'⟩) :
    MirroredBy ⟨.completed, ex.dropHandle h⟩ ⟨.completed, ex'.dropHandle h'⟩ := by
  have ⟨_, _, _, handle, world, reactor⟩ := mirrors
  obtain ⟨dropped, adopted⟩ := reactor.adopt (b := ex'.world) handle.orphans
  rw [show ex'.world.world = ex.world from world] at dropped adopted
  have mirrors : Mirrors m l l' ⟨.completed, ex.discard h.orphans⟩
      ⟨.completed, ex'.discard h'.orphans⟩ :=
    mirrors.update rfl rfl rfl rfl .completed dropped adopted
  exact MirroredBy.collect ⟨_, _, _, mirrors⟩

/-- Its cancellation outside the executor. -/
theorem Mirrors.dropOutside {polls : Nat} (mirrors : Mirrors m l l' ⟨h, ex⟩ ⟨h', ex'⟩)
    (done : Completes polls h.orphans ex.world) : Completes polls h'.orphans ex'.world ∧
      MirroredBy ⟨.completed, { ex with world := h.dropHere polls ex.world }⟩
        ⟨.completed, { ex' with world := h'.dropHere polls ex'.world }⟩ := by
  have ⟨_, _, _, handle, world, reactor⟩ := mirrors
  rw [show ex.world = ex'.world.world from world.symm] at done ⊢
  obtain ⟨done, released⟩ := releaseHere_mirrored handle.orphans ex'.world done
  exact ⟨done, m, l, l', mirrors.update rfl rfl rfl rfl .completed released reactor⟩

end Steps

/-! ## Runs -/

section Runs

variable {others : σ → σ → Prop} {s t : Session σ α} {s' : Session (Booked σ) α}

/-- What others do to the world they can do beside a book. -/
theorem MirroredBy.meanwhile (mirrored : s.MirroredBy s') (step : Meanwhile others s t) :
    ∃ t', Meanwhile Booked.Aside s' t' ∧ t.MirroredBy t' := by
  obtain ⟨m, l, l', mirrors⟩ := mirrored
  obtain ⟨h', ex'⟩ := s'
  cases step with
  | turn h ex id => exact ⟨_, .turn h' ex' id, mirrors.turn id⟩
  | collect h ex => exact ⟨_, .collect h' ex', .collect ⟨m, l, l', mirrors⟩⟩
  | @elsewhere h ex w now queue pausing _ later =>
    have ⟨_, _, _, handle, _, reactor⟩ := mirrors
    have beside : Booked.Aside ex'.world { ex'.world with world := w } := rfl
    have step : Meanwhile Booked.Aside ⟨h', ex'⟩ ⟨h', { ex' with
        world := { ex'.world with world := w }
        reactor := { ex'.reactor with now := now }
        queue := queue
        pausing := pausing }⟩ :=
      .elsewhere h' ex' beside (Nat.le_trans (Nat.le_of_eq reactor.now) later)
    exact ⟨_, step, m, l, l', mirrors.update rfl rfl rfl rfl handle rfl (reactor.later now)⟩

theorem MirroredBy.move (mirrored : s.MirroredBy s') (step : Move others s t) :
    ∃ t', Move Booked.Aside s' t' ∧ t.MirroredBy t' := by
  cases step with
  | poll =>
    obtain ⟨m, l, l', mirrors⟩ := mirrored
    exact ⟨_, .poll s', mirrors.poll⟩
  | meanwhile step =>
    obtain ⟨t', step, mirrored⟩ := mirrored.meanwhile step
    exact ⟨t', .meanwhile step, mirrored⟩

theorem MirroredBy.step (mirrored : s.MirroredBy s') (step : Step others s t) :
    ∃ t', Step Booked.Aside s' t' ∧ t.MirroredBy t' := by
  cases step with
  | move step =>
    obtain ⟨t', step, mirrored⟩ := mirrored.move step
    exact ⟨t', .move step, mirrored⟩
  | pollOutside h ex =>
    obtain ⟨m, l, l', mirrors⟩ := mirrored
    exact ⟨_, .pollOutside s'.handle s'.executor, mirrors.pollOutside⟩
  | drop h ex =>
    obtain ⟨m, l, l', mirrors⟩ := mirrored
    exact ⟨_, .drop s'.handle s'.executor, mirrors.drop⟩
  | dropOutside h ex done =>
    obtain ⟨m, l, l', mirrors⟩ := mirrored
    obtain ⟨done, mirrored⟩ := mirrors.dropOutside done
    exact ⟨_, .dropOutside s'.handle s'.executor done, mirrored⟩

/-- Every run of a future is mirrored by a run of its ticketed form. -/
theorem mirrored_of_steps {a : Future σ α} (fresh : a.Fresh) {w : σ}
    (run : Steps others (start a w) s) :
    ∃ t, Steps Booked.Aside (start a.ticketed (.blank w)) t ∧ s.MirroredBy t := by
  induction run with
  | refl => exact ⟨_, .refl, mirrored_start fresh w⟩
  | tail _ step ih =>
    obtain ⟨t, run, mirrored⟩ := ih
    obtain ⟨t', step, mirrored⟩ := mirrored.step step
    exact ⟨t', run.tail step, mirrored⟩

/-- If the handle is kept on the executor, so it is in the mirror. -/
theorem mirrored_of_moves {a : Future σ α} (fresh : a.Fresh) {w : σ}
    (run : Moves others (start a w) s) :
    ∃ t, Moves Booked.Aside (start a.ticketed (.blank w)) t ∧ s.MirroredBy t := by
  induction run with
  | refl => exact ⟨_, .refl, mirrored_start fresh w⟩
  | tail _ step ih =>
    obtain ⟨t, run, mirrored⟩ := ih
    obtain ⟨t', step, mirrored⟩ := mirrored.move step
    exact ⟨t', run.tail step, mirrored⟩

end Runs

end Session

end Resumption
