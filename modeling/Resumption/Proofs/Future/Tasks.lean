/-
Tasks — the releases that an executor runs.

The tasks of an executor that was given no futures of its own are releases of
dropped brackets.  Each has a name of its own, and its turn is a poll: a release
that has ended is reported as finished, and one that has not is put back.
-/
import Mathlib.Data.List.Nodup
import Resumption.Future.Executor
import Resumption.Proofs.Future.Reactor

namespace Resumption

variable {σ : Type} {α : Type}

namespace Executor

/-- Tasks that run releases. -/
def releases (l : List (TaskId × Future σ Unit)) : List (TaskId × Job σ α) :=
  l.map fun (id, a) => (id, .release a)

theorem releases_names (l : List (TaskId × Future σ Unit)) :
    (releases (α := α) l).map Prod.fst = l.map Prod.fst := by
  rw [releases, List.map_map]
  rfl

theorem releases_append (l₁ l₂ : List (TaskId × Future σ Unit)) :
    releases (α := α) (l₁ ++ l₂) = releases l₁ ++ releases l₂ :=
  List.map_append

theorem releases_split (l₁ l₂ : List (TaskId × Future σ Unit)) (id : TaskId) (a : Future σ Unit) :
    releases (α := α) (l₁ ++ (id, a) :: l₂) = releases l₁ ++ (id, .release a) :: releases l₂ :=
  releases_append l₁ _

/-- A task with a name stands somewhere. -/
theorem split_of_name {l : List (TaskId × Future σ Unit)} {id : TaskId}
    (mem : id ∈ l.map Prod.fst) : ∃ l₁ a l₂, l = l₁ ++ (id, a) :: l₂ := by
  obtain ⟨⟨_, a⟩, here, rfl⟩ := List.mem_map.mp mem
  obtain ⟨l₁, l₂, split⟩ := List.append_of_mem here
  exact ⟨l₁, a, l₂, split⟩

/-- What is left of a task after a poll. -/
def remaining (id : TaskId) : Future.Progress σ Unit → List (TaskId × Future σ Unit)
  | .ended _ => []
  | .pending a => [(id, a)]

theorem mem_remaining {id : TaskId} {p : Future.Progress σ Unit} {x : TaskId × Future σ Unit}
    (mem : x ∈ remaining id p) : ∃ a, p = .pending a ∧ x = (id, a) := by
  cases p with
  | ended _ => cases mem
  | pending a => exact ⟨a, rfl, List.mem_singleton.mp mem⟩

/-- The reactor after a poll of a task. -/
def reported (id : TaskId) : Future.Progress σ Unit → Reactor σ → Reactor σ
  | .ended _, r => { r with finished := id :: r.finished }
  | .pending _, r => r

section Split

variable {β : Type 1} {id : TaskId} {x : β} {l₁ l₂ : List (TaskId × β)}

/-- The names of the others are different. -/
theorem ne_of_split (nodup : ((l₁ ++ (id, x) :: l₂).map Prod.fst).Nodup) :
    ∀ y ∈ l₁ ++ l₂, y.1 ≠ id := by
  rw [List.map_append, List.map_cons, List.nodup_middle, ← List.map_append,
    List.nodup_cons] at nodup
  intro y mem same
  have named : y.1 ∈ (l₁ ++ l₂).map Prod.fst := List.mem_map_of_mem mem
  rw [same] at named
  exact nodup.1 named

theorem lookup_split (nodup : ((l₁ ++ (id, x) :: l₂).map Prod.fst).Nodup) :
    (l₁ ++ (id, x) :: l₂).lookup id = some x := by
  rw [List.lookup_eq_some_iff]
  refine ⟨l₁, l₂, rfl, fun y mem => ?_⟩
  rw [bne_iff_ne]
  exact (ne_of_split nodup y (List.mem_append_left _ mem)).symm

theorem filter_split (nodup : ((l₁ ++ (id, x) :: l₂).map Prod.fst).Nodup) :
    ((l₁ ++ (id, x) :: l₂).filter fun y => y.1 != id) = l₁ ++ l₂ := by
  have others : ∀ y ∈ l₁ ++ l₂, (y.1 != id) = true := fun y mem =>
    bne_iff_ne.mpr (ne_of_split nodup y mem)
  rw [List.filter_append, List.filter_cons_of_neg (by simp), ← List.filter_append,
    List.filter_eq_self.mpr others]

theorem map_split (nodup : ((l₁ ++ (id, x) :: l₂).map Prod.fst).Nodup) (x' : β) :
    ((l₁ ++ (id, x) :: l₂).map fun y => if y.1 == id then (id, x') else y) =
      l₁ ++ (id, x') :: l₂ := by
  have same : ∀ l : List (TaskId × β), (∀ y ∈ l, y.1 ≠ id) →
      (l.map fun y => if y.1 == id then (id, x') else y) = l := by
    intro l others
    refine (List.map_congr_left fun y mem => ?_).trans (List.map_id _)
    rw [if_neg (by simpa using others y mem), id_eq]
  have others := ne_of_split nodup
  rw [List.map_append, List.map_cons, same l₁ fun y mem => others y (List.mem_append_left _ mem),
    same l₂ fun y mem => others y (List.mem_append_right _ mem), if_pos (beq_self_eq_true id)]

end Split

/-- The tasks of an executor are these releases, under names of their own.  Those that
were spawned but not taken over are numbered from `m` on. -/
structure Orderly (m : TaskId) (l : List (TaskId × Future σ Unit)) (ex : Executor σ α) : Prop where
  jobs : ex.jobs = releases l
  names : (l.map Prod.fst).Nodup
  below : ∀ id ∈ l.map Prod.fst, id < m
  numbered : ex.reactor.NumberedFrom m
  kept : ex.aborted = []

namespace Orderly

variable {m : TaskId} {l : List (TaskId × Future σ Unit)} {ex : Executor σ α}

/-- The spawned tasks are taken over. -/
theorem collect (orderly : Orderly m l ex) :
    Orderly ex.reactor.nextTask (l ++ ex.reactor.spawned) ex.collect where
  jobs := by
    show ex.jobs ++ releases ex.reactor.spawned = _
    rw [orderly.jobs, releases_append]
  names := by
    rw [List.map_append]
    refine List.nodup_append.mpr ⟨orderly.names, orderly.numbered.nodup, ?_⟩
    intro id old id' new
    exact Nat.ne_of_lt (Nat.lt_of_lt_of_le (orderly.below id old) (orderly.numbered.mem new).1)
  below := by
    intro id mem
    rw [List.map_append, List.mem_append] at mem
    rcases mem with old | new
    · rw [orderly.numbered.2]
      exact Nat.lt_add_right _ (orderly.below id old)
    · exact (orderly.numbered.mem new).2
  numbered := ⟨rfl, rfl⟩
  kept := orderly.kept

theorem remaining_names (id : TaskId) (progress : Future.Progress σ Unit) (a : Future σ Unit)
    (l₁ l₂ : List (TaskId × Future σ Unit)) :
    ((l₁ ++ (remaining id progress ++ l₂)).map Prod.fst).Sublist
      ((l₁ ++ (id, a) :: l₂).map Prod.fst) := by
  simp only [List.map_append, List.map_cons]
  refine List.Sublist.append_left ?_ _
  cases progress with
  | ended _ => exact List.sublist_cons_self _ _
  | pending _ => exact List.Sublist.refl _

variable [Observer σ]

theorem start (w : σ) : (Executor.start w : Executor σ α).Orderly 0 [] where
  jobs := rfl
  names := List.nodup_nil
  below := by simp
  numbered := ⟨rfl, rfl⟩
  kept := rfl

/-- The turn of a task polls its release and puts back what is left of it. -/
theorem turn {id : TaskId} {a : Future σ Unit} {l₁ l₂ : List (TaskId × Future σ Unit)}
    {p : Future.Polled σ Unit} {r : Reactor σ} (orderly : Orderly m (l₁ ++ (id, a) :: l₂) ex)
    (polled : a.poll [] ex.world (some ex.reactor) = p) (active : p.reactor = some r)
    (numbered : r.NumberedFrom m) :
    Orderly m (l₁ ++ (remaining id p.progress ++ l₂)) (ex.turn id) ∧
      (ex.turn id).world = p.world ∧ (ex.turn id).reactor = reported id p.progress r := by
  obtain ⟨w, r₀, jobs, queue, pausing, aborted, ended⟩ := ex
  obtain ⟨jobs, names, below, -, kept⟩ := orderly
  obtain rfl : _ = _ := jobs.trans (releases_split l₁ l₂ id a)
  obtain rfl : _ = _ := kept
  have nodup :
      ((releases l₁ ++ (id, (.release a : Job σ α)) :: releases l₂).map Prod.fst).Nodup := by
    rw [← releases_split, releases_names]
    exact names
  have fewer := remaining_names id p.progress a l₁ l₂
  have names' := names.sublist fewer
  have below' := fun id mem => below id (fewer.subset mem)
  rw [Executor.turn, lookup_split nodup]
  obtain ⟨progress, w', r'⟩ := p
  obtain rfl : r' = _ := active
  cases progress with
  | ended o =>
    simp only [Job.poll, polled, close, filter_split nodup]
    simp only [← releases_append]
    exact ⟨⟨rfl, names', below', numbered, rfl⟩, rfl, rfl⟩
  | pending a' =>
    simp only [Job.poll, polled, keep, map_split nodup]
    simp only [← releases_split]
    exact ⟨⟨rfl, names', below', numbered, rfl⟩, rfl, rfl⟩

end Orderly

variable [Observer σ]

/-- Without a task there is no turn. -/
theorem turn_of_not_mem (ex : Executor σ α) {id : TaskId} (absent : id ∉ ex.jobs.map Prod.fst) :
    ex.turn id = ex := by
  have missing : ex.jobs.lookup id = none := by
    rw [List.lookup_eq_none_iff]
    intro x mem
    simp only [bne_iff_ne]
    rintro rfl
    exact absent (List.mem_map_of_mem mem)
  rw [turn, missing]

end Executor

end Resumption
