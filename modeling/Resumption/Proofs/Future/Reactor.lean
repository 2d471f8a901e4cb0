/-
Reactor — how the spawned tasks are numbered.

Between two moments at which the executor takes over what was spawned, the
reactor numbers new tasks one after the other.
-/
import Resumption.Future.Reactor

namespace Resumption

namespace Reactor

variable {σ : Type}

/-- The tasks that wait to be taken over are numbered from `m` to the next number. -/
def NumberedFrom (m : TaskId) (r : Reactor σ) : Prop :=
  r.spawned.map Prod.fst = List.range' m r.spawned.length ∧ r.nextTask = m + r.spawned.length

theorem NumberedFrom.spawn {m : TaskId} {r : Reactor σ} (numbered : r.NumberedFrom m)
    (scopes : Scopes) (a : Future σ Unit) : (r.spawn scopes a).NumberedFrom m := by
  obtain ⟨ids, next⟩ := numbered
  unfold NumberedFrom Reactor.spawn
  rw [List.map_append, List.length_append, List.length_singleton, List.range'_1_concat, ids, next]
  exact ⟨rfl, by rw [Nat.add_assoc]⟩

/-- Every task that waits has a number from `m` on and below the next one. -/
theorem NumberedFrom.mem {m : TaskId} {r : Reactor σ} (numbered : r.NumberedFrom m) {id : TaskId}
    (mem : id ∈ r.spawned.map Prod.fst) : m ≤ id ∧ id < r.nextTask := by
  obtain ⟨ids, next⟩ := numbered
  rw [ids, List.mem_range'_1, ← next] at mem
  exact mem

theorem NumberedFrom.nodup {m : TaskId} {r : Reactor σ} (numbered : r.NumberedFrom m) :
    (r.spawned.map Prod.fst).Nodup := by
  rw [numbered.1]
  exact List.nodup_range'

/-! ## New tasks -/

/-- These tasks were spawned in between. -/
structure Spawns (r : Reactor σ) (new : List (TaskId × Future σ Unit)) (r' : Reactor σ) : Prop where
  spawned : r'.spawned = r.spawned ++ new
  names : new.map Prod.fst = List.range' r.nextTask new.length
  next : r'.nextTask = r.nextTask + new.length

namespace Spawns

variable {r r₁ r₂ : Reactor σ} {new new' : List (TaskId × Future σ Unit)}

theorem nil (spawned : r₁.spawned = r.spawned) (next : r₁.nextTask = r.nextTask) :
    r.Spawns [] r₁ where
  spawned := by rw [spawned, List.append_nil]
  names := rfl
  next := next

theorem trans (first : r.Spawns new r₁) (second : r₁.Spawns new' r₂) :
    r.Spawns (new ++ new') r₂ where
  spawned := by rw [second.spawned, first.spawned, List.append_assoc]
  names := by
    rw [List.map_append, List.length_append, first.names, second.names, first.next,
      ← List.range'_append_1]
  next := by rw [second.next, first.next, List.length_append, Nat.add_assoc]

theorem spawn (r : Reactor σ) (scopes : Scopes) (a : Future σ Unit) :
    r.Spawns [(r.nextTask, a)] (r.spawn scopes a) :=
  ⟨rfl, rfl, rfl⟩

theorem numbered (spawns : r.Spawns new r₁) {m : TaskId} (numbered : r.NumberedFrom m) :
    r₁.NumberedFrom m := by
  obtain ⟨ids, next⟩ := numbered
  rw [NumberedFrom, spawns.spawned, List.map_append, List.length_append, ids, spawns.names,
    spawns.next, next, List.range'_append_1]
  exact ⟨rfl, Nat.add_assoc _ _ _⟩

/-- A number that was given to a task is that of an old one or of a new one. -/
theorem named (spawns : r.Spawns new r₁) {id : TaskId} (given : id < r₁.nextTask) :
    id < r.nextTask ∨ id ∈ new.map Prod.fst := by
  rw [spawns.names, List.mem_range'_1, ← spawns.next]
  exact (Nat.lt_or_ge id r.nextTask).imp_right fun new => ⟨new, given⟩

/-- New tasks have new names. -/
theorem mem (spawns : r.Spawns new r₁) {x : TaskId × Future σ Unit} (mem : x ∈ new) :
    r.nextTask ≤ x.1 ∧ x.1 < r₁.nextTask := by
  have named : x.1 ∈ new.map Prod.fst := List.mem_map_of_mem mem
  rw [spawns.names, List.mem_range'_1, ← spawns.next] at named
  exact named

end Spawns

end Reactor

end Resumption
