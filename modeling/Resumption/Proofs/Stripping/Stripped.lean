/-
Stripped — what is left without some scopes.

Scopes are named in the order in which they are opened.  Where `n` of them, from `k` on, are
those of time-outs that stand around all that comes later, a future, a reactor and what a poll
leaves can be looked at without these time-outs: their scopes are taken out of every list, and
the scopes after them have the names that they would have had.

| stripped                | is                                                          |
|-------------------------|-------------------------------------------------------------|
| a scope                 | itself before `k`, none of the `n` ones, less `n` after them |
| a list of scopes        | what is left of its scopes                                  |
| a future                | the same with stripped lists, the closures as they are      |
| a reactor               | what is registered with scopes that are left                |

A future that has not begun names no scope, so closures need not be changed.  Waiting and
dropping do not look at the names of scopes at all.
-/
import Mathlib.Data.List.Basic
import Resumption.Proofs.Future.Fresh
import Resumption.Future.Poll

namespace Resumption

variable {σ : Type} {α β : Type}

/-- The scope is none of the `n` scopes from `k` on. -/
def Apart (k n T : Nat) : Prop :=
  T < k ∨ k + n ≤ T

theorem apart_of_not_inside {k n T : Nat} (outside : k ≤ T → ¬T < k + n) : Apart k n T := by
  unfold Apart
  omega

/-- The name that a scope has without the `n` scopes from `k` on. -/
def renamed (k n T : Nat) : Nat :=
  if T < k then T else T - n

/-- What is left of a scope without the `n` scopes from `k` on. -/
def stripScope (k n T : Nat) : Option Nat :=
  if k ≤ T ∧ T < k + n then none else some (renamed k n T)

/-- What is left of a list of scopes. -/
def Scopes.stripped (k n : Nat) (L : Scopes) : Scopes :=
  L.filterMap (stripScope k n)

variable {k n : Nat}

theorem stripScope_apart {T : Nat} (apart : Apart k n T) :
    stripScope k n T = some (renamed k n T) :=
  if_neg fun inside => by
    unfold Apart at apart
    omega

/-- No other scope comes to have the name of one that is left. -/
theorem stripScope_eq_iff {S T : Nat} (apart : Apart k n T) :
    stripScope k n S = some (renamed k n T) ↔ S = T := by
  constructor
  · intro left
    unfold stripScope at left
    split at left
    · cases left
    · have same := Option.some.inj left
      unfold renamed at same
      unfold Apart at apart
      split at same <;> split at same <;> omega
  · rintro rfl
    exact stripScope_apart apart

namespace Scopes

theorem stripped_cons {T : ScopeId} (apart : Apart k n T) (L : Scopes) :
    stripped k n (T :: L) = renamed k n T :: stripped k n L :=
  List.filterMap_cons_some (stripScope_apart apart)

/-- Nothing is left of scopes that are all taken out. -/
theorem stripped_eq_nil {L : Scopes} (inside : ∀ T ∈ L, k ≤ T ∧ T < k + n) :
    stripped k n L = [] := by
  rw [stripped, List.filterMap_eq_nil_iff]
  intro T mem
  exact if_pos (inside T mem)

end Scopes

namespace Future

/-- The future without these scopes. -/
def stripped (k n : Nat) {α : Type} : Future σ α → Future σ α
  | conclude a f => conclude (a.stripped k n) f
  | bind a f => bind (a.stripped k n) f
  | rescue a f => rescue (a.stripped k n) f
  | bracket acquire use release => bracket (acquire.stripped k n) use release
  | both a b f => both (a.stripped k n) (b.stripped k n) f
  | within limit a => within limit (a.stripped k n)
  | inUse L use release => inUse (Scopes.stripped k n L) (use.stripped k n) release
  | releasing L used release => releasing (Scopes.stripped k n L) used (release.stripped k n)
  | timing T A limit deadline a =>
    timing (renamed k n T) (Scopes.stripped k n A) limit deadline (a.stripped k n)
  | ready o => ready o
  | perform h => perform h
  | suspend f => suspend f
  | sleep ms => sleep ms
  | pause => pause
  | never => never
  | sleeping t => sleeping t
  | paused => paused
  | draining tasks limit outcome => draining tasks limit outcome

/-- A future that has not begun names no scope. -/
theorem Fresh.stripped (k n : Nat) {α : Type} : {a : Future σ α} → a.Fresh → a.stripped k n = a
  | ready _, _ | perform _, _ | suspend _, _ | sleep _, _ | pause, _ | never, _ => rfl
  | conclude a f, fresh => congrArg (conclude · f) (Fresh.stripped k n (a := a) fresh)
  | bind a f, fresh => congrArg (bind · f) (Fresh.stripped k n (a := a) fresh.1)
  | rescue a f, fresh => congrArg (rescue · f) (Fresh.stripped k n (a := a) fresh.1)
  | bracket a use release, fresh =>
    congrArg (bracket · use release) (Fresh.stripped k n (a := a) fresh.1)
  | both a b f, fresh =>
    congrArg₂ (both · · f) (Fresh.stripped k n (a := a) fresh.1)
      (Fresh.stripped k n (a := b) fresh.2)
  | within limit a, fresh => congrArg (within limit) (Fresh.stripped k n (a := a) fresh)

/-! ## Waiting -/

theorem woken_stripped (k n now : Nat) (finished : TaskId → Bool) {α : Type} : (a : Future σ α) →
    (a.stripped k n).woken now finished = a.woken now finished
  | ready _ | perform _ | suspend _ | sleep _ | pause | never | sleeping _ | paused
  | draining .. => rfl
  | conclude a _ => woken_stripped k n now finished a
  | bind a _ => woken_stripped k n now finished a
  | rescue a _ => woken_stripped k n now finished a
  | bracket a _ _ => woken_stripped k n now finished a
  | both a b _ =>
    congrArg₂ (· || ·) (woken_stripped k n now finished a) (woken_stripped k n now finished b)
  | within _ _ => rfl
  | inUse _ a _ => woken_stripped k n now finished a
  | releasing _ _ a => woken_stripped k n now finished a
  | timing _ _ _ deadline a =>
    congrArg (decide (deadline ≤ now) || ·) (woken_stripped k n now finished a)

theorem yielding_stripped (k n : Nat) {α : Type} : (a : Future σ α) →
    (a.stripped k n).yielding = a.yielding
  | ready _ | perform _ | suspend _ | sleep _ | pause | never | sleeping _ | paused
  | draining .. => rfl
  | conclude a _ => yielding_stripped k n a
  | bind a _ => yielding_stripped k n a
  | rescue a _ => yielding_stripped k n a
  | bracket a _ _ => yielding_stripped k n a
  | both a b _ => congrArg₂ (· || ·) (yielding_stripped k n a) (yielding_stripped k n b)
  | within _ _ => rfl
  | inUse _ a _ => yielding_stripped k n a
  | releasing _ _ a => yielding_stripped k n a
  | timing _ _ _ _ a => yielding_stripped k n a

theorem nextDeadline_stripped (k n : Nat) {α : Type} : (a : Future σ α) →
    (a.stripped k n).nextDeadline = a.nextDeadline
  | ready _ | perform _ | suspend _ | sleep _ | pause | never | sleeping _ | paused
  | draining .. => rfl
  | conclude a _ => nextDeadline_stripped k n a
  | bind a _ => nextDeadline_stripped k n a
  | rescue a _ => nextDeadline_stripped k n a
  | bracket a _ _ => nextDeadline_stripped k n a
  | both a b _ => congrArg₂ earlier (nextDeadline_stripped k n a) (nextDeadline_stripped k n b)
  | within _ _ => rfl
  | inUse _ a _ => nextDeadline_stripped k n a
  | releasing _ _ a => nextDeadline_stripped k n a
  | timing _ _ _ deadline a => congrArg (earlier (some deadline)) (nextDeadline_stripped k n a)

/-! ## Dropping -/

/-- The orphan without these scopes. -/
def Orphan.stripped (k n : Nat) (o : Orphan σ) : Orphan σ :=
  ⟨Scopes.stripped k n o.scopes, o.release.stripped k n⟩

theorem Orphan.task_stripped [Observer σ] (k n : Nat) (o : Orphan σ) :
    (o.stripped k n).task = o.task.stripped k n :=
  rfl

theorem orphans_stripped (k n : Nat) {α : Type} : (a : Future σ α) →
    (a.stripped k n).orphans = a.orphans.map (Orphan.stripped k n)
  | ready _ | perform _ | suspend _ | sleep _ | pause | never | sleeping _ | paused
  | draining .. => rfl
  | conclude a _ => orphans_stripped k n a
  | bind a _ => orphans_stripped k n a
  | rescue a _ => orphans_stripped k n a
  | bracket a _ _ => orphans_stripped k n a
  | both a b _ =>
    (congrArg₂ (· ++ ·) (orphans_stripped k n a) (orphans_stripped k n b)).trans
      List.map_append.symm
  | within _ a => orphans_stripped k n a
  | inUse L a release => by
    rw [Future.orphans, List.map_append, ← orphans_stripped k n a]
    rfl
  | releasing _ _ _ => rfl
  | timing _ _ _ _ a => orphans_stripped k n a

end Future

/-! ## Reactors -/

namespace Reactor

/-- What a registration is without these scopes. -/
def stripEntry (k n : Nat) (x : ScopeId × TaskId) : Option (ScopeId × TaskId) :=
  (stripScope k n x.1).map fun T => (T, x.2)

/-- The reactor without these scopes. -/
def stripped (k n : Nat) (r : Reactor σ) : Reactor σ :=
  { r with
    nextScope := max k (r.nextScope - n)
    registered := r.registered.filterMap (stripEntry k n)
    spawned := r.spawned.map fun x => (x.1, x.2.stripped k n) }

/-- The reactor after this many scopes were opened. -/
def opened (n : Nat) (r : Reactor σ) : Reactor σ :=
  { r with nextScope := r.nextScope + n }

/-- Stripping takes away what was opened since, and nothing that was there before. -/
theorem opened_stripped (n j : Nat) (atMost : j ≤ n) {r : Reactor σ}
    (known : ∀ x ∈ r.registered, x.1 < r.nextScope) (spawned : r.spawned = []) :
    (r.opened j).stripped r.nextScope n = r := by
  have scopes : max r.nextScope (r.nextScope + j - n) = r.nextScope :=
    Nat.max_eq_left (by omega)
  have registered : r.registered.filterMap (stripEntry r.nextScope n) = r.registered := by
    refine (List.filterMap_congr fun x mem => ?_).trans List.filterMap_some
    have left : Apart r.nextScope n x.1 := .inl (known x mem)
    rw [stripEntry, stripScope_apart left, renamed, if_pos (known x mem)]
    rfl
  simp only [opened, stripped, scopes, registered, spawned, List.map_nil]
  rw [← spawned]

/-- These scopes were opened, and what is registered was spawned. -/
structure Past (k n : Nat) (r : Reactor σ) : Prop where
  scopes : k + n ≤ r.nextScope
  registered : ∀ x ∈ r.registered, x.2 < r.nextTask

variable {r : Reactor σ}

theorem Past.freshScope (past : r.Past k n) : r.freshScope.2.Past k n where
  scopes := Nat.le_succ_of_le past.scopes
  registered := past.registered

theorem Past.apart (past : r.Past k n) : Apart k n r.nextScope :=
  .inr past.scopes

theorem freshScope_stripped (past : r.Past k n) :
    (r.stripped k n).freshScope = (renamed k n r.freshScope.1, r.freshScope.2.stripped k n) := by
  have names (j : Nat) (later : k + n ≤ j) :
      max k (j - n) = renamed k n j ∧ max k (j + 1 - n) = renamed k n j + 1 := by
    unfold renamed
    split <;> omega
  obtain ⟨here, next⟩ := names r.nextScope past.scopes
  simp only [freshScope, stripped, here, next]

theorem Past.spawn (past : r.Past k n) (L : Scopes) (a : Future σ Unit) :
    (r.spawn L a).Past k n where
  scopes := past.scopes
  registered x mem := by
    rcases List.mem_append.mp mem with old | new
    · exact Nat.lt_succ_of_lt (past.registered x old)
    · obtain ⟨_, -, rfl⟩ := List.mem_map.mp new
      exact Nat.lt_succ_self _

theorem spawn_stripped (k n : Nat) (r : Reactor σ) (L : Scopes) (a : Future σ Unit) :
    (r.stripped k n).spawn (Scopes.stripped k n L) (a.stripped k n) =
      (r.spawn L a).stripped k n := by
  simp only [spawn, stripped, Scopes.stripped, List.filterMap_append, List.map_append,
    List.filterMap_map, List.map_filterMap]
  rfl

theorem Past.takeRegistered (past : r.Past k n) (T : ScopeId) :
    (r.takeRegistered T).2.Past k n where
  scopes := past.scopes
  registered x mem := past.registered x (List.mem_filter.mp mem).1

theorem stripEntry_same {T : Nat} (apart : Apart k n T) (id : TaskId) :
    stripEntry k n (T, id) = some (renamed k n T, id) := by
  rw [stripEntry, stripScope_apart apart, Option.map_some]

/-- Another scope does not come to be named like one that is left. -/
theorem stripEntry_other {S T : Nat} (apart : Apart k n T) (other : S ≠ T) {id : TaskId}
    {y : ScopeId × TaskId} (left : stripEntry k n (S, id) = some y) : y.1 ≠ renamed k n T := by
  obtain ⟨U, name, rfl⟩ := Option.map_eq_some_iff.mp left
  rintro rfl
  exact other ((stripScope_eq_iff apart).mp name)

/-- What is registered with a scope that is left, and what is not. -/
theorem filter_stripEntry {T : Nat} (apart : Apart k n T) (l : List (ScopeId × TaskId)) :
    ((l.filterMap (stripEntry k n)).filter fun x => x.1 == renamed k n T).map Prod.snd =
        (l.filter fun x => x.1 == T).map Prod.snd ∧
      ((l.filterMap (stripEntry k n)).filter fun x => x.1 != renamed k n T) =
        (l.filter fun x => x.1 != T).filterMap (stripEntry k n) := by
  induction l with
  | nil => exact ⟨rfl, rfl⟩
  | cons x l ih =>
    obtain ⟨S, id⟩ := x
    by_cases same : S = T
    · subst same
      rw [List.filterMap_cons_some (stripEntry_same apart id)]
      simp [ih]
    · have other : (S == T) = false := beq_eq_false_iff_ne.mpr same
      cases left : stripEntry k n (S, id) with
      | none => simp [List.filterMap_cons_none left, other, same, ih]
      | some y =>
        have renamed := stripEntry_other apart same left
        simp [List.filterMap_cons_some left, renamed, other, same, ih]

theorem takeRegistered_stripped {T : Nat} (apart : Apart k n T) (r : Reactor σ) :
    (r.stripped k n).takeRegistered (renamed k n T) =
      ((r.takeRegistered T).1, (r.takeRegistered T).2.stripped k n) := by
  obtain ⟨taken, left⟩ := filter_stripEntry apart r.registered
  simp only [takeRegistered, stripped, taken, left]

variable [Observer σ]

theorem Past.adopt (past : r.Past k n) (os : List (Future.Orphan σ)) (w : σ) :
    (r.adopt os w).2.Past k n := by
  induction os generalizing r w with
  | nil => exact past
  | cons o os ih => exact ih (past.spawn o.scopes o.task) _

theorem adopt_stripped (k n : Nat) (r : Reactor σ) (os : List (Future.Orphan σ)) (w : σ) :
    (r.stripped k n).adopt (os.map (Future.Orphan.stripped k n)) w =
      ((r.adopt os w).1, (r.adopt os w).2.stripped k n) := by
  induction os generalizing r w with
  | nil => rfl
  | cons o os ih =>
    rw [List.map_cons, Reactor.adopt, Reactor.adopt, o.task_stripped, ← ih]
    exact congrArg (Reactor.adopt _ _) (spawn_stripped k n r o.scopes o.task)

end Reactor

end Resumption
