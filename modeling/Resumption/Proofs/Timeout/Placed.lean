/-
Placed — a future inside the scopes of time-outs.

A future that is under way holds time-outs that run, each with a scope of its
own, and waits for releases: for those registered with these scopes, and for the
tasks of a time-out that is over.  `Placed n r E a` says that `a` stands inside
the scopes `E`, that its brackets were opened there, and that whatever it waits
for is registered with all of them.

| in the future        | is placed in `E` if                                        |
|----------------------|------------------------------------------------------------|
| `timing T A _ _ a`   | `T` was opened in `A`, `A` has all of `E`, and `a` is in `T :: E` |
| `draining tasks _ _` | each task was spawned, and is finished or registered with `E` |
| `inUse L a _`        | `L` is closed and has all of `E`                            |
| `releasing L _ a`    | `L` is closed and has all of `E`                            |
-/
import Resumption.Proofs.Future.Fresh
import Resumption.Proofs.Timeout.Nesting

namespace Resumption

namespace Future

variable {σ : Type} {α : Type}

/-- The scopes of the time-outs that run in the future. -/
def timers {α : Type} : Future σ α → List ScopeId
  | conclude a _ => a.timers
  | bind a _ => a.timers
  | rescue a _ => a.timers
  | bracket acquire _ _ => acquire.timers
  | both a b _ => a.timers ++ b.timers
  | within _ a => a.timers
  | timing T _ _ _ a => T :: a.timers
  | inUse _ use _ => use.timers
  | releasing _ _ release => release.timers
  | ready _ | perform _ | suspend _ | sleep _ | pause | never | sleeping _ | paused
  | draining .. => []

/-- The future waits for the release that this task runs. -/
def Awaits (r : Reactor σ) (id : TaskId) {α : Type} : Future σ α → Prop
  | conclude a _ => a.Awaits r id
  | bind a _ => a.Awaits r id
  | rescue a _ => a.Awaits r id
  | bracket acquire _ _ => acquire.Awaits r id
  | both a b _ => a.Awaits r id ∨ b.Awaits r id
  | within _ a => a.Awaits r id
  | timing T _ _ _ a => (T, id) ∈ r.registered ∨ a.Awaits r id
  | inUse _ use _ => use.Awaits r id
  | releasing _ _ release => release.Awaits r id
  | draining tasks _ _ => id ∈ tasks
  | ready _ | perform _ | suspend _ | sleep _ | pause | never | sleeping _ | paused => False

/-- The future stands inside the scopes `E`. -/
def Placed (n : Nesting) (r : Reactor σ) (E : Scopes) {α : Type} : Future σ α → Prop
  | ready _ | perform _ | sleep _ | pause | never | sleeping _ | paused => True
  | suspend s => ∀ w, (s w).Fresh
  | conclude a _ => a.Placed n r E
  | bind a k => a.Placed n r E ∧ ∀ x w, (k x w).Fresh
  | rescue a k => a.Placed n r E ∧ ∀ e w, (k e w).Fresh
  | bracket acquire use release =>
    acquire.Placed n r E ∧ (∀ x w, (use x w).Fresh) ∧ ∀ x o w, (release x o w).Fresh
  | both a b _ => a.Placed n r E ∧ b.Placed n r E
  | within _ a => a.Fresh
  | inUse L use release =>
    use.Placed n r E ∧ (∀ o w, (release o w).Fresh) ∧ n.Closed L ∧ E ⊆ L
  | releasing L _ release => release.Placed n r E ∧ n.Closed L ∧ E ⊆ L
  | timing T A _ _ a =>
    a.Placed n r (T :: E) ∧ n[T]? = some A ∧ E ⊆ A ∧ r.Covered T E
  | draining tasks _ _ => ∀ id ∈ tasks, id < r.nextTask ∧
    (id ∈ r.finished ∨ ∀ S ∈ E, (S, id) ∈ r.registered)

/-! ## Futures that have not begun -/

theorem Fresh.timers {α : Type} : {a : Future σ α} → a.Fresh → a.timers = []
  | ready _, _ | perform _, _ | suspend _, _ | sleep _, _ | pause, _ | never, _ => rfl
  | conclude a _, fresh => Fresh.timers (a := a) fresh
  | bind a _, fresh => Fresh.timers (a := a) fresh.1
  | rescue a _, fresh => Fresh.timers (a := a) fresh.1
  | bracket a _ _, fresh => Fresh.timers (a := a) fresh.1
  | both a b _, fresh => by
    have left := Fresh.timers (a := a) fresh.1
    have right := Fresh.timers (a := b) fresh.2
    rw [Future.timers, left, right]
    rfl
  | within _ a, fresh => Fresh.timers (a := a) fresh

theorem Fresh.placed (n : Nesting) (r : Reactor σ) (E : Scopes) {α : Type} :
    {a : Future σ α} → a.Fresh → a.Placed n r E
  | ready _, _ | perform _, _ | sleep _, _ | pause, _ | never, _ => trivial
  | suspend _, fresh => fresh
  | conclude a _, fresh => Fresh.placed n r E (a := a) fresh
  | bind a _, fresh => ⟨Fresh.placed n r E (a := a) fresh.1, fresh.2⟩
  | rescue a _, fresh => ⟨Fresh.placed n r E (a := a) fresh.1, fresh.2⟩
  | bracket a _ _, fresh => ⟨Fresh.placed n r E (a := a) fresh.1, fresh.2⟩
  | both a b _, fresh =>
    ⟨Fresh.placed n r E (a := a) fresh.1, Fresh.placed n r E (a := b) fresh.2⟩
  | within _ _, fresh => fresh

theorem Fresh.not_awaits {r : Reactor σ} {id : TaskId} {α : Type} :
    {a : Future σ α} → a.Fresh → ¬ a.Awaits r id
  | ready _, _ | perform _, _ | suspend _, _ | sleep _, _ | pause, _ | never, _ =>
    fun awaits => awaits
  | conclude a _, fresh => Fresh.not_awaits (a := a) fresh
  | bind a _, fresh => Fresh.not_awaits (a := a) fresh.1
  | rescue a _, fresh => Fresh.not_awaits (a := a) fresh.1
  | bracket a _ _, fresh => Fresh.not_awaits (a := a) fresh.1
  | both a b _, fresh =>
    fun awaits =>
      awaits.elim (Fresh.not_awaits (a := a) fresh.1) (Fresh.not_awaits (a := b) fresh.2)
  | within _ a, fresh => Fresh.not_awaits (a := a) fresh

/-! ## What a future waits for is registered with all scopes around it -/

theorem Placed.timers_lt {n : Nesting} {r : Reactor σ} {T : ScopeId} {α : Type} :
    {a : Future σ α} → {E : Scopes} → a.Placed n r E → T ∈ a.timers → T < n.length
  | conclude a _, _, placed, mem => Placed.timers_lt (a := a) placed mem
  | bind a _, _, placed, mem => Placed.timers_lt (a := a) placed.1 mem
  | rescue a _, _, placed, mem => Placed.timers_lt (a := a) placed.1 mem
  | bracket a _ _, _, placed, mem => Placed.timers_lt (a := a) placed.1 mem
  | both a b _, _, placed, mem =>
    (List.mem_append.mp mem).elim (Placed.timers_lt (a := a) placed.1)
      (Placed.timers_lt (a := b) placed.2)
  | within _ a, E, placed, mem => Placed.timers_lt (a := a) (Fresh.placed n r E placed) mem
  | inUse _ a _, _, placed, mem => Placed.timers_lt (a := a) placed.1 mem
  | releasing _ _ a, _, placed, mem => Placed.timers_lt (a := a) placed.1 mem
  | timing S _ _ _ a, _, placed, mem => by
    rcases List.mem_cons.mp mem with rfl | inner
    · exact (List.getElem?_eq_some_iff.mp placed.2.1).1
    · exact Placed.timers_lt (a := a) placed.1 inner

theorem Placed.registered {n : Nesting} {r : Reactor σ} {id : TaskId} {α : Type} :
    {a : Future σ α} → {E : Scopes} → a.Placed n r E → a.Awaits r id →
      id ∈ r.finished ∨ ∀ S ∈ E, (S, id) ∈ r.registered
  | conclude a _, _, placed, awaits => Placed.registered (a := a) placed awaits
  | bind a _, _, placed, awaits => Placed.registered (a := a) placed.1 awaits
  | rescue a _, _, placed, awaits => Placed.registered (a := a) placed.1 awaits
  | bracket a _ _, _, placed, awaits => Placed.registered (a := a) placed.1 awaits
  | both a b _, _, placed, awaits =>
    awaits.elim (Placed.registered (a := a) placed.1) (Placed.registered (a := b) placed.2)
  | within _ a, _, placed, awaits => absurd awaits (Fresh.not_awaits (a := a) placed)
  | inUse _ a _, _, placed, awaits => Placed.registered (a := a) placed.1 awaits
  | releasing _ _ a, _, placed, awaits => Placed.registered (a := a) placed.1 awaits
  | timing T _ _ _ a, E, placed, awaits => by
    obtain ⟨inner, -, -, covered⟩ := placed
    rcases awaits with own | inside
    · exact .inr (covered id own)
    · refine (Placed.registered (a := a) inner inside).imp_right fun all S mem => ?_
      exact all S (List.mem_cons_of_mem T mem)
  | draining _ _ _, _, placed, awaits => (placed id awaits).2

/-! ## What happens elsewhere -/

section Later

open Reactor

variable {X : ScopeId → Prop} {n n' : Nesting} {r r' : Reactor σ}

/-- What leaves the scopes of a future and those around it alone leaves it placed. -/
theorem Placed.later (later : Later X n r n' r') {α : Type} :
    {a : Future σ α} → {E : Scopes} → a.Placed n r E → (∀ T ∈ a.timers, X T) →
      (∀ S ∈ E, X S) → a.Placed n' r' E
  | ready _, _, _, _, _ | perform _, _, _, _, _ | sleep _, _, _, _, _ | pause, _, _, _, _
  | never, _, _, _, _ | sleeping _, _, _, _, _ | paused, _, _, _, _ => trivial
  | suspend _, _, fresh, _, _ => fresh
  | conclude a _, _, placed, own, out => Placed.later later (a := a) placed own out
  | bind a _, _, placed, own, out => ⟨Placed.later later (a := a) placed.1 own out, placed.2⟩
  | rescue a _, _, placed, own, out => ⟨Placed.later later (a := a) placed.1 own out, placed.2⟩
  | bracket a _ _, _, placed, own, out => ⟨Placed.later later (a := a) placed.1 own out, placed.2⟩
  | both a b _, _, placed, own, out =>
    ⟨Placed.later later (a := a) placed.1 (fun T mem => own T (List.mem_append_left _ mem)) out,
      Placed.later later (a := b) placed.2 (fun T mem => own T (List.mem_append_right _ mem)) out⟩
  | within _ _, _, fresh, _, _ => fresh
  | inUse _ a _, _, placed, own, out => by
    obtain ⟨inner, fresh, closed, inside⟩ := placed
    exact ⟨Placed.later later (a := a) inner own out, fresh, closed.mono later.nesting, inside⟩
  | releasing _ _ a, _, placed, own, out => by
    obtain ⟨inner, closed, inside⟩ := placed
    exact ⟨Placed.later later (a := a) inner own out, closed.mono later.nesting, inside⟩
  | timing T _ _ _ a, E, placed, own, out => by
    obtain ⟨inner, opened, inside, covered⟩ := placed
    have around : ∀ S ∈ T :: E, X S := by
      intro S mem
      rcases List.mem_cons.mp mem with rfl | mem
      · exact own S List.mem_cons_self
      · exact out S mem
    have inner := Placed.later later (a := a) inner
      (fun S mem => own S (List.mem_cons_of_mem T mem)) around
    exact ⟨inner, Nesting.getElem?_of_prefix later.nesting opened, inside,
      later.covered covered opened inside out⟩
  | draining _ _ _, _, placed, _, out => by
    intro id mem
    obtain ⟨old, found⟩ := placed id mem
    exact ⟨Nat.lt_of_lt_of_le old later.tasks, found.imp (later.finished ·) fun all S enclosing =>
      later.kept S id (out S enclosing) (all S enclosing)⟩

/-- What leaves the scopes of a future alone leaves it waiting for what it waits for. -/
theorem Awaits.later (later : Later X n r n' r') {id : TaskId} {α : Type} :
    {a : Future σ α} → a.Awaits r id → (∀ T ∈ a.timers, X T) → a.Awaits r' id
  | conclude a _, awaits, own => Awaits.later later (a := a) awaits own
  | bind a _, awaits, own => Awaits.later later (a := a) awaits own
  | rescue a _, awaits, own => Awaits.later later (a := a) awaits own
  | bracket a _ _, awaits, own => Awaits.later later (a := a) awaits own
  | both a b _, awaits, own =>
    awaits.imp
      (fun left => Awaits.later later (a := a) left fun T mem => own T (List.mem_append_left _ mem))
      fun right =>
        Awaits.later later (a := b) right fun T mem => own T (List.mem_append_right _ mem)
  | within _ a, awaits, own => Awaits.later later (a := a) awaits own
  | inUse _ a _, awaits, own => Awaits.later later (a := a) awaits own
  | releasing _ _ a, awaits, own => Awaits.later later (a := a) awaits own
  | timing T _ _ _ a, awaits, own =>
    awaits.imp (later.kept T id (own T List.mem_cons_self)) fun inside =>
      Awaits.later later (a := a) inside fun S mem => own S (List.mem_cons_of_mem T mem)
  | draining _ _ _, awaits, _ => awaits

end Later

/-! ## What is left when the future is dropped -/

theorem Placed.sub {n : Nesting} {r : Reactor σ} {α : Type} :
    {a : Future σ α} → {E E' : Scopes} → a.Placed n r E → E' ⊆ E → a.Placed n r E'
  | ready _, _, _, _, _ | perform _, _, _, _, _ | sleep _, _, _, _, _ | pause, _, _, _, _
  | never, _, _, _, _ | sleeping _, _, _, _, _ | paused, _, _, _, _ => trivial
  | suspend _, _, _, fresh, _ => fresh
  | conclude a _, _, _, placed, sub => Placed.sub (a := a) placed sub
  | bind a _, _, _, placed, sub => ⟨Placed.sub (a := a) placed.1 sub, placed.2⟩
  | rescue a _, _, _, placed, sub => ⟨Placed.sub (a := a) placed.1 sub, placed.2⟩
  | bracket a _ _, _, _, placed, sub => ⟨Placed.sub (a := a) placed.1 sub, placed.2⟩
  | both a b _, _, _, placed, sub =>
    ⟨Placed.sub (a := a) placed.1 sub, Placed.sub (a := b) placed.2 sub⟩
  | within _ _, _, _, fresh, _ => fresh
  | inUse _ a _, _, _, placed, sub => by
    obtain ⟨inner, fresh, closed, inside⟩ := placed
    exact ⟨Placed.sub (a := a) inner sub, fresh, closed, List.Subset.trans sub inside⟩
  | releasing _ _ a, _, _, placed, sub => by
    obtain ⟨inner, closed, inside⟩ := placed
    exact ⟨Placed.sub (a := a) inner sub, closed, List.Subset.trans sub inside⟩
  | timing T _ _ _ a, _, _, placed, sub => by
    obtain ⟨inner, opened, inside, covered⟩ := placed
    exact ⟨Placed.sub (a := a) inner (List.cons_subset_cons T sub), opened, List.Subset.trans sub inside,
      fun id mem S enclosing => covered id mem S (sub enclosing)⟩
  | draining _ _ _, _, _, placed, sub =>
    fun id mem => (placed id mem).imp_right (Or.imp_right fun all S enclosing =>
      all S (sub enclosing))

/-- The orphans of a placed future were opened in the scopes around it, and each of their
releases can stand on its own. -/
theorem Placed.orphans {n : Nesting} {r : Reactor σ} {α : Type} :
    {a : Future σ α} → {E : Scopes} → a.Placed n r E →
      ∀ o ∈ a.orphans, n.Closed o.scopes ∧ E ⊆ o.scopes ∧ o.release.Placed n r []
  | conclude a _, _, placed => Placed.orphans (a := a) placed
  | bind a _, _, placed => Placed.orphans (a := a) placed.1
  | rescue a _, _, placed => Placed.orphans (a := a) placed.1
  | bracket a _ _, _, placed => Placed.orphans (a := a) placed.1
  | both a b _, _, placed => fun o mem =>
    (List.mem_append.mp mem).elim (Placed.orphans (a := a) placed.1 o)
      (Placed.orphans (a := b) placed.2 o)
  | within _ a, E, placed => Placed.orphans (a := a) (Fresh.placed n r E placed)
  | inUse _ a _, _, placed => fun o mem => by
    obtain ⟨placed, fresh, closed, inside⟩ := placed
    rcases List.mem_append.mp mem with inner | own
    · exact Placed.orphans (a := a) placed o inner
    · obtain rfl := List.mem_singleton.mp own
      exact ⟨closed, inside, fresh none⟩
  | releasing _ _ a, _, placed => fun o mem => by
    obtain ⟨placed, closed, inside⟩ := placed
    obtain rfl := List.mem_singleton.mp mem
    exact ⟨closed, inside, Placed.sub (a := a) placed (List.nil_subset _)⟩
  | timing T _ _ _ a, _, placed => fun o mem => by
    obtain ⟨closed, inside, release⟩ := Placed.orphans (a := a) placed.1 o mem
    exact ⟨closed, List.Subset.trans (List.subset_cons_self _ _) inside, release⟩
  | ready _, _, _ | perform _, _, _ | suspend _, _, _ | sleep _, _, _ | pause, _, _ | never, _, _
  | sleeping _, _, _ | paused, _, _ | draining .., _, _ => fun _ mem => absurd mem List.not_mem_nil

/-- The time-outs that run in releases that are left ran in the future. -/
theorem orphans_timers {α : Type} : (a : Future σ α) →
    (a.orphans.flatMap fun o => o.release.timers).Sublist a.timers
  | conclude a _ => orphans_timers a
  | bind a _ => orphans_timers a
  | rescue a _ => orphans_timers a
  | bracket a _ _ => orphans_timers a
  | both a b _ => by
    rw [Future.orphans, List.flatMap_append]
    exact (orphans_timers a).append (orphans_timers b)
  | within _ a => orphans_timers a
  | inUse _ a _ => by
    rw [Future.orphans, List.flatMap_append]
    exact (List.append_nil _).symm ▸ orphans_timers a
  | releasing _ _ a => by
    rw [Future.orphans, List.flatMap_singleton]
    exact List.Sublist.refl _
  | timing T _ _ _ a => (orphans_timers a).cons T
  | ready _ | perform _ | suspend _ | sleep _ | pause | never | sleeping _ | paused
  | draining .. => List.Sublist.refl _

end Future

end Resumption
