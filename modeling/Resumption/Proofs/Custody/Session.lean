/-
Session — custody of every ticket in a session.

What a session owes is owed by its handle and its tasks.  Each step of the
program keeps custody, so at any moment the entries of the book account for what
is still owed, and when nothing is left to run nothing is owed.
-/
import Resumption.Proofs.Custody.Poll
import Resumption.Proofs.Future.Session
import Resumption.Proofs.Future.Tasks

namespace Resumption

namespace Future

variable {σ : Type} [Observer σ] {α : Type} {i : Nat} {q : Tenure}

theorem OwnsAll.append {l l' : List (TaskId × Future (Booked σ) Unit)} {s t : Stock}
    (left : OwnsAll i l s) (right : OwnsAll i l' t) : OwnsAll i (l ++ l') (s + t) := by
  induction left with
  | nil =>
    rw [Stock.none_add]
    exact right
  | cons first _ ih =>
    rw [Stock.add_assoc]
    exact .cons first ih

/-- What a task in the middle owes is part of what all owe. -/
theorem OwnsAll.split {l l' : List (TaskId × Future (Booked σ) Unit)} {id : TaskId}
    {a : Future (Booked σ) Unit} {t : Stock} (all : OwnsAll i (l ++ (id, a) :: l') t) :
    ∃ s u, Owns i .bound a s ∧ t = s + u ∧ OwnsAll i (l ++ l') u := by
  induction l generalizing t with
  | nil =>
    cases all with
    | cons owns rest => exact ⟨_, _, owns, rfl, rest⟩
  | cons x l ih =>
    cases all with
    | cons first rest =>
      obtain ⟨s, u, owns, rfl, others⟩ := ih rest
      exact ⟨s, _, owns, by ac_rfl, .cons first others⟩

/-- What one more task in the middle owes comes on top. -/
theorem OwnsAll.insert {l l' : List (TaskId × Future (Booked σ) Unit)} {id : TaskId}
    {a : Future (Booked σ) Unit} {s u : Stock} (all : OwnsAll i (l ++ l') u)
    (owns : Owns i .bound a s) : OwnsAll i (l ++ (id, a) :: l') (s + u) := by
  induction l generalizing u with
  | nil => exact .cons owns all
  | cons x l ih =>
    cases all with
    | @cons _ _ _ t u first rest =>
      have moved : s + (t + u) = t + (s + u) := by ac_rfl
      rw [moved]
      exact .cons first (ih rest)

/-! ## Running releases on the spot -/

/-- A future that is run to its end outside an executor settles all that it owes. -/
theorem blockOn_balanced {polls : Nat} {a : Future (Booked σ) α} {s : Stock} {b b' : Booked σ}
    {o : Except Failure α} (owns : Owns i q a s) (done : a.blockOn polls b = (some o, b')) :
    Balanced i b s b' .none := by
  induction polls generalizing a s b with
  | zero => cases done
  | succ polls ih =>
    obtain ⟨s', t', left, spawned, balanced⟩ :=
      keeps_of_owns owns [] none b none .none .outside
    rw [blockOn] at done
    revert done left spawned balanced
    rcases a.poll [] b none with ⟨progress, b₁, r⟩
    intro done left spawned balanced
    cases spawned with
    | outside =>
      cases left with
      | ended o' =>
        obtain ⟨-, rfl⟩ := Prod.mk.inj done
        exact balanced
      | pending owns =>
        dsimp only at done
        split at done
        · exact balanced.trans (ih owns done)
        · cases done

/-- So do orphans whose releases come to their ends on the spot. -/
theorem releaseHere_balanced {polls : Nat} {os : List (Orphan (Booked σ))} {s : Stock}
    {b : Booked σ} (orphans : OwnsOrphans i os s) (done : Session.Completes polls os b) :
    Balanced i b s (releaseHere polls os b) .none := by
  induction orphans generalizing b with
  | nil => exact .refl
  | @cons o os s t owns _ ih =>
    obtain ⟨r, b', first, rest⟩ := done
    have cancelled : Balanced i b (.holding + (s + t)) (note .bracketCancelled b) (s + t) := by
      have alone : Balanced i b .holding (note .bracketCancelled b) .none := .cancelled
      exact alone.settle (s + t)
    have released : Balanced i (note .bracketCancelled b) (s + t) b' t :=
      (blockOn_balanced owns.task first).settle t
    rw [releaseHere, first, Stock.add_comm s, Stock.add_assoc]
    exact cancelled.trans (released.trans (ih rest))

end Future

/-! ## Sessions -/

namespace Session

open Future

variable {σ : Type} [Observer σ] {α : Type} {i : Nat}

/-- What a handle owes. -/
inductive OwnsHandle (i : Nat) : Handle (Booked σ) α → Stock → Prop
  | completed : OwnsHandle i .completed .none
  | live {a : Future (Booked σ) α} {s : Stock} : Owns i .free a s → OwnsHandle i (.live a) s

/-- What a session owes by its handle, by its tasks, and by those that it spawned. -/
def Owes (i : Nat) (s : Session (Booked σ) α) (t : Stock) : Prop :=
  ∃ m l u v w, s.executor.Orderly m l ∧ OwnsHandle i s.handle u ∧ OwnsAll i l v ∧
    Spawned i (some m) (some s.executor.reactor) w ∧ t = u + (v + w)

theorem owes_start {a : Future (Booked σ) α} (b : Booked σ) (owns : Owns i .free a .none) :
    Owes i (start a b) .none :=
  ⟨0, [], .none, .none, .none, .start b, .live owns, .nil, .inside .nil ⟨rfl, rfl⟩, rfl⟩

/-- Taking over what was spawned changes nothing. -/
theorem Owes.collect {h : Handle (Booked σ) α} {ex : Executor (Booked σ) α} {t : Stock}
    (owes : Owes i ⟨h, ex⟩ t) : Owes i ⟨h, ex.collect⟩ t := by
  obtain ⟨m, l, u, v, w, orderly, handle, tasks, spawned, rfl⟩ := owes
  cases spawned with
  | inside all _ =>
    exact ⟨_, _, u, v + w, .none, orderly.collect, handle, tasks.append all,
      .inside .nil ⟨rfl, rfl⟩, by rw [Stock.add_none]⟩

/-- The book accounts for what a session owes at one moment and at a later one. -/
def Accounts (i : Nat) (s : Session (Booked σ) α) (t : Stock) (s' : Session (Booked σ) α) : Prop :=
  ∃ t', Owes i s' t' ∧ Balanced i s.executor.world t s'.executor.world t'

/-- What is owed after a poll is owed by the handle that is left. -/
theorem ownsHandle_after {progress : Progress (Booked σ) α} {t : Stock}
    (left : Left i .free progress t) : OwnsHandle i (.after progress) t := by
  cases left with
  | ended _ => exact .completed
  | pending owns => exact .live owns

theorem Owes.poll {h : Handle (Booked σ) α} {ex : Executor (Booked σ) α} {t : Stock}
    (owes : Owes i ⟨h, ex⟩ t) :
    Accounts i ⟨h, ex⟩ t (polled ⟨h, ex⟩) := by
  cases h with
  | completed => exact ⟨t, owes.collect, .refl⟩
  | live a =>
    obtain ⟨m, l, u, v, w, orderly, handle, tasks, spawned, rfl⟩ := owes
    cases handle with
    | live owns =>
      obtain ⟨u', w', left, spawned, balanced⟩ :=
        keeps_of_owns owns [] (some m) ex.world (some ex.reactor) w spawned
      rw [polled, Executor.pollHandle_live]
      generalize a.poll [] ex.world (some ex.reactor) = p at left spawned balanced
      obtain ⟨progress, b', r'⟩ := p
      cases spawned with
      | @inside _ r _ all numbered =>
        have polled : Owes i ⟨.after progress, { ex with world := b', reactor := r }⟩
            (u' + (v + w')) :=
          ⟨m, l, u', v, w', ⟨orderly.jobs, orderly.names, orderly.below, numbered, orderly.kept⟩,
            ownsHandle_after left, tasks, .inside all numbered, rfl⟩
        refine ⟨u' + (v + w'), polled.collect, ?_⟩
        convert balanced.frame v using 1 <;> ac_rfl

theorem Owes.pollOutside {h : Handle (Booked σ) α} {ex : Executor (Booked σ) α} {t : Stock}
    (owes : Owes i ⟨h, ex⟩ t) : Accounts i ⟨h, ex⟩ t
      ⟨(h.poll ex.world none).2.1, { ex with world := (h.poll ex.world none).2.2.1 }⟩ := by
  obtain ⟨m, l, u, v, w, orderly, handle, tasks, spawned, rfl⟩ := owes
  cases handle with
  | completed => exact ⟨_, ⟨m, l, _, v, w, orderly, .completed, tasks, spawned, rfl⟩, .refl⟩
  | @live a _ owns =>
    obtain ⟨u', w', left, kept, balanced⟩ :=
      keeps_of_owns owns [] none ex.world none .none .outside
    rw [Handle.poll]
    generalize a.poll [] ex.world none = p at left kept balanced
    obtain ⟨progress, b', r'⟩ := p
    have orderly : Executor.Orderly m l { ex with world := b' } :=
      ⟨orderly.jobs, orderly.names, orderly.below, orderly.numbered, orderly.kept⟩
    cases kept with
    | outside =>
      have framed : Balanced i ex.world (u + (v + w)) b' (u' + (v + w)) := balanced.frame (v + w)
      cases left with
      | ended _ => exact ⟨_, ⟨m, l, _, v, w, orderly, .completed, tasks, spawned, rfl⟩, framed⟩
      | pending owns =>
        exact ⟨_, ⟨m, l, _, v, w, orderly, .live owns, tasks, spawned, rfl⟩, framed⟩

/-- What is left of a task owes what the poll left. -/
theorem ownsAll_remaining {l₁ l₂ : List (TaskId × Future (Booked σ) Unit)} {id : TaskId}
    {progress : Progress (Booked σ) Unit} {s t : Stock} (others : OwnsAll i (l₁ ++ l₂) t)
    (left : Left i .bound progress s) :
    OwnsAll i (l₁ ++ (Executor.remaining id progress ++ l₂)) (s + t) := by
  cases left with
  | ended _ =>
    rw [Stock.none_add]
    exact others
  | pending owns => exact others.insert owns

theorem Owes.turn {h : Handle (Booked σ) α} {ex : Executor (Booked σ) α} {t : Stock}
    (owes : Owes i ⟨h, ex⟩ t) (id : TaskId) : Accounts i ⟨h, ex⟩ t ⟨h, (ex.turn id).collect⟩ := by
  obtain ⟨m, l, u, v, w, orderly, handle, tasks, spawned, rfl⟩ := owes
  by_cases mem : id ∈ l.map Prod.fst
  · obtain ⟨l₁, a, l₂, rfl⟩ := Executor.split_of_name mem
    obtain ⟨x, y, owns, rfl, others⟩ := tasks.split
    obtain ⟨x', w', left, spawned, balanced⟩ :=
      keeps_of_owns owns [] (some m) ex.world (some ex.reactor) w spawned
    generalize polled : a.poll [] ex.world (some ex.reactor) = p at left spawned balanced
    obtain ⟨progress, b', r'⟩ := p
    cases spawned with
    | @inside _ r _ all numbered =>
      obtain ⟨orderly, world, reactor⟩ := orderly.turn polled rfl numbered
      have spawned : Spawned i (some m) (some (ex.turn id).reactor) w' := by
        rw [reactor]
        cases progress <;> exact .inside all numbered
      refine ⟨u + (x' + y + w'), Owes.collect ⟨m, _, u, x' + y, w', orderly, handle,
        ownsAll_remaining others left, spawned, rfl⟩, ?_⟩
      show Balanced i ex.world _ (ex.turn id).world _
      rw [world]
      convert balanced.frame (u + y) using 1 <;> ac_rfl
  · have absent : id ∉ ex.jobs.map Prod.fst := by
      rw [orderly.jobs, Executor.releases_names]
      exact mem
    rw [ex.turn_of_not_mem absent]
    exact ⟨_, Owes.collect ⟨m, l, u, v, w, orderly, handle, tasks, spawned, rfl⟩, .refl⟩

theorem Owes.drop {h : Handle (Booked σ) α} {ex : Executor (Booked σ) α} {t : Stock}
    (owes : Owes i ⟨h, ex⟩ t) : Accounts i ⟨h, ex⟩ t ⟨.completed, ex.dropHandle h⟩ := by
  obtain ⟨m, l, u, v, w, orderly, handle, tasks, spawned, rfl⟩ := owes
  have orphans : OwnsOrphans i h.orphans u := by
    cases handle with
    | completed => exact .nil
    | live owns => exact owns.orphans rfl
  obtain ⟨w', adopted, balanced⟩ := orphans.adopt (b := ex.world) spawned
  have numbered : (ex.reactor.adopt h.orphans ex.world).2.NumberedFrom m := by
    cases adopted with
    | inside _ numbered => exact numbered
  have dropped : Owes i ⟨.completed, ex.discard h.orphans⟩ (v + w') := by
    refine ⟨m, l, .none, v, w', ?_, .completed, tasks, adopted, ?_⟩
    · exact ⟨orderly.jobs, orderly.names, orderly.below, numbered, orderly.kept⟩
    · rw [Stock.none_add]
  refine ⟨v + w', dropped.collect, ?_⟩
  convert balanced.frame v using 1 <;> ac_rfl

theorem Owes.dropOutside {h : Handle (Booked σ) α} {ex : Executor (Booked σ) α} {t : Stock}
    {polls : Nat} (owes : Owes i ⟨h, ex⟩ t) (done : Completes polls h.orphans ex.world) :
    Accounts i ⟨h, ex⟩ t ⟨.completed, { ex with world := h.dropHere polls ex.world }⟩ := by
  obtain ⟨m, l, u, v, w, orderly, handle, tasks, spawned, rfl⟩ := owes
  have orphans : OwnsOrphans i h.orphans u := by
    cases handle with
    | completed => exact .nil
    | live owns => exact owns.orphans rfl
  have balanced := releaseHere_balanced orphans done
  refine ⟨v + w, ⟨m, l, .none, v, w, ?_, .completed, tasks, spawned, ?_⟩, balanced.settle (v + w)⟩
  · exact ⟨orderly.jobs, orderly.names, orderly.below, orderly.numbered, orderly.kept⟩
  · rw [Stock.none_add]

end Session

end Resumption
