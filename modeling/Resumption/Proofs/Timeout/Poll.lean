/-
Poll — every poll tends to what the future awaits.

The proof follows the poll.  A context that holds no time-out tends to what the
future inside it awaits, the two sides of a future that runs side by side do not
touch each other's scopes, and a time-out gathers what its action leaves before
it waits for it.
-/
import Resumption.Proofs.Timeout.Tended

namespace Resumption

open Reactor

namespace Future

variable {σ : Type} {α β : Type} {n n' : Nesting} {r r' : Reactor σ} {E L : Scopes}

/-- A future that stands inside `E`, with time-outs that are its own. -/
structure Stands (n : Nesting) (r : Reactor σ) (E : Scopes) (a : Future σ α) : Prop where
  placed : a.Placed n r E
  nodup : a.timers.Nodup
  apart : ∀ S ∈ E, S ∉ a.timers

theorem Fresh.stands {a : Future σ α} (fresh : a.Fresh) (n : Nesting) (r : Reactor σ) (E : Scopes) :
    Stands n r E a where
  placed := fresh.placed n r E
  nodup := by
    rw [fresh.timers]
    exact List.nodup_nil
  apart S _ := by
    rw [fresh.timers]
    exact List.not_mem_nil

section Both

variable {a : Future σ α} {b : Future σ β} {γ : Type} {f : α → β → Host σ γ}
  (stands : Stands n r E (both a b f))

include stands

theorem Stands.left : Stands n r E a where
  placed := stands.placed.1
  nodup := (List.nodup_append.mp stands.nodup).1
  apart S mem timed := stands.apart S mem (List.mem_append_left _ timed)

theorem Stands.right : Stands n r E b where
  placed := stands.placed.2
  nodup := (List.nodup_append.mp stands.nodup).2.1
  apart S mem timed := stands.apart S mem (List.mem_append_right _ timed)

/-- The time-outs of two futures side by side are different ones. -/
theorem Stands.disjoint {T : ScopeId} (left : T ∈ a.timers) : T ∉ b.timers := fun right =>
  (List.nodup_append.mp stands.nodup).2.2 T left T right rfl

end Both

theorem Stands.timers_lt {a : Future σ α} (stands : Stands n r E a) (sound : r.Sound n)
    {T : ScopeId} (mem : T ∈ a.timers) : T < r.nextScope :=
  sound.named ▸ stands.placed.timers_lt mem

theorem Site.later (site : Site n r E L) (grown : n <+: n') (sound : r'.Sound n') :
    Site n' r' E L :=
  ⟨sound, site.closed.mono grown, site.inside⟩

/-! ## Inside a time-out -/

/-- The scope of a time-out that begins was opened in the scopes around it. -/
theorem Site.opened (site : Site n r E L) : (n ++ [L])[r.nextScope]? = some L := by
  rw [← site.sound.named]
  exact List.getElem?_concat_length

theorem Site.old (site : Site n r E L) {S : ScopeId} (mem : S ∈ E) : S < r.nextScope :=
  site.sound.named ▸ site.closed.lt (site.inside mem)

/-- The place inside a time-out that begins. -/
theorem Site.entered (site : Site n r E L) :
    Site (n ++ [L]) r.freshScope.2 (r.nextScope :: E) (r.nextScope :: L) where
  sound := site.sound.freshScope site.closed
  closed := (site.closed.mono (List.prefix_append n [L])).cons site.opened
  inside := List.cons_subset_cons _ site.inside

/-- The place inside a time-out that runs. -/
theorem Site.within {T : ScopeId} {A : Scopes} {limit : Duration} {deadline : Nat} {a : Future σ α}
    (site : Site n r E L) (stands : Stands n r E (timing T A limit deadline a)) :
    Site n r (T :: E) (T :: A) := by
  obtain ⟨-, opened, inside, -⟩ := stands.placed
  exact ⟨site.sound, (site.sound.closed opened).cons opened, List.cons_subset_cons T inside⟩

/-- The action of a time-out stands inside its scope. -/
theorem Stands.action {T : ScopeId} {A : Scopes} {limit : Duration} {deadline : Nat}
    {a : Future σ α} (stands : Stands n r E (timing T A limit deadline a)) :
    Stands n r (T :: E) a := by
  obtain ⟨own, nodup⟩ := List.nodup_cons.mp stands.nodup
  refine ⟨stands.placed.1, nodup, fun S mem => ?_⟩
  rcases List.mem_cons.mp mem with rfl | mem
  · exact own
  · exact fun timed => stands.apart S mem (List.mem_cons_of_mem T timed)

/-! ## Polls -/

/-- A future that has not begun awaits nothing. -/
theorem Tends.ofFresh {a : Future σ α} {P : Polled σ β} (fresh : a.Fresh)
    (tends : Tends n r E a.timers (fun id => a.Awaits r id) P) :
    Tends n r E [] (fun _ => False) P := by
  obtain ⟨n', r', new, active, tended⟩ := tends
  rw [fresh.timers] at tended
  exact ⟨n', r', new, active, { tended with awaits := fun _ none => none.elim }⟩

theorem Tends.forFresh {a : Future σ α} {P : Polled σ β} (fresh : a.Fresh)
    (tends : Tends n r E [] (fun _ => False) P) :
    Tends n r E a.timers (fun id => a.Awaits r id) P := by
  obtain ⟨n', r', new, active, tended⟩ := tends
  rw [fresh.timers]
  exact ⟨n', r', new, active,
    { tended with awaits := fun _ awaits => absurd awaits fresh.not_awaits }⟩

/-- A bracket tends to what its release awaits. -/
theorem Tends.released {ts : List ScopeId} {aw : TaskId → Prop} {used : Except Failure β}
    [Observer σ] {P : Polled σ Verdict} (tends : Tends n r E ts aw P) (closed : n.Closed L)
    (inside : E ⊆ L) : Tends n r E ts aw (afterRelease L used P) := by
  rw [afterRelease_eq]
  exact tends.around (fun _ => rfl) (fun _ _ _ => .rfl)
    (fun _ _ _ grown placed => ⟨placed, closed.mono grown, inside⟩) fun _ _ _ _ _ sound =>
      .ended sound _

/-- A scope that was opened in the meantime is new. -/
theorem HandedOn.opened {l : List ScopeId} (handed : HandedOn [r.nextScope] r.freshScope.2 r' l)
    (grown : r.nextScope < r'.nextScope) : HandedOn [] r r' l := by
  intro T
  have counted := handed T
  rw [← between_succ] at counted
  rw [List.count_nil, Nat.zero_add, ← between_add (Nat.le_succ r.nextScope) grown]
  exact counted

/-- A time-out that begins opens a scope of its own. -/
theorem Tends.opened {P : Polled σ α} {aw : TaskId → Prop} (site : Site n r E L)
    (tends : Tends (n ++ [L]) r.freshScope.2 E [r.nextScope] aw P) :
    Tends n r E [] (fun _ => False) P := by
  obtain ⟨n', r', new, active, tended⟩ := tends
  have opened : Worked (Elsewhere r []) n r (n ++ [L]) r.freshScope.2 [] :=
    (Worked.freshScope site.sound site.closed).mono fun _ _ => trivial
  refine ⟨n', r', new, active, {
    toWorked := opened.trans tended.toWorked (fun S old => ?_) fun _ none =>
      absurd none List.not_mem_nil
    timers := tended.timers.opened tended.later.scopes
    placed := tended.placed
    awaits := fun _ none => none.elim
    awaitsNew := tended.awaitsNew }⟩
  refine ⟨Nat.lt_succ_of_lt old.1, fun mem => ?_⟩
  obtain rfl := List.mem_singleton.mp mem
  exact Nat.lt_irrefl _ old.1

/-! ## Side by side -/

section Sides

variable {γ : Type} {f : α → β → Host σ γ} {b : Future σ β} {p : Progress σ α} {q : Progress σ β}
  {ts : List ScopeId} {aw : TaskId → Prop} {n₁ n₂ : Nesting} {r₁ r₂ : Reactor σ}
  {new₁ new₂ : List (TaskId × Future σ Unit)}
  (first : Tended n r E ts aw p n₁ r₁ new₁)
  (second : Tended n₁ r₁ E b.timers (fun id => b.Awaits r₁ id) q n₂ r₂ new₂)

/-- The second future stands where it stood when the first one has been polled. -/
theorem Stands.afterOther (stands : Stands n r E b) (first : Tended n r E ts aw p n₁ r₁ new₁)
    (sound : r.Sound n) (old : ∀ S ∈ E, S < r.nextScope) (apart : ∀ S ∈ E, S ∉ ts)
    (disjoint : ∀ T ∈ ts, T ∉ b.timers) : Stands n₁ r₁ E b where
  placed := stands.placed.later first.later
    (fun T mem => ⟨stands.timers_lt sound mem, fun own => disjoint T own mem⟩)
    fun S mem => ⟨old S mem, apart S mem⟩
  nodup := stands.nodup
  apart := stands.apart

include first second

/-- The scopes of both sides are handed on. -/
theorem Tended.sides_timers : HandedOn (ts ++ b.timers) r r₂
    ((both p.future q.future f).timers ++ tasksTimers (new₁ ++ new₂)) := by
  have handed := first.timers.append second.timers first.later.scopes second.later.scopes
  refine handed.of_subperm (List.Perm.subperm ?_)
  simp only [Future.timers, tasksTimers_append, List.append_assoc]
  exact (List.perm_append_comm_assoc ..).append_left _

/-- What the second poll finds of the first future it leaves alone. -/
theorem Tended.sides_worked (left : ∀ T ∈ tasksTimers new₁, Elsewhere r₁ b.timers T) :
    Worked (Elsewhere r (ts ++ b.timers)) n r n₂ r₂ (new₁ ++ new₂) := by
  have mine : Worked (Elsewhere r (ts ++ b.timers)) n r n₁ r₁ new₁ := first.toWorked.mono
    fun T old => old.imp_right fun none mem => none (List.mem_append_left _ mem)
  refine mine.trans second.toWorked (fun T old => ?_) left
  exact ⟨Nat.lt_of_lt_of_le old.1 first.later.scopes,
    fun mem => old.2 (List.mem_append_right _ mem)⟩

theorem Tended.sides_placed (left : ∀ T ∈ p.future.timers, Elsewhere r₁ b.timers T)
    (around : ∀ S ∈ E, Elsewhere r₁ b.timers S) : (both p.future q.future f).Placed n₂ r₂ E :=
  ⟨first.placed.later second.later left around, second.placed⟩

/-- The pair waits for what its sides waited for. -/
theorem Tended.sides_awaits (left : ∀ T ∈ p.future.timers, Elsewhere r₁ b.timers T)
    (other : ∀ T ∈ b.timers, Elsewhere r ts T) {id : TaskId} (waited : aw id ∨ b.Awaits r id) :
    id ∈ r.finished ∨ (both p.future q.future f).Awaits r₂ id := by
  rcases waited with one | two
  · exact (first.awaits id one).imp_right fun awaits => .inl (awaits.later second.later left)
  · rw [← first.still.finished]
    exact (second.awaits id (two.later first.later other)).imp_right .inr

theorem Tended.sides_awaitsNew (left : ∀ T ∈ p.future.timers, Elsewhere r₁ b.timers T)
    {x : TaskId × Future σ Unit} (mem : x ∈ new₁ ++ new₂) :
    (both p.future q.future f).Awaits r₂ x.1 := by
  rcases List.mem_append.mp mem with mem | mem
  · exact .inl ((first.awaitsNew x mem).later second.later left)
  · exact .inr (second.awaitsNew x mem)

/-- A poll of one future and then one of the other tend to what either awaits. -/
theorem Tended.sides (stands : Stands n r E b) (sound : r.Sound n)
    (around : ∀ S ∈ E, Elsewhere r b.timers S) (own : ∀ T ∈ ts, Elsewhere r b.timers T) :
    Tended n r E (ts ++ b.timers) (fun id => aw id ∨ b.Awaits r id)
      (.pending (both p.future q.future f)) n₂ r₂ (new₁ ++ new₂) := by
  have left : ∀ T ∈ p.future.timers ++ tasksTimers new₁, Elsewhere r₁ b.timers T := fun T mem =>
    first.timers.elsewhere first.later.scopes (fun T => stands.timers_lt sound) own mem
  have ofFirst : ∀ T ∈ p.future.timers, Elsewhere r₁ b.timers T := fun T mem =>
    left T (List.mem_append_left _ mem)
  exact {
    toWorked := first.sides_worked second fun T mem => left T (List.mem_append_right _ mem)
    timers := first.sides_timers second
    placed := first.sides_placed second ofFirst fun S mem =>
      (around S mem).imp_left fun old => Nat.lt_of_lt_of_le old first.later.scopes
    awaits := fun id => first.sides_awaits second ofFirst fun T mem =>
      ⟨stands.timers_lt sound mem, fun mine => (own T mine).2 mem⟩
    awaitsNew := fun x => first.sides_awaitsNew second ofFirst }

end Sides

/-- Of two futures side by side each tends to what it awaits, whatever the other does. -/
theorem Tends.sides {a : Future σ α} {b : Future σ β} {γ : Type} {f : α → β → Host σ γ}
    {P : Polled σ α} {Q : Polled σ β} (site : Site n r E L) (stands : Stands n r E (both a b f))
    (first : Tends n r E a.timers (fun id => a.Awaits r id) P)
    (second : ∀ n' r', P.reactor = some r' → Site n' r' E L → Stands n' r' E b →
      Tends n' r' E b.timers (fun id => b.Awaits r' id) Q) :
    Tends n r E (both a b f).timers (fun id => (both a b f).Awaits r id)
      (sides f P.progress Q) := by
  obtain ⟨n₁, r₁, new₁, active, first⟩ := first
  have standsB := stands.right.afterOther first site.sound (fun S => site.old)
    stands.left.apart fun T => stands.disjoint
  obtain ⟨n₂, r₂, new₂, active₂, second⟩ :=
    second n₁ r₁ active (site.later first.later.nesting first.sound) standsB
  have whole : Tended n r E (both a b f).timers (fun id => (both a b f).Awaits r id)
      (.pending (both P.progress.future Q.progress.future f)) n₂ r₂ (new₁ ++ new₂) :=
    first.sides second stands.right site.sound
      (fun S mem => ⟨site.old mem, stands.right.apart S mem⟩)
      fun T mem => ⟨stands.left.timers_lt site.sound mem, stands.disjoint mem⟩
  obtain ⟨q, w, _⟩ := Q
  obtain rfl := active₂
  generalize P.progress = p at whole
  cases p with
  | pending a' => exact ⟨n₂, r₂, _, rfl, whole⟩
  | ended x =>
    cases q with
    | pending b' => exact ⟨n₂, r₂, _, rfl, whole⟩
    | ended y =>
      exact ⟨n₂, r₂, _, rfl, whole.concluded site.sound (fun _ none => none.elim False.elim False.elim) _⟩

variable [Observer σ]

mutual

theorem tends {α : Type} {n : Nesting} {r : Reactor σ} {E L : Scopes} (site : Site n r E L) :
    (a : Future σ α) → Stands n r E a → (w : σ) →
      Tends n r E a.timers (fun id => a.Awaits r id) (a.poll L w (some r))
  | ready o, _, w => by
    rw [poll]
    exact .ended site.sound o
  | perform h, _, w => by
    rw [poll]
    exact .ofHost site.sound
  | suspend s, stands, w => by
    rw [poll]
    exact (s w).tends site (stands.placed w)
  | conclude a f, stands, w => by
    rw [runs_conclude L f]
    exact (tends site a ⟨stands.placed, stands.nodup, stands.apart⟩ w).around (fun _ => rfl)
      (fun _ _ _ => .rfl) (fun _ _ _ _ placed => placed) fun _ _ _ _ _ sound => .ofHost sound
  | bind a k, stands, w => by
    rw [runs_bind L k]
    refine (tends site a ⟨stands.placed.1, stands.nodup, stands.apart⟩ w).around (fun _ => rfl)
      (fun _ _ _ => .rfl) (fun _ _ _ _ placed => ⟨placed, stands.placed.2⟩) ?_
    intro o w' n' r' grown sound
    cases o with
    | ok x => exact (k x w').tends (site.later grown sound) (stands.placed.2 x w')
    | error e => exact .ended sound _
  | rescue a k, stands, w => by
    rw [runs_rescue L k]
    refine (tends site a ⟨stands.placed.1, stands.nodup, stands.apart⟩ w).around (fun _ => rfl)
      (fun _ _ _ => .rfl) (fun _ _ _ _ placed => ⟨placed, stands.placed.2⟩) ?_
    intro o w' n' r' grown sound
    cases o with
    | ok x => exact .ended sound _
    | error e => exact (k e w').tends (site.later grown sound) (stands.placed.2 e w')
  | bracket a use release, stands, w => by
    obtain ⟨placed, freshUse, freshRelease⟩ := stands.placed
    rw [runs_bracket L use release]
    refine (tends site a ⟨placed, stands.nodup, stands.apart⟩ w).around (fun _ => rfl)
      (fun _ _ _ => .rfl) (fun _ _ _ _ placed => ⟨placed, freshUse, freshRelease⟩) ?_
    intro o w' n' r' grown sound
    cases o with
    | error e => exact .ended sound _
    | ok x =>
      have site' := site.later grown sound
      refine ((use x _).tends site' (freshUse x _)).around (fun _ => rfl) (fun _ _ _ => .rfl) ?_ ?_
      · exact fun _ _ _ grown placed =>
          ⟨placed, freshRelease x, site'.closed.mono grown, site'.inside⟩
      · intro used w' n' r' grown sound
        have site'' := site'.later grown sound
        exact ((release x used.toOption w').tends site'' (freshRelease x _ w')).released
          site''.closed site''.inside
  | inUse opened use release, stands, w => by
    obtain ⟨placed, fresh, closed, inside⟩ := stands.placed
    rw [runs_inUse L opened release]
    refine (tends site use ⟨placed, stands.nodup, stands.apart⟩ w).around (fun _ => rfl)
      (fun _ _ _ => .rfl) (fun _ _ _ grown placed => ⟨placed, fresh, closed.mono grown, inside⟩) ?_
    intro used w' n' r' grown sound
    exact ((release used.toOption w').tends (site.later grown sound) (fresh _ w')).released
      (closed.mono grown) inside
  | releasing opened used release, stands, w => by
    obtain ⟨placed, closed, inside⟩ := stands.placed
    rw [runs_releasing L opened used, ← afterRelease_eq]
    exact (tends site release ⟨placed, stands.nodup, stands.apart⟩ w).released closed inside
  | within limit a, stands, w => by
    have fresh : a.Fresh := stands.placed
    have inner := site.entered
    have covered : r.freshScope.2.Covered r.nextScope E := fun id mem =>
      absurd (site.sound.registered _ mem).1 (Nat.lt_irrefl _)
    have enclosing : ∀ S ∈ r.nextScope :: E, S < r.nextScope + 1 ∧ S ∉ a.timers := by
      intro S mem
      rw [fresh.timers]
      refine ⟨?_, List.not_mem_nil⟩
      rcases List.mem_cons.mp mem with rfl | mem
      · exact Nat.lt_succ_self _
      · exact Nat.lt_succ_of_lt (site.old mem)
    have action := tends inner a (fresh.stands _ _ _) w
    have timed : Tends (n ++ [L]) r.freshScope.2 E (r.nextScope :: a.timers) _
        (afterTimed r.nextScope L limit (r.now + limit.wholeMillis) _) :=
      action.afterTimed inner.sound site.opened site.inside covered
        (fun mem => Nat.lt_irrefl _ (site.old mem)) enclosing
    rw [fresh.timers] at timed
    rw [poll]
    exact .forFresh (a := within limit a) fresh (timed.opened site)
  | timing T A limit deadline a, stands, w => by
    obtain ⟨-, opened, inside, covered⟩ := stands.placed
    have inner := site.within stands
    have enclosing : ∀ S ∈ T :: E, S < r.nextScope ∧ S ∉ a.timers := fun S mem =>
      ⟨inner.old mem, stands.action.apart S mem⟩
    rw [poll]
    exact (tends inner a stands.action w).afterTimed site.sound opened inside covered
      (fun mem => stands.apart T mem List.mem_cons_self) enclosing
  | both a b f, stands, w => by
    rw [poll_both]
    refine .sides site stands (tends site a stands.left w) ?_
    intro n' r' active site stands
    rw [active]
    exact tends site b stands _
  | draining tasks limit outcome, stands, w => by
    have waiting : Tended n r E [] (fun id => id ∈ tasks)
        (.pending (draining tasks limit outcome)) n r [] :=
      .idle site.sound rfl stands.placed fun _ waited => .inr waited
    rw [poll]
    exact waiting.awaitTasks w site.sound
  | sleep ms, _, w => by
    rw [poll]
    split
    · exact .ended site.sound _
    · exact .idle site.sound rfl trivial fun _ none => none.elim
  | sleeping t, _, w => by
    rw [poll]
    split
    · exact .ended site.sound _
    · exact .idle site.sound rfl trivial fun _ none => none.elim
  | pause, _, w => by
    rw [poll]
    exact .idle site.sound rfl trivial fun _ none => none.elim
  | paused, _, w => by
    rw [poll]
    exact .ended site.sound _
  | never, _, w => by
    rw [poll]
    exact .idle site.sound rfl trivial fun _ none => none.elim

theorem Call.tends {α : Type} {n : Nesting} {r : Reactor σ} {E L : Scopes} (site : Site n r E L) :
    (c : Call σ α) → c.Fresh → Tends n r E [] (fun _ => False) (c.poll L (some r))
  | .returned a w, fresh => by
    rw [Call.poll]
    exact .ofFresh fresh (a.tends site (fresh.stands n r E) w)
  | .panicked p w, _ => by
    rw [Call.poll]
    exact .ended site.sound _

end

end Future

end Resumption
