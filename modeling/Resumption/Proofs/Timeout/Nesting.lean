/-
Nesting — which scopes a reactor's scopes were opened in.

A scope is opened inside others, and a release that is registered with it is
registered with those as well.  `Nesting` records for each scope which ones it
was opened in.  It is not kept by the reactor; a `Sound` reactor is one that it
fits.

`Later X` says what may happen to a reactor while scopes in `X` are left alone:
their registrations stay, and what is newly registered is registered with all
scopes of a list that is closed under nesting.
-/
import Mathlib.Data.List.Nodup
import Resumption.Future.Reactor

namespace Resumption

/-- The scopes that each scope was opened in, in the order of their names. -/
abbrev Nesting := List Scopes

namespace Nesting

/-- Along with a scope the list has those that it was opened in. -/
def Closed (n : Nesting) (L : Scopes) : Prop :=
  ∀ T ∈ L, ∃ A, n[T]? = some A ∧ A ⊆ L

theorem Closed.nil (n : Nesting) : n.Closed [] := by
  intro T mem
  cases mem

theorem Closed.cons {n : Nesting} {T : ScopeId} {A : Scopes} (closed : n.Closed A)
    (opened : n[T]? = some A) : n.Closed (T :: A) := by
  intro S mem
  rcases List.mem_cons.mp mem with rfl | inside
  · exact ⟨A, opened, List.subset_cons_self _ _⟩
  · obtain ⟨B, opened', subset⟩ := closed S inside
    exact ⟨B, opened', List.Subset.trans subset (List.subset_cons_self _ _)⟩

theorem getElem?_of_prefix {n n' : Nesting} (grown : n <+: n') {T : ScopeId} {A : Scopes}
    (opened : n[T]? = some A) : n'[T]? = some A := by
  obtain ⟨named, rfl⟩ := List.getElem?_eq_some_iff.mp opened
  exact List.prefix_iff_getElem?.mp grown T named

theorem Closed.mono {n n' : Nesting} {L : Scopes} (closed : n.Closed L) (grown : n <+: n') :
    n'.Closed L := by
  intro T mem
  obtain ⟨A, opened, subset⟩ := closed T mem
  exact ⟨A, getElem?_of_prefix grown opened, subset⟩

theorem Closed.lt {n : Nesting} {L : Scopes} (closed : n.Closed L) {T : ScopeId} (mem : T ∈ L) :
    T < n.length := by
  obtain ⟨A, opened, -⟩ := closed T mem
  exact (List.getElem?_eq_some_iff.mp opened).1

end Nesting

namespace Reactor

variable {σ : Type}

/-- The nesting fits the reactor. -/
structure Sound (n : Nesting) (r : Reactor σ) : Prop where
  named : n.length = r.nextScope
  nested : ∀ A ∈ n, n.Closed A
  registered : ∀ x ∈ r.registered, x.1 < r.nextScope ∧ x.2 < r.nextTask
  finished : ∀ id ∈ r.finished, id < r.nextTask

theorem Sound.closed {n : Nesting} {r : Reactor σ} (sound : r.Sound n) {T : ScopeId} {A : Scopes}
    (opened : n[T]? = some A) : n.Closed A :=
  sound.nested A (List.mem_of_getElem? opened)

/-- Every release that is registered with the scope is registered with all of these. -/
def Covered (r : Reactor σ) (T : ScopeId) (E : Scopes) : Prop :=
  ∀ id, (T, id) ∈ r.registered → ∀ S ∈ E, (S, id) ∈ r.registered

/-- No time has passed, and no task has finished. -/
structure Still (r r' : Reactor σ) : Prop where
  now : r'.now = r.now
  finished : r'.finished = r.finished

theorem Still.refl (r : Reactor σ) : r.Still r :=
  ⟨rfl, rfl⟩

theorem Still.trans {r₁ r₂ r₃ : Reactor σ} (first : r₁.Still r₂) (second : r₂.Still r₃) :
    r₁.Still r₃ :=
  ⟨second.now.trans first.now, second.finished.trans first.finished⟩

/-- The reactor after something happened that left the scopes in `X` alone. -/
structure Later (X : ScopeId → Prop) (n : Nesting) (r : Reactor σ) (n' : Nesting)
    (r' : Reactor σ) : Prop where
  nesting : n <+: n'
  scopes : r.nextScope ≤ r'.nextScope
  tasks : r.nextTask ≤ r'.nextTask
  finished : r.finished ⊆ r'.finished
  kept : ∀ T id, X T → (T, id) ∈ r.registered → (T, id) ∈ r'.registered
  added : ∀ T id, (T, id) ∈ r'.registered → (T, id) ∈ r.registered ∨
    ∃ L, n'.Closed L ∧ T ∈ L ∧ ∀ S ∈ L, X S → (S, id) ∈ r'.registered

namespace Later

variable {X Y : ScopeId → Prop} {n n₁ n₂ : Nesting} {r r₁ r₂ : Reactor σ}

theorem refl (X : ScopeId → Prop) (n : Nesting) (r : Reactor σ) : Later X n r n r where
  nesting := List.prefix_refl n
  scopes := Nat.le_refl _
  tasks := Nat.le_refl _
  finished := List.Subset.refl _
  kept _ _ _ mem := mem
  added _ _ mem := .inl mem

/-- Time and the tasks that were taken over do not matter. -/
theorem of_same (registered : r₁.registered = r.registered) (finished : r.finished ⊆ r₁.finished)
    (scopes : r.nextScope ≤ r₁.nextScope) (tasks : r.nextTask ≤ r₁.nextTask) :
    Later X n r n r₁ where
  nesting := List.prefix_refl n
  scopes := scopes
  tasks := tasks
  finished := finished
  kept _ _ _ mem := registered ▸ mem
  added _ _ mem := .inl (registered ▸ mem)

theorem mono (later : Later Y n r n₁ r₁) (sub : ∀ T, X T → Y T) : Later X n r n₁ r₁ where
  nesting := later.nesting
  scopes := later.scopes
  tasks := later.tasks
  finished := later.finished
  kept T id left := later.kept T id (sub T left)
  added T id mem := by
    rcases later.added T id mem with old | ⟨L, closed, here, all⟩
    · exact .inl old
    · exact .inr ⟨L, closed, here, fun S inside left => all S inside (sub S left)⟩

theorem trans (first : Later X n r n₁ r₁) (second : Later X n₁ r₁ n₂ r₂) : Later X n r n₂ r₂ where
  nesting := first.nesting.trans second.nesting
  scopes := Nat.le_trans first.scopes second.scopes
  tasks := Nat.le_trans first.tasks second.tasks
  finished := List.Subset.trans first.finished second.finished
  kept T id left mem := second.kept T id left (first.kept T id left mem)
  added T id mem := by
    rcases second.added T id mem with old | ⟨L, closed, here, all⟩
    · rcases first.added T id old with older | ⟨L, closed, here, all⟩
      · exact .inl older
      · refine .inr ⟨L, closed.mono second.nesting, here, ?_⟩
        exact fun S inside left => second.kept S id left (all S inside left)
    · exact .inr ⟨L, closed, here, all⟩

/-- Scopes that are left alone stay covered by those that they were opened in. -/
theorem covered (later : Later X n r n₁ r₁) {T : ScopeId} {A E : Scopes}
    (covered : r.Covered T E) (opened : n[T]? = some A) (inside : E ⊆ A)
    (left : ∀ S ∈ E, X S) : r₁.Covered T E := by
  intro id mem S enclosing
  rcases later.added T id mem with old | ⟨L, closed, here, all⟩
  · exact later.kept S id (left S enclosing) (covered id old S enclosing)
  · obtain ⟨B, opened', subset⟩ := closed T here
    rw [Nesting.getElem?_of_prefix later.nesting opened] at opened'
    obtain rfl := Option.some.inj opened'
    exact all S (subset (inside enclosing)) (left S enclosing)

end Later

/-! ## What the reactor's operations do -/

variable {n : Nesting} {r : Reactor σ}

theorem later_freshScope {L : Scopes} :
    Later (fun _ => True) n r (n ++ [L]) r.freshScope.2 where
  nesting := List.prefix_append n [L]
  scopes := Nat.le_succ _
  tasks := Nat.le_refl _
  finished := List.Subset.refl _
  kept _ _ _ mem := mem
  added _ _ mem := .inl mem

theorem Sound.freshScope {L : Scopes} (sound : r.Sound n) (closed : n.Closed L) :
    r.freshScope.2.Sound (n ++ [L]) where
  named := by
    rw [List.length_append, sound.named]
    rfl
  nested A mem := by
    rcases List.mem_append.mp mem with old | new
    · exact (sound.nested A old).mono (List.prefix_append n [L])
    · obtain rfl := List.mem_singleton.mp new
      exact closed.mono (List.prefix_append n [A])
  registered x mem := (sound.registered x mem).imp_left Nat.lt_succ_of_lt
  finished := sound.finished

theorem later_spawn {L : Scopes} (closed : n.Closed L) (a : Future σ Unit) :
    Later (fun _ => True) n r n (r.spawn L a) where
  nesting := List.prefix_refl n
  scopes := Nat.le_refl _
  tasks := Nat.le_succ _
  finished := List.Subset.refl _
  kept _ _ _ mem := List.mem_append_left _ mem
  added T id mem := by
    rcases List.mem_append.mp mem with old | new
    · exact .inl old
    · obtain ⟨S, inside, same⟩ := List.mem_map.mp new
      cases same
      exact .inr ⟨L, closed, inside, fun S inside _ =>
        List.mem_append_right _ (List.mem_map_of_mem inside)⟩

theorem Sound.spawn {L : Scopes} (sound : r.Sound n) (closed : n.Closed L) (a : Future σ Unit) :
    (r.spawn L a).Sound n where
  named := sound.named
  nested := sound.nested
  registered x mem := by
    rcases List.mem_append.mp mem with old | new
    · exact (sound.registered x old).imp_right Nat.lt_succ_of_lt
    · obtain ⟨S, inside, rfl⟩ := List.mem_map.mp new
      exact ⟨sound.named ▸ closed.lt inside, Nat.lt_succ_self _⟩
  finished id mem := Nat.lt_succ_of_lt (sound.finished id mem)

theorem Sound.takeRegistered (sound : r.Sound n) (T : ScopeId) :
    (r.takeRegistered T).2.Sound n where
  named := sound.named
  nested := sound.nested
  registered x mem := sound.registered x (List.mem_filter.mp mem).1
  finished := sound.finished

theorem later_takeRegistered (T : ScopeId) :
    Later (fun S => S ≠ T) n r n (r.takeRegistered T).2 where
  nesting := List.prefix_refl n
  scopes := Nat.le_refl _
  tasks := Nat.le_refl _
  finished := List.Subset.refl _
  kept _ _ other mem := List.mem_filter.mpr ⟨mem, bne_iff_ne.mpr other⟩
  added _ _ mem := .inl (List.mem_filter.mp mem).1

theorem mem_takeRegistered {T : ScopeId} {id : TaskId} :
    id ∈ (r.takeRegistered T).1 ↔ (T, id) ∈ r.registered := by
  rw [takeRegistered, List.mem_map]
  constructor
  · rintro ⟨⟨S, _⟩, mem, rfl⟩
    obtain ⟨here, same⟩ := List.mem_filter.mp mem
    obtain rfl : S = T := beq_iff_eq.mp same
    exact here
  · intro mem
    exact ⟨(T, id), List.mem_filter.mpr ⟨mem, beq_self_eq_true T⟩, rfl⟩

end Reactor

end Resumption
