/-
Mirror — a future and the same future with a book.

A book changes nothing but itself: `MirroredBy a a'` says that `a'` does in a
world with a book what `a` does without.  It holds of a future that has not begun
and its `ticketed` form, and of what polls leave of them, where every bracket that
holds its resource has a ticket beside it.

| the future        | is mirrored by                                              |
|-------------------|-------------------------------------------------------------|
| `inUse _ u r`     | a mirror of `u`, with `r` marked with some ticket            |
| `releasing _ _ p` | a mirror of `p` that will mark its end                       |
| any other one     | its `ticketed` form with mirrors of the futures inside       |
-/
import Mathlib.Data.List.Forall2
import Resumption.Proofs.Custody.Ticketed

namespace Resumption

namespace Future

variable {σ : Type}

/-- The closure of a release, marked with ticket `j`. -/
def markedRelease {α : Type} (j : Nat) (s : σ → Call σ α) : Future (Booked σ) α :=
  marked j fun b => (s b.world).ticketed b

/-- The second future does in a world with a book what the first one does without. -/
inductive MirroredBy : {α : Type} → Future σ α → Future (Booked σ) α → Prop
  | ready {α : Type} (o : Except Failure α) : MirroredBy (ready o) (ready o)
  | perform {α : Type} (h : Host σ (Except Failure α)) : MirroredBy (perform h) (perform h.aside)
  | suspend {α : Type} {s : σ → Call σ α} :
      (∀ w a w', s w = .returned a w' → MirroredBy a a.ticketed) →
      MirroredBy (suspend s) (suspend fun b => (s b.world).ticketed b)
  | conclude {α β : Type} {a : Future σ α} {a' : Future (Booked σ) α}
      (f : Except Failure α → Host σ (Except Failure β)) : MirroredBy a a' →
      MirroredBy (conclude a f) (conclude a' fun o => (f o).aside)
  | bind {α β : Type} {a : Future σ α} {a' : Future (Booked σ) α} {k : α → σ → Call σ β} :
      MirroredBy a a' → (∀ x w b w', k x w = .returned b w' → MirroredBy b b.ticketed) →
      MirroredBy (bind a k) (bind a' fun x b => (k x b.world).ticketed b)
  | rescue {α : Type} {a : Future σ α} {a' : Future (Booked σ) α}
      {k : Failure → σ → Call σ α} :
      MirroredBy a a' → (∀ e w b w', k e w = .returned b w' → MirroredBy b b.ticketed) →
      MirroredBy (rescue a k) (rescue a' fun e b => (k e b.world).ticketed b)
  | bracket {ρ β : Type} {a : Future σ ρ} {a' : Future (Booked σ) ρ} {use : ρ → σ → Call σ β}
      {release : ρ → Option β → σ → Call σ Verdict} : MirroredBy a a' →
      (∀ x w b w', use x w = .returned b w' → MirroredBy b b.ticketed) →
      (∀ x o w b w', release x o w = .returned b w' → MirroredBy b b.ticketed) →
      MirroredBy (bracket a use release)
        (bracket (conclude a' takeTicket) (fun x b => (use x.1 b.world).ticketed b)
          fun x o b => .returned (markedRelease x.2 (release x.1 o)) b)
  | inUse {β : Type} {scopes : Scopes} {use : Future σ β} {use' : Future (Booked σ) β}
      {release : Option β → σ → Call σ Verdict} (j : Nat) : MirroredBy use use' →
      (∀ o w b w', release o w = .returned b w' → MirroredBy b b.ticketed) →
      MirroredBy (inUse scopes use release)
        (inUse scopes use' fun o b => .returned (markedRelease j (release o)) b)
  | releasing {β : Type} {scopes : Scopes} {used : Except Failure β} {release : Future σ Verdict}
      {release' : Future (Booked σ) Verdict} (j : Nat) : MirroredBy release release' →
      MirroredBy (releasing scopes used release)
        (releasing scopes used (conclude release' (markEnd j)))
  | both {α β γ : Type} {a : Future σ α} {b : Future σ β} {a' : Future (Booked σ) α}
      {b' : Future (Booked σ) β} (f : α → β → Host σ γ) : MirroredBy a a' → MirroredBy b b' →
      MirroredBy (both a b f) (both a' b' fun x y => (f x y).aside)
  | within {α : Type} {a : Future σ α} {a' : Future (Booked σ) α} (limit : Duration) :
      MirroredBy a a' → MirroredBy (within limit a) (within limit a')
  | timing {α : Type} {a : Future σ α} {a' : Future (Booked σ) α} (T : ScopeId) (A : Scopes)
      (limit : Duration) (deadline : Nat) : MirroredBy a a' →
      MirroredBy (timing T A limit deadline a) (timing T A limit deadline a')
  | draining {α : Type} (tasks : List TaskId) (limit : Duration)
      (outcome : Option (Except Failure α)) :
      MirroredBy (draining tasks limit outcome) (draining tasks limit outcome)
  | sleep (ms : Nat) : MirroredBy (sleep ms) (sleep ms)
  | pause : MirroredBy pause pause
  | never {α : Type} : MirroredBy (never (α := α)) never
  | sleeping (t : Nat) : MirroredBy (sleeping t) (sleeping t)
  | paused : MirroredBy paused paused

mutual

/-- A future that has not begun is mirrored by its ticketed form. -/
theorem ticketed_mirrored {α : Type} : (a : Future σ α) → a.Fresh → MirroredBy a a.ticketed
  | ready o, _ => .ready o
  | perform h, _ => .perform h
  | suspend s, fresh => .suspend fun w => (s w).ticketed_mirrored (fresh w)
  | conclude a f, fresh => .conclude f (a.ticketed_mirrored fresh)
  | bind a k, fresh =>
    .bind (a.ticketed_mirrored fresh.1) fun x w => (k x w).ticketed_mirrored (fresh.2 x w)
  | rescue a k, fresh =>
    .rescue (a.ticketed_mirrored fresh.1) fun e w => (k e w).ticketed_mirrored (fresh.2 e w)
  | bracket a use release, fresh =>
    .bracket (a.ticketed_mirrored fresh.1)
      (fun x w => (use x w).ticketed_mirrored (fresh.2.1 x w))
      fun x o w => (release x o w).ticketed_mirrored (fresh.2.2 x o w)
  | sleep ms, _ => .sleep ms
  | pause, _ => .pause
  | never, _ => .never
  | both a b f, fresh =>
    .both f (a.ticketed_mirrored fresh.1) (b.ticketed_mirrored fresh.2)
  | within limit a, fresh => .within limit (a.ticketed_mirrored fresh)

theorem Call.ticketed_mirrored {α : Type} : (c : Call σ α) → c.Fresh →
    ∀ a w, c = .returned a w → MirroredBy a a.ticketed
  | .returned a _, fresh => by
    intro a' w returned
    obtain ⟨rfl, -⟩ := Call.returned.inj returned
    exact a.ticketed_mirrored fresh
  | .panicked p w, _ => by
    intro a w' returned
    cases returned

end

/-- Both wait for their next turn, or neither does. -/
theorem MirroredBy.yielding {α : Type} {a : Future σ α} {a' : Future (Booked σ) α}
    (mirrored : MirroredBy a a') : a'.yielding = a.yielding := by
  induction mirrored with
  | ready | perform | suspend | within | draining | sleep | pause | never | sleeping | paused => rfl
  | conclude _ _ ih => exact ih
  | bind _ _ ih => exact ih
  | rescue _ _ ih => exact ih
  | bracket _ _ _ ih => exact ih
  | inUse _ _ _ ih => exact ih
  | releasing _ _ ih => exact ih
  | both _ _ _ left right => exact congrArg₂ Bool.or left right
  | timing _ _ _ _ _ ih => exact ih

/-! ## Releases that were dropped -/

/-- A release that is under way, and a mirror of it that will mark its end. -/
inductive EndMarkedBy : Future σ Verdict → Future (Booked σ) Verdict → Prop
  | mk {a : Future σ Verdict} {a' : Future (Booked σ) Verdict} (j : Nat) : MirroredBy a a' →
      EndMarkedBy a (conclude a' (markEnd j))

/-- A release of a dropped bracket, and the same release with its marks. -/
inductive MarkedBy : Future σ Verdict → Future (Booked σ) Verdict → Prop
  | toBeCalled {s : σ → Call σ Verdict} (j : Nat) :
      (∀ w a w', s w = .returned a w' → MirroredBy a a.ticketed) →
      MarkedBy (suspend s) (suspend fun b => .returned (markedRelease j s) b)
  | underWay {a : Future σ Verdict} {a' : Future (Booked σ) Verdict} : EndMarkedBy a a' →
      MarkedBy a a'

theorem MarkedBy.yielding {a : Future σ Verdict} {a' : Future (Booked σ) Verdict}
    (marked : MarkedBy a a') : a'.yielding = a.yielding := by
  cases marked with
  | toBeCalled => rfl
  | underWay marked =>
    cases marked with
    | mk _ inner => exact inner.yielding

/-- Orphans with the same scopes, and with releases of which one has its marks. -/
def Orphan.MirroredBy (o : Orphan σ) (o' : Orphan (Booked σ)) : Prop :=
  o.scopes = o'.scopes ∧ MarkedBy o.release o'.release

/-- Dropped, both leave the same orphans. -/
theorem MirroredBy.orphans {α : Type} {a : Future σ α} {a' : Future (Booked σ) α}
    (mirrored : MirroredBy a a') : List.Forall₂ Orphan.MirroredBy a.orphans a'.orphans := by
  induction mirrored with
  | ready | perform | suspend | draining | sleep | pause | never | sleeping | paused => exact .nil
  | conclude _ _ ih => exact ih
  | bind _ _ ih => exact ih
  | rescue _ _ ih => exact ih
  | bracket _ _ _ ih => exact ih
  | inUse j _ release ih =>
    exact List.rel_append ih (.cons ⟨rfl, .toBeCalled j (release none)⟩ .nil)
  | releasing j inner => exact .cons ⟨rfl, .underWay (.mk j inner)⟩ .nil
  | both _ _ _ left right => exact List.rel_append left right
  | within _ _ ih => exact ih
  | timing _ _ _ _ _ ih => exact ih

variable [Observer σ]

/-- The tasks that run such releases. -/
inductive TaskMirroredBy : Future σ Unit → Future (Booked σ) Unit → Prop
  | task {o : Orphan σ} {o' : Orphan (Booked σ)} : MarkedBy o.release o'.release →
      TaskMirroredBy o.task o'.task

theorem TaskMirroredBy.yielding {a : Future σ Unit} {a' : Future (Booked σ) Unit}
    (mirrored : TaskMirroredBy a a') : a'.yielding = a.yielding := by
  cases mirrored with
  | task marked => exact marked.yielding

end Future

end Resumption
