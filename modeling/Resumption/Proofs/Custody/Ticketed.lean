/-
Ticketed — futures whose brackets keep book.

`Future.ticketed` is a future in a world with a book: its closures do what they
did and leave the book alone, and its brackets take tickets.  The ticket travels
with the resource, from the acquisition to the release.

| what a bracket does                   | is entered as    |
|---------------------------------------|------------------|
| its acquisition ends with a resource  | `opened i`       |
| its release is called                 | `called i`       |
| the release comes to its end          | `finished i`     |

`Owns i q a s` says what `a` owes, seen from ticket `i`: every bracket in it holds
its ticket in one place, as a release that is still to be called or as one that
is under way, and whatever its closures return has not begun and owes nothing.
A release is bound to be run to its end, by its bracket or by a task; all else is
free to be dropped.
-/
import Resumption.Proofs.Custody.Book
import Resumption.Proofs.Future.Fresh

namespace Resumption

variable {σ : Type} {α β γ ρ : Type}

/-- A closure beside a book that it does not see. -/
def Host.aside (h : Host σ α) : Host (Booked σ) α :=
  fun b => match h b.world with
    | (r, w) => (r, { b with world := w })

/-- A closure that makes no entries. -/
def Host.Unmarked (h : Host (Booked σ) α) : Prop :=
  ∀ b, (h b).2.book = b.book

theorem Host.aside_unmarked (h : Host σ α) : h.aside.Unmarked :=
  fun _ => rfl

namespace Future

/-! ## Tickets -/

/-- Takes the next ticket for a resource. -/
def takeTicket : Except Failure ρ → Host (Booked σ) (Except Failure (ρ × Nat))
  | .ok x => fun b => (.ok (.ok (x, b.next)), b.write (.opened b.next))
  | .error e => .pure (.error e)

/-- Marks the end of the release of ticket `i`. -/
def markEnd (i : Nat) (o : Except Failure α) : Host (Booked σ) (Except Failure α) :=
  fun b => (.ok o, b.write (.finished i))

/-- A release that is marked with ticket `i` when it is called and when it ends. -/
def marked (i : Nat) (s : Booked σ → Call (Booked σ) α) : Future (Booked σ) α :=
  conclude (suspend fun b => s (b.write (.called i))) (markEnd i)

mutual

/-- The future in a world with a book, with tickets for its brackets. -/
def ticketed {α : Type} : Future σ α → Future (Booked σ) α
  | ready o => ready o
  | perform h => perform h.aside
  | suspend s => suspend fun b => (s b.world).ticketed b
  | conclude a f => conclude a.ticketed fun o => (f o).aside
  | bind a k => bind a.ticketed fun x b => (k x b.world).ticketed b
  | rescue a k => rescue a.ticketed fun e b => (k e b.world).ticketed b
  | bracket acquire use release =>
    bracket (conclude acquire.ticketed takeTicket) (fun x b => (use x.1 b.world).ticketed b)
      fun x o b => .returned (marked x.2 fun b => (release x.1 o b.world).ticketed b) b
  | sleep ms => sleep ms
  | pause => pause
  | never => never
  | both a b f => both a.ticketed b.ticketed fun x y => (f x y).aside
  | within limit a => within limit a.ticketed
  | inUse scopes use release =>
    inUse scopes use.ticketed fun o b => (release o b.world).ticketed b
  | releasing scopes used release => releasing scopes used release.ticketed
  | sleeping t => sleeping t
  | paused => paused
  | timing scope around limit deadline a => timing scope around limit deadline a.ticketed
  | draining tasks limit outcome => draining tasks limit outcome

/-- What a call returned, in a world with a book. -/
def Call.ticketed {α : Type} : Call σ α → Booked σ → Call (Booked σ) α
  | .returned a w, b => .returned a.ticketed { b with world := w }
  | .panicked p w, b => .panicked p { b with world := w }

end

/-! ## Owning tickets -/

/-- The world that a call ends in. -/
def Call.world : Call σ α → σ
  | .returned _ w => w
  | .panicked _ w => w

/-- A call makes no entries by itself. -/
theorem Call.ticketed_world (c : Call σ α) (b : Booked σ) : (c.ticketed b).world.book = b.book := by
  cases c <;> rfl

variable [Observer σ]

/-- A future that may be dropped, or one that has to be run to its end. -/
inductive Tenure where
  | free
  | bound

/-- What a future owes, seen from ticket `i`. -/
inductive Owns (i : Nat) : Tenure → {α : Type} → Future (Booked σ) α → Stock → Prop
  | ready {α : Type} (o : Except Failure α) : Owns i .free (ready o) .none
  | perform {α : Type} {h : Host (Booked σ) (Except Failure α)} : h.Unmarked →
      Owns i .free (perform h) .none
  | suspend {α : Type} {s : Booked σ → Call (Booked σ) α} : (∀ b, (s b).world.book = b.book) →
      (∀ b a b', s b = .returned a b' → Owns i .free a .none) → Owns i .free (suspend s) .none
  | conclude {α β : Type} {a : Future (Booked σ) α}
      {f : Except Failure α → Host (Booked σ) (Except Failure β)} {s : Stock} :
      Owns i .free a s → (∀ o, (f o).Unmarked) → Owns i .free (conclude a f) s
  | bind {α β : Type} {a : Future (Booked σ) α} {k : α → Booked σ → Call (Booked σ) β}
      {s : Stock} : Owns i .free a s → (∀ x b, (k x b).world.book = b.book) →
      (∀ x b c b', k x b = .returned c b' → Owns i .free c .none) → Owns i .free (bind a k) s
  | rescue {α : Type} {a : Future (Booked σ) α} {k : Failure → Booked σ → Call (Booked σ) α}
      {s : Stock} : Owns i .free a s → (∀ e b, (k e b).world.book = b.book) →
      (∀ e b c b', k e b = .returned c b' → Owns i .free c .none) →
      Owns i .free (rescue a k) s
  | bracket {ρ β : Type} {a : Future (Booked σ) ρ}
      {use : ρ × Nat → Booked σ → Call (Booked σ) β}
      {release : ρ → Option β → Booked σ → Call (Booked σ) Verdict} {s : Stock} :
      Owns i .free a s → (∀ x b, (use x b).world.book = b.book) →
      (∀ x b c b', use x b = .returned c b' → Owns i .free c .none) →
      (∀ x o b, (release x o b).world.book = b.book) →
      (∀ x o b c b', release x o b = .returned c b' → Owns i .free c .none) →
      Owns i .free (bracket (conclude a takeTicket) use fun x o b =>
        .returned (marked x.2 (release x.1 o)) b) s
  | inUse {β : Type} {scopes : Scopes} {use : Future (Booked σ) β} {j : Nat}
      {release : Option β → Booked σ → Call (Booked σ) Verdict} {s : Stock} :
      Owns i .free use s → (∀ o b, (release o b).world.book = b.book) →
      (∀ o b c b', release o b = .returned c b' → Owns i .free c .none) →
      Owns i .free (inUse scopes use fun o b => .returned (marked j (release o)) b)
        (s + (.used i j + .holding))
  | releasing {β : Type} {scopes : Scopes} {used : Except Failure β}
      {release : Future (Booked σ) Verdict} {s : Stock} : Owns i .bound release s →
      Owns i .free (releasing scopes used release) (s + .holding)
  | uncalled {α : Type} {j : Nat} {s : Booked σ → Call (Booked σ) α} :
      (∀ b, (s b).world.book = b.book) →
      (∀ b a b', s b = .returned a b' → Owns i .free a .none) →
      Owns i .bound (marked j s) (.used i j)
  | toBeCalled {α : Type} {j : Nat} {s : Booked σ → Call (Booked σ) α} :
      (∀ b, (s b).world.book = b.book) →
      (∀ b a b', s b = .returned a b' → Owns i .free a .none) →
      Owns i .bound (suspend fun b => .returned (marked j s) b) (.used i j)
  | underWay {α : Type} {j : Nat} {a : Future (Booked σ) α} {s : Stock} : Owns i .free a s →
      Owns i .bound (conclude a (markEnd j)) (s + .released i j)
  | task {o : Orphan (Booked σ)} {s : Stock} : Owns i .bound o.release s →
      Owns i .bound o.task s
  | both {α β γ : Type} {a : Future (Booked σ) α} {b : Future (Booked σ) β}
      {f : α → β → Host (Booked σ) γ} {s t : Stock} : Owns i .free a s → Owns i .free b t →
      (∀ x y, (f x y).Unmarked) → Owns i .free (both a b f) (s + t)
  | within {α : Type} {limit : Duration} {a : Future (Booked σ) α} :
      Owns i .free a .none → Owns i .free (within limit a) .none
  | timing {α : Type} {scope : ScopeId} {around : Scopes} {limit : Duration} {deadline : Nat}
      {a : Future (Booked σ) α} {s : Stock} : Owns i .free a s →
      Owns i .free (timing scope around limit deadline a) s
  | sleep (ms : Nat) : Owns i .free (sleep ms) .none
  | pause : Owns i .free pause .none
  | never {α : Type} : Owns i .free (never (α := α)) .none
  | sleeping (t : Nat) : Owns i .free (sleeping t) .none
  | paused : Owns i .free paused .none
  | draining {α : Type} (tasks : List TaskId) (limit : Duration)
      (outcome : Option (Except Failure α)) : Owns i .free (draining tasks limit outcome) .none

mutual

/-- A future that has not begun owes nothing. -/
theorem ticketed_owns (i : Nat) {α : Type} : (a : Future σ α) → a.Fresh →
    Owns i .free a.ticketed .none
  | ready o, _ => .ready o
  | perform h, _ => .perform h.aside_unmarked
  | suspend s, fresh =>
    .suspend (fun b => (s b.world).ticketed_world b)
      fun b => (s b.world).ticketed_owns i (fresh _) b
  | conclude a f, fresh => .conclude (a.ticketed_owns i fresh) fun o => (f o).aside_unmarked
  | bind a k, fresh =>
    .bind (a.ticketed_owns i fresh.1) (fun x b => (k x b.world).ticketed_world b)
      fun x b => (k x b.world).ticketed_owns i (fresh.2 _ _) b
  | rescue a k, fresh =>
    .rescue (a.ticketed_owns i fresh.1) (fun e b => (k e b.world).ticketed_world b)
      fun e b => (k e b.world).ticketed_owns i (fresh.2 _ _) b
  | bracket acquire use release, fresh =>
    .bracket (acquire.ticketed_owns i fresh.1) (fun x b => (use x.1 b.world).ticketed_world b)
      (fun x b => (use x.1 b.world).ticketed_owns i (fresh.2.1 _ _) b)
      (fun x o b => (release x o b.world).ticketed_world b)
      fun x o b => (release x o b.world).ticketed_owns i (fresh.2.2 _ _ _) b
  | sleep ms, _ => .sleep ms
  | pause, _ => .pause
  | never, _ => .never
  | both a b f, fresh =>
    .both (a.ticketed_owns i fresh.1) (b.ticketed_owns i fresh.2) fun x y => (f x y).aside_unmarked
  | within _ a, fresh => .within (a.ticketed_owns i fresh)

/-- Nor does what a call returned. -/
theorem Call.ticketed_owns (i : Nat) {α : Type} : (c : Call σ α) → c.Fresh →
    ∀ b a b', c.ticketed b = .returned a b' → Owns i .free a .none
  | .returned a _, fresh => by
    intro b a' b' returned
    obtain ⟨rfl, -⟩ := Call.returned.inj returned
    exact a.ticketed_owns i fresh
  | .panicked p w, _ => by
    intro b a' b' returned
    cases returned

end

end Future

end Resumption
