/-
Book — a world that keeps book of brackets.

Beside another world stands a book, in which each bracket that acquires its
resource takes a ticket and each call and each end of its release is marked with
that ticket.  Tickets are numbered in the order in which they are taken.  The
library's events are entered as they are told.

What a future still owes is its stock, seen from one ticket: how often that
ticket is in use, how often its release is under way, and how many brackets hold
a resource.  A step is balanced when the entries it makes account for the change
in stock:

| an entry         | is balanced by                                  |
|------------------|-------------------------------------------------|
| `opened i`       | one more use of `i`                             |
| `called i`       | one use of `i` that became a release of `i`     |
| `finished i`     | one release of `i` less                         |
| `acquired`       | one more bracket that holds its resource        |
| `released`       | one less                                        |
| `bracketCancelled` | one less                                      |
-/
import Mathlib.Data.List.Nodup
import Resumption.Event

namespace Resumption

/-- An entry of the book. -/
inductive Mark where
  | opened (ticket : Nat)
  | called (ticket : Nat)
  | finished (ticket : Nat)
  | told (e : Event)
deriving DecidableEq

/-- The contribution of an entry to the number of resources that were released. -/
def Mark.releases : Mark → Nat
  | .told (.released _ _) => 1
  | _ => 0

/-- A world with a book beside it. -/
structure Booked (σ : Type) where
  world : σ
  book : List Mark

namespace Booked

variable {σ : Type}

/-- An empty book beside a world. -/
def blank (w : σ) : Booked σ := ⟨w, []⟩

/-- What others do in a world with a book: they make no entries. -/
def Aside (b b' : Booked σ) : Prop :=
  b'.book = b.book

/-- Makes an entry. -/
def write (m : Mark) (b : Booked σ) : Booked σ :=
  { b with book := b.book ++ [m] }

instance [Observer σ] : Observer (Booked σ) where
  note e b := { world := note e b.world, book := b.book ++ [.told e] }
  setClock t b := { b with world := setClock t b.world }

/-- The tickets that were taken, in order. -/
def tickets (b : Booked σ) : List Nat :=
  b.book.filterMap fun
    | .opened i => some i
    | _ => none

/-- The number of the next ticket. -/
def next (b : Booked σ) : Nat :=
  b.tickets.length

/-- The tickets are numbered in order. -/
def Numbered (b : Booked σ) : Prop :=
  b.tickets = List.range b.next

/-! ## Counting entries -/

/-- How often ticket `i` was taken. -/
def opened (i : Nat) (b : Booked σ) : Nat :=
  b.book.count (.opened i)

/-- How often the release of ticket `i` was called. -/
def called (i : Nat) (b : Booked σ) : Nat :=
  b.book.count (.called i)

/-- How often the release of ticket `i` came to its end. -/
def finished (i : Nat) (b : Booked σ) : Nat :=
  b.book.count (.finished i)

/-- How many resources were acquired. -/
def acquired (b : Booked σ) : Nat :=
  b.book.count (.told .acquired)

/-- How many brackets released their resource. -/
def released (b : Booked σ) : Nat :=
  b.book.countP fun
    | .told (.released _ _) => true
    | _ => false

/-- How many brackets were cancelled before. -/
def cancelled (b : Booked σ) : Nat :=
  b.book.count (.told .bracketCancelled)

/-- The contribution of ticket `j` to the counts of ticket `i`. -/
def tick (i j : Nat) : Nat :=
  if j = i then 1 else 0

/-- A ticket is taken at most once where tickets are numbered in order. -/
theorem opened_eq (i : Nat) (b : Booked σ) : b.opened i = b.tickets.count i := by
  unfold opened tickets
  induction b.book with
  | nil => rfl
  | cons m book ih =>
    cases m with
    | opened j =>
      rw [List.count_cons, ih, List.filterMap_cons, List.count_cons]
      simp
    | called j => rw [List.count_cons_of_ne (by simp), ih, List.filterMap_cons]
    | finished j => rw [List.count_cons_of_ne (by simp), ih, List.filterMap_cons]
    | told e => rw [List.count_cons_of_ne (by simp), ih, List.filterMap_cons]

theorem Numbered.opened_le {b : Booked σ} (h : b.Numbered) (i : Nat) : b.opened i ≤ 1 := by
  rw [opened_eq, h]
  exact List.nodup_iff_count_le_one.mp List.nodup_range i

/-! ## One more entry -/

section Write

variable (i j : Nat) (m : Mark) (b : Booked σ)

theorem opened_write : (b.write m).opened i = b.opened i + if m = .opened i then 1 else 0 := by
  simp only [opened, write, List.count_append, List.count_singleton, beq_iff_eq]

theorem called_write : (b.write m).called i = b.called i + if m = .called i then 1 else 0 := by
  simp only [called, write, List.count_append, List.count_singleton, beq_iff_eq]

theorem finished_write :
    (b.write m).finished i = b.finished i + if m = .finished i then 1 else 0 := by
  simp only [finished, write, List.count_append, List.count_singleton, beq_iff_eq]

theorem acquired_write :
    (b.write m).acquired = b.acquired + if m = .told .acquired then 1 else 0 := by
  simp only [acquired, write, List.count_append, List.count_singleton, beq_iff_eq]

theorem cancelled_write :
    (b.write m).cancelled = b.cancelled + if m = .told .bracketCancelled then 1 else 0 := by
  simp only [cancelled, write, List.count_append, List.count_singleton, beq_iff_eq]

theorem released_write : (b.write m).released = b.released + m.releases := by
  simp only [released, write, List.countP_append, List.countP_singleton]
  rcases m with _ | _ | _ | ⟨_ | _ | _ | _ | _ | _ | _ | _ | _⟩ <;> rfl

theorem tickets_write : (b.write m).tickets = b.tickets ++ match m with
    | .opened i => [i]
    | _ => [] := by
  simp only [tickets, write, List.filterMap_append]
  cases m <;> rfl

end Write

/-- Entries that are no tickets keep the numbers. -/
theorem Numbered.write {b : Booked σ} {m : Mark} (h : b.Numbered) (hm : ∀ i, m ≠ .opened i) :
    (b.write m).Numbered := by
  have same : (b.write m).tickets = b.tickets := by
    rw [tickets_write]
    cases m with
    | opened i => exact absurd rfl (hm i)
    | _ => exact List.append_nil _
  unfold Numbered next at h ⊢
  rw [same]
  exact h

/-- The next ticket gets the next number. -/
theorem Numbered.write_next {b : Booked σ} (h : b.Numbered) :
    (b.write (.opened b.next)).Numbered := by
  have grown : (b.write (.opened b.next)).tickets = b.tickets ++ [b.next] := tickets_write _ b
  have length : (b.write (.opened b.next)).next = b.next + 1 := by
    rw [next, grown, List.length_append, List.length_singleton, next]
  rw [Numbered, grown, length, List.range_succ, ← h]

end Booked

/-! ## Stock -/

/-- What is owed, seen from one ticket. -/
structure Stock where
  inUse : Nat
  releasing : Nat
  held : Nat

namespace Stock

/-- Nothing is owed. -/
def none : Stock := ⟨0, 0, 0⟩

/-- A use of ticket `j`, seen from ticket `i`. -/
def used (i j : Nat) : Stock := ⟨Booked.tick i j, 0, 0⟩

/-- A release of ticket `j`, seen from ticket `i`. -/
def released (i j : Nat) : Stock := ⟨0, Booked.tick i j, 0⟩

/-- One resource that is held. -/
def holding : Stock := ⟨0, 0, 1⟩

instance : Add Stock := ⟨fun s t => ⟨s.inUse + t.inUse, s.releasing + t.releasing, s.held + t.held⟩⟩

@[simp] theorem add_inUse (s t : Stock) : (s + t).inUse = s.inUse + t.inUse := rfl
@[simp] theorem add_releasing (s t : Stock) : (s + t).releasing = s.releasing + t.releasing := rfl
@[simp] theorem add_held (s t : Stock) : (s + t).held = s.held + t.held := rfl

theorem add_none (s : Stock) : s + none = s := rfl

theorem none_add (s : Stock) : none + s = s := by
  show Stock.mk _ _ _ = s
  simp only [none, Nat.zero_add]

theorem add_comm (s t : Stock) : s + t = t + s := by
  show Stock.mk _ _ _ = Stock.mk _ _ _
  simp only [Nat.add_comm]

theorem add_assoc (s t u : Stock) : s + t + u = s + (t + u) := by
  show Stock.mk _ _ _ = Stock.mk _ _ _
  simp only [add_inUse, add_releasing, add_held, Nat.add_assoc]

instance : Std.Commutative (α := Stock) (· + ·) := ⟨add_comm⟩

instance : Std.Associative (α := Stock) (· + ·) := ⟨add_assoc⟩

end Stock

/-- The entries between two states of the book account for the change in stock. -/
structure Balanced {σ : Type} (i : Nat) (b : Booked σ) (s : Stock) (b' : Booked σ) (s' : Stock) :
    Prop where
  uses : b'.opened i + b.called i + s.inUse = b.opened i + b'.called i + s'.inUse
  releases : b'.called i + b.finished i + s.releasing = b.called i + b'.finished i + s'.releasing
  holds : b'.acquired + (b.released + b.cancelled) + s.held =
    b.acquired + (b'.released + b'.cancelled) + s'.held
  numbers : b.Numbered → b'.Numbered

namespace Balanced

variable {σ : Type} {i : Nat} {b b₁ b₂ : Booked σ} {s s₁ s₂ t : Stock}

theorem of_book_eq (h : b₁.book = b.book) : Balanced i b s b₁ s := by
  obtain ⟨w, book⟩ := b
  obtain ⟨w₁, book₁⟩ := b₁
  obtain rfl : book₁ = book := h
  exact ⟨rfl, rfl, rfl, fun h => h⟩

theorem refl : Balanced i b s b s :=
  .of_book_eq rfl

theorem trans (h : Balanced i b s b₁ s₁) (h' : Balanced i b₁ s₁ b₂ s₂) :
    Balanced i b s b₂ s₂ where
  uses := by
    have := h.uses
    have := h'.uses
    omega
  releases := by
    have := h.releases
    have := h'.releases
    omega
  holds := by
    have := h.holds
    have := h'.holds
    omega
  numbers := h'.numbers ∘ h.numbers

/-- What is owed elsewhere does not matter. -/
theorem frame (h : Balanced i b s b₁ s₁) (t : Stock) : Balanced i b (s + t) b₁ (s₁ + t) where
  uses := by
    have := h.uses
    simp only [Stock.add_inUse]
    omega
  releases := by
    have := h.releases
    simp only [Stock.add_releasing]
    omega
  holds := by
    have := h.holds
    simp only [Stock.add_held]
    omega
  numbers := h.numbers

/-- What is owed elsewhere does not matter to a step that settles all it is about. -/
theorem settle (h : Balanced i b s b₁ .none) (t : Stock) : Balanced i b (s + t) b₁ t := by
  have framed := h.frame t
  rw [Stock.none_add] at framed
  exact framed

/-! ### Entries -/

open Booked

variable {j : Nat}

/-- An entry is balanced that adds to the counts what it takes from the stock. -/
theorem entry {m : Mark} {s' : Stock}
    (uses : s'.inUse + (if m = .called i then 1 else 0) =
      s.inUse + if m = .opened i then 1 else 0)
    (releases : s'.releasing + (if m = .finished i then 1 else 0) =
      s.releasing + if m = .called i then 1 else 0)
    (holds : s'.held + (m.releases + if m = .told .bracketCancelled then 1 else 0) =
      s.held + if m = .told .acquired then 1 else 0)
    (numbers : b.Numbered → (b.write m).Numbered) : Balanced i b s (b.write m) s' where
  uses := by
    rw [opened_write, called_write]
    omega
  releases := by
    rw [finished_write, called_write]
    omega
  holds := by
    rw [acquired_write, released_write, cancelled_write]
    omega
  numbers := numbers

/-- A ticket was taken. -/
theorem opened : Balanced i b .none (b.write (.opened b.next)) (.used i b.next) :=
  entry (by simp [Stock.none, Stock.used, tick]) (by simp [Stock.none, Stock.used])
    (by simp [Stock.none, Stock.used, Mark.releases]) Numbered.write_next

/-- A release was called. -/
theorem called : Balanced i b (.used i j) (b.write (.called j)) (.released i j) :=
  entry (by simp [Stock.used, Stock.released, tick]) (by simp [Stock.used, Stock.released, tick])
    (by simp [Stock.used, Stock.released, Mark.releases]) fun h => h.write (by simp)

/-- A release came to its end. -/
theorem finished : Balanced i b (.released i j) (b.write (.finished j)) .none :=
  entry (by simp [Stock.none, Stock.released]) (by simp [Stock.none, Stock.released, tick])
    (by simp [Stock.none, Stock.released, Mark.releases]) fun h => h.write (by simp)

variable [Observer σ]

/-- An event is balanced as an entry of its own. -/
theorem told {e : Event} {s' : Stock}
    (holds : s'.held + (Mark.releases (.told e) + if e = .bracketCancelled then 1 else 0) =
      s.held + if e = .acquired then 1 else 0)
    (uses : s'.inUse = s.inUse) (releases : s'.releasing = s.releasing) :
    Balanced i b s (note e b) s' := by
  have entry : Balanced i b s (b.write (.told e)) s' :=
    entry (by simp [uses]) (by simp [releases]) (by simpa using holds) fun h => h.write (by simp)
  exact entry.trans (.of_book_eq rfl)

/-- A resource was acquired. -/
theorem acquired : Balanced i b .none (note .acquired b) .holding :=
  told (by simp [Stock.none, Stock.holding, Mark.releases]) rfl rfl

/-- A bracket takes its ticket when its acquisition ends with a resource. -/
theorem taken (b : Booked σ) :
    Balanced i b .none (note .acquired (b.write (.opened b.next))) (.used i b.next + .holding) := by
  have acquired : Balanced i (b.write (.opened b.next)) .none _ .holding := acquired
  have framed := acquired.frame (.used i b.next)
  rw [Stock.none_add, Stock.add_comm] at framed
  exact opened.trans framed

/-- A bracket released its resource. -/
theorem released (u r : Bool) : Balanced i b .holding (note (.released u r) b) .none :=
  told (by simp [Stock.none, Stock.holding, Mark.releases]) rfl rfl

/-- A bracket was cancelled. -/
theorem cancelled : Balanced i b .holding (note .bracketCancelled b) .none :=
  told (by simp [Stock.none, Stock.holding, Mark.releases]) rfl rfl

/-- The other events are not about a resource. -/
theorem aside {e : Event} (acquired : e ≠ .acquired) (cancelled : e ≠ .bracketCancelled)
    (released : Mark.releases (.told e) = 0) : Balanced i b s (note e b) s :=
  told (by simp [acquired, cancelled, released]) rfl rfl

end Balanced

end Resumption
