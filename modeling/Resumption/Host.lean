/-
Host — what a closure handed to the library may do.

A closure reads and changes a world of type `σ` and ends with a value or with a
panic.  The library never looks into the world; it only passes it on, and tells
it of its own events through `Observer` (see `Resumption.Event`).  So the order
in which closures run is the order in which the world is threaded, and two
computations that end in the same value and the same world for every world have
done the same things in the same order.

Values may live in any universe: programs and actions are larger than the data
they work on.
-/

namespace Resumption

universe u v w x

/-- What a panicking closure throws.  Only a text payload has a text to show. -/
inductive Panic where
  | text (message : String)
  | nonText
deriving DecidableEq

/-- The text of a panic. -/
def Panic.message : Panic → String
  | text m => m
  | nonText => "non-string panic payload"

/-- A run of a closure: it moves the world and ends with a value or a panic. -/
def Host (σ : Type) (α : Type u) : Type u :=
  σ → Except Panic α × σ

namespace Host

variable {σ : Type} {α : Type u} {β : Type v}

/-- Ends with a value and leaves the world alone. -/
@[inline] def pure (a : α) : Host σ α :=
  fun w => (.ok a, w)

/-- Panics and leaves the world alone. -/
@[inline] def panic (p : Panic) : Host σ α :=
  fun w => (.error p, w)

/-- Runs a closure, then a second one on its value; a panic of the first ends both. -/
@[inline] def bind (h : Host σ α) (k : α → Host σ β) : Host σ β :=
  fun w =>
    match h w with
    | (.ok a, w) => k a w
    | (.error p, w) => (.error p, w)

/-- Transforms the value a closure ends with. -/
@[inline] def map (f : α → β) (h : Host σ α) : Host σ β :=
  h.bind fun a => pure (f a)

/-- Changes the world. -/
@[inline] def modify (f : σ → σ) : Host σ PUnit :=
  fun w => (.ok ⟨⟩, f w)

/-- Catches a panic: how the closure ended, as a value. -/
@[inline] def settled (h : Host σ α) : Host σ (Except Panic α) :=
  fun w =>
    match h w with
    | (r, w) => (.ok r, w)

/-- Goes on `n` times from a value, with the number of each time, which starts at `i`. -/
def times (f : Nat → α → Host σ α) (n i : Nat) (a : α) (w : σ) : Except Panic α × σ :=
  match n with
  | 0 => (.ok a, w)
  | n + 1 =>
    match f i a w with
    | (.ok a, w) => times f n (i + 1) a w
    | (.error p, w) => (.error p, w)

instance : Monad (Host.{u} σ) where
  pure := Host.pure
  bind := Host.bind

@[simp] theorem bind_pure (h : Host σ α) : h.bind pure = h := by
  funext w
  unfold bind
  split <;> rename_i e <;> exact e.symm

theorem bind_assoc {γ : Type _} (h : Host σ α) (k : α → Host σ β) (l : β → Host σ γ) :
    (h.bind k).bind l = h.bind fun a => (k a).bind l := by
  funext w
  unfold bind
  rcases h w with ⟨_ | _, _⟩ <;> rfl

theorem map_map {X : Type u} {Y : Type v} {Z : Type w} (h : Host σ X) (f : X → Y) (g : Y → Z) :
    (h.map f).map g = h.map (g ∘ f) :=
  bind_assoc ..

theorem map_bind_id {X : Type u} {Y : Type v} (h : Host σ X) (k : X → Host σ Y) :
    (h.map k).bind id = h.bind k :=
  bind_assoc ..

theorem map_apply {X : Type u} {Y : Type v} (h : Host σ X) (f : X → Y) (w : σ) :
    h.map f w = ((h w).1.map f, (h w).2) := by
  unfold Host.map Host.bind Host.pure
  rcases h w with ⟨p | a, v⟩ <;> rfl

/-- What goes on along a transformed value goes on from the value, and is transformed. -/
theorem map_bind_map {X : Type u} {X' : Type v} {Y : Type w} {Y' : Type x} {h : Host σ X}
    {i : X → X'} {j : Y → Y'} {k : X → Host σ Y} {k' : X' → Host σ Y'}
    (along : ∀ a, k' (i a) = (k a).map j) : (h.map i).bind k' = (h.bind k).map j :=
  (bind_assoc ..).trans ((congrArg h.bind (funext along)).trans (bind_assoc ..).symm)

theorem map_eq_ok {X : Type u} {Y : Type v} {h : Host σ X} {f : X → Y} {b : Y} {w w' : σ} :
    h.map f w = (.ok b, w') ↔ ∃ a, h w = (.ok a, w') ∧ f a = b := by
  unfold Host.map Host.bind Host.pure
  rcases h w with ⟨p | a, v⟩
  · simp
  · constructor
    · rintro ⟨⟩
      exact ⟨a, rfl, rfl⟩
    · rintro ⟨_, ⟨⟩, rfl⟩
      rfl

theorem map_eq_error {X : Type u} {Y : Type v} {h : Host σ X} {f : X → Y} {p : Panic} {w w' : σ} :
    h.map f w = (.error p, w') ↔ h w = (.error p, w') := by
  unfold Host.map Host.bind Host.pure
  rcases h w with ⟨q | a, v⟩
  · exact ⟨fun e => by cases e; rfl, fun e => by cases e; rfl⟩
  · exact ⟨nofun, nofun⟩

end Host

end Resumption
