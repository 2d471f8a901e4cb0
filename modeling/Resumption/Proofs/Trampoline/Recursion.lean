/-
Recursion — a trampoline computes what plain recursion computes.

A leap is the record of how a trampoline was put together.  `Leap.build` does what was
recorded and gets the trampoline; `Leap.eval` is the recursion along the record, and
`Leap.jumps` the number of its deferred parts that this recursion evaluates.

| leap           | is built by          | evaluates to                              | jumps       |
|----------------|----------------------|-------------------------------------------|-------------|
| `done a`       | `Trampoline.done`    | `a`                                       | none        |
| `delay h`      | `Trampoline.delay`   | the value of `h`                          | one         |
| `suspend h`    | `Trampoline.suspend` | the value of the leap of `h`              | one more    |
| `map l f`      | `Trampoline.map`     | the value of `f` at that of `l`           | as `l`      |
| `bind l k`     | `Trampoline.bind`    | the value of `k`'s leap at that of `l`    | of both     |
| `andThen l l'` | `Trampoline.andThen` | the value of `l'`, after `l`              | of both     |

What was built forces as many thunks as the record has jumps, and ends as the recursion
does, in every world (`Leap.forced_built`).  So it makes the same calls in the same order.
-/
import Resumption.Proofs.Trampoline.Bounce

namespace Resumption

variable {σ α β : Type}

/-! ## Leaps -/

mutual

/-- How a trampoline was put together. -/
inductive Leap (σ : Type) : Type → Type 1 where
  | done {α : Type} (a : α) : Leap σ α
  | delay {α : Type} (h : Host σ α) : Leap σ α
  | suspend {α : Type} (h : σ → Leap.Call σ α) : Leap σ α
  | map {α β : Type} (l : Leap σ α) (f : α → Host σ β) : Leap σ β
  | bind {α β : Type} (l : Leap σ α) (k : α → σ → Leap.Call σ β) : Leap σ β
  | andThen {α β : Type} (l : Leap σ α) (next : Leap σ β) : Leap σ β

/-- How the call of a closure ends: with a leap or with a panic, in some world. -/
inductive Leap.Call (σ : Type) : Type → Type 1 where
  | returned {α : Type} (l : Leap σ α) (world : σ) : Leap.Call σ α
  | panicked {α : Type} (p : Panic) (world : σ) : Leap.Call σ α

end

namespace Leap

mutual

/-- Builds the trampoline that was recorded. -/
def build {α : Type} : Leap σ α → Host σ (Trampoline σ α)
  | done a => .pure (.done a)
  | delay h => Trampoline.delay h
  | suspend h => Trampoline.suspend fun w => (h w).build
  | map l f => l.build.map fun t => t.map f
  | bind l k => l.build.map fun t => t.bind fun a w => (k a w).build
  | andThen l next => l.build.bind fun t => next.build.map fun t' => t.andThen t'

/-- Builds what a closure returned. -/
def Call.build {α : Type} : Call σ α → Except Panic (Trampoline σ α) × σ
  | .returned l w => l.build w
  | .panicked p w => (.error p, w)

end

mutual

/-- The recursion along a leap. -/
def eval {α : Type} : Leap σ α → Host σ α
  | done a => .pure a
  | delay h => h
  | suspend h => fun w => (h w).eval
  | map l f => l.eval.bind f
  | bind l k => l.eval.bind fun a w => (k a w).eval
  | andThen l next => l.eval.bind fun _ => next.eval

/-- The recursion along what a closure returned. -/
def Call.eval {α : Type} : Call σ α → Except Panic α × σ
  | .returned l w => l.eval w
  | .panicked p w => (.error p, w)

end

mutual

/-- The number of suspended and delayed parts that the recursion evaluates. -/
def jumps {α : Type} : Leap σ α → σ → Nat
  | done _, _ => 0
  | delay _, _ => 1
  | suspend h, w => (h w).jumps + 1
  | map l _, w => l.jumps w
  | bind l k, w =>
    match l.eval w with
    | (.ok a, v) => (k a v).jumps + l.jumps w
    | (.error _, _) => l.jumps w
  | andThen l next, w =>
    match l.eval w with
    | (.ok _, v) => next.jumps v + l.jumps w
    | (.error _, _) => l.jumps w

/-- The number of those in what a closure returned. -/
def Call.jumps {α : Type} : Call σ α → Nat
  | .returned l w => l.jumps w
  | .panicked _ _ => 0

end

/-- How the recursion ends, and how many jumps it makes. -/
def tally (l : Leap σ α) (w : σ) : Tally σ α :=
  (l.jumps w, l.eval w)

/-- How it ends along what a closure returned. -/
def Call.tally (c : Call σ α) : Tally σ α :=
  (c.jumps, c.eval)

theorem tally_suspend (h : σ → Call σ α) (w : σ) :
    (suspend h).tally w = Tally.andThen (1, .ok (), w) fun _ v => (h v).tally :=
  rfl

theorem tally_map (l : Leap σ α) (f : α → Host σ β) (w : σ) :
    (l.map f).tally w = (l.tally w).andThen fun a v => (0, f a v) := by
  unfold tally
  simp only [jumps, eval, Host.bind]
  rcases l.eval w with ⟨p | a, v⟩
  · rfl
  · exact congrArg (·, f a v) (Nat.zero_add _).symm

theorem tally_bind (l : Leap σ α) (k : α → σ → Call σ β) (w : σ) :
    (l.bind k).tally w = (l.tally w).andThen fun a v => (k a v).tally := by
  unfold tally
  simp only [jumps, eval, Host.bind]
  rcases l.eval w with ⟨p | a, v⟩ <;> rfl

theorem tally_andThen (l : Leap σ α) (next : Leap σ β) (w : σ) :
    (l.andThen next).tally w = (l.tally w).andThen fun _ v => next.tally v := by
  unfold tally
  simp only [jumps, eval, Host.bind]
  rcases l.eval w with ⟨p | a, v⟩ <;> rfl

/-! ## What was built -/

open Trampoline in
mutual

/-- Building calls nothing, and what was built forces a thunk at each jump and ends as the
recursion does. -/
theorem tally_build {α : Type} : (l : Leap σ α) → ∃ t, l.build = .pure t ∧ t.tally = l.tally
  | done a => ⟨.done a, by rw [build], rfl⟩
  | delay h => by
    refine ⟨⟨.suspend ⟨h⟩⟩, ?_, rfl⟩
    rw [build, delay_eq]
  | suspend h => by
    obtain ⟨t, built, tallied⟩ := Trampoline.tally_suspend fun w => (h w).build
    refine ⟨t, by rw [build, built], funext fun w => (tallied w).trans ?_⟩
    rw [tally_suspend]
    exact congrArg (Tally.andThen _) (funext fun _ => funext fun v => Call.tally_build (h v))
  | map l f => by
    obtain ⟨t, built, tallied⟩ := tally_build l
    refine ⟨t.map f, by rw [build, built]; rfl, funext fun w => ?_⟩
    rw [Trampoline.tally_map, tally_map, tallied]
  | bind l k => by
    obtain ⟨t, built, tallied⟩ := tally_build l
    refine ⟨t.bind fun a w => (k a w).build, by rw [build, built]; rfl, funext fun w => ?_⟩
    refine (Trampoline.tally_bind t _ w).trans ?_
    rw [tally_bind, tallied]
    exact congrArg (Tally.andThen _) (funext fun a => funext fun v => Call.tally_build (k a v))
  | andThen l next => by
    obtain ⟨t, built, tallied⟩ := tally_build l
    obtain ⟨t', built', tallied'⟩ := tally_build next
    refine ⟨t.andThen t', by rw [build, built, built']; rfl, funext fun w => ?_⟩
    rw [Trampoline.tally_andThen, tally_andThen, tallied, tallied']

theorem Call.tally_build {α : Type} : (c : Call σ α) → tallyBuilt c.build = c.tally
  | .returned l w => by
    obtain ⟨t, built, tallied⟩ := Leap.tally_build l
    rw [Call.build, built]
    exact congrFun tallied w
  | .panicked p w => by
    rw [Call.build]
    rfl

end

end Leap

/-! ## Trampolines are recursion -/

/-- A trampoline computes what the recursion along its record computes, and makes the same
calls in the same order: from every world, running it and looping by hand end with the same
value or panic in the same world as the recursion.  The loop is answered a thunk once for each
suspended and delayed part that the recursion evaluates. -/
theorem trampoline_eq_recursion (σ : Type) [Observer σ] {α : Type} (l : Leap (Untraced σ) α) :
    ∃ t, l.build = .pure t ∧ t.run = l.eval ∧
      ∀ w n o w', t.Bounces w n o w' ↔ n = l.jumps w ∧ (o, w') = l.eval w := by
  obtain ⟨t, built, tallied⟩ := l.tally_build
  refine ⟨t, built, funext fun w => ?_, fun w n o w' => ?_⟩
  · rw [t.run_eq_tally, tallied]
    rfl
  · rw [t.bounces_iff, tallied]
    constructor
    · intro ended
      exact ⟨(congrArg Prod.fst ended).symm, (congrArg Prod.snd ended).symm⟩
    · rintro ⟨rfl, ended⟩
      exact congrArg (Prod.mk _) ended.symm

/-- The sum of the numbers up to `n`, each added after a suspended call for the smaller ones. -/
def Leap.sumTo : Nat → Leap σ Nat
  | 0 => .done 0
  | n + 1 => .map (.suspend (.returned (sumTo n))) fun sum => .pure (sum + (n + 1))

example : (Leap.sumTo 10).tally () = (10, .ok 55, ()) := rfl

end Resumption
