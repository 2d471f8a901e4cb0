/-
LifeCycle — what an action answers to polls, one after another.

Whoever polls an action, a caller by hand or the action around it, polls it on occasions of
his own: between two polls the world changes, time passes, and the reactor may come or go.
Whatever the occasions are, the answers are those of the action's future (`Future.answers`):

| poll                                | answer                                   |
|-------------------------------------|------------------------------------------|
| before the future ends              | pending, and the future goes on          |
| in which the future ends            | its outcome                              |
| after that                          | the panic of a poll that comes too late  |

The slots of a stage are full whenever it is polled, since a poll leaves the stage whose
slot it empties.  The thunk is gone after the first poll, and before that poll nothing of
the action is run: building it from its parts calls no closure.
-/
import Resumption.Future.Stage
import Resumption.Proofs.Panics.Run

namespace Resumption

variable {σ : Type} [Observer σ] {α : Type}

/-- A world and a reactor in which a poll takes place, or that it leaves. -/
abbrev Occasion (σ : Type) : Type 1 :=
  σ × Option (Reactor σ)

/-! ## Polls one after another -/

/-- Polls a stage on some occasions: the answers with the occasions that the polls leave, and
the stage in the end. -/
def Stage.polls (scopes : Scopes) : Stage σ α → List (Occasion σ) →
    List (Answer α × Occasion σ) × Stage σ α
  | s, [] => ([], s)
  | s, (w, r) :: ms =>
    match s.poll scopes w r with
    | (answer, s, m) => ((answer, m) :: (s.polls scopes ms).1, (s.polls scopes ms).2)

/-- The same for a handle. -/
def Handle.polls : Handle σ α → List (Occasion σ) → List (Answer α × Occasion σ)
  | _, [] => []
  | h, (w, r) :: ms =>
    match h.poll w r with
    | (answer, h, m) => (answer, m) :: h.polls ms

/-- The answer to a poll that leaves the future waiting. -/
def waits (m : Occasion σ) : Answer α × Occasion σ :=
  (.pending, m)

/-- The answer to a poll that comes too late, which leaves all as it was. -/
def tooLate (m : Occasion σ) : Answer α × Occasion σ :=
  (.panicked Handle.polledTooLate, m)

/-- Waits, and then perhaps an outcome, after which all polls come too late. -/
def EndsOnce (ms : List (Occasion σ)) (answers : List (Answer α × Occasion σ)) : Prop :=
  ∃ waited : List (Occasion σ), answers = waited.map waits ∨
    ∃ o m late, late <:+ ms ∧
      answers = waited.map waits ++ (.outcome o, m) :: late.map tooLate

/-- The answers of an action whose future is still to be run. -/
def Future.answers (scopes : Scopes) : Future σ α → List (Occasion σ) →
    List (Answer α × Occasion σ)
  | _, [] => []
  | a, (w, r) :: ms =>
    match a.poll scopes w r with
    | ⟨.ended o, w, r⟩ => (.outcome o, w, r) :: ms.map tooLate
    | ⟨.pending a, w, r⟩ => (.pending, w, r) :: a.answers scopes ms

/-! ## Stages -/

namespace Stage

/-- There is something in the slot, if the stage has one. -/
def Full : Stage σ α → Prop
  | ready slot => slot.isSome
  | deferred slot => slot.isSome
  | running _ | completed => True

/-- Nothing is left to be built. -/
def Begun : Stage σ α → Prop
  | ready _ | deferred _ => False
  | running _ | completed => True

omit [Observer σ] in
theorem Begun.full {s : Stage σ α} (begun : s.Begun) : s.Full := by
  cases s with
  | ready | deferred => cases begun
  | running | completed => trivial

omit [Observer σ] in
theorem full_new (a : Future σ α) : (new a).Full := by
  cases a <;> rfl

/-- The first poll of an action is a poll of its future. -/
theorem poll_new (scopes : Scopes) (a : Future σ α) (w : σ) (r : Option (Reactor σ)) :
    (new a).poll scopes w r = pollRunning scopes a w r := by
  cases a with
  | ready o => rw [new, poll, pollRunning, Future.poll]
  | suspend s =>
    rw [new, poll, pollRunning, Future.poll, supplied]
    rcases s w with ⟨a, w⟩ | ⟨p, w⟩
    · rw [Future.Call.poll]
      rfl
    · rw [Future.Call.poll]
      dsimp only
      rw [pollRunning, Future.poll]
  | _ => rfl

theorem pollRunning_begun (scopes : Scopes) (a : Future σ α) (w : σ) (r : Option (Reactor σ)) :
    (pollRunning scopes a w r).2.1.Begun := by
  rw [pollRunning]
  rcases a.poll scopes w r with ⟨o | a, w, r⟩ <;> trivial

/-- A stage with nothing left to be built stays one. -/
theorem poll_begun (scopes : Scopes) {s : Stage σ α} (begun : s.Begun) (w : σ)
    (r : Option (Reactor σ)) : (s.poll scopes w r).2.1.Begun := by
  cases s with
  | ready | deferred => cases begun
  | running a => exact pollRunning_begun scopes a w r
  | completed => trivial

theorem polls_begun (scopes : Scopes) {s : Stage σ α} (begun : s.Begun)
    (ms : List (Occasion σ)) :
    (s.polls scopes ms).2.Begun := by
  induction ms generalizing s with
  | nil => exact begun
  | cons m ms ih => exact ih (poll_begun scopes begun m.1 m.2)

/-- After the first poll nothing is left to be built. -/
theorem polls_new_begun (scopes : Scopes) (a : Future σ α) (m : Occasion σ)
    (ms : List (Occasion σ)) :
    ((new a).polls scopes (m :: ms)).2.Begun := by
  have first : ((new a).poll scopes m.1 m.2).2.1.Begun := by
    rw [poll_new]
    exact pollRunning_begun scopes a m.1 m.2
  exact polls_begun scopes first ms

theorem polls_new_full (scopes : Scopes) (a : Future σ α) (ms : List (Occasion σ)) :
    ((new a).polls scopes ms).2.Full := by
  cases ms with
  | nil => exact full_new a
  | cons m ms => exact (polls_new_begun scopes a m ms).full

/-! ## Answers -/

theorem polls_completed (scopes : Scopes) (ms : List (Occasion σ)) :
    ((completed : Stage σ α).polls scopes ms).1 = ms.map tooLate := by
  induction ms with
  | nil => rfl
  | cons m ms ih => exact congrArg (tooLate m :: ·) ih

/-- A first poll of the future decides how the answers go on. -/
theorem answers_of_pollRunning (scopes : Scopes) (a : Future σ α) (m : Occasion σ)
    (ms : List (Occasion σ)) {s : Stage σ α}
    (first : s.poll scopes m.1 m.2 = pollRunning scopes a m.1 m.2)
    (later : ∀ b : Future σ α, ((running b).polls scopes ms).1 = b.answers scopes ms) :
    (s.polls scopes (m :: ms)).1 = a.answers scopes (m :: ms) := by
  rw [polls, first, pollRunning, Future.answers]
  rcases a.poll scopes m.1 m.2 with ⟨o | b, w, r⟩
  · exact congrArg ((Answer.outcome o, w, r) :: ·) (polls_completed scopes ms)
  · exact congrArg ((Answer.pending, w, r) :: ·) (later b)

theorem polls_running (scopes : Scopes) (a : Future σ α) (ms : List (Occasion σ)) :
    ((running a).polls scopes ms).1 = a.answers scopes ms := by
  induction ms generalizing a with
  | nil => rfl
  | cons m ms ih => exact answers_of_pollRunning scopes a m ms rfl ih

theorem polls_new (scopes : Scopes) (a : Future σ α) (ms : List (Occasion σ)) :
    ((new a).polls scopes ms).1 = a.answers scopes ms := by
  cases ms with
  | nil => rfl
  | cons m ms =>
    exact answers_of_pollRunning scopes a m ms (poll_new scopes a m.1 m.2) fun b =>
      polls_running scopes b ms

end Stage

/-- A handle answers like the stage of the action in it. -/
theorem Handle.polls_live (a : Future σ α) (ms : List (Occasion σ)) :
    (Handle.live a).polls ms = a.answers [] ms := by
  have late : ∀ ms : List (Occasion σ), (completed : Handle σ α).polls ms = ms.map tooLate := by
    intro ms
    induction ms with
    | nil => rfl
    | cons m ms ih => exact congrArg (tooLate m :: ·) ih
  induction ms generalizing a with
  | nil => rfl
  | cons m ms ih =>
    rw [polls, Handle.poll, Future.answers]
    rcases a.poll [] m.1 m.2 with ⟨o | b, w, r⟩
    · exact congrArg ((Answer.outcome o, w, r) :: ·) (late ms)
    · exact congrArg ((Answer.pending, w, r) :: ·) (ih b)

theorem Future.answers_ends_once (scopes : Scopes) (a : Future σ α) (ms : List (Occasion σ)) :
    EndsOnce ms (a.answers scopes ms) := by
  induction ms generalizing a with
  | nil => exact ⟨[], .inl rfl⟩
  | cons m ms ih =>
    rw [answers]
    rcases a.poll scopes m.1 m.2 with ⟨o | b, w, r⟩
    · exact ⟨[], .inr ⟨o, (w, r), ms, List.suffix_cons m ms, rfl⟩⟩
    · obtain ⟨waited, only | ⟨o, n, late, suffix, ends⟩⟩ := ih b
      · exact ⟨(w, r) :: waited, .inl (congrArg ((Answer.pending, w, r) :: ·) only)⟩
      · exact ⟨(w, r) :: waited, .inr ⟨o, n, late, suffix.trans (List.suffix_cons m ms),
          congrArg ((Answer.pending, w, r) :: ·) ends⟩⟩

/-- No answer is the panic of a poll that finds an empty slot. -/
theorem Future.answers_not_consumed (scopes : Scopes) (a : Future σ α) (ms : List (Occasion σ))
    {x : Answer α × Occasion σ} (answered : x ∈ a.answers scopes ms) :
    x.1 ≠ .panicked Stage.outcomeConsumed ∧ x.1 ≠ .panicked Stage.thunkConsumed := by
  have early : ∀ l : List (Occasion σ), x ∈ l.map waits → x.1 = .pending := by
    intro l mem
    obtain ⟨m, -, rfl⟩ := List.mem_map.mp mem
    rfl
  have late : ∀ l : List (Occasion σ), x ∈ l.map tooLate →
      x.1 = .panicked Handle.polledTooLate := by
    intro l mem
    obtain ⟨m, -, rfl⟩ := List.mem_map.mp mem
    rfl
  have texts : Handle.polledTooLate ≠ Stage.outcomeConsumed ∧
      Handle.polledTooLate ≠ Stage.thunkConsumed := by decide
  obtain ⟨waited, shape | ⟨o, m, after, -, shape⟩⟩ := a.answers_ends_once scopes ms <;>
    rw [shape] at answered
  · rw [early _ answered]
    exact ⟨nofun, nofun⟩
  · rcases List.mem_append.mp answered with mem | mem
    · rw [early _ mem]
      exact ⟨nofun, nofun⟩
    · rcases List.mem_cons.mp mem with rfl | mem
      · exact ⟨nofun, nofun⟩
      · rw [late _ mem]
        exact ⟨fun e => texts.1 (Answer.panicked.inj e), fun e => texts.2 (Answer.panicked.inj e)⟩

/-! ## The life cycle -/

/-- The life cycle of an action.  Building it, from whatever parts, runs nothing.  Polled on
any occasions, in any scopes, it answers that it is pending, any number of times, then its
outcome, once, and then it panics and leaves all as it was; these are the answers of
its future, and of a handle.  Nothing is left to be built after the first poll, and no poll
finds an empty slot. -/
theorem action_life_cycle (σ : Type) [Observer σ] :
    (∀ {layers : List (Route × Type)} {α : Type} (t : Assembly .future σ layers α),
      ∃ m : Layers (Future σ) layers α, t.build (Future σ) = .pure m) ∧
    ∀ {α : Type} (a : Future σ α) (scopes : Scopes) (ms : List (Occasion σ)),
      ((Stage.new a).polls scopes ms).1 = a.answers scopes ms ∧
      ((Stage.new a).polls [] ms).1 = (Handle.live a).polls ms ∧
      EndsOnce ms (a.answers scopes ms) ∧
      (∀ m, ((Stage.new a).polls scopes (m :: ms)).2.Begun) ∧
      ((Stage.new a).polls scopes ms).2.Full ∧
      ∀ x ∈ ((Stage.new a).polls scopes ms).1,
        x.1 ≠ .panicked Stage.outcomeConsumed ∧ x.1 ≠ .panicked Stage.thunkConsumed := by
  refine ⟨fun t => ?_, fun a scopes ms => ?_⟩
  · obtain ⟨m, _, built, _⟩ := t.calmlyBuilt (M := Future σ)
    exact ⟨m, built⟩
  · have answers := Stage.polls_new scopes a ms
    refine ⟨answers, ?_, a.answers_ends_once scopes ms, fun m => Stage.polls_new_begun scopes a m ms,
      Stage.polls_new_full scopes a ms, fun x answered => ?_⟩
    · exact (Stage.polls_new [] a ms).trans (Handle.polls_live a ms).symm
    · rw [answers] at answered
      exact a.answers_not_consumed scopes ms answered

end Resumption
