/-
Uniform — a loop sees of its states only what its turns see.

Let `look` show a part of every state.  If what a turn does, up to what it shows of the
state that it goes round from, is determined by what it is shown of its own state, then
states that look alike start the same loop.  The two loops are equal, and not only alike
to an observer: every carrier builds the same computation from both.

| carriers                         | the loop is                                         |
|----------------------------------|-----------------------------------------------------|
| `Identity`, `Option`, `Except ε` | its turns, one after another, while it is built     |
| `Action`, `Future`               | a suspended turn, and the loop after its computation |
| `Program`                        | a turn, and the loop in the arrow after its program |
| `Layered`                        | the loop of its base                                |
-/
import Resumption.Proofs.Carrier.Action
import Resumption.Proofs.Carrier.Eager
import Resumption.Proofs.Carrier.Future
import Resumption.Proofs.Carrier.Layered
import Resumption.Proofs.Program.Turn

namespace Resumption

universe u v w x

/-! ## Turns that look alike -/

section Turns

variable {σ : Type} {M : Type → Type u} {S : Type v} {S' : Type w} {X : Type x} {β : Type}

/-- How two closures answer that show the same of the states they go round from. -/
inductive Answers (look : S → X) (look' : S' → X) :
    Except Panic (Either S β) × σ → Except Panic (Either S' β) × σ → Prop
  | panicked (p : Panic) (w : σ) : Answers look look' (.error p, w) (.error p, w)
  | stopped (b : β) (w : σ) : Answers look look' (.ok (.right b), w) (.ok (.right b), w)
  | again {t : S} {t' : S'} (w : σ) : look t = look' t' →
      Answers look look' (.ok (.left t), w) (.ok (.left t'), w)

/-- How two turns end that show the same of the states they go round from. -/
inductive Turns (look : S → X) (look' : S' → X) :
    Except Panic (Turn σ M S β) × σ → Except Panic (Turn σ M S' β) × σ → Prop
  | panicked (p : Panic) (w : σ) : Turns look look' (.error p, w) (.error p, w)
  | finished (b : β) (w : σ) : Turns look look' (.ok (.finish b), w) (.ok (.finish b), w)
  | awaits {α : Type} (m : M α) {next : α → Host σ (Either S β)} {next' : α → Host σ (Either S' β)}
      (w : σ) : (∀ a v, Answers look look' (next a v) (next' a v)) →
      Turns look look' (.ok (.await m next), w) (.ok (.await m next'), w)

theorem Answers.of_map {look : S → X} {look' : S' → X} {h : Host σ (Either S β)}
    {h' : Host σ (Either S' β)} {w : σ}
    (same : h.map (Either.rename look id) w = h'.map (Either.rename look' id) w) :
    Answers look look' (h w) (h' w) := by
  unfold Host.map Host.bind at same
  generalize h w = end₁ at same ⊢
  generalize h' w = end₂ at same ⊢
  rcases end₁ with ⟨p | t | b, v⟩ <;> rcases end₂ with ⟨p' | t' | b', v'⟩ <;>
    simp only [Host.pure, Either.rename, Either.fold, id, Prod.mk.injEq, Except.ok.injEq,
      Except.error.injEq, Either.left.injEq, Either.right.injEq, reduceCtorEq, false_and] at same
  · obtain ⟨rfl, rfl⟩ := same
    exact .panicked p v
  · obtain ⟨seen, rfl⟩ := same
    exact .again v seen
  · obtain ⟨rfl, rfl⟩ := same
    exact .stopped b v

theorem Turns.of_map {look : S → X} {look' : S' → X} {h : Host σ (Turn σ M S β)}
    {h' : Host σ (Turn σ M S' β)} {w : σ}
    (same : h.map (Turn.along look) w = h'.map (Turn.along look') w) :
    Turns look look' (h w) (h' w) := by
  unfold Host.map Host.bind at same
  generalize h w = end₁ at same ⊢
  generalize h' w = end₂ at same ⊢
  rcases end₁ with ⟨p | b | ⟨m, next⟩, v⟩ <;> rcases end₂ with ⟨p' | b' | ⟨m', next'⟩, v'⟩ <;>
    simp only [Host.pure, Turn.along, Prod.mk.injEq, Except.ok.injEq, Except.error.injEq,
      Turn.finish.injEq, Turn.await.injEq, reduceCtorEq, false_and] at same
  · obtain ⟨rfl, rfl⟩ := same
    exact .panicked p v
  · obtain ⟨rfl, rfl⟩ := same
    exact .finished b v
  · obtain ⟨⟨rfl, rfl, answers⟩, rfl⟩ := same
    exact .awaits m v fun a u => .of_map (congrFun (congrFun (eq_of_heq answers) a) u)

end Turns

/-- A carrier whose loop depends on what its turns see of the states. -/
class UniformLoop (σ : Type) (M : Type → Type u) [Loop.{u, w} σ M] : Prop where
  iterate_congr {S X : Type w} {R : S → S → Prop} {β : Type} (maps : Nat) (wf : WellFounded R)
    (step : (s : S) → Host σ (Turn σ M {t // R t s} β)) (look : S → X)
    (alike : ∀ {s s'}, look s = look s' →
      (step s).map (Turn.along fun t => look t.1) = (step s').map (Turn.along fun t => look t.1))
    {s s' : S} : look s = look s' → Loop.iterate maps wf step s = Loop.iterate maps wf step s'

/-! ## Eager carriers -/

section Eager

variable {σ : Type}

/-- Where a loop equals its turns one after another, what comes after turns that look
alike is the same. -/
theorem UniformLoop.of_turns {M : Type → Type u} [Carrier σ M] [Loop.{u, w} σ M]
    (turns : ∀ {S : Type w} {R : S → S → Prop} {β : Type} (maps : Nat) (wf : WellFounded R)
      (step : (s : S) → Host σ (Turn σ M {t // R t s} β)) (s : S), Loop.iterate maps wf step s =
        (step s).bind (Turn.proceed fun t => Loop.iterate maps wf step t.1)) :
    UniformLoop.{u, w} σ M where
  iterate_congr maps wf step look alike := by
    intro s s' same
    -- the first loop descends, and the second one keeps up with it turn by turn
    induction s using wf.induction generalizing s' with
    | _ s ih =>
      rw [turns maps wf step s, turns maps wf step s']
      funext w
      have seen := Turns.of_map (congrFun (alike same) w)
      unfold Host.bind
      generalize step s w = end₁ at seen ⊢
      generalize step s' w = end₂ at seen ⊢
      cases seen with
      | panicked p w => rfl
      | finished b w => rfl
      | @awaits _ m next next' w answers =>
        refine congrArg (fun k => Carrier.bind m k w) (funext fun a => funext fun v => ?_)
        have answer := answers a v
        unfold Host.bind
        generalize next a v = end₁ at answer ⊢
        generalize next' a v = end₂ at answer ⊢
        cases answer with
        | panicked p v => rfl
        | stopped b v => rfl
        | @again t _ v seen => exact congrFun (ih t.1 t.2 seen) v

instance : UniformLoop.{0, w} σ Identity :=
  .of_turns fun maps wf step s => funext (LawfulLoop.iterate_eq maps wf step s)

instance : UniformLoop.{0, w} σ Option :=
  .of_turns fun maps wf step s => funext (LawfulLoop.iterate_eq maps wf step s)

instance {ε : Type} : UniformLoop.{0, w} σ (Except ε) :=
  .of_turns fun maps wf step s => funext (LawfulLoop.iterate_eq maps wf step s)

end Eager

/-! ## Lazy carriers -/

section Lazy

variable {σ : Type}

instance : UniformLoop.{1, w} σ (Action σ) where
  iterate_congr maps wf step look alike := by
    intro s s' same
    refine congrArg Host.pure ?_
    induction s using wf.induction generalizing s' with
    | _ s ih =>
      rw [Action.iterate, Action.iterate]
      refine congrArg Action.suspend (funext fun w => ?_)
      have seen := Turns.of_map (congrFun (alike same) w)
      generalize step s w = end₁ at seen ⊢
      generalize step s' w = end₂ at seen ⊢
      cases seen with
      | panicked p w => rfl
      | finished b w => rfl
      | @awaits _ m next next' w answers =>
        refine congrArg (fun k => Action.Call.returned (Action.bind m k) w)
          (funext fun a => funext fun v => ?_)
        have answer := answers a v
        generalize next a v = end₁ at answer ⊢
        generalize next' a v = end₂ at answer ⊢
        cases answer with
        | panicked p v => rfl
        | stopped b v => rfl
        | @again t _ v seen => exact congrArg (Action.Call.returned · v) (ih t.1 t.2 seen)

instance : UniformLoop.{1, w} σ (Future σ) where
  iterate_congr maps wf step look alike := by
    intro s s' same
    refine congrArg Host.pure ?_
    induction s using wf.induction generalizing s' with
    | _ s ih =>
      rw [Future.iterate, Future.iterate]
      refine congrArg Future.suspend (funext fun w => ?_)
      have seen := Turns.of_map (congrFun (alike same) w)
      generalize step s w = end₁ at seen ⊢
      generalize step s' w = end₂ at seen ⊢
      cases seen with
      | panicked p w => rfl
      | finished b w => rfl
      | @awaits _ m next next' w answers =>
        refine congrArg (fun k => Future.Call.returned (Future.bind m k) w)
          (funext fun a => funext fun v => ?_)
        have answer := answers a v
        generalize next a v = end₁ at answer ⊢
        generalize next' a v = end₂ at answer ⊢
        cases answer with
        | panicked p v => rfl
        | stopped b v => rfl
        | @again t _ v seen => exact congrArg (Future.Call.returned · v) (ih t.1 t.2 seen)

instance {F : Type → Type v} : UniformLoop.{max 1 v, w} σ (Program σ F) where
  iterate_congr maps wf step look alike := by
    intro s s' same
    show Program.iterate maps wf step s = Program.iterate maps wf step s'
    induction s using wf.induction generalizing s' with
    | _ s ih =>
      rw [Program.iterate, Program.iterate]
      funext w
      have seen := Turns.of_map (congrFun (alike same) w)
      unfold Host.map Host.bind
      generalize step s w = end₁ at seen ⊢
      generalize step s' w = end₂ at seen ⊢
      cases seen with
      | panicked p w => rfl
      | finished b w => rfl
      | @awaits _ p next next' w answers =>
        refine congrArg (fun q => (Except.ok q, w)) (Program.answered_congr p maps fun a => ?_)
        funext v
        have answer := answers a v
        unfold Host.map Host.bind
        generalize next a v = end₁ at answer ⊢
        generalize next' a v = end₂ at answer ⊢
        cases answer with
        | panicked p v => rfl
        | stopped b v => rfl
        | @again t _ v seen => exact congrArg (fun q => (Except.ok q, v)) (ih t.1 t.2 seen)

end Lazy

/-! ## Layers -/

section Layered

variable {σ : Type} {M : Type → Type u} [Carrier σ M] [Loop.{u, w} σ M] [UniformLoop.{u, w} σ M]

omit [Carrier σ M] [Loop.{u, w} σ M] [UniformLoop.{u, w} σ M] in
theorem Layered.baseTurn_along {route : Route} {ε β : Type} {S S' : Type w}
    (f : S → S') (turn : Turn σ (Layered route M ε) S β) :
    (baseTurn turn).along f = baseTurn (turn.along f) := by
  rcases turn with b | ⟨m, next⟩
  · rfl
  · refine congrArg (Turn.await m.base) (funext fun x => funext fun v => ?_)
    rcases x with e | a
    · rfl
    · simp only [Either.fold, Host.map, Host.bind]
      rcases next a v with ⟨_ | _ | _, _⟩ <;> rfl

instance {route : Route} {ε : Type} : UniformLoop.{u, w} σ (Layered route M ε) where
  iterate_congr maps wf step look alike := by
    intro s s' same
    refine congrArg (Host.map Layered.mk) ?_
    refine UniformLoop.iterate_congr (maps + 1) wf (fun s => (step s).map Layered.baseTurn) look ?_ same
    -- showing less of a state commutes with handing the turn to the base
    have moved (s) : ((step s).map Layered.baseTurn).map (Turn.along fun t => look t.1) =
        ((step s).map (Turn.along fun t => look t.1)).map Layered.baseTurn := by
      funext w
      unfold Host.map Host.bind
      rcases step s w with ⟨p | turn, v⟩
      · rfl
      · exact congrArg (fun turn => (Except.ok turn, v)) (Layered.baseTurn_along _ turn)
    intro s s' same
    rw [moved, moved, alike same]

instance Layers.instUniformLoop :
    (layers : List (Route × Type)) → UniformLoop.{u, w} σ (Layers M layers)
  | [] => inferInstanceAs (UniformLoop.{u, w} σ M)
  | (route, ε) :: layers =>
    haveI := instUniformLoop layers
    inferInstanceAs (UniformLoop.{u, w} σ (Layered route (Layers M layers) ε))

end Layered

end Resumption
