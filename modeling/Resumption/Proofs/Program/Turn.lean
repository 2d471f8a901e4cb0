/-
Turn — a turn of a fold, as the normal form of the program shows it.

The states of a loop come with the proof that they descend, and the match of `foldTurn`
keeps its equation for it.  `normalTurn` is the turn without the proofs: what a turn does
is read off it (`Program.foldTurn_eq`), whatever the loop goes on with.
-/
import Resumption.Program.Fold
import Resumption.Proofs.Carrier.Observation

namespace Resumption

universe u v w x

/-! ## The states of a turn -/

section Along

variable {σ : Type} {M : Type → Type u} {S : Type v} {S' : Type w} {β : Type}

/-- The turn with another state to go round from. -/
def Turn.along (f : S → S') : Turn σ M S β → Turn σ M S' β
  | .finish b => .finish b
  | .await m next => .await m fun a => (next a).map (Either.rename f id)

theorem Turn.along_along {S'' : Type x} (f : S → S') (g : S' → S'') (turn : Turn σ M S β) :
    (turn.along f).along g = turn.along (g ∘ f) := by
  rcases turn with b | ⟨m, next⟩
  · rfl
  · refine congrArg (Turn.await m) (funext fun a => ?_)
    rw [Host.map_map]
    refine congrArg (fun h => Host.map h (next a)) (funext fun y => ?_)
    cases y <;> rfl

theorem Turn.proceed_along [Carrier σ M] (f : S → S') (again : S' → Host σ (M β))
    (turn : Turn σ M S β) : (turn.along f).proceed again = turn.proceed fun s => again (f s) := by
  rcases turn with b | ⟨m, next⟩
  · rfl
  · refine congrArg (Carrier.bind m) (funext fun a => ?_)
    show ((next a).map (Either.rename f id)).bind _ = _
    rw [Host.map, Host.bind_assoc]
    refine congrArg (next a).bind (funext fun x => ?_)
    cases x <;> rfl

end Along

/-! ## The turns of a fold -/

namespace Program

variable {σ τ : Type} [Observer σ] {F : Type → Type v} {M : Type → Type u} {α : Type}

/-- The turn of a fold, as far as the normal form shows it. -/
def normalTurn (n : Interpreter σ τ F M) (t : τ) :
    Except Panic (Normal σ F α) × σ → Except Panic (Turn σ M (τ × Program σ F α) α) × σ
  | (.error p, w) => (.error p, w)
  | (.ok (.done a), w) => (.ok (.finish a), note (.folded .finished) w)
  | (.ok (.suspend e), w) =>
    (n.apply e t).map (fun (m, _) => .await m fun a => .pure (.right a))
      (note (.folded .finalEffect) w)
  | (.ok (.bound e q), w) =>
    (n.apply e t).map (fun (m, t) => .await m fun b v =>
      match q.apply b v with
      | .returned r v => (.ok (.left (t, r)), v)
      | .panicked p v => (.error p, v)) (note (.folded .effect) w)

/-- A turn of a fold sees the normal form of the program and the state of the interpreter. -/
theorem foldTurn_eq (n : Interpreter σ τ F M) (t : τ) (p : Program σ F α) (w : σ) :
    (foldTurn n (t, p)).map (Turn.along Subtype.val) w = normalTurn n t (p.normalize w) := by
  -- the match of `foldTurn` keeps its equation, so it is split before the map is opened
  suffices turn : ∀ x, foldTurn n (t, p) w = x →
      Host.map (Turn.along Subtype.val) (fun _ => x) w = _ from turn _ rfl
  intro x hx
  unfold foldTurn at hx
  dsimp only at hx
  split at hx <;> rename_i hp <;> rw [hp, ← hx, normalTurn]
  · rfl
  · rfl
  · unfold Host.map Host.bind
    dsimp only
    rcases n.apply _ t _ with ⟨_ | _, _⟩ <;> rfl
  · unfold Host.map Host.bind
    dsimp only
    rcases n.apply _ t _ with ⟨p | ⟨m, t'⟩, v⟩
    · rfl
    · refine congrArg (fun next => (Except.ok (Turn.await m next), v))
        (funext fun b => funext fun u => ?_)
      unfold Host.map Host.bind
      dsimp only
      split <;> rename_i called <;> split at called <;> cases called <;> rename_i hq
      · simp only [hq]
        rfl
      · simp only [hq]

/-- So does whatever goes on with it. -/
theorem foldTurn_bind {X : Type x} (n : Interpreter σ τ F M) (t : τ) (p : Program σ F α)
    (k : Turn σ M (τ × Program σ F α) α → Host σ X) (w : σ) :
    ((foldTurn n (t, p)).map (Turn.along Subtype.val)).bind k w =
      Host.bind (fun _ => normalTurn n t (p.normalize w)) k w := by
  rw [Host.bind, foldTurn_eq]
  rfl

end Program

end Resumption
