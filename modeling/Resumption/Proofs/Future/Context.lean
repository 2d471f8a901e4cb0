/-
Context — polls of a future inside another one.

Polls are compositional: a future that runs another one inside polls it, is left
pending around it, and goes on by itself when that one ends.  `around K F` is
such a poll, with what stays around as `K` and how it goes on as `F`, and
`Runs K F` says that the polls of `K` are of this kind.

| context              | goes on                                               |
|----------------------|-------------------------------------------------------|
| `conclude _ f`       | as `f` says from the outcome                          |
| `bind _ k`           | with what `k` makes of the value                      |
| `rescue _ k`         | with what `k` makes of the failure                    |
| `bracket _ u r`      | around the use of what was acquired                   |
| `inUse _ _ r`        | around the release                                    |
| `releasing _ o _`    | by closing the bracket                                |
| `Orphan.task ⟨_, _⟩` | by a warning if the release failed                    |
-/
import Resumption.Future.Poll

namespace Resumption

namespace Future

variable {σ : Type} {α β γ ρ : Type}

/-- A poll that leaves `K` around what is left of a future inside it, and that goes on
by `F` when that one has ended. -/
def around (K : Future σ α → Future σ β)
    (F : Except Failure α → σ → Option (Reactor σ) → Polled σ β) : Polled σ α → Polled σ β
  | ⟨.ended o, w, r⟩ => F o w r
  | ⟨.pending a, w, r⟩ => ⟨.pending (K a), w, r⟩

/-- A context inside another one is a context. -/
theorem around_around (K : Future σ β → Future σ γ) (K' : Future σ α → Future σ β)
    (F : Except Failure β → σ → Option (Reactor σ) → Polled σ γ)
    (F' : Except Failure α → σ → Option (Reactor σ) → Polled σ β) (p : Polled σ α) :
    around K F (around K' F' p) =
      around (fun a => K (K' a)) (fun o w r => around K F (F' o w r)) p := by
  rcases p with ⟨_ | _, _, _⟩ <;> rfl

variable [Observer σ]

/-- `K` polls the future inside it and goes on by `F`. -/
def Runs (scopes : Scopes) (K : Future σ α → Future σ β)
    (F : Except Failure α → σ → Option (Reactor σ) → Polled σ β) : Prop :=
  ∀ a w r, (K a).poll scopes w r = around K F (a.poll scopes w r)

theorem runs_conclude (scopes : Scopes) (f : Except Failure α → Host σ (Except Failure β)) :
    Runs scopes (fun a => conclude a f) fun o w r => .ofHost (f o) w r := by
  intro a w r
  rw [poll]
  rcases a.poll scopes w r with ⟨_ | _, _, _⟩ <;> rfl

theorem runs_bind (scopes : Scopes) (k : α → σ → Call σ β) :
    Runs scopes (fun a => bind a k) fun o w r =>
      match o with
      | .ok x => (k x w).poll scopes r
      | .error e => ⟨.ended (.error e), w, r⟩ := by
  intro a w r
  rw [poll]
  rcases a.poll scopes w r with ⟨(_ | _) | _, _, _⟩ <;> rfl

theorem runs_rescue (scopes : Scopes) (k : Failure → σ → Call σ α) :
    Runs scopes (fun a => rescue a k) fun o w r =>
      match o with
      | .ok x => ⟨.ended (.ok x), w, r⟩
      | .error e => (k e w).poll scopes r := by
  intro a w r
  rw [poll]
  rcases a.poll scopes w r with ⟨(_ | _) | _, _, _⟩ <;> rfl

theorem runs_releasing (scopes opened : Scopes) (used : Except Failure β) :
    Runs scopes (releasing (σ := σ) opened used) fun o w r =>
      ⟨.ended (closeBracket used o w).1, (closeBracket used o w).2, r⟩ := by
  intro a w r
  rw [poll]
  rcases a.poll scopes w r with ⟨_ | _, _, _⟩ <;> rfl

/-- A bracket after its use has ended: it polls its release. -/
theorem afterRelease_eq (opened : Scopes) (used : Except Failure β) (p : Polled σ Verdict) :
    afterRelease opened used p = around (releasing opened used) (fun o w r =>
      ⟨.ended (closeBracket used o w).1, (closeBracket used o w).2, r⟩) p := by
  rcases p with ⟨_ | _, _, _⟩ <;> rfl

theorem runs_inUse (scopes opened : Scopes) (release : Option β → σ → Call σ Verdict) :
    Runs scopes (fun u => inUse opened u release) fun o w r =>
      afterRelease opened o ((release o.toOption w).poll scopes r) := by
  intro a w r
  rw [poll]
  rcases a.poll scopes w r with ⟨_ | _, _, _⟩ <;> rfl

theorem runs_bracket (scopes : Scopes) (use : ρ → σ → Call σ β)
    (release : ρ → Option β → σ → Call σ Verdict) :
    Runs scopes (fun a => bracket a use release) fun o w r =>
      match o with
      | .error e => ⟨.ended (.error e), w, r⟩
      | .ok x => around (fun u => inUse scopes u (release x))
          (fun o w r => afterRelease scopes o ((release x o.toOption w).poll scopes r))
          ((use x (note .acquired w)).poll scopes r) := by
  intro a w r
  rw [poll]
  rcases a.poll scopes w r with ⟨(_ | x) | _, w', r'⟩
  · rfl
  · show _ = around _ _ ((use x (note .acquired w')).poll scopes r')
    dsimp only
    rcases (use x (note .acquired w')).poll scopes r' with ⟨_ | _, _, _⟩ <;> rfl
  · rfl

/-- The task of an orphan polls its release just as the bracket would have done. -/
theorem runs_task (scopes opened : Scopes) :
    Runs (σ := σ) scopes (fun a => Orphan.task ⟨opened, a⟩) fun o w r =>
      match releaseFailure? o with
      | none => ⟨.ended (.ok ()), w, r⟩
      | some e => ⟨.ended (.ok ()), note (.orphanFailed e) w, r⟩ := by
  intro a w r
  refine (runs_conclude scopes _ a w r).trans ?_
  rcases a.poll scopes w r with ⟨(_ | _ | _) | _, _, _⟩ <;> rfl

/-! ## Side by side -/

/-- What two futures side by side come to, after a poll of the first and one of the
second. -/
def sides (f : α → β → Host σ γ) : Progress σ α → Polled σ β → Polled σ γ
  | .ended x, ⟨.ended y, w, r⟩ => .ofHost (joined f x y) w r
  | pa, ⟨pb, w, r⟩ => ⟨.pending (both pa.future pb.future f), w, r⟩

theorem poll_both (scopes : Scopes) (a : Future σ α) (b : Future σ β) (f : α → β → Host σ γ)
    (w : σ) (r : Option (Reactor σ)) :
    (both a b f).poll scopes w r = sides f (a.poll scopes w r).progress
      (b.poll scopes (a.poll scopes w r).world (a.poll scopes w r).reactor) := by
  rw [poll]
  rcases a.poll scopes w r with ⟨pa, w', r'⟩
  dsimp only
  rcases b.poll scopes w' r' with ⟨pb, _, _⟩
  cases pa <;> cases pb <;> rfl

/-! ## Polls one after another -/

/-- One poll: what it was given, and the world and the reactor that it left. -/
structure Attempt (σ : Type) where
  scopes : Scopes
  world : σ
  reactor : Option (Reactor σ)
  world' : σ
  reactor' : Option (Reactor σ)

/-- These polls, one after another, left the future as the other one. -/
inductive Polls : Future σ α → List (Attempt σ) → Future σ α → Prop
  | nil (a : Future σ α) : Polls a [] a
  | cons {a a' b : Future σ α} {t : Attempt σ} {l : List (Attempt σ)} :
      a.poll t.scopes t.world t.reactor = ⟨.pending a', t.world', t.reactor'⟩ → Polls a' l b →
      Polls a (t :: l) b

theorem Polls.append {a b c : Future σ α} {l l' : List (Attempt σ)} (first : Polls a l b)
    (second : Polls b l' c) : Polls a (l ++ l') c := by
  induction first with
  | nil => exact second
  | cons polled _ ih => exact .cons polled (ih second)

/-- The polls of a context that ends with the future inside it are polls of that future. -/
theorem Polls.inside {K : Future σ α → Future σ β}
    {F : Except Failure α → σ → Option (Reactor σ) → Polled σ β}
    (runs : ∀ scopes, Runs scopes K F) (ends : ∀ o w r, ∃ o', (F o w r).progress = .ended o')
    {a : Future σ α} {b : Future σ β} {l : List (Attempt σ)} (polls : Polls (K a) l b) :
    ∃ a', b = K a' ∧ Polls a l a' := by
  generalize start : K a = c at polls
  induction polls generalizing a with
  | nil => exact ⟨a, start.symm, .nil a⟩
  | @cons _ _ _ t _ polled _ ih =>
    obtain ⟨scopes, w, r, w', r'⟩ := t
    rw [← start, runs] at polled
    rcases inner : a.poll scopes w r with ⟨o | a', w₁, r₁⟩
    · obtain ⟨o', ended⟩ := ends o w₁ r₁
      rw [inner, around] at polled
      rw [polled] at ended
      cases ended
    · rw [inner, around] at polled
      cases polled
      obtain ⟨a'', left, rest⟩ := ih rfl
      exact ⟨a'', left, .cons inner rest⟩

/-- A release that is under way in its bracket goes on in the task of its orphan: the
polls of the bracket and those of the task are polls of the release, one after another. -/
theorem release_continues {opened : Scopes} {used : Except Failure β} {p : Future σ Verdict}
    {a : Future σ (β × Verdict)} {l : List (Attempt σ)}
    (polls : Polls (releasing opened used p) l a) :
    ∃ o : Orphan σ, a.orphans = [o] ∧ Polls p l o.release ∧
      ∀ l' b, Polls o.task l' b → ∃ o' : Orphan σ, b = o'.task ∧ Polls p (l ++ l') o'.release := by
  obtain ⟨p', rfl, inBracket⟩ :=
    polls.inside (fun scopes => runs_releasing scopes opened used) fun _ _ _ => ⟨_, rfl⟩
  refine ⟨⟨opened, p'⟩, rfl, inBracket, ?_⟩
  intro l' b inTask
  obtain ⟨p'', rfl, rest⟩ := Polls.inside (K := fun a => Orphan.task ⟨opened, a⟩)
    (fun scopes => runs_task scopes opened)
    (fun o _ _ => by cases releaseFailure? o <;> exact ⟨_, rfl⟩) inTask
  exact ⟨⟨opened, p''⟩, rfl, inBracket.append rest⟩

end Future

end Resumption
