/-
Pair — two futures side by side run each of them once.

A pair that is polled again and again polls its sides and nothing else: each poll
of the pair is a poll of the first side and then one of the second, which finds
the world and the reactor as the first left them.  A side that has ended is left
alone.  `Onward` tells how far polls bring a future, and `Alternate` how the polls
of two sides make up those of the pair.

| sides after a poll      | the pair                                      |
|-------------------------|-----------------------------------------------|
| one of them is pending  | is pending around what is left of both        |
| `.ok x` and `.ok y`     | ends as `f x y` says, a panic being a failure |
| `.error e` and anything | ends with `e`                                 |
| `.ok x` and `.error e`  | ends with `e`                                 |
-/
import Resumption.Proofs.Future.Context

namespace Resumption

namespace Future

variable {σ : Type} {α β γ : Type}

/-! ## Values that meet -/

/-- What a pair makes of the outcomes of its sides, in this world, and the world after it. -/
inductive Joins (f : α → β → Host σ γ) :
    Except Failure α → Except Failure β → σ → Except Failure γ → σ → Prop
  | returned {x : α} {y : β} {z : γ} {w w' : σ} :
      f x y w = (.ok z, w') → Joins f (.ok x) (.ok y) w (.ok z) w'
  | panicked {x : α} {y : β} {p : Panic} {w w' : σ} :
      f x y w = (.error p, w') → Joins f (.ok x) (.ok y) w (.error (.ofPanic p)) w'
  | first {e : Failure} {y : Except Failure β} {w : σ} : Joins f (.error e) y w (.error e) w
  | second {x : α} {e : Failure} {w : σ} : Joins f (.ok x) (.error e) w (.error e) w

/-- A closure ends the poll with its outcome, and its panic with a failure. -/
theorem polled_ofHost_iff {h : Host σ (Except Failure α)} {w w' : σ} {r r' : Option (Reactor σ)}
    {p : Progress σ α} :
    Polled.ofHost h w r = ⟨p, w', r'⟩ ↔ ∃ o, h.caught w = (o, w') ∧ p = .ended o ∧ r' = r := by
  rw [Polled.ofHost]
  rcases h.caught w with ⟨o, w₁⟩
  constructor
  · rintro ⟨⟩
    exact ⟨o, rfl, rfl, rfl⟩
  · rintro ⟨_, ⟨⟩, rfl, rfl⟩
    rfl

theorem joins_iff {f : α → β → Host σ γ} {x : Except Failure α} {y : Except Failure β}
    {w w' : σ} {o : Except Failure γ} :
    Joins f x y w o w' ↔ (joined f x y).caught w = (o, w') := by
  constructor
  · rintro (ran | ran | _ | _)
    · simp only [joined, Host.caught, Host.map, Host.bind, Host.pure, ran]
    · simp only [joined, Host.caught, Host.map, Host.bind, ran]
    · rfl
    · rfl
  · intro ran
    rcases x with e | x
    · cases ran
      exact .first
    rcases y with e | y
    · cases ran
      exact .second
    rcases call : f x y w with ⟨p | z, w₁⟩
    · simp only [joined, Host.caught, Host.map, Host.bind, call] at ran
      cases ran
      exact .panicked call
    · simp only [joined, Host.caught, Host.map, Host.bind, Host.pure, call] at ran
      cases ran
      exact .returned call

/-- Has the future not ended yet? -/
def Progress.Waits (p : Progress σ α) : Prop :=
  ∃ a : Future σ α, p = .pending a

/-- How a pair stands after its sides were polled. -/
inductive Meets (f : α → β → Host σ γ) :
    Progress σ α → Progress σ β → σ → Progress σ γ → σ → Prop
  | waits {pa : Progress σ α} {pb : Progress σ β} {w : σ} : pa.Waits ∨ pb.Waits →
      Meets f pa pb w (.pending (both pa.future pb.future f)) w
  | ends {x : Except Failure α} {y : Except Failure β} {o : Except Failure γ} {w w' : σ} :
      Joins f x y w o w' → Meets f (.ended x) (.ended y) w (.ended o) w'

theorem sides_iff {f : α → β → Host σ γ} {pa : Progress σ α} {pb : Progress σ β} {w w' : σ}
    {r r' : Option (Reactor σ)} {q : Progress σ γ} :
    sides f pa ⟨pb, w, r⟩ = ⟨q, w', r'⟩ ↔ Meets f pa pb w q w' ∧ r' = r := by
  constructor
  · intro polled
    rcases pa with x | a
    · rcases pb with y | b
      · obtain ⟨o, ran, rfl, rfl⟩ := polled_ofHost_iff.mp polled
        exact ⟨.ends (joins_iff.mpr ran), rfl⟩
      · cases polled
        exact ⟨.waits (.inr ⟨b, rfl⟩), rfl⟩
    · cases polled
      exact ⟨.waits (.inl ⟨a, rfl⟩), rfl⟩
  · rintro ⟨waiting | joins, rfl⟩
    · rcases waiting with ⟨a, rfl⟩ | ⟨b, rfl⟩
      · rfl
      · cases pa <;> rfl
    · exact polled_ofHost_iff.mpr ⟨_, joins_iff.mp joins, rfl, rfl⟩

/-! ## How far polls bring a future -/

section

variable [Observer σ]

/-- These polls, one after another, bring the first state of a future to the second.
Nothing polls a future that has ended. -/
inductive Onward : Progress σ α → List (Attempt σ) → Progress σ α → Prop
  | stay (p : Progress σ α) : Onward p [] p
  | step {a : Future σ α} {p q : Progress σ α} {t : Attempt σ} {l : List (Attempt σ)} :
      a.poll t.scopes t.world t.reactor = ⟨p, t.world', t.reactor'⟩ → Onward p l q →
      Onward (.pending a) (t :: l) q

/-- A future that has ended stays as it is. -/
theorem onward_ended {x : Except Failure α} {l : List (Attempt σ)} {p : Progress σ α} :
    Onward (.ended x) l p ↔ l = [] ∧ p = .ended x := by
  constructor
  · rintro ⟨⟩
    exact ⟨rfl, rfl⟩
  · rintro ⟨rfl, rfl⟩
    exact .stay _

theorem onward_cons {a : Future σ α} {t : Attempt σ} {l : List (Attempt σ)} {q : Progress σ α} :
    Onward (.pending a) (t :: l) q ↔
      ∃ p, a.poll t.scopes t.world t.reactor = ⟨p, t.world', t.reactor'⟩ ∧ Onward p l q := by
  constructor
  · rintro (_ | ⟨polled, rest⟩)
    exact ⟨_, polled, rest⟩
  · rintro ⟨p, polled, rest⟩
    exact .step polled rest

/-- Polls that leave a future pending are polls one after another. -/
theorem onward_pending {a b : Future σ α} {l : List (Attempt σ)} :
    Onward (.pending a) l (.pending b) ↔ Polls a l b := by
  constructor
  · intro onward
    induction l generalizing a with
    | nil =>
      cases onward
      exact .nil _
    | cons t l ih =>
      obtain ⟨o | a', polled, rest⟩ := onward_cons.mp onward
      · cases (onward_ended.mp rest).2
      · exact .cons polled (ih rest)
  · intro polls
    induction polls with
    | nil a => exact .stay _
    | cons polled _ ih => exact .step polled ih

/-! ## Sides that share the polls of a pair -/

/-- The polls of a first side and those of a second one make up the third list: both
are polled in turn until one of them is done, and then the other is polled alone. -/
inductive Alternate : List (Attempt σ) → List (Attempt σ) → List (Attempt σ) → Prop
  | done : Alternate [] [] []
  | first {t : Attempt σ} {l₁ l : List (Attempt σ)} :
      Alternate l₁ [] l → Alternate (t :: l₁) [] (t :: l)
  | second {t : Attempt σ} {l₂ l : List (Attempt σ)} :
      Alternate [] l₂ l → Alternate [] (t :: l₂) (t :: l)
  | both {scopes : Scopes} {w w₁ w₂ : σ} {r r₁ r₂ : Option (Reactor σ)}
      {l₁ l₂ l : List (Attempt σ)} :
      Alternate l₁ l₂ l →
      Alternate (⟨scopes, w, r, w₁, r₁⟩ :: l₁) (⟨scopes, w₁, r₁, w₂, r₂⟩ :: l₂)
        (⟨scopes, w, r, w₂, r₂⟩ :: l)

/-- These polls, shared between two futures, bring each of them from where it was to where
it is; one that is still pending had its share of every poll. -/
def Shares (pa : Progress σ α) (pb : Progress σ β) (l : List (Attempt σ))
    (qa : Progress σ α) (qb : Progress σ β) : Prop :=
  ∃ l₁ l₂, Onward pa l₁ qa ∧ Onward pb l₂ qb ∧ Alternate l₁ l₂ l ∧
    (qa.Waits → l₁.length = l.length) ∧ (qb.Waits → l₂.length = l.length)

theorem shares_nil {pa qa : Progress σ α} {pb qb : Progress σ β} :
    Shares pa pb [] qa qb ↔ qa = pa ∧ qb = pb := by
  constructor
  · rintro ⟨_, _, first, second, ⟨⟩, _, _⟩
    cases first
    cases second
    exact ⟨rfl, rfl⟩
  · rintro ⟨rfl, rfl⟩
    exact ⟨[], [], .stay _, .stay _, .done, fun _ => rfl, fun _ => rfl⟩

theorem poll_ended {x : Except Failure α} {scopes : Scopes} {w w' : σ}
    {r r' : Option (Reactor σ)} {p : Progress σ α} :
    (Progress.ended x).future.poll scopes w r = ⟨p, w', r'⟩ ↔
      p = .ended x ∧ w' = w ∧ r' = r := by
  rw [Progress.future, poll]
  constructor
  · rintro ⟨⟩
    exact ⟨rfl, rfl, rfl⟩
  · rintro ⟨rfl, rfl, rfl⟩
    rfl

/-- Each side has its share of the first poll, if it still goes on, and then of the others. -/
theorem shares_cons {pa qa : Progress σ α} {pb qb : Progress σ β} {t : Attempt σ}
    {l : List (Attempt σ)} (waiting : pa.Waits ∨ pb.Waits) :
    Shares pa pb (t :: l) qa qb ↔
      ∃ pa' w r pb', pa.future.poll t.scopes t.world t.reactor = ⟨pa', w, r⟩ ∧
        pb.future.poll t.scopes w r = ⟨pb', t.world', t.reactor'⟩ ∧ Shares pa' pb' l qa qb := by
  constructor
  · rintro ⟨_, _, first, second, _ | alone | alone | both, all₁, all₂⟩
    · -- A second side that is polled no more has ended.
      rcases pb with y | b
      · rcases pa with x | a
        · cases (onward_ended.mp first).1
        obtain ⟨pa', polled, rest⟩ := onward_cons.mp first
        exact ⟨pa', _, _, _, polled, poll_ended.mpr ⟨rfl, rfl, rfl⟩, _, _, rest, second, alone,
          fun h => by simpa using all₁ h, fun h => by simpa using all₂ h⟩
      · cases second
        cases all₂ ⟨b, rfl⟩
    · rcases pa with x | a
      · rcases pb with y | b
        · cases (onward_ended.mp second).1
        obtain ⟨pb', polled, rest⟩ := onward_cons.mp second
        exact ⟨_, _, _, pb', poll_ended.mpr ⟨rfl, rfl, rfl⟩, polled, _, _, first, rest, alone,
          fun h => by simpa using all₁ h, fun h => by simpa using all₂ h⟩
      · cases first
        cases all₁ ⟨a, rfl⟩
    · rcases pa with x | a
      · cases (onward_ended.mp first).1
      rcases pb with y | b
      · cases (onward_ended.mp second).1
      obtain ⟨pa', polled₁, rest₁⟩ := onward_cons.mp first
      obtain ⟨pb', polled₂, rest₂⟩ := onward_cons.mp second
      exact ⟨pa', _, _, pb', polled₁, polled₂, _, _, rest₁, rest₂, both,
        fun h => by simpa using all₁ h, fun h => by simpa using all₂ h⟩
  · rintro ⟨pa', w, r, pb', polled₁, polled₂, l₁, l₂, rest₁, rest₂, shared, all₁, all₂⟩
    obtain ⟨scopes, w₀, r₀, w', r'⟩ := t
    rcases pa with x | a
    · rcases pb with y | b
      · rcases waiting with ⟨_, ⟨⟩⟩ | ⟨_, ⟨⟩⟩
      obtain ⟨rfl, rfl, rfl⟩ := poll_ended.mp polled₁
      obtain ⟨rfl, rfl⟩ := onward_ended.mp rest₁
      exact ⟨[], _, rest₁, .step polled₂ rest₂, .second shared, nofun,
        fun h => congrArg (· + 1) (all₂ h)⟩
    rcases pb with y | b
    · obtain ⟨rfl, rfl, rfl⟩ := poll_ended.mp polled₂
      obtain ⟨rfl, rfl⟩ := onward_ended.mp rest₂
      exact ⟨_, [], .step polled₁ rest₁, rest₂, .first shared,
        fun h => congrArg (· + 1) (all₁ h), nofun⟩
    · exact ⟨⟨scopes, w₀, r₀, w, r⟩ :: l₁, ⟨scopes, w, r, w', r'⟩ :: l₂, .step polled₁ rest₁,
        .step polled₂ rest₂, .both shared, fun h => congrArg (· + 1) (all₁ h),
        fun h => congrArg (· + 1) (all₂ h)⟩

/-- Polls are shared only while one of the sides goes on. -/
theorem Shares.waits {pa qa : Progress σ α} {pb qb : Progress σ β} {l : List (Attempt σ)}
    (shares : Shares pa pb l qa qb) (polled : l ≠ []) : pa.Waits ∨ pb.Waits := by
  obtain ⟨l₁, l₂, first, second, shared, _, _⟩ := shares
  rcases pa with x | a
  · rcases pb with y | b
    · obtain ⟨rfl, rfl⟩ := onward_ended.mp first
      obtain ⟨rfl, rfl⟩ := onward_ended.mp second
      cases shared
      exact absurd rfl polled
    · exact .inr ⟨b, rfl⟩
  · exact .inl ⟨a, rfl⟩

/-! ## The pair -/

/-- One poll of a pair. -/
theorem poll_both_iff {a : Future σ α} {b : Future σ β} {f : α → β → Host σ γ} {scopes : Scopes}
    {w w' : σ} {r r' : Option (Reactor σ)} {q : Progress σ γ} :
    (both a b f).poll scopes w r = ⟨q, w', r'⟩ ↔
      ∃ pa w₁ r₁ pb w₂, a.poll scopes w r = ⟨pa, w₁, r₁⟩ ∧
        b.poll scopes w₁ r₁ = ⟨pb, w₂, r'⟩ ∧ Meets f pa pb w₂ q w' := by
  rw [poll_both]
  constructor
  · intro polled
    obtain ⟨meets, rfl⟩ := sides_iff.mp polled
    exact ⟨_, _, _, _, _, rfl, rfl, meets⟩
  · rintro ⟨pa, w₁, r₁, pb, w₂, first, second, meets⟩
    rw [first, second]
    exact sides_iff.mpr ⟨meets, rfl⟩

/-- A pair that was polled stands as its sides do, which have shared its polls. -/
theorem onward_both {f : α → β → Host σ γ} (l : List (Attempt σ)) (t : Attempt σ)
    (q : Progress σ γ) {pa : Progress σ α} {pb : Progress σ β} (waiting : pa.Waits ∨ pb.Waits) :
    Onward (.pending (both pa.future pb.future f)) (l ++ [t]) q ↔
      ∃ qa qb w, Shares pa pb (l ++ [{ t with world' := w }]) qa qb ∧ Meets f qa qb w q t.world' := by
  induction l generalizing pa pb with
  | nil =>
    rw [List.nil_append, onward_cons]
    constructor
    · rintro ⟨q', polled, ⟨⟩⟩
      obtain ⟨qa, w₁, r₁, qb, w, first, second, meets⟩ := poll_both_iff.mp polled
      exact ⟨qa, qb, w, (shares_cons waiting).mpr
        ⟨qa, w₁, r₁, qb, first, second, shares_nil.mpr ⟨rfl, rfl⟩⟩, meets⟩
    · rintro ⟨qa, qb, w, shares, meets⟩
      obtain ⟨pa', w₁, r₁, pb', first, second, rest⟩ := (shares_cons waiting).mp shares
      obtain ⟨rfl, rfl⟩ := shares_nil.mp rest
      exact ⟨q, poll_both_iff.mpr ⟨_, w₁, r₁, _, w, first, second, meets⟩, .stay q⟩
  | cons s l ih =>
    rw [List.cons_append, onward_cons]
    constructor
    · rintro ⟨q', polled, rest⟩
      obtain ⟨pa', w₁, r₁, pb', w', first, second, meets⟩ := poll_both_iff.mp polled
      rcases meets with waiting' | joins
      · obtain ⟨qa, qb, w, shares, meets⟩ := (ih waiting').mp rest
        exact ⟨qa, qb, w, (shares_cons waiting).mpr
          ⟨pa', w₁, r₁, pb', first, second, shares⟩, meets⟩
      · cases List.append_ne_nil_of_right_ne_nil l (by simp) (onward_ended.mp rest).1
    · rintro ⟨qa, qb, w, shares, meets⟩
      obtain ⟨pa', w₁, r₁, pb', first, second, rest⟩ := (shares_cons waiting).mp shares
      have waiting' := rest.waits (by simp)
      exact ⟨_, poll_both_iff.mpr ⟨pa', w₁, r₁, pb', s.world', first, second, .waits waiting'⟩,
        (ih waiting').mpr ⟨qa, qb, w, rest, meets⟩⟩

/-- Two futures side by side depend on their sides only.  Whatever happens between the
polls, the polls that bring the pair to its end are those of one run of the first side
from beginning to end and of one of the second, and the pair ends in the poll in which
the later side does, as `Joins` says: with the value of `f` at both values, the panic of
`f` as a failure, or the failure of the first side that failed in the order of the
arguments.  Until then it is pending around what is left of the sides, and has a reason
to be polled as soon as one of them has. -/
theorem both_depends_on_sides (a : Future σ α) (b : Future σ β) (f : α → β → Host σ γ) :
    (∀ l t o, Onward (.pending (both a b f)) (l ++ [t]) (.ended o) ↔
      ∃ l₁ l₂ x y w, Onward (.pending a) l₁ (.ended x) ∧ Onward (.pending b) l₂ (.ended y) ∧
        Alternate l₁ l₂ (l ++ [{ t with world' := w }]) ∧ Joins f x y w o t.world') ∧
    (∀ l t p, Polls (both a b f) (l ++ [t]) p ↔
      ∃ qa qb, Shares (.pending a) (.pending b) (l ++ [t]) qa qb ∧ (qa.Waits ∨ qb.Waits) ∧
        p = both qa.future qb.future f) ∧
    ∀ (a' : Future σ α) (b' : Future σ β) now finished,
      ((both a' b' f).woken now finished ↔ a'.woken now finished ∨ b'.woken now finished) ∧
      ((both a' b' f).yielding ↔ a'.yielding ∨ b'.yielding) := by
  have waiting : (Progress.pending a).Waits ∨ (Progress.pending b).Waits := .inl ⟨a, rfl⟩
  have stands := fun l t q => onward_both (f := f) l t q waiting
  refine ⟨fun l t o => ?_, fun l t p => ?_, fun a' b' now finished => ?_⟩
  · refine (stands l t (.ended o)).trans ⟨?_, ?_⟩
    · rintro ⟨_, _, w, ⟨l₁, l₂, first, second, shared, _, _⟩, ⟨⟩ | joins⟩
      exact ⟨l₁, l₂, _, _, w, first, second, shared, joins⟩
    · rintro ⟨l₁, l₂, x, y, w, first, second, shared, joins⟩
      exact ⟨_, _, w, ⟨l₁, l₂, first, second, shared, nofun, nofun⟩, .ends joins⟩
  · refine onward_pending.symm.trans ((stands l t (.pending p)).trans ⟨?_, ?_⟩)
    · rintro ⟨qa, qb, _, shares, waiting | _⟩
      exact ⟨qa, qb, shares, waiting, rfl⟩
    · rintro ⟨qa, qb, shares, waiting, rfl⟩
      exact ⟨qa, qb, t.world', shares, .waits waiting⟩
  · simp only [woken, yielding, Bool.or_eq_true, and_self]

end

end Future

end Resumption
