/-
Bottom — how actions and futures end.

An action ends as its run does.  A future ends when some poll of it does, and it
may be polled as often as it takes; between two polls the world and the reactor
may change in any way, for others have their turns then (`Future.Reaches`).

A future that runs another one inside ends by way of its endings
(`Future.reaches_around`), and so do brackets, which run three of them.
-/
import Resumption.Future.Carrier
import Resumption.Future.Poll
import Resumption.Proofs.Carrier.Action
import Resumption.Proofs.Carrier.Future
import Resumption.Proofs.Endings.Basic
import Resumption.Proofs.Future.Context

namespace Resumption

/-- A failure of the bottom carrier. -/
def atBottom {α : Type} : Except Failure α → Except Fault α
  | .ok a => .ok a
  | .error e => .error ⟨0, e⟩

/-- The bracket of a bottom carrier ends as brackets end where there is one level. -/
theorem closeBracket_eq {σ : Type} [Observer σ] {β : Type} (used : Except Failure β)
    (released : Except Failure Verdict) (w : σ) :
    (atBottom (closeBracket used released w).1, (closeBracket used released w).2) =
      closing (fun _ => 0) (atBottom used) (atBottom released) w := by
  rcases used with e | b <;> rcases released with e' | v <;>
    simp [closeBracket, settle, atBottom, closing, failedWith, afterFailedUse, failedOutcome,
      failedVerdict, seenAt]

@[simp] theorem atBottom_toOption {α : Type} (r : Except Failure α) :
    (atBottom r).toOption = r.toOption := by
  cases r <;> rfl

/-! ## Actions -/

namespace Action

variable {σ : Type} [Observer σ] {α β ρ : Type}

instance : Endings σ (Action σ) where
  Setting := PUnit
  depth := 0
  channel _ := 0
  Ends _ x o w' _ := (atBottom (runBuilt x).1, (runBuilt x).2) = (o, w')

theorem ends_iff {x : Except Panic (Action σ α) × σ} {o : Except Fault α} {w' : σ}
    {c c' : Endings.Setting σ (Action σ)} :
    Endings.Ends c x o w' c' ↔ (atBottom (runBuilt x).1, (runBuilt x).2) = (o, w') :=
  Iff.rfl

theorem ends_ok {a : Action σ α} {w w' : σ} {o : Except Fault α}
    {c c' : Endings.Setting σ (Action σ)} :
    Endings.Ends c (.ok a, w) o w' c' ↔ (atBottom (a.run w).1, (a.run w).2) = (o, w') := by
  rw [ends_iff, runBuilt_ok]

theorem ends_call {h : Host σ (Action σ α)} {w w' : σ} {o : Except Fault α}
    {c c' : Endings.Setting σ (Action σ)} :
    Endings.Ends c (h w) o w' c' ↔
      (atBottom (Call.ofRun (h w)).run.1, (Call.ofRun (h w)).run.2) = (o, w') :=
  Iff.rfl

end Action

variable {σ : Type} [Observer σ]

instance : LawfulEndings σ (Action σ) where
  ends_panic := by
    intro α p w w' c c' o
    rw [Action.ends_iff, Action.runBuilt_panic]
    constructor
    · rintro ⟨⟩
      exact ⟨rfl, rfl, rfl⟩
    · rintro ⟨rfl, rfl, -⟩
      rfl
  ends_pure := by
    intro α a w w' c c' o
    rw [Action.ends_ok, Carrier.pure, Action.instCarrier, Action.run]
    constructor
    · rintro ⟨⟩
      exact ⟨rfl, rfl, rfl⟩
    · rintro ⟨rfl, rfl, -⟩
      rfl
  ends_raise := by
    intro α e w w' c c' o
    rw [Action.ends_ok, ErrorChannel.raise, Action.instErrorChannelFailure]
    simp only [Action.fail, Action.run]
    constructor
    · rintro ⟨⟩
      exact ⟨rfl, rfl, rfl⟩
    · rintro ⟨rfl, rfl, -⟩
      rfl
  ends_bind := by
    intro α β m k w w' c c' o
    rw [show Carrier.bind m k w = (.ok (Action.bind m fun x w => .ofRun (k x w)), w) from rfl]
    simp only [Action.ends_ok, Action.ends_call, Action.run]
    rcases m.run w with ⟨e | x, v⟩
    · constructor
      · intro h
        cases h
        exact .inr ⟨_, rfl, rfl⟩
      · rintro (⟨a, w₁, c₁, ⟨⟩, -⟩ | ⟨f, rfl, h⟩)
        cases h
        rfl
    · constructor
      · intro h
        exact .inl ⟨x, v, c, rfl, h⟩
      · rintro (⟨a, w₁, c₁, ⟨⟩, h⟩ | ⟨f, rfl, ⟨⟩⟩)
        exact h
  ends_map := by
    intro α β m f w w' c c' o
    have same : Action.runBuilt _ = Action.runBuilt _ := LawfulCarrier.map_eq m f w
    rw [Action.ends_iff, Action.ends_iff, same]
  ends_bracketWith := by
    intro ρ β acquire use release w w' c c' o
    rw [show Bracketing.bracketWith acquire use release w = (.ok (Action.bracket acquire
      (fun r w => .ofRun (use r w)) fun r b w => .ofRun (release r b w)), w) from rfl]
    rw [Action.ends_ok, Action.run]
    constructor
    · intro h
      rcases ha : acquire.run w with ⟨e | r, w₁⟩ <;> rw [ha] at h
      · exact .inl ⟨⟨0, e⟩, w₁, Action.ends_ok.mpr (ha ▸ rfl), h⟩
      · rw [closeBracket_eq] at h
        have acquired : Endings.Ends c (.ok acquire, w) (.ok r) w₁ c :=
          Action.ends_ok.mpr (ha ▸ rfl)
        refine .inr ⟨_, _, _, .intro acquired (@Action.ends_call _ _ _ _ _ _ _ c c |>.mpr rfl)
          (Action.ends_call.mpr ?_), h⟩
        rw [atBottom_toOption]
    · rintro (⟨f, w₁, ha, h⟩ | ⟨used, released, w₃, ⟨ha, hu, hr⟩, h⟩)
      · rw [Action.ends_ok] at ha
        generalize acquire.run w = x at ha ⊢
        rcases x with ⟨e | r, v⟩ <;> cases ha
        exact h
      · rw [Action.ends_ok] at ha
        generalize acquire.run w = x at ha ⊢
        rcases x with ⟨e | r, v⟩ <;> cases ha
        cases Action.ends_call.mp hu
        cases Action.ends_call.mp hr
        rw [← h]
        rw [atBottom_toOption]
        exact closeBracket_eq _ _ _
  level_le := by
    intro α x f w' c c' h
    rw [Action.ends_iff] at h
    generalize Action.runBuilt x = y at h
    rcases y with ⟨e | a, v⟩ <;> cases h
    exact Nat.le_refl 0
  channel_le _ := Nat.zero_le _
  channel_eq _ _ := rfl

/-! ## Futures -/

namespace Future

variable {σ : Type} [Observer σ] {α β γ ρ : Type}

/-- A poll that ends, or that leaves a future whose later polls end. -/
inductive Reaches (scopes : Scopes) :
    Polled σ α → Except Failure α → σ → Option (Reactor σ) → Prop
  | ended (o : Except Failure α) (w : σ) (r : Option (Reactor σ)) :
      Reaches scopes ⟨.ended o, w, r⟩ o w r
  | pending {a : Future σ α} {o : Except Failure α} {w w₁ w' : σ} {r r₁ r' : Option (Reactor σ)} :
      Reaches scopes (a.poll scopes w₁ r₁) o w' r' →
      Reaches scopes ⟨.pending a, w, r⟩ o w' r'

theorem reaches_around {scopes : Scopes} {K : Future σ α → Future σ β}
    {F : Except Failure α → σ → Option (Reactor σ) → Polled σ β} (hK : Runs scopes K F)
    {p : Polled σ α} {o : Except Failure β} {w' : σ} {r' : Option (Reactor σ)} :
    Reaches scopes (around K F p) o w' r' ↔
      ∃ o₁ w₁ r₁, Reaches scopes p o₁ w₁ r₁ ∧ Reaches scopes (F o₁ w₁ r₁) o w' r' := by
  constructor
  · intro h
    generalize hq : around K F p = q at h
    induction h generalizing p with
    | ended o w r =>
      rcases p with ⟨o₁ | a, w₁, r₁⟩
      · exact ⟨o₁, w₁, r₁, .ended .., by rw [show F o₁ w₁ r₁ = _ from hq]; exact .ended ..⟩
      · cases hq
    | pending later ih =>
      rcases p with ⟨o₁ | a, w₁, r₁⟩
      · refine ⟨o₁, w₁, r₁, .ended .., ?_⟩
        rw [show F o₁ w₁ r₁ = _ from hq]
        exact .pending later
      · cases hq
        obtain ⟨o₁, w₁, r₁, inner, rest⟩ := ih (hK a ..).symm
        exact ⟨o₁, w₁, r₁, .pending inner, rest⟩
  · rintro ⟨o₁, w₁, r₁, inner, rest⟩
    induction inner with
    | ended o w r => exact rest
    | pending later ih => exact .pending ((hK ..).symm ▸ ih rest)

/-- Polls that go alike reach the same ends. -/
theorem Reaches.congr {scopes : Scopes} {p q : Polled σ α} {o : Except Failure α} {w : σ}
    {r : Option (Reactor σ)} (h : Reaches scopes p o w r)
    (e : ∀ n, Polled.Alike (SamePolls n) p q) : Reaches scopes q o w r := by
  induction h generalizing q with
  | ended o w r =>
    cases e 0 with
    | ended => exact .ended o w r
  | @pending a o w w₁ w' r r₁ r' later ih =>
    rcases q with ⟨_ | b, w₂, r₂⟩
    · cases e 0
    · have next : Reaches scopes (b.poll scopes w₁ r₁) o w' r' := by
        refine ih fun n => ?_
        cases e (n + 1) with
        | pending _ _ _ same => exact same scopes w₁ r₁
      exact .pending next

instance : Endings σ (Future σ) where
  Setting := Scopes × Option (Reactor σ)
  depth := 0
  channel _ := 0
  Ends c x o w' c' :=
    c'.1 = c.1 ∧ ∃ r, Reaches c.1 (pollBuilt c.1 x c.2) r w' c'.2 ∧ atBottom r = o

theorem ends_iff {s s' : Scopes} {r r' : Option (Reactor σ)} {x : Except Panic (Future σ α) × σ}
    {o : Except Fault α} {w' : σ} :
    Endings.Ends (M := Future σ) (s, r) x o w' (s', r') ↔
      s' = s ∧ ∃ o₁, Reaches s (pollBuilt s x r) o₁ w' r' ∧ atBottom o₁ = o :=
  Iff.rfl

theorem ends_ok {s s' : Scopes} {r r' : Option (Reactor σ)} {a : Future σ α}
    {o : Except Fault α} {w w' : σ} :
    Endings.Ends (M := Future σ) (s, r) (.ok a, w) o w' (s', r') ↔
      s' = s ∧ ∃ o₁, Reaches s (a.poll s w r) o₁ w' r' ∧ atBottom o₁ = o := by
  rw [ends_iff, pollBuilt_ok]

theorem ends_call {s s' : Scopes} {r r' : Option (Reactor σ)} {h : Host σ (Future σ α)}
    {o : Except Fault α} {w w' : σ} :
    Endings.Ends (M := Future σ) (s, r) (h w) o w' (s', r') ↔
      s' = s ∧ ∃ o₁, Reaches s ((Call.ofRun (h w)).poll s r) o₁ w' r' ∧ atBottom o₁ = o :=
  Iff.rfl

theorem reaches_ended {s : Scopes} {o o' : Except Failure α} {w w' : σ}
    {r r' : Option (Reactor σ)} :
    Reaches s ⟨.ended o, w, r⟩ o' w' r' ↔ o' = o ∧ w' = w ∧ r' = r := by
  constructor
  · rintro ⟨⟩
    exact ⟨rfl, rfl, rfl⟩
  · rintro ⟨rfl, rfl, rfl⟩
    exact .ended ..

/-- A bracket whose acquisition failed ends with it; otherwise its use ends, then its
release, and then the bracket. -/
theorem reaches_bracket {s : Scopes} {a : Future σ ρ} {use : ρ → σ → Call σ β}
    {release : ρ → Option β → σ → Call σ Verdict} {w w' : σ} {r r' : Option (Reactor σ)}
    {o : Except Failure (β × Verdict)} :
    Reaches s ((bracket a use release).poll s w r) o w' r' ↔
      (∃ e, o = .error e ∧ Reaches s (a.poll s w r) (.error e) w' r') ∨
      ∃ x w₁ r₁ used w₂ r₂ released w₃, Reaches s (a.poll s w r) (.ok x) w₁ r₁ ∧
        Reaches s ((use x (note .acquired w₁)).poll s r₁) used w₂ r₂ ∧
        Reaches s ((release x used.toOption w₂).poll s r₂) released w₃ r' ∧
        closeBracket used released w₃ = (o, w') := by
  rw [runs_bracket s use release a w r, reaches_around (runs_bracket s use release)]
  constructor
  · rintro ⟨e | x, w₁, r₁, acquired, rest⟩
    · obtain ⟨rfl, rfl, rfl⟩ := reaches_ended.mp rest
      exact .inl ⟨e, rfl, acquired⟩
    · obtain ⟨used, w₂, r₂, ran, rest⟩ := (reaches_around (runs_inUse s s (release x))).mp rest
      rw [afterRelease_eq, reaches_around (runs_releasing s s used)] at rest
      obtain ⟨released, w₃, r₃, finished, rest⟩ := rest
      obtain ⟨rfl, rfl, rfl⟩ := reaches_ended.mp rest
      exact .inr ⟨x, w₁, r₁, used, w₂, r₂, released, w₃, acquired, ran, finished, rfl⟩
  · rintro (⟨e, rfl, acquired⟩ |
      ⟨x, w₁, r₁, used, w₂, r₂, released, w₃, acquired, ran, finished, h⟩)
    · exact ⟨_, w', r', acquired, .ended ..⟩
    · refine ⟨_, w₁, r₁, acquired, (reaches_around (runs_inUse s s (release x))).mpr ?_⟩
      refine ⟨used, w₂, r₂, ran, ?_⟩
      rw [afterRelease_eq, reaches_around (runs_releasing s s used)]
      refine ⟨released, w₃, r', finished, reaches_ended.mpr ?_⟩
      rw [h]
      exact ⟨rfl, rfl, rfl⟩

end Future

open Future in
instance : LawfulEndings σ (Future σ) where
  ends_panic := by
    rintro α p w w' ⟨s, r⟩ ⟨s', r'⟩ o
    simp only [ends_iff, pollBuilt_panic, reaches_ended]
    constructor
    · rintro ⟨rfl, o₁, ⟨rfl, rfl, rfl⟩, rfl⟩
      exact ⟨rfl, rfl, rfl⟩
    · rintro ⟨rfl, rfl, ⟨⟩⟩
      exact ⟨rfl, _, ⟨rfl, rfl, rfl⟩, rfl⟩
  ends_pure := by
    rintro α a w w' ⟨s, r⟩ ⟨s', r'⟩ o
    simp only [Carrier.pure, ends_ok, poll, reaches_ended]
    constructor
    · rintro ⟨rfl, o₁, ⟨rfl, rfl, rfl⟩, rfl⟩
      exact ⟨rfl, rfl, rfl⟩
    · rintro ⟨rfl, rfl, ⟨⟩⟩
      exact ⟨rfl, _, ⟨rfl, rfl, rfl⟩, rfl⟩
  ends_raise := by
    rintro α e w w' ⟨s, r⟩ ⟨s', r'⟩ o
    simp only [ErrorChannel.raise, fail, ends_ok, poll, reaches_ended]
    constructor
    · rintro ⟨rfl, o₁, ⟨rfl, rfl, rfl⟩, rfl⟩
      exact ⟨rfl, rfl, rfl⟩
    · rintro ⟨rfl, rfl, ⟨⟩⟩
      exact ⟨rfl, _, ⟨rfl, rfl, rfl⟩, rfl⟩
  ends_bind := by
    rintro α β m k w w' ⟨s, r⟩ ⟨s', r'⟩ o
    rw [show Carrier.bind m k w = (.ok (Future.bind m fun x w => .ofRun (k x w)), w) from rfl]
    rw [ends_ok, runs_bind s _ m w r]
    simp only [reaches_around (runs_bind s _)]
    constructor
    · rintro ⟨rfl, o₁, ⟨e | x, w₁, r₁, inner, rest⟩, rfl⟩
      · obtain ⟨rfl, rfl, rfl⟩ := reaches_ended.mp rest
        exact .inr ⟨_, rfl, ends_ok.mpr ⟨rfl, _, inner, rfl⟩⟩
      · exact .inl ⟨x, w₁, (_, r₁), ends_ok.mpr ⟨rfl, _, inner, rfl⟩,
          ends_call.mpr ⟨rfl, o₁, rest, rfl⟩⟩
    · rintro (⟨x, w₁, ⟨s₁, r₁⟩, hm, hk⟩ | ⟨f, rfl, hm⟩)
      · obtain ⟨rfl, e | y, inner, hx⟩ := ends_ok.mp hm <;> cases hx
        obtain ⟨rfl, o₁, rest, rfl⟩ := ends_call.mp hk
        exact ⟨rfl, o₁, ⟨_, _, _, inner, rest⟩, rfl⟩
      · obtain ⟨rfl, e | y, inner, hx⟩ := ends_ok.mp hm <;> cases hx
        exact ⟨rfl, _, ⟨_, _, _, inner, .ended ..⟩, rfl⟩
  ends_map := by
    rintro α β m f w w' ⟨s, r⟩ ⟨s', r'⟩ o
    have same := LawfulCarrier.map_eq m f w
    rw [ends_iff, ends_iff]
    constructor
    · rintro ⟨rfl, o₁, h, rfl⟩
      exact ⟨rfl, o₁, h.congr fun n => same n _ _, rfl⟩
    · rintro ⟨rfl, o₁, h, rfl⟩
      exact ⟨rfl, o₁, h.congr fun n => Observed.symm same n _ _, rfl⟩
  ends_bracketWith := by
    rintro ρ β acquire use release w w' ⟨s, r⟩ ⟨s', r'⟩ o
    rw [show Bracketing.bracketWith acquire use release w = (.ok (Future.bracket acquire
      (fun r w => .ofRun (use r w)) fun r b w => .ofRun (release r b w)), w) from rfl]
    rw [ends_ok]
    simp only [reaches_bracket]
    constructor
    · rintro ⟨rfl, o₁, ⟨e, rfl, acquired⟩ | ⟨x, w₁, r₁, used, w₂, r₂, released, w₃, acquired, ran,
        finished, h⟩, rfl⟩
      · exact .inl ⟨⟨0, e⟩, w', ends_ok.mpr ⟨rfl, _, acquired, rfl⟩, rfl⟩
      · refine .inr ⟨atBottom used, atBottom released, w₃, ?_, ?_⟩
        · have opened : Endings.Ends (M := Future σ) (s', r) (.ok acquire, w) (.ok x) w₁ (s', r₁) :=
            ends_ok.mpr ⟨rfl, _, acquired, rfl⟩
          have gone : Endings.Ends (M := Future σ) (s', r₁) (use x (note .acquired w₁))
              (atBottom used) w₂ (s', r₂) := ends_call.mpr ⟨rfl, used, ran, rfl⟩
          refine .intro opened gone (ends_call.mpr ⟨rfl, released, ?_, rfl⟩)
          rwa [atBottom_toOption]
        · refine (closeBracket_eq used released w₃).symm.trans ?_
          rw [h]
    · rintro (⟨f, w₁, acquired, h⟩ | ⟨used, released, w₃, phases, h⟩)
      · obtain ⟨rfl, e | x, failed, hx⟩ := ends_ok.mp acquired <;> cases hx
        cases h
        exact ⟨rfl, _, .inl ⟨e, rfl, failed⟩, rfl⟩
      · obtain @⟨x, _, _, w₁, w₂, _, ⟨s₁, r₁⟩, ⟨s₂, r₂⟩, _, ha, hu, hr⟩ := phases
        obtain ⟨rfl, e | y, acquired, hx⟩ := ends_ok.mp ha <;> cases hx
        obtain ⟨rfl, used, ran, rfl⟩ := ends_call.mp hu
        obtain ⟨rfl, released, finished, rfl⟩ := ends_call.mp hr
        rw [atBottom_toOption] at finished
        have close := (closeBracket_eq used released w₃).trans h
        refine ⟨rfl, (closeBracket used released w₃).1, .inr ⟨x, w₁, r₁, used, w₂, r₂, released, w₃,
          acquired, ran, finished, ?_⟩, congrArg Prod.fst close⟩
        exact Prod.ext rfl (congrArg (fun x => x.2) close)
  level_le := by
    rintro α x f w' ⟨s, r⟩ ⟨s', r'⟩ ⟨-, o | e, -, h⟩ <;> cases h
    exact Nat.le_refl 0
  channel_le _ := Nat.zero_le _
  channel_eq _ _ := rfl

end Resumption
