/-
Endings — how computations end, and at which layer.

A computation over `n` layers can fail in `n + 1` places: at the bottom, which is
level 0, or by an early exit from the layer at one of the levels 1 to `n`.  A
carrier with endings says how what was built comes to an end, from a world and
whatever else surrounds its runs, and in which world it leaves them.  Between
the polls of a future the surroundings may change in any way, so an ending is a
relation.

| level            | a failure there is                                    |
|------------------|-------------------------------------------------------|
| 0                | a failure of the bottom carrier, or a panic           |
| `k + 1`          | a left of the layer `k + 1`, counted from the bottom  |

`channel k` is the level to which an error falls that is raised above level `k`,
where layers of the base route are passed through.  A bracket ends as `closing`
says: its use, and then its release, have ended by themselves.
-/
import Resumption.Action.Basic
import Resumption.Proofs.Carrier.Observation

namespace Resumption

universe u v

/-- A failure and the level that it is found at. -/
structure Fault where
  level : Nat
  failure : Failure
deriving DecidableEq

/-- A carrier whose computations come to an end.  `Setting` is what surrounds a run
besides the world. -/
class Endings (σ : Type) (M : Type → Type u) where
  Setting : Type 1
  depth : Nat
  channel : Nat → Nat
  Ends {α : Type} : Setting → Except Panic (M α) × σ → Except Fault α → σ → Setting → Prop

section Closing

variable {σ : Type} [Observer σ] {β : Type}

/-- An ending with a fault. -/
def failedWith : Fault × σ → Except Fault β × σ
  | (f, w) => (.error f, w)

/-- How a bracket ends whose acquisition failed.  Above the bottom the resource of
the bottom's bracket is the early exit itself, which is acquired and released. -/
def notAcquired (channel : Nat → Nat) (f : Fault) (w : σ) : Fault × σ :=
  if f.level = 0 then (f, w)
  else (⟨channel f.level, f.failure⟩,
    note (.released (channel f.level = 0) false) (note .acquired w))

/-- Where a failure of the release comes to be seen, from where the use failed: where
it is, or at the next channel if it is higher up. -/
def seenAt (channel : Nat → Nat) (used released : Nat) : Nat :=
  if released ≤ used then released else channel used

/-- How a bracket ends whose use failed. -/
def afterFailedUse (channel : Nat → Nat) (f : Fault) : Except Fault Verdict → σ → Fault × σ
  | .ok v, w => (f, note (.released (f.level = 0) (failedVerdict (.ok v))) w)
  | .error g, w =>
    if seenAt channel f.level g.level < f.level then
      (⟨seenAt channel f.level g.level, g.failure⟩, note (.released false true) w)
    else if f.level = 0 then
      (f, note (.releaseFailureDropped f.failure g.failure) (note (.released true true) w))
    else (f, note (.released false false) (note (.releaseLeftDropped g.failure) w))

/-- How a bracket ends, from how its use and its release ended. -/
def closing (channel : Nat → Nat) :
    Except Fault β → Except Fault Verdict → σ → Except Fault (β × Verdict) × σ
  | .ok b, .ok v, w => (.ok (b, v), note (.released false (failedVerdict (.ok v))) w)
  | .ok _, .error g, w => (.error g, note (.released false true) w)
  | .error f, released, w => failedWith (afterFailedUse channel f released w)

end Closing

section Laws

variable {σ : Type} {M : Type → Type u} {ρ α β : Type}

/-- A bracket's resource was acquired, and then its use and its release have ended. -/
inductive Released [Observer σ] [Endings σ M] (acquire : M ρ) (use : ρ → Host σ (M β))
    (release : ρ → Option β → Host σ (M Verdict)) (w : σ) (c : Endings.Setting σ M) :
    Except Fault β → Except Fault Verdict → σ → Endings.Setting σ M → Prop
  | intro {r : ρ} {used : Except Fault β} {released : Except Fault Verdict} {w₁ w₂ w₃ : σ}
      {c₁ c₂ c₃ : Endings.Setting σ M} :
      Endings.Ends c (.ok acquire, w) (.ok r) w₁ c₁ →
      Endings.Ends c₁ (use r (note .acquired w₁)) used w₂ c₂ →
      Endings.Ends c₂ (release r used.toOption w₂) released w₃ c₃ →
      Released acquire use release w c used released w₃ c₃

/-- A resource was acquired, and then its use and its release have ended. -/
inductive Bracketed [Observer σ] [Endings σ M] (acquire : M ρ) (use : ρ → Host σ (M β))
    (release : ρ → Host σ (M Unit)) (w : σ) (c : Endings.Setting σ M) :
    Except Fault β → Except Fault Unit → σ → Endings.Setting σ M → Prop
  | intro {r : ρ} {used : Except Fault β} {released : Except Fault Unit} {w₁ w₂ w₃ : σ}
      {c₁ c₂ c₃ : Endings.Setting σ M} :
      Endings.Ends c (.ok acquire, w) (.ok r) w₁ c₁ →
      Endings.Ends c₁ (use r (note .acquired w₁)) used w₂ c₂ →
      Endings.Ends c₂ (release r w₂) released w₃ c₃ →
      Bracketed acquire use release w c used released w₃ c₃

/-- How a bracket ends whose release returns nothing. -/
def bracketClosing [Observer σ] (channel : Nat → Nat) (used : Except Fault β)
    (released : Except Fault Unit) (w : σ) : Except Fault β × σ :=
  match closing channel used (released.map fun _ => .clean) w with
  | (o, w) => (o.map Prod.fst, w)

/-- The endings of a carrier are those of its operations. -/
class LawfulEndings (σ : Type) (M : Type → Type u) [Observer σ] [Carrier σ M]
    [ErrorChannel σ M Failure] [Bracketing σ M] [Endings σ M] : Prop where
  ends_panic {α : Type} {p : Panic} {w w' : σ} {c c' : Endings.Setting σ M} {o : Except Fault α} :
    Endings.Ends (M := M) c (.error p, w) o w' c' ↔
      o = .error ⟨0, .ofPanic p⟩ ∧ w' = w ∧ c' = c
  ends_pure {α : Type} {a : α} {w w' : σ} {c c' : Endings.Setting σ M} {o : Except Fault α} :
    Endings.Ends c (.ok (Carrier.pure σ a : M α), w) o w' c' ↔ o = .ok a ∧ w' = w ∧ c' = c
  ends_raise {α : Type} {e : Failure} {w w' : σ} {c c' : Endings.Setting σ M}
    {o : Except Fault α} :
    Endings.Ends c (.ok (ErrorChannel.raise σ e : M α), w) o w' c' ↔
      o = .error ⟨Endings.channel σ M (Endings.depth σ M), e⟩ ∧ w' = w ∧ c' = c
  ends_bind {α β : Type} {m : M α} {k : α → Host σ (M β)} {w w' : σ}
    {c c' : Endings.Setting σ M} {o : Except Fault β} :
    Endings.Ends c (Carrier.bind m k w) o w' c' ↔
      (∃ a w₁ c₁, Endings.Ends c (.ok m, w) (.ok a) w₁ c₁ ∧ Endings.Ends c₁ (k a w₁) o w' c') ∨
      ∃ f, o = .error f ∧ Endings.Ends c (.ok m, w) (.error f) w' c'
  ends_map {α β : Type} {m : M α} {f : α → Host σ β} {w w' : σ} {c c' : Endings.Setting σ M}
    {o : Except Fault β} :
    Endings.Ends c (Mappable.map m f w) o w' c' ↔
      Endings.Ends c (Carrier.bind m (fun a => (f a).map (Carrier.pure σ)) w) o w' c'
  ends_bracketWith {ρ β : Type} {acquire : M ρ} {use : ρ → Host σ (M β)}
    {release : ρ → Option β → Host σ (M Verdict)} {w w' : σ} {c c' : Endings.Setting σ M}
    {o : Except Fault (β × Verdict)} :
    Endings.Ends c (Bracketing.bracketWith acquire use release w) o w' c' ↔
      (∃ f w₁, Endings.Ends c (.ok acquire, w) (.error f) w₁ c' ∧
        failedWith (notAcquired (Endings.channel σ M) f w₁) = (o, w')) ∨
      ∃ used released w₃, Released acquire use release w c used released w₃ c' ∧
        closing (Endings.channel σ M) used released w₃ = (o, w')
  level_le {α : Type} {x : Except Panic (M α) × σ} {f : Fault} {w' : σ}
    {c c' : Endings.Setting σ M} :
    Endings.Ends c x (.error f) w' c' → f.level ≤ Endings.depth σ M
  channel_le (k : Nat) : Endings.channel σ M k ≤ k
  channel_eq {k l : Nat} : Endings.channel σ M l ≤ k → k ≤ l →
    Endings.channel σ M k = Endings.channel σ M l

end Laws

/-! ## What follows from the laws -/

namespace Endings

variable {σ : Type} {M : Type → Type u} [Observer σ] [Carrier σ M] [ErrorChannel σ M Failure]
  [Bracketing σ M] [Endings σ M] [LawfulEndings σ M] {ρ α β : Type}
  {w w' : σ} {c c' : Setting σ M}

open LawfulEndings

/-- What was built ends as it does and goes on with its value. -/
theorem ends_chain {h : Host σ (M α)} {k : α → Host σ (M β)} {o : Except Fault β} :
    Ends c (h.chain k w) o w' c' ↔
      (∃ a w₁ c₁, Ends c (h w) (.ok a) w₁ c₁ ∧ Ends c₁ (k a w₁) o w' c') ∨
      ∃ f, o = .error f ∧ Ends c (h w) (.error f) w' c' := by
  unfold Host.chain Host.bind
  rcases h w with ⟨p | m, v⟩
  · simp only [ends_panic]
    constructor
    · rintro ⟨rfl, rfl, rfl⟩
      exact .inr ⟨_, rfl, rfl, rfl, rfl⟩
    · rintro (⟨a, w₁, c₁, ⟨⟨⟩, -, -⟩, -⟩ | ⟨f, rfl, ⟨⟩, rfl, rfl⟩)
      exact ⟨rfl, rfl, rfl⟩
  · exact ends_bind

/-- A plain function of the value changes only the value. -/
theorem ends_map_pure {m : M α} {f : α → β} {o : Except Fault β} :
    Ends c (Mappable.map m (fun a => Host.pure (f a)) w) o w' c' ↔
      ∃ o₁, Ends c (.ok m, w) o₁ w' c' ∧ o = o₁.map f := by
  simp only [ends_map, ends_bind, Host.map, Host.bind, Host.pure, ends_pure]
  constructor
  · rintro (⟨a, w₁, c₁, h, rfl, rfl, rfl⟩ | ⟨g, rfl, h⟩)
    · exact ⟨_, h, rfl⟩
    · exact ⟨_, h, rfl⟩
  · rintro ⟨g | a, h, rfl⟩
    · exact .inr ⟨g, rfl, h⟩
    · exact .inl ⟨a, _, _, h, rfl, rfl, rfl⟩

/-- The same of what was built. -/
theorem ends_mapped {h : Host σ (M α)} {f : α → β} {o : Except Fault β} :
    Ends c (h.bind (fun m => Mappable.map m fun a => Host.pure (f a)) w) o w' c' ↔
      ∃ o₁, Ends c (h w) o₁ w' c' ∧ o = o₁.map f := by
  unfold Host.bind
  rcases h w with ⟨p | m, v⟩
  · simp only [ends_panic]
    constructor
    · rintro ⟨rfl, rfl, rfl⟩
      exact ⟨_, ⟨rfl, rfl, rfl⟩, rfl⟩
    · rintro ⟨o₁, ⟨rfl, rfl, rfl⟩, rfl⟩
      exact ⟨rfl, rfl, rfl⟩
  · exact ends_map_pure

/-- A bracket acquires nothing, or its use and its release end and it closes. -/
theorem ends_bracket {acquire : M ρ} {use : ρ → Host σ (M β)} {release : ρ → Host σ (M Unit)}
    {o : Except Fault β} :
    Ends c (bracket acquire use release w) o w' c' ↔
      (∃ f w₁, Ends c (.ok acquire, w) (.error f) w₁ c' ∧
        failedWith (notAcquired (channel σ M) f w₁) = (o, w')) ∨
      ∃ used released w₃, Bracketed acquire use release w c used released w₃ c' ∧
        bracketClosing (channel σ M) used released w₃ = (o, w') := by
  unfold bracket
  rw [ends_mapped]
  simp only [ends_bracketWith]
  constructor
  · rintro ⟨o₁, ⟨f, w₁, acquired, h⟩ | ⟨used, verdict, w₃, phases, h⟩, rfl⟩
    · cases h
      exact .inl ⟨f, w₁, acquired, rfl⟩
    · obtain ⟨acquired, ran, finished⟩ := phases
      obtain ⟨released, ended, rfl⟩ := ends_mapped.mp finished
      refine .inr ⟨used, released, w₃, .intro acquired ran ended, ?_⟩
      simp only [bracketClosing, h]
  · rintro (⟨f, w₁, acquired, h⟩ | ⟨used, released, w₃, ⟨acquired, ran, finished⟩, h⟩)
    · cases h
      exact ⟨_, .inl ⟨f, w₁, acquired, rfl⟩, rfl⟩
    · cases h
      exact ⟨_, .inr ⟨used, _, w₃, .intro acquired ran (ends_mapped.mpr ⟨_, finished, rfl⟩), rfl⟩,
        rfl⟩

end Endings

end Resumption
