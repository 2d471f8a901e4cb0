/-
Layered — how layered computations end.

A layer adds a level to the endings of its base: a left of the base's value is a
failure there.  The channel of the new level is itself on the layer route, and
that of the base on the base route.

The bracket of a layer is the base's bracket with a verdict, so its ending is
found in three steps: the ending of the base's bracket, what the layer made of
the release (`verdictOf`), and what it makes of the whole (`surfaced`).  These
come to the closing of a bracket one level higher (`closing_surfaced`).
-/
import Resumption.Layered.Bracket
import Resumption.Proofs.Endings.Basic

namespace Resumption

universe u

namespace Layered

variable {σ : Type} {route : Route} {M : Type → Type u} {α β ρ : Type}

/-- The outcome of a layer over `depth` others, from the outcome of its base. -/
def surfaced (depth : Nat) : Except Fault (Either Failure α) → Except Fault α
  | .ok (.right a) => .ok a
  | .ok (.left e) => .error ⟨depth + 1, e⟩
  | .error f => .error f

/-- The base of what was built. -/
def baseBuilt : Except Panic (Layered route M Failure α) × σ →
    Except Panic (M (Either Failure α)) × σ
  | (.ok m, w) => (.ok m.base, w)
  | (.error p, w) => (.error p, w)

/-- Where an error is raised in a layer over `depth` others. -/
def channelOver (route : Route) (depth : Nat) (channel : Nat → Nat) (k : Nat) : Nat :=
  if k ≤ depth then channel k
  else match route with
    | .layer => depth + 1
    | .base => channel depth

instance [Endings σ M] : Endings σ (Layered route M Failure) where
  Setting := Endings.Setting σ M
  depth := Endings.depth σ M + 1
  channel := channelOver route (Endings.depth σ M) (Endings.channel σ M)
  Ends c x o w' c' :=
    ∃ o₁, Endings.Ends c (baseBuilt x) o₁ w' c' ∧ surfaced (Endings.depth σ M) o₁ = o

theorem baseBuilt_map (h : Host σ (M (Either Failure α))) (w : σ) :
    baseBuilt (h.map (mk : _ → Layered route M Failure α) w) = h w := by
  unfold Host.map Host.bind
  rcases h w with ⟨_ | _, _⟩ <;> rfl

theorem map_base (h : Host σ (Layered route M Failure α)) (w : σ) :
    h.map base w = baseBuilt (h w) := by
  unfold Host.map Host.bind
  rcases h w with ⟨_ | _, _⟩ <;> rfl

/-! ## The closing of a bracket, one level higher -/

/-- The ending of a release in the base, from its ending in the layer and from how the
use ended in the base. -/
def verdictOf [Observer σ] (raised : Nat) :
    Except Fault (Either Failure β) → Except Fault (Either Failure Verdict) → σ →
      Except Fault Verdict × σ
  | _, .error g, w => (.error g, w)
  | _, .ok (.right v), w => (.ok (deepen v), w)
  | .ok (.left _), .ok (.left e), w => (.ok .clean, note (.releaseLeftDropped e) w)
  | .ok (.right _), .ok (.left e), w => (.ok (.failed e 0), w)
  | .error _, .ok (.left e), w => (.error ⟨raised, e⟩, w)

variable (route) in
theorem channelOver_of_le {channel : Nat → Nat} {depth k : Nat} (h : k ≤ depth) :
    channelOver route depth channel k = channel k :=
  if_pos h

variable (route) in
theorem channelOver_above (channel : Nat → Nat) (depth : Nat) :
    channelOver route depth channel (depth + 1) =
      match route with
      | .layer => depth + 1
      | .base => channel depth :=
  if_neg (Nat.not_succ_le_self depth)

theorem failedVerdict_deepen (v : Verdict) :
    failedVerdict (.ok (deepen v)) = failedVerdict (.ok v) := by
  cases v <;> rfl

theorem surface_deepen (b : β) (v : Verdict) : surface (.right b, deepen v) = .right (b, v) := by
  cases v <;> rfl

/-- A failed use is met by a failure of the release where that is seen, at whichever
level it was raised. -/
theorem afterFailedUse_congr [Observer σ] {channel channel' : Nat → Nat} {f : Fault} {k l : Nat}
    {e : Failure} (h : seenAt channel f.level k = seenAt channel' f.level l) (w : σ) :
    afterFailedUse channel f (.error ⟨k, e⟩) w = afterFailedUse channel' f (.error ⟨l, e⟩) w := by
  simp only [afterFailedUse, h]

/-- A failure that is raised again at the channel below its level is seen where it
would have been seen. -/
theorem seenAt_raised {channel : Nat → Nat} {depth k : Nat}
    (channel_eq : channel depth ≤ k → k ≤ depth → channel k = channel depth) (h : k ≤ depth) :
    seenAt channel k (channel depth) = seenAt (channelOver route depth channel) k (depth + 1) := by
  have above : ¬ depth + 1 ≤ k := by omega
  simp only [seenAt, channelOver_of_le route h, if_neg above]
  split
  · rename_i below
    exact (channel_eq below h).symm
  · rfl

/-- The outcome of the layer's bracket, with the world, from those of the base's. -/
def surfacedBracket (depth : Nat) (x : Except Fault (Either Failure β × Verdict) × σ) :
    Except Fault (β × Verdict) × σ :=
  (surfaced depth (x.1.map surface), x.2)

/-- The bracket of the base, what the layer made of its release and what it makes of
the whole close a bracket one level higher. -/
theorem closing_surfaced [Observer σ] {channel : Nat → Nat} {depth : Nat}
    (channel_eq : ∀ {k}, channel depth ≤ k → k ≤ depth → channel k = channel depth)
    {used : Except Fault (Either Failure β)} {released : Except Fault (Either Failure Verdict)}
    {verdict : Except Fault Verdict} {w w₁ : σ} (hu : ∀ f, used = .error f → f.level ≤ depth)
    (hr : ∀ g, released = .error g → g.level ≤ depth)
    (hv : verdictOf (channel depth) used released w = (verdict, w₁)) :
    surfacedBracket depth (closing channel used verdict w₁) =
      closing (channelOver route depth channel) (surfaced depth used)
        (surfaced depth released) w := by
  rcases used with f | e | b
  · have hf := hu f rfl
    rcases released with g | e' | v <;> cases hv
    · refine congrArg failedWith (afterFailedUse_congr ?_ w)
      simp only [seenAt, channelOver_of_le route hf]
    · refine congrArg failedWith (afterFailedUse_congr ?_ w)
      exact seenAt_raised channel_eq hf
    · simp only [surfacedBracket, closing, surfaced, failedWith, afterFailedUse,
        failedVerdict_deepen, Except.map]
  · rcases released with g | e' | v <;> cases hv
    · have hg := hr g rfl
      have below : g.level < depth + 1 := by omega
      simp only [surfacedBracket, closing, surfaced, failedWith, afterFailedUse, Except.map, seenAt,
        if_pos (Nat.le_of_lt below), if_pos below]
    · simp [surfacedBracket, closing, surfaced, failedWith, afterFailedUse, Except.map, seenAt,
        surface, failedVerdict]
    · simp [surfacedBracket, closing, surfaced, failedWith, afterFailedUse, Except.map, surface,
        failedVerdict_deepen]
  · rcases released with g | e' | v <;> cases hv
    · rfl
    · rfl
    · simp only [surfacedBracket, closing, surfaced, Except.map, surface_deepen,
        failedVerdict_deepen]

/-! ## The laws -/

section Laws

variable [Observer σ] [Carrier σ M] [ErrorChannel σ M Failure] [Bracketing σ M] [Endings σ M]
  [LawfulEndings σ M] {w w' : σ} {c c' : Endings.Setting σ M}

open LawfulEndings Endings

omit [Observer σ] [Carrier σ M] [ErrorChannel σ M Failure] [Bracketing σ M]
  [LawfulEndings σ M] in
theorem ends_iff {x : Except Panic (Layered route M Failure α) × σ} {o : Except Fault α} :
    Ends (M := Layered route M Failure) c x o w' c' ↔
      ∃ o₁, Ends (M := M) c (baseBuilt x) o₁ w' c' ∧ surfaced (depth σ M) o₁ = o :=
  Iff.rfl

omit [Observer σ] [Carrier σ M] [ErrorChannel σ M Failure] [Bracketing σ M]
  [LawfulEndings σ M] in
theorem ends_mk {h : Host σ (M (Either Failure α))} {o : Except Fault α} :
    Ends (M := Layered route M Failure) c (h.map mk w) o w' c' ↔
      ∃ o₁, Ends c (h w) o₁ w' c' ∧ surfaced (depth σ M) o₁ = o := by
  rw [ends_iff, baseBuilt_map]

theorem ends_panic_layer {p : Panic} {o : Except Fault α} :
    Ends (M := Layered route M Failure) c (.error p, w) o w' c' ↔
      o = .error ⟨0, .ofPanic p⟩ ∧ w' = w ∧ c' = c := by
  rw [ends_iff, baseBuilt]
  constructor
  · rintro ⟨o₁, h, rfl⟩
    obtain ⟨rfl, rfl, rfl⟩ := ends_panic.mp h
    exact ⟨rfl, rfl, rfl⟩
  · rintro ⟨rfl, rfl, rfl⟩
    exact ⟨_, ends_panic.mpr ⟨rfl, rfl, rfl⟩, rfl⟩

theorem ends_ofEither {x : Either Failure α} {o : Except Fault α} :
    Ends (M := Layered route M Failure) c (.ok (ofEither σ x), w) o w' c' ↔
      o = surfaced (depth σ M) (.ok x) ∧ w' = w ∧ c' = c := by
  rw [ends_iff]
  constructor
  · rintro ⟨o₁, h, rfl⟩
    obtain ⟨rfl, rfl, rfl⟩ := ends_pure.mp h
    exact ⟨rfl, rfl, rfl⟩
  · rintro ⟨rfl, rfl, rfl⟩
    exact ⟨_, ends_pure.mpr ⟨rfl, rfl, rfl⟩, rfl⟩

theorem ends_bind_layer {m : Layered route M Failure α}
    {k : α → Host σ (Layered route M Failure β)} {o : Except Fault β} :
    Ends (M := Layered route M Failure) c (m.bind k w) o w' c' ↔
      (∃ a w₁ c₁, Ends (M := Layered route M Failure) c (.ok m, w) (.ok a) w₁ c₁ ∧
        Ends (M := Layered route M Failure) c₁ (k a w₁) o w' c') ∨
      ∃ f, o = .error f ∧ Ends (M := Layered route M Failure) c (.ok m, w) (.error f) w' c' := by
  rw [bind, bindBase, ends_mk]
  constructor
  · rintro ⟨o₁, h, rfl⟩
    rcases ends_bind.mp h with ⟨e | a, w₁, c₁, hm, hk⟩ | ⟨f, rfl, hm⟩
    · obtain ⟨rfl, rfl, rfl⟩ := ends_pure.mp hk
      exact .inr ⟨_, rfl, _, hm, rfl⟩
    · exact .inl ⟨a, w₁, c₁, ⟨_, hm, rfl⟩, o₁, (map_base (k a) w₁) ▸ hk, rfl⟩
    · exact .inr ⟨f, rfl, _, hm, rfl⟩
  · rintro (⟨a, w₁, c₁, ⟨f | e | b, hm, ⟨⟩⟩, o₁, hk, rfl⟩ | ⟨f, rfl, f' | e | b, hm, ⟨⟩⟩)
    · rw [← map_base] at hk
      exact ⟨o₁, ends_bind.mpr (.inl ⟨_, w₁, c₁, hm, hk⟩), rfl⟩
    · exact ⟨_, ends_bind.mpr (.inr ⟨_, rfl, hm⟩), rfl⟩
    · exact ⟨_, ends_bind.mpr (.inl ⟨_, _, _, hm, ends_pure.mpr ⟨rfl, rfl, rfl⟩⟩), rfl⟩

theorem ends_map_layer {m : Layered route M Failure α} {f : α → Host σ β} {o : Except Fault β} :
    Ends (M := Layered route M Failure) c (m.map f w) o w' c' ↔
      Ends (M := Layered route M Failure) c
        (m.bind (fun a => (f a).map fun b => ofEither σ (.right b)) w) o w' c' := by
  rw [map, bimap, bind, bindBase, ends_mk, ends_mk]
  have steps : (fun x : Either Failure α => Host.map (Carrier.pure σ (M := M))
      (Either.bimap Host.pure f x)) =
      Either.fold (fun e => .pure (Carrier.pure σ (.left e)))
        fun a =>
          ((f a).map fun b => (ofEither σ (.right b) : Layered route M Failure β)).map base := by
    funext x v
    rcases x with e | a
    · rfl
    · simp only [Either.bimap, Either.fold, Host.map, Host.bind]
      rcases f a v with ⟨_ | _, _⟩ <;> rfl
  simp only [ends_map, steps]

/-- The release of the base ends as the layer makes it end, from the ending of the
release in the layer. -/
theorem ends_release {used : Except Fault (Either Failure β)}
    {h : Host σ (Layered route M Failure Verdict)} {o : Except Fault Verdict} :
    Ends c (h.bind (fun m => Carrier.bind m.base (releaseVerdict (σ := σ) used.toOption)) w)
        o w' c' ↔
      ∃ released w₁, Ends c (baseBuilt (h w)) released w₁ c' ∧
        verdictOf (channel σ M (depth σ M)) used released w₁ = (o, w') := by
  rw [show h.bind (fun m => Carrier.bind m.base (releaseVerdict (σ := σ) used.toOption)) w =
    (h.map base).chain (releaseVerdict used.toOption) w from
    (congrFun (Host.bind_assoc h (fun m => .pure m.base)
      fun m => Carrier.bind m (releaseVerdict used.toOption)) w).symm, ends_chain, map_base]
  constructor
  · rintro (⟨e | v, w₁, c₁, released, rest⟩ | ⟨f, rfl, released⟩)
    · rcases used with f | e' | b
      · obtain ⟨rfl, rfl, rfl⟩ := ends_raise.mp rest
        exact ⟨_, _, released, rfl⟩
      · obtain ⟨rfl, rfl, rfl⟩ := ends_pure.mp rest
        exact ⟨_, _, released, rfl⟩
      · obtain ⟨rfl, rfl, rfl⟩ := ends_pure.mp rest
        exact ⟨_, _, released, rfl⟩
    · obtain ⟨rfl, rfl, rfl⟩ := ends_pure.mp rest
      exact ⟨_, _, released, by cases used <;> rfl⟩
    · exact ⟨_, _, released, by cases used <;> rfl⟩
  · rintro ⟨g | e | v, w₁, released, h⟩
    · cases h
      exact .inr ⟨_, rfl, released⟩
    · refine .inl ⟨_, _, _, released, ?_⟩
      rcases used with f | e' | b <;> cases h
      · exact ends_raise.mpr ⟨rfl, rfl, rfl⟩
      · exact ends_pure.mpr ⟨rfl, rfl, rfl⟩
      · exact ends_pure.mpr ⟨rfl, rfl, rfl⟩
    · refine .inl ⟨_, _, _, released, ?_⟩
      cases h
      exact ends_pure.mpr ⟨rfl, rfl, rfl⟩

/-- How the base uses the resource of a layered bracket. -/
abbrev baseUse (use : ρ → Host σ (Layered route M Failure β)) :
    Either Failure ρ → Host σ (M (Either Failure β)) :=
  Either.fold (fun e => .pure (failedAcquire (σ := σ) e route)) fun r => (use r).map base

/-- How the base releases the resource of a layered bracket. -/
abbrev baseRelease (release : ρ → Option β → Host σ (Layered route M Failure Verdict)) :
    Either Failure ρ → Option (Either Failure β) → Host σ (M Verdict) :=
  Either.fold (fun _ _ => .pure (Carrier.pure σ .clean)) fun r used =>
    (release r (used.bind Either.right?)).bind fun m => Carrier.bind m.base (releaseVerdict used)

omit [Endings σ M] [LawfulEndings σ M] in
theorem bracketWith_eq (acquire : Layered route M Failure ρ)
    (use : ρ → Host σ (Layered route M Failure β))
    (release : ρ → Option β → Host σ (Layered route M Failure Verdict)) :
    Bracketing.bracketWith acquire use release =
      ((Bracketing.bracketWith acquire.base (baseUse use) (baseRelease release)).bind fun m =>
        Mappable.map m fun p => Host.pure (σ := σ) (surface p)).map mk :=
  (Host.bind_assoc _ _ _).symm

theorem ends_bracketWith_base {acquire : Layered route M Failure ρ}
    {use : ρ → Host σ (Layered route M Failure β)}
    {release : ρ → Option β → Host σ (Layered route M Failure Verdict)}
    {o : Except Fault (β × Verdict)} :
    Ends (M := Layered route M Failure) c (Bracketing.bracketWith acquire use release w) o w' c' ↔
      (∃ f w₁, Ends c (.ok acquire.base, w) (.error f) w₁ c' ∧
        surfacedBracket (depth σ M) (failedWith (notAcquired (channel σ M) f w₁)) = (o, w')) ∨
      ∃ used released w₃,
        Released acquire.base (baseUse use) (baseRelease release) w c used released w₃ c' ∧
        surfacedBracket (depth σ M) (closing (channel σ M) used released w₃) = (o, w') := by
  rw [bracketWith_eq, ends_mk]
  simp only [ends_mapped, ends_bracketWith]
  constructor
  · rintro ⟨_, ⟨o₁, ⟨f, w₁, h, e⟩ | ⟨used, released, w₃, h, e⟩, rfl⟩, rfl⟩
    · exact .inl ⟨f, w₁, h, by rw [e]; rfl⟩
    · exact .inr ⟨used, released, w₃, h, by rw [e]; rfl⟩
  · rintro (⟨f, w₁, h, e⟩ | ⟨used, released, w₃, h, e⟩)
    · cases e
      exact ⟨_, ⟨_, .inl ⟨f, w₁, h, rfl⟩, rfl⟩, rfl⟩
    · cases e
      exact ⟨_, ⟨_, .inr ⟨used, released, w₃, h, rfl⟩, rfl⟩, rfl⟩

/-- The value that the layer's release is told of. -/
theorem toOption_surfaced (used : Except Fault (Either Failure β)) (depth : Nat) :
    used.toOption.bind Either.right? = (surfaced depth used).toOption := by
  rcases used with _ | _ | _ <;> rfl

/-- How a use ends that is skipped for an acquisition that exited early. -/
def skippedUse (channel : Nat) (e : Failure) : Route → Except Fault (Either Failure β)
  | .layer => .ok (.left e)
  | .base => .error ⟨channel, e⟩

/-- The bracket of the base after an early exit of the acquisition closes as a bracket
that acquired nothing, one level higher. -/
theorem closing_skipped {channel : Nat → Nat} {depth : Nat} {e : Failure} {w : σ} :
    surfacedBracket depth (closing channel (skippedUse (β := β) (channel depth) e route)
        (.ok .clean) (note .acquired w)) =
      failedWith (notAcquired (channelOver route depth channel) ⟨depth + 1, e⟩ w) := by
  cases route with
  | layer =>
    simp [skippedUse, closing, surfacedBracket, surfaced, surface, failedWith, Except.map,
      notAcquired, channelOver_above, failedVerdict]
  | base =>
    simp [skippedUse, closing, surfacedBracket, surfaced, failedWith, Except.map, notAcquired,
      afterFailedUse, channelOver_above, failedVerdict]

theorem ends_failedAcquire {e : Failure} {o : Except Fault (Either Failure β)} :
    Ends c (.ok (failedAcquire (σ := σ) e route : M (Either Failure β)), w) o w' c' ↔
      o = skippedUse (channel σ M (depth σ M)) e route ∧ w' = w ∧ c' = c := by
  cases route with
  | layer => exact ends_pure
  | base => exact ends_raise

theorem notAcquired_of_le {channel : Nat → Nat} {depth : Nat} {f : Fault} (h : f.level ≤ depth)
    (w : σ) : surfacedBracket (β := β) depth (failedWith (notAcquired channel f w)) =
      failedWith (notAcquired (channelOver route depth channel) f w) := by
  unfold notAcquired
  rw [channelOver_of_le route h]
  rfl

theorem ends_bracketWith_layer {acquire : Layered route M Failure ρ}
    {use : ρ → Host σ (Layered route M Failure β)}
    {release : ρ → Option β → Host σ (Layered route M Failure Verdict)}
    {o : Except Fault (β × Verdict)} :
    Ends (M := Layered route M Failure) c (Bracketing.bracketWith acquire use release w) o w' c' ↔
      (∃ f w₁, Ends (M := Layered route M Failure) c (.ok acquire, w) (.error f) w₁ c' ∧
        failedWith (notAcquired (channel σ (Layered route M Failure)) f w₁) = (o, w')) ∨
      ∃ used released w₃, Released acquire use release w c used released w₃ c' ∧
        closing (channel σ (Layered route M Failure)) used released w₃ = (o, w') := by
  rw [ends_bracketWith_base]
  constructor
  · rintro (⟨f, w₁, acquired, h⟩ | ⟨used, verdict, w₃, phases, h⟩)
    · refine .inl ⟨f, w₁, ⟨_, acquired, rfl⟩, ?_⟩
      exact (notAcquired_of_le (level_le acquired) w₁).symm.trans h
    · obtain @⟨x, _, _, w₁, w₂, _, c₁, c₂, _, acquired, ran, finished⟩ := phases
      rcases x with e | r
      · obtain ⟨rfl, rfl, rfl⟩ := ends_failedAcquire.mp ran
        obtain ⟨rfl, rfl, rfl⟩ := ends_pure.mp finished
        exact .inl ⟨_, w₁, ⟨_, acquired, rfl⟩, closing_skipped.symm.trans h⟩
      · replace ran : Ends c₁ ((use r).map base (note .acquired w₁)) used w₂ c₂ := ran
        rw [map_base] at ran
        obtain ⟨released, w₄, finished, hv⟩ := ends_release.mp finished
        rw [toOption_surfaced used (depth σ M)] at finished
        refine .inr ⟨_, surfaced (depth σ M) released, w₄,
          .intro ⟨_, acquired, rfl⟩ ⟨used, ran, rfl⟩ ⟨released, finished, rfl⟩, ?_⟩
        refine (closing_surfaced (LawfulEndings.channel_eq (σ := σ) (M := M)) ?_ ?_ hv).symm.trans h
        · rintro f rfl
          exact level_le ran
        · rintro g rfl
          exact level_le finished
  · rintro (⟨f, w₁, ⟨f' | e | b, acquired, ⟨⟩⟩, h⟩ | ⟨used, released, w₃, phases, h⟩)
    · refine .inl ⟨_, w₁, acquired, ?_⟩
      exact (notAcquired_of_le (level_le acquired) w₁).trans h
    · refine .inr ⟨_, _, _, .intro acquired (ends_failedAcquire.mpr ⟨rfl, rfl, rfl⟩)
        (ends_pure.mpr ⟨rfl, rfl, rfl⟩), closing_skipped.trans h⟩
    · obtain @⟨x, _, _, w₁, w₂, _, c₁, c₂, _, ⟨_ | _ | _, acquired, ⟨⟩⟩, ⟨used, ran, rfl⟩,
        ⟨released, finished, rfl⟩⟩ := phases
      rw [← toOption_surfaced] at finished
      rcases hv : verdictOf (channel σ M (depth σ M)) used released w₃ with ⟨verdict, w₄⟩
      refine .inr ⟨used, verdict, w₄, .intro acquired ?_ (ends_release.mpr ⟨released, w₃, finished,
        hv⟩), ?_⟩
      · show Ends (M := M) c₁ ((use x).map base (note .acquired w₁)) used w₂ c₂
        rw [map_base]
        exact ran
      · refine (closing_surfaced (LawfulEndings.channel_eq (σ := σ) (M := M)) ?_ ?_ hv).trans h
        · rintro f rfl
          exact level_le ran
        · rintro g rfl
          exact level_le finished

omit [Observer σ] [Carrier σ M] [ErrorChannel σ M Failure] [Bracketing σ M]
  [LawfulEndings σ M] in
theorem channel_depth : channel σ (Layered route M Failure) (depth σ (Layered route M Failure)) =
    match route with
    | .layer => depth σ M + 1
    | .base => channel σ M (depth σ M) :=
  channelOver_above route _ _

theorem level_le_layer {x : Except Panic (Layered route M Failure α) × σ} {f : Fault}
    (h : Ends (M := Layered route M Failure) c x (.error f) w' c') :
    f.level ≤ depth σ M + 1 := by
  obtain ⟨g | e | a, inner, ⟨⟩⟩ := h
  · exact Nat.le_succ_of_le (level_le inner)
  · exact Nat.le_refl _

variable (σ M) in
theorem channelOver_le (k : Nat) : channelOver route (depth σ M) (channel σ M) k ≤ k := by
  have inner := channel_le (σ := σ) (M := M)
  unfold channelOver
  split
  · exact inner k
  · have below := inner (depth σ M)
    cases route <;> dsimp only <;> omega

theorem channelOver_eq {k l : Nat} (h : channelOver route (depth σ M) (channel σ M) l ≤ k)
    (hk : k ≤ l) : channelOver route (depth σ M) (channel σ M) k =
      channelOver route (depth σ M) (channel σ M) l := by
  unfold channelOver at h ⊢
  split at h <;> rename_i hl
  · rw [if_pos (Nat.le_trans hk hl), if_pos hl]
    exact channel_eq h hk
  · rw [if_neg hl]
    split <;> rename_i hd
    · cases route with
      | layer => exact absurd (Nat.le_trans h hd) (Nat.not_succ_le_self _)
      | base => exact channel_eq h hd
    · rfl

end Laws

end Layered

section Instances

variable {σ : Type} {M : Type → Type u} [Observer σ] [Carrier σ M] [ErrorChannel σ M Failure]
  [Bracketing σ M] [Endings σ M] [LawfulEndings σ M]

instance : LawfulEndings σ (Layered .layer M Failure) where
  ends_panic := Layered.ends_panic_layer
  ends_pure := Layered.ends_ofEither
  ends_raise := by
    rw [Layered.channel_depth]
    exact Layered.ends_ofEither
  ends_bind := Layered.ends_bind_layer
  ends_map := Layered.ends_map_layer
  ends_bracketWith := Layered.ends_bracketWith_layer
  level_le := Layered.level_le_layer
  channel_le := Layered.channelOver_le σ M
  channel_eq := Layered.channelOver_eq

instance : LawfulEndings σ (Layered .base M Failure) where
  ends_panic := Layered.ends_panic_layer
  ends_pure := Layered.ends_ofEither
  ends_raise := by
    intro α e w w' c c' o
    rw [Layered.channel_depth]
    constructor
    · rintro ⟨o₁, h, rfl⟩
      obtain ⟨rfl, rfl, rfl⟩ := LawfulEndings.ends_raise.mp h
      exact ⟨rfl, rfl, rfl⟩
    · rintro ⟨rfl, rfl, rfl⟩
      exact ⟨_, LawfulEndings.ends_raise.mpr ⟨rfl, rfl, rfl⟩, rfl⟩
  ends_bind := Layered.ends_bind_layer
  ends_map := Layered.ends_map_layer
  ends_bracketWith := Layered.ends_bracketWith_layer
  level_le := Layered.level_le_layer
  channel_le := Layered.channelOver_le σ M
  channel_eq := Layered.channelOver_eq

end Instances

end Resumption
