/-
Routes — the two routes of a layer do the same where both apply.

A recipe of the neutral kit is built over actions with a layer of either route.
Under the layer route its errors are lefts, under the base route they are errors of
the action; handlers, loops and brackets meet them in different places.  Where no
closure panics, the runs correspond:

| layer route              | base route             |
|--------------------------|------------------------|
| `.ok (.right a)`         | `.ok (.right a)`       |
| `.ok (.left e)`          | `.error e`             |

The two report different events, since a layered bracket that exits early is one
that ended for the action under it; so the world is told of none.
-/
import Resumption.Layered.Bracket
import Resumption.Proofs.Recipe.Matching

namespace Resumption

universe v w

/-- A world of `σ` that is told of nothing: only closures change it. -/
def Untold (σ : Type) : Type := σ

instance {σ : Type} : Observer (Untold σ) where
  note _ w := w
  setClock _ w := w

/-- How the runs of one recipe end, under the layer route and under the base route. -/
inductive Corresponds {σ α : Type} : Except Failure (Either Failure α) × σ →
    Except Failure (Either Failure α) × σ → Prop
  | right {a : α} {w : σ} : Corresponds (.ok (.right a), w) (.ok (.right a), w)
  | left {e : Failure} {w : σ} : Corresponds (.ok (.left e), w) (.error e, w)

section Routes

variable {σ α β ρ : Type}

/-- Actions of the two routes whose runs correspond, from every world. -/
def BaseMatch (a b : Action (Untold σ) (Either Failure α)) : Prop :=
  ∀ w, Corresponds (a.run w) (b.run w)

instance : Matching (Layered .layer (Action (Untold σ)) Failure)
    (Layered .base (Action (Untold σ)) Failure) where
  Match m n := BaseMatch m.base n.base

/-- Calls of closures of the two routes whose runs correspond. -/
theorem corresponds_call {h : Host (Untold σ) (Layered .layer (Action (Untold σ)) Failure α)}
    {h' : Host (Untold σ) (Layered .base (Action (Untold σ)) Failure α)}
    (steps : h.InStep .neutral Match h') (w : Untold σ) :
    Corresponds (Action.Call.ofRun (h.map Layered.base w)).run
      (Action.Call.ofRun (h'.map Layered.base w)).run := by
  have met := steps w
  unfold Host.map Host.bind
  generalize h w = x at met ⊢
  generalize h' w = y at met ⊢
  cases met with
  | ok matched => exact matched _
  | panic may => cases may

/-- A closure that never panics ends with a value. -/
theorem Host.Calm.ends {α : Type v} {h : Host σ α} (calm : h.Calm .neutral) (w : σ) :
    ∃ a w', h w = (.ok a, w') := by
  rcases ended : h w with ⟨p | a, w'⟩
  · cases calm w p w' ended
  · exact ⟨a, w', rfl⟩

variable {a b : Action (Untold σ) (Either Failure α)}

/-- A value goes on, and an early exit stays. -/
theorem bind_corresponds (matched : BaseMatch a b)
    {k l : Either Failure α → Untold σ → Action.Call (Untold σ) (Either Failure β)}
    (rights : ∀ x w, Corresponds (k (.right x) w).run (l (.right x) w).run)
    (lefts : ∀ e w, (k (.left e) w).run = (.ok (.left e), w)) :
    BaseMatch (.bind a k) (.bind b l) := by
  intro w
  have runs : Corresponds (a.run w) (b.run w) := matched w
  rw [Action.run, Action.run]
  generalize a.run w = x at runs ⊢
  generalize b.run w = y at runs ⊢
  cases runs with
  | right => exact rights _ _
  | left =>
    simp only [lefts]
    exact .left

theorem handle_corresponds (matched : BaseMatch a b)
    {k : Either Failure α → Untold σ → Action.Call (Untold σ) (Either Failure α)}
    {l : Failure → Untold σ → Action.Call (Untold σ) (Either Failure α)}
    (rights : ∀ x w, (k (.right x) w).run = (.ok (.right x), w))
    (lefts : ∀ e w, Corresponds (k (.left e) w).run (l e w).run) :
    BaseMatch (.bind a k) (.rescue b l) := by
  intro w
  have runs : Corresponds (a.run w) (b.run w) := matched w
  rw [Action.run, Action.run]
  generalize a.run w = x at runs ⊢
  generalize b.run w = y at runs ⊢
  cases runs with
  | right =>
    simp only [rights]
    exact .right
  | left => exact lefts _ _

theorem map_corresponds (matched : BaseMatch a b) {f : α → Host (Untold σ) β}
    (calm : ∀ x, (f x).Calm .neutral) :
    BaseMatch (.conclude a (Action.onValue (Either.map f)))
      (.conclude b (Action.onValue (Either.map f))) := by
  intro w
  have runs : Corresponds (a.run w) (b.run w) := matched w
  rw [Action.run, Action.run]
  generalize a.run w = x at runs ⊢
  generalize b.run w = y at runs ⊢
  cases runs with
  | @right x w =>
    obtain ⟨y, w', ended⟩ := (calm x).ends w
    simp only [Action.onValue, Either.map, Either.bimap, Either.fold, Host.caught, Host.map,
      Host.bind, ended]
    exact .right
  | left => exact .left

/-- Loops correspond whose turns do, by induction along the relation that they descend
on: an early exit ends the loop of either route. -/
theorem iterate_corresponds {S : Type w} {R : S → S → Prop} (wf : WellFounded R)
    {step : (s : S) → Host (Untold σ) (Turn (Untold σ)
      (Layered .layer (Action (Untold σ)) Failure) {t // R t s} β)}
    {step' : (s : S) → Host (Untold σ) (Turn (Untold σ)
      (Layered .base (Action (Untold σ)) Failure) {t // R t s} β)}
    (turns : ∀ s, (step s).InStep .neutral (TurnMatch .neutral) (step' s)) (s : S) :
    BaseMatch (Action.iterate wf (fun s => (step s).map Layered.baseTurn) s)
      (Action.iterate wf (fun s => (step' s).map Layered.baseTurn) s) := by
  induction s using wf.induction with
  | _ s ih =>
    intro w
    rw [Action.iterate, Action.iterate, Action.run, Action.run]
    have met := turns s w
    unfold Host.map Host.bind
    generalize step s w = x at met ⊢
    generalize step' s w = y at met ⊢
    cases met with
    | panic may => cases may
    | ok turn =>
      cases turn with
      | finish b => exact .right
      | @await _ m n next matched calm =>
        refine bind_corresponds matched (fun x w => ?_) (fun e w => rfl) _
        obtain ⟨y, w', ended⟩ := (calm x).ends w
        simp only [Either.fold, Host.map, Host.bind, ended]
        rcases y with ⟨t, descends⟩ | b
        · exact ih t descends w'
        · exact .right

/-! ## Brackets -/

/-- The run of a layered release, by the route of its layer. -/
def releaseRun {route : Route} (h : Host (Untold σ) (Layered route (Action (Untold σ)) Failure Verdict))
    (used : Option (Either Failure β)) (w : Untold σ) : Except Failure Verdict × Untold σ :=
  (Action.Call.ofRun (h.bind (fun m => Carrier.bind m.base (Layered.releaseVerdict used)) w)).run

/-- The end of a layered bracket, after its release. -/
def layeredEnd (used : Except Failure (Either Failure β))
    (released : Except Failure Verdict × Untold σ) :
    Except Failure (Either Failure (β × Verdict)) × Untold σ :=
  (Action.onValue (fun p => Host.pure (Layered.surface p))
    (closeBracket used released.1 released.2).1).caught (closeBracket used released.1 released.2).2

/-- A release ends with a verdict of the layers above on both routes, or it fails with an
error on the base route, on which the layer route has a verdict of its own. -/
theorem releases_correspond
    {h : Host (Untold σ) (Layered .layer (Action (Untold σ)) Failure Verdict)}
    {h' : Host (Untold σ) (Layered .base (Action (Untold σ)) Failure Verdict)}
    (steps : h.InStep .neutral Match h') (used used' : Option (Either Failure β)) (w : Untold σ) :
    (∃ v w', releaseRun h used w = (.ok (Layered.deepen v), w') ∧
      releaseRun h' used' w = (.ok (Layered.deepen v), w')) ∨
    ∃ e w', releaseRun h used w =
        (Action.Call.ofRun (Layered.releaseVerdict (M := Action (Untold σ)) used (.left e) w')).run ∧
      releaseRun h' used' w = (.error e, w') := by
  have met := steps w
  unfold releaseRun Host.bind
  generalize h w = x at met ⊢
  generalize h' w = y at met ⊢
  cases met with
  | panic may => cases may
  | @ok m n w matched =>
    have runs : Corresponds (m.base.run w) (n.base.run w) := matched w
    simp only [Carrier.bind, Action.Call.ofRun, Action.Call.run, Action.run, Host.pure]
    generalize m.base.run w = x at runs ⊢
    generalize n.base.run w = y at runs ⊢
    cases runs with
    | @right v w' => exact .inl ⟨v, w', rfl, rfl⟩
    | @left e w' => exact .inr ⟨e, w', rfl, rfl⟩

theorem bracketWith_built {m : Layered .layer (Action (Untold σ)) Failure ρ}
    {n : Layered .base (Action (Untold σ)) Failure ρ} (matched : Match m n)
    {use : ρ → Host (Untold σ) (Layered .layer (Action (Untold σ)) Failure β)}
    {use' : ρ → Host (Untold σ) (Layered .base (Action (Untold σ)) Failure β)}
    {release : ρ → Option β → Host (Untold σ) (Layered .layer (Action (Untold σ)) Failure Verdict)}
    {release' : ρ → Option β → Host (Untold σ) (Layered .base (Action (Untold σ)) Failure Verdict)}
    (uses : ∀ r, (use r).InStep .neutral Match (use' r))
    (releases : ∀ r o, (release r o).InStep .neutral Match (release' r o)) :
    Built (Bracketing.bracketWith m use release) (Bracketing.bracketWith n use' release') := by
  refine ⟨_, _, rfl, rfl, fun w => ?_⟩
  have acquired : Corresponds (m.base.run w) (n.base.run w) := matched w
  simp only [Action.run]
  generalize m.base.run w = x at acquired ⊢
  generalize n.base.run w = y at acquired ⊢
  cases acquired with
  | left => exact .left
  | @right r w =>
    have used := corresponds_call (uses r) (note .acquired w)
    dsimp only [Either.fold]
    generalize (Action.Call.ofRun ((use r).map Layered.base (note .acquired w))).run = x at used ⊢
    generalize (Action.Call.ofRun ((use' r).map Layered.base (note .acquired w))).run = y at used ⊢
    cases used with
    | @right b w =>
      show Corresponds
        (layeredEnd (.ok (.right b)) (releaseRun (release r (some b)) (some (.right b)) w))
        (layeredEnd (.ok (.right b)) (releaseRun (release' r (some b)) (some (.right b)) w))
      rcases releases_correspond (releases r (some b)) (some (.right b)) (some (.right b)) w with
        ⟨v, w', ran, ran'⟩ | ⟨e, w', ran, ran'⟩
      · rw [ran, ran']
        cases v with
        | clean => exact .right
        | failed e d => exact .right
      · rw [ran, ran']
        exact .left
    | @left e w =>
      show Corresponds (layeredEnd (.ok (.left e)) (releaseRun (release r none) (some (.left e)) w))
        (layeredEnd (.error e) (releaseRun (release' r none) none w))
      rcases releases_correspond (releases r none) (some (.left e)) none w with
        ⟨v, w', ran, ran'⟩ | ⟨e', w', ran, ran'⟩
      · rw [ran, ran']
        exact .left
      · rw [ran, ran']
        exact .left

/-! ## The operations -/

theorem routes_lawful : LawfulMatching.{1, v} .neutral (Untold σ)
    (Layered .layer (Action (Untold σ)) Failure) (Layered .base (Action (Untold σ)) Failure) where
  iterate _ wf := fun turns s => ⟨_, _, rfl, rfl, iterate_corresponds wf turns s⟩
  pure _ := fun _ => .right
  raise _ := fun _ => .left
  map matched calm := ⟨_, _, rfl, rfl, map_corresponds matched calm⟩
  bind matched steps := ⟨_, _, rfl, rfl,
    bind_corresponds matched (fun x => corresponds_call (steps x)) fun _ _ => rfl⟩
  handle matched steps := ⟨_, _, rfl, rfl,
    handle_corresponds matched (fun _ _ => rfl) fun e => corresponds_call (steps e)⟩
  defer steps := ⟨_, _, rfl, rfl, fun w => corresponds_call steps w⟩
  sleep _ := ⟨_, _, rfl, rfl, fun _ => .right⟩
  bracketWith matched uses releases := bracketWith_built matched uses releases
  ofHost whole := nomatch whole
  perform whole := nomatch whole
  outcome whole := nomatch whole
  fold whole := nomatch whole

end Routes

/-- What the runs of one recipe have to do with each other, under the layer route and
under the base route. -/
structure RoutesAgree {σ α : Type} (layer base : Except Failure (Either Failure α) × σ) : Prop where
  ends : ∃ x, layer.1 = .ok x
  no_left : ∀ e, base.1 ≠ .ok (.left e)
  right_iff : ∀ a, layer.1 = .ok (.right a) ↔ base.1 = .ok (.right a)
  left_iff : ∀ e, layer.1 = .ok (.left e) ↔ base.1 = .error e
  world_eq : layer.2 = base.2

theorem Corresponds.agree {σ α : Type} {x y : Except Failure (Either Failure α) × σ}
    (runs : Corresponds x y) : RoutesAgree x y := by
  cases runs with
  | right => exact ⟨⟨_, rfl⟩, by simp, by simp, by simp, rfl⟩
  | left => exact ⟨⟨_, rfl⟩, by simp, by simp, by simp, rfl⟩

/-- Over actions, the two routes agree on every recipe of the neutral kit: a value is a
value, a left is an error, and closures ran in the same order. -/
theorem routes_agree {σ α : Type} (a : Recipe.{v} .neutral (Untold σ) α) :
    ∃ m n, a.build (Layered .layer (Action (Untold σ)) Failure) = .pure m ∧
      a.build (Layered .base (Action (Untold σ)) Failure) = .pure n ∧
      ∀ w, RoutesAgree (m.base.run w) (n.base.run w) := by
  obtain ⟨m, n, built, built', matched⟩ := a.build_matches routes_lawful
  exact ⟨m, n, built, built', fun w => (matched w).agree⟩

end Resumption
