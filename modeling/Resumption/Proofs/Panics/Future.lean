/-
Future — futures respect a calming.

A future stands for another one if it calms it, and crashes if it fails with a panic as
soon as it is polled.  What two runs of the host built is what paired calls return, so
each operation of a future keeps being calmed by a rule of its own:

| operation             | rule                                                     |
|-----------------------|----------------------------------------------------------|
| `map`, `pauseThen`    | `conclude`: the calming one binds what the closure gives |
| `bind`, `iterate`     | `bind` and `suspend`, for a loop turn by turn            |
| `handle`              | `rescue`                                                 |
| `bracketWith`         | `bracket`                                                |
| `both`                | `both`: the calming one pairs the values and binds       |
-/
import Resumption.Proofs.Panics.Built
import Resumption.Proofs.Panics.Polls

namespace Resumption

namespace Future

variable {σ : Type} [Observer σ] {α β : Type}

instance : Calming (Future σ) where
  StandIn := CalmedBy
  Crashes := Crashing

/-- Futures of which one calms the other stand for each other. -/
theorem CalmedBy.calmlyBuilt {a b : Future σ α} (calmed : CalmedBy a b) :
    CalmlyBuilt (Host.pure (σ := σ) a) (.pure b) :=
  .of_stands calmed

section Calls

variable {h h' : Host σ (Future σ α)} (calmed : h.CalmedBy h')

include calmed

theorem paired_of_calmed (w : σ) : (Call.ofRun (h w)).Paired (.ofRun (h' w)) := by
  have ends := calmed w
  generalize h w = x at ends ⊢
  generalize h' w = y at ends ⊢
  cases ends with
  | ok stands => exact .returned _ _ _
  | panic crashes => exact .panicked _ crashes

theorem returned_of_calmed (w : σ) (a b : Future σ α)
    (returns : (Call.ofRun (h w)).Return (.ofRun (h' w)) a b) : CalmedBy a b := by
  have ends := calmed w
  generalize h w = x at ends returns
  generalize h' w = y at ends returns
  cases ends with
  | ok stands =>
    cases returns with
    | mk => exact stands
  | panic crashes => cases returns

theorem suspend_calmed :
    CalmedBy (suspend fun w => .ofRun (h w)) (suspend fun w => .ofRun (h' w)) :=
  .suspend (paired_of_calmed calmed) (returned_of_calmed calmed)

end Calls

/-! ## Values -/

/-- A run that builds what a closure computes ends as the closure does. -/
theorem poll_value {h : Host σ α} {h' : Host σ (Future σ α)}
    (calmed : (h.map (Carrier.pure σ)).CalmedBy h') (scopes : Scopes) (w : σ)
    (r : Option (Reactor σ)) : (Call.ofRun (h' w)).poll scopes r = .ofHost (h.map .ok) w r := by
  have ends := calmed w
  simp only [Polled.ofHost, Host.caught, Host.map, Host.bind] at ends ⊢
  generalize h w = x at ends ⊢
  generalize h' w = y at ends ⊢
  obtain ⟨p | a, v⟩ := x
  · cases ends with
    | panic crashes => exact crashes scopes v r
  · cases ends with
    | ok stands =>
      cases stands with
      | ready => rfl

/-- A bind to what a closure computes concludes as the closure does. -/
theorem concludes_bind {f : α → Host σ β} {k : α → Host σ (Future σ β)}
    (calmed : ∀ a, ((f a).map (Carrier.pure σ)).CalmedBy (k a)) :
    Concludes (onValue f) fun a => bind a fun x w => .ofRun (k x w) where
  akin a := .bind_source a _
  runs scopes a w r := by
    rw [runs_bind scopes]
    congr 1
    funext o w r
    cases o with
    | error e => rfl
    | ok x => exact poll_value (calmed x) scopes w r

instance : LawfulCalming σ (Future σ) where
  pure _ := .ready _
  map stands _ := CalmedBy.calmlyBuilt (.conclude stands (concludes_conclude _))
  map_bind stands calmed := CalmedBy.calmlyBuilt (.conclude stands (concludes_bind calmed))
  bind stands calmed := CalmedBy.calmlyBuilt
    (.bind stands (fun x => paired_of_calmed (calmed x)) fun x => returned_of_calmed (calmed x))
  crash_map f crashes := by
    refine ⟨_, rfl, fun scopes w r => ?_⟩
    rw [runs_conclude scopes, crashes]
    rfl
  crash_bind k crashes := by
    refine ⟨_, rfl, fun scopes w r => ?_⟩
    rw [runs_bind scopes, crashes]
    rfl

/-! ## Effects -/

omit [Observer σ] in
/-- A loop suspends its first turn, after which it goes on. -/
theorem iterate_eq_suspend {S : Type} {R : S → S → Prop} (wf : WellFounded R)
    (step : (s : S) → Host σ (Turn σ (Future σ) {t // R t s} β)) (s : S) :
    iterate wf step s = suspend fun w =>
      .ofRun ((step s).bind (Turn.proceed fun t => Host.pure (iterate wf step t.1)) w) := by
  rw [iterate]
  congr 1
  funext w
  unfold Host.bind
  rcases step s w with ⟨p | b | ⟨a, next⟩, v⟩
  · rfl
  · rfl
  · refine congrArg (fun k => Call.returned (bind a k) v) (funext fun x => funext fun u => ?_)
    show _ = Call.ofRun ((next x).bind _ u)
    unfold Host.bind
    rcases next x u with ⟨_ | _ | _, _⟩ <;> rfl

theorem iterate_calmed {S : Type} {R : S → S → Prop} (wf : WellFounded R)
    {step step' : (s : S) → Host σ (Turn σ (Future σ) {t // R t s} β)}
    (calmed : ∀ s, (step s).SettledBy TurnStands TurnCrashes (step' s)) (s : S) :
    CalmedBy (iterate wf step s) (iterate wf step' s) := by
  induction s using wf.induction with
  | _ s ih =>
    -- Only the loops that the first turn goes on with are unfolded by the induction.
    rw [iterate_eq_suspend, iterate_eq_suspend]
    exact suspend_calmed ((calmed s).proceed fun t => (ih t.1 t.2).calmlyBuilt)

instance : CalmEffects σ (Future σ) where
  defer calmed := (suspend_calmed calmed).calmlyBuilt
  sleep ms := (CalmedBy.sleep ms).calmlyBuilt
  iterate _ wf _ _ calmed s := (iterate_calmed wf calmed s).calmlyBuilt

instance : CalmChannel (ε := Failure) σ (Future σ) where
  raise _ := .ready _
  handle stands calmed := CalmedBy.calmlyBuilt
    (.rescue stands (fun e => paired_of_calmed (calmed e)) fun e => returned_of_calmed (calmed e))

instance : CalmBracketing σ (Future σ) where
  bracketWith stands uses releases := CalmedBy.calmlyBuilt
    (.bracket stands (fun x => paired_of_calmed (uses x)) (fun x => returned_of_calmed (uses x))
      (fun x o => paired_of_calmed (releases x o)) fun x o => returned_of_calmed (releases x o))

/-! ## Operations of futures alone -/

theorem crashing_fail (p : Panic) : Crashing p (fail (.ofPanic p) : Future σ α) := by
  intro scopes w r
  rw [fail, poll]

/-- A closure that is settled builds the failure of its panic. -/
theorem landed_calmed (h : Host σ α) :
    (h.map (Carrier.pure σ)).CalmedBy (h.settled.map (landed σ) : Host σ (Future σ α)) :=
  Host.settledBy_after h (fun a => .pure (.ready (.ok a))) fun p => ⟨_, rfl, crashing_fail p⟩

theorem concludes_landed (h : Host σ α) :
    Concludes (fun _ => h.map .ok) fun a : Future σ β =>
      bind (conclude a fun _ => h.settled.map .ok) fun x w => .ofRun (.ok (landed σ x), w) where
  akin a := (Akin.bind_source _ _).trans (.conclude_source a _)
  runs scopes a w r := by
    rw [runs_bind scopes, runs_conclude scopes, around_around]
    congr 1
    funext o w r
    simp only [Polled.ofHost, Host.caught, Host.map, Host.bind, Host.settled]
    rcases h w with ⟨p | x, v⟩
    · exact crashing_fail p scopes v r
    · rfl

instance : CalmBottom .future σ (Future σ) where
  crash := crashing_fail
  ofHost _ := .perform (Host.caught_settled _)
  perform _ := .perform (Host.caught_settled _)
  outcome stands := .conclude stands (concludes_conclude _)
  pauseThen _ h := (CalmedBy.conclude .pause (concludes_landed h)).calmlyBuilt
  never _ := .never
  both _ _ _ _ _ f stands stands' :=
    (CalmedBy.both stands stands' (concludes_bind fun x => landed_calmed (f x.1 x.2))).calmlyBuilt
  within _ limit _ _ stands := .within limit stands

end Future

end Resumption
