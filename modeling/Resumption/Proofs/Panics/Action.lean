/-
Action — actions respect a calming.

Two actions stand for each other if they run alike, from every world.  An action runs
a closure inside itself and fails where that panics, and an action that crashes fails
there just as well: so what two runs of the host built runs alike if the second one
settles the first.

| operation            | runs the closure                                       |
|----------------------|--------------------------------------------------------|
| `map`, `ofHost`      | in the action, which fails with its panic              |
| `bind`, `handle`     | where the action goes on                               |
| `iterate`            | in a turn: a loop is its first turn, then the loop     |
| `bracketWith`        | as its use or its release; either fails with its panic |
-/
import Resumption.Proofs.Carrier.Action
import Resumption.Proofs.Panics.Built

namespace Resumption

namespace Action

variable {σ : Type} [Observer σ] {α β ρ : Type}

instance : Calming (Action σ) where
  StandIn a b := ∀ w, a.run w = b.run w
  Crashes p a := ∀ w, a.run w = (.error (.ofPanic p), w)

/-- What was built runs alike. -/
theorem runBuilt_calmed {h h' : Host σ (Action σ α)} (calmed : h.CalmedBy h') (w : σ) :
    runBuilt (h w) = runBuilt (h' w) := by
  have ends := calmed w
  generalize h w = x at ends ⊢
  generalize h' w = y at ends ⊢
  cases ends with
  | ok stands => exact (runBuilt_ok _ _).trans ((stands _).trans (runBuilt_ok _ _).symm)
  | panic crashes => exact (runBuilt_panic _ _).trans ((runBuilt_ok _ _).trans (crashes _)).symm

theorem andRun_calmed {k l : α → Host σ (Action σ β)} (calmed : ∀ a, (k a).CalmedBy (l a)) :
    (x : Except Failure α × σ) → andRun k x = andRun l x
  | (.ok a, w) => runBuilt_calmed (calmed a) w
  | (.error _, _) => rfl

/-- Actions that run alike stand for each other. -/
theorem calmlyBuilt {a b : Action σ α} (alike : ∀ w, a.run w = b.run w) :
    CalmlyBuilt (Host.pure (σ := σ) a) (.pure b) :=
  .of_stands alike

instance : LawfulCalming σ (Action σ) where
  pure _ _ := rfl
  map {_ _ m n f} stands _ := calmlyBuilt fun w => by rw [run_map, run_map, stands w]
  map_bind {_ _ m n f k} stands calmed := calmlyBuilt fun w => by
    rw [run_map, run_bind, stands w]
    exact andRun_calmed calmed _
  bind {_ _ m n k l} stands calmed := calmlyBuilt fun w => by
    rw [run_bind, run_bind, stands w]
    exact andRun_calmed calmed _
  crash_map {_ _ p m} f crashes := by
    refine ⟨_, rfl, fun w => ?_⟩
    rw [run_map, crashes w]
    rfl
  crash_bind {_ _ p m} k crashes := by
    refine ⟨_, rfl, fun w => ?_⟩
    rw [run_bind, crashes w]
    rfl

theorem iterate_calmed {S : Type} {R : S → S → Prop} (wf : WellFounded R)
    {step step' : (s : S) → Host σ (Turn σ (Action σ) {t // R t s} β)}
    (calmed : ∀ s, (step s).SettledBy TurnStands TurnCrashes (step' s)) (s : S) (w : σ) :
    (iterate wf step s).run w = (iterate wf step' s).run w := by
  induction s using wf.induction generalizing w with
  | _ s ih =>
    have first := LawfulLoop.iterate_eq 0 wf step s w
    have second := LawfulLoop.iterate_eq 0 wf step' s w
    have turns := (calmed s).proceed fun t => calmlyBuilt (ih t.1 t.2)
    exact (runBuilt_ok _ w).symm.trans
      (first.trans ((runBuilt_calmed turns w).trans (second.symm.trans (runBuilt_ok _ w))))

instance : CalmEffects σ (Action σ) where
  defer calmed := calmlyBuilt fun w => by
    rw [run, run]
    exact runBuilt_calmed calmed w
  sleep _ := calmlyBuilt fun _ => rfl
  iterate _ wf _ _ calmed s := calmlyBuilt (iterate_calmed wf calmed s)

instance : CalmChannel (ε := Failure) σ (Action σ) where
  raise _ _ := rfl
  handle {_ m n k l} stands calmed := calmlyBuilt fun w => by
    rw [run, run, stands w]
    rcases n.run w with ⟨e | a, w'⟩
    · exact runBuilt_calmed (calmed e) w'
    · rfl

instance : CalmBracketing σ (Action σ) where
  bracketWith {_ _ m n use use' release release'} stands uses releases := calmlyBuilt fun w => by
    rw [run, run, stands w]
    rcases n.run w with ⟨e | r, w'⟩
    · rfl
    · have used : (Call.ofRun (use r _)).run = (Call.ofRun (use' r _)).run :=
        runBuilt_calmed (uses r) (note .acquired w')
      dsimp only
      rw [used]
      rcases (Call.ofRun (use' r (note .acquired w'))).run with ⟨o, v⟩
      have released : (Call.ofRun (release r o.toOption v)).run =
          (Call.ofRun (release' r o.toOption v)).run := runBuilt_calmed (releases r o.toOption) v
      dsimp only
      rw [released]

instance : CalmBottom .action σ (Action σ) where
  crash _ _ := rfl
  ofHost h w := by
    show (perform _).run w = (perform _).run w
    rw [run, run, Host.caught_settled]
  perform h w := by
    show (perform h).run w = (perform _).run w
    rw [run, run, Host.caught_settled]
  outcome {_ m n} stands w := by
    show (conclude m _).run w = (conclude n _).run w
    rw [run, run, stands w]
  pauseThen waits := by cases waits
  never waits := by cases waits
  both waits := by cases waits
  within waits := by cases waits

end Action

end Resumption
