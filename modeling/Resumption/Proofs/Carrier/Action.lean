/-
Action — actions are a lawful carrier.

An action is observed by running it: its outcome and the world that it leaves.
A panic while an action is built is observed as the failure that it becomes in
the action around it, so a closure may panic before or after it returns.
-/
import Resumption.Action.Carrier
import Resumption.Proofs.Carrier.Observation

namespace Resumption

universe w

namespace Action

variable {σ : Type} [Observer σ] {α β : Type}

/-- Runs what the building of an action came to. -/
def runBuilt (x : Except Panic (Action σ α) × σ) : Except Failure α × σ :=
  (Call.ofRun x).run

theorem runBuilt_panic (p : Panic) (w : σ) :
    runBuilt (.error p, w) = ((.error (.ofPanic p), w) : Except Failure α × σ) := by
  simp only [runBuilt, Call.ofRun, Call.run]

theorem runBuilt_ok (a : Action σ α) (w : σ) : runBuilt (.ok a, w) = a.run w := by
  simp only [runBuilt, Call.ofRun, Call.run]

/-- A value goes on to what comes next, and a failure ends both. -/
def andRun (k : α → Host σ (Action σ β)) : Except Failure α × σ → Except Failure β × σ
  | (.ok a, w) => runBuilt (k a w)
  | (.error e, w) => (.error e, w)

theorem run_bind (a : Action σ α) (k : α → Host σ (Action σ β)) (w : σ) :
    (bind a fun x w => .ofRun (k x w)).run w = andRun k (a.run w) := by
  rw [run]
  rcases a.run w with ⟨_ | _, _⟩ <;> rfl

theorem runBuilt_chain (h : Host σ (Action σ α)) (k : α → Host σ (Action σ β)) (w : σ) :
    runBuilt (h.chain k w) = andRun k (runBuilt (h w)) := by
  unfold Host.chain Host.bind
  rcases h w with ⟨p | a, w'⟩
  · simp only [runBuilt_panic, andRun]
  · exact (runBuilt_ok _ w').trans ((run_bind a k w').trans (by rw [runBuilt_ok]))

end Action

variable {σ : Type} [Observer σ]

instance : Observed σ (Action σ) where
  Same x y := Action.runBuilt x = Action.runBuilt y
  refl _ := rfl
  symm := Eq.symm
  trans := Eq.trans

namespace Action

variable {α β : Type}

theorem agree_iff {h h' : Host σ (Action σ α)} :
    Agree h h' ↔ ∀ w, runBuilt (h w) = runBuilt (h' w) :=
  Iff.rfl

theorem run_map (a : Action σ α) (f : α → Host σ β) (w : σ) :
    (conclude a (onValue f)).run w =
      andRun (fun x => (f x).map fun b => ready (.ok b)) (a.run w) := by
  rw [run]
  rcases a.run w with ⟨e | x, w'⟩
  · rfl
  · simp only [onValue, andRun, Host.caught, Host.map, Host.bind]
    rcases f x w' with ⟨p | b, w''⟩
    · exact (runBuilt_panic p w'').symm
    · simp only [Host.pure, runBuilt_ok, run]

end Action

instance : LawfulCarrier σ (Action σ) where
  map_eq a f w := by
    show Action.runBuilt (.ok _, w) = Action.runBuilt (.ok _, w)
    rw [Action.runBuilt_ok, Action.runBuilt_ok, Action.run_map, Action.run_bind]
    rfl
  pure_bind x k w := by
    show Action.runBuilt (.ok _, w) = _
    rw [Action.runBuilt_ok, Action.run_bind, Carrier.pure, Action.instCarrier]
    simp only [Action.run, Action.andRun]
  bind_pure a w := by
    show Action.runBuilt (.ok _, w) = Action.runBuilt (.ok _, w)
    rw [Action.runBuilt_ok, Action.runBuilt_ok, Action.run_bind]
    rcases a.run w with ⟨e | x, w'⟩
    · rfl
    · exact Action.runBuilt_ok _ w' |>.trans (by simp only [Carrier.pure, Action.run])
  bind_assoc a k l w := by
    have nested := Action.runBuilt_chain (.pure (Action.bind a fun x w => .ofRun (k x w))) l w
    have turned := Action.runBuilt_chain (.pure a) (fun x => (k x).chain l) w
    refine nested.trans (Eq.trans ?_ turned.symm)
    simp only [Host.pure, Action.runBuilt_ok, Action.run_bind]
    rcases a.run w with ⟨e | x, w'⟩
    · rfl
    · exact (Action.runBuilt_chain (k x) l w').symm
  chain_congr {_ _ h h' k k'} e e' w := by
    show Action.runBuilt _ = Action.runBuilt _
    rw [Action.runBuilt_chain, Action.runBuilt_chain, Action.agree_iff.mp e w]
    rcases Action.runBuilt (h' w) with ⟨_ | x, w'⟩
    · rfl
    · exact e' x w'

instance : LawfulLoop.{1, w} σ (Action σ) where
  iterate_eq maps wf step s v := by
    show Action.runBuilt (.ok (Action.iterate wf step s), v) = Action.runBuilt _
    rw [Action.runBuilt_ok, Action.iterate, Action.run, Host.bind]
    rcases step s v with ⟨p | b | ⟨a, next⟩, v'⟩
    · simp only [Action.Call.run, Action.runBuilt_panic]
    · exact (Action.runBuilt_ok _ v').symm
    · simp only [Action.Call.run]
      show _ = Action.runBuilt (.ok _, v')
      rw [Action.runBuilt_ok]
      congr 2
      funext x u
      simp only [Host.bind]
      rcases next x u with ⟨_ | _ | _, _⟩ <;> rfl

end Resumption
