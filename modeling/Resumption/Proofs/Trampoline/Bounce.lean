/-
Bounce — resuming a trampoline and forcing its thunks.

The behavior of a trampoline's program says which thunks it forces, one after another, and
what it calls between them (`Behavior.forced`); the tally counts the thunks.  There are two
ways to get to the value, and both do what the tally says, in every world:

| way          | does                                                       |
|--------------|------------------------------------------------------------|
| `Bounces`    | resumes, forces the thunk, and starts over with the rest   |
| `run`        | folds the program into `Identity`                          |

The first takes a thunk at each round, so the tally is the number of its rounds
(`Trampoline.bounces_iff`, `Trampoline.run_eq_tally`).
-/
import Resumption.Proofs.Coproduct.Place
import Resumption.Proofs.Program.Behavior
import Resumption.Proofs.Program.Resuming
import Resumption.Trampoline

namespace Resumption

variable {σ α β γ : Type}

/-! ## Tallies -/

/-- How an evaluation ended, in which world, and how many thunks it forced. -/
def Tally (σ α : Type) : Type :=
  Nat × Except Panic α × σ

/-- Goes on from a value and adds up what is forced. -/
def Tally.andThen : Tally σ α → (α → σ → Tally σ β) → Tally σ β
  | (n, .ok a, w), k => ((k a w).1 + n, (k a w).2)
  | (n, .error p, w), _ => (n, .error p, w)

theorem Tally.eq_iff {n m : Nat} {o r : Except Panic α} {w v : σ} :
    ((m, r, v) : Tally σ α) = (n, o, w) ↔ n = m ∧ o = r ∧ w = v := by
  constructor
  · rintro ⟨⟩
    exact ⟨rfl, rfl, rfl⟩
  · rintro ⟨rfl, rfl, rfl⟩
    rfl

theorem Tally.andThen_assoc (x : Tally σ α) (k : α → σ → Tally σ β) (l : β → σ → Tally σ γ) :
    (x.andThen k).andThen l = x.andThen fun a w => (k a w).andThen l := by
  rcases x with ⟨n, p | a, w⟩
  · rfl
  · simp only [andThen]
    rcases k a w with ⟨m, p | b, v⟩
    · rfl
    · simp only [Nat.add_assoc]
      rfl

/-! ## Forcing what a behavior waits for -/

mutual

/-- Forces every thunk of a behavior, up to its end. -/
def Behavior.forced {α : Type} : Behavior σ (Thunked σ) α → Tally σ α
  | .finished a w => (0, .ok a, w)
  | .final e w => (1, e.force w)
  | .effect e rest w => Tally.andThen (1, e.force w) fun b v => (rest b v).forced
  | .panicked p w => (0, .error p, w)

/-- Forces every thunk of what was returned. -/
def Behavior.Call.forced {α : Type} : Behavior.Call σ (Thunked σ) α → Tally σ α
  | .returned b w => (b w).forced
  | .panicked p w => (0, .error p, w)

end

theorem Behavior.forced_run (c : Behavior.Call σ (Thunked σ) α) : c.run.forced = c.forced := by
  cases c <;> rfl

mutual

/-- Going on forces what is forced before and then what is forced after. -/
theorem Behavior.forced_andThen {α β : Type} (k : α → σ → Behavior.Call σ (Thunked σ) β) :
    (b : Behavior σ (Thunked σ) α) →
      (b.andThen k).forced = b.forced.andThen fun a w => (k a w).forced
  | .finished a w => forced_run (k a w)
  | .final _ _ => rfl
  | .effect e rest w => by
    refine Eq.trans ?_ (Tally.andThen_assoc (1, e.force w) _ _).symm
    exact congrArg (Tally.andThen _) (funext fun b => funext fun v =>
      Behavior.Call.forced_andThen k (rest b v))
  | .panicked _ _ => rfl

theorem Behavior.Call.forced_andThen {α β : Type} (k : α → σ → Behavior.Call σ (Thunked σ) β) :
    (c : Behavior.Call σ (Thunked σ) α) →
      (c.andThen k).forced = c.forced.andThen fun a w => (k a w).forced
  | .returned b w => Behavior.forced_andThen k (b w)
  | .panicked _ _ => rfl

end

/-! ## Trampolines -/

namespace Trampoline

/-- How forcing every thunk of a trampoline ends, and how many there are. -/
def tally (t : Trampoline σ α) (w : σ) : Tally σ α :=
  (t.program.behavior w).forced

/-- The same for a trampoline that was built. -/
def tallyBuilt : Except Panic (Trampoline σ α) × σ → Tally σ α
  | (.ok t, w) => t.tally w
  | (.error p, w) => (0, .error p, w)

theorem delay_eq (h : Host σ α) : delay h = .pure ⟨.suspend ⟨h⟩⟩ := by
  show Host.pure (Trampoline.mk (.suspend ⟨h.bind .pure⟩)) = _
  rw [Host.bind_pure]

/-- What a continuation builds is forced as it was built. -/
theorem forced_built (r : Except Panic (Trampoline σ α) × σ) :
    (Program.Call.ofRun (r.1.map program, r.2)).behavior.forced = tallyBuilt r := by
  rcases r with ⟨p | t, w⟩ <;> rfl

theorem tally_bind (t : Trampoline σ α) (k : α → Host σ (Trampoline σ β)) (w : σ) :
    (t.bind k).tally w = (t.tally w).andThen fun a v => tallyBuilt (k a v) := by
  refine (Behavior.forced_andThen _ (t.program.behavior w)).trans ?_
  refine congrArg (Tally.andThen _) (funext fun a => funext fun v => ?_)
  rw [← forced_built, ← Host.map_apply]
  rfl

theorem tally_map (t : Trampoline σ α) (f : α → Host σ β) (w : σ) :
    (t.map f).tally w = (t.tally w).andThen fun a v => (0, f a v) := by
  refine (Behavior.forced_andThen _ (t.program.behavior w)).trans ?_
  refine congrArg (Tally.andThen _) (funext fun a => funext fun v => ?_)
  show (Program.Call.ofRun ((f a).map Program.done v)).behavior.forced = _
  rw [Host.map_apply]
  rcases f a v with ⟨p | b, u⟩ <;> rfl

theorem tally_andThen (t : Trampoline σ α) (t' : Trampoline σ β) (w : σ) :
    (t.andThen t').tally w = (t.tally w).andThen fun _ v => t'.tally v :=
  Behavior.forced_andThen _ (t.program.behavior w)

/-- A suspended trampoline forces one thunk, and then those of what is built: the value of the
thunk is the built trampoline, by name, and the continuation only unwraps it. -/
theorem tally_suspend (h : Host σ (Trampoline σ α)) : ∃ t, suspend h = .pure t ∧
    ∀ w, t.tally w = Tally.andThen (1, .ok (), w) fun _ v => tallyBuilt (h v) := by
  refine ⟨_, rfl, fun w => (tally_bind ..).trans ?_⟩
  show Tally.andThen (1, (Named.call (fun _ => h) ()).bind .pure w) _ = _
  rw [Host.bind_pure]
  rcases called : h w with ⟨p | t, v⟩
  · rw [Named.call_error called, Tally.andThen, Tally.andThen, called]
    rfl
  · obtain ⟨i, named, rfl⟩ := Named.call_ok (k := fun _ => h) (b := ()) called
    rw [named, Tally.andThen, Tally.andThen, called]
    rfl

/-! ## The loop -/

/-- Resumes the trampoline and forces the thunk that it answers, over and over: how often a
thunk was answered, and how this ended in which world. -/
inductive Bounces {σ α : Type} : Trampoline σ α → σ → Nat → Except Panic α → σ → Prop
  | finished {t : Trampoline σ α} {a : α} {w w' : σ} :
      t.resume w = (.ok (.right a), w') → Bounces t w 0 (.ok a) w'
  | refused {t : Trampoline σ α} {p : Panic} {w w' : σ} :
      t.resume w = (.error p, w') → Bounces t w 0 (.error p) w'
  | crashed {t : Trampoline σ α} {e : Thunked σ (Trampoline σ α)} {p : Panic} {w w₁ w' : σ} :
      t.resume w = (.ok (.left e), w₁) → e.force w₁ = (.error p, w') → Bounces t w 1 (.error p) w'
  | again {t t' : Trampoline σ α} {e : Thunked σ (Trampoline σ α)} {n : Nat}
      {o : Except Panic α} {w w₁ w₂ w' : σ} :
      t.resume w = (.ok (.left e), w₁) → e.force w₁ = (.ok t', w₂) → Bounces t' w₂ n o w' →
      Bounces t w (n + 1) o w'

/-- One round of the loop. -/
theorem bounces_round {t : Trampoline σ α} {n : Nat} {o : Except Panic α} {w w' : σ} :
    t.Bounces w n o w' ↔
      match t.resume w with
      | (.error p, v) => n = 0 ∧ o = .error p ∧ w' = v
      | (.ok (.right a), v) => n = 0 ∧ o = .ok a ∧ w' = v
      | (.ok (.left e), v) =>
        match e.force v with
        | (.error p, v) => n = 1 ∧ o = .error p ∧ w' = v
        | (.ok t', v) => ∃ m, n = m + 1 ∧ t'.Bounces v m o w' := by
  constructor
  · rintro (resumed | resumed | ⟨resumed, forced⟩ | ⟨resumed, forced, rest⟩) <;> rw [resumed]
    · exact ⟨rfl, rfl, rfl⟩
    · exact ⟨rfl, rfl, rfl⟩
    · dsimp only
      rw [forced]
      exact ⟨rfl, rfl, rfl⟩
    · dsimp only
      rw [forced]
      exact ⟨_, rfl, rest⟩
  · rcases resumed : t.resume w with ⟨p | e | a, v⟩ <;> dsimp only
    · rintro ⟨rfl, rfl, rfl⟩
      exact .refused resumed
    · rcases forced : e.force v with ⟨p | t', v'⟩ <;> dsimp only
      · rintro ⟨rfl, rfl, rfl⟩
        exact .crashed resumed forced
      · rintro ⟨m, rfl, rest⟩
        exact .again resumed forced rest
    · rintro ⟨rfl, rfl, rfl⟩
      exact .finished resumed

/-- A trampoline is resumed by normalizing its program. -/
theorem resume_eq (p : Program σ (Thunked σ) α) (w : σ) :
    (mk p).resume w =
      match p.normalize w with
      | (.error e, v) => (.error e, v)
      | (.ok (.done a), v) => (.ok (.right a), v)
      | (.ok (.suspend e), v) => (.ok (.left ⟨e.force.map done⟩), v)
      | (.ok (.bound e q), v) =>
        (.ok (.left ⟨e.force.bind fun b => Host.map mk fun v => (q.apply b v).run⟩), v) := by
  unfold resume Program.resume Host.map Host.bind
  dsimp only
  rcases p.normalize w with ⟨e | a | e | ⟨e, q⟩, v⟩ <;> rfl

/-- The loop ends at once with a value. -/
theorem bounces_done (a : α) {n : Nat} {o : Except Panic α} {w w' : σ} :
    (done a).Bounces w n o w' ↔ ((0, .ok a, w) : Tally σ α) = (n, o, w') := by
  rw [bounces_round, done, resume_eq, Program.normalize]
  exact Tally.eq_iff.symm

/-- A round more is a thunk more. -/
theorem bounces_succ {t : Trampoline σ α} {n : Nat} {o : Except Panic α} {w w' : σ}
    {x : Tally σ α} (rest : ∀ {m}, t.Bounces w m o w' ↔ x = (m, o, w')) :
    (∃ m, n = m + 1 ∧ t.Bounces w m o w') ↔ ((x.1 + 1, x.2) : Tally σ α) = (n, o, w') := by
  simp only [rest]
  constructor
  · rintro ⟨m, rfl, rfl⟩
    rfl
  · obtain ⟨k, y⟩ := x
    rintro ⟨⟩
    exact ⟨_, rfl, rfl⟩

/-- The loop goes as the tally says. -/
theorem bounces_iff (t : Trampoline σ α) {n : Nat} {o : Except Panic α} {w w' : σ} :
    t.Bounces w n o w' ↔ t.tally w = (n, o, w') := by
  obtain ⟨p⟩ := t
  induction p using Program.follows_wf.induction generalizing n w with
  | _ p ih =>
    rw [bounces_round, resume_eq, tally, ← Program.shown_normalize]
    unfold Host.map Host.bind
    rcases h : p.normalize w with ⟨e | a | e | ⟨e, q⟩, v⟩ <;>
      dsimp only [Program.shown, Behavior.forced]
    · exact Tally.eq_iff.symm
    · exact Tally.eq_iff.symm
    · rcases e.force v with ⟨p | a, u⟩
      · exact Tally.eq_iff.symm
      · exact bounces_succ (bounces_done a)
    · rcases e.force v with ⟨p | b, u⟩
      · exact Tally.eq_iff.symm
      · dsimp only [Tally.andThen]
        rw [← Arrows.behavior_apply]
        rcases called : q.apply b u with ⟨r, u'⟩ | ⟨p, u'⟩
        · exact bounces_succ (ih r (Program.follows_of_normalize h rfl called))
        · exact Tally.eq_iff.symm

end Trampoline

/-! ## Running -/

namespace Program

variable [Observer σ]

/-- A turn of the fold forces a thunk, and then the rest is folded. -/
theorem fold_forcing_turn (p : Program (Untraced σ) (Thunked (Untraced σ)) α) (w : Untraced σ) :
    p.fold forcing () w =
      match p.normalize w with
      | (.error e, v) => (.error e, v)
      | (.ok (.done a), v) => (.ok ⟨a⟩, v)
      | (.ok (.suspend e), v) => e.force.map Identity.mk v
      | (.ok (.bound e q), v) =>
        e.force.bind (fun b v => match q.apply b v with
          | .returned r v => r.fold forcing () v
          | .panicked p v => (.error p, v)) v := by
  refine Eq.trans (fold_turn forcing () p w) ?_
  rcases p.normalize w with ⟨e | a | e | ⟨e, q⟩, v⟩
  · rfl
  · rfl
  · exact congrFun (Host.bind_assoc e.force _ _) v
  · unfold forcing Host.map Host.bind
    dsimp only
    rcases e.force (note (.folded .effect) v) with ⟨p | b, u⟩
    · rfl
    · simp only [Host.pure, Carrier.bind]
      rcases q.apply b u with ⟨r, u'⟩ | ⟨p, u'⟩ <;> rfl

/-- Folding forces what the behavior waits for. -/
theorem fold_forcing (p : Program (Untraced σ) (Thunked (Untraced σ)) α) (w : Untraced σ) :
    (p.fold forcing ()).map Identity.value w = (p.behavior w).forced.2 := by
  induction p using follows_wf.induction generalizing w with
  | _ p ih =>
    rw [Host.map_apply, fold_forcing_turn, ← shown_normalize]
    rcases h : p.normalize w with ⟨e | a | e | ⟨e, q⟩, v⟩ <;>
      dsimp only [shown, Behavior.forced]
    · rfl
    · rfl
    · rw [Host.map_apply]
      rcases e.force v with ⟨p | a, u⟩ <;> rfl
    · unfold Host.bind
      rcases e.force v with ⟨p | b, u⟩
      · rfl
      · dsimp only [Tally.andThen]
        rw [← Arrows.behavior_apply]
        rcases called : q.apply b u with ⟨r, u'⟩ | ⟨p, u'⟩
        · exact (Host.map_apply ..).symm.trans (ih r (follows_of_normalize h rfl called) u')
        · rfl

end Program

/-- Running a trampoline forces every thunk. -/
theorem Trampoline.run_eq_tally [Observer σ] (t : Trampoline (Untraced σ) α) (w : Untraced σ) :
    t.run w = (t.tally w).2 :=
  t.program.fold_forcing w

end Resumption
