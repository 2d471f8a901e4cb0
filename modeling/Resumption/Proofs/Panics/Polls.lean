/-
Polls — polls of calmed futures go alike.

Every poll of a future ends as the same poll of a future that calms it, or leaves it
calmed again.  So no executor can tell the two apart: being calmed is a bisimulation.

| part of a poll            | why it goes alike                                       |
|---------------------------|---------------------------------------------------------|
| a context                 | what is inside goes alike, and so does what comes next  |
| a call                    | it returns a calmed future, or its panic is a failure   |
| a bracket that closes     | by outcomes that are the same                           |
| a time-out                | the reactors tell one time and know the same scopes     |
| two sides                 | each goes alike; their values are concluded alike       |
-/
import Resumption.Proofs.Panics.Calmed

namespace Resumption

namespace Future

variable {σ : Type} {α β γ ρ : Type} {r r' : Option (Reactor σ)}

/-- A poll that ends with what a closure says. -/
theorem Polled.ofHost_eq (h : Host σ (Except Failure α)) (w : σ) (r : Option (Reactor σ)) :
    Polled.ofHost h w r = ⟨.ended (h.caught w).1, (h.caught w).2, r⟩ :=
  rfl

namespace Polled.Related

/-- Contexts of polls that go alike. -/
theorem around {R : Relation σ} {P P' : Polled σ α} (related : P.Related R P')
    {K K' : Future σ α → Future σ β}
    {F F' : Except Failure α → σ → Option (Reactor σ) → Polled σ β}
    (left : ∀ a b, R α a b → R β (K a) (K' b))
    (next : ∀ o w r r', Option.Rel (Reactor.Related R) r r' → (F o w r).Related R (F' o w r')) :
    (Future.around K F P).Related R (Future.around K' F' P') := by
  cases related with
  | ended o w here => exact next o w _ _ here
  | pending w inner here => exact .pending w (left _ _ inner) here

theorem ofHost {R : Relation σ} (h : Host σ (Except Failure α)) (w : σ)
    (here : Option.Rel (Reactor.Related R) r r') :
    (Polled.ofHost h w r).Related R (.ofHost h w r') :=
  .ended _ _ here

variable [Observer σ]

theorem endTimeout {R : Relation σ} (limit : Duration) (outcome : Option (Except Failure α)) (w : σ)
    (here : Option.Rel (Reactor.Related R) r r') :
    (Future.endTimeout limit outcome w r).Related R (Future.endTimeout limit outcome w r') := by
  cases outcome with
  | some o => exact .ended o w here
  | none => exact .ended _ _ here

/-! ## Calls and releases -/

theorem call {scopes : Scopes} {c d : Call σ α} (paired : c.Paired d)
    (polls : ∀ a b, c.Return d a b → ∀ w, (a.poll scopes w r).Related (Calmed σ) (b.poll scopes w r'))
    (here : Option.Rel (Reactor.Related (Calmed σ)) r r') :
    (c.poll scopes r).Related (Calmed σ) (d.poll scopes r') := by
  cases paired with
  | returned a b w =>
    rw [Call.poll, Call.poll]
    exact polls a b (.mk a b w w) w
  | panicked w crashing =>
    rw [Call.poll, Call.poll, crashing]
    exact .ended _ w here

theorem released {used : Except Failure β} {opened : Scopes} {P P' : Polled σ Verdict}
    (related : P.Related (Calmed σ) P') :
    (afterRelease opened used P).Related (Calmed σ) (afterRelease opened used P') := by
  rw [afterRelease_eq, afterRelease_eq]
  refine related.around ?_ ?_
  · exact fun _ _ inner => .releasing opened used inner
  · exact fun o w _ _ here => .ended _ _ here

/-- A bracket goes on from its use to its release. -/
theorem used {scopes opened : Scopes} {P P' : Polled σ β}
    {release release' : Option β → σ → Call σ Verdict} (related : P.Related (Calmed σ) P')
    (paired : ∀ o w, (release o w).Paired (release' o w))
    (returned : ∀ o w c d, (release o w).Return (release' o w) c d → CalmedBy c d)
    (polls : ∀ o w c d, (release o w).Return (release' o w) c d →
      ∀ w r r', Option.Rel (Reactor.Related (Calmed σ)) r r' →
        (c.poll scopes w r).Related (Calmed σ) (d.poll scopes w r')) :
    (Future.around (fun u => inUse opened u release)
        (fun o w r => afterRelease opened o ((release o.toOption w).poll scopes r)) P).Related
      (Calmed σ)
      (Future.around (fun u => inUse opened u release')
        (fun o w r => afterRelease opened o ((release' o.toOption w).poll scopes r)) P') := by
  refine related.around ?_ ?_
  · exact fun _ _ inner => .inUse opened inner paired returned
  · intro o w r r' here
    exact released (call (paired _ w) (fun c d calls w => polls _ _ c d calls w r r' here) here)

/-! ## Time-outs -/

theorem awaitTasks (tasks : List TaskId) (limit : Duration) (outcome : Option (Except Failure α))
    (w : σ) {r r' : Reactor σ} (here : r.Related (Calmed σ) r') :
    (Future.awaitTasks tasks limit outcome w r).Related (Calmed σ)
      (Future.awaitTasks tasks limit outcome w r') := by
  rw [Future.awaitTasks, Future.awaitTasks, here.finished]
  split
  · exact .endTimeout limit outcome w (.some here)
  · exact .pending w (.draining tasks limit outcome) (.some here)

theorem drainScope (scope : ScopeId) (limit : Duration) (outcome : Option (Except Failure α))
    (w : σ) {r r' : Reactor σ} (here : r.Related (Calmed σ) r') :
    (Future.drainScope scope limit outcome w r).Related (Calmed σ)
      (Future.drainScope scope limit outcome w r') := by
  obtain ⟨same, here⟩ := here.takeRegistered scope
  unfold Future.drainScope
  generalize r.takeRegistered scope = x at same here ⊢
  generalize r'.takeRegistered scope = x' at same here ⊢
  obtain ⟨tasks, s⟩ := x
  obtain ⟨tasks', s'⟩ := x'
  obtain rfl : tasks = tasks' := same
  cases tasks with
  | nil => exact .endTimeout limit outcome w (.some here)
  | cons id tasks => exact .awaitTasks (id :: tasks) limit outcome _ here

theorem afterTimed (scope : ScopeId) (around : Scopes) (limit : Duration) (deadline : Nat)
    {P P' : Polled σ α} (related : P.Related (Calmed σ) P') :
    (Future.afterTimed scope around limit deadline P).Related (Calmed σ)
      (Future.afterTimed scope around limit deadline P') := by
  cases related with
  | ended o w here =>
    cases here with
    | none => exact .ended o w .none
    | some here => exact .drainScope scope limit (some o) w here
  | @pending a b w _ _ inner here =>
    cases here with
    | none => exact .pending w (.timing scope around limit deadline inner) .none
    | @some r r' here =>
      simp only [Future.afterTimed, here.now]
      split
      · obtain ⟨world, here⟩ := here.adopt CalmedBy.task inner.orphans w
        rw [world]
        exact .drainScope scope limit none _ here
      · exact .pending w (.timing scope around limit deadline inner) (.some here)

/-! ## Two sides -/

theorem sides {f : α → β → Host σ γ} {K : Future σ (α × β) → Future σ γ}
    (follows : Concludes (onValue fun x => f x.1 x.2) K) {P P' : Polled σ α} {Q Q' : Polled σ β}
    (first : P.Related (Calmed σ) P') (second : Q.Related (Calmed σ) Q') :
    (Future.sides f P.progress Q).Related (Calmed σ)
      (Future.around K (fun o w r => .ofHost (onValue (fun x => f x.1 x.2) o) w r)
        (Future.sides pairing P'.progress Q')) := by
  cases first with
  | ended x _ _ =>
    cases second with
    | ended y w here =>
      cases x with
      | error e => exact .ended _ w here
      | ok x =>
        cases y with
        | error e => exact .ended _ w here
        | ok y => exact .ofHost _ w here
    | pending w right here => exact .pending w (.both (.ready x) right follows) here
  | pending _ left _ =>
    cases second with
    | ended y w here => exact .pending w (.both left (.ready y) follows) here
    | pending w right here => exact .pending w (.both left right follows) here

end Polled.Related

/-! ## Every poll -/

variable [Observer σ]

/-- Every poll of the first future goes as that of the second one. -/
def PollsCalmed (a b : Future σ α) : Prop :=
  ∀ scopes w r r', Option.Rel (Reactor.Related (Calmed σ)) r r' →
    (a.poll scopes w r).Related (Calmed σ) (b.poll scopes w r')

theorem CalmedBy.polls {a b : Future σ α} (calmed : CalmedBy a b) : PollsCalmed a b := by
  -- Futures that calls return are covered by the induction; what a poll leaves pending is
  -- related by the rule that related what was polled.
  induction calmed with
  | ready o =>
    intro scopes w r r' here
    rw [poll, poll]
    exact .ended o w here
  | perform same =>
    intro scopes w r r' here
    rw [poll, poll, Polled.ofHost_eq, Polled.ofHost_eq, same]
    exact .ended _ _ here
  | suspend paired _ ih =>
    intro scopes w r r' here
    rw [poll, poll]
    exact .call (paired w) (fun a b calls w => ih _ a b calls scopes w r r' here) here
  | conclude _ follows ih =>
    intro scopes w r r' here
    rw [runs_conclude scopes, follows.runs scopes]
    refine (ih scopes w r r' here).around ?_ ?_
    · exact fun _ _ inner => .conclude inner follows
    · exact fun o w _ _ here => .ofHost _ w here
  | bind _ paired returned ih ihk =>
    intro scopes w r r' here
    rw [runs_bind scopes, runs_bind scopes]
    refine (ih scopes w r r' here).around ?_ ?_
    · exact fun _ _ inner => .bind inner paired returned
    · intro o w r r' here
      cases o with
      | ok x => exact .call (paired x w) (fun a b calls w => ihk x _ a b calls scopes w r r' here) here
      | error e => exact .ended _ w here
  | rescue _ paired returned ih ihk =>
    intro scopes w r r' here
    rw [runs_rescue scopes, runs_rescue scopes]
    refine (ih scopes w r r' here).around ?_ ?_
    · exact fun _ _ inner => .rescue inner paired returned
    · intro o w r r' here
      cases o with
      | ok x => exact .ended _ w here
      | error e =>
        exact .call (paired e w) (fun a b calls w => ihk e _ a b calls scopes w r r' here) here
  | bracket _ uses used releases released ih ihUse ihRelease =>
    intro scopes w r r' here
    rw [runs_bracket scopes, runs_bracket scopes]
    refine (ih scopes w r r' here).around ?_ ?_
    · exact fun _ _ inner => .bracket inner uses used releases released
    · intro o w r r' here
      cases o with
      | error e => exact .ended _ w here
      | ok x =>
        refine .used ?_ (releases x) (released x) fun o w c d calls => ihRelease x o w c d calls scopes
        exact .call (uses x _) (fun a b calls w => ihUse x _ a b calls scopes w r r' here) here
  | inUse opened _ releases released ih ihRelease =>
    intro scopes w r r' here
    rw [runs_inUse scopes, runs_inUse scopes]
    exact (ih scopes w r r' here).used releases released
      fun o w c d calls => ihRelease o w c d calls scopes
  | releasing opened used _ ih =>
    intro scopes w r r' here
    rw [poll, poll]
    exact .released (ih scopes w r r' here)
  | @both _ _ _ a a' b b' f K _ _ follows left right =>
    intro scopes w r r' here
    rw [follows.runs scopes, poll_both, poll_both]
    -- The second side is polled in the world and with the reactor that the first one left.
    have first := left scopes w r r' here
    generalize a.poll scopes w r = P at first ⊢
    generalize a'.poll scopes w r' = P' at first ⊢
    refine .sides follows first ?_
    cases first with
    | ended _ w here => exact right scopes w _ _ here
    | pending w _ here => exact right scopes w _ _ here
  | within limit _ ih =>
    intro scopes w r r' here
    cases here with
    | none =>
      rw [poll, poll]
      exact .ended _ w .none
    | some here =>
      obtain ⟨tasks⟩ := here
      rw [poll, poll]
      exact .afterTimed _ _ _ _ (ih _ w _ _ (.some (.mk tasks)))
  | timing scope around limit deadline _ ih =>
    intro scopes w r r' here
    rw [poll, poll]
    exact .afterTimed scope around limit deadline (ih _ w r r' here)
  | draining tasks limit outcome =>
    intro scopes w r r' here
    cases here with
    | none =>
      rw [poll]
      exact .pending w (.draining tasks limit outcome) .none
    | some here =>
      rw [poll, poll]
      exact .awaitTasks tasks limit outcome w here
  | sleep ms =>
    intro scopes w r r' here
    cases here with
    | none =>
      rw [poll]
      exact .ended _ w .none
    | some here =>
      rw [poll, poll, here.now]
      split
      · exact .ended _ w (.some here)
      · exact .pending w (.sleeping _) (.some here)
  | sleeping t =>
    intro scopes w r r' here
    cases here with
    | none =>
      rw [poll]
      exact .pending w (.sleeping t) .none
    | some here =>
      rw [poll, poll, here.now]
      split
      · exact .ended _ w (.some here)
      · exact .pending w (.sleeping t) (.some here)
  | pause =>
    intro scopes w r r' here
    rw [poll, poll]
    exact .pending w .paused here
  | paused =>
    intro scopes w r r' here
    rw [poll, poll]
    exact .ended _ w here
  | never =>
    intro scopes w r r' here
    rw [poll, poll]
    exact .pending w .never here

/-- Nothing that drives a future can tell it from one that calms it. -/
theorem calmed_bisimulation : Bisimulation (Calmed σ) where
  woken := CalmedBy.woken
  yielding := CalmedBy.yielding
  nextDeadline := CalmedBy.nextDeadline
  held := CalmedBy.held
  orphans := CalmedBy.orphans
  task := CalmedBy.task _ _
  poll := CalmedBy.polls

end Future

end Resumption
