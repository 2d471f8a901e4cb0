/-
Mirroring — a poll with a book does what the poll without one does.

Polled in mirrored reactors, a future and its mirror end with the same outcome or
are both left pending, as a future and its mirror again, and the world beside the
book is the world without one.
-/
import Resumption.Proofs.Custody.Mirror
import Resumption.Proofs.Future.Context
import Resumption.Proofs.Future.Reactor

namespace Resumption

variable {σ : Type} {α β : Type}

/-- A closure beside a book ends as it does without. -/
theorem Host.aside_caught (h : Host σ (Except Failure α)) (b : Booked σ) :
    h.aside.caught b = ((h.caught b.world).1, { b with world := (h.caught b.world).2 }) := by
  simp only [Host.caught, Host.aside]
  rcases h b.world with ⟨_ | _, _⟩ <;> rfl

namespace Future

theorem joined_aside {γ : Type} (f : α → β → Host σ γ) (x : Except Failure α)
    (y : Except Failure β) :
    joined (fun x y => (f x y).aside) x y = (joined f x y).aside := by
  cases x with
  | error e => rfl
  | ok x =>
    cases y with
    | error e => rfl
    | ok y =>
      funext b
      simp only [joined, Host.map, Host.bind, Host.aside]
      rcases f x y b.world with ⟨_ | _, _⟩ <;> rfl

variable [Observer σ]

/-- Tasks of one name that run the same release. -/
def TaskPair (x : TaskId × Future σ Unit) (x' : TaskId × Future (Booked σ) Unit) : Prop :=
  x.1 = x'.1 ∧ TaskMirroredBy x.2 x'.2

end Future

open Future

/-- Reactors that differ in the book of what they run.  The tasks that were spawned are
numbered from `m` on. -/
inductive Reactor.MirroredBy [Observer σ] (m : TaskId) : Reactor σ → Reactor (Booked σ) → Prop
  | mk {now : Nat} {next : TaskId} {scope : ScopeId} {registered : List (ScopeId × TaskId)}
      {finished : List TaskId} {l : List (TaskId × Future σ Unit)}
      {l' : List (TaskId × Future (Booked σ) Unit)} : List.Forall₂ TaskPair l l' →
      Reactor.NumberedFrom m ⟨now, next, scope, registered, finished, l⟩ →
      MirroredBy m ⟨now, next, scope, registered, finished, l⟩
        ⟨now, next, scope, registered, finished, l'⟩

/-- No reactor, or a mirrored one whose spawned tasks are numbered from `m` on. -/
inductive Mirrored [Observer σ] :
    Option TaskId → Option (Reactor σ) → Option (Reactor (Booked σ)) → Prop
  | outside : Mirrored none none none
  | inside {m : TaskId} {r : Reactor σ} {r' : Reactor (Booked σ)} : r.MirroredBy m r' →
      Mirrored (some m) (some r) (some r')

/-- Polls that come to the same; what they leave is related by `R`. -/
inductive Future.Polled.MirroredBy [Observer σ] (q : Option TaskId)
    (R : Future σ α → Future (Booked σ) α → Prop) : Polled σ α → Polled (Booked σ) α → Prop
  | ended (o : Except Failure α) (b : Booked σ) {r : Option (Reactor σ)}
      {r' : Option (Reactor (Booked σ))} : Mirrored q r r' →
      MirroredBy q R ⟨.ended o, b.world, r⟩ ⟨.ended o, b, r'⟩
  | pending {a : Future σ α} {a' : Future (Booked σ) α} (b : Booked σ) {r : Option (Reactor σ)}
      {r' : Option (Reactor (Booked σ))} : R a a' → Mirrored q r r' →
      MirroredBy q R ⟨.pending a, b.world, r⟩ ⟨.pending a', b, r'⟩

variable [Observer σ] {m : TaskId} {q : Option TaskId} {b : Booked σ}

/-! ## Reactors -/

namespace Reactor.MirroredBy

variable {r : Reactor σ} {r' : Reactor (Booked σ)}

theorem freshScope (mirrored : r.MirroredBy m r') :
    r.freshScope.1 = r'.freshScope.1 ∧ r.freshScope.2.MirroredBy m r'.freshScope.2 := by
  cases mirrored with
  | mk tasks numbered => exact ⟨rfl, .mk tasks numbered⟩

theorem takeRegistered (mirrored : r.MirroredBy m r') (T : ScopeId) :
    (r.takeRegistered T).1 = (r'.takeRegistered T).1 ∧
      (r.takeRegistered T).2.MirroredBy m (r'.takeRegistered T).2 := by
  cases mirrored with
  | mk tasks numbered => exact ⟨rfl, .mk tasks numbered⟩

theorem spawn (mirrored : r.MirroredBy m r') (scopes : Scopes) {a : Future σ Unit}
    {a' : Future (Booked σ) Unit} (task : TaskMirroredBy a a') :
    (r.spawn scopes a).MirroredBy m (r'.spawn scopes a') := by
  cases mirrored with
  | mk tasks numbered =>
    exact .mk (List.rel_append tasks (.cons ⟨rfl, task⟩ .nil)) (numbered.spawn scopes a)

/-- The releases of mirrored orphans are spawned alike. -/
theorem adopt {os : List (Orphan σ)} {os' : List (Orphan (Booked σ))}
    (orphans : List.Forall₂ Orphan.MirroredBy os os') (mirrored : r.MirroredBy m r') :
    (r'.adopt os' b).1.world = (r.adopt os b.world).1 ∧
      (r.adopt os b.world).2.MirroredBy m (r'.adopt os' b).2 := by
  induction orphans generalizing b r r' with
  | nil => exact ⟨rfl, mirrored⟩
  | @cons o o' _ _ same _ ih =>
    obtain ⟨scopes, marked⟩ := same
    have spawned := mirrored.spawn o.scopes (.task marked)
    have next : (r'.spawn o.scopes o'.task) = r'.spawn o'.scopes o'.task := by rw [scopes]
    rw [next] at spawned
    exact ih (b := note .bracketCancelled b) spawned

end Reactor.MirroredBy

/-! ## Polls -/

namespace Future.Polled.MirroredBy

variable {r : Option (Reactor σ)} {r' : Option (Reactor (Booked σ))}
  {R : Future σ α → Future (Booked σ) α → Prop} {S : Future σ β → Future (Booked σ) β → Prop}
  {P : Polled σ α} {P' : Polled (Booked σ) α}

/-- Contexts around mirrored polls. -/
theorem around (mirrored : P.MirroredBy q R P') {K : Future σ α → Future σ β}
    {K' : Future (Booked σ) α → Future (Booked σ) β}
    {F : Except Failure α → σ → Option (Reactor σ) → Polled σ β}
    {F' : Except Failure α → Booked σ → Option (Reactor (Booked σ)) → Polled (Booked σ) β}
    (left : ∀ a a', R a a' → S (K a) (K' a'))
    (next : ∀ o b r r', Mirrored q r r' → (F o b.world r).MirroredBy q S (F' o b r')) :
    (Future.around K F P).MirroredBy q S (Future.around K' F' P') := by
  cases mirrored with
  | ended o b here => exact next o b _ _ here
  | pending b inner here => exact .pending b (left _ _ inner) here

/-- A context on one side that only makes entries. -/
theorem beside {R' : Future σ α → Future (Booked σ) α → Prop} (mirrored : P.MirroredBy q R P')
    {K' : Future (Booked σ) α → Future (Booked σ) α}
    {F' : Except Failure α → Booked σ → Option (Reactor (Booked σ)) → Polled (Booked σ) α}
    (left : ∀ a a', R a a' → R' a (K' a'))
    (next : ∀ o b r r', Mirrored q r r' →
      MirroredBy q R' ⟨.ended o, b.world, r⟩ (F' o b r')) :
    P.MirroredBy q R' (Future.around K' F' P') := by
  cases mirrored with
  | ended o b here => exact next o b _ _ here
  | pending b inner here => exact .pending b (left _ _ inner) here

theorem ofHost (h : Host σ (Except Failure α)) (b : Booked σ) (here : Mirrored q r r') :
    (Polled.ofHost h b.world r).MirroredBy q R (.ofHost h.aside b r') := by
  simp only [Polled.ofHost, Host.aside_caught]
  exact .ended _ { b with world := (h.caught b.world).2 } here

theorem call {L : Scopes} {c : Call σ α} (b : Booked σ)
    (polls : ∀ a w, c = .returned a w → ∀ b : Booked σ,
      (a.poll L b.world r).MirroredBy q R (a.ticketed.poll L b r')) (here : Mirrored q r r') :
    (c.poll L r).MirroredBy q R ((c.ticketed b).poll L r') := by
  cases c with
  | returned a w =>
    rw [Call.poll, Call.ticketed, Call.poll]
    exact polls a w rfl { b with world := w }
  | panicked p w =>
    rw [Call.poll, Call.ticketed, Call.poll]
    exact .ended _ { b with world := w } here

/-! ### Releases -/

/-- A release that is called, and one that marks that it is. -/
theorem marked {L : Scopes} {s : σ → Call σ Verdict} (j : Nat) (b : Booked σ)
    (polls : ∀ a w, s b.world = .returned a w → ∀ b : Booked σ,
      (a.poll L b.world r).MirroredBy q Future.MirroredBy (a.ticketed.poll L b r'))
    (here : Mirrored q r r') :
    ((s b.world).poll L r).MirroredBy q EndMarkedBy ((markedRelease j s).poll L b r') := by
  rw [markedRelease, Future.marked, runs_conclude L (markEnd j), poll]
  refine beside (call (b.write (.called j)) polls here) ?_ ?_
  · exact fun _ _ inner => .mk j inner
  · exact fun o b _ _ here => .ended o (b.write (.finished j)) here

/-- A bracket closes alike. -/
theorem close (used : Except Failure β) (o : Except Failure Verdict) (b : Booked σ)
    (here : Mirrored q r r') :
    MirroredBy q Future.MirroredBy
      ⟨.ended (closeBracket used o b.world).1, (closeBracket used o b.world).2, r⟩
      ⟨.ended (closeBracket used o b).1, (closeBracket used o b).2, r'⟩ := by
  have same : (closeBracket used o b).1 = (closeBracket used o b.world).1 ∧
      (closeBracket used o b).2.world = (closeBracket used o b.world).2 := by
    cases used <;> cases o <;> exact ⟨rfl, rfl⟩
  rw [same.1, ← same.2]
  exact .ended _ _ here

theorem released {used : Except Failure β} {opened : Scopes} {P : Polled σ Verdict}
    {P' : Polled (Booked σ) Verdict} (mirrored : P.MirroredBy q EndMarkedBy P') :
    (afterRelease opened used P).MirroredBy q Future.MirroredBy (afterRelease opened used P') := by
  rw [afterRelease_eq, afterRelease_eq]
  refine mirrored.around ?_ ?_
  · intro a a' inner
    cases inner with
    | mk j inner => exact .releasing j inner
  · exact fun o b _ _ here => .close used o b here

/-! ### Time-outs -/

theorem endTimeout (limit : Duration) (outcome : Option (Except Failure α)) (b : Booked σ)
    (here : Mirrored q r r') :
    (Future.endTimeout limit outcome b.world r).MirroredBy q R
      (Future.endTimeout limit outcome b r') := by
  cases outcome with
  | some o => exact .ended o b here
  | none => exact .ended _ (note (.timeoutElapsed limit) b) here

theorem awaitTasks (tasks : List TaskId) (limit : Duration) (outcome : Option (Except Failure α))
    (b : Booked σ) {r : Reactor σ} {r' : Reactor (Booked σ)} (here : r.MirroredBy m r') :
    (Future.awaitTasks tasks limit outcome b.world r).MirroredBy (some m)
      Future.MirroredBy
      (Future.awaitTasks tasks limit outcome b r') := by
  have finished : r.hasFinished = r'.hasFinished := by
    cases here
    rfl
  rw [Future.awaitTasks, Future.awaitTasks, finished]
  split
  · exact .endTimeout limit outcome b (.inside here)
  · exact .pending b (.draining tasks limit outcome) (.inside here)

theorem drainScope (T : ScopeId) (limit : Duration) (outcome : Option (Except Failure α))
    (b : Booked σ) {r : Reactor σ} {r' : Reactor (Booked σ)} (here : r.MirroredBy m r') :
    (Future.drainScope T limit outcome b.world r).MirroredBy (some m)
      Future.MirroredBy
      (Future.drainScope T limit outcome b r') := by
  obtain ⟨same, here⟩ := here.takeRegistered T
  unfold Future.drainScope
  generalize r.takeRegistered T = x at same here ⊢
  generalize r'.takeRegistered T = x' at same here ⊢
  obtain ⟨tasks, s⟩ := x
  obtain ⟨tasks', s'⟩ := x'
  obtain rfl : tasks = tasks' := same
  cases tasks with
  | nil => exact .endTimeout limit outcome b (.inside here)
  | cons id tasks =>
    exact .awaitTasks (id :: tasks) limit outcome (note (.awaitingReleases _) b) here

theorem afterTimed (T : ScopeId) (A : Scopes) (limit : Duration) (deadline : Nat)
    (mirrored : P.MirroredBy q Future.MirroredBy P') :
    (Future.afterTimed T A limit deadline P).MirroredBy q Future.MirroredBy
      (Future.afterTimed T A limit deadline P') := by
  cases mirrored with
  | ended o b here =>
    cases here with
    | outside => exact .ended o b .outside
    | inside here => exact .drainScope T limit (some o) b here
  | @pending a a' b _ _ inner here =>
    cases here with
    | outside => exact .pending b (.timing T A limit deadline inner) .outside
    | @inside _ r r' here =>
      have now : r.now = r'.now := by
        cases here
        rfl
      simp only [Future.afterTimed, now]
      split
      · obtain ⟨world, here⟩ := here.adopt (b := b) inner.orphans
        rw [← world]
        exact .drainScope T limit none (r'.adopt a'.orphans b).1 here
      · exact .pending b (.timing T A limit deadline inner) (.inside here)

/-! ### Two sides -/

theorem sides {γ : Type} {f : α → β → Host σ γ} {P : Polled σ α} {P' : Polled (Booked σ) α}
    {Q : Polled σ β} {Q' : Polled (Booked σ) β} (first : P.MirroredBy q Future.MirroredBy P')
    (second : Q.MirroredBy q Future.MirroredBy Q') :
    (Future.sides f P.progress Q).MirroredBy q Future.MirroredBy
      (Future.sides (fun x y => (f x y).aside) P'.progress Q') := by
  cases first with
  | ended x _ _ =>
    cases second with
    | ended y b here =>
      simp only [Future.sides, joined_aside]
      exact .ofHost _ b here
    | pending b right here => exact .pending b (.both f (.ready x) right) here
  | pending _ left _ =>
    cases second with
    | ended y b here => exact .pending b (.both f left (.ready y)) here
    | pending b right here => exact .pending b (.both f left right) here

end Future.Polled.MirroredBy

/-! ## Every poll is mirrored -/

namespace Future

/-- Polls of the first future come to what those of the second one come to. -/
def PollsAlike (q : Option TaskId) (R : Future σ α → Future (Booked σ) α → Prop) (a : Future σ α)
    (a' : Future (Booked σ) α) : Prop :=
  ∀ L (b : Booked σ) r r', Mirrored q r r' →
    (a.poll L b.world r).MirroredBy q R (a'.poll L b r')

/-- A bracket goes on from its use to its release. -/
theorem Polled.MirroredBy.using {L opened : Scopes} {P : Polled σ β} {P' : Polled (Booked σ) β}
    {release : Option β → σ → Call σ Verdict} (j : Nat)
    (mirrored : P.MirroredBy q Future.MirroredBy P')
    (fresh : ∀ o w a w', release o w = .returned a w' → Future.MirroredBy a a.ticketed)
    (polls : ∀ o w a w', release o w = .returned a w' →
      PollsAlike q Future.MirroredBy a a.ticketed) :
    (Future.around (fun u => inUse opened u release)
        (fun o w r => afterRelease opened o ((release o.toOption w).poll L r)) P).MirroredBy q
      Future.MirroredBy
      (Future.around
        (fun u => inUse opened u fun o b => .returned (markedRelease j (release o)) b)
        (fun o b r => afterRelease opened o
          (Call.poll L (.returned (markedRelease j (release o.toOption)) b) r)) P') := by
  refine mirrored.around ?_ ?_
  · exact fun _ _ inner => .inUse j inner fresh
  · intro o b r r' here
    rw [Call.poll]
    exact .released (.marked j b (fun a w returned b => polls _ _ a w returned L b r r' here) here)

theorem MirroredBy.polls {a : Future σ α} {a' : Future (Booked σ) α} (mirrored : MirroredBy a a') :
    PollsAlike q MirroredBy a a' := by
  induction mirrored with
  | ready o =>
    intro L b r r' here
    rw [poll, poll]
    exact .ended o b here
  | perform h =>
    intro L b r r' here
    rw [poll, poll]
    exact .ofHost h b here
  | suspend _ ih =>
    intro L b r r' here
    rw [poll, poll]
    exact .call b (fun a w returned b => ih _ a w returned L b r r' here) here
  | conclude f _ ih =>
    intro L b r r' here
    rw [runs_conclude L f, runs_conclude L]
    refine (ih L b r r' here).around ?_ ?_
    · exact fun _ _ inner => .conclude f inner
    · exact fun o b _ _ here => .ofHost (f o) b here
  | bind _ fresh ih ihk =>
    intro L b r r' here
    rw [runs_bind L, runs_bind L]
    refine (ih L b r r' here).around ?_ ?_
    · exact fun _ _ inner => .bind inner fresh
    · intro o b r r' here
      cases o with
      | ok x => exact .call b (fun a w returned b => ihk x _ a w returned L b r r' here) here
      | error e => exact .ended _ b here
  | rescue _ fresh ih ihk =>
    intro L b r r' here
    rw [runs_rescue L, runs_rescue L]
    refine (ih L b r r' here).around ?_ ?_
    · exact fun _ _ inner => .rescue inner fresh
    · intro o b r r' here
      cases o with
      | ok x => exact .ended _ b here
      | error e => exact .call b (fun a w returned b => ihk e _ a w returned L b r r' here) here
  | bracket _ freshUse freshRelease ih ihUse ihRelease =>
    intro L b r r' here
    rw [runs_bracket L, runs_bracket L, runs_conclude L takeTicket, around_around]
    refine (ih L b r r' here).around ?_ ?_
    · exact fun _ _ inner => .bracket inner freshUse freshRelease
    · intro o b r r' here
      cases o with
      | error e => exact .ended _ b here
      | ok x =>
        refine .using b.next ?_ (freshRelease x) (ihRelease x)
        exact .call (note .acquired (b.write (.opened b.next)))
          (fun a w returned b => ihUse x _ a w returned L b r r' here) here
  | inUse j _ fresh ih ihRelease =>
    intro L b r r' here
    rw [runs_inUse L, runs_inUse L]
    exact (ih L b r r' here).using j fresh ihRelease
  | releasing j _ ih =>
    intro L b r r' here
    rw [runs_releasing L, runs_releasing L, ← afterRelease_eq, ← afterRelease_eq,
      runs_conclude L (markEnd j)]
    refine .released ((ih L b r r' here).beside ?_ ?_)
    · exact fun _ _ inner => .mk j inner
    · exact fun o b _ _ here => .ended o (b.write (.finished j)) here
  | @both _ _ _ a c a' c' f _ _ left right =>
    intro L b r r' here
    rw [poll_both, poll_both]
    have first := left L b r r' here
    generalize a.poll L b.world r = P at first ⊢
    generalize a'.poll L b r' = P' at first ⊢
    refine .sides first ?_
    cases first with
    | ended _ b here => exact right L b _ _ here
    | pending b _ here => exact right L b _ _ here
  | within limit _ ih =>
    intro L b r r' here
    cases here with
    | outside =>
      rw [poll, poll]
      exact .ended _ b .outside
    | inside here =>
      cases here with
      | mk tasks numbered =>
        rw [poll, poll]
        exact .afterTimed _ _ _ _ (ih _ b _ _ (.inside (.mk tasks numbered)))
  | timing T A limit deadline _ ih =>
    intro L b r r' here
    rw [poll, poll]
    exact .afterTimed T A limit deadline (ih _ b r r' here)
  | draining tasks limit outcome =>
    intro L b r r' here
    cases here with
    | outside =>
      rw [poll, poll]
      exact .pending b (.draining tasks limit outcome) .outside
    | inside here =>
      rw [poll, poll]
      exact .awaitTasks tasks limit outcome b here
  | sleep ms =>
    intro L b r r' here
    cases here with
    | outside =>
      rw [poll, poll]
      exact .ended _ b .outside
    | inside here =>
      cases here with
      | mk tasks numbered =>
        rw [poll, poll]
        split
        · exact .ended _ b (.inside (.mk tasks numbered))
        · exact .pending b (.sleeping _) (.inside (.mk tasks numbered))
  | sleeping t =>
    intro L b r r' here
    cases here with
    | outside =>
      rw [poll, poll]
      exact .pending b (.sleeping t) .outside
    | inside here =>
      cases here with
      | mk tasks numbered =>
        rw [poll, poll]
        split
        · exact .ended _ b (.inside (.mk tasks numbered))
        · exact .pending b (.sleeping t) (.inside (.mk tasks numbered))
  | pause =>
    intro L b r r' here
    rw [poll, poll]
    exact .pending b .paused here
  | never =>
    intro L b r r' here
    rw [poll, poll]
    exact .pending b .never here
  | paused =>
    intro L b r r' here
    rw [poll, poll]
    exact .ended _ b here

theorem MarkedBy.polls {a : Future σ Verdict} {a' : Future (Booked σ) Verdict}
    (marked : MarkedBy a a') : PollsAlike q EndMarkedBy a a' := by
  intro L b r r' here
  cases marked with
  | toBeCalled j fresh =>
    rw [poll, poll, Call.poll]
    exact .marked j b (fun a w returned b => (fresh _ a w returned).polls L b r r' here) here
  | underWay marked =>
    cases marked with
    | mk j inner =>
      rw [runs_conclude L (markEnd j)]
      refine (inner.polls L b r r' here).beside ?_ ?_
      · exact fun _ _ inner => .mk j inner
      · exact fun o b _ _ here => .ended o (b.write (.finished j)) here

theorem TaskMirroredBy.polls {a : Future σ Unit} {a' : Future (Booked σ) Unit}
    (mirrored : TaskMirroredBy a a') : PollsAlike q TaskMirroredBy a a' := by
  intro L b r r' here
  cases mirrored with
  | @task o o' marked =>
    rw [runs_task L o.scopes, runs_task L o'.scopes]
    refine (marked.polls L b r r' here).around ?_ ?_
    · exact fun _ _ inner => .task (.underWay inner)
    · intro o b r r' here
      rcases o with e | _ | ⟨e, _⟩
      · exact .ended _ (note (.orphanFailed e) b) here
      · exact .ended _ b here
      · exact .ended _ (note (.orphanFailed e) b) here

end Future

end Resumption
