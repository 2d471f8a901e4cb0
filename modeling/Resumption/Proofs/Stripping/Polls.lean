/-
Polls — a poll without some scopes.

Polling and stripping commute: the poll of a stripped future, with a stripped reactor, is
the stripped poll.  It takes that the scopes were opened before and that none of them is the
scope of a time-out that runs in the future, so that no step of the poll handles one of them
by name.

| step of a poll         | and without the scopes                                     |
|------------------------|------------------------------------------------------------|
| opens a scope          | opens it under its stripped name                           |
| spawns a release       | registers it with the stripped list of its scopes          |
| takes what a scope has | takes the same, for the scope is one that is left          |
| calls a closure        | does the same, for what it returns names no scope          |
-/
import Resumption.Proofs.Future.Context
import Resumption.Proofs.Stripping.Stripped
import Resumption.Proofs.Timeout.Placed

namespace Resumption

namespace Future

variable {σ : Type} {α β γ : Type} {k n : Nat}

/-- How the poll leaves the future without these scopes. -/
def Progress.stripped (k n : Nat) : Progress σ α → Progress σ α
  | ended o => ended o
  | pending a => pending (a.stripped k n)

/-- The poll without these scopes. -/
def Polled.stripped (k n : Nat) (P : Polled σ α) : Polled σ α :=
  ⟨P.progress.stripped k n, P.world, P.reactor.map (Reactor.stripped k n)⟩

/-- The second poll is the first one without the scopes, and those are opened. -/
structure Polled.Strips (k n : Nat) (P Q : Polled σ α) : Prop where
  eq : Q = P.stripped k n
  past : ∀ r ∈ P.reactor, r.Past k n

namespace Polled.Strips

variable {r : Option (Reactor σ)}

theorem ended (o : Except Failure α) (w : σ) (past : ∀ s ∈ r, s.Past k n) :
    Strips k n ⟨.ended o, w, r⟩ ⟨.ended o, w, r.map (Reactor.stripped k n)⟩ :=
  ⟨rfl, past⟩

theorem pending (a : Future σ α) (w : σ) (past : ∀ s ∈ r, s.Past k n) :
    Strips k n ⟨.pending a, w, r⟩ ⟨.pending (a.stripped k n), w, r.map (Reactor.stripped k n)⟩ :=
  ⟨rfl, past⟩

theorem ofHost (h : Host σ (Except Failure α)) (w : σ) (past : ∀ s ∈ r, s.Past k n) :
    Strips k n (.ofHost h w r) (.ofHost h w (r.map (Reactor.stripped k n))) :=
  ⟨rfl, past⟩

/-- Contexts that only look inside. -/
theorem around {P Q : Polled σ α} (strips : P.Strips k n Q) {K K' : Future σ α → Future σ β}
    {F F' : Except Failure α → σ → Option (Reactor σ) → Polled σ β}
    (left : ∀ a, (K a).stripped k n = K' (a.stripped k n))
    (next : ∀ o w r, (∀ s ∈ r, s.Past k n) →
      (F o w r).Strips k n (F' o w (r.map (Reactor.stripped k n)))) :
    (Future.around K F P).Strips k n (Future.around K' F' Q) := by
  obtain ⟨rfl, past⟩ := strips
  obtain ⟨progress, w, r⟩ := P
  cases progress with
  | ended o => exact next o w r past
  | pending a =>
    refine ⟨?_, past⟩
    show (⟨.pending (K' (a.stripped k n)), w, _⟩ : Polled σ β) = _
    rw [← left]
    rfl

variable [Observer σ]

theorem endTimeout (limit : Duration) (outcome : Option (Except Failure α)) (w : σ)
    (past : ∀ s ∈ r, s.Past k n) :
    (Future.endTimeout limit outcome w r).Strips k n
      (Future.endTimeout limit outcome w (r.map (Reactor.stripped k n))) := by
  cases outcome with
  | some o => exact .ended o w past
  | none => exact .ended _ _ past

/-- A bracket that polls its release. -/
theorem released {used : Except Failure β} (opened : Scopes) {P Q : Polled σ Verdict}
    (strips : P.Strips k n Q) :
    (afterRelease opened used P).Strips k n (afterRelease (Scopes.stripped k n opened) used Q) := by
  rw [afterRelease_eq, afterRelease_eq]
  exact strips.around (fun _ => rfl) fun o w _ past => .ended _ _ past

/-! ## Time-outs -/

variable {s : Reactor σ}

theorem awaitTasks (tasks : List TaskId) (limit : Duration) (outcome : Option (Except Failure α))
    (w : σ) (past : s.Past k n) :
    (Future.awaitTasks tasks limit outcome w s).Strips k n
      (Future.awaitTasks tasks limit outcome w (s.stripped k n)) := by
  have here : ∀ r ∈ some s, r.Past k n := fun _ mem => Option.some.inj mem ▸ past
  rw [Future.awaitTasks, Future.awaitTasks]
  show Strips k n _ (if tasks.all s.hasFinished then _ else _)
  split
  · exact .endTimeout limit outcome w here
  · exact .pending (draining tasks limit outcome) w here

theorem drainScope {T : ScopeId} (apart : Apart k n T) (limit : Duration)
    (outcome : Option (Except Failure α)) (w : σ) (past : s.Past k n) :
    (Future.drainScope T limit outcome w s).Strips k n
      (Future.drainScope (renamed k n T) limit outcome w (s.stripped k n)) := by
  have taken := past.takeRegistered T
  unfold Future.drainScope
  rw [Reactor.takeRegistered_stripped apart]
  generalize s.takeRegistered T = x at taken ⊢
  obtain ⟨tasks, s'⟩ := x
  cases tasks with
  | nil => exact .endTimeout limit outcome w fun _ mem => Option.some.inj mem ▸ taken
  | cons id tasks => exact .awaitTasks (id :: tasks) limit outcome _ taken

theorem afterTimed {T : ScopeId} (apart : Apart k n T) (around : Scopes) (limit : Duration)
    (deadline : Nat) {P Q : Polled σ α} (strips : P.Strips k n Q) :
    (Future.afterTimed T around limit deadline P).Strips k n
      (Future.afterTimed (renamed k n T) (Scopes.stripped k n around) limit deadline Q) := by
  obtain ⟨rfl, past⟩ := strips
  rcases P with ⟨o | a, w, _ | s⟩
  · exact .ended o w past
  · exact .drainScope apart limit (some o) w (past s rfl)
  · exact .pending (timing T around limit deadline a) w past
  · show Strips k n _ (if deadline ≤ s.now then _ else _)
    rw [Future.afterTimed]
    split
    · show Strips k n _ (Future.drainScope (renamed k n T) limit none
        ((s.stripped k n).adopt (a.stripped k n).orphans w).1
        ((s.stripped k n).adopt (a.stripped k n).orphans w).2)
      rw [orphans_stripped, Reactor.adopt_stripped]
      exact .drainScope apart limit none _ ((past s rfl).adopt a.orphans w)
    · exact .pending (timing T around limit deadline a) w past

/-! ## Two sides -/

omit [Observer σ] in
theorem sides (f : α → β → Host σ γ) {P P' : Polled σ α} {Q Q' : Polled σ β}
    (first : P.Strips k n P') (second : Q.Strips k n Q') :
    (Future.sides f P.progress Q).Strips k n (Future.sides f P'.progress Q') := by
  obtain ⟨rfl, -⟩ := first
  obtain ⟨rfl, past⟩ := second
  rcases P with ⟨x | a, _, _⟩ <;> rcases Q with ⟨y | b, w, r⟩
  · exact .ofHost (joined f x y) w past
  · exact .pending (both (ready x) b f) w past
  · exact .pending (both a (ready y) f) w past
  · exact .pending (both a b f) w past

end Polled.Strips

/-! ## Every poll -/

/-- The future stands somewhere, and its time-outs have none of the scopes. -/
structure Beyond (k n : Nat) (a : Future σ α) : Prop where
  placed : ∃ (m : Nesting) (r : Reactor σ) (E : Scopes), a.Placed m r E
  timers : ∀ T ∈ a.timers, Apart k n T

theorem Fresh.beyond (k n : Nat) {a : Future σ α} (fresh : a.Fresh) : a.Beyond k n where
  placed := ⟨[], .initial, [], fresh.placed _ _ _⟩
  timers T timed := by
    rw [fresh.timers] at timed
    exact absurd timed List.not_mem_nil

variable [Observer σ]

mutual

/-- Polling and stripping commute. -/
theorem poll_stripped (k n : Nat) {α : Type} : (a : Future σ α) → a.Beyond k n →
    (L : Scopes) → (w : σ) → (r : Option (Reactor σ)) → (∀ s ∈ r, s.Past k n) →
      (a.poll L w r).Strips k n
        ((a.stripped k n).poll (Scopes.stripped k n L) w (r.map (Reactor.stripped k n)))
  | ready o, _, L, w, r, past => by
    rw [stripped, poll, poll]
    exact .ended o w past
  | perform h, _, L, w, r, past => by
    rw [stripped, poll, poll]
    exact .ofHost h w past
  | suspend s, beyond, L, w, r, past => by
    obtain ⟨_, _, _, fresh⟩ := beyond.placed
    rw [stripped, poll, poll]
    exact (s w).poll_stripped k n (fresh w) L r past
  | conclude a f, beyond, L, w, r, past => by
    rw [stripped, runs_conclude L, runs_conclude]
    exact (poll_stripped k n a ⟨beyond.placed, beyond.timers⟩ L w r past).around (fun _ => rfl)
      fun o w _ past => .ofHost (f o) w past
  | bind a f, beyond, L, w, r, past => by
    obtain ⟨⟨_, _, _, placed, fresh⟩, timers⟩ := beyond
    rw [stripped, runs_bind L, runs_bind]
    refine (poll_stripped k n a ⟨⟨_, _, _, placed⟩, timers⟩ L w r past).around (fun _ => rfl) ?_
    intro o w r past
    cases o with
    | ok x => exact (f x w).poll_stripped k n (fresh x w) L r past
    | error e => exact .ended _ w past
  | rescue a f, beyond, L, w, r, past => by
    obtain ⟨⟨_, _, _, placed, fresh⟩, timers⟩ := beyond
    rw [stripped, runs_rescue L, runs_rescue]
    refine (poll_stripped k n a ⟨⟨_, _, _, placed⟩, timers⟩ L w r past).around (fun _ => rfl) ?_
    intro o w r past
    cases o with
    | ok x => exact .ended _ w past
    | error e => exact (f e w).poll_stripped k n (fresh e w) L r past
  | bracket a use release, beyond, L, w, r, past => by
    obtain ⟨⟨_, _, _, placed, freshUse, freshRelease⟩, timers⟩ := beyond
    rw [stripped, runs_bracket L, runs_bracket]
    refine (poll_stripped k n a ⟨⟨_, _, _, placed⟩, timers⟩ L w r past).around (fun _ => rfl) ?_
    intro o w r past
    cases o with
    | error e => exact .ended _ w past
    | ok x =>
      refine ((use x _).poll_stripped k n (freshUse x _) L r past).around (fun _ => rfl) ?_
      intro used w r past
      have released := (release x used.toOption w).poll_stripped k n (freshRelease x _ w) L r past
      exact .released L released
  | inUse opened use release, beyond, L, w, r, past => by
    obtain ⟨⟨_, _, _, placed, fresh, -⟩, timers⟩ := beyond
    rw [stripped, runs_inUse L, runs_inUse]
    refine (poll_stripped k n use ⟨⟨_, _, _, placed⟩, timers⟩ L w r past).around (fun _ => rfl) ?_
    intro used w r past
    exact .released opened ((release used.toOption w).poll_stripped k n (fresh _ w) L r past)
  | releasing opened used release, beyond, L, w, r, past => by
    obtain ⟨⟨_, _, _, placed, -⟩, timers⟩ := beyond
    rw [stripped, poll, poll]
    exact .released opened (poll_stripped k n release ⟨⟨_, _, _, placed⟩, timers⟩ L w r past)
  | within limit a, beyond, L, w, none, past => by
    rw [stripped, poll]
    exact .ended _ w past
  | within limit a, beyond, L, w, some s, past => by
    obtain ⟨_, _, _, fresh⟩ := beyond.placed
    have here := past s rfl
    have action := poll_stripped k n a (Fresh.beyond k n fresh) (s.nextScope :: L) w
      (some s.freshScope.2) fun _ mem => Option.some.inj mem ▸ here.freshScope
    rw [Scopes.stripped_cons here.apart] at action
    rw [stripped, poll, Option.map_some, poll, Reactor.freshScope_stripped here]
    exact .afterTimed here.apart L limit _ action
  | timing T A limit deadline a, beyond, L, w, r, past => by
    obtain ⟨⟨_, _, _, placed, -⟩, timers⟩ := beyond
    have apart : Apart k n T := timers T List.mem_cons_self
    have action := poll_stripped k n a
      ⟨⟨_, _, _, placed⟩, fun S timed => timers S (List.mem_cons_of_mem T timed)⟩ (T :: A) w r past
    rw [Scopes.stripped_cons apart] at action
    rw [stripped, poll, poll]
    exact .afterTimed apart A limit deadline action
  | both a b f, beyond, L, w, r, past => by
    obtain ⟨⟨_, _, _, left, right⟩, timers⟩ := beyond
    have first := poll_stripped k n a
      ⟨⟨_, _, _, left⟩, fun T timed => timers T (List.mem_append_left _ timed)⟩ L w r past
    have second := poll_stripped k n b
      ⟨⟨_, _, _, right⟩, fun T timed => timers T (List.mem_append_right _ timed)⟩ L
      (a.poll L w r).world (a.poll L w r).reactor first.past
    rw [stripped, poll_both, poll_both]
    refine .sides f first ?_
    rw [first.eq]
    exact second
  | draining tasks limit outcome, _, L, w, none, past => by
    rw [stripped, poll]
    exact .pending _ w past
  | draining tasks limit outcome, _, L, w, some s, past => by
    rw [stripped, poll, Option.map_some, poll]
    exact .awaitTasks tasks limit outcome w (past s rfl)
  | sleep ms, _, L, w, none, past => by
    rw [stripped, poll]
    exact .ended _ w past
  | sleep ms, _, L, w, some s, past => by
    rw [stripped, poll, Option.map_some, poll]
    split
    · exact .ended _ w past
    · exact .pending (sleeping (s.now + ms)) w past
  | sleeping t, _, L, w, none, past => by
    rw [stripped, poll]
    exact .pending _ w past
  | sleeping t, _, L, w, some s, past => by
    rw [stripped, poll, Option.map_some, poll]
    show Polled.Strips k n _ (if t ≤ s.now then _ else _)
    split
    · exact .ended _ w past
    · exact .pending (sleeping t) w past
  | pause, _, L, w, r, past => by
    rw [stripped, poll, poll]
    exact .pending paused w past
  | paused, _, L, w, r, past => by
    rw [stripped, poll, poll]
    exact .ended _ w past
  | never, _, L, w, r, past => by
    rw [stripped, poll, poll]
    exact .pending never w past

theorem Call.poll_stripped (k n : Nat) {α : Type} : (c : Call σ α) → c.Fresh →
    (L : Scopes) → (r : Option (Reactor σ)) → (∀ s ∈ r, s.Past k n) →
      (c.poll L r).Strips k n (c.poll (Scopes.stripped k n L) (r.map (Reactor.stripped k n)))
  | .returned a w, fresh, L, r, past => by
    have polls := a.poll_stripped k n (Fresh.beyond k n fresh) L w r past
    rw [Fresh.stripped k n fresh] at polls
    rw [Call.poll, Call.poll]
    exact polls
  | .panicked p w, _, L, r, past => by
    rw [Call.poll, Call.poll]
    exact .ended _ w past

end

end Future

end Resumption
