/-
Outcome — what a time-out returns, and when.

The polls of a time-out's action are looked at from outside: when each was made
and whether it was the last.  The ruling on such a list is the action's own
outcome if it ended in time, which it did if no earlier poll saw the deadline
passed, and otherwise the failure of the time-out.

| the handle holds       | and the ruling so far is                           |
|------------------------|----------------------------------------------------|
| `within limit a`       | none, for there was no poll                        |
| `timing _ _ limit d a` | none, and the deadline `d` counts from the first   |
| `draining _ limit o`   | `o`, or the failure if there is none               |
-/
import Resumption.Proofs.Custody.Cancellation
import Resumption.Proofs.Timeout.Session

namespace Resumption

variable {σ : Type} {α : Type}

namespace Future

/-- The outcome of a poll that ended. -/
def Progress.outcome? : Progress σ α → Option (Except Failure α)
  | ended o => some o
  | pending _ => none

end Future

/-- A poll of an action, seen from outside: what it was given, and the outcome if the
action ended in it. -/
structure Sighting (σ : Type) (α : Type) where
  scopes : Scopes
  world : σ
  reactor : Reactor σ
  outcome : Option (Except Failure α)

/-- The first of these polls that settles what a time-out with this deadline returns
does so by its outcome, or by the time that it sees. -/
def ruling (limit : Duration) (deadline : Nat) : List (Sighting σ α) → Option (Except Failure α)
  | [] => none
  | x :: l =>
    match x.outcome with
    | some o => some o
    | none =>
      if deadline ≤ x.reactor.now then some (.error (.timedOut limit)) else ruling limit deadline l

/-- The ruling of a time-out that begins with the first of these polls. -/
def timeoutRuling (limit : Duration) : List (Sighting σ α) → Option (Except Failure α)
  | [] => none
  | x :: l => ruling limit (x.reactor.now + limit.wholeMillis) (x :: l)

theorem ruling_append (limit : Duration) (deadline : Nat) (l l' : List (Sighting σ α)) :
    ruling limit deadline (l ++ l') =
      (ruling limit deadline l).or (ruling limit deadline l') := by
  induction l with
  | nil => rfl
  | cons x l ih =>
    rw [List.cons_append, ruling, ruling]
    cases x.outcome with
    | some o => rfl
    | none =>
      dsimp only
      split
      · rfl
      · exact ih

/-- The time-out began with the first of these polls, and none of them settled it. -/
def Unsettled (limit : Duration) (deadline : Nat) (log : List (Sighting σ α)) : Prop :=
  ∃ x l, log = x :: l ∧ deadline = x.reactor.now + limit.wholeMillis ∧
    ruling limit deadline log = none

theorem Unsettled.next {limit : Duration} {deadline : Nat} {log : List (Sighting σ α)}
    (unsettled : Unsettled limit deadline log) (l : List (Sighting σ α)) :
    timeoutRuling limit (log ++ l) = ruling limit deadline l := by
  obtain ⟨x, rest, rfl, rfl, none⟩ := unsettled
  rw [List.cons_append, timeoutRuling, ← List.cons_append, ruling_append, none]
  rfl

theorem Unsettled.append {limit : Duration} {deadline : Nat} {log l : List (Sighting σ α)}
    (unsettled : Unsettled limit deadline log) (none : ruling limit deadline l = none) :
    Unsettled limit deadline (log ++ l) := by
  obtain ⟨x, rest, rfl, begun, before⟩ := unsettled
  refine ⟨x, rest ++ l, rfl, begun, ?_⟩
  rw [ruling_append, before, none]
  rfl

section Polls

variable [Observer σ]

/-- A poll of the future under these circumstances. -/
def Future.sighted (a : Future σ α) (L : Scopes) (w : σ) (r : Reactor σ) : Sighting σ α :=
  ⟨L, w, r, (a.poll L w (some r)).progress.outcome?⟩

/-- These polls of `a`, one after another, left the other future pending. -/
inductive Leaves (a : Future σ α) : List (Sighting σ α) → Future σ α → Prop
  | nil : Leaves a [] a
  | snoc {l : List (Sighting σ α)} {b b' : Future σ α} {L : Scopes} {w : σ} {r : Reactor σ} :
      Leaves a l b → (b.poll L w (some r)).progress = .pending b' →
      Leaves a (l ++ [b.sighted L w r]) b'

/-- These are polls of `a`, from the first one on, and no poll but the last one ended. -/
inductive Watched (a : Future σ α) : List (Sighting σ α) → Prop
  | snoc {l : List (Sighting σ α)} {b : Future σ α} {L : Scopes} {w : σ} {r : Reactor σ} :
      Leaves a l b → Watched a (l ++ [b.sighted L w r])

/-- How far the time-out of `a` has come with these polls of it. -/
inductive Phase (a : Future σ α) (limit : Duration) (log : List (Sighting σ α)) :
    Handle σ α → Prop
  | waiting : log = [] → Phase a limit log (.live (.within limit a))
  | running {T : ScopeId} {A : Scopes} {deadline : Nat} {b : Future σ α} : Leaves a log b →
      Unsettled limit deadline log → Phase a limit log (.live (.timing T A limit deadline b))
  | draining {tasks : List TaskId} {outcome : Option (Except Failure α)} : Watched a log →
      timeoutRuling limit log = some (outcome.getD (.error (.timedOut limit))) →
      Phase a limit log (.live (.draining tasks limit outcome))
  | returned : Phase a limit log .completed

/-- A poll of the time-out comes to its phase, or ends with the ruling. -/
def Comes (a : Future σ α) (limit : Duration) (log : List (Sighting σ α)) :
    Future.Progress σ α → Prop
  | .ended o => Watched a log ∧ timeoutRuling limit log = some o
  | .pending b => Phase a limit log (.live b)

variable {a : Future σ α} {limit : Duration} {log : List (Sighting σ α)}

theorem Comes.after {p : Future.Progress σ α} (comes : Comes a limit log p) :
    Phase a limit log (.after p) := by
  cases p with
  | ended _ => exact .returned
  | pending _ => exact comes

end Polls

namespace Future

section Comes

variable [Observer σ] {a : Future σ α} {limit : Duration} {log : List (Sighting σ α)}

theorem awaitTasks_comes {outcome : Option (Except Failure α)} (watched : Watched a log)
    (settled : timeoutRuling limit log = some (outcome.getD (.error (.timedOut limit))))
    (tasks : List TaskId) (w : σ) (r : Reactor σ) :
    Comes a limit log (awaitTasks tasks limit outcome w r).progress := by
  unfold awaitTasks
  split
  · cases outcome with
    | some o => exact ⟨watched, settled⟩
    | none => exact ⟨watched, settled⟩
  · exact .draining watched settled

theorem drainScope_comes {outcome : Option (Except Failure α)} (watched : Watched a log)
    (settled : timeoutRuling limit log = some (outcome.getD (.error (.timedOut limit))))
    (T : ScopeId) (w : σ) (r : Reactor σ) :
    Comes a limit log (drainScope T limit outcome w r).progress := by
  unfold drainScope
  split
  · cases outcome with
    | some o => exact ⟨watched, settled⟩
    | none => exact ⟨watched, settled⟩
  · exact awaitTasks_comes watched settled _ _ _

/-- A time-out rules by the last poll of its action. -/
theorem afterTimed_comes {deadline : Nat} {b : Future σ α} {L : Scopes} {w : σ} {r : Reactor σ}
    (leaves : Leaves a log b)
    (active : ∃ r', (b.poll L w (some r)).reactor = some r' ∧ r'.now = r.now) (T : ScopeId)
    (A : Scopes)
    (last : timeoutRuling limit (log ++ [b.sighted L w r]) =
      ruling limit deadline [b.sighted L w r])
    (unsettled : ruling limit deadline [b.sighted L w r] = none →
      Unsettled limit deadline (log ++ [b.sighted L w r])) :
    Comes a limit (log ++ [b.sighted L w r])
      (afterTimed T A limit deadline (b.poll L w (some r))).progress := by
  have watched : Watched a (log ++ [b.sighted L w r]) := .snoc leaves
  have left : ∀ b', (b.poll L w (some r)).progress = .pending b' →
      Leaves a (log ++ [b.sighted L w r]) b' := fun b' pending => .snoc leaves pending
  have outcome : (b.sighted L w r).outcome = (b.poll L w (some r)).progress.outcome? := rfl
  have time : (b.sighted L w r).reactor.now = r.now := rfl
  generalize b.sighted L w r = x at watched left last unsettled outcome time ⊢
  generalize b.poll L w (some r) = P at active left outcome ⊢
  obtain ⟨progress, w', _⟩ := P
  obtain ⟨r', rfl, same⟩ := active
  rw [ruling, outcome] at last unsettled
  cases progress with
  | ended o => exact drainScope_comes watched last _ _ _
  | pending b' =>
    rw [afterTimed, same, ← time]
    split
    · next passed =>
      have late : timeoutRuling limit (log ++ [x]) = some (.error (.timedOut limit)) :=
        last.trans (if_pos passed)
      exact drainScope_comes watched late _ _ _
    · next early => exact .running (left b' rfl) (unsettled (if_neg early))

end Comes

end Future

namespace Session

open Future

variable [Observer σ]

/-- The poll of the action that a poll of the time-out in hand would make. -/
def sighting (s : Session σ α) : List (Sighting σ α) :=
  match s with
  | ⟨.live (within _ a), ex⟩ =>
    [a.sighted [ex.reactor.nextScope] ex.world ex.reactor.freshScope.2]
  | ⟨.live (timing T A _ _ a), ex⟩ => [a.sighted (T :: A) ex.world ex.reactor]
  | _ => []

/-- Any number of moves, with the polls of the action of a time-out that they made. -/
inductive Logged (others : σ → σ → Prop) (s : Session σ α) :
    List (Sighting σ α) → Session σ α → Prop
  | start : Logged others s [] s
  | poll {log : List (Sighting σ α)} {t : Session σ α} : Logged others s log t →
      Logged others s (log ++ t.sighting) t.polled
  | meanwhile {log : List (Sighting σ α)} {t u : Session σ α} : Logged others s log t →
      Meanwhile others t u → Logged others s log u

theorem Logged.moves {others : σ → σ → Prop} {s t : Session σ α} {log : List (Sighting σ α)}
    (run : Logged others s log t) : Moves others s t := by
  induction run with
  | start => exact .refl
  | poll _ ih => exact ih.tail (.poll _)
  | meanwhile _ step ih => exact ih.tail (.meanwhile step)

end Session

/-! ## From phase to phase -/

section Phase

open Session Future

variable [Observer σ] {n : Nesting} {m : TaskId} {l : List (TaskId × Future σ Unit)}
  {limit : Duration} {log : List (Sighting σ α)} {a b : Future σ α} {ex : Executor σ α}

/-- A poll of the handle comes to the next phase. -/
theorem Phase.comes (phase : Phase a limit log (.live b))
    (attended : Attended n m l ⟨.live b, ex⟩) :
    Comes a limit (log ++ sighting ⟨.live b, ex⟩)
      (b.poll [] ex.world (some ex.reactor)).progress := by
  have site := attended.site
  have stands := attended.stands
  cases phase with
  | waiting empty =>
    have fresh : a.Fresh := attended.handle
    have active := (tends site.entered a (fresh.stands _ _ _) ex.world).now
    rw [poll, empty]
    exact afterTimed_comes .nil active _ _ rfl fun none => ⟨_, [], rfl, rfl, none⟩
  | @running T A deadline b leaves unsettled =>
    have active := (tends (site.within stands) b stands.action ex.world).now
    rw [poll]
    exact afterTimed_comes leaves active T A (unsettled.next _) unsettled.append
  | draining watched settled =>
    rw [poll]
    show Comes a limit (log ++ []) _
    rw [List.append_nil]
    exact awaitTasks_comes watched settled _ _ _

/-- When its ruling is there and no release is left to run, the next poll ends with it. -/
theorem Phase.ends {o : Except Failure α} (phase : Phase a limit log (.live b))
    (attended : Attended n m l ⟨.live b, ex⟩) (settled : timeoutRuling limit log = some o)
    (none : tasks l ⟨.live b, ex⟩ = []) :
    (b.poll [] ex.world (some ex.reactor)).progress = .ended o := by
  cases phase with
  | waiting empty =>
    rw [empty] at settled
    cases settled
  | running _ unsettled =>
    have pending := unsettled.next []
    rw [List.append_nil, settled] at pending
    cases pending
  | @draining waited outcome _ ruled =>
    obtain rfl := Option.some.inj (ruled.symm.trans settled)
    have finished : waited.all ex.reactor.hasFinished = true := by
      rw [List.all_eq_true]
      intro id mem
      have given : id < ex.reactor.nextTask := (attended.handle id mem).1
      exact List.contains_iff_mem.mpr (attended.all_finished none id given)
    rw [poll, awaitTasks, if_pos finished]
    cases outcome <;> rfl

/-- Every run of a time-out is in the phase that its polls show. -/
theorem phase_of_logged {others : σ → σ → Prop} (fresh : a.Fresh) {w : σ} {s : Session σ α}
    (run : Logged others (start (within limit a) w) log s) : Phase a limit log s.handle := by
  induction run with
  | start => exact .waiting rfl
  | @poll _ t before phase =>
    obtain ⟨n, m, l, attended⟩ := attended_of_moves (a := within limit a) fresh before.moves
    obtain ⟨h, ex⟩ := t
    cases h with
    | completed => exact .returned
    | live b =>
      rw [polled, Executor.pollHandle_live]
      exact (phase.comes attended).after
  | meanwhile _ step phase => cases step <;> exact phase

end Phase

namespace Session

open Future

variable [Observer σ] {others : σ → σ → Prop} {limit : Duration} {log : List (Sighting σ α)}

/-- A time-out returns the ruling on the polls of its action, from the first one on, and it
returns no earlier than all that it caused is over: nothing is left to run, and in a book
every bracket that acquired its resource has released it to the end.  It returns as soon as
the ruling is there and no release is left to run. -/
theorem timeout_returns_last {a : Future σ α} (fresh : a.Fresh) {w : σ} {s : Session σ α}
    (run : Logged others (start (within limit a) w) log s) :
    (∀ o, (s.executor.pollHandle s.handle).1 = .outcome o →
      Watched a (log ++ s.sighting) ∧ timeoutRuling limit (log ++ s.sighting) = some o ∧
        s.polled.Quiet ∧ ∃ t : Session (Booked σ) α,
          Moves Booked.Aside (start (within limit a).ticketed (.blank w)) t ∧
            s.polled.MirroredBy t ∧ t.executor.world.Settled) ∧
      ∀ o, s.handle ≠ .completed → timeoutRuling limit log = some o → s.executor.jobs = [] →
        s.executor.reactor.spawned = [] → (s.executor.pollHandle s.handle).1 = .outcome o := by
  have freshWithin : (within limit a).Fresh := fresh
  have phase := phase_of_logged fresh run
  obtain ⟨n, m, l, attended⟩ := attended_of_moves freshWithin run.moves
  have moved : Moves others (start (within limit a) w) s.polled := run.moves.tail (.poll s)
  obtain ⟨h, ex⟩ := s
  cases h with
  | completed => exact ⟨fun _ => nofun, fun _ present => absurd rfl present⟩
  | live b =>
    refine ⟨fun o returned => ?_, fun o _ settled jobs spawned => ?_⟩
    · have ended := Executor.pollHandle_outcome.mp returned
      have comes := phase.comes attended
      rw [ended] at comes
      have gone : (polled ⟨.live b, ex⟩).handle = .completed := by
        rw [polled, Executor.pollHandle_live, ended]
        rfl
      have quiet := quiet_of_moves freshWithin moved gone
      obtain ⟨t, moves, mirrored⟩ := mirrored_of_moves freshWithin moved
      refine ⟨comes.1, comes.2, quiet, t, moves, mirrored, ?_⟩
      exact settled_of_quiet freshWithin (steps_of_moves moves) (mirrored.quiet quiet)
    · have none : tasks l ⟨.live b, ex⟩ = [] := by
        rw [attended.orderly.jobs] at jobs
        exact List.append_eq_nil_iff.mpr ⟨List.map_eq_nil_iff.mp jobs, spawned⟩
      exact Executor.pollHandle_outcome.mpr (phase.ends attended settled none)

/-- A bracket whose use does not end, and whose release waits for a turn. -/
def endlessUse : Future Unit (Unit × Verdict) :=
  Future.bracket (ready (.ok ())) (fun _ w => .returned never w)
    fun _ _ w => .returned (conclude pause fun _ => .pure (.ok .clean)) w

/-- It is cancelled after five milliseconds, when it is polled for the second time. -/
def endlessCancelled : Session Unit (Unit × Verdict) :=
  let begun := (start (within (.ofMillis 5) endlessUse) ()).polled
  polled ⟨begun.handle, { begun.executor with
    reactor := { begun.executor.reactor with now := 5 } }⟩

/-- The task of its release has two turns. -/
def endlessReleased : Session Unit (Unit × Verdict) :=
  ⟨endlessCancelled.handle,
    (((endlessCancelled.executor.turn 0).collect).turn 0).collect⟩

theorem endlessReleased_returns : endlessUse.Fresh ∧
    (∃ log, Logged Eq (start (within (.ofMillis 5) endlessUse) ()) log endlessReleased) ∧
      (endlessReleased.executor.pollHandle endlessReleased.handle).1 =
        .outcome (.error (.timedOut (.ofMillis 5))) ∧ endlessReleased.polled.Quiet := by
  have fresh : endlessUse.Fresh := ⟨trivial, fun _ _ => trivial, fun _ _ _ => trivial⟩
  have run : Logged Eq (start (within (.ofMillis 5) endlessUse) ()) _ endlessReleased :=
    .meanwhile (.meanwhile (.poll (.meanwhile (.poll .start)
      (.elsewhere _ _ rfl (Nat.zero_le 5)))) (.turn _ _ 0)) (.turn _ _ 0)
  obtain ⟨returns, ends⟩ := timeout_returns_last fresh run
  have returned := ends (.error (.timedOut (.ofMillis 5))) nofun (by decide) rfl rfl
  exact ⟨fresh, ⟨_, run⟩, returned, (returns _ returned).2.2.1⟩

end Session

end Resumption
