/-
Cancellation — every acquired resource is released exactly once.

A program that holds a future may poll it and drop it between any two polls, on
an executor or outside, while the executor's tasks take their turns.  At any
moment the book shows that no ticket was called for release before it was taken
or more than once, and when nothing is left to run every ticket that was taken
was released to the end.

A release that was under way when its bracket was dropped goes on where it was:
the polls of the bracket and of the task after it are polls of one release.
-/
import Resumption.Proofs.Carrier.Observation
import Resumption.Proofs.Custody.Replay
import Resumption.Proofs.Custody.Session

namespace Resumption

namespace Booked

variable {σ : Type}

/-- What the book says of every bracket, however far its release has come. -/
structure Sound (b : Booked σ) : Prop where
  taken : ∀ i, b.opened i ≤ 1
  called : ∀ i, b.called i ≤ b.opened i
  finished : ∀ i, b.finished i ≤ b.called i
  events : b.released + b.cancelled ≤ b.acquired

/-- What the book says when nothing is owed any more. -/
structure Settled (b : Booked σ) : Prop where
  called : ∀ i, b.called i = b.opened i
  finished : ∀ i, b.finished i = b.opened i
  events : b.released + b.cancelled = b.acquired

theorem Sound.of_balanced (w : σ) {b : Booked σ}
    (balanced : ∀ i, ∃ t, Balanced i (blank w) .none b t) : b.Sound where
  taken i := by
    obtain ⟨t, balanced⟩ := balanced i
    exact (balanced.numbers rfl).opened_le i
  called i := by
    obtain ⟨t, balanced⟩ := balanced i
    have uses : b.opened i + 0 + 0 = 0 + b.called i + t.inUse := balanced.uses
    omega
  finished i := by
    obtain ⟨t, balanced⟩ := balanced i
    have releases : b.called i + 0 + 0 = 0 + b.finished i + t.releasing := balanced.releases
    omega
  events := by
    obtain ⟨t, balanced⟩ := balanced 0
    have holds : b.acquired + 0 + 0 = 0 + (b.released + b.cancelled) + t.held := balanced.holds
    omega

theorem Settled.of_balanced (w : σ) {b : Booked σ}
    (balanced : ∀ i, Balanced i (blank w) .none b .none) : b.Settled where
  called i := by
    have uses : b.opened i + 0 + 0 = 0 + b.called i + 0 := (balanced i).uses
    omega
  finished i := by
    have uses : b.opened i + 0 + 0 = 0 + b.called i + 0 := (balanced i).uses
    have releases : b.called i + 0 + 0 = 0 + b.finished i + 0 := (balanced i).releases
    omega
  events := by
    have holds : b.acquired + 0 + 0 = 0 + (b.released + b.cancelled) + 0 := (balanced 0).holds
    omega

end Booked

namespace Session

open Future

variable {σ : Type} [Observer σ] {α : Type} {i : Nat}

theorem Owes.meanwhile {s s' : Session (Booked σ) α} {t : Stock} (owes : Owes i s t)
    (meanwhile : Meanwhile Booked.Aside s s') : Accounts i s t s' := by
  cases meanwhile with
  | turn h ex id => exact owes.turn id
  | collect h ex => exact ⟨t, owes.collect, .refl⟩
  | elsewhere h ex aside _ =>
    obtain ⟨m, l, u, v, w, orderly, handle, tasks, spawned, rfl⟩ := owes
    cases spawned with
    | inside all numbered =>
      refine ⟨_, ⟨m, l, u, v, w, ?_, handle, tasks, .inside all numbered, rfl⟩, .of_book_eq aside⟩
      exact ⟨orderly.jobs, orderly.names, orderly.below, numbered, orderly.kept⟩

/-- Every step keeps custody. -/
theorem Owes.step {s s' : Session (Booked σ) α} {t : Stock} (owes : Owes i s t)
    (step : Step Booked.Aside s s') : Accounts i s t s' := by
  cases step with
  | pollOutside h ex => exact owes.pollOutside
  | drop h ex => exact owes.drop
  | dropOutside h ex done => exact owes.dropOutside done
  | move move =>
    cases move with
    | poll => exact owes.poll
    | meanwhile meanwhile => exact owes.meanwhile meanwhile

/-- So does every run, from the first poll on. -/
theorem owes_of_steps {a : Future σ α} (fresh : a.Fresh) {w : σ} {s : Session (Booked σ) α}
    (run : Steps Booked.Aside (start a.ticketed (.blank w)) s) (i : Nat) :
    ∃ t, Owes i s t ∧ Balanced i (.blank w) .none s.executor.world t := by
  induction run with
  | refl => exact ⟨.none, owes_start _ (a.ticketed_owns i fresh), .of_book_eq rfl⟩
  | tail _ step ih =>
    obtain ⟨t, owes, balanced⟩ := ih
    obtain ⟨t', owes', step⟩ := owes.step step
    exact ⟨t', owes', balanced.trans step⟩

/-- A session in which nothing is left to run owes nothing. -/
theorem Owes.of_quiet {s : Session (Booked σ) α} {t : Stock} (owes : Owes i s t)
    (quiet : s.Quiet) : t = .none := by
  obtain ⟨m, l, u, v, w, orderly, handle, tasks, spawned, rfl⟩ := owes
  obtain ⟨completed, jobs, empty⟩ := quiet
  rw [completed] at handle
  have none : l = [] := by
    rw [orderly.jobs] at jobs
    exact List.map_eq_nil_iff.mp jobs
  subst none
  cases spawned with
  | inside all _ =>
    rw [empty] at all
    cases handle
    cases tasks
    cases all
    rfl

/-- Whatever happened, the book shows no release that was called too early or twice. -/
theorem sound_of_steps {a : Future σ α} (fresh : a.Fresh) {w : σ} {s : Session (Booked σ) α}
    (run : Steps Booked.Aside (start a.ticketed (.blank w)) s) : s.executor.world.Sound := by
  refine .of_balanced w fun i => ?_
  obtain ⟨t, -, balanced⟩ := owes_of_steps fresh run i
  exact ⟨t, balanced⟩

/-- When nothing is left to run, it shows a finished release for every ticket. -/
theorem settled_of_quiet {a : Future σ α} (fresh : a.Fresh) {w : σ} {s : Session (Booked σ) α}
    (run : Steps Booked.Aside (start a.ticketed (.blank w)) s) (quiet : s.Quiet) :
    s.executor.world.Settled := by
  refine .of_balanced w fun i => ?_
  obtain ⟨t, owes, balanced⟩ := owes_of_steps fresh run i
  rw [owes.of_quiet quiet] at balanced
  exact balanced

/-- Every run of a future can be had with a book.  At any moment the book shows no bracket
whose release was called before its resource was acquired, or more than once; when nothing
is left to run, the release of every bracket that acquired its resource was called once and
came to its end, and each acquisition is matched by one release or cancellation.  A release
that its bracket began goes on in a task. -/
theorem cancellation_releases_once {a : Future σ α} (fresh : a.Fresh) {others : σ → σ → Prop}
    {w : σ} {s : Session σ α} (run : Steps others (start a w) s) :
    (∃ t : Session (Booked σ) α, Steps Booked.Aside (start a.ticketed (.blank w)) t ∧
      s.MirroredBy t) ∧
    (∀ t : Session (Booked σ) α, Steps Booked.Aside (start a.ticketed (.blank w)) t →
      s.MirroredBy t → t.executor.world.Sound ∧ (s.Quiet → t.executor.world.Settled)) ∧
      ∀ {β : Type} {opened : Scopes} {used : Except Failure β} {p : Future σ Verdict}
        {b : Future σ (β × Verdict)} {l : List (Attempt σ)}, Polls (releasing opened used p) l b →
          ∃ o : Orphan σ, b.orphans = [o] ∧ Polls p l o.release ∧
            ∀ l' c, Polls o.task l' c →
              ∃ o' : Orphan σ, c = o'.task ∧ Polls p (l ++ l') o'.release := by
  refine ⟨mirrored_of_steps fresh run, fun t steps mirrored => ?_, release_continues⟩
  refine ⟨sound_of_steps fresh steps, fun quiet => ?_⟩
  exact settled_of_quiet fresh steps (mirrored.quiet quiet)

/-- The future is polled once and dropped, and the first task that this leaves has a turn. -/
def cutShort (a : Future σ α) (w : σ) : Session σ α :=
  let s := polled (start a w)
  ⟨.completed, ((s.executor.dropHandle s.handle).turn 0).collect⟩

theorem steps_cutShort (others : σ → σ → Prop) (a : Future σ α) (w : σ) :
    Steps others (start a w) (cutShort a w) :=
  .tail (.tail (.single (.move (.poll _))) (.drop _ _)) (.move (.meanwhile (.turn _ _ 0)))

theorem cutShort_mirrored {a : Future σ α} (fresh : a.Fresh) (w : σ) :
    (cutShort a w).MirroredBy (cutShort a.ticketed (.blank w)) := by
  obtain ⟨_, _, _, started⟩ := mirrored_start fresh w
  obtain ⟨_, _, _, begun⟩ := started.poll
  obtain ⟨_, _, _, dropped⟩ := begun.drop
  exact dropped.turn 0

/-- A bracket whose release waits for a turn. -/
def slowRelease : Future Unit (Unit × Verdict) :=
  Future.bracket (ready (.ok ())) (fun _ w => .returned (ready (.ok ())) w)
    fun _ _ w => .returned (conclude pause fun _ => .pure (.ok .clean)) w

theorem slowDropped_settled : slowRelease.Fresh ∧
    Steps Eq (start slowRelease ()) (cutShort slowRelease ()) ∧ (cutShort slowRelease ()).Quiet ∧
      ∃ t : Session (Booked Unit) (Unit × Verdict),
        Steps Booked.Aside (start slowRelease.ticketed (.blank ())) t ∧
          (cutShort slowRelease ()).MirroredBy t ∧ t.executor.world.opened 0 = 1 ∧
          t.executor.world.Settled := by
  have fresh : slowRelease.Fresh := ⟨trivial, fun _ _ => trivial, fun _ _ _ => trivial⟩
  have run := steps_cutShort Eq slowRelease ()
  have quiet : (cutShort slowRelease ()).Quiet := ⟨rfl, rfl, rfl⟩
  have steps := steps_cutShort Booked.Aside slowRelease.ticketed (.blank ())
  have mirrored := cutShort_mirrored fresh ()
  have settled := ((cancellation_releases_once fresh run).2.1 _ steps mirrored).2 quiet
  exact ⟨fresh, run, quiet, _, steps, mirrored, rfl, settled⟩

end Session

end Resumption
