/-
Shortest — of nested time-outs the shortest one counts.

A chain of time-outs is compared with a race: the future is awaited for as long as the
shortest limit and then dropped.  Stripped of the scopes of the chain, the executor that
runs the chain is the one that runs the race, round by round, as long as neither has ended:

| both                    | because                                                   |
|-------------------------|-----------------------------------------------------------|
| poll their future       | the chain's deadlines wake it just when the race's does    |
| move the clock alike    | to no later time than the end of the shortest limit        |
| end with its outcome    | the releases that the chain would wait for have finished   |
| end at the limit        | the chain's time-outs pass on the failure of the shortest  |

The race says nothing of how many time-outs there are, so all chains with one shortest
limit come to the same, and a single time-out is one of them.  That no release is left when
the future is dropped is what the chain relies on in the last row: while an inner time-out
waits for releases, an outer one may elapse.
-/
import Resumption.Proofs.Future.Nested
import Resumption.Proofs.Stripping.Executor
import Resumption.Proofs.Timeout.Chain

namespace Resumption

variable {σ : Type} {α : Type}

open Future Session

/-! ## The chain and the race -/

/-- Time-outs around one another, the outermost first, begun at one time with scopes from
`first` on. -/
structure TimeoutChain where
  begun : Nat
  first : ScopeId
  limits : List Nat
  shortest : Nat
  mem : shortest ∈ limits
  least : ∀ d ∈ limits, shortest ≤ d

namespace TimeoutChain

variable (c : TimeoutChain)

/-- When the shortest limit is up. -/
def deadline : Nat :=
  c.begun + c.shortest

/-- The time-outs around a future. -/
def around (b : Future σ α) : Future σ α :=
  timings c.begun c.first [] c.limits b

/-- A future is awaited until the shortest limit is up. -/
def race (b : Future σ α) : Awaited σ α :=
  .race (.live b) c.deadline

/-- A future inside, without the scopes of the time-outs. -/
abbrev bare (b : Future σ α) : Future σ α :=
  b.stripped c.first c.limits.length

/-- The executor without the scopes of the time-outs. -/
abbrev alone (ex : Executor σ α) : Executor σ α :=
  ex.stripped c.first c.limits.length

theorem holds (b : Future σ α) : Holds c.first c.limits.length (.live (c.around b)) where
  some := List.length_pos_of_mem c.mem
  timers T here before := by
    show T ∈ (c.around b).timers
    rw [around, timers_timings]
    exact List.mem_append_left _ (List.mem_range'_1.mpr ⟨here, before⟩)

/-- The scopes of the time-outs are the ones that are taken away. -/
theorem stripped_innermost :
    Scopes.stripped c.first c.limits.length (innermost c.first [] c.limits) = [] := by
  refine Scopes.stripped_eq_nil fun T mem => ?_
  rcases mem_innermost mem with none | inside
  · cases none
  · exact inside

/-- What is inside runs none of the time-outs. -/
theorem beyond {μ : Nesting} {m : TaskId} {l : List (TaskId × Future σ Unit)} {b : Future σ α}
    {ex : Executor σ α} (attended : Attended μ m l ⟨.live (c.around b), ex⟩) :
    b.Beyond c.first c.limits.length where
  placed := by
    obtain ⟨E, placed⟩ := placed_timings attended.handle
    exact ⟨μ, ex.reactor, E, placed⟩
  timers T timed := by
    have nodup := attended.stands.nodup
    rw [around, timers_timings] at nodup
    refine apart_of_not_inside fun here before => ?_
    have outer : T ∈ List.range' c.first c.limits.length := List.mem_range'_1.mpr ⟨here, before⟩
    exact (List.nodup_append.mp nodup).2.2 T outer T timed rfl

/-- The chain and the race wake the main activity alike. -/
theorem isWoken (b : Future σ α) (ex : Executor σ α) :
    (c.alone ex).isWoken (c.race (c.bare b)) = ex.isWoken (.handle (.live (c.around b))) := by
  simp only [Executor.isWoken, race, around, Handle.yielding, Handle.woken, yielding_timings,
    woken_timings, yielding_stripped, woken_stripped]
  rw [any_up c.mem c.least, ← Bool.or_assoc, Bool.or_comm b.yielding]
  rfl

theorem mainDeadline (b : Future σ α) :
    Executor.mainDeadline (c.race (c.bare b)) =
      Executor.mainDeadline (.handle (.live (c.around b))) := by
  simp only [Executor.mainDeadline, race, around, Handle.nextDeadline,
    nextDeadline_timings c.mem c.least, nextDeadline_stripped]
  rfl

/-- The race waits for no later time than the end of the shortest limit. -/
theorem race_waits (a : Future σ α) :
    ∃ t ≤ c.deadline, Executor.mainDeadline (c.race a) = some t := by
  rw [race, Executor.mainDeadline, Handle.nextDeadline]
  cases a.nextDeadline with
  | none => exact ⟨c.deadline, Nat.le_refl _, rfl⟩
  | some t => exact ⟨min c.deadline t, Nat.min_le_left _ _, rfl⟩

end TimeoutChain

/-- A chain of time-outs that have not begun. -/
theorem timeouts_fresh {a : Future σ α} (fresh : a.Fresh) (ds : List Nat) :
    (ds.foldr timeout a).Fresh := by
  induction ds with
  | nil => exact fresh
  | cons d ds ih => exact ih

/-! ## Replies -/

/-- The reply of a time-out where a race has this one: what was not awaited to its end has
timed out. -/
def Reply.timed (m : Nat) : Reply α → Reply α
  | lost => outcome (.error (.timedOut (.ofMillis m)))
  | reply => reply

variable [Observer σ]

/-- A main activity with time-outs, begun at the time `t`, beside a race for `m` milliseconds:
it replies as the race does, at the same time and in the same world but for reports, and when it
has replied nothing is left to run. -/
structure TimedAs (t m : Nat) (timed raced : Option (Reply α) × Awaited σ α × Executor σ α) :
    Prop where
  reply : timed.1 = raced.1.map (Reply.timed m)
  now : timed.2.2.reactor.now = raced.2.2.reactor.now
  late : raced.1 = some .lost → timed.2.2.reactor.now = t + m
  world : Reported raced.2.2.world timed.2.2.world
  quiet : timed.1.isSome → timed.2.1 = .handle .completed ∧ timed.2.2.jobs = [] ∧
    timed.2.2.reactor.spawned = []

/-- Neither of them has replied yet. -/
theorem TimedAs.noReply {t m : Nat} {i i' : Awaited σ α} {e e' : Executor σ α}
    (now : e.reactor.now = e'.reactor.now) (world : Reported e'.world e.world) :
    TimedAs t m (none, i, e) (none, i', e') where
  reply := rfl
  now := now
  late := nofun
  world := world
  quiet := nofun

/-- If the race was lost, no release was left to run: no bracket held its resource any more. -/
def LeavesNothing (raced : Option (Reply α) × Awaited σ α × Executor σ α) : Prop :=
  raced.1 = some .lost → raced.2.2.jobs = []

namespace Executor

/-! ## Polls of the main activity -/

section Main

variable {ex : Executor σ α} {b b' : Future σ α} {v : σ} {r : Reactor σ}

/-- The executor after a poll that left this world and this reactor. -/
def polled (v : σ) (r : Reactor σ) (ex : Executor σ α) : Executor σ α :=
  collect { ex with world := v, reactor := r }

omit [Observer σ] in
theorem polled_stripped (k n : Nat) (v : σ) (r : Reactor σ) (ex : Executor σ α) :
    (ex.stripped k n).polled v (r.stripped k n) = (ex.polled v r).stripped k n :=
  collect_stripped k n { ex with world := v, reactor := r }

theorem pollHandle_ended {o : Except Failure α}
    (ended : b.poll [] ex.world (some ex.reactor) = ⟨.ended o, v, some r⟩) :
    ex.pollHandle (.live b) = (.outcome o, .completed, ex.polled v r) := by
  simp only [pollHandle, Handle.poll, ended]
  rfl

theorem pollHandle_pending
    (pending : b.poll [] ex.world (some ex.reactor) = ⟨.pending b', v, some r⟩) :
    ex.pollHandle (.live b) = (.pending, .live b', ex.polled v r) := by
  simp only [pollHandle, Handle.poll, pending]
  rfl

/-- A drop after which no task is left dropped nothing that was held. -/
theorem nothing_dropped {h : Handle σ α} (jobs : (ex.dropHandle h).jobs = []) :
    ex.jobs = [] ∧ h.orphans = [] ∧ ex.dropHandle h = ex.collect := by
  obtain ⟨new, spawns, tasks⟩ := ex.reactor.adopt_spawns h.orphans ex.world
  have all : ex.jobs ++ releases (ex.reactor.adopt h.orphans ex.world).2.spawned = [] := jobs
  obtain ⟨jobs, left⟩ := List.append_eq_nil_iff.mp all
  have none := List.map_eq_nil_iff.mp left
  rw [spawns.spawned] at none
  rw [(List.append_eq_nil_iff.mp none).2] at tasks
  have orphans : h.orphans = [] := List.map_eq_nil_iff.mp tasks.symm
  refine ⟨jobs, orphans, ?_⟩
  rw [dropHandle, orphans]
  rfl

end Main

/-- The clock moves to no later time than the one that the main activity waits for. -/
theorem advance_le {a : Awaited σ α} {ex ex' : Executor σ α} {m t : Nat}
    (waits : mainDeadline a = some t) (before : t ≤ m) (early : ex.reactor.now ≤ m)
    (advanced : ex.advance a = some ex') : ex'.reactor.now ≤ m := by
  have earliest : ∀ (l : List (TaskId × Job σ α)) (t : Nat), t ≤ m →
      ∃ u ≤ m, l.foldl (fun t x => Future.earlier t x.2.nextDeadline) (some t) = some u := by
    intro l
    induction l with
    | nil => exact fun t before => ⟨t, before, rfl⟩
    | cons x l ih =>
      intro t before
      obtain ⟨id, j⟩ := x
      rw [List.foldl_cons]
      dsimp only
      cases j.nextDeadline with
      | none => exact ih t before
      | some u => exact ih (min t u) (Nat.le_trans (Nat.min_le_left t u) before)
  obtain ⟨u, le, first⟩ := earliest ex.jobs t before
  rw [advance, waits, first] at advanced
  cases advanced
  exact Nat.max_le.mpr ⟨early, le⟩

end Executor

/-! ## One poll -/

variable {c : TimeoutChain} {a b : Future σ α} {ex : Executor σ α}

/-- The chain and the race before a poll: `b` is what is awaited with time-outs, and `a` what
is raced. -/
structure Abreast (c : TimeoutChain) (b a : Future σ α) (ex : Executor σ α) : Prop where
  chain : AllAwaited ⟨.live b, ex⟩
  race : AllAwaited ⟨.live a, c.alone ex⟩
  early : ex.reactor.now ≤ c.deadline

/-- What a poll of both comes to: they reply alike, or go on abreast. -/
inductive SideBySide (c : TimeoutChain) : Option (Reply α) × Awaited σ α × Executor σ α →
    Option (Reply α) × Awaited σ α × Executor σ α → Prop
  | replied {reply reply' : Reply α} {i i' : Awaited σ α} {e e' : Executor σ α} :
      TimedAs c.begun c.shortest (some reply, i, e) (some reply', i', e') →
      SideBySide c (some reply, i, e) (some reply', i', e')
  | waiting {b : Future σ α} {e : Executor σ α} : Abreast c (c.around b) (c.bare b) e →
      SideBySide c (none, .handle (.live (c.around b)), e) (none, c.race (c.bare b), c.alone e)

namespace Abreast

section Cases

variable {v : σ} {r : Reactor σ} (past : r.Past c.first c.limits.length)

include past

omit [Observer σ] in
/-- When no task is left after the poll, all registered releases have finished. -/
theorem idle {h : Handle σ α} (race : AllAwaited ⟨h, c.alone (ex.polled v r)⟩)
    (jobs : (ex.polled v r).jobs = []) : r.Idle := by
  have none : (c.alone (ex.polled v r)).jobs = [] := congrArg (Executor.strippedJobs _ _) jobs
  exact fun x mem => race.idle none rfl (past.registered x mem)

variable (abreast : Abreast c b a ex)

include abreast

/-- Both end with the outcome of the future. -/
theorem ended {o : Except Failure α}
    (chained : b.poll [] ex.world (some ex.reactor) =
      afterTimings c.begun c.first [] c.limits ⟨.ended o, v, some r⟩)
    (raced : a.poll [] ex.world (some (c.alone ex).reactor) =
      ⟨.ended o, v, some (r.stripped c.first c.limits.length)⟩) :
    SideBySide c (ex.pollMain (.handle (.live b))) ((c.alone ex).pollMain (c.race a)) := by
  have ended : (c.alone ex).pollHandle (.live a) = _ := Executor.pollHandle_ended raced
  rw [Executor.polled_stripped] at ended
  have race := abreast.race.poll
  rw [Session.polled, ended] at race
  have jobs : (ex.polled v r).jobs = [] := List.map_eq_nil_iff.mp (race.quiet rfl).2.1
  have whole : (⟨.ended o, v, some r⟩ : Polled σ α).EndsAs o v r :=
    ⟨v, _, .nothing, List.Subset.refl _, rfl⟩
  obtain ⟨v', l', reported, -, ends⟩ :=
    whole.afterTimings (idle past race jobs) c.begun c.first [] c.limits
  have notLost : some (Reply.outcome o) ≠ some .lost := by simp
  rw [Executor.pollMain, Executor.pollHandle_ended (chained.trans ends), TimeoutChain.race,
    Executor.pollMain, ended]
  exact .replied ⟨rfl, rfl, fun lost => absurd lost notLost, reported, fun _ => ⟨rfl, jobs, rfl⟩⟩

variable {b' : Future σ α}
  (chained : b.poll [] ex.world (some ex.reactor) =
    afterTimings c.begun c.first [] c.limits ⟨.pending b', v, some r⟩)
  (raced : (c.alone ex).pollHandle (.live a) =
    (.pending, .live (c.bare b'), c.alone (ex.polled v r)))

include chained raced

/-- The race is lost, and the chain passes on the failure of the shortest limit. -/
theorem lost (atLimit : r.now = c.deadline)
    (closed : ((c.alone (ex.polled v r)).dropHandle (.live (c.bare b'))).jobs = []) :
    SideBySide c (ex.pollMain (.handle (.live b)))
      (some .lost, .race .completed c.deadline,
        (c.alone (ex.polled v r)).dropHandle (.live (c.bare b'))) := by
  have race := abreast.race.poll
  rw [Session.polled, raced] at race
  obtain ⟨jobs, orphans, same⟩ := Executor.nothing_dropped closed
  have jobs : (ex.polled v r).jobs = [] := List.map_eq_nil_iff.mp jobs
  have orphans : (c.bare b').orphans = [] := orphans
  rw [orphans_stripped, List.map_eq_nil_iff] at orphans
  obtain ⟨v', l', reported, -, ends⟩ := afterTimings_late (T := c.first) (A := [])
    (idle past race jobs) c.mem c.least atLimit orphans v
  rw [Executor.pollMain, Executor.pollHandle_ended (chained.trans ends), same]
  exact .replied ⟨rfl, rfl, fun _ => atLimit, reported, fun _ => ⟨rfl, jobs, rfl⟩⟩

omit past in
/-- Both are left waiting. -/
theorem waiting (before : r.now < c.deadline) :
    SideBySide c (ex.pollMain (.handle (.live b)))
      (none, c.race (c.bare b'), c.alone (ex.polled v r)) := by
  have chain := abreast.chain.poll
  have race := abreast.race.poll
  rw [Session.polled, raced] at race
  have waits : ∀ d ∈ c.limits, r.now < c.begun + d := fun d mem =>
    Nat.lt_of_lt_of_le before (Nat.add_le_add_left (c.least d mem) c.begun)
  have waiting := Executor.pollHandle_pending (chained.trans (afterTimings_early waits b' v))
  rw [Session.polled, waiting] at chain
  rw [Executor.pollMain, waiting]
  exact .waiting ⟨chain, race, Nat.le_of_lt before⟩

end Cases

theorem poll {P : Polled σ α} (abreast : Abreast c b a ex)
    (chained : b.poll [] ex.world (some ex.reactor) = afterTimings c.begun c.first [] c.limits P)
    (strips : P.Strips c.first c.limits.length
      (a.poll [] ex.world (some (c.alone ex).reactor)))
    (closed : LeavesNothing ((c.alone ex).pollMain (c.race a))) :
    SideBySide c (ex.pollMain (.handle (.live b))) ((c.alone ex).pollMain (c.race a)) := by
  obtain ⟨_, _, _, attended⟩ := abreast.race
  obtain ⟨r', active, now⟩ := (tends attended.site a attended.stands ex.world).now
  obtain ⟨progress, v, reactor⟩ := P
  obtain ⟨polled, past⟩ := strips
  rw [polled] at active
  obtain ⟨r, rfl, rfl⟩ := Option.map_eq_some_iff.mp active
  have opened := past r rfl
  cases progress with
  | ended o => exact abreast.ended opened chained polled
  | pending b' =>
    have pending : (c.alone ex).pollHandle (.live a) = _ := Executor.pollHandle_pending polled
    rw [Executor.polled_stripped] at pending
    have raced : (c.alone ex).pollMain (c.race a) =
        if c.deadline ≤ r.now then
          (some .lost, .race .completed c.deadline,
            (c.alone (ex.polled v r)).dropHandle (.live (c.bare b')))
        else (none, c.race (c.bare b'), c.alone (ex.polled v r)) := by
      rw [TimeoutChain.race, Executor.pollMain, pending]
      rfl
    rw [raced] at closed ⊢
    split
    · next up =>
      rw [if_pos up] at closed
      have early : r.now ≤ c.deadline := Nat.le_trans (Nat.le_of_eq now) abreast.early
      exact abreast.lost opened chained pending (Nat.le_antisymm early up) (closed rfl)
    · next before => exact abreast.waiting chained pending (Nat.lt_of_not_le before)

end Abreast

/-! ## Whole rounds -/

/-- From here on the chain replies as the race does, unless releases are left. -/
def RunsAs (c : TimeoutChain) (limit : Nat) (due : Bool) (b a : Future σ α) (ex : Executor σ α) :
    Prop :=
  LeavesNothing ((c.alone ex).rounds limit due (c.race a)) →
    TimedAs c.begun c.shortest (ex.rounds limit due (.handle (.live b)))
      ((c.alone ex).rounds limit due (c.race a))

/-- A round with a poll of both. -/
theorem runsAs_of_poll {limit : Nat}
    (polled : LeavesNothing ((c.alone ex).pollMain (c.race a)) →
      SideBySide c (ex.pollMain (.handle (.live b))) ((c.alone ex).pollMain (c.race a)))
    (unpolled : ∀ (b : Future σ α) e, Abreast c (c.around b) (c.bare b) e →
      RunsAs c (limit + 1) false (c.around b) (c.bare b) e) :
    RunsAs c (limit + 1) true b a ex := by
  unfold RunsAs
  rw [Executor.rounds_polled, Executor.rounds_polled]
  intro closed
  have held : LeavesNothing ((c.alone ex).pollMain (c.race a)) := by
    revert closed
    rcases (c.alone ex).pollMain (c.race a) with ⟨_ | reply, i, e⟩
    · exact fun _ => nofun
    · exact fun closed => closed
  have both := polled held
  generalize ex.pollMain (.handle (.live b)) = x at both ⊢
  generalize (c.alone ex).pollMain (c.race a) = y at both closed ⊢
  cases both with
  | replied alike => exact alike
  | waiting abreast => exact unpolled _ _ abreast closed

namespace Abreast

/-- The turns of a round keep both abreast. -/
theorem turned (abreast : Abreast c (c.around b) (c.bare b) ex) :
    ((c.alone ex).turns turnsPerRound).endRound = c.alone (ex.turns turnsPerRound).endRound ∧
      Abreast c (c.around b) (c.bare b) (ex.turns turnsPerRound).endRound := by
  have turned := abreast.chain.turns_stripped (c.holds b) turnsPerRound
  have race := abreast.race.round
  rw [turned, Executor.endRound_stripped] at race ⊢
  refine ⟨rfl, abreast.chain.round, race, ?_⟩
  exact Nat.le_trans (Nat.le_of_eq (abreast.chain.turns_now turnsPerRound)) abreast.early

/-- So does the clock. -/
theorem advanced {ex' : Executor σ α} (abreast : Abreast c (c.around b) (c.bare b) ex)
    (advanced : ex.advance (.handle (.live (c.around b))) = some ex') :
    Abreast c (c.around b) (c.bare b) ex' := by
  have race := ex.advance_stripped c.first c.limits.length (c.mainDeadline b)
  rw [advanced] at race
  obtain ⟨t, sooner, waits⟩ := c.race_waits (c.bare b)
  rw [c.mainDeadline] at waits
  exact ⟨abreast.chain.advance advanced, abreast.race.advance race,
    Executor.advance_le waits sooner abreast.early advanced⟩

theorem unpolled {limit : Nat} (abreast : Abreast c (c.around b) (c.bare b) ex)
    (ih : ∀ due e, Abreast c (c.around b) (c.bare b) e →
      RunsAs c limit due (c.around b) (c.bare b) e) :
    RunsAs c (limit + 1) false (c.around b) (c.bare b) ex := by
  obtain ⟨turned, abreast⟩ := abreast.turned
  unfold RunsAs
  rw [Executor.rounds_unpolled, Executor.rounds_unpolled, turned]
  generalize (ex.turns turnsPerRound).endRound = e at abreast
  have moved := e.advance_stripped c.first c.limits.length (c.mainDeadline b)
  dsimp only
  rw [c.isWoken, moved]
  split
  · exact ih true e abreast
  · show LeavesNothing (if !e.queue.isEmpty then _ else _) →
      TimedAs _ _ _ (if !e.queue.isEmpty then _ else _)
    split
    · exact ih false e abreast
    · cases advanced : e.advance (.handle (.live (c.around b))) with
      | none => exact fun _ => .noReply rfl .nothing
      | some e' =>
        rw [Option.map_some]
        dsimp only
        rw [c.isWoken]
        exact ih _ e' (abreast.advanced advanced)

/-- Rounds that start abreast: the chain replies as the race does. -/
theorem rounds (limit : Nat) (due : Bool) (abreast : Abreast c (c.around b) (c.bare b) ex) :
    RunsAs c limit due (c.around b) (c.bare b) ex := by
  -- By induction on the rounds that are left; being abreast is what each of them keeps.
  induction limit generalizing due b ex with
  | zero => exact fun _ => .noReply rfl .nothing
  | succ limit ih =>
    have unpolled : ∀ b e, Abreast c (c.around b) (c.bare b) e →
        RunsAs c (limit + 1) false (c.around b) (c.bare b) e :=
      fun b e abreast => abreast.unpolled fun due _ => ih due
    cases due with
    | false => exact unpolled b ex abreast
    | true =>
      refine runsAs_of_poll (fun closed => ?_) unpolled
      obtain ⟨_, _, _, attended⟩ := abreast.chain
      have past := attended.past (c.holds b)
      have strips := b.poll_stripped c.first c.limits.length (c.beyond attended)
        (innermost c.first [] c.limits) ex.world (some ex.reactor) fun _ mem =>
          Option.some.inj mem ▸ past
      rw [c.stripped_innermost] at strips
      exact abreast.poll (poll_timings _ _ [] c.limits b ex.world _) strips closed

end Abreast

/-! ## From the first poll on -/

/-- The chain begins with a poll on this executor, on which nothing else runs. -/
structure TimeoutChain.BeginsOn (c : TimeoutChain) (ex : Executor σ α) : Prop where
  vacant : ex.Vacant
  begun : c.begun = ex.reactor.now
  first : c.first = ex.reactor.nextScope

namespace TimeoutChain.BeginsOn

variable (begins : c.BeginsOn ex) (fresh : a.Fresh)

include begins

theorem alone : c.alone ex = ex := by
  rw [TimeoutChain.alone, begins.first]
  exact begins.vacant.stripped c.limits.length

include fresh

/-- The first poll begins all the time-outs. -/
theorem poll (closed : LeavesNothing (ex.pollMain (c.race a))) :
    SideBySide c (ex.pollMain (.handle (.live (c.limits.foldr timeout a))))
      (ex.pollMain (c.race a)) := by
  have start : Abreast c (c.limits.foldr timeout a) a ex := by
    refine ⟨begins.vacant.allAwaited (timeouts_fresh fresh c.limits), ?_, ?_⟩
    · rw [begins.alone]
      exact begins.vacant.allAwaited fresh
    · rw [TimeoutChain.deadline, begins.begun]
      exact Nat.le_add_right _ _
  have past : ∀ r ∈ some (ex.reactor.opened c.limits.length), r.Past c.first c.limits.length := by
    rintro _ ⟨⟩
    refine ⟨?_, fun x mem => (begins.vacant.registered x mem).2⟩
    rw [begins.first]
    exact Nat.le_refl _
  have opened : (ex.reactor.opened c.limits.length).stripped c.first c.limits.length =
      (c.alone ex).reactor := by
    rw [begins.alone, begins.first]
    exact begins.vacant.opened_stripped _ _ (Nat.le_refl _)
  have strips := a.poll_stripped c.first c.limits.length (fresh.beyond _ _)
    (innermost c.first [] c.limits) ex.world _ past
  rw [fresh.stripped, c.stripped_innermost, Option.map_some, opened] at strips
  have chained : (c.limits.foldr timeout a).poll [] ex.world (some ex.reactor) =
      afterTimings c.begun c.first [] c.limits (a.poll (innermost c.first [] c.limits) ex.world
        (some (ex.reactor.opened c.limits.length))) := by
    rw [begins.begun, begins.first]
    exact poll_timeouts [] c.limits a ex.world ex.reactor
  have both := start.poll chained strips (begins.alone.symm ▸ closed)
  rw [begins.alone] at both
  exact both

/-- A chain of time-outs that begin in one poll replies as a race for the shortest limit. -/
theorem timedAs (limit : Nat) (closed : LeavesNothing (ex.drive limit (c.race a))) :
    TimedAs c.begun c.shortest (ex.drive limit (.handle (.live (c.limits.foldr timeout a))))
      (ex.drive limit (c.race a)) := by
  unfold Executor.drive at closed ⊢
  cases limit with
  | zero => exact .noReply rfl .nothing
  | succ limit =>
    have runs : RunsAs c (limit + 1) true (c.limits.foldr timeout a) a ex := by
      refine runsAs_of_poll ?_ fun _ _ abreast => abreast.rounds _ false
      rw [begins.alone]
      exact begins.poll fresh
    rw [RunsAs, begins.alone] at runs
    exact runs closed

end TimeoutChain.BeginsOn

/-! ## The shortest of several time-outs -/

/-- Awaiting a future is driving the executor with it as the main activity. -/
theorem Executor.await_eq_drive (limit : Nat) (a : Future σ α) (ex : Executor σ α) :
    (ex.await limit (.live a)).1 = (ex.drive limit (.handle (.live a))).1 ∧
      (ex.await limit (.live a)).2.2 = (ex.drive limit (.handle (.live a))).2.2 := by
  unfold Executor.await
  rcases ex.drive limit (.handle (.live a)) with ⟨_, _ | _ | _ | _, _⟩
  all_goals exact ⟨rfl, rfl⟩

/-- Nested time-outs compose as the shortest one.  Awaited on an executor on which nothing else
runs, time-outs around a future, given from the innermost one outwards, have the reply of a
single time-out with the least of their limits, at the same time; it takes that no bracket is
open when the future is dropped at that limit.  Both are what a race for that time comes to: the
future's outcome if it ends, and otherwise the failure of the shortest limit, at its end.  Of the
future nothing has an effect after that, for the world is that of the race but for reports of
time-outs, and nothing is left to run. -/
theorem nested_timeouts_compose {ex : Executor σ α} (vacant : ex.Vacant) {a : Future σ α}
    (fresh : a.Fresh) {ds : List Nat} {m : Nat} (least : ds.min? = some m) (limit : Nat)
    (closed : LeavesNothing (ex.drive limit (.race (.live a) (ex.reactor.now + m)))) :
    let nested := ds.foldl (fun b d => b.timeout d) a
    let single := a.timeout m
    (ex.await limit (.live nested)).1 = (ex.await limit (.live single)).1 ∧
      (ex.await limit (.live nested)).2.2.reactor.now =
        (ex.await limit (.live single)).2.2.reactor.now ∧
      TimedAs ex.reactor.now m (ex.drive limit (.handle (.live nested)))
        (ex.drive limit (.race (.live a) (ex.reactor.now + m))) ∧
      TimedAs ex.reactor.now m (ex.drive limit (.handle (.live single)))
        (ex.drive limit (.race (.live a) (ex.reactor.now + m))) := by
  obtain ⟨mem, le⟩ := List.min?_eq_some_iff.mp least
  have chain : ds.foldl (fun b d => b.timeout d) a = ds.reverse.foldr Future.timeout a :=
    List.foldl_eq_foldr_reverse ..
  let several : TimeoutChain := ⟨ex.reactor.now, ex.reactor.nextScope, ds.reverse, m,
    List.mem_reverse.mpr mem, fun d mem => le d (List.mem_reverse.mp mem)⟩
  let one : TimeoutChain := ⟨ex.reactor.now, ex.reactor.nextScope, [m], m,
    List.mem_cons_self, fun d mem => Nat.le_of_eq (List.mem_singleton.mp mem).symm⟩
  -- The race that both are compared with does not know how many time-outs there are.
  have manyBegin : several.BeginsOn ex := ⟨vacant, rfl, rfl⟩
  have oneBegins : one.BeginsOn ex := ⟨vacant, rfl, rfl⟩
  have nested := manyBegin.timedAs fresh limit closed
  have single := oneBegins.timedAs fresh limit closed
  rw [show several.limits = ds.reverse from rfl, ← chain] at nested
  obtain ⟨replyNested, leftNested⟩ := ex.await_eq_drive limit (ds.foldl (fun b d => b.timeout d) a)
  obtain ⟨replySingle, leftSingle⟩ := ex.await_eq_drive limit (a.timeout m)
  refine ⟨?_, ?_, nested, single⟩
  · rw [replyNested, replySingle, nested.reply]
    exact single.reply.symm
  · rw [leftNested, leftSingle, nested.now]
    exact single.now.symm

/-! ## A line that is not written -/

deriving instance DecidableEq for Reply

namespace Diary

/-- Writes down something early and something late. -/
def twoLines : Future Diary Verdict :=
  .bind (conclude (sleep 3) fun _ => write "early") fun _ d =>
    .returned (conclude (sleep 4) fun _ => write "late") d

/-- An executor that has run a future before. -/
def rested : Executor Diary Verdict :=
  ((Executor.start ⟨[]⟩).await 4 (.live (conclude (sleep 2) fun _ => write "first"))).2.2

/-- The shortest limit has one inside it and another around it. -/
def twoLinesTimed : Future Diary Verdict :=
  [7, 5, 9].foldl (fun b d => b.timeout d) twoLines

theorem twoLines_cut_short :
    (rested.await 10 (.live twoLinesTimed)).1 =
        some (.outcome (.error (.timedOut (.ofMillis 5)))) ∧
      (rested.await 10 (.live twoLinesTimed)).2.2.reactor.now = 7 ∧
        (rested.await 10 (.live twoLinesTimed)).2.2.world = ⟨["first", "early"]⟩ := by
  have freshFirst : (conclude (sleep 2) fun _ => write "first").Fresh := trivial
  have vacant : rested.Vacant := .await (.start _) freshFirst (by decide +kernel)
  have fresh : twoLines.Fresh := ⟨trivial, fun _ _ => trivial⟩
  have least : [7, 5, 9].min? = some 5 := rfl
  have closed : LeavesNothing (rested.drive 10 (.race (.live twoLines) (rested.reactor.now + 5))) :=
    fun _ => List.isEmpty_iff.mp (by decide +kernel)
  obtain ⟨reply, now, -⟩ := nested_timeouts_compose vacant fresh least 10 closed
  rw [twoLinesTimed, reply, now]
  decide +kernel

/-- A bracket whose use does not end and whose release takes a while. -/
def heldOpen : Future Diary (Unit × Verdict) :=
  .bracket (ready (.ok ())) (fun _ d => .returned never d) fun _ _ => releaseSlowly

/-- While the inner time-out waits for the release, the outer one elapses. -/
example : ((heldOpen.timeout 7).run 10 ⟨[]⟩).1 =
      some (.outcome (.error (.timedOut (.ofMillis 7)))) ∧
    (((heldOpen.timeout 7).timeout 9).run 10 ⟨[]⟩).1 =
      some (.outcome (.error (.timedOut (.ofMillis 9)))) := by
  decide +kernel

end Diary

end Resumption
