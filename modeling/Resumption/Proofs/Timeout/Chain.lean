/-
Chain — time-outs one around another.

Time-outs that begin in the same poll open their scopes from the outermost one inwards,
and their deadlines count from one time.  `timings t T A ds a` is such a chain around `a`,
the outermost limit first, begun at the time `t` with scopes from `T` on, inside the
scopes `A`; `afterTimings` is what it makes of a poll of `a`:

| the poll of `a`                               | and the chain                        |
|-----------------------------------------------|--------------------------------------|
| ends                                          | ends alike, inside out               |
| is left waiting before the shortest limit     | is left waiting around it            |
| is left waiting when the shortest limit is up | ends as timed out after that limit   |

The first and the last row are about a reactor on which all registered releases have
finished; then a chain that ends reports what it does and waits for nothing.
-/
import Resumption.Proofs.Stripping.Stripped
import Resumption.Proofs.Timeout.Poll

namespace Resumption

namespace Duration

/-- A span of whole milliseconds. -/
theorem wholeMillis_ofMillis (ms : Nat) : (ofMillis ms).wholeMillis = ms := by
  simp only [ofMillis, ofParts, wholeMillis]
  omega

end Duration

/-- The world is the first one but for what time-outs have reported. -/
inductive Reported {σ : Type} [Observer σ] (w : σ) : σ → Prop
  | nothing : Reported w w
  | awaiting (count : Nat) {v : σ} : Reported w v → Reported w (note (.awaitingReleases count) v)
  | elapsed (limit : Duration) {v : σ} : Reported w v → Reported w (note (.timeoutElapsed limit) v)

theorem Reported.trans {σ : Type} [Observer σ] {w v u : σ} (first : Reported w v)
    (second : Reported v u) : Reported w u := by
  induction second with
  | nothing => exact first
  | awaiting count _ ih => exact .awaiting count ih
  | elapsed limit _ ih => exact .elapsed limit ih

variable {σ : Type} {α : Type}

/-- All releases that are registered have finished. -/
def Reactor.Idle (r : Reactor σ) : Prop :=
  ∀ x ∈ r.registered, x.2 ∈ r.finished

namespace Future

/-! ## The chain -/

/-- Time-outs that began at the time `t`, with scopes from `T` on, the outermost first. -/
def timings (t : Nat) (T : ScopeId) (A : Scopes) : List Nat → Future σ α → Future σ α
  | [], a => a
  | d :: ds, a => timing T A (.ofMillis d) (t + d) (timings t (T + 1) (T :: A) ds a)

/-- The scopes inside all of them. -/
def innermost (T : ScopeId) (A : Scopes) : List Nat → Scopes
  | [] => A
  | _ :: ds => innermost (T + 1) (T :: A) ds

theorem mem_innermost {S T : Nat} {A : Scopes} {ds : List Nat} (mem : S ∈ innermost T A ds) :
    S ∈ A ∨ T ≤ S ∧ S < T + ds.length := by
  induction ds generalizing T A with
  | nil => exact .inl mem
  | cons d ds ih =>
    rw [List.length_cons]
    rcases ih mem with own | new
    · rcases List.mem_cons.mp own with rfl | outer
      · exact .inr (by omega)
      · exact .inl outer
    · exact .inr (by omega)

section Parts

variable (t : Nat) (T : ScopeId) (A : Scopes) (ds : List Nat) (a : Future σ α)

theorem timers_timings : (timings t T A ds a).timers = List.range' T ds.length ++ a.timers := by
  induction ds generalizing T A with
  | nil => rfl
  | cons d ds ih =>
    rw [timings, timers, ih, List.length_cons, List.range'_succ]
    rfl

theorem orphans_timings : (timings t T A ds a).orphans = a.orphans := by
  induction ds generalizing T A with
  | nil => rfl
  | cons d ds ih => exact ih _ _

theorem yielding_timings : (timings t T A ds a).yielding = a.yielding := by
  induction ds generalizing T A with
  | nil => rfl
  | cons d ds ih => exact ih _ _

theorem woken_timings (now : Nat) (finished : TaskId → Bool) :
    (timings t T A ds a).woken now finished =
      (ds.any (fun d => t + d ≤ now) || a.woken now finished) := by
  induction ds generalizing T A with
  | nil => rfl
  | cons d ds ih => rw [timings, woken, ih, List.any_cons, Bool.or_assoc]

variable {t T A ds a}

/-- What is inside the chain stands inside its scopes. -/
theorem placed_timings {n : Nesting} {r : Reactor σ} {E : Scopes}
    (placed : (timings t T A ds a).Placed n r E) : ∃ E', a.Placed n r E' := by
  induction ds generalizing T A E with
  | nil => exact ⟨E, placed⟩
  | cons d ds ih => exact ih placed.1

/-! ## The shortest limit -/

/-- The earlier of two times need not be waited for twice. -/
theorem earlier_absorbs {s u : Nat} (before : s ≤ u) (o : Option Nat) :
    earlier (some s) (earlier (some u) o) = earlier (some s) o ∧
      earlier (some u) (earlier (some s) o) = earlier (some s) o := by
  cases o <;> simp only [earlier, Option.some.injEq] <;> omega

theorem nextDeadline_timings_of_le {m : Nat} (least : ∀ d ∈ ds, m ≤ d) :
    earlier (some (t + m)) (timings t T A ds a).nextDeadline =
      earlier (some (t + m)) a.nextDeadline := by
  induction ds generalizing T A with
  | nil => rfl
  | cons d ds ih =>
    have before : t + m ≤ t + d := Nat.add_le_add_left (least d List.mem_cons_self) t
    rw [timings, nextDeadline, (earlier_absorbs before _).1]
    exact ih fun e mem => least e (List.mem_cons_of_mem d mem)

/-- The chain waits until its shortest limit is up. -/
theorem nextDeadline_timings {m : Nat} (mem : m ∈ ds) (least : ∀ d ∈ ds, m ≤ d) :
    (timings t T A ds a).nextDeadline = earlier (some (t + m)) a.nextDeadline := by
  induction ds generalizing T A with
  | nil => cases mem
  | cons d ds ih =>
    have inner : ∀ e ∈ ds, m ≤ e := fun e mem => least e (List.mem_cons_of_mem d mem)
    rw [timings, nextDeadline]
    rcases List.mem_cons.mp mem with rfl | mem
    · exact nextDeadline_timings_of_le inner
    · have before : t + m ≤ t + d := Nat.add_le_add_left (least d List.mem_cons_self) t
      rw [ih mem inner, (earlier_absorbs before _).2]

/-- One of the limits is up exactly if the shortest one is. -/
theorem any_up {m now : Nat} (mem : m ∈ ds) (least : ∀ d ∈ ds, m ≤ d) :
    ds.any (fun d => t + d ≤ now) = decide (t + m ≤ now) := by
  rw [Bool.eq_iff_iff, List.any_eq_true, decide_eq_true_eq]
  constructor
  · rintro ⟨d, mem, up⟩
    exact Nat.le_trans (Nat.add_le_add_left (least d mem) t) (of_decide_eq_true up)
  · exact fun up => ⟨m, mem, decide_eq_true up⟩

end Parts

/-! ## Polls -/

section Polls

variable [Observer σ]

/-- What the chain makes of a poll of the future inside. -/
def afterTimings (t : Nat) (T : ScopeId) (A : Scopes) : List Nat → Polled σ α → Polled σ α
  | [], P => P
  | d :: ds, P => afterTimed T A (.ofMillis d) (t + d) (afterTimings t (T + 1) (T :: A) ds P)

theorem poll_timings (t : Nat) (T : ScopeId) (A : Scopes) (ds : List Nat) (a : Future σ α) (w : σ)
    (r : Option (Reactor σ)) :
    (timings t T A ds a).poll A w r = afterTimings t T A ds (a.poll (innermost T A ds) w r) := by
  induction ds generalizing T A with
  | nil => rfl
  | cons d ds ih =>
    rw [timings, poll, ih]
    rfl

/-- Time-outs that begin in one poll become a chain. -/
theorem poll_timeouts (A : Scopes) (ds : List Nat) (a : Future σ α) (w : σ) (r : Reactor σ) :
    (ds.foldr timeout a).poll A w (some r) = afterTimings r.now r.nextScope A ds
      (a.poll (innermost r.nextScope A ds) w (some (r.opened ds.length))) := by
  induction ds generalizing A r with
  | nil => rfl
  | cons d ds ih =>
    rw [List.foldr_cons, timeout, poll, Duration.wholeMillis_ofMillis]
    simp only [Reactor.freshScope]
    rw [ih, Reactor.opened, Reactor.opened, List.length_cons, Nat.add_right_comm, Nat.add_assoc]
    rfl

/-- The poll ends with `o`, in the world `w` with what time-outs reported, and on the
reactor `r` with fewer registered releases. -/
def Polled.EndsAs (P : Polled σ α) (o : Except Failure α) (w : σ) (r : Reactor σ) : Prop :=
  ∃ w' l, Reported w w' ∧ l ⊆ r.registered ∧ P = ⟨.ended o, w', some { r with registered := l }⟩

variable {r : Reactor σ} {o : Except Failure α} {w : σ}

/-- A time-out that waits for finished releases ends. -/
theorem drainScope_ends (idle : r.Idle) (T : ScopeId) (limit : Duration)
    (outcome : Option (Except Failure α)) (w : σ) :
    (drainScope T limit outcome w r).EndsAs (outcome.getD (.error (.timedOut limit))) w r := by
  have fewer : (r.takeRegistered T).2.registered ⊆ r.registered := List.filter_subset_self _
  have ends : ∀ v, Reported w v →
      (endTimeout limit outcome v (some (r.takeRegistered T).2)).EndsAs
        (outcome.getD (.error (.timedOut limit))) w r := by
    intro v reported
    cases outcome with
    | some o => exact ⟨v, _, reported, fewer, rfl⟩
    | none => exact ⟨_, _, .elapsed limit reported, fewer, rfl⟩
  have finished : (r.takeRegistered T).1.all (r.takeRegistered T).2.hasFinished = true := by
    rw [List.all_eq_true]
    intro id mem
    exact List.contains_iff_mem.mpr (idle _ (Reactor.mem_takeRegistered.mp mem))
  unfold drainScope
  generalize r.takeRegistered T = x at ends finished ⊢
  obtain ⟨tasks, r'⟩ := x
  cases tasks with
  | nil => exact ends w .nothing
  | cons id tasks =>
    show (awaitTasks (id :: tasks) limit outcome _ r').EndsAs _ w r
    rw [awaitTasks, if_pos finished]
    exact ends _ (.awaiting _ .nothing)

/-- A time-out passes on how its action ended. -/
theorem Polled.EndsAs.afterTimed {P : Polled σ α} (ends : P.EndsAs o w r) (idle : r.Idle)
    (T : ScopeId) (A : Scopes) (limit : Duration) (deadline : Nat) :
    (afterTimed T A limit deadline P).EndsAs o w r := by
  obtain ⟨v, l, reported, sub, rfl⟩ := ends
  have fewer : Reactor.Idle { r with registered := l } := fun x mem => idle x (sub mem)
  obtain ⟨v', l', reported', sub', eq⟩ := drainScope_ends fewer T limit (some o) v
  exact ⟨v', l', reported.trans reported', List.Subset.trans sub' sub, eq⟩

/-- A chain passes on how what is inside it ended. -/
theorem Polled.EndsAs.afterTimings {P : Polled σ α} (ends : P.EndsAs o w r) (idle : r.Idle)
    (t : Nat) (T : ScopeId) (A : Scopes) (ds : List Nat) :
    (afterTimings t T A ds P).EndsAs o w r := by
  induction ds generalizing T A with
  | nil => exact ends
  | cons d ds ih => exact (ih _ _).afterTimed idle T A (.ofMillis d) (t + d)

/-- Before the shortest limit is up the chain goes on. -/
theorem afterTimings_early {t : Nat} {T : ScopeId} {A : Scopes} {ds : List Nat}
    (early : ∀ d ∈ ds, r.now < t + d) (a : Future σ α) (w : σ) :
    afterTimings t T A ds ⟨.pending a, w, some r⟩ =
      ⟨.pending (timings t T A ds a), w, some r⟩ := by
  induction ds generalizing T A with
  | nil => rfl
  | cons d ds ih =>
    rw [afterTimings, ih fun e mem => early e (List.mem_cons_of_mem d mem), afterTimed,
      if_neg (Nat.not_le_of_lt (early d List.mem_cons_self))]
    rfl

/-- When the shortest limit is up, the time-out with this limit ends, unless releases are left,
and those around it pass on its failure. -/
theorem afterTimings_late {t m : Nat} {T : ScopeId} {A : Scopes} {ds : List Nat} {a : Future σ α}
    (idle : r.Idle) (mem : m ∈ ds) (least : ∀ d ∈ ds, m ≤ d) (up : r.now = t + m)
    (none : a.orphans = []) (w : σ) :
    (afterTimings t T A ds ⟨.pending a, w, some r⟩).EndsAs
      (.error (.timedOut (.ofMillis m))) w r := by
  induction ds generalizing T A with
  | nil => cases mem
  | cons d ds ih =>
    have inner : ∀ e ∈ ds, m ≤ e := fun e mem => least e (List.mem_cons_of_mem d mem)
    by_cases inside : m ∈ ds
    · exact (ih inside inner).afterTimed idle T A (.ofMillis d) (t + d)
    · obtain rfl : m = d := (List.mem_cons.mp mem).resolve_right inside
      have early : ∀ e ∈ ds, r.now < t + e := by
        intro e mem
        have longer := Nat.lt_of_le_of_ne (inner e mem) fun same => inside (same ▸ mem)
        omega
      rw [afterTimings, afterTimings_early early, Future.afterTimed,
        if_pos (Nat.le_of_eq up.symm), orphans_timings, none]
      exact drainScope_ends idle T (.ofMillis m) .none w

end Polls

end Future

end Resumption
