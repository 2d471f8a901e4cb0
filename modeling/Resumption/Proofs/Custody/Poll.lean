/-
Poll — a poll keeps custody of every ticket.

What a future owes before a poll is owed after it by what is left of the future
or by the tasks that the poll spawned, or the book says why it is no longer owed.
Nothing is lost and nothing is owed twice, wherever the poll ends.
-/
import Resumption.Proofs.Custody.Ticketed
import Resumption.Proofs.Future.Context
import Resumption.Proofs.Future.Reactor

namespace Resumption

namespace Future

variable {σ : Type} {α β : Type}

/-- Joining two values makes no entries if the closure does not. -/
theorem joined_unmarked {γ : Type} {f : α → β → Host (Booked σ) γ}
    (unmarked : ∀ x y, (f x y).Unmarked) (x : Except Failure α) (y : Except Failure β) :
    (joined f x y).Unmarked := by
  intro b
  cases x with
  | error e => rfl
  | ok x =>
    cases y with
    | error e => rfl
    | ok y =>
      have book := unmarked x y b
      simp only [joined, Host.map, Host.bind]
      rcases run : f x y b with ⟨o | p, b'⟩
      all_goals
        rw [run] at book
        exact book

variable [Observer σ] {i : Nat} {q : Tenure}

/-! ## Tasks and reactors -/

/-- What some tasks owe together. -/
inductive OwnsAll (i : Nat) : List (TaskId × Future (Booked σ) Unit) → Stock → Prop
  | nil : OwnsAll i [] .none
  | cons {id : TaskId} {a : Future (Booked σ) Unit} {l : List (TaskId × Future (Booked σ) Unit)}
      {s t : Stock} : Owns i .bound a s → OwnsAll i l t → OwnsAll i ((id, a) :: l) (s + t)

theorem OwnsAll.snoc {l : List (TaskId × Future (Booked σ) Unit)} {id : TaskId}
    {a : Future (Booked σ) Unit} {s t : Stock} (all : OwnsAll i l s) (owns : Owns i .bound a t) :
    OwnsAll i (l ++ [(id, a)]) (s + t) := by
  induction all with
  | nil =>
    rw [Stock.add_comm]
    exact .cons owns .nil
  | cons first _ ih =>
    rw [Stock.add_assoc]
    exact .cons first ih

/-- What the tasks owe that wait in a reactor, if there is one.  They are numbered from
`m` on. -/
inductive Spawned (i : Nat) : Option TaskId → Option (Reactor (Booked σ)) → Stock → Prop
  | outside : Spawned i none none .none
  | inside {m : TaskId} {r : Reactor (Booked σ)} {t : Stock} : OwnsAll i r.spawned t →
      r.NumberedFrom m → Spawned i (some m) (some r) t

/-! ## Dropping -/

/-- What the releases of dropped brackets owe, the resources they hold included. -/
inductive OwnsOrphans (i : Nat) : List (Orphan (Booked σ)) → Stock → Prop
  | nil : OwnsOrphans i [] .none
  | cons {o : Orphan (Booked σ)} {os : List (Orphan (Booked σ))} {s t : Stock} :
      Owns i .bound o.release s → OwnsOrphans i os t → OwnsOrphans i (o :: os) (s + .holding + t)

theorem OwnsOrphans.append {os os' : List (Orphan (Booked σ))} {s t : Stock}
    (left : OwnsOrphans i os s) (right : OwnsOrphans i os' t) :
    OwnsOrphans i (os ++ os') (s + t) := by
  induction left with
  | nil =>
    rw [Stock.none_add]
    exact right
  | cons first _ ih =>
    rw [Stock.add_assoc]
    exact .cons first ih

theorem OwnsOrphans.single {o : Orphan (Booked σ)} {s : Stock} (owns : Owns i .bound o.release s) :
    OwnsOrphans i [o] (s + .holding) :=
  .cons owns .nil

/-- A future that is dropped leaves all that it owes to its orphans. -/
theorem Owns.orphans {a : Future (Booked σ) α} {s : Stock} (owns : Owns i q a s)
    (free : q = .free) : OwnsOrphans i a.orphans s := by
  induction owns with
  | ready | perform | suspend | sleep | pause | never | sleeping | paused | draining => exact .nil
  | conclude _ _ ih => exact ih rfl
  | bind _ _ _ ih => exact ih rfl
  | rescue _ _ _ ih => exact ih rfl
  | bracket _ _ _ _ _ ih => exact ih rfl
  | inUse _ book fresh ih =>
    exact (ih rfl).append (.single (.toBeCalled (book none) (fresh none)))
  | releasing owns => exact .single owns
  | both _ _ _ left right => exact (left rfl).append (right rfl)
  | within _ ih => exact ih rfl
  | timing _ ih => exact ih rfl
  | uncalled | toBeCalled | underWay | task => nomatch free

/-- One more task. -/
theorem Spawned.spawn {m : TaskId} {r : Reactor (Booked σ)} {a : Future (Booked σ) Unit}
    {s t : Stock} (spawned : Spawned i (some m) (some r) t) (scopes : Scopes)
    (owns : Owns i .bound a s) : Spawned i (some m) (some (r.spawn scopes a)) (t + s) := by
  cases spawned with
  | inside all numbered => exact .inside (all.snoc owns) (numbered.spawn scopes a)

/-- The tasks of the spawned releases owe what the orphans owed. -/
theorem OwnsOrphans.adopt {os : List (Orphan (Booked σ))} {s t : Stock} {m : TaskId} {b : Booked σ}
    {r : Reactor (Booked σ)} (orphans : OwnsOrphans i os s)
    (spawned : Spawned i (some m) (some r) t) :
    ∃ u, Spawned i (some m) (some (r.adopt os b).2) u ∧
      Balanced i b (s + t) (r.adopt os b).1 u := by
  induction orphans generalizing b r t with
  | nil =>
    rw [Stock.none_add]
    exact ⟨t, spawned, .refl⟩
  | @cons o os s s' owns _ ih =>
    obtain ⟨u, all, rest⟩ := ih (b := note .bracketCancelled b) (spawned.spawn o.scopes owns.task)
    refine ⟨u, all, .trans ?_ rest⟩
    have first : Balanced i b .holding (note .bracketCancelled b) .none := .cancelled
    have moved : s + .holding + s' + t = .holding + (s' + (t + s)) := by ac_rfl
    rw [moved]
    exact first.settle (s' + (t + s))

/-! ## What a poll keeps -/

/-- What is left of a future owes this; one that has ended owes nothing. -/
inductive Left (i : Nat) (q : Tenure) : Progress (Booked σ) α → Stock → Prop
  | ended (o : Except Failure α) : Left i q (.ended o) .none
  | pending {a : Future (Booked σ) α} {s : Stock} : Owns i q a s → Left i q (.pending a) s

/-- A poll that begins in `b`, owing `s` with `t` owed by spawned tasks, keeps custody. -/
def Kept (i : Nat) (q : Tenure) (here : Option TaskId) (b : Booked σ) (s t : Stock)
    (p : Polled (Booked σ) α) : Prop :=
  ∃ s' t', Left i q p.progress s' ∧ Spawned i here p.reactor t' ∧
    Balanced i b (s + t) p.world (s' + t')

/-- Polls of the future keep custody. -/
def Keeps (i : Nat) (q : Tenure) (a : Future (Booked σ) α) (s : Stock) : Prop :=
  ∀ scopes here b r t, Spawned i here r t → Kept i q here b s t (a.poll scopes b r)

namespace Kept

variable {here : Option TaskId} {b b₁ : Booked σ} {s s₁ t u : Stock}
  {r : Option (Reactor (Booked σ))}
  {p : Polled (Booked σ) α}

theorem ended (o : Except Failure α) (spawned : Spawned i here r t)
    (balanced : Balanced i b s b₁ .none) : Kept i q here b s t ⟨.ended o, b₁, r⟩ :=
  ⟨.none, t, .ended o, spawned, balanced.frame t⟩

theorem pending {a : Future (Booked σ) α} (owns : Owns i q a s₁) (spawned : Spawned i here r t)
    (balanced : Balanced i b s b₁ s₁) : Kept i q here b s t ⟨.pending a, b₁, r⟩ :=
  ⟨s₁, t, .pending owns, spawned, balanced.frame t⟩

/-- What happens before a poll goes before what the poll does. -/
theorem after (kept : Kept i q here b₁ s₁ t p) (balanced : Balanced i b s b₁ s₁) :
    Kept i q here b s t p := by
  obtain ⟨s', t', left, spawned, rest⟩ := kept
  exact ⟨s', t', left, spawned, (balanced.frame t).trans rest⟩

/-- A context that owes `u` beside the future inside it keeps custody if that future does
and it goes on well from there. -/
theorem around {q₁ : Tenure} {K : Future (Booked σ) α → Future (Booked σ) β}
    {F : Except Failure α → Booked σ → Option (Reactor (Booked σ)) → Polled (Booked σ) β}
    (kept : Kept i q₁ here b s t p)
    (left : ∀ a s', Owns i q₁ a s' → Owns i q (K a) (s' + u))
    (next : ∀ o b' r' t', Spawned i here r' t' → Kept i q here b' u t' (F o b' r')) :
    Kept i q here b (s + u) t (around K F p) := by
  obtain ⟨s', t', inside, spawned, balanced⟩ := kept
  have framed : Balanced i b (s + u + t) p.world (s' + u + t') := by
    convert balanced.frame u using 1 <;> ac_rfl
  obtain ⟨progress, b', r'⟩ := p
  cases inside with
  | pending owns => exact ⟨s' + u, t', .pending (left _ _ owns), spawned, framed⟩
  | ended o =>
    obtain ⟨s'', t'', rest, spawned', balanced'⟩ := next o b' r' t' spawned
    rw [Stock.none_add] at framed
    exact ⟨s'', t'', rest, spawned', framed.trans balanced'⟩

/-- A context that owes nothing. -/
theorem inside {q₁ : Tenure} {K : Future (Booked σ) α → Future (Booked σ) β}
    {F : Except Failure α → Booked σ → Option (Reactor (Booked σ)) → Polled (Booked σ) β}
    (kept : Kept i q₁ here b s t p)
    (left : ∀ a s', Owns i q₁ a s' → Owns i q (K a) s')
    (next : ∀ o b' r' t', Spawned i here r' t' → Kept i q here b' .none t' (F o b' r')) :
    Kept i q here b s t (Future.around K F p) :=
  kept.around (u := .none) left next

/-- A future that owes nothing, inside a context. -/
theorem beside {q₁ : Tenure} {K : Future (Booked σ) α → Future (Booked σ) β}
    {F : Except Failure α → Booked σ → Option (Reactor (Booked σ)) → Polled (Booked σ) β}
    (kept : Kept i q₁ here b .none t p)
    (left : ∀ a s', Owns i q₁ a s' → Owns i q (K a) (s' + u))
    (next : ∀ o b' r' t', Spawned i here r' t' → Kept i q here b' u t' (F o b' r')) :
    Kept i q here b u t (Future.around K F p) := by
  have whole := kept.around left next
  rw [Stock.none_add] at whole
  exact whole

/-- A closure that makes no entries. -/
theorem ofHost {h : Host (Booked σ) (Except Failure α)} (unmarked : h.Unmarked)
    (spawned : Spawned i here r t) : Kept i q here b .none t (.ofHost h b r) := by
  have book := unmarked b
  unfold Polled.ofHost Host.caught
  rcases run : h b with ⟨o | p, b'⟩
  all_goals
    rw [run] at book
    exact .ended _ spawned (.of_book_eq book)

/-- A call that makes no entries and returns a future that owes nothing. -/
theorem call {scopes : Scopes} {c : Call (Booked σ) α} (book : c.world.book = b.book)
    (keeps : ∀ a b', c = .returned a b' → Keeps i q a .none)
    (spawned : Spawned i here r t) : Kept i q here b .none t (c.poll scopes r) := by
  cases c with
  | returned a b' =>
    rw [Call.poll]
    exact (keeps a b' rfl scopes here b' r t spawned).after (.of_book_eq book)
  | panicked p b' =>
    rw [Call.poll]
    exact .ended _ spawned (.of_book_eq book)

/-! ### Releases -/

/-- The end of a bracket gives its resource back. -/
theorem close (used : Except Failure β) (o : Except Failure Verdict)
    (spawned : Spawned i here r t) : Kept i q here b .holding t
      ⟨.ended (closeBracket used o b).1, (closeBracket used o b).2, r⟩ := by
  have released : Balanced i b .holding
      (note (.released (failedOutcome used) (failedVerdict o)) b) .none := .released _ _
  refine .ended _ spawned (released.trans ?_)
  cases used with
  | ok _ => cases o <;> exact .refl
  | error _ =>
    cases o with
    | ok _ => exact .refl
    | error _ => exact .aside (by simp) (by simp) rfl

/-- A release that is called goes from being in use to being under way. -/
theorem calling {scopes : Scopes} {j : Nat} {s : Booked σ → Call (Booked σ) α}
    (book : ∀ b, (s b).world.book = b.book)
    (keeps : ∀ b a b', s b = .returned a b' → Keeps i .free a .none)
    (spawned : Spawned i here r t) :
    Kept i .bound here b (.used i j) t ((Future.marked j s).poll scopes b r) := by
  have called : Balanced i b (.used i j) (b.write (.called j)) (.released i j) := .called
  refine after ?_ called
  rw [Future.marked, runs_conclude scopes (markEnd j), poll]
  refine beside (call (book _) (keeps _) spawned) ?_ ?_
  · exact fun _ _ owns => .underWay owns
  · exact fun o _ _ _ spawned => .ended o spawned .finished

/-- After its use a bracket releases what it holds. -/
theorem released {opened : Scopes} {used : Except Failure β}
    {p : Polled (Booked σ) Verdict} (kept : Kept i .bound here b s t p) :
    Kept i .free here b (s + .holding) t (afterRelease opened used p) := by
  rw [afterRelease_eq]
  refine kept.around ?_ ?_
  · exact fun _ _ owns => .releasing owns
  · exact fun o _ _ _ spawned => .close used o spawned

/-! ### Two sides -/

/-- Of two futures side by side the second one is polled after the first. -/
theorem sides {γ : Type} {f : α → β → Host (Booked σ) γ} {p' : Polled (Booked σ) β}
    (unmarked : ∀ x y, (f x y).Unmarked) (first : Kept i .free here b s t p)
    (second : ∀ t', Spawned i here p.reactor t' → Kept i .free here p.world u t' p') :
    Kept i .free here b (s + u) t (Future.sides f p.progress p') := by
  obtain ⟨s', t', left, spawned, first⟩ := first
  obtain ⟨u', t'', right, spawned, second⟩ := second t' spawned
  have balanced : Balanced i b (s + u + t) p'.world (s' + u' + t'') := by
    have first : Balanced i b (s + u + t) p.world (s' + t' + u) := by
      convert first.frame u using 1
      ac_rfl
    have second : Balanced i p.world (s' + t' + u) p'.world (s' + u' + t'') := by
      convert second.frame s' using 1 <;> ac_rfl
    exact first.trans second
  obtain ⟨progress, b', r'⟩ := p
  obtain ⟨progress', b'', r''⟩ := p'
  cases left with
  | pending left =>
    cases right with
    | pending right => exact ⟨_, t'', .pending (.both left right unmarked), spawned, balanced⟩
    | ended y => exact ⟨_, t'', .pending (.both left (.ready y) unmarked), spawned, balanced⟩
  | ended x =>
    cases right with
    | pending right =>
      exact ⟨_, t'', .pending (.both (.ready x) right unmarked), spawned, balanced⟩
    | ended y =>
      obtain ⟨s₁, t₁, left, spawned, rest⟩ :=
        Kept.ofHost (q := .free) (b := b'') (joined_unmarked unmarked x y) spawned
      exact ⟨s₁, t₁, left, spawned, balanced.trans rest⟩

/-! ### Time-outs -/

theorem endTimeout (limit : Duration) (outcome : Option (Except Failure α))
    (spawned : Spawned i here r t) :
    Kept i .free here b .none t (endTimeout limit outcome b r) := by
  cases outcome with
  | some o => exact .ended o spawned .refl
  | none => exact .ended _ spawned (.aside (by simp) (by simp) rfl)

theorem awaitTasks (tasks : List TaskId) (limit : Duration)
    (outcome : Option (Except Failure α)) {m : TaskId} {r : Reactor (Booked σ)}
    (spawned : Spawned i (some m) (some r) t) :
    Kept i .free (some m) b .none t (awaitTasks tasks limit outcome b r) := by
  rw [Future.awaitTasks]
  split
  · exact .endTimeout limit outcome spawned
  · exact .pending (.draining tasks limit outcome) spawned .refl

theorem drainScope (scope : ScopeId) (limit : Duration)
    (outcome : Option (Except Failure α)) {m : TaskId} {r : Reactor (Booked σ)}
    (spawned : Spawned i (some m) (some r) t) :
    Kept i .free (some m) b .none t (drainScope scope limit outcome b r) := by
  have taken : Spawned i (some m) (some (r.takeRegistered scope).2) t := by
    cases spawned with
    | inside all numbered => exact .inside all numbered
  unfold Future.drainScope
  split
  · next empty =>
    rw [empty] at taken
    exact .endTimeout limit outcome taken
  · next some =>
    rw [some] at taken
    exact after (.awaitTasks _ limit outcome taken) (.aside (by simp) (by simp) rfl)

/-- A time-out keeps custody: what it drops goes to tasks. -/
theorem afterTimed (scope : ScopeId) (scopes : Scopes) (limit : Duration) (deadline : Nat)
    (kept : Kept i .free here b s t p) :
    Kept i .free here b s t (afterTimed scope scopes limit deadline p) := by
  obtain ⟨s', t', left, spawned, balanced⟩ := kept
  obtain ⟨progress, b', r'⟩ := p
  cases left with
  | ended o =>
    cases spawned with
    | outside => exact ⟨.none, .none, .ended o, .outside, balanced⟩
    | inside all numbered =>
      obtain ⟨s'', t'', left, spawned, rest⟩ :=
        drainScope (b := b') scope limit (some o) (.inside all numbered)
      exact ⟨s'', t'', left, spawned, balanced.trans rest⟩
  | @pending a _ owns =>
    cases spawned with
    | outside => exact ⟨s', .none, .pending owns.timing, .outside, balanced⟩
    | @inside m r' _ all numbered =>
      have spawned : Spawned i (some m) (some r') t' := .inside all numbered
      simp only [Future.afterTimed]
      split
      · obtain ⟨u, spawned, dropped⟩ := (owns.orphans rfl).adopt (b := b') spawned
        obtain ⟨s'', t'', left, spawned, rest⟩ :=
          drainScope (α := α) (b := (r'.adopt a.orphans b').1) scope limit .none spawned
        rw [Stock.none_add] at rest
        exact ⟨s'', t'', left, spawned, balanced.trans (dropped.trans rest)⟩
      · exact ⟨s', t', .pending owns.timing, spawned, balanced⟩

end Kept

/-! ## Every poll keeps custody -/

section Keeps

variable {s t : Stock}

/-- A bracket goes on from its use to its release. -/
theorem Kept.using {scopes opened : Scopes} {here : Option TaskId} {b : Booked σ} {j : Nat}
    {release : Option β → Booked σ → Call (Booked σ) Verdict} {p : Polled (Booked σ) β}
    (book : ∀ o b, (release o b).world.book = b.book)
    (owns : ∀ o b c b', release o b = .returned c b' → Owns i .free c .none)
    (keeps : ∀ o b c b', release o b = .returned c b' → Keeps i .free c .none)
    (kept : Kept i .free here b s t p) :
    Kept i .free here b (s + (.used i j + .holding)) t
      (Future.around (fun u => inUse opened u fun o b => .returned (marked j (release o)) b)
        (fun o w r => afterRelease opened o
          (Call.poll scopes (.returned (marked j (release o.toOption)) w) r)) p) := by
  refine kept.around ?_ ?_
  · exact fun _ _ inside => .inUse inside book owns
  · intro o b' r' t' spawned
    rw [Call.poll]
    exact .released (.calling (book _) (keeps _) spawned)

theorem keeps_of_owns {a : Future (Booked σ) α} (owns : Owns i q a s) : Keeps i q a s := by
  induction owns with
  | ready o =>
    intro scopes here b r t spawned
    rw [poll]
    exact .ended o spawned .refl
  | perform unmarked =>
    intro scopes here b r t spawned
    rw [poll]
    exact .ofHost unmarked spawned
  | suspend book _ ih =>
    intro scopes here b r t spawned
    rw [poll]
    exact .call (book b) (ih b) spawned
  | conclude _ unmarked ih =>
    intro scopes here b r t spawned
    rw [runs_conclude scopes _]
    refine (ih scopes here b r t spawned).inside ?_ ?_
    · exact fun _ _ inside => .conclude inside unmarked
    · exact fun o _ _ _ spawned => .ofHost (unmarked o) spawned
  | bind _ book fresh ih ihk =>
    intro scopes here b r t spawned
    rw [runs_bind scopes _]
    refine (ih scopes here b r t spawned).inside ?_ ?_
    · exact fun _ _ inside => .bind inside book fresh
    · intro o b' r' t' spawned
      cases o with
      | ok x => exact .call (book x b') (ihk x b') spawned
      | error e => exact .ended _ spawned .refl
  | rescue _ book fresh ih ihk =>
    intro scopes here b r t spawned
    rw [runs_rescue scopes _]
    refine (ih scopes here b r t spawned).inside ?_ ?_
    · exact fun _ _ inside => .rescue inside book fresh
    · intro o b' r' t' spawned
      cases o with
      | ok x => exact .ended _ spawned .refl
      | error e => exact .call (book e b') (ihk e b') spawned
  | bracket _ bookUse freshUse bookRelease freshRelease ih ihUse ihRelease =>
    intro scopes here b r t spawned
    rw [runs_bracket scopes _ _, runs_conclude scopes takeTicket, around_around]
    refine (ih scopes here b r t spawned).inside ?_ ?_
    · exact fun _ _ inside => .bracket inside bookUse freshUse bookRelease freshRelease
    · intro o b' r' t' spawned
      cases o with
      | error e => exact .ended _ spawned .refl
      | ok x =>
        refine Kept.after ?_ (.taken b')
        rw [← Stock.none_add (.used i b'.next + .holding)]
        refine .using (bookRelease x) (freshRelease x) (ihRelease x) ?_
        exact .call (bookUse _ _) (ihUse _ _) spawned
  | inUse _ book fresh ih ihRelease =>
    intro scopes here b r t spawned
    rw [runs_inUse scopes _ _]
    exact (ih scopes here b r t spawned).using book fresh ihRelease
  | releasing _ ih =>
    intro scopes here b r t spawned
    rw [runs_releasing scopes _ _, ← afterRelease_eq]
    exact .released (ih scopes here b r t spawned)
  | uncalled book _ ih =>
    intro scopes here b r t spawned
    exact .calling book ih spawned
  | toBeCalled book _ ih =>
    intro scopes here b r t spawned
    rw [poll, Call.poll]
    exact .calling book ih spawned
  | underWay _ ih =>
    intro scopes here b r t spawned
    rw [runs_conclude scopes _]
    refine (ih scopes here b r t spawned).around ?_ ?_
    · exact fun _ _ inside => .underWay inside
    · exact fun o _ _ _ spawned => .ended o spawned .finished
  | task _ ih =>
    intro scopes here b r t spawned
    rw [runs_task scopes _]
    refine (ih scopes here b r t spawned).inside ?_ ?_
    · exact fun _ _ inside => .task inside
    · intro o b' r' t' spawned
      rcases o with e | _ | ⟨e, _⟩
      · exact .ended _ spawned (.aside (by simp) (by simp) rfl)
      · exact .ended _ spawned .refl
      · exact .ended _ spawned (.aside (by simp) (by simp) rfl)
  | @both _ _ _ a c f _ _ _ _ unmarked ihLeft ihRight =>
    intro scopes here b r t spawned
    rw [poll_both]
    refine Kept.sides unmarked (ihLeft scopes here b r t spawned) ?_
    intro t' spawned
    exact ihRight scopes here _ _ t' spawned
  | within _ ih =>
    intro scopes here b r t spawned
    cases spawned with
    | outside =>
      rw [poll]
      exact .ended _ .outside .refl
    | @inside m _ _ all numbered =>
      rw [poll]
      exact .afterTimed _ _ _ _ (ih _ (some m) b _ t (.inside all numbered))
  | timing _ ih =>
    intro scopes here b r t spawned
    rw [poll]
    exact .afterTimed _ _ _ _ (ih _ here b r t spawned)
  | sleep ms =>
    intro scopes here b r t spawned
    cases spawned with
    | outside =>
      rw [poll]
      exact .ended _ .outside .refl
    | inside all numbered =>
      rw [poll]
      split
      · exact .ended _ (.inside all numbered) .refl
      · exact .pending (.sleeping _) (.inside all numbered) .refl
  | pause =>
    intro scopes here b r t spawned
    rw [poll]
    exact .pending .paused spawned .refl
  | never =>
    intro scopes here b r t spawned
    rw [poll]
    exact .pending .never spawned .refl
  | sleeping d =>
    intro scopes here b r t spawned
    cases spawned with
    | outside =>
      rw [poll]
      exact .pending (.sleeping _) .outside .refl
    | inside all numbered =>
      rw [poll]
      split
      · exact .ended _ (.inside all numbered) .refl
      · exact .pending (.sleeping _) (.inside all numbered) .refl
  | paused =>
    intro scopes here b r t spawned
    rw [poll]
    exact .ended _ spawned .refl
  | draining tasks limit outcome =>
    intro scopes here b r t spawned
    cases spawned with
    | outside =>
      rw [poll]
      exact .pending (.draining tasks limit outcome) .outside .refl
    | inside all numbered =>
      rw [poll]
      exact .awaitTasks tasks limit outcome (.inside all numbered)

end Keeps

end Future

end Resumption
