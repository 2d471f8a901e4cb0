/-
Built — every assembly is built calmly.

Over a bottom carrier whose operations respect a calming, what an assembly builds is
stood for by what its calmed form builds, and building either runs nothing.  The
closures of an assembly panic in three places, and each has a lemma:

| closure                   | lemma           | what its panic becomes              |
|---------------------------|-----------------|-------------------------------------|
| names what comes next     | `after_calmed`  | what comes next crashes             |
| computes the value        | `value_calmed`  | a computation that crashes          |
| answers a partial handler | `answer_calmed` | the answer is one that crashes      |
-/
import Resumption.Proofs.Panics.Layered

namespace Resumption

universe u

open Assembly (after answer crash failing offered)

/-- A closure that is settled fails with its panic, too. -/
theorem Host.caught_settled {σ α : Type} (h : Host σ (Except Failure α)) (w : σ) :
    h.caught w = (h.settled.map failing).caught w := by
  simp only [caught, settled, map, bind]
  rcases h w with ⟨p | r, w'⟩ <;> rfl

section Bottom

variable {σ : Type} {M : Type → Type u} [Carrier σ M] [ErrorChannel σ M Failure] {α : Type}

variable (σ) in
/-- The end of a closure as a computation of the bottom carrier. -/
def landed : Except Panic α → M α
  | .ok a => Carrier.pure σ a
  | .error p => ErrorChannel.raise σ (.ofPanic p)

/-- A calming that the operations of the bottom carrier respect. -/
class CalmBottom (bottom : Bottom) (σ : Type) (M : Type → Type u) [Calming M] [Carrier σ M]
    [ErrorChannel σ M Failure] [Native.{u, 0} .full σ M] [Concurrent bottom σ M] : Prop where
  crash {α : Type} (p : Panic) : Crashes p (ErrorChannel.raise σ (Failure.ofPanic p) : M α)
  ofHost {α : Type} (h : Host σ α) : StandIn (Native.ofHost.{u, 0} rfl h : M α)
    (Native.perform.{u, 0} rfl ((h.map .ok).settled.map failing))
  perform {α : Type} (h : Host σ (Except Failure α)) : StandIn (Native.perform.{u, 0} rfl h : M α)
    (Native.perform.{u, 0} rfl (h.settled.map failing))
  outcome {α : Type} {m n : M α} : StandIn m n →
    StandIn (Native.outcome.{u, 0} σ rfl m : M (Either Failure α)) (Native.outcome.{u, 0} σ rfl n)
  pauseThen {α : Type} (waits : bottom = .future) (h : Host σ α) :
    CalmlyBuilt (σ := σ) (Host.pure (Concurrent.pauseThen waits h : M α))
      (Carrier.bind (Concurrent.pauseThen waits h.settled : M (Except Panic α))
        fun r => Host.pure (landed σ r))
  never {α : Type} (waits : bottom = .future) :
    StandIn (Concurrent.never σ waits : M α) (Concurrent.never σ waits)
  both {α β γ : Type} (waits : bottom = .future) {m m' : M α} {n n' : M β} (f : α → β → Host σ γ) :
    StandIn m m' → StandIn n n' → CalmlyBuilt (σ := σ) (Host.pure (Concurrent.both waits m n f))
      (Carrier.bind (Concurrent.both waits m' n' fun a b => Host.pure (σ := σ) (a, b))
        fun x => (f x.1 x.2).settled.map (landed σ))
  within {α : Type} (waits : bottom = .future) (limit : Duration) {m n : M α} : StandIn m n →
    StandIn (Concurrent.within σ waits limit m) (Concurrent.within σ waits limit n)

end Bottom

namespace Assembly

variable {bottom : Bottom} {σ : Type} [Observer σ] {M : Type → Type u} [Carrier σ M]
  [ErrorChannel σ M Failure] [Deferrable σ M] [Sleeper σ M] [Bracketing σ M] [Loop.{u, 0} σ M]
  [Native.{u, 0} .full σ M] [Concurrent bottom σ M] {layers : List (Route × Type)}
  {α β ε ι : Type}

/-- At the bottom, the calmed computation goes on by the end of the closure. -/
theorem after_pure_built : (fun r => (after pure r : Assembly bottom σ [] α).build M) =
    fun r => Host.pure (landed σ r : M α) := by
  funext r
  cases r <;> rfl

variable [Calming M] [LawfulCalming σ M]

theorem pure_built (a : α) : CalmlyBuilt (Host.pure (Carrier.pure σ a : Layers M layers α))
    ((pure a : Assembly bottom σ layers α).build M) :=
  .of_stands (LawfulCalming.pure a)

variable [CalmBottom bottom σ M]

/-- A failure of the bottom carrier passes through every layer. -/
theorem crash_built (p : Panic) (layers : List (Route × Type)) :
    CrashBuilt p ((crash layers (.ofPanic p) : Assembly bottom σ layers α).build M) := by
  induction layers with
  | nil =>
    -- Over no layers the stack is the bottom carrier, which its type does not show.
    have crashes : Crashes p (ErrorChannel.raise σ (Failure.ofPanic p) : M α) :=
      CalmBottom.crash bottom p
    exact ⟨_, rfl, crashes⟩
  | cons layer layers ih =>
    obtain ⟨m, built, crashes⟩ := ih
    show CrashBuilt p (((crash layers _ : Assembly bottom σ layers α).build M).bind Layered.lift)
    rw [built]
    exact Layered.lift_crashBuilt crashes

/-- A closure that names what comes next. -/
theorem after_calmed (h : Host σ ι) {named : ι → Host σ (Layers M layers α)}
    {named' : ι → Assembly bottom σ layers α}
    (built : ∀ i, CalmlyBuilt (named i) ((named' i).build M)) :
    (h.bind named).CalmedBy (h.settled.bind fun i => (after named' i).build M) :=
  Host.settledBy_after h (fun i => (built i).calmedBy) fun p => crash_built p layers

variable (bottom) in
/-- A closure that computes the value. -/
theorem value_calmed (h : Host σ α) :
    (h.map (Carrier.pure σ)).CalmedBy
      (h.settled.bind fun i => (after pure i : Assembly bottom σ layers α).build M) :=
  after_calmed h pure_built

/-- A closure that answers a partial handler. -/
theorem answer_calmed (h : Host σ (Option ι)) {named : ι → Host σ (Layers M layers α)}
    {named' : ι → Assembly bottom σ layers α}
    (built : ∀ i, CalmlyBuilt (named i) ((named' i).build M)) :
    (h.bind (offered named)).SettledBy (Option.Rel StandIn)
      (fun p o => ∃ c, o = some c ∧ Crashes p c)
      ((h.settled.map answer).bind (offered fun i => (after named' i).build M)) := by
  rw [Host.map, Host.bind_assoc]
  refine Host.settledBy_after h (fun o => ?_) fun p => ?_
  · cases o with
    | none => exact .pure .none
    | some i =>
      obtain ⟨m, n, first, second, stands⟩ := built i
      show Host.SettledBy _ _ ((named i).map some) (((named' i).build M).map some)
      rw [first, second]
      exact .pure (.some stands)
  · show ∃ o, ((crash layers (.ofPanic p) : Assembly bottom σ layers α).build M).map some = .pure o ∧ _
    exact (crash_built p layers).map (D := fun p o => ∃ c, o = some c ∧ Crashes p c)
      fun c crashes => ⟨c, rfl, crashes⟩

/-- A closure that answers a partial handler with a value. -/
theorem offer_calmed (h : Host σ (Option α)) :
    (h.bind fun a => Host.pure (a.map (Carrier.pure σ))).SettledBy (Option.Rel StandIn)
      (fun p o => ∃ c : Layers M layers α, o = some c ∧ Crashes p c)
      ((h.settled.map answer).bind
        (offered fun i => (after pure i : Assembly bottom σ layers α).build M)) := by
  have offers : (fun a => Host.pure (a.map (Carrier.pure σ))) =
      offered (σ := σ) (M := Layers M layers) (α := α) fun a => .pure (Carrier.pure σ a) := by
    funext o
    cases o <;> rfl
  rw [offers]
  exact answer_calmed h pure_built

/-- A closure that computes a value from either side of a layer. -/
theorem sides_calmlyBuilt {route : Route} {t t' : Assembly bottom σ ((route, ε) :: layers) α}
    (built : CalmlyBuilt (t.build M) (t'.build M)) (f : Either ε α → Host σ β) :
    CalmlyBuilt ((t.build M).bind fun m => Mappable.map m.base f)
      ((bind (base t') (fun x => (f x).settled) (after pure)).build M) := by
  obtain ⟨m, n, first, second, stands⟩ := built
  show CalmlyBuilt _ (((t'.build M).map Layered.base).bind _)
  rw [first, second]
  exact LawfulCalming.map_bind stands fun x => value_calmed bottom (f x)

/-- The same for a closure that computes both sides of a layer. -/
theorem rebased_calmlyBuilt {route route' : Route} {ε' : Type}
    {t t' : Assembly bottom σ ((route, ε) :: layers) α}
    (built : CalmlyBuilt (t.build M) (t'.build M)) (f : Either ε α → Host σ (Either ε' β)) :
    CalmlyBuilt (M := Layers M ((route', ε') :: layers))
      ((t.build M).bind fun m => (Mappable.map m.base f).map Layered.mk)
      ((ofBase (bind (base t') (fun x => (f x).settled) (after pure)) :
        Assembly bottom σ ((route', ε') :: layers) β).build M) := by
  have rebased : CalmlyBuilt (M := Layered route' (Layers M layers) ε') _ _ :=
    Layered.calmlyBuilt_mk (sides_calmlyBuilt built f)
  rw [Host.map, Host.bind_assoc] at rebased
  exact rebased

variable [CalmChannel (ε := Failure) σ M]

variable (bottom) in
/-- A closure that ends with an error or a value. -/
theorem raising_calmed (channel : Channel layers ε) (h : Host σ (Either ε α)) :
    letI := channel.through σ M
    haveI := channel.calm (σ := σ) (M := M)
    (h.bind fun x => Host.pure (Resumption.fromEither (σ := σ) x : Layers M layers α)).CalmedBy
      (h.settled.bind fun i =>
        (after (fromEither channel) i : Assembly bottom σ layers α).build M) := by
  let _ := channel.through σ M
  have _ := channel.calm (σ := σ) (M := M)
  have built (x : Either ε α) : CalmlyBuilt
      (Host.pure (Resumption.fromEither (σ := σ) x : Layers M layers α))
      ((fromEither channel x : Assembly bottom σ layers α).build M) :=
    .of_stands (StandIn.fromEither x)
  exact after_calmed h built

omit [Observer σ] in
/-- A test raises what the closure that it comes to ends with. -/
theorem ensure_eq {N : Type → Type u} [Carrier σ N] [ErrorChannel σ N ε] (m : N α)
    (test : α → Host σ Bool) (error : Host σ ε) :
    Resumption.ensure m test error = Carrier.bind m fun a =>
      (tested test error a).bind fun x => .pure (Resumption.fromEither (σ := σ) x) := by
  unfold Resumption.ensure tested
  congr 1
  funext a
  rw [Host.bind_assoc]
  congr 1
  funext passed
  cases passed with
  | true => rfl
  | false =>
    show _ = (error.map Either.left).bind _
    rw [Host.map, Host.bind_assoc]
    rfl

variable [CalmEffects σ M] [CalmBracketing σ M]

/-- Building an assembly runs nothing, and what its calmed form builds stands for it. -/
theorem calmlyBuilt (t : Assembly bottom σ layers α) :
    CalmlyBuilt (t.build M) (t.calmed.build M) := by
  induction t with
  | pure a => exact .of_stands (LawfulCalming.pure a)
  | map t f ih =>
    exact ih.bind fun m n stands => LawfulCalming.map_bind stands fun x => value_calmed bottom (f x)
  | bind t k named ih ihn =>
    exact ih.bind fun m n stands => LawfulCalming.bind stands fun x => after_calmed (k x) ihn
  | replace t b ih => exact ih.bind fun m n stands => .replace stands b
  | void t ih => exact ih.bind fun m n stands => .replace stands ()
  | andThen t t' ih ih' =>
    exact ih.bind fun m n first => ih'.bind fun m' n' second => .andThen first second
  | map2 t t' f ih ih' =>
    refine ih.bind fun m n first => ?_
    obtain ⟨m', n', built, built', second⟩ := ih'
    rw [built]
    show CalmlyBuilt _ (Carrier.bind n fun a => (t'.calmed.build M).bind _)
    rw [built']
    exact .map2 first second fun a b => value_calmed bottom (f a b)
  | defer h named ihn => exact CalmEffects.defer (after_calmed h ihn)
  | delay h => exact CalmEffects.defer (value_calmed bottom h)
  | sleep ms => exact CalmEffects.sleep ms
  | loop wf step named start ihn =>
    refine CalmEffects.iterate 0 wf (fun s => Host.settledBy_after (step s) (fun i => ?_) fun p => ?_)
      start
    · exact (ihn s i).calmedBy.map (fun _ _ stands => .await stands .pure)
        fun _ _ crashes => .await crashes
    · exact (crash_built p _).map fun c crashes => .await crashes
  | raise channel e =>
    let _ := channel.through σ M
    have _ := channel.calm (σ := σ) (M := M)
    exact .of_stands (CalmChannel.raise e)
  | raiseMessage channel message =>
    let _ := channel.through σ M
    have _ := channel.calm (σ := σ) (M := M)
    exact .of_stands (CalmChannel.raise _)
  | fromEither channel x =>
    let _ := channel.through σ M
    have _ := channel.calm (σ := σ) (M := M)
    exact .of_stands (StandIn.fromEither x)
  | handle channel t k named ih ihn =>
    let _ := channel.through σ M
    have _ := channel.calm (σ := σ) (M := M)
    exact ih.bind fun m n stands => CalmChannel.handle stands fun e => after_calmed (k e) ihn
  | handleError channel t f ih =>
    let _ := channel.through σ M
    have _ := channel.calm (σ := σ) (M := M)
    exact ih.bind fun m n stands => CalmChannel.handle stands fun e => value_calmed bottom (f e)
  | attempt channel t ih =>
    let _ := channel.through σ M
    have _ := channel.calm (σ := σ) (M := M)
    exact ih.bind fun m n stands => .attempt stands
  | recoverWith channel t k named ih ihn =>
    let _ := channel.through σ M
    have _ := channel.calm (σ := σ) (M := M)
    exact ih.bind fun m n stands => .recoverWith stands fun e => answer_calmed (k e) ihn
  | recover channel t f ih =>
    let _ := channel.through σ M
    have _ := channel.calm (σ := σ) (M := M)
    exact ih.bind fun m n stands => .recoverWith stands fun e => offer_calmed (f e)
  | redeem channel t onError onValue ih =>
    let _ := channel.through σ M
    have _ := channel.calm (σ := σ) (M := M)
    have attempted : CalmlyBuilt ((t.build M).bind Resumption.attempt)
        ((t.calmed.build M).bind Resumption.attempt) := ih.bind fun m n stands => .attempt stands
    have mapped := attempted.bind fun m n stands => LawfulCalming.map_bind stands fun x =>
      value_calmed bottom (x.fold onError onValue)
    rw [Host.bind_assoc] at mapped
    exact mapped
  | ensure channel t test error ih =>
    let _ := channel.through σ M
    have _ := channel.calm (σ := σ) (M := M)
    refine ih.bind fun m n stands => ?_
    rw [ensure_eq]
    exact LawfulCalming.bind stands fun a => raising_calmed bottom channel (tested test error a)
  | bracket plain acquire use used release released ih ihu ihr =>
    let _ := plain.bracketing σ M
    have _ := plain.calm (σ := σ) (M := M)
    exact ih.bind fun m n stands => .bracket stands (fun x => after_calmed (use x) ihu)
      fun x => after_calmed (release x) ihr
  | guarantee plain t finalizer ih ihf =>
    let _ := plain.bracketing σ M
    have _ := plain.calm (σ := σ) (M := M)
    exact ih.bind fun m n stands => ihf.bind fun m' n' finalizes => .guarantee stands finalizes
  | ofBase t ih => exact Layered.calmlyBuilt_mk ih
  | base t ih => exact ih.bind fun m n stands => .of_stands stands
  | rerouted route' t ih => exact ih.bind fun m n stands => .of_stands stands
  | lift t ih => exact ih.bind fun m n stands => Layered.lift_calmlyBuilt stands
  | ofEither x => exact .of_stands (LawfulCalming.pure x)
  | bindBase t k named ih ihn =>
    exact ih.bind fun m n stands =>
      Layered.bindBase_calmlyBuilt stands fun x => after_calmed (k x) ihn
  | bimap t f g ih => exact rebased_calmlyBuilt ih (Either.bimap f g)
  | mapLeft t f ih => exact rebased_calmlyBuilt ih (Either.mapLeft f)
  | swap t ih => exact ih.bind fun m n stands => Layered.swap_calmlyBuilt stands
  | fold t f g ih => exact sides_calmlyBuilt ih (Either.fold f g)
  | getOrElse t f ih => exact sides_calmlyBuilt ih (Either.fold f .pure)
  | ofHost h => exact .of_stands (CalmBottom.ofHost (M := M) bottom h)
  | perform h => exact .of_stands (CalmBottom.perform (M := M) bottom h)
  | outcome t ih =>
    refine ih.bind fun m n stands => .of_stands ?_
    have stands : StandIn (M := M) m n := stands
    have exposed := CalmBottom.outcome (σ := σ) (M := M) bottom stands
    exact exposed
  | pauseThen waits h =>
    have paused := CalmBottom.pauseThen (M := M) waits h
    show CalmlyBuilt _ (Carrier.bind (Concurrent.pauseThen waits h.settled : M _)
      fun r => (after pure r : Assembly bottom σ [] _).build M)
    rw [after_pure_built]
    exact paused
  | @never α waits =>
    have waiting : StandIn (Concurrent.never σ waits : M α) (Concurrent.never σ waits) :=
      CalmBottom.never waits
    exact .of_stands waiting
  | both waits t t' f ih ih' =>
    obtain ⟨m, n, built, built', stands⟩ := ih
    obtain ⟨m', n', built₂, built₂', stands'⟩ := ih'
    have joined := CalmBottom.both (M := M) waits f stands stands'
    show CalmlyBuilt ((t.build M).bind fun (m : M _) => (t'.build M).map fun (n : M _) =>
        (Concurrent.both waits m n f : M _))
      (((t.calmed.build M).bind fun (m : M _) => (t'.calmed.build M).map fun (n : M _) =>
        (Concurrent.both waits m n fun a b => Host.pure (a, b) : M _)).bind fun m =>
          Carrier.bind m fun x => (f x.1 x.2).settled.bind fun r =>
            (after pure r : Assembly bottom σ [] _).build M)
    rw [built, built', built₂, built₂']
    rw [after_pure_built]
    exact joined
  | within waits limit t ih =>
    refine ih.bind fun m n stands => .of_stands ?_
    have stands : StandIn (M := M) m n := stands
    have limited := CalmBottom.within (σ := σ) (M := M) waits limit stands
    exact limited

end Assembly

end Resumption
