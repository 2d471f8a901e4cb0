/-
Routing — a fold sends every effect to its own interpreter.

A program over a coproduct is folded by a nest.  Seen from the place of an interpreter, a
passage is the applications of that interpreter, in the order of the program, each from the
state that the one before it left (`Interpreter.Answers`); what the passage does elsewhere
does not show (`Program.Passes.answers`).

If every effect of a program is injected at one place, it folds as the same program over
that effect alone does, by the interpreter of the place (`Draft.fold_injected`).  The two
programs are put together alike, from injected and from lifted effects; the first is the
embedding of the second, whose meaning is that of the second beside the states of the
others (`Program.meaning_embed`).
-/
import Resumption.Proofs.Coproduct.Place
import Resumption.Proofs.Program.Carrier
import Resumption.Proofs.Program.Passage

namespace Resumption

universe u v w x y

variable {σ τ υ : Type} {E : Type → Type x} {G : Type → Type y} {M : Type → Type u} {α β : Type}

/-! ## What an interpreter answers -/

/-- The interpreter is applied to one effect after another, from this state on, and leaves
the last state, or none where it panicked. -/
inductive Interpreter.Answers (n : Interpreter σ τ E M) :
    τ → List (Moment E τ) → Option τ → Prop
  | idle (t : τ) : Answers n t [] (some t)
  | refused {α : Type} {e : E α} {p : Panic} {t : τ} {w w' : σ} :
      n.apply e t w = (.error p, w') → Answers n t [.applied e t none] none
  | answered {α : Type} {e : E α} {r : M α} {t t₁ : τ} {w w' : σ} {tr : List (Moment E τ)}
      {o : Option τ} :
      n.apply e t w = (.ok (r, t₁), w') → Answers n t₁ tr o →
      Answers n t (.applied e t (some t₁) :: tr) o

theorem Interpreter.Answers.append {n : Interpreter σ τ E M} {t t₁ : τ} {a : Option τ}
    {tr tr' : List (Moment E τ)} {o : Option τ} (one : n.Answers t tr a) (left : a = some t₁)
    (two : n.Answers t₁ tr' o) : n.Answers t (tr ++ tr') o := by
  induction one with
  | idle t => cases left; exact two
  | refused => cases left
  | answered applied _ ih => exact .answered applied (ih left)

/-- The moment as it shows at the place. -/
def Place.moment? (s : Place E G τ υ) : Moment G υ → Option (Moment E τ)
  | .applied g u u' => (s.effect? g).map fun e => .applied e (s.get u) (u'.map s.get)
  | _ => none

/-- What shows of a passage at the place is what the interpreter answers; where the passage
ends with a value, it leaves the state of the place as the last answer did. -/
def Place.Shows {B : Type} (s : Place E G τ υ) (n : Interpreter σ τ E M) (u : υ)
    (tr : List (Moment G υ)) (x : Except B (α × υ)) : Prop :=
  ∃ o, n.Answers (s.get u) (tr.filterMap s.moment?) o ∧
    ∀ a u', x = .ok (a, u') → o = some (s.get u')

section Passing

variable {s : Place E G τ υ} {n : Interpreter σ τ E M} {m : Interpreter σ υ G M}

theorem Place.Shows.append {B α β : Type} {u u₁ : υ} {a : α} {tr tr' : List (Moment G υ)}
    {x : Except B (β × υ)} (one : s.Shows n u tr (.ok (a, u₁) : Except B (α × υ)))
    (two : s.Shows n u₁ tr' x) : s.Shows n u (tr ++ tr') x := by
  obtain ⟨o, answers, left⟩ := one
  obtain ⟨o', answers', left'⟩ := two
  refine ⟨o', ?_, left'⟩
  rw [List.filterMap_append]
  exact answers.append (left a u₁ rfl) answers'

/-- After a break, it does not matter which value was awaited. -/
theorem Place.Shows.broken {B α β : Type} {u : υ} {b : B} {tr : List (Moment G υ)}
    (shows : s.Shows n u tr (.error b : Except B (α × υ))) :
    s.Shows n u tr (.error b : Except B (β × υ)) := by
  obtain ⟨o, answers, -⟩ := shows
  exact ⟨o, answers, nofun⟩

theorem Place.shows_nothing {B : Type} {u : υ} {x : Except B (α × υ)} {tr : List (Moment G υ)}
    (nothing : tr.filterMap s.moment? = []) (kept : ∀ a u', x = .ok (a, u') → u' = u) :
    s.Shows n u tr x :=
  ⟨some (s.get u), nothing ▸ .idle _, fun a u' ended => by rw [kept a u' ended]⟩

variable [Mappable σ E] [Mappable σ G]

/-- An effect shows as an answer if it is one of the place, and otherwise not at all. -/
theorem Place.Serves.shows_applied (serves : s.Serves n m) {B : Type} {step : FoldStep} {g : G α}
    {r : M α} {u u₁ : υ} {w w' : σ} (applied : m.apply g u w = (.ok (r, u₁), w'))
    {x : Except B (β × υ)} (kept : ∀ b u', x = .ok (b, u') → u' = u₁) :
    s.Shows n u [.told step, .applied g u (some u₁)] x := by
  refine ⟨some (s.get u₁), ?_, fun b u' ended => by rw [kept b u' ended]⟩
  rcases place : s.effect? g with _ | e
  · rw [serves.apply_other place applied]
    simp only [List.filterMap, moment?, place, Option.map_none]
    exact .idle _
  · rw [← serves.inject_effect place, ← serves.join_get_others u, serves.apply_inject] at applied
    obtain ⟨⟨r', t⟩, answer, rest⟩ := Host.map_eq_ok.mp applied
    cases rest
    simp only [List.filterMap, moment?, place, Option.map_some, serves.get_join]
    exact .answered answer (.idle t)

theorem Place.Serves.shows_refused (serves : s.Serves n m) {B : Type} {step : FoldStep} {g : G α}
    {p : Panic} {u : υ} {w w' : σ} (applied : m.apply g u w = (.error p, w')) {b : B} :
    s.Shows n u [.told step, .applied g u none] (.error b : Except B (β × υ)) := by
  rcases place : s.effect? g with _ | e
  · refine shows_nothing ?_ nofun
    simp only [List.filterMap, moment?, place, Option.map_none]
  · rw [← serves.inject_effect place, ← serves.join_get_others u, serves.apply_inject] at applied
    refine ⟨none, ?_, nofun⟩
    simp only [List.filterMap, moment?, place, Option.map_some, Option.map_none]
    exact .refused (Host.map_eq_error.mp applied)

variable [Observer σ] [Halting σ M]

open Halting

mutual

/-- What shows of a passage through a program are the answers of the interpreter. -/
theorem Program.Passes.shows (serves : s.Serves n m) {last : Bool} {α : Type}
    {p : Program σ G α} {u : υ} {c c' : Setting σ M} {w w' : σ} {tr : List (Moment G υ)}
    {x : Except (Break (Halt σ M)) (α × υ)} :
    p.Passes m last u c w tr x w' c' → s.Shows n u tr x
  | .done => Place.shows_nothing rfl (by rintro _ _ ⟨⟩; rfl)
  | .finished => Place.shows_nothing rfl (by rintro _ _ ⟨⟩; rfl)
  | .effect applied _ => serves.shows_applied applied (by rintro _ _ ⟨⟩; rfl)
  | .halted applied _ => serves.shows_applied applied nofun
  | .refused applied => serves.shows_refused applied
  | .bound source rest => (Program.Passes.shows serves source).append (rest.shows serves)
  | .broken source => (Program.Passes.shows serves source).broken

/-- So are those of a passage through a queue. -/
theorem Arrows.Passes.shows (serves : s.Serves n m) {last : Bool} {α β : Type}
    {q : Arrows σ G α β} {a : α} {u : υ} {c c' : Setting σ M} {w w' : σ} {tr : List (Moment G υ)}
    {x : Except (Break (Halt σ M)) (β × υ)} :
    q.Passes m last a u c w tr x w' c' → s.Shows n u tr x
  | .called _ passes =>
    -- the call itself does not show
    have shows := Program.Passes.shows serves passes
    shows
  | .panicked _ => Place.shows_nothing rfl nofun
  | .append source rest => (Arrows.Passes.shows serves source).append (rest.shows serves)
  | .broken source => (Arrows.Passes.shows serves source).broken

end

end Passing

/-! ## Programs over one effect -/

mutual

/-- The program with every effect injected. -/
def Program.embed (i : Injection E G) {α : Type} : Program σ E α → Program σ G α
  | .done a => .done a
  | .suspend e => .suspend (i.inject e)
  | .bound p q => .bound (p.embed i) (q.embed i)

/-- The queue with every effect injected. -/
def Arrows.embed (i : Injection E G) {α β : Type} : Arrows σ E α β → Arrows σ G α β
  | .one f => .one fun a w => (f a w).embed i
  | .append q r => .append (q.embed i) (r.embed i)

/-- The call with every effect of its program injected. -/
def Program.Call.embed (i : Injection E G) {α : Type} : Program.Call σ E α → Program.Call σ G α
  | .returned p w => .returned (p.embed i) w
  | .panicked p w => .panicked p w

end

theorem Program.Call.embed_ofRun (i : Injection E G)
    (r : Except Panic (Program σ E α) × σ) :
    (Program.Call.ofRun r).embed i = .ofRun (r.1.map (Program.embed i), r.2) := by
  rcases r with ⟨p | p, w⟩
  · simp only [ofRun, embed, Except.map]
  · simp only [ofRun, embed, Except.map]

theorem Program.embed_bind (i : Injection E G) (p : Program σ E α)
    (k : α → Host σ (Program σ E β)) :
    (p.bind k).embed i = (p.embed i).bind fun a => (k a).map (Program.embed i) := by
  simp only [Program.bind, Arrows.ofHost, Program.embed, Arrows.embed, Program.Call.embed_ofRun,
    Host.map_apply]

mutual

/-- The draft with injected effects in the place of the lifted ones. -/
def Draft.injected (i : Injection E G) {α : Type} : Draft σ E α → Draft σ G α
  | .pure a => .pure a
  | .lift e => .lift (i.inject e)
  | .bind d k => .bind (d.injected i) fun a w => (k a w).injected i

/-- The call with injected effects in its draft. -/
def Draft.Call.injected (i : Injection E G) {α : Type} : Draft.Call σ E α → Draft.Call σ G α
  | .returned d w => .returned (d.injected i) w
  | .panicked p w => .panicked p w

end

section Injected

variable [Mappable σ E] [Mappable σ G] {s : Place E G τ υ} {n : Interpreter σ τ E M}
  {m : Interpreter σ υ G M}

/-- Injecting an effect is lifting it and embedding what was lifted. -/
theorem Program.inject_eq (serves : s.Serves n m) (e : E α) :
    Program.inject (σ := σ) s.injection e = (Program.lift e).map (Program.embed s.injection) := by
  unfold Program.inject Program.lift
  rw [serves.map_inject, Host.map_map, Host.map_map]
  refine congrArg (fun f => Host.map f _) (funext fun e' => ?_)
  simp only [Function.comp_apply, Program.embed]

mutual

/-- What is built from injected effects is the embedding of what is built from lifted ones. -/
theorem Draft.build_injected (serves : s.Serves n m) {α : Type} : (d : Draft σ E α) →
    (d.injected s.injection).build = d.build.map (Program.embed s.injection)
  | .pure a => by
    simp only [injected, build]
    rw [show Program.done a = (Program.done a).embed s.injection by rw [Program.embed]]
    rfl
  | .lift e => by
    simp only [injected, build]
    exact Program.inject_eq serves e
  | .bind d k => by
    simp only [injected, build, Draft.build_injected serves d, Host.map_map]
    refine congrArg (fun f => Host.map f _) (funext fun p => ?_)
    refine Eq.trans ?_ (Program.embed_bind _ p _).symm
    refine congrArg (Program.bind _) (funext fun a => funext fun w => ?_)
    exact (Call.build_injected serves (k a w)).trans
      (Host.map_apply (fun w => (k a w).build) _ w).symm

theorem Draft.Call.build_injected (serves : s.Serves n m) {α : Type} : (c : Draft.Call σ E α) →
    (c.injected s.injection).build = (c.build.1.map (Program.embed s.injection), c.build.2)
  | .returned d w => by
    simp only [Call.injected, Call.build, Draft.build_injected serves d, Host.map_apply]
  | .panicked p w => by
    simp only [Call.injected, Call.build, Except.map]

end

/-! ## Folding them -/

variable [Observer σ] [Carrier σ M] [Observed σ M]

/-- A value with the state of the place, put beside the states of the others. -/
def Place.beside (s : Place E G τ υ) (o : s.Others) (x : α × τ) : Host σ (M (α × υ)) :=
  .pure (Carrier.pure σ (x.1, s.join x.2 o))

omit [Observer σ] in
/-- An injected effect means what it means at its place. -/
theorem Interpreter.carry_inject [LawfulCarrier σ M] (serves : s.Serves n m) (e : E α) (t : τ)
    (o : s.Others) : Agree (m.carry (s.injection.inject e) (s.join t o))
      ((n.carry e t).chain (s.beside o)) := by
  unfold Interpreter.carry
  rw [serves.apply_inject]
  refine (Agree.of_eq (Host.bind_assoc ..)).trans ?_
  refine Agree.trans ?_ (Agree.of_eq (Host.bind_assoc ..).symm)
  refine Agree.bind _ fun x => ?_
  refine Agree.trans ?_ (Agree.map_chain x.1 (fun a => (a, x.2)) (s.beside o)).symm
  exact LawfulCarrier.map_eq x.1 _

mutual

/-- Embedding keeps the meaning, beside the states of the others. -/
theorem Program.meaning_embed [LawfulCarrier σ M] (serves : s.Serves n m) (o : s.Others)
    {α : Type} (last : Bool) : (p : Program σ E α) → (t : τ) →
      Agree ((p.embed s.injection).meaning m last (s.join t o))
        ((p.meaning n last t).chain (s.beside o))
  | .done a, t => by
    intro w
    simp only [Program.embed, Program.meaning]
    exact Observed.symm (LawfulCarrier.pure_bind (a, t) (s.beside o) _)
  | .suspend e, t => by
    intro w
    simp only [Program.embed, Program.meaning]
    exact Interpreter.carry_inject serves e t o _
  | .bound p q, t => by
    simp only [Program.embed, Program.meaning]
    refine (Agree.chain_left (Program.meaning_embed serves o false p t) _).trans ?_
    refine (Agree.chain_assoc _ _ _).trans ((Agree.chain_right _ fun x => ?_).trans
      (Agree.chain_assoc _ _ _).symm)
    refine (Agree.pure_chain _ _).trans ?_
    exact Arrows.meaning_embed serves o last q x.1 x.2

theorem Arrows.meaning_embed [LawfulCarrier σ M] (serves : s.Serves n m) (o : s.Others)
    {α β : Type} (last : Bool) : (q : Arrows σ E α β) → (a : α) → (t : τ) →
      Agree ((q.embed s.injection).meaning m last a (s.join t o))
        ((q.meaning n last a t).chain (s.beside o))
  | .one f, a, t => by
    intro w
    simp only [Arrows.embed, Arrows.meaning]
    exact Program.Call.meaning_embed serves o last (f a w) t w
  | .append q r, a, t => by
    simp only [Arrows.embed, Arrows.meaning]
    refine (Agree.chain_left (Arrows.meaning_embed serves o false q a t) _).trans ?_
    refine (Agree.chain_assoc _ _ _).trans ((Agree.chain_right _ fun x => ?_).trans
      (Agree.chain_assoc _ _ _).symm)
    refine (Agree.pure_chain _ _).trans ?_
    exact Arrows.meaning_embed serves o last r x.1 x.2

theorem Program.Call.meaning_embed [LawfulCarrier σ M] (serves : s.Serves n m) (o : s.Others)
    {α : Type} (last : Bool) : (c : Program.Call σ E α) → (t : τ) → (w : σ) →
      Observed.Same ((c.embed s.injection).meaning m last (s.join t o))
        (Host.chain (fun _ => c.meaning n last t) (s.beside o) w)
  | .returned p w, t, _ => by
    simp only [Program.Call.embed, Program.Call.meaning]
    exact Program.meaning_embed serves o last p t w
  | .panicked p w, t, _ => by
    simp only [Program.Call.embed, Program.Call.meaning]
    exact Observed.refl _

end

end Injected

section Folding

variable {E G : Type → Type v} [Mappable σ E] [Mappable σ G] {s : Place E G τ υ}
  {n : Interpreter σ τ E M} {m : Interpreter σ υ G M} [Observer σ] [Carrier σ M] [Observed σ M]
  [LawfulCarrier σ M] [Loop.{u, max 1 v} σ M] [LawfulLoop.{u, max 1 v} σ M]

/-- An embedded program folds as the program itself. -/
theorem Program.fold_embed (serves : s.Serves n m) (p : Program σ E α) (t : τ) (o : s.Others) :
    Agree ((p.embed s.injection).fold m (s.join t o)) (p.fold n t) :=
  calc (p.embed s.injection).fold m (s.join t o)
    Agree _ (((p.embed s.injection).meaning m true (s.join t o)).chain dropState) :=
      fold_agrees m _ _
    Agree _ (((p.meaning n true t).chain (s.beside o)).chain dropState) :=
      Agree.chain_left (meaning_embed serves o true p t) _
    Agree _ ((p.meaning n true t).chain dropState) :=
      (Agree.chain_assoc _ _ _).trans (Agree.chain_right _ fun _ => Agree.pure_chain _ _)
    Agree _ (p.fold n t) := (fold_agrees n t p).symm

/-- A program built from injected effects folds as the one built from lifted effects. -/
theorem Draft.fold_injected (serves : s.Serves n m) (d : Draft σ E α) (t : τ) (o : s.Others) :
    Agree ((d.injected s.injection).build.bind fun p => p.fold m (s.join t o))
      (d.build.bind fun p => p.fold n t) := by
  rw [Draft.build_injected serves]
  refine (Agree.of_eq (Host.bind_assoc ..)).trans (Agree.bind _ fun p => ?_)
  exact Program.fold_embed serves p t o

end Folding

/-! ## Routing into every carrier -/

open Halting

/-- At this place a nest routes: it serves there, and it applies the interpreter of the place
to what any mapping makes of an injected effect. -/
structure Place.Routes {E G : Type → Type v} [Mappable σ E] [Mappable σ G] (s : Place E G τ υ)
    (n : Interpreter σ τ E M) (m : Interpreter σ υ G M) : Prop where
  serves : s.Serves n m
  mapping_inject {α β : Type} (fs : Mapping σ α β) (e : E α) :
    fs.apply (s.injection.inject e) = (fs.apply e).map s.injection.inject
  apply_mapping {α β : Type} (fs : Mapping σ α β) (e : E α) (t : τ) (o : s.Others) :
    ((fs.apply (s.injection.inject e)).bind fun g => m.apply g (s.join t o)) =
      ((fs.apply e).bind fun e' => n.apply e' t).map fun (r, t') => (r, s.join t' o)

theorem Place.Stands.routes {E G : Type → Type v} [Mappable σ E] [Mappable σ G]
    {s : Place E G τ υ} {n : Interpreter σ τ E M} {m : Interpreter σ υ G M}
    (stands : s.Stands n m) : s.Routes n m :=
  ⟨stands.serves, stands.serves.mapping_inject, stands.serves.apply_mapping⟩

/-- At this place a fold into the carrier `M` routes.

* A run of the fold is a passage through the program, and what shows of it at the place is
  what the interpreter answers: `shows`.
* A program of injected effects folds as the program of these effects alone: `alone`. -/
structure Place.RoutesFolds {E G : Type → Type v} [Mappable σ E] [Mappable σ G]
    (s : Place E G τ υ) (n : Interpreter σ τ E M) (m : Interpreter σ υ G M) [Observer σ]
    [Carrier σ M] [Observed σ M] [Halting σ M] [Loop.{u, max 1 v} σ M] : Prop where
  shows {α : Type} (p : Program σ G α) (u : υ) (c : Setting σ M) (w : σ)
    (o : Except (Halt σ M) α) (w' : σ) (c' : Setting σ M) : Halts c (p.fold m u w) o w' c' ↔
      ∃ tr x, p.Passes m true u c w tr x w' c' ∧ (x.map Prod.fst).mapError Break.toHalt = o ∧
        s.Shows n u tr x
  alone {α : Type} (d : Draft σ E α) (t : τ) (o : s.Others) :
    Agree ((d.injected s.injection).build.bind fun p => p.fold m (s.join t o))
      (d.build.bind fun p => p.fold n t)

/-- Into the carrier `M`, folds route at every place where an interpreter stands. -/
def RoutesFolds (σ : Type) (M : Type → Type u) [Observer σ] [Carrier σ M] [Observed σ M]
    [Halting σ M] [Loop.{u, max 1 v} σ M] : Prop :=
  ∀ {E G : Type → Type v} {τ υ : Type} [Mappable σ E] [Mappable σ G] {s : Place E G τ υ}
    {n : Interpreter σ τ E M} {m : Interpreter σ υ G M}, s.Stands n m → s.RoutesFolds n m

theorem routesFolds [Observer σ] [Carrier σ M] [Observed σ M] [LawfulCarrier σ M] [Halting σ M]
    [LawfulHalting σ M] [Loop.{u, max 1 v} σ M] [LawfulLoop.{u, max 1 v} σ M] :
    RoutesFolds.{u, v} σ M := by
  intro E G τ υ _ _ s n m stands
  have serves := stands.serves
  refine ⟨fun p u c w o w' c' => (p.halts_fold m u c w o w' c').trans ?_,
    fun d t o => d.fold_injected serves t o⟩
  constructor
  · rintro ⟨tr, x, passes, ended⟩
    exact ⟨tr, x, passes, ended, passes.shows serves⟩
  · rintro ⟨tr, x, passes, ended, -⟩
    exact ⟨tr, x, passes, ended⟩

/-- Nests route every effect, and folds route into every carrier, through any layers over it,
and into programs over these.  A coproduct keeps the side of an effect that is mapped, and its
mapping is lawful if that of both sides is. -/
theorem nests_route (σ : Type) [Observer σ] :
    (∀ {M : Type → Type u} {E G : Type → Type v} {τ υ : Type} [Mappable σ E] [Mappable σ G]
      {s : Place E G τ υ} {n : Interpreter σ τ E M} {m : Interpreter σ υ G M},
      s.Stands n m → s.Routes n m) ∧
    (∀ {F : Type → Type v} {G : Type → Type w} [Mappable σ F] [Mappable σ G]
      {A : {α : Type} → Host σ (F α) → Host σ (F α) → Prop}
      {B : {α : Type} → Host σ (G α) → Host σ (G α) → Prop}, FunctorLaws F A → FunctorLaws G B →
      FunctorLaws (σ := σ) (Coproduct F G) (Coproduct.Alike A B)) ∧
    ∀ layers : List (Route × Type),
      RoutesFolds.{0, v} σ (Layers Identity layers) ∧
      RoutesFolds.{0, v} σ (Layers Option layers) ∧
      (∀ ε, RoutesFolds.{0, v} σ (Layers (Except ε) layers)) ∧
      RoutesFolds.{1, v} σ (Layers (Action σ) layers) ∧
      RoutesFolds.{1, v} σ (Layers (Future σ) layers) ∧
      RoutesFolds.{1, v} (Untraced σ) (Program (Untraced σ) (Layers Identity layers)) ∧
      RoutesFolds.{1, v} (Untraced σ) (Program (Untraced σ) (Layers Option layers)) ∧
      (∀ ε, RoutesFolds.{1, v} (Untraced σ)
        (Program (Untraced σ) (Layers (Except ε) layers))) ∧
      RoutesFolds.{1, v} (Untraced σ)
        (Program (Untraced σ) (Layers (Action (Untraced σ)) layers)) ∧
      RoutesFolds.{1, v} (Untraced σ)
        (Program (Untraced σ) (Layers (Future (Untraced σ)) layers)) :=
  ⟨Place.Stands.routes, FunctorLaws.coproduct, fun _ => ⟨routesFolds, routesFolds,
    fun _ => routesFolds, routesFolds, routesFolds, routesFolds, routesFolds,
    fun _ => routesFolds, routesFolds, routesFolds⟩⟩

/-! ## A nest of three interpreters -/

/-- Three interpreters of the same effect, each with numbers of its own. -/
def numberings : Interpreter (Untraced Unit) (Nat × Nat × Nat)
    (Coproduct (Numbered (Untraced Unit)) (Coproduct (Numbered (Untraced Unit))
      (Numbered (Untraced Unit)))) (Action (Untraced Unit)) :=
  numbering.either (numbering.either numbering)

/-- The place of the second one. -/
def secondPlace : Place (Numbered (Untraced Unit)) (Coproduct (Numbered (Untraced Unit))
    (Coproduct (Numbered (Untraced Unit)) (Numbered (Untraced Unit)))) Nat (Nat × Nat × Nat) :=
  .right .left

/-- A program of the second one's effects takes its numbers from there. -/
theorem numberings_second : secondPlace.Stands numbering numberings ∧
    Action.runBuilt ((twoNumbers.injected secondPlace.injection).build.bind
      (fun p => p.fold numberings (1, 3, 7)) ()) = (.ok 34, ()) ∧
    FunctorLaws (σ := Unit) (Coproduct Option (Except Nat)) (Coproduct.Alike Agree Agree) := by
  have stands : secondPlace.Stands numbering numberings := .right (.left numbering numbering) numbering
  have routes := ((nests_route.{1, 0, 0} (Untraced Unit)).2.2 []).2.2.2.1 stands
  have alone := routes.alone twoNumbers 3 ((1, 7) : Nat × Nat) ()
  obtain ⟨p, built, meaning⟩ := foldIsRecursion numbering_natural twoNumbers
  rw [built] at alone
  refine ⟨stands, alone.trans ((meaning 3 ()).trans rfl), ?_⟩
  exact (nests_route.{0, 0, 0} Unit).2.1 functorLaws functorLaws

end Resumption
