/-
Meaning — what a program means, by recursion on the program.

`Program.meaning` interprets a program along its tree: a bind is the meaning of
its source and then that of its queue, and a queue is the meaning of its parts
one after another.  No part is turned over, and no loop is driven.  The state of
the interpreter travels with the value, so every application of the interpreter
takes the state that the one before it left.

The meaning reports the same steps as a fold.  Whether a step is the last one
depends on where it stands: `last` says that nothing is bound after a part.

The fold of a program is its meaning (`fold_agrees`), in every lawful carrier:
normalizing keeps the meaning, and a turn of the fold is the meaning of the
normal form up to the next program.
-/
import Resumption.Proofs.Program.Turn

namespace Resumption

universe u v w

variable {σ τ : Type} {F : Type → Type v} {M : Type → Type u} {α β γ : Type}

/-- Interprets an effect; its value comes with the state that the interpreter is left in. -/
def Interpreter.carry [Mappable σ M] (n : Interpreter σ τ F M) (e : F α) (t : τ) :
    Host σ (M (α × τ)) :=
  (n.apply e t).bind fun (m, t) => Mappable.map m fun a => .pure (a, t)

mutual

/-- The meaning of a program. -/
def Program.meaning [Observer σ] [Carrier σ M] (n : Interpreter σ τ F M) (last : Bool)
    {α : Type} : Program σ F α → τ → Host σ (M (α × τ))
  | .done a, t => fun w =>
    (.ok (Carrier.pure σ (a, t)), if last then note (.folded .finished) w else w)
  | .suspend e, t => fun w =>
    n.carry e t (note (.folded (if last then .finalEffect else .effect)) w)
  | .bound p q, t => (p.meaning n false t).chain fun (a, t) => q.meaning n last a t

/-- The meaning of a queue at a value. -/
def Arrows.meaning [Observer σ] [Carrier σ M] (n : Interpreter σ τ F M) (last : Bool)
    {α β : Type} : Arrows σ F α β → α → τ → Host σ (M (β × τ))
  | .one f, a, t => fun w => (f a w).meaning n last t
  | .append q r, a, t => (q.meaning n false a t).chain fun (b, t) => r.meaning n last b t

/-- The meaning of what an arrow returned. -/
def Program.Call.meaning [Observer σ] [Carrier σ M] (n : Interpreter σ τ F M) (last : Bool)
    {α : Type} : Program.Call σ F α → τ → Except Panic (M (α × τ)) × σ
  | .returned p w, t => p.meaning n last t w
  | .panicked p w, _ => (.error p, w)

end

variable [Observer σ] [Carrier σ M] [Observed σ M] [LawfulCarrier σ M]

/-! ## Queues -/

namespace Arrows

/-- The meaning of a queue that is known by its view. -/
def View.meaning (n : Interpreter σ τ F M) (last : Bool) :
    View σ F α γ → α → τ → Host σ (M (γ × τ))
  | .last f, a, t => fun w => (f a w).meaning n last t
  | .more f rest, a, t =>
    Host.chain (fun w => (f a w).meaning n false t) fun (b, t) => rest.meaning n last b t

theorem meaning_viewBefore (n : Interpreter σ τ F M) (last : Bool) {α β γ : Type} :
    (q : Arrows σ F α β) → (rest : Arrows σ F β γ) → (a : α) → (t : τ) →
      Agree ((q.viewBefore rest).meaning n last a t) ((append q rest).meaning n last a t)
  | one _, _, _, _ => by
      simp only [viewBefore, View.meaning, Arrows.meaning]
      exact .refl _
  | append q r, rest, a, t => by
      rw [viewBefore]
      refine (meaning_viewBefore n last q (append r rest) a t).trans ?_
      simp only [Arrows.meaning]
      exact (Agree.chain_assoc _ _ _).symm

/-- Only the first arrow and those after it matter to the meaning of a queue. -/
theorem meaning_view (n : Interpreter σ τ F M) (last : Bool) (q : Arrows σ F α γ) (a : α)
    (t : τ) : Agree (q.view.meaning n last a t) (q.meaning n last a t) := by
  cases q with
  | one f =>
    simp only [view, View.meaning, Arrows.meaning]
    exact .refl _
  | append q r => exact meaning_viewBefore n last q r a t

/-- What a queue makes of a value means what the queue means there. -/
theorem meaning_apply (n : Interpreter σ τ F M) (last : Bool) (q : Arrows σ F α γ) (a : α)
    (t : τ) (w : σ) :
    Observed.Same ((q.apply a w).meaning n last t) (q.meaning n last a t w) := by
  refine Observed.trans ?_ (meaning_view n last q a t w)
  unfold Arrows.apply
  cases q.view with
  | last f =>
    simp only [View.meaning]
    exact Observed.refl _
  | more f rest =>
    simp only [View.meaning, Host.chain, Host.bind]
    rcases f a w with ⟨p, v⟩ | ⟨p, v⟩
    · simp only [Program.Call.meaning, Program.meaning, Host.chain, Host.bind]
      exact Observed.refl _
    · simp only [Program.Call.meaning]
      exact Observed.refl _

end Arrows

/-! ## Normal forms -/

namespace Program

/-- Normalizing calls what the meaning calls before its next effect, and leaves a
program that means the rest. -/
theorem meaning_normalize (n : Interpreter σ τ F M) (last : Bool) (t : τ) (p : Program σ F α)
    (w : σ) :
    Observed.Same (p.meaning n last t w)
      (match p.normalize w with
        | (.ok m, w) => m.toProgram.meaning n last t w
        | (.error e, w) => (.error e, w)) := by
  fun_induction normalize p w with
  | case1 | case2 | case3 => exact Observed.refl _
  | case4 w _ _ p q r ih =>
    refine Observed.trans ?_ ih
    simp only [Program.meaning, Arrows.meaning]
    exact Agree.chain_assoc _ _ _ w
  | case5 w _ a q p w' e ih =>
    have called := Arrows.meaning_apply n last q a t w
    rw [e] at called
    refine Observed.trans ?_ (Observed.trans (Observed.symm called) ih)
    simp only [Program.meaning]
    exact Agree.pure_chain _ _ w
  | case6 w _ a q e w' h =>
    have called := Arrows.meaning_apply n last q a t w
    rw [h] at called
    refine Observed.trans ?_ (Observed.symm called)
    simp only [Program.meaning]
    exact Agree.pure_chain _ _ w

/-! ## Folds -/

omit [Observed σ M] [LawfulCarrier σ M] in
/-- A turn of a fold goes on with what the queue makes of the value, or ends. -/
theorem foldTurn_proceed (n : Interpreter σ τ F M) (t : τ) (p : Program σ F α)
    (again : τ × Program σ F α → Host σ (M α)) (w : σ) :
    (foldTurn n (t, p)).bind (Turn.proceed fun s => again s.1) w =
      match p.normalize w with
      | (.error e, w) => (.error e, w)
      | (.ok (.done a), w) => (.ok (Carrier.pure σ a), note (.folded .finished) w)
      | (.ok (.suspend e), w) =>
        (n.apply e t).bind (fun (m, _) => Carrier.bind m fun a => .pure (Carrier.pure σ a))
          (note (.folded .finalEffect) w)
      | (.ok (.bound e q), w) =>
        (n.apply e t).bind (fun (m, t) => Carrier.bind m fun b v =>
          match q.apply b v with
          | .returned r v => again (t, r) v
          | .panicked e v => (.error e, v)) (note (.folded .effect) w) := by
  calc (foldTurn n (t, p)).bind (Turn.proceed fun s => again s.1) w
    _ = ((foldTurn n (t, p)).map (Turn.along Subtype.val)).bind (Turn.proceed again) w := by
      rw [Host.map, Host.bind_assoc]
      exact congrArg (fun k => (foldTurn n (t, p)).bind k w)
        (funext fun turn => (turn.proceed_along Subtype.val again).symm)
    _ = Host.bind (fun _ => normalTurn n t (p.normalize w)) (Turn.proceed again) w :=
      foldTurn_bind n t p _ w
    _ = _ := by
      rcases p.normalize w with ⟨e | a | e | ⟨e, q⟩, v⟩
      · rfl
      · rfl
      · exact congrFun (Host.bind_assoc ..) _
      · refine (congrFun (Host.bind_assoc ..) _).trans ?_
        refine congrArg (fun k => Host.bind _ k _) (funext fun x => ?_)
        refine congrArg (Carrier.bind x.1) (funext fun b => funext fun v => ?_)
        unfold Host.bind
        dsimp only
        rcases q.apply b v with ⟨r, u⟩ | ⟨e, u⟩ <;> rfl

/-- Ends with the value of a meaning and drops the state of the interpreter. -/
def dropState : α × τ → Host σ (M α) :=
  fun x => .pure (Carrier.pure σ x.1)

omit [Observer σ] in
/-- An interpreted effect goes on with its value and the new state. -/
theorem carry_chain (n : Interpreter σ τ F M) (e : F α) (t : τ) (k : α × τ → Host σ (M β)) :
    Agree ((n.carry e t).chain k)
      ((n.apply e t).bind fun (m, t) => Carrier.bind m fun a => k (a, t)) := by
  refine (Agree.of_eq (Host.bind_assoc ..)).trans (Agree.bind _ fun x => ?_)
  exact Agree.map_chain x.1 (fun a => (a, x.2)) k

/-- The meaning of a program is that of its first turn, and then that of what is left. -/
theorem meaning_turn (n : Interpreter σ τ F M) (t : τ) (p : Program σ F α) (w : σ) :
    Observed.Same ((p.meaning n true t).chain dropState w)
      (match p.normalize w with
      | (.error e, w) => (.error e, w)
      | (.ok (.done a), w) => (.ok (Carrier.pure σ a), note (.folded .finished) w)
      | (.ok (.suspend e), w) =>
        (n.apply e t).bind (fun (m, _) => Carrier.bind m fun a => .pure (Carrier.pure σ a))
          (note (.folded .finalEffect) w)
      | (.ok (.bound e q), w) =>
        (n.apply e t).bind (fun (m, t) => Carrier.bind m fun b v =>
          match q.apply b v with
          | .returned r v => (r.meaning n true t).chain dropState v
          | .panicked e v => (.error e, v)) (note (.folded .effect) w)) := by
  have normal := Observed.chain_left (p.meaning n true t) (fun _ => match p.normalize w with
      | (.ok m, w) => m.toProgram.meaning n true t w
      | (.error e, w) => (.error e, w)) w w
    (meaning_normalize n true t p w) dropState
  refine Observed.trans normal ?_
  rcases p.normalize w with ⟨e | a | e | ⟨e, q⟩, v⟩
  · exact Observed.refl _
  · exact Agree.pure_chain (a, t) dropState (note (.folded .finished) v)
  · exact carry_chain n e t dropState (note (.folded .finalEffect) v)
  · -- what the queue makes of the value is left of the program
    have rest : ∀ t b, Agree ((q.meaning n true b t).chain dropState)
        (fun v => match q.apply b v with
          | .returned r v => (r.meaning n true t).chain dropState v
          | .panicked e v => (.error e, v)) := by
      intro t b u
      have called := Observed.chain_left (q.meaning n true b t)
        (fun _ => (q.apply b u).meaning n true t) u u
        (Observed.symm (Arrows.meaning_apply n true q b t u)) dropState
      refine Observed.trans called ?_
      show Observed.Same _ (match q.apply b u with
        | .returned r v => (r.meaning n true t).chain dropState v
        | .panicked e v => (.error e, v))
      rcases q.apply b u with ⟨r, u'⟩ | ⟨e, u'⟩ <;> exact Observed.refl _
    have joined := Agree.chain_assoc (fun w => n.carry e t (note (.folded .effect) w))
      (fun x => q.meaning n true x.1 x.2) dropState
    have carried := carry_chain n e t fun x => (q.meaning n true x.1 x.2).chain dropState
    have stepped := Agree.bind (n.apply e t) fun x =>
      Agree.chain_right (.pure x.1) (rest x.2)
    exact Observed.trans (joined v) ((carried.trans stepped) _)

omit [LawfulCarrier σ M] in
/-- The fold of a program is its first turn, and then the fold of what is left. -/
theorem fold_turn [Loop.{u, max 1 v} σ M] [LawfulLoop.{u, max 1 v} σ M]
    (n : Interpreter σ τ F M) (t : τ) (p : Program σ F α) (w : σ) :
    Observed.Same (p.fold n t w)
      (match p.normalize w with
      | (.error e, w) => (.error e, w)
      | (.ok (.done a), w) => (.ok (Carrier.pure σ a), note (.folded .finished) w)
      | (.ok (.suspend e), w) =>
        (n.apply e t).bind (fun (m, _) => Carrier.bind m fun a => .pure (Carrier.pure σ a))
          (note (.folded .finalEffect) w)
      | (.ok (.bound e q), w) =>
        (n.apply e t).bind (fun (m, t) => Carrier.bind m fun b v =>
          match q.apply b v with
          | .returned r v => r.fold n t v
          | .panicked e v => (.error e, v)) (note (.folded .effect) w)) := by
  have turn := LawfulLoop.iterate_eq 1 foldOrder_wf (foldTurn n) (t, p) w
  rwa [foldTurn_proceed n t p fun s => Loop.iterate 1 foldOrder_wf (foldTurn n) s] at turn

/-- The fold of a program is its meaning. -/
theorem fold_agrees [Loop.{u, max 1 v} σ M] [LawfulLoop.{u, max 1 v} σ M]
    (n : Interpreter σ τ F M) (t : τ) (p : Program σ F α) :
    Agree (p.fold n t) ((p.meaning n true t).chain dropState) := by
  induction p using follows_wf.induction generalizing t with
  | _ p ih =>
    intro w
    refine Observed.trans (fold_turn n t p w) ?_
    refine Observed.trans ?_ (Observed.symm (meaning_turn n t p w))
    rcases h : p.normalize w with ⟨e | a | e | ⟨e, q⟩, v⟩
    · exact Observed.refl _
    · exact Observed.refl _
    · exact Observed.refl _
    · refine Agree.bind (n.apply e t) (fun x => Agree.chain_right (.pure x.1) fun b u => ?_) _
      show Observed.Same (match q.apply b u with
        | .returned r v => r.fold n x.2 v
        | .panicked e v => (.error e, v)) _
      rcases hr : q.apply b u with ⟨r, u'⟩ | ⟨e, u'⟩
      · exact ih r (follows_of_normalize h rfl hr) x.2 u'
      · exact Observed.refl _

omit [LawfulCarrier σ M] in
theorem fold_done [Loop.{u, max 1 v} σ M] [LawfulLoop.{u, max 1 v} σ M]
    (n : Interpreter σ τ F M) (t : τ) (a : α) :
    Agree ((done a : Program σ F α).fold n t)
      fun w => (.ok (Carrier.pure σ a), note (.folded .finished) w) := by
  intro w
  have turn := fold_turn n t (done a) w
  rwa [normalize] at turn

/-- A bind is folded by passing through its source and folding what is built then. -/
theorem fold_bind [Loop.{u, max 1 v} σ M] [LawfulLoop.{u, max 1 v} σ M]
    (n : Interpreter σ τ F M) (t : τ) (p : Program σ F α) (k : α → Host σ (Program σ F β)) :
    Agree ((p.bind k).fold n t)
      ((p.meaning n false t).chain fun x => (k x.1).bind fun q => q.fold n x.2) := by
  refine (fold_agrees n t (p.bind k)).trans ?_
  simp only [Program.bind, meaning]
  refine (Agree.chain_assoc _ _ _).trans (Agree.chain_right _ fun x w => ?_)
  simp only [Arrows.ofHost, Arrows.meaning, Host.chain, Host.bind]
  rcases k x.1 w with ⟨e | q, v⟩
  · exact Observed.refl _
  · exact Observed.symm (fold_agrees n x.2 q v)

/-! ## Folding what maps stand before -/

section Maps

variable [Loop.{u, max 1 v} σ M] [LawfulLoop.{u, max 1 v} σ M] (n : Interpreter σ τ F M) (t : τ)

/-- What goes on with a mapped program goes on with what the closure makes of its value. -/
theorem fold_map_bind {γ : Type} (p : Program σ F α) (f : α → Host σ β)
    (k : β → Host σ (Program σ F γ)) :
    Agree (((p.map f).bind k).fold n t) ((p.bind fun a => (f a).bind k).fold n t) := by
  refine (fold_bind n t (p.map f) k).trans (Agree.trans ?_ (fold_bind n t p _).symm)
  simp only [Program.map, Program.bind, meaning]
  refine (Agree.chain_assoc _ _ _).trans (Agree.chain_right _ fun x w => ?_)
  simp only [Arrows.ofHost, Arrows.meaning, Host.chain, Host.map, Host.bind]
  rcases f x.1 w with ⟨e | b, v⟩
  · exact Observed.refl _
  · exact Agree.pure_chain (b, x.2) (fun y => (k y.1).bind fun q => q.fold n y.2) v

theorem fold_handOn_bind (p : Program σ F α) (k : α → Host σ (Program σ F β)) (maps : Nat) :
    Agree (((p.handOn maps).bind k).fold n t) ((p.bind k).fold n t) := by
  induction maps with
  | zero => exact .refl _
  | succ maps ih => exact (fold_map_bind n t (p.handOn maps) .pure k).trans ih

/-- An answered program goes on with the answer, however many maps it takes. -/
theorem fold_answered {X : Type x} (p : Program σ F α) (maps : Nat) (next : α → Host σ X)
    (goOn : X → Host σ (Program σ F β)) :
    Agree ((p.answered maps next goOn).fold n t)
      ((p.bind fun a => (next a).bind goOn).fold n t) := by
  cases maps with
  | zero => exact .refl _
  | succ maps =>
    refine (fold_handOn_bind n t _ _ maps).trans ((fold_map_bind n t p _ _).trans (.of_eq ?_))
    exact congrArg (fun k => (p.bind k).fold n t) (funext (Named.call_bind goOn))

end Maps

end Program

end Resumption
