/-
Resuming — interpreting a program one effect at a time.

Resuming a program that waits for an effect makes the rest of the program the value of
that effect, by mapping it.  Interpreting the mapped effect and then folding the rest is
what a fold does (`Program.fold_agrees_resumed`); and walking, which resumes a program,
interprets the effect that it waits for and goes on from the program that this yields,
takes one effect at a time of those that the fold reaches (`Program.walks_iff`).

A program is too large to be the value of an effect, so that the rest of it goes by a
name (`Resumption.Named`).

The interpreter has to commute with mapping by the continuations of the program.  They may
touch the world, so commuting with plain functions does not do: an eager effect calls the
continuation when it is mapped, which is before it is interpreted.
-/
import Resumption.Proofs.Program.Draft
import Resumption.Proofs.Program.Reached

namespace Resumption

universe u v w

/-! ## Interpreters that commute with mapping -/

section Commuting

variable {σ τ : Type} {F : Type → Type v} {M : Type → Type u} [Mappable σ F] [Carrier σ M]
  [Observed σ M] {α β : Type}

/-- The interpreter commutes with mapping the effect by the closure: the mapped effect means
the mapped meaning of the effect.  The closure may touch the world and panic, and where
it is called is part of what both mean. -/
def Interpreter.CommutesAt (n : Interpreter σ τ F M) (e : F α) (f : α → Host σ β) : Prop :=
  ∀ t, Agree ((Mappable.map e f).bind fun e => n.carry e t)
    ((n.carry e t).bind fun m => Mappable.map m fun x => (f x.1).map fun b => (b, x.2))

/-- An interpreter that commutes with mapping by every closure. -/
structure Interpreter.Commutes (n : Interpreter σ τ F M) : Prop where
  map_eq {α β : Type} (e : F α) (f : α → Host σ β) : n.CommutesAt e f

/-- An interpreter that commutes with mapping by the continuations of a program: by those
that it waits with, and by those of all that they return.  Resuming maps by nothing else. -/
inductive Interpreter.CommutesOver (n : Interpreter σ τ F M) : Program σ F α → Prop
  | intro {p : Program σ F α} :
      (∀ {β : Type} {e : F β} {rest : β → Host σ (Program σ F α)} {w v : σ},
        p.resume w = (.ok (.waiting e rest), v) → n.CommutesAt e (Named.call rest)) →
      (∀ {β : Type} {e : F β} {rest : β → Host σ (Program σ F α)} {r : Program σ F α} {b : β}
        {w v u u' : σ}, p.resume w = (.ok (.waiting e rest), v) → rest b u = (.ok r, u') →
        n.CommutesOver r) →
      n.CommutesOver p

theorem Interpreter.CommutesOver.waits {n : Interpreter σ τ F M} {p : Program σ F α}
    (hn : n.CommutesOver p) {e : F β} {rest : β → Host σ (Program σ F α)} {w v : σ}
    (resumed : p.resume w = (.ok (.waiting e rest), v)) : n.CommutesAt e (Named.call rest) := by
  cases hn with
  | intro here _ => exact here resumed

theorem Interpreter.CommutesOver.rest {n : Interpreter σ τ F M} {p r : Program σ F α}
    (hn : n.CommutesOver p) {e : F β} {rest : β → Host σ (Program σ F α)} {b : β} {w v u u' : σ}
    (resumed : p.resume w = (.ok (.waiting e rest), v)) (called : rest b u = (.ok r, u')) :
    n.CommutesOver r := by
  cases hn with
  | intro _ later => exact later resumed called

end Commuting

/-- Leaving every effect as it is commutes with mapping, so a run is driven by resuming. -/
theorem Interpreter.identity_commutes {σ : Type} {M : Type → Type u} [Carrier σ M] [Observed σ M]
    [LawfulCarrier σ M] : (Interpreter.identity : Interpreter σ Unit M M).Commutes where
  map_eq e f t :=
    calc (Mappable.map e f).bind fun e => Interpreter.identity.carry e t
      Agree _ ((Mappable.map e f).chain fun b => .pure (Carrier.pure σ (b, t))) :=
        Agree.bind_map (Mappable.map e f) fun b => Host.pure (b, t)
      Agree _ (Carrier.bind e fun a => (f a).bind fun b => .pure (Carrier.pure σ (b, t))) :=
        Agree.bind_map_chain (.pure e) f _
      Agree _ ((Interpreter.identity.carry e t).chain fun x =>
          ((f x.1).map fun b => (b, x.2)).map (Carrier.pure σ)) := by
        refine Agree.trans (.of_eq ?_) (Agree.map_chain e (fun a => (a, t)) _).symm
        simp only [Host.map, Host.bind_assoc]
        rfl
      Agree _ ((Interpreter.identity.carry e t).bind fun m =>
          Mappable.map m fun x => (f x.1).map fun b => (b, x.2)) := (Agree.bind_map _ _).symm

/-! ## Resuming -/

namespace Program

section Steps

variable {σ : Type} {F : Type → Type v} {α β : Type}

theorem resume_done (a : α) (w : σ) :
    (done a : Program σ F α).resume w = (.ok (.finished a), w) := by
  unfold resume
  rw [normalize]
  rfl

/-- An effect that a program was bound to waits with the continuation. -/
theorem resume_bind (e : F α) (k : α → Host σ (Program σ F β)) (w : σ) :
    ((suspend e).bind k).resume w = (.ok (.waiting e k), w) := by
  unfold resume bind
  rw [normalize]
  refine congrArg (fun k => (Except.ok (Resumed.waiting e k), w)) ?_
  funext a w
  exact Call.run_ofRun (k a w)

/-- The rest of a program is left of it, or is the value of its last effect. -/
theorem follows_of_resume {p r : Program σ F α} {e : F β} {rest : β → Host σ (Program σ F α)}
    {b : β} {w v u u' : σ} (h : p.resume w = (.ok (.waiting e rest), v))
    (hr : rest b u = (.ok r, u')) :
    Follows r p ∨ ∃ a, r = done a := by
  unfold resume at h
  rcases hn : p.normalize w with ⟨e | a | e | ⟨e, q⟩, v⟩ <;> rw [hn] at h <;> cases h
  · cases hr
    exact .inr ⟨b, rfl⟩
  · replace hr : (q.apply b u).run = (.ok r, u') := hr
    rcases called : q.apply b u with ⟨r', u''⟩ | ⟨p', u''⟩ <;> rw [called] at hr <;> cases hr
    exact .inl (follows_of_normalize hn rfl called)

/-- An interpreter that commutes with mapping commutes with it over every program. -/
theorem commutesOver {τ : Type} {M : Type → Type u} [Mappable σ F] [Carrier σ M] [Observed σ M]
    {n : Interpreter σ τ F M} (hn : n.Commutes) (p : Program σ F α) : n.CommutesOver p := by
  induction p using follows_wf.induction with
  | _ p ih =>
    refine .intro (fun _ => hn.map_eq _ _) fun resumed called => ?_
    rcases follows_of_resume resumed called with follows | ⟨a, rfl⟩
    · exact ih _ follows
    · exact .intro (fun none => nomatch (resume_done a _).symm.trans none)
        fun none _ => nomatch (resume_done a _).symm.trans none

/-- What is done with a resumed program is done with its normal form. -/
theorem resume_then {X : Type w} (p : Program σ F α) (k : Resumed σ F α → Host σ X) (w : σ) :
    p.resume.bind k w = match p.normalize w with
      | (.ok m, w) => k (.ofNormal m) w
      | (.error e, w) => (.error e, w) := by
  unfold resume Host.bind
  dsimp only
  rcases p.normalize w with ⟨_ | _, _⟩ <;> rfl

end Steps

/-- Interprets what a program goes on as: a finished one is its value, and the effect that
one waits for is mapped to the rest of the program, interpreted, and its value folded. -/
def Resumed.fold {σ τ α : Type} {F : Type → Type v} {M : Type → Type u} [Observer σ] [Mappable σ F]
    [Carrier σ M] [Loop.{u, max 1 v} σ M] (n : Interpreter σ τ F M) (t : τ) :
    Resumed σ F α → Host σ (M α)
  | .finished a => .pure (Carrier.pure σ a)
  | .waiting e rest => (Mappable.map e (Named.call rest)).bind fun e =>
    (n.apply e t).bind fun (m, t) => Carrier.bind m fun q => q.get.fold n t

section Driving

variable {σ τ : Type} [Observer σ] {F : Type → Type v} {M : Type → Type u}
  [Carrier (Untraced σ) M] [Loop.{u, max 1 v} (Untraced σ) M] [Observed (Untraced σ) M]
  [LawfulCarrier (Untraced σ) M] [LawfulLoop.{u, max 1 v} (Untraced σ) M] {α β : Type}

/-- A fold interprets the effect that the program waits for, and goes on with the fold of
the rest. -/
theorem fold_resume (n : Interpreter (Untraced σ) τ F M) (p : Program (Untraced σ) F α) (t : τ) :
    Agree (p.fold n t) (p.resume.bind fun
      | .finished a => .pure (Carrier.pure (Untraced σ) a)
      | .waiting e rest => (n.carry e t).chain fun x => (rest x.1).bind fun q => q.fold n x.2) := by
  intro w
  refine Observed.trans (fold_turn n t p w) ?_
  rw [resume_then]
  rcases p.normalize w with ⟨e | a | e | ⟨e, q⟩, v⟩
  · exact Observed.refl _
  · exact Observed.refl _
  · have carried := carry_chain n e t fun x => (Host.pure (done x.1)).bind fun q => q.fold n x.2
    refine Observed.trans ?_ (Observed.symm (carried v))
    refine Agree.bind (n.apply e t) (fun x => Agree.chain_right (.pure x.1) fun b => ?_) v
    exact (fold_done n x.2 b).symm
  · have carried := carry_chain n e t fun x =>
      Host.bind (fun w => (q.apply x.1 w).run) fun q => q.fold n x.2
    refine Observed.trans ?_ (Observed.symm (carried v))
    refine Agree.bind (n.apply e t) (fun x => Agree.chain_right (.pure x.1) fun b u => ?_) v
    unfold Host.bind
    dsimp only
    rcases q.apply b u with ⟨r, u'⟩ | ⟨p, u'⟩ <;> exact Observed.refl _

variable [Mappable (Untraced σ) F]

omit [LawfulLoop.{u, max 1 v} (Untraced σ) M] in
/-- Mapping the effect by the rest of the program and folding its value is going on with the
fold of the rest. -/
theorem chain_rest {n : Interpreter (Untraced σ) τ F M} {e : F β}
    {rest : β → Host (Untraced σ) (Program (Untraced σ) F α)}
    (commutes : n.CommutesAt e (Named.call rest)) (t : τ) :
    Agree ((n.carry e t).chain fun x => (rest x.1).bind fun q => q.fold n x.2)
      (Resumed.fold n t (.waiting e rest)) :=
  calc (n.carry e t).chain fun x => (rest x.1).bind fun q => q.fold n x.2
    Agree _ ((n.carry e t).chain fun x =>
        ((Named.call rest x.1).map fun i => (i, x.2)).bind fun y => y.1.get.fold n y.2) := by
      refine Agree.chain_right _ fun x => .of_eq ?_
      rw [Host.map, Host.bind_assoc]
      exact (Named.call_bind (k := rest) _ x.1).symm
    Agree _ (((n.carry e t).bind fun m => Mappable.map m fun x =>
        (Named.call rest x.1).map fun i => (i, x.2)).chain fun y => y.1.get.fold n y.2) :=
      (Agree.bind_map_chain _ _ _).symm
    Agree _ (((Mappable.map e (Named.call rest)).bind fun e => n.carry e t).chain
        fun y => y.1.get.fold n y.2) := Agree.chain_left (commutes t).symm _
    Agree _ ((Mappable.map e (Named.call rest)).bind fun e =>
        (n.carry e t).chain fun y => y.1.get.fold n y.2) := .of_eq (Host.bind_assoc ..)
    Agree _ (Resumed.fold n t (.waiting e rest)) :=
      Agree.bind _ fun e => carry_chain n e t fun y => y.1.get.fold n y.2

/-- The mapped effect, and the fold of its value: the rest of the program. -/
theorem fold_agrees_resumed {n : Interpreter (Untraced σ) τ F M} {p : Program (Untraced σ) F α}
    (hn : n.CommutesOver p) (t : τ) : Agree (p.fold n t) (p.resume.bind (Resumed.fold n t)) := by
  refine (fold_resume n p t).trans fun w => ?_
  unfold Host.bind
  rcases resumed : p.resume w with ⟨e | a | ⟨e, rest⟩, v⟩
  · exact Observed.refl _
  · exact Observed.refl _
  · exact chain_rest (hn.waits resumed) t v

end Driving

end Program

/-! ## Walking -/

open Halting

/-- Interprets an effect whose value is the rest of a program. -/
def Interpreter.carryRest {σ τ : Type} {F : Type → Type v} {M : Type → Type u} [Mappable σ F]
    [Mappable σ M] (n : Interpreter σ τ F M) {α β : Type} (e : F β)
    (rest : β → Host σ (Program σ F α)) (t : τ) : Host σ (M (Named rest × τ)) :=
  (Mappable.map e (Named.call rest)).bind fun e => n.carry e t

/-- Walks a program: resumes it, interprets the effect that it waits for, and walks the rest
that this yields, until it is finished or an effect halts without a value.  The list is
of the effects that were waited for. -/
inductive Program.Walks {σ τ : Type} {F : Type → Type v} {M : Type → Type u} [Mappable σ F]
    [Mappable σ M] [Halting σ M] (n : Interpreter σ τ F M) {α : Type} :
    Program σ F α → τ → Setting σ M → σ → List ((β : Type) × F β) → Except (Halt σ M) α → σ →
      Setting σ M → Prop
  | finished {p : Program σ F α} {a : α} {t : τ} {c : Setting σ M} {w w' : σ} :
      p.resume w = (.ok (.finished a), w') → Walks n p t c w [] (.ok a) w' c
  | panicked {p : Program σ F α} {e : Panic} {t : τ} {c : Setting σ M} {w w' : σ} :
      p.resume w = (.error e, w') → Walks n p t c w [] (.error (ofPanic e)) w' c
  | stopped {p : Program σ F α} {β : Type} {e : F β} {rest : β → Host σ (Program σ F α)} {t : τ}
      {c c' : Setting σ M} {w v w' : σ} {h : Halt σ M} :
      p.resume w = (.ok (.waiting e rest), v) →
      Halts c (n.carryRest e rest t v) (.error h) w' c' →
      Walks n p t c w [⟨β, e⟩] (.error h) w' c'
  | left {p : Program σ F α} {β : Type} {e : F β} {rest : β → Host σ (Program σ F α)}
      {q : Named rest} {t t' : τ} {c c₁ c' : Setting σ M} {w v w₁ w' : σ}
      {l : List ((β : Type) × F β)} {o : Except (Halt σ M) α} :
      p.resume w = (.ok (.waiting e rest), v) →
      Halts c (n.carryRest e rest t v) (.ok (q, t')) w₁ c₁ →
      Walks n q.get t' c₁ w₁ l o w' c' →
      Walks n p t c w (⟨β, e⟩ :: l) o w' c'

namespace Program

section Mapping

variable {σ τ : Type} {F : Type → Type v} {M : Type → Type u} [Mappable σ F] [Carrier σ M]
  [Observed σ M] [LawfulCarrier σ M] [Halting σ M] [LawfulHalting σ M] {n : Interpreter σ τ F M}
  {α β : Type} {t : τ} {c c' : Setting σ M} {w w' : σ}

open LawfulHalting

/-- The effect halts, and the continuation is called on its value, or the effect halts
without one. -/
theorem halts_carryRest {e : F β} {rest : β → Host σ (Program σ F α)}
    (commutes : n.CommutesAt e (Named.call rest)) {o : Except (Halt σ M) (Named rest × τ)} :
    Halts c (n.carryRest e rest t w) o w' c' ↔
      (∃ b t' w₁ c₁, Halts c (n.carry e t w) (.ok (b, t')) w₁ c₁ ∧
        match Named.call rest b w₁ with
        | (.ok q, v) => o = .ok (q, t') ∧ w' = v ∧ c' = c₁
        | (.error p, v) => o = .error (ofPanic p) ∧ w' = v ∧ c' = c₁) ∨
      ∃ h, o = .error h ∧ Halts c (n.carry e t w) (.error h) w' c' := by
  have commuted := (commutes t).trans (Agree.bind_map (n.carry e t) _)
  refine (commuted.haltAlike w c o w' c').trans (halts_chain.trans (or_congr ?_ .rfl))
  have called (y : β × τ) (w₁ : σ) (c₁ : Setting σ M) :
      Halts (M := M) c₁ ((((Named.call rest y.1).map fun q => (q, y.2)).map
        (Carrier.pure σ)) w₁) o w' c' ↔
        match Named.call rest y.1 w₁ with
        | (.ok q, v) => o = .ok (q, y.2) ∧ w' = v ∧ c' = c₁
        | (.error p, v) => o = .error (ofPanic p) ∧ w' = v ∧ c' = c₁ := by
    unfold Host.map Host.bind Host.pure
    rcases Named.call rest y.1 w₁ with ⟨p | q, v⟩
    · exact halts_panic
    · exact halts_pure
  constructor
  · rintro ⟨⟨b, t'⟩, w₁, c₁, halted, rest⟩
    exact ⟨b, t', w₁, c₁, halted, (called _ _ _).mp rest⟩
  · rintro ⟨b, t', w₁, c₁, halted, rest⟩
    exact ⟨⟨b, t'⟩, w₁, c₁, halted, (called (b, t') _ _).mpr rest⟩

end Mapping

section Walking

variable {σ τ : Type} [Observer σ] {F : Type → Type v} {M : Type → Type u}
  [Mappable (Untraced σ) F] [Carrier (Untraced σ) M] [Observed (Untraced σ) M]
  [LawfulCarrier (Untraced σ) M] [Halting (Untraced σ) M] [LawfulHalting (Untraced σ) M]
  {n : Interpreter (Untraced σ) τ F M} {α β : Type} {t : τ} {c c' : Setting (Untraced σ) M}
  {w w' : Untraced σ}

omit [Mappable (Untraced σ) F] in
/-- What a waiting effect reaches is itself, and it halts as its meaning does. -/
theorem halts_carry_iff {last : Bool} {e : F β} {o : Except (Halt (Untraced σ) M) (β × τ)} :
    Halts c (n.carry e t w) o w' c' ↔
      ∃ x, (suspend e).Reaches n last t c w [⟨β, e⟩] x w' c' ∧ x.mapError Break.toHalt = o := by
  have meaning := halts_meaning n last (suspend e) t c w o w' c'
  simp only [Program.meaning, note_folded] at meaning
  refine meaning.trans ⟨?_, ?_⟩
  · rintro ⟨tr, x, passes, rfl⟩
    exact ⟨x, ⟨tr, passes, reached_suspend ⟨tr, passes, rfl⟩⟩, rfl⟩
  · rintro ⟨x, ⟨tr, passes, -⟩, rfl⟩
    exact ⟨tr, x, passes, rfl⟩

/-- A run reaches the effects that a walk waits for, and halts as the walk does. -/
theorem walks_reaches {p : Program (Untraced σ) F α} {l : List ((β : Type) × F β)}
    {o : Except (Halt (Untraced σ) M) α} (walks : p.Walks n t c w l o w' c')
    (hn : n.CommutesOver p) :
    ∃ x, p.Reaches n true t c w l x w' c' ∧ (x.map Prod.fst).mapError Break.toHalt = o := by
  induction walks with
  | @finished p a t c w w' resumed =>
    refine ⟨.ok (a, t), ?_, rfl⟩
    rw [reaches_resume, resumed]
    exact reaches_done.mpr ⟨rfl, rfl, rfl, rfl⟩
  | @panicked p e t c w w' resumed =>
    refine ⟨.error (.panicked e), ?_, rfl⟩
    rw [reaches_resume, resumed]
    exact ⟨rfl, rfl, rfl, rfl⟩
  | @stopped p β e rest t c c' w v w' h resumed halted =>
    rcases (halts_carryRest (hn.waits resumed)).mp halted with
      ⟨b, t', w₁, c₁, effect, called⟩ | ⟨s, ⟨⟩, effect⟩
    · obtain ⟨_ | y, effect, ⟨⟩⟩ := halts_carry_iff.mp effect
      rcases named : Named.call rest b w₁ with ⟨p | q, u⟩ <;> rw [named] at called <;>
        obtain ⟨⟨⟩, rfl, rfl⟩ := called
      have panics : (Call.ofRun (rest b w₁)).Reaches n true t' c' [] (.error (.panicked p))
          w' c' := by
        rw [Named.of_call_error named]
        exact ⟨rfl, rfl, rfl, rfl⟩
      refine ⟨.error (.panicked p), ?_, rfl⟩
      rw [reaches_resume, resumed]
      exact .on effect panics
    · obtain ⟨b | _, effect, ⟨⟩⟩ := halts_carry_iff.mp effect
      refine ⟨.error b, ?_, rfl⟩
      rw [reaches_resume, resumed]
      exact .off effect
  | @left p β e rest q t t' c c₁ c' w v w₁ w' l o resumed halted walks ih =>
    rcases (halts_carryRest (hn.waits resumed)).mp halted with
      ⟨b, t', w₂, c₂, effect, called⟩ | ⟨s, ⟨⟩, effect⟩
    obtain ⟨_ | y, effect, ⟨⟩⟩ := halts_carry_iff.mp effect
    rcases named : Named.call rest b w₂ with ⟨p | q, u⟩ <;> rw [named] at called <;>
      obtain ⟨⟨⟩, rfl, rfl⟩ := called
    obtain ⟨x, reaches, rfl⟩ := ih (hn.rest resumed (Named.of_call_ok named))
    refine ⟨x, ?_, rfl⟩
    rw [reaches_resume, resumed]
    refine .on effect ?_
    rw [Named.of_call_ok named]
    exact reaches

/-- A walk waits for the effects that a run reaches, and halts as the run does. -/
theorem reaches_walks {p : Program (Untraced σ) F α} (hn : n.CommutesOver p)
    {l : List ((β : Type) × F β)} {x : Except (Break (Halt (Untraced σ) M)) (α × τ)}
    (reaches : p.Reaches n true t c w l x w' c') :
    p.Walks n t c w l ((x.map Prod.fst).mapError Break.toHalt) w' c' := by
  induction p using follows_wf.induction generalizing t c w l with
  | _ p ih =>
    rw [reaches_resume] at reaches
    rcases resumed : p.resume w with ⟨e | a | ⟨e, rest⟩, v⟩ <;> rw [resumed] at reaches
    · obtain ⟨rfl, rfl, rfl, rfl⟩ := reaches
      exact .panicked resumed
    · obtain ⟨rfl, rfl, rfl, rfl⟩ := reaches_done.mp reaches
      exact .finished resumed
    · cases reaches with
      | @on y c₁ _ w₁ _ l₁ l₂ _ effect next =>
        cases reached_suspend effect
        have halted := halts_carry_iff.mpr ⟨_, effect, rfl⟩
        rcases called : rest y.1 w₁ with ⟨e | r, u⟩ <;> rw [called] at next
        · obtain ⟨rfl, rfl, rfl, rfl⟩ := next
          refine .stopped resumed
            ((halts_carryRest (hn.waits resumed)).mpr (.inl ⟨_, _, _, _, halted, ?_⟩))
          rw [Named.call_error called]
          exact ⟨rfl, rfl, rfl⟩
        · obtain ⟨i, named, rfl⟩ := Named.call_ok called
          have mapped : Halts c (n.carryRest e rest t v) (.ok (i, y.2)) u c₁ := by
            refine (halts_carryRest (hn.waits resumed)).mpr (.inl ⟨_, _, _, _, halted, ?_⟩)
            rw [named]
            exact ⟨rfl, rfl, rfl⟩
          refine .left resumed mapped ?_
          rcases follows_of_resume resumed called with follows | ⟨a, value⟩
          · exact ih _ follows (hn.rest resumed called) next
          · rw [value] at next ⊢
            obtain ⟨rfl, rfl, rfl, rfl⟩ := reaches_done.mp next
            exact .finished (resume_done a _)
      | off effect =>
        cases reached_suspend effect
        have halted := halts_carry_iff.mpr ⟨_, effect, rfl⟩
        exact .stopped resumed ((halts_carryRest (hn.waits resumed)).mpr (.inr ⟨_, rfl, halted⟩))

/-- A walk takes one effect at a time of those that a run reaches. -/
theorem walks_iff {p : Program (Untraced σ) F α} (hn : n.CommutesOver p)
    {l : List ((β : Type) × F β)} {o : Except (Halt (Untraced σ) M) α} :
    p.Walks n t c w l o w' c' ↔ ∃ tr x, p.Passes n true t c w tr x w' c' ∧ reached tr = l ∧
      (x.map Prod.fst).mapError Break.toHalt = o := by
  constructor
  · intro walks
    obtain ⟨x, ⟨tr, passes, reached⟩, rfl⟩ := walks_reaches walks hn
    exact ⟨tr, x, passes, reached, rfl⟩
  · rintro ⟨tr, x, passes, reached, rfl⟩
    exact reaches_walks hn ⟨tr, passes, reached⟩

end Walking

end Program

/-! ## Resuming is folding -/

section Fold

/-- Driving the program by resuming it does what folding it does.

* The fold halts as one that resumes the program, interprets the effect that it waits for,
  mapped to the rest of the program, and folds that rest: `resumed`.
* It halts as the walks through the program do: `walks`.
* The effects that a walk waits for are those that a run applies the interpreter to, one by
  one: `lefts`. -/
structure Driven {σ τ α : Type} {F : Type → Type v} {M : Type → Type u} [Observer σ] [Mappable σ F]
    [Carrier σ M] [Halting σ M] [Loop.{u, max 1 v} σ M] (n : Interpreter σ τ F M) (t : τ)
    (p : Program σ F α) : Prop where
  resumed : HaltAlike (p.fold n t) (p.resume.bind (Program.Resumed.fold n t))
  walks (c : Setting σ M) (w : σ) (o : Except (Halt σ M) α) (w' : σ) (c' : Setting σ M) :
    Halts c (p.fold n t w) o w' c' ↔ ∃ l, p.Walks n t c w l o w' c'
  lefts (c : Setting σ M) (w : σ) (l : List ((β : Type) × F β)) (o : Except (Halt σ M) α) (w' : σ)
    (c' : Setting σ M) : p.Walks n t c w l o w' c' ↔
      ∃ tr x, p.Passes n true t c w tr x w' c' ∧ reached tr = l ∧
        (x.map Prod.fst).mapError Break.toHalt = o

/-- Into the carrier `M`, driving a program by resuming it does what folding it does,
whenever the interpreter commutes with mapping by its continuations. -/
def DrivenByResuming (σ : Type) (M : Type → Type u) [Observer σ] [Carrier σ M] [Observed σ M]
    [Halting σ M] [Loop.{u, max 1 v} σ M] : Prop :=
  ∀ {τ : Type} {F : Type → Type v} [Mappable σ F] {n : Interpreter σ τ F M} {α : Type}
    {p : Program σ F α}, n.CommutesOver p → ∀ t, Driven n t p

theorem drivenByResuming {σ : Type} {M : Type → Type u} [Observer σ] [Carrier (Untraced σ) M]
    [Observed (Untraced σ) M] [LawfulCarrier (Untraced σ) M] [Halting (Untraced σ) M]
    [LawfulHalting (Untraced σ) M] [Loop.{u, max 1 v} (Untraced σ) M]
    [LawfulLoop.{u, max 1 v} (Untraced σ) M] : DrivenByResuming.{u, v} (Untraced σ) M := by
  intro τ F _ n α p hn t
  refine ⟨(Program.fold_agrees_resumed hn t).haltAlike, fun c w o w' c' => ?_,
    fun c w l o w' c' => Program.walks_iff hn⟩
  refine (p.halts_fold n t c w o w' c').trans ⟨?_, ?_⟩
  · rintro ⟨tr, x, passes, rfl⟩
    exact ⟨reached tr, (Program.walks_iff hn).mpr ⟨tr, x, passes, rfl, rfl⟩⟩
  · rintro ⟨l, walks⟩
    obtain ⟨tr, x, passes, -, outcome⟩ := (Program.walks_iff hn).mp walks
    exact ⟨tr, x, passes, outcome⟩

/-- Driving a program by resuming it does what folding it does, in every carrier. -/
theorem resuming_drives_fold (σ : Type) [Observer σ] :
    DrivenByResuming.{0, v} (Untraced σ) Identity ∧
    DrivenByResuming.{0, v} (Untraced σ) Option ∧
    (∀ ε, DrivenByResuming.{0, v} (Untraced σ) (Except ε)) ∧
    DrivenByResuming.{1, v} (Untraced σ) (Action (Untraced σ)) ∧
    DrivenByResuming.{1, v} (Untraced σ) (Future (Untraced σ)) :=
  ⟨drivenByResuming, drivenByResuming, fun _ => drivenByResuming, drivenByResuming,
    drivenByResuming⟩

/-! ## Two effects, one at a time -/

theorem numbering_commutes {σ : Type} [Observer σ] : (numbering (σ := σ)).Commutes where
  map_eq e f i := by
    intro w
    show Action.runBuilt (.ok _, w) = Action.runBuilt (.ok _, w)
    rw [Action.runBuilt_ok, Action.runBuilt_ok]
    simp only [Action.ofHost, Action.run, Host.caught, Host.map, Host.bind]
    rcases e.take i w with ⟨q | a, v⟩
    · rfl
    · simp only [Action.onValue, Host.map, Host.bind, Host.pure]
      rcases f a v with ⟨q | b, v'⟩ <;> rfl

/-- A program that takes two numbers. -/
def twoTaken : Program (Untraced Unit) (Numbered (Untraced Unit)) Nat :=
  .bind (.suspend ⟨.pure⟩) fun a => .pure (.suspend ⟨fun b => .pure (100 * a + b)⟩)

theorem twoTaken_walked : ∃ l, l.length = 2 ∧
    twoTaken.Walks numbering 3 PUnit.unit () l (.ok 304) () PUnit.unit ∧
    Action.runBuilt (twoTaken.fold numbering 3 ()) = (.ok 304, ()) := by
  have first : Program.Passes (σ := Untraced Unit) numbering false (.suspend ⟨.pure⟩) 3
      PUnit.unit () _ (.ok (3, 4)) () PUnit.unit := .effect rfl rfl
  have driven := (resuming_drives_fold Unit).2.2.2.1
    (Program.commutesOver numbering_commutes twoTaken) 3
  have walks := (driven.lefts PUnit.unit () _ (.ok 304) () PUnit.unit).mpr
    ⟨_, .ok (304, 5), .bound first (.called rfl (.effect rfl rfl)), rfl, rfl⟩
  exact ⟨_, rfl, walks, (driven.walks ..).mpr ⟨_, walks⟩⟩

end Fold

/-! ## An effect that is eager -/

/-- A world of marks, the first one first. -/
def Marks : Type := List Nat

instance : Observer Marks where
  note _ w := w
  setClock _ w := w

/-- Leaves a mark. -/
def mark (i : Nat) : Host (Untraced Marks) Unit :=
  .modify fun w : List Nat => w ++ [i]

/-- Leaves a mark for every effect that it is applied to. -/
def marking : Interpreter (Untraced Marks) Unit Identity (Action (Untraced Marks)) where
  apply e t := (mark 0).map fun _ => (.ready (.ok e.value), t)

/-- A program whose continuation leaves a mark. -/
def marked : Program (Untraced Marks) Identity Unit :=
  .bind (.suspend ⟨()⟩) fun _ => (mark 1).map fun _ => .done ()

/-- An interpreter that commutes with plain functions, and a program that a fold takes by its
effect first and resuming by its continuation. -/
theorem resuming_reverses_marked : marking.Natural ∧
    Action.runBuilt (marked.fold marking () []) = (.ok (), [0, 1]) ∧
    Action.runBuilt (marked.resume.bind (Program.Resumed.fold marking ()) []) =
      (.ok (), [1, 0]) := by
  have ends (w : Untraced Marks) :
      Action.runBuilt ((Program.done ()).fold marking () w) = (.ok (), w) :=
    (Program.fold_done marking () () w).trans (Action.runBuilt_ok ..)
  have waits := Program.resume_bind (σ := Untraced Marks) (⟨()⟩ : Identity Unit)
    (fun _ => (mark 1).map fun _ => Program.done (F := Identity) ()) []
  refine ⟨⟨fun e f => ⟨_, rfl, fun t w => rfl⟩⟩, ?_, ?_⟩
  · refine Eq.trans (Program.fold_resume marking marked () []) ?_
    unfold Host.bind marked
    rw [waits]
    exact (Action.runBuilt_chain ..).trans (ends [0, 1])
  · unfold Host.bind marked
    rw [waits]
    exact (Action.runBuilt_ok ..).trans ((Action.run_bind ..).trans (ends [1, 0]))

end Resumption
