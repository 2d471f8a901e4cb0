/-
Passage — what happens on the way through a program.

`Program.Passes` says how a run may pass through a program along its tree: a bind
passes through its source and then through its queue, a queue through its parts, and
an arrow is called and passes through the program that it returns.  An effect is
reported, the interpreter is applied to it, and what it means in the carrier is run
until it halts.  Each rule makes the calls in its premises, once and in this order,
and writes them down as moments.

| moment           | written down where                                           |
|------------------|--------------------------------------------------------------|
| `told s`         | the fold reports the step `s`                                |
| `applied e t t'` | the interpreter takes the state `t` to `e` and leaves `t'`   |
| `called`         | a continuation is called                                     |

A passage that breaks off does so at the first effect that halts without a value, or
at a panic of the interpreter or of a continuation; no rule goes on from there.
Folding a program is passing through it (`Program.halts_fold`), for every carrier
whose computations halt.
-/
import Resumption.Proofs.Halting.Carriers
import Resumption.Proofs.Program.Meaning

namespace Resumption

universe u v w

/-! ## Moments -/

/-- What happens in the course of a passage. -/
inductive Moment (F : Type → Type v) (τ : Type) : Type (max 1 v) where
  | told (step : FoldStep)
  | applied {β : Type} (e : F β) (took : τ) (left : Option τ)
  | called

/-- Why a passage broke off: an effect halted without a value, or the interpreter or a
continuation panicked. -/
inductive Break (H : Type) where
  | halted (h : H)
  | panicked (p : Panic)

/-- The step that an effect is reported as. -/
def effectStep (last : Bool) : FoldStep :=
  if last then .finalEffect else .effect

/-! ## Passages -/

open Halting

section Passages

variable {σ τ : Type} {F : Type → Type v} {M : Type → Type u}

/-- How a carrier halts that is broken off. -/
def Break.toHalt [Halting σ M] : Break (Halt σ M) → Halt σ M
  | halted h => h
  | panicked p => ofPanic p

variable [Observer σ] [Halting σ M]

mutual

/-- A run may pass through the program, from a state of the interpreter, in a setting and
from a world, with these moments; it comes to a value and the interpreter's state, or
breaks off, and leaves this world and setting.  `last` says that nothing is bound after
the program. -/
inductive Program.Passes (n : Interpreter σ τ F M) : Bool → {α : Type} → Program σ F α → τ →
    Setting σ M → σ → List (Moment F τ) → Except (Break (Halt σ M)) (α × τ) → σ →
    Setting σ M → Prop
  | done {α : Type} {a : α} {t : τ} {c : Setting σ M} {w : σ} :
      Program.Passes n false (.done a) t c w [] (.ok (a, t)) w c
  | finished {α : Type} {a : α} {t : τ} {c : Setting σ M} {w : σ} :
      Program.Passes n true (.done a) t c w [.told .finished] (.ok (a, t))
        (note (.folded .finished) w) c
  | effect {last : Bool} {α : Type} {e : F α} {b : α} {m : M α} {t t' : τ} {c c' : Setting σ M}
      {w w₁ w' : σ} :
      n.apply e t (note (.folded (effectStep last)) w) = (.ok (m, t'), w₁) →
      Halts c (.ok m, w₁) (.ok b) w' c' →
      Program.Passes n last (.suspend e) t c w
        [.told (effectStep last), .applied e t (some t')] (.ok (b, t')) w' c'
  | halted {last : Bool} {α : Type} {e : F α} {h : Halt σ M} {m : M α} {t t' : τ}
      {c c' : Setting σ M} {w w₁ w' : σ} :
      n.apply e t (note (.folded (effectStep last)) w) = (.ok (m, t'), w₁) →
      Halts c (.ok m, w₁) (.error h) w' c' →
      Program.Passes n last (.suspend e) t c w
        [.told (effectStep last), .applied e t (some t')] (.error (.halted h)) w' c'
  | refused {last : Bool} {α : Type} {e : F α} {p : Panic} {t : τ} {c : Setting σ M} {w w' : σ} :
      n.apply e t (note (.folded (effectStep last)) w) = (.error p, w') →
      Program.Passes n last (.suspend e) t c w
        [.told (effectStep last), .applied e t none] (.error (.panicked p)) w' c
  | bound {last : Bool} {α β : Type} {p : Program σ F α} {q : Arrows σ F α β} {a : α} {t t₁ : τ}
      {c c₁ c' : Setting σ M} {w w₁ w' : σ} {tr tr' : List (Moment F τ)}
      {x : Except (Break (Halt σ M)) (β × τ)} :
      p.Passes n false t c w tr (.ok (a, t₁)) w₁ c₁ →
      q.Passes n last a t₁ c₁ w₁ tr' x w' c' →
      Program.Passes n last (.bound p q) t c w (tr ++ tr') x w' c'
  | broken {last : Bool} {α β : Type} {p : Program σ F α} {q : Arrows σ F α β} {t : τ}
      {c c' : Setting σ M} {w w' : σ} {tr : List (Moment F τ)} {b : Break (Halt σ M)} :
      p.Passes n false t c w tr (.error b) w' c' →
      Program.Passes n last (.bound p q) t c w tr (.error b) w' c'

/-- A run may pass through the queue from a value, likewise. -/
inductive Arrows.Passes (n : Interpreter σ τ F M) : Bool → {α β : Type} → Arrows σ F α β → α →
    τ → Setting σ M → σ → List (Moment F τ) → Except (Break (Halt σ M)) (β × τ) → σ →
    Setting σ M → Prop
  | called {last : Bool} {α β : Type} {f : α → σ → Program.Call σ F β} {p : Program σ F β} {a : α}
      {t : τ} {c c' : Setting σ M} {w w₁ w' : σ} {tr : List (Moment F τ)}
      {x : Except (Break (Halt σ M)) (β × τ)} :
      f a w = .returned p w₁ →
      p.Passes n last t c w₁ tr x w' c' →
      Arrows.Passes n last (.one f) a t c w (.called :: tr) x w' c'
  | panicked {last : Bool} {α β : Type} {f : α → σ → Program.Call σ F β} {e : Panic} {a : α}
      {t : τ} {c : Setting σ M} {w w' : σ} :
      f a w = .panicked e w' →
      Arrows.Passes n last (.one f) a t c w [.called] (.error (.panicked e)) w' c
  | append {last : Bool} {α β γ : Type} {q : Arrows σ F α β} {r : Arrows σ F β γ} {a : α} {b : β}
      {t t₁ : τ} {c c₁ c' : Setting σ M} {w w₁ w' : σ} {tr tr' : List (Moment F τ)}
      {x : Except (Break (Halt σ M)) (γ × τ)} :
      q.Passes n false a t c w tr (.ok (b, t₁)) w₁ c₁ →
      r.Passes n last b t₁ c₁ w₁ tr' x w' c' →
      Arrows.Passes n last (.append q r) a t c w (tr ++ tr') x w' c'
  | broken {last : Bool} {α β γ : Type} {q : Arrows σ F α β} {r : Arrows σ F β γ} {a : α} {t : τ}
      {c c' : Setting σ M} {w w' : σ} {tr : List (Moment F τ)} {b : Break (Halt σ M)} :
      q.Passes n false a t c w tr (.error b) w' c' →
      Arrows.Passes n last (.append q r) a t c w tr (.error b) w' c'

end

end Passages

/-! ## Passages one after the other -/

/-- A passage, and then one that goes on from its value, unless the first breaks off. -/
inductive Onward {σ B α β : Type} {E : Type v} {S : Type 1}
    (first : List E → Except B α → σ → S → Prop)
    (next : α → S → σ → List E → Except B β → σ → S → Prop) :
    List E → Except B β → σ → S → Prop
  | on {a : α} {c c' : S} {w w' : σ} {tr tr' : List E} {x : Except B β} :
      first tr (.ok a) w c → next a c w tr' x w' c' → Onward first next (tr ++ tr') x w' c'
  | off {b : B} {c' : S} {w' : σ} {tr : List E} :
      first tr (.error b) w' c' → Onward first next tr (.error b) w' c'

theorem Onward.assoc {σ B α β γ : Type} {E : Type v} {S : Type 1}
    {first : List E → Except B α → σ → S → Prop}
    {second : α → S → σ → List E → Except B β → σ → S → Prop}
    {third : β → S → σ → List E → Except B γ → σ → S → Prop}
    {tr : List E} {x : Except B γ} {w' : σ} {c' : S} :
    Onward (Onward first second) third tr x w' c' ↔
      Onward first (fun a c w => Onward (second a c w) third) tr x w' c' := by
  constructor
  · intro passes
    cases passes with
    | on two three =>
      cases two with
      | on one two => exact List.append_assoc .. ▸ .on one (.on two three)
    | off two =>
      cases two with
      | on one two => exact .on one (.off two)
      | off one => exact .off one
  · intro passes
    cases passes with
    | on one rest =>
      cases rest with
      | on two three => exact List.append_assoc .. ▸ .on (.on one two) three
      | off two => exact .off (.on one two)
    | off one => exact .off (.off one)

section Parts

variable {σ τ : Type} {F : Type → Type v} {M : Type → Type u} [Observer σ] [Halting σ M]
  {n : Interpreter σ τ F M} {last : Bool} {α β γ : Type} {t : τ} {c c' : Setting σ M} {w w' : σ}
  {tr : List (Moment F τ)}

theorem Program.passes_bound {p : Program σ F α} {q : Arrows σ F α β}
    {x : Except (Break (Halt σ M)) (β × τ)} :
    (Program.bound p q).Passes n last t c w tr x w' c' ↔
      Onward (p.Passes n false t c w) (fun y => q.Passes n last y.1 y.2) tr x w' c' := by
  constructor
  · rintro (_ | _)
    · exact .on ‹_› ‹_›
    · exact .off ‹_›
  · rintro (_ | _)
    · exact .bound ‹_› ‹_›
    · exact .broken ‹_›

theorem Arrows.passes_append {q : Arrows σ F α β} {r : Arrows σ F β γ} {a : α}
    {x : Except (Break (Halt σ M)) (γ × τ)} :
    (Arrows.append q r).Passes n last a t c w tr x w' c' ↔
      Onward (q.Passes n false a t c w) (fun y => r.Passes n last y.1 y.2) tr x w' c' := by
  constructor
  · rintro (_ | _)
    · exact .on ‹_› ‹_›
    · exact .off ‹_›
  · rintro (_ | _)
    · exact .append ‹_› ‹_›
    · exact .broken ‹_›

end Parts

/-! ## Passing is folding -/

open LawfulHalting

section Carried

variable {σ τ : Type} {F : Type → Type v} {M : Type → Type u} [Carrier σ M] [Observed σ M]
  [LawfulCarrier σ M] [Halting σ M] [LawfulHalting σ M]

/-- The computation that a closure builds in this world halts as the passages say. -/
def HaltsAs {α : Type} (c : Setting σ M) (x : Except Panic (M α) × σ)
    (passes : List (Moment F τ) → Except (Break (Halt σ M)) α → σ → Setting σ M → Prop) : Prop :=
  ∀ o w' c', Halts c x o w' c' ↔ ∃ tr y, passes tr y w' c' ∧ y.mapError Break.toHalt = o

omit [LawfulCarrier σ M] in
/-- What goes on with a value halts as passages one after the other. -/
theorem HaltsAs.chain {α β : Type} {c : Setting σ M} {w : σ} {h : Host σ (M α)}
    {k : α → Host σ (M β)}
    {first : List (Moment F τ) → Except (Break (Halt σ M)) α → σ → Setting σ M → Prop}
    {next : α → Setting σ M → σ → List (Moment F τ) → Except (Break (Halt σ M)) β → σ →
      Setting σ M → Prop}
    (one : HaltsAs c (h w) first) (two : ∀ a c w, HaltsAs c (k a w) (next a c w)) :
    HaltsAs c (h.chain k w) (Onward first next) := by
  intro o w' c'
  rw [halts_chain]
  constructor
  · rintro (⟨a, w₁, c₁, halted, rest⟩ | ⟨s, rfl, halted⟩)
    · obtain ⟨tr, b | a, passes, ⟨⟩⟩ := (one _ _ _).mp halted
      obtain ⟨tr', y, passes', rfl⟩ := (two _ _ _ _ _ _).mp rest
      exact ⟨_, y, .on passes passes', rfl⟩
    · obtain ⟨tr, b | a, passes, ⟨⟩⟩ := (one _ _ _).mp halted
      exact ⟨_, _, .off passes, rfl⟩
  · rintro ⟨tr, y, passes | passes, rfl⟩
    · exact .inl ⟨_, _, _, (one _ _ _).mpr ⟨_, _, ‹_›, rfl⟩, (two _ _ _ _ _ _).mpr ⟨_, _, ‹_›, rfl⟩⟩
    · exact .inr ⟨_, rfl, (one _ _ _).mpr ⟨_, _, ‹_›, rfl⟩⟩

theorem Interpreter.halts_carry {n : Interpreter σ τ F M} {α : Type} {e : F α} {t : τ}
    {c c' : Setting σ M} {w w' : σ} {o : Except (Halt σ M) (α × τ)} :
    Halts c (n.carry e t w) o w' c' ↔
      (∃ p, n.apply e t w = (.error p, w') ∧ o = .error (ofPanic p) ∧ c' = c) ∨
      ∃ m t' w₁ o₁, n.apply e t w = (.ok (m, t'), w₁) ∧ Halts c (.ok m, w₁) o₁ w' c' ∧
        o = o₁.map fun b => (b, t') := by
  unfold Interpreter.carry Host.bind
  rcases n.apply e t w with ⟨p | ⟨m, t'⟩, w₁⟩
  · simp only [halts_panic]
    constructor
    · rintro ⟨rfl, rfl, rfl⟩
      exact .inl ⟨p, rfl, rfl, rfl⟩
    · rintro (⟨p', ⟨⟩, rfl, rfl⟩ | ⟨m, t', w₁, o₁, ⟨⟩, -, -⟩)
      exact ⟨rfl, rfl, rfl⟩
  · refine (halts_mapped (h := Host.pure m) (f := fun b : α => (b, t')) (w := w₁)).trans ?_
    constructor
    · rintro ⟨o₁, halted, rfl⟩
      exact .inr ⟨m, t', w₁, o₁, rfl, halted, rfl⟩
    · rintro (⟨p, ⟨⟩, -, -⟩ | ⟨m, t', w₁, o₁, ⟨⟩, halted, rfl⟩)
      exact ⟨o₁, halted, rfl⟩

end Carried

section Meaning

variable {σ τ : Type} {F : Type → Type v} {M : Type → Type u} [Observer σ] [Carrier σ M]
  [Halting σ M]

mutual

/-- The meaning of a program halts as the passages through it say. -/
theorem Program.halts_meaning [Observed σ M] [LawfulCarrier σ M] [LawfulHalting σ M]
    (n : Interpreter σ τ F M) (last : Bool) {α : Type} : (p : Program σ F α) →
      ∀ t c w, HaltsAs c (p.meaning n last t w) (p.Passes n last t c w)
  | .done a => by
      intro t c w o w' c'
      simp only [Program.meaning, halts_pure]
      constructor
      · rintro ⟨rfl, rfl, rfl⟩
        cases last with
        | false => exact ⟨_, _, .done, rfl⟩
        | true => exact ⟨_, _, .finished, rfl⟩
      · rintro ⟨tr, y, passes, rfl⟩
        cases passes <;> exact ⟨rfl, rfl, rfl⟩
  | .suspend e => by
      intro t c w o w' c'
      simp only [Program.meaning]
      refine Interpreter.halts_carry.trans ?_
      constructor
      · rintro (⟨p, applied, rfl, rfl⟩ | ⟨m, t', w₁, h | b, applied, halted, rfl⟩)
        · exact ⟨_, _, .refused applied, rfl⟩
        · exact ⟨_, _, .halted applied halted, rfl⟩
        · exact ⟨_, _, .effect applied halted, rfl⟩
      · rintro ⟨tr, y, passes, rfl⟩
        cases passes with
        | effect applied halted => exact .inr ⟨_, _, _, _, applied, halted, rfl⟩
        | halted applied halted => exact .inr ⟨_, _, _, _, applied, halted, rfl⟩
        | refused applied => exact .inl ⟨_, applied, rfl, rfl⟩
  | .bound p q => by
      intro t c w o w' c'
      simp only [Program.passes_bound, Program.meaning]
      have first := Program.halts_meaning n false p t c w
      exact first.chain (fun x c w => Arrows.halts_meaning n last q x.1 x.2 c w) o w' c'

/-- So does that of a queue. -/
theorem Arrows.halts_meaning [Observed σ M] [LawfulCarrier σ M] [LawfulHalting σ M]
    (n : Interpreter σ τ F M) (last : Bool) {α β : Type} : (q : Arrows σ F α β) →
      ∀ a t c w, HaltsAs c (q.meaning n last a t w) (q.Passes n last a t c w)
  | .one f => by
      intro a t c w o w' c'
      simp only [Arrows.meaning]
      have calls {p w₁} (called : f a w = .returned p w₁) :=
        Program.Call.halts_meaning n last (f a w) p w₁ called t c
      constructor
      · intro halted
        rcases called : f a w with ⟨p, w₁⟩ | ⟨p, w₁⟩
        · rw [called] at halted
          simp only [Program.Call.meaning] at halted
          obtain ⟨tr, y, passes, rfl⟩ := (calls called _ _ _).mp halted
          exact ⟨_, y, .called called passes, rfl⟩
        · rw [called] at halted
          simp only [Program.Call.meaning] at halted
          obtain ⟨rfl, rfl, rfl⟩ := halts_panic.mp halted
          exact ⟨_, _, .panicked called, rfl⟩
      · rintro ⟨tr, y, passes, rfl⟩
        cases passes with
        | called called passes =>
          rw [called]
          simp only [Program.Call.meaning]
          exact (calls called _ _ _).mpr ⟨_, y, passes, rfl⟩
        | panicked called =>
          rw [called]
          simp only [Program.Call.meaning]
          exact halts_panic.mpr ⟨rfl, rfl, rfl⟩
  | .append q r => by
      intro a t c w o w' c'
      simp only [Arrows.passes_append, Arrows.meaning]
      have first := Arrows.halts_meaning n false q a t c w
      exact first.chain (fun x c w => Arrows.halts_meaning n last r x.1 x.2 c w) o w' c'

/-- And that of the program that an arrow returns. -/
theorem Program.Call.halts_meaning [Observed σ M] [LawfulCarrier σ M] [LawfulHalting σ M]
    (n : Interpreter σ τ F M) (last : Bool) {α : Type} : (r : Program.Call σ F α) →
      ∀ p w, r = .returned p w →
        ∀ t c, HaltsAs c (p.meaning n last t w) (p.Passes n last t c w)
  | .returned p w => by
      rintro p' w' ⟨⟩ t c
      exact Program.halts_meaning n last p t c w
  | .panicked e w => by
      rintro p' w' ⟨⟩

end

/-- Folding a program halts as the passages through it say. -/
theorem Program.halts_fold [Observed σ M] [LawfulCarrier σ M] [LawfulHalting σ M]
    [Loop.{u, max 1 v} σ M] [LawfulLoop.{u, max 1 v} σ M] (n : Interpreter σ τ F M) {α : Type} (p : Program σ F α) (t : τ) (c : Setting σ M) (w : σ)
    (o : Except (Halt σ M) α) (w' : σ) (c' : Setting σ M) :
    Halts c (p.fold n t w) o w' c' ↔ ∃ tr x, p.Passes n true t c w tr x w' c' ∧
      (x.map Prod.fst).mapError Break.toHalt = o := by
  refine ((fold_agrees n t p).haltAlike w c o w' c').trans (halts_chain.trans ?_)
  have meaning := halts_meaning n true p t c w
  constructor
  · rintro (⟨y, w₁, c₁, halted, rest⟩ | ⟨s, rfl, halted⟩)
    · obtain ⟨tr, b | x, passes, ⟨⟩⟩ := (meaning _ _ _).mp halted
      obtain ⟨rfl, rfl, rfl⟩ := halts_pure.mp rest
      exact ⟨tr, _, passes, rfl⟩
    · obtain ⟨tr, b | x, passes, ⟨⟩⟩ := (meaning _ _ _).mp halted
      exact ⟨tr, _, passes, rfl⟩
  · rintro ⟨tr, b | x, passes, rfl⟩
    · exact .inr ⟨_, rfl, (meaning _ _ _).mpr ⟨tr, _, passes, rfl⟩⟩
    · exact .inl ⟨x, w', c', (meaning _ _ _).mpr ⟨tr, _, passes, rfl⟩,
        halts_pure.mpr ⟨rfl, rfl, rfl⟩⟩

end Meaning

end Resumption
