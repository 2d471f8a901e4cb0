/-
Spans — the resources of a run are well nested.

Beside the world of a run stands a record.  A bracket gets its number when its
acquisition ends with a resource, and the number travels with the resource:

| what a bracket does                  | is entered as        |
|--------------------------------------|----------------------|
| its acquisition ends with a resource | `opened n x`         |
| its release is called                | `called n x`         |
| the release comes to its end         | `finished n`         |

Here `x` is what there is to be seen of the resource.  The library's events are
entered as they are told, so the acquired event of a bracket stands right after
its `opened`, and its released event right after its `finished`.

`Spans n l m` is the grammar of records: numbers from `n` up to `m` are given in
the order of the entries, and the span of a bracket, from `opened` to the
released event, holds whole spans besides its own entries.
-/
import Mathlib.Combinatorics.Enumerative.DyckWord
import Resumption.Action.Basic

namespace Resumption

open DyckStep

/-- An entry of the record. -/
inductive Entry (ι : Type) where
  | opened (bracket : Nat) (resource : ι)
  | called (bracket : Nat) (resource : ι)
  | finished (bracket : Nat)
  | told (e : Event)

/-- An acquired resource goes up, a released one down. -/
def Event.step : Event → Option DyckStep
  | acquired => some U
  | released _ _ => some D
  | _ => none

namespace Entry

variable {ι : Type}

/-- The step of an entry, if it is an event that is about a resource. -/
def step : Entry ι → Option DyckStep
  | told e => e.step
  | _ => none

/-- Is this the call of the release of bracket `i`? -/
def calls (i : Nat) : Entry ι → Bool
  | called n _ => n = i
  | _ => false

end Entry

/-! ## The grammar -/

section Grammar

variable {ι : Type}

open Entry

/-- Whole spans, one after another, of the brackets from `n` up to `m`. -/
inductive Spans : Nat → List (Entry ι) → Nat → Prop
  | nil (n : Nat) : Spans n [] n
  | aside {n m : Nat} {e : Event} {rest : List (Entry ι)} : e.step = none → Spans n rest m →
      Spans n (told e :: rest) m
  | span {n n₁ n₂ m : Nat} {x : ι} {use release rest : List (Entry ι)} {u f : Bool} :
      Spans (n + 1) use n₁ → Spans n₁ release n₂ → Spans n₂ rest m →
      Spans n (opened n x :: told .acquired :: (use ++ called n x :: (release ++ finished n ::
        told (.released u f) :: rest))) m

namespace Spans

variable {n m k : Nat} {l l' : List (Entry ι)}

theorem append (first : Spans n l m) (second : Spans m l' k) : Spans n (l ++ l') k := by
  induction first with
  | nil => exact second
  | aside apart _ ih => exact .aside apart (ih second)
  | span use release _ _ _ ih =>
    simp only [List.cons_append, List.append_assoc]
    exact .span use release (ih second)

/-- A span on its own. -/
theorem single (x : ι) (u f : Bool) {use release : List (Entry ι)} (inUse : Spans (n + 1) use m)
    (releasing : Spans m release k) : Spans n (opened n x :: told .acquired :: (use ++
      called n x :: (release ++ [finished n, told (.released u f)]))) k :=
  .span inUse releasing (.nil k)

theorem le (spans : Spans n l m) : n ≤ m := by
  induction spans with
  | nil => exact Nat.le_refl _
  | aside _ _ ih => exact ih
  | span _ _ _ use release rest => omega

/-- Acquired and released resources are a Dyck word. -/
theorem dyck (spans : Spans n l m) : ∃ p : DyckWord, p.toList = l.filterMap step := by
  induction spans with
  | nil => exact ⟨0, rfl⟩
  | @aside _ _ e rest apart _ ih =>
    obtain ⟨p, word⟩ := ih
    refine ⟨p, ?_⟩
    rw [word, List.filterMap_cons_none (show step (told e) = none from apart)]
  | @span _ _ _ _ _ use release rest _ _ _ _ _ ihUse ihRelease ihRest =>
    obtain ⟨p, used⟩ := ihUse
    obtain ⟨q, released⟩ := ihRelease
    obtain ⟨s, after⟩ := ihRest
    refine ⟨(p + q).nest + s, ?_⟩
    show ([U] ++ (p.toList ++ q.toList) ++ [D]) ++ s.toList = _
    simp only [List.filterMap_cons, List.filterMap_append, step, Event.step, used, released, after,
      List.append_assoc, List.cons_append, List.nil_append]

/-- The release of every bracket is called once. -/
theorem calls_once (spans : Spans n l m) (i : Nat) :
    l.countP (calls i) = if n ≤ i ∧ i < m then 1 else 0 := by
  induction spans with
  | nil => rw [List.countP_nil, if_neg (by omega)]
  | aside _ _ ih =>
    rw [List.countP_cons_of_neg (by simp [calls])]
    exact ih
  | @span n n₁ n₂ m _ _ _ _ _ _ use release rest ihUse ihRelease ihRest =>
    have inUse := use.le
    have releasing := release.le
    have after := rest.le
    simp only [List.countP_cons, List.countP_append, calls, ihUse, ihRelease, ihRest,
      decide_eq_true_eq, Bool.false_eq_true, ↓reduceIte]
    -- the numbers from `n` up to `m` are `n`, those of the use, of the release and of the rest
    split_ifs <;> omega

end Spans

/-- A record of `n` brackets: their spans, in which the events about resources are a Dyck
word and the release of every bracket is called once. -/
structure WellNested (n : Nat) (l : List (Entry ι)) : Prop where
  spans : Spans 0 l n
  dyck : ∃ p : DyckWord, p.toList = l.filterMap step
  calls_once : ∀ i, l.countP (calls i) = if i < n then 1 else 0

theorem Spans.wellNested {n : Nat} {l : List (Entry ι)} (spans : Spans 0 l n) : WellNested n l where
  spans := spans
  dyck := spans.dyck
  calls_once i := by
    rw [spans.calls_once]
    simp only [Nat.zero_le, true_and]

end Grammar

/-! ## Worlds with a record -/

/-- A world with a record beside it, in which the next bracket has the number
`brackets`. -/
structure Recorded (ι σ : Type) where
  world : σ
  brackets : Nat
  record : List (Entry ι)

namespace Recorded

variable {ι σ : Type}

/-- A world at the start of a run. -/
def blank (w : σ) : Recorded ι σ := ⟨w, 0, []⟩

/-- Makes an entry. -/
def write (e : Entry ι) (b : Recorded ι σ) : Recorded ι σ :=
  { b with record := b.record ++ [e] }

/-- Gives the next number to a bracket. -/
def enroll (x : ι) (b : Recorded ι σ) : Recorded ι σ :=
  { b.write (.opened b.brackets x) with brackets := b.brackets + 1 }

instance [Observer σ] : Observer (Recorded ι σ) where
  note e b := { b.write (.told e) with world := note e b.world }
  setClock t b := { b with world := setClock t b.world }

section World

variable (b : Recorded ι σ)

@[simp] theorem world_write (e : Entry ι) : (b.write e).world = b.world := rfl

@[simp] theorem world_enroll (x : ι) : (b.enroll x).world = b.world := rfl

@[simp] theorem world_note [Observer σ] (e : Event) : (note e b).world = note e b.world := rfl

end World

/-- What was entered in between are whole spans. -/
def Grew (b b' : Recorded ι σ) : Prop :=
  ∃ l, b'.record = b.record ++ l ∧ Spans b.brackets l b'.brackets

namespace Grew

variable {b b₁ b₂ : Recorded ι σ}

theorem same (record : b₁.record = b.record) (brackets : b₁.brackets = b.brackets) : b.Grew b₁ := by
  refine ⟨[], ?_, ?_⟩
  · rw [record, List.append_nil]
  · rw [brackets]
    exact .nil _

theorem trans (first : b.Grew b₁) (second : b₁.Grew b₂) : b.Grew b₂ := by
  obtain ⟨l, entered, spans⟩ := first
  obtain ⟨l', entered', spans'⟩ := second
  refine ⟨l ++ l', ?_, spans.append spans'⟩
  rw [entered', entered, List.append_assoc]

variable [Observer σ]

theorem told {e : Event} (apart : e.step = none) : b.Grew (note e b) :=
  ⟨[.told e], rfl, .aside apart (.nil _)⟩

/-- A bracket enters its span, around those of its use and of its release. -/
theorem span {x : ι} (u f : Bool) (inUse : (note .acquired (b.enroll x)).Grew b₁)
    (releasing : (b₁.write (.called b.brackets x)).Grew b₂) :
    b.Grew (note (.released u f) (b₂.write (.finished b.brackets))) := by
  obtain ⟨use, used, usedSpans⟩ := inUse
  obtain ⟨release, released, releasedSpans⟩ := releasing
  refine ⟨_, ?_, .single x u f usedSpans releasedSpans⟩
  simp only [note, write, enroll] at used released ⊢
  simp only [used, released, List.append_assoc, List.cons_append, List.nil_append]

end Grew

end Recorded

namespace Action

variable {ι σ : Type} {α β ρ : Type}

/-- A closure beside a record that it does not see. -/
def unrecorded (h : Host σ α) : Host (Recorded ι σ) α :=
  fun b => match h b.world with
    | (r, w) => (r, { b with world := w })

section Recorded

variable (see : (ρ : Type) → ρ → ι)

/-- Gives a number to the bracket that has acquired a resource. -/
def numbered : Except Failure ρ → Host (Recorded ι σ) (Except Failure (ρ × Nat))
  | .ok x => fun b => (.ok (.ok (x, b.brackets)), b.enroll (see ρ x))
  | .error e => .pure (.error e)

/-- A release that is entered when it is called and when it ends. -/
def entered (x : ρ × Nat) (s : Recorded ι σ → Call (Recorded ι σ) α) :
    Action (Recorded ι σ) α :=
  conclude (suspend fun b => s (b.write (.called x.2 (see ρ x.1))))
    fun o b => (.ok o, b.write (.finished x.2))

mutual

/-- The action in a world with a record, with numbers for its brackets. -/
def recorded {α : Type} : Action σ α → Action (Recorded ι σ) α
  | ready o => ready o
  | perform h => perform (unrecorded h)
  | suspend s => suspend fun b => (s b.world).recorded b
  | conclude a f => conclude a.recorded fun o => unrecorded (f o)
  | bind a k => bind a.recorded fun x b => (k x b.world).recorded b
  | rescue a k => rescue a.recorded fun e b => (k e b.world).recorded b
  | bracket acquire use release =>
    bracket (conclude acquire.recorded (numbered see)) (fun x b => (use x.1 b.world).recorded b)
      fun x o b => .returned (entered see x fun b => (release x.1 o b.world).recorded b) b

/-- What a call returned, in a world with a record. -/
def Call.recorded {α : Type} : Call σ α → Recorded ι σ → Call (Recorded ι σ) α
  | .returned a w, b => .returned a.recorded { b with world := w }
  | .panicked p w, b => .panicked p { b with world := w }

end

end Recorded

/-! ## Runs with a record -/

/-- A run with a record, from `b`, does what the other run does and enters whole spans. -/
structure Records (b : Recorded ι σ) (run : Except Failure α × σ)
    (run' : Except Failure α × Recorded ι σ) : Prop where
  outcome : run'.1 = run.1
  world : run'.2.world = run.2
  spans : b.Grew run'.2

namespace Records

variable {b b' : Recorded ι σ} {run : Except Failure α × σ}
  {run' : Except Failure α × Recorded ι σ}

/-- Nothing was entered. -/
theorem of_same {o : Except Failure α} {w : σ} : Records b (o, w) (o, { b with world := w }) :=
  ⟨rfl, rfl, .same rfl rfl⟩

theorem trans (grew : b.Grew b') (records : Records b' run run') : Records b run run' :=
  ⟨records.outcome, records.world, grew.trans records.spans⟩

/-- Both runs end with one outcome, in the worlds that belong together. -/
theorem ends (records : Records b run run') :
    ∃ o b', run = (o, b'.world) ∧ run' = (o, b') ∧ b.Grew b' := by
  obtain ⟨outcome, world, spans⟩ := records
  exact ⟨run'.1, run'.2, Prod.ext outcome.symm world.symm, rfl, spans⟩

theorem caught (h : Host σ (Except Failure α)) (b : Recorded ι σ) :
    Records b (h.caught b.world) ((unrecorded h).caught b) := by
  rcases ended : h b.world with ⟨_ | _, _⟩
  · simp only [Host.caught, unrecorded, ended]
    exact of_same
  · simp only [Host.caught, unrecorded, ended]
    exact of_same

variable [Observer σ]

/-- The end of a bracket enters its released event, and none about another resource. -/
theorem closed {used : Except Failure β} {released : Except Failure Verdict}
    (grew : b.Grew (note (.released (failedOutcome used) (failedVerdict released)) b')) :
    Records b (closeBracket used released b'.world) (closeBracket used released b') := by
  unfold closeBracket
  rcases used with e | x <;> rcases released with e' | v
  · exact ⟨rfl, rfl, grew.trans (.told rfl)⟩
  · exact ⟨rfl, rfl, grew⟩
  · exact ⟨rfl, rfl, grew⟩
  · exact ⟨rfl, rfl, grew⟩

end Records

variable [Observer σ]

theorem run_entered (see : (ρ : Type) → ρ → ι) (x : ρ × Nat)
    (s : Recorded ι σ → Call (Recorded ι σ) α) (b : Recorded ι σ) :
    (entered see x s).run b =
      (((s (b.write (.called x.2 (see ρ x.1)))).run).1,
        ((s (b.write (.called x.2 (see ρ x.1)))).run).2.write (.finished x.2)) := by
  simp only [entered, run, Host.caught]

mutual

theorem run_recorded (see : (ρ : Type) → ρ → ι) {α : Type} : (a : Action σ α) →
    ∀ b : Recorded ι σ, Records b (a.run b.world) ((a.recorded see).run b)
  | .ready o, b => .of_same
  | .perform h, b => .caught h b
  | .suspend s, b => (s b.world).run_recorded see b
  | .conclude a f, b => by
    obtain ⟨o, b₁, ran, ran', grew⟩ := (a.run_recorded see b).ends
    simp only [recorded, run, ran, ran']
    exact (Records.caught (f o) b₁).trans grew
  | .bind a k, b => by
    obtain ⟨o, b₁, ran, ran', grew⟩ := (a.run_recorded see b).ends
    simp only [recorded, run, ran, ran']
    cases o with
    | error e => exact ⟨rfl, rfl, grew⟩
    | ok x => exact ((k x b₁.world).run_recorded see b₁).trans grew
  | .rescue a k, b => by
    obtain ⟨o, b₁, ran, ran', grew⟩ := (a.run_recorded see b).ends
    simp only [recorded, run, ran, ran']
    cases o with
    | error e => exact ((k e b₁.world).run_recorded see b₁).trans grew
    | ok x => exact ⟨rfl, rfl, grew⟩
  | .bracket acquire use release, b => by
    obtain ⟨o, b₁, ran, ran', grew⟩ := (acquire.run_recorded see b).ends
    simp only [recorded, run, ran, ran']
    cases o with
    | error e => exact ⟨rfl, rfl, grew⟩
    | ok x =>
      obtain ⟨used, b₂, ran, ran', inUse⟩ := ((use x (note .acquired b₁.world)).run_recorded see
        (note .acquired (b₁.enroll (see _ x)))).ends
      obtain ⟨released, b₃, ran₃, ran₃', releasing⟩ :=
        ((release x used.toOption b₂.world).run_recorded see
          (b₂.write (.called b₁.brackets (see _ x)))).ends
      have span := inUse.span (failedOutcome used) (failedVerdict released) releasing
      simp only [numbered, Host.caught, Call.run, run_entered, Recorded.world_note,
        Recorded.world_write, Recorded.world_enroll, ran, ran', ran₃, ran₃']
      exact (Records.closed span).trans grew

theorem Call.run_recorded (see : (ρ : Type) → ρ → ι) {α : Type} : (c : Call σ α) →
    ∀ b : Recorded ι σ, Records b c.run (c.recorded see b).run
  | .returned a w, b => by
    simp only [Call.recorded, Call.run]
    refine .trans ?_ (a.run_recorded see { b with world := w })
    exact .same rfl rfl
  | .panicked p w, b => by
    simp only [Call.recorded, Call.run]
    exact .of_same

end

/-- The brackets of a run are well nested, however closures fail or panic, and every
release is called with the resource of its bracket. -/
theorem brackets_wellNested (see : (ρ : Type) → ρ → ι) (a : Action σ α) (w : σ) :
    let run := (a.recorded see).run (.blank w)
    (run.1, run.2.world) = a.run w ∧ WellNested run.2.brackets run.2.record := by
  obtain ⟨o, b, ran, ran', l, entered, spans⟩ := (a.run_recorded see (.blank w)).ends
  dsimp only [Recorded.blank] at ran
  simp only [ran, ran', entered]
  exact ⟨trivial, spans.wellNested⟩

/-- A bracket in the use of another one; the use of the inner one panics. -/
example (w : σ) :
    let inner : Action σ (Unit × Verdict) := .bracket (.ready (.ok 1))
      (fun _ w => .panicked .nonText w) fun _ _ w => .returned (.ready (.ok .clean)) w
    let outer : Action σ ((Unit × Verdict) × Verdict) := .bracket (.ready (.ok 0))
      (fun _ w => .returned inner w) fun _ _ w => .returned (.ready (.ok .clean)) w
    ((outer.recorded fun _ _ => ()).run (.blank w)).2.record =
      [.opened 0 (), .told .acquired, .opened 1 (), .told .acquired,
        .called 1 (), .finished 1, .told (.released true false),
        .called 0 (), .finished 0, .told (.released true false)] :=
  rfl

end Action

end Resumption
