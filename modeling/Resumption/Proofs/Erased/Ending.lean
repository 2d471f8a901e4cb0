/-
Ending — when the loop of normalizing comes to its end.

Normalizing turns binds over onto the queue, and hands the value of a finished source to
its continuation, which may make any program of it.  No number shrinks on the way: turning
over makes the queue longer, and a call puts a new program in the place of a value.

What can go on for ever is calls alone, since between two calls the spine of one program
is turned over.  A handing is a finished source with the continuation that takes its
value, and it succeeds another if the continuation of that one made it.

| an endless sequence | in which each one makes a bind on a finished source      |
|---------------------|----------------------------------------------------------|
| of handings         | of the value it takes, and this bind is the next handing |
| of arrows           | of some value, and the next arrow stands in this bind    |

If every continuation that is called returns a program, normalizing returns a normal form
exactly if no endless sequence of handings starts from the program.  There is none if
there is no endless sequence of arrows, whatever the values and worlds they meet: a call
replaces the first arrow of a queue by arrows below it, which cannot go on for ever.

The arrows of a program that is built from below come before what they make, so its
normalizing always ends, and ends as `Erased.normalize` does.
-/
import Mathlib.Logic.Relation
import Mathlib.Order.WellFounded
import Resumption.Erased.Knotted

namespace Resumption

universe u v

variable {σ : Type} {F : Type → Type v} {Ty : Type} {El : Ty → Type} {κ : Type u}

namespace Knotted

/-! ## Handings -/

/-- A value that was finished in some world, and the continuation that takes it. -/
structure Handing (σ : Type) {Ty : Type} (El : Ty → Type) (κ : Type u) where
  value : Boxed El
  queue : List κ
  world : σ

/-- What becomes of the continuation's call. -/
def Handing.call (t : Table σ F El κ) (x : Handing σ El κ) :
    Part (Except Erased.Fault (Knotted F El κ) × σ) :=
  apply t x.queue x.value x.world

/-- A bind on a finished source, turned over until the source is no bind. -/
def handing : Knotted F El κ → σ → Option (Handing σ El κ)
  | .bound p q, w => p.value?.map fun v => ⟨v, p.arrows ++ q, w⟩
  | _, _ => none

/-- What the continuation of `x` makes is again a bind on a finished source, which is `y`. -/
def Succeeds (t : Table σ F El κ) (y x : Handing σ El κ) : Prop :=
  ∃ p w, (.ok p, w) ∈ x.call t ∧ p.handing w = some y

/-- Every continuation that is called from the program on returns a program. -/
def Total (t : Table σ F El κ) (p : Knotted F El κ) (w : σ) : Prop :=
  ∀ x, p.handing w = some x → ∀ y, Relation.ReflTransGen (Succeeds t) y x →
    ∃ r u, (.ok r, u) ∈ y.call t

/-- There is an infinite sequence of continuations from the program on, each of which
makes again a bind on a finished source. -/
def Endless (t : Table σ F El κ) (p : Knotted F El κ) (w : σ) : Prop :=
  ∃ x : ℕ → Handing σ El κ, p.handing w = some (x 0) ∧ ∀ i, Succeeds t (x (i + 1)) (x i)

variable {t : Table σ F El κ}

theorem endless_iff {p : Knotted F El κ} {w : σ} :
    Endless t p w ↔ ∃ x, p.handing w = some x ∧ ¬ Acc (Succeeds t) x := by
  constructor
  · rintro ⟨x, handed, chain⟩
    exact ⟨x 0, handed, not_acc_iff_exists_descending_chain.mpr ⟨x, rfl, chain⟩⟩
  · rintro ⟨x, handed, endless⟩
    obtain ⟨y, rfl, chain⟩ := not_acc_iff_exists_descending_chain.mp endless
    exact ⟨y, handed, chain⟩

/-- Continuations that return whatever they are called on return on the way. -/
theorem total_of_forall (h : ∀ f v w, ∃ p u, (.ok p, u) ∈ t f v w) (p : Knotted F El κ)
    (w : σ) : Total t p w := by
  rintro - - ⟨v, q, u⟩ -
  cases q with
  | nil => exact ⟨.done v, u, Part.mem_some _⟩
  | cons f q =>
    obtain ⟨r, u', returned⟩ := h f v u
    exact ⟨resting r q, u', (Part.mem_map_iff _).mpr ⟨_, returned, rfl⟩⟩

/-! ## The spine -/

/-- A handing consists of the value of the innermost source and all the arrows. -/
theorem eq_of_handing {p : Knotted F El κ} {w : σ} {x : Handing σ El κ}
    (h : p.handing w = some x) : p.value? = some x.value ∧ x = ⟨x.value, p.arrows, w⟩ := by
  cases p with
  | done v => cases h
  | suspend e => cases h
  | bound p q =>
    obtain ⟨v, valued, rfl⟩ := Option.map_eq_some_iff.mp h
    exact ⟨valued, rfl⟩

/-- A program that has arrows hands its value on to them. -/
theorem handing_of_mem_arrows {p : Knotted F El κ} {v : Boxed El} (h : p.value? = some v)
    {f : κ} (mem : f ∈ p.arrows) (w : σ) : p.handing w = some ⟨v, p.arrows, w⟩ := by
  cases p with
  | done v => cases mem
  | suspend e => cases mem
  | bound p q => exact Option.map_eq_some_iff.mpr ⟨v, h, rfl⟩

/-! ## Turning over -/

/-- A bind is turned over until its source is the innermost one. -/
theorem normalize_bound_of_value {p : Knotted F El κ} {v : Boxed El} (h : p.value? = some v)
    (q : List κ) (w : σ) :
    (bound p q).normalize t w = (bound (done v) (p.arrows ++ q)).normalize t w := by
  induction p generalizing q with
  | done v =>
    cases h
    rfl
  | suspend e => cases h
  | bound p r ih => rw [normalize_bound_bound, ih h, arrows, List.append_assoc]

/-- If that is an effect, there is nothing to call. -/
theorem normalize_bound_of_effect {p : Knotted F El κ} (h : p.value? = none) (q : List κ)
    (w : σ) : ∃ n, (bound p q).normalize t w = .some (.ok n, w) := by
  induction p generalizing q with
  | done v => cases h
  | suspend e => exact ⟨_, normalize_bound_suspend t e q w⟩
  | bound p r ih =>
    rw [normalize_bound_bound]
    exact ih h (r ++ q)

/-- A program that hands no value on is normalized without a call. -/
theorem returns_of_no_handing {p : Knotted F El κ} {w : σ} (h : p.handing w = none) :
    ∃ n u, (.ok n, u) ∈ p.normalize t w := by
  obtain ⟨n, normal⟩ : ∃ n, p.normalize t w = .some (.ok n, w) := by
    cases p with
    | done v => exact ⟨_, normalize_done t v w⟩
    | suspend e => exact ⟨_, normalize_suspend t e w⟩
    | bound p q => exact normalize_bound_of_effect (Option.map_eq_none_iff.mp h) q w
  exact ⟨n, w, Part.eq_some_iff.mp normal⟩

/-- Any other program is normalized as what its continuation makes of the value. -/
theorem normalize_of_handing {p r : Knotted F El κ} {w u : σ} {x : Handing σ El κ}
    (h : p.handing w = some x) (called : (.ok r, u) ∈ x.call t) :
    p.normalize t w = r.normalize t u := by
  cases p with
  | done v => cases h
  | suspend e => cases h
  | bound p q =>
    obtain ⟨v, valued, rfl⟩ := Option.map_eq_some_iff.mp h
    rw [normalize_bound_of_value valued]
    exact normalize_of_returned called

/-! ## Sequences of handings -/

theorem Total.of_handing {p : Knotted F El κ} {w : σ} (h : Total t p w) {x : Handing σ El κ}
    (handed : p.handing w = some x) {r : Knotted F El κ} {u : σ}
    (called : (.ok r, u) ∈ x.call t) : Total t r u := by
  intro y handed' z reached
  exact h x handed z (reached.tail ⟨r, u, called, handed'⟩)

/-- With no endless sequence of handings, normalizing returns. -/
theorem returns_of_acc {p : Knotted F El κ} {w : σ} (total : Total t p w)
    {x : Handing σ El κ} (handed : p.handing w = some x) (acc : Acc (Succeeds t) x) :
    ∃ n u, (.ok n, u) ∈ p.normalize t w := by
  induction acc generalizing p w with
  | intro x _ ih =>
    obtain ⟨r, u, called⟩ := total x handed x .refl
    rw [normalize_of_handing handed called]
    cases handed' : r.handing u with
    | none => exact returns_of_no_handing handed'
    | some y => exact ih y ⟨r, u, called, handed'⟩ (total.of_handing handed called) handed'

/-- If normalizing comes to an end, no endless sequence of handings starts from the
program. -/
theorem acc_of_normalize {p : Knotted F El κ} {w : σ}
    {r : Except Erased.Fault (Normal F El κ) × σ} (h : r ∈ p.normalize t w) :
    ∀ x, p.handing w = some x → Acc (Succeeds t) x := by
  -- the induction is on the rounds: turning over keeps the handing, and a call takes it away
  refine PFun.fixInduction (C := fun s => ∀ x, s.1.handing s.2 = some x → Acc (Succeeds t) x)
    h ?_
  rintro ⟨p, w⟩ - ih x handed
  rcases p with v | e | ⟨v | e | ⟨p, q⟩, q'⟩
  · cases handed
  · cases handed
  · cases handed
    refine .intro _ fun y succeeds => ?_
    obtain ⟨r, u, called, handed'⟩ := succeeds
    exact ih (r, u) ((Part.mem_map_iff _).mpr ⟨_, called, rfl⟩) y handed'
  · cases handed
  · refine ih _ (Part.mem_some _) x ?_
    rw [andThen_eq, ← handed]
    dsimp only [handing, value?, arrows]
    rw [List.append_assoc]

theorem returns_iff {p : Knotted F El κ} {w : σ} (total : Total t p w) :
    (∃ n u, (.ok n, u) ∈ p.normalize t w) ↔ ¬ Endless t p w := by
  rw [endless_iff]
  constructor
  · rintro ⟨n, u, normal⟩ ⟨x, handed, endless⟩
    exact endless (acc_of_normalize normal x handed)
  · intro founded
    cases handed : p.handing w with
    | none => exact returns_of_no_handing handed
    | some x =>
      refine returns_of_acc total handed ?_
      by_contra endless
      exact founded ⟨x, handed, endless⟩

/-! ## Sequences of arrows -/

/-- Of some value, in some world, `f` makes a bind on a finished source that has `g` among
its arrows. -/
def SpawnedBy (t : Table σ F El κ) (g f : κ) : Prop :=
  ∃ v w p u x, (.ok p, u) ∈ t f v w ∧ p.handing u = some x ∧ g ∈ x.queue

/-- There is an infinite sequence of arrows from those of the program on, each of which
makes a bind on a finished source that has the next one among its arrows. -/
def SpawnsEndlessly (t : Table σ F El κ) (p : Knotted F El κ) : Prop :=
  ∃ f : ℕ → κ, f 0 ∈ p.arrows ∧ ∀ i, SpawnedBy t (f (i + 1)) (f i)

/-- Arrows that make arrows of a lower rank only do not spawn endlessly. -/
theorem not_spawnsEndlessly_of_rank (rank : κ → ℕ)
    (lower : ∀ f g, SpawnedBy t g f → rank g < rank f) (p : Knotted F El κ) :
    ¬ SpawnsEndlessly t p := by
  rintro ⟨f, -, chain⟩
  exact not_acc_iff_exists_descending_chain.mpr
    ⟨rank ∘ f, rfl, fun i => lower _ _ (chain i)⟩ (Nat.lt_wfRel.wf.apply _)

theorem acc_of_mem_arrows {p : Knotted F El κ} (h : ¬ SpawnsEndlessly t p) {f : κ}
    (mem : f ∈ p.arrows) : Acc (SpawnedBy t) f := by
  by_contra endless
  obtain ⟨g, rfl, chain⟩ := not_acc_iff_exists_descending_chain.mp endless
  exact h ⟨g, mem, chain⟩

variable (t) in
/-- Handing a value to the queue comes to an end. -/
def Settles (q : List κ) : Prop :=
  ∀ v w, Acc (Succeeds t) ⟨v, q, w⟩

theorem settles_nil : Settles t [] := by
  refine fun v w => .intro _ fun y succeeds => ?_
  obtain ⟨p, u, called, handed⟩ := succeeds
  cases Part.mem_some_iff.mp called
  cases handed

theorem settles_append {l q : List κ}
    (h : ∀ f ∈ l, ∀ q, Settles t q → Settles t (f :: q)) (hq : Settles t q) :
    Settles t (l ++ q) := by
  induction l with
  | nil => exact hq
  | cons f l ih =>
    exact h f List.mem_cons_self _ (ih fun g mem => h g (List.mem_cons_of_mem f mem))

/-- An arrow from which no endless sequence of arrows starts can be put before a queue. -/
theorem settles_cons {f : κ} {q : List κ} (hf : Acc (SpawnedBy t) f) (hq : Settles t q) :
    Settles t (f :: q) := by
  induction hf generalizing q with
  | intro f _ ih =>
    refine fun v w => .intro _ fun y succeeds => ?_
    obtain ⟨p, u, called, handed⟩ := succeeds
    obtain ⟨⟨e | r, u⟩, returned, made⟩ := (Part.mem_map_iff _).mp called <;> cases made
    obtain ⟨valued, same⟩ := eq_of_handing handed
    rw [value?_resting] at valued
    rw [same, arrows_resting]
    -- the arrows of what was returned are spawned by the one that was called
    refine settles_append (fun g mem q hq => ih g ?_ hq) hq _ _
    exact ⟨v, w, r, u, _, returned, handing_of_mem_arrows valued mem u, mem⟩

theorem not_endless_of_arrows {p : Knotted F El κ} (h : ¬ SpawnsEndlessly t p) (w : σ) :
    ¬ Endless t p w := by
  have settles : Settles t (p.arrows ++ []) :=
    settles_append (fun f mem q hq => settles_cons (acc_of_mem_arrows h mem) hq) settles_nil
  rw [List.append_nil] at settles
  rw [endless_iff]
  rintro ⟨x, handed, endless⟩
  rw [(eq_of_handing handed).2] at endless
  exact endless (settles _ _)

end Knotted

/-! ## Programs built from below -/

namespace Erased

variable [DecidableEq Ty]

/-- No endless sequence of arrows starts from a program that is built from below. -/
theorem acc_spawnedBy (p : Erased σ F El) :
    ∀ f ∈ p.knotted.arrows, Acc (Knotted.SpawnedBy table) f := by
  refine Erased.rec
    (motive_1 := fun p => ∀ f ∈ p.knotted.arrows, Acc (Knotted.SpawnedBy table) f)
    (motive_2 := fun f => Acc (Knotted.SpawnedBy table) f)
    (motive_3 := fun c => ∀ p w, c = .returned p w →
      ∀ f ∈ p.knotted.arrows, Acc (Knotted.SpawnedBy table) f)
    (motive_4 := fun q => ∀ f ∈ q, Acc (Knotted.SpawnedBy table) f)
    ?done ?suspend ?bound ?arrow ?returned ?panicked ?nil ?cons p
  case done => exact fun v f mem => nomatch mem
  case suspend => exact fun e f mem => nomatch mem
  case bound =>
    intro p q ihp ihq f mem
    exact (List.mem_append.mp mem).elim (ihp f) (ihq f)
  case arrow =>
    intro takes makes closure ih
    refine .intro _ fun g spawned => ?_
    obtain ⟨v, w, p, u, x, called, handed, mem⟩ := spawned
    have made := Part.mem_some_iff.mp called
    rcases ran : (Arrow.mk takes makes closure).run v w with ⟨e | r, w'⟩ <;>
      rw [ran] at made <;> cases made
    obtain ⟨a, returned⟩ := Arrow.exists_of_run ran
    rw [(Knotted.eq_of_handing handed).2] at mem
    exact ih a w r w' returned g mem
  case returned =>
    intro p w ih p' w' e
    cases e
    exact ih
  case panicked =>
    intro p w p' w' e
    cases e
  case nil => exact fun f mem => nomatch mem
  case cons =>
    intro f q ihf ihq g mem
    cases mem with
    | head => exact ihf
    | tail _ mem => exact ihq g mem

theorem not_spawnsEndlessly_knotted (p : Erased σ F El) :
    ¬ Knotted.SpawnsEndlessly table p.knotted := by
  rintro ⟨f, mem, chain⟩
  exact not_acc_iff_exists_descending_chain.mpr ⟨f, rfl, chain⟩ (acc_spawnedBy p _ mem)

end Erased

/-! ## The end of normalizing -/

namespace Knotted

/-- Normalizing comes to its end.  For arrows of any kind, also such that come round again,
and a program of any depth and nesting all of whose continuations return a program when they
are called: normalizing returns a value, an effect, or an effect with a continuation,
exactly if there is no infinite sequence of continuations each of which makes again a bind
on a finished source.  It does so if there is no infinite sequence of arrows each of which
makes a bind on a finished source with the next one in it.

For a program that is built from below neither of the two sequences exists, and the loop
ends as its normalizing by recursion does, be it with a normal form or with a fault. -/
theorem normalizing_ends [DecidableEq Ty] :
    (∀ (t : Table σ F El κ) (p : Knotted F El κ) (w : σ), Total t p w →
      ((∃ n u, (.ok n, u) ∈ p.normalize t w) ↔ ¬ Endless t p w) ∧
      (¬ SpawnsEndlessly t p → ∃ n u, (.ok n, u) ∈ p.normalize t w)) ∧
    ∀ (p : Erased σ F El) (w : σ),
      ¬ SpawnsEndlessly Erased.table p.knotted ∧ ¬ Endless Erased.table p.knotted w ∧
      p.knotted.normalize Erased.table w =
        .some ((p.normalize w).1.map Erased.Normal.knotted, (p.normalize w).2) := by
  refine ⟨fun t p w total => ⟨returns_iff total, fun founded => ?_⟩, fun p w => ?_⟩
  · exact (returns_iff total).mpr (not_endless_of_arrows founded w)
  · have founded := Erased.not_spawnsEndlessly_knotted p
    exact ⟨founded, not_endless_of_arrows founded w, Erased.normalize_knotted p w⟩

/-- The name `some (n + 1)` makes a bind to `some n` of another one, and `some 0` counts.  The
name `none` makes an effect before itself, so the program that it makes never ends. -/
def branches : Table Unit Identity (fun _ : Unit => ℕ) (Option ℕ)
  | some 0, ⟨(), (a : ℕ)⟩, w => .some (.ok (.done ⟨(), a + 1⟩), w)
  | some (n + 1), v, w => .some (.ok (.bound (.bound (.done v) [some n]) [some n]), w)
  | none, v, w => .some (.ok (.bound (.suspend ⟨v⟩) [none]), w)

/-- Counts to three times two to the power of three, and then goes on for ever with its
effects. -/
def branching : Knotted Identity (fun _ : Unit => ℕ) (Option ℕ) :=
  .bound (.bound (.bound (.done ⟨(), (0 : ℕ)⟩) [some 3, some 3]) [some 3]) [none]

theorem branching_ends : Total branches branching () ∧ ¬ SpawnsEndlessly branches branching ∧
    (∃ n u, (.ok n, u) ∈ branching.normalize branches ()) ∧
    ¬ Endless branches branching () := by
  have total : Total branches branching () := by
    refine total_of_forall (fun f v w => ?_) branching ()
    rcases f with _ | _ | n <;> exact ⟨_, _, Part.mem_some _⟩
  have founded : ¬ SpawnsEndlessly branches branching := by
    refine not_spawnsEndlessly_of_rank (fun f => f.getD 0) (fun f g spawned => ?_) branching
    obtain ⟨v, w, p, u, x, called, handed, mem⟩ := spawned
    rcases f with _ | _ | n <;> cases Part.mem_some_iff.mp called <;> cases handed
    have same : g = some n := by simpa [arrows] using mem
    rw [same]
    exact Nat.lt_succ_self n
  obtain ⟨exactly, ends⟩ := normalizing_ends.1 branches branching () total
  exact ⟨total, founded, ends founded, exactly.mp (ends founded)⟩

end Knotted

end Resumption
