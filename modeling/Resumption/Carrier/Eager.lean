/-
Eager — the carriers whose computations are plain values.

`Identity` never fails, `Option` fails with nothing to say, `Except ε` fails
with an `ε`.  Their operations call closures at once, and a panic leaves the
operation that called the closure.
-/
import Resumption.Carrier.Basic

namespace Resumption

universe u w

variable {σ : Type}

/-! ## Identity -/

/-- A computation that is its value. -/
structure Identity (α : Type u) where
  value : α
deriving DecidableEq, Ord, Inhabited

instance : Carrier σ Identity where
  pure a := ⟨a⟩
  map m f := (f m.value).map Identity.mk
  bind m f := f m.value

/-- Goes round with the value of each computation. -/
def Identity.iterate {S : Type w} {R : S → S → Prop} {β : Type} (wf : WellFounded R)
    (step : (s : S) → Host σ (Turn σ Identity {t // R t s} β)) (s : S) : Host σ (Identity β) :=
  fun w =>
    match step s w with
    | (.error p, w) => (.error p, w)
    | (.ok (.finish b), w) => (.ok ⟨b⟩, w)
    | (.ok (.await m next), w) =>
      match next m.value w with
      | (.error p, w) => (.error p, w)
      | (.ok (.right b), w) => (.ok ⟨b⟩, w)
      | (.ok (.left ⟨t, _⟩), w) => Identity.iterate wf step t w
termination_by wf.wrap s

instance : Loop.{0, w} σ Identity := ⟨fun _ => Identity.iterate⟩

/-! ## Option -/

instance : Carrier σ Option where
  pure := some
  map
    | some a, f => (f a).map some
    | none, _ => .pure none
  bind
    | some a, f => f a
    | none, _ => .pure none

instance : ErrorChannel σ Option Unit where
  raise _ := none
  handle
    | some a, _ => .pure (some a)
    | none, f => f ()

/-- Goes round until a computation is absent. -/
def optionIterate {S : Type w} {R : S → S → Prop} {β : Type} (wf : WellFounded R)
    (step : (s : S) → Host σ (Turn σ Option {t // R t s} β)) (s : S) : Host σ (Option β) :=
  fun w =>
    match step s w with
    | (.error p, w) => (.error p, w)
    | (.ok (.finish b), w) => (.ok (some b), w)
    | (.ok (.await none _), w) => (.ok none, w)
    | (.ok (.await (some a) next), w) =>
      match next a w with
      | (.error p, w) => (.error p, w)
      | (.ok (.right b), w) => (.ok (some b), w)
      | (.ok (.left ⟨t, _⟩), w) => optionIterate wf step t w
termination_by wf.wrap s

instance : Loop.{0, w} σ Option := ⟨fun _ => optionIterate⟩

/-! ## Except -/

variable {ε : Type}

instance : Carrier σ (Except ε) where
  pure := .ok
  map
    | .ok a, f => (f a).map .ok
    | .error e, _ => .pure (.error e)
  bind
    | .ok a, f => f a
    | .error e, _ => .pure (.error e)

instance : ErrorChannel σ (Except ε) ε where
  raise := .error
  handle
    | .ok a, _ => .pure (.ok a)
    | .error e, f => f e

/-- Goes round until a computation is an error. -/
def exceptIterate {S : Type w} {R : S → S → Prop} {β : Type} (wf : WellFounded R)
    (step : (s : S) → Host σ (Turn σ (Except ε) {t // R t s} β)) (s : S) :
    Host σ (Except ε β) :=
  fun w =>
    match step s w with
    | (.error p, w) => (.error p, w)
    | (.ok (.finish b), w) => (.ok (.ok b), w)
    | (.ok (.await (.error e) _), w) => (.ok (.error e), w)
    | (.ok (.await (.ok a) next), w) =>
      match next a w with
      | (.error p, w) => (.error p, w)
      | (.ok (.right b), w) => (.ok (.ok b), w)
      | (.ok (.left ⟨t, _⟩), w) => exceptIterate wf step t w
termination_by wf.wrap s

instance : Loop.{0, w} σ (Except ε) := ⟨fun _ => exceptIterate⟩

end Resumption
