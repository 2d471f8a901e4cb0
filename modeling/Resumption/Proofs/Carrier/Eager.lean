/-
Eager — the eager carriers are lawful.

Their computations are plain values, so observing one is looking at it: two runs
of the host agree when they end with the same value or panic, in the same world.
-/
import Resumption.Carrier.Eager
import Resumption.Proofs.Carrier.Observation

namespace Resumption

universe w

variable {σ ε : Type}

/-! ## Identity -/

instance : Observed σ Identity where
  Same := Eq
  refl := Eq.refl
  symm := Eq.symm
  trans := Eq.trans

instance : LawfulCarrier σ Identity where
  map_eq _ _ := .refl _
  pure_bind _ _ := .refl _
  bind_pure _ := .refl _
  bind_assoc _ _ _ := .refl _
  chain_congr {_ _ h h' k k'} e e' := by
    obtain rfl : h = h' := funext e
    obtain rfl : k = k' := funext fun a => funext (e' a)
    exact .refl _

instance : LawfulLoop.{0, w} σ Identity where
  iterate_eq maps wf step s v := by
    show Identity.iterate wf step s v = _
    rw [Identity.iterate, Host.bind]
    rcases step s v with ⟨_ | ⟨_ | ⟨⟨a⟩, next⟩⟩, v'⟩
    · rfl
    · rfl
    · show _ = (next a).bind _ v'
      rw [Host.bind]
      dsimp only
      rcases next a v' with ⟨_ | ⟨_ | _⟩, _⟩ <;> rfl

/-! ## Option -/

instance : Observed σ Option where
  Same := Eq
  refl := Eq.refl
  symm := Eq.symm
  trans := Eq.trans

instance : LawfulCarrier σ Option where
  map_eq m _ := by cases m <;> exact .refl _
  pure_bind _ _ := .refl _
  bind_pure m := by cases m <;> exact .refl _
  bind_assoc m _ _ := by cases m <;> exact .refl _
  chain_congr {_ _ h h' k k'} e e' := by
    obtain rfl : h = h' := funext e
    obtain rfl : k = k' := funext fun a => funext (e' a)
    exact .refl _

instance : LawfulLoop.{0, w} σ Option where
  iterate_eq maps wf step s v := by
    show optionIterate wf step s v = _
    rw [optionIterate, Host.bind]
    rcases step s v with ⟨_ | ⟨_ | ⟨_ | a, next⟩⟩, v'⟩
    · rfl
    · rfl
    · rfl
    · show _ = (next a).bind _ v'
      rw [Host.bind]
      dsimp only
      rcases next a v' with ⟨_ | ⟨_ | _⟩, _⟩ <;> rfl

/-! ## Except -/

instance : Observed σ (Except ε) where
  Same := Eq
  refl := Eq.refl
  symm := Eq.symm
  trans := Eq.trans

instance : LawfulCarrier σ (Except ε) where
  map_eq m _ := by cases m <;> exact .refl _
  pure_bind _ _ := .refl _
  bind_pure m := by cases m <;> exact .refl _
  bind_assoc m _ _ := by cases m <;> exact .refl _
  chain_congr {_ _ h h' k k'} e e' := by
    obtain rfl : h = h' := funext e
    obtain rfl : k = k' := funext fun a => funext (e' a)
    exact .refl _

instance : LawfulLoop.{0, w} σ (Except ε) where
  iterate_eq maps wf step s v := by
    show exceptIterate wf step s v = _
    rw [exceptIterate, Host.bind]
    rcases step s v with ⟨_ | ⟨_ | ⟨_ | a, next⟩⟩, v'⟩
    · rfl
    · rfl
    · rfl
    · show _ = (next a).bind _ v'
      rw [Host.bind]
      dsimp only
      rcases next a v' with ⟨_ | ⟨_ | _⟩, _⟩ <;> rfl

end Resumption
