/-
Handling — the laws of an error channel.

Each law says how runs halt, in the outcome and in the world, so it counts the calls of
the closures as well.

| law           | the runs of             | halt like                                   |
|---------------|-------------------------|---------------------------------------------|
| `raises`      | `raise e`               | at once, with the error `e` of the channel  |
| `rescued`     | `handle (raise e) h`    | `h e`                                       |
| `untouched`   | `handle (pure a) h`     | `pure a`                                    |
| `skips`       | `bind (raise e) f`      | `raise e`                                   |
| `handled`     | `handle m h`            | `m`, or after its error what `h` returned   |
| `recovered`   | `recoverWith m p`       | as `Recovered` lists                        |

What a handler returned runs outside the handler, so a failure of it is not handled
again.  An outcome that is no error of the channel passes, whichever channel it is of.
-/
import Resumption.Proofs.Carrier.Channel

namespace Resumption

universe u

open Halting LawfulHalting ErrorHalting LawfulErrors

section Laws

variable {σ : Type} {M : Type → Type u} {ε α β : Type} [Carrier σ M] [ErrorChannel σ M ε]
  [Halting σ M] [ErrorHalting σ M ε]

/-- How a computation halts that recovers from its errors by a partial handler: the
handler is called once if there was an error, and not otherwise. -/
inductive Recovered (m : M α) (p : ε → Host σ (Option (M α))) (w : σ) (c : Setting σ M) :
    Except (Halt σ M) α → σ → Setting σ M → Prop
  | passed {o : Except (Halt σ M) α} {w' : σ} {c' : Setting σ M} :
      Halts c (.ok m, w) o w' c' → Passing o → Recovered m p w c o w' c'
  | answered {e : ε} {n : M α} {w₁ w₂ w' : σ} {c₁ c' : Setting σ M} {o : Except (Halt σ M) α} :
      Halts c (.ok m, w) (.error (failed e)) w₁ c₁ → p e w₁ = (.ok (some n), w₂) →
      Halts c₁ (.ok n, w₂) o w' c' → Recovered m p w c o w' c'
  | declined {e : ε} {w₁ w' : σ} {c' : Setting σ M} :
      Halts c (.ok m, w) (.error (failed e)) w₁ c' → p e w₁ = (.ok none, w') →
      Recovered m p w c (.error (failed e)) w' c'
  | panicked {e : ε} {q : Panic} {w₁ w' : σ} {c' : Setting σ M} :
      Halts c (.ok m, w) (.error (failed e)) w₁ c' → p e w₁ = (.error q, w') →
      Recovered m p w c (.error (ofPanic q)) w' c'

variable (σ M ε) in
/-- The laws of an error channel. -/
structure ErrorLaws : Prop where
  /-- Different errors are different ways to halt. -/
  distinct {e e' : ε} : (failed e : Halt σ M) = failed e' → e = e'
  raises {α : Type} {e : ε} {w w' : σ} {c c' : Setting σ M} {o : Except (Halt σ M) α} :
    Halts c (.ok (ErrorChannel.raise σ e), w) o w' c' ↔ o = .error (failed e) ∧ w' = w ∧ c' = c
  rescued {α : Type} (e : ε) (h : ε → Host σ (M α)) :
    HaltAlike (ErrorChannel.handle (ErrorChannel.raise σ e) h) (h e)
  untouched {α : Type} (a : α) (h : ε → Host σ (M α)) :
    HaltAlike (ErrorChannel.handle (Carrier.pure σ a) h) (Host.pure (Carrier.pure σ a))
  skips {α β : Type} (e : ε) (f : α → Host σ (M β)) :
    HaltAlike (Carrier.bind (ErrorChannel.raise σ e) f) (Host.pure (ErrorChannel.raise σ e))
  handled {α : Type} (m : M α) (h : ε → Host σ (M α)) {w w' : σ} {c c' : Setting σ M}
    {o : Except (Halt σ M) α} :
    Halts c (ErrorChannel.handle m h w) o w' c' ↔
      (∃ e w₁ c₁, Halts c (.ok m, w) (.error (failed e)) w₁ c₁ ∧ Halts c₁ (h e w₁) o w' c') ∨
      (Halts c (.ok m, w) o w' c' ∧ Passing o)
  recovered {α : Type} (m : M α) (p : ε → Host σ (Option (M α))) {w w' : σ} {c c' : Setting σ M}
    {o : Except (Halt σ M) α} :
    Halts c (recoverWith m p w) o w' c' ↔ Recovered m p w c o w' c'

variable [Observed σ M] [LawfulHalting σ M] [LawfulErrors σ M ε]

omit [Carrier σ M] [Observed σ M] [LawfulHalting σ M] in
theorem handle_raise (e : ε) (h : ε → Host σ (M α)) :
    HaltAlike (ErrorChannel.handle (ErrorChannel.raise σ e) h) (h e) := by
  intro w c o w' c'
  rw [halts_handle]
  constructor
  · rintro (⟨e', w₁, c₁, raised, rest⟩ | ⟨raised, passing⟩)
    · obtain ⟨same, rfl, rfl⟩ := halts_raise.mp raised
      rw [Except.error.injEq] at same
      obtain rfl := failed_inj same
      exact rest
    · obtain ⟨rfl, -, -⟩ := halts_raise.mp raised
      exact absurd passing not_passing_failed
  · intro rest
    exact .inl ⟨e, w, c, halts_raise.mpr ⟨rfl, rfl, rfl⟩, rest⟩

theorem handle_pure (a : α) (h : ε → Host σ (M α)) :
    HaltAlike (ErrorChannel.handle (Carrier.pure σ a) h) (Host.pure (Carrier.pure σ a)) := by
  intro w c o w' c'
  rw [halts_handle]
  constructor
  · rintro (⟨e, w₁, c₁, ended, -⟩ | ⟨ended, -⟩)
    · obtain ⟨⟨⟩, -, -⟩ := halts_pure.mp ended
    · exact ended
  · intro ended
    obtain ⟨rfl, -, -⟩ := halts_pure.mp ended
    exact .inr ⟨ended, trivial⟩

theorem bind_raise (e : ε) (f : α → Host σ (M β)) :
    HaltAlike (Carrier.bind (ErrorChannel.raise σ e) f) (Host.pure (ErrorChannel.raise σ e)) := by
  intro w c o w' c'
  rw [halts_bind, Host.pure, halts_raise]
  constructor
  · rintro (⟨a, w₁, c₁, raised, -⟩ | ⟨s, rfl, raised⟩)
    · obtain ⟨⟨⟩, -, -⟩ := halts_raise.mp raised
    · obtain ⟨same, rfl, rfl⟩ := halts_raise.mp raised
      rw [Except.error.injEq] at same
      exact ⟨same ▸ rfl, rfl, rfl⟩
  · rintro ⟨rfl, rfl, rfl⟩
    exact .inr ⟨failed e, rfl, halts_raise.mpr ⟨rfl, rfl, rfl⟩⟩

theorem halts_recoverWith {m : M α} {p : ε → Host σ (Option (M α))} {w w' : σ}
    {c c' : Setting σ M} {o : Except (Halt σ M) α} :
    Halts c (recoverWith m p w) o w' c' ↔ Recovered m p w c o w' c' := by
  refine halts_handle.trans ⟨?_, ?_⟩
  · rintro (⟨e, w₁, c₁, failing, rest⟩ | ⟨halted, passing⟩)
    · unfold Host.bind at rest
      rcases called : p e w₁ with ⟨q | _ | n, w₂⟩ <;> rw [called] at rest
      · obtain ⟨rfl, rfl, rfl⟩ := halts_panic.mp rest
        exact .panicked failing called
      · obtain ⟨rfl, rfl, rfl⟩ := halts_raise.mp rest
        exact .declined failing called
      · exact .answered failing called rest
    · exact .passed halted passing
  · rintro (⟨halted, passing⟩ | ⟨failing, called, rest⟩ | ⟨failing, called⟩ | ⟨failing, called⟩)
    · exact .inr ⟨halted, passing⟩
    all_goals refine .inl ⟨_, _, _, failing, ?_⟩; unfold Host.bind; rw [called]
    · exact rest
    · exact halts_raise.mpr ⟨rfl, rfl, rfl⟩
    · exact halts_panic.mpr ⟨rfl, rfl, rfl⟩

theorem ErrorLaws.of_lawful : ErrorLaws σ M ε where
  distinct := failed_inj
  raises := halts_raise
  rescued := handle_raise
  untouched := handle_pure
  skips := bind_raise
  handled _ _ := halts_handle
  recovered _ _ := halts_recoverWith

end Laws

/-- The laws hold of every error channel: of optional values, results, actions and
futures, of a layer over any carrier, and of any of these below layers that route
errors to it. -/
theorem error_channel_laws (σ : Type) [Observer σ] :
    OnEveryChannel σ (@ErrorLaws σ) (@ErrorLaws σ) (@ErrorLaws (Untraced σ)) :=
  .of_lawful .of_lawful .of_lawful .of_lawful

end Resumption
