/-
Errors — what every carrier with an error channel can do.

All of it comes from `raise` and `handle`, so an operation treats errors of its
own channel only; those of another channel pass through.
-/
import Resumption.Carrier.Basic

namespace Resumption

universe u

section Channel

variable {σ : Type} {M : Type → Type u} {ε α β : Type} [Carrier σ M] [ErrorChannel σ M ε]

/-- Recovers from an error with a value. -/
def handleError (m : M α) (f : ε → Host σ α) : Host σ (M α) :=
  ErrorChannel.handle m fun e => (f e).bind fun a => .pure (Carrier.pure σ a)

/-- Exposes how a computation ends as a value: an error on the left. -/
def attempt (m : M α) : Host σ (M (Either ε α)) :=
  (Mappable.map m fun a => Host.pure (σ := σ) (Either.right a)).bind fun m =>
    ErrorChannel.handle m fun e => .pure (Carrier.pure σ (.left e))

/-- Recovers from the errors that a partial handler answers; raises the others again. -/
def recoverWith (m : M α) (handler : ε → Host σ (Option (M α))) : Host σ (M α) :=
  ErrorChannel.handle m fun e => (handler e).bind fun
    | some n => .pure n
    | none => .pure (ErrorChannel.raise σ e)

/-- Like `recoverWith`, with a handler that answers with values. -/
def recover (m : M α) (handler : ε → Host σ (Option α)) : Host σ (M α) :=
  recoverWith m fun e => (handler e).bind fun a => .pure (a.map (Carrier.pure σ))

/-- A left value as a raised error, a right one as a result. -/
def fromEither : Either ε α → M α
  | .left e => ErrorChannel.raise σ e
  | .right a => Carrier.pure σ a

/-- Folds error and success into one value. -/
def redeem (m : M α) (onError : ε → Host σ β) (onValue : α → Host σ β) : Host σ (M β) :=
  (attempt m).bind fun m => Mappable.map m (Either.fold onError onValue)

/-- Raises an error where the value does not satisfy a test. -/
def ensure (m : M α) (test : α → Host σ Bool) (error : Host σ ε) : Host σ (M α) :=
  Carrier.bind m fun a => (test a).bind fun
    | true => .pure (Carrier.pure σ a)
    | false => error.bind fun e => .pure (ErrorChannel.raise σ e)

end Channel

end Resumption
