/-
Failure — how an effectful computation fails.

A failure is raised on purpose, stems from a panic, or is imposed from outside
by a cancellation or a deadline.  `toString` is the sentence for a reader;
`describe` shows the constructor and its field.
-/
import Resumption.Duration
import Resumption.Host
import Resumption.Text.Quoted

namespace Resumption

/-- The causes of a failed computation. -/
inductive Failure where
  | raised (message : String)
  | panicked (message : String)
  | cancelled
  | timedOut (after : Duration)
deriving DecidableEq

namespace Failure

/-- The message of a raised failure or of a panic. -/
def message? : Failure → Option String
  | raised m => some m
  | panicked m => some m
  | cancelled => none
  | timedOut _ => none

/-- Was the computation cancelled? -/
def isCancelled : Failure → Bool
  | cancelled => true
  | _ => false

/-- The failure that a caught panic becomes. -/
def ofPanic (p : Panic) : Failure :=
  panicked p.message

/-- The failure as a sentence. -/
protected def toString : Failure → String
  | raised m => "effect raised: " ++ m
  | panicked m => "effect panicked: " ++ m
  | cancelled => "effect cancelled"
  | timedOut d => "effect timed out after " ++ d.describe

instance : ToString Failure := ⟨Failure.toString⟩

/-- A constructor with one named field. -/
def withField (name field value : String) : String :=
  name ++ " \x7b " ++ field ++ ": " ++ value ++ " \x7d"

/-- The failure as its constructor and field. -/
def describe : Failure → String
  | raised m => withField "Raised" "message" (Text.quoted m)
  | panicked m => withField "Panicked" "message" (Text.quoted m)
  | cancelled => "Cancelled"
  | timedOut d => withField "TimedOut" "after" d.describe

end Failure

/-- Ends a closure's run normally: a panic becomes a failure of what it computed. -/
def Host.caught {σ : Type} {α : Type u} (h : Host σ (Except Failure α)) (w : σ) :
    Except Failure α × σ :=
  match h w with
  | (.ok r, w) => (r, w)
  | (.error p, w) => (.error (.ofPanic p), w)

end Resumption
