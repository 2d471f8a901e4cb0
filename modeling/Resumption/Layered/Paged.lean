/-
Paged — layered brackets whose closures keep notes.

The bracket of a layer is told by verdicts how the releases of the layers above
ended.  Its closures can find out without: a bracket opens a page when it is built,
and its closures write there what the others have to know.

| note        | written by                            | read by     |
|-------------|---------------------------------------|-------------|
| `usedRight` | the use, when it ends with a right    | the release |
| `usedLeft`  | the use, when it ends with a left     | the release |
| `reported`  | the release, when it raises a left and `usedRight` stands | the handler |

A left of the release is dropped after a left of the use, and raised in the base else.
The handler stands around the base's bracket: it raises every error again, but one
that was reported, which it makes the left of the whole.

The base's bracket of such a bracket is one that keeps notes, too; at the bottom there
is nothing to note.
-/
import Resumption.Action.Carrier
import Resumption.Future.Carrier
import Resumption.Layered.Bracket

namespace Resumption

universe u

/-! ## Pages -/

/-- What the closures of a bracket have noted for one another. -/
structure Page where
  usedRight : Bool
  usedLeft : Bool
  reported : Bool
deriving DecidableEq

namespace Page

/-- Nothing is noted yet. -/
def blank : Page := ⟨false, false, false⟩

/-- Notes on which side a use has ended. -/
def recordUse (p : Page) : Bool → Page
  | true => { p with usedLeft := true }
  | false => { p with usedRight := true }

/-- Notes that a left of the release is raised, if the use ended with a right. -/
def report (p : Page) : Page :=
  if p.usedRight then { p with reported := true } else p

end Page

/-- A world with the pages of the brackets that were built, oldest first. -/
structure Paged (σ : Type) where
  world : σ
  pages : List Page

namespace Paged

variable {σ : Type}

instance [Observer σ] : Observer (Paged σ) where
  note e a := { a with world := note e a.world }
  setClock t a := { a with world := setClock t a.world }

/-- Opens a blank page: its number. -/
def openPage : Host (Paged σ) Nat :=
  fun a => (.ok a.pages.length, { a with pages := a.pages ++ [.blank] })

/-- A page by its number. -/
def page (i : Nat) (a : Paged σ) : Page :=
  a.pages.getD i .blank

/-- Changes the page of a number. -/
def turn (i : Nat) (f : Page → Page) (a : Paged σ) : Paged σ :=
  { a with pages := a.pages.modify i f }

end Paged

/-! ## Brackets -/

/-- A carrier whose brackets keep notes. -/
class PagedBracketing (σ : Type) (M : Type → Type u) where
  pagedBracket {ρ β : Type} (acquire : M ρ) (use : ρ → Host (Paged σ) (M β))
    (release : ρ → Host (Paged σ) (M Unit)) : Host (Paged σ) (M β)

instance {σ : Type} : PagedBracketing σ (Action (Paged σ)) where
  pagedBracket := bracket

instance {σ : Type} : PagedBracketing σ (Future (Paged σ)) where
  pagedBracket := bracket

namespace Layered

variable {σ : Type} {route : Route} {M : Type → Type u} {ρ β : Type}

/-- Hands on how the use ended, and notes the side. -/
def notingUse (i : Nat) (b : Either Failure β) : Host (Paged σ) (Either Failure β) :=
  fun a => (.ok b, a.turn i (·.recordUse b.isLeft))

variable [Carrier (Paged σ) M] [ErrorChannel (Paged σ) M Failure]

/-- How a release goes on in the base, from how it ended in the layer. -/
def notingRelease [Observer σ] (i : Nat) : Either Failure Unit → Host (Paged σ) (M Unit)
  | .right _ => .pure (Carrier.pure (Paged σ) ())
  | .left e => fun a =>
    if (a.page i).usedLeft then
      (.ok (Carrier.pure (Paged σ) ()), note (.releaseLeftDropped e) a)
    else (.ok (ErrorChannel.raise (Paged σ) e), a.turn i Page.report)

/-- What an error of the base's bracket comes to. -/
def reraise (i : Nat) (e : Failure) : Host (Paged σ) (M (Either Failure β)) :=
  fun a =>
    if (a.page i).reported then (.ok (Carrier.pure (Paged σ) (.left e)), a)
    else (.ok (ErrorChannel.raise (Paged σ) e), a)

/-- How the base uses the resource, which may be an early exit of the acquisition. -/
def pagedUse (i : Nat) (use : ρ → Host (Paged σ) (Layered route M Failure β)) :
    Either Failure ρ → Host (Paged σ) (M (Either Failure β)) :=
  Either.fold (fun e => .pure (failedAcquire (σ := Paged σ) e route)) fun r =>
    (use r).bind fun m => Mappable.map m.base (notingUse i)

/-- How the base releases the resource. -/
def pagedRelease [Observer σ] (i : Nat)
    (release : ρ → Host (Paged σ) (Layered route M Failure Unit)) :
    Either Failure ρ → Host (Paged σ) (M Unit) :=
  Either.fold (fun _ => .pure (Carrier.pure (Paged σ) ())) fun r =>
    (release r).bind fun m => Carrier.bind m.base (notingRelease i)

instance [Observer σ] [PagedBracketing σ M] : PagedBracketing σ (Layered route M Failure) where
  pagedBracket acquire use release :=
    Paged.openPage.bind fun i =>
      (PagedBracketing.pagedBracket acquire.base (pagedUse i use) (pagedRelease i release)).bind
        fun m => (ErrorChannel.handle m (reraise i)).map mk

end Layered

end Resumption
