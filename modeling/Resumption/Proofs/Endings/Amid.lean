/-
Amid — endings that leave alone the pages of others.

Brackets that keep notes run inside one another and one after another, so the pages
of many brackets lie in the same world.  What ends amid pages knows those that were
there when it was built.  It may change them, it leaves alone whatever was opened
later, and it may open further ones itself:

    before                  after
    own ++ later            own' ++ later ++ more

Between two polls of a future the world may change in any way (see `Bottom`); an ending
amid pages is one in whose course nobody else writes on the pages.

Such endings can be composed (`EndsAmid.chain`).  A bracket whose phases end so takes
a course (`NotedCourse`) that is not changed by later pages, and the bracket that is
told verdicts ends as this course says.
-/
import Resumption.Layered.Paged
import Resumption.Proofs.Endings.Basic

namespace Resumption

universe u

/-! ## Later pages -/

namespace Paged

variable {σ : Type}

/-- The world after further pages were opened. -/
def before (a : Paged σ) (later : List Page) : Paged σ :=
  { a with pages := a.pages ++ later }

@[simp] theorem before_nil (a : Paged σ) : a.before [] = a := by
  rw [before, List.append_nil]

theorem before_before (a : Paged σ) (later later' : List Page) :
    (a.before later).before later' = a.before (later ++ later') := by
  simp only [before, List.append_assoc]

theorem length_before (a : Paged σ) (later : List Page) :
    (a.before later).pages.length = a.pages.length + later.length :=
  List.length_append

theorem page_before {a : Paged σ} {i : Nat} (last : a.pages.length = i) (p : Page)
    (later : List Page) : (a.before (p :: later)).page i = p := by
  subst last
  simp [before, page]

theorem turn_before {a : Paged σ} {i : Nat} (last : a.pages.length = i) (f : Page → Page)
    (p : Page) (later : List Page) :
    (a.before (p :: later)).turn i f = a.before (f p :: later) := by
  subst last
  unfold before turn
  rw [List.modify_eq_take_cons_drop (by simp)]
  simp

end Paged

/-! ## Closing amid pages -/

section Closing

variable {σ : Type} [Observer σ] {β : Type}

/-- The world that a run of the world alone has come to, with the pages. -/
def withPages {ε : Type} (pages : List Page) (x : ε × σ) : ε × Paged σ :=
  (x.1, ⟨x.2, pages⟩)

/-- An acquisition that failed touches no pages. -/
theorem notAcquired_paged (channel : Nat → Nat) (f : Fault) (a : Paged σ) :
    notAcquired channel f a = withPages a.pages (notAcquired channel f a.world) := by
  unfold notAcquired
  split <;> rfl

theorem afterFailedUse_paged (channel : Nat → Nat) (f : Fault) (released : Except Fault Verdict)
    (a : Paged σ) :
    afterFailedUse channel f released a =
      withPages a.pages (afterFailedUse channel f released a.world) := by
  rcases released with g | v
  · simp only [afterFailedUse]
    split
    · rfl
    · split <;> rfl
  · rfl

/-- Neither does the closing of a bracket. -/
theorem bracketClosing_paged (channel : Nat → Nat) (used : Except Fault β)
    (released : Except Fault Unit) (a : Paged σ) :
    bracketClosing channel used released a =
      withPages a.pages (bracketClosing channel used released a.world) := by
  rcases used with f | b
  · simp only [bracketClosing, closing, afterFailedUse_paged]
    rfl
  · rcases released with g | ⟨⟩ <;> rfl

end Closing

/-! ## Endings amid pages -/

open Endings

section Amid

variable {σ : Type} {M : Type → Type u} [Endings (Paged σ) M] {α β ρ : Type}

/-- What was built ends so, whatever pages were opened after those it knows. -/
structure EndsAmid (c : Setting (Paged σ) M) (a : Paged σ) (h : Host (Paged σ) (M α))
    (o : Except Fault α) (a' : Paged σ) (c' : Setting (Paged σ) M) : Prop where
  length_eq : a'.pages.length = a.pages.length
  ends (later : List Page) : ∃ more, Ends c (h (a.before later)) o (a'.before (later ++ more)) c'

variable {a a' a₁ : Paged σ} {c c' c₁ : Setting (Paged σ) M} {h : Host (Paged σ) (M α)}
  {o : Except Fault α}

namespace EndsAmid

theorem before (amid : EndsAmid c a h o a' c') (later : List Page) :
    EndsAmid c (a.before later) h o (a'.before later) c' where
  length_eq := by rw [Paged.length_before, Paged.length_before, amid.length_eq]
  ends later' := by
    obtain ⟨more, ended⟩ := amid.ends (later ++ later')
    refine ⟨more, ?_⟩
    rwa [Paged.before_before, Paged.before_before, ← List.append_assoc]

theorem mono {h' : Host (Paged σ) (M α)} (amid : EndsAmid c a h o a' c')
    (ends : ∀ {a a'}, Ends c (h a) o a' c' → Ends c (h' a) o a' c') :
    EndsAmid c a h' o a' c' where
  length_eq := amid.length_eq
  ends later := by
    obtain ⟨more, ended⟩ := amid.ends later
    exact ⟨more, ends ended⟩

theorem ends_here (amid : EndsAmid c a h o a' c') : ∃ more, Ends c (h a) o (a'.before more) c' := by
  obtain ⟨more, ended⟩ := amid.ends []
  rw [Paged.before_nil] at ended
  exact ⟨more, ended⟩

variable [Observer σ] [Carrier (Paged σ) M] [ErrorChannel (Paged σ) M Failure]
  [Bracketing (Paged σ) M] [LawfulEndings (Paged σ) M]

theorem level_le {f : Fault} (failed : EndsAmid c a h (.error f) a' c') :
    f.level ≤ depth (Paged σ) M := by
  obtain ⟨_, ended⟩ := failed.ends []
  exact LawfulEndings.level_le ended

theorem chain {x : α} {k : α → Host (Paged σ) (M β)} {o : Except Fault β}
    (first : EndsAmid c a h (.ok x) a₁ c₁) (rest : EndsAmid c₁ a₁ (k x) o a' c') :
    EndsAmid c a (h.chain k) o a' c' where
  length_eq := rest.length_eq.trans first.length_eq
  ends later := by
    obtain ⟨more₁, ended⟩ := first.ends later
    obtain ⟨more₂, went⟩ := rest.ends (later ++ more₁)
    rw [List.append_assoc] at went
    exact ⟨more₁ ++ more₂, ends_chain.mpr (.inl ⟨x, _, c₁, ended, went⟩)⟩

theorem chain_error {k : α → Host (Paged σ) (M β)} {f : Fault}
    (failed : EndsAmid c a h (.error f) a' c') : EndsAmid c a (h.chain k) (.error f) a' c' where
  length_eq := failed.length_eq
  ends later := by
    obtain ⟨more, ended⟩ := failed.ends later
    exact ⟨more, ends_chain.mpr (.inr ⟨f, rfl, ended⟩)⟩

end EndsAmid

/-! ## Courses amid pages -/

section Courses

variable [Observer σ] {acquire : M ρ} {use : ρ → Host (Paged σ) (M β)}
  {release : ρ → Host (Paged σ) (M Unit)} {o : Except Fault β}

/-- The course of a bracket whose phases end amid pages. -/
inductive NotedCourse (acquire : M ρ) (use : ρ → Host (Paged σ) (M β))
    (release : ρ → Host (Paged σ) (M Unit)) (a : Paged σ) (c : Setting (Paged σ) M) :
    Except Fault β → Paged σ → Setting (Paged σ) M → Prop
  | notAcquired {f : Fault} {a₁ a' : Paged σ} {o : Except Fault β} {c₁ : Setting (Paged σ) M} :
      EndsAmid c a (.pure acquire) (.error f) a₁ c₁ →
      failedWith (Resumption.notAcquired (channel (Paged σ) M) f a₁) = (o, a') →
      NotedCourse acquire use release a c o a' c₁
  | closed {r : ρ} {used : Except Fault β} {released : Except Fault Unit}
      {a₁ a₂ a₃ a' : Paged σ} {o : Except Fault β} {c₁ c₂ c₃ : Setting (Paged σ) M} :
      EndsAmid c a (.pure acquire) (.ok r) a₁ c₁ →
      EndsAmid c₁ (note .acquired a₁) (use r) used a₂ c₂ →
      EndsAmid c₂ a₂ (release r) released a₃ c₃ →
      bracketClosing (channel (Paged σ) M) used released a₃ = (o, a') →
      NotedCourse acquire use release a c o a' c₃

theorem failedWith_before {channel : Nat → Nat} {f : Fault}
    (closed : failedWith (notAcquired channel f a) = (o, a')) :
    a'.pages = a.pages ∧ ∀ later,
      failedWith (notAcquired channel f (a.before later)) = (o, a'.before later) := by
  rw [notAcquired_paged] at closed
  cases closed
  exact ⟨rfl, fun later => by rw [notAcquired_paged]; rfl⟩

theorem bracketClosing_before {channel : Nat → Nat} {used : Except Fault β}
    {released : Except Fault Unit} (closed : bracketClosing channel used released a = (o, a')) :
    a'.pages = a.pages ∧ ∀ later,
      bracketClosing channel used released (a.before later) = (o, a'.before later) := by
  rw [bracketClosing_paged] at closed
  cases closed
  exact ⟨rfl, fun later => by rw [bracketClosing_paged]; rfl⟩

namespace NotedCourse

theorem before (course : NotedCourse acquire use release a c o a' c') (later : List Page) :
    NotedCourse acquire use release (a.before later) c o (a'.before later) c' := by
  cases course with
  | notAcquired acquired closed =>
    exact .notAcquired (acquired.before later) ((failedWith_before closed).2 later)
  | closed acquired ran finished closed =>
    exact .closed (acquired.before later) (ran.before later) (finished.before later)
      ((bracketClosing_before closed).2 later)

theorem length_eq (course : NotedCourse acquire use release a c o a' c') :
    a'.pages.length = a.pages.length := by
  cases course with
  | notAcquired acquired closed =>
    rw [(failedWith_before closed).1, acquired.length_eq]
  | closed acquired ran finished closed =>
    rw [(bracketClosing_before closed).1, finished.length_eq, ran.length_eq]
    exact acquired.length_eq

/-- What ends so after every course of this kind does so amid pages. -/
theorem amid {h : Host (Paged σ) (M β)}
    (ends : ∀ {a a'}, NotedCourse acquire use release a c o a' c' →
      ∃ more, Ends c (h a) o (a'.before more) c')
    (course : NotedCourse acquire use release a c o a' c') : EndsAmid c a h o a' c' where
  length_eq := course.length_eq
  ends later := by
    obtain ⟨more, ended⟩ := ends (course.before later)
    exact ⟨more, Paged.before_before a' later more ▸ ended⟩

end NotedCourse

variable [Carrier (Paged σ) M] [ErrorChannel (Paged σ) M Failure] [Bracketing (Paged σ) M]
  [LawfulEndings (Paged σ) M]

/-- A bracket that is told verdicts takes every such course. -/
theorem ends_bracket_of_course (course : NotedCourse acquire use release a c o a' c') :
    ∃ more, Ends c (bracket acquire use release a) o (a'.before more) c' := by
  cases course with
  | notAcquired acquired closed =>
    obtain ⟨more, ended⟩ := acquired.ends_here
    exact ⟨more, ends_bracket.mpr (.inl ⟨_, _, ended, (failedWith_before closed).2 more⟩)⟩
  | closed acquired ran finished closed =>
    obtain ⟨more₁, acquired⟩ := acquired.ends_here
    obtain ⟨more₂, ran⟩ := ran.ends more₁
    obtain ⟨more₃, finished⟩ := finished.ends (more₁ ++ more₂)
    exact ⟨_, ends_bracket.mpr (.inr ⟨_, _, _, .intro acquired ran finished,
      (bracketClosing_before closed).2 _⟩)⟩

end Courses

end Amid

end Resumption
