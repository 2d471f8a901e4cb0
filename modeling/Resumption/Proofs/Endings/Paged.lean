/-
Paged — brackets that keep notes end as those that are told verdicts.

The bracket of a layer hands what its phases come to through the bracket of the base,
and the page of the bracket tells its closures the rest:

| the use ended with  | the release             | the page then says          | the handler        |
|---------------------|-------------------------|-----------------------------|--------------------|
| a failure below     | any way                 | nothing                     | raises again       |
| a left              | a left, which is dropped | `usedLeft`                 | raises again       |
| a right             | a left, raised below    | `usedRight` and `reported`  | makes it a left    |
| a left or a right   | otherwise               | which of them               | raises again       |

The third row is the only one where a verdict is more than clean, so the closing of a
bracket one level higher carries over (`Layered.closing_noted`).  By induction over the
layers every course of a bracket is one of the bracket that keeps notes.
-/
import Resumption.Proofs.Endings.Amid
import Resumption.Proofs.Endings.Handling

namespace Resumption

universe u

open Endings

/-- A carrier whose brackets keep notes and take the courses of brackets. -/
class LawfulPaging (σ : Type) (M : Type → Type u) [Observer σ] [PagedBracketing σ M]
    [Endings (Paged σ) M] : Prop where
  pagedBracket_built {ρ β : Type} (acquire : M ρ) (use : ρ → Host (Paged σ) (M β))
    (release : ρ → Host (Paged σ) (M Unit)) (a : Paged σ) :
    ∃ m a', PagedBracketing.pagedBracket acquire use release a = (.ok m, a')
  ends_pagedBracket {ρ β : Type} {acquire : M ρ} {use : ρ → Host (Paged σ) (M β)}
    {release : ρ → Host (Paged σ) (M Unit)} {a a' : Paged σ} {c c' : Setting (Paged σ) M}
    {o : Except Fault β} :
    NotedCourse acquire use release a c o a' c' →
      ∃ more, Ends c (PagedBracketing.pagedBracket acquire use release a) o (a'.before more) c'

instance {σ : Type} [Observer σ] : LawfulPaging σ (Action (Paged σ)) where
  pagedBracket_built _ _ _ _ := ⟨_, _, rfl⟩
  ends_pagedBracket := ends_bracket_of_course

instance {σ : Type} [Observer σ] : LawfulPaging σ (Future (Paged σ)) where
  pagedBracket_built _ _ _ _ := ⟨_, _, rfl⟩
  ends_pagedBracket := ends_bracket_of_course

/-! ## A layer -/

namespace Layered

variable {σ : Type} {route : Route} {M : Type → Type u} {α β ρ : Type}

/-! ### What the page says -/

/-- The page of a bracket whose use has ended so in the base. -/
def usedPage : Except Fault (Either Failure β) → Page
  | .ok b => Page.blank.recordUse b.isLeft
  | .error _ => .blank

/-- How a release ends in the base, and what its page and the world come to, from how it
ended in the layer. -/
def notedRelease [Observer σ] (raised : Nat) (p : Page) :
    Except Fault (Either Failure Unit) → Paged σ → Except Fault Unit × Page × Paged σ
  | .error g, a => (.error g, p, a)
  | .ok (.right _), a => (.ok (), p, a)
  | .ok (.left e), a =>
    if p.usedLeft then (.ok (), p, note (.releaseLeftDropped e) a)
    else (.error ⟨raised, e⟩, p.report, a)

/-- What the handler makes of how the base's bracket ended. -/
def reraised (raised : Nat) (p : Page) :
    Except Fault (Either Failure β) → Except Fault (Either Failure β)
  | .ok b => .ok b
  | .error f => if p.reported ∧ f.level = raised then .ok (.left f.failure) else .error f

theorem reraised_unreported {raised : Nat} {p : Page} (h : p.reported = false)
    (o : Except Fault (Either Failure β)) : reraised raised p o = o := by
  rcases o with f | b
  · exact if_neg fun both => Bool.eq_false_iff.mp h both.1
  · rfl

theorem usedPage_unreported (used : Except Fault (Either Failure β)) :
    (usedPage used).reported = false := by
  rcases used with _ | _ | _ <;> rfl

/-- The page tells the base what verdicts tell it, unless a left of the release is reported. -/
theorem notedRelease_cases [Observer σ] {raised : Nat} {used : Except Fault (Either Failure β)}
    {released : Except Fault (Either Failure Unit)} {rel : Except Fault Unit} {p : Page}
    {a a₁ : Paged σ} (noted : notedRelease raised (usedPage used) released a = (rel, p, a₁)) :
    (p = usedPage used ∧
      verdictOf raised used (released.map (Either.rename id fun _ => Verdict.clean)) a =
        (rel.map fun _ => .clean, a₁)) ∨
    ∃ b e, used = .ok (.right b) ∧ released = .ok (.left e) ∧ rel = .error ⟨raised, e⟩ ∧
      p.reported ∧ a₁ = a := by
  rcases released with g | e | ⟨⟩
  · cases noted
    exact .inl ⟨rfl, by cases used <;> rfl⟩
  · rcases used with f | e' | b <;> cases noted
    · exact .inl ⟨rfl, rfl⟩
    · exact .inl ⟨rfl, rfl⟩
    · exact .inr ⟨b, e, rfl, rfl, rfl, rfl, rfl⟩
  · cases noted
    exact .inl ⟨rfl, by cases used <;> rfl⟩

/-- A base's bracket that returns no verdict closes as one with clean verdicts does. -/
theorem surfaced_bracketClosing [Observer σ] (channel : Nat → Nat) (depth : Nat)
    (used : Except Fault (Either Failure β)) (released : Except Fault Unit) (w : σ) :
    Prod.map (surfaced depth) id (bracketClosing channel used released w) =
      Prod.map (Except.map Prod.fst) id
        (surfacedBracket depth (closing channel used (released.map fun _ => .clean) w)) := by
  rcases used with f | e | b <;> rcases released with g | ⟨⟩ <;> rfl

theorem surfaced_map (depth : Nat) (o : Except Fault (Either Failure α)) (f : α → β) :
    surfaced depth (o.map (Either.rename id f)) = (surfaced depth o).map f := by
  rcases o with _ | _ | _ <;> rfl

/-- The bracket of the base, with what the page says of its release and what the handler
makes of the whole, closes a bracket one level higher. -/
theorem closing_noted [Observer σ] {channel : Nat → Nat} {depth : Nat}
    (channel_eq : ∀ {k}, channel depth ≤ k → k ≤ depth → channel k = channel depth)
    {used : Except Fault (Either Failure β)} {released : Except Fault (Either Failure Unit)}
    {rel : Except Fault Unit} {p : Page} {a a₁ a' : Paged σ}
    {o : Except Fault (Either Failure β)} (hu : ∀ f, used = .error f → f.level ≤ depth)
    (hr : ∀ g, released = .error g → g.level ≤ depth)
    (noted : notedRelease (channel depth) (usedPage used) released a = (rel, p, a₁))
    (closed : bracketClosing channel used rel a₁ = (o, a')) :
    bracketClosing (channelOver route depth channel) (surfaced depth used)
        (surfaced depth released) a = (surfaced depth (reraised (channel depth) p o), a') := by
  -- where verdicts are clean the base closes alike; else the reported left comes back
  rcases notedRelease_cases noted with ⟨rfl, told⟩ | ⟨b, e, rfl, rfl, rfl, reported, rfl⟩
  · have higher : _ = closing (channelOver route depth channel) (surfaced depth used) _ a :=
      closing_surfaced channel_eq hu (fun g same => ?_) told
    · rw [surfaced_map] at higher
      have surfaces := surfaced_bracketClosing channel depth used rel a₁
      rw [closed, higher] at surfaces
      rw [reraised_unreported (usedPage_unreported used)]
      exact surfaces.symm
    · refine hr g ?_
      cases released with
      | error g' => cases same; rfl
      | ok _ => cases same
  · cases closed
    simp [reraised, reported, surfaced, bracketClosing, closing, Except.map]

/-! ### The phases in the base -/

section Phases

variable [Observer σ] [Carrier (Paged σ) M] [ErrorChannel (Paged σ) M Failure]
  [Bracketing (Paged σ) M] [Endings (Paged σ) M] [LawfulEndings (Paged σ) M]
  {a a' a₁ a₂ a₃ : Paged σ} {c c' : Setting (Paged σ) M} {i : Nat}

open LawfulEndings

/-- Different endings in the base are different endings in the layer. -/
theorem surfaced_injOn {depth : Nat} {o o' : Except Fault (Either Failure α)}
    (ho : ∀ f, o = .error f → f.level ≤ depth) (ho' : ∀ f, o' = .error f → f.level ≤ depth)
    (same : surfaced depth o = surfaced depth o') : o = o' := by
  rcases o with f | e | x <;> rcases o' with f' | e' | x' <;> cases same
  · rfl
  · exact absurd (ho _ rfl) (Nat.not_succ_le_self _)
  · exact absurd (ho' _ rfl) (Nat.not_succ_le_self _)
  · rfl
  · rfl

/-- What ends in the layer ends in the base. -/
theorem amid_base {h : Host (Paged σ) (Layered route M Failure α)} {o : Except Fault α}
    (amid : EndsAmid (M := Layered route M Failure) c a h o a' c') :
    ∃ o₁, EndsAmid (M := M) c a (h.map base) o₁ a' c' ∧
      surfaced (depth (Paged σ) M) o₁ = o := by
  -- each list of later pages has an ending in the base of its own, but all are the same
  obtain ⟨more, o₁, ended, rfl⟩ := amid.ends []
  refine ⟨o₁, ⟨amid.length_eq, fun later => ?_⟩, rfl⟩
  obtain ⟨more', o₂, ended', same⟩ := amid.ends later
  obtain rfl : o₂ = o₁ := by
    refine surfaced_injOn ?_ ?_ same
    · rintro f rfl
      exact level_le ended'
    · rintro f rfl
      exact level_le ended
  exact ⟨more', (map_base h _).symm ▸ ended'⟩

theorem ends_bind_map {h : Host (Paged σ) (M α)} {f : α → Host (Paged σ) β}
    {o : Except Fault β} :
    Ends c (h.bind (fun m => Mappable.map m f) a) o a' c' ↔
      Ends c (h.chain (fun x => (f x).map (Carrier.pure (Paged σ))) a) o a' c' := by
  unfold Host.chain Host.bind
  rcases h a with ⟨p | m, v⟩
  · simp only [ends_panic]
  · exact ends_map

omit [Observer σ] [Bracketing (Paged σ) M] [Endings (Paged σ) M] [LawfulEndings (Paged σ) M] in
theorem pagedUse_right (i : Nat) (use : ρ → Host (Paged σ) (Layered route M Failure β)) (r : ρ) :
    pagedUse i use (.right r) =
      ((use r).map base).bind fun m => Mappable.map m (notingUse i) :=
  (Host.bind_assoc (use r) (fun m => .pure m.base) fun m => Mappable.map m (notingUse i)).symm

omit [Bracketing (Paged σ) M] [Endings (Paged σ) M] [LawfulEndings (Paged σ) M] in
theorem pagedRelease_right (i : Nat)
    (release : ρ → Host (Paged σ) (Layered route M Failure Unit)) (r : ρ) :
    pagedRelease i release (.right r) = ((release r).map base).chain (notingRelease i) :=
  (Host.bind_assoc (release r) (fun m => .pure m.base)
    fun m => Carrier.bind m (notingRelease i)).symm

omit [Bracketing (Paged σ) M] [Endings (Paged σ) M] [LawfulEndings (Paged σ) M] in
theorem notingRelease_dropped {i : Nat} (e : Failure) (left : (a.page i).usedLeft = true) :
    notingRelease (M := M) i (.left e) a =
      (.ok (Carrier.pure (Paged σ) ()), note (.releaseLeftDropped e) a) :=
  if_pos left

omit [Bracketing (Paged σ) M] [Endings (Paged σ) M] [LawfulEndings (Paged σ) M] in
theorem notingRelease_raised {i : Nat} (e : Failure) (left : (a.page i).usedLeft = false) :
    notingRelease (M := M) i (.left e) a =
      (.ok (ErrorChannel.raise (Paged σ) e), a.turn i Page.report) :=
  if_neg (Bool.eq_false_iff.mp left)

theorem amid_pure {x : α} :
    EndsAmid (M := M) c a (.pure (Carrier.pure (Paged σ) x)) (.ok x) a c where
  length_eq := rfl
  ends later := ⟨[], ends_pure.mpr ⟨rfl, by rw [List.append_nil], rfl⟩⟩

theorem amid_notingUse {i : Nat} (last : a.pages.length = i) (b : Either Failure β) :
    EndsAmid (M := M) c (a.before [.blank]) ((notingUse i b).map (Carrier.pure (Paged σ))) (.ok b)
      (a.before [Page.blank.recordUse b.isLeft]) c where
  length_eq := by simp only [Paged.length_before, List.length_singleton]
  ends later := by
    refine ⟨[], ends_pure.mpr ⟨rfl, ?_, rfl⟩⟩
    rw [Paged.before_before, Paged.before_before, List.append_nil]
    exact (Paged.turn_before last (·.recordUse b.isLeft) .blank later).symm

/-- The use ends in the base as in the layer, and the page says on which side. -/
theorem amid_pagedUse {i : Nat} {use : ρ → Host (Paged σ) (Layered route M Failure β)} {r : ρ}
    {used : Except Fault β} (last : a₂.pages.length = i)
    (ran : EndsAmid (M := Layered route M Failure) c a₁ (use r) used a₂ c') :
    ∃ used₀, surfaced (depth (Paged σ) M) used₀ = used ∧
      EndsAmid (M := M) c (a₁.before [.blank]) (pagedUse i use (.right r)) used₀
        (a₂.before [usedPage used₀]) c' := by
  obtain ⟨used₀, inner, rfl⟩ := amid_base ran
  have chained : EndsAmid c (a₁.before [.blank])
      (((use r).map base).chain fun b => (notingUse i b).map (Carrier.pure (Paged σ))) used₀
      (a₂.before [usedPage used₀]) c' := by
    rcases used₀ with f | b
    · exact (inner.before [.blank]).chain_error
    · exact (inner.before [.blank]).chain (amid_notingUse last b)
  refine ⟨used₀, rfl, ?_⟩
  rw [pagedUse_right]
  exact chained.mono ends_bind_map.mpr

/-- A left of the release is dropped, or raised in the base, as the page says. -/
theorem amid_notingRelease {i : Nat} (last : a.pages.length = i) (p : Page) (e : Failure) :
    ∃ rel p' a₁, notedRelease (channel (Paged σ) M (depth (Paged σ) M)) p (.ok (.left e)) a =
        (rel, p', a₁) ∧
      EndsAmid (M := M) c (a.before [p]) (notingRelease i (.left e)) rel (a₁.before [p']) c := by
  have found (later : List Page) : ((a.before [p]).before later).page i = p := by
    rw [Paged.before_before]
    exact Paged.page_before last p later
  cases left : p.usedLeft with
  | false =>
    refine ⟨_, _, _, if_neg (Bool.eq_false_iff.mp left), ?_, fun later => ⟨[], ?_⟩⟩
    · simp only [Paged.length_before, List.length_singleton]
    · rw [notingRelease_raised e ((congrArg Page.usedLeft (found later)).trans left)]
      refine ends_raise.mpr ⟨rfl, ?_, rfl⟩
      rw [Paged.before_before, Paged.before_before, List.append_nil]
      exact (Paged.turn_before last Page.report p later).symm
  | true =>
    refine ⟨_, _, _, if_pos left, rfl, fun later => ⟨[], ?_⟩⟩
    rw [List.append_nil,
      notingRelease_dropped e ((congrArg Page.usedLeft (found later)).trans left)]
    exact ends_pure.mpr ⟨rfl, rfl, rfl⟩

/-- The release ends in the base as the page says, and may be noted there itself. -/
theorem amid_pagedRelease {i : Nat}
    {release : ρ → Host (Paged σ) (Layered route M Failure Unit)} {r : ρ}
    {released : Except Fault Unit} (last : a₃.pages.length = i) (p : Page)
    (finished : EndsAmid (M := Layered route M Failure) c a₂ (release r) released a₃ c') :
    ∃ released₀ rel p' a₄, surfaced (depth (Paged σ) M) released₀ = released ∧
      notedRelease (channel (Paged σ) M (depth (Paged σ) M)) p released₀ a₃ = (rel, p', a₄) ∧
      EndsAmid (M := M) c (a₂.before [p]) (pagedRelease i release (.right r)) rel
        (a₄.before [p']) c' := by
  obtain ⟨released₀, inner, rfl⟩ := amid_base finished
  rw [pagedRelease_right]
  rcases released₀ with g | e | ⟨⟩
  · exact ⟨_, _, _, _, rfl, rfl, (inner.before [p]).chain_error⟩
  · obtain ⟨rel, p', a₄, noted, rest⟩ := amid_notingRelease (M := M) (c := c') last p e
    exact ⟨_, rel, p', a₄, rfl, noted, (inner.before [p]).chain rest⟩
  · exact ⟨_, _, _, _, rfl, rfl, (inner.before [p]).chain amid_pure⟩

/-- The handler makes an error that was reported a left, and raises every other again. -/
theorem ends_reraise [LawfulHandling (Paged σ) M] {i : Nat} {m : M (Either Failure β)}
    {o : Except Fault (Either Failure β)} (ended : Ends c (.ok m, a) o a' c') :
    Ends c (ErrorChannel.handle m (reraise i) a) (reraised (raised (Paged σ) M) (a'.page i) o)
      a' c' := by
  rw [LawfulHandling.ends_handle]
  rcases o with ⟨level, e⟩ | b
  · by_cases here : level = raised (Paged σ) M
    · subst here
      refine .inl ⟨e, a', c', ended, ?_⟩
      cases reported : (a'.page i).reported with
      | false =>
        have again : reraise (M := M) (β := β) i e a' =
            (.ok (ErrorChannel.raise (Paged σ) e), a') := if_neg (Bool.eq_false_iff.mp reported)
        rw [again, ends_raise]
        exact ⟨if_neg fun both => Bool.eq_false_iff.mp reported both.1, rfl, rfl⟩
      | true =>
        have left : reraise (M := M) (β := β) i e a' =
            (.ok (Carrier.pure (Paged σ) (.left e)), a') := if_pos reported
        rw [left, ends_pure]
        exact ⟨if_pos ⟨reported, rfl⟩, rfl, rfl⟩
    · have kept : reraised (β := β) (raised (Paged σ) M) (a'.page i) (.error ⟨level, e⟩) =
          .error ⟨level, e⟩ := if_neg fun both => here both.2
      rw [kept]
      exact .inr ⟨ended, fun e' same => here (by cases same; rfl)⟩
  · exact .inr ⟨ended, nofun⟩

variable {acquire : Layered route M Failure ρ}
  {use : ρ → Host (Paged σ) (Layered route M Failure β)}
  {release : ρ → Host (Paged σ) (Layered route M Failure Unit)}

/-- After an early exit of the acquisition the base's bracket uses and releases nothing. -/
theorem course_skipped {e : Failure} {o : Except Fault β}
    (acquired : EndsAmid (M := M) c a (.pure acquire.base) (.ok (.left e)) a₁ c')
    (closed : failedWith (notAcquired (channelOver route (depth (Paged σ) M)
      (channel (Paged σ) M)) ⟨depth (Paged σ) M + 1, e⟩ a₁) = (o, a')) :
    ∃ o₀, NotedCourse acquire.base (pagedUse i use) (pagedRelease i release) a c o₀ a' c' ∧
      surfaced (depth (Paged σ) M) o₀ = o := by
  have exited : EndsAmid (M := M) c' (note .acquired a₁) (pagedUse i use (.left e))
      (skippedUse (channel (Paged σ) M (depth (Paged σ) M)) e route) (note .acquired a₁) c' :=
    ⟨rfl, fun later => ⟨[], ends_failedAcquire.mpr ⟨rfl, by rw [List.append_nil], rfl⟩⟩⟩
  have whole : Prod.map (surfaced (depth (Paged σ) M)) id (bracketClosing (channel (Paged σ) M)
      (skippedUse (β := β) (channel (Paged σ) M (depth (Paged σ) M)) e route) (.ok ())
      (note .acquired a₁)) = (o, a') :=
    (surfaced_bracketClosing ..).trans ((congrArg _ closing_skipped).trans closed)
  rcases base : bracketClosing (β := Either Failure β) (channel (Paged σ) M)
    (skippedUse (channel (Paged σ) M (depth (Paged σ) M)) e route) (.ok ()) (note .acquired a₁)
    with ⟨o₀, a₀⟩
  rw [base] at whole
  cases whole
  exact ⟨o₀, .closed acquired exited amid_pure base, rfl⟩

/-- The page of a bracket that acquired nothing stays blank. -/
theorem course_notAcquired {f : Fault} {a₁ : Paged σ} {o : Except Fault β}
    (acquired : EndsAmid (M := Layered route M Failure) c a (.pure acquire) (.error f) a₁ c')
    (closed : failedWith (notAcquired (channel (Paged σ) (Layered route M Failure)) f a₁) =
      (o, a')) :
    ∃ o₀, NotedCourse acquire.base (pagedUse i use) (pagedRelease i release) a c o₀ a' c' ∧
      surfaced (depth (Paged σ) M) o₀ = o := by
  obtain ⟨f' | e | x, inner, ⟨⟩⟩ := amid_base acquired
  · have below : notAcquired (channel (Paged σ) (Layered route M Failure)) f a₁ =
        notAcquired (channel (Paged σ) M) f a₁ := by
      unfold notAcquired
      rw [show channel (Paged σ) (Layered route M Failure) f.level = _ from
        channelOver_of_le route inner.level_le]
    rw [below] at closed
    cases closed
    exact ⟨_, .notAcquired inner rfl, rfl⟩
  · exact course_skipped inner closed

/-- What the phases come to is handed through the base's bracket and its page. -/
theorem course_closed {r : ρ} {used : Except Fault β} {released : Except Fault Unit}
    {o : Except Fault β} {c₁ c₂ : Setting (Paged σ) M} (last : a.pages.length = i)
    (acquired : EndsAmid (M := Layered route M Failure) c a (.pure acquire) (.ok r) a₁ c₁)
    (ran : EndsAmid (M := Layered route M Failure) c₁ (note .acquired a₁) (use r) used a₂ c₂)
    (finished : EndsAmid (M := Layered route M Failure) c₂ a₂ (release r) released a₃ c')
    (closed : bracketClosing (channel (Paged σ) (Layered route M Failure)) used released a₃ =
      (o, a')) :
    ∃ o₀ p, NotedCourse acquire.base (pagedUse i use) (pagedRelease i release)
        (a.before [.blank]) c o₀ (a'.before [p]) c' ∧
      surfaced (depth (Paged σ) M) (reraised (raised (Paged σ) M) p o₀) = o := by
  obtain ⟨_ | _ | r', inner, ⟨⟩⟩ := amid_base acquired
  have lastUse : a₂.pages.length = i := (ran.length_eq.trans acquired.length_eq).trans last
  obtain ⟨used₀, rfl, ranBase⟩ := amid_pagedUse lastUse ran
  obtain ⟨released₀, rel, p, a₄, rfl, noted, finishedBase⟩ :=
    amid_pagedRelease (finished.length_eq.trans lastUse) (usedPage used₀) finished
  rcases base : bracketClosing (channel (Paged σ) M) used₀ rel a₄ with ⟨o₀, a₀⟩
  have higher : bracketClosing (channel (Paged σ) (Layered route M Failure)) _ _ a₃ = _ :=
    closing_noted (LawfulEndings.channel_eq (σ := Paged σ) (M := M)) (fun f same => ?_)
      (fun g same => ?_) noted base
  · cases higher.symm.trans closed
    exact ⟨o₀, p, .closed (inner.before [.blank]) ranBase finishedBase
      ((bracketClosing_before base).2 [p]), rfl⟩
  · subst same
    exact ranBase.level_le
  · subst same
    cases noted
    exact finishedBase.level_le

/-! ### The bracket -/

variable [PagedBracketing σ M] [LawfulPaging σ M] [LawfulHandling (Paged σ) M]

omit [Bracketing (Paged σ) M] [Endings (Paged σ) M] [LawfulEndings (Paged σ) M]
  [LawfulPaging σ M] [LawfulHandling (Paged σ) M] in
/-- Where the bracket of the base has been built, the handler stands around it. -/
theorem pagedBracket_eq {m : M (Either Failure β)} {v : Paged σ}
    (built : PagedBracketing.pagedBracket acquire.base (pagedUse a.pages.length use)
      (pagedRelease a.pages.length release) (a.before [.blank]) = (.ok m, v)) :
    PagedBracketing.pagedBracket acquire use release a =
      (ErrorChannel.handle m (reraise a.pages.length)).map mk v := by
  show Host.bind (PagedBracketing.pagedBracket acquire.base _ _) _ (a.before [.blank]) = _
  rw [Host.bind, built]

/-- The layer's bracket ends as the base's does with a page, once the handler has seen it. -/
theorem ends_pagedBracket_of_base {p : Page} {o : Except Fault (Either Failure β)}
    (last : a'.pages.length = a.pages.length)
    (course : NotedCourse acquire.base (pagedUse a.pages.length use)
      (pagedRelease a.pages.length release) (a.before [.blank]) c o (a'.before [p]) c') :
    ∃ more, Ends (M := Layered route M Failure) c
      (PagedBracketing.pagedBracket acquire use release a)
      (surfaced (depth (Paged σ) M) (reraised (raised (Paged σ) M) p o)) (a'.before more) c' := by
  obtain ⟨more, ended⟩ := LawfulPaging.ends_pagedBracket course
  obtain ⟨m, v, built⟩ := LawfulPaging.pagedBracket_built acquire.base
    (pagedUse a.pages.length use) (pagedRelease a.pages.length release) (a.before [.blank])
  rw [built, Paged.before_before] at ended
  have handled := ends_reraise (i := a.pages.length) ended
  rw [List.singleton_append, Paged.page_before last] at handled
  exact ⟨p :: more, pagedBracket_eq built ▸ ends_mk.mpr ⟨_, handled, rfl⟩⟩

/-- The layer's bracket takes every course of a bracket. -/
theorem ends_pagedBracket_layer {c c' : Setting (Paged σ) (Layered route M Failure)}
    {o : Except Fault β} (course : NotedCourse acquire use release a c o a' c') :
    ∃ more, Ends c (PagedBracketing.pagedBracket acquire use release a) o (a'.before more) c' := by
  have last := course.length_eq
  cases course with
  | notAcquired acquired closed =>
    obtain ⟨o₀, course, rfl⟩ := course_notAcquired acquired closed
    have ended := ends_pagedBracket_of_base last (course.before [.blank])
    rwa [reraised_unreported rfl] at ended
  | closed acquired ran finished closed =>
    obtain ⟨o₀, p, course, rfl⟩ := course_closed rfl acquired ran finished closed
    exact ends_pagedBracket_of_base last course

omit [Bracketing (Paged σ) M] [LawfulEndings (Paged σ) M] [LawfulHandling (Paged σ) M] in
theorem pagedBracket_built_layer [Suspending (Paged σ) M] (acquire : Layered route M Failure ρ)
    (use : ρ → Host (Paged σ) (Layered route M Failure β))
    (release : ρ → Host (Paged σ) (Layered route M Failure Unit)) (a : Paged σ) :
    ∃ m v, PagedBracketing.pagedBracket acquire use release a = (.ok m, v) := by
  obtain ⟨m, v, built⟩ := LawfulPaging.pagedBracket_built acquire.base
    (pagedUse a.pages.length use) (pagedRelease a.pages.length release) (a.before [.blank])
  obtain ⟨n, handled⟩ := Suspending.handle_built m (reraise (σ := σ) a.pages.length)
  refine ⟨⟨n⟩, v, ?_⟩
  rw [pagedBracket_eq built, handled]
  rfl

instance [Suspending (Paged σ) M] : LawfulPaging σ (Layered route M Failure) where
  pagedBracket_built := pagedBracket_built_layer
  ends_pagedBracket := ends_pagedBracket_layer

end Phases

end Layered

/-! ## Stacks -/

namespace Stack

variable {σ : Type} {M : Type → Type u} [Observer σ] [Carrier (Paged σ) M]
  [ErrorChannel (Paged σ) M Failure] [PagedBracketing σ M]

instance instPagedBracketing : (routes : List Route) → PagedBracketing σ (Stack M routes)
  | [] => inferInstanceAs (PagedBracketing σ M)
  | route :: routes =>
    letI := instPagedBracketing routes
    inferInstanceAs (PagedBracketing σ (Layered route (Stack M routes) Failure))

instance instLawfulPaging [Bracketing (Paged σ) M] [Endings (Paged σ) M]
    [LawfulEndings (Paged σ) M] [LawfulHandling (Paged σ) M] [Suspending (Paged σ) M]
    [LawfulPaging σ M] : (routes : List Route) → LawfulPaging σ (Stack M routes)
  | [] => inferInstanceAs (LawfulPaging σ M)
  | route :: routes =>
    haveI := instLawfulPaging routes
    inferInstanceAs (LawfulPaging σ (Layered route (Stack M routes) Failure))

end Stack

/-- Brackets through any layers over `M` end alike, by notes and by verdicts, after every
course of their phases, and both amid pages. -/
def NotesTellVerdicts (σ : Type) (M : Type → Type u) [Observer σ] [Carrier (Paged σ) M]
    [ErrorChannel (Paged σ) M Failure] [Bracketing (Paged σ) M] [PagedBracketing σ M]
    [Endings (Paged σ) M] : Prop :=
  ∀ (routes : List Route) {ρ β : Type} (acquire : Stack M routes ρ)
    (use : ρ → Host (Paged σ) (Stack M routes β))
    (release : ρ → Host (Paged σ) (Stack M routes Unit))
    (a a' : Paged σ) (c c' : Setting (Paged σ) (Stack M routes)) (o : Except Fault β),
    NotedCourse acquire use release a c o a' c' →
      EndsAmid c a (PagedBracketing.pagedBracket acquire use release) o a' c' ∧
      EndsAmid c a (bracket acquire use release) o a' c'

theorem notesTellVerdicts {σ : Type} {M : Type → Type u} [Observer σ] [Carrier (Paged σ) M]
    [ErrorChannel (Paged σ) M Failure] [Bracketing (Paged σ) M] [PagedBracketing σ M]
    [Endings (Paged σ) M] [LawfulEndings (Paged σ) M] [LawfulHandling (Paged σ) M]
    [Suspending (Paged σ) M] [LawfulPaging σ M] : NotesTellVerdicts σ M :=
  fun _ _ _ _ _ _ _ _ _ _ _ course =>
    ⟨course.amid LawfulPaging.ends_pagedBracket, course.amid ends_bracket_of_course⟩

/-- Through layers of any routes over actions or over futures, a bracket whose closures
keep notes ends as the bracket that is told verdicts. -/
theorem notes_tell_verdicts (σ : Type) [Observer σ] :
    NotesTellVerdicts σ (Action (Paged σ)) ∧ NotesTellVerdicts σ (Future (Paged σ)) :=
  ⟨notesTellVerdicts, notesTellVerdicts⟩

/-- A release that exits early after a use that did not. -/
def reportedExit : Host (Paged Journal) (Exits (Action (Paged Journal)) 1 Nat) :=
  PagedBracketing.pagedBracket (M := Exits (Action (Paged Journal)) 1)
    (Carrier.pure (Paged Journal) ()) (fun _ => .pure (Carrier.pure (Paged Journal) 7))
    fun _ => .pure (ErrorChannel.raise (Paged Journal) (.raised "release"))

/-- The exit is reported, raised in the action and made a left again. -/
example : Ends (M := Exits (Action (Paged Journal)) 1) PUnit.unit (reportedExit ⟨⟨[]⟩, []⟩)
    (.error ⟨1, .raised "release"⟩)
    ⟨⟨[.acquired, .released false true]⟩, [⟨true, false, true⟩]⟩ PUnit.unit :=
  ⟨.ok (.left (.raised "release")), rfl, rfl⟩

end Resumption
