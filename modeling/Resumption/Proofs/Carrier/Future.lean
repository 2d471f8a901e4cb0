/-
Future — futures are a lawful carrier.

A future is observed by polling it, as often as one likes, from any world, in
any scopes and with any reactor.  Two futures are the same when every poll of
the one does what the same poll of the other does: both end alike, or both are
left waiting for the same things and owing the same releases, and then the next
polls are compared.  `SamePolls n` looks at `n` polls.

The laws hold poll by poll, because sequencing never waits by itself.
-/
import Resumption.Future.Carrier
import Resumption.Future.Poll
import Resumption.Proofs.Carrier.Observation

namespace Resumption

universe w

namespace Future

variable {σ : Type} {α β γ : Type}

/-- Two futures that wait for the same things and owe the same releases. -/
structure Akin (a : Future σ α) (b : Future σ β) : Prop where
  woken : ∀ now finished, a.woken now finished = b.woken now finished
  yielding : a.yielding = b.yielding
  nextDeadline : a.nextDeadline = b.nextDeadline
  orphans : a.orphans = b.orphans
  held : a.held = b.held

namespace Akin

theorem refl (a : Future σ α) : Akin a a :=
  ⟨fun _ _ => rfl, rfl, rfl, rfl, rfl⟩

theorem symm {a : Future σ α} {b : Future σ β} (h : Akin a b) : Akin b a :=
  ⟨fun t f => (h.woken t f).symm, h.yielding.symm, h.nextDeadline.symm, h.orphans.symm,
    h.held.symm⟩

theorem trans {a : Future σ α} {b : Future σ β} {c : Future σ γ} (h : Akin a b)
    (h' : Akin b c) : Akin a c :=
  ⟨fun t f => (h.woken t f).trans (h'.woken t f), h.yielding.trans h'.yielding,
    h.nextDeadline.trans h'.nextDeadline, h.orphans.trans h'.orphans, h.held.trans h'.held⟩

/-- A bind waits and owes as its source does. -/
theorem bind_source (a : Future σ α) (k : α → σ → Call σ β) : Akin (bind a k) a :=
  ⟨fun _ _ => by rw [Future.woken], by rw [Future.yielding], by rw [Future.nextDeadline],
    by rw [Future.orphans], by rw [Future.held]⟩

/-- So does what hands on an outcome. -/
theorem conclude_source (a : Future σ α) (f : Except Failure α → Host σ (Except Failure β)) :
    Akin (conclude a f) a :=
  ⟨fun _ _ => by rw [Future.woken], by rw [Future.yielding], by rw [Future.nextDeadline],
    by rw [Future.orphans], by rw [Future.held]⟩

/-- And what is rescued, as it would by itself. -/
theorem rescue_source (a : Future σ α) (k : Failure → σ → Call σ α) : Akin (rescue a k) a :=
  ⟨fun _ _ => by rw [Future.woken], by rw [Future.yielding], by rw [Future.nextDeadline],
    by rw [Future.orphans], by rw [Future.held]⟩

theorem bind {a b : Future σ α} (h : Akin a b) (k k' : α → σ → Call σ β) :
    Akin (Future.bind a k) (Future.bind b k') :=
  (bind_source a k).trans (h.trans (bind_source b k').symm)

end Akin

/-! ## Polls compared -/

/-- Two polls with the same outcome, world and reactor, or that leave futures which
wait and owe alike and are related by `R`. -/
inductive Polled.Alike (R : Future σ α → Future σ α → Prop) : Polled σ α → Polled σ α → Prop
  | ended (o : Except Failure α) (w : σ) (r : Option (Reactor σ)) :
      Alike R ⟨.ended o, w, r⟩ ⟨.ended o, w, r⟩
  | pending {a b : Future σ α} (w : σ) (r : Option (Reactor σ)) :
      Akin a b → R a b → Alike R ⟨.pending a, w, r⟩ ⟨.pending b, w, r⟩

namespace Polled.Alike

variable {R : Future σ α → Future σ α → Prop}

theorem refl (hR : ∀ a, R a a) (p : Polled σ α) : Alike R p p := by
  rcases p with ⟨o | a, w, r⟩
  · exact .ended o w r
  · exact .pending w r (.refl a) (hR a)

theorem of_eq (hR : ∀ a, R a a) {p q : Polled σ α} (e : p = q) : Alike R p q :=
  e ▸ refl hR p

theorem symm (hR : ∀ a b, R a b → R b a) {p q : Polled σ α} (h : Alike R p q) : Alike R q p := by
  cases h with
  | ended o w r => exact .ended o w r
  | pending w r ha hr => exact .pending w r ha.symm (hR _ _ hr)

theorem trans (hR : ∀ a b c, R a b → R b c → R a c) {p q s : Polled σ α} (h : Alike R p q)
    (h' : Alike R q s) : Alike R p s := by
  cases h with
  | ended o w r => exact h'
  | pending w r ha hr =>
    cases h' with
    | pending _ _ ha' hr' => exact .pending w r (ha.trans ha') (hR _ _ _ hr hr')

end Polled.Alike

variable [Observer σ]

/-- The next `n` polls of both futures go alike. -/
def SamePolls {α : Type} : Nat → Future σ α → Future σ α → Prop
  | 0, _, _ => True
  | n + 1, a, b => ∀ scopes w r, Polled.Alike (SamePolls n) (a.poll scopes w r) (b.poll scopes w r)

namespace SamePolls

theorem refl : ∀ (n : Nat) (a : Future σ α), SamePolls n a a
  | 0, _ => trivial
  | n + 1, _ => fun _ _ _ => .refl (refl n) _

theorem symm : ∀ (n : Nat) (a b : Future σ α), SamePolls n a b → SamePolls n b a
  | 0, _, _, _ => trivial
  | n + 1, _, _, h => fun s w r => (h s w r).symm (symm n)

theorem trans : ∀ (n : Nat) (a b c : Future σ α),
    SamePolls n a b → SamePolls n b c → SamePolls n a c
  | 0, _, _, _, _, _ => trivial
  | n + 1, _, _, _, h, h' => fun s w r => (h s w r).trans (trans n) (h' s w r)

end SamePolls

/-- Polls what the building of a future came to. -/
def pollBuilt (scopes : Scopes) (x : Except Panic (Future σ α) × σ) (r : Option (Reactor σ)) :
    Polled σ α :=
  (Call.ofRun x).poll scopes r

theorem pollBuilt_panic (scopes : Scopes) (p : Panic) (w : σ) (r : Option (Reactor σ)) :
    pollBuilt scopes (.error p, w) r = (⟨.ended (.error (.ofPanic p)), w, r⟩ : Polled σ α) := by
  simp only [pollBuilt, Call.ofRun, Call.poll]

theorem pollBuilt_ok (scopes : Scopes) (a : Future σ α) (w : σ) (r : Option (Reactor σ)) :
    pollBuilt scopes (.ok a, w) r = a.poll scopes w r := by
  simp only [pollBuilt, Call.ofRun, Call.poll]

/-- The first poll of what was built and the next `n` polls after it go alike. -/
def SameBuilt (n : Nat) (x y : Except Panic (Future σ α) × σ) : Prop :=
  ∀ scopes r, Polled.Alike (SamePolls n) (pollBuilt scopes x r) (pollBuilt scopes y r)

/-! ## Sequencing -/

/-- A poll that ended with a value goes on to what comes next. -/
def andPoll (scopes : Scopes) (k : α → σ → Call σ β) : Polled σ α → Polled σ β
  | ⟨.ended (.ok x), w, r⟩ => (k x w).poll scopes r
  | ⟨.ended (.error e), w, r⟩ => ⟨.ended (.error e), w, r⟩
  | ⟨.pending a, w, r⟩ => ⟨.pending (bind a k), w, r⟩

theorem poll_bind (scopes : Scopes) (a : Future σ α) (k : α → σ → Call σ β) (w : σ)
    (r : Option (Reactor σ)) :
    (bind a k).poll scopes w r = andPoll scopes k (a.poll scopes w r) := by
  rw [poll]
  rcases a.poll scopes w r with ⟨(_ | _) | _, _, _⟩ <;> rfl

theorem pollBuilt_chain (scopes : Scopes) (h : Host σ (Future σ α)) (k : α → Host σ (Future σ β))
    (w : σ) (r : Option (Reactor σ)) :
    pollBuilt scopes (h.chain k w) r =
      andPoll scopes (fun x w => .ofRun (k x w)) (pollBuilt scopes (h w) r) := by
  unfold Host.chain Host.bind
  rcases h w with ⟨p | a, w'⟩
  · simp only [pollBuilt_panic, andPoll]
  · rw [pollBuilt_ok]
    exact (pollBuilt_ok ..).trans (poll_bind ..)

theorem andPoll_alike {n : Nat} {k k' : α → Host σ (Future σ β)} {p q : Polled σ α}
    (scopes : Scopes)
    (h : Polled.Alike (SamePolls n) p q) (hk : ∀ x w, SameBuilt n (k x w) (k' x w))
    (hb : ∀ a b, SamePolls n a b →
      SamePolls n (bind a fun x w => .ofRun (k x w)) (bind b fun x w => .ofRun (k' x w))) :
    Polled.Alike (SamePolls n) (andPoll scopes (fun x w => .ofRun (k x w)) p)
      (andPoll scopes (fun x w => .ofRun (k' x w)) q) := by
  cases h with
  | ended o w r =>
    cases o with
    | error e => exact .ended _ w r
    | ok x => exact hk x w scopes r
  | pending w r ha hr => exact .pending w r (ha.bind _ _) (hb _ _ hr)

theorem SamePolls.bind {k k' : α → Host σ (Future σ β)}
    (hk : ∀ n x w, SameBuilt n (k x w) (k' x w)) : ∀ (n : Nat) (a b : Future σ α), SamePolls n a b →
      SamePolls n (bind a fun x w => .ofRun (k x w)) (bind b fun x w => .ofRun (k' x w))
  | 0, _, _, _ => trivial
  | n + 1, a, b, h => fun scopes w r => by
      rw [poll_bind, poll_bind]
      exact andPoll_alike scopes (h scopes w r) (hk n) (SamePolls.bind hk n)

theorem SamePolls.bind_assoc (k : α → Host σ (Future σ β)) (l : β → Host σ (Future σ γ)) :
    ∀ (n : Nat) (a : Future σ α),
      SamePolls n (Future.bind (Future.bind a fun x w => .ofRun (k x w)) fun y w => .ofRun (l y w))
        (Future.bind a fun x w => .ofRun ((k x).chain l w))
  | 0, _ => trivial
  | n + 1, a => fun scopes w r => by
      rw [poll_bind, poll_bind, poll_bind]
      rcases a.poll scopes w r with ⟨(e | x) | a', w', r'⟩
      · exact .ended _ w' r'
      · rw [andPoll, andPoll]
        exact (pollBuilt_chain scopes (k x) l w' r') ▸ .refl (SamePolls.refl n) _
      · rw [andPoll, andPoll, andPoll]
        exact .pending w' r' (((Akin.bind_source _ _).trans (Akin.bind_source a' _)).trans
          (Akin.bind_source a' _).symm) (SamePolls.bind_assoc k l n a')

theorem SamePolls.bind_pure : ∀ (n : Nat) (a : Future σ α),
    SamePolls n (Future.bind a fun x w => .ofRun (.ok (ready (.ok x)), w)) a
  | 0, _ => trivial
  | n + 1, a => fun scopes w r => by
      rw [poll_bind]
      rcases a.poll scopes w r with ⟨(e | x) | a', w', r'⟩
      · exact .ended _ w' r'
      · simp only [andPoll, Call.ofRun, Call.poll, poll]
        exact .ended _ w' r'
      · exact .pending w' r' (Akin.bind_source a' _) (SamePolls.bind_pure n a')

theorem SamePolls.map_eq (f : α → Host σ β) : ∀ (n : Nat) (a : Future σ α),
    SamePolls n (conclude a (onValue f))
      (Future.bind a fun x w => .ofRun ((f x).map (fun b => ready (.ok b)) w))
  | 0, _ => trivial
  | n + 1, a => fun scopes w r => by
      rw [poll_bind, poll]
      rcases a.poll scopes w r with ⟨(e | x) | a', w', r'⟩
      · exact .ended _ w' r'
      · simp only [andPoll, Polled.ofHost, Host.caught, onValue, Host.map, Host.bind]
        rcases f x w' with ⟨p | b, w''⟩
        · exact .ended _ w'' r'
        · simp only [Host.pure, Call.ofRun, Call.poll, poll]
          exact .ended _ w'' r'
      · exact .pending w' r' ((Akin.conclude_source a' _).trans (Akin.bind_source a' _).symm)
          (SamePolls.map_eq f n a')

end Future

variable {σ : Type} [Observer σ]

instance : Observed σ (Future σ) where
  Same x y := ∀ n, Future.SameBuilt n x y
  refl _ n _ _ := .refl (Future.SamePolls.refl n) _
  symm h n s r := (h n s r).symm (Future.SamePolls.symm n)
  trans h h' n s r := (h n s r).trans (Future.SamePolls.trans n) (h' n s r)

namespace Future

variable {α β : Type}

/-- Futures whose polls go alike are built alike. -/
theorem agree_of_samePolls {a b : Future σ α} (h : ∀ n, SamePolls n a b) :
    Agree (Host.pure (σ := σ) a) (Host.pure b) := by
  intro w n scopes r
  have polls := h (n + 1) scopes w r
  rwa [← pollBuilt_ok, ← pollBuilt_ok] at polls

end Future

instance : LawfulCarrier σ (Future σ) where
  map_eq a f := Future.agree_of_samePolls fun n => Future.SamePolls.map_eq f n a
  pure_bind x k w n scopes r := by
    show Future.Polled.Alike _
      (Future.pollBuilt scopes (.ok (Future.bind (.ready (.ok x)) _), w) r) _
    rw [Future.pollBuilt_ok, Future.poll_bind, Future.poll]
    exact .refl (Future.SamePolls.refl n) _
  bind_pure a := Future.agree_of_samePolls fun n => Future.SamePolls.bind_pure n a
  bind_assoc a k l := Future.agree_of_samePolls fun n => Future.SamePolls.bind_assoc k l n a
  chain_congr {_ _ h h' k k'} e e' w n scopes r := by
    rw [Future.pollBuilt_chain, Future.pollBuilt_chain]
    have calls : ∀ n x w, Future.SameBuilt n (k x w) (k' x w) := fun n x w => e' x w n
    exact Future.andPoll_alike scopes (e w n scopes r) (calls n) (Future.SamePolls.bind calls n)

instance : LawfulLoop.{1, w} σ (Future σ) where
  iterate_eq maps wf step s v n scopes r := by
    show Future.Polled.Alike _ (Future.pollBuilt scopes (.ok (Future.iterate wf step s), v) r) _
    rw [Future.pollBuilt_ok, Future.iterate, Future.poll, Host.bind]
    rcases step s v with ⟨p | b | ⟨a, next⟩, v'⟩
    · exact .refl (Future.SamePolls.refl n) _
    · exact .refl (Future.SamePolls.refl n) _
    · refine .of_eq (Future.SamePolls.refl n) (congrArg
        (fun k => Future.Call.poll scopes (.returned (Future.bind a k) v') r)
        (funext fun x => funext fun u => ?_))
      show _ = Future.Call.ofRun ((next x).bind _ u)
      rw [Host.bind]
      rcases next x u with ⟨_ | _ | _, _⟩ <;> rfl

end Resumption
