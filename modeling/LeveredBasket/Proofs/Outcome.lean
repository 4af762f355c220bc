/-
What an action comes to, as a statement about states.

`Outcome.Ends` says of an outcome what holds where it is done and what holds
where it is refused. An aborted run has no state, so nothing is said of it. Every
step of a program has one equation here (`ends_bind` for a sequence, and one for
each primitive), and together they turn a statement about a program into one
about its checks and writes, refusals half way included.

`Outcome.Succeeds` says more: that it is done, and what holds then. It has the same
equations, for programs of which it is to be shown that they go through.

`Outcome.Alike` says of two outcomes that they are the same to who does not look at
states. A program that runs alike on two states (`Action.Relates`) reads nothing in
which they differ.

An action keeps an invariant (`Action.Keeps`) if the invariant holds wherever the
action stops. `Action.after` forgets everything but the state, which is all that
the next call sees.
-/
import LeveredBasket.Action

set_option autoImplicit false

namespace LeveredBasket

variable {σ τ ε δ α β : Type}

/-! ## Outcomes -/

namespace Outcome

/-- **How an outcome ends**: `Q` holds of the value and the state where it is
done, and `E` of the error and the state where it is refused. -/
def Ends (o : Outcome σ ε α) (Q : α → σ → Prop) (E : ε → σ → Prop) : Prop :=
  match o with
  | .done a s => Q a s
  | .refused e s => E e s
  | .aborted => True

/-- **What an outcome yields** where it is done. Of refusals nothing is said. -/
abbrev Yields (o : Outcome σ ε α) (Q : α → σ → Prop) : Prop := o.Ends Q fun _ _ => True

/-- **An outcome succeeds** if it is done, and `Q` holds of the value and the state. -/
def Succeeds (o : Outcome σ ε α) (Q : α → σ → Prop) : Prop :=
  match o with
  | .done a s => Q a s
  | .refused _ _ => False
  | .aborted => False

/-- The state that an outcome leaves behind, if there is one. -/
def state? : Outcome σ ε α → Option σ
  | .done _ s => some s
  | .refused _ s => some s
  | .aborted => none

/-- What is answered, the value or the error, with the state that is left. -/
def answer? : Outcome σ ε α → Option (Except ε α × σ)
  | .done a s => some (.ok a, s)
  | .refused e s => some (.error e, s)
  | .aborted => none

/-- The state of an outcome that is done. -/
def through? : Outcome σ ε α → Option σ
  | .done _ s => some s
  | .refused _ _ => none
  | .aborted => none

/-- Whether an outcome is done. -/
def isDone : Outcome σ ε α → Bool
  | .done _ _ => true
  | .refused _ _ => false
  | .aborted => false

/-- Whether an outcome is done with a value and a state of which `p` holds. -/
def isDoneWith (o : Outcome σ ε α) (p : α → σ → Bool) : Bool :=
  match o with
  | .done a s => p a s
  | .refused _ _ => false
  | .aborted => false

/-- Whether an outcome is refused with an error and a state of which `p` holds. -/
def isRefusedWith (o : Outcome σ ε α) (p : ε → σ → Bool) : Bool :=
  match o with
  | .done _ _ => false
  | .refused e s => p e s
  | .aborted => false

/-- The same outcome, with its state seen as a part of a larger one. -/
def mapState (f : σ → τ) : Outcome σ ε α → Outcome τ ε α
  | .done a s => .done a (f s)
  | .refused e s => .refused e (f s)
  | .aborted => .aborted

variable {o : Outcome σ ε α} {Q Q' : α → σ → Prop} {E E' : ε → σ → Prop}

theorem exists_of_isDoneWith {p : α → σ → Bool} (h : o.isDoneWith p = true) :
    ∃ a s, o = .done a s ∧ p a s = true := by
  cases o with
  | done a s => exact ⟨a, s, rfl, h⟩
  | refused e s => cases h
  | aborted => cases h

theorem exists_of_isDone (h : o.isDone = true) : ∃ a s, o = .done a s := by
  cases o with
  | done a s => exact ⟨a, s, rfl⟩
  | refused e s => cases h
  | aborted => cases h

theorem exists_of_isRefusedWith {p : ε → σ → Bool} (h : o.isRefusedWith p = true) :
    ∃ e s, o = .refused e s ∧ p e s = true := by
  cases o with
  | done a s => cases h
  | refused e s => exact ⟨e, s, rfl, h⟩
  | aborted => cases h

theorem through?_eq_some {s : σ} (h : o.through? = some s) : ∃ a, o = .done a s := by
  cases o with
  | done a s' =>
    obtain rfl : s' = s := Option.some.inj h
    exact ⟨a, rfl⟩
  | refused e s' => cases h
  | aborted => cases h

/-- Whatever leaves a state behind is done or refused there. -/
theorem state?_eq_some {s : σ} (h : o.state? = some s) :
    (∃ a, o = .done a s) ∨ ∃ e, o = .refused e s := by
  cases o with
  | done a s' =>
    obtain rfl : s' = s := Option.some.inj h
    exact .inl ⟨a, rfl⟩
  | refused e s' =>
    obtain rfl : s' = s := Option.some.inj h
    exact .inr ⟨e, rfl⟩
  | aborted => cases h

@[simp]
theorem ends_done {a : α} {s : σ} : (Outcome.done a s).Ends Q E ↔ Q a s := Iff.rfl

@[simp]
theorem ends_refused {e : ε} {s : σ} : (Outcome.refused e s).Ends Q E ↔ E e s := Iff.rfl

@[simp]
theorem ends_aborted : (Outcome.aborted : Outcome σ ε α).Ends Q E := trivial

theorem Ends.imp (h : o.Ends Q E) (hQ : ∀ a s, Q a s → Q' a s) (hE : ∀ e s, E e s → E' e s) :
    o.Ends Q' E' := by
  cases o with
  | done a s => exact hQ a s h
  | refused e s => exact hE e s h
  | aborted => trivial

/-- However an outcome ends, it yields what follows from its being done. -/
theorem Ends.yields (h : o.Ends Q E) (hQ : ∀ a s, Q a s → Q' a s) : o.Yields Q' :=
  h.imp hQ fun _ _ _ => trivial

/-- What holds in any case holds of every end. -/
theorem ends_of (hQ : ∀ a s, Q a s) (hE : ∀ e s, E e s) : o.Ends Q E := by
  cases o with
  | done a s => exact hQ a s
  | refused e s => exact hE e s
  | aborted => trivial

theorem Ends.and (h : o.Ends Q E) (h' : o.Ends Q' E') :
    o.Ends (fun a s => Q a s ∧ Q' a s) (fun e s => E e s ∧ E' e s) := by
  cases o with
  | done a s => exact ⟨h, h'⟩
  | refused e s => exact ⟨h, h'⟩
  | aborted => trivial

/-- What holds of every done end holds of a given one. -/
theorem Ends.done {a : α} {s : σ} (h : o.Ends Q E) (ho : o = .done a s) : Q a s := by
  subst ho
  exact h

/-- What holds of every refusal holds of a given one. -/
theorem Ends.refused {e : ε} {s : σ} (h : o.Ends Q E) (ho : o = .refused e s) : E e s := by
  subst ho
  exact h

/-- A statement about the state alone holds of whatever state is left behind. -/
theorem Ends.state {I : σ → Prop} {s : σ} (h : o.Ends (fun _ s => I s) (fun _ s => I s))
    (ho : o.state? = some s) : I s := by
  cases o with
  | done a s' =>
    obtain rfl : s' = s := Option.some.inj ho
    exact h
  | refused e s' =>
    obtain rfl : s' = s := Option.some.inj ho
    exact h
  | aborted => cases ho

/-- To know how an outcome ends is to know it of each done end and each refusal. -/
theorem ends_iff : o.Ends Q E ↔
    (∀ a s, o = .done a s → Q a s) ∧ (∀ e s, o = .refused e s → E e s) := by
  constructor
  · exact fun h => ⟨fun a s ho => h.done ho, fun e s ho => h.refused ho⟩
  · rintro ⟨hQ, hE⟩
    cases o with
    | done a s => exact hQ a s rfl
    | refused e s => exact hE e s rfl
    | aborted => trivial

/-- An outcome yields what it is done with. -/
theorem yields_self (o : Outcome σ ε α) : o.Yields fun a s => o = .done a s :=
  ends_iff.2 ⟨fun _ _ h => h, fun _ _ _ => trivial⟩

end Outcome

/-! ## What the primitives come to -/

namespace Action

@[simp]
theorem run_read (f : σ → α) (s : σ) : (read f : Action σ ε α).run s = .done (f s) s := rfl

@[simp]
theorem run_modify (f : σ → σ) (s : σ) :
    (modify f : Action σ ε Unit).run s = .done () (f s) := rfl

@[simp]
theorem run_refuse (e : ε) (s : σ) : (refuse e : Action σ ε α).run s = .refused e s := rfl

@[simp]
theorem run_abort (s : σ) : (abort : Action σ ε α).run s = .aborted := rfl

@[simp]
theorem require_pos {p : Prop} [Decidable p] (h : p) (e : ε) :
    (require p e : Action σ ε Unit) = pure () := if_pos h

@[simp]
theorem require_neg {p : Prop} [Decidable p] (h : ¬p) (e : ε) :
    (require p e : Action σ ε Unit) = refuse e := if_neg h

@[simp]
theorem ofExcept_ok (a : α) : (ofExcept (.ok a) : Action σ ε α) = pure a := rfl

@[simp]
theorem ofExcept_error (e : ε) : (ofExcept (.error e) : Action σ ε α) = refuse e := rfl

@[simp]
theorem orRefuse_some (e : ε) (a : α) : (orRefuse e (some a) : Action σ ε α) = pure a := rfl

@[simp]
theorem orRefuse_none (e : ε) : (orRefuse e none : Action σ ε α) = refuse e := rfl

@[simp]
theorem orAbort_some (a : α) : (orAbort (some a) : Action σ ε α) = pure a := rfl

@[simp]
theorem orAbort_none : (orAbort none : Action σ ε α) = abort := rfl

end Action

/-! ## What it takes to be done -/

namespace Action

/-- A sequence is done if its first step is, and the rest from there. -/
theorem run_bind_eq_done {x : Action σ ε β} {f : β → Action σ ε α} {s s' : σ} {a : α} :
    (x >>= f).run s = .done a s' ↔ ∃ b s₁, x.run s = .done b s₁ ∧ (f b).run s₁ = .done a s' := by
  rw [run_bind]
  cases x.run s with
  | done b s₁ =>
    constructor
    · intro h
      exact ⟨b, s₁, rfl, h⟩
    · rintro ⟨b', s₂, hb, h⟩
      cases hb
      exact h
  | refused e s₁ => simp
  | aborted => simp

/-- **Two sequences are done alike**, up to `P`, if their first steps are, up to `R`, and from there
the rest of the one together with `R` is done as the rest of the other is, up to `P`. -/
theorem run_bind_done_iff {x y : Action σ ε β} {f g : β → Action σ ε α} {s s' : σ} {a : α}
    {R : β → Prop} {P : Prop}
    (hx : ∀ b s₁, x.run s = .done b s₁ ↔ y.run s = .done b s₁ ∧ R b)
    (h : ∀ b s₁, y.run s = .done b s₁ →
      (R b ∧ (f b).run s₁ = .done a s' ↔ (g b).run s₁ = .done a s' ∧ P)) :
    (x >>= f).run s = .done a s' ↔ (y >>= g).run s = .done a s' ∧ P := by
  rw [run_bind_eq_done, run_bind_eq_done]
  constructor
  · rintro ⟨b, s₁, hb, hf⟩
    obtain ⟨hb, hR⟩ := (hx b s₁).1 hb
    obtain ⟨hg, hP⟩ := (h b s₁ hb).1 ⟨hR, hf⟩
    exact ⟨⟨b, s₁, hb, hg⟩, hP⟩
  · rintro ⟨⟨b, s₁, hb, hg⟩, hP⟩
    obtain ⟨hR, hf⟩ := (h b s₁ hb).2 ⟨hg, hP⟩
    exact ⟨b, s₁, (hx b s₁).2 ⟨hb, hR⟩, hf⟩

/-- After the same first step, only the rest has to be compared. -/
theorem run_bind_done_congr {x : Action σ ε β} {f g : β → Action σ ε α} {s s' : σ} {a : α}
    {P : Prop} (h : ∀ b s₁, x.run s = .done b s₁ →
      ((f b).run s₁ = .done a s' ↔ (g b).run s₁ = .done a s' ∧ P)) :
    (x >>= f).run s = .done a s' ↔ (x >>= g).run s = .done a s' ∧ P := by
  apply run_bind_done_iff (R := fun _ => True)
  · exact fun b s₁ => (and_iff_left trivial).symm
  · intro b s₁ hb
    rw [true_and]
    exact h b s₁ hb

/-- A check is passed where what it asks for holds. -/
theorem run_require_bind_eq_done {p : Prop} [Decidable p] {e : ε} {f : Unit → Action σ ε α}
    {s s' : σ} {a : α} :
    (require p e >>= f).run s = .done a s' ↔ p ∧ (f ()).run s = .done a s' := by
  by_cases hp : p
  · rw [require_pos hp, pure_bind, and_iff_right hp]
  · rw [require_neg hp]
    constructor
    · intro h
      cases h
    · exact fun h => absurd h.1 hp

/-- To throw a value away makes no difference to being done. -/
theorem run_forget_eq_done {x : Action σ ε α} {s s' : σ} :
    (do let _ ← x : Action σ ε Unit).run s = .done () s' ↔ ∃ a, x.run s = .done a s' := by
  rw [run_bind_eq_done]
  constructor
  · rintro ⟨a, s₁, hx, hdone⟩
    cases hdone
    exact ⟨a, hx⟩
  · rintro ⟨a, hx⟩
    exact ⟨a, s', hx, rfl⟩

theorem run_forget_eq_refused {x : Action σ ε α} {e : ε} {s s' : σ} :
    (do let _ ← x : Action σ ε Unit).run s = .refused e s' ↔ x.run s = .refused e s' := by
  rw [run_bind]
  cases x.run s <;> simp

end Action

/-! ## One equation for each step -/

namespace Action

variable {Q : α → σ → Prop} {E : ε → σ → Prop} {s : σ}

/-- A sequence ends well if its first step ends where the rest ends well. -/
@[simp]
theorem ends_bind {f : β → Action σ ε α} {x : Action σ ε β} :
    ((x >>= f).run s).Ends Q E ↔ (x.run s).Ends (fun b s' => ((f b).run s').Ends Q E) E := by
  rw [run_bind]
  cases x.run s <;> exact Iff.rfl

/-- A sequence yields what the rest yields after whatever the first step has come to. -/
theorem yields_bind {f : β → Action σ ε α} {x : Action σ ε β} {P : β → σ → Prop}
    (hx : (x.run s).Ends P E) (hf : ∀ b s', P b s' → ((f b).run s').Yields Q) :
    ((x >>= f).run s).Yields Q :=
  ends_bind.2 (hx.yields hf)

@[simp]
theorem ends_read {f : σ → α} : ((read f : Action σ ε α).run s).Ends Q E ↔ Q (f s) s := Iff.rfl

@[simp]
theorem ends_modify {f : σ → σ} {Q : Unit → σ → Prop} :
    ((modify f : Action σ ε Unit).run s).Ends Q E ↔ Q () (f s) := Iff.rfl

@[simp]
theorem ends_refuse {e : ε} : ((refuse e : Action σ ε α).run s).Ends Q E ↔ E e s := Iff.rfl

/-- A branch ends well if the arm that is taken does. -/
@[simp]
theorem ends_ite {p : Prop} [Decidable p] {x y : Action σ ε α} :
    ((if p then x else y).run s).Ends Q E ↔
      (p → (x.run s).Ends Q E) ∧ (¬p → (y.run s).Ends Q E) := by
  by_cases h : p <;> simp [h]

@[simp]
theorem ends_require {p : Prop} [Decidable p] {e : ε} {Q : Unit → σ → Prop} :
    ((require p e).run s).Ends Q E ↔ (p → Q () s) ∧ (¬p → E e s) := by
  by_cases h : p <;> simp [h]

@[simp]
theorem ends_ofExcept {x : Except ε α} :
    ((ofExcept x).run s).Ends Q E ↔ (∀ a, x = .ok a → Q a s) ∧ (∀ e, x = .error e → E e s) := by
  cases x <;> simp

@[simp]
theorem ends_orRefuse {e : ε} {x : Option α} :
    ((orRefuse e x).run s).Ends Q E ↔ (∀ a, x = some a → Q a s) ∧ (x = none → E e s) := by
  cases x <;> simp

@[simp]
theorem ends_orAbort {x : Option α} :
    ((orAbort x : Action σ ε α).run s).Ends Q E ↔ ∀ a, x = some a → Q a s := by
  cases x <;> simp

@[simp]
theorem ends_mapError {f : ε → δ} {x : Action σ ε α} {E : δ → σ → Prop} :
    ((mapError f x).run s).Ends Q E ↔ (x.run s).Ends Q fun e s' => E (f e) s' := by
  rw [run_mapError]
  cases x.run s <;> exact Iff.rfl

/-- An action on a part of a larger state ends as on the part alone, with the part put back. -/
@[simp]
theorem ends_within {part : τ → σ} {put : τ → σ → τ} {x : Action σ ε α} {t : τ}
    {Q : α → τ → Prop} {E : ε → τ → Prop} :
    ((within part put x).run t).Ends Q E ↔
      (x.run (part t)).Ends (fun a s' => Q a (put t s')) fun e s' => E e (put t s') := by
  rw [run_within]
  cases x.run (part t) <;> exact Iff.rfl

/-! ## What is left of a state -/

/-- The state that the action leaves behind, if there is one. -/
def after (x : Action σ ε α) (s : σ) : Option σ := (x.run s).state?

/-- What is thrown away with a value is not a part of the state. -/
@[simp]
theorem after_forget (x : Action σ ε α) (s : σ) :
    (do let _ ← x : Action σ ε Unit).after s = x.after s := by
  unfold after
  rw [run_bind]
  cases x.run s <;> rfl

/-- An action on a part of a larger state leaves that part as it would alone. -/
theorem after_within (part : τ → σ) (put : τ → σ → τ) (x : Action σ ε α) (t : τ) :
    (x.within part put).after t = (x.after (part t)).map (put t) := by
  unfold after
  rw [run_within]
  cases x.run (part t) <;> rfl

/-- The state after an action that goes through. -/
def through (x : Action σ ε α) (s : σ) : Option σ := (x.run s).through?

theorem through_of_done {x : Action σ ε α} {s s' : σ} {a : α} (h : x.run s = .done a s') :
    x.through s = some s' := congrArg Outcome.through? h

@[simp]
theorem through_forget (x : Action σ ε α) (s : σ) :
    (do let _ ← x : Action σ ε Unit).through s = x.through s := by
  unfold through
  rw [run_bind]
  cases x.run s <;> rfl

theorem through_within (part : τ → σ) (put : τ → σ → τ) (x : Action σ ε α) (t : τ) :
    (x.within part put).through t = (x.through (part t)).map (put t) := by
  unfold through
  rw [run_within]
  cases x.run (part t) <;> rfl

theorem after_of_through {x : Action σ ε α} {s s' : σ} (h : x.through s = some s') :
    x.after s = some s' := by
  obtain ⟨a, hrun⟩ := Outcome.through?_eq_some h
  exact congrArg Outcome.state? hrun

/-! ## Invariants -/

/-- **The action leads on**: from where `I` holds to where it holds again, unless it is refused.
Then `E` holds of the error and of what has been changed by then. -/
def Leads (I : σ → Prop) (E : ε → σ → Prop) (x : Action σ ε α) : Prop :=
  ∀ s, I s → (x.run s).Ends (fun _ s' => I s') E

/-- **The action keeps `I`**: from a state where `I` holds it only stops in such states, whether it
is done or refused. Where it is refused, `H` holds of the error. -/
def Keeps (I : σ → Prop) (H : ε → Prop) (x : Action σ ε α) : Prop :=
  x.Leads I fun e s => I s ∧ H e

variable {I : σ → Prop} {H : ε → Prop}

theorem Leads.bind {x : Action σ ε β} {f : β → Action σ ε α} (hx : x.Leads I E)
    (hf : ∀ b, (f b).Leads I E) : (x >>= f).Leads I E := by
  intro s hs
  rw [Action.ends_bind]
  apply (hx s hs).imp
  · intro b s' hs'
    exact hf b s' hs'
  · intro e s' h
    exact h

theorem Leads.pure (a : α) : (Pure.pure a : Action σ ε α).Leads I E := fun _ hs => hs

theorem Leads.read (f : σ → α) : (Action.read f : Action σ ε α).Leads I E := fun _ hs => hs

theorem Leads.require (p : Prop) [Decidable p] {e : ε} (he : ∀ s, I s → E e s) :
    (Action.require p e).Leads I E := by
  intro s hs
  rw [ends_require]
  exact ⟨fun _ => hs, fun _ => he s hs⟩

theorem Leads.ofExcept {x : Except ε α} (hx : ∀ e s, x = .error e → I s → E e s) :
    (Action.ofExcept x : Action σ ε α).Leads I E := by
  intro s hs
  rw [ends_ofExcept]
  exact ⟨fun _ _ => hs, fun e he => hx e s he hs⟩

theorem Leads.orRefuse {e : ε} (he : ∀ s, I s → E e s) (x : Option α) :
    (Action.orRefuse e x : Action σ ε α).Leads I E := by
  intro s hs
  rw [ends_orRefuse]
  exact ⟨fun _ _ => hs, fun _ => he s hs⟩

theorem Leads.ite {p : Prop} [Decidable p] {x y : Action σ ε α} (hx : p → x.Leads I E)
    (hy : ¬p → y.Leads I E) : (if p then x else y).Leads I E := by
  by_cases hp : p
  · rw [if_pos hp]
    exact hx hp
  · rw [if_neg hp]
    exact hy hp

theorem Keeps.after {x : Action σ ε α} {s s' : σ} (hx : x.Keeps I H) (hs : I s)
    (h : x.after s = some s') : I s' := by
  have hends : (x.run s).Ends (fun _ s' => I s') fun _ s' => I s' :=
    (hx s hs).imp (fun _ _ hs' => hs') fun _ _ hs' => hs'.1
  exact hends.state h

theorem Keeps.bind {x : Action σ ε β} {f : β → Action σ ε α} (hx : x.Keeps I H)
    (hf : ∀ b, (f b).Keeps I H) : (x >>= f).Keeps I H := Leads.bind hx hf

theorem Keeps.pure (a : α) : (Pure.pure a : Action σ ε α).Keeps I H := Leads.pure a

theorem Keeps.read (f : σ → α) : (Action.read f : Action σ ε α).Keeps I H := Leads.read f

theorem Keeps.ite {p : Prop} [Decidable p] {x y : Action σ ε α} (hx : p → x.Keeps I H)
    (hy : ¬p → y.Keeps I H) : (if p then x else y).Keeps I H := Leads.ite hx hy

theorem Keeps.require (p : Prop) [Decidable p] {e : ε} (he : H e) :
    (Action.require p e).Keeps I H := Leads.require p fun _ hs => ⟨hs, he⟩

theorem Keeps.ofExcept {x : Except ε α} (hx : ∀ e, x = .error e → H e) :
    (Action.ofExcept x : Action σ ε α).Keeps I H :=
  Leads.ofExcept fun e _ he hs => ⟨hs, hx e he⟩

theorem Keeps.orRefuse {e : ε} (he : H e) (x : Option α) :
    (Action.orRefuse e x : Action σ ε α).Keeps I H := Leads.orRefuse (fun _ hs => ⟨hs, he⟩) x

/-- **The action leads on and reaches `P`** where it is done. -/
def Reaches (I : σ → Prop) (E : ε → σ → Prop) (P : α → σ → Prop) (x : Action σ ε α) : Prop :=
  ∀ s, I s → (x.run s).Ends (fun a s' => I s' ∧ P a s') E

/-- **The action keeps `I` and attains `P`** where it is done. -/
def Attains (I : σ → Prop) (H : ε → Prop) (P : α → σ → Prop) (x : Action σ ε α) : Prop :=
  x.Reaches I (fun e s => I s ∧ H e) P

variable {P : α → σ → Prop} {G : β → Prop} {x : Action σ ε β} {f : β → Action σ ε α}

theorem Reaches.leads {y : Action σ ε α} (hy : y.Reaches I E P) : y.Leads I E := by
  intro s hs
  apply (hy s hs).imp
  · rintro a s' ⟨hs', -⟩
    exact hs'
  · intro e s' h
    exact h

/-- In a sequence, the rest may rely on what the first step says of its value. -/
theorem Reaches.bind (hx : x.Reaches I E fun b _ => G b)
    (hf : ∀ b, G b → (f b).Reaches I E P) : (x >>= f).Reaches I E P := by
  intro s hs
  rw [Action.ends_bind]
  apply (hx s hs).imp
  · rintro b s' ⟨hs', hb⟩
    exact hf b hb s' hs'
  · intro e s' h
    exact h

theorem Reaches.bind_leads (hx : x.Reaches I E fun b _ => G b)
    (hf : ∀ b, G b → (f b).Leads I E) : (x >>= f).Leads I E := by
  intro s hs
  rw [Action.ends_bind]
  apply (hx s hs).imp
  · rintro b s' ⟨hs', hb⟩
    exact hf b hb s' hs'
  · intro e s' h
    exact h

/-- A sequence reaches what its rest reaches. -/
theorem Leads.reaches (hx : x.Leads I E) (hf : ∀ b, (f b).Reaches I E P) :
    (x >>= f).Reaches I E P := by
  intro s hs
  rw [Action.ends_bind]
  apply (hx s hs).imp
  · intro b s' hs'
    exact hf b s' hs'
  · intro e s' h
    exact h

theorem Reaches.ite {p : Prop} [Decidable p] {y z : Action σ ε α}
    (hy : p → y.Reaches I E P) (hz : ¬p → z.Reaches I E P) :
    (if p then y else z).Reaches I E P := by
  by_cases hp : p
  · rw [if_pos hp]
    exact hy hp
  · rw [if_neg hp]
    exact hz hp

theorem Reaches.pure {a : α} (h : ∀ s, I s → P a s) :
    (Pure.pure a : Action σ ε α).Reaches I E P := fun s hs => ⟨hs, h s hs⟩

/-- What is required holds from there on. -/
theorem Reaches.require (p : Prop) [Decidable p] {e : ε} (he : ∀ s, I s → E e s) :
    (Action.require p e).Reaches I E fun _ _ => p := by
  intro s hs
  rw [ends_require]
  exact ⟨fun hp => ⟨hs, hp⟩, fun _ => he s hs⟩

theorem Attains.keeps {y : Action σ ε α} (hy : y.Attains I H P) : y.Keeps I H := Reaches.leads hy

theorem Attains.bind_keeps (hx : x.Attains I H fun b _ => G b)
    (hf : ∀ b, G b → (f b).Keeps I H) : (x >>= f).Keeps I H := Reaches.bind_leads hx hf

theorem Attains.require (p : Prop) [Decidable p] {e : ε} (he : H e) :
    (Action.require p e).Attains I H fun _ _ => p := Reaches.require p fun _ hs => ⟨hs, he⟩

/-! ## Actions that come to an end -/

/-- **The action finishes** from where `I` holds: it is not aborted, and where it is done, `I` still
holds. -/
def Finishes (I : σ → Prop) (x : Action σ ε α) : Prop :=
  ∀ s, I s → x.run s ≠ .aborted ∧ (x.run s).Ends (fun _ s' => I s') fun _ _ => True

theorem mapError_ne_aborted {f : ε → δ} {x : Action σ ε α} {s : σ} (h : x.run s ≠ .aborted) :
    (mapError f x).run s ≠ .aborted := by
  rw [run_mapError]
  cases hrun : x.run s with
  | done a s' => simp
  | refused e s' => simp
  | aborted => exact absurd hrun h

theorem within_ne_aborted {part : τ → σ} {put : τ → σ → τ} {x : Action σ ε α} {t : τ}
    (h : x.run (part t) ≠ .aborted) : (x.within part put).run t ≠ .aborted := by
  rw [run_within]
  cases hrun : x.run (part t) with
  | done a s' => simp
  | refused e s' => simp
  | aborted => exact absurd hrun h

theorem Finishes.bind {x : Action σ ε β} {f : β → Action σ ε α} (hx : x.Finishes I)
    (hf : ∀ b, (f b).Finishes I) : (x >>= f).Finishes I := by
  intro s hs
  obtain ⟨hne, hends⟩ := hx s hs
  constructor
  · rw [run_bind]
    cases hrun : x.run s with
    | done b s' =>
      have hs' : I s' := hends.done hrun
      exact (hf b s' hs').1
    | refused e s' => simp
    | aborted => exact absurd hrun hne
  · rw [Action.ends_bind]
    apply hends.imp
    · intro b s' hs'
      exact (hf b s' hs').2
    · intro e s' h
      exact h

theorem Finishes.pure (a : α) : (Pure.pure a : Action σ ε α).Finishes I := fun _ hs =>
  ⟨by simp, hs⟩

theorem Finishes.read (f : σ → α) : (Action.read f : Action σ ε α).Finishes I := fun _ hs =>
  ⟨by simp, hs⟩

theorem Finishes.modify {f : σ → σ} (hf : ∀ s, I s → I (f s)) :
    (Action.modify f : Action σ ε Unit).Finishes I := fun s hs => ⟨by simp, hf s hs⟩

theorem Finishes.ofExcept (x : Except ε α) : (Action.ofExcept x : Action σ ε α).Finishes I := by
  intro s hs
  cases x with
  | ok a => exact ⟨by simp, hs⟩
  | error e => exact ⟨by simp, trivial⟩

theorem Finishes.orRefuse (e : ε) (x : Option α) :
    (Action.orRefuse e x : Action σ ε α).Finishes I := by
  intro s hs
  cases x with
  | some a => exact ⟨by simp, hs⟩
  | none => exact ⟨by simp, trivial⟩

theorem Finishes.require (p : Prop) [Decidable p] (e : ε) :
    (Action.require p e).Finishes I := by
  intro s hs
  by_cases hp : p
  · rw [require_pos hp]
    exact ⟨by simp, hs⟩
  · rw [require_neg hp]
    exact ⟨by simp, trivial⟩

theorem Finishes.ite {p : Prop} [Decidable p] {x y : Action σ ε α} (hx : x.Finishes I)
    (hy : y.Finishes I) : (if p then x else y).Finishes I := by
  split
  · exact hx
  · exact hy

end Action

/-! ## Outcomes that succeed -/

namespace Outcome

variable {o : Outcome σ ε α} {P Q : α → σ → Prop} {E : ε → σ → Prop}

@[simp]
theorem succeeds_done {a : α} {s : σ} :
    (Outcome.done a s : Outcome σ ε α).Succeeds Q ↔ Q a s := Iff.rfl

@[simp]
theorem not_succeeds_refused {e : ε} {s : σ} :
    ¬(Outcome.refused e s : Outcome σ ε α).Succeeds Q := id

@[simp]
theorem not_succeeds_aborted : ¬(Outcome.aborted : Outcome σ ε α).Succeeds Q := id

theorem succeeds_iff : o.Succeeds Q ↔ ∃ a s, o = .done a s ∧ Q a s := by
  cases o with
  | done a s =>
    constructor
    · exact fun h => ⟨a, s, rfl, h⟩
    · rintro ⟨a', s', ho, h⟩
      cases ho
      exact h
  | refused e s => simp
  | aborted => simp

theorem Succeeds.imp (h : o.Succeeds P) (hQ : ∀ a s, P a s → Q a s) : o.Succeeds Q := by
  obtain ⟨a, s, rfl, ha⟩ := succeeds_iff.1 h
  exact hQ a s ha

/-- Of an outcome that succeeds everything holds that it yields. -/
theorem Succeeds.and_ends (h : o.Succeeds P) (hends : o.Ends Q E) :
    o.Succeeds fun a s => P a s ∧ Q a s := by
  obtain ⟨a, s, rfl, ha⟩ := succeeds_iff.1 h
  exact ⟨ha, hends⟩

/-- What is neither aborted nor refused succeeds. -/
theorem Ends.succeeds (h : o.Ends Q E) (hne : o ≠ .aborted) (hE : ∀ e s, ¬E e s) :
    o.Succeeds Q := by
  cases o with
  | done a s => exact h
  | refused e s => exact absurd h (hE e s)
  | aborted => exact absurd rfl hne

end Outcome

namespace Action

variable {Q : α → σ → Prop} {s : σ}

/-- After a step that is done, a sequence is what is left of it. -/
theorem run_bind_of_done {x : Action σ ε β} {f : β → Action σ ε α} {b : β} {s' : σ}
    (h : x.run s = .done b s') : (x >>= f).run s = (f b).run s' := by
  rw [run_bind, h]

/-- A sequence succeeds if its first step succeeds where the rest does. -/
@[simp]
theorem succeeds_bind {f : β → Action σ ε α} {x : Action σ ε β} :
    ((x >>= f).run s).Succeeds Q ↔
      (x.run s).Succeeds fun b s' => ((f b).run s').Succeeds Q := by
  rw [run_bind]
  cases x.run s <;> exact Iff.rfl

@[simp]
theorem succeeds_read {f : σ → α} :
    ((read f : Action σ ε α).run s).Succeeds Q ↔ Q (f s) s := Iff.rfl

@[simp]
theorem succeeds_modify {f : σ → σ} {Q : Unit → σ → Prop} :
    ((modify f : Action σ ε Unit).run s).Succeeds Q ↔ Q () (f s) := Iff.rfl

@[simp]
theorem succeeds_ite {p : Prop} [Decidable p] {x y : Action σ ε α} :
    ((if p then x else y).run s).Succeeds Q ↔
      (p → (x.run s).Succeeds Q) ∧ (¬p → (y.run s).Succeeds Q) := by
  by_cases h : p <;> simp [h]

@[simp]
theorem succeeds_require {p : Prop} [Decidable p] {e : ε} {Q : Unit → σ → Prop} :
    ((require p e).run s).Succeeds Q ↔ p ∧ Q () s := by
  by_cases h : p <;> simp [h]

@[simp]
theorem succeeds_ofExcept {x : Except ε α} :
    ((ofExcept x).run s).Succeeds Q ↔ ∃ a, x = .ok a ∧ Q a s := by
  cases x <;> simp

@[simp]
theorem succeeds_orRefuse {e : ε} {x : Option α} :
    ((orRefuse e x).run s).Succeeds Q ↔ ∃ a, x = some a ∧ Q a s := by
  cases x <;> simp

@[simp]
theorem succeeds_mapError {f : ε → δ} {x : Action σ ε α} :
    ((mapError f x).run s).Succeeds Q ↔ (x.run s).Succeeds Q := by
  rw [run_mapError]
  cases x.run s <;> exact Iff.rfl

@[simp]
theorem succeeds_within {part : τ → σ} {put : τ → σ → τ} {x : Action σ ε α} {t : τ}
    {Q : α → τ → Prop} :
    ((within part put x).run t).Succeeds Q ↔
      (x.run (part t)).Succeeds fun a s' => Q a (put t s') := by
  rw [run_within]
  cases x.run (part t) <;> exact Iff.rfl

end Action

/-! ## Two runs side by side -/

/-- **Two outcomes are alike**: both are done, with one value and in states that go together, or
both are refused, with one error. -/
inductive Outcome.Alike (Q : α → σ → σ → Prop) : Outcome σ ε α → Outcome σ ε α → Prop where
  | done {a : α} {s t : σ} (h : Q a s t) : Alike Q (.done a s) (.done a t)
  | refused (e : ε) (s t : σ) : Alike Q (.refused e s) (.refused e t)

theorem Outcome.Alike.and_yields {Q : α → σ → σ → Prop} {P : α → σ → Prop} {o o' : Outcome σ ε α}
    (h : o.Alike Q o') (hP : o.Yields P) : o.Alike (fun a s t => Q a s t ∧ P a s) o' := by
  cases h with
  | done h => exact .done ⟨h, hP⟩
  | refused e s t => exact .refused e s t

namespace Action

/-- **The action runs alike** on states that `R` relates, and where it is done, `R'` relates the
states after it. -/
def Relates (R R' : σ → σ → Prop) (x : Action σ ε α) : Prop :=
  ∀ s t, R s t → (x.run s).Alike (fun _ => R') (x.run t)

variable {R R' R'' : σ → σ → Prop} {s t : σ} {Q : α → σ → σ → Prop}

theorem alike_bind {x : Action σ ε β} {f : β → Action σ ε α} {P : β → σ → σ → Prop}
    (hx : (x.run s).Alike P (x.run t))
    (hf : ∀ b s' t', P b s' t' → ((f b).run s').Alike Q ((f b).run t')) :
    ((x >>= f).run s).Alike Q ((x >>= f).run t) := by
  rw [run_bind, run_bind]
  generalize x.run s = o at hx
  generalize x.run t = o' at hx
  cases hx with
  | done h => exact hf _ _ _ h
  | refused e s' t' => exact .refused e s' t'

/-- Steps that come to one and the same computation run alike. -/
theorem alike_of_except {x : Action σ ε α} {v : Except ε α} (hs : x.run s = (ofExcept v).run s)
    (ht : x.run t = (ofExcept v).run t) (hQ : ∀ a, v = .ok a → Q a s t) :
    (x.run s).Alike Q (x.run t) := by
  rw [hs, ht]
  cases v with
  | ok a => exact .done (hQ a rfl)
  | error e => exact .refused e s t

theorem Relates.bind {x : Action σ ε β} {f : β → Action σ ε α} (hx : x.Relates R R')
    (hf : ∀ b, (f b).Relates R' R'') : (x >>= f).Relates R R'' := by
  intro s t hst
  exact alike_bind (hx s t hst) fun b s' t' h => hf b s' t' h

theorem Relates.pure (a : α) : (Pure.pure a : Action σ ε α).Relates R R := fun _ _ hst => .done hst

theorem Relates.read {f : σ → α} (hf : ∀ s t, R s t → f s = f t) :
    (Action.read f : Action σ ε α).Relates R R := by
  intro s t hst
  rw [run_read, run_read, hf s t hst]
  exact .done hst

theorem Relates.modify {f : σ → σ} (hf : ∀ s t, R s t → R' (f s) (f t)) :
    (Action.modify f : Action σ ε Unit).Relates R R' := fun s t hst => .done (hf s t hst)

theorem Relates.ofExcept (v : Except ε α) : (Action.ofExcept v : Action σ ε α).Relates R R :=
  fun _ _ hst => alike_of_except rfl rfl fun _ _ => hst

theorem Relates.orRefuse (e : ε) (x : Option α) :
    (Action.orRefuse e x : Action σ ε α).Relates R R := by
  intro s t hst
  cases x with
  | some a => exact .done hst
  | none => exact .refused e s t

theorem Relates.require (p : Prop) [Decidable p] (e : ε) :
    (Action.require p e).Relates R R := by
  intro s t hst
  by_cases hp : p
  · rw [require_pos hp]
    exact .done hst
  · rw [require_neg hp]
    exact .refused e s t

theorem Relates.ite {p : Prop} [Decidable p] {x y : Action σ ε α} (hx : x.Relates R R')
    (hy : y.Relates R R') : (if p then x else y).Relates R R' := by
  split
  · exact hx
  · exact hy

theorem Relates.mapError {f : ε → δ} {x : Action σ ε α} (hx : x.Relates R R') :
    (Action.mapError f x).Relates R R' := by
  intro s t hst
  have h := hx s t hst
  rw [run_mapError, run_mapError]
  generalize x.run s = o at h
  generalize x.run t = o' at h
  cases h with
  | done h => exact .done h
  | refused e s' t' => exact .refused (f e) s' t'

theorem Relates.within {part : τ → σ} {put : τ → σ → τ} {x : Action σ ε α}
    {P P' : τ → τ → Prop} (hx : x.Relates R R') (hpart : ∀ u v, P u v → R (part u) (part v))
    (hput : ∀ u v s t, P u v → R' s t → P' (put u s) (put v t)) :
    (x.within part put).Relates P P' := by
  intro u v huv
  have h := hx _ _ (hpart u v huv)
  rw [run_within, run_within]
  generalize x.run (part u) = o at h
  generalize x.run (part v) = o' at h
  cases h with
  | done h => exact .done (hput u v _ _ huv h)
  | refused e s' t' => exact .refused e (put u s') (put v t')

end Action

end LeveredBasket
