/-
Steps on a state that can be refused half way.

An action reads and changes a state of type `σ`. It comes to one of three ends:
it is done, with a value; it is refused, with an error; or it is aborted. A
refusal keeps what the action had changed by then: the callers of the lending
pool see the state after a refused call, so that state is part of the outcome.
What undoes a refused call is a separate thing (a desk operation keeps the
state it started from). An abort ends the run: there is no state after it.

`Action` is a lawful monad, so a chain of checks and writes is written in `do`
notation and rearranged by the monad laws.
-/

set_option autoImplicit false

namespace LeveredBasket

/-- **What an action comes to.** -/
inductive Outcome (σ ε α : Type) where
  /-- It went through. -/
  | done (value : α) (state : σ)
  /-- It was refused; `state` is what it had reached. -/
  | refused (error : ε) (state : σ)
  /-- Arithmetic that must not overflow did. -/
  | aborted
deriving DecidableEq

/-- A step on a state of type `σ`, refused with errors of type `ε`. -/
def Action (σ ε α : Type) : Type := σ → Outcome σ ε α

namespace Action

variable {σ τ ε δ α β γ : Type}

/-- The outcome of the action from `s`. -/
def run (x : Action σ ε α) (s : σ) : Outcome σ ε α := x s

instance : Monad (Action σ ε) where
  pure a := fun s => .done a s
  bind x f := fun s =>
    match x s with
    | .done a s' => f a s'
    | .refused e s' => .refused e s'
    | .aborted => .aborted

@[simp]
theorem run_pure (a : α) (s : σ) : (pure a : Action σ ε α).run s = .done a s := rfl

/-- A sequence goes on from where its first step is done, and ends where that step ends it. -/
theorem run_bind (x : Action σ ε α) (f : α → Action σ ε β) (s : σ) :
    (x >>= f).run s =
      match x.run s with
      | .done a s' => (f a).run s'
      | .refused e s' => .refused e s'
      | .aborted => .aborted := rfl

theorem id_map_eq (x : Action σ ε α) : id <$> x = x := by
  funext s
  change (x >>= fun a => pure a).run s = x.run s
  rw [run_bind]
  cases x.run s <;> rfl

theorem bind_assoc_eq (x : Action σ ε α) (f : α → Action σ ε β) (g : β → Action σ ε γ) :
    (x >>= f) >>= g = x >>= fun a => f a >>= g := by
  funext s
  change ((x >>= f) >>= g).run s = (x >>= fun a => f a >>= g).run s
  simp only [run_bind]
  cases x.run s <;> rfl

instance : LawfulMonad (Action σ ε) :=
  LawfulMonad.mk' (Action σ ε) id_map_eq (fun _ _ => rfl) bind_assoc_eq

/-! ## Reading and writing -/

/-- What `f` reads off the state. -/
def read (f : σ → α) : Action σ ε α := fun s => .done (f s) s

/-- Changes the state by `f`. -/
def modify (f : σ → σ) : Action σ ε Unit := fun s => .done () (f s)

/-! ## Ending early -/

/-- Refuses with `e`. -/
def refuse (e : ε) : Action σ ε α := fun s => .refused e s

/-- Ends the run. -/
def abort : Action σ ε α := fun _ => .aborted

/-- Goes on only if `p` holds. -/
def require (p : Prop) [Decidable p] (e : ε) : Action σ ε Unit :=
  if p then pure () else refuse e

/-- The value of a computation, or its error as a refusal. -/
def ofExcept : Except ε α → Action σ ε α
  | .ok a => pure a
  | .error e => refuse e

/-- The value, if there is one; otherwise a refusal. -/
def orRefuse (e : ε) : Option α → Action σ ε α
  | some a => pure a
  | none => refuse e

/-- The value, if there is one; otherwise the end of the run. -/
def orAbort : Option α → Action σ ε α
  | some a => pure a
  | none => abort

/-! ## Within a larger state -/

/-- The same action, refused in other words. -/
def mapError (f : ε → δ) (x : Action σ ε α) : Action σ δ α := fun s =>
  match x s with
  | .done a s' => .done a s'
  | .refused e s' => .refused (f e) s'
  | .aborted => .aborted

/-- An action on one part of a larger state. -/
def within (part : τ → σ) (put : τ → σ → τ) (x : Action σ ε α) : Action τ ε α := fun t =>
  match x (part t) with
  | .done a s => .done a (put t s)
  | .refused e s => .refused e (put t s)
  | .aborted => .aborted

theorem run_mapError (f : ε → δ) (x : Action σ ε α) (s : σ) :
    (mapError f x).run s =
      match x.run s with
      | .done a s' => .done a s'
      | .refused e s' => .refused (f e) s'
      | .aborted => .aborted := rfl

theorem run_within (part : τ → σ) (put : τ → σ → τ) (x : Action σ ε α) (t : τ) :
    (x.within part put).run t =
      match x.run (part t) with
      | .done a s => .done a (put t s)
      | .refused e s => .refused e (put t s)
      | .aborted => .aborted := rfl

end Action

end LeveredBasket
